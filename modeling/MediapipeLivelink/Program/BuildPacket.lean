import MediapipeLivelink.Program.World
import MediapipeLivelink.LiveLink.Packet

namespace MediapipeLivelink

variable {cv : OpenCV}

/-- The body of the send loop, from `buffer_.clear()` to the last `ValueToBuffer`. -/
def buildPacket (uuid name : List Byte) : Exec Fault (World cv) Unit := do
  modify fun w => {w with buffer := []}
  writeValue (6 : Int32) false
  uuid.forM writeChar
  writeValue (Int32.ofNat name.length) true
  name.forM writeChar
  writeValue (0 : Int32) true
  writeValue (0 : Int32) true
  writeValue (60 : Int32) true
  writeValue (1 : Int32) true
  writeChar 0x3d
  resortIndex.toList.forM fun index => do
    writeValue (← readBlendShape index) true
  (List.range 10).forM fun _ => writeValue (⟨0⟩ : Binary32) true

def packetReads : List (Event cv) := resortIndex.toList.map .readBlendShape

theorem resortIndex_toList : resortIndex.toList=(List.finRange 51).map resortIndex.get := by
  decide

theorem writeBlendShapes_run (w : World cv) (list : BlendShapeList)
    (hl : w.blendShapeList=.live list) :
    (resortIndex.toList.forM fun index => do writeValue (← readBlendShape index) true) w=
      .ok ((),w.extend ((List.ofFn fun j => list (resort j)).flatMap
        (fun v => wireDigits true 4 v.bits.toNat)) packetReads) := by
  let F (js : List (Fin 51)) (w : World cv) : World cv :=
    w.extend (js.flatMap fun j => wireDigits true 4 (list (resort j)).bits.toNat)
      (js.map fun j => .readBlendShape (resortIndex.get j))
  let body (j : Fin 51) : Exec Fault (World cv) Unit := do
    writeValue (← readBlendShape (resortIndex.get j)) true
  have hcons (j : Fin 51) (js : List (Fin 51)) (w : World cv) : F (j::js) w=F js (F [j] w) := by
    simp only [F,World.extend_extend,List.flatMap_cons,List.flatMap_nil,List.append_nil,
      List.map_cons,List.map_nil,List.singleton_append]
  have hbody (j : Fin 51) (w : World cv) (hl : w.blendShapeList=.live list) :
      body j w=.ok ((),F [j] w) ∧ (F [j] w).blendShapeList=.live list := by
    refine ⟨?_,hl⟩
    simp only [body,Exec.bind_run]
    rw [readBlendShape_run w list hl j,Exec.ok_bind,writeValue_run,World.extend_extend]
    simp [F,Scalar.sizeof,Scalar.bits]
  have h := (Exec.forM_run F (fun w => w.blendShapeList=.live list) body
    (fun w => w.extend_nil) hcons (List.finRange 51) (fun j _ => hbody j) w hl).1
  have hmap : ((List.finRange 51).map resortIndex.get).forM
      (fun index => do writeValue (← readBlendShape index) true)=(List.finRange 51).forM body :=
    List.forM_map
  rw [resortIndex_toList,hmap,h,packetReads,resortIndex_toList,List.map_map,List.ofFn_eq_map,
    List.flatMap_map]
  rfl

theorem writeZeros_run (n : Nat) (w : World cv) :
    ((List.range n).forM fun _ => writeValue (⟨0⟩ : Binary32) true) w=
      .ok ((),w.extend ((List.replicate n (⟨0⟩ : Binary32)).flatMap
        (fun v => wireDigits true 4 v.bits.toNat)) []) := by
  let F (is : List Nat) (w : World cv) : World cv :=
    w.extend ((List.replicate is.length (⟨0⟩ : Binary32)).flatMap
      (fun v => wireDigits true 4 v.bits.toNat)) []
  have hcons (i : Nat) (is : List Nat) (w : World cv) : F (i::is) w=F is (F [i] w) := by
    simp only [F,World.extend_extend,List.length_cons,List.length_nil,List.replicate_succ,
      List.replicate_zero,List.flatMap_cons,List.flatMap_nil,List.append_nil]
  have hbody (i : Nat) (w : World cv) :
      writeValue (⟨0⟩ : Binary32) true w=.ok ((),F [i] w) ∧ True := by
    refine ⟨?_,trivial⟩
    rw [writeValue_run]
    simp [F,Scalar.sizeof,Scalar.bits]
  have h := (Exec.forM_run F (fun _ => True) (fun _ => writeValue (⟨0⟩ : Binary32) true)
    (fun w => w.extend_nil) hcons (List.range n) (fun i _ w _ => hbody i w) w trivial).1
  simpa only [F,List.length_range] using h

/-- The pass writes the packet of the current array, whatever the buffer held before. -/
theorem buildPacket_run (uuid : List.Vector Byte 37)
    (name : {name : List Byte // name.length<2^31}) (list : BlendShapeList) (w : World cv)
    (hl : w.blendShapeList=.live list) :
    buildPacket uuid.1 name.1 w=.ok ((),
      {w with
        buffer := LiveLinkPacket.format.encode (.ofBlendShapes uuid name list)
        trace := w.trace++packetReads}) := by
  rw [buildPacket]
  simp only [Exec.bind_run,Exec.modify_run,Exec.ok_bind,writeValue_run,writeChars_run,
    writeChar_run,writeZeros_run,World.extend_extend]
  rw [writeBlendShapes_run _ list,Exec.ok_bind,World.extend_extend,LiveLinkPacket.format_encode]
  · simp [World.extend,LiveLinkPacket.ofBlendShapes,LiveLinkPacket.slots,Scalar.sizeof,Scalar.bits]
  · exact hl

/-- What the grammar's reader gets from a packet, and when two packets are the same bytes. -/
theorem packet_uniquely_decodable (uuid uuid' : List.Vector Byte 37)
    (name name' : {name : List Byte // name.length<2^31}) (a b : BlendShapeList)
    (w w' : World cv) :
    Returns (buildPacket uuid.1 name.1 {w with blendShapeList := .live a}) fun r =>
      (∃p,LiveLinkPacket.read r.2.buffer=some (p,[]) ∧ p.version=6 ∧ p.uuid=uuid ∧ p.name=name ∧
        p.header.1=[0,0,60,1] ∧ p.blendShapes.1.length=61 ∧
        (∀j : Fin 51,p.blendShapes.1[j.1]?=some (a (resort j))) ∧
        ∀j,51≤j → j<61 → p.blendShapes.1[j]?=some ⟨0⟩) ∧
      Returns (buildPacket uuid'.1 name'.1 {w' with blendShapeList := .live b}) fun r' =>
        r.2.buffer=r'.2.buffer ↔
          uuid=uuid' ∧ name=name' ∧ ∀i : Fin blendShapeSize,1 ≤ i.1 → a i=b i := by
  refine ⟨_,buildPacket_run uuid name a {w with blendShapeList := .live a} rfl,?_,
    _,buildPacket_run uuid' name' b {w' with blendShapeList := .live b} rfl,?_⟩
  · refine ⟨.ofBlendShapes uuid name a,LiveLinkPacket.format.decode_exact _,rfl,rfl,rfl,rfl,
      LiveLinkPacket.slots_length a,LiveLinkPacket.slots_used a,?_⟩
    intro j hl hu
    exact LiveLinkPacket.slots_padding a j hl hu
  · have h := LiveLinkPacket.format.encode_inj (.ofBlendShapes uuid name a)
      (.ofBlendShapes uuid' name' b)
    exact h.trans (LiveLinkPacket.ofBlendShapes_inj uuid uuid' name name' a b)

end MediapipeLivelink
