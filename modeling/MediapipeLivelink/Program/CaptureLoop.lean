import MediapipeLivelink.Program.BuildPacket

namespace MediapipeLivelink

variable {cv : OpenCV}

/-- The characters of an ASCII literal. -/
def chars (s : String) : List Byte := s.toList.map (fun c => BitVec.ofNat 8 c.toNat)

def uuid : List.Vector Byte 37 := ⟨chars "$fcaf7061-2964-459b-87a9-ad78290e21e6",by decide⟩

def name : {name : List Byte // name.length<2^31} := ⟨chars "liuyulvv",by decide⟩

def serverEndpoint : Endpoint := ⟨"127.0.0.1",11111⟩

def isCamera : Bool := true

def sendPass : Exec Fault (World cv) Unit := do
  buildPacket uuid.1 name.1
  emit (.sendTo (← get).buffer serverEndpoint)

/-- `for (int i = 0; i < blend_shape_size; ++i)`; the body does not read `i`. -/
def sendLoop : Exec Fault (World cv) Unit :=
  (List.range blendShapeSize).forM fun _ => sendPass

def pressed (key : Int) : Bool := decide (key≥0) && key != 255

/-- The body of `while (grab_frame)`. -/
def captureIteration (env : Env cv) : Exec Fault (World cv) Control := do
  captureFrame env
  if isCamera then
    modify fun w => {w with cameraBgrFrame := cv.flip w.cameraBgrFrame 1}
  if cv.empty (← get).cameraBgrFrame then
    return .leave
  let cameraRgbFrame := cv.cvtColor (← get).cameraBgrFrame .bgr2rgb
  emit (.faceBlendShapeProcess cameraRgbFrame)
  getFaceBlendShapeOutput env blendShapeSize
  if blendShapeSize != 0 && (← get).blendShapeList.nonNull then
    sendLoop
  emit (.imshow "camera" (← get).cameraBgrFrame)
  let pressedKey ← waitKey env 30
  if pressed pressedKey then
    modify fun w => {w with grabFrame := false}
  return .next

def captureLoop (env : Env cv) (n : Nat) : Exec Fault (World cv) Control :=
  Exec.whileLoop World.grabFrame (captureIteration env) n

/-- The datagram the program sends for one array. -/
def packet (list : BlendShapeList) : Buffer :=
  LiveLinkPacket.format.encode (.ofBlendShapes uuid name list)

theorem packet_length (list : BlendShapeList) : (packet list).length=314 := by
  have hn : name.1.length=8 := by decide
  rw [packet,LiveLinkPacket.ofBlendShapes_encode_length,hn]

theorem packet_inj (a b : BlendShapeList) :
    packet a=packet b ↔ ∀i : Fin blendShapeSize,1 ≤ i.1 → a i=b i := by
  rw [packet,packet,Format.encode_inj,LiveLinkPacket.ofBlendShapes_inj]
  simp

def passEvents (list : BlendShapeList) : List (Event cv) :=
  packetReads++[.sendTo (packet list) serverEndpoint]

theorem sendPass_run (list : BlendShapeList) (w : World cv) (hl : w.blendShapeList=.live list) :
    sendPass w=.ok ((),{w with buffer := packet list,trace := w.trace++passEvents list}) := by
  rw [sendPass,Exec.bind_run,buildPacket_run uuid name list w hl,Exec.ok_bind]
  simp only [Exec.bind_run,Exec.get_run,Exec.ok_bind,emit_run,passEvents,packet,List.append_assoc]

/-- Every pass sends one datagram, and all passes send the same. -/
theorem sendLoop_run (list : BlendShapeList) (w : World cv) (hl : w.blendShapeList=.live list) :
    sendLoop w=.ok ((),
      {w with
        buffer := packet list
        trace := w.trace++(List.replicate blendShapeSize (passEvents list)).flatten}) := by
  let F (is : List Nat) (w : World cv) : World cv :=
    {w with
      buffer := if is=[] then w.buffer else packet list
      trace := w.trace++(List.replicate is.length (passEvents list)).flatten}
  have hnil (w : World cv) : F [] w=w := by simp [F]
  have hcons (i : Nat) (is : List Nat) (w : World cv) : F (i::is) w=F is (F [i] w) := by
    simp [F,List.replicate_succ]
  have hbody (i : Nat) (w : World cv) (hl : w.blendShapeList=.live list) :
      sendPass w=.ok ((),F [i] w) ∧ (F [i] w).blendShapeList=.live list := by
    refine ⟨?_,hl⟩
    rw [sendPass_run list w hl]
    simp [F]
  have h := (Exec.forM_run F (fun w => w.blendShapeList=.live list) (fun _ => sendPass) hnil hcons
    (List.range blendShapeSize) (fun i _ => hbody i) w hl).1
  have hne : List.range blendShapeSize≠[] := by decide
  rw [sendLoop,h]
  simp only [F,if_neg hne,List.length_range]

/-- What an iteration adds to the trace after `capture >> camera_bgr_frame`
when the frame is not empty. -/
def frameEvents (frame : cv.Mat) (after : BlendShapeList) : List (Event cv) :=
  [.faceBlendShapeProcess (cv.cvtColor (cv.flip frame 1) .bgr2rgb),.getFaceBlendShapeOutput after]++
    (List.replicate blendShapeSize (passEvents after)).flatten++
    [.imshow "camera" (cv.flip frame 1),.waitKey 30]

/-- An observer that does not see the reads of the array sees the datagrams of the passes. -/
theorem passEvents_filterMap {δ : Type} (f : Event cv → Option δ)
    (hr : ∀index,f (.readBlendShape index)=none) (list : BlendShapeList) (n : Nat) :
    (List.replicate n (passEvents list)).flatten.filterMap f=
      (List.replicate n (f (.sendTo (packet list) serverEndpoint)).toList).flatten := by
  have hp : packetReads.filterMap f=[] := by
    rw [packetReads,List.filterMap_map]
    apply List.filterMap_eq_nil_iff.mpr
    intro index _
    exact hr index
  have hs : (passEvents list).filterMap f=(f (.sendTo (packet list) serverEndpoint)).toList := by
    rw [passEvents,List.filterMap_append,hp,List.nil_append]
    cases hf : f (.sendTo (packet list) serverEndpoint) <;> simp [hf]
  rw [List.filterMap_flatten,List.map_replicate,hs]

theorem frameEvents_filterMap {δ : Type} (f : Event cv → Option δ) (frame : cv.Mat)
    (after : BlendShapeList) : (.capture frame::frameEvents frame after).filterMap f=
      [.capture frame,.faceBlendShapeProcess (cv.cvtColor (cv.flip frame 1) .bgr2rgb),
        .getFaceBlendShapeOutput after].filterMap f++
      (List.replicate blendShapeSize (passEvents after)).flatten.filterMap f++
      [.imshow "camera" (cv.flip frame 1),.waitKey 30].filterMap f := by
  rw [← List.filterMap_append,← List.filterMap_append]
  rfl

def afterFrame (env : Env cv) (list : BlendShapeList) (w : World cv) : World cv where
  blendShapeList := .live (overwrite blendShapeSize (env.output w.outputs) list)
  cameraBgrFrame := cv.flip (env.frame w.captures) 1
  grabFrame := w.grabFrame && !pressed (env.key w.keys)
  buffer := packet (overwrite blendShapeSize (env.output w.outputs) list)
  captures := w.captures+1
  outputs := w.outputs+1
  keys := w.keys+1
  trace := w.trace++.capture (env.frame w.captures)::
    frameEvents (env.frame w.captures) (overwrite blendShapeSize (env.output w.outputs) list)

/-- The world after an iteration that found the camera's stream at its end. -/
def afterStream (env : Env cv) (w : World cv) : World cv :=
  {w with
    cameraBgrFrame := cv.flip (env.frame w.captures) 1
    captures := w.captures+1
    trace := w.trace++[.capture (env.frame w.captures)]}

theorem captureIteration_empty (env : Env cv) (w : World cv)
    (he : cv.empty (env.frame w.captures)=true) :
    captureIteration env w=.ok (.leave,afterStream env w) := by
  simp only [captureIteration,Exec.bind_run,captureFrame_run,Exec.ok_bind,isCamera,if_true,
    Exec.modify_run,Exec.get_run,cv.flip_empty,he,Exec.pure_run,afterStream]

theorem captureIteration_frame (env : Env cv) (w : World cv) (list : BlendShapeList)
    (hl : w.blendShapeList=.live list) (he : cv.empty (env.frame w.captures)=false) :
    captureIteration env w=.ok (.next,afterFrame env list w) := by
  have hg : (blendShapeSize != 0)=true := rfl
  simp only [captureIteration,Exec.bind_run,captureFrame_run,Exec.ok_bind,isCamera,if_true,
    Exec.modify_run,Exec.get_run,cv.flip_empty,he,Bool.false_eq_true,if_false,emit_run]
  rw [getFaceBlendShapeOutput_run env _ list]
  · simp only [Exec.ok_bind,hg,Block.nonNull,Bool.and_self,if_true]
    rw [Exec.bind_run,sendLoop_run (overwrite blendShapeSize (env.output w.outputs) list)]
    · simp only [Exec.ok_bind,Exec.bind_run,Exec.get_run,emit_run,waitKey_run]
      cases hk : pressed (env.key w.keys)
      · simp [Exec.pure_run,afterFrame,frameEvents,hk]
      · simp [Exec.pure_run,Exec.bind_run,Exec.modify_run,afterFrame,frameEvents,hk,Exec.ok_bind]
    · rfl
  · exact hl

end MediapipeLivelink
