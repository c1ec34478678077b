import MediapipeLivelink.Framework.Chunks
import MediapipeLivelink.Transmission.Heap

namespace MediapipeLivelink

variable {cv : OpenCV}

/-- What the first `k` calls of `GetFaceBlendShapeOutput` write to entry `i`, call after call. -/
def written (env : Env cv) (k : Nat) (i : Fin blendShapeSize) : List Binary32 :=
  (List.range k).filterMap fun c => env.output c i

/-- An entry holds what was written last, or else what it held at first. -/
theorem listAfter_written (env : Env cv) (heap : BlendShapeList) (k : Nat)
    (i : Fin blendShapeSize) : listAfter env heap k i=(written env k i).getLast?.getD (heap i) := by
  induction k with
  | zero => rfl
  | succ k ih =>
    have hi := i.2
    have hw : written env (k+1) i=written env k i++(env.output k i).toList := by
      rw [written,List.range_succ,List.filterMap_append,written]
      cases hv : env.output k i <;> simp [hv]
    rw [listAfter,hw]
    cases hv : env.output k i with
    | none => simp [overwrite,hv,ih]
    | some v => simp [overwrite,hv,hi]

theorem lt_processed_iff (env : Env cv) (k n : Nat) : k<processed env n ↔
    k<n ∧ alive env k=true ∧ cv.empty (env.frame k)=false := by
  induction n with
  | zero => simp [processed]
  | succ n ih =>
    by_cases hf : alive env n=true ∧ cv.empty (env.frame n)=false
    · rw [processed_frame env n hf.1 hf.2]
      have ha := (alive_iff env n).mp hf.1
      constructor
      · intro h
        refine ⟨h,(alive_iff env k).mpr fun j hj => ha j (by omega),?_⟩
        by_cases hk : k=n
        · exact hk ▸ hf.2
        · exact (ha k (by omega)).1
      · exact fun h => h.1
    · have hs : alive env n=false ∨ cv.empty (env.frame n)=true := by
        cases ha : alive env n <;> simp_all
      rw [(processed_stop env n hs).1,ih]
      constructor
      · exact fun h => ⟨by omega,h.2⟩
      · intro h
        have hk : k≠n := fun he => hf (he ▸ h.2)
        exact ⟨by omega,h.2⟩

/-- The program gets to frame `k` within `n` rounds. -/
def ReachesFrame (env : Env cv) (n k : Nat) : Prop :=
  env.isOpened=true ∧ k<n ∧ cv.empty (env.frame k)=false ∧
    ∀j<k,cv.empty (env.frame j)=false ∧ pressed (env.key j)=false

theorem lt_frameCount_iff (env : Env cv) (n k : Nat) :
    k<frameCount env n ↔ ReachesFrame env n k := by
  rw [frameCount,ReachesFrame,← alive_iff]
  cases env.isOpened with
  | false => simp
  | true =>
    simp only [if_true,lt_processed_iff,true_and]
    exact and_congr_right fun _ => and_comm

theorem transmitted_getElem? (env : Env cv) (heap : BlendShapeList) (n i : Nat) (d : Buffer) :
    (transmitted env heap (frameCount env n))[i]?=some d ↔
      ReachesFrame env n (i/blendShapeSize) ∧ d=packet (listAfter env heap (i/blendShapeSize+1)) := by
  have hn : 0 < blendShapeSize := by decide
  have hm : i%blendShapeSize<blendShapeSize := Nat.mod_lt i hn
  rw [← lt_frameCount_iff,transmitted,
    chunks_getElem? _ blendShapeSize (fun _ => List.length_replicate) hn,faces,List.getElem?_map]
  by_cases hk : i/blendShapeSize<frameCount env n
  · simp [hk,hm,eq_comm]
  · simp [hk]

/-- Datagram `i` of a run is there when the program gets to frame `i/52`, and it is the packet
of what was written last to each entry by then. -/
theorem run_datagram_iff (env : Env cv) (heap : BlendShapeList) (n : Nat) :
    Returns (run env heap n) fun r => ∀i d,(datagrams r.2.trace)[i]?=some d ↔
      ReachesFrame env n (i/blendShapeSize) ∧ d=packet fun entry =>
        (written env (i/blendShapeSize+1) entry).getLast?.getD (heap entry) := by
  apply (run_transmits env heap n).mono
  intro r hr i d
  rw [hr.2.1,transmitted_getElem?]
  simp only [← listAfter_written]

/-- The bytes of a packet up to the count, which are the same in all packets. -/
def packetHead : Buffer :=
  wireDigits false 4 6++uuid.1++wireDigits true 4 name.1.length++name.1++
    [0,0,60,1].flatMap (wireDigits true 4)++[0x3d]

def slotBytes (v : Binary32) : Buffer := wireDigits true 4 v.bits.toNat

theorem slotBytes_length (v : Binary32) : (slotBytes v).length=4 := wireDigits_length true 4 _

theorem packet_eq (list : BlendShapeList) :
    packet list=packetHead++(LiveLinkPacket.slots list).flatMap slotBytes := by
  have hl : (LiveLinkPacket.ofBlendShapes uuid name list).blendShapes.1.length=61 :=
    LiveLinkPacket.slots_length list
  rw [packet,LiveLinkPacket.format_encode,hl]
  rfl

theorem packet_getElem? (list : BlendShapeList) (p : Nat) : (packet list)[p]?=
    if p<70 then packetHead[p]? else
      (LiveLinkPacket.slots list)[(p-70)/4]?.bind fun v => (slotBytes v)[(p-70)%4]? := by
  have hh : packetHead.length=70 := by decide
  rw [packet_eq]
  split
  · rw [List.getElem?_append_left (by omega)]
  · rw [List.getElem?_append_right (by omega),hh,
      chunks_getElem? slotBytes 4 slotBytes_length (by omega)]

/-- Every byte of the one pattern differs from the same byte of the other. -/
theorem slotBytes_differ (r : Nat) (hr : r<4) :
    (slotBytes ⟨0⟩)[r]?≠(slotBytes ⟨0xffffffff⟩)[r]? := by
  have h : ∀r : Fin 4,(slotBytes ⟨0⟩)[r.1]?≠(slotBytes ⟨0xffffffff⟩)[r.1]? := by decide
  exact h ⟨r,hr⟩

/-- Byte `p` belongs to a slot whose entry has not been written by the first `k` calls. -/
def Stale (env : Env cv) (k p : Nat) : Prop :=
  ∃j : Fin 51,70+4*j.1≤p ∧ p<74+4*j.1 ∧ ∀c<k,env.output c (resort j)=none

theorem listAfter_stale (env : Env cv) (heap : BlendShapeList) (k : Nat)
    (i : Fin blendShapeSize) (h : ∀c<k,env.output c i=none) : listAfter env heap k i=heap i := by
  have hw : written env k i=[] := by
    rw [written,List.filterMap_eq_nil_iff]
    intro c hc
    exact h c (List.mem_range.mp hc)
  rw [listAfter_written,hw]
  rfl

/-- A byte of a packet depends on what the heap held exactly when it is stale. -/
theorem byte_exposed_iff (env : Env cv) (k p : Nat) :
    (∃heap heap',(packet (listAfter env heap k))[p]?≠(packet (listAfter env heap' k))[p]?) ↔
      Stale env k p := by
  constructor
  · intro h
    obtain ⟨heap,heap',h⟩ := h
    rw [packet_getElem?,packet_getElem?] at h
    by_cases hp : p<70
    · simp [hp] at h
    · simp only [if_neg hp] at h
      by_cases hj : (p-70)/4<51
      · let j : Fin 51 := ⟨(p-70)/4,hj⟩
        have hs (list : BlendShapeList) :
            (LiveLinkPacket.slots list)[(p-70)/4]?=some (list (resort j)) :=
          LiveLinkPacket.slots_used list j
        rw [hs,hs] at h
        refine ⟨j,?_,?_,?_⟩
        · change 70+4*((p-70)/4)≤p
          omega
        · change p<74+4*((p-70)/4)
          omega
        · intro c hc
          by_contra ho
          have he := (listAfter_eq_iff env heap heap' k (resort j)).mpr
            (.inr ⟨c,hc,Option.isSome_iff_ne_none.mpr ho⟩)
          rw [he] at h
          exact h rfl
      · have hs (list : BlendShapeList) : (LiveLinkPacket.slots list)[(p-70)/4]?=
            if (p-70)/4<61 then some ⟨0⟩ else none := by
          split
          · exact LiveLinkPacket.slots_padding list _ (by omega) (by assumption)
          · rw [List.getElem?_eq_none_iff,LiveLinkPacket.slots_length]
            omega
        rw [hs,hs] at h
        exact absurd rfl h
  · intro h
    obtain ⟨j,hl,hu,hn⟩ := h
    refine ⟨fun _ => ⟨0⟩,fun _ => ⟨0xffffffff⟩,?_⟩
    have hp : ¬p<70 := by omega
    have hj : (p-70)/4=j.1 := by omega
    have hs (list : BlendShapeList) :
        (LiveLinkPacket.slots list)[j.1]?=some (list (resort j)) :=
      LiveLinkPacket.slots_used list j
    rw [packet_getElem?,packet_getElem?,if_neg hp,if_neg hp,hj,hs,hs,listAfter_stale _ _ _ _ hn,
      listAfter_stale _ _ _ _ hn]
    exact slotBytes_differ _ (by omega)

/-- Byte `p` of datagram `i` of a run. -/
def datagramByte (t : List (Event cv)) (i p : Nat) : Option Byte :=
  (datagrams t)[i]?.bind fun d => d[p]?

/-- Which bytes tell the heap's old contents, over all runs: those of the slots, in the datagrams
that are sent, whose entries `GetFaceBlendShapeOutput` has not written by then. -/
theorem run_exposed_iff (env : Env cv) (n i p : Nat) :
    (∃heap heap',¬Returns (run env heap n) fun r => Returns (run env heap' n) fun r' =>
      datagramByte r.2.trace i p=datagramByte r'.2.trace i p) ↔
      ReachesFrame env n (i/blendShapeSize) ∧ Stale env (i/blendShapeSize+1) p := by
  let byte (heap : BlendShapeList) : Option Byte :=
    (transmitted env heap (frameCount env n))[i]?.bind fun d => d[p]?
  have hbyte (heap : BlendShapeList) :
      Returns (run env heap n) fun r => datagramByte r.2.trace i p=byte heap := by
    apply (run_transmits env heap n).mono
    intro r hr
    rw [datagramByte,hr.2.1]
  have hpair (heap heap' : BlendShapeList) : (Returns (run env heap n) fun r =>
      Returns (run env heap' n) fun r' =>
        datagramByte r.2.trace i p=datagramByte r'.2.trace i p) ↔ byte heap=byte heap' := by
    obtain ⟨r,hr,hb⟩ := hbyte heap
    obtain ⟨r',hr',hb'⟩ := hbyte heap'
    rw [← hb,← hb']
    constructor
    · intro h
      exact (h.apply hr).apply hr'
    · intro h
      exact ⟨r,hr,r',hr',h⟩
  have hd (heap : BlendShapeList) := transmitted_getElem? env heap n i
  rw [← byte_exposed_iff]
  simp only [hpair]
  by_cases hf : ReachesFrame env n (i/blendShapeSize)
  · have hb (heap : BlendShapeList) :
        byte heap=(packet (listAfter env heap (i/blendShapeSize+1)))[p]? := by
      simp only [byte,(hd heap _).mpr ⟨hf,rfl⟩,Option.bind_some]
    simp only [hb,hf,true_and,ne_eq]
  · have hb (heap : BlendShapeList) : byte heap=none := by
      have hn : (transmitted env heap (frameCount env n))[i]?=none := by
        by_contra hs
        obtain ⟨d,he⟩ := Option.ne_none_iff_exists'.mp hs
        exact hf ((hd heap d).mp he).1
      simp only [byte,hn,Option.bind_none]
    simp only [hb,hf,not_true_eq_false,exists_false,false_and]

/-- Two environments that differ at most in the platform, the pictures, and which keys are pressed
that do not stop the program or do. -/
structure SameOnWire {cv cv' : OpenCV} (env : Env cv) (env' : Env cv') : Prop where
  isOpened : env.isOpened=env'.isOpened
  empty : ∀k,cv.empty (env.frame k)=cv'.empty (env'.frame k)
  pressed : ∀k,pressed (env.key k)=pressed (env'.key k)
  output : env.output=env'.output

section SameOnWire

variable {cv' : OpenCV} {env : Env cv} {env' : Env cv'} (h : SameOnWire env env')

include h

theorem SameOnWire.alive (n : Nat) : alive env n=alive env' n := by
  induction n with
  | zero => rfl
  | succ n ih => simp only [MediapipeLivelink.alive,ih,h.empty,h.pressed]

theorem SameOnWire.processed (n : Nat) : processed env n=processed env' n := by
  induction n with
  | zero => rfl
  | succ n ih => simp only [MediapipeLivelink.processed,ih,h.alive,h.empty]

theorem SameOnWire.listAfter (heap : BlendShapeList) (k : Nat) :
    listAfter env heap k=listAfter env' heap k := by
  induction k with
  | zero => rfl
  | succ k ih => simp only [MediapipeLivelink.listAfter,ih,h.output]

/-- Where the array holds the same at the start, what is sent and the exit code depend on the frames
only by which of them is empty, and on the keys only by which of them stops the program. -/
theorem run_same_on_wire (heap : BlendShapeList) (n : Nat) :
    Returns (run env heap n) fun r => Returns (run env' heap n) fun r' =>
      r.1=r'.1 ∧ datagrams r.2.trace=datagrams r'.2.trace := by
  obtain ⟨r,hr,hc,hd,-⟩ := run_transmits env heap n
  obtain ⟨r',hr',hc',hd',-⟩ := run_transmits env' heap n
  refine ⟨r,hr,r',hr',?_,?_⟩
  · rw [hc,hc',exitCode,exitCode,h.isOpened,h.processed]
  · rw [hd,hd',transmitted,transmitted,faces,faces,frameCount,frameCount,h.isOpened,h.processed]
    simp only [h.listAfter]

end SameOnWire

/-- On another platform another picture, and keys that `waitKey` does not report. -/
def Env.facelessWindows : Env .sizes :=
  ⟨true,true,fun k => if k=0 then (1,1) else (0,7),fun _ _ => none,fun _ => 255⟩

theorem same_on_wire_windows : Returns (run (.faceless true 1) (fun _ => ⟨0⟩) 2) fun r =>
    Returns (run .facelessWindows (fun _ => ⟨0⟩) 2) fun r' =>
      r.1=r'.1 ∧ datagrams r.2.trace=datagrams r'.2.trace := by
  apply run_same_on_wire
  constructor
  · rfl
  · intro k
    by_cases hk : k=0 <;> simp [Env.faceless,Env.facelessWindows,OpenCV.sizes,hk]
  · exact fun _ => rfl
  · rfl

end MediapipeLivelink
