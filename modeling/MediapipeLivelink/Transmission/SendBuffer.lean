import MediapipeLivelink.Framework.Monitor
import MediapipeLivelink.Transmission.Refinement

namespace MediapipeLivelink

variable {cv : OpenCV}

/-- The array an iteration encodes: none until `GetFaceBlendShapeOutput` has returned. -/
def Event.encoded : Option BlendShapeList → Event cv → Option BlendShapeList
  | _,.capture _ => none
  | _,.getFaceBlendShapeOutput after => some after
  | array,_ => array

/-- One call of `GetFaceBlendShapeOutput` in an iteration, and after it only the packet
of what it left in the array. -/
def encoder (cv : OpenCV) : Monitor (Event cv) (Option BlendShapeList) where
  next := Event.encoded
  allowed
    | array,.getFaceBlendShapeOutput _ => array=none
    | array,.sendTo datagram _ => ∃list,array=some list ∧ datagram=packet list
    | _,_ => True

/-- The contents of `blend_shape_list` right after the call of `GetFaceBlendShapeOutput`
in the iteration that the trace ends in. -/
def currentArray (t : List (Event cv)) : Option BlendShapeList := t.foldl Event.encoded none

/-- A run sends `datagram` when the events `before` have happened. -/
def SentAfter (t before : List (Event cv)) (datagram : Buffer) : Prop :=
  ∃endpoint later,t=before++.sendTo datagram endpoint::later

theorem sentAfter_of_mem {t : List (Event cv)} {d : Buffer} (h : d∈datagrams t) :
    ∃a,SentAfter t a d := by
  obtain ⟨e,he,hd⟩ := List.mem_filterMap.mp h
  obtain ⟨a,later,ht⟩ := List.append_of_mem he
  cases e with
  | sendTo datagram endpoint =>
    cases hd
    exact ⟨a,endpoint,later,ht⟩
  | _ => cases hd

theorem passes_encoded (list : BlendShapeList) (n : Nat) :
    (encoder cv).Leads (some list) (List.replicate n (passEvents list)).flatten (some list) := by
  apply Monitor.stays
  intro e he
  obtain ⟨pass,hp,he⟩ := List.mem_flatten.mp he
  rw [List.eq_of_mem_replicate hp,passEvents,List.mem_append] at he
  cases he with
  | inl hr =>
    obtain ⟨index,-,hi⟩ := List.mem_map.mp hr
    rw [← hi]
    exact ⟨trivial,rfl⟩
  | inr hs =>
    rw [List.mem_singleton.mp hs]
    exact ⟨⟨list,rfl,rfl⟩,rfl⟩

theorem frameEvents_encoded (array : Option BlendShapeList) (frame : cv.Mat)
    (after : BlendShapeList) :
    (encoder cv).Leads array (.capture frame::frameEvents frame after) (some after) := by
  have hstart : (encoder cv).Leads array
      [.capture frame,.faceBlendShapeProcess (cv.cvtColor (cv.flip frame 1) .bgr2rgb),
        .getFaceBlendShapeOutput after] (some after) := ⟨⟨trivial,trivial,rfl,trivial⟩,rfl⟩
  have hend : (encoder cv).Leads (some after)
      [.imshow "camera" (cv.flip frame 1),.waitKey 30] (some after) :=
    ⟨⟨trivial,trivial,trivial⟩,rfl⟩
  exact (hstart.append (passes_encoded after blendShapeSize)).append hend

theorem captureLoop_encoded (env : Env cv) (heap : BlendShapeList) (n : Nat) :
    Returns (captureLoop env n (loopEntry env heap)) fun r =>
      (encoder cv).Accepts none r.2.trace := by
  apply (captureLoop_trace env heap ((encoder cv).Accepts none) _ _ _ n).mono
  · intro r h
    exact h.1
  · exact ⟨trivial,trivial,trivial,trivial,trivial,trivial,trivial,trivial,trivial⟩
  · intro t frame after ht
    exact ((encoder cv).accepts_append none t _).mpr ⟨ht,(frameEvents_encoded _ frame after).1⟩
  · intro t frame ht
    exact ((encoder cv).accepts_append none t _).mpr ⟨ht,trivial,trivial⟩

theorem run_encoded (env : Env cv) (heap : BlendShapeList) (n : Nat) :
    Returns (run env heap n) fun r => (encoder cv).Accepts none r.2.trace := by
  apply (run_cases env heap n).mono
  intro r hr
  cases hr with
  | inl hf =>
    rw [hf.2]
    exact ⟨trivial,trivial,trivial,trivial,trivial,trivial,trivial⟩
  | inr hs =>
    obtain ⟨-,c,w,hr,rfl⟩ := hs
    have hw := (captureLoop_encoded env heap n).apply hr
    cases c with
    | next => exact hw
    | leave =>
      exact ((encoder cv).accepts_append none w.trace _).mpr
        ⟨hw,trivial,trivial,trivial,trivial,trivial⟩

section Sent

variable {t a b : List (Event cv)} {d d' : Buffer}

theorem sent_packet (ht : (encoder cv).Accepts none t) (hs : SentAfter t a d) :
    ∃list,currentArray a=some list ∧ d=packet list := by
  obtain ⟨endpoint,later,rfl⟩ := hs
  exact (((encoder cv).accepts_split none a later _).mp ht).2.1

/-- As long as no frame is captured, the next datagram is the same. -/
theorem sent_same (ht : (encoder cv).Accepts none t) (endpoint : Endpoint)
    (hs : SentAfter t a d) (hs' : SentAfter t (a++.sendTo d endpoint::b) d')
    (hb : ∀frame,.capture frame∉b) : d=d' := by
  obtain ⟨list,ha,hd⟩ := sent_packet ht hs
  obtain ⟨list',ha',hd'⟩ := sent_packet ht hs'
  obtain ⟨endpoint',later,rfl⟩ := hs'
  have hx := ((encoder cv).accepts_append none _ _).mp ht
  have hy := (((encoder cv).accepts_split none a b _).mp hx.1).2.2
  change (encoder cv).Accepts (currentArray a) b at hy
  rw [ha] at hy
  have hk := (encoder cv).invariant (fun array => array=some list) (some list) b rfl hy (by
    intro array e he h hallowed
    cases e with
    | capture frame => exact absurd he (hb frame)
    | getFaceBlendShapeOutput after =>
      change array=none at hallowed
      rw [h] at hallowed
      contradiction
    | _ => exact h)
  have hc : currentArray (a++.sendTo d endpoint::b)=
      (encoder cv).after (currentArray a) b := by
    rw [currentArray,List.foldl_append]
    rfl
  rw [hc,ha,hk] at ha'
  rw [hd,hd',Option.some.inj ha']

end Sent

/-- A datagram is the packet of the array of its own iteration, whatever the buffer went through. -/
theorem datagram_history_independent (env env' : Env cv) (heap heap' : BlendShapeList)
    (n n' : Nat) :
    Returns (run env heap n) fun r => Returns (run env' heap' n') fun r' =>
      (∀a d,SentAfter r.2.trace a d → ∃list,currentArray a=some list ∧ d.length=314 ∧
        ∀w : World cv,w.blendShapeList=.live list → w.buffer=[] →
          Returns (buildPacket uuid.1 name.1 w) fun q => q.2.buffer=d) ∧
      (∀a d a' d' list list',SentAfter r.2.trace a d → SentAfter r'.2.trace a' d' →
        currentArray a=some list → currentArray a'=some list' →
        (∀i : Fin blendShapeSize,1 ≤ i.1 → list i=list' i) → d=d') ∧
      (∀a d endpoint b d',SentAfter r.2.trace a d →
        SentAfter r.2.trace (a++.sendTo d endpoint::b) d' →
        (∀frame,.capture frame∉b) → d=d') := by
  obtain ⟨r,hr,ht⟩ := run_encoded env heap n
  obtain ⟨r',hr',ht'⟩ := run_encoded env' heap' n'
  refine ⟨r,hr,r',hr',?_,?_,?_⟩
  · intro a d hs
    obtain ⟨list,ha,hd⟩ := sent_packet ht hs
    refine ⟨list,ha,hd ▸ packet_length list,?_⟩
    intro w hl _
    exact ⟨_,buildPacket_run uuid name list w hl,hd.symm⟩
  · intro a d a' d' list list' hs hs' ha ha' hlist
    obtain ⟨x,hx,hd⟩ := sent_packet ht hs
    obtain ⟨x',hx',hd'⟩ := sent_packet ht' hs'
    cases ha.symm.trans hx
    cases ha'.symm.trans hx'
    rw [hd,hd']
    exact (packet_inj list list').mpr hlist
  · intro a d endpoint b d' hs hs' hb
    exact sent_same ht endpoint hs hs' hb

/-- Each of the 104 datagrams of two frames is what an empty buffer would give. -/
theorem history_independent_faceless :
    Returns (run (.faceless true 2) (fun _ => ⟨0⟩) 3) fun r => (datagrams r.2.trace).length=104 ∧
      ∀d∈datagrams r.2.trace,∃a list,SentAfter r.2.trace a d ∧ currentArray a=some list ∧
        d.length=314 ∧ ∀w : World .sizes,w.blendShapeList=.live list → w.buffer=[] →
          Returns (buildPacket uuid.1 name.1 w) fun q => q.2.buffer=d := by
  obtain ⟨r,hr,r',-,hfresh,-,-⟩ := datagram_history_independent (.faceless true 2)
    (.faceless true 1) (fun _ => ⟨0⟩) (fun _ => ⟨0⟩) 3 2
  have hd := ((run_transmits (.faceless true 2) (fun _ => ⟨0⟩) 3).apply hr).2.1
  refine ⟨r,hr,?_,?_⟩
  · rw [hd,transmitted_length]
    rfl
  · intro d hmem
    obtain ⟨a,ha⟩ := sentAfter_of_mem hmem
    obtain ⟨list,hl,hlen,hbuild⟩ := hfresh a d ha
    exact ⟨a,list,ha,hl,hlen,hbuild⟩

end MediapipeLivelink
