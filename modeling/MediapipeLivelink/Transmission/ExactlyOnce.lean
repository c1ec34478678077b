import MediapipeLivelink.Transmission.Refinement

namespace MediapipeLivelink

variable {cv : OpenCV}

inductive Transfer
  | output (list : BlendShapeList)
  | datagram (bytes : Buffer)

def Event.transfer : Event cv → Option Transfer
  | .getFaceBlendShapeOutput after => some (.output after)
  | .sendTo datagram _ => some (.datagram datagram)
  | _ => none

def transfers (t : List (Event cv)) : List Transfer := t.filterMap Event.transfer

/-- What one iteration of a run of the capture loop adds to the trace. -/
def Iteration (env : Env cv) (heap : BlendShapeList) (events : List (Event cv)) : Prop :=
  env.isOpened=true ∧ ∃n w c w',captureLoop env n (loopEntry env heap)=.ok (.next,w) ∧
    w.grabFrame=true ∧ captureIteration env w=.ok (c,w') ∧ w'.trace=w.trace++events

/-- One call of `GetFaceBlendShapeOutput`, and then one datagram. -/
def SentOnce (events : List (Event cv)) : Prop :=
  ∃list bytes,transfers events=[.output list,.datagram bytes]

/-- Every non-empty frame is transmitted once, in its own iteration, and nothing else is. -/
structure ExactlyOnce (env : Env cv) (heap : BlendShapeList) : Prop where
  frame : ∀events,Iteration env heap events → images events≠[] → SentOnce events
  noFrame : ∀events,Iteration env heap events → images events=[] → datagrams events=[]
  total : ∀n,Returns (run env heap n) fun r =>
    (datagrams r.2.trace).length=(images r.2.trace).length

theorem frameEvents_transfers (frame : cv.Mat) (after : BlendShapeList) :
    transfers (.capture frame::frameEvents frame after)=
      .output after::List.replicate blendShapeSize (.datagram (packet after)) := by
  rw [transfers,frameEvents_filterMap,passEvents_filterMap _ (fun _ => rfl)]
  change [.output after]++
    (List.replicate blendShapeSize [Transfer.datagram (packet after)]).flatten++[]=_
  rw [List.flatten_replicate_singleton,List.append_nil]
  rfl

theorem iteration_events (env : Env cv) (heap : BlendShapeList) (events : List (Event cv))
    (h : Iteration env heap events) : ∃n,alive env n=true ∧
      ((cv.empty (env.frame n)=true ∧ events=[.capture (env.frame n)]) ∨
      (cv.empty (env.frame n)=false ∧
        events=.capture (env.frame n)::frameEvents (env.frame n) (listAfter env heap (n+1)))) := by
  obtain ⟨-,n,w,c,w',hr,hg,hi,ht⟩ := h
  have hb : Between env heap n w := (captureLoop_transmits env heap n).apply hr
  refine ⟨n,hb.grabFrame.symm.trans hg,?_⟩
  have hc := hb.captures
  cases he : cv.empty (env.frame n) with
  | true =>
    rw [captureIteration_empty env w (by rw [hc,he])] at hi
    cases hi
    rw [afterStream,hc] at ht
    exact .inl ⟨rfl,(List.append_cancel_left ht).symm⟩
  | false =>
    rw [captureIteration_frame env w _ hb.progress.list (by rw [hc,he])] at hi
    cases hi
    rw [afterFrame,hc,hb.progress.outputs] at ht
    exact .inr ⟨rfl,(List.append_cancel_left ht).symm⟩

/-- What the code does instead: one call of `GetFaceBlendShapeOutput`, and then
`blend_shape_size` times the same datagram. -/
theorem iteration_transfers (env : Env cv) (heap : BlendShapeList) (events : List (Event cv))
    (h : Iteration env heap events) (hi : images events≠[]) :
    ∃list,transfers events=
      .output list::List.replicate blendShapeSize (.datagram (packet list)) := by
  obtain ⟨n,-,he | he⟩ := iteration_events env heap events h
  · have hn : images events=[] := by simp [he.2,images,Event.image,he.1]
    contradiction
  · rw [he.2]
    exact ⟨_,frameEvents_transfers _ _⟩

theorem iteration_no_datagrams (env : Env cv) (heap : BlendShapeList) (events : List (Event cv))
    (h : Iteration env heap events) (hi : images events=[]) : datagrams events=[] := by
  obtain ⟨n,-,he | he⟩ := iteration_events env heap events h
  · rw [he.2]
    rfl
  · rw [he.2,frameEvents_images _ _ he.1] at hi
    contradiction

/-- Over any number of rounds there are `blend_shape_size` datagrams for each frame. -/
theorem run_datagrams (env : Env cv) (heap : BlendShapeList) (n : Nat) :
    Returns (run env heap n) fun r => (images r.2.trace).length=frameCount env n ∧
      (datagrams r.2.trace).length=blendShapeSize*(images r.2.trace).length := by
  apply (run_transmits env heap n).mono
  intro r hr
  rw [hr.2.1,hr.2.2,transmitted_length,List.length_map,List.length_range]
  exact ⟨rfl,rfl⟩

theorem first_iteration (env : Env cv) (heap : BlendShapeList) (ho : env.isOpened=true)
    (he : cv.empty (env.frame 0)=false) : Iteration env heap
      (.capture (env.frame 0)::frameEvents (env.frame 0) (listAfter env heap 1)) :=
  ⟨ho,0,_,_,_,rfl,rfl,captureIteration_frame env _ heap rfl he,rfl⟩

theorem not_exactlyOnce (env : Env cv) (heap : BlendShapeList) (ho : env.isOpened=true)
    (he : cv.empty (env.frame 0)=false) : ¬ExactlyOnce env heap := by
  intro h
  have hi := first_iteration env heap ho he
  have himage := frameEvents_images (env.frame 0) (listAfter env heap 1) he
  have hframe : images (.capture (env.frame 0)::frameEvents (env.frame 0)
      (listAfter env heap 1))≠[] := by simp [himage]
  obtain ⟨list,bytes,hs⟩ := h.frame _ hi hframe
  obtain ⟨array,hall⟩ := iteration_transfers env heap _ hi hframe
  rw [hall] at hs
  have hl := congrArg List.length hs
  simp [blendShapeSize] at hl

theorem exactlyOnce_empty (env : Env cv) (heap : BlendShapeList)
    (he : env.isOpened=true → cv.empty (env.frame 0)=true) : ExactlyOnce env heap := by
  have hn (n : Nat) : frameCount env n=0 := by
    apply Nat.eq_zero_of_not_pos
    intro hp
    have h0 := (frameCount_pos_iff env n).mp hp
    rw [he h0.1] at h0
    exact Bool.noConfusion h0.2.2
  constructor
  case frame =>
    intro events h hi
    have ho := h.1
    obtain ⟨n,ha,hs | hs⟩ := iteration_events env heap events h
    · have hz : images events=[] := by simp [hs.2,images,Event.image,hs.1]
      contradiction
    · have hc := hn (n+1)
      rw [frameCount,if_pos ho,processed_frame env n ha hs.1] at hc
      contradiction
  case noFrame => exact iteration_no_datagrams env heap
  case total =>
    intro n
    apply (run_datagrams env heap n).mono
    intro r h
    rw [h.2,h.1,hn,Nat.mul_zero]

/-- No frame is transmitted exactly once: only a run without frames keeps the promise. -/
theorem exactlyOnce_iff (env : Env cv) (heap : BlendShapeList) :
    ExactlyOnce env heap ↔ (env.isOpened=true → cv.empty (env.frame 0)=true) := by
  constructor
  · intro h ho
    by_contra he
    exact not_exactlyOnce env heap ho (Bool.eq_false_of_not_eq_true he) h
  · exact exactlyOnce_empty env heap

/-- One frame and no key. -/
theorem not_exactlyOnce_faceless : ¬ExactlyOnce (.faceless true 1) (fun _ => ⟨0⟩) :=
  not_exactlyOnce _ _ rfl rfl

end MediapipeLivelink
