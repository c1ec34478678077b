import MediapipeLivelink.Program.Main
import MediapipeLivelink.Transmission.Sender

namespace MediapipeLivelink

variable {cv : OpenCV}

def Event.datagram : Event cv → Option Buffer
  | .sendTo datagram _ => some datagram
  | _ => none

def Event.image : Event cv → Option cv.Mat
  | .capture frame => if cv.empty frame then none else some frame
  | _ => none

def datagrams (t : List (Event cv)) : List Buffer := t.filterMap Event.datagram

def images (t : List (Event cv)) : List cv.Mat := t.filterMap Event.image

/-- The world in which `m` frames have been processed. -/
structure Progress (env : Env cv) (heap : BlendShapeList) (m : Nat) (w : World cv) : Prop where
  list : w.blendShapeList=.live (listAfter env heap m)
  outputs : w.outputs=m
  keys : w.keys=m
  datagrams : datagrams w.trace=transmitted env heap m
  images : images w.trace=(List.range m).map env.frame

theorem frameEvents_datagrams (frame : cv.Mat) (after : BlendShapeList) :
    datagrams (.capture frame::frameEvents frame after)=
      List.replicate blendShapeSize (packet after) := by
  rw [datagrams,frameEvents_filterMap,passEvents_filterMap _ (fun _ => rfl)]
  change []++(List.replicate blendShapeSize [packet after]).flatten++[]=_
  rw [List.flatten_replicate_singleton,List.nil_append,List.append_nil]

theorem frameEvents_images (frame : cv.Mat) (after : BlendShapeList)
    (he : cv.empty frame=false) :
    images (.capture frame::frameEvents frame after)=[frame] := by
  have hi : (Event.capture frame : Event cv).image=some frame := by simp [Event.image,he]
  rw [images,frameEvents_filterMap,passEvents_filterMap _ (fun _ => rfl),
    List.filterMap_cons_some hi]
  rfl

section Step

variable {env : Env cv} {heap : BlendShapeList} {m : Nat} {w : World cv}

theorem Progress.frame (h : Progress env heap m w) (hc : w.captures=m)
    (he : cv.empty (env.frame m)=false) :
    Progress env heap (m+1) (afterFrame env (listAfter env heap m) w) := by
  have ht : (afterFrame env (listAfter env heap m) w).trace=w.trace++.capture (env.frame m)::
      frameEvents (env.frame m) (listAfter env heap (m+1)) := by
    rw [afterFrame,hc,h.outputs]
    rfl
  constructor
  · rw [afterFrame,h.outputs]
    rfl
  · exact congrArg (·+1) h.outputs
  · exact congrArg (·+1) h.keys
  · rw [ht,MediapipeLivelink.datagrams,List.filterMap_append,transmitted_succ]
    exact congrArg₂ (·++·) h.datagrams (frameEvents_datagrams _ _)
  · rw [ht,MediapipeLivelink.images,List.filterMap_append,List.range_succ,List.map_append]
    exact congrArg₂ (·++·) h.images (frameEvents_images _ _ he)

theorem Progress.stream (h : Progress env heap m w) (he : cv.empty (env.frame w.captures)=true) :
    Progress env heap m (afterStream env w) := by
  have hi : (Event.capture (env.frame w.captures) : Event cv).image=none := by
    simp [Event.image,he]
  refine ⟨h.list,h.outputs,h.keys,?_,?_⟩
  · rw [afterStream,MediapipeLivelink.datagrams,List.filterMap_append,← h.datagrams]
    exact List.append_nil _
  · rw [afterStream,MediapipeLivelink.images,List.filterMap_append,List.filterMap_cons_none hi,
      ← h.images]
    exact List.append_nil _

end Step

/-- Between two rounds every frame so far is processed. -/
structure Between (env : Env cv) (heap : BlendShapeList) (n : Nat) (w : World cv) : Prop where
  progress : Progress env heap n w
  captures : w.captures=n
  grabFrame : w.grabFrame=alive env n
  all : processed env n=n

/-- The loop has been left, after all the frames there were. -/
structure Left (env : Env cv) (heap : BlendShapeList) (n : Nat) (w : World cv) : Prop where
  progress : Progress env heap (processed env n) w
  ended : alive env n=false
  some : processed env n<n

theorem loopEntry_between (env : Env cv) (heap : BlendShapeList) :
    Between env heap 0 (loopEntry env heap) :=
  ⟨⟨rfl,rfl,rfl,rfl,rfl⟩,rfl,rfl,rfl⟩

theorem captureIteration_between (env : Env cv) (heap : BlendShapeList) (n : Nat) (w : World cv)
    (h : Between env heap n w) (hg : w.grabFrame=true) :
    Returns (captureIteration env w)
      (Control.Holds (Between env heap (n+1)) (Left env heap (n+1))) := by
  have ha : alive env n=true := h.grabFrame.symm.trans hg
  cases he : cv.empty (env.frame n) with
  | true =>
    have hs := processed_stop env n (.inr he)
    have hw : cv.empty (env.frame w.captures)=true := by rw [h.captures,he]
    refine ⟨_,captureIteration_empty env w hw,?_,hs.2,?_⟩
    · rw [hs.1,h.all]
      exact h.progress.stream hw
    · rw [hs.1,h.all]
      exact Nat.lt_succ_self n
  | false =>
    have hw : cv.empty (env.frame w.captures)=false := by rw [h.captures,he]
    refine ⟨_,captureIteration_frame env w _ h.progress.list hw,
      h.progress.frame h.captures he,congrArg (·+1) h.captures,?_,processed_frame env n ha he⟩
    simp [afterFrame,alive,hg,ha,he,h.progress.keys]

/-- The loop does what the sender does, round by round. -/
theorem captureLoop_transmits (env : Env cv) (heap : BlendShapeList) (n : Nat) :
    Returns (captureLoop env n (loopEntry env heap))
      (Control.Holds (Between env heap n) (Left env heap n)) := by
  apply Exec.whileLoop_rule World.grabFrame (captureIteration env) (Between env heap)
    (Left env heap) (captureIteration_between env heap)
  · intro n w h hg
    have hs := processed_stop env n (.inl (h.grabFrame.symm.trans hg))
    constructor
    · rw [hs.1,h.all]
      exact h.progress
    · exact hs.2
    · rw [hs.1,h.all]
      exact Nat.lt_succ_self n
  · intro n w h
    have hs := processed_stop env n (.inl h.ended)
    constructor
    · rw [hs.1]
      exact h.progress
    · exact hs.2
    · rw [hs.1]
      exact Nat.lt_succ_of_lt h.some
  · exact loopEntry_between env heap

/-- What `main` answers once its loop has had `n` rounds. -/
def exitCode (env : Env cv) (n : Nat) : Option Int :=
  if env.isOpened then if processed env n<n then some 0 else none else some (-1)

theorem cleanedUp_datagrams (w : World cv) :
    datagrams (cleanedUp w).trace=datagrams w.trace := by
  have h : datagrams (cleanedUp w).trace=datagrams w.trace++[] := List.filterMap_append
  rw [h,List.append_nil]

theorem cleanedUp_images (w : World cv) : images (cleanedUp w).trace=images w.trace := by
  have h : images (cleanedUp w).trace=images w.trace++[] := List.filterMap_append
  rw [h,List.append_nil]

/-- The program refines the sender. -/
theorem run_transmits (env : Env cv) (heap : BlendShapeList) (n : Nat) :
    Returns (run env heap n) fun r => r.1=exitCode env n ∧
      datagrams r.2.trace=transmitted env heap (frameCount env n) ∧
      images r.2.trace=(List.range (frameCount env n)).map env.frame := by
  apply (run_cases env heap n).mono
  intro r hr
  cases hr with
  | inl hf =>
    obtain ⟨ho,rfl⟩ := hf
    simp only [exitCode,frameCount,ho]
    exact ⟨rfl,rfl,rfl⟩
  | inr hs =>
    obtain ⟨ho,c,w,hr,rfl⟩ := hs
    have h := (captureLoop_transmits env heap n).apply hr
    simp only [exitCode,frameCount,ho,if_true]
    cases c with
    | next =>
      have hb : Between env heap n w := h
      rw [if_neg (by rw [hb.all]; exact Nat.lt_irrefl n),hb.all]
      exact ⟨rfl,hb.progress.datagrams,hb.progress.images⟩
    | leave =>
      have hl : Left env heap n w := h
      rw [if_pos hl.some,finish,cleanedUp_datagrams,cleanedUp_images]
      exact ⟨rfl,hl.progress.datagrams,hl.progress.images⟩

/-- A datagram is one packet, without anything after it. -/
def receive (datagram : Buffer) : Option LiveLinkPacket :=
  match LiveLinkPacket.read datagram with
  | some (p,[]) => some p
  | _ => none

theorem receive_packet (list : BlendShapeList) :
    receive (packet list)=some (.ofBlendShapes uuid name list) := by
  rw [receive,LiveLinkPacket.read,packet,Format.decode_exact]

/-- The receiver gets the shapes of every frame, in the order of the frames. -/
theorem run_received (env : Env cv) (heap : BlendShapeList) (n : Nat) :
    Returns (run env heap n) fun r => (datagrams r.2.trace).map receive=
      (List.range (frameCount env n)).flatMap fun k => List.replicate blendShapeSize
        (some (.ofBlendShapes uuid name (listAfter env heap (k+1)))) := by
  apply (run_transmits env heap n).mono
  intro r hr
  rw [hr.2.1,transmitted,faces,List.flatMap_map,List.map_flatMap]
  simp only [List.map_replicate,receive_packet]

/-- A receiver that may get a packet twice without harm ends up as if each were sent once. -/
theorem run_idempotent_receiver {σ : Type} (env : Env cv) (heap : BlendShapeList) (n : Nat)
    (f : σ → Buffer → σ) (hf : ∀s d,f (f s d) d=f s d) (s : σ) :
    Returns (run env heap n) fun r =>
      (datagrams r.2.trace).foldl f s=(faces env heap (frameCount env n)).foldl f s := by
  apply (run_transmits env heap n).mono
  intro r hr
  rw [hr.2.1]
  exact (transmitted_stutters env heap _).foldl_eq f hf s

theorem idempotent_faceless : Returns (run (.faceless true 1) (fun _ => ⟨0⟩) 2) fun r =>
    (datagrams r.2.trace).foldl (fun _ d => some d) none=
      (faces (.faceless true 1) (fun _ => ⟨0⟩) (frameCount (.faceless true 1) 2)).foldl
        (fun _ d => some d) none :=
  run_idempotent_receiver (.faceless true 1) (fun _ => ⟨0⟩) 2 (fun _ d => some d)
    (fun _ _ => rfl) none

theorem exitCode_isSome_iff (env : Env cv) : (∃n,(exitCode env n).isSome) ↔
    (env.isOpened=true → ∃k,cv.empty (env.frame k)=true ∨ pressed (env.key k)=true) := by
  rw [← processed_stops_iff]
  simp only [exitCode]
  cases env.isOpened with
  | false => simp
  | true =>
    have hs (n : Nat) : (if processed env n<n then some (0 : Int) else none).isSome=true ↔
        processed env n<n := by
      split <;> simp [*]
    simp only [if_true,hs,forall_const]

/-- The program comes to an end unless the frames never stop and no key is ever pressed. -/
theorem main_returns_iff (env : Env cv) (heap : BlendShapeList) :
    (∃n,Returns (run env heap n) fun r => r.1.isSome) ↔
      (env.isOpened=true → ∃k,cv.empty (env.frame k)=true ∨ pressed (env.key k)=true) := by
  have hcode (n : Nat) : (Returns (run env heap n) fun r => r.1.isSome) ↔
      (exitCode env n).isSome := by
    obtain ⟨r,hr,hc,-⟩ := run_transmits env heap n
    rw [← hc]
    constructor
    · intro h
      exact h.apply hr
    · intro h
      exact ⟨r,hr,h⟩
  simp only [hcode,exitCode_isSome_iff]

end MediapipeLivelink
