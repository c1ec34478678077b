import MediapipeLivelink.Program.Simulation
import MediapipeLivelink.Transmission.Refinement

namespace MediapipeLivelink

variable {cv : OpenCV}

def frameTrace (env : Env cv) (heap : BlendShapeList) (k : Nat) : List (Event cv) :=
  .capture (env.frame k)::frameEvents (env.frame k) (listAfter env heap (k+1))

def loopTrace (env : Env cv) (heap : BlendShapeList) (m : Nat) : List (Event cv) :=
  (List.range m).flatMap (frameTrace env heap)

/-- The empty frame that the loop is left with, unless a key has ended it. -/
def lastCapture (env : Env cv) (m : Nat) : List (Event cv) :=
  if alive env m then [.capture (env.frame m)] else []

/-- All that a run does, in its order. -/
def behaviour (env : Env cv) (heap : BlendShapeList) (n : Nat) : List (Event cv) :=
  let m := processed env n
  setUpEvents env++
    if env.isOpened then
      startEvents++loopTrace env heap m++
        if m<n then lastCapture env m++cleanUpEvents else []
    else [.deleteBlendShapeList]

theorem loopTrace_succ (env : Env cv) (heap : BlendShapeList) (m : Nat) :
    loopTrace env heap (m+1)=loopTrace env heap m++frameTrace env heap m := by
  simp [loopTrace,List.range_succ]

/-- The loop has done what it does with `m` frames, and then `last`. -/
def LoopDone (env : Env cv) (heap : BlendShapeList) (m : Nat) (last : List (Event cv))
    (w : World cv) : Prop :=
  w.trace=setUpEvents env++startEvents++loopTrace env heap m++last

structure LeftDone (env : Env cv) (heap : BlendShapeList) (n : Nat) (w : World cv) : Prop where
  done : LoopDone env heap (processed env n) (lastCapture env (processed env n)) w
  ended : alive env n=false
  some : processed env n<n

theorem captureIteration_done (env : Env cv) (heap : BlendShapeList) (n : Nat) (w : World cv)
    (hb : Between env heap n w) (hd : LoopDone env heap n [] w) (hg : w.grabFrame=true) :
    Returns (captureIteration env w) (Control.Holds
      (fun v => Between env heap (n+1) v ∧ LoopDone env heap (n+1) [] v)
      (LeftDone env heap (n+1))) := by
  have ha : alive env n=true := hb.grabFrame.symm.trans hg
  have hi := captureIteration_between env heap n w hb hg
  cases he : cv.empty (env.frame n) with
  | true =>
    have hs := processed_stop env n (.inr he)
    have hw : cv.empty (env.frame w.captures)=true := by rw [hb.captures,he]
    refine ⟨_,captureIteration_empty env w hw,?_,hs.2,?_⟩
    · have hl : lastCapture env n=[.capture (env.frame n)] := by simp [lastCapture,ha]
      rw [hs.1,hb.all,hl,LoopDone,afterStream,hd,hb.captures,List.append_nil]
    · rw [hs.1,hb.all]
      omega
  | false =>
    have hw : cv.empty (env.frame w.captures)=false := by rw [hb.captures,he]
    have hr := captureIteration_frame env w _ hb.progress.list hw
    refine ⟨_,hr,hi.apply hr,?_⟩
    rw [LoopDone,afterFrame,hd,hb.captures,hb.progress.outputs,loopTrace_succ]
    simp [frameTrace,listAfter]

theorem captureLoop_done (env : Env cv) (heap : BlendShapeList) (n : Nat) :
    Returns (captureLoop env n (loopEntry env heap)) (Control.Holds
      (fun v => Between env heap n v ∧ LoopDone env heap n [] v) (LeftDone env heap n)) := by
  apply Exec.whileLoop_rule World.grabFrame (captureIteration env)
    (fun n v => Between env heap n v ∧ LoopDone env heap n [] v) (LeftDone env heap)
  · intro n w h hg
    exact captureIteration_done env heap n w h.1 h.2 hg
  · intro n w h hg
    have ha : alive env n=false := h.1.grabFrame.symm.trans hg
    have hs := processed_stop env n (.inl ha)
    have hl : lastCapture env n=[] := by simp [lastCapture,ha]
    refine ⟨?_,hs.2,?_⟩
    · rw [hs.1,h.1.all,hl]
      exact h.2
    · rw [hs.1,h.1.all]
      omega
  · intro n w h
    have hs := processed_stop env n (.inl h.ended)
    have hn := h.some
    refine ⟨?_,hs.2,?_⟩
    · rw [hs.1]
      exact h.done
    · rw [hs.1]
      omega
  · refine ⟨loopEntry_between env heap,?_⟩
    simp [LoopDone,loopEntry,loopTrace]

/-- The program returns what it should, and does `behaviour` and nothing else. -/
theorem run_behaviour (env : Env cv) (heap : BlendShapeList) (n : Nat) :
    Returns (run env heap n) fun r => r.1=exitCode env n ∧ r.2.trace=behaviour env heap n := by
  apply (run_cases env heap n).mono
  intro r hr
  rcases hr with ⟨ho,rfl⟩|⟨ho,c,w,hc,rfl⟩
  · simp [exitCode,behaviour,cameraFailed,ho]
  · have hd := (captureLoop_done env heap n).apply hc
    cases c with
    | next =>
      have hw : Between env heap n w ∧ LoopDone env heap n [] w := hd
      have ht := hw.2
      rw [LoopDone] at ht
      simp [exitCode,behaviour,finish,ho,hw.1.all,ht]
    | leave =>
      have hw : LeftDone env heap n w := hd
      have ht := hw.done
      rw [LoopDone] at ht
      simp [exitCode,behaviour,finish,cleanedUp,ho,hw.some,ht]

namespace Process

/-- Whatever the operating system does, a process that returns has done `behaviour` and answers
the exit code, and one that is cut short has done a beginning of it. -/
theorem run_behaves (os : System) (env : Env cv) (heap : BlendShapeList) (n patience : Nat) :
    (main os env heap n patience).Ensures (start cv)
      (fun code t => code=exitCode env n ∧ t.world.trace=behaviour env heap n)
      (fun e t => ¬IsFault e ∧ t.world.trace<+:behaviour env heap n) := by
  obtain ⟨r,hr,hc,ht⟩ := run_behaviour env heap n
  apply (main_refines os env heap n patience r hr).mono
  · intro code t h
    rw [h.1,h.2]
    exact ⟨hc,ht⟩
  · intro e t h
    exact ⟨h.1,ht ▸ h.2⟩

end Process

end MediapipeLivelink
