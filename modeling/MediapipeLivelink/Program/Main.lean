import MediapipeLivelink.Program.CaptureLoop

namespace MediapipeLivelink

variable {cv : OpenCV}

def graphPath : String := "mediapipe/graphs/face_blendshape/face_blendshape_desktop_live.pbtxt"

/-- `main`, with its loop followed for at most `n` rounds. It answers the exit code,
or nothing while the loop has not been left. `heap` is what `new float[52]` finds in memory. -/
def main (env : Env cv) (heap : BlendShapeList) (n : Nat) :
    Exec Fault (World cv) (Option Int) := do
  emit .socketOpen
  newBlendShapeList heap
  emit (.createFaceBlendShapeInterface graphPath)
  emit (.captureOpen 0 env.win32)
  emit (.isOpened env.isOpened)
  if !env.isOpened then
    deleteBlendShapeList
    return some (-1)
  emit .addFaceBlendShapePoller
  emit .startFaceBlendShape
  emit (.namedWindow "camera")
  match ← captureLoop env n with
  | .next => return none
  | .leave =>
    deleteBlendShapeList
    emit .destroyAllWindows
    emit .stopFaceBlendShape
    emit .releaseFaceBlendShapeInterface
    return some 0

def run (env : Env cv) (heap : BlendShapeList) (n : Nat) : Except Fault (Option Int×World cv) :=
  main env heap n (World.start cv)

def setUpEvents (env : Env cv) : List (Event cv) :=
  [.socketOpen,.newBlendShapeList blendShapeSize,.createFaceBlendShapeInterface graphPath,
    .captureOpen 0 env.win32,.isOpened env.isOpened]

def startEvents : List (Event cv) :=
  [.addFaceBlendShapePoller,.startFaceBlendShape,.namedWindow "camera"]

def cleanUpEvents : List (Event cv) :=
  [.deleteBlendShapeList,.destroyAllWindows,.stopFaceBlendShape,.releaseFaceBlendShapeInterface]

def loopEntry (env : Env cv) (heap : BlendShapeList) : World cv :=
  {World.start cv with blendShapeList := .live heap,trace := setUpEvents env++startEvents}

def cameraFailed (env : Env cv) : World cv :=
  {World.start cv with
    blendShapeList := .deleted
    trace := setUpEvents env++[.deleteBlendShapeList]}

def cleanedUp (w : World cv) : World cv :=
  {w with blendShapeList := .deleted,trace := w.trace++cleanUpEvents}

/-- Exit code and world after the loop: none and unchanged while it goes on. -/
def finish : Control → World cv → Option Int×World cv
  | .next,w => (none,w)
  | .leave,w => (some 0,cleanedUp w)

theorem newBlendShapeList_run (heap : BlendShapeList) (w : World cv) :
    newBlendShapeList heap w=.ok ((),
      {w with
        blendShapeList := .live heap
        trace := w.trace++[.newBlendShapeList blendShapeSize]}) := (rfl)

theorem run_failed (env : Env cv) (heap : BlendShapeList) (n : Nat)
    (ho : env.isOpened=false) : run env heap n=.ok (some (-1),cameraFailed env) := by
  simp only [run,main,Exec.bind_run,emit_run,newBlendShapeList_run,Exec.ok_bind,ho,
    Bool.not_false,if_true]
  rw [deleteBlendShapeList_run _ heap]
  · simp only [Exec.ok_bind,Exec.pure_run,cameraFailed,setUpEvents,ho]
    rfl
  · rfl

theorem run_opened (env : Env cv) (heap list : BlendShapeList) (n : Nat) (c : Control)
    (w : World cv) (ho : env.isOpened=true)
    (hr : captureLoop env n (loopEntry env heap)=.ok (c,w)) (hl : w.blendShapeList=.live list) :
    run env heap n=.ok (finish c w) := by
  have hentry : {World.start cv with
      blendShapeList := .live heap
      trace := (World.start cv).trace++[.socketOpen]++[.newBlendShapeList blendShapeSize]++
        [.createFaceBlendShapeInterface graphPath]++[.captureOpen 0 env.win32]++[.isOpened true]++
        [.addFaceBlendShapePoller]++[.startFaceBlendShape]++[.namedWindow "camera"]}=
      loopEntry env heap := by
    simp only [loopEntry,setUpEvents,startEvents,ho]
    rfl
  simp only [run,main,Exec.bind_run,emit_run,newBlendShapeList_run,Exec.ok_bind,ho,
    Bool.not_true,Bool.false_eq_true,if_false]
  rw [hentry,hr,Exec.ok_bind]
  cases c with
  | next => rfl
  | leave =>
    simp only [Exec.bind_run,deleteBlendShapeList_run w list hl,Exec.ok_bind,emit_run,
      Exec.pure_run,finish,cleanedUp,cleanUpEvents,List.append_assoc,List.cons_append,
      List.nil_append]

/-- What holds of the trace when the loop is entered, and is kept by what an iteration adds,
holds after any number of iterations; and the array stays allocated. -/
theorem captureLoop_trace (env : Env cv) (heap : BlendShapeList) (T : List (Event cv) → Prop)
    (hentry : T (setUpEvents env++startEvents))
    (hframe : ∀t frame after,T t → T (t++.capture frame::frameEvents frame after))
    (hstream : ∀t frame,T t → T (t++[.capture frame])) (n : Nat) :
    Returns (captureLoop env n (loopEntry env heap)) fun r =>
      T r.2.trace ∧ ∃list,r.2.blendShapeList=.live list := by
  let I (w : World cv) : Prop := T w.trace ∧ ∃list,w.blendShapeList=.live list
  have hbody (w : World cv) (hw : I w) : Returns (captureIteration env w) (Control.Holds I I) := by
    obtain ⟨ht,list,hl⟩ := hw
    cases he : cv.empty (env.frame w.captures) with
    | true => exact ⟨_,captureIteration_empty env w he,hstream _ _ ht,list,hl⟩
    | false => exact ⟨_,captureIteration_frame env w list hl he,hframe _ _ _ ht,_,rfl⟩
  have h := Exec.whileLoop_rule World.grabFrame (captureIteration env) (fun _ => I) (fun _ => I)
    (fun _ w hw _ => hbody w hw) (fun _ _ hw _ => hw) (fun _ _ hw => hw) (loopEntry env heap)
    ⟨hentry,heap,rfl⟩ n
  apply h.mono
  intro r hw
  obtain ⟨c,w⟩ := r
  cases c <;> exact hw

/-- A run never faults; after `n` rounds it has stopped for want of a camera, or the loop
has done what it does. -/
theorem run_cases (env : Env cv) (heap : BlendShapeList) (n : Nat) :
    Returns (run env heap n) fun r =>
      (env.isOpened=false ∧ r=(some (-1),cameraFailed env)) ∨
      (env.isOpened=true ∧ ∃c w,captureLoop env n (loopEntry env heap)=.ok (c,w) ∧
        r=finish c w) := by
  cases ho : env.isOpened with
  | false => exact ⟨_,run_failed env heap n ho,.inl ⟨rfl,rfl⟩⟩
  | true =>
    obtain ⟨⟨c,w⟩,hr,-,list,hl⟩ := captureLoop_trace env heap (fun _ => True) trivial
      (fun _ _ _ _ => trivial) (fun _ _ _ => trivial) n
    exact ⟨_,run_opened env heap list n c w ho hr hl,.inr ⟨rfl,c,w,hr,rfl⟩⟩

end MediapipeLivelink
