import MediapipeLivelink.Program.Rules

namespace MediapipeLivelink

namespace Process

variable {cv : OpenCV} {α : Type}

def IsFault (e : Halt) : Prop := ∃f,e=.fault f

/-- What of a process can be seen in its world. It stops on the way without a fault. -/
def seen : Proc.Simulation Halt (Process cv) (World cv) where
  abs := world
  before := Adds fun _ => True
  aborts e := ¬IsFault e

instance : IsPreorder (World cv) seen.before := inferInstanceAs (IsPreorder (World cv) (Adds _))

theorem seen_surjective :
    Function.Surjective (seen : Proc.Simulation Halt (Process cv) (World cv)).abs :=
  fun w => ⟨⟨w,Asio.construct,[],0⟩,rfl⟩

theorem onWorld_follows {x : Exec Fault (World cv) α} (hx : Exec.Moves (Adds fun _ => True) x) :
    Proc.Follows seen (onWorld x) x := Proc.Follows.ofExec rfl (fun _ _ => rfl) hx

theorem onSystem_silent (p : Asio.Sys α) : Proc.Silent seen (onSystem p : Proc Halt (Process cv) α) := by
  intro t
  rw [onSystem,Proc.zoom_ensures]
  exact Proc.Ensures.intro (fun _ _ => rfl) fun _ _ => ⟨by simp [seen,IsFault],rfl⟩

theorem calling_silent (os : System) : Proc.Silent seen (calling os : Proc Halt (Process cv) Unit) := by
  intro t
  rw [calling_ensures]
  split
  · exact ⟨by simp [seen,IsFault],rfl⟩
  · rfl

theorem external_follows (os : System) {x : Exec Fault (World cv) α}
    (hx : Exec.Moves (Adds fun _ => True) x) : Proc.Follows seen (external os x) x :=
  Proc.Follows.silent (calling_silent os) (fun _ => onWorld_follows hx) hx

section Follows

variable (os : System) (serverAddr : Buffer) (patience : Nat)

theorem sendPass_follows : Proc.Follows seen (sendPass os serverAddr patience)
    (MediapipeLivelink.sendPass : Exec Fault (World cv) Unit) := by
  refine (onWorld_follows (buildPacket_adds _ _ fun _ => trivial)).bind fun _ => ?_
  refine Proc.Follows.get seen_surjective fun t => ?_
  have he : Exec.Moves (Adds fun _ => True)
      (emit (.sendTo t.world.buffer serverEndpoint) : Exec Fault (World cv) Unit) :=
    emit_adds _ trivial
  exact Proc.Follows.silent (onSystem_silent _) (fun _ => onWorld_follows he) he

theorem sendLoop_follows : Proc.Follows seen (sendLoop os serverAddr patience)
    (MediapipeLivelink.sendLoop : Exec Fault (World cv) Unit) :=
  Proc.Follows.forM (fun _ => sendPass_follows os serverAddr patience) _

theorem captureIteration_follows (env : Env cv) :
    Proc.Follows seen (captureIteration os serverAddr patience env)
      (MediapipeLivelink.captureIteration env) := by
  unfold captureIteration MediapipeLivelink.captureIteration
  refine (external_follows os (captureFrame_adds env fun _ => trivial)).bind fun _ => ?_
  simp only [isCamera,if_true]
  refine Proc.Follows.bind (external_follows os (modify_adds _ fun _ => rfl)) fun _ => ?_
  refine Proc.Follows.get seen_surjective fun t => ?_
  refine Proc.Follows.ite (Proc.Follows.pure _) ?_
  have hrest : Proc.Follows seen (do
        let cameraRgbFrame := cv.cvtColor (← get).world.cameraBgrFrame .bgr2rgb
        external os (emit (.faceBlendShapeProcess cameraRgbFrame))
        external os (getFaceBlendShapeOutput env blendShapeSize)
        if blendShapeSize != 0 && (← get).world.blendShapeList.nonNull then
          sendLoop os serverAddr patience
        external os (emit (.imshow "camera" (← get).world.cameraBgrFrame))
        if pressed (← external os (waitKey env 30)) then
          onWorld (modify fun w => {w with grabFrame := false})
        return .next)
      (do
        let cameraRgbFrame := cv.cvtColor (← get).cameraBgrFrame .bgr2rgb
        emit (.faceBlendShapeProcess cameraRgbFrame)
        getFaceBlendShapeOutput env blendShapeSize
        if blendShapeSize != 0 && (← get).blendShapeList.nonNull then
          MediapipeLivelink.sendLoop
        emit (.imshow "camera" (← get).cameraBgrFrame)
        if pressed (← waitKey env 30) then
          modify fun w => {w with grabFrame := false}
        return .next : Exec Fault (World cv) Control) := by
    refine Proc.Follows.get seen_surjective fun t => ?_
    refine (external_follows os (emit_adds _ trivial)).bind fun _ => ?_
    refine (external_follows os (getFaceBlendShapeOutput_adds env _ fun _ => trivial)).bind
      fun _ => ?_
    refine Proc.Follows.get seen_surjective fun t => ?_
    refine Proc.Follows.ite ((sendLoop_follows os serverAddr patience).bind fun _ => ?_) ?_
    all_goals
      refine Proc.Follows.get seen_surjective fun t => ?_
      refine (external_follows os (emit_adds _ trivial)).bind fun _ => ?_
      refine (external_follows os (waitKey_adds env _ trivial)).bind fun key => ?_
      refine Proc.Follows.ite ?_ (Proc.Follows.pure _)
      refine Proc.Follows.bind (onWorld_follows (modify_adds _ fun _ => rfl)) fun _ => ?_
      exact Proc.Follows.pure _
  exact Proc.Follows.silent (calling_silent os) (fun _ => hrest) hrest.moves

theorem captureLoop_follows (env : Env cv) (n : Nat) :
    Proc.Follows seen (captureLoop os serverAddr patience env n)
      (MediapipeLivelink.captureLoop env n) :=
  Proc.Follows.whileLoop seen_surjective (fun _ => rfl)
    (captureIteration_follows os serverAddr patience env) n

theorem openSock_follows : Proc.Follows seen (openSock os)
    (emit .socketOpen : Exec Fault (World cv) Unit) := by
  have he : Exec.Moves (Adds fun _ => True)
      (emit .socketOpen : Exec Fault (World cv) Unit) := emit_adds _ trivial
  refine Proc.Follows.silent Proc.Silent.get (fun t => ?_) he
  refine Proc.Follows.silent (onSystem_silent _) (fun sock => ?_) he
  exact Proc.Follows.silent (Proc.Silent.modify _ fun _ => rfl) (fun _ => onWorld_follows he) he

theorem opened_follows (env : Env cv) (heap : BlendShapeList) (n : Nat) :
    Proc.Follows seen (openSock os>>=fun _ => afterOpen os serverAddr patience env heap n)
      (MediapipeLivelink.main env heap n) := by
  have hdelete : Proc.Follows seen (onWorld deleteBlendShapeList)
      (deleteBlendShapeList : Exec Fault (World cv) Unit) :=
    onWorld_follows (deleteBlendShapeList_adds trivial)
  unfold afterOpen MediapipeLivelink.main
  refine (openSock_follows os).bind fun _ => ?_
  refine (external_follows os (newBlendShapeList_adds heap fun _ => trivial)).bind fun _ => ?_
  iterate 3 refine (external_follows os (emit_adds _ trivial)).bind fun _ => ?_
  refine Proc.Follows.ite (hdelete.bind fun _ => Proc.Follows.pure _) ?_
  iterate 3 refine (external_follows os (emit_adds _ trivial)).bind fun _ => ?_
  refine (captureLoop_follows os serverAddr patience env n).bind fun c => ?_
  cases c with
  | next => exact Proc.Follows.pure _
  | leave =>
    refine hdelete.bind fun _ => ?_
    iterate 3 refine (external_follows os (emit_adds _ trivial)).bind fun _ => ?_
    exact Proc.Follows.pure _

theorem fromString_silent (str : String) :
    Proc.Silent seen (fromString os str : Proc Halt (Process cv) Asio.Address) := by
  intro t
  rw [fromString]
  split
  · rfl
  · exact ⟨by simp [seen,IsFault],rfl⟩

theorem destroySock_silent : Proc.Silent seen (destroySock os : Proc Halt (Process cv) Unit) :=
  Proc.Silent.get.bind fun _ => onSystem_silent _

theorem main_follows (env : Env cv) (heap : BlendShapeList) (n : Nat) :
    Proc.Follows seen (main os env heap n patience) (MediapipeLivelink.main env heap n) := by
  have hopened (addr : Buffer) := opened_follows os addr patience env heap n
  have hcall {p : Unit → Proc Halt (Process cv) (Option Int)}
      (hp : Proc.Follows seen (p ()) (MediapipeLivelink.main env heap n)) :
      Proc.Follows seen (calling os>>=p) (MediapipeLivelink.main env heap n) :=
    Proc.Follows.silent (calling_silent os) (fun _ => hp) hp.moves
  refine hcall (hcall ?_)
  refine Proc.Follows.silent (fromString_silent os _) (fun address => ?_) (hopened []).moves
  have hend (t : Process cv) :
      (destroySock os).Ensures t (fun _ _ => True) (fun _ _ => False) := by
    apply (destroySock_ends os t).mono
    · exact fun _ _ _ => trivial
    · exact fun _ _ h => h
  refine hcall ?_
  exact Proc.Follows.guarded (hopened _) _ (destroySock_silent os) hend

end Follows

/-- Whatever the operating system does, a process that returns has done what the program does
with a network that never fails, and one that is cut short has stopped on the way. -/
theorem main_refines (os : System) (env : Env cv) (heap : BlendShapeList) (n patience : Nat)
    (r : Option Int×World cv) (hr : MediapipeLivelink.run env heap n=.ok r) :
    (main os env heap n patience).Ensures (start cv)
      (fun code t => code=r.1 ∧ t.world=r.2)
      (fun e t => ¬IsFault e ∧ t.world.trace<+:r.2.trace) := by
  apply ((main_follows os patience env heap n).outcome (start cv) r.1 r.2 hr).mono
  · exact fun _ _ h => h
  · intro e t h
    obtain ⟨hs,es,he,-⟩ := h
    exact ⟨hs,es,he.symm⟩

end Process

end MediapipeLivelink
