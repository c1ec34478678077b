import MediapipeLivelink.Program.Process

namespace MediapipeLivelink

namespace Process

variable {cv : OpenCV} {α : Type}

/-- What the program adds to the trace apart from the datagrams. -/
def Quiet : Event cv → Prop
  | .sendTo _ _ => False
  | _ => True

/-- What the program adds to the trace apart from the datagrams, until it ends. -/
def Unended : Event cv → Prop
  | .releaseFaceBlendShapeInterface => False
  | e => Quiet e

/-- What an iteration adds to the trace apart from the datagrams. -/
def InLoop : Event cv → Prop
  | .capture _ => True
  | .faceBlendShapeProcess _ => True
  | .getFaceBlendShapeOutput _ => True
  | .readBlendShape _ => True
  | .imshow _ _ => True
  | .waitKey _ => True
  | _ => False

theorem InLoop.unended (e : Event cv) (h : InLoop e) : Unended e := by
  cases e <;> trivial

theorem Unended.quiet (e : Event cv) (h : Unended e) : Quiet e := by
  cases e <;> trivial

theorem calling_ensures (os : System) (t : Process cv) {P : Unit → Process cv → Prop}
    {Q : Halt → Process cv → Prop} : (calling os).Ensures t P Q ↔
      if os.throws t.externals then Q .exception {t with externals := t.externals+1}
      else P () {t with externals := t.externals+1} := by
  rw [calling,Proc.bind_ensures,Proc.get_ensures,Proc.bind_ensures,Proc.modify_ensures]
  by_cases h : os.throws t.externals=true
  · simp only [h,if_true,Proc.throw_ensures]
  · simp only [h,Bool.false_eq_true,if_false,Proc.pure_ensures]

theorem calling_keeps (os : System) {I : Process cv → Prop} {E : Halt → Process cv → Prop}
    (hi : ∀t,os.throws t.externals=false → I t → I {t with externals := t.externals+1})
    (he : ∀t,os.throws t.externals=true → I t → E .exception {t with externals := t.externals+1}) :
    Proc.Keeps I E (calling os) := by
  constructor
  intro t ht
  rw [calling_ensures]
  by_cases h : os.throws t.externals=true
  · rw [if_pos h]
    exact he t h ht
  · rw [if_neg h]
    exact hi t (Bool.eq_false_of_not_eq_true h) ht

section Keeps

variable {os : System} {serverAddr : Buffer} {patience : Nat}
variable {I : Process cv → Prop} {E : Halt → Process cv → Prop}

/-- A call that does not throw. -/
theorem external_run {P : α → Process cv → Prop} {Q : Halt → Process cv → Prop}
    {x : Exec Fault (World cv) α} {a : α} {w : World cv} (t : Process cv)
    (hx : x t.world=.ok (a,w)) (hq : ∀u,Q .exception u)
    (hp : P a {t with world := w,externals := t.externals+1}) :
    (external os x).Ensures t P Q := by
  rw [external,Proc.bind_ensures,calling_ensures]
  split
  · exact hq _
  · exact (Proc.ofExec_ensures world (fun w t => {t with world := w}) Halt.fault x
      {t with externals := t.externals+1} hx).mpr hp

theorem sendBuffer_keeps (hsystem : ∀{β : Type} (p : Asio.Sys β),Proc.Keeps I E (onSystem p))
    (hemit : ∀d,Proc.Keeps I E (onWorld (emit (.sendTo d serverEndpoint)))) :
    Proc.Keeps I E (sendBuffer os serverAddr patience) :=
  Proc.Keeps.get.bind fun _ => (hsystem _).bind fun _ => hemit _

theorem external_keeps {x : Exec Fault (World cv) α} (hcall : Proc.Keeps I E (calling os))
    (hx : Proc.Keeps I E (onWorld x)) : Proc.Keeps I E (external os x) :=
  hcall.bind fun _ => hx

variable (hcall : Proc.Keeps I E (calling os))
variable (hsend : Proc.Keeps I E (sendBuffer os serverAddr patience))

section Loop

variable (hworld : ∀{β : Type} (x : Exec Fault (World cv) β),
  Exec.Moves (Adds InLoop) x → Proc.Keeps I E (onWorld x))

include hsend hworld

theorem sendLoop_keeps : Proc.Keeps I E (sendLoop os serverAddr patience) := by
  have hbuild := hworld _ (buildPacket_adds uuid.1 name.1 fun _ => trivial)
  exact Proc.Keeps.forM _ (fun _ => hbuild.bind fun _ => hsend) _

include hcall

theorem captureIteration_keeps (env : Env cv) :
    Proc.Keeps I E (captureIteration os serverAddr patience env) := by
  have hmove {β : Type} (x : Exec Fault (World cv) β) (hx : Exec.Moves (Adds InLoop) x) :
      Proc.Keeps I E (external os x) := external_keeps hcall (hworld x hx)
  have hflip : Proc.Keeps I E
      (external os (modify fun w => {w with cameraBgrFrame := cv.flip w.cameraBgrFrame 1})) :=
    hmove _ (modify_adds _ fun _ => rfl)
  have hended : Proc.Keeps I E (onWorld (modify fun w => {w with grabFrame := false})) :=
    hworld _ (modify_adds _ fun _ => rfl)
  have hcapture := hmove _ (captureFrame_adds env fun _ => trivial)
  have hprocess (mat : cv.Mat) := hmove _ (emit_adds (.faceBlendShapeProcess mat) trivial)
  have houtput := hmove _ (getFaceBlendShapeOutput_adds env blendShapeSize fun _ => trivial)
  have himshow (mat : cv.Mat) := hmove _ (emit_adds (.imshow "camera" mat) trivial)
  have hkey := hmove _ (waitKey_adds env 30 trivial)
  unfold captureIteration
  refine hcapture.bind fun _ => ?_
  simp only [isCamera,if_true]
  refine hflip.bind fun _ => ?_
  refine Proc.Keeps.get.bind fun t => ?_
  split
  · exact Proc.Keeps.pure _
  · refine hcall.bind fun _ => ?_
    refine Proc.Keeps.get.bind fun t => ?_
    refine (hprocess _).bind fun _ => ?_
    refine houtput.bind fun _ => ?_
    refine Proc.Keeps.get.bind fun t => ?_
    have hend : Proc.Keeps I E (do
        external os (emit (.imshow "camera" (← get).world.cameraBgrFrame))
        if pressed (← external os (waitKey env 30)) then
          onWorld (modify fun w => {w with grabFrame := false})
        return .next : Proc Halt (Process cv) Control) := by
      refine Proc.Keeps.get.bind fun t => ?_
      refine (himshow _).bind fun _ => ?_
      refine hkey.bind fun key => ?_
      split
      · exact hended.bind fun _ => Proc.Keeps.pure _
      · exact Proc.Keeps.pure _
    split
    · exact (sendLoop_keeps hsend hworld).bind fun _ => hend
    · exact hend

theorem captureLoop_keeps (env : Env cv) (n : Nat) :
    Proc.Keeps I E (captureLoop os serverAddr patience env n) :=
  Proc.Keeps.whileLoop _ (captureIteration_keeps hcall hsend hworld env) n

end Loop

include hcall hsend

/-- The last call leads from the invariant to what holds in the end. -/
theorem afterOpen_ensures {J : Process cv → Prop} (hj : ∀t,I t → J t)
    (hworld : ∀{β : Type} (x : Exec Fault (World cv) β),
      Exec.Moves (Adds Unended) x → Proc.Keeps I E (onWorld x))
    (hlast : ∀t,I t →
      (external os (emit .releaseFaceBlendShapeInterface)).Ensures t (fun _ => J) E)
    (env : Env cv) (heap : BlendShapeList) (n : Nat) (t : Process cv) (ht : I t) :
    (afterOpen os serverAddr patience env heap n).Ensures t (fun _ => J) E := by
  have hemit (e : Event cv) (he : Unended e) := external_keeps hcall (hworld _ (emit_adds e he))
  have hnew := external_keeps hcall (hworld _ (newBlendShapeList_adds heap fun _ => trivial))
  have hdelete := hworld _ (deleteBlendShapeList_adds trivial)
  have hloop : Proc.Keeps I E (captureLoop os serverAddr patience env n) :=
    captureLoop_keeps hcall hsend
      (fun x hx => hworld x (hx.mono fun _ _ h => h.mono InLoop.unended)) env n
  unfold afterOpen
  refine hnew.then (fun _ => ?_) t ht
  iterate 3 refine Proc.Keeps.then (hemit _ (by trivial)) fun _ => ?_
  intro t ht
  split
  · refine hdelete.then (fun _ u hu => ?_) t ht
    exact hj u hu
  · revert t
    iterate 3 refine Proc.Keeps.then (hemit _ (by trivial)) fun _ => ?_
    refine hloop.then fun c => ?_
    cases c with
    | next => exact hj
    | leave =>
      refine hdelete.then fun _ => ?_
      iterate 2 refine Proc.Keeps.then (hemit _ (by trivial)) fun _ => ?_
      intro t ht
      rw [Proc.bind_ensures]
      exact hlast t ht

end Keeps

theorem afterOpen_keeps {os : System} {serverAddr : Buffer} {patience : Nat}
    {I : Process cv → Prop} {E : Halt → Process cv → Prop}
    (hcall : Proc.Keeps I E (calling os))
    (hsend : Proc.Keeps I E (sendBuffer os serverAddr patience))
    (hworld : ∀{β : Type} (x : Exec Fault (World cv) β),
      Exec.Moves (Adds Quiet) x → Proc.Keeps I E (onWorld x))
    (env : Env cv) (heap : BlendShapeList) (n : Nat) :
    Proc.Keeps I E (afterOpen os serverAddr patience env heap n) := by
  have hlast := external_keeps hcall (hworld _ (emit_adds .releaseFaceBlendShapeInterface trivial))
  constructor
  exact afterOpen_ensures hcall hsend (fun _ h => h)
    (fun x hx => hworld x (hx.mono fun _ _ h => h.mono Unended.quiet)) hlast.ensures env heap n

/-- The destructor adds its system calls, and nothing else. -/
theorem destroySock_ends (os : System) (t : Process cv) : (destroySock os).Ensures t
    (fun _ u => ∃later,u={t with calls := t.calls++later} ∧ Asio.Destroyed t.sock later)
    (fun _ _ => False) := by
  rw [destroySock,Proc.bind_ensures,Proc.get_ensures,onSystem,Proc.zoom_ensures]
  apply (Asio.destroy_calls os.kernel t.sock t.calls).mono
  · intro _ calls h
    obtain ⟨later,rfl,hd⟩ := h
    exact ⟨later,rfl,hd⟩
  · intro _ _ h
    obtain ⟨-,-,h⟩ := h
    exact h

section Main

/-- No call has thrown. -/
def Calm (os : System) (t : Process cv) : Prop := ∀call<t.externals,os.throws call=false

/-- The last call has thrown, and none before it. -/
def LastThrew (os : System) (t : Process cv) : Prop :=
  ∃call,t.externals=call+1 ∧ os.throws call=true ∧ ∀earlier<call,os.throws earlier=false

theorem Calm.next {os : System} {t : Process cv} (h : Calm os t)
    (ht : os.throws t.externals=false) : Calm os {t with externals := t.externals+1} := by
  intro call hc
  by_cases he : call=t.externals
  · rw [he]
    exact ht
  · have hl : call<t.externals+1 := hc
    exact h call (by omega)

/-- Nothing has been done but to construct. -/
structure Fresh (os : System) (t : Process cv) : Prop where
  world : t.world=World.start cv
  sock : t.sock=Asio.construct
  calls : t.calls=[]
  calm : Calm os t

/-- The socket is open, in blocking mode, or the system has refused to open it. -/
theorem openSock_calls (os : System) (t : Process cv) (h : Fresh os t) : (openSock os).Ensures t
    (fun _ u => (∃s registered,u.sock=⟨some s,Asio.datagramOriented,registered⟩ ∧
      Asio.Opened os.kernel.win32 s u.calls) ∧ u.world=(World.start cv).extend [] [.socketOpen])
    (fun e u => ∃err,e=.stop (.systemError err "open") ∧
      Asio.Refused os.kernel.win32 err u.calls ∧ u.sock=Asio.construct ∧
        u.world=World.start cv) := by
  obtain ⟨w,sock,calls,externals⟩ := t
  obtain ⟨rfl,rfl,rfl,-⟩ := h
  have hopen := Asio.openSocket_calls os.kernel Asio.construct .dgram rfl []
  rw [openSock,Proc.bind_ensures,Proc.get_ensures,Proc.bind_ensures,onSystem,Proc.zoom_ensures]
  apply hopen.mono
  · intro sock calls h
    obtain ⟨cs,rfl,s,registered,rfl,hcs⟩ := h
    rw [Proc.bind_ensures,Proc.modify_ensures]
    apply (Proc.ofExec_ensures _ _ _ _ _ (emit_run _ _)).mpr
    exact ⟨⟨s,registered,rfl,hcs⟩,rfl⟩
  · intro e calls h
    obtain ⟨cs,rfl,err,rfl,hcs⟩ := h
    exact ⟨err,rfl,hcs,rfl,rfl⟩

/-- How a process is cut short before it opens the socket. -/
inductive Early (os : System) : Halt → Process cv → Prop
  | exception (t : Process cv) (h : Fresh os t) (ht : os.throws t.externals=true) :
      Early os .exception {t with externals := t.externals+1}
  | address (t : Process cv) (h : Fresh os t) (e : Asio.Error)
      (he : Asio.makeAddress os.inetPton "127.0.0.1"=.error e) :
      Early os (.stop (.systemError e "")) t

/-- From the part of `main` where the socket object lives, `B`, and its destructor
to all of `main`, `R`. -/
theorem main_rule (os : System) (env : Env cv) (heap : BlendShapeList) (n patience : Nat)
    (B R : Except Halt (Option Int) → Process cv → Prop)
    (hearly : ∀e t,Early os e t → R (.error e) t)
    (hbody : ∀t,Fresh os t →
      (openSock os>>=fun _ => afterOpen os (serverAddr os) patience env heap n).Ensures t
        (fun code => B (.ok code)) (fun e => B (.error e)))
    (hdestroy : ∀r t,destructs os r=true → B r t →
      (destroySock os).Ensures t (fun _ => R r) (fun _ _ => False))
    (hleft : ∀r t,destructs os r=false → B r t → R r t) :
    (main os env heap n patience).Ensures (start cv)
      (fun code => R (.ok code)) (fun e => R (.error e)) := by
  have hcall : Proc.Keeps (Fresh os) (fun e => R (.error e)) (calling os) := by
    apply calling_keeps
    · exact fun t ht h => ⟨h.world,h.sock,h.calls,h.calm.next ht⟩
    · exact fun t ht h => hearly _ _ (.exception t h ht)
  have hend (r : Except Halt (Option Int)) (t : Process cv) (hr : B r t) :
      if destructs os r then (destroySock os).Ensures t (fun _ => R r) (fun e => R (.error e))
      else R r t := by
    by_cases hd : destructs os r=true
    · rw [if_pos hd]
      apply (hdestroy r t hd hr).mono
      · exact fun _ _ h => h
      · exact fun _ _ h => h.elim
    · rw [if_neg hd]
      exact hleft r t (Bool.eq_false_of_not_eq_true hd) hr
  unfold main
  refine hcall.then (fun _ => hcall.then fun _ t ht => ?_) _ ⟨rfl,rfl,rfl,by simp [Calm,start]⟩
  rw [Proc.bind_ensures,fromString]
  cases ha : Asio.makeAddress os.inetPton "127.0.0.1" with
  | error e => exact hearly _ t (.address t ht e ha)
  | ok address =>
    have hs : (Asio.Sockaddr.ofAddress address port).data=serverAddr os := by
      rw [serverAddr,ha]
    simp only [Proc.pure_ensures,hs]
    refine hcall.then (fun _ u hu => ?_) t ht
    rw [Proc.guarded_ensures]
    apply (hbody u hu).mono
    · exact fun code v hv => hend (.ok code) v hv
    · exact fun e v hv => hend (.error e) v hv

end Main

end Process

end MediapipeLivelink
