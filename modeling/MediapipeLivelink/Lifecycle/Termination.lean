import MediapipeLivelink.Asio.Progress
import MediapipeLivelink.Lifecycle.Abort

namespace MediapipeLivelink

open Asio (accepted has userSetNonBlocking)

variable {cv : OpenCV}

/-- A system that serves every send in time and knows the address. -/
structure System.Serves (os : System) (patience : Nat) : Prop where
  kernel : os.kernel.Serves patience
  address : ∃address,Asio.makeAddress os.inetPton "127.0.0.1"=.ok address

/-- A system on which every second datagram has to wait. -/
def System.busy : System := {System.prompt with kernel := .busy}

namespace Process

/-- The socket is open in blocking mode. -/
structure Sendable (t : Process cv) : Prop where
  held : ∃s,t.sock.socket=some s
  blocking : has t.sock.state userSetNonBlocking=false

/-- Not asio's doing. -/
def Foreign (e : Halt) : Prop := ∀stop,e≠.stop stop

section Served

variable (os : System) (patience : Nat) (hk : os.Serves patience)
variable (env : Env cv) (heap : BlendShapeList) (n : Nat)

theorem onWorld_sendable {α : Type} (x : Exec Fault (World cv) α)
    (hx : Exec.Moves (Adds Quiet) x) :
    Proc.Keeps Sendable (fun e _ => Foreign e) (onWorld x) :=
  Proc.Keeps.ofExec hx (fun _ _ _ h => ⟨h.held,h.blocking⟩) fun _ _ _ => by simp [Foreign]

theorem calling_sendable : Proc.Keeps Sendable (fun e _ => Foreign e)
    (calling os : Proc Halt (Process cv) Unit) :=
  calling_keeps os (fun _ _ h => ⟨h.held,h.blocking⟩) fun _ _ _ => by simp [Foreign]

/-- A process that only an exception could cut short returns when there is none. -/
theorem returns_quiet (hq : ∀call,os.throws call=false) {P : Option Int → Process cv → Prop}
    (h : (main os env heap n patience).Ensures (start cv) P
      (fun e t => e=.exception ∧ LastThrew os t)) :
    ∃code,(run os env heap n patience).1=.ok code ∧ P code (run os env heap n patience).2 := by
  cases hrun : run os env heap n patience with
  | mk result t =>
    cases result with
    | ok code => exact ⟨code,rfl,h.ok hrun⟩
    | error e =>
      obtain ⟨-,call,-,ht,-⟩ := h.error hrun
      cases (hq call).symm.trans ht

include hk

theorem sendBuffer_sendable (addr : Buffer) : Proc.Keeps Sendable (fun e _ => Foreign e)
    (sendBuffer os addr patience : Proc Halt (Process cv) Unit) := by
  constructor
  intro t ht
  obtain ⟨s,hs⟩ := ht.held
  have hsend := (Asio.sendTo_succeeds_iff os.kernel t.sock s hs ht.blocking t.world.buffer addr
    patience t.calls).mpr (hk.kernel.takes _)
  rw [sendBuffer,Proc.bind_ensures,Proc.get_ensures,Proc.bind_ensures,onSystem,Proc.zoom_ensures]
  apply hsend.mono
  · intro bytes calls _
    apply (Proc.ofExec_ensures _ _ _ _ _ (emit_run _ _)).mpr
    exact ⟨⟨s,hs⟩,ht.blocking⟩
  · exact fun _ _ h => h.elim

theorem openSock_sendable (t : Process cv) (h : Fresh os t) : (openSock os).Ensures t
    (fun _ u => Sendable u) (fun _ _ => False) := by
  obtain ⟨w,sock,calls,externals⟩ := t
  obtain ⟨rfl,rfl,rfl,-⟩ := h
  have hopen := Asio.openSocket_serves os.kernel patience hk.kernel []
  rw [openSock,Proc.bind_ensures,Proc.get_ensures,Proc.bind_ensures,onSystem,Proc.zoom_ensures]
  apply hopen.mono
  · intro sock calls h
    rw [Proc.bind_ensures,Proc.modify_ensures]
    apply (Proc.ofExec_ensures _ _ _ _ _ (emit_run _ _)).mpr
    exact ⟨h.1,h.2⟩
  · exact fun _ _ h => h

theorem main_served : (main os env heap n patience).Ensures (start cv) (fun _ _ => True)
    (fun e _ => Foreign e) := by
  let R (r : Except Halt (Option Int)) (_ : Process cv) : Prop := ∀e,r=.error e → Foreign e
  have hmain : (main os env heap n patience).Ensures (start cv) (fun code => R (.ok code))
      (fun e => R (.error e)) := by
    apply main_rule os env heap n patience R R
    · intro e t ht e' he
      cases he
      cases ht with
      | exception t _ _ => simp [Foreign]
      | address t _ e he =>
        obtain ⟨address,ha⟩ := hk.address
        cases ha.symm.trans he
    · intro t ht
      rw [Proc.bind_ensures]
      apply (openSock_sendable os patience hk t ht).mono
      · intro _ u hu
        have hrest := afterOpen_keeps (calling_sendable os)
          (sendBuffer_sendable os patience hk (serverAddr os)) (fun x => onWorld_sendable x)
          env heap n
        apply (hrest.ensures u hu).mono
        · intro code v _ e he
          contradiction
        · intro e v hf e' he
          cases he
          exact hf
      · exact fun _ _ h => h.elim
    · intro r t _ hr
      apply (destroySock_ends os t).mono
      · exact fun _ _ _ => hr
      · exact fun _ _ h => h
    · exact fun _ _ _ hr => hr
  apply hmain.mono
  · exact fun _ _ _ => trivial
  · exact fun e _ h => h e rfl

theorem main_serves (r : Option Int×World cv) (hr : MediapipeLivelink.run env heap n=.ok r) :
    (main os env heap n patience).Ensures (start cv) (fun code t => code=r.1 ∧ t.world=r.2)
      (fun e t => e=.exception ∧ LastThrew os t) := by
  have hm := main_refines os env heap n patience r hr
  have he := main_ends os env heap patience n
  apply ((main_served os patience hk env heap n).and (hm.and he)).mono
  · exact fun _ _ h => h.2.1
  · intro e t h
    obtain ⟨hf,⟨hn,-⟩,hends⟩ := h
    cases (hends hn).reason with
    | address err _ _ _ _ => exact absurd rfl (hf _)
    | socket err _ _ _ => exact absurd rfl (hf _)
    | send stop _ _ _ _ _ _ _ _ => exact absurd rfl (hf stop)
    | exception _ h => exact ⟨rfl,h⟩

/-- On a system that serves it, the process does what the program does with a network
that never fails, and every datagram is accepted, unless a call throws: the first one that does
is the last one made. -/
theorem run_served :
    Returns (MediapipeLivelink.run env heap n) fun r =>
      (main os env heap n patience).Ensures (start cv)
        (fun code t => code=r.1 ∧ t.world=r.2 ∧ accepted t.calls=
          (transmitted env heap (frameCount env n)).map fun d => (d,serverAddr os))
        (fun e t => e=.exception ∧ LastThrew os t) := by
  obtain ⟨r,hr,-⟩ := run_transmits env heap n
  have hs := main_serves os patience hk env heap n r hr
  refine ⟨r,hr,?_⟩
  apply (hs.and (main_accepted os env heap n patience)).mono
  · exact fun _ _ h => ⟨h.1.1,h.1.2,h.2.2⟩
  · exact fun _ _ h => h.1

theorem quiet_returns (hq : ∀call,os.throws call=false) :
    (run os env heap n patience).1=.ok (exitCode env n) ∧
      accepted (run os env heap n patience).2.calls=
        (transmitted env heap (frameCount env n)).map fun d => (d,serverAddr os) := by
  obtain ⟨r,hr,-⟩ := run_transmits env heap n
  obtain ⟨code,hrun,-⟩ := returns_quiet os patience env heap n hq
    (main_serves os patience hk env heap n r hr)
  have ha := accepted_returned os env heap n patience code hrun
  exact ⟨ha.1 ▸ hrun,ha.2⟩

/-- On a system that serves it, and if no call throws, the process comes to an end with an
exit code exactly when the camera does not open, the frames stop, or a key is pressed. -/
theorem run_terminates_iff (hq : ∀call,os.throws call=false) :
    (∃n code,(run os env heap n patience).1=.ok (some code)) ↔
      (env.isOpened=true → ∃k,cv.empty (env.frame k)=true ∨ pressed (env.key k)=true) := by
  have hcode (n : Nat) : (∃code,(run os env heap n patience).1=.ok (some code)) ↔
      (exitCode env n).isSome=true := by
    rw [(quiet_returns os patience hk env heap n hq).1]
    simp [Option.isSome_iff_exists]
  rw [← exitCode_isSome_iff]
  simp only [hcode]

end Served

theorem busy_serves : System.busy.Serves 2 := by
  refine ⟨⟨?_,?_,?_⟩,⟨_,rfl⟩⟩
  · exact fun _ => ⟨3,rfl⟩
  · exact fun _ => .inl rfl
  · exact Asio.busy_takes

/-- Every second send has to wait first, and all 52 datagrams are accepted. -/
theorem served_busy : (run .busy (.faceless true 1) (fun _ => ⟨0⟩) 2 2).1=.ok (some 0) ∧
    (accepted (run .busy (.faceless true 1) (fun _ => ⟨0⟩) 2 2).2.calls).length=52 := by
  obtain ⟨r,hr,code,hrun,hcode,-,hall⟩ :=
    (run_served .busy 2 busy_serves (.faceless true 1) (fun _ => ⟨0⟩) 2).mono
      fun _ => returns_quiet .busy 2 (.faceless true 1) (fun _ => ⟨0⟩) 2 fun _ => rfl
  have hc := ((run_transmits (.faceless true 1) (fun _ => ⟨0⟩) 2).apply hr).1
  rw [hrun,hcode,hc,hall,List.length_map,transmitted_length]
  exact ⟨rfl,rfl⟩

theorem prompt_serves : System.prompt.Serves 1 := by
  refine ⟨⟨?_,?_,?_⟩,⟨_,rfl⟩⟩
  · exact fun _ => ⟨3,rfl⟩
  · exact fun _ => .inl rfl
  · exact fun _ => ⟨0,by omega,by simp,314,rfl⟩

theorem terminates_prompt :
    (∃n code,(run .prompt (.faceless true 1) (fun _ => ⟨0⟩) n 1).1=.ok (some code)) ↔
      ((Env.faceless true 1).isOpened=true → ∃k,OpenCV.sizes.empty ((Env.faceless true 1).frame k)=true ∨
        pressed ((Env.faceless true 1).key k)=true) :=
  run_terminates_iff .prompt 1 prompt_serves (.faceless true 1) (fun _ => ⟨0⟩) fun _ => rfl

end Process

end MediapipeLivelink
