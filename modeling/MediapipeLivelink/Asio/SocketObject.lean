import MediapipeLivelink.Asio.Descriptor
import Mathlib.Tactic.Common

namespace MediapipeLivelink

namespace Asio

/-- What a program can do with a socket object, with the error code returned. -/
inductive Operation
  | openWith (type : SocketType)
  | close
  | nonBlocking (mode : Bool)
  | sendTo (buffer addr : Buffer)

def Operation.perform (k : Kernel) (m : Nat) (impl : Implementation) :
    Operation → Sys (Implementation×ErrorCode)
  | .openWith type => doOpen k impl type
  | .close => closeSocket k impl
  | .nonBlocking mode => setNonBlocking k impl mode
  | .sendTo buffer addr => do
    let (_,ec) ← serviceSendTo k impl buffer addr m
    return (impl,ec)

/-- The datagram that an operation has sent, if it answers without an error. -/
def Operation.sent : Operation → ErrorCode → List (Buffer×Buffer)
  | .sendTo buffer addr,none => [(buffer,addr)]
  | _,_ => []

/-- Any use of a socket object, and the datagrams that it was told are sent. -/
def uses (k : Kernel) (m : Nat) : List Operation → Implementation → List (Buffer×Buffer) →
    Sys (Implementation×List (Buffer×Buffer))
  | [],impl,sent => return (impl,sent)
  | op::ops,impl,sent => do
    let (impl,ec) ← op.perform k m impl
    uses k m ops impl (sent++op.sent ec)

/-- The descriptor of an object, as the calls since its last complete life show it. -/
def Implementation.descriptor (impl : Implementation) : Descriptor :=
  match impl.socket with
  | some s => .held s
  | none => .unopened

/-- The calls are complete lives of descriptors, and the beginning of one that leads to `d`;
together they get the datagrams `sent` accepted. -/
structure Lives (calls : List SystemCall) (d : Descriptor) (sent : List (Buffer×Buffer)) :
    Prop where
  lives : ∃(past : List (List SystemCall)) (last : List SystemCall),calls=past.flatten++last ∧
    (∀life∈past,descriptorLife.Leads .unopened life .closed) ∧
    descriptorLife.Leads .unopened last d
  accepted : accepted calls=sent

theorem Lives.goes_on {calls cs : List SystemCall} {d d' : Descriptor}
    {sent sent' : List (Buffer×Buffer)} (h : Lives calls d sent) (hcs : Handles d cs d' sent') :
    Lives (calls++cs) d' (sent++sent') := by
  obtain ⟨⟨past,last,rfl,hp,hl⟩,hs⟩ := h
  constructor
  · refine ⟨past,last++cs,by rw [List.append_assoc],hp,hl.append hcs.leads⟩
  · rw [Asio.accepted,List.filterMap_append]
    exact congrArg₂ (·++·) hs hcs.accepted

/-- A life that is complete makes place for the next. -/
theorem Lives.renew {calls : List SystemCall} {sent : List (Buffer×Buffer)}
    (h : Lives calls .closed sent) : Lives calls .unopened sent := by
  obtain ⟨⟨past,last,rfl,hp,hl⟩,hs⟩ := h
  refine ⟨⟨past++[last],[],by simp,?_,trivial,rfl⟩,hs⟩
  intro life hlife
  rcases List.mem_append.mp hlife with hm|hm
  · exact hp life hm
  · exact List.mem_singleton.mp hm ▸ hl

/-- An operation goes on with the life of the descriptor, begins one, or completes it. -/
def Step (impl impl' : Implementation) (cs : List SystemCall) (sent : List (Buffer×Buffer)) :
    Prop :=
  Handles impl.descriptor cs impl'.descriptor sent ∨
    (Handles impl.descriptor cs .closed sent ∧ impl'.socket=none)

theorem Lives.step {calls cs : List SystemCall} {impl impl' : Implementation}
    {sent sent' : List (Buffer×Buffer)} (h : Lives calls impl.descriptor sent)
    (hs : Step impl impl' cs sent') : Lives (calls++cs) impl'.descriptor (sent++sent') := by
  rcases hs with hs|⟨hs,hc⟩
  · exact h.goes_on hs
  · have hd : impl'.descriptor=.unopened := by simp [Implementation.descriptor,hc]
    rw [hd]
    exact (h.goes_on hs).renew

section Operations

variable (k : Kernel) (m : Nat) (impl : Implementation)

theorem openWith_step (type : SocketType) : Proc.Writes (doOpen k impl type)
    (fun r cs => Step impl r.1 cs []) (fun _ _ => False) := by
  cases hs : impl.socket with
  | none =>
    have hd : impl.descriptor=.unopened := by simp [Implementation.descriptor,hs]
    apply (doOpen_calls k impl type hs).mono
    · intro r cs hr
      rcases hr with ⟨s,registered,rfl,ho⟩|⟨e,rfl,hf⟩
      · exact .inl (by rw [hd]; exact ho.handles)
      · rcases hf.handles with hh|hh
        · exact .inl (by rw [hd]; exact hh)
        · exact .inr ⟨by rw [hd]; exact hh,hs⟩
    · exact fun _ _ h => h
  | some s =>
    have ho : impl.isOpen=true := by simp [Implementation.isOpen,hs]
    simp only [doOpen,ho,if_true]
    exact Proc.Writes.pure _ (.inl (.nothing _))

theorem closeSocket_step : Proc.Writes (closeSocket k impl) (fun r cs => Step impl r.1 cs [])
    (fun _ _ => False) := by
  cases hs : impl.socket with
  | none =>
    have hd : impl.descriptor=.unopened := by simp [Implementation.descriptor,hs]
    simp only [closeSocket,hs]
    exact Proc.Writes.pure _ (.inl (by rw [hd]; exact .nothing _))
  | some s =>
    have hd : impl.descriptor=.held s := by simp [Implementation.descriptor,hs]
    simp only [closeSocket,hs]
    apply (deregisterDescriptor_calls s impl _).seq
    intro _ cs hcs
    apply (close_calls k s impl.state false none).seq
    intro r ds hds
    obtain ⟨es,hes,rfl⟩ := hds
    apply Proc.Writes.pure
    refine .inr ⟨?_,rfl⟩
    rw [hd,hcs,List.append_nil]
    exact (deregister_handles _).append hes.handles

theorem setNonBlocking_step (mode : Bool) : Proc.Writes (setNonBlocking k impl mode)
    (fun r cs => Step impl r.1 cs []) (fun _ _ => False) := by
  have hm : Proc.Writes (setUserNonBlocking k impl.socket impl.state mode)
      (fun _ cs => Handles impl.descriptor cs impl.descriptor []) (fun _ _ => False) := by
    cases hs : impl.socket with
    | none => exact Proc.Writes.pure _ (.nothing _)
    | some s =>
      have hd : impl.descriptor=.held s := by simp [Implementation.descriptor,hs]
      rw [hd]
      apply (ask_writes k.ioctl (.nonBlockingMode s mode)).seq
      intro answer cs hc
      subst hc
      have hh : Handles (.held s) [.nonBlockingMode s mode answer] (.held s) [] :=
        ⟨⟨⟨rfl,trivial⟩,rfl⟩,rfl⟩
      cases answer with
      | some e => exact Proc.Writes.pure _ (by simpa using hh)
      | none =>
        cases mode with
        | true => exact Proc.Writes.pure _ (by simpa using hh)
        | false => exact Proc.Writes.pure _ (by simpa using hh)
  apply hm.seq
  intro r cs hcs
  apply Proc.Writes.pure
  rw [List.append_nil]
  exact .inl hcs

theorem serviceSendTo_step (buffer addr : Buffer) :
    Proc.Writes (serviceSendTo k impl buffer addr m)
      (fun r cs => Step impl impl cs (Operation.sent (.sendTo buffer addr) r.2))
      (fun e cs => e=.waiting ∧ impl.socket.isSome ∧
        Handles impl.descriptor cs impl.descriptor []) := by
  rw [serviceSendTo_eq]
  cases hs : impl.socket with
  | none => exact Proc.Writes.pure _ (.inl (.nothing _))
  | some s =>
    have hd : impl.descriptor=.held s := by simp [Implementation.descriptor,hs]
    apply (untilSent_writes k s buffer addr impl.state m).mono
    · intro r cs hr
      have hh := hr.handles
      refine .inl ?_
      rw [hd]
      cases he : r.2 with
      | none => simpa [he,Operation.sent] using hh
      | some e => simpa [he,Operation.sent] using hh
    · intro e cs h
      exact ⟨h.1,rfl,by rw [hd]; exact h.2.handles⟩

theorem perform_step (op : Operation) : Proc.Writes (op.perform k m impl)
    (fun r cs => Step impl r.1 cs (op.sent r.2))
    (fun e cs => e=.waiting ∧ impl.socket.isSome ∧
      Handles impl.descriptor cs impl.descriptor []) := by
  cases op with
  | openWith type => exact (openWith_step k impl type).mono (fun _ _ h => h) fun _ _ h => h.elim
  | close => exact (closeSocket_step k impl).mono (fun _ _ h => h) fun _ _ h => h.elim
  | nonBlocking mode =>
    exact (setNonBlocking_step k impl mode).mono (fun _ _ h => h) fun _ _ h => h.elim
  | sendTo buffer addr =>
    apply (serviceSendTo_step k m impl buffer addr).bind
    intro r cs hr
    exact Proc.Writes.pure _ (by simpa using hr)

end Operations

/-- Any use of an object keeps the account, also where it waits for a send. -/
theorem uses_lives (k : Kernel) (m : Nat) (ops : List Operation) (impl : Implementation)
    (sent : List (Buffer×Buffer)) (calls : List SystemCall)
    (h : Lives calls impl.descriptor sent) : (uses k m ops impl sent).Ensures calls
      (fun r calls' => Lives calls' r.1.descriptor r.2)
      (fun e calls' => e=.waiting ∧ ∃s sent',Lives calls' (.held s) sent') := by
  induction ops generalizing impl sent calls with
  | nil => exact h
  | cons op ops ih =>
    rw [uses,Proc.bind_ensures]
    apply (perform_step k m impl op calls).mono
    · intro r calls' hr
      obtain ⟨cs,rfl,hs⟩ := hr
      exact ih r.1 (sent++op.sent r.2) _ (h.step hs)
    · intro e calls' he
      obtain ⟨cs,rfl,hw,ho,hs⟩ := he
      obtain ⟨s,hsock⟩ := Option.isSome_iff_exists.mp ho
      have hd : impl.descriptor=.held s := by simp [Implementation.descriptor,hsock]
      have hl := h.goes_on hs
      rw [hd] at hl
      exact ⟨hw,s,_,hl⟩

/-- Whatever a program does with a socket object and whatever the system answers: every descriptor
that is opened is used under its own number and closed, at the latest by the destructor, and the
datagrams accepted are those that the program was told are sent. -/
theorem object_accounted (k : Kernel) (m : Nat) (ops : List Operation) :
    (do
      let (impl,sent) ← uses k m ops construct []
      destroy k impl
      return sent : Sys (List (Buffer×Buffer))).Ensures []
      (fun sent calls => Lives calls .unopened sent)
      (fun e calls => e=.waiting ∧ ∃s sent,Lives calls (.held s) sent) := by
  have hstart : Lives [] construct.descriptor [] := ⟨⟨[],[],rfl,by simp,trivial,rfl⟩,rfl⟩
  rw [Proc.bind_ensures]
  apply (uses_lives k m ops construct [] [] hstart).mono
  · intro r calls hl
    obtain ⟨impl,sent⟩ := r
    rw [Proc.bind_ensures]
    cases hs : impl.socket with
    | none =>
      have hd : impl.descriptor=.unopened := by simp [Implementation.descriptor,hs]
      simp only [destroy,hs]
      exact hd ▸ hl
    | some s =>
      have hd : impl.descriptor=.held s := by simp [Implementation.descriptor,hs]
      apply (destroy_calls k impl calls).mono
      · intro _ calls' hc
        obtain ⟨cs,rfl,hcs⟩ := hc
        have hend := (hl.goes_on (hd.symm ▸ hcs.handles hs)).renew
        rwa [List.append_nil] at hend
      · intro _ _ hc
        obtain ⟨-,-,hc⟩ := hc
        exact hc.elim
  · exact fun _ _ h => h

end Asio

end MediapipeLivelink
