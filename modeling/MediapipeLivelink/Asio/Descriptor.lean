import MediapipeLivelink.Asio.OpenClose
import MediapipeLivelink.Framework.Monitor

namespace MediapipeLivelink

namespace Asio

/-- The life of a descriptor. A close that would block leaves it `stuck`,
and `resumed` when it is in blocking mode again. Any other close ends it, also one that fails,
and so does the second one: asio assumes that the system closes the descriptor all the same. -/
inductive Descriptor
  | unopened
  | held (s : Nat)
  | stuck (s : Nat)
  | resumed (s : Nat)
  | closed
  deriving DecidableEq

def Descriptor.next : Descriptor → SystemCall → Descriptor
  | _,.socket (.ok s) => .held s
  | .held s,.close _ answer => if blocked answer then .stuck s else .closed
  | .resumed _,.close _ _ => .closed
  | .stuck s,.blockingMode _ => .resumed s
  | d,_ => d

/-- One descriptor is opened, used under its own number, and closed once;
a second time only after a close that would block. -/
def Descriptor.allowed : Descriptor → SystemCall → Prop
  | .unopened,.socket _ => True
  | .held s,.register t _ => t=s
  | .held s,.deregister t => t=s
  | .held s,.lingerOff t => t=s
  | .held s,.sendto t _ _ _ => t=s
  | .held s,.poll t _ _ => t=s
  | .held s,.nonBlockingMode t _ _ => t=s
  | .held s,.close t _ => t=s
  | .stuck s,.blockingMode t => t=s
  | .resumed s,.close t _ => t=s
  | _,_ => False

def descriptorLife : Monitor SystemCall Descriptor := ⟨Descriptor.next,Descriptor.allowed⟩

/-- The datagrams that the system has taken, each with the bytes of its address. -/
def SystemCall.accepted : SystemCall → Option (Buffer×Buffer)
  | .sendto _ data addr (.ok _) => some (data,addr)
  | _ => none

def accepted (calls : List SystemCall) : List (Buffer×Buffer) :=
  calls.filterMap SystemCall.accepted

/-- The calls lead the descriptor from `d` to `d'` and get the datagrams `sent` accepted. -/
structure Handles (d : Descriptor) (calls : List SystemCall) (d' : Descriptor)
    (sent : List (Buffer×Buffer)) : Prop where
  leads : descriptorLife.Leads d calls d'
  accepted : accepted calls=sent

theorem Handles.append {d d' d'' : Descriptor} {cs ds : List SystemCall}
    {sent sent' : List (Buffer×Buffer)} (h : Handles d cs d' sent) (h' : Handles d' ds d'' sent') :
    Handles d (cs++ds) d'' (sent++sent') := by
  refine ⟨h.leads.append h'.leads,?_⟩
  rw [Asio.accepted,List.filterMap_append]
  exact congrArg₂ (·++·) h.accepted h'.accepted

theorem Handles.nothing (d : Descriptor) : Handles d [] d [] := ⟨⟨trivial,rfl⟩,rfl⟩

section Lives

variable {s : Nat} {data addr : Buffer}

/-- An attempt that would block and the wait after it. -/
theorem attempt_handles (e : Error) (n : Nat) : Handles (.held s)
    [.sendto s data addr (.error e),.poll s (-1) (.ok n)] (.held s) [] :=
  ⟨⟨⟨rfl,rfl,trivial⟩,rfl⟩,rfl⟩

/-- A send that succeeds gets its datagram accepted once, and one that fails not at all. -/
theorem Sending.handles {win32 : Bool} {state : StateType} {cs : List SystemCall}
    {r : Nat×ErrorCode} (h : Sending win32 state s data addr cs r) :
    Handles (.held s) cs (.held s) (if r.2=none then [(data,addr)] else []) := by
  induction h with
  | sent bytes => exact ⟨⟨⟨rfl,trivial⟩,rfl⟩,rfl⟩
  | failed e h => exact ⟨⟨⟨rfl,trivial⟩,rfl⟩,rfl⟩
  | unready e e' hn hb => exact ⟨⟨⟨rfl,rfl,trivial⟩,rfl⟩,rfl⟩
  | again e n hn hb h ih => exact (attempt_handles e n).append ih

theorem Blocked.handles {m : Nat} {cs : List SystemCall} (h : Blocked s data addr m cs) :
    Handles (.held s) cs (.held s) [] := by
  induction h with
  | start => exact .nothing _
  | again e n hb h ih => exact (attempt_handles e n).append ih

/-- However a close ends, the descriptor is given up. -/
theorem Closing.handles {cs : List SystemCall} (h : Closing s cs) :
    Handles (.held s) cs .closed [] := by
  cases h with
  | once answer h =>
    refine ⟨⟨⟨rfl,trivial⟩,?_⟩,rfl⟩
    change (if blocked answer then Descriptor.stuck s else .closed)=.closed
    rw [h,if_neg Bool.false_ne_true]
  | again answer answer' h =>
    have hd : Descriptor.next (.held s) (.close s answer)=.stuck s := by
      change (if blocked answer then Descriptor.stuck s else .closed)=.stuck s
      rw [h,if_pos rfl]
    have hs : Handles (.held s) [.close s answer] (.stuck s) [] := ⟨⟨⟨rfl,trivial⟩,hd⟩,rfl⟩
    have hr : Handles (.stuck s) [.blockingMode s,.close s answer'] .closed [] :=
      ⟨⟨⟨rfl,rfl,trivial⟩,rfl⟩,rfl⟩
    exact hs.append hr

theorem register_handles (answer : Option Error) :
    Handles .unopened [.socket (.ok s),.register s answer] (.held s) [] :=
  ⟨⟨⟨trivial,rfl,trivial⟩,rfl⟩,rfl⟩

theorem Opened.handles {win32 : Bool} {cs : List SystemCall} (h : Opened win32 s cs) :
    Handles .unopened cs (.held s) [] := by
  cases h with
  | watched => exact register_handles none
  | unwatched h => exact register_handles (some .noPermission)

/-- No descriptor is left behind. -/
theorem Refused.handles {win32 : Bool} {e : Error} {cs : List SystemCall}
    (h : Refused win32 e cs) :
    Handles .unopened cs .unopened [] ∨ Handles .unopened cs .closed [] := by
  cases h with
  | socket => exact .inl ⟨⟨⟨trivial,trivial⟩,rfl⟩,rfl⟩
  | register s h hc => exact .inr ((register_handles (some e)).append hc.handles)

theorem optional_handles (b : Bool) (call : SystemCall)
    (h : Handles (.held s) [call] (.held s) []) :
    Handles (.held s) (if b then [call] else []) (.held s) [] := by
  split
  · exact h
  · exact .nothing _

theorem lingerOff_handles (b : Bool) :
    Handles (.held s) (if b then [.lingerOff s] else []) (.held s) [] :=
  optional_handles b _ ⟨⟨⟨rfl,trivial⟩,rfl⟩,rfl⟩

theorem deregister_handles (b : Bool) :
    Handles (.held s) (if b then [.deregister s] else []) (.held s) [] :=
  optional_handles b _ ⟨⟨⟨rfl,trivial⟩,rfl⟩,rfl⟩

theorem Destroyed.handles {impl : Implementation} {cs : List SystemCall}
    (h : Destroyed impl cs) (hs : impl.socket=some s) : Handles (.held s) cs .closed [] := by
  simp only [Destroyed,hs] at h
  obtain ⟨ds,hds,rfl⟩ := h
  exact ((deregister_handles _).append (lingerOff_handles _)).append hds.handles

end Lives

section Service

variable (k : Kernel) (impl : Implementation)

/-- Gathering one buffer is sending it. -/
theorem serviceSendTo_eq (buffer addr : Buffer) (m : Nat) : serviceSendTo k impl buffer addr m=
    syncSendto1 k impl.socket impl.state buffer addr m := by
  simp only [serviceSendTo,syncSendto,syncSendto1,sendto,List.flatten_singleton,ite_self]

theorem sendTo_writes (s : Nat) (hs : impl.socket=some s) (buffer addr : Buffer) (m : Nat) :
    Proc.Writes (sendTo k impl buffer addr m)
      (fun bytes cs => Sending k.win32 impl.state s buffer addr cs (bytes,none))
      (fun e cs => GivenUp k.win32 impl.state s buffer addr m e cs) := by
  have hsend := untilSent_writes k s buffer addr impl.state m
  simp only [sendTo,serviceSendTo_eq,syncSendto1,hs]
  apply (hsend.mono (fun _ _ h => h) fun _ _ h => h.1 ▸ .waiting h.2).bind
  intro r cs hr
  obtain ⟨bytes,ec⟩ := r
  cases ec with
  | none => exact Proc.Writes.pure _ (by simpa using hr)
  | some e => exact Proc.Writes.throw _ (by simpa using GivenUp.failed bytes e hr)

theorem sendTo_handles (s : Nat) (hs : impl.socket=some s) (buffer addr : Buffer) (m : Nat) :
    Proc.Writes (sendTo k impl buffer addr m)
      (fun _ cs => Handles (.held s) cs (.held s) [(buffer,addr)])
      (fun _ cs => Handles (.held s) cs (.held s) []) := by
  apply (sendTo_writes k impl s hs buffer addr m).mono
  · exact fun _ _ h => h.handles
  · intro _ _ h
    cases h with
    | waiting h => exact h.handles
    | failed _ _ h => exact h.handles

end Service

end Asio

end MediapipeLivelink
