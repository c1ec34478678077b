import MediapipeLivelink.Asio.SyncSend

namespace MediapipeLivelink

namespace Asio

/-- The calls that close a descriptor: a second time after a close that would block. -/
inductive Closing (s : Nat) : List SystemCall → Prop
  | once (answer : ErrorCode) (h : blocked answer=false) : Closing s [.close s answer]
  | again (answer answer' : ErrorCode) (h : blocked answer=true) :
      Closing s [.close s answer,.blockingMode s,.close s answer']

/-- The calls that open a socket; the reactor watches it if it can. -/
inductive Opened (win32 : Bool) (s : Nat) : List SystemCall → Prop
  | watched : Opened win32 s [.socket (.ok s),.register s none]
  | unwatched (h : win32=false) :
      Opened win32 s [.socket (.ok s),.register s (some .noPermission)]

/-- The calls that fail to open a socket. -/
inductive Refused (win32 : Bool) (e : Error) : List SystemCall → Prop
  | socket : Refused win32 e [.socket (.error e)]
  | register (s : Nat) {cs : List SystemCall} (h : win32=true ∨ e≠.noPermission)
      (hc : Closing s cs) :
      Refused win32 e (.socket (.ok s)::.register s (some e)::cs)

/-- The calls of a destructor. -/
def Destroyed (impl : Implementation) (cs : List SystemCall) : Prop :=
  match impl.socket with
  | none => cs=[]
  | some s => ∃ds,Closing s ds ∧
    cs=(if has impl.state possibleDup && impl.registered then [.deregister s] else [])++
      (if has impl.state userSetLinger then [.lingerOff s] else [])++ds

/-- A datagram socket that nothing was set for is just closed. -/
theorem Destroyed.dgram {s : Nat} {registered : Bool} {cs : List SystemCall}
    (h : Destroyed ⟨some s,datagramOriented,registered⟩ cs) : Closing s cs := by
  obtain ⟨ds,hds,rfl⟩ := h
  have hp : has datagramOriented possibleDup=false := by decide
  have hl : has datagramOriented userSetLinger=false := by decide
  simpa [hp,hl] using hds

section Calls

variable (k : Kernel) (s : Nat)

theorem closeCall_calls : Proc.Writes (closeCall k s)
    (fun r cs => r.1=(if r.2.isSome then -1 else 0) ∧ cs=[.close s r.2]) (fun _ _ => False) := by
  apply (ask_writes k.close (.close s)).seq
  intro answer cs hc
  exact Proc.Writes.pure _ ⟨rfl,by simpa using hc⟩

theorem lingerInBackground_calls (state : StateType) (destruction : Bool) :
    Proc.Writes (lingerInBackground s state destruction)
      (fun _ cs => cs=if destruction && has state userSetLinger then [.lingerOff s] else [])
      (fun _ _ => False) := by
  rw [lingerInBackground]
  split
  · exact tell_writes (.lingerOff s)
  · exact Proc.Writes.pure _ rfl

/-- Whatever the system answers, there are two calls of `close` at most. -/
theorem close_calls (state : StateType) (destruction : Bool) (ec : ErrorCode) :
    Proc.Writes (close k (some s) state destruction ec)
      (fun _ cs => ∃ds,Closing s ds ∧
        cs=(if destruction && has state userSetLinger then [.lingerOff s] else [])++ds)
      (fun _ _ => False) := by
  apply (lingerInBackground_calls s state destruction).seq
  intro _ cs hcs
  apply (closeCall_calls k s).seq
  intro r ds hr
  obtain ⟨hr,rfl⟩ := hr
  cases hb : blocked r.2 with
  | false =>
    simp only [hb,Bool.and_false,Bool.false_eq_true,if_false]
    exact Proc.Writes.pure _ ⟨_,.once r.2 hb,by rw [hcs,List.append_nil]⟩
  | true =>
    have hs : r.2.isSome=true := by
      cases he : r.2 with
      | none => rw [he] at hb; contradiction
      | some e => rfl
    have hn : (r.1 != 0)=true := by
      rw [hr,hs]
      rfl
    simp only [hb,hn,Bool.and_self,if_true]
    apply (tell_writes (.blockingMode s)).seq
    intro _ ds hds
    subst hds
    apply (closeCall_calls k s).seq
    intro r' ds hr'
    obtain ⟨-,rfl⟩ := hr'
    exact Proc.Writes.pure _ ⟨_,.again r.2 r'.2 hb,by rw [hcs]; rfl⟩

theorem registerDescriptor_calls : Proc.Writes (registerDescriptor k s)
    (fun r cs => ∃answer,cs=[.register s answer] ∧
      r=if k.win32=false ∧ answer=some .noPermission then (none,false)
        else (answer,answer.isNone)) (fun _ _ => False) := by
  apply (ask_writes k.register (.register s)).seq
  intro answer cs hc
  subst hc
  by_cases hp : k.win32=false ∧ answer=some .noPermission
  · have hc : (!k.win32 && answer==some .noPermission)=true := by simp [hp]
    simp only [hc,if_true]
    exact Proc.Writes.pure _ ⟨answer,rfl,by rw [if_pos hp]⟩
  · have hc : (!k.win32 && answer==some .noPermission)=false := by
      simpa using hp
    simp only [hc]
    exact Proc.Writes.pure _ ⟨answer,rfl,by rw [if_neg hp]⟩

variable (impl : Implementation)

/-- Opening a closed socket gives it a descriptor of its own, or leaves it as it is. -/
theorem doOpen_calls (type : SocketType) (hc : impl.socket=none) :
    Proc.Writes (doOpen k impl type)
      (fun r cs => (∃s registered,r=(⟨some s,type.state,registered⟩,none) ∧ Opened k.win32 s cs) ∨
        ∃e,r=(impl,some e) ∧ Refused k.win32 e cs) (fun _ _ => False) := by
  have ho : impl.isOpen=false := by rw [Implementation.isOpen,hc]; rfl
  have hsocket : Proc.Writes (socket k) (fun r cs =>
      (∃s,r=(some s,none) ∧ cs=[.socket (.ok s)]) ∨
      ∃e,r=(none,some e) ∧ cs=[.socket (.error e)]) (fun _ _ => False) := by
    apply (ask_writes k.socket .socket).seq
    intro answer cs hc
    subst hc
    cases answer with
    | ok s => exact Proc.Writes.pure _ (.inl ⟨s,rfl,rfl⟩)
    | error e => exact Proc.Writes.pure _ (.inr ⟨e,rfl,rfl⟩)
  simp only [doOpen,ho,Bool.false_eq_true,if_false]
  apply hsocket.seq
  intro r cs hr
  rcases hr with ⟨s,rfl,rfl⟩|⟨e,rfl,rfl⟩
  · apply (registerDescriptor_calls k s).seq
    intro r ds hd
    obtain ⟨answer,rfl,rfl⟩ := hd
    by_cases hp : k.win32=false ∧ answer=some .noPermission
    · obtain ⟨hw,rfl⟩ := hp
      simp only [hw,and_self,if_true]
      exact Proc.Writes.pure _ (.inl ⟨s,false,rfl,.unwatched rfl⟩)
    · simp only [if_neg hp]
      cases answer with
      | none => exact Proc.Writes.pure _ (.inl ⟨s,true,rfl,.watched⟩)
      | some e =>
        have he : k.win32=true ∨ e≠.noPermission := by
          cases hw : k.win32 with
          | false => exact .inr fun h => hp ⟨hw,by rw [h]⟩
          | true => exact .inl rfl
        apply (close_calls k s 0 true none).seq
        intro _ es hes
        obtain ⟨ds,hds,rfl⟩ := hes
        have hl : has 0 userSetLinger=false := by decide
        apply Proc.Writes.pure
        exact .inr ⟨e,rfl,by simpa [hl] using Refused.register s he hds⟩
  · exact Proc.Writes.pure _ (.inr ⟨e,rfl,.socket⟩)

theorem openSocket_calls (type : SocketType) (hc : impl.socket=none) :
    Proc.Writes (openSocket k impl type)
      (fun r cs => ∃s registered,r=⟨some s,type.state,registered⟩ ∧ Opened k.win32 s cs)
      (fun stop cs => ∃e,stop=.systemError e "open" ∧ Refused k.win32 e cs) := by
  apply (doOpen_calls k impl type hc).seq
  intro r cs hr
  rcases hr with ⟨s,registered,rfl,ho⟩|⟨e,rfl,hf⟩
  · exact Proc.Writes.pure _ ⟨s,registered,rfl,by simpa using ho⟩
  · exact Proc.Writes.throw _ ⟨e,rfl,by simpa using hf⟩

theorem deregisterDescriptor_calls (closing : Bool) :
    Proc.Writes (deregisterDescriptor impl s closing)
      (fun _ cs => cs=if !closing && impl.registered then [.deregister s] else [])
      (fun _ _ => False) := by
  rw [deregisterDescriptor]
  split
  · exact tell_writes (.deregister s)
  · exact Proc.Writes.pure _ rfl

theorem destroy_calls : Proc.Writes (destroy k impl) (fun _ cs => Destroyed impl cs)
    (fun _ _ => False) := by
  cases hs : impl.socket with
  | none =>
    simp only [destroy,hs]
    exact Proc.Writes.pure _ (by simp [Destroyed,hs])
  | some s =>
    simp only [destroy,hs]
    apply (deregisterDescriptor_calls s impl _).seq
    intro _ cs hcs
    apply (close_calls k s impl.state true none).seq
    intro _ ds hds
    obtain ⟨es,hes,rfl⟩ := hds
    apply Proc.Writes.pure
    rw [Bool.not_not] at hcs
    simp only [Destroyed,hs]
    exact ⟨es,hes,by rw [hcs]; simp⟩

end Calls

end Asio

end MediapipeLivelink
