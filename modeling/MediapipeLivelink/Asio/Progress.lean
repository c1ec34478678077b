import MediapipeLivelink.Asio.Descriptor
import Mathlib.Tactic.Common

namespace MediapipeLivelink

namespace Asio

/-- An attempt to send as call number `i` would block, and the socket becomes writable again. -/
def Kernel.Blocks (k : Kernel) (i : Nat) : Prop :=
  (∃e,k.sendto i=.error e ∧ blocked (some e)=true) ∧ ∃n,k.poll (i+1)=.ok n

/-- The system takes a datagram at one of the first `m` attempts from call number `i` on. -/
def Kernel.Takes (k : Kernel) (m i : Nat) : Prop :=
  ∃j < m,(∀l<j,k.Blocks (i+2*l)) ∧ ∃bytes,k.sendto (i+2*j)=.ok bytes

theorem Kernel.takes_succ (k : Kernel) (m i : Nat) : k.Takes (m+1) i ↔
    (∃bytes,k.sendto i=.ok bytes) ∨ (k.Blocks i ∧ k.Takes m (i+2)) := by
  have hs (l : Nat) : i+2*(l+1)=i+2+2*l := by omega
  constructor
  · intro h
    obtain ⟨j,hj,hb,ht⟩ := h
    cases j with
    | zero => exact .inl ht
    | succ j =>
      have h0 : k.Blocks i := hb 0 (by omega)
      refine .inr ⟨h0,j,by omega,?_,hs j ▸ ht⟩
      intro l hl
      have h1 := hb (l+1) (by omega)
      rwa [hs] at h1
  · intro h
    rcases h with h|h
    · exact ⟨0,by omega,by simp,h⟩
    · obtain ⟨h0,j,hj,hb,ht⟩ := h
      refine ⟨j+1,by omega,?_,(hs j).symm ▸ ht⟩
      intro l hl
      cases l with
      | zero => exact h0
      | succ l =>
        have h1 := hb l (by omega)
        rwa [← hs] at h1

theorem ask_ensures {α : Type} {P : α → List SystemCall → Prop}
    {Q : Stop → List SystemCall → Prop} (answer : Nat → α) (call : α → SystemCall)
    (calls : List SystemCall) : (ask answer call).Ensures calls P Q ↔
      P (answer calls.length) (calls++[call (answer calls.length)]) := Iff.rfl

section Round

variable (k : Kernel) (s : Nat) (data addr : Buffer) (state : StateType)
variable (hn : has state userSetNonBlocking=false) (m : Nat) (calls : List SystemCall)
variable {P : Nat×ErrorCode → List SystemCall → Prop} {Q : Stop → List SystemCall → Prop}

theorem untilSent_sent {bytes : Nat} (h : k.sendto calls.length=.ok bytes) :
    (untilSent k (sendto1 k s data addr) s state (m+1)).Ensures calls P Q ↔
      P (bytes,none) (calls++[.sendto s data addr (.ok bytes)]) := by
  rw [untilSent,Proc.bind_ensures,sendto1,Proc.bind_ensures,ask_ensures,h]
  rfl

include hn

theorem untilSent_failed {e : Error} (h : k.sendto calls.length=.error e)
    (hb : blocked (some e)=false) :
    (untilSent k (sendto1 k s data addr) s state (m+1)).Ensures calls P Q ↔
      P (0,some (reported k.win32 e)) (calls++[.sendto s data addr (.error e)]) := by
  have hneg : ¬(-1 : Int)≥0 := by omega
  rw [untilSent,Proc.bind_ensures,sendto1,Proc.bind_ensures,ask_ensures,h]
  change (if (-1 : Int)≥0 then _ else _ : Sys (Nat×ErrorCode)).Ensures _ P Q ↔ _
  have hr := blocked_reported k.win32 e
  rw [hb] at hr
  change blocked (some (if k.win32 then e.ofSendto else e))=false at hr
  simp only [if_neg hneg,hn,hr]
  rfl

theorem untilSent_blocked {e : Error} (h : k.sendto calls.length=.error e)
    (hb : blocked (some e)=true) :
    (untilSent k (sendto1 k s data addr) s state (m+1)).Ensures calls P Q ↔
      match k.poll (calls.length+1) with
      | .error e' => P (0,some e') (calls++[.sendto s data addr (.error e)]++
          [.poll s (-1) (.error e')])
      | .ok n => (untilSent k (sendto1 k s data addr) s state m).Ensures
          (calls++[.sendto s data addr (.error e)]++[.poll s (-1) (.ok n)]) P Q := by
  have hneg : ¬(-1 : Int)≥0 := by omega
  have hf : has 0 userSetNonBlocking=false := by decide
  rw [untilSent,Proc.bind_ensures,sendto1,Proc.bind_ensures,ask_ensures,h]
  change (if (-1 : Int)≥0 then _ else _ : Sys (Nat×ErrorCode)).Ensures _ P Q ↔ _
  have hr := blocked_reported k.win32 e
  rw [hb] at hr
  change blocked (some (if k.win32 then e.ofSendto else e))=true at hr
  simp only [if_neg hneg,hn,hr,Bool.not_true,Bool.or_self,Bool.false_eq_true,if_false]
  rw [Proc.bind_ensures,pollWrite,hf,Proc.bind_ensures]
  simp only [Bool.false_eq_true,if_false,and_false,ask_ensures,List.length_append,
    List.length_singleton]
  cases k.poll (calls.length+1) with
  | error e' => rfl
  | ok n =>
    have hp : ¬(n : Int)<0 := by omega
    change (if (n : Int)<0 then _ else _ : Sys (Nat×ErrorCode)).Ensures _ P Q ↔ _
    rw [if_neg hp]

end Round

section Outcome

variable (k : Kernel) (s : Nat) (data addr : Buffer) (state : StateType)
variable (hn : has state userSetNonBlocking=false)

include hn

/-- A send succeeds exactly when the system takes the datagram at one of the attempts. -/
theorem untilSent_succeeds_iff (m : Nat) (calls : List SystemCall) :
    (untilSent k (sendto1 k s data addr) s state m).Ensures calls (fun r _ => r.2=none)
      (fun _ _ => False) ↔ k.Takes m calls.length := by
  induction m generalizing calls with
  | zero =>
    constructor
    · exact False.elim
    · intro h
      obtain ⟨j,hj,-⟩ := h
      omega
  | succ m ih =>
    rw [Kernel.takes_succ]
    cases h : k.sendto calls.length with
    | ok bytes =>
      rw [untilSent_sent k s data addr state m calls h]
      simp
    | error e =>
      cases hb : blocked (some e) with
      | false =>
        have hk : ¬k.Blocks calls.length := by
          intro hk
          obtain ⟨⟨e',he,hb'⟩,-⟩ := hk
          rw [h] at he
          cases he
          rw [hb] at hb'
          contradiction
        rw [untilSent_failed k s data addr state hn m calls h hb]
        simp [hk]
      | true =>
        rw [untilSent_blocked k s data addr state hn m calls h hb]
        cases hp : k.poll (calls.length+1) with
        | error e' => simp [Kernel.Blocks,hp]
        | ok n =>
          have hk : k.Blocks calls.length := ⟨⟨e,h,hb⟩,n,hp⟩
          simp [ih,hk]

end Outcome

/-- A system that opens a socket, and takes each datagram at one of the first attempts. -/
structure Kernel.Serves (k : Kernel) (patience : Nat) : Prop where
  socket : ∀i,∃s,k.socket i=.ok s
  register : ∀i,k.register i=none ∨ (k.win32=false ∧ k.register i=some .noPermission)
  takes : ∀i,k.Takes patience i

theorem openSocket_serves (k : Kernel) (patience : Nat) (hk : k.Serves patience)
    (calls : List SystemCall) : (openSocket k construct .dgram).Ensures calls
      (fun impl _ => (∃s,impl.socket=some s) ∧ has impl.state userSetNonBlocking=false)
      (fun _ _ => False) := by
  have ho : construct.isOpen=false := rfl
  have hb : has datagramOriented userSetNonBlocking=false := by decide
  obtain ⟨s,hs⟩ := hk.socket calls.length
  have hr := hk.register (calls.length+1)
  simp only [openSocket,doOpen,ho,Bool.false_eq_true,if_false]
  rw [Proc.bind_ensures,Proc.bind_ensures,socket,Proc.bind_ensures,ask_ensures,hs]
  simp only [Proc.pure_ensures]
  rw [Proc.bind_ensures,registerDescriptor,Proc.bind_ensures,ask_ensures]
  simp only [List.length_append,List.length_singleton]
  rcases hr with hr|⟨hw,hr⟩
  · simp [hr,Proc.pure_ensures,throwErrorCode,SocketType.state,hb]
  · simp [hr,hw,Proc.pure_ensures,throwErrorCode,SocketType.state,hb]

section SendTo

variable (k : Kernel) (impl : Implementation) (s : Nat) (hs : impl.socket=some s)
variable (hn : has impl.state userSetNonBlocking=false)
variable (buffer addr : Buffer) (m : Nat) (calls : List SystemCall)

include hs hn

theorem sendTo_succeeds_iff : (sendTo k impl buffer addr m).Ensures calls (fun _ _ => True)
    (fun _ _ => False) ↔ k.Takes m calls.length := by
  rw [← untilSent_succeeds_iff k s buffer addr impl.state hn m calls]
  simp only [sendTo,serviceSendTo_eq,syncSendto1,hs]
  rw [Proc.bind_ensures]
  have hr (r : Nat×ErrorCode) (t : List SystemCall) :
      (throwErrorCode r.2 "send_to">>=fun _ => pure r.1 : Sys Nat).Ensures t (fun _ _ => True)
        (fun _ _ => False) ↔ r.2=none := by
    cases he : r.2 with
    | none => simp [throwErrorCode,Proc.pure_ensures]
    | some e => simp [throwErrorCode,Proc.throw_ensures]
  constructor
  · intro h
    exact h.mono (fun r t => (hr r t).mp) fun _ _ h => h
  · intro h
    exact h.mono (fun r t => (hr r t).mpr) fun _ _ h => h

end SendTo

/-- A system that is busy at two of four calls, the first send of a process among them. -/
def Kernel.busy : Kernel :=
  ⟨false,fun _ => .ok 3,fun _ => none,
    fun i => if i%4<2 then .ok 314 else .error .wouldBlock,fun _ => .ok 1,fun _ => none,
    fun _ => none⟩

theorem busy_blocks (i : Nat) (h : 2 ≤ i%4) : Kernel.busy.Blocks i := by
  refine ⟨⟨.wouldBlock,?_,rfl⟩,1,rfl⟩
  change (if i%4<2 then Except.ok 314 else Except.error Error.wouldBlock)=_
  rw [if_neg (by omega)]

theorem busy_takes (i : Nat) : Kernel.busy.Takes 2 i := by
  have hok (j : Nat) (h : j%4<2) : ∃bytes,Kernel.busy.sendto j=.ok bytes := by
    refine ⟨314,?_⟩
    change (if j%4<2 then Except.ok 314 else Except.error Error.wouldBlock)=_
    rw [if_pos h]
  by_cases h : i%4<2
  · exact ⟨0,by omega,by simp,hok i h⟩
  · refine ⟨1,by omega,?_,hok (i+2*1) (by omega)⟩
    intro l hl
    have h0 : l=0 := by omega
    rw [h0]
    exact busy_blocks i (by omega)

end Asio

end MediapipeLivelink
