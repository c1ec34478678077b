import MediapipeLivelink.Asio.SocketService

namespace MediapipeLivelink

namespace Asio

/-- The error that `sendto` reports for the one the system gave. -/
def reported (win32 : Bool) (e : Error) : Error := if win32 then e.ofSendto else e

/-- The system calls of a send and its result: attempt after attempt as long as they would
block and the socket becomes writable again. -/
inductive Sending (win32 : Bool) (state : StateType) (s : Nat) (data addr : Buffer) :
    List SystemCall → Nat×ErrorCode → Prop
  | sent (bytes : Nat) : Sending win32 state s data addr [.sendto s data addr (.ok bytes)]
      (bytes,none)
  | failed (e : Error) (h : has state userSetNonBlocking=true ∨ blocked (some e)=false) :
      Sending win32 state s data addr [.sendto s data addr (.error e)]
        (0,some (reported win32 e))
  | unready (e e' : Error) (hn : has state userSetNonBlocking=false)
      (hb : blocked (some e)=true) : Sending win32 state s data addr
        [.sendto s data addr (.error e),.poll s (-1) (.error e')] (0,some e')
  | again (e : Error) (n : Nat) {cs : List SystemCall} {r : Nat×ErrorCode}
      (hn : has state userSetNonBlocking=false) (hb : blocked (some e)=true)
      (h : Sending win32 state s data addr cs r) : Sending win32 state s data addr
        (.sendto s data addr (.error e)::.poll s (-1) (.ok n)::cs) r

/-- The calls of sends that succeed one after another, one for each datagram. -/
inductive Sends (win32 : Bool) (state : StateType) (s : Nat) (addr : Buffer) :
    List Buffer → List SystemCall → Prop
  | start : Sends win32 state s addr [] []
  | more (data : Buffer) (bytes : Nat) {sent : List Buffer} {calls cs : List SystemCall}
      (h : Sends win32 state s addr sent calls)
      (hs : Sending win32 state s data addr cs (bytes,none)) :
      Sends win32 state s addr (sent++[data]) (calls++cs)

/-- The calls of a send that has been blocked `m` times. -/
inductive Blocked (s : Nat) (data addr : Buffer) : Nat → List SystemCall → Prop
  | start : Blocked s data addr 0 []
  | again (e : Error) (n : Nat) {m : Nat} {cs : List SystemCall} (hb : blocked (some e)=true)
      (h : Blocked s data addr m cs) : Blocked s data addr (m+1)
        (.sendto s data addr (.error e)::.poll s (-1) (.ok n)::cs)

/-- Why a send is given up, with its system calls. -/
inductive GivenUp (win32 : Bool) (state : StateType) (s : Nat) (data addr : Buffer) (m : Nat) :
    Stop → List SystemCall → Prop
  | waiting {cs : List SystemCall} (h : Blocked s data addr m cs) :
      GivenUp win32 state s data addr m .waiting cs
  | failed {cs : List SystemCall} (bytes : Nat) (e : Error)
      (h : Sending win32 state s data addr cs (bytes,some e)) :
      GivenUp win32 state s data addr m (.systemError e "send_to") cs

theorem ask_writes {α : Type} (answer : Nat → α) (call : α → SystemCall) :
    Proc.Writes (ask answer call) (fun a cs => cs=[call a]) (fun _ _ => False) :=
  fun _ => ⟨_,rfl,rfl⟩

theorem tell_writes (call : SystemCall) :
    Proc.Writes (tell call) (fun _ cs => cs=[call]) (fun _ _ => False) :=
  fun _ => ⟨_,rfl,rfl⟩

theorem blocked_reported (win32 : Bool) (e : Error) :
    blocked (some (reported win32 e))=blocked (some e) := by
  cases win32 <;> cases e <;> rfl

section Send

variable (k : Kernel) (s : Nat) (data addr : Buffer)

theorem sendto1_writes : Proc.Writes (sendto1 k s data addr) (fun r cs =>
    (∃bytes : Nat,r=((bytes : Int),none) ∧ cs=[.sendto s data addr (.ok bytes)]) ∨
    ∃e,r=(-1,some (reported k.win32 e)) ∧ cs=[.sendto s data addr (.error e)])
    (fun _ _ => False) := by
  apply (ask_writes k.sendto (.sendto s data addr)).seq
  intro answer cs hc
  subst hc
  cases answer with
  | ok bytes => exact Proc.Writes.pure _ (.inl ⟨bytes,rfl,rfl⟩)
  | error e => exact Proc.Writes.pure _ (.inr ⟨e,rfl,rfl⟩)

/-- With no timeout and no flag, polling either fails or finds the socket writable. -/
theorem pollWrite_writes : Proc.Writes (pollWrite k (some s) 0 (-1)) (fun r cs =>
    (∃n : Nat,r=((n : Int),none) ∧ cs=[.poll s (-1) (.ok n)]) ∨
    ∃e,r=(-1,some e) ∧ cs=[.poll s (-1) (.error e)]) (fun _ _ => False) := by
  have hf : has 0 userSetNonBlocking=false := by decide
  simp only [pollWrite,hf,Bool.false_eq_true,if_false,and_false]
  apply (ask_writes k.poll (.poll s (-1))).seq
  intro answer cs hc
  subst hc
  cases answer with
  | ok n => exact Proc.Writes.pure _ (.inl ⟨n,rfl,rfl⟩)
  | error e => exact Proc.Writes.pure _ (.inr ⟨e,rfl,rfl⟩)

theorem untilSent_writes (state : StateType) (m : Nat) :
    Proc.Writes (untilSent k (sendto1 k s data addr) s state m)
      (fun r cs => Sending k.win32 state s data addr cs r)
      (fun e cs => e=.waiting ∧ Blocked s data addr m cs) := by
  induction m with
  | zero => exact Proc.Writes.throw _ ⟨rfl,.start⟩
  | succ m ih =>
    apply (sendto1_writes k s data addr).seq
    intro r cs hr
    rcases hr with ⟨bytes,rfl,rfl⟩|⟨e,rfl,rfl⟩
    · exact Proc.Writes.pure _ (.sent bytes)
    · have hneg : ¬(-1 : Int)≥0 := by decide
      simp only [if_neg hneg,blocked_reported]
      by_cases hb : has state userSetNonBlocking=true ∨ blocked (some e)=false
      · have hc : (has state userSetNonBlocking || !blocked (some e))=true := by simpa using hb
        simp only [hc,if_true]
        exact Proc.Writes.pure _ (.failed e hb)
      · simp only [not_or,Bool.not_eq_true,Bool.not_eq_false] at hb
        simp only [hb.1,hb.2,Bool.not_true,Bool.or_self,Bool.false_eq_true,if_false]
        apply (pollWrite_writes k s).seq
        intro r cs hr
        rcases hr with ⟨n,rfl,rfl⟩|⟨e',rfl,rfl⟩
        · have hn : ¬(n : Int)<0 := by omega
          simp only [if_neg hn]
          apply ih.mono
          · exact fun r cs h => .again e n hb.1 hb.2 h
          · exact fun e' cs h => ⟨h.1,.again e n hb.2 h.2⟩
        · exact Proc.Writes.pure _ (.unready e e' hb.1 hb.2)

end Send

end Asio

end MediapipeLivelink
