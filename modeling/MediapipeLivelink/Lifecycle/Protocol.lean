import MediapipeLivelink.Framework.Monitor
import Mathlib.Data.List.TakeWhile
import Mathlib.Tactic.Common

namespace MediapipeLivelink

inductive LibraryCall
  | create
  | addPoller
  | start
  | process
  | getOutput
  | stop
  | release
  deriving DecidableEq

/-- The phases of the library's life. `processed` waits for the output to be fetched. -/
inductive Phase
  | fresh
  | created
  | polled
  | started
  | processed
  | stopped
  | released
  deriving DecidableEq

def LibraryCall.before : LibraryCall → Phase
  | .create => .fresh
  | .addPoller => .created
  | .start => .polled
  | .process => .started
  | .getOutput => .processed
  | .stop => .started
  | .release => .stopped

def LibraryCall.after : LibraryCall → Phase
  | .create => .created
  | .addPoller => .polled
  | .start => .started
  | .process => .processed
  | .getOutput => .started
  | .stop => .stopped
  | .release => .released

/-- The order in which the library expects its calls. -/
def protocol : Monitor LibraryCall Phase where
  next _ c := c.after
  allowed p c := p=c.before

/-- Order and pairing of the library calls of a run that is over. -/
structure WellOrdered (calls : List LibraryCall) : Prop where
  create_first : calls.head?=some .create
  poller_before_start : ∀a b,calls=a++.start::b → .addPoller∈a ∧ .addPoller∉b
  process_between : ∀a b,calls=a++.process::b → .start∈a ∧ .stop∉a ∧ .stop∈b
  output_after_process : ∀a b,calls=a++.process::b →
    (b.takeWhile (fun c => c != .process)).count .getOutput=1
  start_matched : ∀a b,calls=a++.start::b → .stop∉a ∧ b.count .stop=1 ∧ .start∉b
  create_matched : ∀a b,calls=a++.create::b → .release∉a ∧ b.count .release=1 ∧ .create∉b
  release_last : ∀a b,calls=a++.release::b → b=[]

/-- How often a call that is made once in a life has been made when a phase is reached. -/
def Phase.made (c : LibraryCall) : Phase → Nat
  | .fresh => 0
  | .created => if c=.create then 1 else 0
  | .polled => if c=.create ∨ c=.addPoller then 1 else 0
  | .started => if c=.create ∨ c=.addPoller ∨ c=.start then 1 else 0
  | .processed => if c=.create ∨ c=.addPoller ∨ c=.start then 1 else 0
  | .stopped => if c=.release then 0 else 1
  | .released => 1

theorem made_count (c : LibraryCall) (hp : c≠.process) (ho : c≠.getOutput) (p : Phase)
    (calls : List LibraryCall) (h : protocol.Accepts p calls) :
    (protocol.after p calls).made c=p.made c+calls.count c := by
  apply protocol.count (Phase.made c) (fun d => d==c) _ p calls h
  intro q d hd
  subst hd
  change d.after.made c=d.before.made c+(d==c).toNat
  cases c <;> cases d <;> first | rfl | contradiction

def Phase.pending : Phase → Nat
  | .processed => 1
  | _ => 0

/-- Every processed frame is either fetched or still waiting to be. -/
theorem pending_balance (p : Phase) (calls : List LibraryCall) (h : protocol.Accepts p calls) :
    (protocol.after p calls).pending+calls.count .getOutput=p.pending+calls.count .process := by
  apply protocol.balance Phase.pending (fun d => d==.process) (fun d => d==.getOutput) _ p calls h
  intro q d hd
  subst hd
  cases d <;> rfl

/-- A life of the library, cut at one of its calls. -/
structure Cut (a : List LibraryCall) (c : LibraryCall) (b : List LibraryCall) : Prop where
  past : protocol.Accepts .fresh a
  now : protocol.after .fresh a=c.before
  future : protocol.Accepts c.after b
  ends : protocol.after c.after b=.released

theorem cut (a b : List LibraryCall) (c : LibraryCall) (h : protocol.Accepts .fresh (a++c::b))
    (hr : protocol.after .fresh (a++c::b)=.released) : Cut a c b := by
  have hs := (protocol.accepts_split .fresh a b c).mp h
  rw [protocol.after_append] at hr
  exact ⟨hs.1,hs.2.1,hs.2.2,hr⟩

namespace Cut

variable {a b : List LibraryCall} {c : LibraryCall}

theorem made_past (h : Cut a c b) (d : LibraryCall) (hp : d≠.process) (ho : d≠.getOutput) :
    a.count d=c.before.made d := by
  have hm := made_count d hp ho .fresh a h.past
  rw [h.now] at hm
  exact (hm.trans (Nat.zero_add _)).symm

theorem made_future (h : Cut a c b) (d : LibraryCall) (hp : d≠.process) (ho : d≠.getOutput) :
    c.after.made d+b.count d=1 := by
  have hm := made_count d hp ho c.after b h.future
  rw [h.ends] at hm
  exact hm.symm

theorem start (h : Cut a .start b) :
    (.addPoller∈a ∧ .addPoller∉b) ∧ .stop∉a ∧ b.count .stop=1 ∧ .start∉b := by
  have pa : a.count .addPoller=1 := h.made_past .addPoller (by decide) (by decide)
  have pb : 1+b.count .addPoller=1 := h.made_future .addPoller (by decide) (by decide)
  have ta : a.count .stop=0 := h.made_past .stop (by decide) (by decide)
  have tb : 0+b.count .stop=1 := h.made_future .stop (by decide) (by decide)
  have sb : 1+b.count .start=1 := h.made_future .start (by decide) (by decide)
  exact ⟨⟨List.count_pos_iff.mp (by omega),List.count_eq_zero.mp (by omega)⟩,
    List.count_eq_zero.mp ta,by omega,List.count_eq_zero.mp (by omega)⟩

theorem create (h : Cut a .create b) :
    .release∉a ∧ b.count .release=1 ∧ .create∉b := by
  have ra : a.count .release=0 := h.made_past .release (by decide) (by decide)
  have rb : 0+b.count .release=1 := h.made_future .release (by decide) (by decide)
  have cb : 1+b.count .create=1 := h.made_future .create (by decide) (by decide)
  exact ⟨List.count_eq_zero.mp ra,by omega,List.count_eq_zero.mp (by omega)⟩

theorem process (h : Cut a .process b) : .start∈a ∧ .stop∉a ∧ .stop∈b := by
  have sa : a.count .start=1 := h.made_past .start (by decide) (by decide)
  have ta : a.count .stop=0 := h.made_past .stop (by decide) (by decide)
  have tb : 0+b.count .stop=1 := h.made_future .stop (by decide) (by decide)
  exact ⟨List.count_pos_iff.mp (by omega),List.count_eq_zero.mp ta,
    List.count_pos_iff.mp (by omega)⟩

/-- Nothing waits to be fetched where the next frame is processed, nor at the end. -/
theorem process_output (h : Cut a .process b) :
    (b.takeWhile (fun c => c != .process)).count .getOutput=1 := by
  have hb := List.takeWhile_append_dropWhile (p := fun c => c != LibraryCall.process) (l := b)
  have hn : (b.takeWhile (fun c => c != .process)).count .process=0 := by
    apply List.count_eq_zero.mpr
    intro hm
    have hx := List.mem_takeWhile_imp hm
    contradiction
  have hd := List.head?_dropWhile_not (fun c => c != LibraryCall.process) b
  have hf := h.future
  have ho := h.ends
  generalize b.takeWhile (fun c => c != .process)=t at *
  generalize b.dropWhile (fun c => c != .process)=u at *
  subst hb
  have ht := (protocol.accepts_append .processed t u).mp hf
  have hq : (protocol.after .processed t).pending=0 := by
    cases u with
    | nil =>
      rw [List.append_nil] at ho
      change protocol.after .processed t=.released at ho
      rw [ho]
      rfl
    | cons d u =>
      have hp : protocol.after .processed t=d.before := ht.2.1
      have he : d=.process := by simpa using hd
      rw [hp,he]
      rfl
  have hp := pending_balance .processed t ht.1
  rw [hq,hn] at hp
  change 0+_=1+0 at hp
  omega

theorem release (h : Cut a .release b) : b=[] := by
  cases b with
  | nil => rfl
  | cons d b =>
    have hd : Phase.released=d.before := h.future.1
    cases d <;> contradiction

end Cut

theorem wellOrdered_of_leads (calls : List LibraryCall)
    (hl : protocol.Leads .fresh calls .released) : WellOrdered calls := by
  obtain ⟨h,hr⟩ := hl
  have hcut (a b : List LibraryCall) (c : LibraryCall) (he : calls=a++c::b) : Cut a c b := by
    subst he
    exact cut a b c h hr
  constructor
  case create_first =>
    cases calls with
    | nil => contradiction
    | cons c calls =>
      have hc : Phase.fresh=c.before := h.1
      cases c <;> first | rfl | contradiction
  case poller_before_start => exact fun a b he => (hcut a b _ he).start.1
  case process_between => exact fun a b he => (hcut a b _ he).process
  case output_after_process => exact fun a b he => (hcut a b _ he).process_output
  case start_matched => exact fun a b he => (hcut a b _ he).start.2
  case create_matched => exact fun a b he => (hcut a b _ he).create
  case release_last => exact fun a b he => (hcut a b _ he).release

/-- The uses of a block from `new[]`; `pass` hands it to the library. -/
inductive HeapUse
  | new
  | read
  | pass
  | delete
  deriving DecidableEq

inductive Memory
  | unallocated
  | held
  | deleted
  deriving DecidableEq

def HeapUse.after : HeapUse → Memory
  | .new => .held
  | .read => .held
  | .pass => .held
  | .delete => .deleted

def allocation : Monitor HeapUse Memory where
  next _ u := u.after
  allowed m u := m=if u=.new then .unallocated else .held

def Memory.deletions : Memory → Nat
  | deleted => 1
  | _ => 0

theorem deletions_count {uses : List HeapUse} {m : Memory}
    (h : allocation.Leads .unallocated uses m) : m.deletions=uses.count .delete := by
  have hm := allocation.count Memory.deletions (fun u => u==.delete)
    (by intro s u hs; subst hs; cases u <;> rfl) .unallocated uses h.1
  rw [h.2] at hm
  exact hm.trans (Nat.zero_add _)

structure HeapDiscipline (uses : List HeapUse) : Prop where
  deleted_once : uses.count .delete=1
  unused_after : ∀a b,uses=a++.delete::b → b=[]

theorem heapDiscipline_of_leads (uses : List HeapUse)
    (hl : allocation.Leads .unallocated uses .deleted) : HeapDiscipline uses := by
  refine ⟨(deletions_count hl).symm,?_⟩
  intro a b he
  subst he
  have hb := ((allocation.accepts_split .unallocated a b .delete).mp hl.1).2.2
  cases b with
  | nil => rfl
  | cons u b =>
    have hu : Memory.deleted=if u=.new then .unallocated else .held := hb.1
    cases u <;> contradiction

end MediapipeLivelink
