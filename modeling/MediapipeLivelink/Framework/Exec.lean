import Mathlib.Order.Defs.Unbundled

namespace MediapipeLivelink

abbrev Exec (ε σ α : Type) := StateT σ (Except ε) α

/-- The computation does not fail, and what it returns satisfies `P`. -/
def Returns {ε α : Type} (x : Except ε α) (P : α → Prop) : Prop := ∃a,x=.ok a ∧ P a

theorem Returns.mono {ε α : Type} {x : Except ε α} {P Q : α → Prop} (h : Returns x P)
    (hpq : ∀a,P a → Q a) : Returns x Q := by
  obtain ⟨a,ha,hp⟩ := h
  exact ⟨a,ha,hpq a hp⟩

theorem Returns.apply {ε α : Type} {x : Except ε α} {P : α → Prop} (h : Returns x P) {a : α}
    (ha : x=.ok a) : P a := by
  obtain ⟨b,hb,hp⟩ := h
  cases hb.symm.trans ha
  exact hp

/-- How a loop body ends: with the next round, or by leaving the loop. -/
inductive Control
  | next
  | leave
  deriving DecidableEq

/-- `I` between two rounds, `J` once the loop has been left. -/
def Control.Holds {σ : Type} (I J : σ → Prop) (r : Control×σ) : Prop :=
  match r.1 with
  | .next => I r.2
  | .leave => J r.2

namespace Exec

variable {ε σ α β : Type}

theorem bind_run (p : Exec ε σ α) (f : α → Exec ε σ β) (s : σ) :
    (p>>=f) s=(p s>>=fun r => f r.1 r.2) := (rfl)

theorem pure_run (a : α) (s : σ) : (pure a : Exec ε σ α) s=.ok (a,s) := (rfl)

theorem get_run (s : σ) : (get : Exec ε σ σ) s=.ok (s,s) := (rfl)

theorem modify_run (f : σ → σ) (s : σ) : (modify f : Exec ε σ Unit) s=.ok ((),f s) := (rfl)

theorem ok_bind (a : α) (f : α → Except ε β) : (Except.ok a>>=f)=f a := (rfl)

/-- A `for` loop over a list whose body has the effect of `F` on one element
has the effect of `F` on the list. -/
theorem forM_run (F : List α → σ → σ) (I : σ → Prop) (body : α → Exec ε σ Unit)
    (hnil : ∀s,F [] s=s) (hcons : ∀x xs s,F (x::xs) s=F xs (F [x] s))
    (xs : List α) (hbody : ∀x∈xs,∀s,I s → body x s=.ok ((),F [x] s) ∧ I (F [x] s))
    (s : σ) (hs : I s) : xs.forM body s=.ok ((),F xs s) ∧ I (F xs s) := by
  induction xs generalizing s with
  | nil =>
    rw [hnil]
    exact ⟨rfl,hs⟩
  | cons x xs ih =>
    have hx := hbody x (by simp) s hs
    have ht := ih (fun y hy => hbody y (by simp [hy])) (F [x] s) hx.2
    have hr : (x::xs).forM body s=(body x>>=fun _ => xs.forM body) s := rfl
    rw [hr,bind_run,hx.1,ok_bind,hcons x xs s]
    exact ht

/-- `while (guard) body`, followed for at most `n` rounds. -/
def whileLoop (guard : σ → Bool) (body : Exec ε σ Control) : Nat → Exec ε σ Control
  | 0 => pure .next
  | n+1 => do
    if guard (← get) then
      match ← body with
      | .next => whileLoop guard body n
      | .leave => pure .leave
    else pure .leave

variable (guard : σ → Bool) (body : Exec ε σ Control)

theorem whileLoop_stop (n : Nat) (s : σ) (hg : guard s=false) :
    whileLoop guard body (n+1) s=.ok (.leave,s) := by
  rw [whileLoop,bind_run,get_run,ok_bind,hg]
  rfl

theorem whileLoop_round (n : Nat) (s : σ) (hg : guard s=true) :
    whileLoop guard body (n+1) s=(body s>>=fun r => match r.1 with
      | .next => whileLoop guard body n r.2
      | .leave => .ok (.leave,r.2)) := by
  rw [whileLoop,bind_run,get_run,ok_bind,hg,if_pos rfl,bind_run]
  congr 1
  funext r
  cases r.1 <;> rfl

theorem whileLoop_last (n : Nat) (s : σ) :
    whileLoop guard body (n+1) s=(whileLoop guard body n s>>=fun r => match r.1 with
      | .next => whileLoop guard body 1 r.2
      | .leave => .ok (.leave,r.2)) := by
  induction n generalizing s with
  | zero =>
    change _=(Except.ok (Control.next,s)>>=_)
    rw [ok_bind]
  | succ n ih =>
    cases hg : guard s with
    | false => rw [whileLoop_stop _ _ _ _ hg,whileLoop_stop _ _ _ _ hg,ok_bind]
    | true =>
      rw [whileLoop_round _ _ _ _ hg,whileLoop_round _ _ n _ hg]
      cases hb : body s with
      | error e => rfl
      | ok r =>
        obtain ⟨c,t⟩ := r
        cases c with
        | next => exact ih t
        | leave => rfl

/-- The rule of the `while` loop: `I n` after `n` rounds, `J n` if the loop was left by then. -/
theorem whileLoop_rule (I J : Nat → σ → Prop)
    (hbody : ∀n s,I n s → guard s=true → Returns (body s) (Control.Holds (I (n+1)) (J (n+1))))
    (hstop : ∀n s,I n s → guard s=false → J (n+1) s) (hstay : ∀n s,J n s → J (n+1) s)
    (s : σ) (hs : I 0 s) (n : Nat) :
    Returns (whileLoop guard body n s) (Control.Holds (I n) (J n)) := by
  induction n with
  | zero => exact ⟨(.next,s),rfl,hs⟩
  | succ n ih =>
    obtain ⟨⟨c,t⟩,hr,ht⟩ := ih
    rw [whileLoop_last,hr,ok_bind]
    cases c with
    | leave => exact ⟨(.leave,t),rfl,hstay n t ht⟩
    | next =>
      cases hg : guard t with
      | false => exact ⟨(.leave,t),whileLoop_stop guard body 0 t hg,hstop n t ht hg⟩
      | true =>
        obtain ⟨⟨d,u⟩,hb,hu⟩ := hbody n t ht hg
        refine ⟨(d,u),?_,hu⟩
        change whileLoop guard body 1 t=_
        rw [whileLoop_round _ _ _ _ hg,hb,ok_bind]
        cases d <;> rfl

/-- What a loop does that is over does not depend on the number of rounds allowed. -/
theorem whileLoop_more (n k : Nat) (s : σ) (h : ∀t,whileLoop guard body n s≠.ok (.next,t)) :
    whileLoop guard body (n+k) s=whileLoop guard body n s := by
  induction k with
  | zero => rfl
  | succ k ih =>
    rw [← Nat.add_assoc,whileLoop_last,ih]
    cases hr : whileLoop guard body n s with
    | error e => rfl
    | ok r =>
      obtain ⟨c,t⟩ := r
      cases c with
      | next => exact absurd hr (h t)
      | leave => rfl

/-- From `s` the loop comes to an end with `r`. -/
def Settles (s : σ) (r : Except ε (Control×σ)) : Prop :=
  (∀t,r≠.ok (.next,t)) ∧ ∃n,whileLoop guard body n s=r

theorem Settles.stop {s : σ} (hg : guard s=false) : Settles guard body s (.ok (.leave,s)) :=
  ⟨by simp,1,whileLoop_stop guard body 0 s hg⟩

theorem Settles.fail {s : σ} {e : ε} (hg : guard s=true) (hb : body s=.error e) :
    Settles guard body s (.error e) := by
  refine ⟨by simp,1,?_⟩
  rw [whileLoop_round guard body 0 s hg,hb]
  rfl

theorem Settles.round {s t : σ} {r : Except ε (Control×σ)} (hg : guard s=true)
    (hb : body s=.ok (.next,t)) (h : Settles guard body t r) : Settles guard body s r := by
  obtain ⟨hr,n,hn⟩ := h
  refine ⟨hr,n+1,?_⟩
  rw [whileLoop_round guard body n s hg,hb,ok_bind]
  exact hn

theorem Settles.unique {s : σ} {r r' : Except ε (Control×σ)} (h : Settles guard body s r)
    (h' : Settles guard body s r') : r=r' := by
  obtain ⟨hr,n,rfl⟩ := h
  obtain ⟨hr',m,rfl⟩ := h'
  rw [← whileLoop_more guard body n m s hr,← whileLoop_more guard body m n s hr',Nat.add_comm]

/-- A loop with an invariant `I` and a measure comes to an end: in `J`, or with an error in `E`. -/
theorem whileLoop_total (I J : σ → Prop) (E : ε → Prop) (μ : σ → Nat)
    (hbody : ∀s,I s → guard s=true → (∃e,body s=.error e ∧ E e) ∨
      ∃r,body s=.ok r ∧ Control.Holds (fun t => I t ∧ μ t<μ s) J r)
    (hstop : ∀s,I s → guard s=false → J s) (n : Nat) (s : σ) (hs : I s) (hn : μ s<n) :
    (∃e,whileLoop guard body n s=.error e ∧ E e) ∨
      ∃t,whileLoop guard body n s=.ok (.leave,t) ∧ J t := by
  induction n generalizing s with
  | zero => exact absurd hn (Nat.not_lt_zero _)
  | succ n ih =>
    cases hg : guard s with
    | false => exact .inr ⟨s,whileLoop_stop guard body n s hg,hstop s hs hg⟩
    | true =>
      rw [whileLoop_round guard body n s hg]
      rcases hbody s hs hg with ⟨e,hb,he⟩|⟨⟨c,t⟩,hb,ht⟩
      · rw [hb]
        exact .inl ⟨e,rfl,he⟩
      · rw [hb,ok_bind]
        cases c with
        | next =>
          have hd : μ t<μ s := ht.2
          exact ih t ht.1 (by omega)
        | leave => exact .inr ⟨t,rfl,ht⟩

/-- A computation that returns has gone from a state to a related one. -/
structure Moves (R : σ → σ → Prop) (x : Exec ε σ α) : Prop where
  returns : ∀s a s',x s=.ok (a,s') → R s s'

theorem Moves.modify {R : σ → σ → Prop} (f : σ → σ) (hf : ∀s,R s (f s)) :
    Moves R (modify f : Exec ε σ Unit) := by
  constructor
  intro s b s' h
  cases h
  exact hf s

theorem Moves.mono {R R' : σ → σ → Prop} {x : Exec ε σ α} (h : Moves R x)
    (hr : ∀s t,R s t → R' s t) : Moves R' x :=
  ⟨fun s a s' hs => hr s s' (h.returns s a s' hs)⟩

theorem Moves.throw {R : σ → σ → Prop} (e : ε) : Moves R (throw e : Exec ε σ α) := by
  constructor
  intro s b s' h
  cases h

section Moves

variable {R : σ → σ → Prop} [IsPreorder σ R]

theorem Moves.pure (a : α) : Moves R (pure a : Exec ε σ α) := by
  constructor
  intro s b s' h
  cases h
  exact refl_of R s

theorem Moves.get : Moves R (get : Exec ε σ σ) := by
  constructor
  intro s b s' h
  cases h
  exact refl_of R s

theorem Moves.bind {x : Exec ε σ α} {f : α → Exec ε σ β} (hx : Moves R x)
    (hf : ∀a,Moves R (f a)) : Moves R (x>>=f) := by
  constructor
  intro s b s' h
  rw [bind_run] at h
  cases hs : x s with
  | error e => rw [hs] at h; contradiction
  | ok r =>
    rw [hs,ok_bind] at h
    exact trans_of R (hx.returns s r.1 r.2 hs) ((hf r.1).returns r.2 b s' h)

theorem Moves.forM (body : α → Exec ε σ Unit) (hbody : ∀x,Moves R (body x)) (xs : List α) :
    Moves R (xs.forM body) := by
  induction xs with
  | nil => exact Moves.pure ()
  | cons x xs ih => exact (hbody x).bind fun _ => ih

end Moves

end Exec

end MediapipeLivelink
