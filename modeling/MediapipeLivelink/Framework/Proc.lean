import MediapipeLivelink.Framework.Exec

namespace MediapipeLivelink

/-- A computation that can be cut short, by an exception or because it is followed no further.
Its state outlives it. -/
abbrev Proc (ε σ α : Type) := ExceptT ε (StateM σ) α

namespace Proc

variable {ε δ σ τ α β : Type}

def outcome (p : Proc ε σ α) (s : σ) : Except ε α×σ := p s

/-- From `s` the computation ends in `P`, or is cut short in `Q`. -/
def Ensures (p : Proc ε σ α) (s : σ) (P : α → σ → Prop) (Q : ε → σ → Prop) : Prop :=
  match p.outcome s with
  | (.ok a,t) => P a t
  | (.error e,t) => Q e t

/-- `while (guard) body`, followed for at most `n` rounds. -/
def whileLoop (guard : σ → Bool) (body : Proc ε σ Control) : Nat → Proc ε σ Control
  | 0 => pure .next
  | n+1 => do
    if guard (← get) then
      match ← body with
      | .next => whileLoop guard body n
      | .leave => pure .leave
    else pure .leave

/-- A computation on one part of the state. -/
def zoom (get : τ → σ) (set : σ → τ → τ) (err : ε → δ) (p : Proc ε σ α) : Proc δ τ α :=
  fun t => match p.outcome (get t) with
  | (.ok a,s) => (.ok a,set s t)
  | (.error e,s) => (.error (err e),set s t)

/-- A computation on one part of the state that leaves no state behind when it fails. -/
def ofExec (get : τ → σ) (set : σ → τ → τ) (err : ε → δ) (x : Exec ε σ α) : Proc δ τ α :=
  fun t => match x (get t) with
  | .ok (a,s) => (.ok a,set s t)
  | .error e => (.error (err e),t)

def resume : Except ε α → Proc ε σ α
  | .ok a => pure a
  | .error e => throw e

/-- A scope with a destructor, which runs when the body ends or is cut short in a way that
`destructs`. -/
def guarded (destructs : Except ε α → Bool) (destructor : Proc ε σ Unit) (p : Proc ε σ α) :
    Proc ε σ α := fun s =>
  let r := p.outcome s
  (if destructs r.1 then destructor>>=fun _ => resume r.1 else resume r.1) r.2

section Rules

variable {P : α → σ → Prop} {Q : ε → σ → Prop}

theorem pure_ensures (a : α) (s : σ) : (pure a : Proc ε σ α).Ensures s P Q ↔ P a s := Iff.rfl

theorem throw_ensures (e : ε) (s : σ) : (throw e : Proc ε σ α).Ensures s P Q ↔ Q e s := Iff.rfl

theorem get_ensures {P : σ → σ → Prop} (s : σ) :
    (get : Proc ε σ σ).Ensures s P Q ↔ P s s := Iff.rfl

theorem modify_ensures {P : Unit → σ → Prop} (f : σ → σ) (s : σ) :
    (modify f : Proc ε σ Unit).Ensures s P Q ↔ P () (f s) := Iff.rfl

theorem bind_ensures {P : β → σ → Prop} (p : Proc ε σ α) (f : α → Proc ε σ β) (s : σ) :
    (p>>=f).Ensures s P Q ↔ p.Ensures s (fun a t => (f a).Ensures t P Q) Q := by
  have hb : (p>>=f).outcome s=match p.outcome s with
      | (.ok a,t) => (f a).outcome t
      | (.error e,t) => (.error e,t) := by
    change ExceptT.bindCont f (p s).1 (p s).2=_
    rw [outcome]
    obtain ⟨r,t⟩ := p s
    cases r <;> rfl
  simp only [Ensures,hb]
  obtain ⟨r,t⟩ := p.outcome s
  cases r <;> rfl

theorem zoom_ensures {P : α → τ → Prop} {Q : δ → τ → Prop} (get : τ → σ) (set : σ → τ → τ)
    (err : ε → δ) (p : Proc ε σ α) (t : τ) : (zoom get set err p).Ensures t P Q ↔
      p.Ensures (get t) (fun a s => P a (set s t)) (fun e s => Q (err e) (set s t)) := by
  simp only [Ensures,outcome,zoom]
  obtain ⟨r,s⟩ := p (get t)
  cases r <;> rfl

theorem ofExec_ensures {P : α → τ → Prop} {Q : δ → τ → Prop} (get : τ → σ) (set : σ → τ → τ)
    (err : ε → δ) (x : Exec ε σ α) (t : τ) {a : α} {s : σ} (h : x (get t)=.ok (a,s)) :
    (ofExec get set err x).Ensures t P Q ↔ P a (set s t) := by
  have ho : (ofExec get set err x).outcome t=(.ok a,set s t) := by
    simp only [outcome,ofExec,h]
  rw [Ensures,ho]

theorem guarded_ensures (destructs : Except ε α → Bool) (destructor : Proc ε σ Unit)
    (p : Proc ε σ α) (s : σ) : (guarded destructs destructor p).Ensures s P Q ↔ p.Ensures s
      (fun a t => if destructs (.ok a) then destructor.Ensures t (fun _ => P a) Q else P a t)
      (fun e t =>
        if destructs (.error e) then destructor.Ensures t (fun _ => Q e) Q else Q e t) := by
  have hg : (guarded destructs destructor p).Ensures s P Q ↔
      (if destructs (p.outcome s).1 then destructor>>=fun _ => resume (p.outcome s).1
        else resume (p.outcome s).1).Ensures (p.outcome s).2 P Q := Iff.rfl
  rw [hg]
  conv =>
    rhs
    rw [Ensures]
  generalize p.outcome s=o
  obtain ⟨r,t⟩ := o
  cases r with
  | ok a =>
    change (if destructs (.ok a) then _ else _ : Proc ε σ α).Ensures t P Q ↔
      if destructs (.ok a) then _ else _
    split
    · exact bind_ensures destructor _ t
    · rfl
  | error e =>
    change (if destructs (.error e) then _ else _ : Proc ε σ α).Ensures t P Q ↔
      if destructs (.error e) then _ else _
    split
    · exact bind_ensures destructor _ t
    · rfl

theorem Ensures.intro {p : Proc ε σ α} {s : σ} (hp : ∀a t,P a t) (hq : ∀e t,Q e t) :
    p.Ensures s P Q := by
  unfold Ensures
  obtain ⟨r,t⟩ := p.outcome s
  cases r with
  | ok a => exact hp a t
  | error e => exact hq e t

theorem Ensures.mono {p : Proc ε σ α} {s : σ} {P' : α → σ → Prop} {Q' : ε → σ → Prop}
    (h : p.Ensures s P Q) (hp : ∀a t,P a t → P' a t) (hq : ∀e t,Q e t → Q' e t) :
    p.Ensures s P' Q' := by
  unfold Ensures at h ⊢
  generalize p.outcome s=o at h ⊢
  obtain ⟨r,t⟩ := o
  cases r with
  | ok a => exact hp a t h
  | error e => exact hq e t h

theorem Ensures.and {p : Proc ε σ α} {s : σ} {P' : α → σ → Prop} {Q' : ε → σ → Prop}
    (h : p.Ensures s P Q) (h' : p.Ensures s P' Q') :
    p.Ensures s (fun a t => P a t ∧ P' a t) (fun e t => Q e t ∧ Q' e t) := by
  unfold Ensures at h h' ⊢
  generalize p.outcome s=o at h h' ⊢
  obtain ⟨r,t⟩ := o
  cases r <;> exact ⟨h,h'⟩

theorem Ensures.ok {p : Proc ε σ α} {s : σ} (h : p.Ensures s P Q) {a : α} {t : σ}
    (ho : p.outcome s=(.ok a,t)) : P a t := by
  rw [Ensures,ho] at h
  exact h

theorem Ensures.error {p : Proc ε σ α} {s : σ} (h : p.Ensures s P Q) {e : ε} {t : σ}
    (ho : p.outcome s=(.error e,t)) : Q e t := by
  rw [Ensures,ho] at h
  exact h

end Rules

/-- An invariant `I`, and what holds where the computation is cut short. -/
structure Keeps (I : σ → Prop) (E : ε → σ → Prop) (p : Proc ε σ α) : Prop where
  ensures : ∀s,I s → p.Ensures s (fun _ => I) E

section Keeps

variable {I : σ → Prop} {E : ε → σ → Prop}

theorem Keeps.pure (a : α) : Keeps I E (pure a : Proc ε σ α) := ⟨fun _ h => h⟩

theorem Keeps.get : Keeps I E (get : Proc ε σ σ) := ⟨fun _ h => h⟩

theorem Keeps.modify (f : σ → σ) (hf : ∀s,I s → I (f s)) :
    Keeps I E (modify f : Proc ε σ Unit) := ⟨hf⟩

/-- What comes next may lead from the invariant to something else. -/
theorem Keeps.then {P : β → σ → Prop} {p : Proc ε σ α} {f : α → Proc ε σ β} (hp : Keeps I E p)
    (hf : ∀a t,I t → (f a).Ensures t P E) (s : σ) (hs : I s) : (p>>=f).Ensures s P E := by
  rw [bind_ensures]
  apply (hp.ensures s hs).mono
  · exact hf
  · exact fun _ _ h => h

theorem Keeps.bind {p : Proc ε σ α} {f : α → Proc ε σ β} (hp : Keeps I E p)
    (hf : ∀a,Keeps I E (f a)) : Keeps I E (p>>=f) :=
  ⟨hp.then fun a => (hf a).ensures⟩

theorem Keeps.forM (body : α → Proc ε σ Unit) (hbody : ∀x,Keeps I E (body x)) (xs : List α) :
    Keeps I E (xs.forM body) := by
  induction xs with
  | nil => exact Keeps.pure ()
  | cons x xs ih => exact (hbody x).bind fun _ => ih

theorem Keeps.whileLoop (guard : σ → Bool) {body : Proc ε σ Control} (hbody : Keeps I E body)
    (n : Nat) : Keeps I E (whileLoop guard body n) := by
  induction n with
  | zero => exact Keeps.pure _
  | succ n ih =>
    apply Keeps.get.bind
    intro s
    split
    · apply hbody.bind
      intro c
      cases c with
      | next => exact ih
      | leave => exact Keeps.pure _
    · exact Keeps.pure _

theorem Keeps.ofExec {I : τ → Prop} {E : δ → τ → Prop} {R : σ → σ → Prop} {get : τ → σ}
    {set : σ → τ → τ} {err : ε → δ} {x : Exec ε σ α} (hx : Exec.Moves R x)
    (hr : ∀t s,R (get t) s → I t → I (set s t)) (he : ∀e t,I t → E (err e) t) :
    Keeps I E (ofExec get set err x) := by
  constructor
  intro t ht
  cases h : x (get t) with
  | ok r => exact (ofExec_ensures get set err x t h).mpr (hr t r.2 (hx.returns _ _ _ h) ht)
  | error e =>
    have ho : (Proc.ofExec get set err x).outcome t=(.error (err e),t) := by
      simp only [outcome,Proc.ofExec,h]
    rw [Ensures,ho]
    exact he e t ht

end Keeps

/-- How states of a computation that may be cut short are seen as states of one that is not,
which of these come before which, and the ways of being cut short. -/
structure Simulation (ε τ σ : Type) where
  abs : τ → σ
  before : σ → σ → Prop
  aborts : ε → Prop

/-- `p` does what `x` does, or stops on the way. -/
structure Follows (S : Simulation ε τ σ) (p : Proc ε τ α) (x : Exec δ σ α) : Prop where
  moves : Exec.Moves S.before x
  outcome : ∀t a s,x (S.abs t)=.ok (a,s) → p.Ensures t (fun b u => b=a ∧ S.abs u=s)
    (fun e u => S.aborts e ∧ S.before (S.abs u) s)

/-- A computation that cannot be seen. -/
def Silent (S : Simulation ε τ σ) (p : Proc ε τ α) : Prop :=
  ∀t,p.Ensures t (fun _ u => S.abs u=S.abs t) (fun e u => S.aborts e ∧ S.abs u=S.abs t)

section Follows

variable {S : Simulation ε τ σ}

theorem Silent.bind {p : Proc ε τ α} {f : α → Proc ε τ β} (hp : Silent S p)
    (hf : ∀a,Silent S (f a)) : Silent S (p>>=f) := by
  intro t
  rw [bind_ensures]
  apply (hp t).mono
  · intro a u hu
    apply (hf a u).mono
    · exact fun _ _ hv => hv.trans hu
    · exact fun _ _ hv => ⟨hv.1,hv.2.trans hu⟩
  · exact fun _ _ h => h

theorem Silent.get : Silent S get := fun _ => rfl

theorem Silent.modify (f : τ → τ) (hf : ∀t,S.abs (f t)=S.abs t) : Silent S (modify f) := hf

theorem Follows.get {f : τ → Proc ε τ β} {g : σ → Exec δ σ β} (hs : Function.Surjective S.abs)
    (hf : ∀t,Follows S (f t) (g (S.abs t))) : Follows S (get>>=f) (get>>=g) := by
  constructor
  · constructor
    intro s b s' h
    obtain ⟨t,rfl⟩ := hs s
    exact (hf t).moves.returns _ b s' h
  · intro t b s h
    rw [bind_ensures,get_ensures]
    exact (hf t).outcome t b s h

theorem Follows.ite {c : Prop} [Decidable c] {p q : Proc ε τ α} {x y : Exec δ σ α}
    (hp : Follows S p x) (hq : Follows S q y) :
    Follows S (if c then p else q) (if c then x else y) := by
  split
  · exact hp
  · exact hq

theorem Follows.guarded {p : Proc ε τ α} {x : Exec δ σ α} (hp : Follows S p x)
    (destructs : Except ε α → Bool) {destructor : Proc ε τ Unit} (hd : Silent S destructor)
    (hn : ∀t,destructor.Ensures t (fun _ _ => True) (fun _ _ => False)) :
    Follows S (guarded destructs destructor p) x := by
  refine ⟨hp.moves,?_⟩
  intro t a s h
  rw [guarded_ensures]
  apply (hp.outcome t a s h).mono
  · intro b u hu
    split
    · apply ((hd u).and (hn u)).mono
      · exact fun _ v hv => ⟨hu.1,hv.1.trans hu.2⟩
      · exact fun _ _ hv => hv.2.elim
    · exact hu
  · intro e u hu
    split
    · apply ((hd u).and (hn u)).mono
      · exact fun _ v hv => ⟨hu.1,hv.1 ▸ hu.2⟩
      · exact fun _ _ hv => hv.2.elim
    · exact hu

theorem Follows.silent {q : Proc ε τ β} {f : β → Proc ε τ α} {x : Exec δ σ α}
    (hq : Silent S q) (hf : ∀b,Follows S (f b) x) (hx : Exec.Moves S.before x) :
    Follows S (q>>=f) x := by
  refine ⟨hx,?_⟩
  intro t a s h
  rw [bind_ensures]
  apply (hq t).mono
  · intro b u hu
    exact (hf b).outcome u a s (hu ▸ h)
  · intro e u hu
    exact ⟨hu.1,hu.2 ▸ hx.returns _ a s h⟩

theorem Follows.ofExec {get : τ → σ} {set : σ → τ → τ} {err : δ → ε} {x : Exec δ σ α}
    (habs : S.abs=get) (hset : ∀s t,get (set s t)=s) (hx : Exec.Moves S.before x) :
    Follows S (ofExec get set err x) x := by
  refine ⟨hx,?_⟩
  intro t a s h
  subst habs
  exact (ofExec_ensures _ set err x t h).mpr ⟨rfl,hset s t⟩

variable [IsPreorder σ S.before]

theorem Follows.pure (a : α) : Follows S (pure a) (pure a : Exec δ σ α) := by
  refine ⟨Exec.Moves.pure a,?_⟩
  intro t b s h
  cases h
  exact ⟨rfl,rfl⟩

theorem Follows.bind {p : Proc ε τ α} {x : Exec δ σ α} {f : α → Proc ε τ β}
    {g : α → Exec δ σ β} (hp : Follows S p x) (hf : ∀a,Follows S (f a) (g a)) :
    Follows S (p>>=f) (x>>=g) := by
  refine ⟨hp.moves.bind fun a => (hf a).moves,?_⟩
  intro t b s h
  rw [Exec.bind_run] at h
  cases hx : x (S.abs t) with
  | error e => rw [hx] at h; contradiction
  | ok r =>
    obtain ⟨a,v⟩ := r
    rw [hx,Exec.ok_bind] at h
    rw [bind_ensures]
    apply (hp.outcome t a v hx).mono
    · intro a' u hu
      obtain ⟨rfl,rfl⟩ := hu
      exact (hf a').outcome u b s h
    · intro e u hu
      exact ⟨hu.1,trans_of S.before hu.2 ((hf a).moves.returns v b s h)⟩

theorem Follows.forM {body : α → Proc ε τ Unit} {step : α → Exec δ σ Unit}
    (hbody : ∀x,Follows S (body x) (step x)) (xs : List α) :
    Follows S (xs.forM body) (xs.forM step) := by
  induction xs with
  | nil => exact Follows.pure ()
  | cons x xs ih => exact (hbody x).bind fun _ => ih

theorem Follows.whileLoop {guard : τ → Bool} {cond : σ → Bool} {body : Proc ε τ Control}
    {round : Exec δ σ Control} (hs : Function.Surjective S.abs)
    (hguard : ∀t,guard t=cond (S.abs t)) (hbody : Follows S body round) (n : Nat) :
    Follows S (whileLoop guard body n) (Exec.whileLoop cond round n) := by
  induction n with
  | zero => exact Follows.pure _
  | succ n ih =>
    have hnext (c : Control) : Follows S
        (match c with
          | .next => Proc.whileLoop guard body n
          | .leave => Pure.pure .leave)
        (match c with
          | .next => Exec.whileLoop cond round n
          | .leave => Pure.pure .leave) := by
      cases c with
      | next => exact ih
      | leave => exact Follows.pure _
    apply Follows.get hs
    intro t
    rw [hguard t]
    exact Follows.ite (hbody.bind hnext) (Follows.pure _)

end Follows

section Writes

variable {κ : Type} {P : α → List κ → Prop} {Q : ε → List κ → Prop}

/-- The state is a record that is only added to: by a list in `P` in the end, or by one in `Q`. -/
def Writes (p : Proc ε (List κ) α) (P : α → List κ → Prop) (Q : ε → List κ → Prop) : Prop :=
  ∀t,p.Ensures t (fun a u => ∃cs,u=t++cs ∧ P a cs) (fun e u => ∃cs,u=t++cs ∧ Q e cs)

theorem Writes.pure (a : α) (h : P a []) : Writes (pure a : Proc ε (List κ) α) P Q :=
  fun t => ⟨[],(List.append_nil t).symm,h⟩

theorem Writes.throw (e : ε) (h : Q e []) : Writes (throw e : Proc ε (List κ) α) P Q :=
  fun t => ⟨[],(List.append_nil t).symm,h⟩

theorem Writes.mono {p : Proc ε (List κ) α} {P' : α → List κ → Prop} {Q' : ε → List κ → Prop}
    (h : Writes p P Q) (hp : ∀a cs,P a cs → P' a cs) (hq : ∀e cs,Q e cs → Q' e cs) :
    Writes p P' Q' := by
  intro t
  apply (h t).mono
  · intro a u hu
    obtain ⟨cs,he,hc⟩ := hu
    exact ⟨cs,he,hp a cs hc⟩
  · intro e u hu
    obtain ⟨cs,he,hc⟩ := hu
    exact ⟨cs,he,hq e cs hc⟩

theorem Writes.bind {R : β → List κ → Prop} {p : Proc ε (List κ) α}
    {f : α → Proc ε (List κ) β} (hp : Writes p P Q)
    (hf : ∀a cs,P a cs → Writes (f a) (fun b ds => R b (cs++ds)) (fun e ds => Q e (cs++ds))) :
    Writes (p>>=f) R Q := by
  intro t
  rw [bind_ensures]
  apply (hp t).mono
  · intro a u hu
    obtain ⟨cs,rfl,hc⟩ := hu
    apply (hf a cs hc (t++cs)).mono
    · intro b v hv
      obtain ⟨ds,rfl,hd⟩ := hv
      exact ⟨cs++ds,List.append_assoc t cs ds,hd⟩
    · intro e v hv
      obtain ⟨ds,rfl,hd⟩ := hv
      exact ⟨cs++ds,List.append_assoc t cs ds,hd⟩
  · exact fun _ _ h => h

/-- After a computation that always ends. -/
theorem Writes.seq {R : β → List κ → Prop} {p : Proc ε (List κ) α} {f : α → Proc ε (List κ) β}
    (hp : Writes p P fun _ _ => False)
    (hf : ∀a cs,P a cs → Writes (f a) (fun b ds => R b (cs++ds)) (fun e ds => Q e (cs++ds))) :
    Writes (p>>=f) R Q :=
  (hp.mono (fun _ _ h => h) (fun _ _ h => h.elim)).bind hf

end Writes

end Proc

end MediapipeLivelink
