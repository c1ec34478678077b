import Mathlib.Data.List.Basic

namespace MediapipeLivelink

/-- A protocol over events: the states it goes through, and the events each state allows. -/
structure Monitor (ε σ : Type) where
  next : σ → ε → σ
  allowed : σ → ε → Prop

namespace Monitor

variable {ε σ : Type} (M : Monitor ε σ)

def after (s : σ) (t : List ε) : σ := t.foldl M.next s

def Accepts : σ → List ε → Prop
  | _,[] => True
  | s,e::t => M.allowed s e ∧ Accepts (M.next s e) t

theorem after_append (s : σ) (t u : List ε) :
    M.after s (t++u)=M.after (M.after s t) u := by
  simp [after]

theorem accepts_append (s : σ) (t u : List ε) :
    M.Accepts s (t++u) ↔ M.Accepts s t ∧ M.Accepts (M.after s t) u := by
  induction t generalizing s with
  | nil => simp [Accepts,after]
  | cons e t ih =>
    have h := ih (M.next s e)
    simp only [List.cons_append,Accepts,h,and_assoc]
    rfl

theorem accepts_split (s : σ) (a b : List ε) (e : ε) :
    M.Accepts s (a++e::b) ↔
      M.Accepts s a ∧ M.allowed (M.after s a) e ∧ M.Accepts (M.next (M.after s a) e) b := by
  rw [accepts_append]
  rfl

/-- The trace is accepted from `s` on, and ends in `s'`. -/
def Leads (s : σ) (t : List ε) (s' : σ) : Prop := M.Accepts s t ∧ M.after s t=s'

variable {M} in
theorem Leads.append {s s' s'' : σ} {t u : List ε} (ht : M.Leads s t s') (hu : M.Leads s' u s'') :
    M.Leads s (t++u) s'' := by
  obtain ⟨ha,rfl⟩ := ht
  refine ⟨(M.accepts_append s t u).mpr ⟨ha,hu.1⟩,?_⟩
  rw [after_append]
  exact hu.2

/-- Events that leave a state as it is may come in any number. -/
theorem stays (s : σ) (t : List ε) (h : ∀e∈t,M.allowed s e ∧ M.next s e=s) : M.Leads s t s := by
  induction t with
  | nil => exact ⟨trivial,rfl⟩
  | cons e t ih =>
    obtain ⟨ha,hn⟩ := h e (by simp)
    have he : M.Leads s [e] s := ⟨⟨ha,trivial⟩,hn⟩
    exact he.append (ih (fun d hd => h d (by simp [hd])))

theorem invariant (P : σ → Prop) (s : σ) (t : List ε) (hs : P s) (ht : M.Accepts s t)
    (h : ∀s,∀e∈t,P s → M.allowed s e → P (M.next s e)) : P (M.after s t) := by
  induction t generalizing s with
  | nil => exact hs
  | cons e t ih =>
    have he := h s e (by simp) hs ht.1
    exact ih (M.next s e) he ht.2 (fun s d hd => h s d (by simp [hd]))

/-- A count kept in the state goes up with the events in `p` and down with those in `q`. -/
theorem balance (m : σ → Nat) (p q : ε → Bool)
    (h : ∀s e,M.allowed s e → m (M.next s e)+(q e).toNat=m s+(p e).toNat)
    (s : σ) (t : List ε) (ht : M.Accepts s t) :
    m (M.after s t)+t.countP q=m s+t.countP p := by
  induction t generalizing s with
  | nil => rfl
  | cons e t ih =>
    have hs := h s e ht.1
    have hr := ih (M.next s e) ht.2
    have hq : (e::t).countP q=t.countP q+(q e).toNat := by
      cases he : q e <;> simp [he]
    have hp : (e::t).countP p=t.countP p+(p e).toNat := by
      cases he : p e <;> simp [he]
    change m (M.after (M.next s e) t)+_=_
    rw [hq,hp]
    omega

theorem count (m : σ → Nat) (p : ε → Bool)
    (h : ∀s e,M.allowed s e → m (M.next s e)=m s+(p e).toNat)
    (s : σ) (t : List ε) (ht : M.Accepts s t) : m (M.after s t)=m s+t.countP p := by
  have hb := M.balance m p (fun _ => false) (fun s e he => by simpa using h s e he) s t ht
  simpa using hb

end Monitor

end MediapipeLivelink
