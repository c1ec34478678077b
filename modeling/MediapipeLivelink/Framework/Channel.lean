import MediapipeLivelink.Framework.Stutter

namespace MediapipeLivelink

/-- A channel that keeps the order: message number `i` comes out `copies i` times, or is lost. -/
def deliver {α : Type} : (Nat → Nat) → List α → List α
  | _,[] => []
  | copies,x::xs => List.replicate (copies 0) x++deliver (fun i => copies (i+1)) xs

/-- Some of the messages from `a` on, `n` of them, comes out. -/
def comesOut (copies : Nat → Nat) (a n : Nat) : Bool :=
  (List.range n).any fun i => copies (a+i) != 0

/-- The messages of which a copy comes out, when each is sent `n` times. -/
def surviving {α : Type} (n : Nat) : (Nat → Nat) → List α → List α
  | _,[] => []
  | copies,x::xs =>
    if comesOut copies 0 n then x::surviving n (fun i => copies (n+i)) xs
    else surviving n (fun i => copies (n+i)) xs

variable {α σ : Type}

theorem comesOut_iff (copies : Nat → Nat) (a n : Nat) :
    comesOut copies a n=true ↔ ∃i<n,copies (a+i)≠0 := by
  simp [comesOut]

theorem comesOut_shift (copies : Nat → Nat) (a b n : Nat) :
    comesOut (fun i => copies (a+i)) b n=comesOut copies (a+b) n := by
  simp only [comesOut,Nat.add_assoc]

theorem deliver_append (copies : Nat → Nat) (xs ys : List α) :
    deliver copies (xs++ys)=deliver copies xs++deliver (fun i => copies (xs.length+i)) ys := by
  induction xs generalizing copies with
  | nil => simp [deliver]
  | cons x xs ih =>
    have hs : (fun i => copies (xs.length+i+1))=fun i => copies ((x::xs).length+i) := by
      funext i
      have hi : xs.length+i+1=(x::xs).length+i := by
        rw [List.length_cons]
        omega
      rw [hi]
    rw [List.cons_append,deliver,ih,deliver,hs,List.append_assoc]

/-- Copies of one message come out as copies of it. -/
theorem deliver_replicate (copies : Nat → Nat) (a : α) (n : Nat) :
    ∃m,deliver copies (List.replicate n a)=List.replicate m a ∧
      (0 < m ↔ comesOut copies 0 n=true) := by
  induction n generalizing copies with
  | zero => exact ⟨0,rfl,by simp [comesOut]⟩
  | succ n ih =>
    obtain ⟨m,hm,hp⟩ := ih fun i => copies (i+1)
    refine ⟨copies 0+m,?_,?_⟩
    · rw [List.replicate_succ,deliver,hm,List.replicate_append_replicate]
    · rw [comesOut_iff] at hp ⊢
      constructor
      · intro h
        by_cases h0 : copies 0=0
        · obtain ⟨i,hi,hc⟩ := hp.mp (by omega)
          have he : 0+(i+1)=0+i+1 := by omega
          exact ⟨i+1,by omega,he ▸ hc⟩
        · exact ⟨0,by omega,h0⟩
      · intro h
        obtain ⟨i,hi,hc⟩ := h
        cases i with
        | zero => have h0 : copies 0≠0 := hc; omega
        | succ i =>
          have he : 0+i+1=0+(i+1) := by omega
          have hm := hp.mpr ⟨i,by omega,he ▸ hc⟩
          omega

/-- A channel that is cut off after `m` messages loses those that follow. -/
theorem deliver_take (copies : Nat → Nat) (m : Nat) (xs : List α) :
    deliver copies (xs.take m)=deliver (fun i => if i < m then copies i else 0) xs := by
  induction xs generalizing copies m with
  | nil => simp [deliver]
  | cons x xs ih =>
    cases m with
    | zero =>
      have hn : deliver (fun _ => 0) xs=[] := by
        have h := ih copies 0
        simpa [deliver] using h.symm
      simp [deliver,hn]
    | succ m =>
      rw [List.take_succ_cons,deliver,ih,deliver]
      simp

/-- What comes out is the surviving messages, each repeated. -/
theorem deliver_stutters (n : Nat) (copies : Nat → Nat) (xs : List α) :
    Stutters (surviving n copies xs) (deliver copies (xs.flatMap (List.replicate n))) := by
  induction xs generalizing copies with
  | nil => exact .nil
  | cons a xs ih =>
    obtain ⟨m,hm,hp⟩ := deliver_replicate copies a n
    rw [List.flatMap_cons,deliver_append,hm,surviving,List.length_replicate]
    have ht := ih fun i => copies (n+i)
    cases hc : comesOut copies 0 n with
    | false =>
      have h0 : m=0 := by
        rw [hc] at hp
        have hn : ¬0 < m := fun h => Bool.noConfusion (hp.mp h)
        omega
      subst h0
      simpa using ht
    | true =>
      obtain ⟨k,rfl⟩ : ∃k,m=k+1 := ⟨m-1,by have h := hp.mpr hc; omega⟩
      simpa using ht.cons a k

/-- Every message survives exactly when the channel lets one of its copies out. -/
theorem surviving_eq_iff (n : Nat) (copies : Nat → Nat) (xs : List α) :
    surviving n copies xs=xs ↔ ∀k<xs.length,comesOut copies (n*k) n=true := by
  have hl (copies : Nat → Nat) (xs : List α) : (surviving n copies xs).length≤xs.length := by
    induction xs generalizing copies with
    | nil => exact Nat.le_refl 0
    | cons x xs ih =>
      have h := ih fun i => copies (n+i)
      rw [surviving]
      split <;> simp only [List.length_cons] <;> omega
  induction xs generalizing copies with
  | nil => simp [surviving]
  | cons x xs ih =>
    have ht := ih fun i => copies (n+i)
    simp only [comesOut_shift] at ht
    have hk : (∀k<(x::xs).length,comesOut copies (n*k) n=true) ↔
        comesOut copies 0 n=true ∧ ∀k<xs.length,comesOut copies (n+n*k) n=true := by
      have hs (k : Nat) : n+n*k=n*(k+1) := by rw [Nat.mul_succ,Nat.add_comm]
      simp only [hs,List.length_cons]
      constructor
      · intro h
        exact ⟨h 0 (by omega),fun k hk => h (k+1) (by omega)⟩
      · intro h k hk
        cases k with
        | zero => exact h.1
        | succ k => exact h.2 k (by omega)
    rw [hk,surviving]
    cases hc : comesOut copies 0 n with
    | true => simpa using ht
    | false =>
      constructor
      · intro h
        have hx := hl (fun i => copies (n+i)) xs
        have he := congrArg List.length h
        simp only [Bool.false_eq_true,if_false,List.length_cons] at he
        omega
      · intro h
        exact Bool.noConfusion h.1

theorem surviving_none (n : Nat) (xs : List α) : surviving n (fun _ => 0) xs=[] := by
  have hc : comesOut (fun _ => 0) 0 n=false := by simp [comesOut]
  induction xs with
  | nil => rfl
  | cons x xs ih =>
    rw [surviving,hc]
    exact ih

/-- A channel without such bursts that is cut off lets a beginning of the messages survive. -/
theorem surviving_cut (n : Nat) (copies : Nat → Nat) (h : ∀a,∃i<n,copies (a+i)≠0) (m : Nat)
    (xs : List α) : ∃k≤xs.length,
      surviving n (fun i => if i < m then copies i else 0) xs=xs.take k := by
  induction xs generalizing copies m with
  | nil => exact ⟨0,Nat.le_refl 0,rfl⟩
  | cons x xs ih =>
    have hs : ∀a,∃i<n,copies (n+(a+i))≠0 := by
      intro a
      simp only [← Nat.add_assoc]
      exact h (n+a)
    have hcut : (fun i => if n+i < m then copies (n+i) else 0)=
        fun i => if i < m-n then copies (n+i) else 0 := by
      funext i
      by_cases hi : n+i < m
      · rw [if_pos hi,if_pos (by omega)]
      · rw [if_neg hi,if_neg (by omega)]
    obtain ⟨k,hk,ht⟩ := ih (fun i => copies (n+i)) hs (m-n)
    rw [surviving,hcut,ht]
    by_cases hm : n ≤ m
    · have hc : comesOut (fun i => if i < m then copies i else 0) 0 n=true := by
        rw [comesOut_iff]
        obtain ⟨i,hi,hc⟩ := h 0
        exact ⟨i,hi,by rw [if_pos (by omega)]; exact hc⟩
      rw [if_pos hc]
      exact ⟨k+1,by simpa using hk,rfl⟩
    · have hz : (fun i => if i < m-n then copies (n+i) else 0)=fun _ => 0 := by
        funext i
        rw [if_neg (by omega)]
      have hn : xs.take k=[] := by
        rw [← ht,hz]
        exact surviving_none n xs
      rw [hn]
      split
      · exact ⟨1,by simp,rfl⟩
      · exact ⟨0,by simp,rfl⟩

end MediapipeLivelink
