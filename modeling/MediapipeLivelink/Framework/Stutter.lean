import Mathlib.Data.List.Basic

namespace MediapipeLivelink

/-- The second list is the first with every member sent once or more. -/
inductive Stutters {α : Type} : List α → List α → Prop
  | nil : Stutters [] []
  | cons (a : α) (n : Nat) {xs ys : List α} (h : Stutters xs ys) :
      Stutters (a::xs) (List.replicate (n+1) a++ys)

namespace Stutters

variable {α σ : Type}

theorem replicates (xs : List α) (n : Nat) :
    Stutters xs (xs.flatMap (List.replicate (n+1))) := by
  induction xs with
  | nil => exact nil
  | cons a xs ih => exact ih.cons a n

theorem foldl_replicate (f : σ → α → σ) (hf : ∀s a,f (f s a) a=f s a) (a : α) (n : Nat) (s : σ) :
    (List.replicate (n+1) a).foldl f s=f s a := by
  induction n generalizing s with
  | zero => rfl
  | succ n ih =>
    rw [List.replicate_succ,List.foldl_cons,ih,hf]

/-- A receiver for which a message repeated is a message received does not see the stutter. -/
theorem foldl_eq {xs ys : List α} (h : Stutters xs ys) (f : σ → α → σ)
    (hf : ∀s a,f (f s a) a=f s a) (s : σ) : ys.foldl f s=xs.foldl f s := by
  induction h generalizing s with
  | nil => rfl
  | cons a n h ih =>
    rw [List.foldl_append,foldl_replicate f hf,ih]
    rfl

end Stutters

end MediapipeLivelink
