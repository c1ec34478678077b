import Mathlib.Data.List.Basic

namespace MediapipeLivelink

/-! Lists that are made of chunks of one length. -/

section Chunks

variable {α β : Type} (f : α → List β) (n : Nat) (hf : ∀x,(f x).length=n)

include hf

/-- Member `i` is member `i%n` of chunk `i/n`. -/
theorem chunks_getElem? (hn : 0 < n) (xs : List α) (i : Nat) :
    (xs.flatMap f)[i]?=xs[i/n]?.bind fun x => (f x)[i%n]? := by
  induction xs generalizing i with
  | nil => simp
  | cons x xs ih =>
    rw [List.flatMap_cons]
    by_cases hi : i<n
    · have hd : i/n=0 := Nat.div_eq_of_lt hi
      have hm : i%n=i := Nat.mod_eq_of_lt hi
      rw [List.getElem?_append_left (by rw [hf]; exact hi),hd,hm]
      rfl
    · have hd : i/n=(i-n)/n+1 := Nat.div_eq_sub_div hn (by omega)
      have hm : i%n=(i-n)%n := Nat.mod_eq_sub_mod (by omega)
      rw [List.getElem?_append_right (by rw [hf]; omega),hf,ih,hd,hm]
      rfl

end Chunks

end MediapipeLivelink
