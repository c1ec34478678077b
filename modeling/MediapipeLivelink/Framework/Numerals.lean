import Mathlib.Data.Nat.Digits.Lemmas

namespace MediapipeLivelink

namespace Numerals

/-- The digits of a number, the leading one first; zero has one digit. -/
def digits (base n : Nat) : List Nat := if n=0 then [0] else (Nat.digits base n).reverse

/-- What a reader has who has got to `v` and reads the digits that follow. -/
def read (base v : Nat) (ds : List Nat) : Nat := ds.foldl (fun v d => v*base+d) v

theorem read_digits (base n : Nat) : read base 0 (digits base n)=n := by
  by_cases hn : n=0
  · simp [read,digits,hn]
  · have h := Nat.ofDigits_digits base n
    rw [Nat.ofDigits_eq_foldr] at h
    rw [read,digits,if_neg hn,List.foldl_reverse]
    have hf : (fun d v => v*base+d)=fun d v : Nat => d+base*v := by
      funext d v
      rw [Nat.mul_comm,Nat.add_comm]
    rw [hf]
    exact h

theorem digits_lt (base n : Nat) (hb : 1<base) : ∀d∈digits base n,d<base := by
  intro d hd
  rw [digits] at hd
  split_ifs at hd with hn
  · have h0 : d=0 := by simpa using hd
    omega
  · exact Nat.digits_lt_base hb (List.mem_reverse.mp hd)

theorem digits_ne_nil (base n : Nat) : digits base n≠[] := by
  rw [digits]
  split_ifs with hn
  · simp
  · simpa [Nat.digits_ne_nil_iff_ne_zero] using hn

theorem digits_length (base n k : Nat) (hb : 1<base) (hk : 0<k) (hn : n<base^k) :
    (digits base n).length≤k := by
  rw [digits]
  split_ifs with h0
  · exact hk
  · rw [List.length_reverse]
    exact (Nat.digits_length_le_iff hb n).mpr hn

theorem le_read (base v : Nat) (hb : 0<base) (ds : List Nat) : v≤read base v ds := by
  induction ds generalizing v with
  | nil => exact Nat.le_refl v
  | cons d ds ih =>
    have h := ih (v*base+d)
    have hv : v*1≤v*base := Nat.mul_le_mul_left v hb
    change v≤read base (v*base+d) ds
    omega

end Numerals

end MediapipeLivelink
