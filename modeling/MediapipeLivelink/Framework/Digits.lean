import Mathlib.Data.Nat.Digits.Lemmas

namespace MediapipeLivelink

abbrev Byte := BitVec 8

namespace Digits

/-- Positional value of a byte string whose first byte is the least significant digit. -/
def leValue (bs : List Byte) : Nat := Nat.ofDigits 256 (bs.map BitVec.toNat)

def beValue (bs : List Byte) : Nat := bs.foldl (fun acc b => acc*256+b.toNat) 0

/-- The `w` lowest base-256 digits of `n`, least significant first. -/
def leDigits : Nat → Nat → List Byte
  | 0,_ => []
  | w+1,n => BitVec.ofNat 8 n::leDigits w (n/256)

def beDigits : Nat → Nat → List Byte
  | 0,_ => []
  | w+1,n => beDigits w (n/256)++[BitVec.ofNat 8 n]

@[simp] theorem leValue_nil : leValue []=0 := rfl

@[simp] theorem leValue_cons (b : Byte) (bs : List Byte) :
    leValue (b::bs)=b.toNat+256*leValue bs := by
  simp [leValue,Nat.ofDigits_cons]

@[simp] theorem leDigits_length (w n : Nat) : (leDigits w n).length=w := by
  induction w generalizing n with
  | zero => rfl
  | succ w ih => simp [leDigits,ih]

@[simp] theorem beDigits_length (w n : Nat) : (beDigits w n).length=w := by
  induction w generalizing n with
  | zero => rfl
  | succ w ih => simp [beDigits,ih]

theorem beDigits_eq_reverse (w n : Nat) : beDigits w n=(leDigits w n).reverse := by
  induction w generalizing n with
  | zero => rfl
  | succ w ih => simp [beDigits,leDigits,ih]

theorem beValue_concat (bs : List Byte) (b : Byte) :
    beValue (bs++[b])=beValue bs*256+b.toNat := by
  simp [beValue,List.foldl_append]

theorem beValue_eq_reverse (bs : List Byte) : beValue bs=leValue bs.reverse := by
  induction bs using List.reverseRecOn with
  | nil => rfl
  | append_singleton bs b ih =>
    rw [beValue_concat,ih,List.reverse_append,List.reverse_singleton,List.singleton_append,
      leValue_cons]
    omega

theorem leValue_leDigits (w n : Nat) : leValue (leDigits w n)=n%256^w := by
  induction w generalizing n with
  | zero => simp [leDigits,Nat.mod_one]
  | succ w ih =>
    have hb : (BitVec.ofNat 8 n).toNat=n%256 := BitVec.toNat_ofNat n 8
    rw [leDigits,leValue_cons,ih,hb,pow_succ',Nat.mod_mul]

theorem toNat_lt (bs : List Byte) : ∀d∈bs.map BitVec.toNat,d<256 := by
  intro d hd
  obtain ⟨b,-,hb⟩ := List.mem_map.mp hd
  rw [← hb]
  exact b.isLt

theorem leValue_lt (bs : List Byte) : leValue bs<256^bs.length := by
  have h := Nat.ofDigits_lt_base_pow_length (by decide) (toNat_lt bs)
  simpa [leValue] using h

theorem leValue_injective (xs ys : List Byte) (hl : xs.length=ys.length)
    (hv : leValue xs=leValue ys) : xs=ys := by
  have h : xs.map BitVec.toNat=ys.map BitVec.toNat :=
    Nat.ofDigits_inj_of_len_eq (by decide) (by simpa using hl) (toNat_lt xs) (toNat_lt ys) hv
  exact List.map_injective_iff.mpr (fun _ _ => BitVec.eq_of_toNat_eq) h

theorem leDigits_leValue (bs : List Byte) : leDigits bs.length (leValue bs)=bs := by
  apply leValue_injective
  · exact leDigits_length _ _
  · rw [leValue_leDigits,Nat.mod_eq_of_lt (leValue_lt bs)]

theorem leDigits_getElem (w n k : Nat) (hk : k<(leDigits w n).length) :
    (leDigits w n)[k]=BitVec.ofNat 8 (n/256^k) := by
  induction w generalizing n k with
  | zero => simp [leDigits] at hk
  | succ w ih =>
    cases k with
    | zero => simp [leDigits]
    | succ k =>
      have hk' : k<(leDigits w (n/256)).length := by simpa [leDigits] using hk
      simp only [leDigits,List.getElem_cons_succ]
      rw [ih (n/256) k hk',Nat.div_div_eq_div_mul,← pow_succ']

theorem pattern_lt (w : Nat) (v : BitVec (8*w)) : v.toNat<256^w := by
  have h := v.isLt
  rwa [pow_mul] at h

end Digits

end MediapipeLivelink
