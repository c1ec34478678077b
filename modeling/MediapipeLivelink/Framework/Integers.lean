import MediapipeLivelink.Framework.Digits
import MediapipeLivelink.Framework.Format

namespace MediapipeLivelink

namespace Format

/-- A byte string of fixed length is the same thing as a bit pattern. -/
def bitsOfDigits (w : Nat) : List.Vector Byte w≃BitVec (8*w) where
  toFun bs := BitVec.ofNat (8*w) (Digits.leValue bs.1)
  invFun v := ⟨Digits.leDigits w v.toNat,Digits.leDigits_length w v.toNat⟩
  left_inv bs := by
    obtain ⟨bs,rfl⟩ := bs
    apply Subtype.ext
    have h := Digits.leValue_lt bs
    rw [show 256=2^8 from rfl,← pow_mul] at h
    change Digits.leDigits bs.length (BitVec.ofNat (8*bs.length) (Digits.leValue bs)).toNat=bs
    rw [BitVec.toNat_ofNat,Nat.mod_eq_of_lt h,Digits.leDigits_leValue]
  right_inv v := by
    apply BitVec.eq_of_toNat_eq
    rw [BitVec.toNat_ofNat,Digits.leValue_leDigits,Nat.mod_eq_of_lt (Digits.pattern_lt w v),
      Nat.mod_eq_of_lt v.isLt]

def reversed (w : Nat) : List.Vector Byte w≃List.Vector Byte w where
  toFun bs := ⟨bs.1.reverse,by rw [List.length_reverse,bs.2]⟩
  invFun bs := ⟨bs.1.reverse,by rw [List.length_reverse,bs.2]⟩
  left_inv bs := Subtype.ext (List.reverse_reverse bs.1)
  right_inv bs := Subtype.ext (List.reverse_reverse bs.1)

def bytes (w : Nat) : Format Byte (List.Vector Byte w) := symbol.times w

def leBits (w : Nat) : Format Byte (BitVec (8*w)) := (bytes w).map (bitsOfDigits w)

def beBits (w : Nat) : Format Byte (BitVec (8*w)) :=
  (bytes w).map ((reversed w).trans (bitsOfDigits w))

theorem bytes_encode (w : Nat) (bs : List.Vector Byte w) : (bytes w).encode bs=bs.1 := by
  rw [bytes,times_encode]
  exact List.flatMap_singleton' bs.1

theorem leBits_encode (w : Nat) (v : BitVec (8*w)) :
    (leBits w).encode v=Digits.leDigits w v.toNat :=
  bytes_encode w ⟨Digits.leDigits w v.toNat,Digits.leDigits_length w v.toNat⟩

theorem beBits_encode (w : Nat) (v : BitVec (8*w)) :
    (beBits w).encode v=Digits.beDigits w v.toNat := by
  rw [Digits.beDigits_eq_reverse]
  exact bytes_encode w ((reversed w).symm ((bitsOfDigits w).symm v))

end Format

end MediapipeLivelink
