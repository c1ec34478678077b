import MediapipeLivelink.Framework.Integers

namespace MediapipeLivelink

/-- `std::vector<char>`; a `char` is the byte it occupies. -/
abbrev Buffer := List Byte

def pushBack (buffer : Buffer) (c : Byte) : Buffer := buffer++[c]

/-- A type that may be copied with `memcpy`: its size, and the bit pattern of each value. -/
class Scalar (T : Type) where
  sizeof : Nat
  bits : T → BitVec (8*sizeof)

/-- A `float` as its bit pattern. The program copies floats and never computes with them. -/
structure Binary32 where
  bits : BitVec 32
  deriving DecidableEq

instance : Scalar Int32 := ⟨4,Int32.toBitVec⟩
instance : Scalar Binary32 := ⟨4,Binary32.bits⟩
instance (w : Nat) : Scalar (BitVec (8*w)) := ⟨w,id⟩

/-- The bytes of an object at ascending addresses. The host is little-endian:
the byte at offset `k` holds the bits from `8k` to `8k+7`. -/
def objectBytes {w : Nat} (v : BitVec (8*w)) : List Byte :=
  List.ofFn (fun k : Fin w => v.extractLsb' (8*k) 8)

def memcpy (dest src : List Byte) (n : Nat) : List Byte := src.take n++dest.drop n

/-- `Util::ValueToBuffer`; the buffer passed by reference is returned. -/
def valueToBuffer {T : Type} [Scalar T] (value : T) (buffer : Buffer) (net : optParam Bool false) :
    Buffer :=
  let data := memcpy (List.replicate (Scalar.sizeof T) 0) (objectBytes (Scalar.bits value))
    (Scalar.sizeof T)
  if net then data.reverse.foldl pushBack buffer
  else data.foldl pushBack buffer

def wireDigits (net : Bool) (w n : Nat) : List Byte :=
  if net then Digits.beDigits w n else Digits.leDigits w n

theorem foldl_pushBack (bs : List Byte) (buffer : Buffer) :
    bs.foldl pushBack buffer=buffer++bs := by
  induction bs generalizing buffer with
  | nil => simp
  | cons b bs ih => simp [ih,pushBack]

theorem objectBytes_length {w : Nat} (v : BitVec (8*w)) : (objectBytes v).length=w := by
  simp [objectBytes]

/-- The memory order of a little-endian host is the order of the base-256 digits. -/
theorem objectBytes_eq_digits {w : Nat} (v : BitVec (8*w)) :
    objectBytes v=Digits.leDigits w v.toNat := by
  apply List.ext_getElem
  · simp [objectBytes]
  · intro k hk hk'
    rw [Digits.leDigits_getElem]
    apply BitVec.eq_of_toNat_eq
    have hp : 2^(8*k)=256^k := by
      rw [pow_mul]
      rfl
    simp [objectBytes,BitVec.extractLsb'_toNat,Nat.shiftRight_eq_div_pow,hp]

theorem memcpy_whole (dest src : List Byte) (n : Nat) (hd : dest.length=n)
    (hs : src.length=n) : memcpy dest src n=src := by
  subst hd
  simp [memcpy,← hs]

/-- A call appends the digits of the value, and does nothing else. -/
theorem valueToBuffer_eq {T : Type} [Scalar T] (value : T) (buffer : Buffer) (net : Bool) :
    valueToBuffer value buffer net=
      buffer++wireDigits net (Scalar.sizeof T) (Scalar.bits value).toNat := by
  have hc := memcpy_whole (List.replicate (Scalar.sizeof T) 0)
    (objectBytes (Scalar.bits value)) (Scalar.sizeof T) (List.length_replicate)
    (objectBytes_length _)
  simp only [valueToBuffer,hc]
  simp only [foldl_pushBack,objectBytes_eq_digits,wireDigits,Digits.beDigits_eq_reverse]
  cases net <;> rfl

@[simp] theorem wireDigits_length (net : Bool) (w n : Nat) :
    (wireDigits net w n).length=w := by
  cases net <;> simp [wireDigits]

end MediapipeLivelink
