import MediapipeLivelink.LiveLink.BlendShapes
import Mathlib.Tactic.Common

namespace MediapipeLivelink

/-- What a reader of the LiveLink face protocol gets from a packet. -/
structure LiveLinkPacket where
  version : Int32
  uuid : List.Vector Byte 37
  name : {name : List Byte // name.length<2^31}
  header : List.Vector Int32 4
  blendShapes : {values : List Binary32 // values.length<256}

namespace LiveLinkPacket

def int32 : BitVec (8*4)≃Int32 where
  toFun := Int32.ofBitVec
  invFun := Int32.toBitVec
  left_inv _ := rfl
  right_inv _ := rfl

def binary32 : BitVec (8*4)≃Binary32 where
  toFun := Binary32.mk
  invFun := Binary32.bits
  left_inv _ := rfl
  right_inv _ := rfl

def leInt : Format Byte Int32 := (Format.leBits 4).map int32

def beInt : Format Byte Int32 := (Format.beBits 4).map int32

def beFloat : Format Byte Binary32 := (Format.beBits 4).map binary32

/-- A length is an `int`, and a reader refuses a negative one. -/
def length : Format Byte (Fin (2^31)) :=
  beInt.restrict (fun n => Int32.ofNat n.1)
    (fun v => if 0≤v then some ⟨v.toNatClampNeg,v.toNatClampNeg_lt⟩ else none)
    (by
      intro n
      have hn : (0 : Int32)≤Int32.ofNat n.1 := Int32.zero_le_ofNat_of_lt n.2
      rw [if_pos hn]
      exact congrArg some (Fin.ext (Int32.toNatClampNeg_ofNat_of_lt n.2)))
    (by
      intro v n h
      split_ifs at h with hv
      rw [← Option.some.inj h]
      exact Int32.ofNat_toNatClampNeg v hv)

def count : Format Byte (Fin (2^8)) :=
  Format.symbol.map
    { toFun := BitVec.toFin
      invFun := BitVec.ofFin
      left_inv := fun _ => rfl
      right_inv := fun _ => rfl }

def fields : Int32×List.Vector Byte 37×{name : List Byte // name.length<2^31}×
    List.Vector Int32 4×{values : List Binary32 // values.length<2^8}≃LiveLinkPacket where
  toFun p := ⟨p.1,p.2.1,p.2.2.1,p.2.2.2.1,p.2.2.2.2⟩
  invFun p := (p.version,p.uuid,p.name,p.header,p.blendShapes)
  left_inv _ := rfl
  right_inv _ := rfl

/-- Version, uuid, length and name, four integers, count and floats; only the version
is little-endian. -/
def format : Format Byte LiveLinkPacket :=
  (leInt.pair ((Format.bytes 37).pair ((Format.counted length Format.symbol).pair
    ((beInt.times 4).pair (Format.counted count beFloat))))).map fields

def read (t : List Byte) : Option (LiveLinkPacket×List Byte) := format.decode t

theorem leInt_encode (v : Int32) : leInt.encode v=wireDigits false 4 v.toBitVec.toNat :=
  Format.leBits_encode 4 v.toBitVec

theorem beInt_encode (v : Int32) : beInt.encode v=wireDigits true 4 v.toBitVec.toNat :=
  Format.beBits_encode 4 v.toBitVec

theorem beFloat_encode (v : Binary32) : beFloat.encode v=wireDigits true 4 v.bits.toNat :=
  Format.beBits_encode 4 v.bits

theorem format_encode (p : LiveLinkPacket) : format.encode p=
    wireDigits false 4 p.version.toBitVec.toNat++p.uuid.1++
      wireDigits true 4 (Int32.ofNat p.name.1.length).toBitVec.toNat++p.name.1++
      p.header.1.flatMap (fun v => wireDigits true 4 v.toBitVec.toNat)++
      [BitVec.ofNat 8 p.blendShapes.1.length]++
      p.blendShapes.1.flatMap (fun v => wireDigits true 4 v.bits.toNat) := by
  have hname : (Format.counted length Format.symbol).encode p.name=
      wireDigits true 4 (Int32.ofNat p.name.1.length).toBitVec.toNat++p.name.1 := by
    rw [Format.counted_encode]
    change beInt.encode (Int32.ofNat p.name.1.length)++p.name.1.flatMap (fun b => [b])=_
    rw [beInt_encode,List.flatMap_singleton']
  have hheader : (beInt.times 4).encode p.header=
      p.header.1.flatMap (fun v => wireDigits true 4 v.toBitVec.toNat) := by
    rw [Format.times_encode]
    simp only [funext beInt_encode]
  have hvalues : (Format.counted count beFloat).encode p.blendShapes=
      [BitVec.ofNat 8 p.blendShapes.1.length]++
      p.blendShapes.1.flatMap (fun v => wireDigits true 4 v.bits.toNat) := by
    have hc : count.encode ⟨p.blendShapes.1.length,p.blendShapes.2⟩=
        [BitVec.ofNat 8 p.blendShapes.1.length] := by
      change [BitVec.ofFin ⟨p.blendShapes.1.length,p.blendShapes.2⟩]=_
      rw [List.cons.injEq]
      refine ⟨BitVec.eq_of_toNat_eq ?_,rfl⟩
      rw [BitVec.toNat_ofNat,Nat.mod_eq_of_lt p.blendShapes.2]
      rfl
    rw [Format.counted_encode,hc]
    simp only [funext beFloat_encode]
  simp only [format,Format.map_encode,Format.pair_encode,fields,Equiv.coe_fn_symm_mk]
  rw [leInt_encode,Format.bytes_encode,hname,hheader,hvalues]
  simp only [List.append_assoc]

/-- The packet that `LiveLink.md` takes apart. -/
def capturedPacket : List Byte := [
  0x06,0x00,0x00,0x00,0x24,0x32,0x39,0x35,0x37,0x46,0x38,0x41,0x33,0x2d,0x38,0x35,0x41,0x34,
  0x2d,0x34,0x35,0x39,0x46,0x2d,0x38,0x32,0x33,0x43,0x2d,0x34,0x34,0x34,0x34,0x42,0x35,0x42,
  0x43,0x35,0x31,0x42,0x45,0x00,0x00,0x00,0x12,0xe5,0x85,0xbb,0xe4,0xb9,0x90,0xe5,0xa4,0x9a,
  0xe7,0x9a,0x84,0x69,0x50,0x68,0x6f,0x6e,0x65,0x00,0x21,0x4e,0xe3,0x3e,0xc9,0xe1,0x40,0x00,
  0x00,0x00,0x3c,0x00,0x00,0x00,0x01,0x3d,0x3d,0x03,0x6c,0x35,0x3d,0xdd,0x52,0xab,0x3d,0xfd,
  0xbe,0xa1,0x00,0x00,0x00,0x00,0x00,0x00,0x00,0x00,0x3d,0x9d,0x41,0x10,0x00,0x00,0x00,0x00,
  0x3d,0x03,0x14,0xb5,0x3d,0xdd,0x95,0xc9,0x00,0x00,0x00,0x00,0x3a,0xb1,0xd7,0xba,0x00,0x00,
  0x00,0x00,0x3d,0x9d,0x49,0x11,0x00,0x00,0x00,0x00,0x3c,0xa1,0x68,0x74,0x00,0x00,0x00,0x00,
  0x3b,0xb1,0xb3,0xb8,0x3c,0x98,0xcf,0x08,0x3c,0x88,0x02,0x6e,0x3c,0x92,0xc3,0xf5,0x3d,0xe2,
  0x38,0xec,0x00,0x00,0x00,0x00,0x3a,0x67,0x07,0xf7,0x3d,0x12,0xc8,0xeb,0x3d,0x08,0x65,0xa3,
  0x00,0x00,0x00,0x00,0x00,0x00,0x00,0x00,0x3d,0x18,0xf1,0xf7,0x3d,0x17,0x4c,0xdb,0x3c,0xf4,
  0xd2,0x05,0x3d,0x00,0x23,0x12,0x3d,0x0e,0xc2,0x95,0x3c,0x9c,0x0a,0xd2,0x3e,0x9b,0x41,0xf3,
  0x3e,0x69,0xa1,0x32,0x3e,0x08,0xe0,0x37,0x3e,0x0d,0xd4,0x09,0x3c,0x67,0xde,0xdd,0x3c,0x61,
  0x0d,0x60,0x3c,0xaa,0x23,0xe5,0x3c,0xb4,0xfe,0x11,0x3e,0x99,0x86,0x14,0x3e,0x99,0x7a,0x15,
  0x3c,0x99,0xe6,0x1f,0x00,0x00,0x00,0x00,0x00,0x00,0x00,0x00,0x3d,0x26,0x42,0x04,0x3d,0x0e,
  0x8b,0x32,0x3d,0x0e,0xba,0xe5,0x3d,0x8a,0x20,0xca,0x3d,0x9b,0x77,0xf5,0x31,0xa8,0x13,0x84,
  0x00,0x00,0x00,0x00,0x00,0x00,0x00,0x00,0x00,0x00,0x00,0x00,0x3a,0x58,0xcd,0x2d,0x3d,0x87,
  0x5b,0xd5,0x38,0x65,0x99,0x89,0x3d,0x9a,0xaa,0x60,0x3d,0x87,0x95,0xe3,0x3b,0xa3,0xe9,0xed]

example : (read capturedPacket).map (fun r => (r.1.version,r.1.name.1.length,r.1.header.1,
    r.1.blendShapes.1.length,r.2))=some (6,18,[0x00214ee3,0x3ec9e140,60,1],61,[]) := by
  decide +kernel

/-- The floats of a packet: the 51 entries in use in their order on the wire, then ten zeros. -/
def slots (list : BlendShapeList) : List Binary32 :=
  List.ofFn (fun j => list (resort j))++List.replicate 10 ⟨0⟩

theorem slots_length (list : BlendShapeList) : (slots list).length=61 := by
  simp [slots]

def ofBlendShapes (uuid : List.Vector Byte 37) (name : {name : List Byte // name.length<2^31})
    (list : BlendShapeList) : LiveLinkPacket where
  version := 6
  uuid := uuid
  name := name
  header := ⟨[0,0,60,1],rfl⟩
  blendShapes := ⟨slots list,by rw [slots_length]; decide⟩

theorem slots_used (list : BlendShapeList) (j : Fin 51) :
    (slots list)[j.1]?=some (list (resort j)) := by
  have hj := j.2
  rw [slots,List.getElem?_append_left (by simp only [List.length_ofFn]; exact hj),
    List.getElem?_ofFn,dif_pos hj]

theorem slots_padding (list : BlendShapeList) (j : Nat) (hl : 51≤j) (hu : j<61) :
    (slots list)[j]?=some ⟨0⟩ := by
  rw [slots,List.getElem?_append_right (by simpa using hl)]
  simp only [List.length_ofFn,List.getElem?_replicate]
  rw [if_pos (by omega)]

theorem slots_inj (a b : BlendShapeList) :
    slots a=slots b ↔ ∀i : Fin blendShapeSize,1 ≤ i.1 → a i=b i := by
  rw [← agree_iff_resort,slots,slots,List.append_left_inj,List.ofFn_inj,funext_iff]

/-- A packet tells its uuid, its name and the entries in use apart, and nothing else. -/
theorem ofBlendShapes_inj (uuid uuid' : List.Vector Byte 37)
    (name name' : {name : List Byte // name.length<2^31}) (a b : BlendShapeList) :
    ofBlendShapes uuid name a=ofBlendShapes uuid' name' b ↔
      uuid=uuid' ∧ name=name' ∧ ∀i : Fin blendShapeSize,1 ≤ i.1 → a i=b i := by
  rw [← slots_inj]
  constructor
  · intro h
    have hs := congrArg (fun p => p.blendShapes.1) h
    exact ⟨congrArg LiveLinkPacket.uuid h,congrArg LiveLinkPacket.name h,hs⟩
  · intro h
    obtain ⟨rfl,rfl,hs⟩ := h
    simp only [ofBlendShapes,hs]

theorem ofBlendShapes_encode_length (uuid : List.Vector Byte 37)
    (name : {name : List Byte // name.length<2^31}) (list : BlendShapeList) :
    (format.encode (ofBlendShapes uuid name list)).length=306+name.1.length := by
  have hd (vs : List Binary32) :
      (vs.flatMap (fun v => wireDigits true 4 v.bits.toNat)).length=4*vs.length := by
    induction vs with
    | nil => rfl
    | cons v vs ih =>
      rw [List.flatMap_cons,List.length_append,ih,wireDigits_length,List.length_cons]
      omega
  have hu : uuid.1.length=37 := uuid.2
  rw [format_encode]
  simp only [ofBlendShapes,List.length_append,wireDigits_length,hu,hd,slots_length,
    List.flatMap_cons,List.flatMap_nil,List.length_cons,List.length_nil]
  omega

end LiveLinkPacket

end MediapipeLivelink
