import MediapipeLivelink.Util.ValueToBuffer

namespace MediapipeLivelink

/-- What a reader must know of a field: its width in bytes and its byte order. -/
structure Field where
  width : Nat
  net : Bool
  deriving DecidableEq

/-- One call of `ValueToBuffer`: the field it writes and the bit pattern of its value. -/
structure Call where
  field : Field
  value : BitVec (8*field.width)

namespace Call

def digits (c : Call) : List Byte := wireDigits c.field.net c.field.width c.value.toNat

/-- `ValueToBuffer(v_1,buffer,net_1)` up to `ValueToBuffer(v_m,buffer,net_m)`, in this order. -/
def perform (buffer : Buffer) (calls : List Call) : Buffer :=
  calls.foldl (fun buffer c => valueToBuffer c.value buffer c.field.net) buffer

def ofValue (f : Field) : BitVec (8*f.width)≃{c : Call // c.field=f} where
  toFun v := ⟨⟨f,v⟩,rfl⟩
  invFun c := match c with
    | ⟨⟨_,v⟩,rfl⟩ => v
  left_inv _ := rfl
  right_inv c := by
    obtain ⟨⟨f,v⟩,rfl⟩ := c
    rfl

def format (f : Field) : Format Byte {c : Call // c.field=f} :=
  (if f.net then Format.beBits f.width else Format.leBits f.width).map (ofValue f)

/-- The reader that knows the fields and nothing of the values. -/
def read (fields : List Field) (t : List Byte) :
    Option ({calls : List Call // calls.map field=fields}×List Byte) :=
  (Format.keyed field format fields).decode t

theorem format_encode (c : Call) : (format c.field).encode ⟨c,rfl⟩=c.digits := by
  obtain ⟨⟨w,net⟩,v⟩ := c
  cases net
  · exact Format.leBits_encode w v
  · exact Format.beBits_encode w v

theorem encode_calls (fields : List Field) (calls : {calls : List Call // calls.map field=fields}) :
    (Format.keyed field format fields).encode calls=calls.1.flatMap digits := by
  rw [Format.keyed_encode]
  simp only [format_encode]

theorem perform_eq (buffer : Buffer) (calls : List Call) :
    perform buffer calls=buffer++calls.flatMap digits := by
  induction calls generalizing buffer with
  | nil => simp [perform]
  | cons c calls ih =>
    have hc : valueToBuffer c.value buffer c.field.net=buffer++c.digits :=
      valueToBuffer_eq c.value buffer c.field.net
    change perform (valueToBuffer c.value buffer c.field.net) calls=_
    rw [ih,hc,List.flatMap_cons,List.append_assoc]

/-- The digits of a call are the only string of their length with the value of its bit pattern. -/
theorem digits_value (c : Call) : c.digits.length=c.field.width ∧
    (if c.field.net then Digits.beValue c.digits else Digits.leValue c.digits)=c.value.toNat := by
  have hv : c.value.toNat%256^c.field.width=c.value.toNat :=
    Nat.mod_eq_of_lt (Digits.pattern_lt _ c.value)
  refine ⟨wireDigits_length _ _ _,?_⟩
  cases hn : c.field.net
  · simp only [digits,wireDigits,hn,Bool.false_eq_true,if_false]
    rw [Digits.leValue_leDigits,hv]
  · simp only [digits,wireDigits,hn,if_true]
    rw [Digits.beValue_eq_reverse,Digits.beDigits_eq_reverse,List.reverse_reverse,
      Digits.leValue_leDigits,hv]

theorem read_perform (b0 s : Buffer) (fields : List Field)
    (calls : {calls : List Call // calls.map field=fields}) :
    read fields ((perform b0 calls.1++s).drop b0.length)=some (calls,s) := by
  rw [perform_eq,List.append_assoc,List.drop_left,read,Format.decode_eq_some,encode_calls]

/-- Sequences of calls append digit strings, and the list of fields is all a reader needs
to take them apart again. -/
theorem calls_uniquely_decodable (b0 s : Buffer) (fields : List Field)
    (calls calls' : {calls : List Call // calls.map field=fields}) :
    s.foldl pushBack (perform b0 calls.1)=b0++calls.1.flatMap digits++s ∧
    (∀c∈calls.1,c.digits.length=c.field.width ∧
      (if c.field.net then Digits.beValue c.digits else Digits.leValue c.digits)=c.value.toNat) ∧
    read fields ((s.foldl pushBack (perform b0 calls.1)).drop b0.length)=some (calls,s) ∧
    (perform b0 calls.1=perform b0 calls'.1 ↔ calls=calls') := by
  refine ⟨?_,fun c _ => c.digits_value,?_,?_⟩
  · rw [foldl_pushBack,perform_eq]
  · rw [foldl_pushBack,read_perform]
  · rw [perform_eq,perform_eq,List.append_cancel_left_eq,← encode_calls,← encode_calls]
    exact Format.encode_inj _ _ _

end Call

end MediapipeLivelink
