import MediapipeLivelink.Asio.AddressRoundTrip

namespace MediapipeLivelink

namespace Asio

/-! `inet_pton` and `inet_ntop` on POSIX systems: the system reads and writes the address, and
asio the scope id behind it. -/

/-- The functions of the system; `none` and zero are their failures. C leaves to its library what
`atoi` makes of a number that no `int` holds. -/
structure AddressCalls where
  inetPton : List Char → Option (List.Vector Byte 16)×ErrorCode
  inetNtop : List.Vector Byte 16 → Option (List Char)×ErrorCode
  ifNametoindex : List Char → BitVec 32
  ifIndextoname : BitVec 32 → Option (List Char)
  atoiOverflow : Int → BitVec 32

namespace Posix

/-- `EINVAL` -/
def invalidArgument : Error := .other 22

/-- `INET6_ADDRSTRLEN + 1 + IF_NAMESIZE` -/
def maxAddrV6StrLen : Nat := 46+1+16

/-- `is_link_local || is_multicast_link_local` -/
def linkLocal (bytes : List.Vector Byte 16) : Bool :=
  (bytes.get 0==0xfe && (bytes.get 1&&&0xc0)==0x80) ||
    (bytes.get 0==0xff && (bytes.get 1&&&0x0f)==0x02)

def isSpace (c : Char) : Bool := c == ' ' || 9≤c.toNat && c.toNat≤13

def leadingDigits : List Char → List Nat
  | [] => []
  | c::cs =>
    match decimalDigit c with
    | some d => d::leadingDigits cs
    | none => []

def atoi (os : AddressCalls) (str : List Char) : BitVec 32 :=
  let s := str.dropWhile isSpace
  let n : Int :=
    if s.head?=some '-' then -Numerals.read 10 0 (leadingDigits s.tail)
    else if s.head?=some '+' then Numerals.read 10 0 (leadingDigits s.tail)
    else Numerals.read 10 0 (leadingDigits s)
  if -2^31≤n ∧ n<2^31 then BitVec.ofInt 32 n else os.atoiOverflow n

/-- The `unsigned long` that is made of what stands behind the percent sign. -/
def readScope (os : AddressCalls) (bytes : List.Vector Byte 16) : List Char → BitVec 64
  | [] => 0
  | _::name =>
    let index := if linkLocal bytes then os.ifNametoindex name else 0
    if index=0 then (atoi os name).signExtend 64 else index.setWidth 64

def inetPton (os : AddressCalls) (src : List Char) :
    Option (List.Vector Byte 16×BitVec 64)×ErrorCode :=
  let ifName := src.dropWhile (· != '%')
  let front := src.takeWhile (· != '%')
  if ifName≠[] ∧ front.length>maxAddrV6StrLen then (none,some invalidArgument)
  else
    match os.inetPton front with
    | (none,errno) => (none,some (errno.getD invalidArgument))
    | (some bytes,errno) => (some (bytes,readScope os bytes ifName),errno)

/-- `if_name` holds 22 characters, and `dest` as many as the address and the scope id may need;
`none` is a write behind the end of one of them. -/
def inetNtop (os : AddressCalls) (bytes : List.Vector Byte 16) (scopeId : BitVec 32) :
    Option (Option (List Char)×ErrorCode) :=
  match os.inetNtop bytes with
  | (none,errno) => some (none,some (errno.getD invalidArgument))
  | (some dest,errno) =>
    if scopeId=0 then some (some dest,errno)
    else
      let name := if linkLocal bytes then os.ifIndextoname scopeId else none
      let ifName := '%'::name.getD (numeral 10 scopeId.toNat)
      if ifName.length<22 ∧ dest.length+ifName.length < maxAddrV6StrLen then
        some (some (dest++ifName),errno)
      else none

def toString (os : AddressCalls) (a : AddressV6) : Option (Except ErrorCode (List Char)) :=
  (inetNtop os a.s6Addr a.scopeId).map fun
    | (some addr,_) => .ok addr
    | (none,ec) => .error ec

def makeAddressV6 (os : AddressCalls) (str : List Char) : Except Error AddressV6 :=
  match inetPton os str with
  | (_,some e) => .error e
  | (some (bytes,scopeId),none) => .ok ⟨bytes,scopeId.setWidth 32⟩
  | (none,none) => .ok ⟨List.Vector.replicate 16 0,0⟩

/-- The system reads what it has printed; an address and the name of an interface are short. -/
structure Lawful (os : AddressCalls) : Prop where
  printed (bytes : List.Vector Byte 16) : ∃text,(os.inetNtop bytes).1=some text ∧
    os.inetPton text=(some bytes,none) ∧ text.length<46 ∧ '%'∉text
  named (index : BitVec 32) (name : List Char) : os.ifIndextoname index=some name →
    os.ifNametoindex name=index ∧ name.length<16

/-- The scope id is printed as the name of an interface. -/
def Named (os : AddressCalls) (a : AddressV6) : Prop :=
  linkLocal a.s6Addr=true ∧ (os.ifIndextoname a.scopeId).isSome

/-- The interface that has the number of another one as its name. -/
def mistaken (os : AddressCalls) (a : AddressV6) : BitVec 32 :=
  if linkLocal a.s6Addr then os.ifNametoindex (numeral 10 a.scopeId.toNat) else 0

section RoundTrip

variable (os : AddressCalls)

theorem leadingDigits_map (ds : List Nat) (hd : ∀d∈ds,d<10) :
    leadingDigits (ds.map Nat.digitChar)=ds := by
  induction ds with
  | nil => rfl
  | cons d ds ih =>
    have h := decimalDigit_digitChar d (hd d (by simp))
    rw [List.map_cons,leadingDigits,h]
    simp only [ih fun e he => hd e (by simp [he])]

theorem digitChar_plain : ∀d<10,isSpace (Nat.digitChar d)=false ∧
    Nat.digitChar d≠ '-' ∧ Nat.digitChar d≠ '+' := by decide

theorem atoi_numeral (n : Nat) : atoi os (numeral 10 n)=
    if n<2^31 then BitVec.ofNat 32 n else os.atoiOverflow n := by
  have hlt := Numerals.digits_lt 10 n (by omega)
  have hread : Numerals.read 10 0 (leadingDigits (numeral 10 n))=n := by
    rw [numeral,leadingDigits_map _ hlt,Numerals.read_digits]
  obtain ⟨d,ds,hd⟩ := List.exists_cons_of_ne_nil (Numerals.digits_ne_nil 10 n)
  obtain ⟨hspace,hminus,hplus⟩ := digitChar_plain d (hlt d (by simp [hd]))
  have hcons : numeral 10 n=Nat.digitChar d::ds.map Nat.digitChar := by rw [numeral,hd]; rfl
  have hdrop : (numeral 10 n).dropWhile isSpace=numeral 10 n := by
    rw [hcons,List.dropWhile_cons_of_neg (by simp [hspace])]
  have hhead : (numeral 10 n).head?=some (Nat.digitChar d) := by rw [hcons]; rfl
  have hrange : -2^31≤(n : Int) ∧ (n : Int)<2^31 ↔ n<2^31 := by omega
  simp only [atoi,hdrop,hhead,hread,Option.some.injEq,hminus,hplus,if_false,hrange,
    BitVec.ofInt_natCast]

theorem percent_split (text tail : List Char) (h : '%'∉text)
    (htail : tail=[] ∨ ∃name,tail= '%'::name) :
    (text++tail).takeWhile (· != '%')=text ∧ (text++tail).dropWhile (· != '%')=tail := by
  have hall : ∀c∈text,(c != '%')=true := by
    intro c hc
    have hne : c≠ '%' := fun he => h (he ▸ hc)
    simpa using hne
  rw [List.takeWhile_append_of_pos hall,List.dropWhile_append_of_pos hall]
  rcases htail with rfl|⟨name,rfl⟩
  · simp
  · simp

/-- What the system reads, and asio behind it. -/
theorem makeAddressV6_text (bytes : List.Vector Byte 16) (text tail : List Char)
    (h : os.inetPton text=(some bytes,none)) (hlen : text.length<46) (hpercent : '%'∉text)
    (htail : tail=[] ∨ ∃name,tail= '%'::name) :
    makeAddressV6 os (text++tail)=.ok ⟨bytes,(readScope os bytes tail).setWidth 32⟩ := by
  obtain ⟨htake,hdrop⟩ := percent_split text tail hpercent htail
  have hfits : ¬text.length>maxAddrV6StrLen := by
    rw [maxAddrV6StrLen]
    omega
  simp only [makeAddressV6,inetPton,htake,hdrop,hfits,and_false,if_false,h]

theorem makeAddressV6_text_iff (a : AddressV6) (text tail : List Char)
    (h : os.inetPton text=(some a.s6Addr,none)) (hlen : text.length<46) (hpercent : '%'∉text)
    (htail : tail=[] ∨ ∃name,tail= '%'::name) : makeAddressV6 os (text++tail)=.ok a ↔
      (readScope os a.s6Addr tail).setWidth 32=a.scopeId := by
  rw [makeAddressV6_text os a.s6Addr text tail h hlen hpercent htail]
  constructor
  · intro h
    exact congrArg AddressV6.scopeId (Except.ok.inj h)
  · intro h
    rw [h]

theorem setWidth_back (x : BitVec 32) : (x.setWidth 64).setWidth 32=x := by
  apply BitVec.eq_of_toNat_eq
  have h := x.isLt
  simp only [BitVec.toNat_setWidth]
  omega

theorem signExtend_back (x : BitVec 32) : (x.signExtend 64).setWidth 32=x := by
  apply BitVec.eq_of_getLsbD_eq
  intro i hi
  have hlong : i<64 := by omega
  rw [BitVec.getLsbD_setWidth,BitVec.getLsbD_signExtend,if_pos hi,decide_eq_true hi,
    decide_eq_true hlong,Bool.true_and,Bool.true_and]

theorem readScope_name (bytes : List.Vector Byte 16) (name : List Char) (index : BitVec 32)
    (hlocal : linkLocal bytes=true) (hname : os.ifNametoindex name=index) (hindex : index≠0) :
    (readScope os bytes ('%'::name)).setWidth 32=index := by
  simp only [readScope,hlocal,if_true,hname,if_neg hindex,setWidth_back]

theorem readScope_number (a : AddressV6) :
    (readScope os a.s6Addr ('%'::numeral 10 a.scopeId.toNat)).setWidth 32=
      if mistaken os a=0 then
        if a.scopeId.toNat<2^31 then a.scopeId else os.atoiOverflow a.scopeId.toNat
      else mistaken os a := by
  have hm : (if linkLocal a.s6Addr=true then os.ifNametoindex (numeral 10 a.scopeId.toNat) else 0)=
      mistaken os a := rfl
  simp only [readScope,hm]
  by_cases hz : mistaken os a=0
  · rw [if_pos hz,if_pos hz,signExtend_back,atoi_numeral,BitVec.ofNat_toNat,BitVec.setWidth_eq]
  · rw [if_neg hz,if_neg hz,setWidth_back]

theorem toString_scoped (a : AddressV6) (dest name : List Char) (errno : ErrorCode)
    (hntop : os.inetNtop a.s6Addr=(some dest,errno)) (hlen : dest.length<46) (hz : a.scopeId≠0)
    (hname : (if linkLocal a.s6Addr then os.ifIndextoname a.scopeId else none).getD
      (numeral 10 a.scopeId.toNat)=name) (hshort : name.length<16) :
    toString os a=some (.ok (dest++('%'::name))) := by
  have hfits : ('%'::name).length<22 ∧ dest.length+('%'::name).length < maxAddrV6StrLen := by
    rw [List.length_cons,maxAddrV6StrLen]
    omega
  simp only [toString,inetNtop,hntop,if_neg hz,hname,if_pos hfits]
  rfl

theorem name_none (a : AddressV6) (h : ¬Named os a) :
    (if linkLocal a.s6Addr then os.ifIndextoname a.scopeId else none)=none := by
  by_cases hlocal : linkLocal a.s6Addr=true
  · rw [if_pos hlocal]
    by_contra hsome
    exact h ⟨hlocal,Option.isSome_iff_ne_none.mpr hsome⟩
  · rw [if_neg hlocal]

/-- An address is read back as it was unless its scope id was printed as a number and an
interface has that number as its name, or the number is too large for an `int` and `atoi` makes
another one of it. -/
theorem makeAddressV6_toString_iff (hos : Lawful os) (a : AddressV6) :
    ∃text,toString os a=some (.ok text) ∧ (makeAddressV6 os text=.ok a ↔
      a.scopeId=0 ∨ Named os a ∨
        if mistaken os a=0 then
          a.scopeId.toNat<2^31 ∨ os.atoiOverflow a.scopeId.toNat=a.scopeId
        else mistaken os a=a.scopeId) := by
  obtain ⟨dest,hdest,hread,hlen,hpercent⟩ := hos.printed a.s6Addr
  obtain ⟨errno,hntop⟩ : ∃errno,os.inetNtop a.s6Addr=(some dest,errno) :=
    ⟨(os.inetNtop a.s6Addr).2,Prod.ext hdest rfl⟩
  have htext (tail : List Char) (ht : tail=[] ∨ ∃name,tail= '%'::name) :=
    makeAddressV6_text_iff os a dest tail hread hlen hpercent ht
  by_cases hz : a.scopeId=0
  · refine ⟨dest++[],?_,iff_of_true ?_ (.inl hz)⟩
    · simp [toString,inetNtop,hntop,hz]
    · rw [htext [] (.inl rfl),hz]
      rfl
  · by_cases hnamed : Named os a
    · obtain ⟨hlocal,hsome⟩ := hnamed
      obtain ⟨name,hname⟩ := Option.isSome_iff_exists.mp hsome
      obtain ⟨hindex,hshort⟩ := hos.named a.scopeId name hname
      refine ⟨dest++('%'::name),?_,iff_of_true ?_ (.inr (.inl ⟨hlocal,hsome⟩))⟩
      · apply toString_scoped os a dest name errno hntop hlen hz _ hshort
        rw [if_pos hlocal,hname,Option.getD_some]
      · rw [htext ('%'::name) (.inr ⟨name,rfl⟩)]
        exact readScope_name os a.s6Addr name a.scopeId hlocal hindex hz
    · have hshort := Numerals.digits_length 10 a.scopeId.toNat 10 (by omega) (by omega)
        (Nat.lt_of_lt_of_le a.scopeId.isLt (by decide))
      refine ⟨dest++('%'::numeral 10 a.scopeId.toNat),?_,?_⟩
      · apply toString_scoped os a dest _ errno hntop hlen hz
        · rw [name_none os a hnamed,Option.getD_none]
        · rw [numeral,List.length_map]
          omega
      · rw [htext ('%'::numeral 10 a.scopeId.toNat) (.inr ⟨_,rfl⟩),readScope_number os a]
        simp only [hz,hnamed,false_or]
        by_cases hm : mistaken os a=0
        · rw [if_pos hm,if_pos hm]
          by_cases hint : a.scopeId.toNat<2^31
          · simp only [hint,if_true,true_or]
          · simp only [hint,if_false,false_or]
        · rw [if_neg hm,if_neg hm]

end RoundTrip

/-- A system with one interface that reads and prints addresses as asio does elsewhere, and makes
an `int` of the `long` next to a number. -/
def oneInterface : AddressCalls where
  inetPton str := match inetPton6 str with
    | .ok (bytes,_) => (some bytes,none)
    | .error _ => (none,none)
  inetNtop bytes := (some (inetNtop6 bytes 0),none)
  ifNametoindex name := if name="eth0".toList then 2 else 0
  ifIndextoname index := if index=2 then some "eth0".toList else none
  atoiOverflow n := BitVec.ofInt 32 (max (-2^63) (min n (2^63-1)))

theorem wordsText_percent (first z : Bool) (bytes : List Byte) :
    '%'∉wordsText first z bytes := by
  have hdigit : ∀d<16,Nat.digitChar d≠ '%' := by decide
  have hnumeral (n : Nat) : '%'∉numeral 16 n := by
    intro h
    obtain ⟨d,hd,hc⟩ := List.mem_map.mp h
    exact hdigit d (Numerals.digits_lt 16 n (by omega) d hd) hc
  induction first,z,bytes using wordsText.induct with
  | case1 first z b0 b1 bytes h ih =>
    rw [wordsText,if_pos h]
    split_ifs <;> simp [ih]
  | case2 first z b0 b1 bytes h ih =>
    rw [wordsText,if_neg h]
    split_ifs <;> simp [ih,hnumeral]
  | case3 first z bytes h =>
    rw [wordsText.eq_2 first z bytes h]
    simp

theorem oneInterface_lawful : Lawful oneInterface := by
  constructor
  · intro bytes
    have hlen := wordsText_length true false bytes.1
    rw [bytes.2] at hlen
    have hnil : inetNtop6 bytes 0=wordsText true false bytes.1 := by
      rw [inetNtop6,scopeText,if_pos rfl,List.append_nil]
    refine ⟨inetNtop6 bytes 0,rfl,?_,?_,?_⟩
    · have h := inetPton6_inetNtop6 bytes 0
      rw [if_pos (Nat.zero_le _)] at h
      simp only [oneInterface,h]
    · rw [hnil]
      omega
    · rw [hnil]
      exact wordsText_percent true false bytes.1
  · intro index name h
    simp only [oneInterface] at h
    split_ifs at h with hindex
    · cases h
      exact ⟨hindex.symm,by decide⟩

/-- A named scope id, and one that no `int` holds, are read back. -/
theorem toString_iff_oneInterface :
    let linked : AddressV6 := ⟨⟨[0xfe,0x80,0,0,0,0,0,0,0,0,0,0,0,0,0,1],rfl⟩,2⟩
    let large : AddressV6 := ⟨⟨[0x20,0x01,0,0,0,0,0,0,0,0,0,0,0,0,0,1],rfl⟩,3000000000⟩
    (∃text,toString oneInterface linked=some (.ok text) ∧
      makeAddressV6 oneInterface text=.ok linked) ∧
    ∃text,toString oneInterface large=some (.ok text) ∧
      makeAddressV6 oneInterface text=.ok large := by
  intro linked large
  obtain ⟨text,htext,hread⟩ := makeAddressV6_toString_iff oneInterface oneInterface_lawful linked
  obtain ⟨text',htext',hread'⟩ := makeAddressV6_toString_iff oneInterface oneInterface_lawful large
  have hlarge : mistaken oneInterface large=0 := rfl
  rw [hlarge,if_pos rfl] at hread'
  exact ⟨⟨text,htext,hread.mpr (.inr (.inl ⟨by decide,by decide⟩))⟩,
    text',htext',hread'.mpr (.inr (.inr (.inr (by decide))))⟩

end Posix

end Asio

end MediapipeLivelink
