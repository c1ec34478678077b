import MediapipeLivelink.Asio.Endpoint
import MediapipeLivelink.Framework.Exec
import MediapipeLivelink.Framework.Numerals

namespace MediapipeLivelink

namespace Asio

/-! Addresses as text, where asio itself reads and writes them: `inet_pton` and `inet_ntop`
of the Windows Runtime. A string is the list of its characters up to the terminating zero. -/

def hexDigit (c : Char) : Option Nat :=
  if '0' ≤ c ∧ c ≤ '9' then some (c.toNat - '0'.toNat)
  else if 'a' ≤ c ∧ c ≤ 'f' then some (c.toNat - 'a'.toNat+10)
  else if 'A' ≤ c ∧ c ≤ 'F' then some (c.toNat - 'A'.toNat+10)
  else none

def decimalDigit (c : Char) : Option Nat :=
  if '0' ≤ c ∧ c ≤ '9' then some (c.toNat - '0'.toNat) else none

/-- Why a text is refused; `overrun` is a write outside of an array. -/
inductive TextError
  | invalidArgument
  | overrun
  | unfinished
  deriving DecidableEq

inductive ScanState
  | fword
  | fcolon
  | bword
  | scope
  | done
  deriving DecidableEq

/-- The variables of the IPv6 reader. `p` is what is left of the string; `front` and `back` are
the bytes written so far to the two arrays, which have room for 16 each. -/
structure Scanner where
  state : ScanState
  p : List Char
  currentWord : Nat
  front : List Byte
  back : List Byte
  scopeId : Nat

def Scanner.start (src : List Char) : Scanner := ⟨.fword,src,0,[],[],0⟩

def wordBytes (w : Nat) : List Byte := [BitVec.ofNat 8 (w>>>8),BitVec.ofNat 8 w]

/-- `bytes[n++] = (word >> 8) & 0xFF; bytes[n++] = word & 0xFF;` -/
def writeWord (bytes : List Byte) (w : Nat) : Except TextError (List Byte) :=
  if bytes.length+2≤16 then .ok (bytes++wordBytes w) else .error .overrun

/-- What comes after a word; `colon` is the state after a colon. -/
def afterWord (s : Scanner) (colon : ScanState) : Except TextError Scanner :=
  match s.p with
  | [] => .ok {s with state := .done}
  | c::p =>
    if c = ':' then .ok {s with state := colon,p := p}
    else if c = '%' then .ok {s with state := .scope,p := p}
    else .error .invalidArgument

/-- One round of the IPv6 reader. -/
def scanRound (s : Scanner) : Except TextError Scanner :=
  if s.currentWord>0xFFFF then .error .invalidArgument
  else match s.state with
  | .fword =>
    match s.p.head?.bind hexDigit with
    | some d => .ok {s with currentWord := s.currentWord*16+d,p := s.p.tail}
    | none =>
      if s.front.length=16 then .error .invalidArgument
      else do
        let front ← writeWord s.front s.currentWord
        afterWord {s with front := front,currentWord := 0} .fcolon
  | .fcolon =>
    if s.p.head?=some ':' then .ok {s with state := .bword,p := s.p.tail}
    else .ok {s with state := .fword}
  | .bword =>
    match s.p.head?.bind hexDigit with
    | some d => .ok {s with currentWord := s.currentWord*16+d,p := s.p.tail}
    | none =>
      if s.front.length+s.back.length=16 then .error .invalidArgument
      else do
        let back ← writeWord s.back s.currentWord
        afterWord {s with back := back,currentWord := 0} .bword
  | .scope =>
    match s.p with
    | [] => .ok {s with scopeId := s.currentWord,state := .done}
    | c::p =>
      match decimalDigit c with
      | some d => .ok {s with currentWord := s.currentWord*10+d,p := p}
      | none => .error .invalidArgument
  | .done => .ok s

def Scanner.scanning (s : Scanner) : Bool := s.state != .done

def scanBody : Exec TextError Scanner Control := fun s => (scanRound s).map fun t => (.next,t)

/-- `while (state != done)` -/
def scan (n : Nat) : Exec TextError Scanner Control := Exec.whileLoop Scanner.scanning scanBody n

/-- The bytes at the back go to the end of the address. -/
def assemble (front back : List Byte) : Except TextError (List.Vector Byte 16) :=
  if h : front.length≤16 ∧ back.length≤16 then
    .ok ⟨(front++List.replicate (16-front.length) 0).take (16-back.length)++back,by
      simp only [List.length_append,List.length_take,List.length_replicate]
      omega⟩
  else .error .overrun

/-- `inet_pton` for IPv6; the loop is followed for more rounds than it has. -/
def inetPton6 (src : List Char) : Except TextError (List.Vector Byte 16×Nat) := do
  let (c,s) ← scan (2*src.length+4) (.start src)
  match c with
  | .next => throw .unfinished
  | .leave => return (← assemble s.front s.back,s.scopeId)

/-- `do b += 2; while (b < 16 && bytes[b] == 0 && bytes[b + 1] == 0);` after the first time. -/
def dropZeros : List Byte → List Byte
  | b0::b1::bytes => if b0=0 ∧ b1=0 then dropZeros bytes else b0::b1::bytes
  | bytes => bytes

theorem dropZeros_eq (bytes : List Byte) :
    ∃n,bytes=List.replicate (2*n) 0++dropZeros bytes := by
  induction bytes using dropZeros.induct with
  | case1 b0 b1 bytes h ih =>
    obtain ⟨n,hn⟩ := ih
    refine ⟨n+1,?_⟩
    rw [dropZeros,if_pos h,h.1,h.2,Nat.mul_succ,List.replicate_succ,List.replicate_succ]
    simp only [List.cons_append]
    rw [← hn]
  | case2 b0 b1 bytes h => exact ⟨0,by rw [dropZeros,if_neg h]; rfl⟩
  | case3 bytes h => exact ⟨0,by rw [dropZeros.eq_2 bytes h]; rfl⟩

theorem dropZeros_length (bytes : List Byte) : (dropZeros bytes).length≤bytes.length := by
  obtain ⟨n,h⟩ := dropZeros_eq bytes
  have hl := congrArg List.length h
  rw [List.length_append] at hl
  omega

/-- `"%x"` and `"%lu"` -/
def numeral (base n : Nat) : List Char := (Numerals.digits base n).map Nat.digitChar

/-- `(static_cast<u_long_type>(b0) << 8) | b1` -/
def word (b0 b1 : Byte) : Nat := b0.toNat<<<8|||b1.toNat

theorem word_lt (b0 b1 : Byte) : word b0 b1=2^8*b0.toNat+b1.toNat := by
  rw [word,Nat.shiftLeft_eq,Nat.mul_comm]
  exact (Nat.two_pow_add_eq_or_of_lt b1.isLt b0.toNat).symm

theorem word_le (b0 b1 : Byte) : word b0 b1≤0xFFFF := by
  have h0 := b0.isLt
  have h1 := b1.isLt
  rw [word_lt]
  omega

/-- The loop of `inet_ntop`; `first` stands for `b == 0`, and `z` for `z != 0`. That
`n < length` always holds is `toString_length`. -/
def wordsText (first z : Bool) : List Byte → List Char
  | b0::b1::bytes =>
    if b0=0 ∧ b1=0 ∧ z=false then
      ':'::((if dropZeros bytes=[] then [':'] else [])++wordsText false true (dropZeros bytes))
    else (if first then [] else [':'])++numeral 16 (word b0 b1)++wordsText false z bytes
  | _ => []
  termination_by bytes => bytes.length
  decreasing_by
    · have h := dropZeros_length bytes
      simp only [List.length_cons]
      omega
    · simp only [List.length_cons]
      omega

def scopeText (scopeId : Nat) : List Char :=
  if scopeId=0 then [] else '%'::numeral 10 scopeId

def inetNtop6 (bytes : List.Vector Byte 16) (scopeId : Nat) : List Char :=
  wordsText true false bytes.1++scopeText scopeId

def maxAddrV6StrLen : Nat := 256

/-- `to_string` -/
def AddressV6.toString (a : AddressV6) : List Char := inetNtop6 a.s6Addr a.scopeId.toNat

theorem wordsText_length (first z : Bool) (bytes : List Byte) :
    (wordsText first z bytes).length≤5*(bytes.length/2) := by
  induction first,z,bytes using wordsText.induct with
  | case1 first z b0 b1 bytes h ih =>
    have hd := dropZeros_length bytes
    have hc : (if dropZeros bytes=[] then [':'] else []).length≤1 := by
      split_ifs <;> simp
    rw [wordsText,if_pos h]
    simp only [List.length_cons,List.length_append]
    omega
  | case2 first z b0 b1 bytes h ih =>
    have hw := word_le b0 b1
    have hn := Numerals.digits_length 16 (word b0 b1) 4 (by omega) (by omega) (by omega)
    have hc : (if first=true then [] else [':']).length≤1 := by
      split_ifs <;> simp
    rw [wordsText,if_neg h]
    simp only [List.length_cons,List.length_append,numeral,List.length_map]
    omega
  | case3 first z bytes h =>
    rw [wordsText.eq_2 first z bytes h]
    simp

/-- The text, with the zero after it, fits the buffer. -/
theorem toString_length (a : AddressV6) : a.toString.length < maxAddrV6StrLen := by
  have hw := wordsText_length true false a.s6Addr.1
  have hs : (scopeText a.scopeId.toNat).length≤11 := by
    have hn := Numerals.digits_length 10 a.scopeId.toNat 10 (by omega) (by omega)
      (Nat.lt_of_lt_of_le a.scopeId.isLt (by decide))
    rw [scopeText]
    split_ifs
    · simp
    · simp only [numeral,List.length_cons,List.length_map]
      omega
  rw [a.s6Addr.2] at hw
  rw [AddressV6.toString,inetNtop6,List.length_append,maxAddrV6StrLen]
  omega

section Safety

theorem hexDigit_lt (c : Char) (d : Nat) (h : hexDigit c=some d) : d<16 := by
  have hle (a b : Char) : a≤b ↔ a.toNat≤b.toNat := Iff.rfl
  simp only [hexDigit,hle] at h
  split_ifs at h with h9 hf hF
  all_goals
    have hd := Option.some.inj h
    simp only [Char.reduceToNat] at *
    omega

theorem decimalDigit_lt (c : Char) (d : Nat) (h : decimalDigit c=some d) : d<10 := by
  have hle (a b : Char) : a≤b ↔ a.toNat≤b.toNat := Iff.rfl
  simp only [decimalDigit,hle] at h
  split_ifs at h with h9
  have hd := Option.some.inj h
  simp only [Char.reduceToNat] at *
  omega

/-- Words are written whole, and the two arrays never hold more than an address. `currentWord`
stays small enough for an `unsigned long`. -/
structure Scanner.Fits (s : Scanner) : Prop where
  front_even : s.front.length%2=0
  back_even : s.back.length%2=0
  room : s.front.length+s.back.length≤16
  front_only : s.state=.fword ∨ s.state=.fcolon → s.back=[]
  word : s.currentWord<2^20
  scope : s.scopeId≤0xFFFF

def ScanState.rank : ScanState → Nat
  | .fcolon => 2
  | .done => 0
  | _ => 1

/-- What is still to be done. -/
def Scanner.left (s : Scanner) : Nat := 2*s.p.length+s.state.rank

theorem writeWord_ok (bytes : List Byte) (w : Nat) (h : bytes.length+2≤16) :
    writeWord bytes w=.ok (bytes++wordBytes w) := if_pos h

/-- What the reader takes from a string are digits, colons and percent signs. -/
def Legal (c : Char) : Prop := (∃d,hexDigit c=some d) ∨ c = ':' ∨ c = '%'

theorem decimalDigit_legal (c : Char) (d : Nat) (h : decimalDigit c=some d) : Legal c := by
  refine .inl ⟨d,?_⟩
  rw [decimalDigit] at h
  rw [hexDigit]
  split_ifs at h with h9
  rw [if_pos h9]
  exact h

/-- `t` has read legal characters that `s` had before it, and all of them if it is done. -/
def Scanner.Takes (s t : Scanner) : Prop :=
  (∃cs,s.p=cs++t.p ∧ ∀c∈cs,Legal c) ∧ (t.state=.done → t.p=[])

theorem Scanner.Takes.none {s t : Scanner} (hp : s.p=t.p) (ht : t.state=.done → t.p=[]) :
    s.Takes t := ⟨⟨[],hp,by simp⟩,ht⟩

theorem Scanner.Takes.one {s t : Scanner} (c : Char) (hc : Legal c) (hp : s.p=c::t.p)
    (ht : t.state≠.done) : s.Takes t :=
  ⟨⟨[c],hp,by simpa using hc⟩,fun h => absurd h ht⟩

theorem Scanner.Takes.trans {s t u : Scanner} (h : s.Takes t) (h' : t.Takes u) : s.Takes u := by
  obtain ⟨⟨cs,hp,hcs⟩,-⟩ := h
  obtain ⟨⟨cs',hp',hcs'⟩,hu⟩ := h'
  refine ⟨⟨cs++cs',?_,?_⟩,hu⟩
  · rw [hp,hp',List.append_assoc]
  · intro c hc
    rcases List.mem_append.mp hc with hc|hc
    · exact hcs c hc
    · exact hcs' c hc

theorem afterWord_cases (s : Scanner) (colon : ScanState) :
    afterWord s colon=.error .invalidArgument ∨
      (s.p=[] ∧ afterWord s colon=.ok {s with state := .done}) ∨
      ∃c p state,s.p=c::p ∧ Legal c ∧ (state=colon ∨ state=.scope) ∧
        afterWord s colon=.ok {s with state := state,p := p} := by
  rw [afterWord]
  cases hp : s.p with
  | nil => exact .inr (.inl ⟨rfl,rfl⟩)
  | cons c p =>
    by_cases hc : c = ':'
    · exact .inr (.inr ⟨c,p,colon,rfl,.inr (.inl hc),.inl rfl,by simp [hc]⟩)
    · by_cases hs : c = '%'
      · exact .inr (.inr ⟨c,p,.scope,rfl,.inr (.inr hs),.inr rfl,by simp [hs]⟩)
      · exact .inl (by simp [hc,hs])

/-- A round fails as it should, or keeps the arrays in order and comes closer to the end. -/
def Scanner.Goes (s : Scanner) (r : Except TextError Scanner) : Prop :=
  r=.error .invalidArgument ∨ ∃t,r=.ok t ∧ t.Fits ∧ s.Takes t ∧ t.left<s.left

theorem afterWord_goes (s t : Scanner) (colon : ScanState) (hp : t.p=s.p) (ht : t.Fits)
    (hs : s.state.rank=1) (hc : colon=.fcolon ∧ t.back=[] ∨ colon=.bword) :
    s.Goes (afterWord t colon) := by
  rcases afterWord_cases t colon with h|⟨hn,h⟩|⟨c,p,state,hn,hlegal,hstate,h⟩
  · exact .inl h
  · refine .inr ⟨_,h,⟨ht.front_even,ht.back_even,ht.room,by simp,ht.word,ht.scope⟩,
      .none hp.symm fun _ => hn,?_⟩
    change 2*t.p.length+0<2*s.p.length+s.state.rank
    rw [hp,hs]
    omega
  · have hb : state=.fword ∨ state=.fcolon → t.back=[] := by
      rcases hstate with rfl|rfl <;> rcases hc with ⟨rfl,hc⟩|rfl <;> simp_all
    have hr : state.rank≤2 := by
      cases state <;> simp [ScanState.rank]
    have hne : state≠.done := by
      rcases hstate with rfl|rfl <;> rcases hc with ⟨rfl,-⟩|rfl <;> simp
    refine .inr ⟨_,h,⟨ht.front_even,ht.back_even,ht.room,hb,ht.word,ht.scope⟩,
      .one c hlegal (hp.symm.trans hn) hne,?_⟩
    simp only [Scanner.left,← hp,hn,hs,List.length_cons]
    omega

theorem digit_goes (s : Scanner) (c : Char) (p : List Char) (base d : Nat) (hs : s.Fits)
    (hdone : s.state≠.done) (hw : s.currentWord≤0xFFFF) (hp : s.p=c::p) (hc : Legal c)
    (hb : base≤16) (hd : d<16) :
    s.Goes (.ok {s with currentWord := s.currentWord*base+d,p := p}) := by
  have hm := Nat.mul_le_mul hw hb
  refine .inr ⟨_,rfl,⟨hs.front_even,hs.back_even,hs.room,hs.front_only,?_,hs.scope⟩,
    .one c hc hp hdone,?_⟩
  · change s.currentWord*base+d<2^20
    omega
  · simp only [Scanner.left,hp,List.length_cons]
    omega

theorem scanRound_goes (s : Scanner) (hs : s.Fits) (hd : s.state≠.done) :
    s.Goes (scanRound s) := by
  have hdigit (d : Nat) (h : s.p.head?.bind hexDigit=some d) :
      ∃c,s.p=c::s.p.tail ∧ Legal c ∧ d<16 := by
    obtain ⟨c,hc,hx⟩ := Option.bind_eq_some_iff.mp h
    exact ⟨c,(List.cons_head?_tail hc).symm,.inl ⟨d,hx⟩,hexDigit_lt c d hx⟩
  have hwritten (bytes : List Byte) (w : Nat) (h : bytes.length%2=0) :
      (bytes++wordBytes w).length%2=0 := by
    simp only [wordBytes,List.length_append,List.length_cons,List.length_nil]
    omega
  by_cases hw : s.currentWord>0xFFFF
  · exact .inl (by rw [scanRound,if_pos hw])
  · rw [scanRound,if_neg hw]
    have hw : s.currentWord≤0xFFFF := Nat.le_of_not_lt hw
    obtain ⟨state,p,w,front,back,scopeId⟩ := s
    obtain ⟨hfe,hbe,hroom,honly,hword,hscope⟩ := hs
    dsimp only at *
    cases state with
    | fword =>
      have hback : back=[] := honly (.inl rfl)
      subst hback
      cases hx : p.head?.bind hexDigit with
      | some d =>
        obtain ⟨c,hp,hc,hlt⟩ := hdigit d hx
        exact digit_goes ⟨.fword,p,w,front,[],scopeId⟩ c p.tail 16 d
          ⟨hfe,hbe,hroom,honly,hword,hscope⟩ hd hw hp hc (Nat.le_refl 16) hlt
      | none =>
        by_cases hf : front.length=16
        · exact .inl (by simp [hf])
        · rw [List.length_nil] at hroom
          have hlen : front.length+2≤16 := by omega
          simp only [if_neg hf,writeWord_ok front w hlen]
          apply afterWord_goes ⟨.fword,p,w,front,[],scopeId⟩
            ⟨.fword,p,0,front++wordBytes w,[],scopeId⟩
          · rfl
          · refine ⟨hwritten front w hfe,hbe,?_,fun _ => rfl,by simp,hscope⟩
            simpa [wordBytes] using hlen
          · rfl
          · exact .inl ⟨rfl,rfl⟩
    | fcolon =>
      by_cases hc : p.head?=some ':'
      · simp only [if_pos hc]
        refine .inr ⟨_,rfl,⟨hfe,hbe,hroom,by simp,hword,hscope⟩,
          .one ':' (.inr (.inl rfl)) (List.cons_head?_tail hc).symm (by simp),?_⟩
        simp only [Scanner.left,ScanState.rank,List.length_tail]
        omega
      · simp only [if_neg hc]
        refine .inr ⟨_,rfl,⟨hfe,hbe,hroom,fun _ => honly (.inr rfl),hword,hscope⟩,
          .none rfl (by simp),?_⟩
        simp [Scanner.left,ScanState.rank]
    | bword =>
      cases hx : p.head?.bind hexDigit with
      | some d =>
        obtain ⟨c,hp,hc,hlt⟩ := hdigit d hx
        exact digit_goes ⟨.bword,p,w,front,back,scopeId⟩ c p.tail 16 d
          ⟨hfe,hbe,hroom,honly,hword,hscope⟩ hd hw hp hc (Nat.le_refl 16) hlt
      | none =>
        by_cases hf : front.length+back.length=16
        · exact .inl (by simp [hf])
        · have hlen : back.length+2≤16 := by omega
          simp only [if_neg hf,writeWord_ok back w hlen]
          apply afterWord_goes ⟨.bword,p,w,front,back,scopeId⟩
            ⟨.bword,p,0,front,back++wordBytes w,scopeId⟩
          · rfl
          · refine ⟨hfe,hwritten back w hbe,?_,by simp,by simp,hscope⟩
            simp only [wordBytes,List.length_append,List.length_cons,List.length_nil]
            omega
          · rfl
          · exact .inr rfl
    | scope =>
      cases p with
      | nil =>
        refine .inr ⟨_,rfl,⟨hfe,hbe,hroom,by simp,hword,hw⟩,.none rfl fun _ => rfl,?_⟩
        simp [Scanner.left,ScanState.rank]
      | cons c p =>
        cases hx : decimalDigit c with
        | none => exact .inl (by simp [hx])
        | some d =>
          have h := decimalDigit_lt c d hx
          have hg := digit_goes ⟨.scope,c::p,w,front,back,scopeId⟩ c p 10 d
            ⟨hfe,hbe,hroom,honly,hword,hscope⟩ hd hw rfl (decimalDigit_legal c d hx) (by omega)
            (by omega)
          simp only [hx]
          exact hg
    | done => exact absurd rfl hd

theorem scan_total (src : List Char) :
    (∃e,scan (2*src.length+4) (.start src)=.error e ∧ e=.invalidArgument) ∨
      ∃t,scan (2*src.length+4) (.start src)=.ok (.leave,t) ∧ t.Fits ∧ ∀c∈src,Legal c := by
  apply Exec.whileLoop_total Scanner.scanning scanBody
    (fun s : Scanner => s.Fits ∧ (Scanner.start src).Takes s)
    (fun t : Scanner => t.Fits ∧ ∀c∈src,Legal c) (fun e : TextError => e=.invalidArgument)
    Scanner.left
  · intro s hs hd
    have hd : s.state≠.done := by simpa [Scanner.scanning] using hd
    rcases scanRound_goes s hs.1 hd with h|⟨t,h,ht,htakes,hl⟩
    · exact .inl ⟨_,by rw [scanBody,h]; rfl,rfl⟩
    · exact .inr ⟨(.next,t),by rw [scanBody,h]; rfl,⟨ht,hs.2.trans htakes⟩,hl⟩
  · intro s hs hd
    have hd : s.state=.done := by simpa [Scanner.scanning] using hd
    obtain ⟨hfits,⟨cs,hp,hcs⟩,hnil⟩ := hs
    rw [hnil hd,List.append_nil] at hp
    change src=cs at hp
    exact ⟨hfits,hp ▸ hcs⟩
  · refine ⟨?_,.none rfl (by simp [Scanner.start])⟩
    constructor <;> simp [Scanner.start]
  · simp [Scanner.left,Scanner.start,ScanState.rank]

theorem inetPton6_returns (src : List Char) : inetPton6 src=.error .invalidArgument ∨
    ∃bytes scopeId,inetPton6 src=.ok (bytes,scopeId) ∧ scopeId≤0xFFFF := by
  rcases scan_total src with ⟨e,h,rfl⟩|⟨t,h,ht,-⟩
  · exact .inl (by rw [inetPton6,h]; rfl)
  · have hroom := ht.room
    have ha : t.front.length≤16 ∧ t.back.length≤16 := by omega
    obtain ⟨bytes,hb⟩ : ∃bytes,assemble t.front t.back=.ok bytes := ⟨_,dif_pos ha⟩
    refine .inr ⟨bytes,t.scopeId,?_,ht.scope⟩
    rw [inetPton6,h,Exec.ok_bind]
    simp only [hb]
    rfl

theorem inetPton6_legal (src : List Char) (r : List.Vector Byte 16×Nat)
    (hr : inetPton6 src=.ok r) : ∀c∈src,Legal c := by
  rcases scan_total src with ⟨e,h,-⟩|⟨t,-,-,hlegal⟩
  · rw [inetPton6,h] at hr
    cases hr
  · exact hlegal

/-- Whatever the string, the IPv6 reader comes to an end, writes nothing outside of its arrays,
and refuses the string or has read an address with a short scope id; and it refuses every string
with other characters than digits, colons and percent signs. -/
theorem inetPton6_safe (src : List Char) : inetPton6 src=.error .invalidArgument ∨
    (∃bytes scopeId,inetPton6 src=.ok (bytes,scopeId) ∧ scopeId≤0xFFFF) ∧ ∀c∈src,Legal c := by
  rcases inetPton6_returns src with h|⟨bytes,scopeId,h,hscope⟩
  · exact .inl h
  · exact .inr ⟨⟨bytes,scopeId,h,hscope⟩,inetPton6_legal src (bytes,scopeId) h⟩

end Safety

end Asio

end MediapipeLivelink
