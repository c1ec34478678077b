import MediapipeLivelink.Asio.AddressText
import Mathlib.Data.List.Induction

namespace MediapipeLivelink

namespace Asio

theorem hexDigit_digitChar : ∀d<16,hexDigit (Nat.digitChar d)=some d := by decide

theorem decimalDigit_digitChar : ∀d<10,decimalDigit (Nat.digitChar d)=some d := by decide

theorem wordBytes_word (b0 b1 : Byte) : wordBytes (word b0 b1)=[b0,b1] := by
  have h1 := b1.isLt
  have hs : (2^8*b0.toNat+b1.toNat)>>>8=b0.toNat := by
    rw [Nat.shiftRight_eq_div_pow]
    omega
  rw [word_lt,wordBytes,hs]
  congr 1
  · simp
  · congr 1
    apply BitVec.eq_of_toNat_eq
    rw [BitVec.toNat_ofNat]
    omega

namespace Scanner

/-- What the reader makes of the variables once the loop is over. -/
def result (r : Control×Scanner) : Except TextError (List.Vector Byte 16×Nat) :=
  (assemble r.2.front r.2.back).map fun bytes => (bytes,r.2.scopeId)

/-- From these variables the reader comes to the result `r`. -/
def Reads (s : Scanner) (r : Except TextError (List.Vector Byte 16×Nat)) : Prop :=
  ∃x,Exec.Settles scanning scanBody s x ∧ (x>>=result)=r

theorem Reads.round {s t : Scanner} {r : Except TextError (List.Vector Byte 16×Nat)}
    (ht : t.Reads r) (hs : s.state≠.done) (h : scanRound s=.ok t) : s.Reads r := by
  obtain ⟨x,hx,hr⟩ := ht
  refine ⟨x,Exec.Settles.round scanning scanBody ?_ ?_ hx,hr⟩
  · simp [scanning,hs]
  · rw [scanBody,h]
    rfl

theorem Reads.refused {s : Scanner} {e : TextError} (hs : s.state≠.done)
    (h : scanRound s=.error e) : s.Reads (.error e) := by
  refine ⟨.error e,Exec.Settles.fail scanning scanBody ?_ ?_,rfl⟩
  · simp [scanning,hs]
  · rw [scanBody,h]
    rfl

theorem Reads.done {s : Scanner} {bytes : List.Vector Byte 16} (hs : s.state=.done)
    (h : assemble s.front s.back=.ok bytes) : s.Reads (.ok (bytes,s.scopeId)) := by
  refine ⟨.ok (.leave,s),Exec.Settles.stop scanning scanBody ?_,?_⟩
  · simp [scanning,hs]
  · rw [Exec.ok_bind,result,h]
    rfl

end Scanner

theorem inetPton6_reads (src : List Char) (r : Except TextError (List.Vector Byte 16×Nat))
    (h : (Scanner.start src).Reads r) : inetPton6 src=r := by
  obtain ⟨x,hx,rfl⟩ := h
  have hscan : scan (2*src.length+4) (.start src)=x := by
    refine Exec.Settles.unique Scanner.scanning scanBody ⟨?_,_,rfl⟩ hx
    intro t ht
    change scan (2*src.length+4) (.start src)=.ok (.next,t) at ht
    rcases scan_total src with ⟨e,he,-⟩|⟨u,hu,-⟩
    · rw [he] at ht
      cases ht
    · rw [hu] at ht
      cases ht
  rw [inetPton6,hscan]
  cases x with
  | error e => rfl
  | ok y =>
    obtain ⟨c,s⟩ := y
    cases c with
    | next => exact absurd rfl (hx.1 s)
    | leave =>
      rw [Exec.ok_bind,Exec.ok_bind,Scanner.result]
      cases ha : assemble s.front s.back <;> simp only [ha] <;> rfl

/-- What the reader should make of a printed address. -/
def printed (bytes : List.Vector Byte 16) (scopeId : Nat) :
    Except TextError (List.Vector Byte 16×Nat) :=
  if scopeId≤0xFFFF then .ok (bytes,scopeId) else .error .invalidArgument

namespace Scanner

theorem digits_reads (ds : List Nat) (p : List Char)
    (r : Except TextError (List.Vector Byte 16×Nat)) (s : Scanner)
    (hs : s.state=.fword ∨ s.state=.bword) (hd : ∀d∈ds,d<16) (hp : s.p=ds.map Nat.digitChar++p)
    (hw : Numerals.read 16 s.currentWord ds≤0xFFFF)
    (h : {s with p := p,currentWord := Numerals.read 16 s.currentWord ds}.Reads r) :
    s.Reads r := by
  induction ds generalizing s with
  | nil =>
    have he : {s with p := p,currentWord := Numerals.read 16 s.currentWord []}=s := by
      obtain ⟨state,q,w,front,back,scopeId⟩ := s
      simp_all [Numerals.read]
    rw [he] at h
    exact h
  | cons d ds ih =>
    have hhead : (s.p.head?.bind hexDigit)=some d := by
      rw [hp]
      exact hexDigit_digitChar d (hd d (by simp))
    have hle := Numerals.le_read 16 s.currentWord (by omega) (d::ds)
    have hword : ¬s.currentWord>0xFFFF := by omega
    have hround : scanRound s=
        .ok {s with currentWord := s.currentWord*16+d,p := ds.map Nat.digitChar++p} := by
      rw [scanRound,if_neg hword]
      rcases hs with hs|hs <;> simp only [hs,hhead] <;> simp [hp]
    refine Reads.round ?_ (by rcases hs with hs|hs <;> simp [hs]) hround
    exact ih {s with currentWord := s.currentWord*16+d,p := ds.map Nat.digitChar++p} hs
      (fun e he => hd e (by simp [he])) rfl hw h

/-- A word that was printed is read, whatever comes after it. -/
theorem word_reads (b0 b1 : Byte) (p : List Char)
    (r : Except TextError (List.Vector Byte 16×Nat)) (s : Scanner)
    (hs : s.state=.fword ∨ s.state=.bword) (hw : s.currentWord=0)
    (hp : s.p=numeral 16 (word b0 b1)++p)
    (h : {s with p := p,currentWord := word b0 b1}.Reads r) : s.Reads r := by
  have hr := Numerals.read_digits 16 (word b0 b1)
  have hle := word_le b0 b1
  apply digits_reads (Numerals.digits 16 (word b0 b1)) p r s hs
  · exact Numerals.digits_lt 16 (word b0 b1) (by omega)
  · exact hp
  · rw [hw,hr]
    exact hle
  · rw [hw,hr]
    exact h

/-- The scope id is read to the end of the string, unless it is too large. -/
theorem scope_reads (bytes : List.Vector Byte 16) (ds : List Nat) (s : Scanner)
    (hs : s.state=.scope) (hd : ∀d∈ds,d<10) (hp : s.p=ds.map Nat.digitChar)
    (ha : assemble s.front s.back=.ok bytes) :
    s.Reads (printed bytes (Numerals.read 10 s.currentWord ds)) := by
  have hstate : s.state≠.done := by simp [hs]
  induction ds generalizing s with
  | nil =>
    by_cases hw : s.currentWord>0xFFFF
    · rw [printed,if_neg (by change ¬s.currentWord≤0xFFFF; omega)]
      exact Reads.refused hstate (by rw [scanRound,if_pos hw])
    · have hround : scanRound s=.ok {s with scopeId := s.currentWord,state := .done} := by
        rw [scanRound,if_neg hw]
        simp [hs,hp]
      have hdone : Reads {s with scopeId := s.currentWord,state := .done}
          (.ok (bytes,s.currentWord)) := Reads.done rfl ha
      rw [printed,if_pos (by change s.currentWord≤0xFFFF; omega)]
      exact hdone.round hstate hround
  | cons d ds ih =>
    by_cases hw : s.currentWord>0xFFFF
    · have hle := Numerals.le_read 10 s.currentWord (by omega) (d::ds)
      rw [printed,if_neg (by omega)]
      exact Reads.refused hstate (by rw [scanRound,if_pos hw])
    · have hx := decimalDigit_digitChar d (hd d (by simp))
      have hround : scanRound s=
          .ok {s with currentWord := s.currentWord*10+d,p := ds.map Nat.digitChar} := by
        rw [scanRound,if_neg hw]
        simp [hs,hp,hx]
      refine Reads.round ?_ hstate hround
      exact ih {s with currentWord := s.currentWord*10+d,p := ds.map Nat.digitChar} hs
        (fun e he => hd e (by simp [he])) rfl ha hstate

/-- What comes after the last word. -/
theorem tail_reads (bytes : List.Vector Byte 16) (scopeId : Nat) (s : Scanner)
    (colon : ScanState) (hp : s.p=scopeText scopeId) (hw : s.currentWord=0)
    (hscope : s.scopeId=0) (ha : assemble s.front s.back=.ok bytes) :
    ∃t,afterWord s colon=.ok t ∧ t.Reads (printed bytes scopeId) := by
  by_cases hz : scopeId=0
  · have hnil : s.p=[] := by rw [hp,scopeText,if_pos hz]
    refine ⟨{s with state := .done},by simp [afterWord,hnil],?_⟩
    rw [printed,if_pos (by omega),hz,← hscope]
    exact Reads.done rfl ha
  · have hcons : s.p= '%'::numeral 10 scopeId := by rw [hp,scopeText,if_neg hz]
    refine ⟨{s with state := .scope,p := numeral 10 scopeId},by simp [afterWord,hcons],?_⟩
    have h := scope_reads bytes (Numerals.digits 10 scopeId)
      {s with state := .scope,p := numeral 10 scopeId} rfl
      (Numerals.digits_lt 10 scopeId (by omega)) rfl ha
    dsimp only at h
    rw [hw,Numerals.read_digits] at h
    rw [hw]
    exact h

theorem fword_round (s : Scanner) (hs : s.state=.fword) (hw : s.currentWord≤0xFFFF)
    (hx : s.p.head?.bind hexDigit=none) (hroom : s.front.length+2≤16) :
    scanRound s=
      afterWord {s with front := s.front++wordBytes s.currentWord,currentWord := 0} .fcolon := by
  have hword : ¬s.currentWord>0xFFFF := by omega
  have hfull : ¬s.front.length=16 := by omega
  rw [scanRound,if_neg hword]
  simp only [hs,hx,if_neg hfull,writeWord_ok s.front s.currentWord hroom]
  rfl

theorem bword_round (s : Scanner) (hs : s.state=.bword) (hw : s.currentWord≤0xFFFF)
    (hx : s.p.head?.bind hexDigit=none) (hroom : s.front.length+s.back.length+2≤16) :
    scanRound s=
      afterWord {s with back := s.back++wordBytes s.currentWord,currentWord := 0} .bword := by
  have hword : ¬s.currentWord>0xFFFF := by omega
  have hfull : ¬s.front.length+s.back.length=16 := by omega
  have hback : s.back.length+2≤16 := by omega
  rw [scanRound,if_neg hword]
  simp only [hs,hx,if_neg hfull,writeWord_ok s.back s.currentWord hback]
  rfl

variable (b0 b1 : Byte) (p : List Char) (r : Except TextError (List.Vector Byte 16×Nat))

/-- A word that was printed is read and kept, whatever comes after it. -/
theorem fword_reads (s t : Scanner) (hs : s.state=.fword) (hw : s.currentWord=0)
    (hp : s.p=numeral 16 (word b0 b1)++p) (hx : p.head?.bind hexDigit=none)
    (hroom : s.front.length+2≤16)
    (h : afterWord {s with p := p,front := s.front++[b0,b1],currentWord := 0} .fcolon=.ok t)
    (ht : t.Reads r) : s.Reads r := by
  apply word_reads b0 b1 p r s (.inl hs) hw hp
  refine ht.round (by simp [hs]) ?_
  rw [fword_round {s with p := p,currentWord := word b0 b1} hs (word_le b0 b1) hx hroom,
    wordBytes_word]
  exact h

theorem bword_reads (s t : Scanner) (hs : s.state=.bword) (hw : s.currentWord=0)
    (hp : s.p=numeral 16 (word b0 b1)++p) (hx : p.head?.bind hexDigit=none)
    (hroom : s.front.length+s.back.length+2≤16)
    (h : afterWord {s with p := p,back := s.back++[b0,b1],currentWord := 0} .bword=.ok t)
    (ht : t.Reads r) : s.Reads r := by
  apply word_reads b0 b1 p r s (.inr hs) hw hp
  refine ht.round (by simp [hs]) ?_
  rw [bword_round {s with p := p,currentWord := word b0 b1} hs (word_le b0 b1) hx hroom,
    wordBytes_word]
  exact h

end Scanner

theorem scopeText_head (scopeId : Nat) : (scopeText scopeId).head?.bind hexDigit=none := by
  rw [scopeText]
  split_ifs
  · rfl
  · rfl

theorem wordsText_nil (first z : Bool) : wordsText first z []=[] := by
  rw [wordsText]
  simp

theorem wordsText_more (z : Bool) (b0 b1 : Byte) (bytes : List Byte)
    (h : ¬(b0=0 ∧ b1=0 ∧ z=false)) : wordsText false z (b0::b1::bytes)=
      ':'::(numeral 16 (word b0 b1)++wordsText false z bytes) := by
  rw [wordsText,if_neg h]
  simp

theorem wordsText_head (z : Bool) (bytes : List Byte) (scopeId : Nat)
    (heven : bytes.length%2=0) :
    (wordsText false z bytes++scopeText scopeId).head?.bind hexDigit=none := by
  match bytes with
  | [] =>
    rw [wordsText_nil]
    exact scopeText_head scopeId
  | [b] => simp at heven
  | b0::b1::bytes =>
    by_cases h : b0=0 ∧ b1=0 ∧ z=false
    · rw [wordsText,if_pos h]
      rfl
    · rw [wordsText_more z b0 b1 bytes h]
      rfl

theorem assemble_eq (front back : List Byte) (n : Nat) (bytes : List.Vector Byte 16)
    (h : bytes.1=front++List.replicate n 0++back) : assemble front back=.ok bytes := by
  have hl := congrArg List.length h
  rw [bytes.2] at hl
  simp only [List.length_append,List.length_replicate] at hl
  have hlen : front.length≤16 ∧ back.length≤16 := by omega
  rw [assemble,dif_pos hlen]
  congr 1
  apply Subtype.ext
  have ht : 16-back.length-front.length=n := by omega
  have hfront : front.length≤16-back.length := by omega
  simp only [h,List.take_append,List.take_of_length_le hfront,List.take_replicate,ht]
  congr 3
  omega

namespace Scanner

variable (bytes : List.Vector Byte 16) (scopeId : Nat)

/-- The words after the zeros that were left out. -/
theorem back_reads (rest : List Byte) (b0 b1 : Byte) (s : Scanner) (hs : s.state=.bword)
    (hw : s.currentWord=0) (hscope : s.scopeId=0)
    (hp : s.p=numeral 16 (word b0 b1)++(wordsText false true rest++scopeText scopeId))
    (heven : rest.length%2=0) (hroom : s.front.length+s.back.length+2+rest.length≤16)
    (ha : assemble s.front (s.back++b0::b1::rest)=.ok bytes) :
    s.Reads (printed bytes scopeId) := by
  induction rest using List.twoStepInduction generalizing s b0 b1 with
  | nil =>
    rw [wordsText_nil] at hp
    obtain ⟨t,ht,hreads⟩ := tail_reads bytes scopeId
      {s with p := scopeText scopeId,back := s.back++[b0,b1],currentWord := 0}
      .bword rfl rfl hscope ha
    exact bword_reads b0 b1 _ _ s t hs hw hp (scopeText_head scopeId) hroom ht hreads
  | singleton b => simp at heven
  | cons_cons c0 c1 rest ih _ =>
    have hhead := wordsText_head true (c0::c1::rest) scopeId heven
    rw [wordsText_more true c0 c1 rest (by simp)] at hp hhead
    simp only [List.length_cons] at heven hroom
    apply bword_reads b0 b1 _ _ s ⟨.bword,_,0,s.front,s.back++[b0,b1],s.scopeId⟩ hs hw hp hhead
    · omega
    · rw [hs]
      rfl
    · apply ih c0 c1
      · rfl
      · rfl
      · exact hscope
      · exact List.append_assoc _ _ _
      · omega
      · simp only [List.length_append,List.length_cons,List.length_nil]
        omega
      · rw [List.append_assoc]
        exact ha

theorem fcolon_round (s : Scanner) (p : List Char) (hs : s.state=.fcolon) (hw : s.currentWord=0)
    (hp : s.p= ':'::p) : scanRound s=.ok {s with state := .bword,p := p} := by
  simp [scanRound,hs,hw,hp]

theorem zeros_assemble (front rest : List Byte) (n : Nat) (hn : rest=[] → 2≤n)
    (h : bytes.1=front++(List.replicate n 0++rest)) :
    assemble front (if rest=[] then [0,0] else rest)=.ok bytes := by
  by_cases hrest : rest=[]
  · obtain ⟨k,rfl⟩ := Nat.exists_eq_add_of_le (hn hrest)
    have hz : List.replicate (2+k) (0 : Byte)=List.replicate k 0++[0,0] := by
      rw [Nat.add_comm,List.replicate_add]
      rfl
    rw [if_pos hrest]
    apply assemble_eq front [0,0] k
    rw [h,hrest,List.append_nil,hz,List.append_assoc]
  · rw [if_neg hrest]
    apply assemble_eq front rest n
    rw [h,List.append_assoc]

/-- What is printed for zeros, once the first colon has been read. -/
theorem zeros_reads (rest : List Byte) (s : Scanner) (hs : s.state=.fcolon)
    (hw : s.currentWord=0) (hscope : s.scopeId=0) (hback : s.back=[])
    (hp : s.p=(if rest=[] then [':'] else [])++wordsText false true rest++scopeText scopeId)
    (heven : rest.length%2=0) (hroom : s.front.length+2≤16)
    (hrest : s.front.length+rest.length≤16)
    (ha : assemble s.front (if rest=[] then [0,0] else rest)=.ok bytes) :
    s.Reads (printed bytes scopeId) := by
  have hstate : s.state≠.done := by simp [hs]
  match rest with
  | [] =>
    rw [wordsText_nil,if_pos rfl] at hp
    obtain ⟨t,ht,hreads⟩ := tail_reads bytes scopeId
      ⟨.bword,scopeText scopeId,0,s.front,[0,0],s.scopeId⟩ .bword rfl rfl hscope ha
    have hround := bword_round ⟨.bword,scopeText scopeId,0,s.front,[],s.scopeId⟩ rfl (by simp)
      (scopeText_head scopeId) (by simpa using hroom)
    have hzero : wordBytes 0=[0,0] := by decide
    simp only [hzero,List.nil_append] at hround
    have hbword := hreads.round (by simp) (hround.trans ht)
    refine Reads.round ?_ hstate (fcolon_round s (scopeText scopeId) hs hw hp)
    rw [hw,hback]
    exact hbword
  | [b] => simp at heven
  | b0::b1::rest =>
    rw [wordsText_more true b0 b1 rest (by simp)] at hp
    refine Reads.round ?_ hstate (fcolon_round s _ hs hw hp)
    simp only [List.length_cons] at heven hrest
    apply back_reads bytes scopeId rest b0 b1
    · rfl
    · exact hw
    · exact hscope
    · exact List.append_assoc _ _ _
    · omega
    · rw [hback,List.length_nil]
      dsimp only
      omega
    · rw [hback]
      exact ha

theorem fcolon_word (s : Scanner) (w : Nat) (p : List Char) (hs : s.state=.fcolon)
    (hw : s.currentWord=0) (hp : s.p=numeral 16 w++p) :
    scanRound s=.ok {s with state := .fword} := by
  obtain ⟨d,ds,hd⟩ := List.exists_cons_of_ne_nil (Numerals.digits_ne_nil 16 w)
  have hlt := Numerals.digits_lt 16 w (by omega) d (by simp [hd])
  have hne : Nat.digitChar d≠ ':' := by
    intro h
    have hx := hexDigit_digitChar d hlt
    rw [h] at hx
    cases hx
  rw [numeral,hd] at hp
  simp [scanRound,hs,hw,hp,hne]

/-- The words before any zeros are left out. -/
theorem front_reads (rest : List Byte) (b0 b1 : Byte) (s : Scanner) (hs : s.state=.fword)
    (hw : s.currentWord=0) (hscope : s.scopeId=0) (hback : s.back=[])
    (hp : s.p=numeral 16 (word b0 b1)++(wordsText false false rest++scopeText scopeId))
    (heven : rest.length%2=0) (hb : bytes.1=s.front++b0::b1::rest) :
    s.Reads (printed bytes scopeId) := by
  have hlen (front rest : List Byte) (b0 b1 : Byte) (h : bytes.1=front++b0::b1::rest) :
      front.length+2+rest.length=16 := by
    have hl := congrArg List.length h
    simp only [bytes.2,List.length_append,List.length_cons] at hl
    omega
  induction rest using List.twoStepInduction generalizing s b0 b1 with
  | nil =>
    rw [wordsText_nil] at hp
    have ha : assemble (s.front++[b0,b1]) s.back=.ok bytes := by
      rw [hback]
      apply assemble_eq (s.front++[b0,b1]) [] 0 bytes
      simpa using hb
    obtain ⟨t,ht,hreads⟩ := tail_reads bytes scopeId
      {s with p := scopeText scopeId,front := s.front++[b0,b1],currentWord := 0}
      .fcolon rfl rfl hscope ha
    have hroom := hlen s.front [] b0 b1 hb
    exact fword_reads b0 b1 _ _ s t hs hw hp (scopeText_head scopeId) (by omega) ht hreads
  | singleton b => simp at heven
  | cons_cons c0 c1 rest ih _ =>
    have hhead := wordsText_head false (c0::c1::rest) scopeId heven
    have hroom : s.front.length+2≤16 := by
      have hl := hlen s.front _ b0 b1 hb
      omega
    have hbytes : bytes.1=(s.front++[b0,b1])++c0::c1::rest := by
      rw [hb,List.append_assoc]
      rfl
    have hfront := hlen (s.front++[b0,b1]) rest c0 c1 hbytes
    simp only [List.length_cons] at heven
    by_cases hz : c0=0 ∧ c1=0
    · obtain ⟨n,hn⟩ := dropZeros_eq rest
      have hl := congrArg List.length hn
      simp only [List.length_append,List.length_replicate] at hl
      have hzeros : List.replicate (2+2*n) (0 : Byte)++dropZeros rest=0::0::rest := by
        rw [List.replicate_add,List.append_assoc,← hn]
        rfl
      rw [wordsText,if_pos ⟨hz.1,hz.2,rfl⟩] at hp hhead
      apply fword_reads b0 b1 _ _ s ⟨.fcolon,_,0,s.front++[b0,b1],s.back,s.scopeId⟩ hs hw hp
        hhead hroom rfl
      apply zeros_reads bytes scopeId (dropZeros rest)
      · rfl
      · rfl
      · exact hscope
      · exact hback
      · rfl
      · omega
      · dsimp only
        omega
      · dsimp only
        omega
      · apply zeros_assemble bytes (s.front++[b0,b1]) (dropZeros rest) (2+2*n)
        · omega
        · rw [hzeros,hbytes,hz.1,hz.2]
    · have hz' : ¬(c0=0 ∧ c1=0 ∧ false=false) := by simpa using hz
      rw [wordsText_more false c0 c1 rest hz'] at hp hhead
      apply fword_reads b0 b1 _ _ s ⟨.fcolon,_,0,s.front++[b0,b1],s.back,s.scopeId⟩ hs hw hp
        hhead hroom rfl
      refine Reads.round ?_ (by simp) (fcolon_word _ (word c0 c1) _ rfl rfl (List.append_assoc _ _ _))
      apply ih c0 c1
      · rfl
      · rfl
      · exact hscope
      · exact hback
      · exact List.append_assoc _ _ _
      · omega
      · exact hbytes

/-- The first word. The reader takes a word to stand before the colons of an address that
begins with zeros. -/
theorem start_reads (rest : List Byte) (b0 b1 : Byte) (hb : bytes.1=b0::b1::rest) :
    (start (inetNtop6 bytes scopeId)).Reads (printed bytes scopeId) := by
  have hlen : rest.length=14 := by
    have hl := congrArg List.length hb
    simp only [bytes.2,List.length_cons] at hl
    omega
  rw [inetNtop6,hb]
  by_cases hz : b0=0 ∧ b1=0
  · obtain ⟨n,hn⟩ := dropZeros_eq rest
    have hl := congrArg List.length hn
    simp only [List.length_append,List.length_replicate] at hl
    rw [wordsText,if_pos ⟨hz.1,hz.2,rfl⟩]
    have hzero : wordBytes 0=[0,0] := by decide
    have hround := fword_round (start (':'::((if dropZeros rest=[] then [':'] else [])++
      wordsText false true (dropZeros rest)++scopeText scopeId))) rfl (by simp [start]) rfl
      (by simp [start])
    refine Reads.round ?_ (by simp [start]) hround
    apply zeros_reads bytes scopeId (dropZeros rest)
    · rfl
    · rfl
    · rfl
    · rfl
    · rfl
    · omega
    · simp [start,hzero]
    · simp only [start,hzero,List.nil_append,List.length_cons,List.length_nil]
      omega
    · apply zeros_assemble bytes _ (dropZeros rest) (2*n)
      · intro hnil
        rw [hnil,List.length_nil] at hl
        omega
      · simp only [start,hzero,List.nil_append]
        rw [hb,hz.1,hz.2,← hn]
        rfl
  · have hz' : ¬(b0=0 ∧ b1=0 ∧ false=false) := by simpa using hz
    rw [wordsText,if_neg hz',if_pos rfl]
    apply front_reads bytes scopeId rest b0 b1
    · rfl
    · rfl
    · rfl
    · rfl
    · exact List.append_assoc _ _ _
    · omega
    · exact hb

end Scanner

theorem inetPton6_inetNtop6 (bytes : List.Vector Byte 16) (scopeId : Nat) :
    inetPton6 (inetNtop6 bytes scopeId)=
      if scopeId≤0xFFFF then .ok (bytes,scopeId) else .error .invalidArgument := by
  apply inetPton6_reads
  obtain ⟨b0,bs,hb⟩ := List.exists_cons_of_length_pos (by rw [bytes.2]; omega : 0<bytes.1.length)
  have hl := congrArg List.length hb
  rw [bytes.2,List.length_cons] at hl
  obtain ⟨b1,rest,hr⟩ := List.exists_cons_of_length_pos (by omega : 0<bs.length)
  exact Scanner.start_reads bytes scopeId rest b0 b1 (hb.trans (by rw [hr]))

/-- `make_address_v6` -/
def makeAddressV6 (str : List Char) : Except TextError AddressV6 := do
  let (bytes,scopeId) ← inetPton6 str
  return ⟨bytes,BitVec.ofNat (8*4) scopeId⟩

/-- Every address that is printed fits the buffer it is printed to, and is read back, scope id
and all, as long as the scope id is a short one. -/
theorem makeAddressV6_toString (a : AddressV6) : a.toString.length < maxAddrV6StrLen ∧
    makeAddressV6 a.toString=
      if a.scopeId.toNat≤0xFFFF then .ok a else .error .invalidArgument := by
  refine ⟨toString_length a,?_⟩
  rw [makeAddressV6,AddressV6.toString,inetPton6_inetNtop6]
  split_ifs with h
  · rw [Exec.ok_bind]
    simp only [BitVec.ofNat_toNat,BitVec.setWidth_eq]
    rfl
  · rfl

example : inetPton6 "fe80::1%12".toList=
    .ok (⟨[0xfe,0x80,0,0,0,0,0,0,0,0,0,0,0,0,0,1],rfl⟩,12) := by
  decide +kernel

end Asio

end MediapipeLivelink
