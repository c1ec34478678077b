import Mathlib.Data.Vector.Basic
import Mathlib.Logic.Equiv.Defs

namespace MediapipeLivelink

/-- A left-to-right wire format. The reader undoes the writer whatever follows,
and accepts nothing the writer does not write. -/
structure Format (β α : Type) where
  encode : α → List β
  decode : List β → Option (α×List β)
  decode_encode : ∀(a : α) (s : List β),decode (encode a++s)=some (a,s)
  encode_decode : ∀(t : List β) (a : α) (s : List β),decode t=some (a,s) → encode a++s=t

namespace Format

variable {β α γ : Type}

theorem decode_eq_some (F : Format β α) (t : List β) (a : α) (s : List β) :
    F.decode t=some (a,s) ↔ F.encode a++s=t := by
  constructor
  · exact F.encode_decode t a s
  · intro h
    rw [← h]
    exact F.decode_encode a s

theorem decode_exact (F : Format β α) (a : α) : F.decode (F.encode a)=some (a,[]) := by
  simpa using F.decode_encode a []

/-- Unique decodability: no byte of one message can be taken for the next. -/
theorem encode_append_inj (F : Format β α) (a b : α) (s t : List β) :
    F.encode a++s=F.encode b++t ↔ a=b ∧ s=t := by
  constructor
  · intro h
    have ha := F.decode_encode a s
    rw [h,F.decode_encode b t] at ha
    simp only [Option.some.injEq,Prod.mk.injEq] at ha
    exact ⟨ha.1.symm,ha.2.symm⟩
  · intro h
    rw [h.1,h.2]

theorem encode_inj (F : Format β α) (a b : α) : F.encode a=F.encode b ↔ a=b := by
  have h := F.encode_append_inj a b [] []
  simpa using h

/-- A message that is cut off is not read. -/
theorem decode_cut (F : Format β α) (a : α) (t u : List β) (h : F.encode a=t++u) (hu : u≠[]) :
    F.decode t=none := by
  cases hd : F.decode t with
  | none => rfl
  | some r =>
    obtain ⟨b,s⟩ := r
    have hb := F.encode_decode t b s hd
    have he : F.encode a++[]=F.encode b++(s++u) := by
      rw [List.append_nil,h,← hb,List.append_assoc]
    have hn := ((F.encode_append_inj a b [] (s++u)).mp he).2
    have hz := congrArg List.length hn
    have hp := List.length_pos_iff.mpr hu
    simp at hz
    omega

def nil : Format β Unit where
  encode _ := []
  decode t := some ((),t)
  decode_encode _ _ := rfl
  encode_decode t a s h := by
    simp only [Option.some.injEq,Prod.mk.injEq] at h
    exact h.2.symm

def symbol : Format β β where
  encode b := [b]
  decode
    | [] => none
    | b::t => some (b,t)
  decode_encode _ _ := rfl
  encode_decode t a s h := by
    cases t with
    | nil => simp at h
    | cons b t =>
      simp only [Option.some.injEq,Prod.mk.injEq] at h
      simp [h.1,h.2]

/-- One message whose value chooses the format of the rest. -/
def dep (F : Format β α) {δ : α → Type} (G : ∀a,Format β (δ a)) : Format β (Sigma δ) where
  encode p := F.encode p.1++(G p.1).encode p.2
  decode t := (F.decode t).bind fun p =>
    ((G p.1).decode p.2).map fun q => (⟨p.1,q.1⟩,q.2)
  decode_encode p s := by
    rw [List.append_assoc,F.decode_encode]
    simp [(G p.1).decode_encode]
  encode_decode t p s h := by
    simp only [Option.bind_eq_some_iff,Option.map_eq_some_iff] at h
    obtain ⟨⟨a,u⟩,ha,⟨d,v⟩,hd,he⟩ := h
    simp only [Prod.mk.injEq] at he
    obtain ⟨rfl,rfl⟩ := he
    rw [List.append_assoc,(G a).encode_decode u d v hd,F.encode_decode t a u ha]

/-- The same bytes read as another type. Values of `α` outside the image of `put` are refused. -/
def restrict (F : Format β α) (put : γ → α) (get : α → Option γ)
    (get_put : ∀c,get (put c)=some c) (put_get : ∀a c,get a=some c → put c=a) :
    Format β γ where
  encode c := F.encode (put c)
  decode t := (F.decode t).bind fun p => (get p.1).map fun c => (c,p.2)
  decode_encode c s := by simp [F.decode_encode,get_put]
  encode_decode t c s h := by
    simp only [Option.bind_eq_some_iff,Option.map_eq_some_iff] at h
    obtain ⟨⟨a,u⟩,ha,c',hc,he⟩ := h
    simp only [Prod.mk.injEq] at he
    obtain ⟨rfl,rfl⟩ := he
    rw [put_get a c' hc,F.encode_decode t a u ha]

def map (F : Format β α) (e : α≃γ) : Format β γ :=
  F.restrict e.symm (fun a => some (e a)) (by simp) (by simp [eq_comm])

def pair (F : Format β α) (G : Format β γ) : Format β (α×γ) :=
  (F.dep (fun _ => G)).map (Equiv.sigmaEquivProd α γ)

theorem map_encode (F : Format β α) (e : α≃γ) (c : γ) :
    (F.map e).encode c=F.encode (e.symm c) := rfl

theorem pair_encode (F : Format β α) (G : Format β γ) (p : α×γ) :
    (F.pair G).encode p=F.encode p.1++G.encode p.2 := rfl

/-- A list whose `i`th member has the `i`th key, member after member.
The keys are known to the reader. -/
def keyed {κ : Type} (key : α → κ) (F : ∀k,Format β {a : α // key a=k}) :
    (ks : List κ) → Format β {as : List α // as.map key=ks}
  | [] => nil.map
      { toFun := fun _ => ⟨[],rfl⟩
        invFun := fun _ => ()
        left_inv := fun _ => rfl
        right_inv := fun as => by
          apply Subtype.ext
          exact (List.map_eq_nil_iff.mp as.2).symm }
  | k::ks => ((F k).pair (keyed key F ks)).map
      { toFun := fun p => ⟨p.1.1::p.2.1,by simp [p.1.2,p.2.2]⟩
        invFun := fun as => match as with
          | ⟨a::as,h⟩ => (⟨a,(List.cons.inj h).1⟩,⟨as,(List.cons.inj h).2⟩)
        left_inv := fun _ => rfl
        right_inv := fun as => by
          obtain ⟨as,h⟩ := as
          cases as with
          | nil => simp at h
          | cons a as => rfl }

theorem keyed_encode {κ : Type} (key : α → κ) (F : ∀k,Format β {a : α // key a=k})
    (ks : List κ) (as : {as : List α // as.map key=ks}) :
    (keyed key F ks).encode as=as.1.flatMap (fun a => (F (key a)).encode ⟨a,rfl⟩) := by
  obtain ⟨as,rfl⟩ := as
  induction as with
  | nil => rfl
  | cons a as ih =>
    rw [List.flatMap_cons,← ih]
    rfl

def times (F : Format β α) (n : Nat) : Format β (List.Vector α n) :=
  (keyed (fun _ => ()) (fun _ => F.map (Equiv.subtypeUnivEquiv (fun _ => rfl)).symm)
    (List.replicate n ())).map
    { toFun := fun as => ⟨as.1,by simpa using congrArg List.length as.2⟩
      invFun := fun as => ⟨as.1,by rw [List.map_const',as.2]⟩
      left_inv := fun _ => rfl
      right_inv := fun _ => rfl }

theorem times_encode (F : Format β α) (n : Nat) (as : List.Vector α n) :
    (F.times n).encode as=as.1.flatMap F.encode := by
  exact keyed_encode _ _ _ _

def counted {N : Nat} (C : Format β (Fin N)) (F : Format β α) :
    Format β {as : List α // as.length<N} :=
  (C.dep (fun n => F.times n)).map
    { toFun := fun p => ⟨p.2.1,by rw [p.2.2]; exact p.1.2⟩
      invFun := fun as => ⟨⟨as.1.length,as.2⟩,⟨as.1,rfl⟩⟩
      left_inv := by
        intro p
        obtain ⟨⟨n,hn⟩,⟨as,h⟩⟩ := p
        change as.length=n at h
        subst h
        rfl
      right_inv := fun _ => rfl }

theorem counted_encode {N : Nat} (C : Format β (Fin N)) (F : Format β α)
    (as : {as : List α // as.length<N}) :
    (counted C F).encode as=C.encode ⟨as.1.length,as.2⟩++as.1.flatMap F.encode := by
  have h := times_encode F as.1.length ⟨as.1,rfl⟩
  rw [← h]
  rfl

end Format

end MediapipeLivelink
