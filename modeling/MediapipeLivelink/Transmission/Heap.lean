import MediapipeLivelink.Transmission.Refinement

namespace MediapipeLivelink

variable {cv : OpenCV}

/-- Two arrays that differ at most in the entry that is not sent. -/
def Agree (a b : BlendShapeList) : Prop := ∀i : Fin blendShapeSize,1 ≤ i.1 → a i=b i

/-- Two runs that differ in what `new float[52]` finds in memory send the same datagrams. -/
def SameDatagrams (env : Env cv) (heap heap' : BlendShapeList) (n : Nat) : Prop :=
  Returns (run env heap n) fun r => Returns (run env heap' n) fun r' =>
    datagrams r.2.trace=datagrams r'.2.trace

/-- An entry forgets the heap with the first call that writes it. -/
theorem listAfter_eq_iff (env : Env cv) (heap heap' : BlendShapeList) (k : Nat)
    (i : Fin blendShapeSize) : listAfter env heap k i=listAfter env heap' k i ↔
      heap i=heap' i ∨ ∃j<k,(env.output j i).isSome := by
  induction k with
  | zero => simp [listAfter]
  | succ k ih =>
    have hi := i.2
    cases hw : env.output k i with
    | none =>
      have hk (list : BlendShapeList) : overwrite blendShapeSize (env.output k) list i=list i := by
        simp [overwrite,hw]
      rw [listAfter,listAfter,hk,hk,ih]
      simp only [Nat.exists_lt_succ_right,hw,Option.isSome_none,Bool.false_eq_true,or_false]
    | some v =>
      have hk (list : BlendShapeList) : overwrite blendShapeSize (env.output k) list i=v := by
        simp [overwrite,hw,hi]
      rw [listAfter,listAfter,hk,hk]
      simp only [true_iff]
      exact .inr ⟨k,Nat.lt_succ_self k,by simp [hw]⟩

theorem listAfter_agree (env : Env cv) (heap heap' : BlendShapeList)
    (h : Agree (listAfter env heap 1) (listAfter env heap' 1)) (k : Nat) :
    Agree (listAfter env heap (k+1)) (listAfter env heap' (k+1)) := by
  intro i hi
  rw [listAfter_eq_iff]
  cases (listAfter_eq_iff env heap heap' 1 i).mp (h i hi) with
  | inl he => exact .inl he
  | inr hw =>
    obtain ⟨j,hj,hw⟩ := hw
    exact .inr ⟨j,by omega,hw⟩

/-- The datagrams of frame `k` are free of the heap exactly when each entry in use
has been written by then. -/
theorem packet_unseen_iff (env : Env cv) (k : Nat) :
    (∀heap heap',packet (listAfter env heap (k+1))=packet (listAfter env heap' (k+1))) ↔
      ∀i : Fin blendShapeSize,1 ≤ i.1 → ∃j≤k,(env.output j i).isSome := by
  simp only [packet_inj,listAfter_eq_iff,Nat.lt_succ_iff]
  constructor
  · intro h i hi
    rcases h (fun _ => ⟨0⟩) (fun _ => ⟨1⟩) i hi with he|hw
    · contradiction
    · exact hw
  · intro h heap heap' i hi
    exact .inr (h i hi)

theorem transmitted_eq_iff (env : Env cv) (heap heap' : BlendShapeList) (m : Nat) :
    transmitted env heap m=transmitted env heap' m ↔
      0 < m → Agree (listAfter env heap 1) (listAfter env heap' 1) := by
  constructor
  · intro h hm
    obtain ⟨m,rfl⟩ := Nat.exists_eq_succ_of_ne_zero (Nat.ne_of_gt hm)
    have hfirst (heap : BlendShapeList) :
        (transmitted env heap (m+1)).head?=some (packet (listAfter env heap 1)) := by
      rw [transmitted,faces,List.range_succ_eq_map,List.map_cons,List.flatMap_cons]
      rfl
    have hp := congrArg List.head? h
    rw [hfirst,hfirst] at hp
    exact (packet_inj _ _).mp (Option.some.inj hp)
  · intro h
    have hf : faces env heap m=faces env heap' m := by
      apply List.map_congr_left
      intro k hk
      have hm : 0 < m := Nat.lt_of_le_of_lt (Nat.zero_le k) (List.mem_range.mp hk)
      exact (packet_inj _ _).mpr (listAfter_agree env heap heap' (h hm) k)
    rw [transmitted,transmitted,hf]

theorem sameDatagrams_iff (env : Env cv) (heap heap' : BlendShapeList) (n : Nat) :
    SameDatagrams env heap heap' n ↔
      (env.isOpened=true → 0<n → cv.empty (env.frame 0)=false →
        Agree (listAfter env heap 1) (listAfter env heap' 1)) := by
  obtain ⟨r,hr,-,ht,-⟩ := run_transmits env heap n
  obtain ⟨r',hr',-,ht',-⟩ := run_transmits env heap' n
  have hs : SameDatagrams env heap heap' n ↔
      transmitted env heap (frameCount env n)=transmitted env heap' (frameCount env n) := by
    rw [← ht,← ht']
    constructor
    · intro h
      exact (h.apply hr).apply hr'
    · intro h
      exact ⟨r,hr,r',hr',h⟩
  rw [hs,transmitted_eq_iff,frameCount_pos_iff]
  simp only [and_imp]

/-- The heap stays unseen exactly when nothing is sent, or the first frame's shapes are all
written before they are sent. -/
theorem heap_unseen_iff (env : Env cv) :
    (∀heap heap' n,SameDatagrams env heap heap' n) ↔
      (env.isOpened=true → cv.empty (env.frame 0)=false →
        ∀i : Fin blendShapeSize,1 ≤ i.1 → (env.output 0 i).isSome) := by
  have hfirst (i : Fin blendShapeSize) :
      (∃j≤0,(env.output j i).isSome) ↔ (env.output 0 i).isSome := by simp
  simp only [sameDatagrams_iff,← hfirst,← packet_unseen_iff env 0,packet_inj]
  constructor
  · intro h ho he heap heap'
    exact h heap heap' 1 ho Nat.one_pos he
  · intro h heap heap' n ho _ he
    exact h ho he heap heap'

/-- A frame without a face sends what the heap held. -/
theorem heap_seen : ¬SameDatagrams (.faceless true 1) (fun _ => ⟨0⟩) (fun _ => ⟨1⟩) 1 := by
  intro h
  have ha := (sameDatagrams_iff _ _ _ _).mp h rfl Nat.one_pos rfl ⟨1,by decide⟩ (Nat.le_refl 1)
  contradiction

end MediapipeLivelink
