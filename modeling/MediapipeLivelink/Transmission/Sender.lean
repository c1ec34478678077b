import MediapipeLivelink.Framework.Stutter
import MediapipeLivelink.Program.CaptureLoop
import Mathlib.Tactic.Push

namespace MediapipeLivelink

variable {cv : OpenCV}

/-- The stream of frames reaches frame `n`, and no key has stopped the program before it. -/
def alive (env : Env cv) : Nat → Bool
  | 0 => true
  | n+1 => alive env n && !cv.empty (env.frame n) && !pressed (env.key n)

/-- The number of frames that `n` rounds of the loop process. -/
def processed (env : Env cv) : Nat → Nat
  | 0 => 0
  | n+1 => if alive env n && !cv.empty (env.frame n) then n+1 else processed env n

def listAfter (env : Env cv) (heap : BlendShapeList) : Nat → BlendShapeList
  | 0 => heap
  | k+1 => overwrite blendShapeSize (env.output k) (listAfter env heap k)

/-- What the program is for: one packet for each of the first `m` frames. -/
def faces (env : Env cv) (heap : BlendShapeList) (m : Nat) : List Buffer :=
  (List.range m).map fun k => packet (listAfter env heap (k+1))

/-- What is on the wire by then: every packet `blend_shape_size` times. -/
def transmitted (env : Env cv) (heap : BlendShapeList) (m : Nat) : List Buffer :=
  (faces env heap m).flatMap (List.replicate blendShapeSize)

theorem transmitted_succ (env : Env cv) (heap : BlendShapeList) (m : Nat) :
    transmitted env heap (m+1)=transmitted env heap m++
      List.replicate blendShapeSize (packet (listAfter env heap (m+1))) := by
  rw [transmitted,faces,List.range_succ,List.map_append,List.flatMap_append]
  exact congrArg _ (List.append_nil _)

theorem transmitted_length (env : Env cv) (heap : BlendShapeList) (m : Nat) :
    (transmitted env heap m).length=blendShapeSize*m := by
  induction m with
  | zero => rfl
  | succ m ih =>
    rw [transmitted_succ,List.length_append,ih,List.length_replicate]
    rfl

theorem transmitted_stutters (env : Env cv) (heap : BlendShapeList) (m : Nat) :
    Stutters (faces env heap m) (transmitted env heap m) :=
  Stutters.replicates (faces env heap m) 51

theorem alive_iff (env : Env cv) (n : Nat) : alive env n=true ↔
    ∀k<n,cv.empty (env.frame k)=false ∧ pressed (env.key k)=false := by
  induction n with
  | zero => simp [alive]
  | succ n ih =>
    simp only [alive,Bool.and_eq_true,Bool.not_eq_true',ih,Nat.forall_lt_succ_right,and_assoc]

theorem processed_le (env : Env cv) (n : Nat) : processed env n≤n := by
  induction n with
  | zero => exact Nat.le_refl 0
  | succ n ih =>
    rw [processed]
    split <;> omega

theorem processed_frame (env : Env cv) (n : Nat) (ha : alive env n=true)
    (he : cv.empty (env.frame n)=false) : processed env (n+1)=n+1 := by
  simp [processed,ha,he]

theorem processed_stop (env : Env cv) (n : Nat)
    (h : alive env n=false ∨ cv.empty (env.frame n)=true) :
    processed env (n+1)=processed env n ∧ alive env (n+1)=false := by
  cases h with
  | inl ha => simp [processed,alive,ha]
  | inr he => simp [processed,alive,he]

theorem processed_alive (env : Env cv) (n : Nat) (ha : alive env n=true) : processed env n=n := by
  cases n with
  | zero => rfl
  | succ n =>
    simp only [alive,Bool.and_eq_true,Bool.not_eq_true'] at ha
    exact processed_frame env n ha.1.1 ha.1.2

theorem processed_pos_iff (env : Env cv) (n : Nat) :
    0<processed env n ↔ 0<n ∧ cv.empty (env.frame 0)=false := by
  induction n with
  | zero => simp [processed]
  | succ n ih =>
    cases n with
    | zero =>
      cases he : cv.empty (env.frame 0) <;> simp [processed,alive,he]
    | succ n =>
      by_cases hf : alive env (n+1)=true ∧ cv.empty (env.frame (n+1))=false
      · have h0 := (alive_iff env (n+1)).mp hf.1 0 (Nat.succ_pos n)
        rw [processed_frame env (n+1) hf.1 hf.2,h0.1]
        simp
      · have hs : alive env (n+1)=false ∨ cv.empty (env.frame (n+1))=true := by
          cases ha : alive env (n+1) <;> simp_all
        rw [(processed_stop env (n+1) hs).1,ih]
        simp

/-- The number of frames that a run processes in `n` rounds: none without a camera. -/
def frameCount (env : Env cv) (n : Nat) : Nat := if env.isOpened then processed env n else 0

theorem frameCount_pos_iff (env : Env cv) (n : Nat) : 0<frameCount env n ↔
    env.isOpened=true ∧ 0<n ∧ cv.empty (env.frame 0)=false := by
  rw [frameCount,← processed_pos_iff]
  cases env.isOpened <;> simp

/-- The loop is left at some point exactly when the frames stop or a key is pressed. -/
theorem processed_stops_iff (env : Env cv) : (∃n,processed env n<n) ↔
    ∃k,cv.empty (env.frame k)=true ∨ pressed (env.key k)=true := by
  constructor
  · intro h
    obtain ⟨n,hn⟩ := h
    by_contra hk
    push Not at hk
    have ha : alive env n=true := by
      rw [alive_iff]
      intro k _
      exact ⟨Bool.eq_false_of_not_eq_true (hk k).1,Bool.eq_false_of_not_eq_true (hk k).2⟩
    have hp := processed_alive env n ha
    omega
  · intro h
    obtain ⟨k,hk⟩ := h
    have ha : alive env (k+1)=false := by
      cases hk with
      | inl he => simp [alive,he]
      | inr hp => simp [alive,hp]
    have hs := (processed_stop env (k+1) (.inl ha)).1
    have hl := processed_le env (k+1)
    exact ⟨k+1+1,by omega⟩

end MediapipeLivelink
