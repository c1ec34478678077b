import MediapipeLivelink.Util.ValueToBuffer

namespace MediapipeLivelink

def blendShapeSize : Nat := 52

abbrev BlendShapeList := Fin blendShapeSize → Binary32

def resortIndex : Vector Int 51 := #v[
  9,11,13,15,17,19,21,10,12,14,16,18,20,22,23,24,26,25,27,32,38,33,39,44,45,30,31,28,29,46,47,
  40,41,42,43,36,37,34,35,48,49,1,2,3,4,5,6,7,8,50,51]

/-- Every entry points into the array, and past the entry that mediapipe does not use. -/
theorem resortIndex_bounds : ∀j : Fin 51,1≤resortIndex.get j ∧ resortIndex.get j≤51 := by decide

/-- The entry of `blend_shape_list` sent in slot `j`. -/
def resort (j : Fin 51) : Fin blendShapeSize :=
  ⟨(resortIndex.get j).toNat,by
    have h := resortIndex_bounds j
    unfold blendShapeSize
    omega⟩

theorem resort_pos (j : Fin 51) : 1≤(resort j).1 := by
  have h := resortIndex_bounds j
  change 1≤(resortIndex.get j).toNat
  omega

set_option maxRecDepth 4096 in
theorem resort_surjective : ∀i : Fin blendShapeSize,1 ≤ i.1 → ∃j,resort j=i := by decide

theorem agree_iff_resort (a b : BlendShapeList) :
    (∀j,a (resort j)=b (resort j)) ↔ ∀i : Fin blendShapeSize,1 ≤ i.1 → a i=b i := by
  constructor
  · intro h i hi
    obtain ⟨j,rfl⟩ := resort_surjective i hi
    exact h j
  · intro h j
    exact h (resort j) (resort_pos j)

/-- What `GetFaceBlendShapeOutput(list,size)` leaves in the array: the entries it wrote,
and the old contents elsewhere. -/
def overwrite (size : Nat) (writes : Fin blendShapeSize → Option Binary32)
    (list : BlendShapeList) : BlendShapeList :=
  fun i => if i.1<size then (writes i).getD (list i) else list i

end MediapipeLivelink
