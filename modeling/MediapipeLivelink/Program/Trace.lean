import MediapipeLivelink.Program.Main

namespace MediapipeLivelink

/-- The trace has been added to, by events in `p`. -/
def Adds {cv : OpenCV} (p : Event cv → Prop) (w w' : World cv) : Prop :=
  ∃es,w'.trace=w.trace++es ∧ ∀e∈es,p e

section Adds

variable {cv : OpenCV} {p : Event cv → Prop}

theorem Adds.none (w w' : World cv) (h : w'.trace=w.trace) : Adds p w w' :=
  ⟨[],by rw [h,List.append_nil],by simp⟩

theorem Adds.one (w w' : World cv) (e : Event cv) (he : p e) (h : w'.trace=w.trace++[e]) :
    Adds p w w' := ⟨[e],h,by simpa using he⟩

theorem Adds.mono {q : Event cv → Prop} {w w' : World cv} (h : Adds p w w')
    (hpq : ∀e,p e → q e) : Adds q w w' := by
  obtain ⟨es,he,hp⟩ := h
  exact ⟨es,he,fun e hm => hpq e (hp e hm)⟩

instance : IsPreorder (World cv) (Adds p) where
  refl w := Adds.none w w rfl
  trans w w' w'' h h' := by
    obtain ⟨es,he,hp⟩ := h
    obtain ⟨fs,hf,hq⟩ := h'
    refine ⟨es++fs,by rw [hf,he,List.append_assoc],?_⟩
    intro e hm
    cases List.mem_append.mp hm with
    | inl hm => exact hp e hm
    | inr hm => exact hq e hm

theorem modify_adds (f : World cv → World cv) (hf : ∀w,(f w).trace=w.trace) :
    Exec.Moves (Adds p) (modify f : Exec Fault (World cv) Unit) :=
  Exec.Moves.modify f fun w => Adds.none w (f w) (hf w)

theorem emit_adds (e : Event cv) (he : p e) : Exec.Moves (Adds p) (emit e) :=
  Exec.Moves.modify _ fun w => Adds.one w _ e he rfl

theorem newBlendShapeList_adds (heap : BlendShapeList) (he : ∀size,p (.newBlendShapeList size)) :
    Exec.Moves (Adds p) (newBlendShapeList heap) := by
  rw [newBlendShapeList]
  exact Exec.Moves.bind (modify_adds _ fun _ => rfl) fun _ => emit_adds _ (he _)

theorem deleteBlendShapeList_adds (he : p .deleteBlendShapeList) :
    Exec.Moves (Adds p) (deleteBlendShapeList : Exec Fault (World cv) Unit) := by
  rw [deleteBlendShapeList]
  refine Exec.Moves.bind Exec.Moves.get fun w => ?_
  split
  · exact Exec.Moves.bind (modify_adds _ fun _ => rfl) fun _ => emit_adds _ he
  · exact Exec.Moves.throw _

theorem readBlendShape_adds (index : Int) (he : p (.readBlendShape index)) :
    Exec.Moves (Adds p) (readBlendShape index : Exec Fault (World cv) Binary32) := by
  rw [readBlendShape]
  refine Exec.Moves.bind Exec.Moves.get fun w => ?_
  split
  · split
    · exact (emit_adds _ he).bind fun _ => Exec.Moves.pure _
    · exact Exec.Moves.throw _
  · exact Exec.Moves.throw _

theorem getFaceBlendShapeOutput_adds (env : Env cv) (size : Nat)
    (he : ∀after,p (.getFaceBlendShapeOutput after)) :
    Exec.Moves (Adds p) (getFaceBlendShapeOutput env size) := by
  rw [getFaceBlendShapeOutput]
  refine Exec.Moves.bind Exec.Moves.get fun w => ?_
  split
  · refine Exec.Moves.bind Exec.Moves.get fun w => ?_
    exact Exec.Moves.bind (modify_adds _ fun _ => rfl) fun _ => emit_adds _ (he _)
  · exact Exec.Moves.throw _

theorem captureFrame_adds (env : Env cv) (he : ∀frame,p (.capture frame)) :
    Exec.Moves (Adds p) (captureFrame env) := by
  rw [captureFrame]
  refine Exec.Moves.bind Exec.Moves.get fun w => ?_
  exact Exec.Moves.bind (modify_adds _ fun _ => rfl) fun _ => emit_adds _ (he _)

theorem waitKey_adds (env : Env cv) (delay : Nat) (he : p (.waitKey delay)) :
    Exec.Moves (Adds p) (waitKey env delay) := by
  rw [waitKey]
  refine Exec.Moves.bind Exec.Moves.get fun w => ?_
  refine Exec.Moves.bind (modify_adds _ fun _ => rfl) fun _ => ?_
  exact (emit_adds _ he).bind fun _ => Exec.Moves.pure _

theorem writeValue_adds {T : Type} [Scalar T] (value : T) (net : Bool) :
    Exec.Moves (Adds p) (writeValue value net : Exec Fault (World cv) Unit) :=
  modify_adds _ fun _ => rfl

theorem writeChar_adds (c : Byte) :
    Exec.Moves (Adds p) (writeChar c : Exec Fault (World cv) Unit) :=
  modify_adds (fun w => {w with buffer := pushBack w.buffer c}) fun _ => rfl

theorem writeChars_adds (cs : List Byte) :
    Exec.Moves (Adds p) (cs.forM writeChar : Exec Fault (World cv) Unit) :=
  Exec.Moves.forM _ writeChar_adds cs

theorem buildPacket_adds (uuid name : List Byte) (he : ∀index,p (.readBlendShape index)) :
    Exec.Moves (Adds p) (buildPacket uuid name : Exec Fault (World cv) Unit) := by
  have hread (index : Int) : Exec.Moves (Adds p)
      (do writeValue (← readBlendShape index) true : Exec Fault (World cv) Unit) :=
    (readBlendShape_adds index (he index)).bind fun v => writeValue_adds v true
  rw [buildPacket]
  refine Exec.Moves.bind (modify_adds _ fun _ => rfl) fun _ => ?_
  refine (writeValue_adds _ _).bind fun _ => ?_
  refine (writeChars_adds uuid).bind fun _ => ?_
  refine (writeValue_adds _ _).bind fun _ => ?_
  refine (writeChars_adds name).bind fun _ => ?_
  iterate 4 refine (writeValue_adds _ _).bind fun _ => ?_
  refine (writeChar_adds _).bind fun _ => ?_
  refine (Exec.Moves.forM _ hread _).bind fun _ => ?_
  exact Exec.Moves.forM _ (fun _ => writeValue_adds _ _) _

end Adds

end MediapipeLivelink
