import MediapipeLivelink.Lifecycle.Protocol
import MediapipeLivelink.Program.Main

namespace MediapipeLivelink

variable {cv : OpenCV}

def Event.libraryCall : Event cv → Option LibraryCall
  | .createFaceBlendShapeInterface _ => some .create
  | .addFaceBlendShapePoller => some .addPoller
  | .startFaceBlendShape => some .start
  | .faceBlendShapeProcess _ => some .process
  | .getFaceBlendShapeOutput _ => some .getOutput
  | .stopFaceBlendShape => some .stop
  | .releaseFaceBlendShapeInterface => some .release
  | _ => none

def Event.heapUse : Event cv → Option HeapUse
  | .newBlendShapeList _ => some .new
  | .readBlendShape _ => some .read
  | .getFaceBlendShapeOutput _ => some .pass
  | .deleteBlendShapeList => some .delete
  | _ => none

def libraryCalls (t : List (Event cv)) : List LibraryCall := t.filterMap Event.libraryCall

def heapUses (t : List (Event cv)) : List HeapUse := t.filterMap Event.heapUse

theorem libraryCalls_append (t u : List (Event cv)) :
    libraryCalls (t++u)=libraryCalls t++libraryCalls u := List.filterMap_append

theorem heapUses_append (t u : List (Event cv)) :
    heapUses (t++u)=heapUses t++heapUses u := List.filterMap_append

/-- What a run that is over owes to the library and to the heap. -/
def Lifecycle (t : List (Event cv)) : Prop :=
  WellOrdered (libraryCalls t) ∧ HeapDiscipline (heapUses t)

def Reaches (t : List (Event cv)) (p : Phase) (m : Memory) : Prop :=
  protocol.Leads .fresh (libraryCalls t) p ∧ allocation.Leads .unallocated (heapUses t) m

theorem Reaches.append {t u : List (Event cv)} {p p' : Phase} {m m' : Memory} (ht : Reaches t p m)
    (hp : protocol.Leads p (libraryCalls u) p') (hm : allocation.Leads m (heapUses u) m') :
    Reaches (t++u) p' m' := by
  rw [Reaches,libraryCalls_append,heapUses_append]
  exact ⟨ht.1.append hp,ht.2.append hm⟩

theorem frameEvents_libraryCalls (frame : cv.Mat) (after : BlendShapeList) :
    libraryCalls (.capture frame::frameEvents frame after)=[.process,.getOutput] := by
  rw [libraryCalls,frameEvents_filterMap,passEvents_filterMap _ (fun _ => rfl)]
  rfl

theorem frameEvents_heapUses (frame : cv.Mat) (after : BlendShapeList) :
    heapUses (.capture frame::frameEvents frame after)=
      .pass::List.replicate (blendShapeSize*51) .read := by
  have hp : (passEvents after).filterMap (Event.heapUse : Event cv → _)=
      List.replicate 51 .read := rfl
  rw [heapUses,frameEvents_filterMap,List.filterMap_flatten,List.map_replicate,hp,
    List.flatten_replicate_replicate]
  exact List.append_nil _

theorem running (env : Env cv) :
    Reaches (setUpEvents env++startEvents) .started .held :=
  ⟨⟨⟨rfl,rfl,rfl,trivial⟩,rfl⟩,⟨rfl,trivial⟩,rfl⟩

theorem running_frame (t : List (Event cv)) (frame : cv.Mat) (after : BlendShapeList)
    (ht : Reaches t .started .held) :
    Reaches (t++.capture frame::frameEvents frame after) .started .held := by
  apply ht.append
  · rw [frameEvents_libraryCalls]
    exact ⟨⟨rfl,rfl,trivial⟩,rfl⟩
  · rw [frameEvents_heapUses]
    apply allocation.stays
    intro u hu
    cases List.mem_cons.mp hu with
    | inl hp => exact hp ▸ ⟨rfl,rfl⟩
    | inr hr => exact List.eq_of_mem_replicate hr ▸ ⟨rfl,rfl⟩

theorem running_capture (t : List (Event cv)) (frame : cv.Mat)
    (ht : Reaches t .started .held) : Reaches (t++[.capture frame]) .started .held :=
  ht.append ⟨trivial,rfl⟩ ⟨trivial,rfl⟩

theorem cleanedUp_reaches (w : World cv) (hw : Reaches w.trace .started .held) :
    Reaches (cleanedUp w).trace .released .deleted :=
  hw.append ⟨⟨rfl,rfl,trivial⟩,rfl⟩ ⟨⟨rfl,trivial⟩,rfl⟩

theorem lifecycle_of_reaches (t : List (Event cv)) (h : Reaches t .released .deleted) :
    Lifecycle t := ⟨wellOrdered_of_leads _ h.1,heapDiscipline_of_leads _ h.2⟩

theorem captureLoop_reaches (env : Env cv) (heap : BlendShapeList) (n : Nat) :
    Returns (captureLoop env n (loopEntry env heap)) fun r => Reaches r.2.trace .started .held := by
  apply (captureLoop_trace env heap (fun t => Reaches t .started .held) (running env)
    running_frame running_capture n).mono
  intro r hr
  exact hr.1

/-- At no moment of a run, over or not, is a call out of order or the array used
when it is not allocated. -/
theorem run_in_order (env : Env cv) (heap : BlendShapeList) (n : Nat) :
    Returns (run env heap n) fun r => ∀t u,r.2.trace=t++u →
      protocol.Accepts .fresh (libraryCalls t) ∧ allocation.Accepts .unallocated (heapUses t) := by
  have hr : Returns (run env heap n) fun r => ∃p m,Reaches r.2.trace p m := by
    apply (run_cases env heap n).mono
    intro r hr
    cases hr with
    | inl hf =>
      rw [hf.2]
      exact ⟨.created,.deleted,⟨⟨rfl,trivial⟩,rfl⟩,⟨rfl,rfl,trivial⟩,rfl⟩
    | inr hs =>
      obtain ⟨-,c,w,hr,he⟩ := hs
      have hw := (captureLoop_reaches env heap n).apply hr
      rw [he]
      cases c with
      | next => exact ⟨_,_,hw⟩
      | leave => exact ⟨_,_,cleanedUp_reaches w hw⟩
  apply hr.mono
  intro r hr t u ht
  obtain ⟨p,m,hp,hm⟩ := hr
  rw [ht,libraryCalls_append] at hp
  rw [ht,heapUses_append] at hm
  exact ⟨((protocol.accepts_append _ _ _).mp hp.1).1,((allocation.accepts_append _ _ _).mp hm.1).1⟩

/-- The early return gives the array back and keeps the library. -/
theorem cameraFailed_unreleased (env : Env cv) : ¬Lifecycle (cameraFailed env).trace := by
  intro h
  have hc : libraryCalls (cameraFailed env).trace=[]++.create::[] := rfl
  have hr := (h.1.create_matched [] [] hc).2.1
  contradiction

/-- A run that returns keeps to the lifecycle exactly when the camera opens. -/
theorem lifecycle_iff_opened (env : Env cv) (heap : BlendShapeList) (n : Nat) (code : Int)
    (w : World cv) (h : run env heap n=.ok (some code,w)) :
    Lifecycle w.trace ↔ env.isOpened=true := by
  cases (run_cases env heap n).apply h with
  | inl hf =>
    obtain ⟨ho,hw⟩ := hf
    cases hw
    simp [ho,cameraFailed_unreleased]
  | inr hs =>
    obtain ⟨ho,c,v,hr,hw⟩ := hs
    have hv := (captureLoop_reaches env heap n).apply hr
    cases c with
    | next => cases hw
    | leave =>
      cases hw
      have hl := lifecycle_of_reaches _ (cleanedUp_reaches v hv)
      simp [ho,hl]

/-- The world after one frame without a face, and the end of the stream. -/
def facelessEnd : World OpenCV.sizes :=
  afterStream (.faceless true 1) (afterFrame (.faceless true 1) (fun _ => ⟨0⟩)
    (loopEntry (.faceless true 1) fun _ => ⟨0⟩))

theorem run_faceless :
    run (.faceless true 1) (fun _ => ⟨0⟩) 2=.ok (some 0,cleanedUp facelessEnd) := by
  apply run_opened _ _ _ 2 .leave facelessEnd rfl _ rfl
  rw [captureLoop,Exec.whileLoop_round _ _ _ _ rfl,captureIteration_frame _ _ _ rfl rfl,
    Exec.ok_bind]
  change Exec.whileLoop World.grabFrame (captureIteration (.faceless true 1)) 1 _=_
  rw [Exec.whileLoop_round _ _ _ _ rfl,captureIteration_empty _ _ rfl,Exec.ok_bind]
  rfl

theorem lifecycle_one_frame : Lifecycle (cleanedUp facelessEnd).trace :=
  (lifecycle_iff_opened _ _ _ _ _ run_faceless).mpr rfl

/-- Without a camera the library is created and never released. -/
theorem lifecycle_without_camera :
    ∃w,run (.faceless false 0) (fun _ => ⟨0⟩) 0=.ok (some (-1),w) ∧ ¬Lifecycle w.trace :=
  ⟨_,rfl,cameraFailed_unreleased _⟩

end MediapipeLivelink
