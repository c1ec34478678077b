import MediapipeLivelink.Framework.Exec
import MediapipeLivelink.LiveLink.BlendShapes

namespace MediapipeLivelink

inductive ColorConversion
  | bgr2rgb

/-- The part of OpenCV that the program calls. Flipping keeps the size of an image,
so that it makes no image empty and none non-empty. -/
structure OpenCV where
  Mat : Type
  mat : Mat
  empty : Mat → Bool
  flip : Mat → Int → Mat
  cvtColor : Mat → ColorConversion → Mat
  flip_empty : ∀m code,empty (flip m code)=empty m

def OpenCV.sizes : OpenCV where
  Mat := Nat×Nat
  mat := (0,0)
  empty m := m.1*m.2==0
  flip m _ := m
  cvtColor m _ := m
  flip_empty _ _ := rfl

/-- Everything outside the program, as it answers the calls of one run: the camera, the keyboard,
and what the `k`th call of `GetFaceBlendShapeOutput` writes to each entry, if anything. The library
only writes to the array, so that what it writes does not depend on what the array holds. -/
structure Env (cv : OpenCV) where
  win32 : Bool
  isOpened : Bool
  frame : Nat → cv.Mat
  output : Nat → Fin blendShapeSize → Option Binary32
  key : Nat → Int

/-- A camera that sees no face: `frames` images and then the end of the stream. -/
def Env.faceless (isOpened : Bool) (frames : Nat) : Env OpenCV.sizes where
  win32 := false
  isOpened := isOpened
  frame k := if k<frames then (480,640) else (0,0)
  output _ _ := none
  key _ := -1

structure Endpoint where
  address : String
  port : Nat
  deriving DecidableEq

/-- What a run does that can be seen from outside, and its uses of the heap. -/
inductive Event (cv : OpenCV)
  | socketOpen
  | newBlendShapeList (size : Nat)
  | createFaceBlendShapeInterface (graphName : String)
  | captureOpen (index : Nat) (dshow : Bool)
  | isOpened (answer : Bool)
  | addFaceBlendShapePoller
  | startFaceBlendShape
  | namedWindow (name : String)
  | capture (frame : cv.Mat)
  | faceBlendShapeProcess (mat : cv.Mat)
  | getFaceBlendShapeOutput (after : BlendShapeList)
  | readBlendShape (index : Int)
  | sendTo (datagram : Buffer) (endpoint : Endpoint)
  | imshow (name : String) (mat : cv.Mat)
  | waitKey (delay : Nat)
  | deleteBlendShapeList
  | destroyAllWindows
  | stopFaceBlendShape
  | releaseFaceBlendShapeInterface

/-- The block that `new float[blend_shape_size]` returns, over its life. -/
inductive Block
  | unallocated
  | live (list : BlendShapeList)
  | deleted

/-- The pointer is not null once `new` has returned, `delete[]` or not. -/
def Block.nonNull : Block → Bool
  | unallocated => false
  | live _ => true
  | deleted => true

/-- An access to an array that is not allocated, or outside of it. To read an entry that nothing
has written is no fault here: it gives the bits that the memory held. -/
inductive Fault
  | notAllocated
  | outOfBounds
  deriving DecidableEq

/-- The variables of `main`, the numbers of answers taken from the environment,
and the events so far. -/
structure World (cv : OpenCV) where
  blendShapeList : Block
  cameraBgrFrame : cv.Mat
  grabFrame : Bool
  buffer : Buffer
  captures : Nat
  outputs : Nat
  keys : Nat
  trace : List (Event cv)

def World.start (cv : OpenCV) : World cv :=
  ⟨.unallocated,cv.mat,true,[],0,0,0,[]⟩

variable {cv : OpenCV}

def emit (e : Event cv) : Exec Fault (World cv) Unit :=
  modify fun w => {w with trace := w.trace++[e]}

/-- `new float[size]`; the memory holds `heap`, whatever that is. -/
def newBlendShapeList (heap : BlendShapeList) : Exec Fault (World cv) Unit := do
  modify fun w => {w with blendShapeList := .live heap}
  emit (.newBlendShapeList blendShapeSize)

def deleteBlendShapeList : Exec Fault (World cv) Unit := do
  match (← get).blendShapeList with
  | .live _ =>
    modify fun w => {w with blendShapeList := .deleted}
    emit .deleteBlendShapeList
  | _ => throw .notAllocated

/-- `blend_shape_list[index]` -/
def readBlendShape (index : Int) : Exec Fault (World cv) Binary32 := do
  match (← get).blendShapeList with
  | .live list =>
    if h : 0 ≤ index ∧ index.toNat<blendShapeSize then do
      emit (.readBlendShape index)
      return list ⟨index.toNat,h.2⟩
    else throw .outOfBounds
  | _ => throw .notAllocated

def getFaceBlendShapeOutput (env : Env cv) (size : Nat) : Exec Fault (World cv) Unit := do
  match (← get).blendShapeList with
  | .live list =>
    let after := overwrite size (env.output (← get).outputs) list
    modify fun w => {w with blendShapeList := .live after,outputs := w.outputs+1}
    emit (.getFaceBlendShapeOutput after)
  | _ => throw .notAllocated

/-- `capture >> camera_bgr_frame` -/
def captureFrame (env : Env cv) : Exec Fault (World cv) Unit := do
  let frame := env.frame (← get).captures
  modify fun w => {w with cameraBgrFrame := frame,captures := w.captures+1}
  emit (.capture frame)

def waitKey (env : Env cv) (delay : Nat) : Exec Fault (World cv) Int := do
  let pressed := env.key (← get).keys
  modify fun w => {w with keys := w.keys+1}
  emit (.waitKey delay)
  return pressed

/-- `Util::ValueToBuffer(value,buffer_,net)` -/
def writeValue {T : Type} [Scalar T] (value : T) (net : Bool) : Exec Fault (World cv) Unit :=
  modify fun w => {w with buffer := valueToBuffer value w.buffer net}

/-- `buffer_.push_back(c)` -/
def writeChar (c : Byte) : Exec Fault (World cv) Unit :=
  modify fun w => {w with buffer := pushBack w.buffer c}

def World.extend (w : World cv) (bytes : Buffer) (events : List (Event cv)) : World cv :=
  {w with buffer := w.buffer++bytes,trace := w.trace++events}

theorem World.extend_nil (w : World cv) : w.extend [] []=w := by
  simp [World.extend]

theorem World.extend_extend (w : World cv) (bs cs : Buffer) (es fs : List (Event cv)) :
    (w.extend bs es).extend cs fs=w.extend (bs++cs) (es++fs) := by
  simp [World.extend]

theorem emit_run (e : Event cv) (w : World cv) :
    emit e w=.ok ((),{w with trace := w.trace++[e]}) := rfl

theorem writeValue_run {T : Type} [Scalar T] (value : T) (net : Bool) (w : World cv) :
    writeValue value net w=
      .ok ((),w.extend (wireDigits net (Scalar.sizeof T) (Scalar.bits value).toNat) []) := by
  change Except.ok ((),{w with buffer := valueToBuffer value w.buffer net})=_
  rw [valueToBuffer_eq]
  simp [World.extend]

theorem writeChar_run (c : Byte) (w : World cv) : writeChar c w=.ok ((),w.extend [c] []) := by
  simp [writeChar,Exec.modify_run,World.extend,pushBack]

theorem writeChars_run (cs : List Byte) (w : World cv) :
    cs.forM writeChar w=.ok ((),w.extend cs []) := by
  have h := Exec.forM_run (fun cs w => World.extend w cs []) (fun _ : World cv => True) writeChar
    (fun w => w.extend_nil) (fun c cs w => (w.extend_extend [c] cs [] []).symm) cs
    (fun c _ w _ => ⟨writeChar_run c w,trivial⟩) w trivial
  exact h.1

theorem readBlendShape_run (w : World cv) (list : BlendShapeList)
    (hl : w.blendShapeList=.live list) (j : Fin 51) :
    readBlendShape (resortIndex.get j) w=
      .ok (list (resort j),w.extend [] [.readBlendShape (resortIndex.get j)]) := by
  have hb : 0≤resortIndex.get j ∧ (resortIndex.get j).toNat<blendShapeSize := by
    have h := resortIndex_bounds j
    exact ⟨by omega,(resort j).2⟩
  rw [readBlendShape,Exec.bind_run,Exec.get_run,Exec.ok_bind,hl]
  simp only [dif_pos hb,Exec.bind_run,emit_run,Exec.ok_bind,Exec.pure_run,World.extend,
    List.append_nil]
  rfl

theorem deleteBlendShapeList_run (w : World cv) (list : BlendShapeList)
    (hl : w.blendShapeList=.live list) :
    deleteBlendShapeList w=.ok ((),
      {w with blendShapeList := .deleted,trace := w.trace++[.deleteBlendShapeList]}) := by
  rw [deleteBlendShapeList,Exec.bind_run,Exec.get_run,Exec.ok_bind,hl]
  rfl

theorem getFaceBlendShapeOutput_run (env : Env cv) (w : World cv) (list : BlendShapeList)
    (hl : w.blendShapeList=.live list) :
    getFaceBlendShapeOutput env blendShapeSize w=.ok ((),
      {w with
        blendShapeList := .live (overwrite blendShapeSize (env.output w.outputs) list)
        outputs := w.outputs+1
        trace := w.trace++
          [.getFaceBlendShapeOutput (overwrite blendShapeSize (env.output w.outputs) list)]}) := by
  rw [getFaceBlendShapeOutput,Exec.bind_run,Exec.get_run,Exec.ok_bind,hl]
  rfl

theorem captureFrame_run (env : Env cv) (w : World cv) :
    captureFrame env w=.ok ((),
      {w with
        cameraBgrFrame := env.frame w.captures
        captures := w.captures+1
        trace := w.trace++[.capture (env.frame w.captures)]}) := rfl

theorem waitKey_run (env : Env cv) (delay : Nat) (w : World cv) :
    waitKey env delay w=.ok (env.key w.keys,
      {w with keys := w.keys+1,trace := w.trace++[.waitKey delay]}) := rfl

end MediapipeLivelink
