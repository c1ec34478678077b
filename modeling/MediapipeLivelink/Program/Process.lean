import MediapipeLivelink.Asio.Descriptor
import MediapipeLivelink.Asio.Endpoint
import MediapipeLivelink.Program.Trace

namespace MediapipeLivelink

/-- The program on its operating system: the variables, the socket, the system calls so far,
and the number of calls so far that could have thrown. -/
structure Process (cv : OpenCV) where
  world : World cv
  sock : Asio.Implementation
  calls : List Asio.SystemCall
  externals : Nat

/-- How a run can be cut short. -/
inductive Halt
  | fault (fault : Fault)
  | stop (stop : Asio.Stop)
  | exception

/-- The operating system and the libraries. `throws` says which calls throw of those that go
to constructors of asio, `new`, OpenCV and the library. `unwinds` says whether an exception that
nobody catches destroys the objects of `main` before the end. -/
structure System where
  kernel : Asio.Kernel
  inetPton : Asio.InetPton
  throws : Nat → Bool
  unwinds : Bool

/-- A system on which nothing fails and nothing has to wait. -/
def System.prompt : System where
  kernel := ⟨false,fun _ => .ok 3,fun _ => none,fun _ => .ok 314,fun _ => .ok 1,
    fun _ => none,fun _ => none⟩
  inetPton :=
    { v4 := fun str => if str="127.0.0.1" then .ok ⟨[127,0,0,1],rfl⟩ else .error (.other 22)
      v6 := fun _ => .error (.other 22) }
  throws _ := false
  unwinds := false

namespace Process

variable {cv : OpenCV} {α : Type}

def start (cv : OpenCV) : Process cv := ⟨World.start cv,Asio.construct,[],0⟩

def onWorld (x : Exec Fault (World cv) α) : Proc Halt (Process cv) α :=
  Proc.ofExec world (fun w t => {t with world := w}) .fault x

def onSystem (p : Asio.Sys α) : Proc Halt (Process cv) α :=
  Proc.zoom calls (fun cs t => {t with calls := cs}) .stop p

section Statements

variable (os : System) (serverAddr : Buffer) (patience : Nat)

/-- A call that can throw is made, and nothing else is done. -/
def calling : Proc Halt (Process cv) Unit := do
  let call := (← get).externals
  modify fun t => {t with externals := t.externals+1}
  if os.throws call then throw .exception

/-- A call that can throw, and then leaves no effect. -/
def external (x : Exec Fault (World cv) α) : Proc Halt (Process cv) α := do
  calling os
  onWorld x

/-- `address::from_string` -/
def fromString (str : String) : Proc Halt (Process cv) Asio.Address :=
  match Asio.makeAddress os.inetPton str with
  | .ok address => pure address
  | .error e => throw (.stop (.systemError e ""))

/-- `sock.open(asio::ip::udp::v4())` -/
def openSock : Proc Halt (Process cv) Unit := do
  let sock ← onSystem (Asio.openSocket os.kernel (← get).sock .dgram)
  modify fun t => {t with sock := sock}
  onWorld (emit .socketOpen)

/-- `sock.send_to(asio::buffer(buffer_), serverEndpoint)` -/
def sendBuffer : Proc Halt (Process cv) Unit := do
  let t ← get
  let _ ← onSystem (Asio.sendTo os.kernel t.sock t.world.buffer serverAddr patience)
  onWorld (emit (.sendTo t.world.buffer serverEndpoint))

def sendPass : Proc Halt (Process cv) Unit := do
  onWorld (buildPacket uuid.1 name.1)
  sendBuffer os serverAddr patience

def sendLoop : Proc Halt (Process cv) Unit :=
  (List.range blendShapeSize).forM fun _ => sendPass os serverAddr patience

def captureIteration (env : Env cv) : Proc Halt (Process cv) Control := do
  external os (captureFrame env)
  if isCamera then
    external os (modify fun w => {w with cameraBgrFrame := cv.flip w.cameraBgrFrame 1})
  if cv.empty (← get).world.cameraBgrFrame then
    return .leave
  calling os
  let cameraRgbFrame := cv.cvtColor (← get).world.cameraBgrFrame .bgr2rgb
  external os (emit (.faceBlendShapeProcess cameraRgbFrame))
  external os (getFaceBlendShapeOutput env blendShapeSize)
  if blendShapeSize != 0 && (← get).world.blendShapeList.nonNull then
    sendLoop os serverAddr patience
  external os (emit (.imshow "camera" (← get).world.cameraBgrFrame))
  let pressedKey ← external os (waitKey env 30)
  if pressed pressedKey then
    onWorld (modify fun w => {w with grabFrame := false})
  return .next

def captureLoop (env : Env cv) (n : Nat) : Proc Halt (Process cv) Control :=
  Proc.whileLoop (fun t => t.world.grabFrame) (captureIteration os serverAddr patience env) n

/-- `main` once the socket is open. -/
def afterOpen (env : Env cv) (heap : BlendShapeList) (n : Nat) :
    Proc Halt (Process cv) (Option Int) := do
  external os (newBlendShapeList heap)
  external os (emit (.createFaceBlendShapeInterface graphPath))
  external os (emit (.captureOpen 0 env.win32))
  external os (emit (.isOpened env.isOpened))
  if !env.isOpened then
    onWorld deleteBlendShapeList
    return some (-1)
  external os (emit .addFaceBlendShapePoller)
  external os (emit .startFaceBlendShape)
  external os (emit (.namedWindow "camera"))
  match ← captureLoop os serverAddr patience env n with
  | .next => return none
  | .leave =>
    onWorld deleteBlendShapeList
    external os (emit .destroyAllWindows)
    external os (emit .stopFaceBlendShape)
    external os (emit .releaseFaceBlendShapeInterface)
    return some 0

/-- The destructor of `sock` runs when `main` returns, and when an exception unwinds it. -/
def destructs : Except Halt (Option Int) → Bool
  | .ok code => code.isSome
  | .error (.stop (.systemError _ _)) => os.unwinds
  | .error .exception => os.unwinds
  | .error _ => false

def destroySock : Proc Halt (Process cv) Unit := do
  onSystem (Asio.destroy os.kernel (← get).sock)

end Statements

def port : BitVec (8*2) := 11111

/-- `main`, with its loop followed for `n` rounds and the loop of each send for `patience` rounds.
It answers as `MediapipeLivelink.main` does, unless it is cut short. The first two calls construct
`ioContext` and `resolver`, the third one `sock`. -/
def main (os : System) (env : Env cv) (heap : BlendShapeList) (n patience : Nat) :
    Proc Halt (Process cv) (Option Int) := do
  calling os
  calling os
  let address ← fromString os "127.0.0.1"
  let serverAddr := (Asio.Sockaddr.ofAddress address port).data
  calling os
  Proc.guarded (destructs os) (destroySock os) do
    openSock os
    afterOpen os serverAddr patience env heap n

def run (os : System) (env : Env cv) (heap : BlendShapeList) (n patience : Nat) :
    Except Halt (Option Int)×Process cv := (main os env heap n patience).outcome (start cv)

/-- The bytes of the endpoint that the program sends to. -/
def serverAddr (os : System) : Buffer :=
  match Asio.makeAddress os.inetPton "127.0.0.1" with
  | .ok address => (Asio.Sockaddr.ofAddress address port).data
  | .error _ => []

end Process

end MediapipeLivelink
