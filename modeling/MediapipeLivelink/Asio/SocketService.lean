import MediapipeLivelink.Asio.SocketOps

namespace MediapipeLivelink

namespace Asio

/-- A socket object. `registered` says whether the reactor watches the descriptor. -/
structure Implementation where
  socket : Option Nat
  state : StateType
  registered : Bool

def construct : Implementation := ⟨none,0,false⟩

def Implementation.isOpen (impl : Implementation) : Bool := impl.socket.isSome

inductive SocketType
  | stream
  | dgram
  | other

def SocketType.state : SocketType → StateType
  | .stream => streamOriented
  | .dgram => datagramOriented
  | .other => 0

/-- A descriptor that epoll does not support is used without it. -/
def registerDescriptor (k : Kernel) (s : Nat) : Sys (ErrorCode×Bool) := do
  let answer ← ask k.register (.register s)
  if !k.win32 && answer==some .noPermission then
    return (none,false)
  return (answer,answer.isNone)

/-- `deregister_descriptor`; the system forgets a descriptor that is closed. -/
def deregisterDescriptor (impl : Implementation) (s : Nat) (closing : Bool) : Sys Unit :=
  if !closing && impl.registered then tell (.deregister s) else pure ()

/-- A socket that cannot be registered is closed by its holder. -/
def doOpen (k : Kernel) (impl : Implementation) (type : SocketType) :
    Sys (Implementation×ErrorCode) := do
  if impl.isOpen then
    return (impl,some .alreadyOpen)
  match ← socket k with
  | (none,ec) => return (impl,ec)
  | (some s,_) =>
    match ← registerDescriptor k s with
    | (some e,_) =>
      let _ ← close k (some s) 0 true none
      return (impl,some e)
    | (none,registered) => return (⟨some s,type.state,registered⟩,none)

def destroy (k : Kernel) (impl : Implementation) : Sys Unit := do
  match impl.socket with
  | none => pure ()
  | some s =>
    deregisterDescriptor impl s (!has impl.state possibleDup)
    let _ ← close k (some s) impl.state true none

/-- `reactive_socket_service_base::close`; the object is as new, even after an error. -/
def closeSocket (k : Kernel) (impl : Implementation) : Sys (Implementation×ErrorCode) := do
  match impl.socket with
  | none => return (construct,none)
  | some s =>
    deregisterDescriptor impl s (!has impl.state possibleDup)
    let (_,_,ec) ← close k (some s) impl.state false none
    return (construct,ec)

/-- `reactive_socket_service_base::non_blocking` -/
def setNonBlocking (k : Kernel) (impl : Implementation) (mode : Bool) :
    Sys (Implementation×ErrorCode) := do
  let (_,state,ec) ← setUserNonBlocking k impl.socket impl.state mode
  return ({impl with state := state},ec)

/-- Windows gathers the one buffer, the other systems send it as it is. -/
def serviceSendTo (k : Kernel) (impl : Implementation) (buffer addr : Buffer) (m : Nat) :
    Sys (Nat×ErrorCode) :=
  if k.win32 then syncSendto k impl.socket impl.state [buffer] addr m
  else syncSendto1 k impl.socket impl.state buffer addr m

/-- `basic_socket::open` -/
def openSocket (k : Kernel) (impl : Implementation) (type : SocketType) : Sys Implementation := do
  let (impl,ec) ← doOpen k impl type
  throwErrorCode ec "open"
  return impl

/-- `basic_datagram_socket::send_to` -/
def sendTo (k : Kernel) (impl : Implementation) (buffer addr : Buffer) (m : Nat) : Sys Nat := do
  let (bytes,ec) ← serviceSendTo k impl buffer addr m
  throwErrorCode ec "send_to"
  return bytes

end Asio

end MediapipeLivelink
