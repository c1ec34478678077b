import MediapipeLivelink.Framework.Proc
import MediapipeLivelink.Util.ValueToBuffer

namespace MediapipeLivelink

namespace Asio

/-- The errors that asio tells apart, and the others by their number. -/
inductive Error
  | wouldBlock
  | tryAgain
  | badDescriptor
  | alreadyOpen
  | noPermission
  | connectionReset
  | connectionRefused
  | netnameDeleted
  | portUnreachable
  | other (code : Int)
  deriving DecidableEq

/-- `asio::error_code`; a cleared one is `none`. -/
abbrev ErrorCode := Option Error

/-- `ec == would_block || ec == try_again` -/
def blocked (ec : ErrorCode) : Bool := ec==some .wouldBlock || ec==some .tryAgain

abbrev StateType := BitVec 8

def userSetNonBlocking : StateType := 1

def internalNonBlocking : StateType := 2

def nonBlocking : StateType := userSetNonBlocking|||internalNonBlocking

def userSetLinger : StateType := 8

def streamOriented : StateType := 16

def datagramOriented : StateType := 32

def possibleDup : StateType := 64

def has (state flag : StateType) : Bool := state&&&flag != 0

inductive SystemCall
  | socket (answer : Except Error Nat)
  | register (descriptor : Nat) (answer : Option Error)
  | deregister (descriptor : Nat)
  | lingerOff (descriptor : Nat)
  | sendto (descriptor : Nat) (data addr : Buffer) (answer : Except Error Nat)
  | poll (descriptor : Nat) (timeout : Int) (answer : Except Error Nat)
  | blockingMode (descriptor : Nat)
  | nonBlockingMode (descriptor : Nat) (mode : Bool) (answer : Option Error)
  | close (descriptor : Nat) (answer : Option Error)

/-- What the operating system answers to a system call when so many have been made before. -/
structure Kernel where
  win32 : Bool
  socket : Nat → Except Error Nat
  register : Nat → Option Error
  sendto : Nat → Except Error Nat
  poll : Nat → Except Error Nat
  ioctl : Nat → Option Error
  close : Nat → Option Error

/-- Why a computation is cut short: an exception, or a loop that has not ended so far. -/
inductive Stop
  | systemError (e : Error) (location : String)
  | waiting
  deriving DecidableEq

/-- Computations on the system calls made so far. -/
abbrev Sys (α : Type) := Proc Stop (List SystemCall) α

def ask {α : Type} (answer : Nat → α) (call : α → SystemCall) : Sys α := do
  let a := answer (← get).length
  modify fun calls => calls++[call a]
  return a

def tell (call : SystemCall) : Sys Unit := modify fun calls => calls++[call]

/-- `throw_error` -/
def throwErrorCode (ec : ErrorCode) (location : String) : Sys Unit :=
  match ec with
  | none => pure ()
  | some e => throw (.systemError e location)

/-- `socket_ops::socket`; the result of a call that failed is `invalid_socket`. -/
def socket (k : Kernel) : Sys (Option Nat×ErrorCode) := do
  match ← ask k.socket .socket with
  | .ok s => return (some s,none)
  | .error e => return (none,some e)

/-- The errors that Windows reports in other terms when a datagram was sent before. -/
def Error.ofSendto : Error → Error
  | .netnameDeleted => .connectionReset
  | .portUnreachable => .connectionRefused
  | e => e

def sendto1 (k : Kernel) (s : Nat) (data addr : Buffer) : Sys (Int×ErrorCode) := do
  match ← ask k.sendto (.sendto s data addr) with
  | .ok bytes => return (bytes,none)
  | .error e => return (-1,some (if k.win32 then e.ofSendto else e))

/-- The buffers of one datagram are gathered. -/
def sendto (k : Kernel) (s : Nat) (bufs : List Buffer) (addr : Buffer) : Sys (Int×ErrorCode) :=
  sendto1 k s bufs.flatten addr

def pollWrite (k : Kernel) (s : Option Nat) (state : StateType) (msec : Int) :
    Sys (Int×ErrorCode) := do
  match s with
  | none => return (-1,some .badDescriptor)
  | some s =>
    let timeout := if has state userSetNonBlocking then 0 else msec
    match ← ask k.poll (.poll s timeout) with
    | .error e => return (-1,some e)
    | .ok result =>
      if result=0 ∧ has state userSetNonBlocking then return (0,some .wouldBlock)
      else return (result,none)

/-- The loop of `sync_sendto` and of `sync_sendto1`, followed for at most `m` rounds. -/
def untilSent (k : Kernel) (send : Sys (Int×ErrorCode)) (s : Nat) (state : StateType) :
    Nat → Sys (Nat×ErrorCode)
  | 0 => throw .waiting
  | m+1 => do
    let (bytes,ec) ← send
    if bytes≥0 then
      return (bytes.toNat,ec)
    if has state userSetNonBlocking || !blocked ec then
      return (0,ec)
    let (ready,ec) ← pollWrite k (some s) 0 (-1)
    if ready<0 then
      return (0,ec)
    untilSent k send s state m

def syncSendto (k : Kernel) (s : Option Nat) (state : StateType) (bufs : List Buffer)
    (addr : Buffer) (m : Nat) : Sys (Nat×ErrorCode) :=
  match s with
  | none => return (0,some .badDescriptor)
  | some s => untilSent k (sendto k s bufs addr) s state m

def syncSendto1 (k : Kernel) (s : Option Nat) (state : StateType) (data addr : Buffer)
    (m : Nat) : Sys (Nat×ErrorCode) :=
  match s with
  | none => return (0,some .badDescriptor)
  | some s => untilSent k (sendto1 k s data addr) s state m

/-- `set_user_non_blocking`; to clear the mode is to clear the internal flag, too. -/
def setUserNonBlocking (k : Kernel) (s : Option Nat) (state : StateType) (value : Bool) :
    Sys (Bool×StateType×ErrorCode) := do
  match s with
  | none => return (false,state,some .badDescriptor)
  | some s =>
    match ← ask k.ioctl (.nonBlockingMode s value) with
    | some e => return (false,state,some e)
    | none =>
      if value then return (true,state|||userSetNonBlocking,none)
      else return (true,state&&&~~~(userSetNonBlocking|||internalNonBlocking),none)

/-- `::close`, with the error it leaves. -/
def closeCall (k : Kernel) (s : Nat) : Sys (Int×ErrorCode) := do
  let answer ← ask k.close (.close s)
  return (if answer.isSome then -1 else 0,answer)

/-- A destructor must not block, and lets the socket linger in the background. -/
def lingerInBackground (s : Nat) (state : StateType) (destruction : Bool) : Sys Unit :=
  if destruction && has state userSetLinger then tell (.lingerOff s) else pure ()

/-- A close that would block is tried again in blocking mode, once. -/
def close (k : Kernel) (s : Option Nat) (state : StateType) (destruction : Bool)
    (ec : ErrorCode) : Sys (Int×StateType×ErrorCode) := do
  match s with
  | none => return (0,state,ec)
  | some s =>
    lingerInBackground s state destruction
    let (result,ec) ← closeCall k s
    if result != 0 && blocked ec then
      tell (.blockingMode s)
      let (result,ec) ← closeCall k s
      return (result,state&&&~~~nonBlocking,ec)
    return (result,state,ec)

end Asio

end MediapipeLivelink
