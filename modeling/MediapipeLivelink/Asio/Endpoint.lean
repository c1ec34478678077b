import MediapipeLivelink.Asio.SocketOps

namespace MediapipeLivelink

namespace Asio

/-- `htons` and `htonl`, and their inverses: on a little-endian host the bytes change places. -/
def hostToNetwork (w : Nat) : BitVec (8*w)≃BitVec (8*w) :=
  (Format.bitsOfDigits w).symm.trans ((Format.reversed w).trans (Format.bitsOfDigits w))

/-- `address_v4`; the number is kept in network byte order. -/
structure AddressV4 where
  sAddr : BitVec (8*4)
  deriving DecidableEq

def AddressV4.ofUint (addr : BitVec (8*4)) : AddressV4 := ⟨hostToNetwork 4 addr⟩

def AddressV4.toUint (a : AddressV4) : BitVec (8*4) := (hostToNetwork 4).symm a.sAddr

def AddressV4.ofBytes (bytes : List.Vector Byte 4) : AddressV4 := ⟨Format.bitsOfDigits 4 bytes⟩

structure AddressV6 where
  s6Addr : List.Vector Byte 16
  scopeId : BitVec (8*4)
  deriving DecidableEq

inductive Address
  | v4 (a : AddressV4)
  | v6 (a : AddressV6)
  deriving DecidableEq

/-- `sockaddr_in` and `sockaddr_in6`; ports and IPv4 addresses in network byte order. -/
inductive Sockaddr
  | v4 (sinPort : BitVec (8*2)) (sinAddr : BitVec (8*4))
  | v6 (sin6Port : BitVec (8*2)) (sin6Flowinfo : BitVec (8*4)) (sin6Addr : List.Vector Byte 16)
      (sin6ScopeId : BitVec (8*4))
  deriving DecidableEq

def afInet : BitVec (8*2) := 2

def afInet6 : BitVec (8*2) := 10

namespace Sockaddr

/-- `endpoint::endpoint(addr, port_num)` -/
def ofAddress (addr : Address) (portNum : BitVec (8*2)) : Sockaddr :=
  match addr with
  | .v4 a => .v4 (hostToNetwork 2 portNum) (hostToNetwork 4 a.toUint)
  | .v6 a => .v6 (hostToNetwork 2 portNum) 0 a.s6Addr a.scopeId

def port : Sockaddr → BitVec (8*2)
  | v4 port _ => (hostToNetwork 2).symm port
  | v6 port _ _ _ => (hostToNetwork 2).symm port

def setPort (portNum : BitVec (8*2)) : Sockaddr → Sockaddr
  | v4 _ addr => v4 (hostToNetwork 2 portNum) addr
  | v6 _ flowinfo addr scopeId => v6 (hostToNetwork 2 portNum) flowinfo addr scopeId

def address : Sockaddr → Address
  | v4 _ addr => .v4 (.ofUint ((hostToNetwork 4).symm addr))
  | v6 _ _ addr scopeId => .v6 ⟨addr,scopeId⟩

def setAddress (addr : Address) (e : Sockaddr) : Sockaddr := ofAddress addr e.port

def size : Sockaddr → Nat
  | v4 _ _ => 16
  | v6 _ _ _ _ => 28

/-- The bytes that the operating system is given. -/
def data : Sockaddr → Buffer
  | v4 port addr => objectBytes afInet++objectBytes port++objectBytes addr++List.replicate 8 0
  | v6 port flowinfo addr scopeId => objectBytes afInet6++objectBytes port++
      objectBytes flowinfo++addr.1++objectBytes scopeId

@[simp] theorem port_ofAddress (addr : Address) (portNum : BitVec (8*2)) :
    (ofAddress addr portNum).port=portNum := by
  cases addr <;> exact Equiv.symm_apply_apply _ _

@[simp] theorem address_ofAddress (addr : Address) (portNum : BitVec (8*2)) :
    (ofAddress addr portNum).address=addr := by
  cases addr with
  | v4 a =>
    simp only [ofAddress,address,AddressV4.ofUint,AddressV4.toUint,
      Equiv.apply_symm_apply]
  | v6 a => rfl

theorem setPort_ofAddress (addr : Address) (portNum p : BitVec (8*2)) :
    setPort p (ofAddress addr portNum)=ofAddress addr p := by
  cases addr <;> rfl

theorem setAddress_ofAddress (addr a : Address) (portNum : BitVec (8*2)) :
    setAddress a (ofAddress addr portNum)=ofAddress a portNum := by
  rw [setAddress,port_ofAddress]

theorem size_data (e : Sockaddr) : e.data.length=e.size := by
  cases e with
  | v4 port addr => simp [data,size,objectBytes_length]
  | v6 port flowinfo addr scopeId =>
    have ha := addr.2
    simp only [data,size,List.length_append,objectBytes_length,ha]

theorem objectBytes_inj {w : Nat} (u v : BitVec (8*w)) : objectBytes u=objectBytes v ↔ u=v := by
  rw [objectBytes_eq_digits,objectBytes_eq_digits]
  constructor
  · intro h
    exact (Format.bitsOfDigits w).symm.injective (Subtype.ext h)
  · intro h
    rw [h]

/-- The system can tell any two endpoints apart. -/
theorem data_inj (e f : Sockaddr) : e.data=f.data ↔ e=f := by
  refine ⟨?_,congrArg data⟩
  intro h
  cases e with
  | v4 port addr =>
    cases f with
    | v4 port' addr' =>
      simp only [data,List.append_left_inj] at h
      obtain ⟨hp,ha⟩ := List.append_inj' h (by simp [objectBytes_length])
      have hp := List.append_cancel_left hp
      rw [(objectBytes_inj _ _).mp hp,(objectBytes_inj _ _).mp ha]
    | v6 port' flowinfo' addr' scopeId' =>
      have hl := congrArg List.length h
      rw [size_data,size_data] at hl
      simp [size] at hl
  | v6 port flowinfo addr scopeId =>
    cases f with
    | v4 port' addr' =>
      have hl := congrArg List.length h
      rw [size_data,size_data] at hl
      simp [size] at hl
    | v6 port' flowinfo' addr' scopeId' =>
      obtain ⟨h,hs⟩ := List.append_inj' h (by simp [objectBytes_length])
      obtain ⟨h,ha⟩ := List.append_inj' h (by rw [addr.2,addr'.2])
      obtain ⟨h,hf⟩ := List.append_inj' h (by simp [objectBytes_length])
      have hp := List.append_cancel_left h
      rw [(objectBytes_inj _ _).mp hp,(objectBytes_inj _ _).mp hf,Subtype.ext ha,
        (objectBytes_inj _ _).mp hs]

/-- An endpoint is the address and the port it was made of, however they came into it,
and the bytes that the system sees are those of no other. -/
theorem endpoint_faithful (addr a : Address) (portNum p : BitVec (8*2)) :
    ((ofAddress addr portNum).address=addr ∧ (ofAddress addr portNum).port=portNum) ∧
      setPort p (setAddress a (ofAddress addr portNum))=ofAddress a p ∧
      ((ofAddress addr portNum).data=(ofAddress a p).data ↔ addr=a ∧ portNum=p) := by
  refine ⟨⟨address_ofAddress addr portNum,port_ofAddress addr portNum⟩,?_,?_⟩
  · rw [setAddress_ofAddress,setPort_ofAddress]
  · rw [data_inj]
    constructor
    · intro h
      have ha := congrArg address h
      have hp := congrArg port h
      simp only [address_ofAddress,port_ofAddress] at ha hp
      exact ⟨ha,hp⟩
    · intro h
      rw [h.1,h.2]

end Sockaddr

/-- The operating system's `inet_pton`, for both families. -/
structure InetPton where
  v4 : String → Except Error (List.Vector Byte 4)
  v6 : String → Except Error (List.Vector Byte 16×BitVec (8*4))

/-- `make_address` tries IPv6 first. -/
def makeAddress (pton : InetPton) (str : String) : Except Error Address :=
  match pton.v6 str with
  | .ok (bytes,scopeId) => .ok (.v6 ⟨bytes,scopeId⟩)
  | .error _ => match pton.v4 str with
    | .ok bytes => .ok (.v4 (.ofBytes bytes))
    | .error e => .error e

end Asio

end MediapipeLivelink
