import NatGateway.Ssdp.Search

/-!
# Sockets

The socket of a search: what is sent leaves by every interface of a group, and what arrives until the
deadline is given to a handler. All datagrams are received in one buffer. A datagram is written over its
start, and behind it stands what earlier and longer ones left.
-/

namespace NatGateway.Ssdp

open NatGateway.Net (Ipv4)
open NatGateway.Text (Bytes)

/-- Where datagrams come from or go to. -/
structure Endpoint where
  address : Ipv4
  port : UInt16
deriving DecidableEq

/-- A datagram that arrives. Its length and that of its header of eight bytes are told by a field of
sixteen bits. -/
structure Datagram where
  sender : Endpoint
  bytes : Bytes
  fits : bytes.length + 8 < 65536

/-- The datagram of bytes, if they are not too many for one. -/
def Datagram.ofBytes? (sender : Endpoint) (bytes : Bytes) : Option Datagram :=
  if fits : bytes.length + 8 < 65536 then some ⟨sender, bytes, fits⟩ else none

/-- What a wait ends with before the deadline. -/
inductive Arrival where
  | datagram (datagram : Datagram)
  | failure

/-! ## Receiving -/

/-- Where datagrams are received. -/
structure Buffer where
  bytes : Bytes
  size : bytes.length = 65535

namespace Buffer

/-- The buffer before anything is received. -/
def zeros : Buffer := ⟨List.replicate 65535 0, List.length_replicate⟩

/-- Receive a datagram, and count the bytes of it that there is room for. -/
def receive (buffer : Buffer) (datagram : Datagram) : Buffer × Nat :=
  let received := datagram.bytes.take 65535
  (⟨received ++ buffer.bytes.drop received.length, by
    rw [List.length_append, List.length_drop, buffer.size, List.length_take]
    omega⟩, received.length)

/-- The first bytes of a buffer. -/
def front (buffer : Buffer) (count : Nat) : Bytes := buffer.bytes.take count

end Buffer

/-- What is done with a datagram, by its sender and its bytes. -/
abbrev Handler (σ : Type) := Endpoint → Bytes → StateM σ (Except SsdpError Unit)

/-- Give what arrives to a handler, until the handler or the socket fails or the deadline passes. What
has arrived and was not read is left. -/
def deliver {σ : Type} (handle : Handler σ) :
    Buffer → List Arrival → StateM σ (Except SsdpError Unit × List Arrival)
  | _, [] => return (.ok (), [])
  | _, .failure :: rest => return (.error .socket, rest)
  | buffer, .datagram datagram :: rest => do
      let (filled, count) := buffer.receive datagram
      match ← handle datagram.sender (filled.front count) with
      | .ok () => deliver handle filled rest
      | .error error => return (.error error, rest)

/-- Read what arrives until the deadline. -/
def readArrivals {σ : Type} (handle : Handler σ) (arrivals : List Arrival) :
    StateM σ (Except SsdpError Unit × List Arrival) :=
  deliver handle .zeros arrivals

/-! ## Sending -/

/-- A socket, by where its requests go and the interfaces on which it has joined that group. -/
structure Socket where
  destination : Endpoint
  interfaces : List Ipv4

namespace Socket

/-- Send bytes, and count those that were sent. To a group they are sent by every interface that has
joined it, and only if nothing was sent it is a failure that an interface failed. Else the system
chooses. How much is sent by an interface, if it does not fail, is a parameter. -/
def write (socket : Socket) (send : Option Ipv4 → Bytes → Endpoint → Option Nat) (bytes : Bytes)
    (target : Endpoint) : Except SsdpError Nat :=
  if !target.address.isMulticast || socket.interfaces.isEmpty then
    match send none bytes target with
    | some count => .ok count
    | none => .error .socket
  else
    let counts := socket.interfaces.map fun interface => send (some interface) bytes target
    let sum := counts.foldl (fun sum count => sum + count.getD 0) 0
    if counts.any Option.isNone && sum == 0 then .error .socket else .ok sum

/-- Send a request, and keep the responses that arrive until the deadline. -/
def request (socket : Socket) (send : Option Ipv4 → Bytes → Endpoint → Option Nat)
    (request : SearchRequest) (arrivals : List Arrival) : Except SsdpError (List Response) :=
  (socket.write send request.bytes socket.destination).bind fun _ =>
    let ((ended, _), kept) := (readArrivals (fun _ => keepResponse) arrivals).run []
    ended.map fun () => kept

end Socket

end NatGateway.Ssdp
