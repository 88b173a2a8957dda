import SensorGateway.Address

/-!
# `SensorGateway.Link.Endpoint`: where the base station is found

The settings name the base station by a socket address, or by the name of
a host and a port on it. A name has to be looked up, and the addresses
found are tried one after the other.
-/

set_option autoImplicit false

namespace SensorGateway.Link

/-- Where the base station is found. -/
inductive Endpoint where
  | address (address : SocketAddress)
  /-- A port of a host that is known by name. -/
  | named (host : String) (port : UInt16)
  deriving Repr, DecidableEq

/-- Cuts a text at its last colon. -/
def Endpoint.split? (chars : List Char) : Option (List Char × List Char) :=
  let port := (chars.reverse.takeWhile (· != ':')).reverse
  if port.length = chars.length then none
  else some (chars.take (chars.length - port.length - 1), port)

/-- Reads an endpoint. What is no socket address is a name, a colon and a
port. -/
def Endpoint.parse? (text : String) : Option Endpoint :=
  match SocketAddress.parse? text with
  | some found => some (.address found)
  | none => do
    let (host, port) ← split? text.toList
    let port ← (Text.unsignedNumeral 10 0xFFFF port).toOption
    some (.named (String.ofList host) (UInt16.ofNat port))

end SensorGateway.Link
