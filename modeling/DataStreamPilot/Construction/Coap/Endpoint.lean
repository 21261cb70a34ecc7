/-
This file models the endpoints of the CoAP command and the parser of their texts.
The network stack of the board is a parameter.
-/

import DataStreamPilot.Library.CText

namespace DataStreamPilot.Coap

open Library

abbrev Address := Vector UInt8 16

/-- The fields of `sock_udp_ep_t` that the command reads. The family is always the one of IPv6. -/
structure Endpoint where
  addr : Address
  netif : UInt16
  port : UInt16
  deriving DecidableEq

/-- The static endpoint before any assignment. -/
def zeroEndpoint : Endpoint := ⟨Vector.replicate 16 0, 0, 0⟩

/-- What the command asks the network stack and the C library of the board. -/
structure Stack where
  /-- `ipv6_addr_split_iface` separates an address from the text of its interface. -/
  splitIface : List Char → List Char × Option (List Char)
  /-- The only interface, when `gnrc_netif_numof` is one. -/
  singleInterface : Option UInt16
  /-- `gnrc_netif_get_by_pid` finds an interface. -/
  hasInterface : ℤ → Bool
  /-- The constant `SOCK_ADDR_ANY_NETIF` -/
  anyInterface : UInt16
  /-- `ipv6_addr_from_str` -/
  addressFromText : List Char → Option Address
  /-- `ipv6_addr_is_link_local` -/
  isLinkLocal : Address → Bool
  /-- What `atoi` returns for a number that `int` cannot hold. -/
  atoiOverflow : List Char → ℤ

/-- The four reasons for which an endpoint is refused. -/
inductive EndpointError where
  | interfaceNotValid
  | unableToParseAddress
  | linkLocalWithoutInterface
  | unableToParsePort
  deriving DecidableEq, Repr

/-- The line that the parser prints. -/
def EndpointError.text : EndpointError → String
  | .interfaceNotValid => "gcoap_cli: interface not valid"
  | .unableToParseAddress => "gcoap_cli: unable to parse destination address"
  | .linkLocalWithoutInterface => "gcoap_cli: must specify interface for link local target"
  | .unableToParsePort => "gcoap_cli: unable to parse destination port"

/-- The interface that the parser stores, or nothing when the named one does not exist. -/
def parseInterface (stack : Stack) (iface : Option (List Char)) : Option UInt16 :=
  match iface with
  | none => some (stack.singleInterface.getD stack.anyInterface)
  | some name =>
      let pid := CText.atoi stack.atoiOverflow name
      if stack.hasInterface pid then some (UInt16.ofInt pid) else none

/-- The parser writes each field as soon as it is known. A refused endpoint keeps the fields that
were written before the refusal. -/
def parseEndpoint (stack : Stack) (remote : Endpoint) (addrText portText : List Char) :
    Endpoint × Option EndpointError :=
  let (addressText, iface) := stack.splitIface addrText
  match parseInterface stack iface with
  | none => (remote, some .interfaceNotValid)
  | some netif =>
      let remote := { remote with netif }
      match stack.addressFromText addressText with
      | none => (remote, some .unableToParseAddress)
      | some addr =>
          if netif = stack.anyInterface ∧ stack.isLinkLocal addr then
            (remote, some .linkLocalWithoutInterface)
          else
            let port := UInt16.ofInt (CText.atoi stack.atoiOverflow portText)
            let remote := { remote with addr, port }
            if remote.port = 0 then (remote, some .unableToParsePort) else (remote, none)

end DataStreamPilot.Coap
