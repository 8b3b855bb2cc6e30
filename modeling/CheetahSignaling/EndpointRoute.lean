import CheetahSignaling.Compatibility
import CheetahSignaling.Gb28181Events
import CheetahSignaling.Sip

/-! Where a device is sent to: the endpoint that the top Via asks for, the address of the Contact, or
the source of the packet. -/
namespace CheetahSignaling.Gb28181

open Str

structure AddressParsers where
  ipAddr : String → Option IpAddr
  ipv6Addr : String → Option IpAddr

inductive Rport where
  | absent
  | requested
  | value (port : Nat)
deriving DecidableEq

structure ViaRouteParams where
  received : Option IpAddr
  rport : Rport

namespace ViaRouteParams

variable (parsers : AddressParsers) (params : ViaRouteParams)

def parseToken (token : List Char) : ViaRouteParams :=
  let token := trim token
  match stripLeading "received=".toList token with
  | some value => { params with received := parsers.ipAddr (String.ofList (trim value)) }
  | none =>
    if eqIgnoreAsciiCase token "rport".toList then { params with rport := .requested }
    else
      match stripLeading "rport=".toList token with
      | some value =>
        { params with rport := ((parseUnsigned (2 ^ 16) (trim value)).map Rport.value).getD .requested }
      | none => params

/-- Unknown and malformed parameters are passed over. -/
def parse (via : String) : ViaRouteParams :=
  ((split ';' via.toList).drop 1).foldl (parseToken parsers) ⟨none,.absent⟩

def resolvedEndpointWithPolicy (observed : SocketAddr) (preferReceived : Bool) : Option SocketAddr :=
  if params.rport = .absent ∧ !(preferReceived && params.received.isSome) then none
  else
    let port := match params.rport with
      | .value port => port
      | _ => observed.port
    some ⟨params.received.getD observed.ip,port⟩

end ViaRouteParams

def parseHostIp (parsers : AddressParsers) (host : String) : Option IpAddr :=
  match host.toList with
  | '[' :: rest =>
    if rest.getLast? = some ']' then parsers.ipv6Addr (String.ofList rest.dropLast) else parsers.ipAddr host
  | _ => parsers.ipAddr host

def socketAddrFromUri (parsers : AddressParsers) (uri : SipUri) : Option SocketAddr :=
  (parseHostIp parsers uri.host).map fun ip => ⟨ip,uri.port.getD 5060⟩

/-- The target inside a dialog is not represented; a registration has none. -/
structure EndpointRoute where
  observedSource : SocketAddr
  viaReceivedRport : Option SocketAddr
  contactUri : Option SipUri
  advertisedEndpoint : Option SocketAddr

namespace EndpointRoute

def fromRegistrationWithProfile (parsers : AddressParsers) (observedSource : SocketAddr) (topVia : Option String)
    (contactUri : Option SipUri) (profile : Option CompatibilityProfile) : EndpointRoute :=
  let preferReceived := profile.any fun p => p.has .contactRportRoute
  { observedSource := observedSource
    viaReceivedRport := topVia.bind fun via =>
      (ViaRouteParams.parse parsers via).resolvedEndpointWithPolicy observedSource preferReceived
    contactUri := contactUri
    advertisedEndpoint := contactUri.bind (socketAddrFromUri parsers) }

def sendTarget (route : EndpointRoute) : SocketAddr :=
  (route.viaReceivedRport.or route.advertisedEndpoint).getD route.observedSource

/-- A packet from this source would move the route. -/
def isUnauthenticatedDrift (route : EndpointRoute) (source : SocketAddr) : Bool :=
  source ≠ route.observedSource && source ≠ route.sendTarget

end EndpointRoute

end CheetahSignaling.Gb28181
