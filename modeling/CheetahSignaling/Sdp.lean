import Mathlib.Data.List.Basic

/-! SDP descriptions of sessions and their media. -/
namespace CheetahSignaling

structure SdpOrigin where
  (username sessId sessVersion nettype addrtype address : String)

structure SdpConnection where
  (nettype addrtype address : String)

structure SdpTime where
  (start stop : String)

structure RtpMap where
  (pt encoding clock : String)
  params : Option String

inductive SdpSetup where
  | active
  | passive
  | actpass
  | none

inductive SdpConnectionType where
  | new
  | existing

inductive SdpDirection where
  | sendOnly
  | recvOnly
  | sendRecv
  | inactive

inductive SdpAttribute where
  | rtpMap (map : RtpMap)
  | fmtp (pt params : String)
  | setup (setup : SdpSetup)
  | connection (type : SdpConnectionType)
  | ssrc (id : String) (text : Option String)
  | y (ssrc : String)
  | direction (direction : SdpDirection)
  | unknown (name : String) (value : Option String)

structure SdpMedia where
  mediaType : String
  port : Nat
  portCount : Nat := 1
  proto : String
  formats : List String
  connection : Option SdpConnection
  attributes : List SdpAttribute
  title : Option String

structure SdpSession where
  version : String
  origin : SdpOrigin
  name : String
  info : Option String
  connection : Option SdpConnection
  times : List SdpTime
  media : List SdpMedia
  attributes : List SdpAttribute

def SdpMedia.ySsrc (media : SdpMedia) : Option String := media.attributes.findSome? fun
    | .y ssrc => some ssrc
    | _ => none

end CheetahSignaling
