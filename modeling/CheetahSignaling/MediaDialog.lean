import CheetahSignaling.Compatibility
import CheetahSignaling.Dialog
import CheetahSignaling.Gb28181Events
import CheetahSignaling.KeyMap
import CheetahSignaling.Sdp
import CheetahSignaling.SipWire

/-! The media sessions of the GB28181 module: dialogs that an INVITE with an SDP offer opens. The SDP
parser, the parser of IP addresses and the lossy decoding of an answer are parameters. -/
namespace CheetahSignaling

open Str

namespace CompatibilityProfile

variable (profile : CompatibilityProfile) (payloadType : String) (name : String)

def isBaselinePayloadType : Bool :=
  match parseUnsigned (2 ^ 16) payloadType.toList with
  | some pt => pt = 0 || pt = 8 || (96 ≤ pt && pt ≤ 127)
  | none => false

def sdpPayloadAllowed : Bool := isBaselinePayloadType payloadType ||
    profile.has .sdpMediaOverride && profile.overrides.sdp.any (·.allowedPayloadTypes.contains payloadType)

def isBaselineAttribute : Bool :=
  ["downloadspeed","filesize","username","password"].any fun b => eqIgnoreAsciiCase b.toList name.toList

def sdpAttributeAllowed : Bool := isBaselineAttribute name || profile.has .sdpMediaOverride &&
      profile.overrides.sdp.any (·.allowedAttributeNames.any fun n => eqIgnoreAsciiCase n.toList name.toList)

end CompatibilityProfile

namespace Gb28181Media

open Gb28181 Outcomes

inductive SessionState where
  | inviting
  | active
  | stopping
  | terminated

/-- The check of the builders against values that would inject header lines. -/
def isHeaderToken (value : String) : Bool := !value.toList.contains '\r' && !value.toList.contains '\n'

/-- A tracked session. Its branch is checked when the INVITE is built. -/
structure Session where
  mediaSessionId : MediaSessionId
  channelId : ChannelId
  deviceId : Gb28181.DeviceId
  (callId localTag : String)
  remoteTag : Option String
  (cseq inviteCseq : Nat)
  branch : String
  target : SipUri
  remoteTarget : Option SipUri
  state : SessionState
  mediaAddress : String
  mediaPort : Nat
  branch_token : isHeaderToken branch = true

/-- What every command to start a session carries. -/
structure StartParams where
  mediaSessionId : MediaSessionId
  channelId : ChannelId
  deviceId : Gb28181.DeviceId
  target : SipUri
  (callId localTag : String)
  cseq : Nat
  (branch subjectSession mediaAddress : String)
  mediaPort : Nat

structure MediaConfig where
  localSipUri : SipUri
  domainId : String
  maxSessions : Nat
  compatibility : CompatibilityProfile

inductive MediaEvent where
  | mediaSessionStarted (domainId : String) (mediaSessionId : MediaSessionId) (channelId : ChannelId)
      (deviceId : Gb28181.DeviceId)
      (source : SocketAddr) (remoteSdp : String) (remoteSsrc : Option String) (remotePort : Nat) (remoteProto : String)
  | mediaSessionStopped (domainId : String) (mediaSessionId : MediaSessionId) (channelId : ChannelId)
      (deviceId : Gb28181.DeviceId)
      (source : Option SocketAddr)
  | mediaSessionFailed (domainId : String) (mediaSessionId : MediaSessionId) (channelId : ChannelId)
      (deviceId : Gb28181.DeviceId)
      (source : Option SocketAddr) (reason : String)

inductive MediaOutput where
  | sendMessage (message : SipMessage)
  | emitEvent (event : MediaEvent)

inductive MediaError where
  | sessionTableFull
  | sessionNotFound
  | invalidState (text : String)
  | malformedSip (text : String)
  | malformedSdp (text : String)
  | alreadyExists
  | unsupported (text : String)
deriving DecidableEq

/-- What the module takes from elsewhere: errors come as their texts. -/
structure Ports where
  parseSdp : ByteArray → Except String SdpSession
  parseIp : String → Except String Gb28181.IpAddr
  fromUtf8Lossy : ByteArray → String

structure Media where
  config : MediaConfig
  sessions : KeyMap MediaSessionId Session
  callIndex : KeyMap String MediaSessionId

variable (ports : Ports)

def socketAddr (host : String) (port : Nat) : Except MediaError SocketAddr :=
  match ports.parseIp host with
  | .error text => .error (.malformedSip text)
  | .ok ip => .ok ⟨ip,port⟩

def MediaError.text : MediaError → String
  | .sessionTableFull => "session table is full"
  | .sessionNotFound => "session not found"
  | .invalidState text => "invalid session state: " ++ text
  | .malformedSip text => "malformed SIP message: " ++ text
  | .malformedSdp text => "malformed SDP: " ++ text
  | .alreadyExists => "session already exists"
  | .unsupported text => "unsupported capability: " ++ text

variable (message : SipMessage) (session : Session) (localUri : SipUri) (value : String)

def sourceFromSession : Option SocketAddr := (socketAddr ports session.mediaAddress session.mediaPort).toOption

def stoppedEvent (domainId : String) : MediaEvent :=
  .mediaSessionStopped domainId session.mediaSessionId session.channelId session.deviceId (sourceFromSession ports session)

def failedEvent (domainId reason : String) : MediaEvent :=
  .mediaSessionFailed domainId session.mediaSessionId session.channelId session.deviceId (sourceFromSession ports session) reason

def validateSipHeaderToken : Except MediaError Unit :=
  if isHeaderToken value then .ok ()
  else .error (.malformedSip "internal module error: SIP header token contains forbidden line break")

def dialogHeaders (callId localTag toValue : String) (method : Method) (cseq : Nat) (branch : String) : SipHeaders :=
  [(.via,"SIP/2.0/UDP " ++ localUri.host ++ ":" ++ toString (localUri.port.getD 5060) ++ ";branch=" ++ branch),
    (.from,"<" ++ localUri.encode ++ ">;tag=" ++ localTag),
    (.to,toValue),
    (.callId,callId),
    (.cSeq,toString cseq ++ " " ++ method.name),
    (.contact,"<" ++ localUri.encode ++ ">"),
    (.maxForwards,"70")]

/-- `offer` is what the builder of the SDP returns. -/
def buildInvite (p : StartParams) (offer : Except MediaError String) : Except MediaError SipMessage := do
  let sdp ← offer
  validateSipHeaderToken p.callId
  validateSipHeaderToken p.localTag
  validateSipHeaderToken p.branch
  validateSipHeaderToken p.subjectSession
  return .request ⟨.invite,p.target⟩
    (dialogHeaders localUri p.callId p.localTag ("<" ++ p.target.encode ++ ">") .invite p.cseq p.branch ++
      [(.subject,p.deviceId.text ++ ":" ++ p.subjectSession ++ "," ++ localUri.user.getD "-" ++ ":" ++ p.deviceId.text),
        (.contentType,"application/sdp"),
        (.contentLength,toString sdp.utf8ByteSize)]) sdp.toUTF8

theorem buildInvite_branch (built : buildInvite localUri p offer = .ok invite) : isHeaderToken p.branch = true := by
  obtain ⟨_,-,_,-,built⟩ := bind_eq_ok₂ built
  obtain ⟨_,-,_,checked,-⟩ := bind_eq_ok₂ built
  by_contra broken
  rw [validateSipHeaderToken,if_neg broken] at checked
  cases checked

def inDialog (session : Session) (method : Method) (toValue : String) (cseq : Nat) (branch : String)
    (target : SipUri) : SipMessage :=
  .request ⟨method,target⟩ (dialogHeaders localUri session.callId session.localTag toValue method cseq branch ++
    [(.contentLength,"0")]) ByteArray.empty

def buildAck (session : Session) (remoteTag : Option String) (target : SipUri) (branch : String) :
    Except MediaError SipMessage := do
  validateSipHeaderToken branch
  let toValue := match remoteTag with
    | some tag => "<" ++ session.target.encode ++ ">;tag=" ++ tag
    | none => "<" ++ session.target.encode ++ ">"
  return inDialog localUri session .ack toValue session.inviteCseq branch target

def buildBye (session : Session) (cseq : Nat) (branch : String) (target : SipUri) : Except MediaError SipMessage := do
  validateSipHeaderToken branch
  match session.remoteTag with
  | none => .error (.malformedSip "internal module error: missing remote tag for BYE")
  | some remoteTag =>
    return inDialog localUri session .bye ("<" ++ session.target.encode ++ ">;tag=" ++ remoteTag) cseq branch target

def buildOkResponse : SipMessage := .response ⟨200,"OK"⟩
    ((message.headers.filter fun header => [HeaderName.via,.from,.to,.callId,.cSeq].any header.1.same) ++ [(.contentLength,"0")])
    ByteArray.empty

def contactEntry (entry : List Char) : Option SipUri :=
  let token := trim entry
  match splitOnce ['<'] token with
  | none => (SipUri.parse (String.ofList token)).toOption
  | some (before,behind) =>
    if before.contains '>' then none
    else
      match splitOnce ['>'] behind with
      | none => none
      | some (inner,_) => (SipUri.parse (String.ofList inner)).toOption

def firstContactUri : Except MediaError SipUri :=
  match message.headers.get .contact with
  | none => .error (.malformedSip "missing Contact header")
  | some value =>
    match (split ',' value.toList).findSome? contactEntry with
    | none => .error (.malformedSip "invalid Contact URI")
    | some uri => .ok uri

def tagFromHeader (name : HeaderName) : Option String := do
  let value ← message.headers.get name
  let rest ← SipDialog.afterIgnoreCase ";tag=".toList (trim value.toList)
  return String.ofList (trimMatches '"' (rest.takeWhile fun c => !(c == ';' || c == '<' || c == '>' || isWhitespace c)))

def validateMedia (profile : CompatibilityProfile) (media : SdpMedia) : Option String :=
  match media.formats.find? fun format => !profile.sdpPayloadAllowed format with
  | some format => some ("SDP payload type not permitted by profile: " ++ format)
  | none => media.attributes.findSome? fun
    | .unknown name _ =>
      if profile.sdpAttributeAllowed name then none else some ("SDP attribute not permitted by profile: " ++ name)
    | _ => none

def validateRemoteSdp (sdp : SdpSession) (profile : CompatibilityProfile) : Option String :=
  sdp.media.findSome? (validateMedia profile)

namespace Media

section

variable (media : Media) (sid : MediaSessionId) (session : Session) (message : SipMessage) (remoteTag : String)
  (contact : SipUri)

def removeSession : Option (Session × Media) := (media.sessions.lookup sid).map fun session =>
    (session,{ media with sessions := media.sessions.erase sid, callIndex := media.callIndex.erase session.callId })

/-- The outputs of a call and the state it leaves; a failed call leaves the state as it was. -/
abbrev Outcome := Except MediaError (List MediaOutput × Media)

def nextCseq (cseq : Nat) : Except MediaError Nat :=
  if cseq + 1 < 2 ^ 32 then .ok (cseq + 1) else .error (.invalidState "CSeq overflow")

def doStart (p : StartParams) (offer : Except MediaError String) : Outcome :=
  if media.sessions.keys.length ≥ media.config.maxSessions then .error .sessionTableFull
  else if p.mediaSessionId ∈ media.sessions then .error .alreadyExists
  else
    match built : buildInvite media.config.localSipUri p offer with
    | .error e => .error e
    | .ok invite => .ok ([.sendMessage invite],
        { media with
          sessions := media.sessions.insert p.mediaSessionId ⟨p.mediaSessionId,p.channelId,p.deviceId,p.callId,p.localTag,
            none,p.cseq,p.cseq,p.branch,p.target,none,.inviting,p.mediaAddress,p.mediaPort,buildInvite_branch _ built⟩
          callIndex := media.callIndex.insert p.callId p.mediaSessionId })

def fail (sent : List SipMessage) (reason : String) : Outcome :=
  match media.removeSession sid with
  | none => .error .sessionNotFound
  | some (session,media') =>
    .ok (sent.map .sendMessage ++ [.emitEvent (failedEvent ports session media.config.domainId reason)],media')

def rejectAndTeardown (reason : String) : Outcome := do
  let ack ← buildAck media.config.localSipUri session (some remoteTag) contact (session.branch ++ "-ack")
  let cseq ← nextCseq session.cseq
  let bye ← buildBye media.config.localSipUri { session with remoteTag := some remoteTag, cseq := cseq } cseq
    (session.branch ++ "-bye") contact
  media.fail ports sid [ack,bye] reason

/-- A late 2xx is acknowledged, and its dialog ended when it has a tag. -/
def endLate : Outcome := do
  let ack ← buildAck media.config.localSipUri session (if remoteTag.isEmpty then none else some remoteTag) contact
    (session.branch ++ "-ack-late")
  if remoteTag.isEmpty then media.fail ports sid [ack] "late 200 OK after stop"
  else do
    let cseq ← nextCseq session.cseq
    let bye ← buildBye media.config.localSipUri
      { session with remoteTag := some remoteTag, remoteTarget := some contact, cseq := cseq } cseq
      (session.branch ++ "-bye-late") contact
    media.fail ports sid [ack,bye] "late 200 OK after stop"

def lateTag : String := ((tagFromHeader message .to).or session.remoteTag).getD ""

def onLateSuccess : Outcome := media.endLate ports sid session (lateTag session message)
    (match firstContactUri message with
      | .ok contact => contact
      | .error _ => session.remoteTarget.getD session.target)

variable (sdp : SdpSession)

def remoteAddress : String :=
  ((sdp.connection.or (sdp.media.head?.bind SdpMedia.connection)).map SdpConnection.address).getD ""

def remotePort : Nat := (sdp.media.head?.map SdpMedia.port).getD 0

def remoteProto : String := (sdp.media.head?.map SdpMedia.proto).getD ""

def activate (source : SocketAddr) : Outcome := do
  let ack ← buildAck media.config.localSipUri session (some remoteTag) contact (session.branch ++ "-ack")
  let active := { session with remoteTag := some remoteTag, remoteTarget := some contact, state := .active }
  return ([.sendMessage ack,.emitEvent (.mediaSessionStarted media.config.domainId session.mediaSessionId session.channelId
      session.deviceId source (ports.fromUtf8Lossy message.body) (sdp.media.head?.bind SdpMedia.ySsrc) (remotePort sdp)
      (remoteProto sdp))],
    { media with sessions := media.sessions.insert sid active })

def onAnswer : Outcome :=
  match validateRemoteSdp sdp media.config.compatibility with
  | some reason => media.rejectAndTeardown ports sid session remoteTag contact reason
  | none =>
    match socketAddr ports (remoteAddress sdp) (remotePort sdp) with
    | .error e => media.rejectAndTeardown ports sid session remoteTag contact ("invalid SDP media address: " ++ e.text)
    | .ok source => media.activate ports sid session message remoteTag contact sdp source

def requiredTag : Except MediaError String :=
  match tagFromHeader message .to with
  | some tag => .ok tag
  | none => .error (.malformedSip "missing To tag in 200 OK")

def onFirstSuccess : Outcome := do
  let remoteTag ← requiredTag message
  let contact ← firstContactUri message
  let sdp ← (ports.parseSdp message.body).mapError .malformedSdp
  media.onAnswer ports sid session message remoteTag contact sdp

def onInviteSuccess : Outcome :=
  match media.sessions.lookup sid with
  | none => .error .sessionNotFound
  | some session =>
    match session.state with
    | .active => do
      -- a retransmission may lack the tag; the recorded one stands in for it
      let ack ← buildAck media.config.localSipUri session ((tagFromHeader message .to).or session.remoteTag)
        (session.remoteTarget.getD session.target) (session.branch ++ "-ack")
      return ([.sendMessage ack],media)
    | .inviting => media.onFirstSuccess ports sid session message
    | _ => media.onLateSuccess ports sid session message

def onResponse (code : Nat) (message : SipMessage) : Outcome := do
  let (number,method) ← message.cseq.mapError fun e => .malformedSip e.text
  if method = .invite ∧ (media.sessions.lookup sid).any (·.inviteCseq = number) then
    if 200 ≤ code ∧ code < 300 then media.onInviteSuccess ports sid message
    else if code ≥ 300 then media.fail ports sid [] "invite rejected"
    else .ok ([],media)
  else if method = .bye ∧ code ≥ 200 then
    match media.removeSession sid with
    | some (session,media') => .ok ([.emitEvent (stoppedEvent ports session media.config.domainId)],media')
    | none => .ok ([],media)
  else .ok ([],media)

def onRequest (method : Method) (message : SipMessage) : Outcome :=
  if method = .bye then
    match media.removeSession sid with
    | none => .error .sessionNotFound
    | some (session,media') =>
      .ok ([.sendMessage (buildOkResponse message),.emitEvent (stoppedEvent ports session media.config.domainId)],media')
  else .ok ([],media)

def onMessage : Outcome :=
  match message.callId with
  | none => .error (.malformedSip "missing Call-ID")
  | some callId =>
    match media.callIndex.lookup callId with
    | none =>
      match message.cseq with
      | .ok (_,.bye) => .ok ([],media)
      | .ok (_,.cancel) => .ok ([],media)
      | _ => .error .sessionNotFound
    | some sid =>
      match message with
      | .response line _ _ => media.onResponse ports sid line.code message
      | .request line _ _ => media.onRequest ports sid line.method message

end

end Media

end Gb28181Media

end CheetahSignaling
