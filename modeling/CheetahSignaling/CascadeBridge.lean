import CheetahSignaling.CascadeRegistration

/-! Upstream play bridges: the INVITE dialogs that the upstream platform opens. The machine only
holds the dialog; the application is told by an event when a play is asked for and when it has
stopped, and answers with the SDP or with a stop. -/
namespace CheetahSignaling.Cascade

namespace Bridges

def put (b : Bridges) (bridge : Bridge) : Bridges := { b with table := b.table.put bridge }

def drop (b : Bridges) (callId : String) : Bridges := { b with table := b.table.remove callId }

end Bridges

abbrev BridgeSide := Counted Bridges

def BridgeSide.put (s : BridgeSide) (bridge : Bridge) : BridgeSide := { s with part := s.part.put bridge }

def BridgeSide.drop (s : BridgeSide) (callId : String) : BridgeSide := { s with part := s.part.drop callId }

variable {E : Type}

section

variable (config : CascadeConfig) (ports : Ports E)

structure Offer where
  callId : String
  cseq : Nat
  (targetUser remoteSdp : String)

def parseOffer (msg : SipMessage) (line : RequestLine) (body : ByteArray) (callId : String) (bridges : Nat) :
    Except (Nat × String) Offer :=
  match msg.cseq with
  | .error _ => .error badRequest
  | .ok (cseq,_) =>
    match line.uri.user with
    | none => .error badRequest
    | some user =>
      if user.isEmpty then .error badRequest
      else
        match String.fromUTF8? body with
        | none => .error badRequest
        | some sdp =>
          if !ports.parseSdp sdp then .error badRequest
          else if config.sdpEndpointPolicy.any fun allowed => !allowed sdp then .error badRequest
          else if bridges ≥ config.mediaBridgeMaxSessions then .error (486,"Busy Here")
          else .ok ⟨callId,cseq,user,sdp⟩

def respond (now : Nat) (headers : SipHeaders) (code : Nat) (reason : String) (s : BridgeSide) :
    List CascadeOutput × BridgeSide :=
  let (tag,s) := nextTag config now s
  ([.sendResponse (buildResponse headers code reason tag)],s)

def Offer.bridge (offer : Offer) (now : Nat) (headers : SipHeaders) (bridgeId : String) : Bridge where
  bridgeId := bridgeId
  upstreamCallId := offer.callId
  upstreamFrom := (headers.get .from).getD ""
  upstreamTo := (headers.get .to).getD ""
  upstreamVia := headers.getAll .via
  upstreamCseq := offer.cseq
  state := .invited
  expiresAt := saturatingAdd now config.mediaBridgeTransactionTimeoutSeconds

def openBridge (now : Nat) (headers : SipHeaders) (offer : Offer) (s : BridgeSide) : List CascadeOutput × BridgeSide :=
  let n := s.part.bridgeCounter + 1
  let bridge := offer.bridge config now headers (config.platformId ++ "-bridge-" ++ toString n)
  let s : BridgeSide := { s with part := Bridges.put { s.part with bridgeCounter := n } bridge }
  let (tag,s) := nextTag config now s
  ([.sendResponse (buildResponse headers 100 "Trying" tag),
      .emitEvent (.cascadePlayRequested config.domainId config.platformId bridge.bridgeId offer.callId
        bridge.upstreamFrom bridge.upstreamTo offer.targetUser offer.remoteSdp)],s)

def handleInvite (registered : Bool) (now : Nat) (msg : SipMessage) (line : RequestLine) (headers : SipHeaders)
    (body : ByteArray) (s : BridgeSide) : List CascadeOutput × BridgeSide :=
  if !registered then respond config now headers 403 "Forbidden" s
  else if !requestFromMatchesUpstream headers config.upstream then respond config now headers 403 "Forbidden" s
  -- A request for another platform is dropped without an answer.
  else if !requestTargetedAtLocal line headers config.localUri then ([],s)
  else
    match headers.get .callId with
    | none => respond config now headers 400 "Bad Request" s
    | some callId =>
      match s.part.table.find callId with
      | some bridge =>
        if bridge.state = .invited then respond config now headers 100 "Trying" s else ([],s)
      | none =>
        match parseOffer config ports msg line body callId s.part.table.rows.length with
        | .error (code,reason) => respond config now headers code reason s
        | .ok offer => openBridge config now headers offer s

def bye (bridge : Bridge) (s : BridgeSide) : Except CascadeError SipMessage × BridgeSide :=
  let (cseq,s) := nextCseq s
  let (branch,s) := nextBranch bridge.upstreamCallId cseq s
  (buildByeFromBridge config bridge cseq branch,s)

section

variable (headers : SipHeaders) (now : Nat) (callId : String) (s : BridgeSide)

/-- The deadline of an active bridge; a timeout of zero disables it. -/
def activeDeadline : Nat :=
  if config.mediaBridgeActiveTimeoutSeconds = 0 then 2 ^ 64 - 1
  else saturatingAdd now config.mediaBridgeActiveTimeoutSeconds

def handleAck : List CascadeOutput × BridgeSide :=
  match s.part.table.find callId with
  | none => ([],s)
  | some bridge =>
    match bridge.state with
    | .accepted => ([],s.put { bridge with state := .active,expiresAt := activeDeadline config now })
    | .closing =>
      -- A stop came while the ACK was outstanding; a bridge whose BYE cannot be built stays.
      match bye config bridge s with
      | (.ok request,s) =>
        ([.sendRequest request,playStopped config bridge.bridgeId "downstream media stop"],s.drop callId)
      | (.error _,s) => ([],s)
    | .invited | .active => ([],s)

def handleBye : List CascadeOutput × BridgeSide :=
  match s.part.table.find callId with
  | none => ([],s)
  | some bridge =>
    ([.sendResponse (buildResponse headers 200 "OK" ""),playStopped config bridge.bridgeId "upstream BYE"],
      s.drop callId)

def handleCancel : List CascadeOutput × BridgeSide :=
  match s.part.table.find callId with
  | none => ([],s)
  | some bridge =>
    let ok := CascadeOutput.sendResponse (buildResponse headers 200 "OK" "")
    if bridge.state ≠ .invited then ([ok],s)
    else
      ([ok,.sendResponse (buildInviteResponseFromBridge config.localUri bridge 487 "Request Terminated" ""),
          playStopped config bridge.bridgeId "upstream CANCEL"],s.drop callId)

end

def handleBridgeRequest (registered : Bool) (now : Nat) (msg : SipMessage) (line : RequestLine)
    (headers : SipHeaders) (body : ByteArray) (s : BridgeSide) : List CascadeOutput × BridgeSide :=
  if line.method = .invite then handleInvite config ports registered now msg line headers body s
  else if !(requestTargetedAtLocal line headers config.localUri &&
      requestFromMatchesUpstream headers config.upstream) then ([],s)
  else
    match headers.get .callId with
    | none => ([],s)
    | some callId =>
      match line.method with
      | .ack => handleAck config now callId s
      | .bye => handleBye config headers callId s
      | .cancel => handleCancel config headers callId s
      | _ => ([],s)

def onMediaReady (bridgeId answerSdp : String) (s : BridgeSide) : Outcome BridgeSide :=
  match validateToken bridgeId with
  | .error e => (.error e,s)
  | .ok () =>
    match s.part.table.rows.find? fun bridge => bridge.bridgeId = bridgeId with
    | none => (.ok [],s)
    | some bridge =>
      if bridge.state ≠ .invited then (.ok [],s)
      else if !ports.parseSdp answerSdp then
        (.error (.failure "application supplied malformed answer SDP"),s)
      else
        (.ok [.sendResponse (buildInviteResponseFromBridge config.localUri bridge 200 "OK" answerSdp)],
          s.put { bridge with state := .accepted })

def onMediaStop (now : Nat) (bridgeId : String) (s : BridgeSide) : Outcome BridgeSide :=
  match validateToken bridgeId with
  | .error e => (.error e,s)
  | .ok () =>
    match s.part.table.rows.find? fun bridge => bridge.bridgeId = bridgeId with
    | none => (.ok [],s)
    | some bridge =>
      let stopped := playStopped config bridge.bridgeId "downstream media stop"
      match bridge.state with
      | .accepted =>
        let expiresAt := saturatingAdd now config.mediaBridgeTransactionTimeoutSeconds
        (.ok [],s.put { bridge with state := .closing,expiresAt := expiresAt })
      | .invited =>
        (.ok [.sendResponse (buildInviteResponseFromBridge config.localUri bridge 486 "Busy Here" ""),stopped],
          s.drop bridge.upstreamCallId)
      | .active =>
        match bye config bridge (s.drop bridge.upstreamCallId) with
        | (.ok request,s) => (.ok [.sendRequest request,stopped],s)
        | (.error e,s) => (.error e,s)
      | .closing => (.ok [stopped],s.drop bridge.upstreamCallId)

def expireBridge (now : Nat) (bridge : Bridge) (s : BridgeSide) : Outcome BridgeSide :=
  let stopped := playStopped config bridge.bridgeId
  match bridge.state with
  | .invited =>
    (.ok [.sendResponse (buildInviteResponseFromBridge config.localUri bridge 487 "Request Terminated" ""),
      stopped "transaction timeout"],s.drop bridge.upstreamCallId)
  | .accepted => (.ok [stopped "transaction timeout"],s.drop bridge.upstreamCallId)
  | .active =>
    if config.mediaBridgeActiveTimeoutSeconds > 0 ∧ now ≥ bridge.expiresAt then
      match bye config bridge s with
      | (.ok request,s) =>
        (.ok [.sendRequest request,stopped "active timeout"],s.drop bridge.upstreamCallId)
      | (.error e,s) => (.error e,s)
    else (.ok [],s)
  | .closing => (.ok [stopped "downstream media stop"],s.drop bridge.upstreamCallId)

def expireBridges (now : Nat) : List Bridge → BridgeSide → Outcome BridgeSide
  | [], s => (.ok [],s)
  | bridge :: rest, s =>
    match expireBridge config now bridge s with
    | (.error e,s) => (.error e,s)
    | (.ok outputs,s) =>
      match expireBridges now rest s with
      | (.error e,s) => (.error e,s)
      | (.ok more,s) => (.ok (outputs ++ more),s)

/-- `bridge::on_tick`, over a snapshot of the bridges past their deadline. -/
def onBridgeTick (now : Nat) (s : BridgeSide) : Outcome BridgeSide :=
  expireBridges config now (s.part.table.rows.filter fun bridge => now ≥ bridge.expiresAt) s

end

end CheetahSignaling.Cascade
