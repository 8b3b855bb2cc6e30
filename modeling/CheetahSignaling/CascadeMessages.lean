import CheetahSignaling.CascadeTypes

/-! What the cascade reads from requests and the messages it builds. -/
namespace CheetahSignaling.Cascade

open Str Gb28181

variable (request : SipHeaders) (value : String) (headers : SipHeaders) (code : Nat) (reason responseTag : String)

/-- The bare URI of a header value with display name and parameters. -/
def parseUriFromHeader : Option SipUri :=
  let text := trim value.toList
  let inner : Option (List Char) :=
    match splitOnce ['<'] text with
    | some (_,behind) => (splitOnce ['>'] behind).map Prod.fst
    | none => some (text.takeWhile (· ≠ ';'))
  inner.bind fun uri => (SipUri.parse (String.ofList (trim uri))).toOption

def uriMatches (a b : SipUri) : Bool := eqIgnoreAsciiCase a.host.toList b.host.toList &&
    match b.user with
    | some expected => a.user == some expected
    | none => a.user.isNone

def requestFromMatchesUpstream (upstream : SipUri) : Bool :=
  ((headers.get .from).bind parseUriFromHeader).any (uriMatches · upstream)

def requestToUriMatchesLocal (localUri : SipUri) : Bool :=
  ((headers.get .to).bind parseUriFromHeader).any (uriMatches · localUri)

def requestTargetedAtLocal (line : RequestLine) (headers : SipHeaders) (localUri : SipUri) : Bool :=
  eqIgnoreAsciiCase line.uri.host.toList localUri.host.toList &&
    ((headers.get .to).bind parseUriFromHeader).any fun uri =>
      eqIgnoreAsciiCase uri.host.toList localUri.host.toList

def hasTag : Bool := (split ';' value.toList).any fun param => "tag=".toList.isPrefixOf (trim param)

def trimmed : String := String.ofList (trim value.toList)

def responseHeaders (responseTag : String) : SipHeaders := (request.getAll .via).map (HeaderName.via,·) ++
    ((request.get .from).map (HeaderName.from,·)).toList ++
    ((request.get .to).map fun value =>
      (HeaderName.to,if hasTag value || responseTag.isEmpty then value
        else trimmed value ++ ";tag=" ++ responseTag)).toList ++
    ((request.get .callId).map (HeaderName.callId,·)).toList ++
    ((request.get .cSeq).map (HeaderName.cSeq,·)).toList

def buildResponse : SipMessage :=
  .response ⟨code,reason⟩ (responseHeaders request responseTag ++ [(.contentLength,"0")]) .empty

def buildResponseWith
    (header : HeaderName × String) : SipMessage :=
  .response ⟨code,reason⟩ (responseHeaders request responseTag ++ [(.contentLength,"0"),header]) .empty

def userAgentHeader (config : CascadeConfig) : SipHeaders := (config.userAgent.map (HeaderName.userAgent,·)).toList

section Requests

variable (config : CascadeConfig)

def buildRegisterRequest (callId localTag : String) (cseq : Nat) (branch : String) (expiresSeconds : Nat)
    (auth : Option String) : Except CascadeError SipMessage := do
  validateToken callId
  validateToken localTag
  validateToken branch
  let via ← liftSip (HeaderValue.via "UDP" config.localUri.host config.localPort branch)
  let fromValue ← liftSip (HeaderValue.fromUri config.localUri localTag)
  return .request ⟨.register,config.upstream⟩
    ([(.via,via),(.from,fromValue),(.to,HeaderValue.toUri config.localUri),(.callId,callId),
        (.cSeq,HeaderValue.cseq cseq .register),(.contact,HeaderValue.contactUri config.localUri),
        (.maxForwards,"70"),(.expires,toString expiresSeconds)] ++ userAgentHeader config ++
      (auth.map (HeaderName.authorization,·)).toList ++ [(.contentLength,"0")]) .empty

variable (callId : String) (cseq : Nat) (localTag branch : String)

def buildMessage (extra : SipHeaders)
    (body : String) : Except CascadeError SipMessage := do
  let via ← liftSip (HeaderValue.via "UDP" config.localUri.host config.localPort branch)
  let fromValue ← liftSip (HeaderValue.fromUri config.localUri localTag)
  return .request ⟨.message,config.upstream⟩
    ([(.via,via),(.from,fromValue),(.to,HeaderValue.toUri config.upstream),(.callId,callId),
        (.cSeq,HeaderValue.cseq cseq .message),(.contentType,"Application/MANSCDP+xml"),(.maxForwards,"70")] ++
      userAgentHeader config ++ extra ++ [(.contentLength,toString body.utf8ByteSize)]) body.toUTF8

def buildKeepaliveMessage (sn : Nat) : Except CascadeError SipMessage := do
  validateToken callId
  validateToken localTag
  validateToken branch
  let body ← (Gb28181.buildKeepalive (toString sn) config.platformId "OK").mapError fun e =>
    CascadeError.failure ("failed to encode keepalive XML: " ++ e.text)
  buildMessage config callId cseq localTag branch [] body

def buildCatalogMessage (localTag branch catalogXml : String) : Except CascadeError SipMessage := do
  validateToken callId
  validateToken localTag
  validateToken branch
  buildMessage config callId cseq localTag branch [] catalogXml

end Requests

def afterTag : List Char → Option (List Char)
  | [] => none
  | c :: s => if eqIgnoreAsciiCase ((c :: s).take 5) ";tag=".toList then some (s.drop 4) else afterTag s

def extractTag (value : String) : Option String := (afterTag value.toList).bind fun rest =>
    let tag := trimMatches '"'
      (rest.takeWhile fun c => !(c == ';' || c == '<' || c == '>' || isWhitespace c))
    if tag = [] then none else some (String.ofList tag)

variable (config : CascadeConfig) (bridge : Bridge)

def bridgeTo : String :=
  if contains "tag=".toList bridge.upstreamTo.toList then bridge.upstreamTo
  else trimmed bridge.upstreamTo ++ ";tag=" ++ bridge.bridgeId

def buildInviteResponseFromBridge (localUri : SipUri) (bridge : Bridge) (code : Nat) (reason body : String) :
    SipMessage :=
  .response ⟨code,reason⟩
    (bridge.upstreamVia.map (HeaderName.via,·) ++
      [(.from,bridge.upstreamFrom),(.to,bridgeTo bridge),(.callId,bridge.upstreamCallId),
        (.cSeq,HeaderValue.cseq bridge.upstreamCseq .invite)] ++
      (if body.isEmpty then [] else [(.contentType,"application/sdp")]) ++
      [(.contact,HeaderValue.contactUri localUri),(.contentLength,toString body.utf8ByteSize)]) body.toUTF8

def buildByeFromBridge (cseq : Nat) (branch : String) : Except CascadeError SipMessage := do
  validateToken branch
  let target ← match parseUriFromHeader bridge.upstreamFrom with
    | some uri => .ok uri
    | none => .error (.failure "cannot parse upstream From URI for BYE")
  let remoteTag := (extractTag bridge.upstreamFrom).getD ""
  let via ← liftSip (HeaderValue.via "UDP" config.localUri.host config.localPort branch)
  return .request ⟨.bye,target⟩
    [(.via,via),(.from,"<" ++ config.localUri.encode ++ ">;tag=" ++ bridge.bridgeId),
      (.to,"<" ++ target.encode ++ ">;tag=" ++ remoteTag),(.callId,bridge.upstreamCallId),
      (.cSeq,toString cseq ++ " BYE"),(.contact,HeaderValue.contactUri config.localUri),(.maxForwards,"70"),
      (.contentLength,"0")] .empty

def playStopped (bridgeId reason : String) : CascadeOutput :=
  .emitEvent (.cascadePlayStopped config.domainId config.platformId bridgeId reason)

def platformDisconnected (reason : String) : CascadeOutput :=
  .emitEvent (.cascadePlatformDisconnected config.domainId config.platformId reason)

end CheetahSignaling.Cascade
