import CheetahSignaling.CascadeBridge
import CheetahSignaling.CascadeReport
import CheetahSignaling.DigestClient

/-! Catalog queries and the cascade machine as a whole: one input, the outputs it leads to, and the
machine afterwards. -/
namespace CheetahSignaling.Cascade

open Gb28181

variable {E : Type}

section Catalog

variable (config : CascadeConfig) (ports : Ports E)

def catalogMessage (now : Nat) (query : CatalogQuery) (sumNum : Nat) (items : List Gb28181.CatalogItem)
    (s : Counted E) : Except CascadeError SipMessage × Counted E :=
  let n := toString (s.requestCounter + 1)
  let callId := config.platformId ++ "-" ++ toString now ++ "-" ++ n
  let built := do
    let xml ← (Gb28181.buildCatalogResponse query.sn query.deviceId sumNum items).mapError fun e =>
      CascadeError.failure ("XML encode failed: " ++ e.text)
    buildCatalogMessage config callId 0 callId ("z9hG4bK-" ++ callId ++ "-0-" ++ n) xml
  (built,{ s with requestCounter := s.requestCounter + 1 })

/-- The loop of `build_catalog_pages`; `remaining` pages may still be asked for. -/
def catalogPages (provider : E → CatalogQuery → Option String → Nat → Except String CatalogPage × E)
    (now : Nat) (query : CatalogQuery) (limit maxTotal : Nat) :
    Nat → Option String → Counted E → Except CascadeError (List SipMessage) × Counted E
  | 0, _, s => (.ok [],s)
  | remaining + 1, cursor, s =>
    match provider s.part query cursor limit with
    | (.error e,env) => (.error (.failure e),{ s with part := env })
    | (.ok page,env) =>
      let s : Counted E := { s with part := env }
      let items := page.items.take limit
      if items = [] ∧ cursor.isSome then (.ok [],s)
      else
        let sumNum := if items = [] then 0 else min (min page.total maxTotal) (2 ^ 32 - 1)
        match catalogMessage config now query sumNum items s with
        | (.error e,s) => (.error e,s)
        | (.ok message,s) =>
          if items = [] ∨ page.nextCursor.isNone ∨ remaining = 0 then (.ok [message],s)
          else
            match catalogPages provider now query limit maxTotal remaining page.nextCursor s with
            | (.error e,s) => (.error e,s)
            | (.ok messages,s) => (.ok (message :: messages),s)

def buildUnauthorizedResponse (headers : SipHeaders) (responseTag challenge : String) : SipMessage :=
  .response ⟨401,"Unauthorized"⟩
    (responseHeaders headers responseTag ++ [(.wwwAuthenticate,challenge),(.contentLength,"0")]) .empty

def checkCatalogAuthorization (now : Nat) (line : RequestLine) (headers : SipHeaders) (responseTag : String)
    (env : E) : Option SipMessage × E :=
  if !config.catalogInboundDigest then (none,env)
  else
    match ports.passwordFor env (config.catalogInboundDigestCredentialRef.getD config.credentialRef) with
    | none => (some (buildResponse headers 403 "Forbidden" responseTag),env)
    | some password =>
      let (valid,env) := match headers.get .authorization with
        | some header => ports.validateInbound env header line.method line.uri.encode password now
        | none => (false,env)
      if valid then (none,env)
      else
        match ports.inboundChallenge now with
        | .ok challenge => (some (buildUnauthorizedResponse headers responseTag challenge),env)
        | .error _ => (some (buildResponse headers 500 "Server Internal Error" responseTag),env)

def answerCatalogQuery (provider : E → CatalogQuery → Option String → Nat → Except String CatalogPage × E)
    (now : Nat) (headers : SipHeaders) (body : ByteArray) (responseTag : String) (s : Counted E) :
    List CascadeOutput × Counted E :=
  let respond (code : Nat) (reason : String) : CascadeOutput :=
    .sendResponse (buildResponse headers code reason responseTag)
  let readable := (headers.get .contentType).any fun value =>
    Str.contains "MANSCDP".toList value.toList || Str.contains "xml".toList value.toList
  if !readable then ([respond 200 "OK"],s)
  else
    match Gb28181.parseCatalogQuery ports.crates body with
    | .error _ => ([respond 400 "Bad Request"],s)
    | .ok (sn,deviceId) =>
      if deviceId ≠ config.platformId then ([respond 400 "Catalog target DeviceID mismatch"],s)
      else
        let limit := CascadeConfig.clamp config.catalogMaxItemsPerPacket 1 10000
        let pages := CascadeConfig.clamp config.catalogMaxQueryPages 1 10000
        match catalogPages config provider now ⟨sn,deviceId,config.catalogFilter⟩ limit (limit * pages) pages none s with
        | (.ok messages,s) => (respond 200 "OK" :: messages.map CascadeOutput.sendRequest,s)
        | (.error _,s) => ([respond 500 "Server Internal Error"],s)

def handleCatalogRequest (registered : Bool) (now : Nat) (line : RequestLine) (headers : SipHeaders)
    (body : ByteArray) (s : Counted E) : List CascadeOutput × Counted E :=
  match ports.catalogProvider with
  | none => ([],s)
  | some provider =>
    if line.method ≠ .message then ([],s)
    else
      let (responseTag,s) := nextTag config now s
      if (headers.get .callId).isNone then
        ([.sendResponse (buildResponse headers 400 "Bad Request" responseTag)],s)
      else if !(registered && uriMatches line.uri config.localUri &&
          requestToUriMatchesLocal headers config.localUri && requestFromMatchesUpstream headers config.upstream) then
        ([.sendResponse (buildResponse headers 403 "Forbidden" responseTag)],s)
      else
        let (rejection,env) := checkCatalogAuthorization config ports now line headers responseTag s.part
        let s : Counted E := { s with part := env }
        match rejection with
        | some response => ([.sendResponse response],s)
        | none => answerCatalogQuery config ports provider now headers body responseTag s

end Catalog

inductive CascadeEvent where
  | register
  | deregister
  | request (message : SipMessage)
  | response (message : SipMessage)
  | bridgeMediaReady (bridgeId answerSdp : String)
  | bridgeMediaStop (bridgeId : String)
  | tick
  | report (event : Gb28181Event)

structure CascadeInput where
  now : Nat
  event : CascadeEvent

namespace Machine

variable {α : Type}

/-! A handler runs on its part of the machine and the shared counter. -/

def onRegistrar (x : Counted Registrar → α × Counted Registrar) (m : Machine E) : α × Machine E :=
  let (a,s) := x ⟨m.requestCounter,m.registrar⟩
  (a,{ m with requestCounter := s.requestCounter,registrar := s.part })

def onBridges (x : BridgeSide → α × BridgeSide) (m : Machine E) : α × Machine E :=
  let (a,s) := x ⟨m.requestCounter,m.bridges⟩
  (a,{ m with requestCounter := s.requestCounter,bridges := s.part })

def onNotifier (x : Notifier → α × Notifier) (m : Machine E) : α × Machine E :=
  let (a,s) := x ⟨m.requestCounter,m.registrar.subscriptions⟩
  (a,{ m with requestCounter := s.requestCounter,registrar := { m.registrar with subscriptions := s.part } })

def onReports (x : Reporter → α × Reporter) (m : Machine E) : α × Machine E :=
  let (a,s) := x ⟨m.requestCounter,m.reports⟩
  (a,{ m with requestCounter := s.requestCounter,reports := s.part })

def onEnv (x : Counted E → α × Counted E) (m : Machine E) : α × Machine E :=
  let (a,s) := x ⟨m.requestCounter,m.env⟩
  (a,{ m with requestCounter := s.requestCounter,env := s.part })

def registered (m : Machine E) : Bool := m.registrar.state.isRegistered

end Machine

section Process

variable (config : CascadeConfig) (ports : Ports E)

variable (m : Machine E) (input : CascadeInput) (now : Nat)

def onRequest (msg : SipMessage) (m : Machine E) : List CascadeOutput × Machine E :=
  match msg with
  | .response _ _ _ => ([],m)
  | .request line headers body =>
    match line.method with
    | .invite | .ack | .bye | .cancel =>
      m.onBridges (handleBridgeRequest config ports m.registered now msg line headers body)
    | .subscribe => m.onNotifier (handleSubscribe config m.registered now line headers)
    | _ => m.onEnv (handleCatalogRequest config ports m.registered now line headers body)

/-- The steps of a tick one after the other; the first error ends it. -/
def onTick (m : Machine E) : Outcome (Machine E) :=
  match m.onBridges (onBridgeTick config now) with
  | (.error e,m) => (.error e,m)
  | (.ok bridgeOutputs,m) =>
    let (subscriptionOutputs,m) := m.onNotifier (onSubscriptionTick config now)
    match m.onRegistrar (onRegistrationTick config ports m.env now) with
    | (.error e,m) => (.error e,m)
    | (.ok registrationOutputs,m) =>
      match m.onReports (flush config m.registered now) with
      | (.error e,m) => (.error e,m)
      | (.ok reportOutputs,m) =>
        (.ok (bridgeOutputs ++ subscriptionOutputs ++ registrationOutputs ++ reportOutputs),m)

def process : Outcome (Machine E) :=
  let now := input.now
  match input.event with
  | .register => m.onRegistrar (onRegister config ports m.env now)
  | .deregister => m.onRegistrar (onDeregister config ports m.env now)
  | .request msg =>
    let (outputs,m) := onRequest config ports now msg m
    (.ok outputs,m)
  | .response msg => m.onRegistrar (onResponse config ports m.env now msg)
  | .bridgeMediaReady bridgeId answerSdp => m.onBridges (onMediaReady config ports bridgeId answerSdp)
  | .bridgeMediaStop bridgeId => m.onBridges (onMediaStop config now bridgeId)
  | .report event => m.onReports (enqueue config ports now event)
  | .tick => onTick config ports now m

def step : Machine E := (process config ports m input).2

def emitted : List CascadeOutput :=
  match (process config ports m input).1 with
  | .ok outputs => outputs
  | .error _ => []

end Process

/-- `Gb28181Cascade::new`: the configuration is sanitized once more. -/
def start (config : CascadeConfig) (env : E) : Except CascadeError (CascadeConfig × Machine E) := do
  let config ← config.sanitize
  return (config,.new env)

/-! A small platform for worked runs: one password, two SDP texts, no catalog. -/
namespace Sample

def localUri : SipUri := ⟨.sip,some "34020000002000000001",none,"10.0.0.2",none,[]⟩

def upstream : SipUri := ⟨.sip,some "34020000002000000002",none,"up.example",none,[]⟩

def config : CascadeConfig := .preset "domain" localUri upstream "3402000000" "ref" 3600 60 false

def offerSdp : String :=
  "v=0\r\no=- 0 0 IN IP4 10.0.0.1\r\ns=Play\r\nc=IN IP4 10.0.0.1\r\nt=0 0\r\nm=video 10000 RTP/AVP 96\r\n" ++
  "a=rtpmap:96 PS/90000\r\n"

def answerSdp : String := "v=0\r\no=- 0 0 IN IP4 192.168.1.1\r\ns=Play\r\nc=IN IP4 192.168.1.1\r\nt=0 0\r\n" ++
  "m=video 20000 RTP/AVP 96\r\na=rtpmap:96 PS/90000\r\n"

def crypto : SipDigest.Crypto := SipDigest.Sample.crypto

def ports : Ports Unit where
  passwordFor _ _ := some "secret"
  parseChallenge value := (DigestChallenge.parse value).mapError fun _ => "malformed challenge"
  deriveCnonce password seed := .ok (String.ofList
    (crypto.encode ((crypto.hmacSha256 password.toUTF8.data.toList seed.toUTF8.data.toList).take 16)))
  authorize client username password method uri challenge cnonce :=
    ((client.authorize crypto username password method uri challenge cnonce).map fun done =>
      (done.1.toHeaderValue,done.2)).mapError
      fun _ => "authorization failed"
  stableHash _ _ := 0
  alarmHash _ _ _ _ := ""
  parseSdp text := text = offerSdp || text = answerSdp
  crates := .utf8 []
  validateInbound env _ _ _ _ _ := (false,env)
  inboundChallenge now := .ok
    (((SipDigest.Sample.server.generateChallenge crypto now.toUInt64).1).toHeaderValue)
  catalogProvider := none

def registerResponse (code cseq : Nat) (extra : SipHeaders) : SipMessage := .response ⟨code,""⟩
    ([(.callId,"34020000002000000001-1-1"),(.cSeq,HeaderValue.cseq cseq .register)] ++ extra) .empty

end Sample

end CheetahSignaling.Cascade
