import CheetahSignaling.Digest
import CheetahSignaling.Gb28181Xml
import CheetahSignaling.Sip
import CheetahSignaling.SortedTable
import CheetahSignaling.Types
import Mathlib.Data.String.Basic

/-! The configuration of an upstream platform and the state of the cascade machine. What the
machine asks of its surroundings is collected in `Ports`: passwords, digest computations, SDP
parsing, the shared catalog and the hash of the jitter. Counters are unbounded. -/
namespace CheetahSignaling.Cascade

inductive CascadeError where
  | invalidState (message : String)
  | malformedSip (message : String)
  | noCredentials
  | authenticationFailed (message : String)
  | internal (message : String)

namespace CascadeError

section

variable (message : String)

def clampCascadeMessage : String := clampStr message 1024

def malformed : CascadeError := .malformedSip (clampCascadeMessage message)

def rejected : CascadeError := .authenticationFailed (clampCascadeMessage message)

def failure : CascadeError := .internal (clampCascadeMessage message)

end

def text : CascadeError → String
  | .invalidState message => "invalid cascade state: " ++ message
  | .malformedSip message => "malformed SIP message: " ++ message
  | .noCredentials => "no credentials for upstream platform"
  | .authenticationFailed message => "authentication error: " ++ message
  | .internal message => "internal cascade error: " ++ message

end CascadeError

def liftSip (x : Except SipError α) : Except CascadeError α := x.mapError fun e => .malformed (SipError.text e)

/-- Rejects values that would begin another header line. -/
def validateToken (value : String) : Except CascadeError Unit :=
  if value.toList.contains '\r' || value.toList.contains '\n' then
    .error (.failure "SIP header token contains forbidden line break")
  else .ok ()

structure CatalogFilter where
  tenantId : Option String
  (whitelistedDeviceIds tags : List String)
  orgPathPrefix : Option String

namespace CatalogFilter

def default : CatalogFilter := ⟨none,[],[],none⟩

def checkLen (bytes max : Nat) (what unit : String) : Except CascadeError Unit :=
  if bytes > max then .error (.failure ("catalog_filter." ++ what ++ " exceeds " ++ toString max ++ unit))
  else .ok ()

def validate (filter : CatalogFilter) : Except CascadeError Unit := do
  filter.tenantId.toList.forM fun id => checkLen id.utf8ByteSize 256 "tenant_id" " bytes"
  checkLen filter.whitelistedDeviceIds.length 1024 "whitelisted_device_ids" " entries"
  filter.whitelistedDeviceIds.forM fun id =>
    checkLen id.utf8ByteSize 256 "whitelisted_device_ids entry" " bytes"
  checkLen filter.tags.length 1024 "tags" " entries"
  filter.tags.forM fun tag => checkLen tag.utf8ByteSize 128 "tags entry" " bytes"
  filter.orgPathPrefix.toList.forM fun path => checkLen path.utf8ByteSize 512 "org_path_prefix" " bytes"

end CatalogFilter

structure CascadeConfig where
  domainId : String
  (localUri upstream : SipUri)
  (realm credentialRef : String)
  (registerIntervalSeconds registerRefreshMarginSeconds maxRetries baseBackoffMs maxBackoffMs : Nat)
  (jitterMs transactionTimeoutSeconds : Nat)
  allowMd5 : Bool
  sdpEndpointPolicy : Option (String → Bool)
  (keepaliveIntervalSeconds keepaliveTimeoutSeconds keepaliveMaxFailures : Nat)
  (catalogMaxItemsPerPacket catalogMaxQueryPages mediaBridgeMaxSessions : Nat)
  (mediaBridgeTransactionTimeoutSeconds mediaBridgeActiveTimeoutSeconds : Nat)
  catalogFilter : CatalogFilter
  (userAgent catalogInboundDigestCredentialRef : Option String)
  /-- Whether a server secret for challenging catalog queries is configured. -/
  catalogInboundDigest : Bool
  (reportMaxQueueSize subscriptionMaxSubscriptions subscriptionDefaultExpirySeconds : Nat)
  (subscriptionMinExpirySeconds subscriptionMaxExpirySeconds : Nat)

/-- The checks of the network-zone policy on the two endpoints. -/
structure EndpointChecks where
  explicitHost : String → Except String Unit
  upstreamAllowed : Bool → SipUri → Except String Unit

namespace CascadeConfig

def clamp (n low high : Nat) : Nat := if n < low then low else if high < n then high else n

variable (config : CascadeConfig)

/-- The limits that `sanitize` puts on the numbers. -/
def clampLimits : CascadeConfig :=
  let base := clamp config.baseBackoffMs 0 3600000
  let low := clamp config.subscriptionMinExpirySeconds 0 2592000
  let high := clamp config.subscriptionMaxExpirySeconds 0 2592000
  let preset := clamp config.subscriptionDefaultExpirySeconds 0 2592000
  { config with
    catalogMaxItemsPerPacket := clamp config.catalogMaxItemsPerPacket 1 10000
    catalogMaxQueryPages := clamp config.catalogMaxQueryPages 1 10000
    mediaBridgeMaxSessions := clamp config.mediaBridgeMaxSessions 0 10000
    subscriptionMaxSubscriptions := clamp config.subscriptionMaxSubscriptions 0 10000
    reportMaxQueueSize := clamp config.reportMaxQueueSize 0 10000
    maxRetries := clamp config.maxRetries 0 100
    baseBackoffMs := base
    maxBackoffMs := clamp config.maxBackoffMs base 3600000
    jitterMs := clamp config.jitterMs 0 60000
    subscriptionMinExpirySeconds := min low high
    subscriptionMaxExpirySeconds := max low high
    subscriptionDefaultExpirySeconds := clamp preset (min low high) (max low high) }

def sanitize : Except CascadeError CascadeConfig := do
  let config := config.clampLimits
  match config.userAgent with
  | some agent =>
    if agent.utf8ByteSize > 256 then .error (.failure "user_agent exceeds 256 bytes") else validateToken agent
  | none => .ok ()
  config.catalogFilter.validate
  return config

/-- The configuration of `with_options` before `sanitize`. -/
def preset (domainId : String) (localUri upstream : SipUri) (realm credentialRef : String)
    (registerIntervalSeconds registerRefreshMarginSeconds : Nat) (allowMd5 : Bool) : CascadeConfig where
  domainId := domainId
  localUri := localUri
  upstream := upstream
  realm := realm
  credentialRef := credentialRef
  registerIntervalSeconds := registerIntervalSeconds
  registerRefreshMarginSeconds := registerRefreshMarginSeconds
  maxRetries := 5
  baseBackoffMs := 1000
  maxBackoffMs := 60000
  jitterMs := 1000
  transactionTimeoutSeconds := 32
  allowMd5 := allowMd5
  sdpEndpointPolicy := none
  keepaliveIntervalSeconds := 30
  keepaliveTimeoutSeconds := 10
  keepaliveMaxFailures := 3
  catalogMaxItemsPerPacket := 100
  catalogMaxQueryPages := 1000
  mediaBridgeMaxSessions := 1000
  mediaBridgeTransactionTimeoutSeconds := 60
  mediaBridgeActiveTimeoutSeconds := 604800
  catalogFilter := .default
  userAgent := none
  catalogInboundDigestCredentialRef := none
  catalogInboundDigest := false
  reportMaxQueueSize := 1000
  subscriptionMaxSubscriptions := 1000
  subscriptionDefaultExpirySeconds := 3600
  subscriptionMinExpirySeconds := 60
  subscriptionMaxExpirySeconds := 86400

def withOptions (checks : EndpointChecks) (domainId : String) (localUri upstream : SipUri)
    (realm credentialRef : String) (registerIntervalSeconds registerRefreshMarginSeconds : Nat)
    (allowMd5 allowInternalUpstreams : Bool) : Except CascadeError CascadeConfig :=
  if registerIntervalSeconds = 0 then
    .error (.failure "register_interval_seconds must be greater than zero")
  else if registerRefreshMarginSeconds = 0 then
    .error (.failure "register_refresh_margin_seconds must be greater than zero")
  else do
    validateToken realm
    validateToken credentialRef
    validateToken (localUri.user.getD "")
    validateToken upstream.host
    (checks.explicitHost localUri.host).mapError fun e =>
      .failure ("local advertised host is not explicit: " ++ e)
    (checks.upstreamAllowed allowInternalUpstreams upstream).mapError fun e =>
      .failure ("invalid upstream endpoint: " ++ e)
    sanitize (preset domainId localUri upstream realm credentialRef registerIntervalSeconds
      registerRefreshMarginSeconds allowMd5)

def platformId : String := config.localUri.user.getD config.localUri.host

def localPort : Nat := config.localUri.port.getD 5060

end CascadeConfig

structure AuthorizationContext where
  challenge : DigestChallenge
  client : DigestClient

structure Keepalive where
  nextAt : Nat
  pendingUntil : Option Nat
  (failures sn : Nat)
  callId : String
  cseq : Nat
deriving DecidableEq

structure Registered where
  cseq : Nat
  (callId localTag : String)
  refreshAt : Nat
  challenge : Option DigestChallenge
  keepalive : Keepalive
deriving DecidableEq

structure Registering where
  cseq : Nat
  (branch callId localTag : String)
  (attempt startedAt : Nat)
  (authenticated isDeregister : Bool)
  previous : Option Registered
  challenge : Option DigestChallenge
deriving DecidableEq

inductive State where
  | idle
  | registering (reg : Registering)
  | registered (reg : Registered)
  | failed (retryAt attempt : Nat)
  | deregistering (reg : Registering)
deriving DecidableEq

def State.isRegistered : State → Bool
  | .registered _ => true
  | _ => false

inductive BridgeState where
  | invited
  | accepted
  | active
  | closing
deriving DecidableEq

structure Bridge where
  (bridgeId upstreamCallId upstreamFrom upstreamTo : String)
  upstreamVia : List String
  upstreamCseq : Nat
  state : BridgeState
  expiresAt : Nat
deriving DecidableEq

structure PendingNotify where
  cseq : Nat
  branch : String
  (sentAt retryCount : Nat)

structure Subscription where
  (callId localTag remoteTag : String)
  remoteUri : SipUri
  eventPackage : String
  (expiresAt nextCseq : Nat)
  pendingNotify : Option PendingNotify
  lastActiveAt : Nat

def subscriptionKey (callId remoteTag : String) : String := callId ++ ":" ++ remoteTag

def Subscription.key (sub : Subscription) : String := subscriptionKey sub.callId sub.remoteTag

inductive ReportKind where
  | presence
  | mobilePosition
  | alarm

def ReportKind.text : ReportKind → String
  | .presence => "Presence"
  | .mobilePosition => "MobilePosition"
  | .alarm => "Alarm"

structure PendingReport where
  kind : ReportKind
  (deviceId bodyXml : String)
  isCritical : Bool
  idempotencyKey : Option String
  expiresAt : Nat

def PendingReport.mergeKey (report : PendingReport) : String :=
  report.kind.text ++ ":" ++ report.deviceId ++ ":" ++ report.idempotencyKey.getD ""

inductive CascadeOutput where
  | sendRequest (message : SipMessage)
  | sendResponse (message : SipMessage)
  | emitEvent (event : Gb28181.Gb28181Event)
deriving DecidableEq

/-- A part of the machine together with the request counter that all parts share. -/
structure Counted (S : Type) where
  requestCounter : Nat
  part : S

/-- What the registration code works on; losing the registration clears the subscriptions. -/
structure Registrar where
  state : State
  auth : Option AuthorizationContext
  subscriptions : Table Subscription.key

/-- The bridges are keyed by the Call-ID of their INVITE. -/
structure Bridges where
  bridgeCounter : Nat
  table : Table Bridge.upstreamCallId

/-- The queue of reports and the merged snapshots, with the order in which these were made. -/
structure Reports where
  reportCounter : Nat
  queue : List PendingReport
  states : Table PendingReport.mergeKey
  order : List String

structure CatalogQuery where
  (sn deviceId : String)
  filter : CatalogFilter

structure CatalogPage where
  items : List Gb28181.CatalogItem
  total : Nat
  nextCursor : Option String

/-- The surroundings of the machine. `E` is their state: the replay cache of the inbound digest and
whatever the catalog provider and the credential store depend on. -/
structure Ports (E : Type) where
  passwordFor : E → String → Option String
  parseChallenge : String → Except String DigestChallenge
  deriveCnonce : String → String → Except String String
  /-- The value of the Authorization header and the client afterwards. -/
  authorize : DigestClient → (username password method uri : String) → DigestChallenge → (cnonce : String) →
    Except String (String × DigestClient)
  stableHash : String → Nat → Nat
  alarmHash : (deviceId alarmType time sn : String) → String
  parseSdp : String → Bool
  crates : XmlReader.Crates
  /-- Whether an Authorization header validates for a request. -/
  validateInbound : E → (header : String) → Method → (uri password : String) → (now : Nat) → Bool × E
  /-- The value of a fresh WWW-Authenticate header. -/
  inboundChallenge : (now : Nat) → Except String String
  catalogProvider : Option (E → CatalogQuery → Option String → Nat → Except String CatalogPage × E)

structure Machine (E : Type) where
  requestCounter : Nat
  registrar : Registrar
  bridges : Bridges
  reports : Reports
  env : E

def Machine.new (env : E) : Machine E where
  requestCounter := 0
  registrar := ⟨.idle,none,.empty⟩
  bridges := ⟨0,.empty⟩
  reports := ⟨0,[],.empty,[]⟩
  env := env

section Identifiers

variable {S : Type} (config : CascadeConfig)

/-- `next_call_id` and `next_local_tag` number from one counter. -/
def nextTag (now : Nat) (s : Counted S) : String × Counted S :=
  let n := s.requestCounter + 1
  (config.platformId ++ "-" ++ toString now ++ "-" ++ toString n,{ s with requestCounter := n })

/-- The counter is cut to 32 bits. -/
def nextCseq (s : Counted S) : Nat × Counted S :=
  let n := s.requestCounter + 1
  (n % 2 ^ 32,{ s with requestCounter := n })

def nextBranch (callId : String) (cseq : Nat) (s : Counted S) : String × Counted S :=
  let n := s.requestCounter + 1
  ("z9hG4bK-" ++ callId ++ "-" ++ toString cseq ++ "-" ++ toString n,{ s with requestCounter := n })

end Identifiers

end CheetahSignaling.Cascade
