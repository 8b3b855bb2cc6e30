import CheetahSignaling.AccessRequest
import CheetahSignaling.Digest
import CheetahSignaling.RegistrationTable

/-! The access machine: registrations of devices, digest challenges, and the messages of registered
devices. A step that fails keeps what it changed before. -/
namespace CheetahSignaling.Gb28181.Access

inductive AuthPolicy where
  | required
  | challengeOptional
deriving DecidableEq

structure DomainConfig where
  domainId : String
  defaultExpiresSeconds : Nat := 3600
  maxExpiresSeconds : Nat := 86400
  heartbeatTimeoutSeconds : Nat := 90
  maxRegistrations : Nat
  authPolicy : AuthPolicy
  compatibility : CompatibilityProfile

/-- The surroundings of the machine. `E` is their state: the replay cache, the failures counted by
source, and the credential store. `D` is a parsed Authorization header. -/
structure Ports (E D : Type) where
  isBlocked : E → IpAddr → (now : Nat) → Bool
  retryAfterSeconds : E → IpAddr → (now : Nat) → Nat
  recordFailure : E → IpAddr → (now : Nat) → E
  recordSuccess : E → IpAddr → E
  parseAuthorization : String → Except DigestError D
  passwordFor : E → DeviceId → Except String (Option String)
  validate : E → D → Method → (uri password : String) → (now : Nat) → Except DigestError Unit × E
  /-- The value of a WWW-Authenticate header. -/
  challenge : (now : Nat) → (stale : Bool) → Except String String
  parsers : AddressParsers
  crates : XmlReader.Crates

inductive AccessOutput where
  | sendResponse (message : SipMessage)
  | emitEvent (event : Gb28181Event)

def AccessOutput.event : AccessOutput → Option Gb28181Event
  | .emitEvent event => some event
  | .sendResponse _ => none

def AccessOutput.status : AccessOutput → Option Nat
  | .sendResponse (.response line _ _) => some line.code
  | _ => none

def events (outputs : List AccessOutput) : List Gb28181Event := outputs.filterMap AccessOutput.event

def statuses (outputs : List AccessOutput) : List Nat := outputs.filterMap AccessOutput.status

structure Machine (E : Type) where
  tagCounter : Nat
  registrations : RegistrationTable
  env : E

def Machine.new (env : E) : Machine E := ⟨1,.empty,env⟩

abbrev Outcome (E : Type) := Except AccessError (List AccessOutput) × Machine E

def Outcome.outputs (x : Outcome E) : List AccessOutput :=
  match x.1 with
  | .ok outputs => outputs
  | .error _ => []

def addOrReplaceTag (value tag : String) : String :=
  let value := Str.trim value.toList
  if value = [] then ""
  else
    let kept := (Str.split ';' value).filter fun part => !"tag=".toList.isPrefixOf (Str.trim part)
    let joined := String.ofList (List.intercalate [';'] kept)
    if joined.isEmpty then "tag=" ++ tag else joined ++ ";tag=" ++ tag

section

variable (request : SipHeaders)

def copyCommonHeaders : SipHeaders := (request.getAll .via).map (HeaderName.via,·) ++
    [HeaderName.from,.callId,.cSeq].filterMap fun name => (request.get name).map (name,·)

def buildResponse (code : Nat) (reason : String) (extra : SipHeaders) (tag : String) : SipMessage :=
  .response ⟨code,reason⟩
    (copyCommonHeaders request ++ ((request.get .to).map fun address => (HeaderName.to,addOrReplaceTag address tag)).toList ++
      extra ++ [(.contentLength,"0")]) .empty

def buildErrorResponse (code : Nat) (reason tag : String) : SipMessage := buildResponse request code reason [] tag

def buildMessageResponse (tag : String) : SipMessage := buildResponse request 200 "OK" [] tag

def buildChallengeResponse (challenge tag : String) : SipMessage :=
  buildResponse request 401 "Unauthorized" [(.wwwAuthenticate,challenge)] tag

def buildRateLimitedResponse (retryAfterSeconds : Nat) (tag : String) : SipMessage :=
  buildResponse request 429 "Too Many Requests" [(.other "Retry-After",toString retryAfterSeconds)] tag

def buildSuccessResponse (contact : SipUri) (expires : Nat) (tag : String) : SipMessage :=
  buildResponse request 200 "OK"
    [(.contact,"<" ++ contact.encode ++ ">;expires=" ++ toString expires),(.expires,toString expires)] tag

end

namespace Machine

def respond (m : Machine E) (build : String → SipMessage) (events : List AccessOutput) : Outcome E :=
  (.ok (.sendResponse (build ("gb" ++ toString m.tagCounter)) :: events),
    { m with tagCounter := (m.tagCounter + 1) % 2 ^ 64 })

def badRequest (m : Machine E) (headers : SipHeaders) : Outcome E :=
  m.respond (buildErrorResponse headers 400 "Bad Request") []

end Machine

inductive AuthStep where
  | badRequest
  | rateLimited (retryAfterSeconds : Nat)
  | challenge (stale : Bool)
  | proceed (authOk authAttempted : Bool)

section Register

variable (config : DomainConfig) (ports : Ports E D)

def resolveExpires (contactExpires headerExpires : Option Nat) : Nat :=
  min ((contactExpires.or headerExpires).getD config.defaultExpiresSeconds) config.maxExpiresSeconds

section

variable (source : SocketAddr) (now : Nat) (line : RequestLine) (headers : SipHeaders)

variable (deviceId : DeviceId) (header : String) (env : E)

def checkRequired : AuthStep × E :=
  match ports.parseAuthorization header with
  | .error e => if e.isSyntax then (.badRequest,env) else (.challenge false,ports.recordFailure env source.ip now)
  | .ok digest =>
    match ports.passwordFor env deviceId with
    | .error _ => (.challenge false,env)
    | .ok none => (.challenge false,ports.recordFailure env source.ip now)
    | .ok (some password) =>
      match ports.validate env digest .register line.uri.encode password now with
      | (.ok (),env) => (.proceed true false,env)
      | (.error .staleNonce,env) => (.challenge true,env)
      | (.error _,env) => (.challenge false,ports.recordFailure env source.ip now)

/-- A device without a password is let through with any header. -/
def checkOptional : AuthStep × E :=
  match ports.passwordFor env deviceId with
  | .error _ => (.challenge false,env)
  | .ok none => (.proceed false false,env)
  | .ok (some password) =>
    match ports.parseAuthorization header with
    | .error e => if e.isSyntax then (.badRequest,env) else (.challenge false,ports.recordFailure env source.ip now)
    | .ok digest =>
      match ports.validate env digest .register line.uri.encode password now with
      | (.ok (),env) => (.proceed true false,env)
      | (.error .staleNonce,env) => (.challenge true,env)
      | (.error _,env) => (.proceed false true,ports.recordFailure env source.ip now)

def checkAuthorization : AuthStep × E :=
  match headers.get .authorization with
  | none => (.proceed false false,env)
  | some header =>
    if ports.isBlocked env source.ip now then (.rateLimited (ports.retryAfterSeconds env source.ip now),env)
    else
      match config.authPolicy with
      | .required => checkRequired ports source now line deviceId header env
      | .challengeOptional => checkOptional ports source now line deviceId header env

def authenticationFailure (now : Nat) (stale : Bool) (m : Machine E) : Outcome E :=
  match ports.challenge now stale with
  | .ok challenge => m.respond (buildChallengeResponse headers challenge) []
  | .error e => (.error (.internal e),m)

def registerAccepted (contactUri : SipUri) (expires : Nat) (deviceId : DeviceId) (m : Machine E) : Outcome E :=
  let event (report : DeviceReport) : AccessOutput := .emitEvent (.device config.domainId deviceId source report)
  if expires = 0 then
    Machine.respond { m with registrations := m.registrations.remove deviceId }
      (buildSuccessResponse headers contactUri expires) [event .unregistered]
  else
    let route := EndpointRoute.fromRegistrationWithProfile ports.parsers source (headers.getAll .via).head?
      (some contactUri) (some config.compatibility)
    match m.registrations.upsert config.maxRegistrations deviceId route contactUri.encode expires now
        (headers.get .userAgent) with
    | .error _ => m.respond (buildErrorResponse headers 503 "Service Unavailable") []
    | .ok (reg,registrations) =>
      Machine.respond { m with registrations := registrations } (buildSuccessResponse headers contactUri expires)
        [event (.registered contactUri.encode expires (headers.get .userAgent) reg.registrationSequence)]

def readRegister : Except AccessError (DeviceId × SipUri × Nat) := do
  match deviceIdFromRequest line headers with
  | none => .error .invalidDeviceId
  | some deviceId => do
    let (contactUri,contactExpires) ← parseContactHeader headers
    let headerExpires ← parseExpiresHeader headers
    return (deviceId,contactUri,resolveExpires config contactExpires headerExpires)

def processRegister (m : Machine E) : Outcome E :=
  match readRegister config line headers with
  | .error _ => m.badRequest headers
  | .ok (deviceId,contactUri,expires) =>
    let (authStep,env) := checkAuthorization config ports source now line headers deviceId m.env
    let m := { m with env := env }
    match authStep with
    | .badRequest => m.badRequest headers
    | .rateLimited retryAfter => m.respond (buildRateLimitedResponse headers retryAfter) []
    | .challenge stale => authenticationFailure ports headers now stale m
    | .proceed authOk authAttempted =>
      let m := if authOk then { m with env := ports.recordSuccess m.env source.ip } else m
      if authOk || (config.authPolicy == .challengeOptional && !authAttempted) then
        registerAccepted config ports source now headers contactUri expires deviceId m
      else authenticationFailure ports headers now false m

end

end Register

section Message

variable (config : DomainConfig) (ports : Ports E D)

section

variable (source : SocketAddr) (now : Nat) (headers : SipHeaders) (body : ByteArray) (m : Machine E)

def processMessageBody : Outcome E :=
  match readMessage ports.crates config.compatibility headers body with
  | .error e => (.error e,m)
  | .ok (deviceId,report) =>
    let event (registrations : RegistrationTable) (report : DeviceReport) : AccessOutput :=
      .emitEvent (.device config.domainId deviceId ((registrations.sendTarget deviceId).getD source) report)
    match m.registrations.touch deviceId source now with
    | none => (.error .notRegistered,m)
    | some (outcome,registrations) =>
      let presence := if outcome.wasOffline then [event registrations (.presenceChanged .online)] else []
      let response := buildMessageResponse headers ("gb" ++ toString m.tagCounter)
      (.ok (presence ++ [event m.registrations report,.sendResponse response]),
        { m with registrations := registrations,tagCounter := (m.tagCounter + 1) % 2 ^ 64 })

def processMessage : Outcome E :=
  match processMessageBody config ports source now headers body m with
  | (.error e,m) =>
    match e with
    | .invalidDeviceId | .invalidXml _ | .unsupportedCmdType _ | .unsupportedContentType _ => m.badRequest headers
    | .notRegistered => m.respond (buildErrorResponse headers 403 "Forbidden") []
    | e => (.error e,m)
  | (.ok outputs,m) => (.ok outputs,m)

end

structure AccessInput where
  source : SocketAddr
  now : Nat
  message : SipMessage

def process (m : Machine E) (input : AccessInput) : Outcome E :=
  match input.message with
  | .response _ _ _ => (.ok [],m)
  | .request line headers body =>
    match line.method with
    | .register => processRegister config ports input.source input.now line headers m
    | .message => processMessage config ports input.source input.now headers body m
    | _ => m.respond (buildErrorResponse headers 501 "Not Implemented") []

def tickRegistration (now : Nat) (reg : Registration) : List AccessOutput × Option Registration :=
  let event (report : DeviceReport) : AccessOutput :=
    .emitEvent (.device config.domainId reg.deviceId reg.source report)
  if reg.isExpired now then ([event .unregistered],none)
  else if !reg.offline ∧ config.heartbeatTimeoutSeconds ≤ now - reg.lastSeen then
    ([event (.presenceChanged .offline)],some { reg with offline := true })
  else ([],some reg)

theorem tickRegistration_key (reg : Registration) :
    ∀ kept ∈ (tickRegistration config now reg).2, kept.key = reg.key := by
  intro kept member
  unfold tickRegistration at member
  split at member
  · cases member
  · split at member
    · cases member; rfl
    · cases member; rfl

def tick (m : Machine E) (now : Nat) : Outcome E :=
  (.ok (m.registrations.table.rows.flatMap fun reg => (tickRegistration config now reg).1),
    { m with registrations := { m.registrations with
        table := m.registrations.table.keep (fun reg => (tickRegistration config now reg).2)
          (tickRegistration_key config) } })

end Message

/-- A call of the machine, or a change of its surroundings between two calls. -/
inductive Input (E : Type) where
  | packet (input : AccessInput)
  | tick (now : Nat)
  | surroundings (env : E)

section Run

variable (config : DomainConfig) (ports : Ports E D)

def outcome (m : Machine E) : Input E → Outcome E
  | .packet input => process config ports m input
  | .tick now => tick config m now
  | .surroundings env => (.ok [],{ m with env := env })

def step (m : Machine E) (input : Input E) : Machine E := (outcome config ports m input).2

def emitted (m : Machine E) (input : Input E) : List AccessOutput := (outcome config ports m input).outputs

end Run

/-! A small domain for worked runs: one password for every device, and one valid digest. -/
namespace Sample

def config (authPolicy : AuthPolicy) : DomainConfig where
  domainId := "3402000000"
  maxRegistrations := 100000
  authPolicy := authPolicy
  compatibility := {}

def camera : DeviceId := ⟨"34020000001320000001",rfl⟩

def server : DeviceId := ⟨"34020000002000000001",by decide⟩

def digest : DigestResponse :=
  ⟨camera.text,"3402000000","84a4cc6f3082121f32b42a2187831a9e","sip:34020000002000000001@3402000000",
    "7587245234b3434cc3412213e5f113a5",none,none,none,none,none⟩

def keepaliveText : String := "<Notify><CmdType>Keepalive</CmdType><SN>1</SN><DeviceID>" ++ camera.text ++
  "</DeviceID><Status>OK</Status></Notify>"

def leaf (name text : String) : List XmlReader.Event :=
  [.start ⟨name.toList,[]⟩,.text text.toList,.close name.toList]

def keepaliveEvents : List XmlReader.Event := [.start ⟨"Notify".toList,[]⟩] ++ leaf "CmdType" "Keepalive" ++
  leaf "SN" "1" ++ leaf "DeviceID" camera.text ++ leaf "Status" "OK" ++ [.close "Notify".toList,.eof]

def ports : Ports Unit DigestResponse where
  isBlocked _ _ _ := false
  retryAfterSeconds _ _ _ := 0
  recordFailure env _ _ := env
  recordSuccess env _ := env
  parseAuthorization := DigestResponse.parse
  passwordFor _ _ := .ok (some "secret")
  validate env response _ _ _ _ := (if response = digest then .ok () else .error .invalidResponse,env)
  challenge _ _ := .ok "Digest realm=\"3402000000\", nonce=\"84a4cc6f3082121f32b42a2187831a9e\""
  parsers := ⟨fun _ => none,fun _ => none⟩
  crates := .utf8 [(keepaliveText,keepaliveEvents)]

def address (deviceId : DeviceId) : String := "<sip:" ++ deviceId.text ++ "@3402000000>"

def home : SocketAddr := ⟨.v4 1,5060⟩

def elsewhere : SocketAddr := ⟨.v4 2,5060⟩

def uri (deviceId : DeviceId) : SipUri := ⟨.sip,some deviceId.text,none,"3402000000",none,[]⟩

def registerHeaders (device : DeviceId) (extra : SipHeaders) : SipHeaders :=
  [(.from,address device),(.to,address device),(.contact,"<sip:" ++ device.text ++ "@camera>")] ++ extra

def register (source : SocketAddr) (now : Nat) (device target : DeviceId) (extra : SipHeaders) : Input Unit :=
  .packet ⟨source,now,.request ⟨.register,uri target⟩ (registerHeaders device extra) .empty⟩

def keepaliveBody : ByteArray := keepaliveText.toUTF8

def keepalive (source : SocketAddr) (now : Nat) : Input Unit :=
  .packet ⟨source,now,.request ⟨.message,uri server⟩ [(.from,address camera)] keepaliveBody⟩

end Sample

end CheetahSignaling.Gb28181.Access
