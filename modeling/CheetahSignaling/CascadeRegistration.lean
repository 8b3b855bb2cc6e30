import CheetahSignaling.CascadeSubscription

/-! The registration with the upstream platform: commands, timers and responses. A failing step
keeps what it has done before it failed. -/
namespace CheetahSignaling.Cascade

/-- The outputs of a step that may fail, and the state it leaves in either case. -/
abbrev Outcome (S : Type) := Except CascadeError (List CascadeOutput) × S

variable {E : Type}

section

variable (config : CascadeConfig) (ports : Ports E) (env : E)

/-- The password is looked up after the context of the challenge has been made. -/
def buildAuthorization (challenge : DigestChallenge) (cseq attempt now : Nat)
    (auth : Option AuthorizationContext) : Except CascadeError String × Option AuthorizationContext :=
  if challenge.qop = some .authInt then (.error (.rejected "auth-int qop is not supported"),auth)
  else
    let context := (auth.filter fun held => held.challenge = challenge).getD
      ⟨challenge,config.allowMd5,challenge.qop,0⟩
    match ports.passwordFor env config.credentialRef with
    | none => (.error .noCredentials,some context)
    | some password =>
      let seed := config.platformId ++ "-" ++ toString cseq ++ "-" ++ toString attempt ++ "-" ++ toString now
      match ports.deriveCnonce password seed with
      | .error e => (.error (.rejected e),some context)
      | .ok cnonce =>
        match ports.authorize context.client (config.localUri.user.getD "") password "REGISTER"
            config.upstream.encode challenge cnonce with
        | .error e => (.error (.rejected e),some context)
        | .ok (header,client) => (.ok header,some { context with client := client })

def jitter (attempt : Nat) : Nat :=
  if config.jitterMs = 0 then 0 else ports.stableHash config.platformId attempt % config.jitterMs

def backoffMs (attempt : Nat) : Nat :=
  let exp := min (config.baseBackoffMs * 2 ^ min attempt 16) (2 ^ 64 - 1)
  saturatingAdd (min exp config.maxBackoffMs) (jitter config ports attempt)

def disconnect (reason : String) (s : Counted Registrar) : List CascadeOutput × Counted Registrar :=
  ([platformDisconnected config reason],{ s with part := { s.part with state := .idle,subscriptions := .empty } })

def failOrRetry (now attempt : Nat) (isDeregister : Bool) (reason : String) (s : Counted Registrar) :
    List CascadeOutput × Counted Registrar :=
  if isDeregister || attempt ≥ config.maxRetries then disconnect config reason s
  else
    let retryAt := saturatingAdd now (backoffMs config ports (attempt + 1) / 1000)
    ([],{ s with part := { s.part with state := .failed retryAt (attempt + 1),subscriptions := .empty } })

/-- The attempt number carried over from a failed registration. -/
def State.attempt : State → Nat
  | .failed _ attempt => attempt
  | _ => 0

variable (now : Nat) (s : Counted Registrar)

def startRegistering (isDeregister : Bool) (previous : Option Registered) (s : Counted Registrar) :
    Except CascadeError Registering × Counted Registrar :=
  let attempt := s.part.state.attempt
  match previous with
  | some p =>
    if p.cseq + 1 < 2 ^ 32 then
      let (branch,s) := nextBranch p.callId (p.cseq + 1) s
      (.ok ⟨p.cseq + 1,branch,p.callId,p.localTag,attempt,now,false,isDeregister,some p,p.challenge⟩,s)
    else (.error (.failure "CSeq overflow"),s)
  | none =>
    let (callId,s) := nextTag config now s
    let (localTag,s) := nextTag config now s
    let (branch,s) := nextBranch callId 1 s
    (.ok ⟨1,branch,callId,localTag,attempt,now,false,isDeregister,none,none⟩,s)

def sendRegister (reg : Registering) (expiresSeconds : Nat) (auth : Option String)
    (next : Registering → State) (s : Counted Registrar) : Outcome (Counted Registrar) :=
  match buildRegisterRequest config reg.callId reg.localTag reg.cseq reg.branch expiresSeconds auth with
  | .error e => (.error e,s)
  | .ok msg => (.ok [.sendRequest msg],{ s with part := { s.part with state := next reg } })

def resendRegister (prev : Registered) (isDeregister : Bool) (what : String) (expiresSeconds : Nat) (next : Registering → State)
    (s : Counted Registrar) : Outcome (Counted Registrar) :=
  match startRegistering config now isDeregister (some prev) s with
  | (.error e,s) => (.error e,s)
  | (.ok reg,s) =>
    match prev.challenge with
    | none => sendRegister config reg expiresSeconds none next s
    | some challenge =>
      let (built,auth) := buildAuthorization config ports env challenge reg.cseq reg.attempt now s.part.auth
      let s := { s with part := { s.part with auth := auth } }
      match built with
      | .ok header => sendRegister config reg expiresSeconds (some header) next s
      | .error e =>
        let (outputs,s) := failOrRetry config ports now reg.attempt isDeregister
          ("authorization build failed for " ++ what ++ ": " ++ e.text) s
        (.ok outputs,s)

def onRegister : Outcome (Counted Registrar) :=
  match s.part.state with
  | .idle | .failed _ _ =>
    match startRegistering config now false none s with
    | (.error e,s) => (.error e,s)
    | (.ok reg,s) => sendRegister config reg config.registerIntervalSeconds none .registering s
  | .registered prev =>
    resendRegister config ports env now prev false "refresh" config.registerIntervalSeconds .registering s
  | .registering _ | .deregistering _ => (.ok [],s)

def onDeregister : Outcome (Counted Registrar) :=
  match s.part.state with
  | .registered prev => resendRegister config ports env now prev true "deregister" 0 .deregistering s
  | .idle | .failed _ _ | .registering _ | .deregistering _ => (.ok [],s)

/-- The tick of a registration that is not due for a refresh. -/
def onKeepaliveTick (reg : Registered) (s : Counted Registrar) : Outcome (Counted Registrar) :=
  let keepalive := reg.keepalive
  let enter (keepalive : Keepalive) (s : Counted Registrar) : Counted Registrar :=
    { s with part := { s.part with state := .registered { reg with keepalive := keepalive } } }
  match keepalive.pendingUntil with
  | some pendingUntil =>
    if now < pendingUntil then (.ok [],s)
    else if keepalive.failures + 1 ≥ config.keepaliveMaxFailures then
      let (outputs,s) := disconnect config "keepalive timed out" s
      (.ok outputs,s)
    else (.ok [],enter { keepalive with failures := keepalive.failures + 1,pendingUntil := none } s)
  | none =>
    if now < keepalive.nextAt then (.ok [],s)
    else if 2 ^ 32 ≤ keepalive.sn + 1 then (.error (.failure "keepalive SN overflow"),s)
    else if 2 ^ 32 ≤ keepalive.cseq + 1 then (.error (.failure "keepalive CSeq overflow"),s)
    else
      let (branch,s) := nextBranch keepalive.callId (keepalive.cseq + 1) s
      match buildKeepaliveMessage config keepalive.callId (keepalive.cseq + 1) reg.localTag branch
          (keepalive.sn + 1) with
      | .error e => (.error e,s)
      | .ok msg =>
        (.ok [.sendRequest msg],enter { keepalive with
            sn := keepalive.sn + 1,cseq := keepalive.cseq + 1
            pendingUntil := some (saturatingAdd now config.keepaliveTimeoutSeconds)
            nextAt := saturatingAdd now config.keepaliveIntervalSeconds } s)

def onRegistrationTick : Outcome (Counted Registrar) :=
  let timedOut (reg : Registering) : Bool := now ≥ saturatingAdd reg.startedAt config.transactionTimeoutSeconds
  match s.part.state with
  | .registered reg =>
    if now ≥ reg.refreshAt then onRegister config ports env now s else onKeepaliveTick config now reg s
  | .failed retryAt _ => if now ≥ retryAt then onRegister config ports env now s else (.ok [],s)
  | .registering reg | .deregistering reg =>
    if timedOut reg then
      let (outputs,s) := failOrRetry config ports now reg.attempt reg.isDeregister "REGISTER transaction timed out" s
      (.ok outputs,s)
    else (.ok [],s)
  | .idle => (.ok [],s)

end

section Responses

variable (config : CascadeConfig) (ports : Ports E) (env : E)

variable (now : Nat) (headers : SipHeaders)

def extractChallenge : Except CascadeError (Option DigestChallenge) :=
  match headers.get .wwwAuthenticate with
  | none => .ok none
  | some value =>
    match ports.parseChallenge value with
    | .ok challenge => .ok (some challenge)
    | .error e => .error (.malformed ("failed to parse WWW-Authenticate: " ++ e))

def parseExpires (default : Nat) : Except CascadeError Nat :=
  match headers.get .expires with
  | none => .ok default
  | some value =>
    let text := Str.trim value.toList
    if text = [] then .error (.malformed "empty Expires header")
    else
      match Str.parseUnsigned (2 ^ 32) text with
      | some n => .ok n
      | none => .error (.malformed ("non-numeric Expires header: " ++ String.ofList text))

section

variable (status : StatusLine) (body : ByteArray) (reg : Registering) (s : Counted Registrar)

/-- Answers a challenge with the next CSeq number of the transaction. -/
def challengeAndResend : Outcome (Counted Registrar) :=
  match extractChallenge ports headers with
  | .error e => (.error e,s)
  | .ok none => (.error (.malformed "401 response missing WWW-Authenticate"),s)
  | .ok (some challenge) =>
    if 2 ^ 32 ≤ reg.cseq + 1 then (.error (.failure "CSeq overflow"),s)
    else
      let (branch,s) := nextBranch reg.callId (reg.cseq + 1) s
      let (built,auth) :=
        buildAuthorization config ports env challenge (reg.cseq + 1) (reg.attempt + 1) now s.part.auth
      let s := { s with part := { s.part with auth := auth } }
      match built with
      | .error e => (.error e,s)
      | .ok header =>
        let reg := { reg with
            cseq := reg.cseq + 1,branch := branch,attempt := reg.attempt + 1,authenticated := true
            startedAt := now }
        if reg.isDeregister then sendRegister config reg 0 (some header) .deregistering s
        else
          -- The challenge is kept for the next refresh or deregistration.
          let remember (reg : Registering) : State := .registering
            { reg with
              challenge := some challenge
              previous := reg.previous.map fun prev => { prev with challenge := some challenge } }
          sendRegister config reg config.registerIntervalSeconds (some header) remember s

def onRegistered : Outcome (Counted Registrar) :=
  match parseExpires headers config.registerIntervalSeconds with
  | .error e => (.error e,s)
  | .ok 0 =>
    let (outputs,s) := disconnect config "upstream granted zero expiry" s
    (.ok outputs,s)
  | .ok expires =>
    let challenge := match extractChallenge ports headers with
      | .ok (some challenge) => some challenge
      | _ => reg.challenge
    let margin := max (min config.registerRefreshMarginSeconds (expires / 2)) 1
    let refreshAt := saturatingAdd now (max (expires - margin) 1)
    let (callId,s) := nextTag config now s
    let keepalive : Keepalive := ⟨saturatingAdd now config.keepaliveIntervalSeconds,none,0,0,callId,0⟩
    (.ok [.emitEvent (.cascadePlatformConnected config.domainId config.platformId config.upstream.encode expires)],
      { s with part := { s.part with
          state := .registered ⟨reg.cseq,reg.callId,reg.localTag,refreshAt,challenge,keepalive⟩ } })

def handleRegisterResponse (headers : SipHeaders) (reg : Registering) (s : Counted Registrar) : Outcome (Counted Registrar) :=
  let fail (reason : String) : Outcome (Counted Registrar) :=
    let (outputs,s) := failOrRetry config ports now reg.attempt false reason s
    (.ok outputs,s)
  let code := status.code
  if code = 401 then
    if reg.authenticated then
      match extractChallenge ports headers with
      | .error e => (.error e,s)
      | .ok challenge =>
        if challenge.any DigestChallenge.stale then challengeAndResend config ports env now headers reg s
        else fail "authentication rejected by upstream"
    else challengeAndResend config ports env now headers reg s
  else if code ≥ 400 then fail ("REGISTER failed with " ++ toString code ++ " " ++ status.reason)
  else if code ≥ 300 then fail ("REGISTER redirected with " ++ toString code ++ " " ++ status.reason)
  else if code ≥ 200 then onRegistered config ports now headers reg s
  else (.ok [],s)

def handleDeregisterResponse (headers : SipHeaders) (reg : Registering) (s : Counted Registrar) : Outcome (Counted Registrar) :=
  let give (reason : String) : Outcome (Counted Registrar) :=
    let (outputs,s) := disconnect config reason s
    (.ok outputs,s)
  let code := status.code
  if code = 401 then
    if reg.authenticated then give "deregister rejected: authentication failed"
    else challengeAndResend config ports env now headers reg s
  else if code ≥ 400 then give ("deregister failed with " ++ toString code ++ " " ++ status.reason)
  else if code ≥ 300 then give ("deregister redirected with " ++ toString code ++ " " ++ status.reason)
  else if code ≥ 200 then give "deregistered"
  else (.ok [],s)

def keepaliveFailure (reg : Registered) (code : Nat) (reason : String) (s : Counted Registrar) :
    List CascadeOutput × Counted Registrar :=
  let failures := reg.keepalive.failures + 1
  if failures ≥ config.keepaliveMaxFailures then
    disconnect config ("keepalive failed with " ++ toString code ++ " " ++ reason) s
  else
    let nextAt := saturatingAdd now config.keepaliveIntervalSeconds
    let keepalive := { reg.keepalive with failures := failures,nextAt := nextAt,pendingUntil := none }
    ([],{ s with part := { s.part with state := .registered { reg with keepalive := keepalive } } })

/-- An empty body counts as success; a body must carry the result `OK`. -/
def businessOk : Bool := body.isEmpty ||
    match Gb28181.parseKeepaliveResponse ports.crates body with
    | .ok result => Str.eqIgnoreAsciiCase result.toList "OK".toList
    | .error _ => false

def handleKeepaliveResponse (reg : Registered) (s : Counted Registrar) : List CascadeOutput × Counted Registrar :=
  if status.code ≥ 300 then keepaliveFailure config now reg status.code status.reason s
  else if status.code ≥ 200 then
    if businessOk ports body then
      let nextAt := saturatingAdd now config.keepaliveIntervalSeconds
      let keepalive := { reg.keepalive with failures := 0,nextAt := nextAt,pendingUntil := none }
      ([],{ s with part := { s.part with state := .registered { reg with keepalive := keepalive } } })
    else keepaliveFailure config now reg status.code "upstream rejected keepalive" s
  else ([],s)

end

def onResponse (msg : SipMessage) (s : Counted Registrar) : Outcome (Counted Registrar) :=
  match msg with
  | .request _ _ _ => (.ok [],s)
  | .response status headers body =>
    match msg.cseq with
    | .error e => (.error (.malformed (SipError.text e)),s)
    | .ok (cseq,method) =>
      match msg.callId with
      | none => (.error (.malformed "missing Call-ID header"),s)
      | some callId =>
        match method with
        | .register =>
          match s.part.state with
          | .registering reg =>
            if reg.callId = callId then handleRegisterResponse config ports env now status headers reg s
            else (.ok [],s)
          | .deregistering reg =>
            if reg.callId = callId then handleDeregisterResponse config ports env now status headers reg s
            else (.ok [],s)
          | _ => (.ok [],s)
        | .message =>
          match s.part.state with
          | .registered reg =>
            if reg.keepalive.callId = callId ∧ reg.keepalive.cseq = cseq then
              let (outputs,s) := handleKeepaliveResponse config ports now status body reg s
              (.ok outputs,s)
            else (.ok [],s)
          | _ => (.ok [],s)
        | .notify =>
          let subscriptions := handleNotifyResponse status.code cseq callId s.part.subscriptions
          (.ok [],{ s with part := { s.part with subscriptions := subscriptions } })
        | _ => (.ok [],s)

end Responses

end CheetahSignaling.Cascade
