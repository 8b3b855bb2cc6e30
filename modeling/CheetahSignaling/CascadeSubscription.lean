import CheetahSignaling.CascadeMessages

/-! The notifier: SUBSCRIBE requests of the upstream platform and the NOTIFY requests that follow.
A NOTIFY that cannot be built is dropped; no handler fails. -/
namespace CheetahSignaling.Cascade

open Str

abbrev Notifier := Counted (Table Subscription.key)

def breaksLine (value : String) : Bool := value.toList.contains '\r' || value.toList.contains '\n'

variable (config : CascadeConfig) (sub : Subscription) (now : Nat) (headers : SipHeaders) (registered : Bool)
  (s : Notifier)

def notifyBody (sn : Nat) : Except CascadeError String :=
  match sub.eventPackage with
  | "Catalog" =>
    (Gb28181.buildCatalogResponse (toString sn) config.platformId 0 []).mapError fun e =>
      .failure ("failed to encode Catalog NOTIFY body: " ++ e.text)
  | "Alarm" =>
    (Gb28181.buildAlarmNotify (toString sn) config.platformId none none none none none).mapError fun e =>
      .failure ("failed to encode Alarm NOTIFY body: " ++ e.text)
  | "MobilePosition" =>
    (Gb28181.buildMobilePositionNotify (toString sn) config.platformId none none none none none none).mapError
      fun e => .failure ("failed to encode MobilePosition NOTIFY body: " ++ e.text)
  | _ => .ok ""

def buildNotify (cseq : Nat) (branch subscriptionState : String) : Except CascadeError SipMessage := do
  validateToken branch
  validateToken sub.localTag
  validateToken sub.remoteTag
  validateToken sub.callId
  let body ← notifyBody config sub cseq
  let via ← liftSip (HeaderValue.via "UDP" config.localUri.host config.localPort branch)
  let fromValue ← liftSip (HeaderValue.fromUri config.localUri sub.localTag)
  let toValue ← liftSip (HeaderValue.fromUri sub.remoteUri sub.remoteTag)
  return .request ⟨.notify,sub.remoteUri⟩
    ([(.via,via),(.from,fromValue),(.to,toValue),(.callId,sub.callId),(.cSeq,HeaderValue.cseq cseq .notify),
        (.other "Event",sub.eventPackage),(.other "Subscription-State",subscriptionState),
        (.contact,HeaderValue.contactUri config.localUri),(.maxForwards,"70")] ++ userAgentHeader config ++
      (if body.isEmpty then [] else [(.contentType,"Application/MANSCDP+xml")]) ++
      [(.contentLength,toString body.utf8ByteSize)]) body.toUTF8

def finalNotify : Except CascadeError SipMessage × Notifier :=
  let (branch,s) := nextBranch sub.callId sub.nextCseq s
  (buildNotify config sub sub.nextCseq branch "terminated;reason=timeout",s)

def tagParameter (header : String) : Option String :=
  let tags := (split ';' header.toList).filterMap fun param =>
    (stripLeading "tag=".toList (trim param)).map fun value => trimMatches '"' (trim value)
  tags.head?.bind fun tag => if tag = [] then none else some (String.ofList tag)

def canonicalEventPackage (raw : String) : Option String :=
  let base := trim (raw.toList.takeWhile (· ≠ ';'))
  ["Catalog","Alarm","MobilePosition"].find? fun package => eqIgnoreAsciiCase package.toList base

structure SubscribeRequest where
  (callId remoteTag eventPackage : String)
  remoteUri : SipUri
  requestedExpiry : Nat
  toTag : Option String

def badRequest : Nat × String := (400,"Bad Request")

def parseExpiry (default : Nat) : Option String → Except (Nat × String) Nat
  | none => .ok default
  | some value =>
    match parseUnsigned (2 ^ 64) (trim value.toList) with
    | some n => .ok n
    | none => .error badRequest

def parseSubscribe (line : RequestLine) (headers : SipHeaders) : Except (Nat × String) SubscribeRequest := do
  if !(registered && uriMatches line.uri config.localUri && requestToUriMatchesLocal headers config.localUri &&
      requestFromMatchesUpstream headers config.upstream) then
    throw (403,"Forbidden")
  let callId ← match headers.get .callId with
    | some value => pure (trimmed value)
    | none => throw badRequest
  if callId.isEmpty || breaksLine callId then throw badRequest
  let fromValue ← match headers.get .from with
    | some value => pure value
    | none => throw badRequest
  let remoteTag ← match tagParameter fromValue with
    | some tag => if breaksLine tag then throw badRequest else pure tag
    | none => throw badRequest
  let eventPackage ← match headers.get (.other "Event") with
    | none => throw badRequest
    | some value =>
      match canonicalEventPackage (trimmed value) with
      | some package => pure package
      | none => throw (489,"Bad Event")
  let remoteUri := (((headers.get .contact).bind parseUriFromHeader).orElse fun _ =>
    parseUriFromHeader fromValue).getD config.upstream
  let requestedExpiry ← parseExpiry config.subscriptionDefaultExpirySeconds (headers.get .expires)
  let toTag := (headers.get .to).bind tagParameter
  if toTag.any breaksLine then throw badRequest
  return ⟨callId,remoteTag,eventPackage,remoteUri,requestedExpiry,toTag⟩

/-- The first of the subscriptions that have been idle longest. -/
def oldest : List Subscription → Option Subscription
  | [] => none
  | sub :: rest =>
    match oldest rest with
    | some later => if later.lastActiveAt < sub.lastActiveAt then some later else some sub
    | none => some sub

def enforceSubscriptionCapacity (newKey : String) (s : Notifier) : List CascadeOutput × Notifier :=
  if s.part.rows.length < config.subscriptionMaxSubscriptions ∨ (s.part.find newKey).isSome then ([],s)
  else
    match oldest s.part.rows with
    | none => ([],s)
    | some sub =>
      match finalNotify config sub s with
      | (.ok notify,s) => ([.sendRequest notify],{ s with part := s.part.remove sub.key })
      | (.error _,s) => ([],s)

def unsubscribe (key localTag : String) (s : Notifier) : List CascadeOutput × Notifier :=
  let ok := CascadeOutput.sendResponse (buildResponseWith headers 200 "OK" localTag (.expires,"0"))
  match s.part.find key with
  | none => ([ok],s)
  | some sub =>
    let (notify,s) := finalNotify config sub s
    (ok :: (notify.toOption.map CascadeOutput.sendRequest).toList,{ s with part := s.part.remove key })

def subscribe (request : SubscribeRequest)
    (key localTag : String) (s : Notifier) : List CascadeOutput × Notifier :=
  let low := min config.subscriptionMinExpirySeconds config.subscriptionMaxExpirySeconds
  let high := max config.subscriptionMinExpirySeconds config.subscriptionMaxExpirySeconds
  let granted := CascadeConfig.clamp request.requestedExpiry low high
  let cseq := ((s.part.find key).map Subscription.nextCseq).getD 1
  let (branch,s) := nextBranch request.callId cseq s
  let sub : Subscription :=
    ⟨request.callId,localTag,request.remoteTag,request.remoteUri,request.eventPackage,saturatingAdd now granted,cseq,
      none,now⟩
  match buildNotify config sub cseq branch ("active;expires=" ++ toString granted) with
  | .error _ =>
    ([.sendResponse (buildResponseWith headers 500 "Internal Server Error" localTag (.expires,"0"))],s)
  | .ok notify =>
    let (evicted,s) := enforceSubscriptionCapacity config key s
    let sub := { sub with nextCseq := min (cseq + 1) (2 ^ 32 - 1),pendingNotify := some ⟨cseq,branch,now,0⟩ }
    (evicted ++
      [.sendResponse (buildResponseWith headers 200 "OK" localTag (.expires,toString granted)),.sendRequest notify],
      { s with part := s.part.put sub })

def handleSubscribe (now : Nat) (line : RequestLine)
    (headers : SipHeaders) (s : Notifier) : List CascadeOutput × Notifier :=
  let (responseTag,s) := nextTag config now s
  match parseSubscribe config registered line headers with
  | .error (code,reason) => ([.sendResponse (buildResponse headers code reason responseTag)],s)
  | .ok request =>
    let key := subscriptionKey request.callId request.remoteTag
    let existing := s.part.find key
    let (localTag,s) := match request.toTag.orElse fun _ => existing.map Subscription.localTag with
      | some tag => (tag,s)
      | none => nextTag config now s
    if existing.any fun sub => sub.eventPackage ≠ request.eventPackage then
      ([.sendResponse (buildResponse headers 489 "Bad Event" localTag)],s)
    else if request.requestedExpiry = 0 then unsubscribe config headers key localTag s
    else subscribe config now headers request key localTag s

def handleNotifyResponse (code cseq : Nat) (callId : String) (subscriptions : Table Subscription.key) :
    Table Subscription.key :=
  match subscriptions.rows.find? fun sub => sub.callId = callId with
  | none => subscriptions
  | some sub =>
    if 200 ≤ code ∧ code < 300 then
      if sub.pendingNotify.any fun pending => pending.cseq = cseq then
        subscriptions.put { sub with pendingNotify := none }
      else subscriptions
    else if code ≥ 300 then subscriptions.remove sub.key
    else subscriptions

/-- One subscription of a tick: it ends, is notified again, or is left as it is. -/
def tickSubscription (sub : Subscription) (s : Notifier) : List CascadeOutput × Notifier :=
  if now ≥ sub.expiresAt then endSubscription s
  else
    match sub.pendingNotify with
    | none => ([],s)
    | some pending =>
      if now - pending.sentAt < 5 then ([],s)
      else if pending.retryCount ≥ 3 then endSubscription s
      else
        let remaining := sub.expiresAt - now
        match buildNotify config sub pending.cseq pending.branch ("active;expires=" ++ toString remaining) with
        | .ok notify =>
          let again := { pending with sentAt := now,retryCount := pending.retryCount + 1 }
          ([.sendRequest notify],{ s with part := s.part.put { sub with pendingNotify := some again } })
        | .error _ => ([],{ s with part := s.part.put { sub with pendingNotify := none } })
where
  endSubscription (s : Notifier) : List CascadeOutput × Notifier :=
    let (notify,s) := finalNotify config sub s
    ((notify.toOption.map CascadeOutput.sendRequest).toList,{ s with part := s.part.remove sub.key })

def tickSubscriptions (config : CascadeConfig) (now : Nat) : List String → Notifier → List CascadeOutput × Notifier
  | [], s => ([],s)
  | key :: keys, s =>
    match s.part.find key with
    | none => tickSubscriptions config now keys s
    | some sub =>
      let (outputs,s) := tickSubscription config now sub s
      let (rest,s) := tickSubscriptions config now keys s
      (outputs ++ rest,s)

def onSubscriptionTick : List CascadeOutput × Notifier :=
  tickSubscriptions config now (s.part.rows.map Subscription.key) s

end CheetahSignaling.Cascade
