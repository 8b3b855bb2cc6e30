import CheetahSignaling.CascadeMachine

/-! What one step can do to the registration and to the bridges, whichever input it handles. A
registration step that fails leaves the state as it was and gives nothing out. -/
namespace CheetahSignaling.Cascade

open Outcomes

def given : Except CascadeError (List CascadeOutput) → List CascadeOutput
  | .ok outputs => outputs
  | .error _ => []

/-- What the requests of one Call-ID have in common, with the number of the last one. -/
structure Sequence where
  (callId localTag : String)
  cseq : Nat

def Sequence.next (q : Sequence) : Sequence := { q with cseq := q.cseq + 1 }

def Registering.sequence (reg : Registering) : Sequence := ⟨reg.callId,reg.localTag,reg.cseq⟩

def Registered.sequence (reg : Registered) : Sequence := ⟨reg.callId,reg.localTag,reg.cseq⟩

def Registered.keepaliveSequence (reg : Registered) : Sequence :=
  ⟨reg.keepalive.callId,reg.localTag,reg.keepalive.cseq⟩

/-- The REGISTER requests of the current registration or deregistration. -/
def State.sequence : State → Option Sequence
  | .registering reg | .deregistering reg => some reg.sequence
  | .registered reg => some reg.sequence
  | .idle | .failed _ _ => none

def CascadeOutput.carries (callId : String) : CascadeOutput → Bool
  | .sendRequest (.request line headers _) =>
    (line.method = .register || line.method = .message) && headers.get .callId = some callId
  | _ => false

def MadeUp (config : CascadeConfig) (text : String) : Prop :=
  ∃ now, ∃ s : Counted Registrar, text = (nextTag config now s).1

inductive Moves (config : CascadeConfig) : State → List CascadeOutput → State → Prop
  | stays : Moves config state [] state
  | gaveUp : Moves config state [platformDisconnected config reason] .idle
  | failed : Moves config state [] (.failed retryAt attempt)
  | began (callId : MadeUp config reg.callId) (localTag : MadeUp config reg.localTag) (first : reg.cseq = 1)
      (carries : request.carries reg.callId = true) : Moves config state [request] (.registering reg)
  | resent (before : state.sequence = some q) (after : next.sequence = some q.next)
      (unregistered : next.isRegistered = false) (carries : request.carries q.callId = true) :
      Moves config state [request] next
  | accepted (same : reg'.sequence = reg.sequence) (callId : MadeUp config reg'.keepalive.callId)
      (unused : reg'.keepalive.cseq = 0 ∧ reg'.keepalive.sn = 0) :
      Moves config (.registering reg)
        [.emitEvent (.cascadePlatformConnected config.domainId config.platformId config.upstream.encode expires)]
        (.registered reg')
  | keptAlive (same : reg'.sequence = reg.sequence) (after : reg'.keepaliveSequence = reg.keepaliveSequence.next)
      (number : reg'.keepalive.sn = reg.keepalive.sn + 1) (carries : request.carries reg.keepalive.callId = true) :
      Moves config (.registered reg) [request] (.registered reg')
  | noted (same : reg'.sequence = reg.sequence) (after : reg'.keepaliveSequence = reg.keepaliveSequence)
      (number : reg'.keepalive.sn = reg.keepalive.sn) : Moves config (.registered reg) [] (.registered reg')

section

def MovesFrom (config : CascadeConfig) (s : Counted Registrar) (outcome : Outcome (Counted Registrar)) : Prop :=
  Moves config s.part.state (given outcome.1) outcome.2.part.state

theorem buildRegisterRequest_carries
    (built : buildRegisterRequest config callId localTag cseq branch expiresSeconds auth = .ok msg) :
    (CascadeOutput.sendRequest msg).carries callId = true := by
  iterate 5 obtain ⟨_,_,built⟩ := bind_eq_ok built
  cases built
  exact decide_eq_true rfl

theorem buildMessage_carries (built : buildMessage config callId cseq localTag branch extra body = .ok msg) :
    (CascadeOutput.sendRequest msg).carries callId = true := by
  obtain ⟨_,_,_,_,built⟩ := bind_eq_ok₂ built
  cases built
  exact decide_eq_true rfl

theorem buildKeepaliveMessage_carries
    (built : buildKeepaliveMessage config callId cseq localTag branch sn = .ok msg) :
    (CascadeOutput.sendRequest msg).carries callId = true := by
  iterate 4 obtain ⟨_,_,built⟩ := bind_eq_ok built
  exact buildMessage_carries built

theorem sendRegister_moves (same : s.part.state = s₀.part.state)
    (sends : ∀ request, request.carries reg.callId = true → Moves config s₀.part.state [request] (next reg)) :
    MovesFrom config s₀ (sendRegister config reg expiresSeconds auth next s) := by
  unfold sendRegister
  cases built : buildRegisterRequest config reg.callId reg.localTag reg.cseq reg.branch expiresSeconds auth with
  | error e =>
    unfold MovesFrom
    rw [same]
    exact .stays
  | ok msg => exact sends _ (buildRegisterRequest_carries built)

theorem disconnect_moves :
    MovesFrom config s₀ (.ok (disconnect config reason s).1,(disconnect config reason s).2) := .gaveUp

theorem failOrRetry_moves : MovesFrom config s₀ (.ok (failOrRetry config ports now attempt isDeregister reason s).1,
      (failOrRetry config ports now attempt isDeregister reason s).2) := by
  unfold failOrRetry
  split
  · exact disconnect_moves
  · exact .failed

theorem resendRegister_moves (registered : s.part.state = .registered prev)
    (enters : ∀ reg, (next reg).sequence = some reg.sequence ∧ (next reg).isRegistered = false) :
    MovesFrom config s
      (resendRegister config ports env now prev isDeregister what expiresSeconds next s) := by
  have sends (reg : Registering) (after : reg.sequence = prev.sequence.next) (request : CascadeOutput)
      (carries : request.carries reg.callId = true) : Moves config s.part.state [request] (next reg) := by
    have same : reg.callId = prev.callId := congrArg Sequence.callId after
    rw [registered]
    rw [same] at carries
    exact .resent rfl ((enters reg).1.trans (congrArg some after)) (enters reg).2 carries
  simp only [resendRegister,startRegistering]
  split_ifs
  · simp only [nextBranch]
    cases prev.challenge with
    | none => exact sendRegister_moves rfl (sends _ rfl)
    | some challenge =>
      simp only
      split
      · exact sendRegister_moves rfl (sends _ rfl)
      · exact failOrRetry_moves
  · exact .stays

theorem onRegister_moves : MovesFrom config s (onRegister config ports env now s) := by
  unfold onRegister
  cases state : s.part.state with
  | idle | failed _ _ =>
    exact sendRegister_moves rfl fun request carries => .began ⟨now,s,rfl⟩ ⟨now,_,rfl⟩ rfl carries
  | registered prev => exact resendRegister_moves state fun _ => ⟨rfl,rfl⟩
  | registering reg => exact .stays
  | deregistering reg => exact .stays

theorem onDeregister_moves : MovesFrom config s (onDeregister config ports env now s) := by
  unfold onDeregister
  cases state : s.part.state with
  | registered prev => exact resendRegister_moves state fun _ => ⟨rfl,rfl⟩
  | idle => exact .stays
  | failed retryAt attempt => exact .stays
  | registering reg => exact .stays
  | deregistering reg => exact .stays

theorem noted_moves {s s' : Counted Registrar} (registered : s.part.state = .registered reg)
    (same : reg'.sequence = reg.sequence) (after : reg'.keepaliveSequence = reg.keepaliveSequence)
    (number : reg'.keepalive.sn = reg.keepalive.sn) :
    MovesFrom config s (.ok [],{ s' with part := { s'.part with state := .registered reg' } }) := by
  unfold MovesFrom
  rw [registered]
  exact .noted same after number

theorem onKeepaliveTick_moves (registered : s.part.state = .registered reg) :
    MovesFrom config s (onKeepaliveTick config now reg s) := by
  simp only [onKeepaliveTick]
  split
  · split_ifs
    · exact .stays
    · exact disconnect_moves
    · exact noted_moves registered rfl rfl rfl
  split_ifs
  · exact .stays
  · exact .stays
  · exact .stays
  split
  · exact .stays
  rename_i msg built
  unfold MovesFrom
  rw [registered]
  exact .keptAlive rfl rfl rfl (buildKeepaliveMessage_carries built)

theorem onRegistrationTick_moves : MovesFrom config s (onRegistrationTick config ports env now s) := by
  have quiet : MovesFrom config s (.ok [],s) := .stays
  simp only [onRegistrationTick]
  cases state : s.part.state with
  | registered reg =>
    simp only
    split_ifs
    · exact onRegister_moves
    · exact onKeepaliveTick_moves state
  | failed retryAt attempt =>
    simp only
    split_ifs
    · exact onRegister_moves
    · exact quiet
  | registering reg =>
    simp only
    split_ifs
    · exact failOrRetry_moves
    · exact quiet
  | deregistering reg =>
    simp only
    split_ifs
    · exact failOrRetry_moves
    · exact quiet
  | idle => exact quiet

theorem challengeAndResend_moves (pending : s.part.state.sequence = some reg.sequence) :
    MovesFrom config s (challengeAndResend config ports env now headers reg s) := by
  unfold challengeAndResend
  split
  · exact .stays
  · exact .stays
  split
  · exact .stays
  simp only [nextBranch]
  split
  · exact .stays
  · split
    · exact sendRegister_moves rfl fun request carries => .resent pending rfl rfl carries
    · exact sendRegister_moves rfl fun request carries => .resent pending rfl rfl carries

theorem onRegistered_moves (registering : s.part.state = .registering reg) :
    MovesFrom config s (onRegistered config ports now headers reg s) := by
  unfold onRegistered
  split
  · exact .stays
  · exact disconnect_moves
  · unfold MovesFrom
    rw [registering]
    exact .accepted rfl ⟨now,s,rfl⟩ ⟨rfl,rfl⟩

theorem handleRegisterResponse_moves (registering : s.part.state = .registering reg) :
    MovesFrom config s (handleRegisterResponse config ports env now status headers reg s) := by
  have pending : s.part.state.sequence = some reg.sequence := by rw [registering]; rfl
  simp only [handleRegisterResponse]
  split_ifs
  · split
    · exact .stays
    · split_ifs
      · exact challengeAndResend_moves pending
      · exact failOrRetry_moves
  · exact challengeAndResend_moves pending
  · exact failOrRetry_moves
  · exact failOrRetry_moves
  · exact onRegistered_moves registering
  · exact .stays

theorem handleDeregisterResponse_moves (leaving : s.part.state = .deregistering reg) :
    MovesFrom config s (handleDeregisterResponse config ports env now status headers reg s) := by
  have pending : s.part.state.sequence = some reg.sequence := by rw [leaving]; rfl
  simp only [handleDeregisterResponse]
  split_ifs
  · exact disconnect_moves
  · exact challengeAndResend_moves pending
  · exact disconnect_moves
  · exact disconnect_moves
  · exact disconnect_moves
  · exact .stays

theorem keepaliveFailure_moves (registered : s.part.state = .registered reg) :
    MovesFrom config s (.ok (keepaliveFailure config now reg code reason s).1,
      (keepaliveFailure config now reg code reason s).2) := by
  simp only [keepaliveFailure]
  split_ifs
  · exact disconnect_moves
  · exact noted_moves registered rfl rfl rfl

theorem handleKeepaliveResponse_moves (registered : s.part.state = .registered reg) :
    MovesFrom config s (.ok (handleKeepaliveResponse config ports now status body reg s).1,
      (handleKeepaliveResponse config ports now status body reg s).2) := by
  simp only [handleKeepaliveResponse]
  split_ifs
  · exact keepaliveFailure_moves registered
  · exact noted_moves registered rfl rfl rfl
  · exact keepaliveFailure_moves registered
  · exact .stays

theorem onResponse_moves : MovesFrom config s (onResponse config ports env now msg s) := by
  have quiet : MovesFrom config s (.ok [],s) := .stays
  cases msg with
  | request line headers body => exact quiet
  | response status headers body =>
    simp only [onResponse]
    split
    · exact .stays
    split
    · exact .stays
    split
    · cases state : s.part.state with
      | registering reg =>
        simp only
        split_ifs
        · exact handleRegisterResponse_moves state
        · exact quiet
      | deregistering reg =>
        simp only
        split_ifs
        · exact handleDeregisterResponse_moves state
        · exact quiet
      | registered reg => exact quiet
      | idle => exact quiet
      | failed retryAt attempt => exact quiet
    · cases state : s.part.state with
      | registered reg =>
        simp only
        split_ifs
        · exact handleKeepaliveResponse_moves state
        · exact quiet
      | registering reg => exact quiet
      | deregistering reg => exact quiet
      | idle => exact quiet
      | failed retryAt attempt => exact quiet
    · exact .stays
    · exact quiet

end

def Bridges.Within (b' b : Bridges) : Prop :=
  b'.bridgeCounter = b.bridgeCounter ∧ ∀ bridge ∈ b'.table.rows, bridge ∈ b.table.rows

namespace Bridges.Within

theorem refl (b : Bridges) : b.Within b := ⟨rfl,fun _ => id⟩

theorem trans {b b' b'' : Bridges} (later : b''.Within b') (first : b'.Within b) : b''.Within b :=
  ⟨later.1.trans first.1,fun bridge held => first.2 bridge (later.2 bridge held)⟩

theorem drop (b : Bridges) (callId : String) : (b.drop callId).Within b :=
  ⟨rfl,fun _ held => (b.table.mem_remove.mp held).1⟩

end Bridges.Within

/-- What a step can do to the bridges. Only an INVITE from the upstream platform opens one. -/
inductive BridgesMove (config : CascadeConfig) (b : Bridges) : Bridges → Prop
  | fewer (within : b'.Within b) : BridgesMove config b b'
  | updated (held : bridge ∈ b.table.rows) :
      BridgesMove config b (b.put { bridge with state := state,expiresAt := expiresAt })
  | opened (number : bridge.bridgeId = config.platformId ++ "-bridge-" ++ toString (b.bridgeCounter + 1))
      (parses : (parseUriFromHeader bridge.upstreamFrom).isSome) (cseq : bridge.upstreamCseq < 2 ^ 32) :
      BridgesMove config b (Bridges.put { b with bridgeCounter := b.bridgeCounter + 1 } bridge)

namespace BridgesMove

theorem refl (b : Bridges) : BridgesMove config b b := .fewer (.refl b)

theorem drop (b : Bridges) (callId : String) : BridgesMove config b (b.drop callId) := .fewer (.drop b callId)

theorem from_parses (matching : requestFromMatchesUpstream headers upstream = true) :
    (parseUriFromHeader ((headers.get .from).getD "")).isSome := by
  unfold requestFromMatchesUpstream at matching
  cases found : headers.get .from with
  | none => simp [found] at matching
  | some value =>
    cases parsed : parseUriFromHeader value with
    | none => simp [found,parsed] at matching
    | some uri => rw [Option.getD_some,parsed]; rfl

theorem parseOffer_ok (checked : parseOffer config ports msg line body callId bridges = .ok offer) :
    offer.callId = callId ∧ ∃ method, msg.cseq = .ok (offer.cseq,method) := by
  unfold parseOffer at checked
  split at checked
  · cases checked
  rename_i parsed
  split at checked
  · cases checked
  split at checked
  · cases checked
  split at checked
  · cases checked
  · split_ifs at checked
    cases checked
    exact ⟨rfl,_,parsed⟩

theorem handleInvite (s : BridgeSide) :
    BridgesMove config s.part (handleInvite config ports registered now msg line headers body s).2.part := by
  unfold Cascade.handleInvite
  split
  · exact refl _
  split
  · exact refl _
  rename_i matching
  split
  · exact refl _
  split
  · exact refl _
  split
  · split
    · exact refl _
    · exact refl _
  split
  · exact refl _
  · rename_i checked
    obtain ⟨-,method,parsed⟩ := parseOffer_ok checked
    exact .opened rfl (from_parses (by simpa using matching)) (SipMessage.cseq_lt parsed)

theorem bye_part (ran : bye config bridge s = (result,s')) : s'.part = s.part := (congrArg (·.2.part) ran).symm

section

variable (s : BridgeSide)

include s

theorem handleAck : BridgesMove config s.part (handleAck config now callId s).2.part := by
  unfold Cascade.handleAck
  cases found : s.part.table.find callId with
  | none => exact refl _
  | some bridge =>
    simp only
    split
    · exact .updated (s.part.table.find_eq_some.mp found).1
    · split
      · rename_i ran
        exact bye_part ran ▸ drop _ _
      · rename_i ran
        exact bye_part ran ▸ refl _
    · exact refl _
    · exact refl _

theorem handleBye : BridgesMove config s.part (handleBye config headers callId s).2.part := by
  unfold Cascade.handleBye
  split
  · exact refl _
  · exact drop _ _

theorem handleCancel : BridgesMove config s.part (handleCancel config headers callId s).2.part := by
  unfold Cascade.handleCancel
  split
  · exact refl _
  split
  · exact refl _
  · exact drop _ _

theorem handleBridgeRequest :
    BridgesMove config s.part (handleBridgeRequest config ports registered now msg line headers body s).2.part := by
  unfold Cascade.handleBridgeRequest
  split
  · exact handleInvite s
  split
  · exact refl _
  split
  · exact refl _
  split
  · exact handleAck s
  · exact handleBye s
  · exact handleCancel s
  · exact refl _

theorem onMediaReady : BridgesMove config s.part (onMediaReady config ports bridgeId answerSdp s).2.part := by
  unfold Cascade.onMediaReady
  split
  · exact refl _
  split
  · exact refl _
  rename_i found
  split
  · exact refl _
  · split
    · exact refl _
    · exact .updated (List.mem_of_find?_eq_some found)

theorem onMediaStop : BridgesMove config s.part (onMediaStop config now bridgeId s).2.part := by
  unfold Cascade.onMediaStop
  split
  · exact refl _
  split
  · exact refl _
  rename_i found
  split
  · exact .updated (List.mem_of_find?_eq_some found)
  · exact drop _ _
  · split
    · rename_i ran
      exact bye_part ran ▸ drop _ _
    · rename_i ran
      exact bye_part ran ▸ drop _ _
  · exact drop _ _

end

theorem expireBridge_within : (expireBridge config now bridge s).2.part.Within s.part := by
  simp only [expireBridge]
  split
  · exact .drop _ _
  · exact .drop _ _
  · split
    · split
      · rename_i ran
        exact bye_part ran ▸ .drop _ _
      · rename_i ran
        exact bye_part ran ▸ .refl _
    · exact .refl _
  · exact .drop _ _

theorem expireBridges_within : (expireBridges config now expired s).2.part.Within s.part := by
  induction expired generalizing s with
  | nil => exact .refl _
  | cons bridge rest ih =>
    have first : (expireBridge config now bridge s).2.part.Within s.part := expireBridge_within
    unfold expireBridges
    split
    · rename_i ran
      rwa [ran] at first
    rename_i s' ran
    rw [ran] at first
    have later : (expireBridges config now rest s').2.part.Within s'.part := ih
    split
    · rename_i ended
      rw [ended] at later
      exact later.trans first
    · rename_i ended
      rw [ended] at later
      exact later.trans first

theorem onBridgeTick (s : BridgeSide) : BridgesMove config s.part (onBridgeTick config now s).2.part :=
  .fewer expireBridges_within

end BridgesMove

section Machine

/-- How far a tick comes, and what it leaves of the parts. -/
inductive Ticked (config : CascadeConfig) (ports : Ports E) (now : Nat) (m : Machine E) : Outcome (Machine E) → Prop
  | bridgesFailed (ran : onBridgeTick config now ⟨m.requestCounter,m.bridges⟩ = (.error e,s))
      (registrar : m'.registrar = m.registrar) (bridges : m'.bridges = s.part) : Ticked config ports now m (.error e,m')
  | registrationFailed (ran : onBridgeTick config now ⟨m.requestCounter,m.bridges⟩ = (.ok bridgeOutputs,s))
      (entered : r.part.state = m.registrar.state) (ran' : onRegistrationTick config ports m.env now r = (.error e,r'))
      (registrar : m'.registrar = r'.part) (bridges : m'.bridges = s.part) : Ticked config ports now m (.error e,m')
  | flushed (ran : onBridgeTick config now ⟨m.requestCounter,m.bridges⟩ = (.ok bridgeOutputs,s))
      (notified : onSubscriptionTick config now n = (subscriptionOutputs,n'))
      (entered : r.part.state = m.registrar.state)
        (ran' : onRegistrationTick config ports m.env now r = (.ok registrationOutputs,r'))
      (registrar : m'.registrar = r'.part) (bridges : m'.bridges = s.part)
      (reported : Except CascadeError (List CascadeOutput))
      (sent : flush config r'.part.state.isRegistered now p = (reported,p')) :
      Ticked config ports now m
        (reported.map fun reportOutputs => bridgeOutputs ++ subscriptionOutputs ++ registrationOutputs ++ reportOutputs,m')

theorem onTick_ticked (config : CascadeConfig) (ports : Ports E) (now : Nat) (m : Machine E) :
    Ticked config ports now m (onTick config ports now m) := by
  unfold onTick Machine.onBridges
  cases ran : onBridgeTick config now ⟨m.requestCounter,m.bridges⟩ with
  | mk bridged s =>
    cases bridged with
    | error e => exact .bridgesFailed ran rfl rfl
    | ok bridgeOutputs =>
      simp only [Machine.onNotifier,Machine.onRegistrar,Machine.onReports,Machine.registered]
      cases notified : onSubscriptionTick config now ⟨s.requestCounter,m.registrar.subscriptions⟩ with
      | mk subscriptionOutputs n =>
        cases ran' : onRegistrationTick config ports m.env now
            ⟨n.requestCounter,{ m.registrar with subscriptions := n.part }⟩ with
        | mk registration r =>
          cases registration with
          | error e => exact .registrationFailed ran rfl ran' rfl rfl
          | ok registrationOutputs =>
            simp only
            cases sent : flush config r.part.state.isRegistered now ⟨r.requestCounter,m.reports⟩ with
            | mk reported p =>
              cases reported with
              | error e => exact .flushed ran notified rfl ran' rfl rfl (.error e) sent
              | ok reportOutputs => exact .flushed ran notified rfl ran' rfl rfl (.ok reportOutputs) sent

theorem Ticked.bridges (ticked : Ticked config ports now m outcome) :
    outcome.2.bridges = (onBridgeTick config now ⟨m.requestCounter,m.bridges⟩).2.part := by
  cases ticked with
  | bridgesFailed ran registrar bridges => rw [ran]; exact bridges
  | registrationFailed ran entered ran' registrar bridges => rw [ran]; exact bridges
  | flushed ran notified entered ran' registrar bridges reported sent => rw [ran]; exact bridges

theorem onRequest_bridges : BridgesMove config m.bridges (onRequest config ports now msg m).2.bridges := by
  cases msg with
  | response line headers body => exact .refl _
  | request line headers body =>
    simp only [onRequest]
    split
    · exact .handleBridgeRequest ⟨m.requestCounter,m.bridges⟩
    · exact .handleBridgeRequest ⟨m.requestCounter,m.bridges⟩
    · exact .handleBridgeRequest ⟨m.requestCounter,m.bridges⟩
    · exact .handleBridgeRequest ⟨m.requestCounter,m.bridges⟩
    · exact .refl _
    · exact .refl _

/-- An input makes one move of the bridge table. -/
theorem step_bridges : BridgesMove config m.bridges (step config ports m input).bridges := by
  obtain ⟨now,event⟩ := input
  cases event with
  | register => exact .refl _
  | deregister => exact .refl _
  | response msg => exact .refl _
  | report event => exact .refl _
  | request msg => exact onRequest_bridges
  | bridgeMediaReady bridgeId answerSdp => exact .onMediaReady ⟨m.requestCounter,m.bridges⟩
  | bridgeMediaStop bridgeId => exact .onMediaStop ⟨m.requestCounter,m.bridges⟩
  | tick =>
    show BridgesMove config m.bridges (onTick config ports now m).2.bridges
    rw [(onTick_ticked config ports now m).bridges]
    exact .onBridgeTick ⟨m.requestCounter,m.bridges⟩

end Machine

/-- What holds of the bridges over every run: the fields that a BYE is made of were read from an
INVITE, and bridge identifiers are numbers that have been given out once. -/
structure Bridges.Sound (config : CascadeConfig) (b : Bridges) : Prop where
  parses : ∀ bridge ∈ b.table.rows, (parseUriFromHeader bridge.upstreamFrom).isSome ∧ bridge.upstreamCseq < 2 ^ 32
  numbered : ∀ bridge ∈ b.table.rows,
    ∃ n ≤ b.bridgeCounter, bridge.bridgeId = config.platformId ++ "-bridge-" ++ toString n
  distinct : ∀ bridge ∈ b.table.rows, ∀ other ∈ b.table.rows, bridge.bridgeId = other.bridgeId → bridge = other

theorem bridgeId_inj {n k : Nat}
    (same : platform ++ "-bridge-" ++ toString n = platform ++ "-bridge-" ++ toString k) : n = k := by
  have digits : Nat.toDigits 10 n = Nat.toDigits 10 k := by
    have := congrArg String.toList same
    simpa using this
  rw [← Nat.ofDigitChars_ten_toDigits (n := n),digits,Nat.ofDigitChars_ten_toDigits]

theorem Bridges.Sound.move (sound : b.Sound config) (moved : BridgesMove config b b') : b'.Sound config := by
  cases moved with
  | fewer within =>
    refine ⟨fun bridge held => sound.parses bridge (within.2 bridge held),fun bridge held => ?_,?_⟩
    · rw [within.1]
      exact sound.numbered bridge (within.2 bridge held)
    · intro bridge held other listed same
      exact sound.distinct bridge (within.2 bridge held) other (within.2 other listed) same
  | @updated old state expiresAt held =>
    have origin (bridge : Bridge)
        (listed : bridge ∈ (b.put { old with state := state,expiresAt := expiresAt }).table.rows) :
        bridge = { old with state := state,expiresAt := expiresAt } ∨
          bridge ∈ b.table.rows ∧ bridge.upstreamCallId ≠ old.upstreamCallId := b.table.mem_put.mp listed
    refine ⟨?_,?_,?_⟩
    · intro bridge listed
      rcases origin bridge listed with rfl | ⟨listed,-⟩
      · exact sound.parses old held
      · exact sound.parses bridge listed
    · intro bridge listed
      rcases origin bridge listed with rfl | ⟨listed,-⟩
      · exact sound.numbered old held
      · exact sound.numbered bridge listed
    intro bridge listed other listed' same
    rcases origin bridge listed with rfl | ⟨listed,apart⟩ <;> rcases origin other listed' with rfl | ⟨listed',apart'⟩
    · rfl
    · exact absurd (congrArg Bridge.upstreamCallId (sound.distinct old held other listed' same)).symm apart'
    · exact absurd (congrArg Bridge.upstreamCallId (sound.distinct bridge listed old held same)) apart
    · exact sound.distinct bridge listed other listed' same
  | @opened new number parses cseq =>
    have origin (bridge : Bridge)
        (listed : bridge ∈ (Bridges.put { b with bridgeCounter := b.bridgeCounter + 1 } new).table.rows) :
        bridge = new ∨ bridge ∈ b.table.rows := (b.table.mem_put.mp listed).imp_right And.left
    have unused (bridge : Bridge) (listed : bridge ∈ b.table.rows) : bridge.bridgeId ≠ new.bridgeId := by
      obtain ⟨n,le,named⟩ := sound.numbered bridge listed
      rw [named,number]
      intro same
      have := bridgeId_inj same
      omega
    refine ⟨?_,?_,?_⟩
    · intro bridge listed
      rcases origin bridge listed with rfl | listed
      · exact ⟨parses,cseq⟩
      · exact sound.parses bridge listed
    · intro bridge listed
      rcases origin bridge listed with rfl | listed
      · exact ⟨_,Nat.le_refl _,number⟩
      · obtain ⟨n,le,named⟩ := sound.numbered bridge listed
        exact ⟨n,Nat.le_succ_of_le le,named⟩
    intro bridge listed other listed' same
    rcases origin bridge listed with rfl | listed <;> rcases origin other listed' with rfl | listed'
    · rfl
    · exact absurd same.symm (unused other listed')
    · exact absurd same (unused bridge ‹_›)
    · exact sound.distinct bridge ‹_› other listed' same

theorem Bridges.Sound.empty : Bridges.Sound config ⟨0,.empty⟩ := ⟨nofun,nofun,nofun⟩

end CheetahSignaling.Cascade
