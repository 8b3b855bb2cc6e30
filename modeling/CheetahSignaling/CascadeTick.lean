import CheetahSignaling.CascadeMoves
import CheetahSignaling.CascadeTokens
import CheetahSignaling.GuardedRun

/-! When a tick fails. The machine numbers its own requests and can always encode them, so that the
registration, the keepalives and the reports never stop a tick. The BYE of a bridge carries the
Call-ID that the peer chose. -/
namespace CheetahSignaling.Cascade

open GuardedRun (execute execute_invariant)
open HeaderValue (isToken)
open Outcomes

def sentIn (callId : String) (outputs : List CascadeOutput) : Nat := outputs.countP (·.carries callId)

theorem sentIn_append : sentIn callId (before ++ after) = sentIn callId before + sentIn callId after :=
  List.countP_append

theorem sentIn_one (carries : request.carries callId = true) : sentIn callId [request] = 1 := by
  simp [sentIn,carries]

/-- The numbers of a sequence are used up only by requests that have been sent. -/
structure Paced (sent : String → Nat) (q : Sequence) : Prop where
  callId : isToken q.callId = true
  localTag : isToken q.localTag = true
  cseq : q.cseq ≤ sent q.callId

def State.Paced (sent : String → Nat) : State → Prop
  | .registering reg | .deregistering reg => Cascade.Paced sent reg.sequence
  | .registered reg =>
    Cascade.Paced sent reg.sequence ∧ Cascade.Paced sent reg.keepaliveSequence ∧ reg.keepalive.sn = reg.keepalive.cseq
  | .idle | .failed _ _ => True

section Registration

variable {E : Type}

theorem madeUp_token (usable : Usable config) (made : MadeUp config text) : isToken text = true := by
  obtain ⟨now,s,rfl⟩ := made
  exact nextTag_token usable now s

theorem Paced.later (paced : Paced sent q) (outputs : List CascadeOutput) :
    Paced (fun callId => sent callId + sentIn callId outputs) q :=
  { paced with cseq := paced.cseq.trans (Nat.le_add_right _ _) }

theorem Paced.next (paced : Paced sent q) (carries : request.carries q.callId = true) :
    Paced (fun callId => sent callId + sentIn callId [request]) q.next := by
  refine ⟨paced.callId,paced.localTag,?_⟩
  exact Nat.add_le_add paced.cseq (sentIn_one carries).ge

theorem State.Paced.sequence {state : State} (paced : state.Paced sent) (current : state.sequence = some q) :
    Cascade.Paced sent q := by
  cases state with
  | idle => cases current
  | failed retryAt attempt => cases current
  | registering reg => cases current; exact paced
  | deregistering reg => cases current; exact paced
  | registered reg => cases current; exact paced.1

theorem State.Paced.of_sequence {state : State} (paced : Cascade.Paced sent q)
    (current : state.sequence = some q) (unregistered : state.isRegistered = false) : state.Paced sent := by
  cases state with
  | idle => trivial
  | failed retryAt attempt => trivial
  | registering reg => cases current; exact paced
  | deregistering reg => cases current; exact paced
  | registered reg => cases unregistered

theorem State.Paced.move (usable : Usable config) (paced : state.Paced sent)
    (moved : Moves config state outputs next) :
    next.Paced fun callId => sent callId + sentIn callId outputs := by
  cases moved with
  | stays =>
    cases state with
    | idle => trivial
    | failed retryAt attempt => trivial
    | registering reg => exact Cascade.Paced.later paced []
    | deregistering reg => exact Cascade.Paced.later paced []
    | registered reg => exact ⟨paced.1.later [],paced.2.1.later [],paced.2.2⟩
  | gaveUp => trivial
  | failed => trivial
  | began callId localTag first carries =>
    refine ⟨madeUp_token usable callId,madeUp_token usable localTag,first.le.trans ?_⟩
    exact (sentIn_one carries).ge.trans (Nat.le_add_left _ _)
  | resent before after unregistered carries =>
    exact .of_sequence ((paced.sequence before).next carries) after unregistered
  | @accepted reg expires reg' same callId unused =>
    have kept : Cascade.Paced sent reg'.sequence := same ▸ paced
    refine ⟨kept.later _,⟨madeUp_token usable callId,kept.localTag,?_⟩,unused.2.trans unused.1.symm⟩
    exact unused.1.le.trans (Nat.zero_le _)
  | keptAlive same after number carries =>
    refine ⟨(same ▸ paced.1).later _,after ▸ paced.2.1.next carries,?_⟩
    rw [number,paced.2.2]
    exact (congrArg Sequence.cseq after).symm
  | noted same after number =>
    refine ⟨(same ▸ paced.1).later _,(after ▸ paced.2.1).later _,?_⟩
    rw [number,paced.2.2]
    exact (congrArg Sequence.cseq after).symm

def Succeeds (outcome : Outcome S) : Prop := ∃ outputs, outcome.1 = .ok outputs

section

variable (usable : Usable config)

include usable

theorem sendRegister_succeeds (callId : isToken reg.callId = true)
    (localTag : isToken reg.localTag = true) (branch : isToken reg.branch = true) :
    Succeeds (sendRegister config reg expiresSeconds auth next s) := by
  obtain ⟨headers,built,-⟩ := buildRegisterRequest_ok usable reg.cseq expiresSeconds auth callId localTag branch
  simp only [sendRegister,built]
  exact ⟨_,rfl⟩

theorem resendRegister_succeeds (paced : Paced sent prev.sequence)
    (few : sent prev.callId < 2 ^ 32 - 1) :
    Succeeds (resendRegister config ports env now prev isDeregister what expiresSeconds next s) := by
  have room : prev.cseq + 1 < 2 ^ 32 := Nat.add_lt_of_lt_sub (paced.cseq.trans_lt few)
  have branch : isToken (nextBranch prev.callId (prev.cseq + 1) s).1 = true :=
    nextBranch_token.mpr (isToken_iff.mp paced.callId).2
  simp only [resendRegister,startRegistering,if_pos room]
  cases prev.challenge with
  | none => exact sendRegister_succeeds usable paced.callId paced.localTag branch
  | some challenge =>
    simp only
    split
    · exact sendRegister_succeeds usable paced.callId paced.localTag branch
    · exact ⟨_,rfl⟩

theorem onRegister_succeeds (paced : s.part.state.Paced sent)
    (few : ∀ callId, sent callId < 2 ^ 32 - 1) : Succeeds (onRegister config ports env now s) := by
  unfold onRegister
  cases state : s.part.state with
  | idle | failed _ _ =>
    exact sendRegister_succeeds usable (nextTag_token usable now s) (nextTag_token usable now _)
      (nextBranch_token.mpr (isToken_iff.mp (nextTag_token usable now s)).2)
  | registered prev =>
    rw [state] at paced
    exact resendRegister_succeeds usable paced.1 (few _)
  | registering reg => exact ⟨_,rfl⟩
  | deregistering reg => exact ⟨_,rfl⟩

theorem onKeepaliveTick_succeeds (paced : (State.registered reg).Paced sent)
    (few : ∀ callId, sent callId < 2 ^ 32 - 1) : Succeeds (onKeepaliveTick config now reg s) := by
  obtain ⟨-,keepalive,number⟩ := paced
  have room : reg.keepalive.cseq + 1 < 2 ^ 32 := Nat.add_lt_of_lt_sub (keepalive.cseq.trans_lt (few _))
  have branch : isToken (nextBranch reg.keepalive.callId (reg.keepalive.cseq + 1) s).1 = true :=
    nextBranch_token.mpr (isToken_iff.mp keepalive.callId).2
  have callId : isToken reg.keepalive.callId = true := keepalive.callId
  have localTag : isToken reg.localTag = true := keepalive.localTag
  obtain ⟨headers,body,built,-⟩ := buildKeepaliveMessage_ok usable callId localTag branch room
  simp only [onKeepaliveTick,number]
  split
  · split_ifs <;> exact ⟨_,rfl⟩
  split_ifs
  · exact ⟨_,rfl⟩
  · omega
  · rw [built]
    exact ⟨_,rfl⟩

theorem onRegistrationTick_succeeds (paced : s.part.state.Paced sent)
    (few : ∀ callId, sent callId < 2 ^ 32 - 1) : Succeeds (onRegistrationTick config ports env now s) := by
  have registers : Succeeds (onRegister config ports env now s) := onRegister_succeeds usable paced few
  simp only [onRegistrationTick]
  cases state : s.part.state with
  | idle => exact ⟨_,rfl⟩
  | registered reg =>
    rw [state] at paced
    simp only
    split_ifs
    · exact registers
    · exact onKeepaliveTick_succeeds usable paced few
  | failed retryAt attempt =>
    simp only
    split_ifs
    · exact registers
    · exact ⟨_,rfl⟩
  | registering reg =>
    simp only
    split_ifs <;> exact ⟨_,rfl⟩
  | deregistering reg =>
    simp only
    split_ifs <;> exact ⟨_,rfl⟩

end

end Registration

section Reports

theorem buildMessageRequest_ok (usable : Usable config) :
    ∃ request, (buildMessageRequest config now report s).1 = .ok request := by
  have callId := nextTag_token usable now s
  have branch (cseq : Nat) (s' : Reporter) : isToken (nextBranch (nextTag config now s).1 cseq s').1 = true :=
    nextBranch_token.mpr (isToken_iff.mp callId).2
  simp only [buildMessageRequest,validateToken_ok (isToken_iff.mp callId).2,
    validateToken_ok (isToken_iff.mp (branch _ _)).2]
  obtain ⟨headers,built,-⟩ := buildMessage_ok usable _ _ report.bodyXml callId (branch _ _)
  exact ⟨_,built⟩

theorem sendQueue_succeeds (usable : Usable config) (s : Reporter) :
    Succeeds (sendQueue config now queue s) := by
  induction queue generalizing s with
  | nil => exact ⟨_,rfl⟩
  | cons report queue ih =>
    obtain ⟨request,built⟩ := buildMessageRequest_ok usable
    cases ran : buildMessageRequest config now report s with
    | mk result s' =>
      rw [ran] at built
      obtain rfl : result = .ok request := built
      obtain ⟨outputs,sent⟩ := ih s'
      cases rest : sendQueue config now queue s' with
      | mk outcome s'' =>
        rw [rest] at sent
        obtain rfl : outcome = .ok outputs := sent
        simp only [sendQueue,ran,rest]
        exact ⟨_,rfl⟩

theorem flush_succeeds (usable : Usable config) :
    Succeeds (flush config registered now s) := by
  simp only [flush]
  split_ifs
  · exact ⟨_,rfl⟩
  · exact sendQueue_succeeds usable _

end Reports

section Bridges

theorem bye_ok_iff (usable : Usable config) (parses : (parseUriFromHeader bridge.upstreamFrom).isSome) :
    (∃ request, (bye config bridge s).1 = .ok request) ↔ TokenText bridge.upstreamCallId :=
  buildByeFromBridge_ok_iff usable parses

/-- The bridge has expired and no BYE can be built for it. -/
def Wedged (now : Nat) (bridge : Bridge) : Prop :=
  bridge.state = .active ∧ now ≥ bridge.expiresAt ∧ ¬ TokenText bridge.upstreamCallId

instance (now : Nat) (bridge : Bridge) : Decidable (Wedged now bridge) := inferInstanceAs (Decidable (_ ∧ _ ∧ ¬ _))

theorem expireBridge_succeeds_iff (usable : Usable config) (now : Nat) (s : BridgeSide)
    (parses : (parseUriFromHeader bridge.upstreamFrom).isSome) :
    Succeeds (expireBridge config now bridge s) ↔ ¬ Wedged now bridge := by
  cases state : bridge.state with
  | invited => simp [expireBridge,Wedged,state,Succeeds]
  | accepted => simp [expireBridge,Wedged,state,Succeeds]
  | closing => simp [expireBridge,Wedged,state,Succeeds]
  | active =>
    have sends := bye_ok_iff (s := s) usable parses
    cases ran : bye config bridge s with
    | mk result s' =>
      rw [ran] at sends
      by_cases due : now ≥ bridge.expiresAt
      · cases result with
        | error e =>
          have foreign : ¬ TokenText bridge.upstreamCallId := by simpa using sends
          simp [expireBridge,Wedged,state,Succeeds,usable.timeout,due,ran,foreign]
        | ok request =>
          have token : TokenText bridge.upstreamCallId := by simpa using sends
          simp [expireBridge,Wedged,state,Succeeds,usable.timeout,due,ran,token]
      · simp [expireBridge,Wedged,state,Succeeds,due]

theorem expireBridges_succeeds_iff (usable : Usable config)
    (parses : ∀ bridge ∈ expired, (parseUriFromHeader bridge.upstreamFrom).isSome) :
    Succeeds (expireBridges config now expired s) ↔ ∀ bridge ∈ expired, ¬ Wedged now bridge := by
  induction expired generalizing s with
  | nil => exact ⟨fun _ => nofun,fun _ => ⟨_,rfl⟩⟩
  | cons bridge rest ih =>
    obtain ⟨first,rest'⟩ := List.forall_mem_cons.mp parses
    have here := expireBridge_succeeds_iff usable now s first
    rw [List.forall_mem_cons,← here]
    cases ran : expireBridge config now bridge s with
    | mk result s' =>
      cases result with
      | error e => simp [expireBridges,ran,Succeeds]
      | ok outputs =>
        have later := ih (s := s') rest'
        rw [← later]
        cases ended : expireBridges config now rest s' with
        | mk more s'' =>
          cases more with
          | error e => simp [expireBridges,ran,ended,Succeeds]
          | ok more => simp [expireBridges,ran,ended,Succeeds]

theorem onBridgeTick_succeeds_iff (usable : Usable config) (now : Nat) (s : BridgeSide) (sound : s.part.Sound config) :
    Succeeds (onBridgeTick config now s) ↔ ∀ bridge ∈ s.part.table.rows, ¬ Wedged now bridge := by
  have parses : ∀ bridge ∈ s.part.table.rows.filter (fun bridge => now ≥ bridge.expiresAt),
      (parseUriFromHeader bridge.upstreamFrom).isSome :=
    fun bridge listed => (sound.parses bridge (List.mem_of_mem_filter listed)).1
  rw [onBridgeTick,expireBridges_succeeds_iff usable parses]
  refine ⟨fun none bridge listed wedged => ?_,fun none bridge listed => none bridge (List.mem_of_mem_filter listed)⟩
  exact none bridge (List.mem_filter.mpr ⟨listed,decide_eq_true wedged.2.1⟩) wedged

end Bridges

section Machine

variable {E : Type} {config : CascadeConfig} {ports : Ports E}

theorem emitted_eq :
    emitted config ports m input = given (process config ports m input).1 := rfl

theorem Paced.mono (paced : Paced sent q) (more : ∀ callId, sent callId ≤ sent' callId) :
    Paced sent' q := { paced with cseq := paced.cseq.trans (more _) }

theorem State.Paced.mono {state : State} (paced : state.Paced sent) (more : ∀ callId, sent callId ≤ sent' callId) :
    state.Paced sent' := by
  cases state with
  | idle => trivial
  | failed retryAt attempt => trivial
  | registering reg => exact Cascade.Paced.mono paced more
  | deregistering reg => exact Cascade.Paced.mono paced more
  | registered reg => exact ⟨paced.1.mono more,paced.2.1.mono more,paced.2.2⟩

theorem onRequest_state (m : Machine E) :
    (onRequest config ports now msg m).2.registrar.state = m.registrar.state := by
  cases msg with
  | response line headers body => rfl
  | request line headers body =>
    simp only [onRequest]
    split <;> rfl

/-- A tick that fails has not moved the registration. -/
theorem tick_paced (usable : Usable config) (paced : m.registrar.state.Paced sent) :
    (onTick config ports now m).2.registrar.state.Paced fun callId =>
      sent callId + sentIn callId (given (onTick config ports now m).1) := by
  have ticked := onTick_ticked config ports now m
  generalize onTick config ports now m = outcome at ticked ⊢
  cases ticked with
  | bridgesFailed ran registrar bridges =>
    rw [registrar]
    exact paced.mono fun _ => Nat.le_add_right _ _
  | @registrationFailed s bridgeOutputs r r' e m' ran entered ran' registrar bridges =>
    have moved : MovesFrom config r (onRegistrationTick config ports m.env now r) := onRegistrationTick_moves
    rw [ran'] at moved
    rw [registrar]
    exact (entered ▸ paced : r.part.state.Paced sent).move usable moved
  | @flushed s bridgeOutputs n subscriptionOutputs n' r r' registrationOutputs p p' m' ran notified entered ran'
      registrar bridges reported flushed =>
    have moved : MovesFrom config r (onRegistrationTick config ports m.env now r) := onRegistrationTick_moves
    obtain ⟨reportOutputs,returned⟩ := flush_succeeds usable
    rw [ran'] at moved
    rw [flushed] at returned
    rw [registrar,show reported = .ok reportOutputs from returned]
    refine ((entered ▸ paced : r.part.state.Paced sent).move usable moved).mono fun callId => ?_
    simp only [given,Except.map,sentIn_append]
    omega

/-- A step uses up numbers only for the requests it sends. -/
theorem step_paced (usable : Usable config)
    (paced : m.registrar.state.Paced sent) :
    (step config ports m input).registrar.state.Paced fun callId =>
      sent callId + sentIn callId (emitted config ports m input) := by
  have kept (outputs : List CascadeOutput) :
      m.registrar.state.Paced fun callId => sent callId + sentIn callId outputs :=
    paced.mono fun _ => Nat.le_add_right _ _
  obtain ⟨now,event⟩ := input
  cases event with
  | register => exact paced.move usable (onRegister_moves (s := ⟨m.requestCounter,m.registrar⟩))
  | deregister => exact paced.move usable (onDeregister_moves (s := ⟨m.requestCounter,m.registrar⟩))
  | response msg => exact paced.move usable (onResponse_moves (s := ⟨m.requestCounter,m.registrar⟩))
  | report event => exact kept _
  | bridgeMediaReady bridgeId answerSdp => exact kept _
  | bridgeMediaStop bridgeId => exact kept _
  | tick => exact tick_paced usable paced
  | request msg =>
    show (onRequest config ports now msg m).2.registrar.state.Paced _
    rw [onRequest_state]
    exact kept _

def emittedBy (config : CascadeConfig) (ports : Ports E) (m : Machine E) (run : List CascadeInput) :
    List CascadeOutput :=
  (GuardedRun.outputs (step config ports) (emitted config ports) m run).flatMap Prod.snd

/-- And so does a run. -/
theorem run_paced (usable : Usable config) (m : Machine E) (run : List CascadeInput)
    (paced : m.registrar.state.Paced sent) :
    (execute (step config ports) m run).registrar.state.Paced fun callId =>
      sent callId + sentIn callId (emittedBy config ports m run) := by
  induction run generalizing m sent with
  | nil => exact paced
  | cons input run ih =>
    refine (ih (step config ports m input) (step_paced usable paced)).mono fun callId => ?_
    show _ ≤ sent callId + sentIn callId (emitted config ports m input ++ emittedBy config ports _ run)
    rw [sentIn_append,Nat.add_assoc]

theorem tick_succeeds_iff (usable : Usable config) (paced : m.registrar.state.Paced sent)
    (few : ∀ callId, sent callId < 2 ^ 32 - 1) (sound : m.bridges.Sound config) :
    Succeeds (onTick config ports now m) ↔ ∀ bridge ∈ m.bridges.table.rows, ¬ Wedged now bridge := by
  rw [← onBridgeTick_succeeds_iff usable now ⟨m.requestCounter,m.bridges⟩ sound]
  have ticked := onTick_ticked config ports now m
  generalize onTick config ports now m = outcome at ticked ⊢
  cases ticked with
  | bridgesFailed ran registrar bridges => simp [Succeeds,ran]
  | @registrationFailed s bridgeOutputs r r' e m' ran entered ran' registrar bridges =>
    obtain ⟨outputs,returned⟩ : Succeeds (onRegistrationTick config ports m.env now r) :=
      onRegistrationTick_succeeds usable (entered ▸ paced) few
    rw [ran'] at returned
    cases returned
  | @flushed s bridgeOutputs n subscriptionOutputs n' r r' registrationOutputs p p' m' ran notified entered ran'
      registrar bridges reported flushed =>
    obtain ⟨reportOutputs,returned⟩ := flush_succeeds usable
    rw [flushed] at returned
    rw [ran,show reported = .ok reportOutputs from returned]
    exact ⟨fun _ => ⟨_,rfl⟩,fun _ => ⟨_,rfl⟩⟩

theorem start_ok (started : start config env = .ok (running,m)) : running = config.clampLimits ∧ m = .new env := by
  obtain ⟨sane,sanitized,returned⟩ := bind_eq_ok started
  cases returned
  exact ⟨sanitize_ok sanitized,rfl⟩

/-- Over every run, a tick returns unless an active bridge is past its deadline with a Call-ID that
is not made of token characters. -/
theorem tick_returns_iff {running : CascadeConfig} {initial : Machine E} (accepted : Accepted config)
    (host : isToken config.localUri.host = true) (user : ∀ user ∈ config.localUri.user, isToken user = true)
    (started : start config env = .ok (running,initial)) (run : List CascadeInput)
    (few : ∀ callId, sentIn callId (emittedBy running ports initial run) < 2 ^ 32 - 1) (now : Nat) :
    (∃ outputs, (process running ports (execute (step running ports) initial run) ⟨now,.tick⟩).1 = .ok outputs) ↔
      ∀ bridge ∈ (execute (step running ports) initial run).bridges.table.rows, ¬ Wedged now bridge := by
  obtain ⟨rfl,rfl⟩ := start_ok started
  have usable : Usable config.clampLimits := { usable_of_accepted accepted host user with }
  have unregistered : (Machine.new env).registrar.state.Paced fun _ => 0 := trivial
  have sound : (execute (step config.clampLimits ports) (.new env) run).bridges.Sound config.clampLimits :=
    execute_invariant (I := fun m : Machine E => m.bridges.Sound config.clampLimits)
      (fun m input sound => sound.move step_bridges) run .empty
  refine tick_succeeds_iff usable (run_paced usable _ run unregistered) (fun callId => ?_) sound
  rw [Nat.zero_add]
  exact few callId

/-- The bridge table stays sound along every run, of any configuration. -/
theorem bridges_sound (config : CascadeConfig) (ports : Ports E) (env : E) (run : List CascadeInput) :
    (execute (step config ports) (.new env) run).bridges.Sound config :=
  execute_invariant (I := fun m : Machine E => m.bridges.Sound config) (fun _ _ sound => sound.move step_bridges) run .empty

end Machine

namespace Sample

theorem config_accepted : Accepted config :=
  ⟨⟨fun _ => .ok (),fun _ _ => .ok ()⟩,"sip:34020000002000000001@10.0.0.2",_,localUri,upstream,"3402000000","ref",3600,
    60,false,false,by decide +kernel,rfl⟩

def dialogRequest (method : Method) (callId cseq : String) : SipMessage :=
  .request ⟨method,⟨.sip,some "34020000001320000001",none,"10.0.0.2",none,[]⟩⟩
    [(.via,"SIP/2.0/UDP up.example;branch=z9hG4bK1"),(.from,"<sip:34020000002000000002@up.example>;tag=a"),
      (.to,"<sip:34020000001320000001@10.0.0.2>"),(.callId,callId),(.cSeq,cseq)]
    (if method = .invite then offerSdp.toUTF8 else .empty)

/-- A play that the upstream platform asked for, was given and acknowledged. -/
def played (callId : String) : List CascadeInput := [⟨1,.register⟩,⟨2,.response (registerResponse 200 1 [])⟩,
    ⟨3,.request (dialogRequest .invite callId "1 INVITE")⟩,
    ⟨4,.bridgeMediaReady "34020000002000000001-bridge-1" answerSdp⟩,⟨5,.request (dialogRequest .ack callId "1 ACK")⟩]

theorem played_few (callId' : String) : sentIn callId' (emittedBy config ports (.new ()) (played "abc@host")) < 2 ^ 32 - 1 :=
  List.countP_le_length.trans_lt (by decide +kernel)

theorem tick_after_play_returns_iff :
    (∃ outputs, (process config ports (execute (step config ports) (.new ()) (played "abc@host")) ⟨604805,.tick⟩).1 =
        .ok outputs) ↔
      ∀ bridge ∈ (execute (step config ports) (.new ()) (played "abc@host")).bridges.table.rows,
        ¬ Wedged 604805 bridge := by
  have started : start config () = .ok (config,.new ()) := rfl
  exact tick_returns_iff config_accepted (by decide) (by decide) started (played "abc@host") played_few 604805

/-- The deadline of a play whose Call-ID has the usual form with a host wedges the tick. -/
theorem tick_after_play_fails : Accepted config ∧ start config () = .ok (config,.new ()) ∧
      (∀ callId, sentIn callId (emittedBy config ports (.new ()) (played "abc@host")) < 2 ^ 32 - 1) ∧
      ¬ ∃ outputs, (process config ports (execute (step config ports) (.new ()) (played "abc@host"))
        ⟨604805,.tick⟩).1 = .ok outputs := by
  refine ⟨config_accepted,rfl,played_few,?_⟩
  have failed : (process config ports (execute (step config ports) (.new ()) (played "abc@host"))
      ⟨604805,.tick⟩).1.isOk = false := by decide +kernel
  rintro ⟨outputs,returned⟩
  rw [returned] at failed
  cases failed

end Sample

end CheetahSignaling.Cascade
