import CheetahSignaling.CascadeMachine
import CheetahSignaling.GuardedRun

/-! Which responses the registration reacts to. A REGISTER response is matched to the transaction
in flight by its Call-ID; the CSeq number plays no part. -/
namespace CheetahSignaling.Cascade

section

def State.lastCseq : State → Option Nat
  | .registering reg | .deregistering reg => some reg.cseq
  | .registered reg => some reg.cseq
  | .idle | .failed _ _ => none

def State.awaits (callId : String) : State → Bool
  | .registering reg | .deregistering reg => reg.callId = callId
  | .registered _ | .idle | .failed _ _ => false

/-- The response answers another REGISTER than the last. -/
def Stale (m : Machine E) (msg : SipMessage) : Prop :=
  ∃ n, msg.cseq = .ok (n,.register) ∧ m.registrar.state.lastCseq ≠ some n

/-- Nothing changes and nothing is sent. -/
def Ignored (config : CascadeConfig) (ports : Ports E) (m : Machine E) (now : Nat) (msg : SipMessage) : Prop :=
  (step config ports m ⟨now,.response msg⟩).registrar.state = m.registrar.state ∧
    emitted config ports m ⟨now,.response msg⟩ = []

section Taken

variable (config : CascadeConfig) (ports : Ports E) (env : E) (now : Nat) (headers : SipHeaders) (reg : Registering)
  (s : Counted Registrar)

/-- A challenge that can be answered: its number is free, there is a password, the client authorizes
with it, and the request can be written. -/
structure Answerable (challenge : DigestChallenge) : Prop where
  number : reg.cseq + 1 < 2 ^ 32
  qop : challenge.qop ≠ some .authInt
  request : ∃ password ∈ ports.passwordFor env config.credentialRef, ∃ cnonce header client,
    ports.deriveCnonce password
      (config.platformId ++ "-" ++ toString (reg.cseq + 1) ++ "-" ++ toString (reg.attempt + 1) ++ "-" ++
      toString now) = .ok cnonce ∧
    ports.authorize ((s.part.auth.filter (·.challenge = challenge)).getD ⟨challenge,config.allowMd5,challenge.qop,0⟩).client
      (config.localUri.user.getD "") password "REGISTER" config.upstream.encode challenge cnonce = .ok (header,client) ∧
    (buildRegisterRequest config reg.callId reg.localTag (reg.cseq + 1) (nextBranch reg.callId (reg.cseq + 1) s).1
      (if reg.isDeregister then 0 else config.registerIntervalSeconds) (some header)).isOk

/-- The response has a readable challenge that can be answered. -/
def Challenges : Prop :=
  ∃ challenge, extractChallenge ports headers = .ok (some challenge) ∧ Answerable config ports env now reg s challenge

/-- What a final response needs for the registration to react: a 401 a challenge that can be answered, unless the
password was sent already, which then is an end or, when the nonce is stale, another try; a 2xx a readable
Expires; anything else nothing. -/
def Effective (code : Nat) : Prop :=
  if code = 401 then
    if reg.authenticated then
      ∃ found, extractChallenge ports headers = .ok found ∧ (found.any (·.stale) → Challenges config ports env now headers reg s)
    else Challenges config ports env now headers reg s
  else code < 300 → (parseExpires headers config.registerIntervalSeconds).isOk

/-- Of the responses to a deregistration only a first 401 needs anything. -/
def EndsOrAnswers (code : Nat) : Prop := code = 401 → !reg.authenticated → Challenges config ports env now headers reg s

end Taken

/-- The response is final, has the Call-ID of the transaction in flight, and the registration can react to it. -/
def Taken (config : CascadeConfig) (ports : Ports E) (m : Machine E) (now : Nat) (msg : SipMessage) : Prop :=
  msg.callId.any m.registrar.state.awaits ∧
    match msg,m.registrar.state with
    | .response status headers _,.registering reg =>
      200 ≤ status.code ∧ Effective config ports m.env now headers reg ⟨m.requestCounter,m.registrar⟩ status.code
    | .response status headers _,.deregistering reg =>
      200 ≤ status.code ∧ EndsOrAnswers config ports m.env now headers reg ⟨m.requestCounter,m.registrar⟩ status.code
    | _,_ => False

/-- The registration reacts exactly if it is able to: it fails and keeps its state, or there is something to be seen. -/
def Reacts (able : Prop) (s : Counted Registrar) : Outcome (Counted Registrar) → Prop
  | (.error _,s') => ¬ able ∧ s'.part.state = s.part.state
  | (.ok outputs,s') => able ∧ (outputs ≠ [] ∨ s'.part.state ≠ s.part.state)

theorem Reacts.congr (reacts : Reacts able s outcome) (same : able ↔ able') : Reacts able' s outcome :=
  propext same ▸ reacts

def PassedOver (s : Counted Registrar) (outcome : Outcome (Counted Registrar)) : Prop :=
  outcome.2 = s ∧ ∀ outputs, outcome.1 = .ok outputs → outputs = []

theorem passedOver_nil : PassedOver s (.ok [],s) := ⟨rfl,fun _ same => (Except.ok.inj same).symm⟩

theorem passedOver_error : PassedOver s (.error e,s) := ⟨rfl,nofun⟩

theorem sendRegister_reacts (same : s.part.state = s₀.part.state)
    (written : (buildRegisterRequest config reg.callId reg.localTag reg.cseq reg.branch expiresSeconds auth).isOk ↔ able) :
    Reacts able s₀ (sendRegister config reg expiresSeconds auth next s) := by
  rw [← written]
  unfold sendRegister
  split
  · rename_i failed
    exact ⟨by simp [failed,Except.isOk,Except.toBool],same⟩
  · rename_i built
    exact ⟨by simp [built,Except.isOk,Except.toBool],.inl (List.cons_ne_nil _ _)⟩

theorem buildAuthorization_ok : (buildAuthorization config ports env challenge cseq attempt now auth).1 = .ok header ↔
    challenge.qop ≠ some .authInt ∧ ∃ password ∈ ports.passwordFor env config.credentialRef, ∃ cnonce client,
      ports.deriveCnonce password (config.platformId ++ "-" ++ toString cseq ++ "-" ++ toString attempt ++ "-" ++ toString now) =
        .ok cnonce ∧
      ports.authorize ((auth.filter (·.challenge = challenge)).getD ⟨challenge,config.allowMd5,challenge.qop,0⟩).client
        (config.localUri.user.getD "") password "REGISTER" config.upstream.encode challenge cnonce = .ok (header,client) := by
  unfold buildAuthorization
  split
  · simp_all
  · rename_i offered
    simp only [offered,not_false_eq_true,ne_eq,true_and]
    cases ports.passwordFor env config.credentialRef with
    | none => simp
    | some password =>
      simp only
      split
      · simp_all
      · split <;> simp_all

theorem challengeAndResend_reacts :
    Reacts (Challenges config ports env now headers reg s) s (challengeAndResend config ports env now headers reg s) := by
  unfold challengeAndResend
  split
  · exact ⟨by simp_all [Challenges],rfl⟩
  · exact ⟨by simp_all [Challenges],rfl⟩
  rename_i challenge extracted
  have only : Answerable config ports env now reg s challenge ↔ Challenges config ports env now headers reg s := by
    simp [Challenges,extracted]
  refine Reacts.congr ?_ only
  split
  · rename_i last
    exact ⟨fun answerable => absurd answerable.number (Nat.not_lt.mpr last),rfl⟩
  rename_i free
  simp only
  split
  · rename_i e built
    refine ⟨?_,rfl⟩
    rintro ⟨-,qop,password,given,cnonce,header,client,derived,authorized,-⟩
    cases built.symm.trans (buildAuthorization_ok.mpr ⟨qop,password,given,cnonce,client,derived,authorized⟩)
  rename_i header built
  obtain ⟨qop,password,given,cnonce,client,derived,authorized⟩ := buildAuthorization_ok.mp built
  have sent : (buildRegisterRequest config reg.callId reg.localTag (reg.cseq + 1) (nextBranch reg.callId (reg.cseq + 1) s).1
        (if reg.isDeregister then 0 else config.registerIntervalSeconds) (some header)).isOk ↔
      Answerable config ports env now reg s challenge := by
    refine ⟨fun written => ⟨Nat.not_le.mp free,qop,password,given,cnonce,header,client,derived,authorized,written⟩,?_⟩
    rintro ⟨-,-,password',given',cnonce',header',client',derived',authorized',written⟩
    cases Option.mem_unique given given'
    cases derived.symm.trans derived'
    cases authorized.symm.trans authorized'
    exact written
  split
  · rename_i leaving
    rw [if_pos leaving] at sent
    exact sendRegister_reacts rfl sent
  · rename_i staying
    rw [if_neg staying] at sent
    exact sendRegister_reacts rfl sent

theorem disconnect_reacts (registering : s.part.state ≠ .idle) :
    Reacts True s (.ok (disconnect config reason s).1,(disconnect config reason s).2) :=
  ⟨trivial,.inr registering.symm⟩

theorem failOrRetry_reacts (registering : s.part.state = .registering reg) :
    Reacts True s (.ok (failOrRetry config ports now attempt isDeregister reason s).1,
      (failOrRetry config ports now attempt isDeregister reason s).2) := by
  unfold failOrRetry
  split
  · exact disconnect_reacts (by simp [registering])
  · exact ⟨trivial,.inr (by simp [registering])⟩

theorem onRegistered_reacts (registering : s.part.state = .registering reg) :
    Reacts (parseExpires headers config.registerIntervalSeconds).isOk s (onRegistered config ports now headers reg s) := by
  unfold onRegistered
  split
  · rename_i failed
    exact ⟨by simp [failed,Except.isOk,Except.toBool],rfl⟩
  · rename_i none
    exact (disconnect_reacts (by simp [registering])).congr (by simp [none,Except.isOk,Except.toBool])
  · rename_i granted
    exact ⟨by simp [granted,Except.isOk,Except.toBool],.inr (by simp [registering])⟩

/-- To a final response, the handlers react if it has what it needs. -/
theorem handleRegisterResponse_reacts (registering : s.part.state = .registering reg) (final : 200 ≤ status.code) :
    Reacts (Effective config ports env now headers reg s status.code) s
      (handleRegisterResponse config ports env now status headers reg s) := by
  simp only [handleRegisterResponse,Effective]
  split_ifs with code again redirected rejected
  · cases extractChallenge ports headers with
    | error e => exact ⟨by simp,rfl⟩
    | ok found =>
      simp only [Except.ok.injEq,exists_eq_left']
      split
      · rename_i stale
        simpa only [stale,true_implies] using challengeAndResend_reacts
      · rename_i fresh
        exact (failOrRetry_reacts registering).congr (by simp [fresh])
  · exact challengeAndResend_reacts
  · exact (failOrRetry_reacts registering).congr (iff_of_true trivial fun low => absurd low (by omega))
  · exact (failOrRetry_reacts registering).congr (iff_of_true trivial fun low => absurd low (by omega))
  · exact (onRegistered_reacts registering).congr ⟨fun ok _ => ok,fun ok => ok (by omega)⟩

theorem handleDeregisterResponse_reacts (leaving : s.part.state = .deregistering reg) (final : 200 ≤ status.code) :
    Reacts (EndsOrAnswers config ports env now headers reg s status.code) s
      (handleDeregisterResponse config ports env now status headers reg s) := by
  have left : s.part.state ≠ .idle := by simp [leaving]
  simp only [handleDeregisterResponse,EndsOrAnswers]
  split_ifs with code again
  · exact (disconnect_reacts left).congr (by simp [again])
  · exact challengeAndResend_reacts.congr (by simp [code,again])
  all_goals exact (disconnect_reacts left).congr (by simp [code])

theorem provisional_ignored (provisional : ¬ 200 ≤ status.code) :
    handleRegisterResponse config ports env now status headers reg s = (.ok [],s) ∧
      handleDeregisterResponse config ports env now status headers reg s = (.ok [],s) := by
  have differs : status.code ≠ 401 := by omega
  have below (n : Nat) (le : 200 ≤ n) : ¬ status.code ≥ n := by omega
  unfold handleRegisterResponse handleDeregisterResponse
  simp [differs,below 400,below 300,below 200]

/-- A REGISTER response comes to the handler of the state unless it lacks the Call-ID of the transaction in flight. -/
theorem onResponse_cases (isRegister : msg.cseq = .ok (n,.register)) (current : s = ⟨m.requestCounter,m.registrar⟩) :
    (¬ Taken config ports m now msg ∧ PassedOver s (onResponse config ports m.env now msg s)) ∨
      msg.callId.any m.registrar.state.awaits = true ∧ ∃ status headers body reg, msg = .response status headers body ∧
        (m.registrar.state = .registering reg ∧
            onResponse config ports m.env now msg s = handleRegisterResponse config ports m.env now status headers reg s ∨
          m.registrar.state = .deregistering reg ∧
            onResponse config ports m.env now msg s = handleDeregisterResponse config ports m.env now status headers reg s) := by
  subst current
  cases msg with
  | request line headers body => exact .inl ⟨And.right,passedOver_nil⟩
  | response status headers body =>
    simp only [onResponse,isRegister,Taken]
    cases SipMessage.callId (.response status headers body) with
    | none => exact .inl ⟨nofun,passedOver_error⟩
    | some callId =>
      simp only [Option.any_some]
      cases m.registrar.state with
      | registering reg | deregistering reg =>
        by_cases same : reg.callId = callId
        · exact .inr ⟨by simp [State.awaits,same],status,headers,body,reg,rfl,by simp [same]⟩
        · exact .inl ⟨by simp [State.awaits,same],by simp only [if_neg same]; exact passedOver_nil⟩
      | registered | idle | failed => exact .inl ⟨nofun,passedOver_nil⟩

theorem ignored_of_passedOver
    (passed : PassedOver ⟨m.requestCounter,m.registrar⟩ (onResponse config ports m.env now msg ⟨m.requestCounter,m.registrar⟩)) :
    Ignored config ports m now msg := by
  refine ⟨congrArg (·.part.state) passed.1,?_⟩
  unfold emitted
  split
  · exact passed.2 _ ‹_›
  · rfl

theorem ignored_iff_of_reacts
    (reacts : Reacts able ⟨m.requestCounter,m.registrar⟩
      (onResponse config ports m.env now msg ⟨m.requestCounter,m.registrar⟩)) :
    Ignored config ports m now msg ↔ ¬ able := by
  simp only [Ignored,step,emitted,process,Machine.onRegistrar]
  rcases ran : onResponse config ports m.env now msg ⟨m.requestCounter,m.registrar⟩ with ⟨e | outputs,s'⟩
  · rw [ran] at reacts
    exact iff_of_true ⟨reacts.2,rfl⟩ reacts.1
  · rw [ran] at reacts
    exact iff_of_false (fun ⟨same,silent⟩ => reacts.2.elim (· silent) (· same)) (not_not.mpr reacts.1)

/-- A stale REGISTER response is ignored unless its Call-ID is that of the transaction in flight and
the machine can act on it: the number that sets it apart is not looked at. -/
theorem stale_response_ignored_iff (config : CascadeConfig) (ports : Ports E) (m : Machine E) (now : Nat)
    (msg : SipMessage) (stale : Stale m msg) : Ignored config ports m now msg ↔ ¬ Taken config ports m now msg := by
  obtain ⟨n,isRegister,-⟩ := stale
  rcases onResponse_cases isRegister rfl with ⟨out,passed⟩ | ⟨awaited,status,headers,body,reg,rfl,handled⟩
  · exact iff_of_true (ignored_of_passedOver passed) out
  by_cases final : 200 ≤ status.code
  · rcases handled with ⟨state,same⟩ | ⟨state,same⟩
    · rw [ignored_iff_of_reacts (same ▸ handleRegisterResponse_reacts state final)]
      rw [state] at awaited
      simp [Taken,awaited,state,final]
    · rw [ignored_iff_of_reacts (same ▸ handleDeregisterResponse_reacts state final)]
      rw [state] at awaited
      simp [Taken,awaited,state,final]
  · obtain ⟨registering,leaving⟩ := provisional_ignored final
    rcases handled with ⟨state,same⟩ | ⟨state,same⟩
    · refine iff_of_true (ignored_of_passedOver ?_) (by simp [Taken,state,final])
      rw [same,registering]
      exact passedOver_nil
    · refine iff_of_true (ignored_of_passedOver ?_) (by simp [Taken,state,final])
      rw [same,leaving]
      exact passedOver_nil

end

namespace Sample

def challenged : SipMessage := registerResponse 401 1
  [(.wwwAuthenticate,"Digest realm=\"3402000000\", nonce=\"6fe9ba44a76be22a\", algorithm=SHA-256, qop=\"auth\"")]

def answered : Machine Unit :=
  GuardedRun.execute (step config ports) (.new ()) [⟨1,.register⟩,⟨2,.response challenged⟩]

theorem challenge_again_stale : Stale answered challenged := ⟨1,by decide +kernel,by decide +kernel⟩

theorem challenge_again_ignored_iff :
    Stale answered challenged ∧ (Ignored config ports answered 3 challenged ↔ ¬ Taken config ports answered 3 challenged) :=
  ⟨challenge_again_stale,stale_response_ignored_iff config ports answered 3 challenged challenge_again_stale⟩

/-- The same challenge once more counts as a rejected password: the registration fails. -/
theorem challenge_again_fails : Stale answered challenged ∧ ¬ Ignored config ports answered 3 challenged ∧
      (step config ports answered ⟨3,.response challenged⟩).registrar.state = .failed 7 2 := by
  refine ⟨challenge_again_stale,fun ignored => ?_,by decide +kernel⟩
  exact absurd ignored.1 (by decide +kernel)

end Sample

end CheetahSignaling.Cascade
