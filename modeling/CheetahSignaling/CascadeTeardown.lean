import CheetahSignaling.CascadeOutputs
import CheetahSignaling.CascadeTick
import Mathlib.Data.List.Induction

/-! The end of a play. What is owed for a bridge can be read off its state: a final response to the
INVITE is owed until it has been accepted, a stop event until it has left the table. Every step
pays what it takes off the account. -/
namespace CheetahSignaling.Cascade

open CascadeOutput
open List hiding after toString
open GuardedRun (execute Guarded execute_append execute_invariant)
open HeaderValue (isToken)
open Outcomes

/-- The state of the bridge that a play was given, while it is in the table. -/
def Bridges.phase (b : Bridges) (dialog : Bridge) : Option BridgeState :=
  (b.table.find dialog.upstreamCallId).bind fun bridge =>
    if bridge.bridgeId = dialog.bridgeId then some bridge.state else none

/-- The final responses that a bridge in this state has been given. -/
def answersGiven : Option BridgeState → Nat
  | some .invited => 0
  | _ => 1

def stopsGiven : Option BridgeState → Nat
  | some _ => 0
  | none => 1

def answersIn (dialog : Bridge) (outputs : List CascadeOutput) : Nat := outputs.countP (·.answers dialog)

def stopsIn (bridgeId : String) (outputs : List CascadeOutput) : Nat := outputs.countP (·.stops bridgeId)

def byesIn (callId : String) (outputs : List CascadeOutput) : Nat := outputs.countP (·.hangsUp callId)

/-- A step accounts for what it does to the bridge. `acks` says that it handles an ACK of the
dialog, `upstream` that the upstream platform hangs up. -/
structure Settles (dialog : Bridge) (acks upstream : Prop) (b : Bridges) (outputs : List CascadeOutput)
    (b' : Bridges) : Prop where
  answers : answersGiven (b'.phase dialog) = answersGiven (b.phase dialog) + answersIn dialog outputs
  stops : stopsGiven (b'.phase dialog) = stopsGiven (b.phase dialog) + stopsIn dialog.bridgeId outputs
  active : b.phase dialog = some .active →
    b'.phase dialog = some .active ∨ b'.phase dialog = none ∧ (upstream ∨ 0 < byesIn dialog.upstreamCallId outputs)
  acknowledged : acks → ∀ state, b.phase dialog = some state → state ≠ .invited →
    b'.phase dialog = some .active ∨ b'.phase dialog = none ∧ 0 < byesIn dialog.upstreamCallId outputs

def Own (dialog bridge : Bridge) : Prop := bridge = { dialog with state := bridge.state,expiresAt := bridge.expiresAt }

/-- Whatever has the Call-ID or the identifier of the play is its bridge. -/
def Traces (dialog : Bridge) (b : Bridges) : Prop := ∀ bridge ∈ b.table.rows,
    (bridge.upstreamCallId = dialog.upstreamCallId → Own dialog bridge) ∧
    (bridge.bridgeId = dialog.bridgeId → bridge.upstreamCallId = dialog.upstreamCallId)

section Accounts

variable {dialog bridge : Bridge} {b b' b'' : Bridges}

theorem Own.named (own : Own dialog bridge) : bridge.upstreamCallId = dialog.upstreamCallId :=
  (congrArg Bridge.upstreamCallId own :)

theorem Own.same (own : Own dialog bridge) : bridge.bridgeId = dialog.bridgeId := (congrArg Bridge.bridgeId own :)

theorem Own.with (own : Own dialog bridge) (state : BridgeState) (expiresAt : Nat) :
    Own dialog { bridge with state := state,expiresAt := expiresAt } := by
  unfold Own at own ⊢
  rw [own]

theorem silent_pair (first : Silent dialog output) (last : Silent dialog output') :
    ∀ given ∈ [output,output'], Silent dialog given :=
  forall_mem_cons.mpr ⟨first,forall_mem_singleton.mpr last⟩

theorem silent_counts (silent : ∀ output ∈ outputs, Silent dialog output) :
    answersIn dialog outputs = 0 ∧ stopsIn dialog.bridgeId outputs = 0 :=
  ⟨countP_eq_zero.mpr fun output member => by simp [(silent output member).answers],
    countP_eq_zero.mpr fun output member => by simp [(silent output member).stops]⟩

theorem Settles.silent (same : b'.phase dialog = b.phase dialog) (silent : ∀ output ∈ outputs, Silent dialog output)
    (settled : acks → ∀ state, b.phase dialog = some state → state = .invited ∨ state = .active) :
    Settles dialog acks upstream b outputs b' := by
  obtain ⟨answers,stops⟩ := silent_counts silent
  refine ⟨by rw [same,answers,Nat.add_zero],by rw [same,stops,Nat.add_zero],fun active => .inl (same.trans active),?_⟩
  intro acks state held answered
  rcases settled acks state held with rfl | rfl
  · exact absurd rfl answered
  · exact .inl (same.trans held)

theorem Settles.refl (b : Bridges) : Settles dialog False upstream b [] b := .silent rfl (forall_mem_nil _) False.elim

theorem Settles.left (held : b.phase dialog = some state) (gone : b'.phase dialog = none)
    (answers : answersIn dialog outputs = if state = .invited then 1 else 0) (stops : stopsIn dialog.bridgeId outputs = 1)
    (active : state = .active → upstream ∨ 0 < byesIn dialog.upstreamCallId outputs)
    (acknowledged : acks → state ≠ .invited → 0 < byesIn dialog.upstreamCallId outputs) :
    Settles dialog acks upstream b outputs b' := by
  refine ⟨?_,?_,?_,?_⟩
  · rw [held,gone,answers]
    cases state <;> rfl
  · rw [held,gone,stops]
    rfl
  · intro now
    exact .inr ⟨gone,active (Option.some.inj (held.symm.trans now))⟩
  · intro acks earlier now answered
    cases held.symm.trans now
    exact .inr ⟨gone,acknowledged acks answered⟩

theorem Settles.weaken (settles : Settles dialog acks upstream b outputs b') (fewer : acks' → acks)
    (more : upstream → upstream') : Settles dialog acks' upstream' b outputs b' :=
  { settles with
    active := fun active => (settles.active active).imp_right fun gone => ⟨gone.1,gone.2.imp_left more⟩
    acknowledged := fun acks => settles.acknowledged (fewer acks) }

theorem Settles.append (first : Settles dialog False False b outputs b') (rest : Settles dialog False False b' more b'') :
    Settles dialog False False b (outputs ++ more) b'' := by
  have byes (outputs more : List CascadeOutput) : byesIn dialog.upstreamCallId (outputs ++ more) =
      byesIn dialog.upstreamCallId outputs + byesIn dialog.upstreamCallId more := countP_append
  refine ⟨?_,?_,?_,False.elim⟩
  · rw [rest.answers,first.answers,answersIn,answersIn,answersIn,countP_append,Nat.add_assoc]
  · rw [rest.stops,first.stops,stopsIn,stopsIn,stopsIn,countP_append,Nat.add_assoc]
  intro active
  rw [byes]
  rcases first.active active with active | ⟨gone,left⟩
  · rcases rest.active active with active | ⟨gone,left⟩
    · exact .inl active
    · exact .inr ⟨gone,.inr (Nat.add_pos_right _ (left.resolve_left id))⟩
  have stays : b''.phase dialog = none := by
    have stops := rest.stops
    rw [gone] at stops
    cases after : b''.phase dialog with
    | none => rfl
    | some state =>
      rw [after] at stops
      simp only [stopsGiven] at stops
      omega
  exact .inr ⟨stays,.inr (Nat.add_pos_left (left.resolve_left id) _)⟩

theorem phase_eq (traces : Traces dialog b) :
    b.phase dialog = (b.table.find dialog.upstreamCallId).map Bridge.state := by
  unfold Bridges.phase
  cases found : b.table.find dialog.upstreamCallId with
  | none => rfl
  | some bridge =>
    obtain ⟨listed,named⟩ := b.table.find_eq_some.mp found
    simp [((traces bridge listed).1 named).same]

theorem phase_of_mem (traces : Traces dialog b) (listed : bridge ∈ b.table.rows)
    (named : bridge.upstreamCallId = dialog.upstreamCallId) : b.phase dialog = some bridge.state := by
  rw [phase_eq traces,b.table.find_eq_some.mpr ⟨listed,named⟩]
  rfl

theorem phase_drop_same : (b.drop dialog.upstreamCallId).phase dialog = none := by
  simp [Bridges.phase,Bridges.drop]

theorem phase_drop_other (other : callId ≠ dialog.upstreamCallId) : (b.drop callId).phase dialog = b.phase dialog := by
  simp [Bridges.phase,Bridges.drop,other.symm]

theorem phase_put_other (other : bridge.upstreamCallId ≠ dialog.upstreamCallId) :
    (b.put bridge).phase dialog = b.phase dialog := by
  simp [Bridges.phase,Bridges.put,other.symm]

theorem phase_put_same (own : Own dialog bridge) : (b.put bridge).phase dialog = some bridge.state := by
  rw [Bridges.phase,Bridges.put,← own.named,Table.find_put_same]
  simp [own.same]

theorem Settles.entered (own : Own dialog bridge) (held : b.phase dialog = some state) (inactive : state ≠ .active)
    (answers : answersGiven (some bridge.state) = answersGiven (some state) + answersIn dialog outputs)
    (stops : stopsIn dialog.bridgeId outputs = 0) (acknowledged : acks → bridge.state = .active) :
    Settles dialog acks upstream b outputs (b.put bridge) := by
  have entered : (b.put bridge).phase dialog = some bridge.state := phase_put_same own
  refine ⟨by rw [entered,held,answers],by rw [entered,held,stops]; rfl,?_,fun acks _ _ _ => .inl ?_⟩
  · intro active
    exact absurd (Option.some.inj (held.symm.trans active)) inactive
  · rw [entered,acknowledged acks]

end Accounts

section Outputs

variable {dialog bridge : Bridge}

theorem inviteResponse_headers :
    (buildInviteResponseFromBridge localUri bridge code reason body).headers.getAll .via = bridge.upstreamVia ∧
      (buildInviteResponseFromBridge localUri bridge code reason body).callId = some bridge.upstreamCallId ∧
      (buildInviteResponseFromBridge localUri bridge code reason body).headers.get .cSeq =
        some (HeaderValue.cseq bridge.upstreamCseq .invite) := by
  simp only [buildInviteResponseFromBridge,SipMessage.callId,SipMessage.headers,SipHeaders.get,getAll_append,getAll_map]
  simp [SipHeaders.getAll,HeaderName.same]

theorem inviteResponse_answers (own : Own dialog bridge) (small : bridge.upstreamCseq < 2 ^ 32) (final : 200 ≤ code) :
    (sendResponse (buildInviteResponseFromBridge localUri bridge code reason body)).answers dialog = true := by
  obtain ⟨via,callId,cSeq⟩ := inviteResponse_headers
  have cseq := SipMessage.cseq_written small rfl cSeq
  have sameVia : bridge.upstreamVia = dialog.upstreamVia := (congrArg Bridge.upstreamVia own :)
  have sameCseq : bridge.upstreamCseq = dialog.upstreamCseq := (congrArg Bridge.upstreamCseq own :)
  show (decide (200 ≤ code) &&
    SipMessage.belongsTo dialog (buildInviteResponseFromBridge localUri bridge code reason body)) = true
  rw [SipMessage.belongsTo,via,callId,cseq,sameVia,own.named,sameCseq]
  simp [final]

theorem inviteResponse_silent (other : bridge.upstreamCallId ≠ dialog.upstreamCallId) :
    Silent dialog (.sendResponse (buildInviteResponseFromBridge localUri bridge code reason body)) := by
  refine ⟨?_,rfl⟩
  show (decide (200 ≤ code) &&
    SipMessage.belongsTo dialog (buildInviteResponseFromBridge localUri bridge code reason body)) = false
  rw [SipMessage.belongsTo,inviteResponse_headers.2.1]
  simp [other]

theorem playStopped_silent (other : bridge.bridgeId ≠ dialog.bridgeId) :
    Silent dialog (playStopped config bridge.bridgeId reason) := ⟨rfl,by simp [other]⟩

theorem bye_hangsUp (sent : bye config bridge s = (.ok request,s')) :
    (sendRequest request).hangsUp bridge.upstreamCallId = true := by
  have built : buildByeFromBridge config bridge (nextCseq s).1
      (nextBranch bridge.upstreamCallId (nextCseq s).1 (nextCseq s).2).1 = .ok request := congrArg Prod.fst sent
  obtain ⟨_,_,built⟩ := bind_eq_ok built
  cases parsed : parseUriFromHeader bridge.upstreamFrom with
  | none =>
    rw [parsed] at built
    cases built
  | some target =>
    rw [parsed] at built
    obtain ⟨_,_,built⟩ := bind_eq_ok (show (liftSip _ >>= _) = _ from built)
    cases built
    exact decide_eq_true rfl

end Outputs

section Handlers

variable {E : Type} {config : CascadeConfig} {ports : Ports E} {dialog bridge : Bridge} {b : Bridges} {s : BridgeSide}

/-- What the end of a bridge owes: an answer if it is invited, a BYE if it is active and not ended upstream. -/
structure Pays (dialog bridge : Bridge) (acks upstream : Prop) (outputs : List CascadeOutput) : Prop where
  answers : answersIn dialog outputs = if bridge.state = .invited then 1 else 0
  stops : stopsIn dialog.bridgeId outputs = 0
  active : bridge.state = .active → upstream ∨ 0 < byesIn dialog.upstreamCallId outputs
  acknowledged : acks → bridge.state ≠ .invited → 0 < byesIn dialog.upstreamCallId outputs

/-- The removal of a bridge, with a stop event behind the other outputs. -/
theorem settles_dropped (traces : Traces dialog b) (listed : bridge ∈ b.table.rows)
    (mine : Own dialog bridge → Pays dialog bridge acks upstream outputs)
    (theirs : bridge.upstreamCallId ≠ dialog.upstreamCallId → ∀ output ∈ outputs, Silent dialog output)
    (about : acks → bridge.upstreamCallId = dialog.upstreamCallId) :
    Settles dialog acks upstream b (outputs ++ [playStopped config bridge.bridgeId reason]) (b.drop bridge.upstreamCallId) := by
  by_cases named : bridge.upstreamCallId = dialog.upstreamCallId
  · have own := (traces bridge listed).1 named
    obtain ⟨answers,stops,active,acknowledged⟩ := mine own
    have byes : byesIn dialog.upstreamCallId (outputs ++ [playStopped config bridge.bridgeId reason]) =
        byesIn dialog.upstreamCallId outputs := countP_append
    refine .left (phase_of_mem traces listed named) (named ▸ phase_drop_same) ?_ ?_ (byes ▸ active) (byes ▸ acknowledged)
    · rw [← answers]
      exact countP_append
    · rw [stopsIn] at stops
      rw [stopsIn,countP_append,stops]
      simp [own.same]
  · refine .silent (phase_drop_other named) ?_ fun acks => absurd (about acks) named
    have unlike : bridge.bridgeId ≠ dialog.bridgeId := fun same => named ((traces bridge listed).2 same)
    exact forall_mem_append.mpr ⟨theirs named,forall_mem_singleton.mpr (playStopped_silent unlike)⟩

theorem settles_hungUp (traces : Traces dialog b) (listed : bridge ∈ b.table.rows) (answered : bridge.state ≠ .invited)
    (sent : bye config bridge s = (.ok request,s')) (about : acks → bridge.upstreamCallId = dialog.upstreamCallId) :
    Settles dialog acks False b [.sendRequest request,playStopped config bridge.bridgeId reason]
    (b.drop bridge.upstreamCallId) := by
  refine settles_dropped traces listed (fun own => ?_) (fun _ => forall_mem_singleton.mpr silent_request) about
  have hangsUp : 0 < byesIn dialog.upstreamCallId [.sendRequest request] := by
    simp [byesIn,← own.named,bye_hangsUp sent]
  exact ⟨by simp [answersIn,answered],by simp [stopsIn],fun _ => .inr hangsUp,fun _ _ => hangsUp⟩

theorem bye_written (usable : Usable config) (sound : b.Sound config) (listed : bridge ∈ b.table.rows)
    (token : TokenText bridge.upstreamCallId) : bye config bridge s ≠ (.error e,s') := by
  obtain ⟨request,sent⟩ := (bye_ok_iff usable (sound.parses bridge listed).1).mpr token
  intro ran
  rw [ran] at sent
  cases sent

theorem respond_settles (silent : Silent dialog (.sendResponse (buildResponse headers code reason (nextTag config now s).1))) :
    Settles dialog False False s.part (respond config now headers code reason s).1
      (respond config now headers code reason s).2.part :=
  .silent rfl (forall_mem_singleton.mpr silent) False.elim

theorem handleInvite_settles (held : s.part.phase dialog = some state)
    (genuine : SipMessage.belongsTo dialog (.request line headers body) = true →
      registered = true ∧ requestFromMatchesUpstream headers config.upstream = true) :
    Settles dialog False False s.part (handleInvite config ports registered now msg line headers body s).1
      (handleInvite config ports registered now msg line headers body s).2.part := by
  have refused (other : ¬ (registered = true ∧ requestFromMatchesUpstream headers config.upstream = true))
      (code : Nat) (reason tag : String) : Silent dialog (.sendResponse (buildResponse headers code reason tag)) :=
    reply_buildResponse.silent (Bool.eq_false_iff.mpr fun belongs => other (genuine belongs))
  unfold handleInvite
  split
  · rename_i unregistered
    exact respond_settles (refused (fun both => by simp [both.1] at unregistered) _ _ _)
  split
  · rename_i foreign
    exact respond_settles (refused (fun both => by simp [both.2] at foreign) _ _ _)
  split
  · exact .refl _
  cases named : headers.get .callId with
  | none =>
    have foreign : SipMessage.belongsTo dialog (.request line headers body) = false := by
      simp [SipMessage.belongsTo,SipMessage.callId,SipMessage.headers,named]
    exact respond_settles (reply_buildResponse.silent foreign)
  | some callId =>
    simp only
    cases found : s.part.table.find callId with
    | some bridge =>
      simp only
      split
      · exact respond_settles (silent_provisional (Nat.le_of_ble_eq_true rfl))
      · exact .refl _
    | none =>
      have other : callId ≠ dialog.upstreamCallId := by
        rintro rfl
        simp [Bridges.phase,found] at held
      have foreign : SipMessage.belongsTo dialog (.request line headers body) = false := by
        simp [SipMessage.belongsTo,SipMessage.callId,SipMessage.headers,named,other]
      simp only
      split
      · exact respond_settles (reply_buildResponse.silent foreign)
      rename_i offer checked
      have offered : offer.callId ≠ dialog.upstreamCallId := by
        rw [(BridgesMove.parseOffer_ok checked).1]
        exact other
      exact .silent (phase_put_other offered) (silent_pair (silent_provisional (Nat.le_of_ble_eq_true rfl)) ⟨rfl,rfl⟩) False.elim

theorem settles_apart (other : callId ≠ dialog.upstreamCallId) (same : b'.phase dialog = b.phase dialog)
    (silent : ∀ output ∈ outputs, Silent dialog output) :
    Settles dialog (callId = dialog.upstreamCallId) upstream b outputs b' :=
  .silent same silent fun named => absurd named other

def Acknowledges (config : CascadeConfig) (dialog : Bridge) : CascadeEvent → Prop
  | .request (.request line headers _) =>
    line.method = .ack ∧ requestTargetedAtLocal line headers config.localUri = true ∧
      requestFromMatchesUpstream headers config.upstream = true ∧ headers.get .callId = some dialog.upstreamCallId
  | _ => False

def EndsUpstream : CascadeEvent → Prop
  | .request (.request line _ _) => line.method = .bye ∨ line.method = .cancel
  | _ => False

def Orderly (config : CascadeConfig) (dialog : Bridge) (m : Machine E) (input : CascadeInput) : Prop :=
  match input.event with
  | .request (.request line headers body) =>
    (SipMessage.belongsTo dialog (.request line headers body) = true →
      line.method = .invite ∧ m.registered = true ∧ requestFromMatchesUpstream headers config.upstream = true) ∧
    (headers.get .callId = some dialog.upstreamCallId → (line.method = .bye → m.bridges.phase dialog ≠ some .invited) ∧
      (line.method = .ack → m.bridges.phase dialog = some .closing → TokenText dialog.upstreamCallId))
  | .bridgeMediaStop bridgeId =>
    bridgeId = dialog.bridgeId → m.bridges.phase dialog = some .active → TokenText dialog.upstreamCallId
  | .tick => ∀ bridge ∈ m.bridges.table.rows, ¬ Wedged input.now bridge
  | _ => True

instance (m : Machine E) (input : CascadeInput) : Decidable (Orderly config dialog m input) := by
  unfold Orderly
  split <;> infer_instance

theorem settles_turnedDown (sound : b.Sound config) (traces : Traces dialog b) (listed : bridge ∈ b.table.rows)
    (invited : bridge.state = .invited) (final : 200 ≤ code) :
    Settles dialog False False b
      [.sendResponse (buildInviteResponseFromBridge config.localUri bridge code text ""),
        playStopped config bridge.bridgeId reason] (b.drop bridge.upstreamCallId) := by
  refine settles_dropped traces listed (fun own => ?_)
    (fun named => forall_mem_singleton.mpr (inviteResponse_silent named)) False.elim
  have answers : (sendResponse (buildInviteResponseFromBridge config.localUri bridge code text "")).answers
      dialog = true := inviteResponse_answers own (sound.parses bridge listed).2 final
  exact ⟨by simp [answersIn,answers,invited],by simp [stopsIn],
    fun active => absurd (invited.symm.trans active) (by decide),False.elim⟩

theorem settles_closed (traces : Traces dialog b) (listed : bridge ∈ b.table.rows) (answered : bridge.state ≠ .invited)
    (inactive : bridge.state ≠ .active) :
    Settles dialog False False b [playStopped config bridge.bridgeId reason] (b.drop bridge.upstreamCallId) :=
  settles_dropped traces listed (fun _ => ⟨by simp [answersIn,answered],rfl,fun active => absurd active inactive,False.elim⟩)
    (fun _ => forall_mem_nil _) False.elim

section

variable (usable : Usable config) (sound : s.part.Sound config) (traces : Traces dialog s.part)

include traces

theorem handleBye_settles (foreign : SipMessage.belongsTo dialog (.request line headers body) = false)
    (answered : callId = dialog.upstreamCallId → s.part.phase dialog ≠ some .invited) :
    Settles dialog False True s.part (handleBye config headers callId s).1 (handleBye config headers callId s).2.part := by
  have ok : Silent dialog (.sendResponse (buildResponse headers 200 "OK" "")) := reply_buildResponse.silent foreign
  unfold handleBye
  cases found : s.part.table.find callId with
  | none => exact .refl _
  | some bridge =>
    obtain ⟨listed,rfl⟩ := s.part.table.find_eq_some.mp found
    refine settles_dropped traces listed (fun own => ?_) (fun _ => forall_mem_singleton.mpr ok) False.elim
    have later : bridge.state ≠ .invited := fun invited =>
      answered own.named ((phase_of_mem traces listed own.named).trans (congrArg some invited))
    exact ⟨by simp [answersIn,ok.answers,later],by simp [stopsIn],fun _ => .inl trivial,False.elim⟩

include sound

theorem handleCancel_settles (foreign : SipMessage.belongsTo dialog (.request line headers body) = false) :
    Settles dialog False True s.part (handleCancel config headers callId s).1
      (handleCancel config headers callId s).2.part := by
  have ok : Silent dialog (.sendResponse (buildResponse headers 200 "OK" "")) := reply_buildResponse.silent foreign
  unfold handleCancel
  cases found : s.part.table.find callId with
  | none => exact .refl _
  | some bridge =>
    obtain ⟨listed,rfl⟩ := s.part.table.find_eq_some.mp found
    simp only
    split
    · exact .silent rfl (forall_mem_singleton.mpr ok) False.elim
    rename_i invited
    refine settles_dropped traces listed (fun own => ?_) (fun named => silent_pair ok (inviteResponse_silent named)) False.elim
    have answers : (sendResponse (buildInviteResponseFromBridge config.localUri bridge 487
        "Request Terminated" "")).answers dialog = true :=
      inviteResponse_answers own (sound.parses bridge listed).2 (by decide)
    exact ⟨by simp [answersIn,ok.answers,answers,not_not.mp invited],by simp [stopsIn],fun _ => .inl trivial,False.elim⟩

theorem onMediaReady_settles :
    Settles dialog False False s.part (given (onMediaReady config ports bridgeId answerSdp s).1)
      (onMediaReady config ports bridgeId answerSdp s).2.part := by
  unfold onMediaReady
  split
  · exact .refl _
  split
  · exact .refl _
  rename_i bridge found
  have listed : bridge ∈ s.part.table.rows := mem_of_find?_eq_some found
  split
  · exact .refl _
  rename_i invited
  split
  · exact .refl _
  by_cases named : bridge.upstreamCallId = dialog.upstreamCallId
  · have own : Own dialog bridge := (traces bridge listed).1 named
    have held : s.part.phase dialog = some .invited :=
      (phase_of_mem traces listed named).trans (congrArg some (not_not.mp invited))
    have answers : (sendResponse (buildInviteResponseFromBridge config.localUri bridge 200 "OK"
        answerSdp)).answers dialog = true :=
      inviteResponse_answers own (sound.parses bridge listed).2 (by decide)
    exact .entered (own.with .accepted _) held (by decide) (by simp [given,answersIn,answers,answersGiven])
      (by simp [given,stopsIn]) False.elim
  · exact .silent (phase_put_other named) (forall_mem_singleton.mpr (inviteResponse_silent named)) False.elim

include usable

theorem handleAck_settles (token : callId = dialog.upstreamCallId → s.part.phase dialog = some .closing →
    TokenText dialog.upstreamCallId) :
    Settles dialog (callId = dialog.upstreamCallId) False s.part (handleAck config now callId s).1
      (handleAck config now callId s).2.part := by
  unfold handleAck
  cases found : s.part.table.find callId with
  | none =>
    refine .silent rfl (forall_mem_nil _) ?_
    rintro rfl state held
    simp [Bridges.phase,found] at held
  | some bridge =>
    obtain ⟨listed,rfl⟩ := s.part.table.find_eq_some.mp found
    have stays (settled : bridge.state = .invited ∨ bridge.state = .active) :
        Settles dialog (bridge.upstreamCallId = dialog.upstreamCallId) False s.part [] s.part := by
      refine .silent rfl (forall_mem_nil _) fun named state held => ?_
      rwa [← Option.some.inj ((phase_of_mem traces listed named).symm.trans held)]
    simp only
    split
    · rename_i state
      by_cases named : bridge.upstreamCallId = dialog.upstreamCallId
      · have held := phase_of_mem traces listed named
        exact .entered (((traces bridge listed).1 named).with .active _) held
          (by simp [state]) (by rw [state]; rfl) rfl fun _ => rfl
      · exact settles_apart named (phase_put_other named) (forall_mem_nil _)
    · rename_i state
      split
      · rename_i ran
        simp only [BridgeSide.drop,BridgesMove.bye_part ran]
        exact settles_hungUp traces listed (by simp [state]) ran id
      rename_i ran
      rw [BridgesMove.bye_part ran]
      refine settles_apart (fun named => ?_) rfl (forall_mem_nil _)
      have held := (phase_of_mem traces listed named).trans (congrArg some state)
      exact bye_written usable sound listed (named ▸ token named held) ran
    · exact stays (.inl ‹_›)
    · exact stays (.inr ‹_›)

theorem handleBridgeRequest_settles (ports : Ports E) (now : Nat) (msg : SipMessage) (held : s.part.phase dialog = some state)
    (genuine : SipMessage.belongsTo dialog (.request line headers body) = true →
      line.method = .invite ∧ registered = true ∧ requestFromMatchesUpstream headers config.upstream = true)
    (orderly : headers.get .callId = some dialog.upstreamCallId →
      (line.method = .bye → s.part.phase dialog ≠ some .invited) ∧
      (line.method = .ack → s.part.phase dialog = some .closing → TokenText dialog.upstreamCallId)) :
    Settles dialog (Acknowledges config dialog (.request (.request line headers body)))
      (EndsUpstream (.request (.request line headers body))) s.part
      (handleBridgeRequest config ports registered now msg line headers body s).1
      (handleBridgeRequest config ports registered now msg line headers body s).2.part := by
  unfold handleBridgeRequest
  split
  · rename_i invite
    refine (handleInvite_settles held fun belongs => (genuine belongs).2).weaken (fun acks => ?_) False.elim
    exact absurd (invite.symm.trans acks.1) (by decide)
  rename_i request
  have foreign := Bool.eq_false_iff.mpr fun belongs => request (genuine belongs).1
  split
  · rename_i unmeant
    refine (Settles.refl _).weaken (fun acks => ?_) id
    simp [acks.2.1,acks.2.2.1] at unmeant
  cases named : headers.get .callId with
  | none =>
    refine (Settles.refl _).weaken (fun acks => ?_) id
    exact absurd (named.symm.trans acks.2.2.2) nofun
  | some callId =>
    have about (same : callId = dialog.upstreamCallId) : headers.get .callId = some dialog.upstreamCallId :=
      named.trans (congrArg some same)
    simp only
    split
    · rename_i ack
      refine (handleAck_settles usable sound traces fun same => (orderly (about same)).2 ack).weaken (fun acks => ?_)
        False.elim
      exact Option.some.inj (named.symm.trans acks.2.2.2)
    · rename_i bye
      refine (handleBye_settles traces foreign fun same => (orderly (about same)).1 bye).weaken (fun acks => ?_)
        fun _ => .inl bye
      exact absurd (bye.symm.trans acks.1) (by decide)
    · rename_i cancel
      refine (handleCancel_settles sound traces foreign).weaken (fun acks => ?_) fun _ => .inr cancel
      exact absurd (cancel.symm.trans acks.1) (by decide)
    · rename_i ack _ _
      exact (Settles.refl _).weaken (fun acks => ack acks.1) id

theorem onMediaStop_settles (token : bridgeId = dialog.bridgeId → s.part.phase dialog = some .active →
    TokenText dialog.upstreamCallId) :
    Settles dialog False False s.part (given (onMediaStop config now bridgeId s).1)
    (onMediaStop config now bridgeId s).2.part := by
  unfold onMediaStop
  split
  · exact .refl _
  split
  · exact .refl _
  rename_i bridge found
  have listed : bridge ∈ s.part.table.rows := mem_of_find?_eq_some found
  have asked : bridge.bridgeId = bridgeId := by simpa using List.find?_some found
  cases state : bridge.state with
  | invited => exact settles_turnedDown sound traces listed state (by decide)
  | closing => exact settles_closed traces listed (by simp [state]) (by simp [state])
  | accepted =>
    by_cases named : bridge.upstreamCallId = dialog.upstreamCallId
    · have held : s.part.phase dialog = some .accepted := (phase_of_mem traces listed named).trans (congrArg some state)
      exact .entered (((traces bridge listed).1 named).with .closing _) held (by decide) rfl rfl False.elim
    · exact .silent (phase_put_other named) (forall_mem_nil _) False.elim
  | active =>
    cases ran : bye config bridge (s.drop bridge.upstreamCallId) with
    | mk result s' =>
      have kept := BridgesMove.bye_part ran
      cases result with
      | ok request =>
        simp only [kept]
        exact settles_hungUp traces listed (by simp [state]) ran False.elim
      | error e =>
        simp only [kept]
        refine .silent (phase_drop_other fun named => ?_) (forall_mem_nil _) False.elim
        have held := (phase_of_mem traces listed named).trans (congrArg some state)
        have own := (traces bridge listed).1 named
        exact bye_written usable sound listed (named ▸ token (asked.symm.trans own.same) held) ran

theorem expireBridge_settles (listed : bridge ∈ s.part.table.rows) (free : ¬ Wedged now bridge) :
    Settles dialog False False s.part (given (expireBridge config now bridge s).1)
      (expireBridge config now bridge s).2.part := by
  simp only [expireBridge]
  cases state : bridge.state with
  | invited => exact settles_turnedDown sound traces listed state (by decide)
  | accepted => exact settles_closed traces listed (by simp [state]) (by simp [state])
  | closing => exact settles_closed traces listed (by simp [state]) (by simp [state])
  | active =>
    simp only
    split
    · rename_i due
      split
      · rename_i ran
        simp only [BridgeSide.drop,BridgesMove.bye_part ran]
        exact settles_hungUp traces listed (by simp [state]) ran False.elim
      rename_i ran
      refine absurd ran (bye_written usable sound listed ?_)
      by_contra foreign
      exact free ⟨state,due.2,foreign⟩
    · exact .refl _

end

theorem Traces.within (traces : Traces dialog b) (within : b'.Within b) : Traces dialog b' :=
  fun bridge listed => traces bridge (within.2 bridge listed)

theorem expireBridge_keeps (listed : other ∈ s.part.table.rows) (apart : other.upstreamCallId ≠ bridge.upstreamCallId) :
    other ∈ (expireBridge config now bridge s).2.part.table.rows := by
  have kept := s.part.table.mem_remove.mpr ⟨listed,apart⟩
  simp only [expireBridge]
  split
  · exact kept
  · exact kept
  · split
    · split
      · rename_i ran
        simp only [BridgeSide.drop,BridgesMove.bye_part ran]
        exact kept
      · rename_i ran
        rw [BridgesMove.bye_part ran]
        exact listed
    · exact listed
  · exact kept

theorem expireBridges_settles (usable : Usable config) (sound : s.part.Sound config) (traces : Traces dialog s.part)
    (listed : ∀ bridge ∈ expired, bridge ∈ s.part.table.rows)
    (apart : expired.Pairwise fun bridge other => bridge.upstreamCallId ≠ other.upstreamCallId)
    (free : ∀ bridge ∈ expired, ¬ Wedged now bridge) :
    Settles dialog False False s.part (given (expireBridges config now expired s).1)
      (expireBridges config now expired s).2.part := by
  induction expired generalizing s with
  | nil => exact .refl _
  | cons bridge rest ih =>
    obtain ⟨here,later⟩ := forall_mem_cons.mp listed
    obtain ⟨hereFree,laterFree⟩ := forall_mem_cons.mp free
    obtain ⟨differ,apart⟩ := pairwise_cons.mp apart
    obtain ⟨outputs,returned⟩ := (expireBridge_succeeds_iff usable now s (sound.parses bridge here).1).mpr hereFree
    have settles : Settles dialog False False s.part _ _ := expireBridge_settles usable sound traces here hereFree
    have within : (expireBridge config now bridge s).2.part.Within s.part := BridgesMove.expireBridge_within
    have kept (other : Bridge) (member : other ∈ rest) : other ∈ (expireBridge config now bridge s).2.part.table.rows :=
      expireBridge_keeps (later other member) (differ other member).symm
    cases ran : expireBridge config now bridge s with
    | mk result s' =>
      rw [ran] at returned settles within kept
      obtain rfl : result = .ok outputs := returned
      have sound' : s'.part.Sound config := sound.move (.fewer within)
      have remaining := ih sound' (traces.within within) kept apart laterFree
      obtain ⟨more,ended⟩ := (expireBridges_succeeds_iff usable fun other member =>
        (sound'.parses other (kept other member)).1).mpr laterFree
      cases ran' : expireBridges config now rest s' with
      | mk result' s'' =>
        rw [ran'] at ended remaining
        obtain rfl : result' = .ok more := ended
        simp only [expireBridges,ran,ran']
        exact settles.append remaining

theorem onBridgeTick_settles (usable : Usable config) (sound : s.part.Sound config) (traces : Traces dialog s.part)
    (free : ∀ bridge ∈ s.part.table.rows, ¬ Wedged now bridge) :
    Settles dialog False False s.part (given (onBridgeTick config now s).1) (onBridgeTick config now s).2.part := by
  refine expireBridges_settles usable sound traces (fun bridge => mem_of_mem_filter) ?_ fun bridge listed =>
    free bridge (mem_of_mem_filter listed)
  exact (s.part.table.sorted.imp fun less => less.ne).filter _

end Handlers

section Steps

variable {E : Type} {config : CascadeConfig} {ports : Ports E} {dialog : Bridge}

theorem traces_of_mem (sound : b.Sound config) (listed : row ∈ b.table.rows) (own : Own dialog row) :
    Traces dialog b := by
  intro bridge held
  refine ⟨fun callId => ?_,fun id => ?_⟩
  · rw [b.table.unique held listed (callId.trans own.named.symm)]
    exact own
  · rw [sound.distinct bridge held row listed (id.trans own.same.symm)]
    exact own.named

variable {m : Machine E} (usable : Usable config) (sound : m.bridges.Sound config) (traces : Traces dialog m.bridges)
include usable sound traces

theorem onTick_settles (paced : m.registrar.state.Paced sent) (few : ∀ callId, sent callId < 2 ^ 32 - 1)
    (free : ∀ bridge ∈ m.bridges.table.rows, ¬ Wedged now bridge) :
    Settles dialog False False m.bridges (given (onTick config ports now m).1) (onTick config ports now m).2.bridges := by
  have settles : Settles dialog False False m.bridges _ _ :=
    onBridgeTick_settles (s := ⟨m.requestCounter,m.bridges⟩) usable sound traces free
  obtain ⟨outputs,returned⟩ : Succeeds (onTick config ports now m) :=
    (tick_succeeds_iff usable paced few sound).mpr free
  have ticked := onTick_ticked config ports now m
  generalize onTick config ports now m = outcome at ticked returned ⊢
  cases ticked with
  | bridgesFailed ran registrar bridges => cases returned
  | registrationFailed ran entered ran' registrar bridges => cases returned
  | @flushed s bridgeOutputs n subscriptionOutputs n' r r' registrationOutputs p p' m' ran notified entered ran'
      registrar bridges reported flushed =>
    rw [ran] at settles
    have subscriptions : ∀ output ∈ subscriptionOutputs, Silent dialog output := by
      have silent : ∀ output ∈ (onSubscriptionTick config now n).1, Silent dialog output := tickSubscriptions_silent _ _
      rwa [notified] at silent
    have registration : ∀ output ∈ registrationOutputs, Silent dialog output := by
      have moved : MovesFrom config r (onRegistrationTick config ports m.env now r) := onRegistrationTick_moves
      rw [ran'] at moved
      exact moved.silent
    have reports : ∀ output ∈ given reported, Silent dialog output := by
      have silent : ∀ output ∈ given (flush config r'.part.state.isRegistered now p).1, Silent dialog output := flush_silent _
      rwa [flushed] at silent
    cases reported with
    | error e => cases returned
    | ok reportOutputs =>
      simp only [bridges,append_assoc] at reports ⊢
      refine settles.append (.silent rfl ?_ False.elim)
      exact forall_mem_append.mpr ⟨subscriptions,forall_mem_append.mpr ⟨registration,reports⟩⟩

theorem onRequest_settles (held : m.bridges.phase dialog = some state) (orderly : Orderly config dialog m ⟨now,.request msg⟩) :
    Settles dialog (Acknowledges config dialog (.request msg)) (EndsUpstream (.request msg)) m.bridges
      (onRequest config ports now msg m).1 (onRequest config ports now msg m).2.bridges := by
  cases msg with
  | response status headers body => exact (Settles.refl _).weaken False.elim False.elim
  | request line headers body =>
    obtain ⟨genuine,orderly⟩ := orderly
    have replied (other : line.method ≠ .invite) (unlike : line.method ≠ .ack)
        (outputs : List CascadeOutput) (replies : ∀ output ∈ outputs, Reply headers output) :
        Settles dialog (Acknowledges config dialog (.request (.request line headers body)))
          (EndsUpstream (.request (.request line headers body))) m.bridges outputs m.bridges := by
      have foreign := Bool.eq_false_iff.mpr fun belongs => other (genuine belongs).1
      exact .silent rfl (fun output member => (replies output member).silent foreign) fun acks => absurd acks.1 unlike
    have bridged := handleBridgeRequest_settles (s := ⟨m.requestCounter,m.bridges⟩) usable sound traces ports now
      (.request line headers body) held genuine orderly
    simp only [onRequest]
    split
    · exact bridged
    · exact bridged
    · exact bridged
    · exact bridged
    · rename_i subscribe
      exact replied (by simp [subscribe]) (by simp [subscribe]) _ handleSubscribe_replies
    · rename_i invite ack _ _ _
      exact replied invite ack _ handleCatalogRequest_replies

/-- One step of the machine while the bridge is there. -/
theorem step_settles (held : m.bridges.phase dialog = some state) (paced : m.registrar.state.Paced sent)
    (few : ∀ callId, sent callId < 2 ^ 32 - 1) (orderly : Orderly config dialog m input) :
    Settles dialog (Acknowledges config dialog input.event) (EndsUpstream input.event) m.bridges
      (emitted config ports m input) (step config ports m input).bridges := by
  obtain ⟨now,event⟩ := input
  have moved (outcome : Outcome (Counted Registrar))
      (moves : MovesFrom config ⟨m.requestCounter,m.registrar⟩ outcome) :
      Settles dialog False False m.bridges (given outcome.1) m.bridges := .silent rfl moves.silent False.elim
  cases event with
  | register => exact (moved _ onRegister_moves).weaken id id
  | deregister => exact (moved _ onDeregister_moves).weaken id id
  | response msg => exact (moved _ onResponse_moves).weaken id id
  | request msg => exact onRequest_settles usable sound traces held orderly
  | bridgeMediaReady bridgeId answerSdp =>
    exact (onMediaReady_settles (s := ⟨m.requestCounter,m.bridges⟩) sound traces).weaken id id
  | bridgeMediaStop bridgeId =>
    exact (onMediaStop_settles (s := ⟨m.requestCounter,m.bridges⟩) usable sound traces orderly).weaken id id
  | tick => exact (onTick_settles usable sound traces paced few orderly).weaken id id
  | report event =>
    have quiet : given (enqueue config ports now event ⟨m.requestCounter,m.reports⟩).1 = [] := enqueue_given _
    show Settles dialog False False m.bridges (given (enqueue config ports now event ⟨m.requestCounter,m.reports⟩).1) m.bridges
    rw [quiet]
    exact .refl _

end Steps

section Runs

variable {E : Type} {config : CascadeConfig} {ports : Ports E} {dialog : Bridge}

theorem emittedBy_append : emittedBy config ports m (first ++ rest) =
      emittedBy config ports m first ++ emittedBy config ports (execute (step config ports) m first) rest := by
  simp [emittedBy,GuardedRun.outputs_append]

theorem emittedBy_single :
    emittedBy config ports m [input] = emitted config ports m input := by
  simp [emittedBy,GuardedRun.outputs]

/-- The machine is in a state that a run leads to, with room for the requests of what follows. -/
structure Ready (config : CascadeConfig) (ports : Ports E) (m : Machine E) (run : List CascadeInput) : Prop where
  sound : m.bridges.Sound config
  paced : ∃ sent, m.registrar.state.Paced sent ∧
    ∀ callId, sent callId + sentIn callId (emittedBy config ports m run) < 2 ^ 32 - 1

theorem Ready.earlier (ready : Ready config ports m (first ++ rest)) : Ready config ports m first := by
  obtain ⟨sent,paced,few⟩ := ready.paced
  refine ⟨ready.sound,sent,paced,fun callId => ?_⟩
  have := few callId
  rw [emittedBy_append,sentIn_append] at this
  omega

theorem Ready.later (usable : Usable config) (ready : Ready config ports m (first ++ rest)) :
    Ready config ports (execute (step config ports) m first) rest := by
  obtain ⟨sent,paced,few⟩ := ready.paced
  refine ⟨?_,_,run_paced usable m first paced,fun callId => ?_⟩
  · exact execute_invariant (I := fun m : Machine E => m.bridges.Sound config)
      (fun m input sound => sound.move step_bridges) first ready.sound
  · have := few callId
    rw [emittedBy_append,sentIn_append] at this
    omega

def Numbered (config : CascadeConfig) (dialog : Bridge) (b : Bridges) : Prop :=
  ∃ n ≤ b.bridgeCounter, dialog.bridgeId = config.platformId ++ "-bridge-" ++ toString n

theorem Numbered.move (numbered : Numbered config dialog b) (moved : BridgesMove config b b') :
    Numbered config dialog b' := by
  obtain ⟨n,le,named⟩ := numbered
  refine ⟨n,?_,named⟩
  cases moved with
  | fewer within => exact le.trans within.1.ge
  | updated held => exact le
  | opened number parses cseq => exact Nat.le_succ_of_le le

theorem BridgesMove.origin (moved : BridgesMove config b b') (numbered : Numbered config dialog b)
    (listed : row ∈ b'.table.rows) (same : row.bridgeId = dialog.bridgeId) :
    ∃ old ∈ b.table.rows, old.bridgeId = dialog.bridgeId ∧ Own old row := by
  cases moved with
  | fewer within => exact ⟨row,within.2 row listed,same,rfl⟩
  | @updated old state expiresAt held =>
    rcases b.table.mem_put.mp listed with rfl | ⟨listed,-⟩
    · exact ⟨old,held,same,rfl⟩
    · exact ⟨row,listed,same,rfl⟩
  | @opened new number parses cseq =>
    rcases b.table.mem_put.mp listed with rfl | ⟨listed,-⟩
    · obtain ⟨n,le,named⟩ := numbered
      have := bridgeId_inj ((number.symm.trans same).trans named)
      omega
    · exact ⟨row,listed,same,rfl⟩

/-- The ACK has come to the answered bridge. -/
def Acknowledged (config : CascadeConfig) (ports : Ports E) (dialog : Bridge) (m : Machine E)
    (run : List CascadeInput) : Prop :=
  ∃ before input after, run = before ++ input :: after ∧ Acknowledges config dialog input.event ∧
    ∃ bridge ∈ (execute (step config ports) m before).bridges.table.rows,
      bridge.bridgeId = dialog.bridgeId ∧ bridge.state ≠ .invited

theorem acknowledged_snoc (acknowledged : Acknowledged config ports dialog m (run ++ [last])) :
    Acknowledged config ports dialog m run ∨
      Acknowledges config dialog last.event ∧ ∃ bridge ∈ (execute (step config ports) m run).bridges.table.rows,
        bridge.bridgeId = dialog.bridgeId ∧ bridge.state ≠ .invited := by
  obtain ⟨before,input,after,split,acks,held⟩ := acknowledged
  rcases eq_nil_or_concat after with rfl | ⟨after,final,rfl⟩
  · obtain ⟨rfl,same⟩ := append_inj' split rfl
    cases same
    exact .inr ⟨acks,held⟩
  · rw [concat_eq_append,← cons_append,← append_assoc] at split
    obtain ⟨rfl,-⟩ := append_inj' split rfl
    exact .inl ⟨before,input,after,rfl,acks,held⟩

/-- What has been given out for a play whose bridge is still there. -/
structure Standing (config : CascadeConfig) (ports : Ports E) (dialog : Bridge) (m : Machine E)
    (run : List CascadeInput) (bridge : Bridge) : Prop where
  own : Own dialog bridge
  answers : answersGiven (some bridge.state) = answersIn dialog (emittedBy config ports m run)
  stops : stopsIn dialog.bridgeId (emittedBy config ports m run) = 0
  acknowledged : Acknowledged config ports dialog m run → bridge.state = .active

theorem Standing.ends (standing : Standing config ports dialog m run bridge)
    (sound : (execute (step config ports) m run).bridges.Sound config)
    (listed : bridge ∈ (execute (step config ports) m run).bridges.table.rows)
    (phase : (execute (step config ports) m run).bridges.phase dialog = some bridge.state)
    (settles : Settles dialog (Acknowledges config dialog last.event) upstream
      (execute (step config ports) m run).bridges outputs b')
    (acknowledged : Acknowledged config ports dialog m (run ++ [last])) :
    b'.phase dialog = some .active ∨ b'.phase dialog = none ∧ (upstream ∨ 0 < byesIn dialog.upstreamCallId outputs) := by
  rcases acknowledged_snoc acknowledged with acknowledged | ⟨acks,row,listedRow,sameRow,answered⟩
  · exact settles.active (phase.trans (congrArg some (standing.acknowledged acknowledged)))
  · obtain rfl := sound.distinct row listedRow bridge listed (sameRow.trans standing.own.same.symm)
    exact (settles.acknowledged acks _ phase answered).imp_right fun gone => ⟨gone.1,.inr gone.2⟩

theorem Standing.settles (usable : Usable config) (ready : Ready config ports m (run ++ [last]))
    (listed : bridge ∈ (execute (step config ports) m run).bridges.table.rows)
    (standing : Standing config ports dialog m run bridge)
    (orderly : Orderly config dialog (execute (step config ports) m run) last) :
    (execute (step config ports) m run).bridges.phase dialog = some bridge.state ∧
      Settles dialog (Acknowledges config dialog last.event) (EndsUpstream last.event)
        (execute (step config ports) m run).bridges (emitted config ports (execute (step config ports) m run) last)
        (execute (step config ports) m (run ++ [last])).bridges := by
  have later := ready.later usable
  obtain ⟨sent,paced,few⟩ := later.paced
  have traces := traces_of_mem later.sound listed standing.own
  have held := phase_of_mem traces listed standing.own.named
  rw [execute_append]
  refine ⟨held,step_settles usable later.sound traces held paced (fun callId => ?_) orderly⟩
  exact (Nat.le_add_right _ _).trans_lt (few callId)

/-- After an orderly run a bridge that is still there was answered as its state says, and not stopped. -/
theorem standing_of_run (usable : Usable config) (ready : Ready config ports m run)
    (numbered : Numbered config dialog m.bridges) (opened : dialog ∈ m.bridges.table.rows)
    (invited : dialog.state = .invited) (guarded : Guarded (step config ports) (Orderly config dialog) m run) :
    ∀ bridge ∈ (execute (step config ports) m run).bridges.table.rows, bridge.bridgeId = dialog.bridgeId →
      Standing config ports dialog m run bridge := by
  induction run using List.reverseRecOn with
  | nil =>
    intro bridge listed same
    obtain rfl := ready.sound.distinct bridge listed dialog opened same
    refine ⟨rfl,?_,rfl,?_⟩
    · rw [invited]
      rfl
    · rintro ⟨before,input,after,split,-⟩
      simp at split
  | append_singleton run last ih =>
    intro bridge listed same
    obtain ⟨earlier,orderly,-⟩ := GuardedRun.guarded_append.mp guarded
    have moved : BridgesMove config (execute (step config ports) m run).bridges
        (execute (step config ports) m (run ++ [last])).bridges := by
      rw [execute_append]
      exact step_bridges
    have numbered' : Numbered config dialog (execute (step config ports) m run).bridges :=
      execute_invariant (I := fun m : Machine E => Numbered config dialog m.bridges)
        (fun m input numbered => numbered.move step_bridges) run numbered
    obtain ⟨old,held,sameOld,kept⟩ := moved.origin numbered' listed same
    have standing := ih ready.earlier earlier old held sameOld
    obtain ⟨phase,settles⟩ := standing.settles usable ready held orderly
    have own : Own dialog bridge := by
      have := standing.own
      rw [this] at kept
      exact kept
    have sound := (ready.later usable).sound.move moved
    have phase' := phase_of_mem (traces_of_mem sound listed own) listed own.named
    have answers := settles.answers
    have stops := settles.stops
    rw [phase,phase'] at answers stops
    refine ⟨own,?_,?_,fun acknowledged => ?_⟩
    · rw [answers,standing.answers,emittedBy_append,emittedBy_single]
      exact countP_append.symm
    · rw [emittedBy_append,emittedBy_single]
      have before := standing.stops
      simp only [stopsGiven,stopsIn,countP_append] at stops before ⊢
      omega
    · have active := (standing.ends (ready.later usable).sound held phase settles acknowledged).resolve_right fun gone => by
        simp [phase'] at gone
      exact Option.some.inj (phase'.symm.trans active)

end Runs

section Plays

variable {E : Type} {config : CascadeConfig} {ports : Ports E}

/-- The bridge is the one this INVITE has opened. -/
structure OpenedBy (callId : String) (invite : SipMessage) (dialog : Bridge) : Prop where
  callId : dialog.upstreamCallId = callId
  via : dialog.upstreamVia = invite.headers.getAll .via
  cseq : ∃ method, invite.cseq = .ok (dialog.upstreamCseq,method)
  state : dialog.state = .invited

/-- Only an INVITE that passed the checks asks for a play. -/
theorem handleInvite_opens
    (requested : emitEvent (.cascadePlayRequested domainId platformId bridgeId callId fromValue toValue targetUser sdp) ∈
      (handleInvite config ports registered now msg line headers body s).1) :
    ∃ offer : Offer, offer.callId = callId ∧ (∃ method, msg.cseq = .ok (offer.cseq,method)) ∧
      bridgeId = config.platformId ++ "-bridge-" ++ toString (s.part.bridgeCounter + 1) ∧
      handleInvite config ports registered now msg line headers body s = openBridge config now headers offer s := by
  have refused (code : Nat) (reason : String) : emitEvent
      (.cascadePlayRequested domainId platformId bridgeId callId fromValue toValue targetUser sdp) ∉
        (respond config now headers code reason s).1 := by
    simp [respond]
  generalize ran : handleInvite config ports registered now msg line headers body s = outcome at requested ⊢
  unfold handleInvite at ran
  split at ran
  · exact absurd (ran ▸ requested) (refused _ _)
  split at ran
  · exact absurd (ran ▸ requested) (refused _ _)
  split at ran
  · cases ran
    cases requested
  split at ran
  · exact absurd (ran ▸ requested) (refused _ _)
  split at ran
  · split at ran
    · exact absurd (ran ▸ requested) (refused _ _)
    · cases ran
      cases requested
  split at ran
  · exact absurd (ran ▸ requested) (refused _ _)
  rename_i offer checked
  subst ran
  simp only [openBridge,mem_cons,not_mem_nil,or_false,reduceCtorEq,false_or] at requested
  obtain ⟨-,-,rfl,rfl,-⟩ := requested
  exact ⟨offer,rfl,(BridgesMove.parseOffer_ok checked).2,rfl,rfl⟩

/-- What has been given out for a play once its bridge is gone. -/
structure TornDown (dialog : Bridge) (acknowledged upstream : Prop) (outputs : List CascadeOutput) : Prop where
  answers : answersIn dialog outputs = 1
  stops : stopsIn dialog.bridgeId outputs = 1
  byes : acknowledged → ¬ upstream → 0 < byesIn dialog.upstreamCallId outputs

theorem TornDown.behind (torn : TornDown dialog acknowledged upstream outputs)
    (silent : ∀ output ∈ before, Silent dialog output) : TornDown dialog acknowledged upstream (before ++ outputs) := by
  obtain ⟨answers,stops⟩ := silent_counts silent
  refine ⟨?_,?_,fun acks local' => ?_⟩
  · have := torn.answers
    unfold answersIn at *
    rw [countP_append,answers,this]
  · have := torn.stops
    unfold stopsIn at *
    rw [countP_append,stops,this]
  have := torn.byes acks local'
  unfold byesIn at *
  rw [countP_append]
  exact Nat.add_pos_right _ this

theorem tornDown_of_left (usable : Usable config) (ready : Ready config ports m (run ++ [last]))
    (numbered : Numbered config dialog m.bridges) (opened : dialog ∈ m.bridges.table.rows)
    (invited : dialog.state = .invited)
    (guarded : Guarded (step config ports) (Orderly config dialog) m (run ++ [last]))
    (held : bridge ∈ (execute (step config ports) m run).bridges.table.rows)
    (same : bridge.bridgeId = dialog.bridgeId)
    (left : ∀ bridge ∈ (execute (step config ports) m (run ++ [last])).bridges.table.rows, bridge.bridgeId ≠ dialog.bridgeId) :
    TornDown dialog (Acknowledged config ports dialog m (run ++ [last])) (EndsUpstream last.event)
      (emittedBy config ports m (run ++ [last])) := by
  obtain ⟨earlier,orderly,-⟩ := GuardedRun.guarded_append.mp guarded
  have standing := standing_of_run usable ready.earlier numbered opened invited earlier bridge held same
  obtain ⟨phase,settles⟩ := standing.settles usable ready held orderly
  have gone : (execute (step config ports) m (run ++ [last])).bridges.phase dialog = none := by
    unfold Bridges.phase
    cases found : (execute (step config ports) m (run ++ [last])).bridges.table.find dialog.upstreamCallId with
    | none => rfl
    | some row =>
      have other : row.bridgeId ≠ dialog.bridgeId := left row (Table.find_eq_some _ |>.mp found).1
      simp [other]
  have answers := settles.answers
  have stops := settles.stops
  rw [phase,gone] at answers stops
  rw [emittedBy_append,emittedBy_single]
  refine ⟨?_,?_,fun acknowledged upstream => ?_⟩
  · rw [standing.answers] at answers
    exact countP_append.trans answers.symm
  · have before := standing.stops
    simp only [stopsGiven,stopsIn,countP_append] at stops before ⊢
    omega
  have ended := (standing.ends (ready.later usable).sound held phase settles acknowledged).resolve_left (by simp [gone])
  unfold byesIn at ended ⊢
  rw [countP_append]
  exact Nat.add_pos_right _ (ended.2.resolve_left upstream)

theorem invite_opens (isInvite : invite = .request ⟨.invite,uri⟩ headers body)
    (requested : emitEvent (.cascadePlayRequested domainId platformId bridgeId callId fromValue toValue targetUser sdp) ∈ emitted
      config ports m ⟨now,.request invite⟩) :
    ∃ dialog, OpenedBy callId invite dialog ∧ dialog.bridgeId = bridgeId ∧
      bridgeId = config.platformId ++ "-bridge-" ++ toString (m.bridges.bridgeCounter + 1) ∧
      (step config ports m ⟨now,.request invite⟩).bridges =
        Bridges.put { m.bridges with bridgeCounter := m.bridges.bridgeCounter + 1 } dialog ∧
      ∀ output ∈ emitted config ports m ⟨now,.request invite⟩, Silent dialog output := by
  subst isInvite
  have ran : process config ports m ⟨now,.request (.request ⟨.invite,uri⟩ headers body)⟩ =
      (.ok (m.onBridges (handleInvite config ports m.registered now (.request ⟨.invite,uri⟩ headers body) ⟨.invite,uri⟩
        headers body)).1,(m.onBridges (handleInvite config ports m.registered now
          (.request ⟨.invite,uri⟩ headers body) ⟨.invite,uri⟩ headers body)).2) := rfl
  obtain ⟨offer,rfl,parsed,rfl,opens⟩ := handleInvite_opens requested
  refine ⟨offer.bridge config now headers _,⟨rfl,rfl,parsed,rfl⟩,rfl,rfl,?_,?_⟩
  · rw [step,ran]
    simp only [Machine.onBridges,opens]
    rfl
  · rw [emitted_eq,ran]
    simp only [Machine.onBridges,opens]
    exact forall_mem_cons.mpr ⟨silent_provisional (Nat.le_of_ble_eq_true rfl),forall_mem_singleton.mpr ⟨rfl,rfl⟩⟩

/-- A play that was asked for has a bridge. If every input is orderly until the bridge leaves the
table, then by that time the INVITE has got exactly one final response, the application has been
told once that the play has stopped, and an acknowledged dialog that the upstream platform has not
ended itself has got a BYE. -/
theorem play_torn_down {running : CascadeConfig} {initial : Machine E} (ports : Ports E) (accepted : Accepted config)
    (host : isToken config.localUri.host = true) (user : ∀ user ∈ config.localUri.user, isToken user = true)
    (started : start config env = .ok (running,initial)) (before : List CascadeInput) (now : Nat) (uri : SipUri)
    (headers : SipHeaders) (body : ByteArray)
    (requested : emitEvent
        (.cascadePlayRequested domainId platformId bridgeId callId fromValue toValue targetUser sdp) ∈
      emitted running ports (execute (step running ports) initial before)
        ⟨now,.request (.request ⟨.invite,uri⟩ headers body)⟩) :
    let invite : SipMessage := .request ⟨.invite,uri⟩ headers body
    let opened := before ++ [⟨now,.request invite⟩]
    let m := execute (step running ports) initial opened
    (∃ dialog ∈ m.bridges.table.rows, dialog.bridgeId = bridgeId) ∧
      ∀ dialog ∈ m.bridges.table.rows, dialog.bridgeId = bridgeId → OpenedBy callId invite dialog ∧ ∀ run last,
          (∀ callId, sentIn callId (emittedBy running ports initial (opened ++ (run ++ [last]))) < 2 ^ 32 - 1) →
          Guarded (step running ports) (Orderly running dialog) m (run ++ [last]) →
          (∃ bridge ∈ (execute (step running ports) m run).bridges.table.rows, bridge.bridgeId = bridgeId) →
          (∀ bridge ∈ (execute (step running ports) m (run ++ [last])).bridges.table.rows, bridge.bridgeId ≠ bridgeId) →
          TornDown dialog (Acknowledged running ports dialog m (run ++ [last])) (EndsUpstream last.event)
            (emittedBy running ports (execute (step running ports) initial before)
              (⟨now,.request invite⟩ :: (run ++ [last]))) := by
  intro invite opened m
  obtain ⟨rfl,rfl⟩ := start_ok started
  have usable : Usable config.clampLimits := { usable_of_accepted accepted host user with }
  obtain ⟨dialog,openedBy,same,number,bridges,silent⟩ := invite_opens rfl requested
  have after : m = step config.clampLimits ports (execute (step config.clampLimits ports) (.new env) before)
      ⟨now,.request invite⟩ := execute_append _ _ _
  have listed : dialog ∈ m.bridges.table.rows := by
    rw [after,bridges]
    exact (Table.mem_put _).mpr (.inl rfl)
  have sound : m.bridges.Sound config.clampLimits :=
    execute_invariant (I := fun m : Machine E => m.bridges.Sound config.clampLimits)
      (fun m input sound => sound.move step_bridges) opened .empty
  refine ⟨⟨dialog,listed,same⟩,fun dialog' listed' same' => ?_⟩
  obtain rfl := sound.distinct dialog' listed' dialog listed (same'.trans same.symm)
  refine ⟨openedBy,fun run last few guarded held left => ?_⟩
  have ready : Ready config.clampLimits ports (.new env) (opened ++ (run ++ [last])) :=
    ⟨.empty,fun _ => 0,trivial,fun callId => by rw [Nat.zero_add]; exact few callId⟩
  have numbered : Numbered config.clampLimits dialog' m.bridges := by
    refine ⟨_,?_,same.trans number⟩
    rw [after,bridges]
    exact Nat.le_refl _
  obtain ⟨bridge,here,sameBridge⟩ := held
  have torn := tornDown_of_left usable (ready.later usable) numbered listed openedBy.state guarded here
    (sameBridge.trans same.symm) (same.symm ▸ left)
  have outputs : emittedBy config.clampLimits ports (execute (step config.clampLimits ports) (.new env) before)
      (⟨now,.request invite⟩ :: (run ++ [last])) =
      emitted config.clampLimits ports (execute (step config.clampLimits ports) (.new env) before) ⟨now,.request invite⟩ ++
        emittedBy config.clampLimits ports m (run ++ [last]) := by
    rw [after]
    rfl
  rw [outputs]
  exact torn.behind silent

end Plays

namespace Sample

def invite (callId : String) : SipMessage := dialogRequest .invite callId "1 INVITE"

def registeredRun : List CascadeInput := [⟨1,.register⟩,⟨2,.response (registerResponse 200 1 [])⟩]

def asked (callId : String) : Machine Unit :=
  execute (step config ports) (.new ()) (registeredRun ++ [⟨3,.request (invite callId)⟩])

def playBridge (callId : String) : Bridge :=
  ⟨"34020000002000000001-bridge-1",callId,"<sip:34020000002000000002@up.example>;tag=a",
    "<sip:34020000001320000001@10.0.0.2>",["SIP/2.0/UDP up.example;branch=z9hG4bK1"],1,.invited,63⟩

def playAnswered (callId : String) : List CascadeInput :=
  [⟨4,.bridgeMediaReady "34020000002000000001-bridge-1" answerSdp⟩,⟨5,.request (dialogRequest .ack callId "1 ACK")⟩]

/-- A play that is answered, acknowledged and stopped by the application. -/
theorem stopped_play_torn_down :
    TornDown (playBridge "abc") (Acknowledged config ports (playBridge "abc") (asked "abc") (playAnswered "abc" ++
        [⟨6,.bridgeMediaStop "34020000002000000001-bridge-1"⟩]))
      (EndsUpstream (.bridgeMediaStop "34020000002000000001-bridge-1"))
      (emittedBy config ports (execute (step config ports) (.new ()) registeredRun)
        (⟨3,.request (invite "abc")⟩ :: (playAnswered "abc" ++ [⟨6,.bridgeMediaStop "34020000002000000001-bridge-1"⟩]))) := by
  have torn := play_torn_down ports config_accepted (by decide) (by decide) rfl registeredRun 3 _ _ offerSdp.toUTF8
    (by decide +kernel : emitEvent (.cascadePlayRequested "domain" "34020000002000000001"
      "34020000002000000001-bridge-1" "abc" "<sip:34020000002000000002@up.example>;tag=a"
      "<sip:34020000001320000001@10.0.0.2>" "34020000001320000001" offerSdp) ∈
        emitted config ports (execute (step config ports) (.new ()) registeredRun) ⟨3,.request (invite "abc")⟩)
  exact (torn.2 (playBridge "abc") (by decide +kernel) rfl).2 (playAnswered "abc")
    ⟨6,.bridgeMediaStop "34020000002000000001-bridge-1"⟩
    (fun callId => countP_le_length.trans_lt (by decide +kernel)) (by decide +kernel) (by decide +kernel)
    (by decide +kernel)

/-- A BYE before the answer leaves the INVITE without a final response, and an application that stops
an acknowledged play with the usual form of a Call-ID loses the bridge without a BYE and without
the event. -/
theorem play_left_unsettled :
    (emitEvent (.cascadePlayRequested "domain" "34020000002000000001" "34020000002000000001-bridge-1" "abc"
        "<sip:34020000002000000002@up.example>;tag=a" "<sip:34020000001320000001@10.0.0.2>" "34020000001320000001" offerSdp) ∈
      emitted config ports (execute (step config ports) (.new ()) registeredRun) ⟨3,.request (invite "abc")⟩ ∧
    playBridge "abc" ∈ (asked "abc").bridges.table.rows ∧
    (execute (step config ports) (asked "abc") [⟨4,.request (dialogRequest .bye "abc" "2 BYE")⟩]).bridges.table.rows = [] ∧
    answersIn (playBridge "abc") (emittedBy config ports (asked "abc")
      [⟨4,.request (dialogRequest .bye "abc" "2 BYE")⟩]) = 0) ∧
    playBridge "abc@host" ∈ (asked "abc@host").bridges.table.rows ∧
    (execute (step config ports) (asked "abc@host") (playAnswered "abc@host" ++
      [⟨6,.bridgeMediaStop "34020000002000000001-bridge-1"⟩])).bridges.table.rows = [] ∧
    stopsIn "34020000002000000001-bridge-1" (emittedBy config ports (asked "abc@host") (playAnswered "abc@host" ++
      [⟨6,.bridgeMediaStop "34020000002000000001-bridge-1"⟩])) = 0 ∧
    byesIn "abc@host" (emittedBy config ports (asked "abc@host") (playAnswered "abc@host" ++
      [⟨6,.bridgeMediaStop "34020000002000000001-bridge-1"⟩])) = 0 := by
  decide +kernel

end Sample

end CheetahSignaling.Cascade
