import CheetahSignaling.TransactionTypes

/-! The server side of a SIP transaction, for INVITE and for other requests. -/
namespace CheetahSignaling.SipTransaction

inductive ServerState where
  | trying
  | proceeding
  | completed
  | confirmed
  | terminated
deriving DecidableEq

structure ServerTransaction where
  config : TransactionConfig
  line : RequestLine
  headers : SipHeaders
  body : ByteArray
  state : ServerState
  (provisionalResponse finalResponse : Option SipMessage)
  retransmitCount : Nat
  cancelled : Bool

namespace ServerTransaction

def new (config : TransactionConfig) (line : RequestLine) (headers : SipHeaders) (body : ByteArray) : ServerTransaction :=
  ⟨config,line,headers,body,if line.method = .invite then .proceeding else .trying,none,none,0,false⟩

variable (t : ServerTransaction)

def request : SipMessage := .request t.line t.headers t.body

def isInvite : Bool := t.line.method = .invite

def isTerminated : Bool := t.state = .terminated

def terminate : List TransactionOutput × ServerTransaction := ([.complete],{ t with state := .terminated })

def terminateWithFailure (kind : SipErrorKind) : List TransactionOutput × ServerTransaction :=
  ([.failure kind,.complete],{ t with state := .terminated })

def replay (response : Option SipMessage) : List TransactionOutput := response.toList.map .sendMessage

section

variable (request : SipMessage) (now : Nat)

def onInviteCancel : List TransactionOutput × ServerTransaction :=
  (.deliver request :: (if t.finalResponse.isNone then [.failure .transactionCancelled] else []),
    { t with cancelled := true })

def onInviteAck : List TransactionOutput × ServerTransaction :=
  let outputs := [.deliver request,.cancelTimer .G,.cancelTimer .H]
  if t.config.timerI = 0 then (outputs ++ [.complete],{ t with state := .terminated })
  else (outputs ++ [.setTimer .I (now + t.config.timerI)],{ t with state := .confirmed })

def onInviteRequest : List TransactionOutput × ServerTransaction :=
  match requestMethod request with
  | some .invite => (replay t.provisionalResponse,t)
  | some .ack => ([.deliver request],t)
  | some .cancel => t.onInviteCancel request
  | _ => ([],t)

def onInviteRequestCompleted : List TransactionOutput × ServerTransaction :=
  match requestMethod request with
  | some .invite =>
    match t.finalResponse with
    | none => ([],t)
    | some response =>
      if t.config.transport = .reliable then ([.sendMessage response],t)
      else
        let n := t.retransmitCount + 1
        ([.sendMessage response,.setTimer .G (now + t.config.timerG n)],{ t with retransmitCount := n })
  | some .ack => t.onInviteAck request now
  | some .cancel => t.onInviteCancel request
  | _ => ([],t)

def onInviteRequestConfirmed : List TransactionOutput × ServerTransaction :=
  (if requestMethod request = some .ack then [.deliver request] else [],t)

def onInviteTuResponse (response : SipMessage) (now : Nat) : List TransactionOutput × ServerTransaction :=
  let code := responseCode response
  if isProvisional code then
    ([.sendMessage response],{ t with provisionalResponse := some response,state := .proceeding })
  else if isSuccess code then ([.sendMessage response,.complete],{ t with state := .terminated })
  else if isFailure code then
    let retransmission := if t.config.transport = .reliable then [] else [.setTimer .G (now + t.config.timerG 0)]
    (.sendMessage response :: retransmission ++ [.setTimer .H (now + t.config.timerH)],
      { t with finalResponse := some response,state := .completed })
  else ([],t)

def onInviteTimerG : List TransactionOutput × ServerTransaction :=
  match t.finalResponse with
  | some response =>
    let n := t.retransmitCount + 1
    ([.sendMessage response,.setTimer .G (now + t.config.timerG n)],{ t with retransmitCount := n })
  | none => ([],t)

def onNonInviteRequest (response : Option SipMessage) (request : SipMessage) :
    List TransactionOutput × ServerTransaction :=
  if requestMethod request = some t.line.method then (replay response,t) else ([.deliver request],t)

def onNonInviteTuResponse (response : SipMessage) (now : Nat) : List TransactionOutput × ServerTransaction :=
  if isProvisional (responseCode response) then
    ([.sendMessage response],{ t with provisionalResponse := some response,state := .proceeding })
  else if isFinal response then
    let t := { t with finalResponse := some response }
    if t.config.timerJ = 0 then ([.sendMessage response,.complete],{ t with state := .terminated })
    else ([.sendMessage response,.setTimer .J (now + t.config.timerJ)],{ t with state := .completed })
  else ([],t)

def onTimer (kind : TimerKind) (now : Nat) : List TransactionOutput × ServerTransaction :=
  match t.isInvite,t.state,kind with
  | true,.proceeding,.G => t.onInviteTimerG now
  | true,.completed,.G => t.onInviteTimerG now
  | true,.completed,.H => t.terminateWithFailure .transactionTimeout
  | true,.confirmed,.I => t.terminate
  | false,.completed,.J => t.terminate
  | _,_,_ => ([],t)

def onRequest : List TransactionOutput × ServerTransaction :=
  match t.isInvite,t.state with
  | true,.proceeding => t.onInviteRequest request
  | true,.completed => t.onInviteRequestCompleted request now
  | true,.confirmed => t.onInviteRequestConfirmed request
  | false,.trying => t.onNonInviteRequest none request
  | false,.proceeding => t.onNonInviteRequest t.provisionalResponse request
  | false,.completed => t.onNonInviteRequest t.finalResponse request
  | _,_ => ([],t)

end

def onTuResponse (response : SipMessage) (now : Nat) : List TransactionOutput × ServerTransaction :=
  match t.isInvite,t.state with
  | true,.proceeding => t.onInviteTuResponse response now
  | false,.trying => t.onNonInviteTuResponse response now
  | false,.proceeding => t.onNonInviteTuResponse response now
  | _,_ => ([],t)

def process (event : TransactionEvent) (now : Nat) : List TransactionOutput × ServerTransaction :=
  match event with
  | .timer kind => t.onTimer kind now
  | .request request => t.onRequest request now
  | .response response => t.onTuResponse response now
  | .transportError => t.terminateWithFailure .transportFailure

def bootstrap : List TransactionOutput := [.deliver t.request]

def cached : Option SipMessage :=
  match t.state with
  | .trying => none
  | .proceeding => t.provisionalResponse
  | .completed => t.finalResponse
  | .confirmed => none
  | .terminated => none

section

variable (config : TransactionConfig) (line : RequestLine) (headers : SipHeaders) (body : ByteArray)

theorem new_state : (new config line headers body).state = .proceeding ∨ (new config line headers body).state = .trying := by
  unfold new
  split
  · exact .inl rfl
  · exact .inr rfl

theorem new_cached : (new config line headers body).cached = none := by
  unfold cached
  rcases new_state config line headers body with state | state
  · rw [state]
    rfl
  · rw [state]

end

/-- The transaction goes on as before, apart from its counter and its flag. -/
structure Continues (t t' : ServerTransaction) : Prop where
  config : t'.config = t.config
  line : t'.line = t.line
  state : t'.state = t.state
  provisional : t'.provisionalResponse = t.provisionalResponse
  final : t'.finalResponse = t.finalResponse

theorem Continues.refl : Continues t t := ⟨rfl,rfl,rfl,rfl,rfl⟩

variable {t}

theorem Continues.cached (continues : Continues t t') : t'.cached = t.cached := by
  unfold ServerTransaction.cached
  rw [continues.state,continues.provisional,continues.final]

inductive Fires (t : ServerTransaction) (kind : TimerKind) : List TransactionOutput × ServerTransaction → Prop where
  | idle (inTime : t.isInvite → t.state = .completed → kind ≠ .H) : Fires t kind ([],t)
  | resent (other : kind = .G) (unconfirmed : t.state ≠ .confirmed) (response : SipMessage) (n deadline : Nat) :
      Fires t kind ([.sendMessage response,.setTimer .G deadline],{ t with retransmitCount := n })
  | timedOut (last : kind = .H) (completed : t.state = .completed) : Fires t kind (t.terminateWithFailure .transactionTimeout)
  | ended (elsewhere : t.isInvite → t.state ≠ .completed) : Fires t kind t.terminate

theorem onTimer_fires (kind : TimerKind) (now : Nat) : t.Fires kind (t.onTimer kind now) := by
  unfold onTimer
  split
  case h_1 proceeding =>
    unfold onInviteTimerG
    split
    · exact .resent rfl (by simp [proceeding]) _ _ _
    · exact .idle (by simp)
  case h_2 completed =>
    unfold onInviteTimerG
    split
    · exact .resent rfl (by simp [completed]) _ _ _
    · exact .idle (by simp)
  case h_3 completed => exact .timedOut rfl completed
  case h_4 confirmed => exact .ended (by simp [confirmed])
  case h_5 other _ => exact .ended (by simp [other])
  case h_6 =>
    refine .idle ?_
    rintro invite completed rfl
    simp_all

inductive Hears (t : ServerTransaction) (request : SipMessage) : List TransactionOutput × ServerTransaction → Prop where
  | continues (t' : ServerTransaction) (continues : Continues t t') (outputs : List TransactionOutput)
      (steady : ∀ kind deadline, .setTimer kind deadline ∈ outputs → kind = .G) (kept : ∀ kind, .cancelTimer kind ∉ outputs) :
      Hears t request (outputs,t')
  | acknowledged (completed : t.state = .completed) (now : Nat) : Hears t request (t.onInviteAck request now)

theorem onRequest_hears (request : SipMessage) (now : Nat) : t.Hears request (t.onRequest request now) := by
  have replayed (response : Option SipMessage) : t.Hears request (replay response,t) := by
    refine .continues t (.refl t) _ ?_ ?_ <;> cases response <;> simp [replay]
  have delivered : t.Hears request ([.deliver request],t) := .continues t (.refl t) _ (by simp) (by simp)
  have silent : t.Hears request ([],t) := .continues t (.refl t) _ (by simp) (by simp)
  have canceled : t.Hears request (t.onInviteCancel request) := by
    refine .continues (t := t) { t with cancelled := true } ⟨rfl,rfl,rfl,rfl,rfl⟩ _ ?_ ?_ <;> split <;> simp
  have other (response : Option SipMessage) : t.Hears request (t.onNonInviteRequest response request) := by
    unfold onNonInviteRequest
    split
    · exact replayed response
    · exact delivered
  unfold onRequest
  split
  · unfold onInviteRequest
    split
    · exact replayed _
    · exact delivered
    · exact canceled
    · exact silent
  · rename_i completed
    unfold onInviteRequestCompleted
    split
    · split
      · exact silent
      split
      · exact .continues t (.refl t) _ (by simp) (by simp)
      refine .continues (t := t) { t with retransmitCount := t.retransmitCount + 1 } ⟨rfl,rfl,rfl,rfl,rfl⟩ _ ?_ (by simp)
      rintro kind deadline member
      simp only [List.mem_cons,List.not_mem_nil,or_false,reduceCtorEq,false_or,TransactionOutput.setTimer.injEq] at member
      exact member.1
    · exact .acknowledged completed now
    · exact canceled
    · exact silent
  · unfold onInviteRequestConfirmed
    split
    · exact delivered
    · exact silent
  · exact other none
  · exact other t.provisionalResponse
  · exact other t.finalResponse
  · exact silent

inductive Accepts (t : ServerTransaction) (response : SipMessage) : List TransactionOutput × ServerTransaction → Prop where
  | ignored : Accepts t response ([],t)
  | provisional : Accepts t response
      ([.sendMessage response],{ t with provisionalResponse := some response,state := .proceeding })
  | ended (t' : ServerTransaction) : Accepts t response ([.sendMessage response,.complete],t')
  | rejected (invite : t.isInvite) (retransmission : List TransactionOutput)
      (retransmits : retransmission = [] ∨ ∃ deadline, retransmission = [.setTimer .G deadline]) (deadline : Nat) :
      Accepts t response (.sendMessage response :: retransmission ++ [.setTimer .H deadline],
        { t with finalResponse := some response,state := .completed })
  | completed (other : t.isInvite = false) (deadline : Nat) :
      Accepts t response ([.sendMessage response,.setTimer .J deadline],
        { t with finalResponse := some response,state := .completed })

theorem onTuResponse_accepts : t.Accepts response (t.onTuResponse response now) := by
  have nonInvite (other : t.isInvite = false) : t.Accepts response (t.onNonInviteTuResponse response now) := by
    unfold onNonInviteTuResponse
    split
    · exact .provisional
    split
    · simp only
      split
      · exact .ended _
      · exact .completed other _
    · exact .ignored
  unfold onTuResponse
  split
  · rename_i invite _
    unfold onInviteTuResponse
    simp only
    split
    · exact .provisional
    split
    · exact .ended _
    split
    · refine .rejected invite _ ?_ _
      split
      · exact .inl rfl
      · exact .inr ⟨_,rfl⟩
    · exact .ignored
  · exact nonInvite ‹_›
  · exact nonInvite ‹_›
  · exact .ignored

end ServerTransaction

end CheetahSignaling.SipTransaction
