import CheetahSignaling.TransactionTypes

/-! The client side of a SIP transaction, for INVITE and for other requests. -/
namespace CheetahSignaling.SipTransaction

inductive ClientState where
  | calling
  | trying
  | proceeding
  | completed
  | terminated
deriving DecidableEq

/-- The request is kept in its parts, so that it cannot be a response. -/
structure ClientTransaction where
  config : TransactionConfig
  line : RequestLine
  headers : SipHeaders
  body : ByteArray
  state : ClientState
  retransmitCount : Nat
  finalResponse : Option SipMessage

namespace ClientTransaction

def new (config : TransactionConfig) (line : RequestLine) (headers : SipHeaders) (body : ByteArray) : ClientTransaction :=
  ⟨config,line,headers,body,if line.method = .invite then .calling else .trying,0,none⟩

variable (t : ClientTransaction)

def request : SipMessage := .request t.line t.headers t.body

def isInvite : Bool := t.line.method = .invite

def isTerminated : Bool := t.state = .terminated

section

variable (response : SipMessage) (kind : TimerKind) (now : Nat)

def buildAck : SipMessage :=
  let via := ((t.headers.getAll .via).head?).toList.map (HeaderName.via,·)
  let copied := t.headers.filter fun header =>
    [HeaderName.from,.callId,.route,.maxForwards].any fun name => name.same header.1
  let recipient := (response.headers.get .to).toList.map (HeaderName.to,·)
  let sequence := match t.request.cseq with
    | .ok (n,_) => n
    | .error _ => 0
  .request ⟨.ack,t.line.uri⟩ (via ++ copied ++ recipient ++ [(.cSeq,toString sequence ++ " ACK")]) .empty

def terminate : List TransactionOutput × ClientTransaction := ([.complete],{ t with state := .terminated })

def terminateWithFailure (kind : SipErrorKind) : List TransactionOutput × ClientTransaction :=
  ([.failure kind,.complete],{ t with state := .terminated })

def onInviteResponse : List TransactionOutput × ClientTransaction :=
  let code := responseCode response
  if isProvisional code then ([.cancelTimer .A,.deliver response],{ t with state := .proceeding })
  else if isSuccess code then
    ([.cancelTimer .A,.cancelTimer .B,.deliver response,.complete],{ t with state := .terminated })
  else if isFailure code then
    let t := { t with finalResponse := some response }
    let outputs := [.cancelTimer .A,.cancelTimer .B,.deliver response,.sendMessage (t.buildAck response)]
    if t.config.timerD = 0 then (outputs ++ [.complete],{ t with state := .terminated })
    else (outputs ++ [.setTimer .D (now + t.config.timerD)],{ t with state := .completed })
  else ([],t)

def onInviteResponseCompleted : List TransactionOutput × ClientTransaction :=
  match t.finalResponse with
  | some final => if isFailure (responseCode response) then ([.sendMessage (t.buildAck final)],t) else ([],t)
  | none => ([],t)

def onNonInviteResponse : List TransactionOutput × ClientTransaction :=
  if isProvisional (responseCode response) then
    ([.setTimer .E (now + t.config.t2),.deliver response],{ t with state := .proceeding })
  else if isFinal response then
    let outputs := [.cancelTimer .E,.cancelTimer .F,.deliver response]
    if t.config.timerK = 0 then (outputs ++ [.complete],{ t with state := .terminated })
    else (outputs ++ [.setTimer .K (now + t.config.timerK)],{ t with state := .completed })
  else ([],t)

def retransmit (deadline : Nat) : List TransactionOutput := [.sendMessage t.request,.setTimer kind deadline]

def onInviteTimerA : List TransactionOutput × ClientTransaction :=
  let n := t.retransmitCount + 1
  (t.retransmit .A (now + t.config.timerA n),{ t with retransmitCount := n })

def onNonInviteTimerE : List TransactionOutput × ClientTransaction :=
  let n := t.retransmitCount + 1
  (t.retransmit .E (now + t.config.timerE n),{ t with retransmitCount := n })

def onNonInviteTimerEProceeding : List TransactionOutput × ClientTransaction := (t.retransmit .E (now + t.config.t2),t)

def onTimer : List TransactionOutput × ClientTransaction :=
  match t.isInvite,t.state,kind with
  | true,.calling,.A => t.onInviteTimerA now
  | true,.calling,.B => t.terminateWithFailure .transactionTimeout
  | true,.proceeding,.B => t.terminateWithFailure .transactionTimeout
  | true,.completed,.D => t.terminate
  | false,.trying,.E => t.onNonInviteTimerE now
  | false,.proceeding,.E => t.onNonInviteTimerEProceeding now
  | false,.trying,.F => t.terminateWithFailure .transactionTimeout
  | false,.proceeding,.F => t.terminateWithFailure .transactionTimeout
  | false,.completed,.K => t.terminate
  | _,_,_ => ([],t)

def onResponse : List TransactionOutput × ClientTransaction :=
  match t.isInvite,t.state with
  | true,.calling => t.onInviteResponse response now
  | true,.proceeding => t.onInviteResponse response now
  | true,.completed => t.onInviteResponseCompleted response
  | false,.trying => t.onNonInviteResponse response now
  | false,.proceeding => t.onNonInviteResponse response now
  | _,_ => ([],t)

def process (event : TransactionEvent) (now : Nat) : List TransactionOutput × ClientTransaction :=
  match event with
  | .timer kind => t.onTimer kind now
  | .response response => t.onResponse response now
  | .transportError => t.terminateWithFailure .transportFailure
  | .request _ => ([],t)

def bootstrap : List TransactionOutput :=
  if t.isInvite then
    [.sendMessage t.request,.setTimer .A (now + t.config.timerA 0),.setTimer .B (now + t.config.timerB)]
  else [.sendMessage t.request,.setTimer .E (now + t.config.timerE 0),.setTimer .F (now + t.config.timerF)]

def limit : TimerKind := if t.isInvite then .B else .F

def Waiting : Prop := t.state = (if t.isInvite then .calling else .trying) ∨ t.state = .proceeding

def Resends : Prop :=
  if t.isInvite then kind = .A ∧ t.state = .calling else kind = .E ∧ t.Waiting

inductive Fires (t : ClientTransaction) (kind : TimerKind) : List TransactionOutput × ClientTransaction → Prop where
  | idle (inTime : t.Waiting → kind ≠ t.limit) (once : ¬t.Resends kind) : Fires t kind ([],t)
  | resent (resends : t.Resends kind) (n deadline : Nat) :
      Fires t kind (t.retransmit kind deadline,{ t with retransmitCount := n })
  | timedOut (waiting : t.Waiting) (limit : kind = t.limit) : Fires t kind (t.terminateWithFailure .transactionTimeout)
  | ended (completed : t.state = .completed) : Fires t kind t.terminate

theorem onTimer_fires : t.Fires kind (t.onTimer kind now) := by
  unfold onTimer
  split
  case h_1 invite calling => exact .resent (by simp [Resends,invite,calling]) _ _
  case h_5 invite trying => exact .resent (by simp [Resends,Waiting,invite,trying]) _ _
  case h_6 invite proceeding => exact .resent (by simp [Resends,Waiting,invite,proceeding]) t.retransmitCount _
  case h_4 completed => exact .ended completed
  case h_9 completed => exact .ended completed
  case h_10 =>
    refine .idle ?_ ?_
    · simp only [Waiting,limit]
      grind
    · simp only [Resends,Waiting]
      grind
  all_goals
    rename_i invite state
    exact .timedOut (by simp [Waiting,invite,state]) (by simp [limit,invite])

end

inductive Hears (t : ClientTransaction) (response : SipMessage) : List TransactionOutput × ClientTransaction → Prop where
  | idle (early : t.Waiting → isFinal response = false) : Hears t response ([],t)
  | progressed (waiting : t.Waiting) (early : isFinal response = false) (kind : TimerKind) (other : kind ≠ t.limit)
      (timer : TransactionOutput) (sets : timer = .cancelTimer kind ∨ ∃ deadline, timer = .setTimer kind deadline) :
      Hears t response ([timer,.deliver response],{ t with state := .proceeding })
  | acknowledged (completed : t.state = .completed) (invite : t.isInvite) (final : SipMessage) :
      Hears t response ([.sendMessage (t.buildAck final)],t)
  | answered (waiting : t.Waiting) (final : isFinal response) (kept : t'.request = t.request)
      {first second : TimerKind} (acks timers : List TransactionOutput)
      (acked : acks = [] ∨ t.isInvite ∧ acks = [.sendMessage (t.buildAck response)])
      (ends : timers = [.complete] ∨ t'.state = .completed ∧ ∃ kind deadline, timers = [.setTimer kind deadline]) :
      Hears t response ([.cancelTimer first,.cancelTimer second,.deliver response] ++ acks ++ timers,t')

variable {t}

theorem new_waiting (config : TransactionConfig) (line : RequestLine) (headers : SipHeaders) (body : ByteArray) :
    (new config line headers body).Waiting :=
  .inl (if_congr decide_eq_true_iff.symm rfl rfl)

theorem Waiting.not_terminated (waiting : t.Waiting) : t.isTerminated = false := by
  unfold Waiting at waiting
  unfold isTerminated
  cases invite : t.isInvite <;> rw [invite] at waiting <;> rcases waiting with state | state <;> simp [state]

theorem Waiting.not_completed (waiting : t.Waiting) : t.state ≠ .completed := by
  unfold Waiting at waiting
  cases invite : t.isInvite <;> rw [invite] at waiting <;> rcases waiting with state | state <;> simp [state]

theorem Resends.not_limit (resends : t.Resends kind) : kind ≠ t.limit := by
  unfold Resends at resends
  unfold limit
  cases invite : t.isInvite <;> simp only [invite] at resends <;> simp [resends.1]

theorem not_final_of_provisional (provisional : isProvisional (responseCode response)) : isFinal response = false := by
  simp only [isProvisional,isFinal,Bool.and_eq_true,decide_eq_true_eq] at provisional ⊢
  simp only [Bool.and_eq_false_iff,decide_eq_false_iff_not]
  omega

theorem onInviteResponse_hears (invite : t.isInvite) (waiting : t.Waiting) :
    t.Hears response (t.onInviteResponse response now) := by
  unfold onInviteResponse
  simp only
  split
  · rename_i provisional
    exact .progressed waiting (not_final_of_provisional provisional) .A (by simp [limit,invite]) _ (.inl rfl)
  split
  · rename_i early success
    refine .answered waiting ?_ (by rfl) [] _ (.inl rfl) (.inl rfl)
    simp only [isSuccess,isFinal,Bool.and_eq_true,decide_eq_true_eq] at success ⊢
    omega
  split
  · rename_i failure
    have final : isFinal response := by
      simp only [isFailure,isFinal,Bool.and_eq_true,decide_eq_true_eq] at failure ⊢
      omega
    split
    · exact .answered waiting final (by rfl) _ _ (.inr ⟨invite,rfl⟩) (.inl rfl)
    · exact .answered waiting final (by rfl) _ _ (.inr ⟨invite,rfl⟩) (.inr ⟨rfl,_,_,rfl⟩)
  refine .idle fun _ => ?_
  simp only [isSuccess,isFailure,isFinal,Bool.and_eq_true,Bool.and_eq_false_iff,
    decide_eq_true_eq,decide_eq_false_iff_not] at *
  omega

theorem onNonInviteResponse_hears (other : t.isInvite = false) (waiting : t.Waiting) :
    t.Hears response (t.onNonInviteResponse response now) := by
  unfold onNonInviteResponse
  split
  · rename_i provisional
    exact .progressed waiting (not_final_of_provisional provisional) .E (by simp [limit,other]) _ (.inr ⟨_,rfl⟩)
  split
  · rename_i final
    split
    · exact .answered waiting final (by rfl) [] _ (.inl rfl) (.inl rfl)
    · exact .answered waiting final (by rfl) [] _ (.inl rfl) (.inr ⟨rfl,_,_,rfl⟩)
  · rename_i early
    exact .idle fun _ => Bool.not_eq_true _ ▸ early

theorem onResponse_hears : t.Hears response (t.onResponse response now) := by
  unfold onResponse
  split
  case h_1 invite calling => exact onInviteResponse_hears invite (by simp [Waiting,invite,calling])
  case h_2 invite proceeding => exact onInviteResponse_hears invite (.inr proceeding)
  case h_3 invite completed =>
    have done : t.Waiting → isFinal response = false := by simp [Waiting,invite,completed]
    unfold onInviteResponseCompleted
    split
    · split
      · exact .acknowledged completed invite _
      · exact .idle done
    · exact .idle done
  case h_4 other trying => exact onNonInviteResponse_hears other (by simp [Waiting,other,trying])
  case h_5 other proceeding => exact onNonInviteResponse_hears other (.inr proceeding)
  case h_6 =>
    refine .idle ?_
    simp only [Waiting]
    grind

end ClientTransaction

end CheetahSignaling.SipTransaction
