import CheetahSignaling.CascadeMoves

/-! What the outputs of the machine say about one play: which of them is a final response to its
INVITE, which ones tell the application that it has stopped, and which ones hang up. The parts of
the machine other than the bridges say nothing, unless a request passes itself off as the INVITE. -/
namespace CheetahSignaling.Cascade

open SipHeaders
open List hiding after

def SipMessage.belongsTo (dialog : Bridge) (msg : SipMessage) : Bool :=
  msg.headers.getAll .via == dialog.upstreamVia && msg.callId == some dialog.upstreamCallId &&
    msg.cseq == .ok (dialog.upstreamCseq,.invite)

namespace CascadeOutput

def answers (dialog : Bridge) : CascadeOutput → Bool
  | .sendResponse (.response status headers body) =>
    200 ≤ status.code && SipMessage.belongsTo dialog (.response status headers body)
  | _ => false

def stops (bridgeId : String) : CascadeOutput → Bool
  | .emitEvent (.cascadePlayStopped _ _ stopped _) => stopped = bridgeId
  | _ => false

def hangsUp (callId : String) : CascadeOutput → Bool
  | .sendRequest (.request line headers _) => line.method = .bye && headers.get .callId = some callId
  | _ => false

@[simp] theorem answers_sendRequest : answers dialog (.sendRequest msg) = false := rfl

@[simp] theorem answers_emitEvent : answers dialog (.emitEvent event) = false := rfl

@[simp] theorem stops_sendRequest : stops bridgeId (.sendRequest msg) = false := rfl

@[simp] theorem stops_sendResponse : stops bridgeId (.sendResponse msg) = false := rfl

@[simp] theorem stops_playStopped : stops bridgeId (playStopped config stopped reason) = decide (stopped = bridgeId) := rfl

end CascadeOutput

/-- The output neither answers the INVITE nor reports the end of the play. -/
structure Silent (dialog : Bridge) (output : CascadeOutput) : Prop where
  answers : output.answers dialog = false
  stops : output.stops dialog.bridgeId = false

theorem silent_request : Silent dialog (.sendRequest msg) := ⟨rfl,rfl⟩

theorem silent_provisional (provisional : status.code < 200) :
    Silent dialog (.sendResponse (.response status headers body)) := by
  refine ⟨?_,rfl⟩
  have low : ¬ 200 ≤ status.code := Nat.not_le.mpr provisional
  simp [CascadeOutput.answers,low]

/-- The headers by which a response is matched to its request. -/
structure Copies (request response : SipHeaders) : Prop where
  via : response.getAll .via = request.getAll .via
  callId : response.get .callId = request.get .callId
  cSeq : response.get .cSeq = request.get .cSeq

theorem getAll_append (first rest : SipHeaders) (name : HeaderName) :
    getAll (first ++ rest) name = getAll first name ++ getAll rest name := by
  simp [getAll]

theorem getAll_map (header : HeaderName) :
    getAll (values.map (header,·)) name = if header.same name then values else [] := by
  induction values with
  | nil => simp [getAll]
  | cons value values ih =>
    have step : getAll ((value :: values).map (header,·)) name =
        (if header.same name then [value] else []) ++ getAll (values.map (header,·)) name := by
      cases same : header.same name <;> simp [getAll,same]
    rw [step,ih]
    cases header.same name <;> rfl

theorem getAll_toList (value : Option String) :
    getAll (value.map (header,·)).toList name = if header.same name then value.toList else [] := by
  cases value with
  | none => simp [getAll]
  | some value => cases same : header.same name <;> simp [getAll,same]

theorem getAll_foreign {headers : SipHeaders} (foreign : ∀ header ∈ headers, header.1.same name = false) :
    headers.getAll name = [] := by
  have none : headers.filter (fun header => header.1.same name) = [] :=
    filter_eq_nil_iff.mpr fun header member => by simp [foreign header member]
  simp [getAll,none]

/-- A response copies what it is matched by, whatever stands behind that. -/
theorem responseHeaders_copies
    (foreign : ∀ name ∈ [HeaderName.via,.callId,.cSeq], ∀ header ∈ extra, header.1.same name = false) :
    Copies request (responseHeaders request tag ++ extra) := by
  have behind (name : HeaderName) (member : name ∈ [HeaderName.via,.callId,.cSeq]) : extra.getAll name = [] :=
    getAll_foreign (foreign name member)
  have addressed (name : HeaderName) (other : HeaderName.same .to name = false) :
      getAll ((request.get .to).map fun value =>
        (HeaderName.to,if hasTag value || tag.isEmpty then value else trimmed value ++ ";tag=" ++ tag)).toList name = [] := by
    refine getAll_foreign fun header member => ?_
    obtain ⟨value,-,rfl⟩ := Option.map_eq_some_iff.mp (Option.mem_toList.mp member)
    exact other
  have callId : getAll (responseHeaders request tag ++ extra) .callId = (request.get .callId).toList := by
    simp only [responseHeaders,getAll_append,getAll_map,getAll_toList,addressed .callId rfl,behind .callId (by simp)]
    simp [HeaderName.same]
  have cSeq : getAll (responseHeaders request tag ++ extra) .cSeq = (request.get .cSeq).toList := by
    simp only [responseHeaders,getAll_append,getAll_map,getAll_toList,addressed .cSeq rfl,behind .cSeq (by simp)]
    simp [HeaderName.same]
  refine ⟨?_,?_,?_⟩
  · simp only [responseHeaders,getAll_append,getAll_map,getAll_toList,addressed .via rfl,behind .via (by simp)]
    simp [HeaderName.same]
  · show (getAll _ _).head? = _
    rw [callId,Option.head?_toList]
  · show (getAll _ _).head? = _
    rw [cSeq,Option.head?_toList]

/-- A request of the machine's own, or a response to the request with these headers. -/
inductive Reply (headers : SipHeaders) : CascadeOutput → Prop
  | request : Reply headers (.sendRequest msg)
  | response (copies : Copies headers copied) : Reply headers (.sendResponse (.response status copied body))

theorem copies_belongsTo (copies : Copies headers copied) :
    SipMessage.belongsTo dialog (.response status copied body) = SipMessage.belongsTo dialog (.request line headers body') := by
  have callId : SipMessage.callId (.response status copied body) = SipMessage.callId (.request line headers body') :=
    copies.callId
  have cseq : SipMessage.cseq (.response status copied body) = SipMessage.cseq (.request line headers body') := by
    simp [SipMessage.cseq,SipMessage.headers,copies.cSeq]
  simp [SipMessage.belongsTo,callId,cseq,SipMessage.headers,copies.via]

theorem Reply.silent (reply : Reply headers output)
    (foreign : SipMessage.belongsTo dialog (.request line headers body) = false) : Silent dialog output := by
  cases reply with
  | request => exact silent_request
  | response copies =>
    refine ⟨?_,rfl⟩
    rw [CascadeOutput.answers,copies_belongsTo copies,foreign,Bool.and_false]

theorem reply_buildResponse : Reply headers (.sendResponse (buildResponse headers code reason tag)) :=
  .response (responseHeaders_copies (by simp [HeaderName.same]))

theorem reply_buildResponseWith (foreign : ∀ name ∈ [HeaderName.via,.callId,.cSeq], header.1.same name = false) :
    Reply headers (.sendResponse (buildResponseWith headers code reason tag header)) := by
  refine .response (responseHeaders_copies ?_)
  intro name member added listed
  rcases mem_cons.mp listed with rfl | listed
  · simp only [mem_cons,not_mem_nil,or_false] at member
    rcases member with rfl | rfl | rfl <;> rfl
  · rw [mem_singleton.mp listed]
    exact foreign name member

theorem reply_buildUnauthorizedResponse :
    Reply headers (.sendResponse (buildUnauthorizedResponse headers tag challenge)) :=
  .response (responseHeaders_copies (by simp [HeaderName.same]))

section Notifier

theorem enforceSubscriptionCapacity_replies :
    ∀ output ∈ (enforceSubscriptionCapacity config key s).1, Reply headers output := by
  unfold enforceSubscriptionCapacity
  split
  · exact forall_mem_nil _
  split
  · exact forall_mem_nil _
  · split
    · exact forall_mem_singleton.mpr .request
    · exact forall_mem_nil _

theorem requests_toOption_replies (notify : Except CascadeError SipMessage) :
    ∀ output ∈ (notify.toOption.map CascadeOutput.sendRequest).toList, Reply headers output := by
  intro output member
  obtain ⟨msg,-,rfl⟩ := Option.map_eq_some_iff.mp (Option.mem_toList.mp member)
  exact .request

theorem unsubscribe_replies : ∀ output ∈ (unsubscribe config headers key localTag s).1, Reply headers output := by
  have ok : Reply headers (.sendResponse (buildResponseWith headers 200 "OK" localTag (.expires,"0"))) :=
    reply_buildResponseWith (by simp [HeaderName.same])
  simp only [unsubscribe]
  split
  · exact forall_mem_singleton.mpr ok
  · exact forall_mem_cons.mpr ⟨ok,requests_toOption_replies _⟩

theorem subscribe_replies :
    ∀ output ∈ (subscribe config now headers request key localTag s).1, Reply headers output := by
  simp only [subscribe]
  split
  · exact forall_mem_singleton.mpr (reply_buildResponseWith (by simp [HeaderName.same]))
  · refine forall_mem_append.mpr ⟨enforceSubscriptionCapacity_replies,?_⟩
    refine forall_mem_cons.mpr ⟨reply_buildResponseWith (by simp [HeaderName.same]),?_⟩
    exact forall_mem_singleton.mpr .request

theorem handleSubscribe_replies :
    ∀ output ∈ (handleSubscribe config registered now line headers s).1, Reply headers output := by
  simp only [handleSubscribe]
  split
  · exact forall_mem_singleton.mpr reply_buildResponse
  split
  · exact forall_mem_singleton.mpr reply_buildResponse
  · split
    · exact unsubscribe_replies
    · exact subscribe_replies

theorem tickSubscription_silent : ∀ output ∈ (tickSubscription config now sub s).1, Silent dialog output := by
  have ended (s : Notifier) : ∀ output ∈ (tickSubscription.endSubscription config sub s).1, Silent dialog output := by
    intro output member
    obtain ⟨msg,-,rfl⟩ := Option.map_eq_some_iff.mp (Option.mem_toList.mp member)
    exact silent_request
  simp only [tickSubscription]
  split
  · exact ended s
  split
  · exact forall_mem_nil _
  split
  · exact forall_mem_nil _
  split
  · exact ended s
  · split
    · exact forall_mem_singleton.mpr silent_request
    · exact forall_mem_nil _

theorem tickSubscriptions_silent (keys : List String) (s : Notifier) :
    ∀ output ∈ (tickSubscriptions config now keys s).1, Silent dialog output := by
  induction keys generalizing s with
  | nil => exact forall_mem_nil _
  | cons key keys ih =>
    unfold tickSubscriptions
    split
    · exact ih s
    · exact forall_mem_append.mpr ⟨tickSubscription_silent,ih _⟩

end Notifier

section Reports

theorem enqueue_given (s : Reporter) : given (enqueue config ports now event s).1 = [] := by
  have queued (kind : ReportKind) (what deviceId : String) (build : String → Except AccessError String) :
      given (stateReport config kind what deviceId now build s).1 = [] := by
    simp only [stateReport]
    split <;> rfl
  unfold enqueue
  split
  · exact queued _ _ _ _
  · split <;> rfl
  · exact queued _ _ _ _
  · rfl

theorem sendQueue_silent (s : Reporter) :
    ∀ output ∈ given (sendQueue config now queue s).1, Silent dialog output := by
  induction queue generalizing s with
  | nil => exact forall_mem_nil _
  | cons report queue ih =>
    unfold sendQueue
    split
    · exact forall_mem_nil _
    rename_i s' built
    have rest := ih s'
    split
    · exact forall_mem_nil _
    · rename_i ended
      rw [ended] at rest
      exact forall_mem_cons.mpr ⟨silent_request,rest⟩

theorem flush_silent (s : Reporter) : ∀ output ∈ given (flush config registered now s).1, Silent dialog output := by
  simp only [flush]
  split_ifs
  · exact forall_mem_nil _
  · exact sendQueue_silent _

end Reports

section Catalog

theorem checkCatalogAuthorization_replies
    (rejected : (checkCatalogAuthorization config ports now line headers tag env).1 = some response) :
    Reply headers (.sendResponse response) := by
  unfold checkCatalogAuthorization at rejected
  split at rejected
  · cases rejected
  split at rejected
  · cases rejected
    exact reply_buildResponse
  dsimp only at rejected
  split_ifs at rejected
  cases challenge : ports.inboundChallenge now with
  | ok value =>
    rw [challenge] at rejected
    cases rejected
    exact reply_buildUnauthorizedResponse
  | error e =>
    rw [challenge] at rejected
    cases rejected
    exact reply_buildResponse

theorem answerCatalogQuery_replies :
    ∀ output ∈ (answerCatalogQuery config ports provider now headers body tag s).1, Reply headers output := by
  simp only [answerCatalogQuery]
  split
  · exact forall_mem_singleton.mpr reply_buildResponse
  split
  · exact forall_mem_singleton.mpr reply_buildResponse
  split
  · exact forall_mem_singleton.mpr reply_buildResponse
  split
  · refine forall_mem_cons.mpr ⟨reply_buildResponse,?_⟩
    intro output member
    obtain ⟨msg,-,rfl⟩ := mem_map.mp member
    exact .request
  · exact forall_mem_singleton.mpr reply_buildResponse

theorem handleCatalogRequest_replies :
    ∀ output ∈ (handleCatalogRequest config ports registered now line headers body s).1, Reply headers output := by
  unfold handleCatalogRequest
  split
  · exact forall_mem_nil _
  simp only
  split
  · exact forall_mem_nil _
  split
  · exact forall_mem_singleton.mpr reply_buildResponse
  split
  · exact forall_mem_singleton.mpr reply_buildResponse
  split
  · rename_i response rejected
    exact forall_mem_singleton.mpr (checkCatalogAuthorization_replies rejected)
  · exact answerCatalogQuery_replies

end Catalog

theorem Moves.silent {next : State} (moved : Moves config state outputs next) : ∀ output ∈ outputs, Silent dialog output := by
  have carried {callId : String} (request : CascadeOutput) (carries : request.carries callId = true) :
      Silent dialog request := by
    cases request with
    | sendRequest msg => exact silent_request
    | sendResponse msg => cases carries
    | emitEvent event => cases carries
  cases moved with
  | stays => exact forall_mem_nil _
  | gaveUp => exact forall_mem_singleton.mpr ⟨rfl,rfl⟩
  | failed => exact forall_mem_nil _
  | began callId localTag first carries => exact forall_mem_singleton.mpr (carried _ carries)
  | resent before after unregistered carries => exact forall_mem_singleton.mpr (carried _ carries)
  | accepted same callId unused => exact forall_mem_singleton.mpr ⟨rfl,rfl⟩
  | keptAlive same after number carries => exact forall_mem_singleton.mpr (carried _ carries)
  | noted same after number => exact forall_mem_nil _

end CheetahSignaling.Cascade
