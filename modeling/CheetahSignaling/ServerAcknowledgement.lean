import CheetahSignaling.ServerAbsorption

/-! The ACK that a client transaction builds for a rejected INVITE, fed to the manager that holds the
server transaction. The key of a request takes the method of its CSeq header, which the ACK sets to ACK. -/
namespace CheetahSignaling.SipTransaction

open KeyMap Entry SipHeaders GuardedRun
open List hiding toString

section Key

variable {t : ClientTransaction}

theorem getAll_append (first rest : SipHeaders) (name : HeaderName) :
    getAll (first ++ rest) name = first.getAll name ++ rest.getAll name := by
  simp [getAll]

/-- The headers of the INVITE that its ACK repeats. -/
def copied (headers : SipHeaders) : SipHeaders :=
  headers.filter fun header => [HeaderName.from,.callId,.route,.maxForwards].any fun name => name.same header.1

theorem getAll_copied_callId : (copied headers).getAll .callId = headers.getAll .callId := by
  unfold copied getAll
  rw [filter_filter]
  refine congrArg _ (filter_congr fun header _ => ?_)
  obtain ⟨name,value⟩ := header
  cases name <;> rfl

theorem getAll_copied_other (other : name = .via ∨ name = .cSeq) : (copied headers).getAll name = [] := by
  unfold copied getAll
  rw [filter_filter,map_eq_nil_iff,filter_eq_nil_iff]
  rintro ⟨header,value⟩ -
  rcases other with rfl | rfl <;> cases header <;> exact Bool.false_ne_true

def sequence (t : ClientTransaction) : Nat :=
  match t.request.cseq with
  | .ok (n,_) => n
  | .error _ => 0

theorem buildAck_headers : (t.buildAck response).headers =
    ((t.headers.getAll .via).head?).toList.map (HeaderName.via,·) ++ copied t.headers ++
      (response.headers.get .to).toList.map (HeaderName.to,·) ++ [(.cSeq,toString (sequence t) ++ " ACK")] := rfl

theorem getAll_tagged (name other : HeaderName) (value : Option String) :
    getAll (value.toList.map (other,·)) name = if other.same name then value.toList else [] := by
  cases value <;> simp [getAll,filter_cons]
  split <;> rfl

theorem ack_topBranch : (t.buildAck response).topBranch = t.request.topBranch := by
  have vias : (t.buildAck response).headers.getAll .via = ((t.headers.getAll .via).head?).toList := by
    rw [buildAck_headers]
    simp only [getAll_append,getAll_tagged,getAll_copied_other (.inl rfl)]
    simp [getAll,HeaderName.same]
  have same : t.request.headers = t.headers := rfl
  rw [SipMessage.topBranch,vias,SipMessage.topBranch,same]
  cases t.headers.getAll .via <;> rfl

theorem ack_callId : (t.buildAck response).callId = t.request.callId := by
  have ids : (t.buildAck response).headers.getAll .callId = t.headers.getAll .callId := by
    rw [buildAck_headers]
    simp only [getAll_append,getAll_tagged,getAll_copied_callId]
    simp [getAll,HeaderName.same]
  rw [SipMessage.callId,SipHeaders.get,ids]
  rfl

theorem ack_cseq (parsed : t.request.cseq = .ok (n,method)) : (t.buildAck response).cseq = .ok (n,.ack) := by
  have number : sequence t = n := by rw [sequence,parsed]
  have values : (t.buildAck response).headers.get .cSeq = some (HeaderValue.cseq n .ack) := by
    rw [buildAck_headers,number,SipHeaders.get]
    simp only [getAll_append,getAll_tagged,getAll_copied_other (.inr rfl)]
    simp [getAll,HeaderName.same,HeaderValue.cseq,Method.name,String.append_assoc]
  exact SipMessage.cseq_written (SipMessage.cseq_lt parsed) rfl values

theorem ack_key (keyed : TransactionKey.forMessage t.request role policy = some k) :
    TransactionKey.forMessage (t.buildAck response) role policy = some { k with cseqMethod := .ack } := by
  have request : isRequest (t.buildAck response) = isRequest t.request := rfl
  unfold TransactionKey.forMessage at keyed ⊢
  rw [ack_topBranch,ack_callId,request]
  cases top : t.request.topBranch with
  | none => simp [top] at keyed
  | some branch =>
    simp only [top,Option.bind_eq_bind,Option.bind_some] at keyed ⊢
    split at keyed
    · cases keyed
    rename_i usable
    rw [if_neg usable]
    cases called : t.request.callId with
    | none => simp [called] at keyed
    | some callId =>
      cases parsed : t.request.cseq with
      | error _ => simp [parsed,Except.toOption] at keyed
      | ok pair =>
        obtain rfl : ⟨branch,pair.2,callId,role⟩ = k := by simpa [called,parsed,Except.toOption] using keyed
        rw [ack_cseq parsed]
        rfl

end Key

section Entries

variable {e : Entry ServerTransaction T}

theorem confirmed_tick (confirmed : e.transaction.state = .confirmed) :
    (e.tick serverFsm ttl now).1 = [] ∧ ∀ left ∈ (e.tick serverFsm ttl now).2, left.transaction.state = .confirmed := by
  have one (kind : TimerKind) (e : Entry ServerTransaction T) (confirmed : e.transaction.state = .confirmed) :
      ((e.disarm kind).feed serverFsm (.timer kind) now).1.filter (fun _ => true) = [] ∧
        ∀ left ∈ ((e.disarm kind).feed serverFsm (.timer kind) now).2, left.transaction.state = .confirmed := by
    obtain ⟨result,moves,fed⟩ := e.server_timer
    rw [fed]
    cases moves with
    | idle _ =>
      refine ⟨rfl,?_⟩
      rintro left member
      obtain ⟨-,-,rfl⟩ := absorb_left member
      exact confirmed
    | resent _ unconfirmed _ _ _ => exact absurd confirmed unconfirmed
    | timedOut _ completed => simp [confirmed] at completed
    | ended _ =>
      refine ⟨rfl,?_⟩
      rintro left member
      exact absurd mem_cons_self (absorb_left member).1
  have all := tick_silent ttl one confirmed
  rwa [filter_true] at all

structure Unconfirmed (deadline : Nat) (e : Entry ServerTransaction T) : Prop where
  invite : e.transaction.isInvite
  completed : e.transaction.state = .completed
  armed : e.timers .H = some deadline

theorem Unconfirmed.early_timer (unconfirmed : Unconfirmed deadline e) (early : kind ≠ .H) (now : Nat) :
    ∃ left, ((e.disarm kind).feed serverFsm (.timer kind) now).2 = some left ∧ Unconfirmed deadline left := by
  obtain ⟨invite,completed,armed⟩ := unconfirmed
  obtain ⟨result,moves,fed⟩ := e.server_timer
  rw [fed]
  cases moves with
  | idle _ =>
    refine ⟨_,if_neg ?_,invite,completed,(Function.update_of_ne (Ne.symm early) _ _).trans armed⟩
    simp [serverFsm,ServerTransaction.isTerminated,completed]
  | resent timer _ _ _ _ =>
    subst timer
    refine ⟨_,if_neg ?_,invite,completed,armed⟩
    simp [serverFsm,ServerTransaction.isTerminated,completed]
  | timedOut last _ => exact absurd last early
  | ended elsewhere => exact absurd completed (elsewhere invite)

theorem Unconfirmed.tick (unconfirmed : Unconfirmed deadline e) (due : deadline ≤ now) (ttl : Nat) :
    .failure .transactionTimeout ∈ (e.tick serverFsm ttl now).1 := by
  obtain ⟨before,later,split,apart⟩ := eq_append_cons_of_mem (mem_dueTimers.mpr ⟨deadline,unconfirmed.armed,due⟩)
  have one : ∀ kind ∈ before, ∀ e : Entry ServerTransaction T, (∃ left, some e = some left ∧ Unconfirmed deadline left) →
      ((e.disarm kind).feed serverFsm (.timer kind) now).1.filter (fun _ => false) = [] ∧
        ∃ left, ((e.disarm kind).feed serverFsm (.timer kind) now).2 = some left ∧ Unconfirmed deadline left := by
    rintro kind member e ⟨_,⟨⟩,unconfirmed⟩
    exact ⟨filter_false _,unconfirmed.early_timer (fun same => apart (same ▸ member)) now⟩
  obtain ⟨-,left,fired,invite,completed,armed⟩ := fireTimers_silent
    (R := fun left' => ∃ left, left' = some left ∧ Unconfirmed deadline left) one ⟨e,rfl,unconfirmed⟩
  obtain ⟨result,moves,fed⟩ := left.server_timer
  rw [tick_outputs,split,fireTimers_append,fired,Option.elim_some,fireTimers_armed armed,fed]
  refine mem_append_right _ (mem_append_left _ ?_)
  cases moves with
  | idle inTime => exact absurd rfl (inTime invite completed)
  | resent timer _ _ _ _ => cases timer
  | ended elsewhere => exact absurd completed (elsewhere invite)
  | timedOut _ _ => exact mem_cons_self

end Entries

namespace TransactionManager

variable (m : TransactionManager T)

def serverTicks (k : TransactionKey) (ticks : List Nat) : List (ManagerOutput T) :=
  emissions (fun m now => (m.tick now).2) (fun m now => under k (m.server.tickMap serverFsm m.config.ttl now).1) m ticks

theorem under_server_tick : under k (m.server.tickMap serverFsm m.config.ttl now).1 =
      ((m.server.lookup k).map fun e => (e.tick serverFsm m.config.ttl now).1).getD [] :=
  Entries.under_tickMap serverFsm m.server

/-- The ACK has settled the transaction: no tick sends the response again or reports a timeout. -/
def Closed (m : TransactionManager T) (k : TransactionKey) (response : SipMessage) : Prop :=
  (if m.config.transaction.timerI = 0 then m.server.lookup k = none
    else ∃ e, m.server.lookup k = some e ∧ e.transaction.state = .confirmed) ∧
  ∀ ticks, .failure .transactionTimeout ∉ m.serverTicks k ticks ∧ ∀ target, .send response target ∉ m.serverTicks k ticks

variable {m}

theorem confirmed_ticks (confirmed : ∀ e ∈ m.server.lookup k, e.transaction.state = .confirmed) :
    m.serverTicks k ticks = [] := by
  induction ticks generalizing m with
  | nil => rfl
  | cons now ticks ih =>
    have silent : under k (m.server.tickMap serverFsm m.config.ttl now).1 = [] := by
      rw [under_server_tick]
      cases live : m.server.lookup k with
      | none => rfl
      | some e => exact (confirmed_tick (confirmed e live)).1
    have kept : ∀ e ∈ (m.tick now).2.server.lookup k, e.transaction.state = .confirmed := by
      intro left held
      have held := lookup_server_tick m ▸ held
      obtain ⟨e,live,held⟩ := Option.bind_eq_some_iff.mp held
      exact (confirmed_tick (confirmed e live)).2 left held
    rw [serverTicks,emissions,silent]
    exact ih kept

theorem ack_confirms (live : m.server.lookup k = some e) (invite : e.transaction.isInvite)
    (completed : e.transaction.state = .completed) (configured : e.transaction.config = m.config.transaction)
    (keyed : m.serverKey (.request ⟨.ack,uri⟩ headers body) = some k) (target : T) (now : Nat) :
    if m.config.transaction.timerI = 0 then
      (m.handleRequest (.request ⟨.ack,uri⟩ headers body) target now).2.server.lookup k = none
    else ∃ e, (m.handleRequest (.request ⟨.ack,uri⟩ headers body) target now).2.server.lookup k = some e ∧
      e.transaction.state = .confirmed := by
  have member : k ∈ m.server := AList.lookup_isSome.mp (live ▸ rfl)
  have heard : serverFsm.process e.transaction (.request (.request ⟨.ack,uri⟩ headers body)) now =
      e.transaction.onInviteAck (.request ⟨.ack,uri⟩ headers body) now := by
    simp [serverFsm,ServerTransaction.process,ServerTransaction.onRequest,invite,completed,
      ServerTransaction.onInviteRequestCompleted,requestMethod]
  have left : (m.handleRequest (.request ⟨.ack,uri⟩ headers body) target now).2.server.lookup k =
      (e.feed serverFsm (.request (.request ⟨.ack,uri⟩ headers body)) now).2 := by
    simp only [handleRequest,keyed,if_pos member]
    exact Entries.lookup_dispatch_same serverFsm m.server live
  rw [left,feed,heard,ServerTransaction.onInviteAck,configured]
  split
  · rfl
  · exact ⟨_,rfl,rfl⟩

theorem ack_passes (keyed : m.serverKey (.request ⟨.ack,uri⟩ headers body) = some key) (apart : k ≠ key)
    (target : T) (now : Nat) :
    (m.handleRequest (.request ⟨.ack,uri⟩ headers body) target now).2.server.lookup k = m.server.lookup k := by
  simp only [handleRequest,keyed]
  split
  · exact Entries.lookup_dispatch_other serverFsm m.server apart
  · rfl

/-- The ACK for a rejected INVITE closes its server transaction exactly when the CSeq header of the INVITE
has the method ACK; otherwise the transaction goes on until it reports a timeout. -/
theorem ack_closes_iff (config : ManagerConfig) (run : List (Call T)) {k : TransactionKey} {e : Entry ServerTransaction T}
    (live : (execute step (new T config) run).server.lookup k = some e) (invite : e.transaction.isInvite)
    (completed : e.transaction.state = .completed) {t : ClientTransaction}
    (keyed : (execute step (new T config) run).serverKey t.request = some k) (response : SipMessage) (target : T) (now : Nat) :
    let m := ((execute step (new T config) run).handleRequest (t.buildAck response) target now).2
    (m.Closed k response ↔ k.cseqMethod = .ack) ∧
      (k.cseqMethod ≠ .ack → ∃ ticks, .failure .transactionTimeout ∈ m.serverTicks k ticks) := by
  have tracked : (new T config).Tracked k none := by simp [Tracked,new]
  obtain ⟨configured,-,bounded⟩ := tracked.run run e live
  generalize execute step (new T config) run = m at live keyed configured bounded ⊢
  intro m'
  have config : m'.config = m.config := config_handleRequest m
  have ackKey : m.serverKey (t.buildAck response) = some { k with cseqMethod := .ack } := ack_key keyed
  by_cases method : k.cseqMethod = .ack
  · have same : { k with cseqMethod := .ack } = k := by rw [← method]
    have confirmed := ack_confirms live invite completed configured (same ▸ ackKey) target now
    rw [← config] at confirmed
    have quiet : ∀ e ∈ m'.server.lookup k, e.transaction.state = .confirmed := by
      intro e held
      split at confirmed
      · cases held.symm.trans confirmed
      · obtain ⟨e',held',confirmed⟩ := confirmed
        obtain rfl := Option.some.inj (held'.symm.trans held)
        exact confirmed
    refine ⟨iff_of_true ⟨confirmed,fun ticks => ?_⟩ method,fun other => absurd method other⟩
    rw [confirmed_ticks quiet]
    exact ⟨not_mem_nil,fun _ => not_mem_nil⟩
  have apart : k ≠ { k with cseqMethod := .ack } := fun same => method (congrArg TransactionKey.cseqMethod same)
  have passed : m'.server.lookup k = some e := (ack_passes ackKey apart target now).trans live
  refine ⟨iff_of_false ?_ method,fun _ => ?_⟩
  · rintro ⟨confirmed,-⟩
    split at confirmed
    · cases passed.symm.trans confirmed
    · obtain ⟨e',held,confirmed⟩ := confirmed
      obtain rfl := Option.some.inj (passed.symm.trans held)
      cases completed.symm.trans confirmed
  obtain ⟨deadline,armed⟩ := bounded invite completed
  have unconfirmed : Unconfirmed deadline e := ⟨invite,completed,armed⟩
  refine ⟨[deadline],?_⟩
  rw [serverTicks,emissions,under_server_tick,passed]
  exact mem_append_left _ (unconfirmed.tick (Nat.le_refl _) _)

def Sample.caller (cseq : String) : ClientTransaction :=
  .new {} ⟨.invite,Sample.uri⟩ (Sample.headers.dropLast ++ [(.cSeq,cseq)]) .empty

def Sample.rejecting (cseq : String) (method : Method) : TransactionManager Unit :=
  execute step (new Unit {}) [.request (Sample.caller cseq).request () 0,
    .provide { Sample.key .uas with cseqMethod := method } (Sample.answer 486 "Busy Here") 1]

/-- An INVITE that is labelled ACK is closed by its ACK. -/
theorem Sample.mislabelled_invite_closed :
    (((Sample.rejecting "1 ACK" .ack).handleRequest ((Sample.caller "1 ACK").buildAck (Sample.answer 486 "Busy Here"))
      () 2).2).Closed
      { Sample.key .uas with cseqMethod := .ack } (Sample.answer 486 "Busy Here") := by
  have held : ((Sample.rejecting "1 ACK" .ack).server.lookup { Sample.key .uas with cseqMethod := .ack }).map
      (fun e => (e.transaction.isInvite,e.transaction.state)) = some (true,.completed) := by decide +kernel
  obtain ⟨e,live,facts⟩ := Option.map_eq_some_iff.mp held
  obtain ⟨invite,completed⟩ := Prod.mk.inj facts
  have keyed : (Sample.rejecting "1 ACK" .ack).serverKey (Sample.caller "1 ACK").request =
      some { Sample.key .uas with cseqMethod := .ack } := by decide +kernel
  exact (ack_closes_iff {} _ live invite completed keyed (Sample.answer 486 "Busy Here") () 2).1.mpr rfl

/-- Any other INVITE stays completed after its ACK, is answered again at the next tick and times out. -/
theorem Sample.acknowledged_invite_times_out :
    let m := ((Sample.rejecting "1 INVITE" .invite).handleRequest
      ((Sample.caller "1 INVITE").buildAck (Sample.answer 486 "Busy Here")) () 2).2
    (m.server.lookup (Sample.key .uas)).map (·.transaction.state) = some .completed ∧
      .send (Sample.answer 486 "Busy Here") () ∈ m.serverTicks (Sample.key .uas) [500000001] ∧
      .failure .transactionTimeout ∈ m.serverTicks (Sample.key .uas) [32000000001] := by
  decide +kernel

end TransactionManager

end CheetahSignaling.SipTransaction
