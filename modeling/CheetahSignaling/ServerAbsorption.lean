import CheetahSignaling.ServerRuns

/-! Server transactions absorb retransmissions: in every state that the manager can reach, a request
with the key and the method of a live transaction gets back the most recent response that the
transaction accepted from its user, and is not delivered again. -/
namespace CheetahSignaling.SipTransaction

open KeyMap List GuardedRun

section Entries

variable {e left : Entry ServerTransaction T}

/-- The entry answers with the latest response until it is confirmed, and a rejected INVITE waits for its ACK under timer H. -/
structure Tracks (config : TransactionConfig) (latest : Option SipMessage) (e : Entry ServerTransaction T) : Prop where
  configured : e.transaction.config = config
  answers : e.transaction.state = .confirmed ∨ e.transaction.cached = latest
  bounded : e.transaction.isInvite → e.transaction.state = .completed → ∃ deadline, e.timers .H = some deadline

theorem foldl_keeps_H (outputs : List TransactionOutput) (timers : Timers)
    (steady : ∀ kind deadline, .setTimer kind deadline ∈ outputs → kind = .G) (kept : ∀ kind, .cancelTimer kind ∉ outputs) :
    outputs.foldl Timers.apply timers .H = timers .H := by
  induction outputs generalizing timers with
  | nil => rfl
  | cons output outputs ih =>
    rw [foldl_cons,ih _ (fun kind deadline member => steady kind deadline (mem_cons_of_mem _ member))
      (fun kind member => kept kind (mem_cons_of_mem _ member))]
    cases output with
    | setTimer kind deadline =>
      obtain rfl := steady kind deadline mem_cons_self
      rfl
    | cancelTimer kind => exact absurd mem_cons_self (kept kind)
    | _ => rfl

variable (tracks : Tracks config latest e)
include tracks

theorem Tracks.timer (kind : TimerKind) (member : left ∈ ((e.disarm kind).feed serverFsm (.timer kind) now).2) :
    Tracks config latest left := by
  obtain ⟨result,moves,fed⟩ := e.server_timer
  rw [fed] at member
  obtain ⟨running,-,rfl⟩ := Entry.absorb_left member
  cases moves with
  | idle inTime =>
    refine ⟨tracks.configured,tracks.answers,?_⟩
    intro invite completed
    obtain ⟨deadline,armed⟩ := tracks.bounded invite completed
    exact ⟨deadline,(Function.update_of_ne (Ne.symm (inTime invite completed)) _ _).trans armed⟩
  | resent other _ response n deadline =>
    subst other
    exact ⟨tracks.configured,tracks.answers,tracks.bounded⟩
  | timedOut _ _ => exact absurd (mem_cons_of_mem _ mem_cons_self) running
  | ended _ => exact absurd mem_cons_self running

theorem Tracks.tick (member : left ∈ (e.tick serverFsm ttl now).2) : Tracks config latest left := by
  have one (kind : TimerKind) (e : Entry ServerTransaction T) (tracks : Tracks config latest e) :
      ((e.disarm kind).feed serverFsm (.timer kind) now).1.filter (fun _ => false) = [] ∧
        ∀ left ∈ ((e.disarm kind).feed serverFsm (.timer kind) now).2, Tracks config latest left :=
    ⟨filter_false _,fun left member => tracks.timer kind member⟩
  exact (Entry.tick_silent ttl one tracks).2 left member

theorem Tracks.request (message : SipMessage) (member : left ∈ (e.feed serverFsm (.request message) now).2) :
    Tracks config latest left := by
  obtain ⟨result,moves,fed⟩ := e.server_request
  rw [fed] at member
  obtain ⟨running,-,rfl⟩ := Entry.absorb_left member
  cases moves with
  | continues t' continues outputs steady kept =>
    refine ⟨continues.config.trans tracks.configured,?_,?_⟩
    · exact tracks.answers.imp continues.state.trans continues.cached.trans
    intro invite completed
    have invite : e.transaction.isInvite := by
      simp only [ServerTransaction.isInvite] at invite ⊢
      rwa [← continues.line]
    obtain ⟨deadline,armed⟩ := tracks.bounded invite (continues.state.symm.trans completed)
    exact ⟨deadline,(foldl_keeps_H outputs e.timers steady kept).trans armed⟩
  | acknowledged completed now =>
    simp only [ServerTransaction.onInviteAck] at running ⊢
    split at running
    · simp at running
    · rename_i lasting
      rw [if_neg lasting]
      exact ⟨tracks.configured,.inl rfl,nofun⟩

theorem Tracks.response (response : SipMessage) (member : left ∈ (e.feed serverFsm (.response response) now).2) :
    Tracks config (if (e.feed serverFsm (.response response) now).1 ≠ [] then some response else latest) left := by
  obtain ⟨result,moves,fed⟩ := e.server_response
  rw [fed] at member ⊢
  obtain ⟨running,-,rfl⟩ := Entry.absorb_left member
  cases moves with
  | ignored => exact ⟨tracks.configured,tracks.answers,tracks.bounded⟩
  | provisional => exact ⟨tracks.configured,.inr rfl,nofun⟩
  | ended t' => exact absurd (mem_cons_of_mem _ mem_cons_self) running
  | rejected invite retransmission retransmits deadline =>
    refine ⟨tracks.configured,.inr rfl,fun _ _ => ⟨deadline,?_⟩⟩
    rcases retransmits with rfl | ⟨_,rfl⟩ <;> rfl
  | completed other deadline =>
    refine ⟨tracks.configured,.inr rfl,fun invite _ => ?_⟩
    simp only [ServerTransaction.isInvite] at invite other
    simp [invite] at other

end Entries

theorem onRequest_same {t : ServerTransaction} (same : requestMethod request = some t.line.method) (target : T) (now : Nat) :
    (t.onRequest request now).1.filterMap (ManagerOutput.translate target) = t.cached.toList.map (.send · target) := by
  have replayed (response : Option SipMessage) :
      (ServerTransaction.replay response).filterMap (ManagerOutput.translate target) = response.toList.map (.send · target) := by
    cases response <;> rfl
  have other (response : Option SipMessage) :
      (t.onNonInviteRequest response request).1.filterMap (ManagerOutput.translate target) = response.toList.map
        (.send · target) := by
    rw [ServerTransaction.onNonInviteRequest,if_pos same]
    exact replayed response
  have method (invite : t.isInvite = true) : requestMethod request = some .invite := by
    simp only [ServerTransaction.isInvite,decide_eq_true_eq] at invite
    rw [same,invite]
  unfold ServerTransaction.onRequest ServerTransaction.cached
  split
  case h_1 invite proceeding =>
    simp only [ServerTransaction.onInviteRequest,method invite,proceeding]
    exact replayed _
  case h_2 invite completed =>
    simp only [ServerTransaction.onInviteRequestCompleted,method invite,completed]
    cases t.finalResponse with
    | none => rfl
    | some response =>
      simp only
      split <;> rfl
  case h_3 invite confirmed =>
    simp [ServerTransaction.onInviteRequestConfirmed,method invite,confirmed]
  case h_4 trying =>
    rw [trying]
    exact other none
  case h_5 proceeding =>
    rw [proceeding]
    exact other _
  case h_6 completed =>
    rw [completed]
    exact other _
  case h_7 =>
    cases t.isInvite <;> cases state : t.state <;> simp_all

namespace TransactionManager

variable {m : TransactionManager T}

def Tracked (m : TransactionManager T) (k : TransactionKey) (latest : Option SipMessage) : Prop :=
  ∀ e ∈ m.server.lookup k, Tracks m.config.transaction latest e

theorem Tracked.step (tracked : m.Tracked k latest) (call : Call T) : (m.step call).Tracked k (m.accepted k latest call) := by
  have moves := m.server_moves (k := k) call
  intro left held
  rw [m.config_step]
  generalize (m.step call).server.lookup k = result at moves held
  cases moves with
  | idle _ ignored =>
    rcases ignored latest with absent | same
    · rw [absent] at held
      cases held
    · rw [same]
      exact tracked left held
  | evicted _ _ _ _ => cases held
  | created keyed absent target now =>
    rename_i line headers body
    obtain rfl := Option.some.inj held
    have fresh : m.accepted k latest (.request (.request line headers body) target now) = none := if_pos ⟨keyed,absent⟩
    refine ⟨rfl,.inr (fresh ▸ ServerTransaction.new_cached m.config.transaction line headers body),?_⟩
    rcases ServerTransaction.new_state m.config.transaction line headers body with state | state <;> simp [received,state]
  | requested keyed live target now =>
    rename_i message e
    have same : m.accepted k latest (.request message target now) = latest := if_neg fun both => by simp [live] at both
    rw [same]
    exact (tracked e live).request message held
  | provided live response now =>
    rename_i e
    have same : m.accepted k latest (.provide k response now) =
        if (e.feed serverFsm (.response response) now).1 ≠ [] then some response else latest := by
      simp [accepted,provideResponse,Entries.dispatch_outputs serverFsm m.server live]
    rw [same]
    exact (tracked e live).response response held
  | ticked live now => exact (tracked _ live).tick held

def latestAccepted (k : TransactionKey) : TransactionManager T → Option SipMessage → List (Call T) → Option SipMessage
  | _, latest, [] => latest
  | m, latest, call :: rest => latestAccepted k (m.step call) (m.accepted k latest call) rest

/-- Along a run the entry holds the response accepted last. -/
theorem Tracked.run (tracked : m.Tracked k latest) (run : List (Call T)) :
    (execute TransactionManager.step m run).Tracked k (m.latestAccepted k latest run) := by
  induction run generalizing m latest with
  | nil => exact tracked
  | cons call rest ih => exact ih (tracked.step call)

/-- A request with the key and the method of a live transaction is not delivered, and gets the most
recent response that the transaction accepted, or nothing once it is confirmed. -/
theorem retransmission_absorbed (config : ManagerConfig) (run : List (Call T)) {k : TransactionKey}
    {e : Entry ServerTransaction T} (live : (execute step (new T config) run).server.lookup k = some e) {message : SipMessage}
    (keyed : (execute step (new T config) run).serverKey message = some k)
    (same : requestMethod message = some e.transaction.line.method) (target : T) (now : Nat) :
    let outcome := ((execute step (new T config) run).handleRequest message target now).1
    outcome.deliver = false ∧ outcome.outputs =
      if e.transaction.state = .confirmed then []
      else ((new T config).latestAccepted k none run).toList.map (.send · e.target) := by
  have tracked : (new T config).Tracked k none := by simp [Tracked,new]
  have tracks := tracked.run run e live
  generalize (new T config).latestAccepted k none run = latest at tracks ⊢
  generalize execute step (new T config) run = m at live keyed tracks ⊢
  cases message with
  | response line headers body => cases same
  | request line headers body =>
    have member : k ∈ m.server := AList.lookup_isSome.mp (live ▸ rfl)
    have outputs : (m.server.dispatch serverFsm k (.request (.request line headers body)) now).1 =
        e.transaction.cached.toList.map (.send · e.target) :=
      (Entries.dispatch_outputs serverFsm m.server live).trans (onRequest_same same e.target now)
    simp only [handleRequest,keyed,if_pos member,outcome,outputs]
    by_cases confirmed : e.transaction.state = .confirmed
    · simp [confirmed,ServerTransaction.cached]
    · rw [if_neg confirmed,tracks.answers.resolve_left confirmed]
      cases latest <;> exact ⟨rfl,rfl⟩

/-- An INVITE that comes again while the call rings gets the 180 once more. -/
theorem Sample.repeated_invite_gets_ringing :
    let m := execute step (new Unit {}) [.request Sample.invite () 0,.provide (Sample.key .uas) (Sample.answer 180 "Ringing") 1]
    (m.handleRequest Sample.invite () 2).1.deliver = false ∧
      (m.handleRequest Sample.invite () 2).1.outputs = [.send (Sample.answer 180 "Ringing") ()] := by
  intro m
  have held : (m.server.lookup (Sample.key .uas)).map (fun e => (e.transaction.line.method,e.transaction.state)) =
      some (.invite,.proceeding) := by decide +kernel
  obtain ⟨e,live,facts⟩ := Option.map_eq_some_iff.mp held
  obtain ⟨method,state⟩ := Prod.mk.inj facts
  have latest : (new Unit {}).latestAccepted (Sample.key .uas) none
      [.request Sample.invite () 0,.provide (Sample.key .uas) (Sample.answer 180 "Ringing") 1] =
        some (Sample.answer 180 "Ringing") := by decide +kernel
  have keyed : m.serverKey Sample.invite = some (Sample.key .uas) := by decide +kernel
  have absorbed := retransmission_absorbed {} _ live keyed (by rw [method]; rfl) () 2
  rwa [latest,state,if_neg (by decide)] at absorbed

end TransactionManager

end CheetahSignaling.SipTransaction
