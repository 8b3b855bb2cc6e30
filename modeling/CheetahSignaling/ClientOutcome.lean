import CheetahSignaling.ClientRuns
import Mathlib.Data.List.Pairwise

/-! Every client transaction tells its user one outcome: a final response or a failure. Until then
the timer that bounds its life stays armed, so a tick at 64·T1 or later ends it. -/
namespace CheetahSignaling.SipTransaction

open KeyMap GuardedRun
open List hiding after

namespace ManagerOutput

def isOutcome : ManagerOutput T → Bool
  | .send _ _ => false
  | .deliver response => isFinal response
  | .failure _ => true

@[simp] theorem isOutcome_send : (send message target).isOutcome = false := rfl

@[simp] theorem isOutcome_deliver : (deliver response : ManagerOutput T).isOutcome = isFinal response := rfl

@[simp] theorem isOutcome_failure : (failure kind : ManagerOutput T).isOutcome = true := rfl

end ManagerOutput

section Entries

variable {e : Entry ClientTransaction T}

/-- A transaction that began at `start` and has told no outcome. -/
structure Pending (config : TransactionConfig) (start : Nat) (e : Entry ClientTransaction T) : Prop where
  configured : e.transaction.config = config
  waiting : e.transaction.Waiting
  armed : e.timers e.transaction.limit = some (start + config.t1 * 64)
  active : start ≤ e.lastActivity

/-- Nothing is left of a transaction, or it only absorbs retransmissions. -/
def Settled (left : Option (Entry ClientTransaction T)) : Prop := ∀ e ∈ left, e.transaction.state = .completed

section

variable (pending : Pending config start e)

include pending

theorem Pending.early_timer (later : start ≤ now) (early : kind ≠ e.transaction.limit) :
    ((e.disarm kind).feed clientFsm (.timer kind) now).1.filter (·.isOutcome) = [] ∧
      ∃ left, ((e.disarm kind).feed clientFsm (.timer kind) now).2 = some left ∧ Pending config start left ∧
        left.transaction.limit = e.transaction.limit := by
  obtain ⟨result,moves,fed⟩ := e.feed_timer
  rw [fed]
  have kept : (e.disarm kind).timers e.transaction.limit = some (start + config.t1 * 64) :=
    (Function.update_of_ne (Ne.symm early) _ _).trans pending.armed
  have alive := pending.waiting.not_terminated
  cases moves with
  | idle inTime once =>
    refine ⟨rfl,_,if_neg ?_,⟨pending.configured,pending.waiting,kept,later⟩,rfl⟩
    simp [clientFsm,alive]
  | resent resends n deadline =>
    refine ⟨rfl,_,if_neg ?_,⟨pending.configured,pending.waiting,?_,later⟩,rfl⟩
    · simp only [ClientTransaction.isTerminated] at alive
      simp [ClientTransaction.retransmit,clientFsm,ClientTransaction.isTerminated,alive]
    · exact (Function.update_of_ne (Ne.symm early) _ _).trans kept
  | timedOut waiting limit => exact absurd limit early
  | ended completed => exact absurd completed pending.waiting.not_completed

theorem Pending.last_timer (last : kind = e.transaction.limit) (now : Nat) :
    (e.disarm kind).feed clientFsm (.timer kind) now = ([.failure .transactionTimeout],none) := by
  obtain ⟨result,moves,fed⟩ := e.feed_timer
  rw [fed]
  cases moves with
  | idle inTime once => exact absurd last (inTime pending.waiting)
  | resent resends n deadline => exact absurd last resends.not_limit
  | timedOut waiting limit => rfl
  | ended completed => exact absurd completed pending.waiting.not_completed

theorem Pending.early_timers (later : start ≤ now) (kinds : List TimerKind)
    (early : e.transaction.limit ∉ kinds) :
    (Entry.fireTimers clientFsm now kinds e).1.filter (·.isOutcome) = [] ∧
      ∃ left, (Entry.fireTimers clientFsm now kinds e).2 = some left ∧ Pending config start left ∧
        left.transaction.limit = e.transaction.limit := by
  refine Entry.fireTimers_silent
    (R := fun left' => ∃ left, left' = some left ∧ Pending config start left ∧
      left.transaction.limit = e.transaction.limit) ?_ ⟨e,rfl,pending,rfl⟩
  rintro kind member e' ⟨_,⟨⟩,pending',limit⟩
  have other : kind ≠ e'.transaction.limit := by
    rintro rfl
    exact early (limit ▸ member)
  obtain ⟨silent,left,left_eq,pending'',limit'⟩ := pending'.early_timer later other
  exact ⟨silent,left,left_eq,pending'',limit'.trans limit⟩

theorem Pending.early_tick (later : start ≤ now) (long : config.t1 * 64 ≤ ttl)
    (early : now < start + config.t1 * 64) :
    (e.tick clientFsm ttl now).1.filter (·.isOutcome) = [] ∧
      ∃ left, (e.tick clientFsm ttl now).2 = some left ∧ Pending config start left := by
  have none : e.transaction.limit ∉ e.dueTimers now := by
    rintro due
    obtain ⟨deadline,armed,passed⟩ := Entry.mem_dueTimers.mp due
    rw [pending.armed,Option.some.injEq] at armed
    omega
  obtain ⟨silent,left,left_eq,pending',-⟩ := pending.early_timers later _ none
  refine ⟨silent,left,?_,pending'⟩
  have recent : now - left.lastActivity < ttl := by
    have := pending'.active
    omega
  rw [Entry.tick_left,left_eq]
  simp [clientFsm,pending'.waiting.not_terminated,recent]

theorem Pending.last_tick (later : start + config.t1 * 64 ≤ now) (ttl : Nat) :
    (e.tick clientFsm ttl now).1.filter (·.isOutcome) = [.failure .transactionTimeout] ∧
    (e.tick clientFsm ttl now).2 = none := by
  have due : e.transaction.limit ∈ e.dueTimers now := Entry.mem_dueTimers.mpr ⟨_,pending.armed,later⟩
  obtain ⟨first,rest,split,before⟩ := eq_append_cons_of_mem due
  obtain ⟨silent,left,left_eq,pending',limit⟩ := pending.early_timers (Nat.le_trans (Nat.le_add_right _ _) later) first before
  have fired := pending'.last_timer limit.symm now
  have armed := limit ▸ pending'.armed
  rw [Entry.tick_outputs,Entry.tick_left,split,Entry.fireTimers_append,left_eq,Option.elim_some,Option.bind_some,
    Entry.fireTimers_armed armed,fired,filter_append,silent]
  exact ⟨rfl,rfl⟩

theorem Pending.early_response (later : start ≤ now) (early : isFinal response = false) :
    (e.feed clientFsm (.response response) now).1.filter (·.isOutcome) = [] ∧
      ∃ left, (e.feed clientFsm (.response response) now).2 = some left ∧ Pending config start left := by
  obtain ⟨result,moves,fed⟩ := e.feed_response
  rw [fed]
  have alive := pending.waiting.not_terminated
  cases moves with
  | idle _ =>
    refine ⟨rfl,_,if_neg ?_,pending.configured,pending.waiting,pending.armed,later⟩
    simp [clientFsm,alive]
  | progressed waiting _ kind other timer sets =>
    have kept : Timers.apply e.timers timer e.transaction.limit = e.timers e.transaction.limit := by
      rcases sets with rfl | ⟨deadline,rfl⟩ <;> exact Function.update_of_ne (Ne.symm other) _ _
    have told : [timer,.deliver response].filterMap (ManagerOutput.translate e.target) = [.deliver response] := by
      rcases sets with rfl | ⟨deadline,rfl⟩ <;> rfl
    have open_ : TransactionOutput.complete ∉ [timer,.deliver response] := by
      rcases sets with rfl | ⟨deadline,rfl⟩ <;> simp
    refine ⟨?_,_,if_neg ?_,pending.configured,.inr rfl,kept.trans pending.armed,later⟩
    · simp only [Entry.absorb,told]
      simp [early]
    · simp [open_,clientFsm,ClientTransaction.isTerminated]
  | acknowledged completed _ _ => exact absurd completed pending.waiting.not_completed
  | answered _ final _ _ _ _ _ => simp [early] at final

theorem Pending.final_response (final : isFinal response) :
    (e.feed clientFsm (.response response) now).1.filter (·.isOutcome) = [.deliver response] ∧
      Settled (e.feed clientFsm (.response response) now).2 := by
  obtain ⟨result,moves,fed⟩ := e.feed_response
  rw [fed]
  cases moves with
  | idle early => simp [early pending.waiting] at final
  | progressed _ early _ _ _ _ => simp [early] at final
  | acknowledged completed _ _ => exact absurd completed pending.waiting.not_completed
  | answered waiting _ _ acks timers acked ends =>
    constructor
    · rcases acked with rfl | ⟨_,rfl⟩ <;> rcases ends with rfl | ⟨_,_,_,rfl⟩ <;>
        simp [Entry.absorb,filterMap_cons,final]
    rintro left member
    obtain ⟨running,-,rfl⟩ := Entry.absorb_left member
    rcases ends with rfl | ⟨completed,_⟩
    · simp at running
    · exact completed

end

section

variable (completed : e.transaction.state = .completed)

include completed

theorem settled_timer : ((e.disarm kind).feed clientFsm (.timer kind) now).1.filter (·.isOutcome) = [] ∧
      Settled ((e.disarm kind).feed clientFsm (.timer kind) now).2 := by
  obtain ⟨result,moves,fed⟩ := e.feed_timer
  rw [fed]
  have kept (t : ClientTransaction) (outputs : List TransactionOutput) (same : t.state = .completed) :
      Settled ({ e.disarm kind with transaction := t }.absorb clientFsm outputs now).2 := by
    rintro left member
    obtain ⟨-,-,rfl⟩ := Entry.absorb_left member
    exact same
  cases moves with
  | idle _ _ => exact ⟨rfl,kept _ _ completed⟩
  | resent _ n deadline => exact ⟨rfl,kept { e.transaction with retransmitCount := n } _ completed⟩
  | timedOut waiting _ => exact absurd completed waiting.not_completed
  | ended _ =>
    refine ⟨rfl,?_⟩
    rintro left member
    exact absurd mem_cons_self (Entry.absorb_left member).1

theorem settled_response : (e.feed clientFsm (.response response) now).1.filter (·.isOutcome) = [] ∧
      Settled (e.feed clientFsm (.response response) now).2 := by
  obtain ⟨result,moves,fed⟩ := e.feed_response
  rw [fed]
  have kept {outputs : List TransactionOutput} :
      Settled ({ e with transaction := e.transaction }.absorb clientFsm outputs now).2 := by
    rintro left member
    obtain ⟨-,-,rfl⟩ := Entry.absorb_left member
    exact completed
  cases moves with
  | idle _ => exact ⟨rfl,kept⟩
  | progressed waiting _ _ _ _ _ => exact absurd completed waiting.not_completed
  | acknowledged _ _ _ => exact ⟨rfl,kept⟩
  | answered waiting _ _ _ _ _ _ => exact absurd completed waiting.not_completed

theorem settled_tick (ttl now : Nat) :
    (e.tick clientFsm ttl now).1.filter (·.isOutcome) = [] ∧ Settled (e.tick clientFsm ttl now).2 := by
  exact Entry.tick_silent ttl (fun kind e completed => settled_timer completed) completed

end

end Entries

def Call.BringsFinal (config : ManagerConfig) (k : TransactionKey) : Call T → Prop
  | .response message _ =>
    TransactionKey.forMessage message .uac config.branchPolicy = some k ∧ isFinal message
  | _ => False

namespace TransactionManager

variable {m : TransactionManager T}

/-- A call starts a transaction only under a free key and with room for it. -/
def Undisturbed (m : TransactionManager T) (call : Call T) : Prop :=
  ∀ key ∈ call.started m.config, m.client.lookup key = none ∧ m.ClientRoom

/-- Where the transaction with a key stands and what it has told its user. The proposition says
whether a final response may have come in. -/
inductive Standing (received : Prop) (m : TransactionManager T) (k : TransactionKey) (start : Nat) :
    List (ManagerOutput T) → Prop where
  | pending (live : m.client.lookup k = some e) (pending : Pending m.config.transaction start e) :
      Standing received m k start []
  | timedOut (gone : m.client.lookup k = none) : Standing received m k start [.failure .transactionTimeout]
  | answered (final : received) (response : SipMessage) (settled : Settled (m.client.lookup k)) :
      Standing received m k start [.deliver response]

section

variable (standing : Standing received m k start outcomes)
include standing

theorem Standing.length : outcomes.length ≤ 1 := by
  cases standing <;> simp

theorem Standing.gone (gone : m.client.lookup k = none) : outcomes.length = 1 := by
  cases standing with
  | pending live _ => simp [gone] at live
  | timedOut _ => rfl
  | answered _ _ _ => rfl

/-- One call of the manager adds what it reports to the outcomes of the transaction. -/
theorem Standing.step (long : m.config.transaction.t1 * 64 ≤ m.config.ttl) (call : Call T) (later : start ≤ call.now)
    (other : call.started m.config ≠ some k) (undisturbed : m.Undisturbed call)
    (final : call.BringsFinal m.config k → received) :
    Standing received (m.step call) k start (outcomes ++ (m.clientEmitted k call).filter (·.isOutcome)) := by
  have moves := m.client_moves other
  generalize emitted : m.clientEmitted k call = outputs at moves
  generalize held : (m.step call).client.lookup k = left at moves
  cases moves with
  | idle _ =>
    cases standing with
    | pending live pending => exact .pending (held.trans live) (m.config_step call ▸ pending)
    | timedOut gone => exact .timedOut (held.trans gone)
    | answered final response settled => exact .answered final response (held ▸ settled)
  | evicted starts full => exact absurd (undisturbed _ starts).2 full
  | answered addressed live now =>
    rename_i message e
    have later : start ≤ now := later
    cases standing with
    | pending live' pending =>
      obtain rfl := Option.some.inj (live.symm.trans live')
      cases code : isFinal message with
      | false =>
        obtain ⟨silent,left,left_eq,pending⟩ := pending.early_response later code
        rw [silent]
        exact .pending (held.trans left_eq) (m.config_step _ ▸ pending)
      | true =>
        obtain ⟨told,settled⟩ := pending.final_response code
        rw [told]
        exact .answered (final ⟨addressed,code⟩) message (held ▸ settled)
    | timedOut gone => simp [gone] at live
    | answered final response settled =>
      obtain ⟨silent,settled⟩ := settled_response (settled e live)
      rw [silent,append_nil]
      exact .answered final response (held ▸ settled)
  | ticked live now =>
    rename_i e
    have later : start ≤ now := later
    cases standing with
    | pending live' pending =>
      obtain rfl := Option.some.inj (live.symm.trans live')
      rcases Nat.lt_or_ge now (start + m.config.transaction.t1 * 64) with early | late
      · obtain ⟨silent,left,left_eq,pending⟩ := pending.early_tick later long early
        rw [silent]
        exact .pending (held.trans left_eq) pending
      · obtain ⟨told,gone⟩ := pending.last_tick late m.config.ttl
        rw [told]
        exact .timedOut (held.trans gone)
    | timedOut gone => simp [gone] at live
    | answered final response settled =>
      obtain ⟨silent,settled⟩ := settled_tick (settled e live) m.config.ttl now
      rw [silent,append_nil]
      exact .answered final response (held ▸ settled)

/-- Along a run a transaction has reported nothing yet, its timeout or one final response. -/
theorem Standing.run (long : m.config.transaction.t1 * 64 ≤ m.config.ttl) (run : List (Call T))
    (later : ∀ call ∈ run, start ≤ call.now) (other : ∀ call ∈ run, call.started m.config ≠ some k)
    (undisturbed : Guarded TransactionManager.step Undisturbed m run)
    (final : ∀ call ∈ run, call.BringsFinal m.config k → received) :
    Standing received (execute TransactionManager.step m run) k start
      (outcomes ++ (m.clientReports k run).filter (·.isOutcome)) := by
  induction run generalizing m outcomes with
  | nil =>
    rw [clientReports,emissions,filter_nil,append_nil]
    exact standing
  | cons call run ih =>
    obtain ⟨later₀,later⟩ := forall_mem_cons.mp later
    obtain ⟨other₀,other⟩ := forall_mem_cons.mp other
    obtain ⟨final₀,final⟩ := forall_mem_cons.mp final
    have next := standing.step long call later₀ other₀ undisturbed.1 final₀
    have config := m.config_step call
    have rest := ih next (config ▸ long) later (config ▸ other) undisturbed.2 (config ▸ final)
    rwa [append_assoc,← filter_append] at rest

end

theorem begun_pending (config : TransactionConfig) : Pending config now (begun config line headers body target now) := by
  refine ⟨rfl,ClientTransaction.new_waiting config line headers body,?_,Nat.le_refl _⟩
  have same : (begun config line headers body target now).transaction = .new config line headers body := rfl
  rw [same,ClientTransaction.limit]
  cases invite : (ClientTransaction.new config line headers body).isInvite with
  | true => exact (begun_invite invite).2
  | false => exact (begun_other invite).2

theorem standing_start (starts : call.started m.config = some k) :
    Standing received (m.step call) k call.now ((m.clientEmitted k call).filter (·.isOutcome)) := by
  obtain ⟨line,headers,body,target,now,rfl,keyed⟩ := of_started starts
  obtain ⟨emitted,live⟩ := m.start_begins keyed
  rw [emitted]
  exact .pending live (m.config_step _ ▸ begun_pending m.config.transaction)

theorem Standing.overdue (standing : Standing received m k start outcomes) (late : start + m.config.transaction.t1 * 64 ≤ now) :
    (outcomes ++ (m.clientEmitted k (.tick now)).filter (·.isOutcome)).length = 1 ∧
      (¬received → outcomes ++ (m.clientEmitted k (.tick now)).filter (·.isOutcome) = [.failure .transactionTimeout] ∧
        (m.step (.tick now)).client.lookup k = none) := by
  rw [clientEmitted_tick,lookup_tick]
  cases standing with
  | pending live pending =>
    obtain ⟨told,gone⟩ := pending.last_tick late m.config.ttl
    simp [live,told,gone]
  | timedOut gone => simp [gone]
  | answered final response settled =>
    cases live : m.client.lookup k with
    | none => simp [final]
    | some e =>
      obtain ⟨silent,-⟩ := settled_tick (settled e live) m.config.ttl now
      simp [silent,final]

theorem started_standing (long : m.config.transaction.t1 * 64 ≤ m.config.ttl)
    (starts : call.started m.config = some k) (run : List (Call T)) (later : ∀ later ∈ run, call.now ≤ later.now)
    (fresh : ∀ later ∈ run, later.started m.config ≠ some k)
    (undisturbed : Guarded step Undisturbed (m.step call) run)
    (final : ∀ later ∈ run, later.BringsFinal m.config k → received) :
    Standing received (execute step m (call :: run)) k call.now ((m.clientReports k (call :: run)).filter (·.isOutcome)) := by
  have same := m.config_step call
  have whole := (standing_start starts).run (same.symm ▸ long) run later (same.symm ▸ fresh) undisturbed
    (same.symm ▸ final)
  rwa [← filter_append] at whole

/-- Outcome of a client transaction: it tells at most one, it is never removed without one, and a tick
at 64·T1 after its start or later leaves exactly one, a timeout when no final response came in. -/
theorem client_outcome_once {config : ManagerConfig} (long : config.transaction.t1 * 64 ≤ config.ttl)
    {before after : List (Call T)} {call : Call T} {k : TransactionKey} (starts : call.started config = some k)
    (ordered : ((before ++ call :: after).map Call.now).Pairwise (· ≤ ·))
    (undisturbed : Guarded step Undisturbed (new T config) (before ++ call :: after))
    (fresh : ∀ later ∈ after, later.started config ≠ some k) :
    let m := execute step (new T config) before
    let outcomes := fun run => (m.clientReports k (call :: run)).filter (·.isOutcome)
    let held := fun run => (execute step m (call :: run)).client.lookup k
    (outcomes after).length ≤ 1 ∧ (held after = none → (outcomes after).length = 1) ∧
      ∀ middle now rest, after = middle ++ .tick now :: rest → call.now + config.transaction.t1 * 64 ≤ now →
        (outcomes after).length = 1 ∧ ((∀ later ∈ middle, ¬later.BringsFinal config k) →
            outcomes (middle ++ [.tick now]) = [.failure .transactionTimeout] ∧ held (middle ++ [.tick now]) = none) := by
  intro m outcomes held
  have same : m.config = config := config_execute (new T config) before
  rw [← same] at long starts fresh ⊢
  have later : ∀ later ∈ after, call.now ≤ later.now := by
    rw [map_append,map_cons] at ordered
    have tail := (pairwise_cons.mp (pairwise_append.mp ordered).2.1).1
    exact fun later member => tail _ (mem_map_of_mem member)
  obtain ⟨-,-,undisturbed⟩ := guarded_append.mp undisturbed
  have whole : Standing True (execute step m (call :: after)) k call.now (outcomes after) :=
    started_standing long starts after later fresh undisturbed fun _ _ _ => trivial
  refine ⟨whole.length,whole.gone,?_⟩
  rintro middle now rest rfl late
  obtain ⟨later,-⟩ := forall_mem_append.mp later
  obtain ⟨fresh,-⟩ := forall_mem_append.mp fresh
  have undisturbed := (guarded_append.mp undisturbed).1
  have late : call.now + (execute step m (call :: middle)).config.transaction.t1 * 64 ≤ now := by
    rw [config_execute]
    exact late
  have ticked : outcomes (middle ++ [.tick now]) =
      outcomes middle ++ ((execute step m (call :: middle)).clientEmitted k (.tick now)).filter (·.isOutcome) := by
    have append := m.clientReports_append k (call :: middle) [.tick now]
    rw [clientReports_single] at append
    exact (congrArg _ append).trans (filter_append _ _)
  have left : held (middle ++ [.tick now]) = ((execute step m (call :: middle)).step (.tick now)).client.lookup k :=
    congrArg (·.client.lookup k) (execute_append step m (call :: middle))
  constructor
  · have one := ((started_standing long starts middle later fresh undisturbed fun _ _ _ => trivial).overdue late).1
    have most := whole.length
    have split : outcomes (middle ++ .tick now :: rest) = outcomes (middle ++ [.tick now]) ++
        ((execute step m (call :: (middle ++ [.tick now]))).clientReports k rest).filter (·.isOutcome) := by
      have append := m.clientReports_append k (call :: (middle ++ [.tick now])) rest
      rw [cons_append,append_assoc,singleton_append] at append
      exact (congrArg _ append).trans (filter_append _ _)
    rw [← ticked] at one
    rw [split,length_append,one] at most ⊢
    omega
  · intro quiet
    rw [ticked,left]
    exact ((started_standing long starts middle later fresh undisturbed quiet).overdue late).2 not_false

/-- An INVITE that nobody answers times out at the first tick after 64·T1. -/
theorem Sample.unanswered_invite_times_out :
    (((new Unit {}).clientReports (Sample.key .uac) [.start Sample.invite () 0,.tick 32000000000]).filter (·.isOutcome)) =
      [.failure .transactionTimeout] := by
  have long : ({} : ManagerConfig).transaction.t1 * 64 ≤ ({} : ManagerConfig).ttl := by decide
  have starts : (Call.start Sample.invite () 0).started {} = some (Sample.key .uac) := by decide +kernel
  have undisturbed : Guarded step Undisturbed (new Unit {}) ([] ++ .start Sample.invite () 0 :: [.tick 32000000000]) :=
    ⟨fun _ _ => ⟨rfl,.inr (by decide)⟩,⟨fun _ started => (by cases started),trivial⟩⟩
  have fresh : ∀ later ∈ [Call.tick 32000000000], (later : Call Unit).started {} ≠ some (Sample.key .uac) := by
    simp [Call.started]
  have last := (client_outcome_once long starts (by decide) undisturbed fresh).2.2 [] 32000000000 [] rfl (by decide)
  exact (last.2 fun _ member => absurd member not_mem_nil).1

end TransactionManager

end CheetahSignaling.SipTransaction
