import CheetahSignaling.ClientRuns
import Mathlib.Data.List.Pairwise

/-! How often a client transaction sends its request. Over a reliable transport the retransmission
timer is armed with no delay, so the request goes out once exactly when no tick comes between the
start and the first response, or, for requests other than INVITE, the final one. -/
namespace CheetahSignaling.SipTransaction

open KeyMap Entry GuardedRun
open List hiding after

def ManagerOutput.sends (request : SipMessage) : ManagerOutput T → Bool
  | .send message _ => message = request
  | _ => false

section Entries

variable {e : Entry ClientTransaction T}

def Quiet (now : Nat) (e : Entry ClientTransaction T) : Prop :=
  if e.transaction.isInvite then e.transaction.state ≠ .calling
  else
    match e.transaction.state with
    | .trying => .F ∈ e.dueTimers now
    | .proceeding => .E ∈ e.dueTimers now → .F ∈ e.dueTimers now
    | _ => True

def Unanswered (t : ClientTransaction) : Prop := t.state = if t.isInvite then .calling else .trying

def resendTimer (t : ClientTransaction) : TimerKind := if t.isInvite then .A else .E

/-- An unanswered transaction is about to send its request again. -/
def Primed (last : Nat) (e : Entry ClientTransaction T) : Prop :=
  Unanswered e.transaction → ∃ deadline, e.timers (resendTimer e.transaction) = some deadline ∧ deadline ≤ last

theorem Primed.later (primed : Primed last e) (later : last ≤ now) : Primed now e := by
  intro unanswered
  obtain ⟨deadline,armed,passed⟩ := primed unanswered
  exact ⟨deadline,armed,Nat.le_trans passed later⟩

theorem idle_timers (waiting : e.transaction.Waiting)
    (idle : ∀ kind ∈ kinds, kind ≠ e.transaction.limit ∧ ¬e.transaction.Resends kind) :
    ∃ left, fireTimers clientFsm now kinds e = ([],some left) ∧ left.transaction = e.transaction ∧
      ∀ kind ∉ kinds, left.timers kind = e.timers kind := by
  induction kinds generalizing e with
  | nil => exact ⟨e,rfl,rfl,fun _ _ => rfl⟩
  | cons kind rest ih =>
    obtain ⟨⟨early,once⟩,later⟩ := forall_mem_cons.mp idle
    cases armed : e.timers kind with
    | none =>
      obtain ⟨left,fired,same,kept⟩ := ih waiting later
      refine ⟨left,(fireTimers_unarmed rest armed).trans fired,same,?_⟩
      intro other absent
      exact kept other fun member => absent (mem_cons_of_mem _ member)
    | some deadline =>
      obtain ⟨result,moves,fed⟩ := e.feed_timer
      cases moves with
      | resent resends _ _ => exact absurd resends once
      | timedOut _ limit => exact absurd limit early
      | ended completed => exact absurd completed waiting.not_completed
      | idle _ _ =>
        have quiet : (e.disarm kind).feed clientFsm (.timer kind) now =
            ([],some { e.disarm kind with lastActivity := now }) := by
          rw [fed]
          refine Prod.ext rfl (if_neg ?_)
          simp [clientFsm,waiting.not_terminated]
        obtain ⟨left,fired,same,kept⟩ := ih (e := { e.disarm kind with lastActivity := now }) waiting later
        refine ⟨left,?_,same,?_⟩
        · rw [fireTimers_armed armed,quiet,Option.elim_some,Option.bind_some,fired]
          rfl
        · intro other absent
          rw [kept other fun member => absent (mem_cons_of_mem _ member)]
          exact Function.update_of_ne (fun same : other = kind => absent (same ▸ mem_cons_self)) _ _

theorem still_tick (still : ∀ kind, ¬e.transaction.Resends kind) :
    (e.tick clientFsm ttl now).1.filter (·.sends e.transaction.request) = [] ∧
      ∀ left ∈ (e.tick clientFsm ttl now).2, left.transaction = e.transaction := by
  refine tick_silent ttl ?_ rfl
  intro kind e' same
  obtain ⟨result,moves,fed⟩ := e'.feed_timer
  rw [fed]
  cases moves with
  | resent resends _ _ => exact absurd (same ▸ resends) (still kind)
  | idle _ _ =>
    refine ⟨rfl,?_⟩
    rintro left member
    obtain ⟨-,-,rfl⟩ := absorb_left member
    exact same
  | timedOut _ _ =>
    refine ⟨rfl,?_⟩
    rintro left member
    exact absurd (mem_cons_of_mem _ mem_cons_self) (absorb_left member).1
  | ended _ =>
    refine ⟨rfl,?_⟩
    rintro left member
    exact absurd mem_cons_self (absorb_left member).1

theorem dueTimers_split (first : List TimerKind) (split : TimerKind.all = first ++ kind :: rest)
    (due : kind ∈ e.dueTimers now) :
    ∃ before later, e.dueTimers now = before ++ kind :: later ∧ ∀ other ∈ before, other ∈ first ∧ other ∈ e.dueTimers now := by
  have passed := (mem_filter.mp due).2
  refine ⟨first.filter fun kind => (e.timers kind).any (· ≤ now),rest.filter fun kind => (e.timers kind).any (· ≤ now),?_,?_⟩
  · simp [dueTimers,split,passed]
  · intro other member
    obtain ⟨member,passed⟩ := mem_filter.mp member
    exact ⟨member,mem_filter.mpr ⟨other.mem_all,passed⟩⟩

theorem fireTimers_skip (waiting : e.transaction.Waiting) (apart : kind ∉ before)
    (idle : ∀ other ∈ before, other ≠ e.transaction.limit ∧ ¬e.transaction.Resends other) :
    ∃ left, left.transaction = e.transaction ∧ left.timers kind = e.timers kind ∧
      fireTimers clientFsm now (before ++ kind :: later) e = fireTimers clientFsm now (kind :: later) left := by
  obtain ⟨left,fired,same,kept⟩ := idle_timers waiting idle
  refine ⟨left,same,kept kind apart,?_⟩
  rw [fireTimers_append,fired]
  rfl

theorem expired_tick (other : e.transaction.isInvite = false) (waiting : e.transaction.Waiting)
    (due : .F ∈ e.dueTimers now) (ttl : Nat) : e.tick clientFsm ttl now = ([.failure .transactionTimeout],none) := by
  have limit : e.transaction.limit = .F := by simp [ClientTransaction.limit,other]
  obtain ⟨before,later,split,before_early⟩ := dueTimers_split [.A,.B] rfl due
  obtain ⟨deadline,armed,-⟩ := mem_dueTimers.mp due
  have early : ∀ kind ∈ before, kind = .A ∨ kind = .B := fun kind member => by simpa using (before_early kind member).1
  obtain ⟨left,same,kept,fired⟩ := fireTimers_skip waiting
    (fun member : TimerKind.F ∈ before => by simpa using early .F member)
    (fun kind member => by rcases early kind member with rfl | rfl <;> simp [limit,ClientTransaction.Resends,other])
  obtain ⟨result,moves,fed⟩ := left.feed_timer
  rw [same] at moves
  cases moves with
  | idle inTime _ => exact absurd limit.symm (inTime waiting)
  | resent resends _ _ => exact absurd limit.symm resends.not_limit
  | ended completed => exact absurd completed waiting.not_completed
  | timedOut _ _ =>
    rw [tick,split,fired,fireTimers_armed (kept.trans armed),fed]
    rfl

theorem resent_tick (resends : e.transaction.Resends kind) (split : e.dueTimers now = before ++ kind :: later)
    (apart : kind ∉ before) (waiting : e.transaction.Waiting)
    (idle : ∀ other ∈ before, other ≠ e.transaction.limit ∧ ¬e.transaction.Resends other) (ttl : Nat) :
    (e.tick clientFsm ttl now).1.filter (·.sends e.transaction.request) ≠ [] := by
  obtain ⟨deadline,armed,-⟩ := mem_dueTimers.mp (split ▸ mem_append_right before mem_cons_self)
  obtain ⟨left,same,kept,fired⟩ := fireTimers_skip waiting apart idle
  obtain ⟨result,moves,fed⟩ := left.feed_timer
  rw [same] at moves
  cases moves with
  | idle _ once => exact absurd resends once
  | timedOut _ limit => exact absurd limit resends.not_limit
  | ended completed => exact absurd completed waiting.not_completed
  | resent _ n deadline =>
    rw [tick_outputs,split,fired,fireTimers_armed (kept.trans armed),fed]
    simp [absorb,ClientTransaction.retransmit,ManagerOutput.sends]

theorem waiting_cases {t : ClientTransaction} (other : t.isInvite = false) :
    t.Waiting ↔ t.state = .trying ∨ t.state = .proceeding := by
  simp [ClientTransaction.Waiting,other]

theorem resends_iff {t : ClientTransaction} (other : t.isInvite = false) : t.Resends kind ↔ kind = .E ∧ t.Waiting := by
  simp [ClientTransaction.Resends,other]

theorem quiet_tick (quiet : Quiet now e) :
    (e.tick clientFsm ttl now).1.filter (·.sends e.transaction.request) = [] ∧
      ∀ left ∈ (e.tick clientFsm ttl now).2, left.transaction = e.transaction ∧ ¬Unanswered e.transaction := by
  have still (still : ∀ kind, ¬e.transaction.Resends kind) (answered : ¬Unanswered e.transaction) :
      (e.tick clientFsm ttl now).1.filter (·.sends e.transaction.request) = [] ∧
        ∀ left ∈ (e.tick clientFsm ttl now).2, left.transaction = e.transaction ∧ ¬Unanswered e.transaction :=
    ⟨(still_tick still).1,fun left member => ⟨(still_tick still).2 left member,answered⟩⟩
  cases invite : e.transaction.isInvite with
  | true =>
    simp only [Quiet,invite,if_true] at quiet
    exact still (fun kind => by simp [ClientTransaction.Resends,invite,quiet]) (by simp [Unanswered,invite,quiet])
  | false =>
    by_cases waiting : e.transaction.Waiting
    · by_cases due : .F ∈ e.dueTimers now
      · rw [expired_tick invite waiting due ttl]
        exact ⟨rfl,by simp⟩
      have limit : e.transaction.limit = .F := by simp [ClientTransaction.limit,invite]
      have proceeding : e.transaction.state = .proceeding := by
        rcases (waiting_cases invite).mp waiting with trying | proceeding
        · simp [Quiet,invite,trying,due] at quiet
        · exact proceeding
      have calm : .E ∉ e.dueTimers now := by
        simp only [Quiet,invite,proceeding] at quiet
        exact fun member => due (quiet member)
      obtain ⟨left,fired,same,-⟩ := idle_timers waiting (fun kind member =>
        ⟨fun last => due (limit ▸ last ▸ member),fun resends => calm (((resends_iff invite).mp resends).1 ▸ member)⟩)
      rw [tick_outputs,tick_left,fired]
      refine ⟨rfl,fun left' member => ?_⟩
      obtain rfl := Option.some.inj (Option.eq_some_of_filter_eq_some member)
      exact ⟨same,by simp [Unanswered,invite,proceeding]⟩
    · refine still (fun kind => by simp [ClientTransaction.Resends,invite,waiting]) ?_
      rintro unanswered
      exact waiting (.inl unanswered)

theorem loud_tick (primed : Primed last e) (later : last ≤ now) (loud : ¬Quiet now e) :
    (e.tick clientFsm ttl now).1.filter (·.sends e.transaction.request) ≠ [] := by
  cases invite : e.transaction.isInvite with
  | true =>
    have calling : e.transaction.state = .calling := by simpa [Quiet,invite] using loud
    obtain ⟨deadline,armed,passed⟩ := primed (by simp [Unanswered,invite,calling])
    rw [resendTimer,invite,if_pos rfl] at armed
    obtain ⟨before,later,split,none⟩ := dueTimers_split [] rfl (mem_dueTimers.mpr ⟨deadline,armed,Nat.le_trans passed later⟩)
    obtain rfl : before = [] := eq_nil_iff_forall_not_mem.mpr fun kind member => by simpa using (none kind member).1
    exact resent_tick (by simp [ClientTransaction.Resends,invite,calling]) split (by simp)
      (by simp [ClientTransaction.Waiting,invite,calling]) (by simp) ttl
  | false =>
    have limit : e.transaction.limit = .F := by simp [ClientTransaction.limit,invite]
    have both : e.transaction.Waiting ∧ .E ∈ e.dueTimers now ∧ .F ∉ e.dueTimers now := by
      simp only [Quiet,invite,Bool.false_eq_true,if_false] at loud
      split at loud
      · rename_i trying
        obtain ⟨deadline,armed,passed⟩ := primed (by simp [Unanswered,invite,trying])
        rw [resendTimer,invite] at armed
        exact ⟨(waiting_cases invite).mpr (.inl trying),mem_dueTimers.mpr ⟨deadline,armed,Nat.le_trans passed later⟩,loud⟩
      · rename_i proceeding
        obtain ⟨due,early⟩ := Classical.not_imp.mp loud
        exact ⟨.inr proceeding,due,early⟩
      · exact absurd trivial loud
    obtain ⟨waiting,due,early⟩ := both
    obtain ⟨before,later,split,first⟩ := dueTimers_split [.A,.B,.F,.D] rfl due
    have other : .E ∉ before := fun member => by simpa using (first _ member).1
    refine resent_tick ((resends_iff invite).mpr ⟨rfl,waiting⟩) split other waiting (fun kind member => ⟨?_,?_⟩) ttl
    · rintro last
      exact early (limit ▸ last ▸ (first kind member).2)
    · rintro resends
      exact other (((resends_iff invite).mp resends).1 ▸ member)

theorem ack_is_not_request {t : ClientTransaction} (invite : t.isInvite) (response : SipMessage) :
    t.buildAck response ≠ t.request := by
  intro same
  have methods : some Method.ack = some t.line.method := congrArg requestMethod same
  simp only [ClientTransaction.isInvite,decide_eq_true_eq] at invite
  rw [invite] at methods
  cases methods

theorem heard_response :
    (e.feed clientFsm (.response response) now).1.filter (·.sends e.transaction.request) = [] ∧
      ∀ left ∈ (e.feed clientFsm (.response response) now).2, left.transaction.request = e.transaction.request ∧
        (Unanswered left.transaction → left.transaction = e.transaction ∧ left.timers = e.timers) := by
  obtain ⟨result,moves,fed⟩ := e.feed_response
  rw [fed]
  cases moves with
  | idle _ =>
    refine ⟨rfl,fun left member => ?_⟩
    obtain ⟨-,-,rfl⟩ := absorb_left member
    exact ⟨rfl,fun _ => ⟨rfl,rfl⟩⟩
  | progressed _ _ kind _ timer sets =>
    constructor
    · rcases sets with rfl | ⟨deadline,rfl⟩ <;> rfl
    intro left member
    obtain ⟨-,-,rfl⟩ := absorb_left member
    refine ⟨rfl,fun unanswered => ?_⟩
    simp only [Unanswered] at unanswered
    split at unanswered <;> cases unanswered
  | acknowledged completed invite final =>
    constructor
    · simp [absorb,ManagerOutput.sends,ack_is_not_request invite]
    · intro left member
      obtain ⟨-,-,rfl⟩ := absorb_left member
      exact ⟨rfl,fun _ => ⟨rfl,rfl⟩⟩
  | answered _ _ kept acks timers acked ends =>
    constructor
    · rcases acked with rfl | ⟨invite,rfl⟩
      · rcases ends with rfl | ⟨_,_,_,rfl⟩ <;> rfl
      · have other := ack_is_not_request invite response
        rcases ends with rfl | ⟨_,_,_,rfl⟩ <;> simp [absorb,filterMap_cons,ManagerOutput.sends,other]
    intro left member
    obtain ⟨running,-,rfl⟩ := absorb_left member
    refine ⟨kept,fun unanswered => ?_⟩
    rcases ends with rfl | ⟨completed,-⟩
    · simp at running
    · simp only [Unanswered,completed] at unanswered
      split at unanswered <;> cases unanswered

end Entries

namespace TransactionManager

variable {m : TransactionManager T} {k : TransactionKey}

/-- No tick sends the request of the transaction again. -/
def Patient (k : TransactionKey) (m : TransactionManager T) : Call T → Prop
  | .tick now => ∀ e ∈ m.client.lookup k, Quiet now e
  | _ => True

def Poised (m : TransactionManager T) (k : TransactionKey) (request : SipMessage) (last : Nat) : Prop :=
  ∀ e ∈ m.client.lookup k, e.transaction.request = request ∧ Primed last e

/-- One call: it sends the request again exactly when it is not patient. -/
theorem Poised.step (poised : m.Poised k request last) (call : Call T) (later : last ≤ call.now)
    (other : call.started m.config ≠ some k) :
    ((m.clientEmitted k call).filter (·.sends request) = [] ↔ m.Patient k call) ∧
      (m.Patient k call → (m.step call).Poised k request call.now) := by
  have moves := m.client_moves other
  generalize emitted : m.clientEmitted k call = outputs at moves
  generalize held : (m.step call).client.lookup k = left at moves
  cases moves with
  | idle _ absent =>
    refine ⟨iff_of_true rfl ?_,?_⟩
    · cases call with
      | tick now =>
        intro e live
        rw [absent now rfl] at live
        cases live
      | _ => trivial
    · intro _ e live
      obtain ⟨same,primed⟩ := poised e (held ▸ live)
      exact ⟨same,primed.later later⟩
  | evicted starts full =>
    refine ⟨iff_of_true rfl ?_,?_⟩
    · cases call with
      | tick now => cases starts
      | _ => trivial
    · intro _ e live
      rw [held] at live
      cases live
  | answered addressed live now =>
    rename_i message e
    obtain ⟨same,primed⟩ := poised e live
    obtain ⟨silent,kept⟩ := heard_response
    refine ⟨iff_of_true (same ▸ silent) trivial,?_⟩
    intro _ left live
    rw [held] at live
    obtain ⟨same',unchanged⟩ := kept left live
    refine ⟨same'.trans same,?_⟩
    intro unanswered
    obtain ⟨transaction,timers⟩ := unchanged unanswered
    rw [transaction] at unanswered ⊢
    rw [timers]
    exact primed.later later unanswered
  | ticked live now =>
    rename_i e
    obtain ⟨same,primed⟩ := poised e live
    have quiet : m.Patient k (.tick now) ↔ Quiet now e := by simp [Patient,live]
    rw [quiet]
    constructor
    · constructor
      · intro silent
        by_contra loud
        exact loud_tick primed later loud (same ▸ silent)
      · intro quiet
        exact same ▸ (quiet_tick quiet).1
    intro quiet left live
    rw [held] at live
    obtain ⟨transaction,answered⟩ := (quiet_tick quiet).2 left live
    rw [Primed,transaction]
    exact ⟨same,fun unanswered => absurd unanswered answered⟩

/-- A run: the request is not sent again exactly when every call is patient. -/
theorem Poised.run (poised : m.Poised k request last) (run : List (Call T)) (later : ∀ call ∈ run, last ≤ call.now)
    (ordered : (run.map Call.now).Pairwise (· ≤ ·)) (other : ∀ call ∈ run, call.started m.config ≠ some k) :
    (m.clientReports k run).filter (·.sends request) = [] ↔ Guarded TransactionManager.step (Patient k) m run := by
  induction run generalizing m last with
  | nil => exact iff_of_true rfl trivial
  | cons call run ih =>
    obtain ⟨later,-⟩ := forall_mem_cons.mp later
    obtain ⟨other,others⟩ := forall_mem_cons.mp other
    obtain ⟨next,ordered⟩ := pairwise_cons.mp ordered
    obtain ⟨sends_iff,kept⟩ := poised.step call later other
    have same := m.config_step call
    have split : (m.clientReports k (call :: run)).filter (·.sends request) = [] ↔
        (m.clientEmitted k call).filter (·.sends request) = [] ∧
          ((m.step call).clientReports k run).filter (·.sends request) = [] := by
      rw [← append_eq_nil_iff,← filter_append]
      rfl
    rw [split,sends_iff]
    refine and_congr_right fun patient => ih (kept patient) ?_ ordered (same.symm ▸ others)
    exact fun later member => next _ (mem_map_of_mem member)

theorem begun_primed {config : TransactionConfig} (reliable : config.transport = .reliable) (target : T) :
    Primed now (begun config line headers body target now) := by
  have none : config.backoff 0 = 0 := if_pos reliable
  have same : (begun config line headers body target now).transaction = .new config line headers body := rfl
  intro _
  refine ⟨now + config.backoff 0,?_,none.symm ▸ Nat.le_refl now⟩
  rw [same,resendTimer]
  cases invite : (ClientTransaction.new config line headers body).isInvite with
  | true => exact (begun_invite invite).1
  | false => exact (begun_other invite).1

/-- The request of a client transaction over a reliable transport goes out exactly once if and only if
every call up to the end of the run is patient. -/
theorem request_sent_once_iff {config : ManagerConfig} (reliable : config.transaction.transport = .reliable)
    {before after : List (Call T)} {target : T} {now : Nat}
    (starts : (Call.start request target now).started config = some k)
    (ordered : ((before ++ .start request target now :: after).map Call.now).Pairwise (· ≤ ·))
    (fresh : ∀ later ∈ after, later.started config ≠ some k) :
    let m := execute TransactionManager.step (new T config) before
    ((m.clientReports k (.start request target now :: after)).filter (·.sends request)).length = 1 ↔
      Guarded TransactionManager.step (Patient k) (m.step (.start request target now)) after := by
  intro m
  have same : m.config = config := config_execute (new T config) before
  rw [← same] at reliable starts fresh
  obtain ⟨line,headers,body,_,_,⟨⟩,keyed⟩ := of_started starts
  obtain ⟨emitted,live⟩ := m.start_begins keyed
  have poised : (m.step (.start (.request line headers body) target now)).Poised k (.request line headers body) now := by
    intro e held
    obtain rfl := Option.some.inj (live.symm.trans held)
    exact ⟨rfl,begun_primed reliable target⟩
  rw [map_append,map_cons] at ordered
  obtain ⟨later,ordered⟩ := pairwise_cons.mp (pairwise_append.mp ordered).2.1
  have rest := poised.run after (fun call member => later _ (mem_map_of_mem member)) ordered
    ((m.config_step _).symm ▸ fresh)
  rw [← rest]
  have split : (m.clientReports k (.start (.request line headers body) target now :: after)).filter
      (·.sends (.request line headers body)) = .send (.request line headers body) target ::
        ((m.step (.start (.request line headers body) target now)).clientReports k after).filter
          (·.sends (.request line headers body)) := by
    rw [clientReports,emissions,emitted,filter_append]
    simp [ManagerOutput.sends,clientReports]
  rw [split,length_cons]
  simp

def Sample.reliable : ManagerConfig := { transaction := { transport := .reliable } }

/-- An INVITE whose first response comes before the first tick goes out once. -/
theorem Sample.answered_invite_sent_once : (((new Unit Sample.reliable).clientReports (Sample.key .uac)
      [.start Sample.invite () 0,.response (Sample.answer 180 "Ringing") 0,.tick 1]).filter (·.sends Sample.invite)).length =
        1 := by
  have starts : (Call.start Sample.invite () 0).started Sample.reliable = some (Sample.key .uac) := by decide +kernel
  have ordered : (([] ++ Call.start Sample.invite () 0 :: [.response (Sample.answer 180 "Ringing") 0,.tick 1]).map
      Call.now).Pairwise (· ≤ ·) := by decide
  refine (request_sent_once_iff rfl starts ordered (by simp [Call.started])).mpr ⟨trivial,?_,trivial⟩
  have all : ((execute TransactionManager.step (new Unit Sample.reliable)
      [.start Sample.invite () 0,.response (Sample.answer 180 "Ringing") 0]).client.lookup (Sample.key .uac)).all
        (fun e => e.transaction.isInvite && decide (e.transaction.state = .proceeding)) = true := by decide +kernel
  intro e live
  have ringing : e.transaction.isInvite ∧ e.transaction.state = .proceeding := by
    simpa using Option.all_eq_true .. |>.mp all e live
  simp [Quiet,ringing]

/-- An INVITE over a reliable transport goes out again at the first tick. -/
theorem Sample.ticked_invite_sent_twice :
    (((new Unit Sample.reliable).clientReports (Sample.key .uac) [.start Sample.invite () 0,.tick 1]).filter
      (·.sends Sample.invite)).length = 2 := by
  decide +kernel

end TransactionManager

end CheetahSignaling.SipTransaction
