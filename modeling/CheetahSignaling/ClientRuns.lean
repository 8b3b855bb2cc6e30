import CheetahSignaling.TransactionRuns

/-! The client half of the transaction manager, seen from one key. -/
namespace CheetahSignaling.SipTransaction

open KeyMap GuardedRun

def Call.started (config : ManagerConfig) : Call T → Option TransactionKey
  | .start message _ _ => if isRequest message then TransactionKey.forMessage message .uac config.branchPolicy else none
  | _ => none

namespace Entry

theorem feed_timer (e : Entry ClientTransaction T) :
    ∃ result, e.transaction.Fires kind result ∧ (e.disarm kind).feed clientFsm (.timer kind) now =
      { e.disarm kind with transaction := result.2 }.absorb clientFsm result.1 now :=
  ⟨_,e.transaction.onTimer_fires kind now,rfl⟩

theorem feed_response (e : Entry ClientTransaction T) :
    ∃ result, e.transaction.Hears response result ∧ e.feed clientFsm (.response response) now =
      { e with transaction := result.2 }.absorb clientFsm result.1 now :=
  ⟨_,ClientTransaction.onResponse_hears,rfl⟩

end Entry

namespace TransactionManager

variable (m : TransactionManager T) {k : TransactionKey}

section

variable (k : TransactionKey)

def clientEmitted : Call T → List (ManagerOutput T)
  | .start request target now =>
    if m.clientKey request = some k then (m.startClientTransaction request target now).1 else []
  | .response message now => if m.clientKey message = some k then (m.handleResponse message now).1 else []
  | .tick now => under k (m.client.tickMap clientFsm m.config.ttl now).1
  | .request _ _ _ => []
  | .provide _ _ _ => []

def clientReports (run : List (Call T)) : List (ManagerOutput T) :=
  emissions step (fun m call => m.clientEmitted k call) m run

theorem clientReports_append (first rest : List (Call T)) :
    m.clientReports k (first ++ rest) = m.clientReports k first ++ (execute step m first).clientReports k rest := by
  exact emissions_append m first rest

theorem clientReports_single (call : Call T) : m.clientReports k [call] = m.clientEmitted k call := List.append_nil _

def ClientRoom : Prop := m.config.maxTransactions = 0 ∨ m.client.entries.length < m.config.maxTransactions

/-- What a call that does not start the transaction with a key can do to it. -/
inductive ClientMoves (m : TransactionManager T) (k : TransactionKey) :
    Call T → List (ManagerOutput T) → Option (Entry ClientTransaction T) → Prop where
  | idle (call : Call T) (absent : ∀ now, call = .tick now → m.client.lookup k = none) :
      ClientMoves m k call [] (m.client.lookup k)
  | evicted {call : Call T} (starts : call.started m.config = some key) (full : ¬m.ClientRoom) : ClientMoves m k call [] none
  | answered (addressed : m.clientKey message = some k) (live : m.client.lookup k = some e) (now : Nat) :
      ClientMoves m k (.response message now) (e.feed clientFsm (.response message) now).1
        (e.feed clientFsm (.response message) now).2
  | ticked (live : m.client.lookup k = some e) (now : Nat) :
      ClientMoves m k (.tick now) (e.tick clientFsm m.config.ttl now).1 (e.tick clientFsm m.config.ttl now).2

theorem lookup_tick (now : Nat) :
    (m.step (.tick now)).client.lookup k = (m.client.lookup k).bind fun e => (e.tick clientFsm m.config.ttl now).2 :=
  Entries.lookup_tickMap clientFsm m.client

theorem clientEmitted_tick (now : Nat) :
    m.clientEmitted k (.tick now) = ((m.client.lookup k).map fun e => (e.tick clientFsm m.config.ttl now).1).getD [] :=
  Entries.under_tickMap clientFsm m.client

end

theorem client_handleRequest :
    (m.handleRequest message target now).2.client = m.client := by
  unfold handleRequest
  split
  · rfl
  split
  · rfl
  · split
    · rfl
    · split <;> rfl

theorem response_moves :
    ClientMoves m k (.response message now) (m.clientEmitted k (.response message now))
      ((m.step (.response message now)).client.lookup k) := by
  simp only [clientEmitted,step]
  cases message with
  | request line headers body =>
    simp only [handleResponse,ite_self]
    exact .idle _ (by simp)
  | response line headers body =>
    simp only [handleResponse]
    cases keyed : m.clientKey (.response line headers body) with
    | none => exact .idle _ (by simp)
    | some key =>
      by_cases same : key = k
      · subst same
        cases live : m.client.lookup key with
        | none =>
          simp only [Entries.dispatch_absent clientFsm m.client live]
          exact .idle _ (by simp)
        | some e =>
          simp only [Entries.dispatch_outputs clientFsm m.client live,
            Entries.lookup_dispatch_same clientFsm m.client live]
          exact .answered keyed live now
      · have apart : some key ≠ some k := fun equal => same (Option.some.inj equal)
        simp only [if_neg apart,Entries.lookup_dispatch_other clientFsm m.client (Ne.symm same)]
        exact .idle _ (by simp)

theorem startClientTransaction_response : m.startClientTransaction (.response line headers body) target now = ([],m) := by
  unfold startClientTransaction
  cases m.clientKey (.response line headers body) <;> rfl

theorem start_moves
    (other : (Call.start request target now).started m.config ≠ some k) :
    ClientMoves m k (.start request target now) (m.clientEmitted k (.start request target now))
      ((m.step (.start request target now)).client.lookup k) := by
  simp only [clientEmitted,step]
  cases request with
  | response line headers body =>
    simp only [startClientTransaction_response,ite_self]
    exact .idle _ (by simp)
  | request line headers body =>
    simp only [startClientTransaction]
    cases keyed : m.clientKey (.request line headers body) with
    | none => exact .idle _ (by simp)
    | some key =>
      have apart : some key ≠ some k := keyed ▸ other
      simp only [if_neg apart,Entries.lookup_begin_other clientFsm m.client fun same => apart (congrArg some same.symm)]
      rcases Entries.lookup_ensureCapacity clientFsm m.client with kept | ⟨gone,full⟩
      · rw [kept]
        exact .idle _ (by simp)
      · rw [gone]
        exact .evicted keyed full

theorem client_moves (other : call.started m.config ≠ some k) :
    ClientMoves m k call (m.clientEmitted k call) ((m.step call).client.lookup k) := by
  cases call with
  | start request target now => exact m.start_moves other
  | response message now => exact m.response_moves
  | request message target now => exact m.client_handleRequest.symm ▸ .idle _ (by simp)
  | provide key response now => exact .idle _ (by simp)
  | tick now =>
    rw [clientEmitted_tick,lookup_tick]
    cases live : m.client.lookup k with
    | none =>
      have quiet := ClientMoves.idle (k := k) (.tick now) fun _ _ => live
      rw [live] at quiet
      exact quiet
    | some e => exact .ticked live now

def begun (config : TransactionConfig) (line : RequestLine) (headers : SipHeaders) (body : ByteArray) (target : T)
    (now : Nat) : Entry ClientTransaction T :=
  let transaction := ClientTransaction.new config line headers body
  ⟨transaction,target,(transaction.bootstrap now).foldl Timers.apply fun _ => none,now⟩

theorem begun_invite {config : TransactionConfig}
    (invite : (ClientTransaction.new config line headers body).isInvite = true) :
    (begun config line headers body target now).timers .A = some (now + config.timerA 0) ∧
      (begun config line headers body target now).timers .B = some (now + config.timerB) := by
  simp only [begun,ClientTransaction.bootstrap,invite]
  exact ⟨rfl,rfl⟩

theorem begun_other {config : TransactionConfig}
    (other : (ClientTransaction.new config line headers body).isInvite = false) :
    (begun config line headers body target now).timers .E = some (now + config.timerE 0) ∧
      (begun config line headers body target now).timers .F = some (now + config.timerF) := by
  simp only [begun,ClientTransaction.bootstrap,other]
  exact ⟨rfl,rfl⟩

theorem begun_absorbed (config : TransactionConfig) :
    (Entry.new (ClientTransaction.new config line headers body) target now).absorb clientFsm
        ((ClientTransaction.new config line headers body).bootstrap now) now =
      ([.send (.request line headers body) target],some (begun config line headers body target now)) := by
  unfold Entry.absorb ClientTransaction.bootstrap
  cases invite : (ClientTransaction.new config line headers body).isInvite
  all_goals
    refine Prod.ext rfl ((if_neg ?_).trans ?_)
    · simp [clientFsm,Entry.new,(ClientTransaction.new_waiting config line headers body).not_terminated]
    · simp [begun,ClientTransaction.bootstrap,invite,Entry.new]

theorem start_begins (keyed : m.clientKey (.request line headers body) = some k) :
    m.clientEmitted k (.start (.request line headers body) target now) = [.send (.request line headers body) target] ∧
      (m.step (.start (.request line headers body) target now)).client.lookup k =
        some (begun m.config.transaction line headers body target now) := by
  simp only [clientEmitted,step,startClientTransaction,keyed,if_true,
    Entries.begin_kept clientFsm m.client (begun_absorbed m.config.transaction)]
  exact ⟨trivial,AList.lookup_insert _⟩

theorem of_started {config : ManagerConfig} {call : Call T} (starts : call.started config = some k) :
    ∃ line headers body target now, call = .start (.request line headers body) target now ∧
      TransactionKey.forMessage (.request line headers body) .uac config.branchPolicy = some k := by
  cases call with
  | start message target now =>
    cases message with
    | request line headers body => exact ⟨line,headers,body,target,now,rfl,starts⟩
    | response line headers body => cases starts
  | response _ _ => cases starts
  | request _ _ _ => cases starts
  | provide _ _ _ => cases starts
  | tick _ => cases starts

end TransactionManager

end CheetahSignaling.SipTransaction
