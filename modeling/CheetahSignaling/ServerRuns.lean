import CheetahSignaling.TransactionRuns

/-! The server half of the transaction manager, seen from one key. -/
namespace CheetahSignaling.SipTransaction

open KeyMap GuardedRun

namespace Entry

section

variable (e : Entry ServerTransaction T)

include e

theorem server_timer :
    ∃ result, e.transaction.Fires kind result ∧ (e.disarm kind).feed serverFsm (.timer kind) now =
      { e.disarm kind with transaction := result.2 }.absorb serverFsm result.1 now :=
  ⟨_,ServerTransaction.onTimer_fires kind now,rfl⟩

theorem server_request :
    ∃ result, e.transaction.Hears request result ∧ e.feed serverFsm (.request request) now =
      { e with transaction := result.2 }.absorb serverFsm result.1 now :=
  ⟨_,ServerTransaction.onRequest_hears request now,rfl⟩

theorem server_response :
    ∃ result, e.transaction.Accepts response result ∧ e.feed serverFsm (.response response) now =
      { e with transaction := result.2 }.absorb serverFsm result.1 now :=
  ⟨_,ServerTransaction.onTuResponse_accepts,rfl⟩

end

end Entry

namespace TransactionManager

variable (m : TransactionManager T)

def received (config : TransactionConfig) (line : RequestLine) (headers : SipHeaders) (body : ByteArray) (target : T)
    (now : Nat) : Entry ServerTransaction T :=
  ⟨.new config line headers body,target,fun _ => none,now⟩

def accepted (k : TransactionKey) (latest : Option SipMessage) : Call T → Option SipMessage
  | .provide key response now =>
    if key = k ∧ (m.provideResponse key response now).1 ≠ [] then some response else latest
  | .request message _ _ => if m.serverKey message = some k ∧ m.server.lookup k = none then none else latest
  | _ => latest

/-- What a call can do to the server transaction with a key. -/
inductive ServerMoves (m : TransactionManager T) (k : TransactionKey) :
    Call T → Option (Entry ServerTransaction T) → Prop where
  | idle (call : Call T) (ignored : ∀ latest, m.server.lookup k = none ∨ m.accepted k latest call = latest) :
      ServerMoves m k call (m.server.lookup k)
  | evicted (message : SipMessage) (target : T) (now : Nat) (other : m.serverKey message ≠ some k) :
      ServerMoves m k (.request message target now) none
  | created (keyed : m.serverKey (.request line headers body) = some k) (absent : m.server.lookup k = none) (target : T)
      (now : Nat) : ServerMoves m k (.request (.request line headers body) target now)
        (some (received m.config.transaction line headers body target now))
  | requested (keyed : m.serverKey message = some k) (live : m.server.lookup k = some e) (target : T) (now : Nat) :
      ServerMoves m k (.request message target now) (e.feed serverFsm (.request message) now).2
  | provided (live : m.server.lookup k = some e) (response : SipMessage) (now : Nat) :
      ServerMoves m k (.provide k response now) (e.feed serverFsm (.response response) now).2
  | ticked (live : m.server.lookup k = some e) (now : Nat) :
      ServerMoves m k (.tick now) (e.tick serverFsm m.config.ttl now).2

theorem lookup_server_tick :
    (m.step (.tick now)).server.lookup k = (m.server.lookup k).bind fun e => (e.tick serverFsm m.config.ttl now).2 :=
  Entries.lookup_tickMap serverFsm m.server

theorem received_absorbed (config : TransactionConfig) :
    (Entry.new (ServerTransaction.new config line headers body) target now).absorb serverFsm
        (ServerTransaction.new config line headers body).bootstrap now =
      ([.deliver (.request line headers body)],some (received config line headers body target now)) := by
  refine Prod.ext rfl ((if_neg ?_).trans rfl)
  simp only [ServerTransaction.bootstrap,serverFsm,Entry.new,
    ServerTransaction.isTerminated,ServerTransaction.new]
  split <;> simp

theorem request_idle (other : m.server.lookup k = none ∨ m.serverKey message ≠ some k) :
    ServerMoves m k (.request message target now) (m.server.lookup k) := by
  refine .idle _ fun latest => other.imp_right fun other => if_neg ?_
  exact fun both => other both.1

theorem request_moves :
    ServerMoves m k (.request message target now) ((m.handleRequest message target now).2.server.lookup k) := by
  cases message with
  | response line headers body =>
    by_cases live : m.server.lookup k = none
    · exact m.request_idle (.inl live)
    · refine .idle _ fun latest => .inr (if_neg fun both => live both.2)
  | request line headers body =>
    simp only [handleRequest]
    cases keyed : m.serverKey (.request line headers body) with
    | none => exact m.request_idle (.inr (keyed ▸ nofun))
    | some key =>
      have apart (other : key ≠ k) : m.serverKey (.request line headers body) ≠ some k :=
        fun same => other (Option.some.inj (keyed.symm.trans same))
      simp only
      by_cases same : key = k
      · subst same
        split
        · rename_i member
          obtain ⟨e,live⟩ := Option.isSome_iff_exists.mp (AList.lookup_isSome.mpr member)
          simp only [Entries.lookup_dispatch_same serverFsm m.server live]
          exact .requested keyed live target now
        rename_i member
        have absent := AList.lookup_eq_none.mpr member
        split
        · exact m.request_idle (.inl absent)
        · simp only [Entries.begin_kept serverFsm m.server
            (received_absorbed m.config.transaction),AList.lookup_insert]
          exact .created keyed absent target now
      split
      · simp only [Entries.lookup_dispatch_other serverFsm m.server (Ne.symm same)]
        exact m.request_idle (.inr (apart same))
      split
      · exact m.request_idle (.inr (apart same))
      simp only [Entries.lookup_begin_other serverFsm m.server (Ne.symm same)]
      rcases Entries.lookup_ensureCapacity serverFsm m.server with kept | ⟨gone,-⟩
      · rw [kept]
        exact m.request_idle (.inr (apart same))
      · rw [gone]
        exact .evicted _ target now (apart same)

theorem server_startClientTransaction :
    (m.startClientTransaction request target now).2.server = m.server := by
  unfold startClientTransaction
  split <;> rfl

theorem server_handleResponse : (m.handleResponse message now).2.server = m.server := by
  unfold handleResponse
  split
  · rfl
  · split <;> rfl

theorem server_moves (call : Call T) : ServerMoves m k call ((m.step call).server.lookup k) := by
  cases call with
  | start request target now =>
    simp only [step,server_startClientTransaction]
    exact .idle _ fun _ => .inr rfl
  | response message now =>
    simp only [step,server_handleResponse]
    exact .idle _ fun _ => .inr rfl
  | request message target now => exact m.request_moves
  | provide key response now =>
    simp only [step,provideResponse]
    by_cases same : key = k
    · subst same
      cases live : m.server.lookup key with
      | none =>
        simp only [Entries.dispatch_absent serverFsm m.server live]
        exact .idle _ fun _ => .inl live
      | some e =>
        simp only [Entries.lookup_dispatch_same serverFsm m.server live]
        exact .provided live response now
    · simp only [Entries.lookup_dispatch_other serverFsm m.server (Ne.symm same)]
      exact .idle _ fun _ => .inr (if_neg fun both => same both.1)
  | tick now =>
    rw [lookup_server_tick]
    cases live : m.server.lookup k with
    | none =>
      have idle := ServerMoves.idle (k := k) (.tick now) fun _ => .inl live
      rw [live] at idle
      exact idle
    | some e => exact .ticked live now

end TransactionManager

end CheetahSignaling.SipTransaction
