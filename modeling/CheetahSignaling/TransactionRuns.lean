import CheetahSignaling.TransactionManager
import CheetahSignaling.GuardedRun

/-! Runs of the transaction manager, seen from one key: every call leaves the entry there, drops it,
or hands it one event, and what the entry gives out depends on it alone. -/
namespace CheetahSignaling.SipTransaction

open KeyMap List
open GuardedRun (execute execute_invariant)

inductive Call (T : Type) where
  | start (request : SipMessage) (target : T) (now : Nat)
  | response (message : SipMessage) (now : Nat)
  | request (message : SipMessage) (target : T) (now : Nat)
  | provide (key : TransactionKey) (response : SipMessage) (now : Nat)
  | tick (now : Nat)

def Call.now : Call T → Nat
  | .start _ _ now => now
  | .response _ now => now
  | .request _ _ now => now
  | .provide _ _ now => now
  | .tick now => now

namespace Entry

theorem absorb_left {e left : Entry X T} (kept : (e.absorb fsm outputs now).2 = some left) :
    .complete ∉ outputs ∧ fsm.isTerminated e.transaction = false ∧
      left = { e with timers := outputs.foldl Timers.apply e.timers,lastActivity := now } := by
  obtain ⟨running,same⟩ := Option.ite_none_left_eq_some.mp kept
  rw [not_or,Bool.not_eq_true] at running
  exact ⟨running.1,running.2,(Option.some.inj same).symm⟩

theorem fireTimers_unarmed (rest : List TimerKind) (unarmed : e.timers kind = none) :
    fireTimers fsm now (kind :: rest) e = fireTimers fsm now rest e := by
  rw [fireTimers,unarmed]
  rfl

theorem fireTimers_armed (armed : e.timers kind = some deadline) :
    fireTimers fsm now (kind :: rest) e = (((e.disarm kind).feed fsm (.timer kind) now).1 ++
          (((e.disarm kind).feed fsm (.timer kind) now).2.elim [] fun e => (fireTimers fsm now rest e).1),
        ((e.disarm kind).feed fsm (.timer kind) now).2.bind fun e => (fireTimers fsm now rest e).2) := by
  rw [fireTimers,armed]
  rcases (e.disarm kind).feed fsm (.timer kind) now with ⟨outputs,_ | left⟩
  · simp
  · rfl

theorem fireTimers_append (e : Entry X T) : fireTimers fsm now (first ++ rest) e =
      ((fireTimers fsm now first e).1 ++ ((fireTimers fsm now first e).2.elim [] fun e => (fireTimers fsm now rest e).1),
        (fireTimers fsm now first e).2.bind fun e => (fireTimers fsm now rest e).2) := by
  induction first generalizing e with
  | nil => rfl
  | cons kind first ih =>
    cases armed : e.timers kind with
    | none => rw [cons_append,fireTimers_unarmed _ armed,fireTimers_unarmed _ armed,ih]
    | some deadline =>
      rw [cons_append,fireTimers_armed armed,fireTimers_armed armed]
      cases ((e.disarm kind).feed fsm (.timer kind) now).2 with
      | none => simp
      | some left => simp [ih left]

/-- What every timer of a list keeps, and keeps silent about, the list keeps. -/
theorem fireTimers_silent {R : Option (Entry X T) → Prop}
    (one : ∀ kind ∈ kinds, ∀ e : Entry X T, R (some e) →
      ((e.disarm kind).feed fsm (.timer kind) now).1.filter p = [] ∧ R ((e.disarm kind).feed fsm (.timer kind) now).2)
    {e : Entry X T} (start : R (some e)) :
    (fireTimers fsm now kinds e).1.filter p = [] ∧ R (fireTimers fsm now kinds e).2 := by
  induction kinds generalizing e with
  | nil => exact ⟨rfl,start⟩
  | cons kind rest ih =>
    have later {e : Entry X T} := @ih (fun kind member => one kind (mem_cons_of_mem _ member)) e
    cases armed : e.timers kind with
    | none => exact fireTimers_unarmed rest armed ▸ later start
    | some deadline =>
      obtain ⟨silent,kept⟩ := one kind mem_cons_self e start
      rw [fireTimers_armed armed]
      cases left : ((e.disarm kind).feed fsm (.timer kind) now).2 with
      | none =>
        rw [left] at kept
        exact ⟨by simpa using silent,kept⟩
      | some e =>
        rw [left] at kept
        simp only [filter_append,silent]
        exact later kept

theorem mem_dueTimers {e : Entry X T} : kind ∈ e.dueTimers now ↔ ∃ deadline, e.timers kind = some deadline ∧ deadline ≤ now := by
  simp [dueTimers,TimerKind.mem_all,Option.any_eq_true]

theorem tick_outputs (e : Entry X T) (ttl : Nat) : (e.tick fsm ttl now).1 = (fireTimers fsm now (e.dueTimers now) e).1 := rfl

theorem tick_left (e : Entry X T) (ttl : Nat) :
    (e.tick fsm ttl now).2 = (fireTimers fsm now (e.dueTimers now) e).2.filter fun e =>
      !fsm.isTerminated e.transaction && decide (now - e.lastActivity < ttl) := rfl

theorem tick_silent {P : Entry X T → Prop} (ttl : Nat)
    (one : ∀ kind, ∀ e : Entry X T, P e → ((e.disarm kind).feed fsm (.timer kind) now).1.filter p = [] ∧
      ∀ left ∈ ((e.disarm kind).feed fsm (.timer kind) now).2, P left)
    (start : P e) :
    (e.tick fsm ttl now).1.filter p = [] ∧ ∀ left ∈ (e.tick fsm ttl now).2, P left := by
  have held : ∀ left ∈ some e, P left := by
    rintro _ ⟨⟩
    exact start
  obtain ⟨silent,kept⟩ := fireTimers_silent (R := fun left' => ∀ left ∈ left', P left)
    (fun kind _ e held => one kind e (held e rfl)) held
  exact ⟨silent,fun left member => kept left (Option.eq_some_of_filter_eq_some member)⟩

end Entry

namespace Entries

variable (fsm : Fsm X) (map : Entries X T)

theorem lookup_tickMap :
    (map.tickMap fsm ttl now).2.lookup k = (map.lookup k).bind fun e => (e.tick fsm ttl now).2 :=
  lookup_sweep map

theorem under_tickMap :
    under k (map.tickMap fsm ttl now).1 = ((map.lookup k).map fun e => (e.tick fsm ttl now).1).getD [] :=
  under_gather (fun _ e => (Entry.tick fsm e ttl now).1) map k

theorem dispatch_absent (absent : map.lookup key = none) :
    map.dispatch fsm key event now = ([],map) := by
  rw [dispatch,absent]

theorem dispatch_outputs (live : map.lookup key = some e) :
    (map.dispatch fsm key event now).1 = (e.feed fsm event now).1 := by
  simp only [dispatch,live]
  rcases e.feed fsm event now with ⟨outputs,_ | left⟩ <;> rfl

theorem lookup_dispatch_same (live : map.lookup key = some e) :
    (map.dispatch fsm key event now).2.lookup key = (e.feed fsm event now).2 := by
  simp only [dispatch,live]
  rcases e.feed fsm event now with ⟨outputs,_ | left⟩
  · exact AList.lookup_erase key map
  · exact AList.lookup_insert map

theorem lookup_dispatch_other (apart : k ≠ key) :
    (map.dispatch fsm key event now).2.lookup k = map.lookup k := by
  cases live : map.lookup key with
  | none => rw [dispatch_absent fsm map live]
  | some e =>
    simp only [dispatch,live]
    rcases e.feed fsm event now with ⟨outputs,_ | left⟩
    · exact AList.lookup_erase_ne apart
    · exact AList.lookup_insert_ne apart

theorem lookup_ensureCapacity :
    (ensureCapacity fsm map capacity).lookup k = map.lookup k ∨
      ((ensureCapacity fsm map capacity).lookup k = none ∧ ¬(capacity = 0 ∨ map.entries.length < capacity)) :=
  lookup_makeRoom k

theorem lookup_begin_other (apart : k ≠ key) :
    (map.begin fsm capacity key transaction target outputs now).2.lookup k = (ensureCapacity fsm map capacity).lookup k := by
  unfold begin
  rcases (Entry.new transaction target now).absorb fsm outputs now with ⟨outputs,_ | e⟩
  · rfl
  · exact AList.lookup_insert_ne apart

theorem begin_kept (kept : (Entry.new transaction target now).absorb fsm outputs now = (out,some e)) :
    map.begin fsm capacity key transaction target outputs now = (out,(ensureCapacity fsm map capacity).insert key e) := by
  simp [begin,kept]

end Entries

namespace TransactionManager

def step (m : TransactionManager T) : Call T → TransactionManager T
  | .start request target now => (m.startClientTransaction request target now).2
  | .response message now => (m.handleResponse message now).2
  | .request message target now => (m.handleRequest message target now).2
  | .provide key response now => (m.provideResponse key response now).2
  | .tick now => (m.tick now).2

variable (m : TransactionManager T)

theorem config_handleRequest :
    (m.handleRequest message target now).2.config = m.config := by
  unfold handleRequest
  split
  · rfl
  split
  · rfl
  · split
    · rfl
    · split <;> rfl

@[simp] theorem config_step (call : Call T) : (m.step call).config = m.config := by
  cases call with
  | start request target now =>
    simp only [step,startClientTransaction]
    split <;> rfl
  | response message now =>
    simp only [step,handleResponse]
    split
    · rfl
    · split <;> rfl
  | request message target now => exact config_handleRequest m
  | provide key response now => rfl
  | tick now => rfl

theorem config_execute (run : List (Call T)) : (execute step m run).config = m.config :=
  execute_invariant (fun s call same => (config_step s call).trans same) run rfl

end TransactionManager

namespace Sample

def uri : SipUri := ⟨.sip,some "bob",none,"example.com",none,[]⟩

def headers : SipHeaders :=
  [(.via,"SIP/2.0/UDP 192.168.1.1:5060;branch=z9hG4bK1"),(.from,"<sip:alice@example.com>;tag=abc"),
    (.to,"<sip:bob@example.com>"),(.callId,"call-inv@example.com"),(.cSeq,"1 INVITE")]

def invite : SipMessage := .request ⟨.invite,uri⟩ headers .empty

def answer (code : Nat) (reason : String) : SipMessage := .response ⟨code,reason⟩ headers .empty

def key (role : TransactionRole) : TransactionKey := ⟨"z9hG4bK1",.invite,"call-inv@example.com",role⟩

end Sample

end CheetahSignaling.SipTransaction
