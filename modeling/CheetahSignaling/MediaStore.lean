import CheetahSignaling.SortedTable
import CheetahSignaling.MediaSession
import CheetahSignaling.MediaBinding
import CheetahSignaling.Operation

/-! The tables behind a unit of work, and the repository calls of the services.
`working` is what the open transaction sees, `committed` what other transactions see; a
failed call keeps the writes made before it, as an open transaction does. The scheduler's
reservations and the command bus are not transactional. -/
namespace CheetahSignaling

open EStateM Option

structure Store where
  operations : Table Operation.operationId
  sessions : Table MediaSession.mediaSessionId
  bindings : Table MediaBinding.mediaBindingId
  outbox : List Event

structure World where
  (committed working : Store)
  /-- Bindings for which the scheduler holds resources on a media node. -/
  reserved : MediaBindingId → Bool
  /-- The commands the command bus has accepted. -/
  sent : List Command

abbrev World.HasSession (w : World) (s : MediaSession) : Prop := w.working.sessions.find s.mediaSessionId = some s

def World.opened (store : Store) (reserved : MediaBindingId → Bool) : World := ⟨store,store,reserved,[]⟩

namespace World

variable (w : World)

def putOperation (op : Operation) : World :=
  { w with working := { w.working with operations := w.working.operations.put op } }

def putSession (s : MediaSession) : World :=
  { w with working := { w.working with sessions := w.working.sessions.put s } }

def putBinding (b : MediaBinding) : World :=
  { w with working := { w.working with bindings := w.working.bindings.put b } }

def emit (e : Event) : World := { w with working := { w.working with outbox := w.working.outbox ++ [e] } }

def commit : World := { w with committed := w.working }

def rollback : World := { w with working := w.committed }

section Frames

variable (s : MediaSession) (b : MediaBinding)

@[simp] theorem putSession_operations : (w.putSession s).working.operations = w.working.operations := rfl
@[simp] theorem putSession_sessions : (w.putSession s).working.sessions = w.working.sessions.put s := rfl
@[simp] theorem putSession_bindings : (w.putSession s).working.bindings = w.working.bindings := rfl
@[simp] theorem putBinding_operations : (w.putBinding b).working.operations = w.working.operations := rfl
@[simp] theorem putBinding_bindings : (w.putBinding b).working.bindings = w.working.bindings.put b := rfl
@[simp] theorem commit_committed : w.commit.committed = w.working := rfl
@[simp] theorem rollback_committed : w.rollback.committed = w.committed := rfl
@[simp] theorem rollback_working : w.rollback.working = w.committed := rfl

end Frames

end World

/-- The worlds differ in the transaction's outbox only. -/
structure SameTables (w w' : World) : Prop where
  operations : w'.working.operations = w.working.operations
  sessions : w'.working.sessions = w.working.sessions
  bindings : w'.working.bindings = w.working.bindings
  committed : w'.committed = w.committed
  reserved : w'.reserved = w.reserved

theorem SameTables.refl (w : World) : SameTables w w := ⟨rfl,rfl,rfl,rfl,rfl⟩

theorem SameTables.emit (same : SameTables w w') (e : Event) : SameTables w (w'.emit e) :=
  ⟨same.operations,same.sessions,same.bindings,same.committed,same.reserved⟩

theorem SameTables.trans (first : SameTables a b) (second : SameTables b c) : SameTables a c :=
  ⟨second.operations.trans first.operations,second.sessions.trans first.sessions,
    second.bindings.trans first.bindings,second.committed.trans first.committed,
    second.reserved.trans first.reserved⟩

theorem SameTables.putSession (same : SameTables w w') (s : MediaSession) :
    SameTables (w.putSession s) (w'.putSession s) where
  operations := same.operations
  sessions := by simp [same.sessions]
  bindings := same.bindings
  committed := same.committed
  reserved := same.reserved

theorem SameTables.putBinding (same : SameTables w w') (b : MediaBinding) :
    SameTables (w.putBinding b) (w'.putBinding b) where
  operations := same.operations
  sessions := same.sessions
  bindings := by simp [same.bindings]
  committed := same.committed
  reserved := same.reserved

/-- An application method: on an error the world is as the failing call left it. -/
abbrev Service := EStateM DomainError World

namespace Service

@[simp] theorem run_raise : (throw e : Service α).run w = .error e w := rfl

@[simp] theorem run_ite (p : Prop) [Decidable p] (a b : Service α) (w : World) :
    (if p then a else b).run w = if p then a.run w else b.run w := by
  split <;> rfl

theorem bind_ok {f : α → Service β}
    (ran : (x >>= f).run w = .ok b w') :
    ∃ a w₁, x.run w = .ok a w₁ ∧ (f a).run w₁ = .ok b w' := by
  rw [run_bind] at ran
  split at ran
  · exact ⟨_,_,‹_›,ran⟩
  · cases ran

def attempt (x : Service α) : Service (Except DomainError α) := fun w =>
  match x w with
  | .ok a w' => .ok (.ok a) w'
  | .error e w' => .ok (.error e) w'

theorem run_attempt_ok (ran : x.run w = .ok a w') : (attempt x).run w = .ok (.ok a) w' := by
  change x w = _ at ran
  simp [attempt,EStateM.run,ran]

theorem run_attempt_error (ran : x.run w = .error e w') : (attempt x).run w = .ok (.error e) w' := by
  change x w = _ at ran
  simp [attempt,EStateM.run,ran]

def leaves (x : Service α) (w : World) : World :=
  match x.run w with
  | .ok _ w' => w'
  | .error _ w' => w'

theorem leaves_ok {x : Service α} (ran : x.run w = .ok a w') : x.leaves w = w' := by
  simp [leaves,ran]

theorem leaves_error {x : Service α} (ran : x.run w = .error e w') : x.leaves w = w' := by
  simp [leaves,ran]

theorem run_bind_error {f : α → Service β} (ran : x.run w = .error e w') : (x >>= f).run w = .error e w' := by
  simp [ran]

def Keeps (part : World → β) (x : Service α) : Prop := ∀ w, part (x.leaves w) = part w

abbrev Reads (x : Service α) : Prop := Keeps id x

section Keeps

theorem Keeps.ok (keeps : Keeps part x) (ran : x.run w = .ok a w') : part w' = part w := by
  simpa [leaves,ran] using keeps w

theorem Keeps.error (keeps : Keeps part x) (ran : x.run w = .error e w') : part w' = part w := by
  simpa [leaves,ran] using keeps w

theorem Keeps.bind (first : Keeps part x) (rest : ∀ a, Keeps part (f a)) : Keeps part (x >>= f) := by
  intro w
  cases ran : x.run w with
  | ok a w' =>
    rw [← first.ok ran]
    simpa [leaves,ran] using rest a w'
  | error e w' =>
    rw [← first.error ran]
    simp [leaves,ran]

theorem Keeps.ite [Decidable p] (first : Keeps part x) (second : Keeps part y) : Keeps part (if p then x else y) := by
  split
  · exact first
  · exact second

theorem Keeps.pure (part : World → γ) (a : α) : Keeps part (Pure.pure a : Service α) := fun _ => rfl

theorem Keeps.of_reads (reads : Reads x) : Keeps part x := fun w =>
  congrArg part (reads w)

end Keeps

/-- The `?` on a method of an aggregate. -/
def ofResult : Except DomainError α → Service α
  | .ok a => pure a
  | .error e => throw e

@[simp] theorem run_ofResult_ok : (ofResult (.ok a) : Service α).run w = .ok a w := rfl
@[simp] theorem run_ofResult_error :
    (ofResult (.error e) : Service α).run w = .error e w := rfl

theorem ofResult_ok (ran : (ofResult result).run w = .ok a w') : w' = w ∧ result = .ok a := by
  cases result <;> cases ran
  exact ⟨rfl,rfl⟩

theorem bind_ofResult_ok (ran : (ofResult result >>= f).run w = .ok b w') : ∃ a, result = .ok a ∧ (f a).run w = .ok b w' := by
  cases result with
  | ok a => exact ⟨a,rfl,ran⟩
  | error e => cases ran

/-- `ok_or_else(|| DomainError::not_found(entity, id))` -/
def required (entity : String) (id : Nat) : Option α → Service α
  | some a => pure a
  | none => throw (.notFound entity id)

@[simp] theorem run_required_some (id : Nat) :
    (required entity id (some a)).run w = .ok a w := rfl
@[simp] theorem run_required_none (id : Nat) :
    (required entity id (none : Option α)).run w = .error (.notFound entity id) w := rfl

def append (e : Event) : Service Unit := modify (·.emit e)
def commit : Service Unit := modify World.commit
def rollback : Service Unit := modify World.rollback

@[simp] theorem run_append : (append e).run w = .ok () (w.emit e) := rfl
@[simp] theorem run_commit (w : World) : commit.run w = .ok () w.commit := rfl
@[simp] theorem run_rollback (w : World) : rollback.run w = .ok () w.rollback := rfl

section

variable (tenant : TenantId)

def findOperation (id : OperationId) : Service (Option Operation) := do
  return ((← get).working.operations.find id).filter fun op => op.tenantId = tenant

def findSession (id : MediaSessionId) : Service (Option MediaSession) := do
  return ((← get).working.sessions.find id).filter fun s => s.tenantId = tenant

def findBinding (id : MediaBindingId) : Service (Option MediaBinding) := do
  return ((← get).working.bindings.find id).filter fun b => b.tenantId = tenant

@[simp] theorem run_findOperation (id : OperationId) (w : World) : (findOperation tenant id).run w =
      .ok ((w.working.operations.find id).filter fun op => op.tenantId = tenant) w := rfl
@[simp] theorem run_findSession (id : MediaSessionId) : (findSession tenant id).run w =
      .ok ((w.working.sessions.find id).filter fun s => s.tenantId = tenant) w := rfl
@[simp] theorem run_findBinding (id : MediaBindingId) : (findBinding tenant id).run w =
      .ok ((w.working.bindings.find id).filter fun b => b.tenantId = tenant) w := rfl

def getOperation (id : OperationId) : Service Operation := do
  required "operation" id (← findOperation tenant id)

def getSession (id : MediaSessionId) : Service MediaSession := do
  required "media session" id (← findSession tenant id)

def getBinding (id : MediaBindingId) : Service MediaBinding := do
  required "media binding" id (← findBinding tenant id)

end

theorem reads_ofResult : Reads (ofResult result) := by
  cases result <;> exact fun _ => rfl

theorem reads_required (id : Nat) (a : Option α) : Reads (required entity id a) := by
  cases a <;> exact fun _ => rfl

theorem reads_getSession : Reads (getSession t k) := Keeps.bind (fun _ => rfl) (reads_required _)

theorem reads_getBinding : Reads (getBinding t k) := Keeps.bind (fun _ => rfl) (reads_required _)

theorem reads_getOperation : Reads (getOperation t k) := Keeps.bind (fun _ => rfl) (reads_required _)

/-- The optimistic save of a repository, over the table it writes. -/
def saveIn [LinearOrder K] {key : V → K} (revision : V → Nat) (table : World → Table key)
    (put : World → V → World) (v : V) : Service Unit := do
  match (table (← get)).save revision v with
  | .ok _ => modify (put · v)
  | .error found => throw (.concurrentModification (revision v - 1) found)

section Saves

variable [LinearOrder K] {key : V → K} {table : World → Table key}

theorem saveIn_fresh (fresh : (table w).find (key v) = none) :
    (saveIn revision table put v).run w = .ok () (put w v) := by
  simp [saveIn,Table.save,fresh]

theorem saveIn_next (stored : (table w).find (key v) = some r)
    (next : revision r + 1 = revision v) :
    (saveIn revision table put v).run w = .ok () (put w v) := by
  simp [saveIn,Table.save,stored,next]

theorem saveIn_stale (stored : (table w).find (key v) = some r)
    (stale : revision r + 1 ≠ revision v) :
    (saveIn revision table put v).run w = .error (.concurrentModification (revision v - 1) (revision r)) w := by
  simp [saveIn,Table.save,stored,stale]

theorem saveIn_ok (saved : (saveIn revision table put v).run w = .ok u w') :
    w' = put w v ∧ ∀ r, (table w).find (key v) = some r → revision r + 1 = revision v := by
  cases stored : (table w).find (key v) with
  | none =>
    rw [saveIn_fresh stored] at saved
    cases saved
    exact ⟨rfl,by simp⟩
  | some r =>
    by_cases next : revision r + 1 = revision v
    · rw [saveIn_next stored next] at saved
      cases saved
      refine ⟨rfl,?_⟩
      rintro _ ⟨⟩
      exact next
    · rw [saveIn_stale stored next] at saved
      cases saved

theorem saveIn_error (failed : (saveIn revision table put v).run w = .error e w') : w' = w := by
  cases found : (table w).save revision v with
  | ok t => simp [saveIn,found] at failed
  | error old =>
    simp only [saveIn,run_bind,run_get,found] at failed
    cases failed
    rfl

end Saves

def saveOperation (op : Operation) : Service Unit :=
  saveIn Operation.revision (·.working.operations) World.putOperation op

def saveSession (s : MediaSession) : Service Unit :=
  saveIn MediaSession.revision (·.working.sessions) World.putSession s

def saveBinding (b : MediaBinding) : Service Unit :=
  saveIn MediaBinding.revision (·.working.bindings) World.putBinding b

theorem saveIn_keeps [LinearOrder K] {key : V → K}
    (table : World → Table key) (kept : ∀ w, part (put w v) = part w) :
    Keeps part (saveIn revision table put v) := by
  intro w
  cases found : (table w).save revision v with
  | ok t => simp [leaves,saveIn,found,kept]
  | error e => simp [leaves,saveIn,found]

theorem getOperation_stored (stored : w.working.operations.find k = some op)
    (tenant : op.tenantId = t) : (getOperation t k).run w = .ok op w := by
  simp [getOperation,stored,tenant,filter_some]

theorem getSession_stored (stored : w.working.sessions.find k = some s)
    (tenant : s.tenantId = t) : (getSession t k).run w = .ok s w := by
  simp [getSession,stored,tenant,filter_some]

theorem getBinding_stored (stored : w.working.bindings.find k = some b)
    (tenant : b.tenantId = t) : (getBinding t k).run w = .ok b w := by
  simp [getBinding,stored,tenant,filter_some]

theorem found_ok {tenantOf : V → TenantId}
    (ran : (required entity k (row.filter fun v => tenantOf v = t)).run w = .ok v w') :
    w' = w ∧ row = some v ∧ tenantOf v = t := by
  cases stored : row.filter fun v => tenantOf v = t with
  | none =>
    rw [stored] at ran
    cases ran
  | some found =>
    rw [stored] at ran
    cases ran
    simpa using stored

theorem getOperation_ok (ran : (getOperation t k).run w = .ok op w') :
    w' = w ∧ w.working.operations.find k = some op ∧ op.tenantId = t :=
  found_ok ran

theorem getSession_ok (ran : (getSession t k).run w = .ok s w') :
    w' = w ∧ w.working.sessions.find k = some s ∧ s.tenantId = t :=
  found_ok ran

theorem getBinding_ok (ran : (getBinding t k).run w = .ok b w') :
    w' = w ∧ w.working.bindings.find k = some b ∧ b.tenantId = t :=
  found_ok ran

theorem getSession_error (ran : (getSession t k).run w = .error e w') : e = .notFound "media session" k := by
  cases stored : (w.working.sessions.find k).filter fun s => s.tenantId = t with
  | none =>
    simp only [getSession,run_bind,run_findSession,stored] at ran
    cases ran
    rfl
  | some found => simp [getSession,stored] at ran

theorem saveSession_next (stored : w.working.sessions.find s.mediaSessionId = some r)
    (next : r.revision + 1 = s.revision) : (saveSession s).run w = .ok () (w.putSession s) :=
  saveIn_next stored next

theorem saveBinding_next (stored : w.working.bindings.find b.mediaBindingId = some r)
    (next : r.revision + 1 = b.revision) : (saveBinding b).run w = .ok () (w.putBinding b) :=
  saveIn_next stored next

theorem saveOperation_next (stored : w.working.operations.find op.operationId = some r)
    (next : r.revision + 1 = op.revision) : (saveOperation op).run w = .ok () (w.putOperation op) :=
  saveIn_next stored next

section

variable (tenant : TenantId)

def sessionEvent (s : MediaSession) (payload : DomainEvent) : Event :=
  ⟨tenant,⟨tenant,.mediaSession,s.mediaSessionId⟩,s.revision,payload⟩

def bindingEvent (b : MediaBinding) (payload : DomainEvent) : Event :=
  ⟨tenant,⟨tenant,.mediaBinding,b.mediaBindingId⟩,b.revision,payload⟩

def operationEvent (op : Operation) (payload : DomainEvent) : Event :=
  ⟨tenant,⟨tenant,.operation,op.operationId⟩,op.revision,payload⟩

/-- `let ev = aggregate.method(clock)?; append_event(.., aggregate, ev).await?` -/
def record (event : α → DomainEvent → Event) (result : Except DomainError (α × DomainEvent)) : Service α := do
  let (changed,payload) ← ofResult result
  append (event changed payload)
  return changed

@[simp] theorem run_record_ok : (record event (.ok (a,payload))).run w = .ok a (w.emit (event a payload)) := rfl

@[simp] theorem run_record_error :
    (record event (.error e)).run w = .error e w := rfl

def recordSaved (event : α → DomainEvent → Event) (save : α → Service Unit)
    (result : Except DomainError (α × DomainEvent)) : Service α := do
  let changed ← record event result
  save changed
  return changed

theorem run_record (event : α → DomainEvent → Event) (moved : result = .ok (a,payload)) :
    ∃ w', (record event result).run w = .ok a w' ∧ SameTables w w' := by
  rw [moved]
  exact ⟨_,rfl,(SameTables.refl w).emit _⟩

def failSession (now : UtcTimestamp) (error : ErrorText) (session : MediaSession) : Service MediaSession :=
  if session.isTerminal then pure session
  else record (sessionEvent tenant) (session.failed error now)

def failBinding (now : UtcTimestamp) (error : ErrorText) (binding : MediaBinding) : Service MediaBinding :=
  if binding.isTerminal then pure binding
  else record (bindingEvent tenant) (binding.failed error now)

end

section Failing

theorem run_failSession_terminal (terminal : MediaSession.isTerminal session = true) :
    (failSession t now error session).run w = .ok session w := by
  simp [failSession,terminal]

theorem run_failBinding_terminal (terminal : MediaBinding.isTerminal binding = true) :
    (failBinding t now error binding).run w = .ok binding w := by
  simp [failBinding,terminal]

theorem run_failSession_live (t : TenantId) (now : UtcTimestamp) (w : World)
    (live : session.isTerminal = false) (fits : error.Fits) :
    ∃ w', (failSession t now error session).run w = .ok (session.moved now .failed (some error)) w' ∧
      SameTables w w' := by
  rw [failSession,if_neg (by simp [live])]
  exact run_record _ (session.failed_live error now live fits)

theorem run_failBinding_live (t : TenantId) (now : UtcTimestamp)
    (live : binding.isTerminal = false) (fits : error.Fits) :
    ∃ w', (failBinding t now error binding).run w = .ok (binding.moved now .failed (some error)) w' ∧
      SameTables w w' := by
  rw [failBinding,if_neg (by simp [live])]
  exact run_record _ (binding.failed_live error now live fits)

theorem failSession_refused (tenant : TenantId) (now : UtcTimestamp) (w : World) (live : session.isTerminal = false)
    (oversized : ¬ error.Fits) :
    ∃ e, (failSession tenant now error session).run w = .error e w := by
  cases moved : session.failed error now with
  | ok pair => exact absurd ((MediaSession.transitionTo_inv moved).2.2.1 error rfl) oversized
  | error e => exact ⟨e,by simp [failSession,live,moved]⟩

theorem failBinding_refused (tenant : TenantId) (now : UtcTimestamp) (w : World) (live : binding.isTerminal = false)
    (oversized : ¬ error.Fits) :
    ∃ e, (failBinding tenant now error binding).run w = .error e w := by
  cases moved : binding.failed error now with
  | ok pair => exact absurd ((MediaBinding.transitionTo_inv moved).2.2.1 error rfl) oversized
  | error e => exact ⟨e,by simp [failBinding,live,moved]⟩

end Failing

theorem run_recordSaved (put : World → α → World) (moved : result = .ok (a,payload))
    (saved : ∀ w₁, SameTables w w₁ → (save a).run w₁ = .ok () (put w₁ a))
    (kept : ∀ w₁, SameTables w w₁ → SameTables (put w a) (put w₁ a)) :
    ∃ w', (recordSaved event save result).run w = .ok a w' ∧ SameTables (put w a) w' := by
  obtain ⟨w₁,recorded,tables⟩ := run_record event moved
  refine ⟨_,?_,kept w₁ tables⟩
  simp only [recordSaved,run_bind,recorded,saved w₁ tables,run_pure]

theorem run_recordSaved_binding (stored : w.working.bindings.find b.mediaBindingId = some b)
    (moved : result = .ok (MediaBinding.moved b now target cause,payload)) :
    ∃ w', (recordSaved (bindingEvent t) saveBinding result).run w = .ok (b.moved now target cause) w' ∧
      SameTables (w.putBinding (b.moved now target cause)) w' :=
  run_recordSaved _ moved (fun w₁ tables => saveBinding_next (r := b) (by rw [tables.bindings,MediaBinding.moved_id,stored]) rfl)
    fun _ tables => tables.putBinding _

end Service

namespace Sample

/-! One live session of device 3 with its binding and its operation, for concrete runs. -/

def scope : IdempotencyScope := ⟨1,"operator",⟨1,.channel,4⟩,"key"⟩

def session (state : MediaSessionState) : MediaSession where
  mediaSessionId := 10
  tenantId := 1
  deviceId := 3
  channelId := 4
  purpose := .live
  desiredState := .active
  state := state
  ownerEpoch := 7
  operationId := 20
  idempotencyScope := scope
  deadline := none
  error := none
  generation := 0
  playbackStartTime := none
  playbackEndTime := none
  playbackScale := none
  createdAt := 0
  updatedAt := 0
  revision := 2

def binding (state : MediaBindingState) : MediaBinding := ⟨30,10,1,4,5,7,1,state,none,0,0,1⟩

def command : Command := ⟨21,23,20,some 22,1,3,⟨1,.channel,4⟩,.startLive 10 4 5 .live,"key",scope,none,7⟩

def operation (status : OperationStatus) : Operation where
  operationId := 20
  tenantId := 1
  deviceId := 3
  idempotencyScope := scope
  target := ⟨1,.channel,4⟩
  command := command
  deadline := none
  expectedOwnerEpoch := 7
  status := status
  result := none
  error := none
  steps := [OperationStep.new command]
  createdAt := 0
  updatedAt := 0
  revision := 1

def world (s : MediaSessionState) (b : MediaBindingState) (status : OperationStatus) : World :=
  let store : Store := ⟨Table.empty.put (operation status),Table.empty.put (session s),Table.empty.put (binding b),[]⟩
  ⟨store,store,fun id => id == 30,[]⟩

end Sample

end CheetahSignaling
