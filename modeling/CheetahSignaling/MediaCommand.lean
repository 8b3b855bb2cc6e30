import CheetahSignaling.MediaStore

/-! Commands to media nodes. The node's answer to a command is an argument of the service
functions, and so is the failure of a repository or port call, so that a run with a given
answer and given failures is one value. A failed commit loses what was not committed. -/
namespace CheetahSignaling

structure RequestContext where
  tenantId : TenantId
  principalId : String
  messageId : MessageId

inductive MediaNodeCommandResult where
  | completed
  | accepted
  | failed (error : ErrorText)
  | unknownOutcome (error : ErrorText)

structure MediaNodeCommand where
  requestId : MessageId
  tenantId : TenantId
  mediaSessionId : MediaSessionId
  mediaBindingId : MediaBindingId
  mediaNodeId : NodeId
  mediaNodeInstanceEpoch : Nat
  operationId : OperationId
  ownerEpoch : OwnerEpoch
  sourceNodeId : NodeId
  deadline : Option UtcTimestamp
  idempotencyKey : String
  contractVersion : Nat
  payload : CommandPayload

/-- The variants of a port's error that the services tell apart. -/
inductive PortErrorKind where
  | unavailable | invalidArgument | notFound | concurrentModification | staleOwner | other

structure PortError where
  kind : PortErrorKind
  text : String

abbrev CommandReply := Except PortError MediaNodeCommandResult

def domainErrorToCommandFailure (e : PortError) : MediaNodeCommandResult :=
  let code := match e.kind with
    | .unavailable => "unavailable"
    | .invalidArgument => "invalid_argument"
    | .notFound => "not_found"
    | .concurrentModification => "concurrency_conflict"
    | .staleOwner => "stale_owner"
    | .other => "media_command_failed"
  .failed ⟨code,e.text⟩

def CommandReply.result : CommandReply → MediaNodeCommandResult
  | .ok result => result
  | .error e => domainErrorToCommandFailure e

/-- `ORDER BY created_at DESC LIMIT 1` -/
def newest : List MediaBinding → Option MediaBinding
  | [] => none
  | b :: rest =>
    match newest rest with
    | none => some b
    | some c => if b.createdAt < c.createdAt then some c else some b

theorem newest_mem (found : newest rows = some b) : b ∈ rows := by
  induction rows with
  | nil => cases found
  | cons row rest ih =>
    simp only [newest] at found
    split at found
    · cases found
      exact List.mem_cons_self
    rename_i c later
    split at found
    · cases found
      exact List.mem_cons_of_mem _ (ih later)
    · cases found
      exact List.mem_cons_self

namespace Store

section

variable (store : Store) (scope : IdempotencyScope)

/-- `get_by_media_session`: the newest binding of a session that is not terminal. -/
def currentBinding (tenant : TenantId) (id : MediaSessionId) : Option MediaBinding :=
  newest (store.bindings.rows.filter fun b =>
    b.tenantId = tenant ∧ b.mediaSessionId = id ∧ b.isTerminal = false)

/-- `get_by_idempotency`: the statement compares tenant, principal and key. -/
def operationByIdempotency : Option Operation :=
  store.operations.rows.find? fun op =>
    op.tenantId = scope.tenantId ∧ op.idempotencyScope.principalId = scope.principalId ∧
      op.idempotencyScope.idempotencyKey = scope.idempotencyKey

def sessionByIdempotency : Option MediaSession :=
  store.sessions.rows.find? fun s =>
    s.tenantId = scope.tenantId ∧ s.idempotencyScope.principalId = scope.principalId ∧
      s.idempotencyScope.idempotencyKey = scope.idempotencyKey

end

theorem currentBinding_stored {store : Store} (current : store.currentBinding tenant k = some b) :
    store.bindings.find b.mediaBindingId = some b ∧ b.tenantId = tenant ∧ b.mediaSessionId = k ∧
      b.isTerminal = false := by
  obtain ⟨member,selected⟩ := List.mem_filter.mp (newest_mem current)
  exact ⟨(Table.find_eq_some _).mpr ⟨member,rfl⟩,of_decide_eq_true selected⟩

end Store

def noFaults : σ → Option DomainError := fun _ => none

namespace Service

/-- A repository or port call that fails as the argument says. -/
def call (failure : Option DomainError) (x : Service α) : Service α :=
  match failure with
  | some e => throw e
  | none => x

@[simp] theorem call_none (x : Service α) : call none x = x := rfl
@[simp] theorem run_call_some :
    (call (some e) x).run w = .error e w := rfl

section Inversion

variable {failure : Option DomainError}

theorem call_ok (ran : (call failure x).run w = .ok a w') : failure = none ∧ x.run w = .ok a w' := by
  cases failure with
  | some e => cases ran
  | none => exact ⟨rfl,ran⟩

theorem bind_append_ok (ran : (call failure (append e) >>= f).run w = .ok b w') :
    (f ()).run (w.emit e) = .ok b w' := by
  obtain ⟨_,w₁,appended,rest⟩ := bind_ok ran
  cases (call_ok appended).2
  exact rest

theorem bind_saveIn_ok [LinearOrder K] {key : V → K} {table : World → Table key}
    (ran : (call failure (saveIn revision table put v) >>= f).run w = .ok b w') :
    (f ()).run (put w v) = .ok b w' := by
  obtain ⟨_,w₁,saved,rest⟩ := bind_ok ran
  obtain ⟨rfl,-⟩ := saveIn_ok (call_ok saved).2
  exact rest

end Inversion

variable (scope : IdempotencyScope) (failure : Option DomainError) (tenant : TenantId) (id : MediaSessionId)
  (w : World)

def commitCall : Service Unit :=
  match failure with
  | some e => do
    rollback
    throw e
  | none => commit

@[simp] theorem commitCall_none : commitCall none = commit := rfl
@[simp] theorem run_commitCall_some :
    (commitCall (some e)).run w = .error e w.rollback := rfl

theorem bind_commit_ok {failure : Option DomainError} {w w' : World}
    (ran : (commitCall failure >>= f).run w = .ok b w') : (f ()).run w.commit = .ok b w' := by
  cases failure with
  | some e => cases ran
  | none => exact ran

/-- `if let Err(e) = media_port.release(..)`: a failure is only logged. -/
def releaseReservation (id : MediaBindingId) : Service Unit :=
  match failure with
  | some _ => pure ()
  | none => modify fun w => { w with reserved := Function.update w.reserved id false }

def findByMediaSession : Service (Option MediaBinding) := do
  return (← get).working.currentBinding tenant id

def findOperationByIdempotency : Service (Option Operation) := do
  return (← get).working.operationByIdempotency scope

def findSessionByIdempotency : Service (Option MediaSession) := do
  return (← get).working.sessionByIdempotency scope

@[simp] theorem run_findByMediaSession :
    (findByMediaSession tenant id).run w = .ok (w.working.currentBinding tenant id) w := rfl
@[simp] theorem run_findOperationByIdempotency :
    (findOperationByIdempotency scope).run w = .ok (w.working.operationByIdempotency scope) w := rfl

end Service

open Service

inductive ExecuteCall where
  | getOperation | saveOperation | appendStarted | commit

def executeMediaCommand (faults : ExecuteCall → Option DomainError)
    (node : MediaNodeCommand → CommandReply) (now : UtcTimestamp) (command : MediaNodeCommand) :
    Service MediaNodeCommandResult := do
  let operation ← call (faults .getOperation) (getOperation command.tenantId command.operationId)
  let (operation,started) ← ofResult (operation.start now)
  call (faults .saveOperation) (saveOperation operation)
  call (faults .appendStarted) (append (operationEvent command.tenantId operation started))
  commitCall (faults .commit)
  return (node command).result

theorem run_executeMediaCommand (node : MediaNodeCommand → CommandReply)
    (stored : w.working.operations.find command.operationId = some op)
    (tenant : op.tenantId = command.tenantId) (pending : op.status = .pending) :
    ∃ w', (executeMediaCommand noFaults node now command).run w = .ok (node command).result w' ∧
      w'.working.operations = w.working.operations.put (op.started now) ∧
      w'.working.sessions = w.working.sessions ∧ w'.working.bindings = w.working.bindings ∧
      w'.committed = w'.working ∧ w'.reserved = w.reserved := by
  have id : op.operationId = command.operationId := ((Table.find_eq_some _).mp stored).2
  have saved : (saveOperation (op.started now)).run w = .ok () (w.putOperation (op.started now)) :=
    saveOperation_next (r := op) (by rw [Operation.started_id,id,stored]) rfl
  simp only [executeMediaCommand,noFaults,call_none,EStateM.run_bind,
    getOperation_stored stored tenant,op.start_pending pending,run_ofResult_ok,saved]
  exact ⟨_,rfl,rfl,rfl,rfl,rfl,rfl⟩

theorem executeMediaCommand_ok
    (ran : (executeMediaCommand faults node now command).run w = .ok result w') :
    ∃ op, w.working.operations.find command.operationId = some op ∧ op.tenantId = command.tenantId ∧
      op.status = .pending ∧ result = (node command).result ∧
      w'.working.operations = w.working.operations.put (op.started now) ∧
      w'.working.sessions = w.working.sessions ∧ w'.working.bindings = w.working.bindings ∧
      w'.committed = w'.working ∧ w'.reserved = w.reserved := by
  obtain ⟨op,w₁,getting,rest⟩ := bind_ok ran
  obtain ⟨rfl,stored,tenant⟩ := getOperation_ok (call_ok getting).2
  obtain ⟨⟨op',event⟩,starting,rest⟩ := bind_ofResult_ok rest
  obtain ⟨pending,rfl⟩ := Operation.start_inv starting
  cases bind_commit_ok (bind_append_ok (bind_saveIn_ok rest))
  exact ⟨op,stored,tenant,pending,rfl,rfl,rfl,rfl,rfl,rfl⟩

end CheetahSignaling
