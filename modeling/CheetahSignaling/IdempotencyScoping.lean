import CheetahSignaling.MediaStart
import Mathlib.Data.Prod.Lex

/-! `submit_operation` and the two implementations of `get_by_idempotency`. The tables have a
unique index over tenant, principal and key, and their lookup compares these columns only; the
maps of the in-memory unit of work have no such index, and their lookup compares the scopes. -/
namespace CheetahSignaling

section Rows

variable {V : Type} (tenantOf : V → TenantId) (scopeOf : V → IdempotencyScope)

def indexColumns (v : V) : TenantId × String × String :=
  (tenantOf v,(scopeOf v).principalId,(scopeOf v).idempotencyKey)

section

variable (rows : List V) (scope : IdempotencyScope)

/-- Rows that the unique index and the constructors of the aggregates allow. -/
structure Indexed : Prop where
  tenant : ∀ v ∈ rows, (scopeOf v).tenantId = tenantOf v
  unique : ∀ v ∈ rows, ∀ w ∈ rows, indexColumns tenantOf scopeOf v = indexColumns tenantOf scopeOf w → v = w

/-- The statement of the SQL repositories: tenant, principal and key are compared. -/
def findByColumns : Option V :=
  rows.find? fun v => tenantOf v = scope.tenantId ∧ (scopeOf v).principalId = scope.principalId ∧
    (scopeOf v).idempotencyKey = scope.idempotencyKey

/-- `values().find(|v| v.idempotency_scope() == scope)` -/
def findByScope : Option V := rows.find? fun v => scopeOf v = scope

def KeyReused : Prop :=
  ∃ v ∈ rows, tenantOf v = scope.tenantId ∧ (scopeOf v).principalId = scope.principalId ∧
    (scopeOf v).idempotencyKey = scope.idempotencyKey ∧ (scopeOf v).target ≠ scope.target

end

variable {tenantOf scopeOf} {rows : List V} {scope : IdempotencyScope}

theorem findByColumns_some (found : findByColumns tenantOf scopeOf rows scope = some v) :
    v ∈ rows ∧ tenantOf v = scope.tenantId ∧ (scopeOf v).principalId = scope.principalId ∧
      (scopeOf v).idempotencyKey = scope.idempotencyKey :=
  ⟨List.mem_of_find?_eq_some found,by simpa using List.find?_some found⟩

theorem findByScope_some (found : findByScope scopeOf rows scope = some v) : v ∈ rows ∧ scopeOf v = scope :=
  ⟨List.mem_of_find?_eq_some found,by simpa using List.find?_some found⟩

theorem findByScope_none (absent : findByScope scopeOf rows scope = none) : ∀ v ∈ rows, scopeOf v ≠ scope := by
  simpa [findByScope] using absent

theorem findByColumns_none (absent : findByColumns tenantOf scopeOf rows scope = none) (member : v ∈ rows) :
    indexColumns tenantOf scopeOf v ≠ (scope.tenantId,scope.principalId,scope.idempotencyKey) := by
  intro same
  have other := List.find?_eq_none.mp absent v member
  simp only [indexColumns] at same
  exact other (by simpa using same)

namespace Indexed

section

variable (indexed : Indexed tenantOf scopeOf rows)

include indexed

theorem find_columns (member : v ∈ rows)
    (tenant : tenantOf v = scope.tenantId) (principal : (scopeOf v).principalId = scope.principalId)
    (key : (scopeOf v).idempotencyKey = scope.idempotencyKey) :
    findByColumns tenantOf scopeOf rows scope = some v := by
  cases found : findByColumns tenantOf scopeOf rows scope with
  | none =>
    apply absurd _ (findByColumns_none found member)
    rw [indexColumns,tenant,principal,key]
  | some w =>
    obtain ⟨stored,tenant',principal',key'⟩ := findByColumns_some found
    have same : indexColumns tenantOf scopeOf w = indexColumns tenantOf scopeOf v := by
      simp [indexColumns,tenant,principal,key,tenant',principal',key']
    rw [indexed.unique w stored v member same]

theorem find_own (member : v ∈ rows) (own : scopeOf v = scope) :
    findByColumns tenantOf scopeOf rows scope = some v := by
  apply indexed.find_columns member
  · rw [← indexed.tenant v member,own]
  · rw [own]
  · rw [own]

theorem scoped_iff :
    (∀ v ∈ findByColumns tenantOf scopeOf rows scope, scopeOf v = scope) ↔ ¬ KeyReused tenantOf scopeOf rows scope := by
  constructor
  · rintro exactly ⟨v,member,tenant,principal,key,other⟩
    have found := indexed.find_columns member tenant principal key
    exact other (congrArg IdempotencyScope.target (exactly v found))
  intro fresh v found
  obtain ⟨member,tenant,principal,key⟩ := findByColumns_some found
  have target : (scopeOf v).target = scope.target := by
    by_contra other
    exact fresh ⟨v,member,tenant,principal,key,other⟩
  rw [← indexed.tenant v member] at tenant
  cases here : scopeOf v
  simp_all

end

theorem agree {others : List V} (indexed : Indexed tenantOf scopeOf rows) (same : ∀ v, v ∈ rows ↔ v ∈ others)
    (exactly : ∀ v ∈ findByColumns tenantOf scopeOf rows scope, scopeOf v = scope) :
    findByColumns tenantOf scopeOf rows scope = findByScope scopeOf others scope := by
  cases found : findByScope scopeOf others scope with
  | some v =>
    obtain ⟨member,own⟩ := findByScope_some found
    exact indexed.find_own ((same v).mpr member) own
  | none =>
    cases here : findByColumns tenantOf scopeOf rows scope with
    | none => rfl
    | some v =>
      have member := (same v).mp (findByColumns_some here).1
      exact absurd (exactly v here) (findByScope_none found v member)

end Indexed

end Rows

/-- The maps `submit_operation` and the lookups use of the in-memory unit of work. -/
structure InMemoryStores where
  operations : Table fun op : Operation => toLex (op.tenantId,op.operationId)
  sessions : Table fun s : MediaSession => toLex (s.tenantId,s.mediaSessionId)
  outbox : List Event

structure InMemoryUnitOfWork where
  (stores pending : InMemoryStores)

namespace InMemoryStores

variable (maps : InMemoryStores) (scope : IdempotencyScope)

def operationByIdempotency : Option Operation :=
  findByScope Operation.idempotencyScope maps.operations.rows scope

def sessionByIdempotency : Option MediaSession :=
  findByScope MediaSession.idempotencyScope maps.sessions.rows scope

end InMemoryStores

namespace Store

variable (store : Store)

/-- What the unique indexes guarantee of a database. -/
structure UniqueKeys : Prop where
  operations : Indexed Operation.tenantId Operation.idempotencyScope store.operations.rows
  sessions : Indexed MediaSession.tenantId MediaSession.idempotencyScope store.sessions.rows

/-- The SQL tables and the maps in memory hold the same rows. -/
structure SameContent (maps : InMemoryStores) : Prop where
  operations : ∀ op, op ∈ store.operations.rows ↔ op ∈ maps.operations.rows
  sessions : ∀ s, s ∈ store.sessions.rows ↔ s ∈ maps.sessions.rows

def KeyReused (scope : IdempotencyScope) : Prop :=
  CheetahSignaling.KeyReused Operation.tenantId Operation.idempotencyScope store.operations.rows scope ∨
    CheetahSignaling.KeyReused MediaSession.tenantId MediaSession.idempotencyScope store.sessions.rows scope

end Store

namespace OperationService

/-- What `submit_operation` calls of a `dyn UnitOfWork` with state `σ`. -/
structure UnitOfWork (σ : Type) where
  getByIdempotency : σ → IdempotencyScope → Option Operation
  save : Operation → EStateM DomainError σ Unit
  append : Event → EStateM DomainError σ Unit
  commit : EStateM DomainError σ Unit

def sqlite : UnitOfWork World where
  getByIdempotency w scope := w.working.operationByIdempotency scope
  save := Service.saveOperation
  append := Service.append
  commit := Service.commit

def saveWithRevision (op : Operation) : EStateM DomainError InMemoryUnitOfWork Unit := fun u =>
  match u.pending.operations.save Operation.revision op with
  | .ok operations => .ok () { u with pending := { u.pending with operations } }
  | .error found => .error (.concurrentModification (op.revision - 1) found) u

def inMemory : UnitOfWork InMemoryUnitOfWork where
  getByIdempotency u scope := u.pending.operationByIdempotency scope
  save := saveWithRevision
  append e := modify fun u => { u with pending := { u.pending with outbox := u.pending.outbox ++ [e] } }
  commit := modify fun u => { u with stores := u.pending }

structure SubmitOperationRequest where
  idempotencyKey : String
  target : ResourceRef
  deviceId : DeviceId
  payload : CommandPayload
  deadline : Option UtcTimestamp
  expectedOwnerEpoch : OwnerEpoch

section Submit

variable {σ : Type} (uow : UnitOfWork σ) (context : RequestContext) (now : UtcTimestamp) (ids : Operation.NewIds)
  (request : SubmitOperationRequest)

/-- The part of `submit_operation` for a scope that no stored operation has. -/
def createOperation : EStateM DomainError σ Operation :=
  match Operation.new ids now context.tenantId context.principalId request.idempotencyKey request.deviceId
      request.target request.payload request.deadline request.expectedOwnerEpoch with
  | .error e => throw e
  | .ok (operation,event) => do
    uow.save operation
    uow.append (Service.operationEvent context.tenantId operation event)
    uow.commit
    return operation

def submitOperation : EStateM DomainError σ Operation :=
  if request.target.tenantId ≠ context.tenantId then
    throw (.invalidArgument "target tenant does not match request context")
  else match IdempotencyScope.new context.tenantId context.principalId request.target request.idempotencyKey with
  | .error e => throw e
  | .ok scope => do
    match uow.getByIdempotency (← get) scope with
    | some existing => return existing
    | none => createOperation uow context now ids request

variable {uow context now ids request} {s s' : σ}

theorem createOperation_ok (ran : (createOperation uow context now ids request).run s = .ok op s') :
    op.idempotencyScope = ⟨context.tenantId,context.principalId,request.target,request.idempotencyKey⟩ ∧
      op.tenantId = context.tenantId ∧ ∃ s₁ s₂, (uow.save op).run s = .ok () s₁ ∧
        (∃ e, (uow.append e).run s₁ = .ok () s₂) ∧ uow.commit.run s₂ = .ok () s' := by
  unfold createOperation at ran
  split at ran
  · cases ran
  rename_i created event built
  simp only [EStateM.run_bind] at ran
  split at ran
  · rename_i s₁ saved
    split at ran
    · rename_i s₂ appended
      split at ran
      · rename_i s₃ done
        cases ran
        obtain ⟨scope,tenant⟩ := Operation.new_scope built
        exact ⟨scope,tenant,s₁,s₂,saved,⟨_,appended⟩,done⟩
      · cases ran
    · cases ran
  · cases ran

theorem submitOperation_ok (scope : IdempotencyScope.new context.tenantId context.principalId request.target
      request.idempotencyKey = .ok scope') (ran : (submitOperation uow context now ids request).run s = .ok op s') :
    uow.getByIdempotency s scope' = some op ∧ s' = s ∨
      uow.getByIdempotency s scope' = none ∧ (createOperation uow context now ids request).run s = .ok op s' := by
  unfold submitOperation at ran
  rw [scope] at ran
  split at ran
  · cases ran
  simp only [EStateM.run_bind,EStateM.run_get] at ran
  split at ran
  · cases ran
    exact .inl ⟨‹_›,rfl⟩
  · exact .inr ⟨‹_›,ran⟩

end Submit

/-- Both repositories answer a lookup, and `submit_operation` a request, only with operations
and media sessions of exactly the scope, and both find the same. -/
structure Scoped (store : Store) (maps : InMemoryStores) (scope : IdempotencyScope) : Prop where
  operation : ∀ op ∈ store.operationByIdempotency scope, op.idempotencyScope = scope
  session : ∀ s ∈ store.sessionByIdempotency scope, s.idempotencyScope = scope
  inMemoryOperation : ∀ op ∈ maps.operationByIdempotency scope, op.idempotencyScope = scope
  inMemorySession : ∀ s ∈ maps.sessionByIdempotency scope, s.idempotencyScope = scope
  operationsAgree : store.operationByIdempotency scope = maps.operationByIdempotency scope
  sessionsAgree : store.sessionByIdempotency scope = maps.sessionByIdempotency scope
  answer : ∀ context now ids request w op w', w.working = store →
    IdempotencyScope.new context.tenantId context.principalId request.target request.idempotencyKey = .ok scope →
    (submitOperation sqlite context now ids request).run w = .ok op w' → op.idempotencyScope = scope
  inMemoryAnswer : ∀ context now ids request u op u', u.pending = maps →
    IdempotencyScope.new context.tenantId context.principalId request.target request.idempotencyKey = .ok scope →
    (submitOperation inMemory context now ids request).run u = .ok op u' → op.idempotencyScope = scope

theorem answer_scope {uow : UnitOfWork σ} {s s' : σ}
    (exactly : ∀ op ∈ uow.getByIdempotency s scope', op.idempotencyScope = scope')
    (scope : IdempotencyScope.new context.tenantId context.principalId request.target request.idempotencyKey = .ok scope')
    (ran : (submitOperation uow context now ids request).run s = .ok op s') : op.idempotencyScope = scope' := by
  rcases submitOperation_ok scope ran with ⟨found,-⟩ | ⟨-,ran⟩
  · exact exactly op found
  obtain ⟨own,-⟩ := createOperation_ok ran
  rcases IdempotencyScope.new_cases context.tenantId context.principalId request.target request.idempotencyKey with
    built | ⟨text,refused⟩
  · rw [own]
    rw [built] at scope
    cases scope
    rfl
  · rw [refused] at scope
    cases scope

/-- Lookups answer for exactly the scope if and only if its tenant and principal have not used its
key for another target, which the columns of the table leave out. -/
theorem lookups_scoped_iff (unique : store.UniqueKeys) (same : store.SameContent maps) (scope : IdempotencyScope) :
    Scoped store maps scope ↔ ¬ store.KeyReused scope := by
  constructor
  · intro exactly reused
    rcases reused with operation | session
    · exact unique.operations.scoped_iff.mp exactly.operation operation
    · exact unique.sessions.scoped_iff.mp exactly.session session
  intro fresh
  have operation := unique.operations.scoped_iff.mpr fun reused => fresh (.inl reused)
  have session := unique.sessions.scoped_iff.mpr fun reused => fresh (.inr reused)
  have inMemoryOperation : ∀ op ∈ maps.operationByIdempotency scope, op.idempotencyScope = scope :=
    fun op found => (findByScope_some found).2
  refine ⟨operation,session,inMemoryOperation,fun s found => (findByScope_some found).2,
    unique.operations.agree same.operations operation,unique.sessions.agree same.sessions session,?_,?_⟩
  · rintro context now ids request w op w' rfl built ran
    exact answer_scope operation built ran
  · rintro context now ids request u op u' rfl built ran
    exact answer_scope inMemoryOperation built ran

namespace Sample

open CheetahSignaling.Sample

def database : Store := ⟨Table.empty.put (operation .running),Table.empty.put (session .active),Table.empty,[]⟩

def maps : InMemoryStores := ⟨Table.empty.put (operation .running),Table.empty.put (session .active),[]⟩

theorem database_unique : database.UniqueKeys where
  operations := ⟨by simp [database,Table.put,Table.empty,Table.insertRow]; rfl,by
    simp [database,Table.put,Table.empty,Table.insertRow]⟩
  sessions := ⟨by simp [database,Table.put,Table.empty,Table.insertRow]; rfl,by
    simp [database,Table.put,Table.empty,Table.insertRow]⟩

theorem database_same : database.SameContent maps := ⟨fun _ => Iff.rfl,fun _ => Iff.rfl⟩

theorem lookups_same_target : Scoped database maps scope := by
  apply (lookups_scoped_iff database_unique database_same scope).mpr
  rintro (⟨op,member,-,-,-,other⟩ | ⟨s,member,-,-,-,other⟩)
  · cases List.mem_singleton.mp member
    exact other rfl
  · cases List.mem_singleton.mp member
    exact other rfl

def otherTarget : SubmitOperationRequest := ⟨"key",⟨1,.channel,5⟩,3,.other "ptz" (.ok ()),none,7⟩

def answered (uow : UnitOfWork σ) (s : σ) : Option (OperationId × ResourceRef) :=
  match (submitOperation uow ⟨1,"operator",8⟩ 0 ⟨40,41,42,43⟩ otherTarget).run s with
  | .ok op _ => some (op.operationId,op.target)
  | .error _ _ => none

/-- A live start on channel 5 with the key of the stored session of channel 4. -/
def startAnswered : Option (MediaSessionId × ChannelId) :=
  match (MediaStart.startLive ⟨noFaults,noFaults,noFaults,noFaults⟩
      ⟨.ok (),.ok none,.ok none,.error (.unavailable ""),fun _ => .ok .completed⟩ 9 ⟨1,"operator",8⟩ 0
      ⟨50,51,⟨52,53,54,55⟩⟩ ⟨3,5,"key"⟩).run (World.opened database fun _ => false) with
  | .ok s _ => some (s.mediaSessionId,s.channelId)
  | .error _ _ => none

theorem lookups_other_target : database.UniqueKeys ∧ database.SameContent maps ∧
      ¬ Scoped database maps ⟨1,"operator",⟨1,.channel,5⟩,"key"⟩ ∧
      answered sqlite (World.opened database fun _ => false) = some (20,⟨1,.channel,4⟩) ∧
      answered inMemory ⟨maps,maps⟩ = some (40,⟨1,.channel,5⟩) ∧ startAnswered = some (10,4) := by
  refine ⟨database_unique,database_same,?_,by decide,by decide,by decide⟩
  intro exactly
  have own := exactly.operation (operation .running) rfl
  exact absurd own (by decide)

end Sample

end OperationService

end CheetahSignaling
