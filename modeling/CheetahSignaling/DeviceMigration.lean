import CheetahSignaling.DeviceAssignment
import CheetahSignaling.GuardedRun

/-! `migrate_device` as a sequence of repository statements, with the statements of other
callers falling anywhere between them; any statement of the migration may fail. Besides
the tables the state keeps what the other callers and the migration itself did to the
device's record; no step reads that history. -/
namespace CheetahSignaling.DeviceMigration

open OwnerRepository DeviceAssignment GuardedRun
open List hiding get set

inductive RollingUpgradeError where
  | nodeNotFound (node : NodeId)
  | notDraining (node : NodeId)
  | assignment (error : DeviceAssignmentError)
  | storage (error : StorageError)

/-- The statement the migration runs next, with the locals it has by then. -/
inductive Phase where
  | nodeGet
  | ownerGet
  | clear (previous : OwnerInfo)
  | assign (previous : Option OwnerInfo) (stage : Stage)
  | restore (previous : OwnerInfo) (error : DeviceAssignmentError)
  | done (result : Except RollingUpgradeError OwnerInfo)

/-- Who owns a record and under which epoch; renewals do not change it. -/
abbrev Identity := NodeId × OwnerEpoch

def identity (row : OwnerRow) : Identity := (row.ownerNodeId,asU64 row.ownerEpoch)

structure State where
  db : Database
  phase : Phase
  /-- What each acquire or release of another caller left as the device's record. -/
  concurrent : List (Option Identity)
  /-- Acquired by another caller after the migration's `clear`. -/
  acquiredSince : List Identity
  /-- Deleted by the migration's `clear`. -/
  cleared : List OwnerRow
  /-- Overwritten by the compensation although acquired after the `clear`. -/
  overwritten : List Identity

def initial (db : Database) : State := ⟨db,.nodeGet,[],[],[],[]⟩

/-- A statement of another caller. -/
inductive Interference where
  | acquire (tenant : TenantId) (device : DeviceId) (node : NodeId) (now leaseUntil : UtcTimestamp)
  | renew (tenant : TenantId) (device : DeviceId) (node : NodeId) (now leaseUntil : UtcTimestamp)
  | release (tenant : TenantId) (device : DeviceId) (node : NodeId) (epoch : OwnerEpoch)
  | cluster (node : NodeId) (row : Option ClusterNode)

def acquireWrites (db : Database) (device : DeviceId) (node : NodeId) (now : UtcTimestamp) : Bool :=
  (db.owners device).all fun row => acquireWhere db node now row && (db.store.increment row.ownerEpoch).isOk

def interfere (device : DeviceId) (s : State) : Interference → State
  | .acquire tenant target node now leaseUntil =>
    match acquireUpsert s.db tenant target node now leaseUntil with
    | .ok db =>
      if acquireWrites s.db target node now ∧ target = device then
        let left := (db.owners device).map identity
        { s with db, concurrent := s.concurrent ++ [left],
                 acquiredSince := s.acquiredSince ++ left.toList }
      else { s with db }
    | .error _ => s
  | .renew tenant target node now leaseUntil =>
    { s with db := (renewUpdate s.db tenant target node now leaseUntil).1 }
  | .release tenant target node epoch =>
    if (s.db.owners target).any (releaseWhere tenant node epoch) ∧ target = device then
      { s with db := release s.db tenant target node epoch, concurrent := s.concurrent ++ [none] }
    else { s with db := release s.db tenant target node epoch }
  | .cluster node row => { s with db := { s.db with nodes := Function.update s.db.nodes node row } }

def resume (previous : Option OwnerInfo) : Stage → Phase
  | .returned (.ok owner) => .done (.ok owner)
  | .returned (.error error) =>
    match previous with
    | some owner => .restore owner error
    | none => .done (.error (.assignment error))
  | stage => .assign previous stage

/-- The migration assigns without a preferred zone. -/
structure Call extends Request where
  fromNode : NodeId
  anyZone : preferredZone = none

def advance (call : Call) (s : State) : State :=
  match s.phase with
  | .nodeGet =>
    match s.db.nodes call.fromNode with
    | none => { s with phase := .done (.error (.nodeNotFound call.fromNode)) }
    | some node =>
      if node.draining then { s with phase := .ownerGet }
      else { s with phase := .done (.error (.notDraining call.fromNode)) }
  | .ownerGet =>
    match get s.db call.tenantId call.deviceId with
    | .ok (some owner) =>
      if owner.ownerNodeId = call.fromNode then { s with phase := .clear owner }
      else { s with phase := .done (.ok owner) }
    | .ok none => { s with phase := resume none (start call.toRequest) }
    | .error error => { s with phase := .done (.error (.storage error)) }
  | .clear previous =>
    { s with db := clear s.db call.tenantId call.deviceId,
             phase := resume (some previous) (start call.toRequest),
             acquiredSince := [],
             cleared := s.cleared ++ (select s.db call.tenantId call.deviceId).toList }
  | .assign previous stage =>
    let (db,stage) := DeviceAssignment.advance call.toRequest s.db stage
    { s with db, phase := resume previous stage }
  | .restore previous error =>
    { s with db := set s.db call.tenantId call.deviceId previous,
             phase := .done (.error (.assignment error)),
             overwritten := s.overwritten ++
               (((s.db.owners call.deviceId).map identity).filter (· ∈ s.acquiredSince)).toList }
  | .done _ => s

/-- A statement that fails has no effect; this is how the migration goes on. -/
def fail (message : String) : Phase → Phase
  | .nodeGet | .ownerGet | .clear _ => .done (.error (.storage (.backend message)))
  | .assign previous stage => resume previous (DeviceAssignment.fail message stage)
  | .restore _ error => .done (.error (.assignment error))
  | .done result => .done result

inductive Label where
  | other (statement : Interference)
  | own
  /-- The migration's next statement fails. -/
  | ownFails (message : String)

def step (call : Call) (s : State) : Label → State
  | .other statement => interfere call.deviceId s statement
  | .own => advance call s
  | .ownFails message => { s with phase := fail message s.phase }

/-- Whether the migration still holds a record that it may write back. -/
def Phase.compensable : Phase → Bool
  | .assign previous _ => previous.isSome
  | .restore .. => true
  | _ => false

def Phase.clearing : Phase → Bool
  | .clear _ => true
  | _ => false

/-- The compensation, or the read-back of the migration's own acquire. -/
def Phase.essential : Phase → Bool
  | .assign _ (.acquireSelect _) => true
  | .restore .. => true
  | _ => false

/-- Right before the upsert of the migration's own acquire. -/
def Phase.acquiring : Phase → Bool
  | .assign _ (.acquireUpsert _) => true
  | _ => false

/-- An acquire of the device would leave an epoch that can be read back. -/
def readable (db : Database) (device : DeviceId) : Bool :=
  (db.owners device).all fun row => (db.store.increment row.ownerEpoch).toOption.all (· ≤ i64Max)

/-- No other node acquires the device while the migration could restore it. -/
def Undisturbed (call : Call) (s : State) : Label → Prop
  | .other (.acquire _ device node now _) =>
    acquireWrites s.db device node now = true ∧ device = call.deviceId →
      s.phase.compensable = false ∧ (s.phase.clearing = true → node = call.fromNode)
  | .own => s.phase.acquiring = true → readable s.db call.deviceId = true
  | .ownFails _ => s.phase.essential = false
  | _ => True

instance (call : Call) (s : State) : (label : Label) → Decidable (Undisturbed call s label)
  | .other (.acquire _ device node now _) => inferInstanceAs
      (Decidable (acquireWrites s.db device node now = true ∧ device = call.deviceId →
        s.phase.compensable = false ∧ (s.phase.clearing = true → node = call.fromNode)))
  | .own => inferInstanceAs (Decidable (s.phase.acquiring = true → readable s.db call.deviceId = true))
  | .ownFails _ => inferInstanceAs (Decidable (s.phase.essential = false))
  | .other (.renew ..) | .other (.release ..) | .other (.cluster ..) => .isTrue trivial

/-- Nothing of another node is deleted, nothing acquired after the `clear` is overwritten,
and an error leaves the record the call started from or what another caller left. -/
structure Safe (call : Call) (started : Option OwnerRow) (s : State) : Prop where
  deletes : ∀ row ∈ s.cleared, row.ownerNodeId = call.fromNode
  overwrites : s.overwritten = []
  stored : ∀ error, s.phase = .done (.error error) →
    (s.db.owners call.deviceId).map identity ∈ started.map identity :: s.concurrent

/-- What a statement of another caller can do to the device's record. -/
structure Effect (call : Call) (s t : State) : Prop where
  phase : t.phase = s.phase
  cleared : t.cleared = s.cleared
  overwritten : t.overwritten = s.overwritten
  record :
    (t.concurrent = s.concurrent ∧ t.acquiredSince = s.acquiredSince ∧
      (t.db.owners call.deviceId).map (fun row => (row.tenantId,row.ownerNodeId,row.ownerEpoch)) =
        (s.db.owners call.deviceId).map (fun row => (row.tenantId,row.ownerNodeId,row.ownerEpoch))) ∨
    (t.db.owners call.deviceId = none ∧ t.concurrent = s.concurrent ++ [none] ∧
      t.acquiredSince = s.acquiredSince) ∨
    (∃ row, t.db.owners call.deviceId = some row ∧ t.concurrent = s.concurrent ++ [some (identity row)] ∧
      s.phase.compensable = false ∧ (s.phase.clearing = true → row.ownerNodeId = call.fromNode))

theorem acquire_effect (undisturbed : Undisturbed call s (.other (.acquire tenant device node now leaseUntil))) :
    Effect call s (interfere call.deviceId s (.acquire tenant device node now leaseUntil)) := by
  simp only [interfere]
  cases h : acquireUpsert s.db tenant device node now leaseUntil with
  | error e => exact ⟨rfl,rfl,rfl,.inl ⟨rfl,rfl,rfl⟩⟩
  | ok db =>
    simp only
    split
    · rename_i writes
      have quiet := undisturbed writes
      obtain ⟨writes,rfl⟩ := writes
      refine ⟨rfl,rfl,rfl,?_⟩
      rcases acquireUpsert_cases h with ⟨-,row,stored,refused,-⟩ | ⟨epoch,rfl,-⟩
      · simp [acquireWrites,stored,refused] at writes
      · exact .inr (.inr ⟨⟨tenant,node,epoch,some (s.db.store.kept leaseUntil)⟩,by simp,by simp,quiet⟩)
    rename_i idle
    refine ⟨rfl,rfl,rfl,.inl ⟨rfl,rfl,?_⟩⟩
    rcases acquireUpsert_cases h with ⟨rfl,-⟩ | ⟨epoch,rfl,written⟩
    · rfl
    by_cases same : device = call.deviceId
    · refine absurd ⟨?_,same⟩ idle
      rcases written with ⟨absent,-⟩ | ⟨row,stored,takes,raised⟩
      · simp [acquireWrites,absent]
      · simp [acquireWrites,stored,takes,raised,Except.isOk,Except.toBool]
    · simp [Ne.symm same]

theorem interfere_effect (undisturbed : Undisturbed call s (.other statement)) :
    Effect call s (interfere call.deviceId s statement) := by
  cases statement with
  | acquire tenant device node now leaseUntil => exact acquire_effect undisturbed
  | renew tenant device node now leaseUntil =>
    exact ⟨rfl,rfl,rfl,.inl ⟨rfl,rfl,renewUpdate_owner s.db tenant device node now leaseUntil _⟩⟩
  | release tenant device node epoch =>
    simp only [interfere]
    split
    · rename_i deletes
      obtain ⟨deletes,rfl⟩ := deletes
      exact ⟨rfl,rfl,rfl,.inr (.inl ⟨by simp [release,deleteWhere,deletes],rfl,rfl⟩)⟩
    rename_i idle
    refine ⟨rfl,rfl,rfl,.inl ⟨rfl,rfl,?_⟩⟩
    by_cases deletes : (s.db.owners device).any (releaseWhere tenant node epoch) = true
    · have apart : call.deviceId ≠ device := fun same => idle ⟨deletes,same.symm⟩
      simp [release,deleteWhere,deletes,apart]
    · simp [release,deleteWhere_unmatched (by simpa using deletes)]
  | cluster node row => exact ⟨rfl,rfl,rfl,.inl ⟨rfl,rfl,rfl⟩⟩

section

variable (call : Call) (started : Option OwnerRow) (s : State)

def Explained : Prop :=
  (s.db.owners call.deviceId).map identity ∈ started.map identity :: s.concurrent

/-- The record the migration will write back is one of those as well. -/
def Restorable (previous : OwnerInfo) : Prop :=
  some (previous.ownerNodeId,previous.ownerEpoch) ∈ started.map identity :: s.concurrent ∧
    previous.ownerEpoch < 2 ^ 64

def Own (candidate : NodeId) (s : State) : Prop :=
  ∃ row, s.db.owners call.deviceId = some row ∧ row.tenantId = call.tenantId ∧
    row.ownerNodeId = candidate ∧ row.ownerEpoch ≤ i64Max

def Sound : Phase → Prop
  | .nodeGet | .ownerGet | .done (.error _) => Explained call started s
  | .clear previous => Explained call started s ∧ Restorable started s previous ∧
      ∀ row, s.db.owners call.deviceId = some row → row.tenantId = call.tenantId →
        row.ownerNodeId = call.fromNode
  | .assign (some previous) _ | .restore previous _ =>
      Restorable started s previous ∧ s.acquiredSince = []
  | .assign none (.acquireSelect candidate) => Explained call started s ∨ Own call candidate s
  | .assign none _ => Explained call started s
  | .done (.ok _) => True

/-- The migration has deleted only rows of the old owner and overwritten none. -/
structure Invariant : Prop where
  deletes : ∀ row ∈ s.cleared, row.ownerNodeId = call.fromNode
  overwrites : s.overwritten = []
  sound : Sound call started s s.phase

end

theorem initial_invariant : Invariant call (db.owners call.deviceId) (initial db) :=
  ⟨by simp [initial],rfl,by simp [initial,Sound,Explained]⟩

theorem Effect.explained (effect : Effect call s t) (known : Explained call started s) :
    Explained call started t := by
  unfold Explained at *
  rcases effect.record with ⟨same,-,record⟩ | ⟨record,more,-⟩ | ⟨row,record,more,-⟩
  · have kept := congrArg (Option.map fun key => (key.2.1,asU64 key.2.2)) record
    simp only [Option.map_map] at kept
    rw [same]
    exact (show (t.db.owners call.deviceId).map identity = (s.db.owners call.deviceId).map identity
      from kept) ▸ known
  · simp [record,more]
  · simp [record,more]

theorem Effect.restorable (effect : Effect call s t) (known : Restorable started s previous) :
    Restorable started t previous := by
  refine ⟨?_,known.2⟩
  rcases effect.record with ⟨same,-⟩ | ⟨-,more,-⟩ | ⟨row,-,more,-⟩
  · exact same ▸ known.1
  · rw [more,← cons_append]
    exact mem_append_left _ known.1
  · rw [more,← cons_append]
    exact mem_append_left _ known.1

theorem Effect.own (effect : Effect call s t) (own : Own call candidate s) :
    Explained call started t ∨ Own call candidate t := by
  obtain ⟨row,stored,tenant,node,range⟩ := own
  rcases effect.record with ⟨-,-,record⟩ | ⟨record,more,-⟩ | ⟨new,record,more,-⟩
  · right
    rw [stored] at record
    obtain ⟨new,found,eq⟩ := Option.map_eq_some_iff.mp record
    simp only [Prod.mk.injEq] at eq
    exact ⟨new,found,eq.1.trans tenant,eq.2.1.trans node,eq.2.2 ▸ range⟩
  · left
    simp [Explained,record,more]
  · left
    simp [Explained,record,more]

/-- The other nodes do not break the invariant. -/
theorem interfere_invariant (valid : Invariant call started s)
    (effect : Effect call s t) : Invariant call started t := by
  have sound := valid.sound
  have compensates (idle : s.phase.compensable = true) (quiet : s.acquiredSince = []) :
      t.acquiredSince = [] := by
    rcases effect.record with ⟨-,same,-⟩ | ⟨-,-,same⟩ | ⟨row,-,-,free,-⟩
    · exact same.trans quiet
    · exact same.trans quiet
    · rw [idle] at free
      cases free
  refine ⟨effect.cleared ▸ valid.deletes,effect.overwritten ▸ valid.overwrites,?_⟩
  rw [effect.phase]
  cases phase : s.phase with
  | nodeGet => rw [phase] at sound; exact effect.explained sound
  | ownerGet => rw [phase] at sound; exact effect.explained sound
  | clear previous =>
    rw [phase] at sound
    refine ⟨effect.explained sound.1,effect.restorable sound.2.1,fun row stored tenant => ?_⟩
    rcases effect.record with ⟨-,-,record⟩ | ⟨record,-⟩ | ⟨new,record,-,-,allowed⟩
    · rw [stored] at record
      obtain ⟨old,found,eq⟩ := Option.map_eq_some_iff.mp record.symm
      simp only [Prod.mk.injEq] at eq
      exact eq.2.1 ▸ sound.2.2 old found (eq.1.trans tenant)
    · rw [stored] at record
      cases record
    · rw [stored,Option.some.injEq] at record
      exact record ▸ allowed (by rw [phase]; rfl)
  | assign previous stage =>
    rw [phase] at sound
    cases previous with
    | some owner =>
      exact ⟨effect.restorable sound.1,compensates (by rw [phase]; rfl) sound.2⟩
    | none =>
      cases stage with
      | acquireSelect candidate =>
        rcases sound with known | own
        · exact .inl (effect.explained known)
        · exact effect.own own
      | _ => exact effect.explained sound
  | restore owner error =>
    rw [phase] at sound
    exact ⟨effect.restorable sound.1,compensates (by rw [phase]; rfl) sound.2⟩
  | done result =>
    rw [phase] at sound
    cases result with
    | ok owner => trivial
    | error error => exact effect.explained sound

theorem resume_none_sound (known : Explained call started s) : Sound call started s (resume none stage) := by
  cases stage with
  | returned result => cases result <;> trivial
  | acquireSelect candidate => exact .inl known
  | _ => exact known

theorem resume_some_sound (known : Restorable started s previous ∧ s.acquiredSince = []) :
    Sound call started s (resume (some previous) stage) := by
  cases stage with
  | returned result => cases result <;> trivial
  | _ => exact known

theorem assign_reads (reads : ∀ candidate, stage ≠ .acquireUpsert candidate) :
    (DeviceAssignment.advance request db stage).1 = db := by
  cases stage with
  | acquireUpsert candidate => exact absurd rfl (reads candidate)
  | ownerGet | nodeGet _ | acquireSelect _ | lostRaceGet =>
    simp only [DeviceAssignment.advance]
    split <;> rfl
  | _ => rfl

theorem assign_none_sound (sound : Sound call started s (.assign none stage))
    (readable : (Phase.assign none stage).acquiring = true → readable s.db call.deviceId = true) :
    Sound call started { s with db := (DeviceAssignment.advance call.toRequest s.db stage).1 }
      (resume none (DeviceAssignment.advance call.toRequest s.db stage).2) := by
  have reading (known : Explained call started s)
      (reads : ∀ candidate, stage ≠ .acquireUpsert candidate) :
      Sound call started { s with db := (DeviceAssignment.advance call.toRequest s.db stage).1 }
        (resume none (DeviceAssignment.advance call.toRequest s.db stage).2) := by
    rw [assign_reads reads]
    exact resume_none_sound known
  cases stage with
  | acquireUpsert candidate =>
    simp only [DeviceAssignment.advance]
    cases h : acquireUpsert s.db call.tenantId call.deviceId candidate call.now
        (call.leaseUntil.getD 0) with
    | error error => exact resume_none_sound sound
    | ok db =>
      rcases acquireUpsert_cases h with ⟨rfl,-⟩ | ⟨epoch,rfl,written⟩
      · exact .inl sound
      refine .inr ⟨⟨call.tenantId,candidate,epoch,some (s.db.store.kept (call.leaseUntil.getD 0))⟩,by simp,rfl,rfl,?_⟩
      rcases written with ⟨-,rfl⟩ | ⟨row,stored,-,raised⟩
      · exact (by decide : (1 : Int) ≤ i64Max)
      · simpa [DeviceMigration.readable,stored,raised,Except.toOption] using readable rfl
  | acquireSelect candidate =>
    rcases sound with known | ⟨row,stored,tenant,node,range⟩
    · exact reading known (by simp)
    have selected : acquireSelect s.db call.tenantId call.deviceId candidate = .ok row.info := by
      simp [acquireSelect,OwnerRepository.get,select_eq_some.mpr ⟨stored,tenant⟩,OwnerRow.read,range,Except.map,
        OwnerRow.info,Option.filter,node]
    simp only [DeviceAssignment.advance,selected]
    trivial
  | ownerGet | nodeGet _ | listAlive | lostRaceGet | returned _ => exact reading sound (by simp)

/-- Nor does a step of the migration itself. -/
theorem advance_invariant (valid : Invariant call started s)
    (readable : s.phase.acquiring = true → readable s.db call.deviceId = true) :
    Invariant call started (advance call s) := by
  have sound := valid.sound
  unfold advance
  cases phase : s.phase with
  | nodeGet =>
    rw [phase] at sound
    simp only
    split
    · exact ⟨valid.deletes,valid.overwrites,sound⟩
    · split <;> exact ⟨valid.deletes,valid.overwrites,sound⟩
  | ownerGet =>
    rw [phase] at sound
    simp only
    cases read : get s.db call.tenantId call.deviceId with
    | error error => exact ⟨valid.deletes,valid.overwrites,sound⟩
    | ok owner =>
    obtain ⟨rfl,-⟩ := get_ok read
    unfold storedOwner
    cases found : select s.db call.tenantId call.deviceId with
    | none => exact ⟨valid.deletes,valid.overwrites,resume_none_sound sound⟩
    | some row =>
      obtain ⟨stored,-⟩ := select_eq_some.mp found
      simp only [Option.map_some]
      split
      · rename_i owns
        refine ⟨valid.deletes,valid.overwrites,sound,⟨?_,asU64_lt⟩,?_⟩
        · have known : (s.db.owners call.deviceId).map identity ∈ _ := sound
          rwa [stored] at known
        · intro other again _
          rw [stored,Option.some.injEq] at again
          exact again ▸ owns
      · exact ⟨valid.deletes,valid.overwrites,trivial⟩
  | clear previous =>
    rw [phase] at sound
    refine ⟨?_,valid.overwrites,resume_some_sound ⟨sound.2.1,rfl⟩⟩
    intro row member
    rcases mem_append.mp member with member | member
    · exact valid.deletes row member
    · obtain ⟨stored,tenant⟩ := select_eq_some.mp (Option.mem_toList.mp member)
      exact sound.2.2 row stored tenant
  | assign previous stage =>
    rw [phase] at sound readable
    refine ⟨valid.deletes,valid.overwrites,?_⟩
    cases previous with
    | none => exact assign_none_sound sound readable
    | some owner => exact resume_some_sound sound
  | restore previous error =>
    rw [phase] at sound
    obtain ⟨⟨known,small⟩,quiet⟩ := sound
    refine ⟨valid.deletes,by simp [valid.overwrites,quiet],?_⟩
    simpa [Sound,Explained,OwnerRepository.set,identity,asU64_asI64 small] using known
  | done result => exact valid

/-- Nor does the failure of a call it can do without. -/
theorem fail_invariant (valid : Invariant call started s)
    (survives : s.phase.essential = false) :
    Invariant call started { s with phase := fail message s.phase } := by
  have sound := valid.sound
  refine ⟨valid.deletes,valid.overwrites,?_⟩
  cases phase : s.phase with
  | nodeGet => rw [phase] at sound; exact sound
  | ownerGet => rw [phase] at sound; exact sound
  | clear previous => rw [phase] at sound; exact sound.1
  | assign previous stage =>
    rw [phase] at sound survives
    cases previous with
    | some owner => exact resume_some_sound sound
    | none =>
      cases stage with
      | acquireSelect candidate => cases survives
      | returned result => exact resume_none_sound sound
      | _ => exact sound
  | restore previous error => rw [phase] at survives; cases survives
  | done result => rw [phase] at sound; exact sound

/-- A step of either side keeps the invariant. -/
theorem step_invariant (s : State) (label : Label) (valid : Invariant call started s)
    (undisturbed : Undisturbed call s label) : Invariant call started (step call s label) := by
  cases label with
  | other statement => exact interfere_invariant valid (interfere_effect undisturbed)
  | own => exact advance_invariant valid undisturbed
  | ownFails message => exact fail_invariant valid undisturbed

/-- Every undisturbed interleaving of a migration with other callers is safe. -/
theorem migration_safe (call : Call) (db : Database) (run : List Label)
    (undisturbed : Guarded (step call) (Undisturbed call) (initial db) run) :
    Safe call (db.owners call.deviceId) (execute (step call) (initial db) run) := by
  have valid := guarded_invariant step_invariant
    initial_invariant undisturbed
  refine ⟨valid.deletes,valid.overwrites,fun error returned => ?_⟩
  have sound := valid.sound
  rw [returned] at sound
  exact sound

/-- Node 1 is draining and owns device 7 of tenant 9 until time 10, under epoch 4. -/
def drainingNode : Database :=
  ⟨.sqlite,Function.update (fun _ => none) 7 (some ⟨9,1,4,some (10 * 10 ^ 9)⟩),
    Function.update (fun _ => none) 1 (some ⟨1,0,"",10 ^ 9,true,0,0,[]⟩)⟩

/-- Migrating it at time 20 finds no eligible node. -/
def drainingCall : Call :=
  { tenantId := 9, deviceId := 7, protocol := "", preferredZone := none, now := 20 * 10 ^ 9,
    leaseUntil := some (30 * 10 ^ 9), listed := [], reserve := fun _ => true, fromNode := 1, anyZone := rfl }

def restoringRun : List Label := [
  .own,
  .other (.acquire 9 8 2 (20 * 10 ^ 9) (40 * 10 ^ 9)),
  .own,
  .other (.release 9 7 2 4),
  .own,
  .own,
  .own,
  .own]

theorem restoringRun_safe :
    Guarded (step drainingCall) (Undisturbed drainingCall) (initial drainingNode) restoringRun ∧
    (execute (step drainingCall) (initial drainingNode) restoringRun).db.owners 7 =
      some ⟨9,1,4,some (10 * 10 ^ 9)⟩ ∧
    Safe drainingCall (drainingNode.owners 7)
      (execute (step drainingCall) (initial drainingNode) restoringRun) :=
  ⟨by decide,by decide,migration_safe drainingCall drainingNode restoringRun (by decide)⟩

/-- Node 2 takes the expired record over between the owner read and the `clear`. -/
def deletingRun : List Label := [.own,.own,.other (.acquire 9 7 2 (20 * 10 ^ 9) (40 * 10 ^ 9)),.own]

/-- Node 2 takes the device right after the assignment has found it unowned. -/
def overwritingRun : List Label :=
  [.own,.own,.own,.own,.other (.acquire 9 7 2 (20 * 10 ^ 9) (40 * 10 ^ 9)),.own,.own]

theorem racingRuns_unsafe :
    ¬ Safe drainingCall (drainingNode.owners 7)
        (execute (step drainingCall) (initial drainingNode) deletingRun) ∧
      ¬ Safe drainingCall (drainingNode.owners 7)
        (execute (step drainingCall) (initial drainingNode) overwritingRun) := by
  constructor
  · intro safe
    exact absurd (safe.deletes ⟨9,2,5,some (40 * 10 ^ 9)⟩ (by decide)) (by decide)
  · intro safe
    exact absurd safe.overwrites (by decide)

end CheetahSignaling.DeviceMigration
