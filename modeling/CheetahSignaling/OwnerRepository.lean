import CheetahSignaling.SqlStore
import Mathlib.Logic.Function.Basic

/-! The `device_owners` and `cluster_nodes` tables and the statements of
`OwnerRepository` over them, one definition per SQL statement. `acquire` and `renew`
are two statements each; nothing here makes the two atomic. `updated_at` is written
by every statement and read by none of them, and is not represented. -/
namespace CheetahSignaling.OwnerRepository

structure ClusterNode where
  nodeId : NodeId
  instanceId : NodeInstanceId
  zone : String
  /-- As the column gives it back: whole milliseconds in SQLite. -/
  leaseUntil : UtcTimestamp
  draining : Bool
  (maxDevices devices : Nat)
  contractVersions : List (String × String)
  deriving DecidableEq

structure OwnerInfo where
  ownerNodeId : NodeId
  ownerEpoch : OwnerEpoch
  leaseUntil : Option UtcTimestamp
  deriving DecidableEq

/-- A row of `device_owners`; the device id is the primary key. -/
structure OwnerRow where
  tenantId : TenantId
  ownerNodeId : NodeId
  /-- An epoch above `i64Max` is held as a REAL. -/
  ownerEpoch : Int
  expiresAt : Option UtcTimestamp
  deriving DecidableEq

structure Database where
  store : SqlStore
  owners : DeviceId → Option OwnerRow
  nodes : NodeId → Option ClusterNode

def empty (store : SqlStore) : Database := ⟨store,fun _ => none,fun _ => none⟩

def OwnerRow.info (row : OwnerRow) : OwnerInfo := ⟨row.ownerNodeId, asU64 row.ownerEpoch, row.expiresAt⟩

/-- A REAL does not decode as the `i64` the caller asks for. -/
def OwnerRow.read (row : OwnerRow) : Except StorageError OwnerInfo :=
  if row.ownerEpoch ≤ i64Max then .ok row.info else .error (.backend "mismatched types")

def Database.put (db : Database) (device : DeviceId) (row : Option OwnerRow) : Database :=
  { db with owners := Function.update db.owners device row }

@[simp] theorem put_same (db : Database) :
    (db.put device row).owners device = row := by simp [Database.put]

@[simp] theorem put_other (db : Database) (device other : DeviceId)
    (apart : other ≠ device) : (db.put device row).owners other = db.owners other := by
  simp [Database.put,apart]

section

variable (db : Database) (tenant : TenantId) (device : DeviceId) (node : NodeId) (now leaseUntil : UtcTimestamp)

/-- `SELECT ... WHERE tenant_id = ? AND device_id = ?` -/
def select : Option OwnerRow :=
  (db.owners device).filter (fun row => row.tenantId = tenant)

/-- What the device's row says of its owner. -/
def storedOwner : Option OwnerInfo :=
  (select db tenant device).map OwnerRow.info

def get : Except StorageError (Option OwnerInfo) :=
  match select db tenant device with
  | some row => row.read.map some
  | none => .ok none

/-- `set` overwrites whatever row the device has, its epoch included. -/
def set (owner : OwnerInfo) : Database :=
  db.put device (some ⟨tenant,owner.ownerNodeId,asI64 owner.ownerEpoch,owner.leaseUntil.map db.store.kept⟩)

/-- `DELETE` of the device's row when it satisfies the statement's `WHERE`. -/
def deleteWhere (condition : OwnerRow → Bool) : Database :=
  if (db.owners device).any condition then db.put device none else db

def clearWhere (row : OwnerRow) : Bool := row.tenantId = tenant

def clear : Database := deleteWhere db device (clearWhere tenant)

def releaseWhere (epoch : OwnerEpoch) (row : OwnerRow) : Bool :=
  row.tenantId = tenant && row.ownerNodeId = node && row.ownerEpoch = asI64 epoch

def release (epoch : OwnerEpoch) : Database := deleteWhere db device (releaseWhere tenant node epoch)

/-- `EXISTS (SELECT 1 FROM cluster_nodes WHERE node_id = ? AND lease_until > ?)` -/
def nodeLeased : Bool := (db.nodes node).any (db.store.leased ·.leaseUntil now)

/-- The `WHERE` of the conflict clause of `acquire`. -/
def acquireWhere (row : OwnerRow) : Bool :=
  row.expiresAt.any (db.store.le · now) || row.ownerNodeId = node || !nodeLeased db row.ownerNodeId now

def acquireUpsert : Except StorageError Database :=
  let write (epoch : Int) := db.put device (some ⟨tenant,node,epoch,some (db.store.kept leaseUntil)⟩)
  match db.owners device with
  | none => .ok (write 1)
  | some row => if acquireWhere db node now row then (db.store.increment row.ownerEpoch).map write else .ok db

/-- Second statement of `acquire` and the result the caller gets. -/
def acquireSelect : Except StorageError OwnerInfo :=
  match get db tenant device with
  | .error error => .error error
  | .ok found =>
    match found.filter fun info => info.ownerNodeId = node with
    | some info => .ok info
    | none => .error (.unavailable "device lease held by another node")

def renewWhere (store : SqlStore) (tenant : TenantId) (node : NodeId) (now : UtcTimestamp) (row : OwnerRow) : Bool :=
  row.tenantId = tenant && row.ownerNodeId = node && row.expiresAt.all (!store.le · now)

def renewUpdate : Database × Bool :=
  match db.owners device with
  | some row =>
    if renewWhere db.store tenant node now row then
      (db.put device (some { row with expiresAt := some (db.store.kept leaseUntil) }), true)
    else (db, false)
  | none => (db, false)

end

theorem acquireUpsert_cases (h : acquireUpsert db tenant device node now leaseUntil = .ok db') :
    (db' = db ∧ ∃ row, db.owners device = some row ∧ acquireWhere db node now row = false ∧ row.ownerNodeId ≠ node) ∨
    ∃ epoch, db' = db.put device (some ⟨tenant,node,epoch,some (db.store.kept leaseUntil)⟩) ∧
      ((db.owners device = none ∧ epoch = 1) ∨ ∃ row, db.owners device = some row ∧
        acquireWhere db node now row = true ∧ db.store.increment row.ownerEpoch = .ok epoch) := by
  unfold acquireUpsert at h
  split at h
  · cases h
    exact .inr ⟨1,rfl,.inl ⟨‹_›,rfl⟩⟩
  rename_i row stored
  split at h
  · rename_i takes
    cases raised : db.store.increment row.ownerEpoch with
    | error error => simp [raised,Except.map] at h
    | ok epoch =>
      simp only [raised,Except.map,Except.ok.injEq] at h
      exact .inr ⟨epoch,h.symm,.inr ⟨row,stored,takes,raised⟩⟩
  rename_i refused
  cases h
  refine .inl ⟨rfl,row,stored,by simpa using refused,?_⟩
  intro same
  exact refused (by simp [acquireWhere,same])

theorem select_eq_some : select db tenant device = some row ↔ db.owners device = some row ∧ row.tenantId = tenant := by
  simp [select]

theorem get_ok (h : get db tenant device = .ok found) :
    found = storedOwner db tenant device ∧ ∀ row, select db tenant device = some row → row.ownerEpoch ≤ i64Max := by
  unfold get storedOwner at *
  split at h
  · rename_i row stored
    unfold OwnerRow.read at h
    split at h
    · cases h
      simpa [stored]
    · cases h
  · rename_i absent
    cases h
    simp [absent]

theorem acquireSelect_ok (h : acquireSelect db tenant device node = .ok info) :
    ∃ row, db.owners device = some row ∧ row.tenantId = tenant ∧ row.ownerNodeId = node ∧
      row.ownerEpoch ≤ i64Max ∧ info = row.info := by
  unfold acquireSelect at h
  split at h
  · cases h
  rename_i found read
  obtain ⟨rfl,range⟩ := get_ok read
  split at h
  · rename_i info' kept
    cases h
    obtain ⟨same,here⟩ := Option.filter_eq_some_iff.mp kept
    obtain ⟨row,selected,rfl⟩ := Option.map_eq_some_iff.mp same
    obtain ⟨stored,tenant⟩ := select_eq_some.mp selected
    exact ⟨row,stored,tenant,of_decide_eq_true here,range row selected,rfl⟩
  · cases h

theorem renewUpdate_owner (db : Database) (tenant : TenantId) (device : DeviceId) (node : NodeId)
    (now leaseUntil : UtcTimestamp) (other : DeviceId) :
    ((renewUpdate db tenant device node now leaseUntil).1.owners other).map
        (fun row => (row.tenantId,row.ownerNodeId,row.ownerEpoch)) =
      (db.owners other).map (fun row => (row.tenantId,row.ownerNodeId,row.ownerEpoch)) := by
  unfold renewUpdate
  by_cases same : other = device
  · subst other
    cases stored : db.owners device with
    | none => simp [stored]
    | some row => by_cases h : renewWhere db.store tenant node now row <;> simp [h,stored]
  · cases stored : db.owners device with
    | none => rfl
    | some row => by_cases h : renewWhere db.store tenant node now row <;> simp [h,same]

theorem deleteWhere_unmatched (unmatched : (db.owners device).any condition = false) : deleteWhere db device condition = db := by
  simp [deleteWhere,unmatched]

end CheetahSignaling.OwnerRepository
