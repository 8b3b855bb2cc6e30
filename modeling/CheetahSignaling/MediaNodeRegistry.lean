import CheetahSignaling.Types
import Mathlib.Logic.Function.Basic

/-! The row of one media node in `media_nodes`, the calls of `MediaNodeRepository` on it, and
`PersistentMediaNodeRegistry::register` over them. A registration takes a snapshot of the cached
entry, reads the row if there is none, writes the row and caches what was written; the calls of
other registries fall in between. Of a node only what these calls compute with is represented:
addresses, labels, capabilities and capacity are copied from the request. -/
namespace CheetahSignaling.MediaNodeRegistry

inductive NodeStatus where
  | active | draining | left
  deriving DecidableEq

structure MediaNode where
  instanceId : String
  (instanceEpoch generation load sessionCount : Nat)
  draining : Bool
  status : NodeStatus
  (lastHeartbeatAt leaseUntil : Option UtcTimestamp)
  revision : Nat

/-- A row of `media_nodes`; timestamps are milliseconds. -/
structure MediaNodeRow where
  instanceId : String
  (instanceEpoch generation load sessionCount : Int)
  draining : Bool
  status : NodeStatus
  (lastHeartbeatAt leaseUntil : Option Int)
  revision : Int

def fromMillis (ms : Int) : UtcTimestamp := ms * 1000000

/-- `TryFrom<MediaNodeRow> for MediaNode` -/
def MediaNodeRow.node (row : MediaNodeRow) : MediaNode where
  instanceId := row.instanceId
  instanceEpoch := asU64 row.instanceEpoch
  generation := asU64 row.generation
  load := asU64 row.load
  sessionCount := asU64 row.sessionCount
  draining := row.draining
  status := row.status
  lastHeartbeatAt := row.lastHeartbeatAt.map fromMillis
  leaseUntil := row.leaseUntil.map fromMillis
  revision := asU64 row.revision

def MediaNode.row (node : MediaNode) (revision : Int) : MediaNodeRow where
  instanceId := node.instanceId
  instanceEpoch := asI64 node.instanceEpoch
  generation := asI64 node.generation
  load := asI64 node.load
  sessionCount := asI64 node.sessionCount
  draining := node.draining
  status := node.status
  lastHeartbeatAt := node.lastHeartbeatAt.map toMillis
  leaseUntil := node.leaseUntil.map toMillis
  revision := revision

@[simp] theorem MediaNode.row_instanceId (node : MediaNode) (revision : Int) :
    (node.row revision).instanceId = node.instanceId := rfl
@[simp] theorem MediaNode.row_instanceEpoch (node : MediaNode) (revision : Int) :
    (node.row revision).instanceEpoch = asI64 node.instanceEpoch := by rw [MediaNode.row]

section Repository

variable (db : Option MediaNodeRow)

def register (node : MediaNode) : Except StorageError MediaNodeRow :=
  match db with
  | none => .ok (node.row 1)
  | some row =>
    if row.instanceId ≠ node.instanceId ∧ asI64 node.instanceEpoch < row.instanceEpoch then
      .error (.concurrentModification (asU64 row.revision) node.revision)
    else .ok (node.row (row.revision + 1))

section

variable (instanceId : String)

def updateInstance (change : MediaNodeRow → MediaNodeRow) : Option MediaNodeRow :=
  db.map fun row => if row.instanceId = instanceId then { change row with revision := row.revision + 1 } else row

def heartbeat (leaseUntil updatedAt : UtcTimestamp) (load sessionCount : Nat) : Option MediaNodeRow :=
  updateInstance db instanceId fun row =>
    { row with
      leaseUntil := some (toMillis leaseUntil), lastHeartbeatAt := some (toMillis updatedAt),
      load := asI64 load, sessionCount := asI64 sessionCount }

def setDraining (draining : Bool) : Option MediaNodeRow :=
  updateInstance db instanceId fun row => { row with draining, status := if draining then .draining else .active }

def deregister (leaseUntil : Option UtcTimestamp) : Option MediaNodeRow :=
  updateInstance db instanceId fun row => { row with status := .left, leaseUntil := leaseUntil.map toMillis }

end

def SameInstance (row row' : MediaNodeRow) : Prop :=
  row'.instanceId = row.instanceId ∧ row'.instanceEpoch = row.instanceEpoch

variable {db}

theorem updateInstance_some (kept : ∀ row, SameInstance row (change row))
    (updated : updateInstance db instanceId change = some row') : ∃ row, db = some row ∧ SameInstance row row' := by
  obtain ⟨row,stored,rfl⟩ := Option.map_eq_some_iff.mp updated
  refine ⟨row,stored,?_⟩
  split
  · exact kept row
  · exact ⟨rfl,rfl⟩

theorem updateInstance_none : updateInstance db instanceId change = none ↔ db = none := Option.map_eq_none_iff

theorem register_ok (written : register db node = .ok row') : (∃ revision, row' = node.row revision) ∧
      ∀ row ∈ db, row.instanceId ≠ node.instanceId → row.instanceEpoch ≤ asI64 node.instanceEpoch := by
  unfold register at written
  split at written
  · cases written
    exact ⟨⟨_,rfl⟩,by simp⟩
  split at written
  · cases written
  rename_i accepted
  cases written
  refine ⟨⟨_,rfl⟩,?_⟩
  rintro _ ⟨⟩ other
  exact Int.not_lt.mp fun below => accepted ⟨other,below⟩

end Repository

/-- An entry of the registry's cache; reservations and the reported session count play no part
in a registration. -/
structure NodeEntry where
  node : MediaNode
  instanceId : String

def saturatingSucc (n : Nat) : Nat := min (n + 1) (2 ^ 64 - 1)

section Registration

variable (node : MediaNode) (now : UtcTimestamp) (lease : Option UtcTimestamp)

def renewed (existing : MediaNode) : MediaNode := { node with
    generation := existing.generation, instanceEpoch := existing.instanceEpoch, status := .active, draining := false,
    load := existing.load, lastHeartbeatAt := some now, leaseUntil := lease, revision := existing.revision }

def successor (existing : MediaNode) : MediaNode := { node with
    generation := saturatingSucc existing.generation, instanceEpoch := saturatingSucc existing.instanceEpoch,
    status := .active, draining := false, lastHeartbeatAt := some now, leaseUntil := lease,
    revision := existing.revision }

def first : MediaNode := { node with
    generation := 1, instanceEpoch := 1, status := .active, draining := false, lastHeartbeatAt := some now,
    leaseUntil := lease, revision := 0 }

def fromCache (entry : NodeEntry) : MediaNode :=
  if entry.instanceId = node.instanceId then renewed node now lease entry.node
  else successor node now lease entry.node

def fromStore : Option MediaNode → MediaNode
  | some existing => successor node now lease existing
  | none => first node now lease

end Registration

end CheetahSignaling.MediaNodeRegistry
