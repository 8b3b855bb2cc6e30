import CheetahSignaling.OwnerRepository

/-! `DeviceAssignmentService::assign` as a sequence of repository statements. The nodes a
listing returned are an input: its pages are read by separate statements, and what they
hold together need not be any one state of the table. The rate limiter's answer is an
input as well, and the clock is read once. -/
namespace CheetahSignaling.DeviceAssignment

open OwnerRepository

inductive DeviceAssignmentError where
  | noAvailableNode
  | rateLimited
  | storage (error : StorageError)
  | domain (error : DomainError)
  deriving DecidableEq

def uuidBytes (id : Nat) : List Nat := (List.range 16).map fun i => id / 256 ^ (15 - i) % 256

def fnvStep (hash byte : Nat) : Nat := (hash ^^^ byte) * 0x100000001b3 % 2 ^ 64

section

variable (device : DeviceId) (node : ClusterNode) (protocol : String) (now : UtcTimestamp)

def hashScore (node : NodeId) : Nat :=
  (uuidBytes device ++ uuidBytes node).foldl fnvStep 0xcbf29ce484222325

/-- Ignores capacity and draining, which only affect new assignments. -/
def isOwnerAlive : Bool :=
  now < node.leaseUntil && (protocol == "" || node.contractVersions.any (fun entry => entry.1 == protocol))

def isEligible : Bool :=
  isOwnerAlive node protocol now && !node.draining && node.devices < node.maxDevices

def before (a b : ClusterNode) : Bool := hashScore device a.nodeId < hashScore device b.nodeId ||
    (hashScore device a.nodeId == hashScore device b.nodeId && a.nodeId < b.nodeId)

end

def first (device : DeviceId) : List ClusterNode → Option ClusterNode
  | [] => none
  | node :: rest =>
    match first device rest with
    | some other => if before device other node then some other else some node
    | none => some node

def inZone (preferred : Option String) (candidates : List ClusterNode) : List ClusterNode :=
  match preferred with
  | none => candidates
  | some zone =>
    let nearby := candidates.filter (fun n => n.zone == zone)
    if nearby.isEmpty then candidates else nearby

def selectNode (listed : List ClusterNode) (device : DeviceId) (protocol : String)
    (preferredZone : Option String) (now : UtcTimestamp) :
    Except DeviceAssignmentError ClusterNode :=
  match first device (inZone preferredZone (listed.filter (isEligible · protocol now))) with
  | some node => .ok node
  | none => .error .noAvailableNode

structure Request where
  tenantId : TenantId
  deviceId : DeviceId
  protocol : String
  preferredZone : Option String
  now : UtcTimestamp
  /-- `now + lease_duration`; `none` when that is out of range. -/
  leaseUntil : Option UtcTimestamp
  listed : List ClusterNode
  /-- Whether the rate limiter reserves a slot on the node. -/
  reserve : NodeId → Bool

/-- The statement `assign` runs next, with the locals it has by then. -/
inductive Stage where
  | ownerGet
  | nodeGet (owner : OwnerInfo)
  | listAlive
  | acquireUpsert (candidate : NodeId)
  | acquireSelect (candidate : NodeId)
  | lostRaceGet
  | returned (result : Except DeviceAssignmentError OwnerInfo)

/-- The lease is computed before the first statement. -/
def start (request : Request) : Stage :=
  if request.leaseUntil.isSome then .ownerGet
  else .returned (.error (.domain (.internal "owner lease overflow")))

/-- `select_node` over the listed nodes, then the rate limiter. -/
def chooseCandidate (request : Request) : Stage :=
  match selectNode request.listed request.deviceId request.protocol request.preferredZone request.now with
  | .error error => .returned (.error error)
  | .ok candidate =>
    if request.reserve candidate.nodeId then .acquireUpsert candidate.nodeId
    else .returned (.error .rateLimited)

def advance (request : Request) (db : Database) : Stage → Database × Stage
  | .ownerGet =>
    match get db request.tenantId request.deviceId with
    | .ok (some owner) => (db,if owner.leaseUntil.all (request.now < ·) then .nodeGet owner else .listAlive)
    | .ok none => (db,.listAlive)
    | .error error => (db,.returned (.error (.storage error)))
  | .nodeGet owner =>
    if (db.nodes owner.ownerNodeId).any (isOwnerAlive · request.protocol request.now) then
      (db,.returned (.ok owner))
    else (db,.listAlive)
  | .listAlive => (db,chooseCandidate request)
  | .acquireUpsert candidate =>
    match acquireUpsert db request.tenantId request.deviceId candidate request.now
        (request.leaseUntil.getD 0) with
    | .ok db => (db,.acquireSelect candidate)
    | .error error => (db,.returned (.error (.storage error)))
  | .acquireSelect candidate =>
    match acquireSelect db request.tenantId request.deviceId candidate with
    | .ok owner => (db,.returned (.ok owner))
    | .error (.unavailable _) => (db,.lostRaceGet)
    | .error error => (db,.returned (.error (.storage error)))
  | .lostRaceGet =>
    match get db request.tenantId request.deviceId with
    | .ok (some owner) => (db,.returned (.ok owner))
    | .ok none => (db,.returned (.error .noAvailableNode))
    | .error error => (db,.returned (.error (.storage error)))
  | .returned result => (db,.returned result)

/-- A statement that fails has no effect and ends the assignment. -/
def fail (message : String) : Stage → Stage
  | .returned result => .returned result
  | _ => .returned (.error (.storage (.backend message)))

end CheetahSignaling.DeviceAssignment
