import CheetahSignaling.GuardedRun
import CheetahSignaling.KeyMap
import CheetahSignaling.MediaNodeRegistry

/-! `PersistentMediaNodeRegistry` for one media node: the cached entry with the sessions reserved on
it, and the calls that change it. A registration, a heartbeat and a drain give up the lock while
they wait for the repository, so that other calls run in between; a reservation and a release hold
it throughout. -/
namespace CheetahSignaling.NodeReservations

open MediaNodeRegistry

structure MediaNodeCapacity where
  (maxSessions maxCpuPercent : Nat)

structure Node where
  node : MediaNode
  capacity : MediaNodeCapacity

inductive MediaNodeHealth where
  | healthy | degraded | unhealthy
  deriving DecidableEq

structure MediaRegistryConfig where
  (defaultLeaseTtlMs heartbeatTimeoutMs maxReportedLoadPercent maxReportedSessionCount : Nat)
  reservationTtlMs : Nat

inductive SchedulerError where
  | nodeNotFound (text : String)
  | capacityExhausted (text : String)
  | nodeDraining (text : String)
  | invalidArgument (text : String)
  | backend (text : String)

abbrev Reservation := TenantId × MediaBindingId

abbrev Reservations := KeyMap Reservation UtcTimestamp

structure NodeEntry where
  node : Node
  reportedSessionCount : Nat
  reserved : Reservations
  instanceId : String

/-- What callers see of an entry: its node with the total session count and the derived health. -/
structure View where
  node : Node
  health : MediaNodeHealth

/-! Time. A count of milliseconds is read as `i64`, or its maximum. -/

def millis (ms : Nat) : Int := min (ms : Int) i64Max * 1000000

/-- The end of the year 9999 is the last timestamp there is. -/
def checkedAdd (now : UtcTimestamp) (ms : Nat) : Option UtcTimestamp :=
  if now + millis ms < 253402300800000000000 then some (now + millis ms) else none

def leaseUntil (now : UtcTimestamp) (ttlMs : Nat) : Option UtcTimestamp := checkedAdd now ttlMs

/-! Views -/

def saturatingMul (a b : Nat) : Nat := min (a * b) (2 ^ 64 - 1)

def recalcHealth (node : Node) : MediaNodeHealth :=
  let maxCpu := if node.capacity.maxCpuPercent = 0 then 100 else node.capacity.maxCpuPercent
  let maxSessions := max node.capacity.maxSessions 1
  if node.node.load ≥ maxCpu ∨ node.node.sessionCount ≥ maxSessions then .unhealthy
  else if node.node.load ≥ saturatingMul maxCpu 7 / 10 ∨ node.node.sessionCount ≥ saturatingMul maxSessions 7 / 10 then
    .degraded
  else .healthy

section

variable (config : MediaRegistryConfig) (entry : NodeEntry) (now : UtcTimestamp)

def isLeaseExpired : Bool := entry.node.node.leaseUntil.all (now ≥ ·)

def isStale : Bool :=
  entry.node.node.lastHeartbeatAt.all fun last => now - last ≥ millis config.heartbeatTimeoutMs

def isActive : Bool :=
  match entry.node.node.status with
  | .left => !isLeaseExpired entry now
  | _ => !isLeaseExpired entry now && !isStale config entry now

def unexpired (reserved : Reservations) : Nat := (reserved.entries.filter (·.2 > now)).length

def toMediaNode : View :=
  let total := saturatingAdd entry.reportedSessionCount (unexpired now entry.reserved)
  let node := { entry.node with node.sessionCount := total }
  ⟨node,if isStale config entry now then .unhealthy else recalcHealth node⟩

end

/-! The repository: a row with the capacity column, which is JSON -/

structure Row where
  row : MediaNodeRow
  capacity : MediaNodeCapacity

def Row.loaded (row : Row) : Node := ⟨row.row.node,row.capacity⟩

def registerRow (db : Option Row) (node : Node) : Except StorageError Row :=
  (MediaNodeRegistry.register (db.map Row.row) node.node).map (⟨·,node.capacity⟩)

def updateRow (db : Option Row) (instanceId : String) (update : Option MediaNodeRow → Option MediaNodeRow) :
    Option Row × Option Node :=
  let updated := db.bind fun row => (update (some row.row)).map (⟨·,row.capacity⟩)
  (updated,(updated.filter (·.row.instanceId = instanceId)).map Row.loaded)

def display : StorageError → String
  | .backend message => s!"backend error: {message}"
  | .migration version message => s!"migration error at version {version}: {message}"
  | .config message => s!"config error: {message}"
  | .connection message => s!"connection error: {message}"
  | .unavailable message => s!"unavailable: {message}"
  | .concurrentModification expected found => s!"concurrent modification: expected {expected}, found {found}"
  | .invalidArgument message => s!"invalid argument: {message}"
  | .internal message => s!"internal: {message}"

/-! The calls -/

/-- What a call that waits for the repository, or for the lock, does next. -/
inductive Phase where
  /-- A registration that found no entry reads the row. -/
  | reading (node : Node) (now : UtcTimestamp) (lease : Option UtcTimestamp)
  | writing (updated : Node) (now : UtcTimestamp) (reported : Nat) (reserved : Reservations)
  | caching (persisted : Node) (now : UtcTimestamp) (reported : Nat) (reserved : Reservations)
  | beating (leaseId : String) (now lease : UtcTimestamp) (load sessionCount : Nat)
  | beaten (persisted : Option Node) (now lease : UtcTimestamp) (sessionCount : Nat)
  | draining (instanceId : String) (now : UtcTimestamp) (drain : Bool)
  | drained (persisted : Option Node) (now : UtcTimestamp)

inductive Progress where
  | waits (phase : Phase)
  | answers (answer : Except SchedulerError View)

structure Registry where
  db : Option Row
  entry : Option NodeEntry

section Calls

variable (config : MediaRegistryConfig) (nodeId : String)

variable (entry : Option NodeEntry)

/-- `register` up to its first wait for the repository. -/
def register (node : Node) (leaseTtlMs : Nat) (now : UtcTimestamp) : Phase :=
  let lease := leaseUntil now leaseTtlMs
  match entry with
  | some entry =>
    if entry.instanceId = node.node.instanceId then
      .writing ⟨renewed node.node now lease entry.node.node,node.capacity⟩ now entry.reportedSessionCount entry.reserved
    else .writing ⟨successor node.node now lease entry.node.node,node.capacity⟩ now 0 ∅
  | none => .reading node now lease

def heartbeat (leaseId : String) (instanceEpoch load sessionCount : Nat) (now : UtcTimestamp) : Progress :=
  if load > config.maxReportedLoadPercent then
    .answers (.error (.invalidArgument s!"load exceeds {config.maxReportedLoadPercent}%"))
  else if sessionCount > config.maxReportedSessionCount then
    .answers (.error (.invalidArgument s!"session_count exceeds {config.maxReportedSessionCount}"))
  else
    match leaseUntil now config.defaultLeaseTtlMs, entry with
    | none, _ => .answers (.error (.backend "lease timestamp overflow"))
    | some _, none => .answers (.error (.nodeNotFound nodeId))
    | some lease, some entry =>
      if entry.node.node.status = .left then
        .answers (.error (.nodeNotFound s!"{nodeId} has been deregistered"))
      else if entry.instanceId ≠ leaseId ∨ entry.node.node.instanceEpoch ≠ instanceEpoch then
        .answers (.error (.nodeNotFound s!"{nodeId} lease or instance epoch mismatch"))
      else .waits (.beating leaseId now lease load sessionCount)

def drain (drain : Bool) (now : UtcTimestamp) : Progress :=
  match entry with
  | none => .answers (.error (.nodeNotFound nodeId))
  | some entry => .waits (.draining entry.instanceId now drain)

variable (fault : Option StorageError) (key : Reservation) (now : UtcTimestamp) (m : Registry)

def attempt (call : Registry × Progress) : Registry × Progress :=
  match fault with
  | some error => (m,.answers (.error (.backend (clampStr (display error) 1024))))
  | none => call

def amend (persisted : Option Node) (m : Registry) (now : UtcTimestamp) (change : NodeEntry → Node → NodeEntry) :
    Registry × Progress :=
  match persisted, m.entry with
  | some node, some entry =>
    ({ m with entry := some (change entry node) },.answers (.ok (toMediaNode config (change entry node) now)))
  | _, _ => (m,.answers (.error (.nodeNotFound nodeId)))

/-- A waiting call goes on to its next wait or to its end. -/
def resume : Phase → Registry × Progress
  | .reading node now lease =>
    match fault with
    | some error => (m,.answers (.error (.backend (display error))))
    | none =>
      (m,.waits (.writing ⟨fromStore node.node now lease (m.db.map (·.row.node)),node.capacity⟩ now 0 ∅))
  | .writing updated now reported reserved =>
    attempt fault m <|
      match registerRow m.db updated with
      | .ok row => ({ m with db := some row },.waits (.caching row.loaded now reported reserved))
      | .error error => (m,.answers (.error (.backend (clampStr (display error) 1024))))
  | .caching persisted now reported reserved =>
    let entry : NodeEntry := ⟨persisted,reported,reserved,persisted.node.instanceId⟩
    ({ m with entry := some entry },.answers (.ok (toMediaNode config entry now)))
  | .beating leaseId now lease load sessionCount =>
    let updated := updateRow m.db leaseId fun row => MediaNodeRegistry.heartbeat row leaseId lease now load sessionCount
    attempt fault m ({ m with db := updated.1 },.waits (.beaten updated.2 now lease sessionCount))
  | .beaten persisted now lease sessionCount =>
    amend config nodeId persisted m now fun entry node =>
      { entry with
        node := { node with node.lastHeartbeatAt := some now, node.leaseUntil := some lease }
        reportedSessionCount := sessionCount }
  | .draining instanceId now drain =>
    let updated := updateRow m.db instanceId fun row => setDraining row instanceId drain
    attempt fault m ({ m with db := updated.1 },.waits (.drained updated.2 now))
  | .drained persisted now => amend config nodeId persisted m now fun entry node => { entry with node }

/-- `reserved.retain(|_, d| *d > now)` -/
def retain (reserved : Reservations) : Reservations :=
  reserved.sweep fun _ deadline => if deadline > now then some deadline else none

def reserve : Except SchedulerError View × Option NodeEntry :=
  match entry with
  | none => (.error (.nodeNotFound nodeId),none)
  | some entry =>
    let view := toMediaNode config entry now
    if view.node.node.status = .left then (.error (.nodeNotFound nodeId),some entry)
    else if !isActive config entry now then (.error (.nodeNotFound nodeId),some entry)
    else if view.node.node.status = .draining ∨ view.node.node.draining then (.error (.nodeDraining nodeId),some entry)
    else if view.health = .unhealthy then (.error (.capacityExhausted nodeId),some entry)
    else
      match checkedAdd now config.reservationTtlMs with
      | none => (.error (.invalidArgument "reservation deadline overflow"),some entry)
      | some deadline =>
        let kept := { entry with reserved := retain now entry.reserved }
        if saturatingAdd kept.reportedSessionCount kept.reserved.entries.length ≥ max kept.node.capacity.maxSessions 1 then
          (.error (.capacityExhausted nodeId),some kept)
        else
          let holding := { kept with reserved := kept.reserved.insert key deadline }
          (.ok (toMediaNode config holding now),some holding)

def release : Except SchedulerError View × Option NodeEntry :=
  match entry with
  | none => (.error (.nodeNotFound nodeId),none)
  | some entry =>
    let freed := { entry with reserved := retain now (entry.reserved.erase key) }
    (.ok (toMediaNode config freed now),some freed)

end Calls

/-! Interleavings -/

structure State where
  registry : Registry
  calls : KeyMap Nat Phase
  /-- The reservations granted and not released since. -/
  granted : Reservations
  latest : UtcTimestamp

inductive Action where
  | register (call : Nat) (node : Node) (leaseTtlMs : Nat) (now : UtcTimestamp)
  | heartbeat (call : Nat) (leaseId : String) (instanceEpoch load sessionCount : Nat) (now : UtcTimestamp)
  | drain (call : Nat) (drain : Bool) (now : UtcTimestamp)
  | resume (call : Nat) (fault : Option StorageError)
  /-- The future of a call is dropped while it waits. -/
  | abandon (call : Nat)
  | reserve (key : Reservation) (now : UtcTimestamp)
  | release (key : Reservation) (now : UtcTimestamp)
  /-- Another process has changed the row. -/
  | store (db : Option Row)

def settle (s : State) (call : Nat) : Progress → State
  | .waits phase => { s with calls := s.calls.insert call phase }
  | .answers _ => { s with calls := s.calls.erase call }

section Step

variable (config : MediaRegistryConfig) (nodeId : String)

def start (s : State) (call : Nat) (progress : Progress) : State :=
  match s.calls.lookup call with
  | some _ => s
  | none => settle s call progress

def resumed (s : State) (call : Nat) (fault : Option StorageError) : State :=
  match s.calls.lookup call with
  | none => s
  | some phase =>
    let next := resume config nodeId fault s.registry phase
    settle { s with registry := next.1 } call next.2

def grants (s : State) (key : Reservation) (now : UtcTimestamp) : Bool :=
  (reserve config nodeId s.registry.entry key now).1.isOk

def step (s : State) : Action → State
  | .register call node leaseTtlMs now => start s call (.waits (register s.registry.entry node leaseTtlMs now))
  | .heartbeat call leaseId instanceEpoch load sessionCount now =>
    start s call (heartbeat config nodeId s.registry.entry leaseId instanceEpoch load sessionCount now)
  | .drain call flag now => start s call (drain nodeId s.registry.entry flag now)
  | .resume call fault => resumed config nodeId s call fault
  | .abandon call => { s with calls := s.calls.erase call }
  | .reserve key now =>
    { s with
      registry.entry := (reserve config nodeId s.registry.entry key now).2
      granted :=
        if grants config nodeId s key now then s.granted.insert key (now + millis config.reservationTtlMs) else s.granted
      latest := max s.latest now }
  | .release key now =>
    { s with
      registry.entry := (release config nodeId s.registry.entry key now).2
      granted := s.granted.erase key
      latest := max s.latest now }
  | .store db => { s with registry.db := db }

end Step

end CheetahSignaling.NodeReservations
