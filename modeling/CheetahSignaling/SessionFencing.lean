import CheetahSignaling.GuardedRun
import CheetahSignaling.SessionLink
import Mathlib.Data.Set.BooleanAlgebra
import Mathlib.Order.CompletePartialOrder

/-! Owner epochs as fences of a protocol session, over arbitrary interleavings of the link's methods
at their repository calls. All methods are for one device. -/
namespace CheetahSignaling.SessionFencing

open SessionLink GuardedRun
open Resumption (Prog)

inductive Job where
  | register (clock : UtcTimestamp) (id : ProtocolSessionId) (ctx : SessionContext) (params : RegisterParams)
  | unregister (ctx : SessionContext)
  | keepalive (clock : UtcTimestamp) (ctx : SessionContext)
  | acquireOwner (clock : UtcTimestamp) (tenantId : TenantId) (deviceId : DeviceId) (nodeId : NodeId)
      (newEpoch : OwnerEpoch)
  | reapExpired (clock now : UtcTimestamp) (pageSize maxSessions pages : Nat)

namespace Job

def program : Job → Prog Call Reply Unit
  | .register clock id ctx params => (SessionLink.register clock id ctx params).map fun _ => ()
  | .unregister ctx => (SessionLink.unregister ctx).map fun _ => ()
  | .keepalive clock ctx => (SessionLink.keepalive clock ctx).map fun _ => ()
  | .acquireOwner clock tenantId deviceId nodeId newEpoch =>
    (SessionLink.acquireOwner clock tenantId deviceId nodeId newEpoch).map fun _ => ()
  | .reapExpired clock now pageSize maxSessions pages =>
    (SessionLink.reapExpired clock now pageSize maxSessions pages).map fun _ => ()

def registers : Job → Option SessionContext
  | .register _ _ ctx _ => some ctx
  | _ => none

def epoch : Job → Option OwnerEpoch
  | .register _ _ ctx _ | .unregister ctx | .keepalive _ ctx => some ctx.ownerEpoch
  | .acquireOwner _ _ _ _ newEpoch => some newEpoch
  | .reapExpired .. => none

theorem epoch_of_registers {job : Job} (registers : job.registers = some ctx) : job.epoch = some ctx.ownerEpoch := by
  cases job <;> cases registers
  rfl

/-- The device of a method; the reaper takes every device there is. -/
def For (tenant : TenantId) (device : DeviceId) : Job → Prop
  | .register _ _ ctx _ | .unregister ctx | .keepalive _ ctx => ctx.tenantId = tenant ∧ ctx.deviceId = device
  | .acquireOwner _ tenantId deviceId _ _ => tenantId = tenant ∧ deviceId = device
  | .reapExpired .. => True

instance : (job : Job) → Decidable (job.For tenant device)
  | .register .. | .unregister _ | .keepalive .. | .acquireOwner .. => inferInstanceAs (Decidable (_ ∧ _))
  | .reapExpired .. => .isTrue trivial

end Job

def saved : Call → Option ProtocolSession
  | .save session => some session
  | _ => none

/-- A write that the repository accepted, and the device's session before and after it. -/
structure Write where
  job : Job
  call : Call
  (before after : Option ProtocolSession)

def Write.carried (w : Write) : OwnerEpoch := w.job.epoch.getD (((saved w.call).map ProtocolSession.ownerEpoch).getD 0)

structure State where
  store : ProtocolSessions
  pool : Nat → Option (Job × Prog Call Reply Unit)
  log : List Write

def initial : State := ⟨.empty,fun _ => none,[]⟩

inductive Action where
  | begin (i : Nat) (job : Job)
  /-- The repository answers the next call. -/
  | answer (i : Nat)
  /-- The next call fails without an effect. -/
  | fail (i : Nat) (error : DomainError)

section

variable (tenant : TenantId) (device : DeviceId)

def stored (store : ProtocolSessions) : Option ProtocolSession := store.getByDevice tenant .gb28181 device

def accepts (store : ProtocolSessions) : Call → Bool
  | .save session => (store.save session).isOk
  | .delete tenantId id expectedRevision => (store.delete tenantId id expectedRevision).isOk
  | _ => false

def accepted (s : State) (i : Nat) : Option Write :=
  match s.pool i with
  | some (job,.call c _) =>
    if accepts s.store c then
      some ⟨job,c,stored tenant device s.store,stored tenant device (SessionLink.answer c s.store).2⟩
    else none
  | _ => none

def resume (s : State) (i : Nat) (job : Job) (rest : Prog Call Reply Unit) : State :=
  { s with pool := Function.update s.pool i (some (job,rest)) }

def step (s : State) : Action → State
  | .begin i job => if (s.pool i).isSome then s else resume s i job job.program
  | .answer i =>
    match s.pool i with
    | some (job,.call c next) =>
      let (reply,store) := SessionLink.answer c s.store
      resume { s with store := store,log := s.log ++ (accepted tenant device s i).toList } i job (next reply)
    | _ => s
  | .fail i error =>
    match s.pool i with
    | some (job,.call _ next) => resume s i job (next (.error error))
    | _ => s

end

/-- The owner changes only with a larger epoch, and epochs never decrease: those that writes are made
with, and those that they leave in the store. -/
structure Fenced (log : List Write) : Prop where
  owner : ∀ w ∈ log, ∀ old ∈ w.before, ∀ new ∈ w.after,
    old.ownerNodeId ≠ new.ownerNodeId → old.ownerEpoch < new.ownerEpoch
  carried : log.Pairwise fun v w => v.carried ≤ w.carried
  kept : log.Pairwise fun v w => ∀ old ∈ v.after, ∀ new ∈ w.after, old.ownerEpoch ≤ new.ownerEpoch

instance (log : List Write) : Decidable (Fenced log) := decidable_of_iff
    ((∀ w ∈ log, ∀ old ∈ w.before, ∀ new ∈ w.after,
        old.ownerNodeId ≠ new.ownerNodeId → old.ownerEpoch < new.ownerEpoch) ∧
      (log.Pairwise fun v w => v.carried ≤ w.carried) ∧
      log.Pairwise fun v w => ∀ old ∈ v.after, ∀ new ∈ w.after, old.ownerEpoch ≤ new.ownerEpoch)
    ⟨fun h => ⟨h.1,h.2.1,h.2.2⟩,fun h => ⟨h.owner,h.carried,h.kept⟩⟩

/-- The condition on a write that is about to be accepted. -/
structure Orderly (log : List Write) (w : Write) : Prop where
  /-- A register at the stored epoch comes from the stored owner. -/
  owner : ∀ ctx ∈ w.job.registers, ∀ old ∈ w.before,
    ctx.ownerEpoch = old.ownerEpoch → old.ownerNodeId = some ctx.ownerNodeId
  epoch : (∀ old ∈ w.before, ∃ v ∈ log, old.ownerEpoch < v.carried) → ∀ v ∈ log, v.carried ≤ w.carried
  /-- A session that was deleted does not come back. -/
  fresh : w.before = none → ∀ session ∈ saved w.call, ∀ v ∈ log, ∀ old ∈ v.after,
    old.protocolSessionId ≠ session.protocolSessionId

instance (log : List Write) (w : Write) : Decidable (Orderly log w) := decidable_of_iff
    ((∀ ctx ∈ w.job.registers, ∀ old ∈ w.before,
        ctx.ownerEpoch = old.ownerEpoch → old.ownerNodeId = some ctx.ownerNodeId) ∧
      ((∀ old ∈ w.before, ∃ v ∈ log, old.ownerEpoch < v.carried) → ∀ v ∈ log, v.carried ≤ w.carried) ∧
      (w.before = none → ∀ session ∈ saved w.call, ∀ v ∈ log, ∀ old ∈ v.after,
        old.protocolSessionId ≠ session.protocolSessionId))
    ⟨fun h => ⟨h.1,h.2.1,h.2.2⟩,fun h => ⟨h.owner,h.epoch,h.fresh⟩⟩

section

variable (tenant : TenantId) (device : DeviceId)

def Concerns : Action → Prop
  | .begin _ job => job.For tenant device
  | _ => True

instance : (action : Action) → Decidable (Concerns tenant device action)
  | .begin _ job => inferInstanceAs (Decidable (job.For tenant device))
  | .answer _ | .fail _ _ => .isTrue trivial

def Meets (s : State) : Action → Prop
  | .answer i => ∀ w ∈ accepted tenant device s i, Orderly s.log w
  | _ => True

instance (s : State) : (action : Action) → Decidable (Meets tenant device s action)
  | .answer i => inferInstanceAs (Decidable (∀ w ∈ accepted tenant device s i, Orderly s.log w))
  | .begin _ _ | .fail _ _ => .isTrue trivial

end

/-! What each method knows when it makes a call, however long ago it has read. -/
section Methods

def versions (log : List Write) : Set ProtocolSession := { v | ∃ w ∈ log, w.after = some v }

variable (tenant : TenantId) (device : DeviceId)

structure IsFor (session : ProtocolSession) : Prop where
  tenantId : session.tenantId = tenant
  protocol : session.protocol = .gb28181
  deviceId : session.deviceId = device

/-- The session goes back to a version that the caller's epoch is not older than. -/
structure Updates (job : Job) (old session : ProtocolSession) : Prop where
  follows : old.Follows session
  current : ∀ e ∈ job.epoch, old.ownerEpoch ≤ e
  owner : old.SameOwner session ∨ session.ownerEpoch ∈ job.epoch ∧
    ((∃ ctx ∈ job.registers, session.ownerNodeId = some ctx.ownerNodeId) ∨ old.ownerEpoch < session.ownerEpoch)

def Allowed (job : Job) (known : Set ProtocolSession) : Call → Prop
  | .save session => IsFor tenant device session ∧
      (session.revision = 0 ∧ session.ownerEpoch ∈ job.epoch ∨ ∃ old ∈ known, Updates job old session)
  | .delete _ id expectedRevision =>
    ∃ old ∈ known, old.protocolSessionId = id ∧ old.revision = expectedRevision ∧ ∃ e ∈ job.epoch, old.ownerEpoch ≤ e
  | _ => True

def Told (known : Set ProtocolSession) : (c : Call) → Reply c → Prop
  | .getByDevice .., .ok (some session) => IsFor tenant device session ∧ session ∈ known
  | .save session, .ok _ => session ∈ known
  | .listExpired .., .ok page => ∀ session ∈ page.items, IsFor tenant device session ∧ session ∈ known
  | _, _ => True

variable {tenant device}

theorem IsFor.follows (own : IsFor tenant device session) (follows : session.Follows next) :
    IsFor tenant device next :=
  ⟨follows.tenantId.trans own.tenantId,follows.protocol.trans own.protocol,follows.deviceId.trans own.deviceId⟩

variable (tenant device job) in
abbrev Abides (p : Prog Call Reply α) (known : Set ProtocolSession) : Prop :=
  p.Holds (Allowed tenant device job) (Told tenant device) known

theorem abides_ask (allowed : ∀ more, known ⊆ more → Allowed tenant device job more c)
    (rest : ∀ more a, known ⊆ more → Told tenant device more c (.ok a) → Abides tenant device job (next a) more) :
    Abides tenant device job (Link.ask c next) known := by
  refine ⟨allowed,fun more reply sub told => ?_⟩
  cases reply with
  | ok a => exact rest more a sub told
  | error e => trivial

theorem abides_tryWith {next : β → Link α}
    (rest : ∀ b, x = .ok b → Abides tenant device job (next b) known) :
    Abides tenant device job (Link.tryWith x next) known := by
  cases x with
  | ok b => exact rest b rfl
  | error e => trivial

theorem abides_ensureOwnerCurrent
    (rest : session.ownerEpoch ≤ got → Abides tenant device job next known) :
    Abides tenant device job (ensureOwnerCurrent session got next) known := by
  unfold ensureOwnerCurrent
  split
  · trivial
  · exact rest (Nat.not_lt.mp ‹_›)

theorem abides_save (own : IsFor tenant device old) (member : old ∈ known)
    (updates : Updates job old session)
    (rest : ∀ more, session ∈ more → Abides tenant device job (next ()) more) :
    Abides tenant device job (Link.ask (.save session) next) known :=
  abides_ask (fun _ sub => ⟨own.follows updates.follows,.inr ⟨old,sub member,updates⟩⟩)
    fun more _ _ told => rest more told

theorem abides_getByDevice {next : Option ProtocolSession → Link α} (absent : ∀ more, Abides tenant device job (next none) more)
    (found : ∀ more session, IsFor tenant device session → session ∈ more →
      Abides tenant device job (next (some session)) more) :
    Abides tenant device job (Link.ask (.getByDevice t d) next) known := by
  refine abides_ask (fun _ _ => trivial) fun more a _ told => ?_
  cases a with
  | none => exact absent more
  | some session => exact found more session told.1 told.2

theorem abides_refresh (own : IsFor tenant device session)
    (member : session ∈ known) (current : ∀ e ∈ job.epoch, session.ownerEpoch ≤ e) :
    Abides tenant device job (refresh clock params session) known := by
  refine abides_tryWith fun next refreshed => ?_
  obtain ⟨follows,same⟩ := ProtocolSession.refreshRegistration_follows refreshed
  exact abides_save own member ⟨follows,current,.inl same⟩ fun _ _ => trivial

theorem abides_register {id : ProtocolSessionId} (own : ctx.tenantId = tenant ∧ ctx.deviceId = device) :
    Abides tenant device (.register clock id ctx params) (register clock id ctx params) known := by
  have carried : ∀ e ∈ (Job.register clock id ctx params).epoch,e = ctx.ownerEpoch := by simp [Job.epoch]
  refine abides_getByDevice (fun more => ?_) fun more session own member => ?_
  · refine abides_tryWith fun session created => ?_
    obtain ⟨-,tenantId,deviceId,protocol,-,epoch,revision⟩ := ProtocolSession.new_ok created
    refine abides_ask (fun _ _ => ⟨⟨tenantId.trans own.1,protocol,deviceId.trans own.2⟩,.inl ⟨revision,?_⟩⟩)
      fun _ _ _ _ => trivial
    rw [epoch]
    rfl
  refine abides_ensureOwnerCurrent fun current => ?_
  split
  · have follows := session.assignOwner_follows clock ctx.ownerNodeId ctx.ownerEpoch
    refine abides_save own member ⟨follows,fun e mine => (carried e mine).symm ▸ current,
      .inr ⟨rfl,.inl ⟨ctx,rfl,rfl⟩⟩⟩ fun more member => ?_
    exact abides_refresh (own.follows follows) member fun e mine => (carried e mine).ge
  · exact abides_refresh own member fun e mine => (carried e mine).symm ▸ current

theorem abides_unregister : Abides tenant device (.unregister ctx) (unregister ctx) known := by
  refine abides_getByDevice (fun _ => trivial) fun more session own member => ?_
  refine abides_ensureOwnerCurrent fun current => ?_
  exact abides_ask (fun _ sub => ⟨session,sub member,rfl,rfl,ctx.ownerEpoch,rfl,current⟩) fun _ _ _ _ => trivial

theorem abides_keepalive : Abides tenant device (.keepalive clock ctx) (keepalive clock ctx) known := by
  refine abides_getByDevice (fun _ => trivial) fun more session own member => ?_
  refine abides_ensureOwnerCurrent fun current => ?_
  split
  · trivial
  obtain ⟨follows,same⟩ := session.recordKeepalive_follows
  refine abides_save own member ⟨follows,?_,.inl same⟩ fun _ _ => trivial
  intro e mine
  cases mine
  exact current

theorem abides_acquireOwner :
    Abides tenant device (.acquireOwner clock t d nodeId newEpoch) (acquireOwner clock t d nodeId newEpoch) known := by
  refine abides_getByDevice (fun _ => trivial) fun more session own member => ?_
  dsimp only
  split
  · trivial
  rename_i stale
  have later : session.ownerEpoch < newEpoch := Nat.not_le.mp stale
  refine abides_save own member ⟨session.assignOwner_follows clock nodeId newEpoch,?_,.inr ⟨rfl,.inr later⟩⟩
    fun _ _ => trivial
  intro e mine
  cases mine
  exact later.le

theorem abides_collectExpired
    (rest : ∀ more expired, (∀ session ∈ expired, IsFor tenant device session ∧ session ∈ more) →
      Abides tenant device job (next expired) more) (all : ∀ session ∈ expired, IsFor tenant device session ∧ session ∈ known) :
    Abides tenant device job (collectExpired now pageSize maxSessions next pages cursor expired) known := by
  induction pages generalizing cursor expired known with
  | zero => exact rest known expired all
  | succ pages ih =>
    unfold collectExpired
    split
    · exact rest known expired all
    refine abides_ask (fun _ _ => trivial) fun more page sub told => ?_
    have found : ∀ session ∈ (expired ++ page.items.filter fun session => session.presence ≠ .offline).take maxSessions,
        IsFor tenant device session ∧ session ∈ more := by
      intro session member
      rcases List.mem_append.mp (List.mem_of_mem_take member) with member | member
      · exact ⟨(all session member).1,sub (all session member).2⟩
      · exact told session (List.mem_filter.mp member).1
    split
    · exact ih found
    · exact rest more _ found

theorem abides_markExpired (quiet : job.epoch = none)
    (all : ∀ session ∈ expired, IsFor tenant device session ∧ session ∈ known) :
    Abides tenant device job (markExpired clock expired reaped) known := by
  induction expired generalizing reaped known with
  | nil => trivial
  | cons session expired ih =>
    obtain ⟨⟨own,member⟩,all⟩ := List.forall_mem_cons.mp all
    refine abides_tryWith fun marked offline => ?_
    obtain ⟨follows,same⟩ := ProtocolSession.markOffline_follows offline
    refine ⟨fun more sub => ⟨own.follows follows,.inr ⟨session,sub member,follows,by simp [quiet],.inl same⟩⟩,
      fun more reply sub told => ?_⟩
    have all : ∀ session ∈ expired, IsFor tenant device session ∧ session ∈ more :=
      fun session member => ⟨(all session member).1,sub (all session member).2⟩
    dsimp only
    split
    · exact ih all
    · exact ih all
    · trivial

theorem Job.program_abides (job : Job) (own : job.For tenant device) :
    Abides tenant device job job.program known := by
  cases job with
  | register clock id ctx params => exact (abides_register own).map _
  | unregister ctx => exact abides_unregister.map _
  | keepalive clock ctx => exact abides_keepalive.map _
  | acquireOwner clock t d nodeId newEpoch => exact abides_acquireOwner.map _
  | reapExpired clock now pageSize maxSessions pages =>
    exact (abides_collectExpired (fun _ _ all => abides_markExpired rfl all) (List.forall_mem_nil _)).map _

end Methods

section Runs

/-- What an accepted write does to the device's session. -/
inductive Moves (log : List Write) (w : Write) : Prop where
  | updated (before : w.before = some old) (after : w.after = some new) (follows : old.Follows new)
      (kept : old.ownerEpoch ≤ new.ownerEpoch) (bounded : new.ownerEpoch ≤ w.carried)
      (owner : old.ownerNodeId ≠ new.ownerNodeId → old.ownerEpoch < new.ownerEpoch)
  | created (before : w.before = none) (after : w.after = some new) (carried : new.ownerEpoch = w.carried)
      (fresh : ∀ v ∈ versions log, v.protocolSessionId ≠ new.protocolSessionId)
  | deleted (before : w.before = some old) (after : w.after = none) (bounded : old.ownerEpoch ≤ w.carried)

theorem mem_versions_append : v ∈ versions (log ++ [w]) ↔ v ∈ versions log ∨ w.after = some v := by
  simp [versions]

variable (tenant : TenantId) (device : DeviceId)

/-- What orderly writes maintain. A revision of a session is stored once; the row is the latest
revision and has the largest epoch that was stored. -/
structure Sound (s : State) : Prop where
  pool : ∀ i, ∀ p ∈ s.pool i, Abides tenant device p.1 p.2 (versions s.log)
  rows : ∀ row ∈ s.store.table.rows, IsFor tenant device row ∧ row ∈ versions s.log
  once : ∀ a ∈ versions s.log, ∀ b ∈ versions s.log,
    a.protocolSessionId = b.protocolSessionId → a.revision = b.revision → a = b
  latest : ∀ row ∈ s.store.table.rows, ∀ v ∈ versions s.log,
    v.protocolSessionId = row.protocolSessionId → v.revision ≤ row.revision
  largest : ∀ row ∈ s.store.table.rows, ∀ v ∈ versions s.log, v.ownerEpoch ≤ row.ownerEpoch
  bounded : ∀ v ∈ versions s.log, ∃ w ∈ s.log, v.ownerEpoch ≤ w.carried
  fenced : Fenced s.log

variable {tenant device} {store : ProtocolSessions}

theorem IsFor.clash (left : IsFor tenant device a) (right : IsFor tenant device b) : Clashes a b :=
  ⟨left.tenantId.trans right.tenantId.symm,left.protocol.trans right.protocol.symm,
    .inl (left.deviceId.trans right.deviceId.symm)⟩

theorem stored_eq_some (only : ∀ row ∈ store.table.rows, IsFor tenant device row) :
    stored tenant device store = some row ↔ row ∈ store.table.rows := by
  refine ProtocolSessions.getByDevice_eq_some.trans ⟨fun found => found.1,fun member => ⟨member,?_⟩⟩
  exact ⟨(only row member).tenantId,(only row member).protocol,(only row member).deviceId⟩

theorem mem_put_iff (only : ∀ row ∈ store.table.rows, IsFor tenant device row) (own : IsFor tenant device session)
    (free : store.Free session) (row : ProtocolSession) : row ∈ (store.put session free).table.rows ↔ row = session := by
  constructor
  · intro member
    rcases store.table.mem_put.mp member with same | ⟨member,apart⟩
    · exact same
    · exact absurd (free row member ((only row member).clash own)) apart
  · rintro rfl
    exact store.table.mem_put.mpr (.inl rfl)

/-- An accepted save is the next revision of the stored session, or there is none. -/
theorem Sound.save_moves (sound : Sound tenant device s) (saved : s.store.save session = .ok store')
    (allowed : Allowed tenant device job (versions s.log) (.save session))
    (orderly : Orderly s.log ⟨job,.save session,stored tenant device s.store,some session⟩) :
    Moves s.log ⟨job,.save session,stored tenant device s.store,some session⟩ := by
  have only := fun row member => (sound.rows row member).1
  obtain ⟨next,free,-⟩ := ProtocolSessions.save_ok saved
  obtain ⟨own,allowed⟩ := allowed
  cases found : stored tenant device s.store with
  | none =>
    rw [found] at orderly
    have fresh : ∀ v ∈ versions s.log, v.protocolSessionId ≠ session.protocolSessionId := by
      rintro v ⟨w,member,after⟩
      exact orderly.fresh rfl session rfl w member v after
    rcases allowed with ⟨-,epoch⟩ | ⟨old,known,updates⟩
    · exact .created rfl rfl (by simp [Write.carried,Option.mem_def.mp epoch]) fresh
    · exact absurd updates.follows.protocolSessionId.symm (fresh old known)
  | some row =>
    rw [found] at orderly
    have member := (stored_eq_some only).mp found
    have key := free row member ((only row member).clash own)
    have next := next row (s.store.table.find_eq_some.mpr ⟨member,key⟩)
    rcases allowed with ⟨zero,-⟩ | ⟨old,known,updates⟩
    · omega
    -- The version that the caller has read is the row.
    obtain rfl : old = row := sound.once old known row (sound.rows row member).2
      (updates.follows.protocolSessionId.symm.trans key.symm) (by have := updates.follows.revision; omega)
    rcases updates.owner with same | ⟨mine,takes⟩
    · refine .updated rfl rfl updates.follows same.ownerEpoch.ge ?_ fun moved => absurd same.ownerNodeId.symm moved
      cases epoch : job.epoch with
      | none => simp [Write.carried,epoch,SessionFencing.saved]
      | some e => simpa [Write.carried,epoch,same.ownerEpoch] using updates.current e epoch
    have carried : Write.carried ⟨job,.save session,some old,some session⟩ = session.ownerEpoch := by
      simp [Write.carried,Option.mem_def.mp mine]
    have kept := updates.current _ mine
    refine .updated rfl rfl updates.follows kept carried.ge fun moved => ?_
    rcases takes with ⟨ctx,registers,owner⟩ | later
    · refine lt_of_le_of_ne kept fun same => moved ?_
      rw [owner]
      apply orderly.owner ctx registers old rfl
      have epoch := (Job.epoch_of_registers registers).symm.trans mine
      exact (Option.some.inj epoch).trans same.symm
    · exact later

theorem Sound.delete_moves {id : ProtocolSessionId} (sound : Sound tenant device s)
    (deleted : s.store.delete t id expectedRevision = .ok store')
    (allowed : Allowed tenant device job (versions s.log) (.delete t id expectedRevision)) :
    store'.table.rows = [] ∧ Moves s.log ⟨job,.delete t id expectedRevision,stored tenant device s.store,none⟩ := by
  have only := fun row member => (sound.rows row member).1
  obtain ⟨row,member,key,revision,others⟩ := ProtocolSessions.delete_ok deleted
  obtain ⟨old,known,key',revision',e,mine,current⟩ := allowed
  obtain rfl : old = row := sound.once old known row (sound.rows row member).2 (key'.trans key.symm)
    (revision'.trans revision.symm)
  refine ⟨List.eq_nil_iff_forall_not_mem.mpr fun other present => ?_,.deleted ((stored_eq_some only).mpr member) rfl ?_⟩
  · obtain ⟨present,apart⟩ := others other present
    have same := s.store.unique other present old member ((only other present).clash (only old member))
    exact apart (same ▸ key)
  · simpa [Write.carried,Option.mem_def.mp mine] using current

section Write

variable (sound : Sound tenant device s) (moves : Moves s.log w) (here : w.before = stored tenant device s.store)
  (orderly : Orderly s.log w)

include moves orderly in
theorem Moves.carried_le : ∀ v ∈ s.log, v.carried ≤ w.carried := by
  by_cases behind : ∀ old ∈ w.before, ∃ v ∈ s.log, old.ownerEpoch < v.carried
  · exact orderly.epoch behind
  push Not at behind
  obtain ⟨old,before,ahead⟩ := behind
  have bound : old.ownerEpoch ≤ w.carried := by
    cases moves with
    | updated before' _ _ kept bounded _ =>
      cases before'.symm.trans before
      exact kept.trans bounded
    | created before' _ _ _ => cases before'.symm.trans before
    | deleted before' _ bounded =>
      cases before'.symm.trans before
      exact bounded
  exact fun v member => (ahead v member).trans bound

include sound moves here in
/-- A version with the same id is an earlier revision. -/
theorem Moves.ahead (after : w.after = some new) (known : v ∈ versions s.log)
    (same : v.protocolSessionId = new.protocolSessionId) : v.revision < new.revision := by
  have only := fun row member => (sound.rows row member).1
  cases moves with
  | updated before after' follows _ _ _ =>
    cases after'.symm.trans after
    have member := (stored_eq_some only).mp (here.symm.trans before)
    have := sound.latest _ member v known (same.trans follows.protocolSessionId)
    have := follows.revision
    omega
  | created _ after' _ fresh =>
    cases after'.symm.trans after
    exact absurd same (fresh v known)
  | deleted _ after' _ => cases after'.symm.trans after

include sound moves here orderly in
theorem Moves.newest (after : w.after = some new) (known : v ∈ versions s.log) : v.ownerEpoch ≤ new.ownerEpoch := by
  have only := fun row member => (sound.rows row member).1
  have later := moves.carried_le orderly
  cases moves with
  | updated before after' _ kept _ _ =>
    cases after'.symm.trans after
    exact (sound.largest _ ((stored_eq_some only).mp (here.symm.trans before)) v known).trans kept
  | created _ after' carried _ =>
    cases after'.symm.trans after
    obtain ⟨w',member,bound⟩ := sound.bounded v known
    exact (bound.trans (later w' member)).trans carried.ge
  | deleted _ after' _ => cases after'.symm.trans after

include moves in
theorem Moves.bounded (after : w.after = some new) : new.ownerEpoch ≤ w.carried := by
  cases moves with
  | updated _ after' _ _ bounded _ =>
    cases after'.symm.trans after
    exact bounded
  | created _ after' carried _ =>
    cases after'.symm.trans after
    exact carried.le
  | deleted _ after' _ => cases after'.symm.trans after

include moves in
theorem Moves.owner (before : w.before = some old) (after : w.after = some new)
    (moved : old.ownerNodeId ≠ new.ownerNodeId) : old.ownerEpoch < new.ownerEpoch := by
  cases moves with
  | updated before' after' _ _ _ owner =>
    cases before'.symm.trans before
    cases after'.symm.trans after
    exact owner moved
  | created before' _ _ _ => cases before'.symm.trans before
  | deleted _ after' _ => cases after'.symm.trans after

include sound moves here orderly in
theorem Sound.fenced_write : Fenced (s.log ++ [w]) := by
  refine ⟨?_,?_,?_⟩
  · intro v member old before new after moved
    rcases List.mem_append.mp member with member | member
    · exact sound.fenced.owner v member old before new after moved
    · cases List.mem_singleton.mp member
      exact moves.owner before after moved
  · refine List.pairwise_append.mpr ⟨sound.fenced.carried,List.pairwise_singleton _ _,fun v member w' last => ?_⟩
    cases List.mem_singleton.mp last
    exact moves.carried_le orderly v member
  · refine List.pairwise_append.mpr ⟨sound.fenced.kept,List.pairwise_singleton _ _,fun v member w' last old after new after' =>
      ?_⟩
    cases List.mem_singleton.mp last
    exact moves.newest sound here orderly after' ⟨v,member,after⟩

include sound moves here orderly in
theorem Sound.write {pool : Nat → Option (Job × Prog Call Reply Unit)}
    (rows : ∀ row ∈ store.table.rows, IsFor tenant device row ∧ w.after = some row)
    (pool' : ∀ i, ∀ p ∈ pool i, Abides tenant device p.1 p.2 (versions (s.log ++ [w]))) :
    Sound tenant device ⟨store,pool,s.log ++ [w]⟩ where
  pool := pool'
  rows row member := ⟨(rows row member).1,mem_versions_append.mpr (.inr (rows row member).2)⟩
  once := by
    intro a left b right key revision
    rcases mem_versions_append.mp left with left | left <;> rcases mem_versions_append.mp right with right | right
    · exact sound.once a left b right key revision
    · exact absurd revision (moves.ahead sound here right left key).ne
    · exact absurd revision (moves.ahead sound here left right key.symm).ne'
    · exact Option.some.inj (left.symm.trans right)
  latest := by
    intro row member v known key
    rcases mem_versions_append.mp known with known | last
    · exact (moves.ahead sound here (rows row member).2 known key).le
    · rw [Option.some.inj (last.symm.trans (rows row member).2)]
  largest := by
    intro row member v known
    rcases mem_versions_append.mp known with known | last
    · exact moves.newest sound here orderly (rows row member).2 known
    · rw [Option.some.inj (last.symm.trans (rows row member).2)]
  bounded := by
    intro v known
    rcases mem_versions_append.mp known with known | last
    · obtain ⟨w',member,bound⟩ := sound.bounded v known
      exact ⟨w',List.mem_append_left _ member,bound⟩
    · exact ⟨w,List.mem_append_right _ (List.mem_singleton.mpr rfl),moves.bounded last⟩
  fenced := sound.fenced_write moves here orderly

end Write

theorem Sound.quiet (sound : Sound tenant device s) (turn : s.pool i = some (job,.call c next))
    (told : Told tenant device (versions s.log) c reply) : Sound tenant device (resume s i job (next reply)) :=
  { sound with pool := Prog.Holds.update sound.pool le_rfl ((sound.pool i _ turn).2 _ reply le_rfl told) i }

theorem step_answer (turn : s.pool i = some (job,.call c next)) : step tenant device s (.answer i) = resume { s with
      store := (SessionLink.answer c s.store).2
      log := s.log ++ (accepted tenant device s i).toList } i job (next (SessionLink.answer c s.store).1) := by
  simp [step,turn]

theorem accepted_eq (turn : s.pool i = some (job,.call c next)) : accepted tenant device s i =
    if accepts s.store c then
      some ⟨job,c,stored tenant device s.store,stored tenant device (SessionLink.answer c s.store).2⟩
    else none := by
  simp [accepted,turn]

section

variable (sound : Sound tenant device s) (turn : s.pool i = some (job,.call c next))

include sound turn

theorem Sound.step_refused (refused : accepts s.store c = false) (same : (SessionLink.answer c s.store).2 = s.store)
    (told : Told tenant device (versions s.log) c (SessionLink.answer c s.store).1) :
    Sound tenant device (step tenant device s (.answer i)) := by
  rw [step_answer turn,accepted_eq turn,refused,same]
  simpa using sound.quiet turn told

theorem Sound.step_accepted (accepted' : accepted tenant device s i = some w) (moves : Moves s.log w)
    (here : w.before = stored tenant device s.store) (orderly : Orderly s.log w)
    (rows : ∀ row ∈ (SessionLink.answer c s.store).2.table.rows, IsFor tenant device row ∧ w.after = some row)
    (told : Told tenant device (versions (s.log ++ [w])) c (SessionLink.answer c s.store).1) :
    Sound tenant device (step tenant device s (.answer i)) := by
  rw [step_answer turn,accepted',Option.toList_some]
  refine sound.write moves here orderly rows ?_
  have more : versions s.log ≤ versions (s.log ++ [w]) := fun v known => mem_versions_append.mpr (.inl known)
  exact Prog.Holds.update sound.pool more ((sound.pool i _ turn).2 _ _ more told) i

theorem Sound.step_answer (meets : Meets tenant device s (.answer i)) :
    Sound tenant device (step tenant device s (.answer i)) := by
  have only := fun row member => (sound.rows row member).1
  have allowed := (sound.pool i _ turn).1 _ le_rfl
  cases c with
  | getByDevice t d =>
    refine sound.step_refused turn rfl rfl ?_
    cases found : s.store.getByDevice t .gb28181 d with
    | none => simp only [answer,found]; trivial
    | some session =>
      simp only [answer,found]
      exact sound.rows session (ProtocolSessions.getByDevice_eq_some.mp found).1
  | listExpired now cursor pageSize =>
    refine sound.step_refused turn rfl rfl fun session member => sound.rows session ?_
    exact (List.mem_filter.mp (List.mem_mergeSort.mp (List.mem_of_mem_take member))).1
  | save session =>
    cases saved : s.store.save session with
    | error e =>
      refine sound.step_refused turn (by rw [accepts,saved]; rfl) (by rw [answer,saved]) ?_
      rw [answer,saved]
      trivial
    | ok store' =>
      have answered : answer (.save session) s.store = (.ok (),store') := by rw [answer,saved]
      obtain ⟨free,rfl⟩ := (ProtocolSessions.save_ok saved).2
      have rows := mem_put_iff only allowed.1 free
      have after : stored tenant device (s.store.put session free) = some session := by
        refine (stored_eq_some fun row member => ?_).mpr ((rows session).mpr rfl)
        exact ((rows row).mp member).symm ▸ allowed.1
      have taken : accepted tenant device s i =
          some ⟨job,.save session,stored tenant device s.store,some session⟩ := by
        rw [accepted_eq turn,if_pos (by rw [accepts,saved]; rfl),answered,after]
      have orderly := meets _ taken
      refine sound.step_accepted turn taken (sound.save_moves saved allowed orderly) rfl orderly ?_ ?_
      · rw [answered]
        intro row member
        obtain rfl := (rows row).mp member
        exact ⟨allowed.1,rfl⟩
      · rw [answered]
        exact mem_versions_append.mpr (.inr rfl)
  | delete t id expectedRevision =>
    cases deleted : s.store.delete t id expectedRevision with
    | error e =>
      refine sound.step_refused turn (by rw [accepts,deleted]; rfl) (by rw [answer,deleted]) ?_
      trivial
    | ok store' =>
      have answered : answer (.delete t id expectedRevision) s.store = (.ok (),store') := by rw [answer,deleted]
      obtain ⟨rows,moves⟩ := sound.delete_moves deleted allowed
      have after : stored tenant device store' = none := by
        rw [stored,ProtocolSessions.getByDevice,rows]
        rfl
      have taken : accepted tenant device s i =
          some ⟨job,.delete t id expectedRevision,stored tenant device s.store,none⟩ := by
        rw [accepted_eq turn,if_pos (by rw [accepts,deleted]; rfl),answered,after]
      refine sound.step_accepted turn taken moves rfl (meets _ taken) ?_ ?_
      · rw [answered,rows]
        exact List.forall_mem_nil _
      · rw [answered]
        trivial

end

/-- A step whose write is orderly keeps what orderly writes maintain. -/
theorem Sound.step (sound : Sound tenant device s) (concerns : Concerns tenant device action)
    (meets : Meets tenant device s action) : Sound tenant device (step tenant device s action) := by
  cases action with
  | begin i job =>
    simp only [SessionFencing.step]
    split
    · exact sound
    · exact { sound with pool := Prog.Holds.update sound.pool le_rfl (job.program_abides concerns) i }
  | answer i =>
    cases turn : s.pool i with
    | none => simpa [SessionFencing.step,turn] using sound
    | some p =>
      obtain ⟨job,rest⟩ := p
      cases rest with
      | ret result => simpa [SessionFencing.step,turn] using sound
      | call c next => exact sound.step_answer turn meets
  | fail i error =>
    cases turn : s.pool i with
    | none => simpa [SessionFencing.step,turn] using sound
    | some p =>
      obtain ⟨job,rest⟩ := p
      cases rest with
      | ret result => simpa [SessionFencing.step,turn] using sound
      | call c next =>
        simp only [SessionFencing.step,turn]
        refine sound.quiet turn ?_
        cases c <;> trivial

theorem initial_sound : Sound tenant device initial where
  pool i p member := by cases member
  rows row member := by cases member
  once a left := by simp [versions,initial] at left
  latest row member := by cases member
  largest row member := by cases member
  bounded v known := by simp [versions,initial] at known
  fenced := ⟨List.forall_mem_nil _,.nil,.nil⟩

end Runs

/-- Over every interleaving of methods for one device in which each accepted write is orderly,
ownership is fenced. -/
theorem session_ownership_fenced (tenant : TenantId) (device : DeviceId) (run : List Action)
    (concerns : ∀ action ∈ run, Concerns tenant device action)
    (orderly : Guarded (step tenant device) (Meets tenant device) initial run) :
    Fenced (execute (step tenant device) initial run).log := by
  have sound := guarded_invariant (fun s action sound met => sound.step met.1 met.2) initial_sound
      (orderly.and_actions run concerns)
  exact sound.fenced

namespace Sample

open SessionLink.Sample

def writes (run : List Action) : List Write := (execute (step 1 1) initial run).log

def handover : List Action := [.begin 0 (.register 0 1 (context 1 1) (params "boot-1" 1)),.answer 0,.answer 0,
    .begin 1 (.keepalive 1 (context 1 1)),.answer 1,
    .begin 2 (.acquireOwner 1 1 1 2 2),.answer 2,.answer 2,.answer 1,
    .begin 3 (.unregister (context 2 2)),.answer 3,.answer 3,
    .begin 4 (.register 2 2 (context 2 2) (params "boot-1" 2)),.answer 4,.answer 4]

theorem handover_fenced : (writes handover).map Write.carried = [1,2,2,2] ∧ Fenced (writes handover) :=
  ⟨by decide +kernel,session_ownership_fenced 1 1 handover (by decide +kernel) (by decide +kernel)⟩

/-- Node 2 registers the device with the epoch of node 1. -/
def sharedEpoch : List Action := [.begin 0 (.register 0 1 (context 1 1) (params "boot-1" 1)),.answer 0,.answer 0,
    .begin 1 (.register 1 2 (context 2 1) (params "boot-1" 2)),.answer 1,.answer 1,.answer 1]

/-- Node 1 unregisters the device at epoch 2, and node 2 registers it at epoch 1. -/
def forgottenEpoch : List Action := [.begin 0 (.register 0 1 (context 1 2) (params "boot-1" 1)),.answer 0,.answer 0,
    .begin 1 (.unregister (context 1 2)),.answer 1,.answer 1,
    .begin 2 (.register 1 2 (context 2 1) (params "boot-1" 2)),.answer 2,.answer 2]

theorem ownership_not_fenced : (∀ action ∈ sharedEpoch ++ forgottenEpoch, Concerns 1 1 action) ∧
    (∃ w ∈ writes sharedEpoch, ∃ old ∈ w.before, ∃ new ∈ w.after,
      old.ownerNodeId = some 1 ∧ new.ownerNodeId = some 2 ∧ old.ownerEpoch = 1 ∧ new.ownerEpoch = 1) ∧
    (writes forgottenEpoch).map Write.carried = [2,2,1] ∧
    ¬ Fenced (writes sharedEpoch) ∧ ¬ Fenced (writes forgottenEpoch) := by
  decide +kernel

end Sample

end CheetahSignaling.SessionFencing
