import CheetahSignaling.GuardedRun
import CheetahSignaling.OwnerRepository

/-! Owner epochs as fencing tokens, over arbitrary interleavings of the SQL statements
of any number of callers. An `acquire` is in flight between its upsert and its select,
and other callers' statements may fall in between. The log of grants is in the order in
which the calls return. `migrate_device` contributes `clear` and `set` statements. -/
namespace CheetahSignaling.OwnerFencing

open OwnerRepository GuardedRun
open List hiding after set

structure Acquire where
  call : Nat
  tenantId : TenantId
  deviceId : DeviceId
  nodeId : NodeId
  deriving DecidableEq

structure Grant where
  deviceId : DeviceId
  owner : OwnerInfo
  deriving DecidableEq

structure State where
  db : Database
  inFlight : List Acquire
  grants : List Grant

inductive Statement where
  | acquireUpsert (acquire : Acquire) (now leaseUntil : UtcTimestamp)
  | acquireSelect (call : Nat)
  /-- The caller died, or its select failed: the call returns no grant. -/
  | abandon (call : Nat)
  | renewUpdate (tenant : TenantId) (device : DeviceId) (node : NodeId) (now leaseUntil : UtcTimestamp)
  | release (tenant : TenantId) (device : DeviceId) (node : NodeId) (epoch : OwnerEpoch)
  | clear (tenant : TenantId) (device : DeviceId)
  | set (tenant : TenantId) (device : DeviceId) (owner : OwnerInfo)
  /-- Registration, heartbeat, draining or removal of a cluster node. -/
  | cluster (node : NodeId) (row : Option ClusterNode)

def initial (store : SqlStore) : State := ⟨empty store,[],[]⟩

def answer (s : State) (acquire : Acquire) : List Grant :=
  match acquireSelect s.db acquire.tenantId acquire.deviceId acquire.nodeId with
  | .ok owner => [⟨acquire.deviceId,owner⟩]
  | .error _ => []

def step (s : State) : Statement → State
  | .acquireUpsert acquire now leaseUntil =>
    match acquireUpsert s.db acquire.tenantId acquire.deviceId acquire.nodeId now leaseUntil with
    | .ok db => { s with db, inFlight := s.inFlight ++ [acquire] }
    | .error _ => s
  | .acquireSelect call =>
    match s.inFlight.find? (fun a => a.call = call) with
    | some acquire => { s with inFlight := s.inFlight.erase acquire, grants := s.grants ++ answer s acquire }
    | none => s
  | .abandon call => { s with inFlight := s.inFlight.filter (fun a => a.call ≠ call) }
  | .renewUpdate tenant device node now leaseUntil =>
    { s with db := (renewUpdate s.db tenant device node now leaseUntil).1 }
  | .release tenant device node epoch => { s with db := release s.db tenant device node epoch }
  | .clear tenant device => { s with db := clear s.db tenant device }
  | .set tenant device owner => { s with db := set s.db tenant device owner }
  | .cluster node row => { s with db := { s.db with nodes := Function.update s.db.nodes node row } }

/-- Each grant of a device carries an epoch above every epoch granted before it. -/
def FencingTokens (grants : List Grant) : Prop := grants.Pairwise fun earlier later =>
    earlier.deviceId = later.deviceId → earlier.owner.ownerEpoch < later.owner.ownerEpoch

instance (grants : List Grant) : Decidable (FencingTokens grants) :=
  inferInstanceAs (Decidable (grants.Pairwise fun earlier later =>
    earlier.deviceId = later.deviceId → earlier.owner.ownerEpoch < later.owner.ownerEpoch))

def Idle (s : State) (device : DeviceId) (node : NodeId) : Prop :=
  ∀ a ∈ s.inFlight, a.deviceId = device → a.nodeId ≠ node

instance (s : State) (device : DeviceId) (node : NodeId) : Decidable (Idle s device node) :=
  inferInstanceAs (Decidable (∀ a ∈ s.inFlight, a.deviceId = device → a.nodeId ≠ node))

/-- No epoch is given twice: no row is deleted or set back, and no two acquires of a node overlap. -/
def KeepsEpoch (s : State) : Statement → Prop
  | .acquireUpsert acquire now _ =>
    (s.db.owners acquire.deviceId).all (acquireWhere s.db acquire.nodeId now) = true →
      Idle s acquire.deviceId acquire.nodeId
  | .release tenant device node epoch =>
    (s.db.owners device).any (releaseWhere tenant node epoch) = false
  | .clear tenant device => (s.db.owners device).any (clearWhere tenant) = false
  | .set _ device owner =>
    owner.ownerEpoch < 2 ^ 63 ∧
    (∀ row ∈ s.db.owners device, row.ownerEpoch ≤ owner.ownerEpoch) ∧
    Idle s device owner.ownerNodeId
  | _ => True

instance (s : State) : (statement : Statement) → Decidable (KeepsEpoch s statement)
  | .acquireUpsert acquire now _ => inferInstanceAs
      (Decidable ((s.db.owners acquire.deviceId).all (acquireWhere s.db acquire.nodeId now) = true →
        Idle s acquire.deviceId acquire.nodeId))
  | .release tenant device node epoch => inferInstanceAs
      (Decidable ((s.db.owners device).any (releaseWhere tenant node epoch) = false))
  | .clear tenant device => inferInstanceAs
      (Decidable ((s.db.owners device).any (clearWhere tenant) = false))
  | .set _ device owner => inferInstanceAs
      (Decidable (owner.ownerEpoch < 2 ^ 63 ∧ (∀ row ∈ s.db.owners device, row.ownerEpoch ≤ owner.ownerEpoch) ∧
        Idle s device owner.ownerNodeId))
  | .acquireSelect _ | .abandon _ | .renewUpdate .. | .cluster .. => .isTrue trivial

/-- What the statements maintain while epochs are kept: every grant is bounded by the
stored epoch, and an acquire in flight whose node is the stored owner is the only such
acquire and has yet to return that epoch. -/
structure Fence (s : State) : Prop where
  range : ∀ device row, s.db.owners device = some row → 0 ≤ row.ownerEpoch ∧ row.ownerEpoch ≤ 2 ^ 63
  granted : ∀ g ∈ s.grants, (g.owner.ownerEpoch : Int) < 2 ^ 63 ∧
    ∃ row, s.db.owners g.deviceId = some row ∧ (g.owner.ownerEpoch : Int) ≤ row.ownerEpoch
  fresh : ∀ a ∈ s.inFlight, ∀ row, s.db.owners a.deviceId = some row → row.ownerNodeId = a.nodeId →
    ∀ g ∈ s.grants, g.deviceId = a.deviceId → (g.owner.ownerEpoch : Int) < row.ownerEpoch
  alone : s.inFlight.Pairwise fun a b => a.deviceId = b.deviceId → a.nodeId = b.nodeId →
    ∀ row, s.db.owners a.deviceId = some row → row.ownerNodeId ≠ a.nodeId
  tokens : FencingTokens s.grants

theorem initial_fence : Fence (initial store) where
  range := by simp [initial,empty]
  granted := by simp [initial]
  fresh := by simp [initial]
  alone := .nil
  tokens := .nil

section

variable (valid : Fence s)
include valid

theorem Fence.drop (fewer : inFlight.Sublist s.inFlight) : Fence { s with inFlight } where
  range := valid.range
  granted := valid.granted
  fresh a member := valid.fresh a (fewer.subset member)
  alone := valid.alone.sublist fewer
  tokens := valid.tokens

theorem Fence.same_epochs
    (same : ∀ device, (db.owners device).map (fun row => (row.ownerNodeId,row.ownerEpoch)) =
      (s.db.owners device).map (fun row => (row.ownerNodeId,row.ownerEpoch))) :
    Fence { s with db } := by
  have back (device : DeviceId) (row : OwnerRow) (stored : db.owners device = some row) :
      ∃ old, s.db.owners device = some old ∧ old.ownerNodeId = row.ownerNodeId ∧ old.ownerEpoch = row.ownerEpoch := by
    have h := same device
    rw [stored] at h
    obtain ⟨old,found,eq⟩ := Option.map_eq_some_iff.mp h.symm
    exact ⟨old,found,by simpa using eq⟩
  refine ⟨?_,?_,?_,valid.alone.imp ?_,valid.tokens⟩
  · intro device row stored
    obtain ⟨old,found,-,epoch⟩ := back device row stored
    exact epoch ▸ valid.range device old found
  · intro g member
    obtain ⟨small,old,found,bounded⟩ := valid.granted g member
    have h := same g.deviceId
    rw [found] at h
    obtain ⟨row,stored,eq⟩ := Option.map_eq_some_iff.mp h
    simp only [Prod.mk.injEq] at eq
    exact ⟨small,row,stored,eq.2 ▸ bounded⟩
  · intro a member row stored owns
    obtain ⟨old,found,node,epoch⟩ := back a.deviceId row stored
    exact epoch ▸ valid.fresh a member old found (node.trans owns)
  · intro a b apart device node row stored
    obtain ⟨old,found,owner,-⟩ := back a.deviceId row stored
    exact owner ▸ apart device node old found

theorem Fence.write (row : OwnerRow) (inRange : 0 ≤ row.ownerEpoch ∧ row.ownerEpoch ≤ 2 ^ 63)
    (raises : ∀ old, s.db.owners device = some old → old.ownerEpoch ≤ row.ownerEpoch) (idle : Idle s device row.ownerNodeId) :
    Fence { s with db := s.db.put device (some row) } where
  range := by
    intro other r stored
    by_cases same : other = device
    · subst other
      simp only [put_same,Option.some.injEq] at stored
      exact stored ▸ inRange
    · exact valid.range other r (by simpa [same] using stored)
  granted := by
    intro g member
    obtain ⟨small,old,found,bounded⟩ := valid.granted g member
    by_cases same : g.deviceId = device
    · rw [same] at found
      exact ⟨small,row,by simp [same],Int.le_trans bounded (raises old found)⟩
    · exact ⟨small,old,by simpa [same] using found,bounded⟩
  fresh := by
    intro a member r stored owns
    by_cases same : a.deviceId = device
    · simp only [same,put_same,Option.some.injEq] at stored
      exact absurd owns.symm (stored ▸ idle a member same)
    · exact valid.fresh a member r (by simpa [same] using stored) owns
  alone := by
    refine valid.alone.imp_of_mem ?_
    intro a b member _ apart device' node r stored
    by_cases same : a.deviceId = device
    · simp only [same,put_same,Option.some.injEq] at stored
      exact fun owns => idle a member same (stored ▸ owns.symm)
    · exact apart device' node r (by simpa [same] using stored)
  tokens := valid.tokens

theorem Fence.enter (acquire : Acquire)
    (fresh : ∀ row, s.db.owners acquire.deviceId = some row → row.ownerNodeId = acquire.nodeId →
      Idle s acquire.deviceId acquire.nodeId ∧
      ∀ g ∈ s.grants, g.deviceId = acquire.deviceId → (g.owner.ownerEpoch : Int) < row.ownerEpoch) :
    Fence { s with inFlight := s.inFlight ++ [acquire] } where
  range := valid.range
  granted := valid.granted
  fresh := by
    intro a member row stored owns
    rcases mem_append.mp member with member | member
    · exact valid.fresh a member row stored owns
    · obtain rfl := mem_singleton.mp member
      exact (fresh row stored owns).2
  alone := by
    rw [pairwise_append]
    refine ⟨valid.alone,pairwise_singleton _ _,?_⟩
    intro a member b single device node row stored owns
    obtain rfl := mem_singleton.mp single
    exact (fresh row (device ▸ stored) (owns.trans node)).1 a member device node
  tokens := valid.tokens

theorem Fence.upsert (acquire : Acquire) (keeps : KeepsEpoch s (.acquireUpsert acquire now leaseUntil))
    (h : acquireUpsert s.db acquire.tenantId acquire.deviceId acquire.nodeId now leaseUntil = .ok db) :
    Fence { s with db, inFlight := s.inFlight ++ [acquire] } := by
  rcases acquireUpsert_cases h with ⟨rfl,old,stored,-,other⟩ | ⟨epoch,rfl,written⟩
  · refine valid.enter acquire fun row found owns => ?_
    rw [stored,Option.some.injEq] at found
    exact absurd (found ▸ owns) other
  have raised : (0 ≤ epoch ∧ epoch ≤ 2 ^ 63) ∧
      ∀ old, s.db.owners acquire.deviceId = some old → old.ownerEpoch < epoch ∨ epoch = 2 ^ 63 := by
    rcases written with ⟨absent,rfl⟩ | ⟨old,stored,-,raised⟩
    · exact ⟨by omega,by simp [absent]⟩
    obtain ⟨inRange,above⟩ := SqlStore.increment_ok raised (valid.range acquire.deviceId old stored)
    refine ⟨inRange,fun row found => ?_⟩
    rw [stored,Option.some.injEq] at found
    exact found ▸ above
  have idle : Idle s acquire.deviceId acquire.nodeId := by
    apply keeps
    rcases written with ⟨absent,-⟩ | ⟨old,stored,takes,-⟩
    · simp [absent]
    · simp [stored,takes]
  have after := valid.write ⟨acquire.tenantId,acquire.nodeId,epoch,some (s.db.store.kept leaseUntil)⟩ raised.1
    (fun old stored => (raised.2 old stored).elim Int.le_of_lt fun last => last ▸ (valid.range _ old stored).2) idle
  refine after.enter acquire fun row found _ => ⟨idle,fun g logged target => ?_⟩
  obtain ⟨small,old,stored,bounded⟩ := valid.granted g logged
  simp only [put_same,Option.some.injEq] at found
  rw [← found]
  -- an epoch that has become a REAL is above every epoch that was ever returned
  have := raised.2 old (target ▸ stored)
  simp only
  omega

theorem Fence.select (acquire : Acquire) (member : acquire ∈ s.inFlight) :
    Fence { s with inFlight := s.inFlight.erase acquire, grants := s.grants ++ answer s acquire } := by
  have rest : Fence { s with inFlight := s.inFlight.erase acquire } := valid.drop erase_sublist
  unfold answer
  cases selected : acquireSelect s.db acquire.tenantId acquire.deviceId acquire.nodeId with
  | error e => simpa using rest
  | ok owner =>
    obtain ⟨row,stored,-,owns,readable,rfl⟩ := acquireSelect_ok selected
    have inRange := valid.range acquire.deviceId row stored
    have below : row.ownerEpoch < 2 ^ 63 := by simp only [i64Max] at readable; omega
    have epoch := asU64_nonneg inRange.1 below
    -- no other acquire of the stored owner is in flight, so none can return this epoch again
    have others : ∀ b ∈ s.inFlight.erase acquire, acquire.deviceId = b.deviceId →
        acquire.nodeId = b.nodeId → False := by
      have ordered := (perm_cons_erase member).pairwise_iff
        (R := fun a b : Acquire => a.deviceId = b.deviceId → a.nodeId = b.nodeId →
          ∀ row, s.db.owners a.deviceId = some row → row.ownerNodeId ≠ a.nodeId)
        (fun h device node r found eq =>
          h device.symm node.symm r (device ▸ found) (eq.trans node)) |>.mp valid.alone
      intro b inFlight device node
      exact (pairwise_cons.mp ordered).1 b inFlight device node row stored owns
    refine ⟨valid.range,?_,?_,rest.alone,?_⟩
    · intro g logged
      rcases mem_append.mp logged with logged | logged
      · exact valid.granted g logged
      · obtain rfl := mem_singleton.mp logged
        exact ⟨epoch ▸ below,row,stored,Int.le_of_eq epoch⟩
    · intro b inFlight r found ownsOther g logged target
      rcases mem_append.mp logged with logged | logged
      · exact rest.fresh b inFlight r found ownsOther g logged target
      obtain rfl := mem_singleton.mp logged
      have same : acquire.deviceId = b.deviceId := target
      rw [← same,stored,Option.some.injEq] at found
      exact absurd (owns.symm.trans (found ▸ ownsOther)) (others b inFlight same)
    unfold FencingTokens
    rw [pairwise_append]
    refine ⟨valid.tokens,pairwise_singleton _ _,?_⟩
    intro g logged new single target
    obtain rfl := mem_singleton.mp single
    have := valid.fresh acquire member row stored owns g logged target
    rw [← epoch] at this
    exact Int.ofNat_lt.mp this

end

/-- One statement that keeps the stored epochs preserves the fence. -/
theorem step_fence (s : State) (statement : Statement) (valid : Fence s)
    (keeps : KeepsEpoch s statement) : Fence (step s statement) := by
  cases statement with
  | acquireUpsert acquire now leaseUntil =>
    simp only [step]
    split
    · exact valid.upsert acquire keeps ‹_›
    · exact valid
  | acquireSelect call =>
    simp only [step]
    split
    · exact valid.select _ (mem_of_find?_eq_some ‹_›)
    · exact valid
  | abandon call => exact valid.drop filter_sublist
  | renewUpdate tenant device node now leaseUntil =>
    refine valid.same_epochs fun other => ?_
    have h := congrArg (Option.map Prod.snd)
      (renewUpdate_owner s.db tenant device node now leaseUntil other)
    simpa [Function.comp_def] using h
  | release tenant device node epoch =>
    rw [show step s (.release tenant device node epoch) = s by
      simp only [step,release,deleteWhere_unmatched keeps]]
    exact valid
  | clear tenant device =>
    rw [show step s (.clear tenant device) = s by
      simp only [step,clear,deleteWhere_unmatched keeps]]
    exact valid
  | set tenant device owner =>
    obtain ⟨small,raises,idle⟩ := keeps
    have epoch := asI64_small small
    refine valid.write _ ?_ ?_ idle
    · simp only [epoch]
      exact ⟨Int.natCast_nonneg _,Int.le_of_lt (by exact_mod_cast small)⟩
    · intro old stored
      simpa [epoch] using raises old (by simp [stored])
  | cluster node row => exact valid.same_epochs fun _ => rfl

/-- Every interleaving whose statements keep the stored epochs hands out fencing tokens. -/
theorem grants_are_fencing_tokens (store : SqlStore) (run : List Statement)
    (keeps : Guarded step KeepsEpoch (initial store) run) :
    FencingTokens (execute step (initial store) run).grants :=
  (guarded_invariant step_fence initial_fence keeps).tokens

/-- Node 2 comes at 10.5 s, and the lease until 10.51 s counts as expired: its text is the smaller one. -/
def takeoverRun : List Statement := [
  .acquireUpsert ⟨0,9,7,1⟩ 0 (10 * 10 ^ 9),
  .acquireSelect 0,
  .renewUpdate 9 7 1 (5 * 10 ^ 9) (1051 * 10 ^ 7),
  .acquireUpsert ⟨1,9,7,2⟩ (105 * 10 ^ 8) (40 * 10 ^ 9),
  .acquireSelect 1]

theorem takeoverRun_grants : Guarded step KeepsEpoch (initial .sqlite) takeoverRun ∧
    (execute step (initial .sqlite) takeoverRun).grants = [⟨7,⟨1,1,some (10 * 10 ^ 9)⟩⟩,⟨7,⟨2,2,some (40 * 10 ^ 9)⟩⟩] ∧
    FencingTokens (execute step (initial .sqlite) takeoverRun).grants :=
  ⟨by decide,by decide,grants_are_fencing_tokens .sqlite takeoverRun (by decide)⟩

def releaseRun : List Statement := [
  .acquireUpsert ⟨0,9,7,1⟩ 0 (10 * 10 ^ 9),
  .acquireSelect 0,
  .acquireUpsert ⟨1,9,7,1⟩ (5 * 10 ^ 9) (15 * 10 ^ 9),
  .acquireSelect 1,
  .release 9 7 1 2,
  .acquireUpsert ⟨2,9,7,2⟩ (8 * 10 ^ 9) (20 * 10 ^ 9),
  .acquireSelect 2]

theorem releaseRun_repeats_epoch :
    ((execute step (initial .sqlite) releaseRun).grants.map (·.owner.ownerEpoch) = [1,2,1] ∧
      ¬ FencingTokens (execute step (initial .sqlite) releaseRun).grants) ∧
    (execute step (initial .postgres) releaseRun).grants.map (·.owner.ownerEpoch) = [1,2,1] ∧
      ¬ FencingTokens (execute step (initial .postgres) releaseRun).grants := by
  decide

end CheetahSignaling.OwnerFencing
