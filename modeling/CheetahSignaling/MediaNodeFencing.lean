import CheetahSignaling.GuardedRun
import CheetahSignaling.MediaNodeRegistry

/-! Instance epochs as fencing tokens, over arbitrary interleavings of the steps of registrations
of one node through any number of registries. The log of grants is in the order in which the
registrations return; each knows which grants had been returned when it began. -/
namespace CheetahSignaling.MediaNodeFencing

open MediaNodeRegistry GuardedRun Function
open List hiding get

structure Grant where
  instanceId : String
  instanceEpoch : Nat
  deriving DecidableEq

def grant (node : MediaNode) : Grant := ⟨node.instanceId,node.instanceEpoch⟩

inductive Phase where
  /-- Read the row; nothing was cached. -/
  | reading (node : MediaNode) (now : UtcTimestamp) (lease : Option UtcTimestamp)
  | writing (node : MediaNode)
  /-- Cache the written node and return. -/
  | caching (persisted : MediaNode)

structure Registration where
  registry : Nat
  phase : Phase
  /-- The grants returned before the registration began. -/
  before : List Grant

structure Returned where
  grant : Grant
  before : List Grant
  deriving DecidableEq

structure State where
  db : Option MediaNodeRow
  cache : Nat → Option NodeEntry
  calls : Nat → Option Registration
  /-- Every version of the row so far. -/
  versions : List MediaNode
  grants : List Returned

def initial : State := ⟨none,fun _ => none,fun _ => none,[],[]⟩

inductive Action where
  | begin (call registry : Nat) (node : MediaNode) (now : UtcTimestamp) (lease : Option UtcTimestamp)
  | get (call : Nat)
  | register (call : Nat)
  | finish (call : Nat)
  /-- A storage error or the end of the process: the call returns no grant. -/
  | abandon (call : Nat)
  /-- Another method of a registry caches a version of the row that it has read. -/
  | cacheVersion (registry version : Nat)
  | evict (registry : Nat)
  | heartbeat (instanceId : String) (leaseUntil updatedAt : UtcTimestamp) (load sessionCount : Nat)
  | setDraining (instanceId : String) (draining : Bool)
  | deregister (instanceId : String) (leaseUntil : Option UtcTimestamp)

section

variable (s : State)

def enter (call : Nat) (registration : Registration) : State :=
  { s with calls := update s.calls call (some registration) }

def leave (call : Nat) : State := { s with calls := update s.calls call none }

def store (row : Option MediaNodeRow) : State :=
  { s with db := row, versions := s.versions ++ (row.map MediaNodeRow.node).toList }

def remember (registry : Nat) (node : MediaNode) : State :=
  { s with cache := update s.cache registry (some ⟨node,node.instanceId⟩) }

def firstPhase (registry : Nat) (node : MediaNode) (now : UtcTimestamp) (lease : Option UtcTimestamp) : Phase :=
  match s.cache registry with
  | some entry => .writing (fromCache node now lease entry)
  | none => .reading node now lease

def step : Action → State
  | .begin call registry node now lease =>
    if (s.calls call).isSome then s
    else enter s call ⟨registry,firstPhase s registry node now lease,s.grants.map Returned.grant⟩
  | .get call =>
    match s.calls call with
    | some ⟨registry,.reading node now lease,before⟩ =>
      enter s call ⟨registry,.writing (fromStore node now lease (s.db.map MediaNodeRow.node)),before⟩
    | _ => s
  | .register call =>
    match s.calls call with
    | some ⟨registry,.writing node,before⟩ =>
      match register s.db node with
      | .ok row => enter (store s (some row)) call ⟨registry,.caching row.node,before⟩
      | .error _ => leave s call
    | _ => s
  | .finish call =>
    match s.calls call with
    | some ⟨registry,.caching node,before⟩ =>
      leave { remember s registry node with grants := s.grants ++ [⟨grant node,before⟩] } call
    | _ => s
  | .abandon call => leave s call
  | .cacheVersion registry version =>
    match s.versions[version]? with
    | some node => remember s registry node
    | none => s
  | .evict registry => { s with cache := update s.cache registry none }
  | .heartbeat instanceId leaseUntil updatedAt load sessionCount =>
    store s (heartbeat s.db instanceId leaseUntil updatedAt load sessionCount)
  | .setDraining instanceId draining => store s (setDraining s.db instanceId draining)
  | .deregister instanceId leaseUntil => store s (deregister s.db instanceId leaseUntil)

/-- Different instances hold different epochs, and a registration has a larger epoch than every
one that returned before it began. -/
structure FencingTokens (grants : List Returned) : Prop where
  apart : ∀ g ∈ grants, ∀ g' ∈ grants, g.grant.instanceId ≠ g'.grant.instanceId →
    g.grant.instanceEpoch ≠ g'.grant.instanceEpoch
  later : ∀ g ∈ grants, ∀ e ∈ g.before, e.instanceId ≠ g.grant.instanceId → e.instanceEpoch < g.grant.instanceEpoch

def written : Action → Option MediaNode
  | .register call =>
    match s.calls call with
    | some ⟨_,.writing node,_⟩ => some node
    | _ => none
  | _ => none

/-- A row written is not behind the stored one, and at a new epoch if it is of another instance. -/
def AdvancesEpoch (action : Action) : Prop := ∀ node ∈ written s action, ∀ row ∈ s.db,
    row.instanceEpoch ≤ asI64 node.instanceEpoch ∧
      (row.instanceId ≠ node.instanceId → row.instanceEpoch ≠ asI64 node.instanceEpoch)

instance (s : State) (action : Action) : Decidable (AdvancesEpoch s action) :=
  inferInstanceAs (Decidable (∀ node ∈ written s action, ∀ row ∈ s.db, row.instanceEpoch ≤ asI64 node.instanceEpoch ∧
      (row.instanceId ≠ node.instanceId → row.instanceEpoch ≠ asI64 node.instanceEpoch)))

/-- What a registration knows of the tokens given before it began. -/
def Registration.Sound (r : Registration) : Prop := (∀ e ∈ r.before, ∃ v ∈ s.versions, grant v = e) ∧
  match r.phase with
  | .reading .. => True
  | .writing node => s.db = none → node.instanceEpoch = 1
  | .caching node => node ∈ s.versions ∧
      ∀ e ∈ r.before, e.instanceId ≠ node.instanceId → e.instanceEpoch < node.instanceEpoch

end

/-- What the steps maintain while epochs advance: every version of the row is bounded by the
stored one, and versions of different instances have different epochs. -/
structure Fence (s : State) : Prop where
  range : ∀ row ∈ s.db, 0 < row.instanceEpoch ∧ row.instanceEpoch < 2 ^ 63 ∧ row.node ∈ s.versions
  bounded : ∀ v ∈ s.versions, ∃ row ∈ s.db, (v.instanceEpoch : Int) ≤ row.instanceEpoch
  apart : ∀ v ∈ s.versions, ∀ v' ∈ s.versions, v.instanceId ≠ v'.instanceId → v.instanceEpoch ≠ v'.instanceEpoch
  cached : ∀ registry entry, s.cache registry = some entry → entry.node ∈ s.versions
  sound : ∀ call r, s.calls call = some r → r.Sound s
  granted : ∀ g ∈ s.grants, ∃ v ∈ s.versions, grant v = g.grant
  later : ∀ g ∈ s.grants, ∀ e ∈ g.before, e.instanceId ≠ g.grant.instanceId → e.instanceEpoch < g.grant.instanceEpoch

theorem initial_fence : Fence initial where
  range := by simp [initial]
  bounded := by simp [initial]
  apart := by simp [initial]
  cached := by simp [initial]
  sound := by simp [initial]
  granted := by simp [initial]
  later := by simp [initial]

theorem update_cases [DecidableEq α] {f : α → Option β} (found : update f a v b = some x) :
    b = a ∧ v = some x ∨ f b = some x := by
  by_cases same : b = a
  · subst b
    rw [update_self] at found
    exact .inl ⟨rfl,found⟩
  · rw [update_of_ne same] at found
    exact .inr found

/-- A registration stays sound while the history grows and the row is not removed. -/
theorem Registration.Sound.mono {r : Registration} (sound : r.Sound s)
    (more : ∀ v ∈ s.versions, v ∈ s'.versions) (kept : s'.db = none → s.db = none) : r.Sound s' := by
  obtain ⟨before,phase⟩ := sound
  constructor
  · intro e member
    obtain ⟨v,stored,same⟩ := before e member
    exact ⟨v,more v stored,same⟩
  cases next : r.phase with
  | reading node now lease => trivial
  | writing node =>
    rw [next] at phase
    exact fun empty => phase (kept empty)
  | caching node =>
    rw [next] at phase
    exact ⟨more node phase.1,phase.2⟩

namespace Fence

theorem enter (fence : Fence s) (sound : r.Sound s) (call : Nat) : Fence (enter s call r) := by
  refine { fence with sound := ?_ }
  intro other r' found
  rcases update_cases found with ⟨-,same⟩ | found
  · cases same
    exact sound
  · exact fence.sound other r' found

theorem leave (fence : Fence s) (call : Nat) : Fence (leave s call) := by
  refine { fence with sound := ?_ }
  intro other r found
  rcases update_cases found with ⟨-,same⟩ | found
  · cases same
  · exact fence.sound other r found

theorem remember (fence : Fence s) (member : node ∈ s.versions) (registry : Nat) :
    Fence (remember s registry node) := by
  refine { fence with cached := ?_ }
  intro other entry found
  rcases update_cases found with ⟨-,same⟩ | found
  · cases same
    exact member
  · exact fence.cached other entry found

theorem evict (fence : Fence s) : Fence { s with cache := update s.cache registry none } := by
  refine { fence with cached := ?_ }
  intro other entry found
  rcases update_cases found with ⟨-,same⟩ | found
  · cases same
  · exact fence.cached other entry found

/-- A row that may come after the stored one: a new instance needs a new epoch. -/
structure Follows (s : State) (row : MediaNodeRow) : Prop where
  range : 0 < row.instanceEpoch ∧ row.instanceEpoch < 2 ^ 63
  advances : ∀ old ∈ s.db, old.instanceEpoch ≤ row.instanceEpoch ∧
    (old.instanceId ≠ row.instanceId → old.instanceEpoch ≠ row.instanceEpoch)

theorem Follows.epoch (follows : Follows s row) : (row.node.instanceEpoch : Int) = row.instanceEpoch :=
  asU64_nonneg follows.range.1.le follows.range.2

theorem below (fence : Fence s) (follows : Follows s row) (member : v ∈ s.versions)
    (other : v.instanceId ≠ row.instanceId) : v.instanceEpoch < row.node.instanceEpoch := by
  obtain ⟨old,stored,bound⟩ := fence.bounded v member
  obtain ⟨le,apart⟩ := follows.advances old stored
  obtain ⟨low,high,current⟩ := fence.range old stored
  have new := follows.epoch
  have epoch : (old.node.instanceEpoch : Int) = old.instanceEpoch := asU64_nonneg low.le high
  by_contra above
  have same : old.instanceId = row.instanceId := by
    by_contra differs
    have := apart differs
    omega
  have differs : v.instanceEpoch ≠ old.node.instanceEpoch :=
    fence.apart v member old.node current (by rwa [← same] at other)
  omega

theorem store (fence : Fence s) (follows : Follows s row) : Fence (store s (some row)) := by
  have more : ∀ v ∈ s.versions, v ∈ (MediaNodeFencing.store s (some row)).versions :=
    fun v member => mem_append_left _ member
  have cases_version {v : MediaNode} (member : v ∈ (MediaNodeFencing.store s (some row)).versions) :
      v ∈ s.versions ∨ v = row.node := by
    simpa [MediaNodeFencing.store] using member
  refine ⟨?_,?_,?_,?_,?_,?_,fence.later⟩
  · rintro _ ⟨⟩
    exact ⟨follows.range.1,follows.range.2,by simp [MediaNodeFencing.store]⟩
  · intro v member
    refine ⟨row,rfl,?_⟩
    rcases cases_version member with member | rfl
    · obtain ⟨old,stored,bound⟩ := fence.bounded v member
      exact bound.trans (follows.advances old stored).1
    · exact follows.epoch.le
  · intro v left v' right other
    rcases cases_version left with left | rfl <;> rcases cases_version right with right | rfl
    · exact fence.apart v left v' right other
    · exact (fence.below follows left other).ne
    · exact (fence.below follows right other.symm).ne'
    · exact absurd rfl other
  · intro registry entry found
    exact more _ (fence.cached registry entry found)
  · intro call r found
    apply (fence.sound call r found).mono more
    intro empty
    cases empty
  · intro g member
    obtain ⟨v,stored,same⟩ := fence.granted g member
    exact ⟨v,more v stored,same⟩

section

variable (fence : Fence s)

include fence

theorem store_update (kept : ∀ row, SameInstance row (change row)) :
    Fence (MediaNodeFencing.store s (updateInstance s.db instanceId change)) := by
  cases updated : updateInstance s.db instanceId change with
  | none =>
    have empty := updateInstance_none.mp updated
    have same : MediaNodeFencing.store s none = s := by
      cases s
      simp_all [MediaNodeFencing.store]
    rwa [same]
  | some row' =>
    obtain ⟨row,stored,instance_same,epoch_same⟩ := updateInstance_some kept updated
    apply fence.store
    obtain ⟨low,high,-⟩ := fence.range row stored
    refine ⟨by rw [epoch_same]; exact ⟨low,high⟩,?_⟩
    intro old found
    cases stored.symm.trans found
    rw [epoch_same,instance_same]
    exact ⟨le_refl _,fun other => absurd rfl other⟩

theorem cache_empty (empty : s.db = none) : s.cache registry = none := by
  cases found : s.cache registry with
  | none => rfl
  | some entry =>
    obtain ⟨row,stored,-⟩ := fence.bounded _ (fence.cached registry entry found)
    rw [empty] at stored
    cases stored

theorem firstPhase_sound :
    Registration.Sound s ⟨registry,firstPhase s registry node now lease,s.grants.map Returned.grant⟩ := by
  constructor
  · intro e member
    obtain ⟨g,returned,rfl⟩ := mem_map.mp member
    exact fence.granted g returned
  cases found : s.cache registry with
  | none => simp [firstPhase,found]
  | some entry =>
    simp only [firstPhase,found]
    intro empty
    rw [fence.cache_empty empty] at found
    cases found

theorem follows (call : s.calls c = some ⟨registry,.writing node,before⟩)
    (advances : AdvancesEpoch s (.register c)) (revision : Int) : Follows s (node.row revision) := by
  have writes : written s (.register c) = some node := by simp [written,call]
  have ahead := advances node writes
  have low : 0 < asI64 node.instanceEpoch := by
    cases stored : s.db with
    | none =>
      have first : node.instanceEpoch = 1 := (fence.sound c _ call).2 stored
      rw [first,asI64_small (by decide)]
      decide
    | some row =>
      obtain ⟨low,-⟩ := fence.range row stored
      exact low.trans_le (ahead row stored).1
  constructor
  · rw [MediaNode.row_instanceEpoch]
    exact ⟨low,asI64_lt⟩
  · rw [MediaNode.row_instanceEpoch,MediaNode.row_instanceId]
    exact ahead

theorem caching_sound (call : s.calls c = some ⟨registry,.writing node,before⟩)
    (follows : Follows s row) :
    Registration.Sound (MediaNodeFencing.store s (some row)) ⟨registry,.caching row.node,before⟩ := by
  obtain ⟨earlier,-⟩ := fence.sound c _ call
  refine ⟨fun e member => ?_,by simp [MediaNodeFencing.store],fun e member other => ?_⟩
  · obtain ⟨v,stored,same⟩ := earlier e member
    exact ⟨v,mem_append_left _ stored,same⟩
  · obtain ⟨v,stored,rfl⟩ := earlier e member
    exact fence.below follows stored other

theorem finish (call : s.calls c = some ⟨registry,.caching node,before⟩) :
    Fence { MediaNodeFencing.remember s registry node with grants := s.grants ++ [⟨grant node,before⟩] } := by
  obtain ⟨-,member,ahead⟩ := fence.sound c _ call
  refine { fence.remember member registry with granted := ?_, later := ?_ }
  · intro g returned
    rcases mem_append.mp returned with returned | last
    · exact fence.granted g returned
    · cases mem_singleton.mp last
      exact ⟨node,member,rfl⟩
  intro g returned
  rcases mem_append.mp returned with returned | last
  · exact fence.later g returned
  · cases mem_singleton.mp last
    exact ahead

end

theorem step (fence : Fence s) (action : Action) (advances : AdvancesEpoch s action) : Fence (step s action) := by
  cases action with
  | begin c registry node now lease =>
    rw [MediaNodeFencing.step]
    split
    · exact fence
    · exact fence.enter fence.firstPhase_sound c
  | get c =>
    rw [MediaNodeFencing.step]
    split
    · rename_i registry node now lease before call
      apply fence.enter
      refine ⟨(fence.sound c _ call).1,fun empty => ?_⟩
      simp [empty,fromStore,first]
    · exact fence
  | register c =>
    rw [MediaNodeFencing.step]
    split
    · rename_i registry node before call
      split
      · rename_i row ok
        obtain ⟨⟨revision,rfl⟩,-⟩ := register_ok ok
        have next := fence.follows call advances revision
        exact (fence.store next).enter (fence.caching_sound call next) c
      · exact fence.leave c
    · exact fence
  | finish c =>
    rw [MediaNodeFencing.step]
    split
    · rename_i registry node before call
      exact (fence.finish call).leave c
    · exact fence
  | abandon c => exact fence.leave c
  | cacheVersion registry version =>
    rw [MediaNodeFencing.step]
    split
    · rename_i node found
      exact fence.remember (mem_of_getElem? found) registry
    · exact fence
  | evict registry => exact fence.evict
  | heartbeat instanceId leaseUntil updatedAt load sessionCount =>
    apply fence.store_update
    exact fun _ => ⟨rfl,rfl⟩
  | setDraining instanceId draining =>
    apply fence.store_update
    exact fun _ => ⟨rfl,rfl⟩
  | deregister instanceId leaseUntil =>
    apply fence.store_update
    exact fun _ => ⟨rfl,rfl⟩

theorem tokens (fence : Fence s) : FencingTokens s.grants := by
  refine ⟨?_,fence.later⟩
  intro g left g' right other
  obtain ⟨v,stored,same⟩ := fence.granted g left
  obtain ⟨v',stored',same'⟩ := fence.granted g' right
  rw [← same,← same'] at other ⊢
  exact fence.apart v stored v' stored' other

end Fence

/-- In every run whose writes advance the epoch, the granted epochs are fencing tokens. -/
theorem instance_epochs_are_fencing_tokens (run : List Action) (guarded : Guarded step AdvancesEpoch initial run) :
    FencingTokens (execute step initial run).grants := by
  have preserved (s : State) (action : Action) (fence : Fence s) (advances : AdvancesEpoch s action) :
      Fence (step s action) := fence.step action advances
  exact (guarded_invariant preserved initial_fence guarded).tokens

def sampleNode (instanceId : String) : MediaNode := ⟨instanceId,0,0,0,0,false,.active,none,none,0⟩

def registration (call registry : Nat) (instanceId : String) : List Action :=
  [.begin call registry (sampleNode instanceId) 0 none,.get call,.register call,.finish call]

/-- Instances a, b and a again, one after the other through one registry. -/
def restartRun : List Action := registration 0 0 "a" ++ registration 1 0 "b" ++ registration 2 0 "a"

theorem restartRun_grants :
    Guarded step AdvancesEpoch initial restartRun ∧ FencingTokens (execute step initial restartRun).grants ∧
      (execute step initial restartRun).grants.map Returned.grant = [⟨"a",1⟩,⟨"b",2⟩,⟨"a",3⟩] :=
  ⟨by decide,instance_epochs_are_fencing_tokens restartRun (by decide),by decide⟩

/-- Instances a and b through two registries, both reading before either writes. -/
def racingRun : List Action :=
  [.begin 0 0 (sampleNode "a") 0 none,.begin 1 1 (sampleNode "b") 0 none,.get 0,.get 1,.register 0,.register 1,
    .finish 0,.finish 1]

def staleCacheRun : List Action := registration 0 0 "a" ++ registration 1 1 "b" ++ registration 2 0 "c"

theorem equal_epochs_granted : (execute step initial racingRun).grants.map Returned.grant = [⟨"a",1⟩,⟨"b",1⟩] ∧
      (execute step initial staleCacheRun).grants =
        [⟨⟨"a",1⟩,[]⟩,⟨⟨"b",2⟩,[⟨"a",1⟩]⟩,⟨⟨"c",2⟩,[⟨"a",1⟩,⟨"b",2⟩]⟩] := by
  decide

end CheetahSignaling.MediaNodeFencing
