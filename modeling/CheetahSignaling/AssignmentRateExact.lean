import CheetahSignaling.AssignmentRate

/-! What the windows count. A window keeps every commit that has not expired, so a reservation that it
grants has room among all commits and permits of the last second, counted at their reservations. -/
namespace CheetahSignaling.DeviceAssignment

open GuardedRun
open List hiding after

def within (start time : Nat) : Bool := start ≤ time && time ≤ start + 1000

/-- A window against the times of the commits and of the open permits it stands for. -/
structure Tracks (w : SlidingWindow) (limit : Nat) (done held : List Nat) (clock : Nat) : Prop where
  limited : w.maxPerWindow = limit
  span : w.window = 1000
  pending : w.pending = held.length
  room : w.events.length + w.pending ≤ limit
  kept : ∃ expired, done.Perm (expired ++ w.events) ∧ ∀ time ∈ expired, time + 1000 < clock
  bound : ∀ start, ((done ++ held).filter (within start)).length ≤ limit

section Window

theorem Tracks.new (limit clock : Nat) : Tracks (.new limit 1000) limit [] [] clock :=
  ⟨rfl,rfl,rfl,Nat.zero_le limit,⟨[],.refl _,forall_mem_nil _⟩,fun _ => Nat.zero_le limit⟩

variable (tracks : Tracks w limit done held clock)

include tracks

theorem Tracks.later (le : clock ≤ now) : Tracks w limit done held now := by
  obtain ⟨expired,split,old⟩ := tracks.kept
  exact ⟨tracks.limited,tracks.span,tracks.pending,tracks.room,⟨expired,split,fun t member => lt_of_lt_of_le (old t member) le⟩,
    tracks.bound⟩

theorem Tracks.prune (le : clock ≤ now) : Tracks (w.prune now) limit done held now := by
  obtain ⟨expired,split,old⟩ := tracks.kept
  have fewer : (w.prune now).events.length ≤ w.events.length := (dropWhile_sublist _).length_le
  refine ⟨tracks.limited,tracks.span,tracks.pending,le_trans (Nat.add_le_add_right fewer _) tracks.room,
    ⟨expired ++ w.events.takeWhile fun front => w.window < now - front,?_,?_⟩,tracks.bound⟩
  · rw [append_assoc]
    show done.Perm (expired ++ ((w.events.takeWhile fun front => w.window < now - front) ++ w.events.dropWhile fun front =>
      w.window < now - front))
    rw [takeWhile_append_dropWhile]
    exact split
  intro t member
  rcases mem_append.mp member with before | dropped
  · exact lt_of_lt_of_le (old t before) le
  have late : decide (w.window < now - t) = true := all_eq_true.mp all_takeWhile t dropped
  have late : w.window < now - t := of_decide_eq_true late
  rw [tracks.span] at late
  omega

theorem Tracks.recent (around : within start clock = true) :
    (done.filter (within start)).length ≤ w.events.length := by
  obtain ⟨expired,split,old⟩ := tracks.kept
  have none : expired.filter (within start) = [] := by
    refine filter_eq_nil_iff.mpr fun t member => ?_
    have expiry := old t member
    simp only [within,Bool.and_eq_true,decide_eq_true_eq] at around ⊢
    omega
  rw [(split.filter _).length_eq,filter_append,none,nil_append]
  exact length_filter_le _ _

theorem Tracks.granted (room : w.events.length + w.pending < limit) :
    Tracks { w with pending := w.pending + 1 } limit done (held ++ [clock]) clock := by
  refine ⟨tracks.limited,tracks.span,?_,room,tracks.kept,fun start => ?_⟩
  · rw [length_append,tracks.pending]
    rfl
  rw [← append_assoc,filter_append,length_append]
  by_cases around : within start clock = true
  · have committed := tracks.recent around
    have waiting := length_filter_le (within start) held
    rw [← tracks.pending] at waiting
    rw [filter_append,length_append]
    simp only [filter_cons_of_pos around,filter_nil,length_singleton]
    omega
  · rw [filter_cons_of_neg around]
    exact tracks.bound start

theorem Tracks.reserve (le : clock ≤ now) :
    Tracks (w.reserve now).2 limit done (if (w.reserve now).1 then held ++ [now] else held) now := by
  have pruned := tracks.prune le
  unfold SlidingWindow.reserve
  simp only
  split
  · exact pruned
  · rename_i room
    rw [pruned.limited,not_le] at room
    exact pruned.granted room

theorem Tracks.perm (same : held.Perm held') : Tracks w limit done held' clock := by
  refine ⟨tracks.limited,tracks.span,tracks.pending.trans same.length_eq,tracks.room,tracks.kept,fun start => ?_⟩
  rw [((same.symm.append_left done).filter _).length_eq]
  exact tracks.bound start

theorem Tracks.commit (one : held.Perm (time :: held')) :
    Tracks (w.commit time) limit (done ++ [time]) held' clock := by
  obtain ⟨expired,split,old⟩ := tracks.kept
  have count : w.pending = held'.length + 1 := tracks.pending.trans one.length_eq
  have room := tracks.room
  refine ⟨tracks.limited,tracks.span,?_,?_,⟨expired,?_,old⟩,fun start => ?_⟩
  · show w.pending - 1 = held'.length
    omega
  · show (w.events ++ [time]).length + (w.pending - 1) ≤ limit
    rw [length_append,length_singleton]
    omega
  · show (done ++ [time]).Perm (expired ++ (w.events ++ [time]))
    rw [← append_assoc]
    exact split.append_right [time]
  have moved : (done ++ [time] ++ held').Perm (done ++ held) := by
    rw [append_assoc]
    exact one.symm.append_left done
  rw [(moved.filter _).length_eq]
  exact tracks.bound start

theorem Tracks.rollback (one : held.Perm (time :: held')) :
    Tracks w.rollback limit done held' clock := by
  have count : w.pending = held'.length + 1 := tracks.pending.trans one.length_eq
  have room := tracks.room
  refine ⟨tracks.limited,tracks.span,?_,?_,tracks.kept,fun start => ?_⟩
  · show w.pending - 1 = held'.length
    omega
  · show w.events.length + (w.pending - 1) ≤ limit
    omega
  have whole := tracks.bound start
  rw [((one.append_left done).filter _).length_eq] at whole
  have part := (sublist_cons_self time held').append_left done
  exact ((part.filter _).length_le).trans whole

end Window

section Limiter

open RateLimiter

theorem windowOf_insert (global : SlidingWindow) :
    windowOf other { limiter with global := global, perNode := limiter.perNode.insert node w } =
      if other = node then w else windowOf other limiter := by
  unfold windowOf
  by_cases same : other = node
  · subst same
    simp
  · simp [same]

theorem windowOf_atNode (present : (limiter.perNode.lookup node).isSome = true)
    (global : SlidingWindow) :
    windowOf other (atNode node change { limiter with global := global }) =
      if other = node then change (windowOf node limiter) else windowOf other limiter := by
  obtain ⟨w,found⟩ := Option.isSome_iff_exists.mp present
  have here : windowOf node limiter = w := by rw [windowOf,found]; rfl
  simp only [atNode,found]
  rw [here]
  exact windowOf_insert global

theorem atNode_keeps :
    (atNode node change limiter).global = limiter.global ∧ (atNode node change limiter).config = limiter.config := by
  unfold atNode
  split <;> exact ⟨rfl,rfl⟩

theorem lookup_atNode :
    ((atNode node change limiter).perNode.lookup other).isSome = (limiter.perNode.lookup other).isSome := by
  unfold atNode
  cases found : limiter.perNode.lookup node with
  | none => rfl
  | some w =>
    by_cases same : other = node
    · subst same
      simp [found]
    · simp [AList.lookup_insert_ne same]

theorem evicted_subset {perNode : KeyMap NodeId SlidingWindow} (member : node ∈ evicted capacity perNode) :
    node ∈ perNode.keys := by
  obtain ⟨pair,taken,rfl⟩ := mem_map.mp member
  have ordered := (mem_insertionSort _).mp (mem_of_mem_take taken)
  obtain ⟨entry,held,rfl⟩ := mem_map.mp ordered
  exact mem_map.mpr ⟨entry,held,rfl⟩

theorem evicted_nonempty {perNode : KeyMap NodeId SlidingWindow} (excess : capacity < perNode.entries.length) :
    ∃ node, node ∈ evicted capacity perNode := by
  refine exists_mem_of_length_pos ?_
  unfold evicted
  rw [length_map,length_take,length_insertionSort,length_map]
  omega

/-- A trim that no window falls victim to is none. -/
theorem trimPerNode_eq (kept : ∀ node, (limiter.perNode.lookup node).isSome = true →
    ((trimPerNode now limiter).perNode.lookup node).isSome = true) :
    trimPerNode now limiter = limiter := by
  unfold trimPerNode at kept ⊢
  split
  · rfl
  rename_i excess
  exfalso
  rw [if_neg excess] at kept
  generalize shape : limiter.perNode.sweep (fun _ w => w.active now) = swept at kept
  have survives (node : NodeId) (member : node ∈ limiter.perNode.keys) :
      node ∈ swept.keys ∧ node ∉ evicted limiter.config.maxTrackedNodes swept := by
    have left := kept node (AList.lookup_isSome.mpr member)
    cases found : swept.lookup node with
    | none => simp [found] at left
    | some w =>
      refine ⟨AList.lookup_isSome.mp (by rw [found]; rfl),fun gone => ?_⟩
      simp [gone] at left
  have count := (subperm_of_subset limiter.perNode.keys_nodup fun node member => (survives node member).1).length_le
  simp only [AList.keys,List.keys,length_map] at count
  obtain ⟨node,chosen⟩ := evicted_nonempty (lt_of_lt_of_le (not_le.mp excess) count)
  have inside := evicted_subset chosen
  rw [← shape] at inside
  exact (survives node ((KeyMap.keys_sweepEntries (fun _ => SlidingWindow.active now)).subset inside)).2 chosen

end Limiter

section Run

open RateLimiter

variable {config : RateLimitConfig} {limit clock now index : Nat}

section

variable (mine : NodeId → Bool)

def doneOf (commits : List Commit) : List Nat :=
  (commits.filter fun commit => mine commit.permit.nodeId).map (·.permit.now)

def heldOf (permits : List RateLimitPermit) : List Nat := (permits.filter (mine ·.nodeId)).map (·.now)

/-- A window stands for the commits and permits on some nodes. -/
def TracksOf (w : SlidingWindow) (limit : Nat) (s : Limited) (clock : Nat) : Prop :=
  Tracks w limit (doneOf mine s.commits) (heldOf mine s.permits) clock

/-- The windows stand for the commits and the open permits, of all nodes and of each. -/
structure Sound (config : RateLimitConfig) (s : Limited) (clock : Nat) : Prop where
  global : TracksOf (fun _ => true) s.limiter.global config.globalPerSecond s clock
  node : ∀ node, TracksOf (· == node) (s.limiter.windowOf node) config.perNodePerSecond s clock
  configured : s.limiter.config.perNodePerSecond = config.perNodePerSecond

theorem heldOf_append :
    heldOf mine (permits ++ [permit]) = if mine permit.nodeId then heldOf mine permits ++ [permit.now]
      else heldOf mine permits := by
  by_cases own : mine permit.nodeId = true <;> simp [heldOf,own]

theorem doneOf_append (commit : Commit) : doneOf mine (commits ++ [commit]) =
      if mine commit.permit.nodeId then doneOf mine commits ++ [commit.permit.now] else doneOf mine commits := by
  by_cases own : mine commit.permit.nodeId = true <;> simp [doneOf,own]

theorem perm_eraseIdx {permits : List RateLimitPermit} (found : permits[index]? = some permit) :
    permits.Perm (permit :: permits.eraseIdx index) := by
  obtain ⟨bound,rfl⟩ := List.getElem?_eq_some_iff.mp found
  exact (perm_cons_erase (getElem_mem bound)).trans ((erase_getElem bound).cons _)

theorem heldOf_consumed (found : permits[index]? = some permit) (mine : NodeId → Bool) :
    (heldOf mine permits).Perm (if mine permit.nodeId then permit.now :: heldOf mine (permits.eraseIdx index)
      else heldOf mine (permits.eraseIdx index)) := by
  have moved := ((perm_eraseIdx found).filter (mine ·.nodeId)).map (·.now)
  by_cases own : mine permit.nodeId = true
  · simpa [heldOf,own] using moved
  · simpa [heldOf,own] using moved

theorem sound_new : Sound config (.new config) clock :=
  ⟨Tracks.new _ clock,fun _ => Tracks.new _ clock,rfl⟩

theorem Sound.later (sound : Sound config s clock) (le : clock ≤ now) : Sound config s now :=
  ⟨Tracks.later sound.global le,fun node => Tracks.later (sound.node node) le,sound.configured⟩

theorem TracksOf.granted_other (tracks : TracksOf (· == other) w limit s clock) (apart : other ≠ node) :
    TracksOf (· == other) w limit ⟨limiter,s.permits ++ [⟨node,now⟩],s.commits⟩ clock := by
  unfold TracksOf
  rw [heldOf_append,if_neg (by simpa using Ne.symm apart)]
  exact tracks

section

variable {mine} (tracks : TracksOf mine w limit s clock)

include tracks

theorem TracksOf.granted_own (le : clock ≤ now)
    (room : (w.reserve now).1 = true) (own : mine node = true) :
    TracksOf mine (w.reserve now).2 limit ⟨limiter,s.permits ++ [⟨node,now⟩],s.commits⟩ now := by
  have moved := Tracks.reserve tracks le
  rw [if_pos room] at moved
  unfold TracksOf
  rw [heldOf_append,if_pos own]
  exact moved

theorem TracksOf.refused (le : clock ≤ now)
    (full : (w.reserve now).1 ≠ true) : TracksOf mine (w.reserve now).2 limit s now := by
  have moved := Tracks.reserve tracks le
  rwa [if_neg full] at moved

theorem TracksOf.returned (le : clock ≤ now)
    (room : (w.reserve now).1 = true) : TracksOf mine (w.reserve now).2.rollback limit s now := by
  have moved := Tracks.reserve tracks le
  rw [if_pos room] at moved
  exact moved.rollback (perm_append_singleton now _)

variable (found : s.permits[index]? = some permit)

include found

theorem TracksOf.commit_own (own : mine permit.nodeId = true) :
    TracksOf mine (w.commit permit.now) limit ⟨limiter,s.permits.eraseIdx index,s.commits ++ [⟨permit,now⟩]⟩ clock := by
  have one := heldOf_consumed found mine
  rw [if_pos own] at one
  unfold TracksOf
  rw [doneOf_append,if_pos own]
  exact Tracks.commit tracks one

theorem TracksOf.rollback_own (own : mine permit.nodeId = true) :
    TracksOf mine w.rollback limit ⟨limiter,s.permits.eraseIdx index,s.commits⟩ clock := by
  have one := heldOf_consumed found mine
  rw [if_pos own] at one
  exact Tracks.rollback tracks one

theorem TracksOf.consumed_other (other : mine permit.nodeId ≠ true) (limiter : RateLimiter) :
    TracksOf mine w limit ⟨limiter,s.permits.eraseIdx index,s.commits⟩ clock := by
  have same := heldOf_consumed found mine
  rw [if_neg other] at same
  exact Tracks.perm tracks same

theorem TracksOf.commit_other (other : mine permit.nodeId ≠ true) :
    TracksOf mine w limit ⟨limiter,s.permits.eraseIdx index,s.commits ++ [⟨permit,now⟩]⟩ clock := by
  have moved := tracks.consumed_other found other limiter
  unfold TracksOf at moved ⊢
  rwa [doneOf_append,if_neg other]

end

/-- No window of a node is dropped. -/
def Untrimmed (s : Limited) (action : LimitAction) : Prop :=
  ∀ node, (s.limiter.perNode.lookup node).isSome = true → ((s.step action).limiter.perNode.lookup node).isSome = true

instance decidableUntrimmed (s : Limited) (action : LimitAction) : Decidable (Untrimmed s action) :=
  decidable_of_iff (∀ node ∈ s.limiter.perNode.keys, node ∈ (s.step action).limiter.perNode.keys) <| by
    simp only [Untrimmed,AList.lookup_isSome,AList.mem_keys]

section

variable (sound : Sound config s clock)

include sound

theorem Sound.reserve (le : clock ≤ now) (node : NodeId) :
    Sound config (s.step (.reserve now node)) now := by
  have later := sound.later le
  simp only [Limited.step,RateLimiter.reserve]
  by_cases room : (s.limiter.global.reserve now).1 = true
  · rw [if_pos room]
    by_cases own : ((s.limiter.windowOf node).reserve now).1 = true
    · rw [if_pos own]
      refine ⟨TracksOf.granted_own sound.global le room rfl,fun other => ?_,sound.configured⟩
      rw [windowOf_insert]
      split
      · rename_i same
        subst same
        exact TracksOf.granted_own (sound.node other) le own (beq_self_eq_true other)
      · rename_i apart
        exact TracksOf.granted_other (later.node other) apart
    rw [if_neg own]
    refine ⟨TracksOf.returned sound.global le room,fun other => ?_,sound.configured⟩
    rw [windowOf_insert]
    split
    · rename_i same
      subst same
      exact TracksOf.refused (sound.node other) le own
    · exact later.node other
  · rw [if_neg room]
    exact ⟨TracksOf.refused sound.global le room,later.node,sound.configured⟩

section

variable (found : s.permits[index]? = some permit)
include found

theorem Sound.present : (s.limiter.perNode.lookup permit.nodeId).isSome = true := by
  have pending := (sound.node permit.nodeId).pending
  rw [(heldOf_consumed found _).length_eq,if_pos (beq_self_eq_true permit.nodeId)] at pending
  cases lookup : s.limiter.perNode.lookup permit.nodeId with
  | some w => rfl
  | none =>
    rw [windowOf,lookup] at pending
    cases pending

theorem Sound.commit (untrimmed : trimPerNode permit.now
      (atNode permit.nodeId (.commit permit.now) { s.limiter with global := s.limiter.global.commit permit.now }) =
      atNode permit.nodeId (.commit permit.now) { s.limiter with global := s.limiter.global.commit permit.now }) :
    Sound config ⟨s.limiter.commit permit.now permit.nodeId,s.permits.eraseIdx index,s.commits ++ [⟨permit,now⟩]⟩ clock := by
  obtain ⟨global,config⟩ := atNode_keeps
  rw [RateLimiter.commit,untrimmed]
  refine ⟨?_,fun other => ?_,(congrArg RateLimitConfig.perNodePerSecond config).trans sound.configured⟩
  · rw [global]
    exact TracksOf.commit_own sound.global found rfl
  rw [windowOf_atNode (sound.present found)]
  split
  · rename_i same
    subst same
    exact TracksOf.commit_own (sound.node permit.nodeId) found (beq_self_eq_true _)
  · rename_i apart
    exact TracksOf.commit_other (sound.node other) found (by simpa using Ne.symm apart)

theorem Sound.rollback : Sound config ⟨s.limiter.rollback permit.nodeId,s.permits.eraseIdx index,s.commits⟩ clock := by
  obtain ⟨global,config⟩ := atNode_keeps
  rw [RateLimiter.rollback]
  refine ⟨?_,fun other => ?_,(congrArg RateLimitConfig.perNodePerSecond config).trans sound.configured⟩
  · rw [global]
    exact TracksOf.rollback_own sound.global found rfl
  rw [windowOf_atNode (sound.present found)]
  split
  · rename_i same
    subst same
    exact TracksOf.rollback_own (sound.node permit.nodeId) found (beq_self_eq_true _)
  · rename_i apart
    exact TracksOf.consumed_other (sound.node other) found (by simpa using Ne.symm apart) _

end

/-- One call keeps the windows exact, unless it drops the window of a node. -/
theorem Sound.step (action : LimitAction) (le : clock ≤ action.time)
    (untrimmed : Untrimmed s action) :
    Sound config (s.step action) action.time := by
  cases action with
  | reserve now node => exact sound.reserve le node
  | commit now index =>
    refine Sound.later ?_ le
    unfold Untrimmed at untrimmed
    simp only [Limited.step] at untrimmed ⊢
    cases found : s.permits[index]? with
    | none => exact sound
    | some permit =>
      rw [found] at untrimmed
      refine sound.commit found (trimPerNode_eq fun node some' => untrimmed node ?_)
      rwa [lookup_atNode] at some'
  | drop now index =>
    refine Sound.later ?_ le
    simp only [Limited.step]
    cases found : s.permits[index]? with
    | none => exact sound
    | some permit => exact sound.rollback found

end

/-- And so does a run of calls at times that do not go back. -/
theorem Sound.run (run : List LimitAction) (sound : Sound config s clock) (late : ∀ action ∈ run, clock ≤ action.time)
    (ordered : (run.map LimitAction.time).Pairwise (· ≤ ·)) (untrimmed : Guarded Limited.step Untrimmed s run) :
    ∃ clock, Sound config (execute Limited.step s run) clock := by
  induction run generalizing s clock with
  | nil => exact ⟨clock,sound⟩
  | cons action rest ih =>
    obtain ⟨after,ordered⟩ := pairwise_cons.mp ordered
    refine ih (sound.step action (late action mem_cons_self) untrimmed.1) (fun next member => ?_) ordered untrimmed.2
    exact after next.time (mem_map_of_mem member)

/-- The commits on some nodes whose reservations lie in the second after a time. -/
def commitsWithin (start : Nat) (commits : List Commit) : List Commit :=
  commits.filter fun commit => mine commit.permit.nodeId && within start commit.permit.now

end

theorem TracksOf.commits (tracks : TracksOf mine w limit s clock) (start : Nat) :
    (commitsWithin mine start s.commits).length ≤ limit := by
  have bound := tracks.bound start
  rw [filter_append,length_append] at bound
  have same : ((doneOf mine s.commits).filter (within start)).length = (commitsWithin mine start s.commits).length := by
    rw [doneOf,filter_map,length_map,filter_filter]
    simp [commitsWithin,Bool.and_comm]
  omega

/-- The limits hold, in every second and in both windows. -/
structure Exact (config : RateLimitConfig) (s : Limited) : Prop where
  room : s.limiter.global.events.length + s.limiter.global.pending ≤ config.globalPerSecond
  nodeRoom : ∀ node w, s.limiter.perNode.lookup node = some w → w.events.length + w.pending ≤ config.perNodePerSecond
  commits : ∀ start, (commitsWithin (fun _ => true) start s.commits).length ≤ config.globalPerSecond
  nodeCommits : ∀ node start, (commitsWithin (· == node) start s.commits).length ≤ config.perNodePerSecond
  /-- A refusal of a node's window only drops expired events from the global one. -/
  refused : ∀ now node, (s.limiter.global.reserve now).1 = true → (s.limiter.reserve now node).1 = false →
    (s.limiter.reserve now node).2.global = s.limiter.global.prune now

theorem refused_global (limiter : RateLimiter) (room : (limiter.global.reserve now).1 = true)
    (refusal : (limiter.reserve now node).1 = false) :
    (limiter.reserve now node).2.global = limiter.global.prune now := by
  unfold RateLimiter.reserve at refusal ⊢
  simp only [if_pos room] at refusal ⊢
  by_cases own : ((limiter.windowOf node).reserve now).1 = true
  · rw [if_pos own] at refusal
    cases refusal
  rw [if_neg own]
  unfold SlidingWindow.reserve at room ⊢
  simp only at room ⊢
  split at room
  · cases room
  · rename_i free
    rw [if_neg free]
    rfl

/-- Exactness of the rate limiter, where a commit counts at the time of its reservation. -/
theorem rate_limit_exact (config : RateLimitConfig) (run : List LimitAction)
    (ordered : (run.map LimitAction.time).Pairwise (· ≤ ·))
    (untrimmed : Guarded Limited.step Untrimmed (.new config) run) : Exact config (execute Limited.step (.new config) run) := by
  obtain ⟨clock,sound⟩ := Sound.run run sound_new (fun _ _ => Nat.zero_le _) ordered untrimmed
  refine ⟨sound.global.room,fun node w found => ?_,TracksOf.commits sound.global,fun node => TracksOf.commits (sound.node node),
    fun now node => refused_global _⟩
  have tracks := sound.node node
  rw [windowOf,found] at tracks
  exact tracks.room

end Run

namespace Sample

def narrow : RateLimitConfig := ⟨2,1,8⟩

def mixedRun : List LimitAction :=
  [.reserve 0 5,.reserve 10 6,.reserve 10 5,.commit 20 0,.drop 30 0,.reserve 900 5,.reserve 1001 5,.commit 1005 0]

theorem mixedRun_exact : Exact narrow (execute Limited.step (.new narrow) mixedRun) ∧
      (execute Limited.step (.new narrow) mixedRun).commits = [⟨⟨5,0⟩,20⟩,⟨⟨5,1001⟩,1005⟩] :=
  ⟨rate_limit_exact narrow mixedRun (by decide) (by decide),by decide⟩

def lateRun : List LimitAction := [.reserve 0 5,.commit 2000 0,.reserve 2000 5,.commit 2000 0]

def busy : Limited := execute Limited.step (.new ⟨3,1,8⟩) [.reserve 0 5,.reserve 0 6,.commit 0 0]

/-- Two commits of a node are made at one time, where one is allowed in a second. And a reservation that a
node's window refuses takes an expired event from the global window. -/
theorem lateRun_exceeds :
    (lateRun.map LimitAction.time).Pairwise (· ≤ ·) ∧ Guarded Limited.step Untrimmed (.new ⟨1,1,8⟩) lateRun ∧
    (execute Limited.step (.new ⟨1,1,8⟩) lateRun).commits.map (·.madeAt) = [2000,2000] ∧
    (busy.limiter.global.reserve 2000).1 = true ∧ (busy.limiter.reserve 2000 6).1 = false ∧
    busy.limiter.global.events = [0] ∧ (busy.limiter.reserve 2000 6).2.global.events = [] := by decide

end Sample

end CheetahSignaling.DeviceAssignment
