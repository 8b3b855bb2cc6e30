import CheetahSignaling.TimerWheel

/-! What becomes of one timer. It waits in the bucket of its deadline, then among the messages that came
back from a full mailbox, and every step moves only the timers that it names. So the offers of a timer
to its shard follow the ticks from its deadline on, until one is not answered by a full mailbox. -/
namespace CheetahSignaling.Runtime

open List hiding after
open GuardedRun

section

variable (id : TimerId) (wheel : Wheel W)

def spread (buckets : List (Instant × List TimerEntry)) : List (Instant × TimerEntry) :=
  buckets.flatMap fun bucket => (bucket.2.filter (·.timerId = id)).map (bucket.1,·)

def pendingOf : List RuntimeMessage := wheel.pendingDispatch.filter (isTimer id)

abbrev Wheel.expired (now : Instant) : List (Instant × List TimerEntry) :=
  wheel.timersByDeadline.rows.takeWhile fun bucket => bucket.1 ≤ now

abbrev Wheel.Kept : Prop := wheel.timersDropped = 0

def attemptsOf : List Attempt := wheel.attempts.filter fun attempt => isTimer id attempt.message

/-- Where the wheel has a timer. -/
inductive Place where
  | absent
  | waiting (entry : TimerEntry) (deadline : Instant)
  | pending (entry : TimerEntry)

def Place.buckets : Place → List (Instant × TimerEntry)
  | .waiting entry deadline => [(deadline,entry)]
  | _ => []

def Place.deadline : Place → Option Instant
  | .waiting _ deadline => some deadline
  | _ => none

def Place.messages : Place → List RuntimeMessage
  | .pending entry => [entry.message]
  | _ => []

/-- Everything the wheel holds of the timer stands in this place. -/
structure At (id : TimerId) (place : Place) : Prop where
  buckets : spread id wheel.timersByDeadline.rows = place.buckets
  mapped : wheel.timerMap.lookup id = place.deadline
  pending : pendingOf id wheel = place.messages

end

variable {shards : Shards W} {limit : Nat} {id : TimerId} {entry : TimerEntry} {deadline now : Instant} {wheel : Wheel W}

section Buckets

variable {table : Table (Prod.fst : Instant × List TimerEntry → Instant)}

theorem spread_append (id : TimerId) (front rest : List (Instant × List TimerEntry)) :
    spread id (front ++ rest) = spread id front ++ spread id rest := flatMap_append

theorem mem_spread (member : pair ∈ spread id buckets) :
    ∃ bucket ∈ buckets, bucket.1 = pair.1 ∧ pair.2 ∈ bucket.2 ∧ pair.2.timerId = id := by
  obtain ⟨bucket,held,member⟩ := mem_flatMap.mp member
  obtain ⟨entry,inside,rfl⟩ := mem_map.mp member
  obtain ⟨inside,named⟩ := mem_filter.mp inside
  exact ⟨bucket,held,rfl,inside,of_decide_eq_true named⟩

theorem spread_snd (id : TimerId) (buckets : List (Instant × List TimerEntry)) :
    (buckets.flatMap Prod.snd).filter (·.timerId = id) = (spread id buckets).map Prod.snd := by
  induction buckets with
  | nil => rfl
  | cons bucket buckets ih =>
    rw [flatMap_cons,filter_append,ih]
    simp [spread]

theorem spread_found (found : table.find deadline = some bucket) :
    spread id [bucket] = (bucket.2.filter (·.timerId = id)).map (deadline,·) := by
  obtain ⟨-,rfl⟩ := table.find_eq_some.mp found
  simp [spread]

theorem spread_put (id : TimerId) (entry : TimerEntry) (deadline : Instant)
    (table : Table (Prod.fst : Instant × List TimerEntry → Instant))
    (fresh : entry.timerId = id → spread id table.rows = []) :
    spread id (table.put (deadline,((table.find deadline).map Prod.snd).getD [] ++ [entry])).rows =
      spread id table.rows ++ (if entry.timerId = id then [(deadline,entry)] else []) := by
  obtain ⟨before,after,shape,put,-⟩ := table.rows_around deadline
  have old : spread id (table.find deadline).toList =
      ((((table.find deadline).map Prod.snd).getD []).filter (·.timerId = id)).map (deadline,·) := by
    cases found : table.find deadline with
    | none => rfl
    | some bucket => exact spread_found found
  have new : spread id ((deadline,((table.find deadline).map Prod.snd).getD [] ++ [entry]) :: after) =
      spread id (table.find deadline).toList ++ (if entry.timerId = id then [(deadline,entry)] else []) ++ spread id after := by
    rw [old,spread,flatMap_cons,filter_append,map_append]
    by_cases same : entry.timerId = id <;> simp [same,spread]
  rw [put _ rfl,spread_append,new]
  by_cases same : entry.timerId = id
  · have none := fresh same
    rw [shape,spread_append,spread_append,append_eq_nil_iff,append_eq_nil_iff] at none
    rw [shape,spread_append,spread_append,none.1.1,none.1.2,none.2,append_nil]
    rfl
  · rw [if_neg same,append_nil,append_nil,shape,spread_append,spread_append,append_assoc]

theorem spread_discard (id : TimerId) :
    spread id (discard timerId deadline table).rows =
      (spread id table.rows).filter fun pair => !decide (pair.1 = deadline ∧ pair.2.timerId = timerId) := by
  obtain ⟨before,after,shape,put,removed⟩ := table.rows_around deadline
  have apart (buckets : List (Instant × List TimerEntry)) (part : buckets ⊆ before ++ after) :
      (spread id buckets).filter (fun pair => !decide (pair.1 = deadline ∧ pair.2.timerId = timerId)) = spread id buckets := by
    refine filter_eq_self.mpr fun pair member => ?_
    obtain ⟨bucket,held,keyed,-⟩ := mem_spread member
    have other := (table.mem_remove.mp (removed ▸ part held)).2
    simp [← keyed,other]
  have front := apart before (subset_append_left before after)
  have behind := apart after (subset_append_right before after)
  unfold discard
  cases found : table.find deadline with
  | none => rw [shape,found,spread_append,spread_append,filter_append,filter_append,front,behind]; rfl
  | some bucket =>
    have here : (spread id [bucket]).filter (fun pair => !decide (pair.1 = deadline ∧ pair.2.timerId = timerId)) =
        ((bucket.2.filter (·.timerId ≠ timerId)).filter (·.timerId = id)).map (deadline,·) := by
      rw [spread_found found,filter_map,filter_filter,filter_filter]
      simp [Bool.and_comm]
    rw [shape,found,Option.toList_some,spread_append,spread_append,filter_append,filter_append,front,behind,here]
    simp only
    split
    · rename_i blank
      rw [removed,spread_append,blank]
      simp
    · rw [put _ rfl,spread_append]
      simp [spread]

end Buckets

section Limit

theorem enforceLimit_eq (kept : (enforceLimit limit wheel).Kept) : enforceLimit limit wheel = wheel := by
  have none := (Nat.add_eq_zero_iff.mp kept).2
  simp [enforceLimit,none]

variable (shards limit entry now wheel)

theorem dropped_dispatch : (dispatch shards now message wheel).2.timersDropped = wheel.timersDropped := by
  unfold dispatch
  split <;> rfl

theorem dropped_offer : wheel.timersDropped ≤ (offer shards limit now entry wheel).timersDropped := by
  unfold offer
  simp only
  split
  · exact le_refl _
  · exact Nat.le_add_right _ _

theorem dropped_fire : wheel.timersDropped ≤ (fire shards limit now wheel entry).timersDropped := by
  unfold fire
  split
  · exact dropped_offer shards limit entry now { wheel with timerMap := wheel.timerMap.erase entry.timerId }
  · exact le_refl _

theorem dropped_foldl_fire (entries : List TimerEntry) :
    wheel.timersDropped ≤ (entries.foldl (fire shards limit now) wheel).timersDropped := by
  induction entries generalizing wheel with
  | nil => exact le_refl _
  | cons entry entries ih => exact (dropped_fire shards limit entry now wheel).trans (ih _)

theorem dropped_retry (messages : List RuntimeMessage) :
    (retry shards now messages wheel).2.timersDropped = wheel.timersDropped := by
  induction messages generalizing wheel with
  | nil => rfl
  | cons message messages ih => exact (ih _).trans (dropped_dispatch shards now wheel)

theorem dropped_unschedule (id : TimerId) : (unschedule id wheel).timersDropped = wheel.timersDropped := by
  unfold unschedule
  split <;> rfl

theorem dropped_processExpired : wheel.timersDropped ≤ (processExpired shards limit now wheel).timersDropped :=
  dropped_foldl_fire shards limit now
    { wheel with timersByDeadline := wheel.timersByDeadline.dropWhile fun bucket => bucket.1 ≤ now } _

theorem dropped_processPending : wheel.timersDropped ≤ (processPendingDispatch shards limit now wheel).timersDropped := by
  have offered := dropped_retry shards now { wheel with pendingDispatch := [] } wheel.pendingDispatch
  exact offered.ge.trans (Nat.le_add_right _ _)

theorem dropped_step : wheel.timersDropped ≤ (step shards limit wheel event).timersDropped := by
  cases event with
  | schedule entry deadline => exact le_refl _
  | cancel key id =>
    rw [← dropped_unschedule wheel id]
    exact Nat.le_add_right _ _
  | tick now => exact (dropped_processExpired shards limit now wheel).trans (dropped_processPending shards limit now _)

theorem dropped_execute :
    wheel.timersDropped ≤ (execute (step shards limit) wheel events).timersDropped := by
  induction events generalizing wheel with
  | nil => exact le_refl _
  | cons event events ih => exact (dropped_step shards limit wheel).trans (ih _)

end Limit

section Offers

/-- Nothing of the timer has changed. -/
structure Same (id : TimerId) (wheel wheel' : Wheel W) : Prop where
  buckets : spread id wheel'.timersByDeadline.rows = spread id wheel.timersByDeadline.rows
  mapped : wheel'.timerMap.lookup id = wheel.timerMap.lookup id
  pending : pendingOf id wheel' = pendingOf id wheel
  attempts : attemptsOf id wheel' = attemptsOf id wheel

theorem Same.refl (id : TimerId) (wheel : Wheel W) : Same id wheel wheel := ⟨rfl,rfl,rfl,rfl⟩

theorem Same.trans (first : Same id wheel middle) (second : Same id middle wheel') : Same id wheel wheel' :=
  ⟨second.buckets.trans first.buckets,second.mapped.trans first.mapped,second.pending.trans first.pending,
    second.attempts.trans first.attempts⟩

theorem Same.at (same : Same id wheel wheel') (located : At wheel id place) : At wheel' id place :=
  ⟨same.buckets.trans located.buckets,same.mapped.trans located.mapped,same.pending.trans located.pending⟩

/-- Where a timer is in the second wheel, and its offers since the first. -/
structure Leaves (id : TimerId) (wheel wheel' : Wheel W) (attempts : List Attempt) (place : Place) : Prop where
  located : At wheel' id place
  logged : attemptsOf id wheel' = attemptsOf id wheel ++ attempts

theorem Same.leaves (same : Same id wheel wheel') (located : At wheel id place) : Leaves id wheel wheel' [] place :=
  ⟨same.at located,same.attempts.trans (append_nil _).symm⟩

theorem Leaves.trans (first : Leaves id wheel middle attempts place) (rest : Leaves id middle wheel' more place') :
    Leaves id wheel wheel' (attempts ++ more) place' :=
  ⟨rest.located,by rw [rest.logged,first.logged,append_assoc]⟩

def Shards.attempt (shards : Shards W) (now : Instant) (entry : TimerEntry) (outcome : SendOutcome) : Attempt :=
  ⟨now,shards.route entry.deviceKey,entry.message,outcome⟩

/-- One offer of a timer: it is over or comes back. -/
inductive Offered (shards : Shards W) (entry : TimerEntry) (now : Instant) : Place → List Attempt → Prop where
  | settled (outcome : SendOutcome) (taken : outcome ≠ .full) :
      Offered shards entry now .absent [shards.attempt now entry outcome]
  | back : Offered shards entry now (.pending entry) [shards.attempt now entry .full]

theorem Offered.clear (offered : Offered shards entry now place attempts) : place.buckets = [] ∧ place.deadline = none := by
  cases offered <;> exact ⟨rfl,rfl⟩

def Turn (shards : Shards W) (entry : TimerEntry) (now : Instant) (wheel wheel' : Wheel W) : Prop :=
  ∃ place attempts, Offered shards entry now place attempts ∧ Leaves entry.timerId wheel wheel' attempts place

theorem Turn.after_same (same : Same entry.timerId wheel middle) (turn : Turn shards entry now middle wheel') :
    Turn shards entry now wheel wheel' := by
  obtain ⟨place,attempts,offered,located,logged⟩ := turn
  exact ⟨place,attempts,offered,located,by rw [logged,same.attempts]⟩

theorem Turn.same_after (turn : Turn shards entry now wheel middle) (same : Same entry.timerId middle wheel') :
    Turn shards entry now wheel wheel' := by
  obtain ⟨place,attempts,offered,located,logged⟩ := turn
  exact ⟨place,attempts,offered,same.at located,same.attempts.trans logged⟩

def Wheel.tried (wheel : Wheel W) (world : W) (attempts : List Attempt) : Wheel W :=
  { wheel with world := world, attempts := wheel.attempts ++ attempts }

theorem Wheel.tried_tried (wheel : Wheel W) (world world' : W) (attempts more : List Attempt) :
    (wheel.tried world attempts).tried world' more = wheel.tried world' (attempts ++ more) := by
  simp [tried]

theorem Wheel.attemptsOf_tried (wheel : Wheel W) (world : W) (attempts : List Attempt) :
    attemptsOf id (wheel.tried world attempts) = attemptsOf id wheel ++ attempts.filter fun attempt =>
      isTimer id attempt.message :=
  filter_append ..

theorem Wheel.attemptsOf_quiet (wheel : Wheel W) (world : W) (others : ∀ attempt ∈ given, isTimer id attempt.message = false) :
    attemptsOf id (wheel.tried world given) = attemptsOf id wheel := by
  rw [wheel.attemptsOf_tried,filter_eq_nil_iff.mpr fun attempt member => by simp [others attempt member],append_nil]

theorem dispatch_eq (message : RuntimeMessage) :
    ∃ taken world attempts, dispatch shards now message wheel = (taken,wheel.tried world attempts) ∧
      ∀ attempt ∈ attempts, attempt.message = message := by
  unfold dispatch
  split
  · exact ⟨false,wheel.world,[],by simp [Wheel.tried],forall_mem_nil _⟩
  · exact ⟨_,_,_,rfl,forall_mem_singleton.mpr rfl⟩

theorem dispatch_timer (shards : Shards W) (now : Instant) (entry : TimerEntry) :
    ∃ taken world place attempts, dispatch shards now entry.message wheel = (taken,wheel.tried world attempts) ∧
      Offered shards entry now place attempts ∧ (if taken then [] else [entry.message]) = place.messages ∧
      attemptsOf entry.timerId (wheel.tried world attempts) = attemptsOf entry.timerId wheel ++ attempts := by
  let answer := shards.trySend (shards.route entry.deviceKey) entry.message wheel.world
  have logged : attemptsOf entry.timerId (wheel.tried answer.2 [shards.attempt now entry answer.1]) =
      attemptsOf entry.timerId wheel ++ [shards.attempt now entry answer.1] := by
    rw [wheel.attemptsOf_tried]
    simp [Shards.attempt,isTimer,TimerEntry.message]
  have dispatched : dispatch shards now entry.message wheel =
      (decide (answer.1 ≠ .full),wheel.tried answer.2 [shards.attempt now entry answer.1]) := rfl
  by_cases full : answer.1 = .full
  · rw [full] at dispatched logged
    exact ⟨_,_,_,_,dispatched,.back,rfl,logged⟩
  · rw [decide_eq_true full] at dispatched
    exact ⟨_,_,_,_,dispatched,.settled _ full,rfl,logged⟩

theorem offer_other (other : entry.timerId ≠ id) (kept : (offer shards limit now entry wheel).Kept) :
    Same id wheel (offer shards limit now entry wheel) := by
  have foreign : isTimer id entry.message = false := decide_eq_false other
  obtain ⟨taken,world,attempts,dispatched,mine⟩ := dispatch_eq entry.message
  have quiet := wheel.attemptsOf_quiet world fun attempt member => (mine attempt member).symm ▸ foreign
  unfold offer at kept ⊢
  rw [dispatched] at kept ⊢
  cases taken with
  | true => exact ⟨rfl,rfl,rfl,quiet⟩
  | false =>
    simp only at kept ⊢
    rw [enforceLimit_eq kept]
    refine ⟨rfl,rfl,?_,quiet⟩
    simp [pendingOf,Wheel.tried,foreign]

theorem fire_other (other : entry.timerId ≠ id) (kept : (fire shards limit now wheel entry).Kept) :
    Same id wheel (fire shards limit now wheel entry) := by
  unfold fire at kept ⊢
  split
  · rename_i mapped
    rw [if_pos mapped] at kept
    have removed : Same id wheel { wheel with timerMap := wheel.timerMap.erase entry.timerId } :=
      ⟨rfl,AList.lookup_erase_ne (Ne.symm other),rfl,rfl⟩
    exact removed.trans (offer_other other kept)
  · exact .refl id wheel

theorem offer_same (absent : At wheel entry.timerId .absent) (kept : (offer shards limit now entry wheel).Kept) :
    Turn shards entry now wheel (offer shards limit now entry wheel) := by
  obtain ⟨taken,world,place,attempts,dispatched,offered,left,logged⟩ := dispatch_timer shards now entry
  have buckets := absent.buckets.trans offered.clear.1.symm
  have mapped := absent.mapped.trans offered.clear.2.symm
  refine ⟨place,attempts,offered,?_⟩
  unfold offer at kept ⊢
  rw [dispatched] at kept ⊢
  cases taken with
  | true => exact ⟨⟨buckets,mapped,absent.pending.trans left⟩,logged⟩
  | false =>
    simp only [Bool.false_eq_true,if_false] at kept left ⊢
    rw [enforceLimit_eq kept]
    refine ⟨⟨buckets,mapped,?_⟩,logged⟩
    rw [pendingOf,filter_append,← left]
    exact congrArg₂ (· ++ ·) absent.pending (filter_cons_of_pos (decide_eq_true rfl))

structure Due (wheel : Wheel W) (id : TimerId) : Prop where
  taken : spread id wheel.timersByDeadline.rows = []
  mapped : (wheel.timerMap.lookup id).isSome = true
  clear : pendingOf id wheel = []

theorem Due.of_same (due : Due wheel id) (same : Same id wheel wheel') : Due wheel' id :=
  ⟨same.buckets.trans due.taken,by rw [same.mapped]; exact due.mapped,same.pending.trans due.clear⟩

theorem fire_due (due : Due wheel entry.timerId) (kept : (fire shards limit now wheel entry).Kept) :
    Turn shards entry now wheel (fire shards limit now wheel entry) := by
  unfold fire at kept ⊢
  rw [if_pos due.mapped] at kept ⊢
  have absent : At { wheel with timerMap := wheel.timerMap.erase entry.timerId } entry.timerId .absent :=
    ⟨due.taken,AList.lookup_erase _ _,due.clear⟩
  obtain ⟨place,attempts,offered,located,logged⟩ := offer_same absent kept
  exact ⟨place,attempts,offered,located,logged⟩

theorem foldl_fire_other (entries : List TimerEntry) (others : ∀ entry ∈ entries, entry.timerId ≠ id) (wheel : Wheel W)
    (kept : (entries.foldl (fire shards limit now) wheel).Kept) :
    Same id wheel (entries.foldl (fire shards limit now) wheel) := by
  induction entries generalizing wheel with
  | nil => exact .refl id wheel
  | cons entry entries ih =>
    obtain ⟨other,others⟩ := forall_mem_cons.mp others
    have first := Nat.le_zero.mp (kept ▸ dropped_foldl_fire shards limit now (fire shards limit now wheel entry) entries)
    exact (fire_other other first).trans (ih others _ kept)

theorem foldl_fire_due (entries : List TimerEntry) (once : entries.filter (·.timerId = entry.timerId) = [entry])
    (due : Due wheel entry.timerId) (kept : (entries.foldl (fire shards limit now) wheel).Kept) :
    Turn shards entry now wheel (entries.foldl (fire shards limit now) wheel) := by
  obtain ⟨before,after,rfl,early,-,late⟩ := filter_eq_cons_iff.mp once
  have early : ∀ e ∈ before, e.timerId ≠ entry.timerId := by simpa using early
  have late : ∀ e ∈ after, e.timerId ≠ entry.timerId := by simpa using late
  rw [foldl_append,foldl_cons] at kept ⊢
  have keptFired := Nat.le_zero.mp (kept ▸ dropped_foldl_fire shards limit now (fire shards limit now _ entry) after)
  have keptFirst := Nat.le_zero.mp ((dropped_fire shards limit entry now _).trans keptFired.le)
  have same := foldl_fire_other before early wheel keptFirst
  have rest := foldl_fire_other after late _ kept
  exact ((fire_due (due.of_same same) keptFired).same_after rest).after_same same

end Offers

section Tick

theorem spread_due (member : pair ∈ spread id (wheel.expired now)) : pair.1 ≤ now := by
  obtain ⟨bucket,held,keyed,-⟩ := mem_spread member
  have due : decide (bucket.1 ≤ now) = true := all_eq_true.mp all_takeWhile bucket held
  exact keyed ▸ of_decide_eq_true due

theorem spread_later (member : pair ∈ spread id (wheel.timersByDeadline.rows.dropWhile fun bucket => bucket.1 ≤ now)) :
    now < pair.1 := by
  obtain ⟨bucket,held,keyed,-⟩ := mem_spread member
  rw [← keyed]
  exact wheel.timersByDeadline.mem_dropWhile_le now held

theorem spread_parts (id : TimerId) : spread id (wheel.expired now) =
        (spread id wheel.timersByDeadline.rows).filter (·.1 ≤ now) ∧
      spread id (wheel.timersByDeadline.dropWhile fun bucket => bucket.1 ≤ now).rows =
        (spread id wheel.timersByDeadline.rows).filter (now < ·.1) := by
  have parts : spread id wheel.timersByDeadline.rows = spread id (wheel.expired now) ++
        spread id (wheel.timersByDeadline.rows.dropWhile fun bucket => bucket.1 ≤ now) := by
    rw [← spread_append,takeWhile_append_dropWhile]
  constructor
  · rw [parts,filter_append,filter_eq_self.mpr fun pair member => decide_eq_true (spread_due member),
      filter_eq_nil_iff.mpr fun pair member => by simpa using spread_later member,append_nil]
  · rw [parts,filter_append,filter_eq_nil_iff.mpr fun pair member => by simpa using spread_due member,
      filter_eq_self.mpr fun pair member => decide_eq_true (spread_later member)]
    rfl

theorem processExpired_early (located : At wheel id place) (early : ∀ pair ∈ place.buckets, now < pair.1)
    (kept : (processExpired shards limit now wheel).Kept) : Same id wheel (processExpired shards limit now wheel) := by
  obtain ⟨due,later⟩ := spread_parts id
  rw [← located.buckets] at early
  have none := due.trans (filter_eq_nil_iff.mpr fun pair member => by simpa using early pair member)
  have others : ∀ entry ∈ (wheel.expired now).flatMap Prod.snd, entry.timerId ≠ id := by
    have empty := spread_snd id (wheel.expired now)
    rw [none,map_nil,filter_eq_nil_iff] at empty
    simpa using empty
  have cut : Same id wheel { wheel with timersByDeadline := wheel.timersByDeadline.dropWhile fun bucket => bucket.1 ≤ now } :=
    ⟨later.trans (filter_eq_self.mpr fun pair member => decide_eq_true (early pair member)),rfl,rfl,rfl⟩
  exact cut.trans (foldl_fire_other _ others _ kept)

theorem processExpired_due (located : At wheel entry.timerId (.waiting entry deadline)) (due : deadline ≤ now)
    (kept : (processExpired shards limit now wheel).Kept) :
    Turn shards entry now wheel (processExpired shards limit now wheel) := by
  obtain ⟨front,later⟩ := spread_parts entry.timerId
  rw [located.buckets] at front later
  have once := spread_snd entry.timerId (wheel.expired now)
  rw [front] at once
  have expired : Due
      { wheel with timersByDeadline := wheel.timersByDeadline.dropWhile fun bucket => bucket.1 ≤ now } entry.timerId :=
    ⟨later.trans (by simp [Place.buckets,due]),located.mapped ▸ rfl,located.pending⟩
  obtain ⟨place,attempts,offered,moved,logged⟩ := foldl_fire_due _ (once.trans (by simp [Place.buckets,due])) expired kept
  exact ⟨place,attempts,offered,moved,logged⟩

theorem retry_cons (dispatched : dispatch shards now message wheel = (taken,wheel.tried world attempts))
    (retried : retry shards now messages (wheel.tried world attempts) =
      (remaining,(wheel.tried world attempts).tried world' more)) :
    retry shards now (message :: messages) wheel =
    (if taken then remaining else message :: remaining,wheel.tried world' (attempts ++ more)) := by
  simp [retry,dispatched,retried,Wheel.tried_tried]

theorem retry_eq (wheel : Wheel W) :
    ∃ remaining world attempts, retry shards now messages wheel = (remaining,wheel.tried world attempts) ∧
      remaining.Sublist messages ∧ ∀ attempt ∈ attempts, attempt.message ∈ messages := by
  induction messages generalizing wheel with
  | nil => exact ⟨[],wheel.world,[],by simp [retry,Wheel.tried],.slnil,forall_mem_nil _⟩
  | cons message messages ih =>
    obtain ⟨taken,world,attempts,dispatched,mine⟩ := dispatch_eq message
    obtain ⟨remaining,world',attempts',retried,part,theirs⟩ := ih (wheel.tried world attempts)
    refine ⟨_,world',_,retry_cons dispatched retried,?_,?_⟩
    · split
      · exact part.cons message
      · exact part.cons_cons message
    · refine forall_mem_append.mpr ⟨fun attempt member => mine attempt member ▸ mem_cons_self,fun attempt member => ?_⟩
      exact mem_cons_of_mem message (theirs attempt member)

theorem retry_other (others : messages.filter (isTimer id) = []) (shards : Shards W) (now : Instant)
    (wheel : Wheel W) :
    ∃ remaining world attempts, retry shards now messages wheel = (remaining,wheel.tried world attempts) ∧
      remaining.filter (isTimer id) = [] ∧ attemptsOf id (wheel.tried world attempts) = attemptsOf id wheel := by
  obtain ⟨remaining,world,attempts,retried,part,theirs⟩ := retry_eq wheel
  refine ⟨remaining,world,attempts,retried,sublist_nil.mp (others ▸ part.filter _),wheel.attemptsOf_quiet world ?_⟩
  exact fun attempt member => by simpa using filter_eq_nil_iff.mp others _ (theirs attempt member)

theorem retry_same (once : messages.filter (isTimer entry.timerId) = [entry.message]) (wheel : Wheel W) :
    ∃ remaining world place attempts tried, retry shards now messages wheel = (remaining,wheel.tried world tried) ∧
      Offered shards entry now place attempts ∧ remaining.filter (isTimer entry.timerId) = place.messages ∧
      attemptsOf entry.timerId (wheel.tried world tried) = attemptsOf entry.timerId wheel ++ attempts := by
  induction messages generalizing wheel with
  | nil => cases once
  | cons message messages ih =>
    by_cases mine : isTimer entry.timerId message = true
    · rw [filter_cons_of_pos mine] at once
      obtain ⟨rfl,rest⟩ := List.cons.inj once
      obtain ⟨taken,world,place,attempts,dispatched,offered,left,logged⟩ := dispatch_timer shards now entry
      obtain ⟨remaining,world',tried,retried,none,quiet⟩ := retry_other rest shards now (wheel.tried world attempts)
      refine ⟨_,world',place,attempts,_,retry_cons dispatched retried,offered,?_,?_⟩
      · rw [← left]
        split
        · exact none
        · rw [filter_cons_of_pos mine,none]
      · rw [← Wheel.tried_tried,quiet,logged]
    rw [filter_cons_of_neg mine] at once
    obtain ⟨taken,world,attempts,dispatched,theirs⟩ := dispatch_eq message
    obtain ⟨remaining,world',place,more,tried,retried,offered,left,logged⟩ := ih once (wheel.tried world attempts)
    refine ⟨_,world',place,more,_,retry_cons dispatched retried,offered,?_,?_⟩
    · split
      · exact left
      · rw [filter_cons_of_neg mine,left]
    · rw [← Wheel.tried_tried,logged,wheel.attemptsOf_quiet world fun attempt member =>
        by simpa [theirs attempt member] using mine]

theorem processPending_other (clear : pendingOf id wheel = []) (kept : (processPendingDispatch shards limit now wheel).Kept) :
    Same id wheel (processPendingDispatch shards limit now wheel) := by
  obtain ⟨remaining,world,attempts,retried,none,quiet⟩ :=
    retry_other clear shards now { wheel with pendingDispatch := [] }
  unfold processPendingDispatch at kept ⊢
  simp only [retried] at kept ⊢
  rw [enforceLimit_eq kept]
  exact ⟨rfl,rfl,none.trans clear.symm,quiet⟩

theorem processPending_same (located : At wheel entry.timerId (.pending entry))
    (kept : (processPendingDispatch shards limit now wheel).Kept) :
    Turn shards entry now wheel (processPendingDispatch shards limit now wheel) := by
  obtain ⟨remaining,world,place,attempts,tried,retried,offered,left,logged⟩ :=
    retry_same located.pending { wheel with pendingDispatch := [] }
  refine ⟨place,attempts,offered,?_⟩
  unfold processPendingDispatch at kept ⊢
  simp only [retried] at kept ⊢
  rw [enforceLimit_eq kept]
  exact ⟨⟨located.buckets.trans offered.clear.1.symm,located.mapped.trans offered.clear.2.symm,left⟩,logged⟩

end Tick

section Run

/-- The times of the ticks up to the cancel of a timer. -/
def retries (id : TimerId) : List TimerEvent → List Instant
  | [] => []
  | .schedule _ _ :: events => retries id events
  | .cancel _ timerId :: events => if timerId = id then [] else retries id events
  | .tick now :: events => now :: retries id events

def plan (id : TimerId) (deadline : Instant) : List TimerEvent → List Instant
  | [] => []
  | .schedule _ _ :: events => plan id deadline events
  | .cancel _ timerId :: events => if timerId = id then [] else plan id deadline events
  | .tick now :: events => if deadline ≤ now then now :: now :: retries id events else plan id deadline events

def Follows : List Instant → List Attempt → Prop
  | [], attempts => attempts = []
  | now :: times, attempts => ∃ attempt rest, attempts = attempt :: rest ∧ attempt.now = now ∧
      if attempt.outcome = .full then Follows times rest else rest = []

def Unscheduled (id : TimerId) (events : List TimerEvent) : Prop :=
  ∀ event ∈ events, ∀ entry deadline, event = .schedule entry deadline → entry.timerId ≠ id

def Owned (shards : Shards W) (entry : TimerEntry) (attempts : List Attempt) : Prop :=
  ∀ attempt ∈ attempts, attempt.message = entry.message ∧ attempt.shard = shards.route entry.deviceKey

theorem Offered.owned (offered : Offered shards entry now place attempts) : Owned shards entry attempts := by
  cases offered <;> exact forall_mem_singleton.mpr ⟨rfl,rfl⟩

theorem schedule_other (other : entry.timerId ≠ id) (deadline : Instant) (wheel : Wheel W) :
    Same id wheel (schedule entry deadline wheel) := by
  refine ⟨?_,AList.lookup_insert_ne (Ne.symm other),rfl,rfl⟩
  have joined := spread_put id entry deadline wheel.timersByDeadline fun same => absurd same other
  rwa [if_neg other,append_nil] at joined

theorem schedule_same (named : entry.timerId = id) (absent : At wheel id .absent) (deadline : Instant) :
    At (schedule entry deadline wheel) id (.waiting entry deadline) := by
  refine ⟨?_,?_,absent.pending⟩
  · have joined := spread_put id entry deadline wheel.timersByDeadline fun _ => absent.buckets
    rw [absent.buckets,if_pos named] at joined
    exact joined
  · subst named
    exact AList.lookup_insert wheel.timerMap

theorem unschedule_other (other : timerId ≠ id) : Same id wheel (unschedule timerId wheel) := by
  unfold unschedule
  split
  · exact .refl id wheel
  · refine ⟨(spread_discard id).trans (filter_eq_self.mpr fun pair member => ?_),AList.lookup_erase_ne (Ne.symm other),rfl,rfl⟩
    obtain ⟨-,-,-,-,rfl⟩ := mem_spread member
    simp [Ne.symm other]

theorem cancel_other (other : timerId ≠ id) (kept : (cancel limit timerId wheel).Kept) :
    Same id wheel (cancel limit timerId wheel) := by
  unfold cancel at kept ⊢
  rw [enforceLimit_eq kept]
  refine (unschedule_other other).trans ⟨rfl,rfl,?_,rfl⟩
  simp only [pendingOf,filter_filter]
  refine filter_congr fun message _ => ?_
  cases message with
  | timer key messageId kind =>
    by_cases same : messageId = id
    · simp [isTimer,same,Ne.symm other]
    · simp [isTimer,same]
  | _ => rfl

theorem cancel_same (located : At wheel id place) (kept : (cancel limit id wheel).Kept) :
    Leaves id wheel (cancel limit id wheel) [] .absent := by
  unfold cancel at kept ⊢
  rw [enforceLimit_eq kept]
  have gone (messages : List RuntimeMessage) :
    (messages.filter fun message => !isTimer id message).filter (isTimer id) = [] := by
    simp
  unfold unschedule
  rw [located.mapped]
  cases place with
  | absent => exact ⟨⟨located.buckets,located.mapped,gone _⟩,(append_nil _).symm⟩
  | pending entry => exact ⟨⟨located.buckets,located.mapped,gone _⟩,(append_nil _).symm⟩
  | waiting entry deadline =>
    refine ⟨⟨?_,AList.lookup_erase _ _,gone _⟩,(append_nil _).symm⟩
    have held : (deadline,entry) ∈ spread id wheel.timersByDeadline.rows := by simp [located.buckets,Place.buckets]
    obtain ⟨-,-,-,-,rfl⟩ := mem_spread held
    exact (spread_discard _).trans (by simp [located.buckets,Place.buckets])

def Place.plan (id : TimerId) (events : List TimerEvent) : Place → List Instant
  | .absent => []
  | .waiting _ deadline => Runtime.plan id deadline events
  | .pending _ => retries id events

def Place.Holds (entry : TimerEntry) : Place → Prop
  | .absent => True
  | .waiting other _ => other = entry
  | .pending other => other = entry

/-- What an event does to a timer, other than schedule it. -/
inductive Passes (shards : Shards W) (entry : TimerEntry) : TimerEvent → Place → List Attempt → Place → Prop where
  | stays (calm : ∀ events, place.plan entry.timerId (event :: events) = place.plan entry.timerId events) :
    Passes shards entry event place [] place
  | cancelled : Passes shards entry (.cancel key entry.timerId) place [] .absent
  | retried {now : Instant} (offered : Offered shards entry now place attempts) :
      Passes shards entry (.tick now) (.pending entry) attempts place
  | taken {now deadline : Instant} (due : deadline ≤ now) (offered : Offered shards entry now .absent attempts) :
    Passes shards entry (.tick now) (.waiting entry deadline) attempts .absent
  | repeated {now deadline : Instant} (due : deadline ≤ now) (came : Offered shards entry now (.pending entry) attempts)
    (offered : Offered shards entry now place more) :
      Passes shards entry (.tick now) (.waiting entry deadline) (attempts ++ more) place

theorem Offered.follows (offered : Offered shards entry now place attempts)
    (rest : Follows (place.plan entry.timerId events) more) :
    Follows (now :: retries entry.timerId events) (attempts ++ more) := by
  cases offered with
  | settled outcome taken =>
    obtain rfl : more = [] := rest
    exact ⟨_,[],rfl,rfl,by simp [Shards.attempt,taken]⟩
  | back => exact ⟨_,more,rfl,rfl,by simpa [Shards.attempt,Place.plan] using rest⟩

section

variable (passes : Passes shards entry event place attempts place')
include passes

theorem Passes.follows (rest : Follows (place'.plan entry.timerId events) more) :
    Follows (place.plan entry.timerId (event :: events)) (attempts ++ more) := by
  cases passes with
  | stays calm => rwa [calm]
  | cancelled =>
    obtain rfl : more = [] := rest
    cases place <;> simp [Place.plan,plan,retries,Follows]
  | retried offered => exact offered.follows rest
  | taken due offered =>
    rw [Place.plan,plan,if_pos due]
    cases offered with
    | settled outcome taken =>
      obtain rfl : more = [] := rest
      exact ⟨_,[],rfl,rfl,by simp [Shards.attempt,taken]⟩
  | repeated due came offered =>
    rw [Place.plan,plan,if_pos due,append_assoc]
    cases came with
    | back => exact ⟨_,_,rfl,rfl,by simpa [Shards.attempt] using offered.follows rest⟩

theorem Passes.owned : Owned shards entry attempts := by
  cases passes with
  | stays | cancelled => exact forall_mem_nil _
  | retried offered | taken _ offered => exact offered.owned
  | repeated _ came offered => exact forall_mem_append.mpr ⟨came.owned,offered.owned⟩

theorem Passes.keeps : (place.Holds entry → place'.Holds entry) ∧ (place = .absent → place' = .absent) := by
  have offered_holds {now place attempts} (offered : Offered shards entry now place attempts) : place.Holds entry := by
    cases offered <;> trivial
  cases passes with
  | stays => exact ⟨id,id⟩
  | cancelled => exact ⟨fun _ => trivial,fun _ => rfl⟩
  | retried offered | taken _ offered | repeated _ _ offered => exact ⟨fun _ => offered_holds offered,nofun⟩

end

/-- The step lemma: a timer that is not scheduled again passes as it should. -/
theorem step_passes (located : At wheel entry.timerId place) (own : place.Holds entry)
    (unscheduled : ∀ other deadline, event = .schedule other deadline → other.timerId ≠ entry.timerId)
    (kept : (step shards limit wheel event).Kept) :
    ∃ place' attempts, Passes shards entry event place attempts place' ∧ Leaves entry.timerId wheel
    (step shards limit wheel event) attempts place' := by
  cases event with
  | schedule other deadline =>
    have same := schedule_other (unscheduled other deadline rfl) deadline wheel
    exact ⟨place,[],.stays fun _ => by cases place <;> rfl,same.leaves located⟩
  | cancel key timerId =>
    by_cases mine : timerId = entry.timerId
    · subst mine
      exact ⟨_,_,.cancelled,cancel_same located kept⟩
    · refine ⟨place,[],.stays fun _ => ?_,(cancel_other mine kept).leaves located⟩
      cases place <;> simp [Place.plan,plan,retries,mine]
  | tick now =>
    have keptExpired := Nat.le_zero.mp ((dropped_processPending shards limit now _).trans kept.le)
    cases place with
    | absent =>
      have first := processExpired_early located (forall_mem_nil _) keptExpired
      have rest := processPending_other (first.at located).pending kept
      exact ⟨_,_,.stays fun _ => rfl,(first.trans rest).leaves located⟩
    | pending other =>
      obtain rfl : other = entry := own
      have first := processExpired_early located (forall_mem_nil _) keptExpired
      obtain ⟨place,attempts,offered,left⟩ := (processPending_same (first.at located) kept).after_same first
      exact ⟨place,attempts,.retried offered,left⟩
    | waiting other deadline =>
      obtain rfl : other = entry := own
      by_cases due : deadline ≤ now
      · obtain ⟨place,attempts,offered,left⟩ := processExpired_due located due keptExpired
        cases shape : offered with
        | settled outcome taken =>
          have rest := processPending_other left.located.pending kept
          exact ⟨_,_,.taken due offered,rest.at left.located,rest.attempts.trans left.logged⟩
        | back =>
          obtain ⟨place,more,again,last⟩ := processPending_same left.located kept
          exact ⟨place,_,.repeated due offered again,left.trans last⟩
      · have first := processExpired_early located (forall_mem_singleton.mpr (not_le.mp due)) keptExpired
        have rest := processPending_other (first.at located).pending kept
        exact ⟨_,_,.stays fun _ => by simp [Place.plan,plan,due],(first.trans rest).leaves located⟩

/-- The run lemma: the offers of a timer follow the plan for its place. -/
theorem run_passes (unscheduled : Unscheduled entry.timerId events) (wheel : Wheel W)
    (located : At wheel entry.timerId place) (own : place.Holds entry) (kept : (execute (step shards limit) wheel events).Kept) :
    ∃ place' attempts, Follows (place.plan entry.timerId events) attempts ∧ Owned shards entry attempts ∧
      (place = .absent → place' = .absent) ∧ Leaves entry.timerId wheel
        (execute (step shards limit) wheel events) attempts place' := by
  induction events generalizing wheel place with
  | nil => exact ⟨place,[],by cases place <;> rfl,forall_mem_nil _,id,(Same.refl _ wheel).leaves located⟩
  | cons event events ih =>
    have first := Nat.le_zero.mp (kept ▸ dropped_execute shards limit (step shards limit wheel event))
    obtain ⟨now,later⟩ := forall_mem_cons.mp unscheduled
    obtain ⟨middle,attempts,passes,moved⟩ := step_passes located own now first
    obtain ⟨place',more,follows,owned,gone,left⟩ := ih later _ moved.located (passes.keeps.1 own) kept
    exact ⟨place',attempts ++ more,passes.follows follows,forall_mem_append.mpr ⟨passes.owned,owned⟩,
      fun absent => gone (passes.keeps.2 absent),moved.trans left⟩

theorem run_absent (unscheduled : Unscheduled entry.timerId events) (located : At wheel entry.timerId .absent)
    (kept : (execute (step shards limit) wheel events).Kept) :
    Leaves entry.timerId wheel (execute (step shards limit) wheel events) [] .absent := by
  obtain ⟨place,attempts,follows,-,gone,left⟩ := run_passes unscheduled wheel located trivial kept
  obtain rfl : attempts = [] := follows
  exact gone rfl ▸ left

/-- Once it is cancelled a timer is offered no more. -/
theorem run_cancelled (unscheduled : Unscheduled entry.timerId (middle ++ .cancel key entry.timerId :: rest))
    (located : At wheel entry.timerId (.waiting entry deadline))
    (kept : (execute (step shards limit) wheel (middle ++ .cancel key entry.timerId :: rest)).Kept) :
    attemptsOf entry.timerId (execute (step shards limit) wheel (middle ++ .cancel key entry.timerId :: rest)) =
      attemptsOf entry.timerId (execute (step shards limit) wheel middle) := by
  obtain ⟨early,late⟩ := forall_mem_append.mp unscheduled
  rw [execute_append] at kept ⊢
  have keptMiddle := Nat.le_zero.mp (kept ▸ dropped_execute shards limit (execute (step shards limit) wheel middle))
  obtain ⟨place,attempts,-,-,-,left⟩ := run_passes early wheel located rfl keptMiddle
  have keptCancel := Nat.le_zero.mp (kept ▸ dropped_execute shards limit (step shards limit _ (.cancel key entry.timerId)))
  have gone := cancel_same left.located keptCancel
  have quiet := (gone.trans (run_absent (forall_mem_cons.mp late).2 gone.located kept)).logged
  exact quiet.trans (append_nil _)

end Run

section Exact

variable (events : List TimerEvent)

def scheduled : List TimerId := events.filterMap fun
    | .schedule entry _ => some entry.timerId
    | _ => none

def ticks : List Instant := events.filterMap fun
    | .tick now => some now
    | _ => none

theorem mem_retries (member : time ∈ retries id events) : time ∈ ticks events := by
  induction events with
  | nil => cases member
  | cons event events ih =>
    cases event with
    | schedule entry deadline => exact ih member
    | cancel key timerId =>
      by_cases mine : timerId = id
      · rw [retries,if_pos mine] at member
        cases member
      · rw [retries,if_neg mine] at member
        exact ih member
    | tick now =>
      rcases mem_cons.mp member with rfl | member
      · exact mem_cons_self
      · exact mem_cons_of_mem _ (ih member)

theorem plan_due (ordered : (ticks events).Pairwise (· ≤ ·)) (member : time ∈ plan id deadline events) :
    deadline ≤ time := by
  induction events with
  | nil => cases member
  | cons event events ih =>
    cases event with
    | schedule entry other => exact ih ordered member
    | cancel key timerId =>
      by_cases mine : timerId = id
      · rw [plan,if_pos mine] at member
        cases member
      · rw [plan,if_neg mine] at member
        exact ih ordered member
    | tick now =>
      obtain ⟨later,ordered⟩ := pairwise_cons.mp ordered
      by_cases due : deadline ≤ now
      · rw [plan,if_pos due,mem_cons,mem_cons] at member
        rcases member with rfl | rfl | member
        · exact due
        · exact due
        · exact due.trans (later time (mem_retries events member))
      · rw [plan,if_neg due] at member
        exact ih ordered member

theorem Follows.answers (follows : Follows times attempts) :
    (∀ attempt ∈ attempts, attempt.now ∈ times) ∧ ∃ refused, (∀ attempt ∈ refused, attempt.outcome = .full) ∧
      (attempts = refused ∧ attempts.map (·.now) = times ∨ ∃ last, attempts = refused ++ [last] ∧ last.outcome ≠ .full) := by
  induction times generalizing attempts with
  | nil =>
    obtain rfl : attempts = [] := follows
    exact ⟨forall_mem_nil _,[],forall_mem_nil _,.inl ⟨rfl,rfl⟩⟩
  | cons now times ih =>
    obtain ⟨first,rest,rfl,timed,follows⟩ := follows
    by_cases full : first.outcome = .full
    · rw [if_pos full] at follows
      obtain ⟨inside,refused,all,ends⟩ := ih follows
      refine ⟨forall_mem_cons.mpr ⟨timed ▸ mem_cons_self,fun a member => mem_cons_of_mem _ (inside a member)⟩,
        first :: refused,forall_mem_cons.mpr ⟨full,all⟩,?_⟩
      rcases ends with ⟨rfl,whole⟩ | ⟨last,rfl,answer⟩
      · exact .inl ⟨rfl,by rw [map_cons,whole,timed]⟩
      · exact .inr ⟨last,rfl,answer⟩
    · rw [if_neg full] at follows
      subst follows
      exact ⟨forall_mem_singleton.mpr (timed ▸ mem_cons_self),[],forall_mem_nil _,.inr ⟨first,rfl,full⟩⟩

def handed (attempts : List Attempt) : List Attempt := attempts.filter (·.outcome = .accepted)

theorem handed_refused (all : ∀ attempt ∈ attempts, attempt.outcome = .full) : handed attempts = [] := by
  refine filter_eq_nil_iff.mpr fun attempt member => ?_
  rw [all attempt member]
  decide

theorem handed_append (all : ∀ attempt ∈ refused, attempt.outcome = .full) : handed (refused ++ rest) = handed rest := by
  rw [handed,filter_append]
  exact congrArg (· ++ handed rest) (handed_refused all)

/-- What becomes of a timer from its schedule on. -/
structure HandedOver (shards : Shards W) (limit : Nat) (entry : TimerEntry) (deadline : Instant) (wheel : Wheel W)
    (after : List TimerEvent) (attempts : List Attempt) : Prop where
  owned : Owned shards entry attempts
  offers : Follows (plan entry.timerId deadline after) attempts
  due : ∀ attempt ∈ attempts, deadline ≤ attempt.now
  once : (handed attempts).length ≤ 1
  settled : (∀ attempt ∈ attempts, attempt.outcome ≠ .closed) →
    (handed attempts).length = 1 ∨ attempts.map (·.now) = plan entry.timerId deadline after ∧
      ∀ attempt ∈ attempts, attempt.outcome = .full
  cancelled : ∀ middle key rest, after = middle ++ .cancel key entry.timerId :: rest →
    attempts = attemptsOf entry.timerId (execute (step shards limit) wheel middle)

theorem once_of_follows (follows : Follows times attempts) : (handed attempts).length ≤ 1 := by
  obtain ⟨-,refused,all,⟨rfl,-⟩ | ⟨last,rfl,-⟩⟩ := follows.answers
  · rw [handed_refused all]
    exact Nat.zero_le 1
  · rw [handed_append all]
    exact length_filter_le _ [last]

theorem settled_of_follows (follows : Follows times attempts)
    (opened : ∀ attempt ∈ attempts, attempt.outcome ≠ .closed) :
    (handed attempts).length = 1 ∨ attempts.map (·.now) = times ∧ ∀ attempt ∈ attempts, attempt.outcome = .full := by
  obtain ⟨-,refused,all,⟨rfl,whole⟩ | ⟨last,rfl,answer⟩⟩ := follows.answers
  · exact .inr ⟨whole,all⟩
  refine .inl ?_
  have accepted : last.outcome = .accepted := by
    have notClosed := opened last (mem_append_right refused mem_cons_self)
    cases outcome : last.outcome with
    | accepted => rfl
    | full => exact absurd outcome answer
    | closed => exact absurd outcome notClosed
  rw [handed_append all]
  simp [handed,accepted]

theorem unscheduled_of_not_mem (fresh : id ∉ scheduled events) : Unscheduled id events := by
  rintro event member entry deadline rfl rfl
  exact fresh (mem_filterMap.mpr ⟨_,member,rfl⟩)

theorem start_absent : At (Wheel.start world) id .absent := ⟨rfl,rfl,rfl⟩

/-- Exactness of the wheel: a timer is offered to its shard in the ticks from its deadline on until a
mailbox is not full, and is handed over at most once. -/
theorem timer_exact (shards : Shards W) (limit : Nat) (world : W) (before after : List TimerEvent)
    (entry : TimerEntry) (deadline : Instant)
    (distinct : (scheduled (before ++ .schedule entry deadline :: after)).Nodup)
    (ordered : (ticks (before ++ .schedule entry deadline :: after)).Pairwise (· ≤ ·))
    (kept : (execute (step shards limit) (Wheel.start world) (before ++ .schedule entry deadline :: after)).timersDropped = 0) :
    HandedOver shards limit entry deadline
    (execute (step shards limit) (Wheel.start world) (before ++ [.schedule entry deadline])) after
      (attemptsOf entry.timerId
        (execute (step shards limit) (Wheel.start world) (before ++ .schedule entry deadline :: after))) := by
  rw [scheduled,filterMap_append,nodup_append] at distinct
  obtain ⟨-,distinct,apart⟩ := distinct
  have freshBefore : Unscheduled entry.timerId before :=
    unscheduled_of_not_mem before fun member => apart _ member _ mem_cons_self rfl
  have freshAfter : Unscheduled entry.timerId after := unscheduled_of_not_mem after (nodup_cons.mp distinct).1
  rw [ticks,filterMap_append,pairwise_append] at ordered
  have ordered : (ticks after).Pairwise (· ≤ ·) := ordered.2.1
  rw [execute_append] at kept ⊢
  rw [execute_append]
  generalize shape : execute (step shards limit) (Wheel.start world) before = prepared at kept ⊢
  have keptBefore : (execute (step shards limit) (Wheel.start world) before).timersDropped = 0 := by
    rw [shape]
    exact Nat.le_zero.mp (kept ▸ dropped_execute shards limit prepared)
  obtain ⟨away,quiet⟩ := run_absent freshBefore start_absent keptBefore
  rw [shape] at away quiet
  have located := schedule_same rfl away deadline
  obtain ⟨place,attempts,follows,owned,-,left⟩ := run_passes freshAfter _ located rfl kept
  have logged := left.logged.trans
    (by rw [show attemptsOf entry.timerId (schedule entry deadline prepared) = [] from quiet,nil_append])
  change HandedOver shards limit entry deadline (schedule entry deadline prepared) after
    (attemptsOf entry.timerId (execute (step shards limit) (schedule entry deadline prepared) after))
  rw [logged]
  refine ⟨owned,follows,?_,once_of_follows follows,settled_of_follows follows,?_⟩
  · exact fun attempt member => plan_due after ordered (follows.answers.1 attempt member)
  · rintro middle key rest rfl
    rw [← logged]
    exact run_cancelled freshAfter located kept

end Exact

namespace Sample

/-- Shards whose mailboxes give the answers in a list, and then accept. -/
def answering : Shards (List SendOutcome) where
  shardCount := 2
  positive := by decide
  stableHash key := key.deviceId
  trySend _ _ answers := (answers.headD .accepted,answers.tail)

def keepalive : TimerEntry := ⟨⟨1,7⟩,1,"keepalive"⟩

def catalog : TimerEntry := ⟨⟨1,8⟩,2,"catalog"⟩

def afterKeepalive : List TimerEvent := [.schedule catalog 9,.tick 3,.cancel ⟨1,8⟩ 2,.tick 6,.tick 10,.tick 12]

/-- A mailbox that is full in one tick gets the timer in the next. -/
theorem keepalive_handed_over :
    HandedOver answering 4 keepalive 5
    (execute (step answering 4) (Wheel.start [.full,.full]) [.schedule keepalive 5]) afterKeepalive
      (attemptsOf 1 (execute (step answering 4) (Wheel.start [.full,.full]) (.schedule keepalive 5 :: afterKeepalive))) ∧
    (attemptsOf 1 (execute (step answering 4) (Wheel.start [.full,.full]) (.schedule keepalive 5 :: afterKeepalive))).map
      (fun attempt => (attempt.now,attempt.outcome)) = [(6,.full),(6,.full),(10,.accepted)] :=
  ⟨timer_exact answering 4 [.full,.full] [] afterKeepalive keepalive 5 (by decide) (by decide) rfl,rfl⟩

/-- A timer that meets a closed mailbox is dropped, though it is not cancelled, its queue does not
overflow and the mailboxes accept in the later ticks. -/
theorem keepalive_dropped :
    (scheduled (.schedule keepalive 5 :: afterKeepalive)).Nodup ∧
    (ticks (.schedule keepalive 5 :: afterKeepalive)).Pairwise (· ≤ ·) ∧
    (execute (step answering 4) (Wheel.start [.closed]) (.schedule keepalive 5 :: afterKeepalive)).timersDropped = 0 ∧
    (∀ key, TimerEvent.cancel key 1 ∉ afterKeepalive) ∧
    handed (attemptsOf 1 (execute (step answering 4) (Wheel.start [.closed]) (.schedule keepalive 5 :: afterKeepalive))) = [] ∧
    (attemptsOf 1 (execute (step answering 4) (Wheel.start [.closed]) (.schedule keepalive 5 :: afterKeepalive))).map
      (fun attempt => (attempt.now,attempt.outcome)) = [(6,.closed)] :=
  ⟨by decide,by decide,rfl,by simp [afterKeepalive],rfl,rfl⟩

end Sample

end CheetahSignaling.Runtime
