import CheetahSignaling.OutboxRelay

/-! Delivery of outbox events at least once, over every interleaving of any number of relays. What a
row says about an event is backed by publish calls that have returned: the attempts a relay writes
are those it has read and one more, and its own failed call came in between. -/
namespace CheetahSignaling.OutboxRelay

open GuardedRun Option
open List hiding after

variable {hash : EventId → Nat}
  {row : OutboxRow P}

def failures (calls : List Publish) (id : EventId) : Nat := calls.count ⟨id,false⟩

theorem failures_append (id : EventId) :
    failures (calls ++ more) id = failures calls id + failures more id := count_append

section

variable (calls : List Publish) (entry : OutboxEntry P)

/-- A row is marked only after the publication that it tells of. -/
structure OutboxRow.Sound (id : EventId) (row : OutboxRow P) : Prop where
  event : row.event.eventId = id
  published : row.published = true → ⟨id,true⟩ ∈ calls
  attempts : row.attempts ≤ failures calls id
  failed : row.failed = true → maxAttempts ≤ row.attempts

def Known : Prop := entry.attempts ≤ failures calls entry.event.eventId

def Backed : Except String Unit → Prop
  | .ok () => ⟨entry.event.eventId,true⟩ ∈ calls
  | .error _ => entry.attempts + 1 ≤ failures calls entry.event.eventId

end

def Relay.Sound (calls : List Publish) : Relay P → Prop
  | .reading _ => True
  | .publishing _ results rest => (∀ r ∈ results, Backed calls r.1 r.2) ∧ ∀ entry ∈ rest, Known calls entry
  | .recording _ rest => ∀ r ∈ rest, Backed calls r.1 r.2

/-! More calls -/

theorem OutboxRow.Sound.more (sound : row.Sound calls eventId) (more : List Publish) : row.Sound (calls ++ more) eventId where
  event := sound.event
  published marked := mem_append_left more (sound.published marked)
  attempts := by
    rw [failures_append]
    exact Nat.le_add_right_of_le sound.attempts
  failed := sound.failed

theorem Known.more (known : Known calls entry) (more : List Publish) : Known (calls ++ more) entry := by
  unfold Known at *
  rw [failures_append]
  exact Nat.le_add_right_of_le known

theorem Backed.more (backed : Backed calls entry result)
    (more : List Publish) : Backed (calls ++ more) entry result := by
  cases result with
  | ok => exact mem_append_left more backed
  | error text =>
    unfold Backed at *
    rw [failures_append]
    exact Nat.le_add_right_of_le backed

theorem Relay.Sound.more {relay : Relay P} (sound : relay.Sound calls) (more : List Publish) : relay.Sound (calls ++ more) := by
  cases relay with
  | reading now => trivial
  | publishing now results rest =>
    exact ⟨fun r member => (sound.1 r member).more more,fun entry member => (sound.2 entry member).more more⟩
  | recording now rest => exact fun r member => (sound r member).more more

theorem Known.backed (known : Known calls entry) (result : Except String Unit) :
    Backed (calls ++ [⟨entry.event.eventId,result.isOk⟩]) entry result := by
  cases result with
  | ok => exact mem_append_right calls (mem_singleton_self _)
  | error text =>
    unfold Known Backed at *
    rw [failures_append]
    have own : failures [⟨entry.event.eventId,false⟩] entry.event.eventId = 1 := count_singleton_self
    exact Nat.add_le_add known own.ge

/-! Statements -/

theorem lookup_update (id : EventId) :
    (update rows eventId change).lookup id = (rows.lookup id).map fun row => if id = eventId then change row else row := by
  rw [update,KeyMap.lookup_sweep,map_eq_bind]
  rfl

/-- What a statement of `record_results` can make of the entry's row. -/
inductive Recorded (entry : OutboxEntry P) (row : OutboxRow P) : Except String Unit → OutboxRow P → Prop
  | published : Recorded entry row (.ok ()) { row with published := true }
  | failed (attempts : Nat) (failed : Bool) (error : Option String) (nextAttemptAt : Option UtcTimestamp)
      (counted : attempts ≤ entry.attempts + 1) (parked : failed = true → maxAttempts ≤ attempts) :
      Recorded entry row (.error text) { row with attempts, failed, error, nextAttemptAt }

theorem lookup_record (store : SqlStore) (hash : EventId → Nat) (id : EventId) :
    ∃ change : OutboxRow P → OutboxRow P, (record store hash now rows entry result).lookup id = (rows.lookup id).map change ∧
      ∀ row, change row = row ∨ (id = entry.event.eventId ∧ Recorded entry row result (change row)) := by
  have one {change : OutboxRow P → OutboxRow P} (recorded : ∀ row, Recorded entry row result (change row)) (row : OutboxRow P) :
      (if id = entry.event.eventId then change row else row) = row ∨
        (id = entry.event.eventId ∧ Recorded entry row result (if id = entry.event.eventId then change row else row)) := by
    split
    · exact .inr ⟨‹_›,recorded row⟩
    · exact .inl rfl
  cases result with
  | ok => exact ⟨_,lookup_update id,one fun _ => .published⟩
  | error text =>
    simp only [record]
    split
    · rename_i last
      exact ⟨_,lookup_update id,one fun _ => .failed _ _ _ _ (Nat.mod_le _ _) fun _ => last⟩
    · exact ⟨_,lookup_update id,one fun _ => .failed _ _ _ _ (Nat.mod_le _ _) nofun⟩

theorem Recorded.sound (recorded : Recorded entry row result row')
    (backed : Backed calls entry result) (sound : row.Sound calls entry.event.eventId) :
    row'.Sound calls entry.event.eventId := by
  cases recorded with
  | published => exact ⟨sound.event,fun _ => backed,sound.attempts,sound.failed⟩
  | failed attempts failed error nextAttemptAt counted parked =>
    exact ⟨sound.event,sound.published,counted.trans backed,parked⟩

def Keeps (row row' : OutboxRow P) : Prop := row'.event = row.event ∧ (row.published = true → row'.published = true)

theorem Recorded.keeps (recorded : Recorded entry row result row') : Keeps row row' := by
  cases recorded with
  | published => exact ⟨rfl,fun _ => rfl⟩
  | failed attempts failed error nextAttemptAt counted parked => exact ⟨rfl,fun marked => marked⟩

theorem mem_pending (member : entry ∈ pending rows store now limit) :
    ∃ id row, rows.lookup id = some row ∧ row.due store now = true ∧ entry = row.entry := by
  obtain ⟨row,taken,rfl⟩ := mem_map.mp member
  have sorted := mem_of_mem_take taken
  obtain ⟨selected,due⟩ := mem_filter.mp (mem_mergeSort.mp sorted)
  obtain ⟨⟨id,_⟩,stored,rfl⟩ := mem_map.mp selected
  exact ⟨id,_,AList.mem_lookup_iff.mpr stored,due,rfl⟩

theorem length_pending_le : (pending rows store now limit).length ≤ rows.entries.length := by
  simp only [pending,length_map,length_take,length_mergeSort]
  exact (Nat.min_le_right _ _).trans ((length_filter_le _ _).trans (length_map ..).le)

theorem pending_due (stored : rows.lookup eventId = some row) (due : row.due store now = true) :
    row.entry ∈ pending rows store now limit ∨ (pending rows store now limit).length = limit := by
  simp only [pending]
  generalize sort : ((rows.entries.map (·.2)).filter (OutboxRow.due store now)).mergeSort
    (fun a b => store.le a.event.occurredAt b.event.occurredAt) = sorted
  have member : row ∈ sorted := by
    rw [← sort,mem_mergeSort,mem_filter]
    exact ⟨mem_map.mpr ⟨⟨eventId,row⟩,AList.mem_lookup_iff.mp stored,rfl⟩,due⟩
  by_cases fits : sorted.length ≤ limit
  · rw [take_of_length_le fits]
    exact .inl (mem_map_of_mem member)
  · right
    rw [length_map,length_take]
    exact Nat.min_eq_left (Nat.le_of_not_le fits)

/-! Runs -/

/-- So are all rows, and the rows each relay has in hand. -/
structure Sound (s : State P) : Prop where
  rows : ∀ id row, s.rows.lookup id = some row → row.Sound s.calls id
  relays : ∀ relay phase, s.relays.lookup relay = some phase → phase.Sound s.calls

namespace Sound

theorem initial : Sound (initial : State P) :=
  ⟨fun id row found => by simp [OutboxRelay.initial] at found,fun relay phase found => by simp [OutboxRelay.initial] at found⟩

theorem enter (sound : Sound s) (relay : Nat) (phaseSound : phase.Sound s.calls) : Sound (enter s relay phase) := by
  refine ⟨sound.rows,fun other found lookup => ?_⟩
  by_cases same : other = relay
  · subst same
    have inserted : (s.relays.insert other phase).lookup other = some found := lookup
    rw [AList.lookup_insert] at inserted
    exact Option.some.inj inserted ▸ phaseSound
  · exact sound.relays other found ((AList.lookup_insert_ne same).symm.trans lookup)

theorem leave (sound : Sound s) (relay : Nat) : Sound (leave s relay) := by
  refine ⟨sound.rows,fun other found lookup => ?_⟩
  by_cases same : other = relay
  · subst same
    have erased : (s.relays.erase other).lookup other = some found := lookup
    simp at erased
  · exact sound.relays other found ((AList.lookup_erase_ne same).symm.trans lookup)

theorem append (sound : Sound s) (event : Event P) : Sound { s with rows := append s.rows event } := by
  refine ⟨fun id row found => ?_,sound.relays⟩
  simp only [OutboxRelay.append] at found
  split at found
  · exact sound.rows id row found
  by_cases same : id = event.eventId
  · subst same
    rw [AList.lookup_insert] at found
    cases found
    exact ⟨rfl,nofun,Nat.zero_le _,nofun⟩
  · exact sound.rows id row ((AList.lookup_insert_ne same).symm.trans found)

theorem read (sound : Sound s) (store : SqlStore) (relay : Nat) (now : UtcTimestamp) (limit : Nat) :
    Sound (OutboxRelay.enter s relay (.publishing now [] (pending s.rows store now limit))) := by
  refine sound.enter relay ⟨by simp,fun entry member => ?_⟩
  obtain ⟨id,row,stored,-,rfl⟩ := mem_pending member
  have counted := sound.rows id row stored
  have key : row.entry.event.eventId = id := counted.event
  unfold Known
  rw [key]
  exact (Nat.mod_le _ _).trans counted.attempts

theorem published (sound : Sound s) (lookup : s.relays.lookup relay = some (.publishing now results rest))
    (result : Except String Unit) : Sound (published s relay now results result rest) := by
  obtain ⟨backed,known⟩ := sound.relays relay _ lookup
  cases rest with
  | nil => exact sound.enter relay backed
  | cons entry rest =>
    have after : Sound { s with calls := s.calls ++ [⟨entry.event.eventId,result.isOk⟩] } :=
      ⟨fun id row found => (sound.rows id row found).more _,fun other phase found => (sound.relays other phase found).more _⟩
    refine after.enter relay ⟨fun r member => ?_,fun other member => ?_⟩
    · rcases mem_append.mp member with before | own
      · exact (backed r before).more _
      · cases mem_singleton.mp own
        exact (known entry mem_cons_self).backed result
    · exact (known other (mem_cons_of_mem entry member)).more _

theorem recorded (sound : Sound s) (lookup : s.relays.lookup relay = some (.recording now rest)) :
    Sound (recorded store hash s relay now rest) := by
  have backed := sound.relays relay _ lookup
  cases rest with
  | nil => exact sound.leave relay
  | cons r rest =>
    obtain ⟨entry,result⟩ := r
    have after : Sound { s with rows := record store hash now s.rows entry result } := by
      refine ⟨fun id row found => ?_,sound.relays⟩
      obtain ⟨change,whole,each⟩ := lookup_record store hash id
      obtain ⟨old,stored,rfl⟩ := map_eq_some_iff.mp (whole.symm.trans found)
      rcases each old with same | ⟨rfl,written⟩
      · exact same.symm ▸ sound.rows id old stored
      · exact written.sound (backed (entry,result) mem_cons_self) (sound.rows _ old stored)
    exact after.enter relay fun other member => backed other (mem_cons_of_mem _ member)

/-- A step of any relay keeps the marks right. -/
theorem step (sound : Sound s) (action : Action P) : Sound (step store hash s action) := by
  cases action with
  | append event => exact sound.append event
  | start relay now =>
    rw [OutboxRelay.step]
    split
    · exact sound.enter relay trivial
    · exact sound
  | read relay limit =>
    rw [OutboxRelay.step]
    split
    · exact sound.read store relay _ limit
    · exact sound
  | publish relay result =>
    rw [OutboxRelay.step]
    split
    · exact sound.published ‹_› result
    · exact sound
  | record relay =>
    rw [OutboxRelay.step]
    split
    · exact sound.recorded ‹_›
    · exact sound
  | crash relay => exact sound.leave relay

end Sound

theorem step_keeps (store : SqlStore) (hash : EventId → Nat) (action : Action P) (stored : s.rows.lookup eventId = some row) :
    ∃ row', (step store hash s action).rows.lookup eventId = some row' ∧ Keeps row row' := by
  have unchanged {s' : State P} (same : s'.rows = s.rows) : ∃ row', s'.rows.lookup eventId = some row' ∧ Keeps row row' :=
    ⟨row,same ▸ stored,rfl,fun marked => marked⟩
  cases action with
  | append event =>
    simp only [step,append]
    split
    · exact unchanged rfl
    rename_i absent
    have other : eventId ≠ event.eventId := fun same => by
      rw [same,absent] at stored
      cases stored
    exact ⟨row,(AList.lookup_insert_ne other).trans stored,rfl,fun marked => marked⟩
  | start relay now =>
    rw [step]
    split <;> exact unchanged rfl
  | read relay limit =>
    rw [step]
    split <;> exact unchanged rfl
  | publish relay result =>
    rw [step]
    split
    · rename_i now results rest lookup
      cases rest <;> exact unchanged rfl
    · exact unchanged rfl
  | record relay =>
    rw [step]
    split
    · rename_i now rest lookup
      cases rest with
      | nil => exact unchanged rfl
      | cons r rest =>
        obtain ⟨change,whole,each⟩ := lookup_record store hash eventId
        refine ⟨change row,whole.trans (by rw [stored,map_some]),?_⟩
        rcases each row with same | ⟨-,written⟩
        · exact ⟨congrArg OutboxRow.event same,fun marked => same.symm ▸ marked⟩
        · exact written.keeps
    · exact unchanged rfl
  | crash relay => exact unchanged rfl

/-- A row is never lost, and once published it stays published. -/
theorem run_keeps (stored : s.rows.lookup eventId = some row) :
    ∃ row', (execute (step store hash) s run).rows.lookup eventId = some row' ∧ Keeps row row' := by
  induction run generalizing s row with
  | nil => exact ⟨row,stored,rfl,fun marked => marked⟩
  | cons action rest ih =>
    obtain ⟨next,found,kept⟩ := step_keeps store hash action stored
    obtain ⟨last,final,later⟩ := ih found
    exact ⟨last,final,later.1.trans kept.1,fun marked => later.2 (kept.2 marked)⟩

theorem append_stored : ∃ row, (append rows event).lookup event.eventId = some row := by
  unfold append
  split
  · exact ⟨_,‹_›⟩
  · exact ⟨_,AList.lookup_insert ..⟩

theorem due_iff (unpublished : row.published = false) (active : row.failed = false)
    (passed : ∀ retry ∈ row.nextAttemptAt, retry ≤ now) :
    row.due store now = true ↔ (store = .sqlite → ∀ retry ∈ row.nextAttemptAt, ¬ SqlStore.CutOff retry now) := by
  rw [OutboxRow.due,unpublished,active]
  cases retryAt : row.nextAttemptAt with
  | none => simp
  | some retry => simpa using SqlStore.le_iff (passed retry retryAt)

/-- A row that is not due is missing from a batch with room for all rows. -/
theorem Sound.pending_iff (sound : Sound s) (stored : s.rows.lookup eventId = some row) :
    (∀ limit, row.entry ∈ pending s.rows store now limit ∨ (pending s.rows store now limit).length = limit) ↔
      row.due store now = true := by
  refine ⟨fun read => ?_,fun due limit => pending_due stored due⟩
  rcases read (s.rows.entries.length + 1) with member | full
  · obtain ⟨id,other,found,due,same⟩ := mem_pending member
    have key : row.event.eventId = other.event.eventId := congrArg (·.event.eventId) same
    rw [(sound.rows _ _ stored).event,(sound.rows _ _ found).event] at key
    subst key
    rw [stored] at found
    exact Option.some.inj found ▸ due
  · have short : (pending s.rows store now (s.rows.entries.length + 1)).length ≤ s.rows.entries.length := length_pending_le
    omega

/-- What the outbox guarantees for the event of a row. A run reads it in every batch with room for it
after its retry time, in SQLite unless the retry time is the time of the run cut off at fewer decimals. -/
structure AtLeastOnce (store : SqlStore) (hash : EventId → Nat) (s : State P) (eventId : EventId)
    (row : OutboxRow P) : Prop where
  published : row.published = true → ⟨eventId,true⟩ ∈ s.calls
  failed : row.failed = true → maxAttempts ≤ failures s.calls eventId
  stays : ∀ more, ∃ row', (execute (step store hash) s more).rows.lookup eventId = some row' ∧ Keeps row row'
  pending : row.published = false → row.failed = false → ∀ now, (∀ retry ∈ row.nextAttemptAt, retry ≤ now) →
    ((∀ limit, row.entry ∈ pending s.rows store now limit ∨ (pending s.rows store now limit).length = limit) ↔
      (store = .sqlite → ∀ retry ∈ row.nextAttemptAt, ¬ SqlStore.CutOff retry now))

theorem Sound.atLeastOnce (sound : Sound s) (stored : s.rows.lookup eventId = some row) :
    AtLeastOnce store hash s eventId row where
  published := (sound.rows eventId row stored).published
  failed parked := ((sound.rows eventId row stored).failed parked).trans (sound.rows eventId row stored).attempts
  stays _ := run_keeps stored
  pending unpublished active _ passed := (sound.pending_iff stored).trans (due_iff unpublished active passed)

/-- In every interleaving of relays, whatever publish calls return and wherever relays stop, each appended event has a
row, and the row is marked published only after a publish call that succeeded, parked only after so many that failed,
never unpublished, and otherwise pending. -/
theorem outbox_delivers_at_least_once (store : SqlStore) (hash : EventId → Nat) (run : List (Action P)) :
    (∀ event, .append event ∈ run → ∃ row, (execute (step store hash) initial run).rows.lookup event.eventId = some row) ∧
      ∀ id row, (execute (step store hash) initial run).rows.lookup id = some row →
        AtLeastOnce store hash (execute (step store hash) initial run) id row := by
  constructor
  · intro event member
    obtain ⟨before,after,rfl⟩ := append_of_mem member
    rw [execute_append]
    obtain ⟨row,stored⟩ := append_stored
    have present : (step store hash (execute (step store hash) initial before) (.append event)).rows.lookup
      event.eventId = some row :=
      stored
    obtain ⟨last,final,-⟩ := run_keeps present
    exact ⟨last,final⟩
  · intro id row stored
    have preserved (s : State P) (action : Action P) (sound : Sound s) : Sound (step store hash s action) := sound.step action
    exact (execute_invariant preserved run Sound.initial).atLeastOnce stored

/-- A relay fails to publish event 1 at such a time that it is to be tried again at 10.5 s. -/
def failingRun : List (Action Unit) := [
  .append ⟨1,0,()⟩,
  .start 0 (105 * 10 ^ 8 - backoffMs (fun _ => 0) 1 1 * 1000000),
  .read 0 10,
  .publish 0 (.error "down"),
  .publish 0 (.ok ()),
  .record 0]

def failedRow : OutboxRow Unit := ⟨⟨1,0,()⟩,false,1,false,some (105 * 10 ^ 8),some "down"⟩

def failingState : State Unit := execute (step .sqlite fun _ => 0) initial failingRun

theorem lookup_only (k : Nat) (v : V) : AList.lookup k (AList.singleton k v : KeyMap Nat V) = some v := dlookup_cons_eq ..

theorem failingState_rows : failingState.rows = AList.singleton 1 failedRow := by
  simp [failingState,failingRun,execute,step,append,initial,enter,pending,published,recorded,record,markFailed,
    update,KeyMap.sweep,
    KeyMap.sweepEntries,OutboxRow.due,OutboxRow.entry,maxAttempts,retryAt,SqlStore.kept,lookup_only]
  rfl

/-- At 10.51 s SQLite does not read it, however large the batch. -/
theorem passed_retry_not_read : failingState.rows.lookup 1 = some failedRow ∧
    ∀ limit, pending failingState.rows .sqlite (1051 * 10 ^ 7) limit = [] := by
  rw [failingState_rows]
  have late : failedRow.due .sqlite (1051 * 10 ^ 7) = false := by decide
  refine ⟨lookup_only ..,fun limit => ?_⟩
  simp [pending,-Int.reduceMul,-Int.reducePow,late]

end CheetahSignaling.OutboxRelay
