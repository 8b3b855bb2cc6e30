import CheetahSignaling.MediaEventOnce

/-! The persisted cursor of a media node against the records of its events. An event that is given up
without a record is passed as soon as a later one is recorded; a stream that stops there loses none. -/
namespace CheetahSignaling.MediaEvents

open List hiding after get
open MediaCallback Inbox Outcomes

def Settled (record : ProcessedMessageRecord) : Prop := record.status = .completed ∨ record.status = .failed

section Cursor

variable {store store' : Inbox.Store σ} {s : Consumer σ}

def cursorOf (codec : Codec) (node : NodeId) (store : Inbox.Store σ) : Option Nat :=
  cursorIn codec (store.processed (cursorId codec node))

def Recorded (codec : Codec) (store : Inbox.Store σ) (d : Delivery) : Prop :=
  ∃ record, store.processed (eventKey codec d) = some record ∧ Settled record

def AllSettled (store : Inbox.Store σ) : Prop :=
  ∀ key record, key.1 ≠ 0 → store.processed key = some record → Settled record

theorem tenant_of_formed (formed : wellFormed d = some callback) : d.event.tenantId ≠ 0 := by
  intro nil
  simp [wellFormed,nil] at formed

theorem cursor_advanceCursor : cursorOf codec d.node.nodeId (advanceCursor codec ttl d store) =
      if (cursorOf codec d.node.nodeId store).any (d.event.sequence ≤ ·) then cursorOf codec d.node.nodeId store
      else some d.event.sequence := by
  unfold cursorOf advanceCursor
  simp only
  split
  · rfl
  · rw [processed_putRecord]
    exact codec.parse_cursor d.event.sequence

theorem processed_advanceCursor (event : key.1 ≠ 0) :
    (advanceCursor codec ttl d store).processed key = store.processed key := by
  unfold advanceCursor
  simp only
  split
  · rfl
  · refine Function.update_of_ne ?_ ..
    rintro rfl
    exact event rfl

theorem processed_putOther (apart : key ≠ other) :
    (putRecord other record store).processed key = store.processed key := Function.update_of_ne apart ..

theorem Leaves.cursor (leaves : Leaves codec ports ttl d callback store applied store' applied')
    (event : d.event.tenantId ≠ 0) (settled : AllSettled store)
    (ahead : (cursorOf codec d.node.nodeId store).all (· < d.event.sequence) = true) :
    store' = store ∨ cursorOf codec d.node.nodeId store' = some d.event.sequence ∧ Recorded codec store' d := by
  have behind (made : Inbox.Store σ) (same : cursorOf codec d.node.nodeId made = cursorOf codec d.node.nodeId store) :
      cursorOf codec d.node.nodeId (advanceCursor codec ttl d made) = some d.event.sequence := by
    rw [cursor_advanceCursor,same,if_neg]
    cases last : cursorOf codec d.node.nodeId store with
    | none => exact Bool.false_ne_true
    | some c =>
      rw [last] at ahead
      simpa using ahead
  have apart : cursorId codec d.node.nodeId ≠ eventKey codec d := fun same => event (congrArg Prod.fst same).symm
  have put (record : ProcessedMessageRecord) : cursorOf codec d.node.nodeId (putRecord (eventKey codec d) (some record) store) =
      cursorOf codec d.node.nodeId store := congrArg (cursorIn codec) (processed_putOther apart ..)
  cases leaves with
  | untouched => exact .inl rfl
  | duplicate known =>
    refine .inr ⟨behind store rfl,_,?_,settled _ _ event known⟩
    rw [processed_advanceCursor event]
    exact known
  | failed error fresh =>
    refine .inr ⟨behind _ (put _),finalRecord codec ttl d .failed (codec.failed d.event.sequence error),?_,.inr rfl⟩
    rw [processed_advanceCursor event]
    exact processed_putRecord ..
  | completed fresh answer handled =>
    refine .inr ⟨behind _ (put _),finalRecord codec ttl d .completed (codec.completed d.event.sequence),?_,.inl rfl⟩
    rw [processed_advanceCursor event]
    exact processed_putRecord ..

theorem Leaves.processed (leaves : Leaves codec ports ttl d callback store applied store' applied') (event : key.1 ≠ 0)
    (known : store.processed key = some record) : store'.processed key = some record := by
  have apart (fresh : store.processed (eventKey codec d) = none) : key ≠ eventKey codec d := by
    rintro rfl
    rw [fresh] at known
    cases known
  cases leaves with
  | untouched => exact known
  | duplicate known' => rwa [processed_advanceCursor event]
  | failed error fresh => rwa [processed_advanceCursor event,processed_putOther (apart fresh)]
  | completed fresh answer handled =>
    rw [processed_advanceCursor event]
    exact (processed_putOther (apart fresh) ..).trans known

theorem AllSettled.put (settled : AllSettled store) (final : Settled record) (key : MessageKey) :
    AllSettled (putRecord key (some record) store) := by
  intro other found event known
  by_cases own : other = key
  · subst own
    rw [processed_putRecord] at known
    cases known
    exact final
  · rw [processed_putOther own] at known
    exact settled other found event known

theorem AllSettled.advance (settled : AllSettled store) : AllSettled (advanceCursor codec ttl d store) := by
  intro key record event known
  rw [processed_advanceCursor event] at known
  exact settled key record event known

theorem Leaves.settled (leaves : Leaves codec ports ttl d callback store applied store' applied') (settled : AllSettled store) :
    AllSettled store' := by
  cases leaves with
  | untouched => exact settled
  | duplicate known => exact settled.advance
  | failed error fresh => exact (settled.put (.inr rfl) _).advance
  | completed fresh answer handled => exact AllSettled.advance (settled.put (.inl rfl) _)

/-- The stream of one node: well-formed events with increasing sequences beyond the cursor. -/
structure Stream (codec : Codec) (node : NodeId) (store : Inbox.Store σ) (stream : List Delivery) : Prop where
  formed : ∀ d ∈ stream, d.node.nodeId = node ∧ (wellFormed d).isSome = true
  increasing : (stream.map (·.event.sequence)).Pairwise (· < ·)
  ahead : ∀ d ∈ stream, (cursorOf codec node store).all (· < d.event.sequence) = true

/-- What the cursor has passed is recorded. -/
def Covered (codec : Codec) (node : NodeId) (store : Inbox.Store σ) (seen : List Delivery) : Prop :=
  ∀ d ∈ seen, ∀ c, cursorOf codec node store = some c → d.event.sequence ≤ c → Recorded codec store d

theorem Leaves.recorded (leaves : Leaves codec ports ttl d callback store applied store' applied')
    (event : e.event.tenantId ≠ 0) (recorded : Recorded codec store e) : Recorded codec store' e := by
  obtain ⟨record,known,final⟩ := recorded
  exact ⟨record,leaves.processed event known,final⟩

/-! A delivery that leaves a record -/

/-- The calls that write or find records do not fail, neither in the unit of work of the event nor in
that of its failure, and both commits take effect; the check and the handler may fail but do not crash. -/
structure Delivery.Lasting (d : Delivery) : Prop where
  writes : ∀ call ∈ [Call.begin,.getOrInsert,.complete,.findCursor,.insertCursor,.completeCursor],
    d.faults call = none ∧ d.failureFaults call = none
  rollback : d.faults .rollback = none
  answers : d.faults .validate ≠ some .crash ∧ d.faults .handle ≠ some .crash
  commits : ∀ faults ∈ [d.faults,d.failureFaults], faults .commit = none ∨ ∃ text, faults .commit = some (.late text)

def Staged (key : MessageKey) (w : World σ) : Prop := (w.uow.working.processed key).isSome

def Committed (key : MessageKey) (w : World σ) : Prop := (w.uow.committed.processed key).isSome

theorem getOrInsert_ensures (record : ProcessedMessageRecord)
    (holds : ∀ w, pre w → ((inserted (record.tenantId,record.messageId) record w.uow.working).processed key).isSome) :
    Ensures pre (getOrInsert record : Program σ _) (fun _ => Staged key) onError := by
  have spec (w : World σ) : Ensures (Holds w.uow.committed w.uow.working w.staged w.applied) (getOrInsert record) _ onError :=
    ensures_getOrInsert rfl
  refine ⟨fun {w _ _} start ran => ?_,fun {w _ _} _ ran => (spec w).error ⟨rfl,rfl,rfl⟩ ran⟩
  obtain ⟨-,done,-⟩ := (spec w).ok ⟨rfl,rfl,rfl⟩ ran
  unfold Staged
  rw [done]
  exact holds w start

theorem getOrInsert_staged (record : ProcessedMessageRecord) :
    Ensures pre (getOrInsert record : Program σ _) (fun _ => Staged (record.tenantId,record.messageId)) onError := by
  refine getOrInsert_ensures record fun w _ => ?_
  unfold inserted
  split
  · exact Option.isSome_of_eq_some ‹_›
  · exact Option.isSome_of_eq_some (processed_putRecord ..)

theorem getOrInsert_keeps (record : ProcessedMessageRecord) :
    Ensures (Staged key) (getOrInsert record : Program σ _) (fun _ => Staged key) onError := by
  refine getOrInsert_ensures record fun w start => ?_
  unfold inserted
  split
  · exact start
  · exact isSome_putRecord start

theorem begin_any : Ensures (fun _ => True) (begin : Program σ Unit) (fun _ _ => True) onError := .modify fun _ _ => trivial

theorem complete_keeps : Ensures (Staged key) (complete other status payload now : Program σ Unit)
    (fun _ => Staged key) onError := by
  refine .modify fun w start => ?_
  unfold Staged
  by_cases same : key = other
  · subst same
    rw [processed_putRecord,Option.isSome_map]
    exact start
  · rwa [processed_putOther same]

theorem answered_keeps {x : Program σ (Except DomainError Unit)} (spec : Ensures pre x (fun _ => pre) onError)
    (uncrashed : fault ≠ some .crash) : Ensures pre (answered fault x) (fun _ => pre) onError := by
  cases fault with
  | none => exact spec
  | some fault =>
    cases fault with
    | crash => exact absurd rfl uncrashed
    | error text => exact .pure fun _ => id
    | late text => exact spec.bind fun _ => .pure fun _ => id

/-- From a record in the open unit of work, both ways out of `settle` have it committed. -/
theorem settle_committed {faults : Call → Option Fault}
    (writes : ∀ call ∈ [Call.findCursor,.insertCursor,.completeCursor], faults call = none)
    (commits : faults .commit = none ∨ ∃ text, faults .commit = some (.late text)) :
    Ensures (Staged key) (settle codec ttl d faults : Program σ Unit) (fun _ => Committed key) (Committed key) := by
  have cursor : Ensures (Staged key) (updateCursor codec ttl d faults : Program σ Unit) (fun _ => Staged key)
    (Committed key) := by
    unfold updateCursor
    rw [writes .findCursor (by simp),writes .insertCursor (by simp),writes .completeCursor (by simp)]
    have found : Ensures (Staged key) (find (cursorId codec d.node.nodeId) : Program σ _)
      (fun _ => Staged key) (Committed key) :=
      ⟨fun start ran => by cases ran; exact start,fun _ ran => by cases ran⟩
    exact found.bind fun record => .ite (fun _ => .pure fun _ => id) fun _ => (getOrInsert_keeps _).bind fun _ => complete_keeps
  have commit : Ensures (Staged key) (commit : Program σ Unit) (fun _ => Committed key) (Committed key) := .modify fun _ => id
  have committed : Ensures (Staged key) (call (faults .commit) MediaEvents.commit : Program σ Unit) (fun _ => Committed key)
      (Committed key) := by
    obtain none | ⟨text,late⟩ := commits
    · rw [none]
      exact commit
    · rw [late]
      exact commit.bind fun _ => .throw fun _ => id
  exact cursor.bind fun _ => committed.bind fun _ => ensures_advance fun _ _ _ => id

section

variable {d : Delivery} (lasting : d.Lasting)
include lasting

theorem recordFailure_committed :
    Ensures (fun _ => True) (recordFailure codec ttl d error : Program σ Unit) (fun _ => Committed (eventKey codec d))
      (Committed (eventKey codec d)) := by
  have writes (call : Call) (member : call ∈ [Call.begin,.getOrInsert,.complete,.findCursor,.insertCursor,.completeCursor]) :=
    (lasting.writes call member).2
  have settled : Ensures (Staged (eventKey codec d)) (settle codec ttl d d.failureFaults : Program σ Unit)
      (fun _ => Committed (eventKey codec d)) (Committed (eventKey codec d)) :=
    settle_committed (fun call member => writes call (by grind)) (lasting.commits _ (by simp))
  unfold recordFailure
  rw [lasting.rollback,writes .begin (by simp),writes .getOrInsert (by simp),writes .complete (by simp)]
  have dropped : Ensures (fun _ => True) (rollback : Program σ Unit) (fun _ _ => True) (Committed (eventKey codec d)) :=
    .modify fun _ _ => trivial
  refine dropped.bind fun _ => begin_any.bind fun _ => (getOrInsert_staged _).bind fun _ => complete_keeps.bind fun _ => ?_
  exact settled.bind fun _ => .throw fun _ => id

theorem processEvent_committed (formed : wellFormed d = some callback) :
    Ensures (fun _ => True) (processEvent codec ports ttl d : Program σ Unit) (fun _ => Committed (eventKey codec d))
      (Committed (eventKey codec d)) := by
  have writes (call : Call) (member : call ∈ [Call.begin,.getOrInsert,.complete,.findCursor,.insertCursor,.completeCursor]) :=
    (lasting.writes call member).1
  have settled : Ensures (Staged (eventKey codec d)) (settle codec ttl d d.faults : Program σ Unit)
      (fun _ => Committed (eventKey codec d)) (Committed (eventKey codec d)) :=
    settle_committed (fun call member => writes call (by grind)) (lasting.commits _ (by simp))
  unfold processEvent
  rw [formed]
  simp only
  rw [writes .begin (by simp),writes .getOrInsert (by simp)]
  refine begin_any.bind fun _ => (getOrInsert_staged _).bind fun existing => .ite (fun _ => settled) fun _ => ?_
  unfold applyEvent
  rw [writes .complete (by simp)]
  refine (answered_keeps ?_ lasting.answers.1).bind fun valid => ?_
  · exact ⟨fun start ran => by cases ran; exact start,fun _ ran => by cases ran⟩
  cases valid with
  | error error => exact complete_keeps.bind fun _ => settled
  | ok _ =>
    refine (answered_keeps ?_ lasting.answers.2).bind fun result => ?_
    · exact ⟨fun start ran => by cases ran; exact start,fun _ ran => by cases ran⟩
    cases result with
    | error error => exact (recordFailure_committed lasting).weaken (fun _ _ => trivial) (fun _ _ => id) fun _ => id
    | ok _ => exact complete_keeps.bind fun _ => settled

theorem deliver_recorded (formed : wellFormed d = some callback) (settled : AllSettled (deliver codec ports ttl s d).store) :
    Recorded codec (deliver codec ports ttl s d).store d := by
  have spec : Ensures (fun _ => True) (processEvent codec ports ttl d) _ _ := processEvent_committed lasting formed
  have committed : ((deliver codec ports ttl s d).store.processed (eventKey codec d)).isSome := by
    unfold deliver
    split
    · exact spec.ok trivial ‹_›
    · exact spec.error trivial ‹_›
    · exact spec.error trivial ‹_›
  obtain ⟨record,stored⟩ := Option.isSome_iff_exists.mp committed
  exact ⟨record,stored,settled _ record (tenant_of_formed formed) stored⟩

end

/-- One delivery, when all events before it are on record. -/
theorem Stream.deliver (ofNode : Stream codec node s.store (d :: rest)) (settled : AllSettled s.store) (seen : List Delivery)
    (events : ∀ e ∈ seen, e.event.tenantId ≠ 0) (recorded : ∀ e ∈ seen, Recorded codec s.store e) :
    Stream codec node (deliver codec ports ttl s d).store rest ∧ AllSettled (deliver codec ports ttl s d).store ∧
      Covered codec node (deliver codec ports ttl s d).store (seen ++ [d]) := by
  obtain ⟨named,formed⟩ := ofNode.formed d mem_cons_self
  subst named
  obtain ⟨callback,formed⟩ := Option.isSome_iff_exists.mp formed
  have leaves : Leaves codec ports ttl d callback s.store s.applied (MediaEvents.deliver codec ports ttl s d).store _ :=
    deliver_leaves formed
  obtain ⟨first,increasing⟩ := pairwise_cons.mp ofNode.increasing
  have ahead := ofNode.ahead d mem_cons_self
  have moved := leaves.cursor (tenant_of_formed formed) settled ahead
  refine ⟨⟨fun e member => ofNode.formed e (mem_cons_of_mem _ member),increasing,fun e member => ?_⟩,leaves.settled settled,?_⟩
  · rcases moved with same | ⟨cursor,-⟩
    · rw [same]
      exact ofNode.ahead e (mem_cons_of_mem _ member)
    · rw [cursor]
      simpa using first e.event.sequence (mem_map_of_mem member)
  intro e member c cursor reached
  rcases mem_append.mp member with earlier | last
  · exact leaves.recorded (events e earlier) (recorded e earlier)
  obtain rfl := mem_singleton.mp last
  rcases moved with same | ⟨-,own⟩
  · rw [same] at cursor
    rw [cursor] at ahead
    exact absurd reached (not_le.mpr (by simpa using ahead))
  · exact own

/-- A stream after events that are all on record. -/
theorem Stream.run (stream : List Delivery) (s : Consumer σ) (ofNode : Stream codec node s.store stream)
    (settled : AllSettled s.store)
    (seen : List Delivery) (events : ∀ e ∈ seen, e.event.tenantId ≠ 0) (recorded : ∀ e ∈ seen, Recorded codec s.store e)
    (lasting : ∀ d ∈ stream.dropLast, d.Lasting) :
    Covered codec node (stream.foldl (MediaEvents.deliver codec ports ttl) s).store (seen ++ stream) := by
  induction stream generalizing s seen with
  | nil =>
    rw [append_nil]
    exact fun d member _ _ _ => recorded d member
  | cons d stream ih =>
    obtain ⟨later,still,next⟩ := ofNode.deliver settled seen events recorded
    cases stream with
    | nil => exact next
    | cons e stream =>
      obtain ⟨first,others⟩ := forall_mem_cons.mp lasting
      obtain ⟨callback,formed⟩ := Option.isSome_iff_exists.mp (ofNode.formed d mem_cons_self).2
      have own := deliver_recorded (s := s) first formed still
      have leaves : Leaves codec ports ttl d callback s.store s.applied (MediaEvents.deliver codec ports ttl s d).store _ :=
        deliver_leaves formed
      have kept := fun e member => leaves.recorded (events e member) (recorded e member)
      have whole := ih (MediaEvents.deliver codec ports ttl s d) later still (seen ++ [d])
        (by simpa [or_imp,forall_and] using ⟨events,tenant_of_formed formed⟩)
          (by simpa [or_imp,forall_and] using ⟨kept,own⟩) others
      rw [append_assoc] at whole
      exact whole

theorem loadCursor_store : (loadCursor codec node s).store = s.store := by
  unfold loadCursor
  split <;> rfl

/-- The cursor passes no lost event, as long as nothing is delivered after an event whose record fails. -/
theorem cursor_passes_no_lost_event (codec : Codec) (ports : Ports σ) (recordTtlMs : Nat) (node : NodeId) (s : Consumer σ)
    (settled : AllSettled s.store) (stream : List Delivery) (ofNode : Stream codec node s.store stream)
    (lasting : ∀ d ∈ stream.dropLast, d.Lasting) :
    Covered codec node (consumeNode codec ports recordTtlMs node s stream).store stream := by
  rw [← loadCursor_store] at settled ofNode
  exact Stream.run stream (loadCursor codec node s) ofNode settled [] (forall_mem_nil _) (forall_mem_nil _) lasting

end Cursor

namespace Sample

def noFault : Call → Option Fault := fun _ => none

/-- The second handler fails, and the storage is not there for the last event. -/
def stopped : List Delivery := [delivery "a" 1 .started noFault,
    delivery "bb" 2 .started fun call => if call = .handle then some (.error "pool timed out") else none,
    delivery "ccc" 3 .started fun call => if call = .begin then some (.error "pool timed out") else none]

theorem stopped_covered : Covered strokes 8 (consumeNode strokes counting 1000 8 fresh stopped).store stopped ∧
      cursorOf strokes 8 (consumeNode strokes counting 1000 8 fresh stopped).store = some 2 := by
  refine ⟨cursor_passes_no_lost_event strokes counting 1000 8 fresh (fun _ _ _ known => by cases known) stopped
    ⟨by decide,by decide,by decide⟩ ?_,rfl⟩
  simp only [stopped,dropLast_cons_cons,dropLast_singleton,forall_mem_cons,not_mem_nil]
  refine ⟨⟨by decide,rfl,?_,?_⟩,⟨by decide,rfl,?_,?_⟩,nofun⟩ <;> simp [delivery,noFault]

/-- The storage is not there for the first of two events. -/
def skipped : List Delivery :=
  [delivery "a" 1 .started fun call => if call = .begin then some (.error "pool timed out") else none,
    delivery "bb" 2 .started noFault]

theorem skipped_event_lost :
    Stream strokes 8 fresh.store skipped ∧ cursorOf strokes 8
    (consumeNode strokes counting 1000 8 fresh skipped).store = some 2 ∧
      ∃ d ∈ skipped, d.event.sequence ≤ 2 ∧
        (consumeNode strokes counting 1000 8 fresh skipped).store.processed (eventKey strokes d) = none :=
  ⟨⟨by decide,by decide,by decide⟩,rfl,_,mem_cons_self,by decide,rfl⟩

end Sample

end CheetahSignaling.MediaEvents
