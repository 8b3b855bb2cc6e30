import CheetahSignaling.MediaEventConsumer

/-! What an event leaves behind, wherever its processing stops: nothing, its record with the cursor, or
both together with the writes of its handler. Over any sequence of deliveries the handler's writes of
an event are committed once while its record is there. -/
namespace CheetahSignaling.MediaEvents

open GuardedRun Outcomes Option MediaCallback Inbox
open List hiding after get

section Delivery

variable (codec : Codec) (ports : Ports σ) (ttl : Nat) (d : Delivery)

def advanceCursor (store : Inbox.Store σ) : Inbox.Store σ :=
  let key := cursorId codec d.node.nodeId
  let record := store.processed key
  if (cursorIn codec record).any (d.event.sequence ≤ ·) then store
  else
    putRecord key (some (finished .completed (codec.cursor d.event.sequence) d.now
      (record.getD (pendingRecord ttl d key (codec.cursorKey d.node.nodeId))))) store

def finalRecord (status : ProcessedMessageStatus) (payload : String) : ProcessedMessageRecord :=
  finished status payload d.now (pendingRecord ttl d (eventKey codec d) d.event.eventId)

/-- What a delivery can leave of a store and of the events applied before it. -/
inductive Leaves (callback : MediaNodeCallback) (store : Inbox.Store σ) (applied : List MessageKey) :
    Inbox.Store σ → List MessageKey → Prop where
  | untouched : Leaves callback store applied store applied
  | duplicate (known : store.processed (eventKey codec d) = some existing) :
      Leaves callback store applied (advanceCursor codec ttl d store) applied
  | failed (error : DomainError) (fresh : store.processed (eventKey codec d) = none) :
      Leaves callback store applied
        (advanceCursor codec ttl d
          (putRecord (eventKey codec d) (some (finalRecord codec ttl d .failed (codec.failed d.event.sequence error))) store))
        applied
  | completed (fresh : store.processed (eventKey codec d) = none) (answer : d.faults .handle = none)
      (handled : ports.handleMediaEvent d.event.tenantId d.now callback store.rest = (rest,.ok ())) :
      Leaves callback store applied
        (advanceCursor codec ttl d
          { putRecord (eventKey codec d) (some (finalRecord codec ttl d .completed (codec.completed d.event.sequence)))
            store with
            rest := rest })
        (applied ++ [eventKey codec d])

def Holds (store working : Inbox.Store σ) (staged : Option MessageKey) (applied : List MessageKey) (w : World σ) : Prop :=
  w.uow = ⟨store,working⟩ ∧ w.staged = staged ∧ w.applied = applied

def Left (callback : MediaNodeCallback) (store : Inbox.Store σ) (applied : List MessageKey) (w : World σ) : Prop :=
  Leaves codec ports ttl d callback store applied w.uow.committed w.applied

end Delivery

section Calls

variable {store working : Inbox.Store σ}

theorem Holds.left (holds : Holds store working staged applied w) : Left codec ports ttl d callback store applied w := by
  obtain ⟨uow,-,same⟩ := holds
  unfold Left
  rw [uow,same]
  exact .untouched

theorem ensures_call (fault : Option Fault) (spec : Ensures pre x post onError) (failed : ∀ w, pre w → onError w)
    (late : ∀ a w, post a w → onError w) : Ensures pre (call fault x) post onError := by
  cases fault with
  | none => exact spec
  | some fault =>
    cases fault with
    | crash => exact .throw failed
    | error text => exact .throw failed
    | late text => exact spec.bind fun a => .throw (late a)

theorem ensures_begin : Ensures (fun w => w.uow.committed = store ∧ w.applied = applied) (begin : Program σ Unit)
    (fun _ => Holds store store none applied) onError :=
  .modify fun w start => ⟨by rw [← start.1]; rfl,rfl,start.2⟩

theorem ensures_find : Ensures (Holds store working staged applied) (find key)
    (fun record w => record = working.processed key ∧ Holds store working staged applied w) onError where
  ok start ran := by
    cases ran
    exact ⟨by rw [start.1],start⟩
  error start ran := by cases ran

def inserted (key : MessageKey) (record : ProcessedMessageRecord) (store : Inbox.Store σ) : Inbox.Store σ :=
  match store.processed key with
  | some _ => store
  | none => putRecord key (some record) store

theorem ensures_getOrInsert (keyed : (record.tenantId,record.messageId) = key) :
    Ensures (Holds store working staged applied) (getOrInsert record)
      (fun existing w => existing = working.processed key ∧
        Holds store (inserted key record working) staged applied w) onError := by
  subst keyed
  have read : Ensures (Holds store working staged applied) (get : Program σ (World σ))
      (fun v w => v = w ∧ Holds store working staged applied w) onError :=
    ⟨fun start ran => by cases ran; exact ⟨rfl,start⟩,fun start ran => by cases ran⟩
  refine read.bind fun v => ?_
  constructor
  · rintro w existing w' ⟨rfl,start⟩ ran
    rw [start.1] at ran
    unfold inserted
    split at ran
    · rename_i found
      cases ran
      rw [found]
      exact ⟨rfl,start⟩
    rename_i absent
    cases ran
    rw [absent]
    exact ⟨rfl,by simp [start.1],start.2⟩
  · rintro w e w' ⟨rfl,start⟩ ran
    split at ran <;> cases ran

theorem putRecord_putRecord :
    putRecord key second (putRecord key first store) = putRecord key second store := by
  simp [putRecord]

theorem processed_putRecord :
    (putRecord key record store).processed key = record := Function.update_self ..

theorem complete_inserted :
    putRecord key (((inserted key record store).processed key).map change) (inserted key record store) =
      putRecord key (some (change ((store.processed key).getD record))) store := by
  unfold inserted
  cases found : store.processed key with
  | some existing => rw [found]; rfl
  | none => rw [processed_putRecord,putRecord_putRecord]; rfl

theorem ensures_complete : Ensures (Holds store working staged applied) (complete key status payload now)
      (fun _ => Holds store (putRecord key ((working.processed key).map (finished status payload now)) working) staged applied)
        onError :=
  .modify fun w start => ⟨by rw [start.1],start.2⟩

theorem ensures_commit : Ensures (Holds store working staged applied) (commit : Program σ Unit)
    (fun _ w => w.uow.committed = working ∧ w.applied = applied ++ staged.toList) onError :=
  .modify fun w start => ⟨by rw [start.1],by rw [start.2.1,start.2.2]⟩

theorem ensures_updateCursor :
    Ensures (Holds store working staged applied) (updateCursor codec ttl d faults)
      (fun _ => Holds store (advanceCursor codec ttl d working) staged applied)
      (Left codec ports ttl d callback store applied) := by
  refine (ensures_call (faults .findCursor) ensures_find (fun _ => Holds.left) fun _ _ holds => holds.2.left).bind fun record =>
    ?_
  refine .of_fact fun known => ?_
  subst known
  unfold advanceCursor
  refine .ite (fun reached => ?_) fun behind => ?_
  · rw [if_pos reached]
    exact .pure fun _ => id
  · rw [if_neg behind,← complete_inserted]
    refine (ensures_call (faults .insertCursor) (ensures_getOrInsert rfl) (fun _ => Holds.left) fun _ _ holds =>
      holds.2.left).bind fun _ => ?_
    exact .of_fact fun _ => ensures_call (faults .completeCursor) (ensures_complete ..) (fun _ => Holds.left) fun _ _ =>
      Holds.left

theorem ensures_advance (spared : ∀ w gaps cursors, inv w → inv { w with gaps := gaps, cursors := cursors }) :
    Ensures inv (advance d : Program σ Unit) (fun _ => inv) onError :=
  .modify fun w holds => spared w _ _ holds

theorem ensures_settle (faults : Call → Option Fault)
    (leaves : Leaves codec ports ttl d callback store applied (advanceCursor codec ttl d working) (applied ++ staged.toList)) :
    Ensures (Holds store working staged applied) (settle codec ttl d faults)
      (fun _ => Left codec ports ttl d callback store applied) (Left codec ports ttl d callback store applied) := by
  have committed (w : World σ) (done : w.uow.committed = advanceCursor codec ttl d working ∧
    w.applied = applied ++ staged.toList) :
      Left codec ports ttl d callback store applied w := by
    unfold Left
    rw [done.1,done.2]
    exact leaves
  refine ensures_updateCursor.bind fun _ => ?_
  refine (ensures_call (faults .commit) ensures_commit (fun _ => Holds.left) fun _ => committed).bind fun _ => ?_
  exact (ensures_advance fun _ _ _ done => done).weaken (fun _ => id) (fun _ => committed) fun _ => id

end Calls

section Event

variable {store working : Inbox.Store σ}

def withPending (codec : Codec) (ttl : Nat) (d : Delivery) (store : Inbox.Store σ) : Inbox.Store σ :=
  inserted (eventKey codec d) (pendingRecord ttl d (eventKey codec d) d.event.eventId) store

theorem complete_pending (fresh : store.processed (eventKey codec d) = none) :
    putRecord (eventKey codec d)
    (((withPending codec ttl d store).processed (eventKey codec d)).map (finished status payload d.now))
        (withPending codec ttl d store) =
      putRecord (eventKey codec d) (some (finalRecord codec ttl d status payload)) store := by
  rw [withPending,complete_inserted,fresh]
  rfl

theorem leaves_failed (fresh : store.processed (eventKey codec d) = none) :
    Leaves codec ports ttl d callback store applied
      (advanceCursor codec ttl d
        (putRecord (eventKey codec d) (((withPending codec ttl d store).processed (eventKey codec d)).map
            (finished .failed (codec.failed d.event.sequence error) d.now)) (withPending codec ttl d store)))
      (applied ++ (none : Option MessageKey).toList) := by
  rw [complete_pending fresh,toList_none,append_nil]
  exact .failed error fresh

theorem ensures_rollback : Ensures (Holds store working staged applied) (rollback : Program σ Unit)
    (fun _ => Holds store store none applied) onError :=
  .modify fun w start => ⟨by rw [start.1],rfl,start.2.2⟩

theorem ensures_recordFailure (fresh : store.processed (eventKey codec d) = none) :
    Ensures (Holds store working staged applied) (recordFailure codec ttl d error)
      (fun _ => Left codec ports ttl d callback store applied) (Left codec ports ttl d callback store applied) := by
  refine (ensures_call (d.faults .rollback) ensures_rollback (fun _ => Holds.left) fun _ _ => Holds.left).bind fun _ => ?_
  have begun : Ensures (Holds store store none applied) (begin : Program σ Unit) (fun _ => Holds store store none applied)
      (Left codec ports ttl d callback store applied) :=
    ensures_begin.weaken (fun w start => ⟨by rw [start.1],start.2.2⟩) (fun _ _ => id) fun _ => id
  refine (ensures_call (d.failureFaults .begin) begun (fun _ => Holds.left) fun _ _ => Holds.left).bind fun _ => ?_
  refine (ensures_call (d.failureFaults .getOrInsert) (ensures_getOrInsert rfl) (fun _ => Holds.left) fun _ _ holds =>
    holds.2.left).bind fun _ => ?_
  refine .of_fact fun _ => ?_
  refine (ensures_call (d.failureFaults .complete) (ensures_complete ..) (fun _ => Holds.left) fun _ _ => Holds.left).bind
    fun _ => ?_
  exact (ensures_settle d.failureFaults (leaves_failed fresh)).bind fun _ => .throw fun _ => id

def Handled (ports : Ports σ) (codec : Codec) (d : Delivery) (callback : MediaNodeCallback) (store working : Inbox.Store σ)
    (applied : List MessageKey) (result : Except DomainError Unit) (w : World σ) : Prop :=
  (result = .ok () → d.faults .handle = none ∧
    ∃ rest, ports.handleMediaEvent d.event.tenantId d.now callback working.rest = (rest,.ok ()) ∧
    Holds store { working with rest := rest } (some (eventKey codec d)) applied w) ∧
  ∃ working staged, Holds store working staged applied w

theorem ensures_runHandler :
    Ensures (Holds store working none applied) (runHandler ports d (eventKey codec d) callback)
      (fun result w => (result = .ok () →
        ∃ rest, ports.handleMediaEvent d.event.tenantId d.now callback working.rest = (rest,.ok ()) ∧
          Holds store { working with rest := rest } (some (eventKey codec d)) applied w) ∧
        ∃ working staged, Holds store working staged applied w) onError := by
  constructor
  · intro w result w' start ran
    cases ran
    rw [start.1]
    exact ⟨fun ok => ⟨_,Prod.ext (Eq.refl (ports.handleMediaEvent d.event.tenantId d.now callback working.rest).1) ok,
      rfl,rfl,start.2.2⟩,
      _,_,rfl,rfl,start.2.2⟩
  · intro w e w' start ran
    cases ran

theorem ensures_handle :
    Ensures (Holds store working none applied) (answered (d.faults .handle) (runHandler ports d (eventKey codec d) callback))
      (Handled ports codec d callback store working applied) (Left codec ports ttl d callback store applied) := by
  cases given : d.faults .handle with
  | none =>
    exact ensures_runHandler.weaken (fun _ => id) (fun _ _ handled => ⟨fun ok => ⟨given,handled.1 ok⟩,handled.2⟩) fun _ => id
  | some fault =>
    cases fault with
    | crash => exact .throw fun _ => Holds.left
    | error text => exact .pure fun w holds => ⟨nofun,working,none,holds⟩
    | late text => exact ensures_runHandler.bind fun _ => .pure fun w handled => ⟨nofun,handled.2⟩

theorem ensures_validate : Ensures (Holds store working staged applied)
      (answered fault do return ports.validateCallback d.event.tenantId callback d.node (← get).uow.working.rest)
      (fun _ => Holds store working staged applied) (Left codec ports ttl d callback store applied) := by
  have asked : Ensures (Holds store working staged applied)
      (do return ports.validateCallback d.event.tenantId callback d.node (← get).uow.working.rest :
        Program σ (Except DomainError Unit))
      (fun _ => Holds store working staged applied) (Left codec ports ttl d callback store applied) :=
    ⟨fun start ran => by cases ran; exact start,fun start ran => by cases ran⟩
  cases fault with
  | none => exact asked
  | some fault =>
    cases fault with
    | crash => exact .throw fun _ => Holds.left
    | error text => exact .pure fun _ => id
    | late text => exact asked.bind fun _ => .pure fun _ => id

theorem ensures_completed (fresh : store.processed (eventKey codec d) = none) (answer : d.faults .handle = none)
    (handled : ports.handleMediaEvent d.event.tenantId d.now callback (withPending codec ttl d store).rest = (rest,.ok ())) :
    Ensures (Holds store { withPending codec ttl d store with rest := rest } (some (eventKey codec d)) applied)
      (do call (d.faults .complete) (complete (eventKey codec d) .completed (codec.completed d.event.sequence) d.now)
          settle codec ttl d d.faults)
      (fun _ => Left codec ports ttl d callback store applied) (Left codec ports ttl d callback store applied) := by
  refine (ensures_call (d.faults .complete) (ensures_complete ..) (fun _ => Holds.left) fun _ _ => Holds.left).bind fun _ => ?_
  refine ensures_settle d.faults ?_
  have kept : (withPending codec ttl d store).rest = store.rest := by
    rw [withPending,inserted,fresh]
    rfl
  rw [kept] at handled
  change Leaves codec ports ttl d callback store applied
    (advanceCursor codec ttl d
      { putRecord (eventKey codec d) (((withPending codec ttl d store).processed (eventKey codec d)).map
            (finished .completed (codec.completed d.event.sequence) d.now)) (withPending codec ttl d store) with rest := rest })
    (applied ++ [eventKey codec d])
  rw [complete_pending fresh]
  exact .completed fresh answer handled

theorem ensures_applyEvent (fresh : store.processed (eventKey codec d) = none) :
    Ensures (Holds store (withPending codec ttl d store) none applied) (applyEvent codec ports ttl d callback)
      (fun _ => Left codec ports ttl d callback store applied) (Left codec ports ttl d callback store applied) := by
  refine ensures_validate.bind fun valid => ?_
  cases valid with
  | error error =>
    refine (ensures_call (d.faults .complete) (ensures_complete ..) (fun _ => Holds.left) fun _ _ => Holds.left).bind fun _ => ?_
    exact ensures_settle d.faults (leaves_failed fresh)
  | ok _ =>
    refine ensures_handle.bind fun result => ?_
    cases result with
    | ok _ =>
      exact (Ensures.of_fact fun answer => .of_exists fun _ => .of_fact (ensures_completed fresh answer)).weaken
        (fun _ handled => handled.1 rfl) (fun _ _ => id) fun _ => id
    | error error =>
      exact (Ensures.of_exists fun _ => .of_exists fun _ => ensures_recordFailure fresh).weaken (fun _ handled => handled.2)
        (fun _ _ => id) fun _ => id

theorem ensures_processEvent (formed : wellFormed d = some callback) :
    Ensures (fun w => w.uow.committed = store ∧ w.applied = applied) (processEvent codec ports ttl d)
      (fun _ => Left codec ports ttl d callback store applied) (Left codec ports ttl d callback store applied) := by
  have still (w : World σ) (start : w.uow.committed = store ∧ w.applied = applied) :
    Left codec ports ttl d callback store applied w := by
    unfold Left
    rw [start.1,start.2]
    exact .untouched
  unfold processEvent
  rw [formed]
  refine (ensures_call (d.faults .begin) ensures_begin still fun _ _ => Holds.left).bind fun _ => ?_
  have inserting : Ensures (Holds store store none applied)
    (getOrInsert (pendingRecord ttl d (eventKey codec d) d.event.eventId))
      (fun existing w => existing = store.processed (eventKey codec d) ∧
        Holds store (withPending codec ttl d store) none applied w)
      (Left codec ports ttl d callback store applied) := ensures_getOrInsert rfl
  refine (ensures_call (d.faults .getOrInsert) inserting (fun _ => Holds.left) fun _ _ holds => holds.2.left).bind
    fun existing => ?_
  refine .of_fact fun known => ?_
  subst known
  refine .ite (fun present => ?_) fun absent => ensures_applyEvent (by simpa using absent)
  obtain ⟨record,found⟩ := isSome_iff_exists.mp present
  rw [withPending,inserted,found]
  refine ensures_settle d.faults ?_
  rw [toList_none,append_nil]
  exact .duplicate found

theorem deliver_leaves (formed : wellFormed d = some callback) :
    Leaves codec ports ttl d callback s.store s.applied (deliver codec ports ttl s d).store
      (deliver codec ports ttl s d).applied := by
  have spec : Ensures (fun w => w.uow.committed = s.store ∧ w.applied = s.applied) (processEvent codec ports ttl d)
      (fun _ => Left codec ports ttl d callback s.store s.applied) (Left codec ports ttl d callback s.store s.applied) :=
    ensures_processEvent formed
  unfold deliver
  split
  · rename_i ran
    exact spec.ok ⟨rfl,rfl⟩ ran
  · rename_i ran
    exact spec.error ⟨rfl,rfl⟩ ran
  · rename_i ran
    exact spec.error ⟨rfl,rfl⟩ ran

theorem deliver_diagnostic (formed : wellFormed d = none) :
    (deliver codec ports ttl s d).store = s.store ∧ (deliver codec ports ttl s d).applied = s.applied := by
  unfold deliver processEvent
  rw [formed]
  exact ⟨rfl,rfl⟩

end Event

section Once

theorem advanceCursor_rest : (advanceCursor codec ttl d store).rest = store.rest := by
  unfold advanceCursor
  simp only
  split <;> rfl

theorem isSome_putRecord (present : (store.processed k).isSome = true) :
    ((putRecord key (some record) store).processed k).isSome = true := by
  unfold putRecord
  by_cases same : k = key
  · subst same
    simp
  · simpa [Function.update_of_ne same] using present

theorem isSome_advanceCursor (present : (store.processed k).isSome = true) :
    ((advanceCursor codec ttl d store).processed k).isSome = true := by
  unfold advanceCursor
  simp only
  split
  · exact present
  · exact isSome_putRecord present

theorem Leaves.keeps (leaves : Leaves codec ports ttl d callback store applied store' applied')
    (present : (store.processed k).isSome = true) : (store'.processed k).isSome = true := by
  cases leaves with
  | untouched => exact present
  | duplicate known => exact isSome_advanceCursor present
  | failed error fresh => exact isSome_advanceCursor (isSome_putRecord present)
  | completed fresh answer handled => exact isSome_advanceCursor (isSome_putRecord present)

theorem Leaves.writes (leaves : Leaves codec ports ttl d callback store applied store' applied') :
    store'.rest = store.rest ∧ applied' = applied ∨
      d.faults .handle = none ∧ ports.handleMediaEvent d.event.tenantId d.now callback store.rest = (store'.rest,.ok ()) ∧
        applied' = applied ++ [eventKey codec d] ∧ store.processed (eventKey codec d) = none ∧
        (store'.processed (eventKey codec d)).isSome = true := by
  cases leaves with
  | untouched => exact .inl ⟨rfl,rfl⟩
  | duplicate known => exact .inl ⟨advanceCursor_rest,rfl⟩
  | failed error fresh => exact .inl ⟨advanceCursor_rest,rfl⟩
  | completed fresh answer handled =>
    refine .inr ⟨answer,?_,rfl,fresh,isSome_advanceCursor ?_⟩
    · rw [advanceCursor_rest]
      exact handled
    · exact (congrArg Option.isSome (processed_putRecord ..)).trans rfl

theorem mediaService_handled (handled : mediaService.handleMediaEvent tenant now callback store = (rest,.ok ())) :
    ∃ returned w, (MediaCallback.applyMediaEvent tenant now callback).run
    (CheetahSignaling.World.opened store fun _ => false) = .ok returned w ∧
      w.working = rest := by
  simp only [mediaService] at handled
  split at handled
  · rename_i returned w applied
    exact ⟨returned,w,applied,(Prod.mk.inj handled).1⟩
  · cases handled

/-- What the event of a delivery does to a store without records, faults and crashes. -/
def serve (store : Store) (d : Delivery) : Store :=
  match wellFormed d with
  | none => store
  | some callback =>
    ((MediaCallback.processEvent d.event.tenantId d.now d.node callback).leaves (.opened store fun _ => false)).committed

theorem handled_serve (formed : wellFormed d = some callback)
    (handled : mediaService.handleMediaEvent d.event.tenantId d.now callback store = (rest,.ok ())) : rest = serve store d := by
  have fromNode : FromNode d.node callback := by
    unfold wellFormed at formed
    split at formed
    · cases formed
    · simpa [FromNode] using (filter_eq_some_iff.mp formed).2
  obtain ⟨returned,w,applied,written⟩ := mediaService_handled handled
  obtain ⟨session,binding,operation,fenced⟩ := MediaCallback.applyMediaEvent_fenced applied
  rw [← written]
  simp [serve,formed,Service.leaves,MediaCallback.processEvent,fromNode.1,fromNode.2,
    Service.run_attempt_ok (fenced.validated fromNode),Service.run_attempt_ok applied]

/-- A step that commits the writes of a handler that succeeded. -/
structure Applies (codec : Codec) (ports : Ports σ) (s : Consumer σ) (action : Action) (s' : Consumer σ) (d : Delivery)
    (callback : MediaNodeCallback) : Prop where
  delivered : action = .deliver d
  formed : wellFormed d = some callback
  answer : d.faults .handle = none
  handled : ports.handleMediaEvent d.event.tenantId d.now callback s.store.rest = (s'.store.rest,.ok ())
  applied : s'.applied = s.applied ++ [eventKey codec d]
  fresh : s.store.processed (eventKey codec d) = none
  present : (s'.store.processed (eventKey codec d)).isSome = true

theorem resume_keeps : (step codec ports ttl s (.resume node fails)).store = s.store ∧
      (step codec ports ttl s (.resume node fails)).applied = s.applied := by
  simp only [step]
  split
  · exact ⟨rfl,rfl⟩
  · unfold loadCursor
    split <;> exact ⟨rfl,rfl⟩

/-- An action applies one callback or leaves the media tables as they are. -/
theorem step_writes :
    (step codec ports ttl s action).store.rest = s.store.rest ∧ (step codec ports ttl s action).applied = s.applied ∨
      ∃ d callback, Applies codec ports s action (step codec ports ttl s action) d callback := by
  cases action with
  | deliver d =>
    cases formed : wellFormed d with
    | none =>
      obtain ⟨store,applied⟩ := deliver_diagnostic formed
      exact .inl ⟨congrArg Inbox.Store.rest store,applied⟩
    | some callback =>
      have leaves : Leaves codec ports ttl d callback s.store s.applied (step codec ports ttl s (.deliver d)).store
          (step codec ports ttl s (.deliver d)).applied := deliver_leaves formed
      rcases leaves.writes with same | ⟨answer,handled,more,fresh,present⟩
      · exact .inl same
      · exact .inr ⟨d,callback,rfl,formed,answer,handled,more,fresh,present⟩
  | resume node fails =>
    obtain ⟨store,applied⟩ := resume_keeps
    exact .inl ⟨congrArg Inbox.Store.rest store,applied⟩
  | restart => exact .inl ⟨rfl,rfl⟩
  | purge key => exact .inl ⟨rfl,rfl⟩

theorem step_keeps (s : Consumer σ) (action : Action) (unpurged : action ≠ .purge key)
    (present : (s.store.processed key).isSome = true) :
    ((step codec ports ttl s action).store.processed key).isSome = true := by
  cases action with
  | deliver d =>
    cases formed : wellFormed d with
    | none =>
      exact (congrArg (fun store => (Inbox.Store.processed store key).isSome) (deliver_diagnostic formed).1).trans present
    | some callback => exact Leaves.keeps (deliver_leaves formed) present
  | resume node fails => exact (congrArg (fun store => (Inbox.Store.processed store key).isSome) resume_keeps.1).trans present
  | restart => exact present
  | purge other =>
    have apart : key ≠ other := by
      rintro rfl
      exact unpurged rfl
    simpa [step,putRecord,Function.update_of_ne apart] using present

/-- Along a run a message that is not purged is applied at most once, and not if it was recorded. -/
theorem run_applied (run : List Action) (unpurged : .purge key ∉ run) (s : Consumer σ) :
    ∃ more, (execute (step codec ports ttl) s run).applied = s.applied ++ more ∧ more.count key ≤ 1 ∧
      ((s.store.processed key).isSome = true → key ∉ more) := by
  induction run generalizing s with
  | nil => exact ⟨[],(append_nil _).symm,Nat.zero_le 1,fun _ => not_mem_nil⟩
  | cons action run ih =>
    obtain ⟨other,unpurged⟩ := not_or.mp (fun purged => unpurged (mem_cons.mpr purged))
    obtain ⟨more,applied,count,absent⟩ := ih unpurged (step codec ports ttl s action)
    have keeps : (s.store.processed key).isSome = true → ((step codec ports ttl s action).store.processed key).isSome = true :=
      step_keeps s action (Ne.symm other)
    have written : (step codec ports ttl s action).store.rest = s.store.rest ∧
      (step codec ports ttl s action).applied = s.applied ∨
      ∃ d callback, Applies codec ports s action (step codec ports ttl s action) d callback := step_writes
    rcases written with ⟨-,same⟩ | ⟨d,callback,applies⟩
    · exact ⟨more,by rw [execute,applied,same],count,fun present => absent (keeps present)⟩
    refine ⟨eventKey codec d :: more,by rw [execute,applied,applies.applied,append_assoc]; rfl,?_,fun present => ?_⟩
    · by_cases own : eventKey codec d = key
      · have gone := absent (own ▸ applies.present)
        rw [own,count_cons_self,count_eq_zero_of_not_mem gone]
      · rw [count_cons_of_ne own]
        exact count
    have own : key ≠ eventKey codec d := by
      rintro rfl
      rw [applies.fresh] at present
      cases present
    exact not_mem_cons_of_ne_of_not_mem own (absent (keeps present))

/-- Exactly-once effect. Over any sequence of deliveries, failures and restarts the writes of the handler of
an event are committed at most once while its record is there, and only a handler that succeeded leaves
any, all of them at once. -/
theorem media_event_applied_once (codec : Codec) (ports : Ports σ) (recordTtlMs : Nat) (s : Consumer σ) (run : List Action) :
    (∀ key, .purge key ∉ run → ∃ more, (execute (step codec ports recordTtlMs) s run).applied = s.applied ++ more ∧
      more.count key ≤ 1 ∧ ((s.store.processed key).isSome = true → key ∉ more)) ∧
    ∀ before action after, run = before ++ action :: after →
      let reached := execute (step codec ports recordTtlMs) s before
      let next := step codec ports recordTtlMs reached action
      next.store.rest = reached.store.rest ∧ next.applied = reached.applied ∨
        ∃ d callback, Applies codec ports reached action next d callback :=
  ⟨fun _ unpurged => run_applied run unpurged s,fun _ _ _ _ => step_writes⟩

/-- Whatever fails on the way, the store follows the events applied, in the order of their deliveries. -/
theorem consumer_follows_applied (codec : Codec) (ttl : Nat) (s : Consumer Store) (run : List Action) :
    ∃ events : List Delivery, (events.map .deliver).Sublist run ∧
      (execute (step codec mediaService ttl) s run).applied = s.applied ++ events.map (eventKey codec) ∧
      (execute (step codec mediaService ttl) s run).store.rest = events.foldl serve s.store.rest := by
  induction run generalizing s with
  | nil => exact ⟨[],.slnil,(append_nil _).symm,rfl⟩
  | cons action run ih =>
    obtain ⟨events,sub,applied,rest⟩ := ih (step codec mediaService ttl s action)
    rcases step_writes with ⟨same,log⟩ | ⟨d,callback,applies⟩
    · exact ⟨events,sub.cons _,by rw [execute,applied,log],by rw [execute,rest,same]⟩
    refine ⟨d :: events,applies.delivered ▸ sub.cons_cons _,?_,?_⟩
    · rw [execute,applied,applies.applied,append_assoc]
      rfl
    · rw [execute,rest,handled_serve applies.formed applies.handled]
      rfl

end Once

namespace Sample

def deliveries : List Action :=
  [.deliver (delivery "a" 1 .started fun call => if call = .commit then some (.late "timeout") else none),.restart,
    .deliver (delivery "a" 1 .started fun _ => none),.deliver (delivery "bb" 2 (.stopped "lost") fun _ => none)]

theorem deliveries_applied_once : (execute (step strokes counting 1000) fresh deliveries).applied = [(1,1)] ∧
      (execute (step strokes counting 1000) fresh deliveries).store.rest = 1 ∧
      ∃ more, (execute (step strokes counting 1000) fresh deliveries).applied = [] ++ more ∧ more.count (1,1) ≤ 1 := by
  obtain ⟨more,applied,count,-⟩ :=
    (media_event_applied_once strokes counting 1000 fresh deliveries).1 (1,1) (by simp [deliveries])
  exact ⟨rfl,rfl,more,applied,count⟩

end Sample

end CheetahSignaling.MediaEvents
