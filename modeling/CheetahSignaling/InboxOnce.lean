import CheetahSignaling.Inbox

/-! What a delivery leaves, wherever it stops, and what any sequence of deliveries and
redeliveries leaves. -/
namespace CheetahSignaling.Inbox

open Outcomes GuardedRun Function
open List hiding after modify

section

variable (store : Store σ) (d : Delivery σ)

def Delivery.key : Option MessageKey :=
  match d.decoded with
  | .ok command => some (command.tenantId,command.messageId)
  | .error _ => none

def Delivery.AsOwner : Prop :=
  ∃ command owner, d.decoded = .ok command ∧ d.faults .resolve = none ∧ d.owner = some owner ∧
    owner.ownerNodeId = d.thisNode ∧ owner.ownerEpoch = command.expectedOwnerEpoch

/-- The delivery comes to the handler: it is for the owner and its message has no record. -/
structure Reaches (command : Command) (owner : OwnerRepository.OwnerInfo) : Prop where
  decoded : d.decoded = .ok command
  resolved : d.faults .resolve = none ∧ d.owner = some owner
  owned : owner.ownerNodeId = d.thisNode ∧ owner.ownerEpoch = command.expectedOwnerEpoch
  begun : d.faults .begin = none
  inserted : d.faults .getOrInsert = none ∧ store.processed (command.tenantId,command.messageId) = none

def Delivery.Forwarded (effects : List Effect) : Prop :=
  ∃ owner, d.owner = some owner ∧ owner.ownerNodeId ≠ d.thisNode ∧ .forwarded owner.ownerNodeId ∈ effects

def Delivery.RecordedIn : Prop :=
  ∃ key record, d.key = some key ∧ store.processed key = some record ∧ record.status ≠ .pending

/-- Why a message may be acknowledged after these effects. -/
def Acknowledged (effects : List Effect) : Prop := .committed ∈ effects ∨ d.RecordedIn store ∨ d.Forwarded effects

/-- Until the handler's writes are committed nothing is; then the message is recorded, which it
was not before. -/
structure Consistent (w : World σ) : Prop where
  unchanged : .committed ∉ w.log → w.uow.committed = store
  recorded : .committed ∈ w.log → ∃ key record, d.key = some key ∧ store.processed key = none ∧
    w.uow.committed.processed = update store.processed key (some record)
  reached : .handled ∈ w.log ∨ .committed ∈ w.log → ∃ command owner, Reaches store d command owner

/-- Nothing has been acknowledged yet. -/
structure Quiet (w : World σ) : Prop extends Consistent store d w where
  silent : .ack ∉ w.log

/-- An acknowledgement comes after what allows it. -/
structure Sound (w : World σ) : Prop extends Consistent store d w where
  acked : ∀ before after, w.log = before ++ .ack :: after → Acknowledged store d before

/-- The handler has run, and its record is in the unit of work unless that was rolled back. -/
structure Handling (key : MessageKey) (w : World σ) : Prop extends Quiet store d w where
  about : d.key = some key
  absent : store.processed key = none
  handled : .handled ∈ w.log
  pending : w.rolledBack = false → ∃ record, w.uow.working.processed = update store.processed key (some record)

end

section

variable {d : Delivery σ}

theorem Reaches.asOwner (reaches : Reaches store d command owner) : d.AsOwner :=
  ⟨command,owner,reaches.decoded,reaches.resolved.1,reaches.resolved.2,reaches.owned⟩

theorem Reaches.about (reaches : Reaches store d command owner) : d.key = some (command.tenantId,command.messageId) := by
  rw [Delivery.key,reaches.decoded]

theorem Quiet.sound (quiet : Quiet store d w) : Sound store d w where
  toConsistent := quiet.toConsistent
  acked before after log := absurd (log ▸ by simp : .ack ∈ w.log) quiet.silent

theorem opened_quiet : Quiet store d (.opened store) :=
  ⟨⟨fun _ => rfl,by simp [World.opened],by simp [World.opened]⟩,by simp [World.opened]⟩

theorem Quiet.putRecord (quiet : Quiet store d w) (key : MessageKey) (record : Option ProcessedMessageRecord) :
    Quiet store d (w.putRecord key record) :=
  ⟨⟨quiet.unchanged,quiet.recorded,quiet.reached⟩,quiet.silent⟩

/-- A call that returns a value met no fault. -/
theorem attempt_answered
    {x : Program σ (Except String α)} (fault : Option Fault) (spec : Ensures pre x post onError)
    (refused : ∀ text w, pre w → post (.error text) w)
    (late : ∀ result text w, post result w → post (.error text) w) (crash : ∀ w, pre w → onError w) :
    Ensures pre (attempt fault x) (fun result w => (∀ a, result = .ok a → fault = none) ∧ post result w) onError := by
  cases fault with
  | none => exact spec.weaken (fun _ => id) (fun _ _ holds => ⟨fun _ _ => rfl,holds⟩) fun _ => id
  | some fault =>
    cases fault with
    | crash => exact .throw crash
    | error text => exact .pure fun w start => ⟨nofun,refused text w start⟩
    | late text => exact spec.bind fun result => .pure fun w holds => ⟨nofun,late result text w holds⟩

theorem ensures_attempt
    {x : Program σ (Except String α)} (fault : Option Fault) (spec : Ensures pre x post onError)
    (refused : ∀ text w, pre w → post (.error text) w)
    (late : ∀ result text w, post result w → post (.error text) w) (crash : ∀ w, pre w → onError w) :
    Ensures pre (attempt fault x) post onError :=
  (attempt_answered fault spec refused late crash).weaken (fun _ => id) (fun _ _ => And.right) fun _ => id

theorem preserves_attempt (fault : Option Fault)
    (spec : Ensures inv x (fun _ => inv) onError) (crash : ∀ w, inv w → onError w) :
    Ensures inv (attempt fault x) (fun _ => inv) onError :=
  ensures_attempt fault spec (fun _ _ holds => holds) (fun _ _ _ holds => holds) crash

theorem ensures_answer {pre onError : World σ → Prop} (fault : Option Fault) (answer : α)
    (crash : ∀ w, pre w → onError w) :
    Ensures pre (attempt fault (pure (.ok answer)))
      (fun result w => (∀ a, result = .ok a → fault = none ∧ a = answer) ∧ pre w) onError := by
  have given : Ensures pre (pure (.ok answer) : Program σ (Except String α))
      (fun result w => (∀ a, result = .ok a → a = answer) ∧ pre w) onError :=
    .pure fun w start => ⟨fun a same => by cases same; rfl,start⟩
  refine (attempt_answered fault given ?_ ?_ crash).weaken (fun _ => id) (fun _ _ holds => ?_) fun _ => id
  · exact fun text w start => ⟨nofun,start⟩
  · exact fun _ text w holds => ⟨nofun,holds.2⟩
  · exact ⟨fun a same => ⟨holds.1 a same,holds.2.1 a same⟩,holds.2.2⟩

theorem ensures_emit {pre onError post : World σ → Prop}
    (holds : ∀ w, pre w → post { w with log := w.log ++ [effect] }) :
    Ensures pre (emit effect) (fun _ => post) onError := by
  have logged : Ensures pre (modify fun w => { w with log := w.log ++ [effect] } : Program σ Unit)
      (fun _ => post) onError := .modify holds
  exact logged.bind fun _ => .pure fun _ => id

theorem Consistent.emit (consistent : Consistent store d w) (effect : Effect) (committed : effect ≠ .committed)
    (handled : effect ≠ .handled) : Consistent store d { w with log := w.log ++ [effect] } where
  unchanged absent := consistent.unchanged fun member => absent (mem_append_left _ member)
  recorded member := consistent.recorded (by simpa [committed.symm] using member)
  reached member := consistent.reached (by simpa [committed.symm,handled.symm] using member)

theorem Quiet.emit (quiet : Quiet store d w) (effect : Effect) (committed : effect ≠ .committed)
    (handled : effect ≠ .handled) (ack : effect ≠ .ack) : Quiet store d { w with log := w.log ++ [effect] } where
  toConsistent := quiet.toConsistent.emit effect committed handled
  silent member := quiet.silent (by simpa [ack.symm] using member)

theorem Quiet.ack (quiet : Quiet store d w) (reason : Acknowledged store d w.log) :
    Sound store d { w with log := w.log ++ [.ack] } where
  toConsistent := quiet.toConsistent.emit .ack (by simp) (by simp)
  acked before after log := by
    obtain ⟨rfl,-,-⟩ := (append_cons_inj_of_notMem quiet.silent not_mem_nil).mp log
    exact reason

theorem ensures_settle (effect : Effect) (committed : effect ≠ .committed) (handled : effect ≠ .handled)
    (ack : effect ≠ .ack) :
    Ensures (Quiet store d) (settle d effect) (fun _ => Sound store d) (Sound store d) := by
  have emitted : Ensures (Quiet store d) (emit effect) (fun _ => Quiet store d) (Sound store d) :=
    ensures_emit fun w quiet => quiet.emit effect committed handled ack
  refine (preserves_attempt (d.faults .settle) emitted fun _ => Quiet.sound).bind fun _ => ?_
  exact .pure fun _ => Quiet.sound

theorem ensures_nak :
    Ensures (Quiet store d) (settle d (.nak reason)) (fun _ => Sound store d) (Sound store d) :=
  ensures_settle _ (by simp) (by simp) (by simp)

theorem ensures_ack :
    Ensures (fun w => Quiet store d w ∧ Acknowledged store d w.log) (settle d .ack) (fun _ => Sound store d)
      (Sound store d) := by
  have emitted : Ensures (fun w => Quiet store d w ∧ Acknowledged store d w.log) (emit .ack)
      (fun _ => Sound store d) (Sound store d) :=
    ensures_emit fun w start => start.1.ack start.2
  refine (ensures_attempt (d.faults .settle) emitted ?_ ?_ ?_).bind fun _ => .pure fun _ => id
  · exact fun _ _ start => start.1.sound
  · exact fun _ _ _ holds => holds
  · exact fun _ start => start.1.sound

theorem Quiet.rollback (quiet : Quiet store d w) : Quiet store d w.rollback :=
  ⟨⟨quiet.unchanged,quiet.recorded,quiet.reached⟩,quiet.silent⟩

theorem ensures_rollback {inv onError : World σ → Prop} (kept : ∀ w, inv w → inv w.rollback) :
    Ensures inv rollback (fun _ => inv) onError := by
  refine .of_returns fun w holds => ?_
  rw [run_rollback]
  split
  · exact ⟨_,_,rfl,holds⟩
  · exact ⟨_,_,rfl,kept w holds⟩

theorem ensures_giveBack :
    Ensures (Quiet store d) (giveBack d reason) (fun _ => Sound store d) (Sound store d) := by
  have rolled : Ensures (Quiet store d) rollback (fun _ => Quiet store d) (Sound store d) :=
    ensures_rollback fun w => Quiet.rollback
  exact (preserves_attempt (d.faults .rollback) rolled fun _ => Quiet.sound).bind fun _ => ensures_nak

section

variable (handling : Handling store d key w)
include handling

theorem Handling.commit (open_ : w.rolledBack = false) :
    Handling store d key w.commit ∧ .committed ∈ w.commit.log := by
  have log : w.commit.log = w.log ++ [.committed] := if_pos handling.handled
  obtain ⟨record,seen⟩ := handling.pending open_
  refine ⟨⟨⟨⟨?_,?_,?_⟩,?_⟩,handling.about,handling.absent,?_,fun _ => ⟨record,seen⟩⟩,?_⟩
  · intro absent
    simp [log] at absent
  · exact fun _ => ⟨key,record,handling.about,handling.absent,seen⟩
  · exact fun _ => handling.reached (.inl handling.handled)
  · simpa [log] using handling.silent
  · simp [log,handling.handled]
  · simp [log]

theorem Handling.rollback : Handling store d key w.rollback where
  toQuiet := handling.toQuiet.rollback
  about := handling.about
  absent := handling.absent
  handled := handling.handled
  pending rolled := by cases rolled

theorem Handling.write (change : σ → σ) :
    Handling store d key { w with uow.working.rest := change w.uow.working.rest } where
  toQuiet := ⟨⟨handling.unchanged,handling.recorded,handling.reached⟩,handling.silent⟩
  about := handling.about
  absent := handling.absent
  handled := handling.handled
  pending := handling.pending

theorem Handling.complete (change : ProcessedMessageRecord → ProcessedMessageRecord) :
    Handling store d key (w.putRecord key ((w.uow.working.processed key).map change)) where
  toQuiet := handling.toQuiet.putRecord ..
  about := handling.about
  absent := handling.absent
  handled := handling.handled
  pending open_ := by
    obtain ⟨record,seen⟩ := handling.pending open_
    exact ⟨change record,by simp [World.putRecord,seen]⟩

theorem Handling.sound : Sound store d w := handling.toQuiet.sound

end

theorem ensures_commit : Ensures (Handling store d key) Inbox.commit
      (fun result w => Handling store d key w ∧ (result = .ok () → .committed ∈ w.log)) (Sound store d) := by
  refine .of_returns fun w handling => ?_
  rw [run_commit]
  split
  · exact ⟨_,_,rfl,handling,fun ok => by cases ok⟩
  · rename_i open_
    obtain ⟨committed,logged⟩ := handling.commit (by simpa using open_)
    exact ⟨_,_,rfl,committed,fun _ => logged⟩

theorem ensures_act :
    Ensures (Handling store d key) (act action) (fun _ => Handling store d key) (Sound store d) := by
  cases action with
  | write change => exact .of_returns fun w handling => ⟨_,_,rfl,handling.write change⟩
  | commit => exact ensures_commit.weaken (fun _ => id) (fun _ _ done => done.1) fun _ => id
  | rollback => exact ensures_rollback fun w => Handling.rollback

theorem ensures_actAll :
    Ensures (Handling store d key) (actAll actions) (fun _ => Handling store d key) (Sound store d) := by
  induction actions with
  | nil => exact .pure fun _ => id
  | cons action rest ih => exact ensures_act.bind fun _ => ih

theorem ensures_finish (settled : Ensures (fun w => Quiet store d w ∧ .committed ∈ w.log) (settle d final)
      (fun _ => Sound store d) (Sound store d)) :
    Ensures (Handling store d key) (finish d key status payload reason final) (fun _ => Sound store d)
      (Sound store d) := by
  have completed : Ensures (Handling store d key) (Inbox.complete key status payload d.completedAt)
      (fun _ => Handling store d key) (Sound store d) :=
    .of_returns fun w handling => ⟨_,_,rfl,handling.complete _⟩
  refine (preserves_attempt (d.faults .complete) completed fun _ => Handling.sound).bind fun result => ?_
  cases result with
  | error text =>
    exact ensures_giveBack.weaken (fun _ => Handling.toQuiet) (fun _ _ holds => holds) fun _ => id
  | ok _ =>
    refine (ensures_attempt (d.faults .commit) ensures_commit ?_ ?_ fun _ => Handling.sound).bind fun result => ?_
    · exact fun text w handling => ⟨handling,by simp⟩
    · exact fun result text w done => ⟨done.1,by simp⟩
    cases result with
    | error text =>
      exact ensures_nak.weaken (fun _ done => done.1.toQuiet) (fun _ _ holds => holds) fun _ => id
    | ok _ => exact settled.weaken (fun _ done => ⟨done.1.toQuiet,done.2 rfl⟩) (fun _ _ holds => holds) fun _ => id

theorem handling_start (reaches : Reaches store d command owner) (same : (command.tenantId,command.messageId) = key) :
    Handling store d key { (World.opened store).putRecord key (some record) with log := [.handled] } where
  unchanged _ := rfl
  recorded logged := by simp at logged
  reached _ := ⟨command,owner,reaches⟩
  silent := by simp
  about := same ▸ reaches.about
  absent := same ▸ reaches.inserted.2
  handled := by simp
  pending _ := ⟨record,rfl⟩

theorem ensures_handle (encoding : Encoding) (record : ProcessedMessageRecord) (reaches : Reaches store d command owner)
    (same : (command.tenantId,command.messageId) = key) :
    Ensures (· = (World.opened store).putRecord key (some record)) (handle encoding d key) (fun _ => Sound store d)
      (Sound store d) := by
  have begun : Ensures (· = (World.opened store).putRecord key (some record)) (emit .handled)
      (fun _ => Handling store d key) (Sound store d) := by
    refine ensures_emit fun w start => ?_
    subst start
    exact handling_start reaches same
  refine begun.bind fun _ => ensures_actAll.bind fun _ => ?_
  cases d.ended with
  | crashed => exact .throw fun _ => Handling.sound
  | returned result =>
    refine ensures_finish (ensures_ack.weaken ?_ (fun _ _ holds => holds) fun _ => id)
    exact fun w committed => ⟨committed.1,.inl committed.2⟩
  | failed text retryable =>
    refine .ite (fun _ => ?_) fun _ => ?_
    · exact ensures_giveBack.weaken (fun _ => Handling.toQuiet) (fun _ _ holds => holds) fun _ => id
    · refine ensures_finish ((ensures_settle (.term text) ?_ ?_ ?_).weaken (fun _ => And.left)
        (fun _ _ holds => holds) fun _ => id) <;> simp

theorem ensures_processExisting (about : d.key = some key) (found : store.processed key = some existing) :
    Ensures (· = World.opened store) (processExisting d existing) (fun _ => Sound store d) (Sound store d) := by
  refine .ite (fun settled => ?_) fun _ => ?_
  · have committed : Ensures (· = World.opened store) Inbox.commit (fun _ => (· = World.opened store))
        (Sound store d) := by
      refine .of_returns fun w start => ?_
      subst start
      exact ⟨_,_,rfl,rfl⟩
    refine (preserves_attempt (d.faults .commit) committed ?_).bind fun _ => ?_
    · rintro w rfl
      exact opened_quiet.sound
    · refine ensures_ack.weaken ?_ (fun _ _ holds => holds) fun _ => id
      rintro w rfl
      exact ⟨opened_quiet,.inr (.inl ⟨key,existing,about,found,settled⟩)⟩
  · refine ensures_giveBack.weaken ?_ (fun _ _ holds => holds) fun _ => id
    rintro w rfl
    exact opened_quiet

def Looked (store : Store σ) (d : Delivery σ) (key : MessageKey) (record : ProcessedMessageRecord)
    (result : Except String (Option ProcessedMessageRecord)) (w : World σ) : Prop :=
  match result with
  | .error _ => Quiet store d w
  | .ok (some existing) => store.processed key = some existing ∧ w = World.opened store
  | .ok none => store.processed key = none ∧ w = (World.opened store).putRecord key (some record)

theorem Looked.quiet (looked : Looked store d key record result w) : Quiet store d w := by
  match result,looked with
  | .error _,quiet => exact quiet
  | .ok (some _),⟨_,same⟩ => exact same ▸ opened_quiet
  | .ok none,⟨_,same⟩ => exact same ▸ opened_quiet.putRecord ..

theorem ensures_getOrInsert (record : ProcessedMessageRecord) : Ensures (· = World.opened store) (getOrInsert record)
      (Looked store d (record.tenantId,record.messageId) record) (Sound store d) := by
  refine .of_returns fun w start => ?_
  subst start
  cases found : store.processed (record.tenantId,record.messageId) with
  | some existing =>
    refine ⟨.ok (some existing),_,?_,found,rfl⟩
    simp [getOrInsert,World.opened,UnitOfWork.opened,found]
  | none =>
    refine ⟨.ok none,_,?_,found,rfl⟩
    simp only [getOrInsert,EStateM.run_bind,EStateM.run_get,World.opened,UnitOfWork.opened,found]
    rfl

theorem ensures_process (decoded : d.decoded = .ok command) (resolved : d.faults .resolve = none ∧ d.owner = some owner)
    (owned : owner.ownerNodeId = d.thisNode ∧ owner.ownerEpoch = command.expectedOwnerEpoch) :
    Ensures (· = World.opened store) (process encoding d command) (fun _ => Sound store d) (Sound store d) := by
  have about : d.key = some (command.tenantId,command.messageId) := by rw [Delivery.key,decoded]
  have quiet (w : World σ) (start : w = World.opened store) : Quiet store d w := start ▸ opened_quiet
  refine (ensures_answer (d.faults .begin) () fun w start => (quiet w start).sound).bind fun result => ?_
  refine .of_fact fun begun => ?_
  cases result with
  | error text => exact ensures_nak.weaken quiet (fun _ _ holds => holds) fun _ => id
  | ok _ =>
    refine (attempt_answered (d.faults .getOrInsert) (ensures_getOrInsert _) ?_ ?_ ?_).bind fun result => ?_
    · exact fun _ => quiet
    · exact fun _ _ _ => Looked.quiet
    · exact fun w start => (quiet w start).sound
    refine .of_fact fun inserted => ?_
    match result with
    | .error text => exact ensures_giveBack
    | .ok (some existing) => exact .of_fact fun found => ensures_processExisting about found
    | .ok none =>
      refine .of_fact fun absent => ?_
      have reaches : Reaches store d command owner := ⟨decoded,resolved,owned,(begun _ rfl).1,inserted _ rfl,absent⟩
      exact ensures_handle encoding _ reaches rfl

theorem ensures_forward (known : d.owner = some owner) (remote : owner.ownerNodeId ≠ d.thisNode) :
    Ensures (· = World.opened store) (forward d owner.ownerNodeId) (fun _ => Sound store d) (Sound store d) := by
  have quiet (w : World σ) (start : w = World.opened store) : Quiet store d w := start ▸ opened_quiet
  have sent : Ensures (· = World.opened store) (emit (.forwarded owner.ownerNodeId))
      (fun result w => Quiet store d w ∧ (result = .ok () → .forwarded owner.ownerNodeId ∈ w.log))
      (Sound store d) := by
    refine .of_returns fun w start => ⟨_,_,rfl,(quiet w start).emit _ (by simp) (by simp) (by simp),fun _ => ?_⟩
    simp
  refine (ensures_attempt (d.faults .send) sent ?_ ?_ fun w start => (quiet w start).sound).bind fun result => ?_
  · exact fun _ w start => ⟨quiet w start,fun ok => by cases ok⟩
  · exact fun _ _ w done => ⟨done.1,fun ok => by cases ok⟩
  cases result with
  | error text =>
    exact ensures_nak.weaken (fun _ => And.left) (fun _ _ holds => holds) fun _ => id
  | ok _ =>
    refine ensures_ack.weaken (fun w done => ?_) (fun _ _ holds => holds) fun _ => id
    exact ⟨done.1,.inr (.inr ⟨owner,known,remote,done.2 rfl⟩)⟩

theorem ensures_handleDelivery (encoding : Encoding) (store : Store σ) (d : Delivery σ) :
    Ensures (· = World.opened store) (handleDelivery encoding d) (fun _ => Sound store d) (Sound store d) := by
  have quiet (w : World σ) (start : w = World.opened store) : Quiet store d w := start ▸ opened_quiet
  have settled (effect : Effect) (committed : effect ≠ .committed) (handled : effect ≠ .handled)
      (ack : effect ≠ .ack) :
      Ensures (· = World.opened store) (settle d effect) (fun _ => Sound store d) (Sound store d) :=
    (ensures_settle effect committed handled ack).weaken quiet (fun _ _ holds => holds) fun _ => id
  unfold handleDelivery
  split
  · exact settled _ (by simp) (by simp) (by simp)
  rename_i command decoded
  refine (ensures_answer (d.faults .resolve) d.owner fun w start => (quiet w start).sound).bind fun result => ?_
  refine .of_fact fun resolved => ?_
  match result with
  | .error text => exact settled _ (by simp) (by simp) (by simp)
  | .ok none => exact settled _ (by simp) (by simp) (by simp)
  | .ok (some owner) =>
    obtain ⟨answered,known⟩ := resolved _ rfl
    refine .ite (fun here => ?_) fun remote => ensures_forward known.symm remote
    refine .ite (fun _ => settled _ (by simp) (by simp) (by simp)) fun current => ?_
    exact ensures_process decoded ⟨answered,known.symm⟩ ⟨here,not_not.mp current⟩

end

section

variable (encoding : Encoding) (store : Store σ) (d : Delivery σ)

def delivered : World σ :=
  match (handleDelivery encoding d).run (.opened store) with
  | .ok _ w => w
  | .error _ w => w

def step : Store σ :=
  (delivered encoding store d).uow.committed

def effects : List Effect := (delivered encoding store d).log

end

section

variable (encoding : Encoding)

theorem delivered_sound : Sound store d (delivered encoding store d) := by
  have spec := ensures_handleDelivery encoding store d
  unfold delivered
  split
  · exact spec.ok rfl ‹_›
  · exact spec.error rfl ‹_›

variable {encoding}

theorem step_unchanged (absent : .committed ∉ effects encoding store d) : step encoding store d = store :=
  (delivered_sound encoding).unchanged absent

/-- A delivery that commits records its message, which was not recorded before. -/
theorem step_recorded (logged : .committed ∈ effects encoding store d) :
    ∃ key record, d.key = some key ∧ store.processed key = none ∧
      (step encoding store d).processed = update store.processed key (some record) :=
  (delivered_sound encoding).recorded logged

theorem step_keeps (found : store.processed key ≠ none) : (step encoding store d).processed key ≠ none := by
  by_cases logged : .committed ∈ effects encoding store d
  · obtain ⟨new,record,-,absent,written⟩ := step_recorded logged
    have other : key ≠ new := fun same => found (same ▸ absent)
    rw [written,update_of_ne other]
    exact found
  · rw [step_unchanged logged]
    exact found

theorem step_new (absent : store.processed key = none) (found : (step encoding store d).processed key ≠ none) :
    d.key = some key ∧ .committed ∈ effects encoding store d := by
  by_cases logged : .committed ∈ effects encoding store d
  · obtain ⟨new,record,about,-,written⟩ := step_recorded logged
    by_cases same : key = new
    · exact ⟨same ▸ about,logged⟩
    · rw [written,update_of_ne same] at found
      exact absurd absent found
  · rw [step_unchanged logged] at found
    exact absurd absent found

def history (encoding : Encoding) (store : Store σ) (run : List (Delivery σ)) : List (Delivery σ × List Effect) :=
  outputs (step encoding) (effects encoding) store run

def commits (key : MessageKey) (entry : Delivery σ × List Effect) : Bool :=
  entry.1.key = some key && .committed ∈ entry.2

theorem history_recorded (run : List (Delivery σ)) (found : store.processed key ≠ none) :
    (history encoding store run).filter (commits key) = [] := by
  induction run generalizing store with
  | nil => rfl
  | cons d rest ih =>
    have first : commits key (d,effects encoding store d) = false := by
      by_contra committed
      simp only [commits,Bool.not_eq_false,Bool.and_eq_true,decide_eq_true_eq] at committed
      obtain ⟨new,record,about,absent,-⟩ := step_recorded committed.2
      rw [committed.1] at about
      cases about
      exact found absent
    rw [history,outputs,filter_cons_of_neg (by simp [first])]
    exact ih (step_keeps found)

theorem history_once (run : List (Delivery σ)) (store : Store σ) (key : MessageKey) :
    ((history encoding store run).filter (commits key)).length ≤ 1 := by
  induction run generalizing store with
  | nil => simp [history,outputs]
  | cons d rest ih =>
    rw [history,outputs]
    by_cases committed : commits key (d,effects encoding store d) = true
    · have logged := committed
      simp only [commits,Bool.and_eq_true,decide_eq_true_eq] at logged
      obtain ⟨new,record,about,-,written⟩ := step_recorded logged.2
      rw [logged.1] at about
      cases about
      have found : (step encoding store d).processed key ≠ none := by simp [written]
      have none_later : (history encoding (step encoding store d) rest).filter (commits key) = [] :=
        history_recorded rest found
      rw [history] at none_later
      rw [filter_cons_of_pos committed,none_later,length_singleton]
    · rw [filter_cons_of_neg committed]
      exact ih (step encoding store d)

theorem recorded_by (run : List (Delivery σ)) (found : (execute (step encoding) store run).processed key ≠ none) :
    store.processed key ≠ none ∨ ∃ entry ∈ history encoding store run, commits key entry = true := by
  induction run generalizing store with
  | nil => exact .inl found
  | cons d rest ih =>
    rcases ih found with before | ⟨entry,member,committed⟩
    · by_cases absent : store.processed key = none
      · obtain ⟨about,logged⟩ := step_new absent before
        refine .inr ⟨(d,effects encoding store d),mem_cons_self,?_⟩
        simp [commits,about,logged]
      · exact .inl absent
    · exact .inr ⟨entry,mem_cons_of_mem _ member,committed⟩

/-- What a run of deliveries keeps to: for one message the handler's writes are committed at
most once, other deliveries leave the store alone, and records come from those commits; a
positive acknowledgement follows the commit, meets a record or follows the forwarding to the
owner; the handler runs for the owner at the expected epoch only. -/
structure AtMostOnce (encoding : Encoding) (store : Store σ) (run : List (Delivery σ)) : Prop where
  once : ∀ key, ((history encoding store run).filter (commits key)).length ≤ 1
  written : ∀ first d rest, run = first ++ d :: rest →
    .committed ∉ effects encoding (execute (step encoding) store first) d →
      execute (step encoding) store (first ++ [d]) = execute (step encoding) store first
  recorded : ∀ first rest key, run = first ++ rest → (execute (step encoding) store first).processed key ≠ none →
    store.processed key ≠ none ∨ ∃ entry ∈ history encoding store first, commits key entry = true
  acked : ∀ earlier d before after later,
    history encoding store run = earlier ++ (d,before ++ .ack :: after) :: later →
      .committed ∈ before ∨ d.RecordedIn (execute (step encoding) store (earlier.map Prod.fst)) ∨ d.Forwarded before
  owned : ∀ entry ∈ history encoding store run, .handled ∈ entry.2 → entry.1.AsOwner

/-- In every run of deliveries and redeliveries, with faults and crashes anywhere, the handler's writes for a message
are committed at most once, and a message is acknowledged only when it is recorded or forwarded. -/
theorem inbox_at_most_once (encoding : Encoding) (store : Store σ) (run : List (Delivery σ)) :
    AtMostOnce encoding store run where
  once := history_once run store
  written first d rest _ absent := by
    rw [execute_append,execute,execute]
    exact step_unchanged absent
  recorded first rest key _ found := recorded_by first found
  acked earlier d before after later split := by
    obtain ⟨first,rest,-,rfl,given⟩ := outputs_split split
    rw [outputs_actions]
    exact (delivered_sound encoding).acked before after given.symm
  owned entry member handled := by
    obtain ⟨earlier,later,split⟩ := append_of_mem member
    obtain ⟨first,rest,-,-,given⟩ := outputs_split split
    rw [given] at handled
    obtain ⟨command,owner,reaches⟩ := (delivered_sound encoding).reached (.inl handled)
    exact reaches.asOwner

end

namespace Sample

def encoding : Encoding := ⟨fun _ => none,fun text => text⟩

def command : Command :=
  ⟨21,23,20,some 22,1,3,⟨1,.channel,4⟩,.startLive 10 4 5 .live,"key",⟨1,"operator",⟨1,.channel,4⟩,"key"⟩,none,7⟩

/-- The command is for a device that node 8 owns. -/
def delivery (thisNode : NodeId) : Delivery Unit :=
  ⟨.ok command,thisNode,some ⟨8,7,none⟩,[],.returned ⟨.accepted,none,none,none⟩,5,none,6,fun _ => none⟩

def store : Store Unit := ⟨fun _ => none,()⟩

/-- Another node acknowledges the command, which is not recorded, after it has forwarded it. -/
theorem forwarded_acked : effects encoding store (delivery 9) = [.forwarded 8,.ack] ∧
    (delivery 9).key = some (1,23) ∧ (step encoding store (delivery 9)).processed (1,23) = none :=
  ⟨rfl,rfl,rfl⟩

example : effects encoding store (delivery 8) = [.handled,.committed,.ack] ∧
    effects encoding (step encoding store (delivery 8)) (delivery 8) = [.ack] :=
  ⟨rfl,rfl⟩

end Sample

end CheetahSignaling.Inbox
