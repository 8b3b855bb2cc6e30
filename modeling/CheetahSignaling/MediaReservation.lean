import CheetahSignaling.MediaStart
import CheetahSignaling.Outcomes

/-! Who is responsible for a scheduler reservation when a function returns: nobody, because
it was released, or the committed binding it was made for. -/
namespace CheetahSignaling.MediaReservation

open Service Outcomes MediaStart

def Backed (store : Store) (id : MediaBindingId) : Prop := ∃ b, store.bindings.find id = some b ∧ b.isTerminal = false

def NoLeak (before after : World) : Prop :=
  ∀ id, after.reserved id = true → before.reserved id = true ∨ Backed after.committed id

section

variable (before : World) (id : MediaBindingId) (w : World)

def Within : Prop :=
  ∀ k, k ≠ id → w.reserved k = true → before.reserved k = true

/-- The reservation of the binding is carried by its row, which a commit and a rollback
both leave in place. -/
structure Carried : Prop where
  within : Within before id w
  committed : Backed w.committed id
  working : Backed w.working id

/-- The same without the open transaction, which may have moved the binding on to its end. -/
structure Owed : Prop where
  within : Within before id w
  committed : Backed w.committed id

/-- The reservation of the binding is no longer anybody's concern. -/
structure Settled : Prop where
  within : Within before id w
  settled : w.reserved id = false ∨ Backed w.committed id

end

def AboutBindings (P : World → Prop) : Prop :=
  ∀ w w', w'.committed.bindings = w.committed.bindings → w'.working.bindings = w.working.bindings →
    (∀ k, w'.reserved k = true → w.reserved k = true) → P w → P w'

section

variable {id : MediaBindingId}

theorem Settled.noLeak (settled : Settled before id w) : NoLeak before w := by
  intro k held
  by_cases same : k = id
  · subst same
    rcases settled.settled with released | backed
    · rw [released] at held
      cases held
    · exact .inr backed
  · exact .inl (settled.within k same held)

theorem backed_congr (same : store'.bindings = store.bindings) : Backed store' id ↔ Backed store id := by
  simp [Backed,same]

theorem aboutBindings_within (before : World) (id : MediaBindingId) : AboutBindings (Within before id) :=
  fun _ _ _ _ fewer within k other held => within k other (fewer k held)

theorem aboutBindings_carried (before : World) (id : MediaBindingId) : AboutBindings (Carried before id) :=
  fun w w' committed working fewer carried =>
    ⟨aboutBindings_within before id w w' committed working fewer carried.within,
      (backed_congr committed).mpr carried.committed,(backed_congr working).mpr carried.working⟩

theorem Carried.owed (carried : Carried before id w) : Owed before id w := ⟨carried.within,carried.committed⟩

theorem Owed.noLeak (owed : Owed before id w) : NoLeak before w := Settled.noLeak ⟨owed.within,.inr owed.committed⟩

theorem aboutBindings_owed (before : World) (id : MediaBindingId) : AboutBindings (Owed before id) :=
  fun w w' committed working fewer owed =>
    ⟨aboutBindings_within before id w w' committed working fewer owed.within,
      (backed_congr committed).mpr owed.committed⟩

theorem aboutBindings_settled : AboutBindings (Settled before id) := by
  rintro w w' committed working fewer ⟨within,settled⟩
  refine ⟨aboutBindings_within before id w w' committed working fewer within,?_⟩
  rcases settled with released | backed
  · refine .inl (Bool.eq_false_iff.mpr fun held => ?_)
    rw [fewer id held] at released
    cases released
  · exact .inr ((backed_congr committed).mpr backed)

theorem Carried.commit (carried : Carried before id w) : Carried before id w.commit :=
  ⟨carried.within,carried.working,carried.working⟩

theorem Carried.rollback (carried : Carried before id w) : Carried before id w.rollback :=
  ⟨carried.within,carried.committed,carried.committed⟩

theorem Carried.putBinding (carried : Carried before id w) (live : b.isTerminal = false) :
    Carried before id (w.putBinding b) := by
  refine ⟨carried.within,carried.committed,?_⟩
  by_cases same : id = b.mediaBindingId
  · exact ⟨b,by rw [same]; exact Table.find_put_same ..,live⟩
  · obtain ⟨old,stored,oldLive⟩ := carried.working
    exact ⟨old,by rw [World.putBinding_bindings,Table.find_put_other _ same,stored],oldLive⟩

end

section Calls

variable {failure : Option DomainError}

theorem ensures_call (spec : Ensures pre x post onError) (failed : ∀ w, pre w → onError w) :
    Ensures pre (call failure x) post onError := by
  cases failure with
  | none => exact spec
  | some e => exact .throw failed

theorem preserves_call (spec : Preserves P x) : Preserves P (call failure x) := ensures_call spec fun _ h => h

theorem ensures_ofResult (failed : ∀ w, pre w → onError w) :
    Ensures pre (ofResult result) (fun a w => result = .ok a ∧ pre w) onError := by
  cases result with
  | ok a => exact .pure fun _ start => ⟨rfl,start⟩
  | error e => exact .throw failed

theorem ensures_commitCall (committed : ∀ w, pre w → post () w.commit) (failed : ∀ w, pre w → onError w.rollback) :
    Ensures pre (commitCall failure) post onError := by
  cases failure with
  | none => exact .modify committed
  | some e =>
    constructor
    · intro w _ w' _ ran
      cases ran
    · intro w _ w' start ran
      cases ran
      exact failed w start

theorem ensures_attempt {post : α → World → Prop}
    (spec : Ensures pre x post failed) :
    Ensures pre (attempt x) (fun result w => match result with
      | .ok a => post a w
      | .error _ => failed w) onError := by
  constructor
  · intro w result w' start ran
    cases inner : x.run w with
    | ok a w₁ =>
      rw [run_attempt_ok inner] at ran
      cases ran
      exact spec.ok start inner
    | error e w₁ =>
      rw [run_attempt_error inner] at ran
      cases ran
      exact spec.error start inner
  intro w e w' start ran
  cases inner : x.run w with
  | ok a w₁ => rw [run_attempt_ok inner] at ran; cases ran
  | error e w₁ => rw [run_attempt_error inner] at ran; cases ran

theorem preserves_attempt (spec : Preserves P x) : Preserves P (attempt x) := by
  refine (ensures_attempt spec).weaken (fun _ h => h) ?_ fun _ h => h
  rintro (_ | _) w kept <;> exact kept

theorem ensures_getBinding (failed : ∀ w, pre w → onError w) :
    Ensures pre (getBinding t k) (fun b w => b.mediaBindingId = k ∧ pre w) onError := by
  constructor
  · intro w b w' start ran
    obtain ⟨rfl,stored,-⟩ := getBinding_ok ran
    exact ⟨((Table.find_eq_some _).mp stored).2,start⟩
  · intro w e w' start ran
    cases reads_getBinding.error ran
    exact failed _ start

theorem noLeak_of_ensures {x : Service α} (spec : Ensures pre x (fun _ => NoLeak w) (NoLeak w))
    (start : pre w) : NoLeak w (x.leaves w) := by
  unfold leaves
  split
  · exact spec.ok start ‹_›
  · exact spec.error start ‹_›

theorem preserves_reads (reads : Reads x) : Preserves P x where
  ok start ran := by cases reads.ok ran; exact start
  error start ran := by cases reads.error ran; exact start

theorem preserves_ofResult : Preserves P (ofResult r) := preserves_reads reads_ofResult

theorem preserves_saveIn [LinearOrder K] {key : V → K} (table : World → Table key) (kept : ∀ w, P w → P (put w v)) :
    Preserves P (saveIn revision table put v) where
  ok start ran := (saveIn_ok ran).1 ▸ kept _ start
  error start ran := (saveIn_error ran) ▸ start

variable (about : AboutBindings P)

include about

theorem preserves_append : Preserves P (append e) :=
  .modify fun w start => about w _ rfl rfl (fun _ h => h) start

theorem preserves_saveSession : Preserves P (saveSession s) :=
  preserves_saveIn _ fun w start => about w _ rfl rfl (fun _ h => h) start

theorem preserves_saveOperation : Preserves P (saveOperation op) :=
  preserves_saveIn _ fun w start => about w _ rfl rfl (fun _ h => h) start

theorem preserves_release (id : MediaBindingId) : Preserves P (releaseReservation failure id) := by
  cases failure with
  | some e => exact .pure fun _ h => h
  | none =>
    refine .modify fun w start => about w _ rfl rfl (fun k held => ?_) start
    by_cases same : k = id
    · simp [same] at held
    · simpa [same] using held

end Calls

section Start

variable {id : MediaBindingId}

theorem preserves_saveLive (live : b.isTerminal = false) : Preserves (Carried before id) (saveBinding b) :=
  preserves_saveIn _ fun _ carried => carried.putBinding live

theorem preserves_commitCall (failure : Option DomainError) : Preserves (Carried before id) (commitCall failure) :=
  ensures_commitCall (fun _ carried => carried.commit) fun _ carried => carried.rollback

theorem preserves_executeMediaCommand :
    Preserves (Carried before id) (executeMediaCommand faults node now command) := by
  have about := aboutBindings_carried before id
  refine .bind (preserves_call (preserves_reads reads_getOperation)) fun operation => ?_
  refine .bind preserves_ofResult fun (started,event) => ?_
  refine .bind (preserves_call (preserves_saveOperation about)) fun _ => ?_
  refine .bind (preserves_call (preserves_append about)) fun _ => ?_
  exact .bind (preserves_commitCall _) fun _ => .pure fun _ h => h

section

variable (faults : AnswerCall → Option DomainError) (tenant : TenantId) (now : UtcTimestamp) (session : MediaSession)
  (binding : MediaBinding)

theorem preserves_acceptStart : Preserves (Carried before id) (acceptStart faults tenant now session binding) := by
  have about := aboutBindings_carried before id
  refine .bind preserves_ofResult fun (inviting,invitingEvent) => ?_
  refine .bind (ensures_ofResult fun _ h => h) fun (active,activeEvent) =>
    .of_fact fun activated => ?_
  obtain ⟨-,-,-,rfl⟩ := MediaBinding.transitionTo_inv activated
  refine .bind (preserves_call (preserves_saveSession about)) fun _ => ?_
  refine .bind (preserves_call (preserves_saveLive rfl)) fun _ => ?_
  refine .bind (preserves_call (preserves_append about)) fun _ => ?_
  refine .bind (preserves_call (preserves_append about)) fun _ => ?_
  exact .bind (preserves_commitCall _) fun _ => .pure fun _ h => h

theorem preserves_completeStart :
    Preserves (Carried before id) (completeStart faults tenant now session binding operation) := by
  have about := aboutBindings_carried before id
  refine .bind preserves_ofResult fun (inviting,invitingEvent) => ?_
  refine .bind (preserves_call (preserves_saveSession about)) fun _ => ?_
  refine .bind preserves_ofResult fun (session,sessionEvent) => ?_
  refine .bind (ensures_ofResult fun _ h => h) fun (active,activeEvent) =>
    .of_fact fun activated => ?_
  obtain ⟨-,-,-,rfl⟩ := MediaBinding.transitionTo_inv activated
  refine .bind preserves_ofResult fun (operation,completed) => ?_
  refine .bind (preserves_call (preserves_saveSession about)) fun _ => ?_
  refine .bind (preserves_call (preserves_saveLive rfl)) fun _ => ?_
  refine .bind (preserves_call (preserves_saveOperation about)) fun _ => ?_
  iterate 4 refine .bind (preserves_call (preserves_append about)) fun _ => ?_
  exact .bind (preserves_commitCall _) fun _ => .pure fun _ h => h

/-- Until the commit of a failed start, the committed binding is still live. -/
theorem ensures_failStart :
    Ensures (Owed before id) (failStart faults tenant now session binding operation error)
      (fun _ => Within before id) (Owed before id) := by
  have about := aboutBindings_owed before id
  refine .bind preserves_ofResult fun (session,sessionFailed) => ?_
  refine .bind preserves_ofResult fun (binding,bindingFailed) => ?_
  refine .bind preserves_ofResult fun (operation,completed) => ?_
  refine .bind (preserves_call (preserves_saveSession about)) fun _ => ?_
  refine .bind (preserves_call (preserves_saveIn _ fun _ owed => ⟨owed.within,owed.committed⟩)) fun _ => ?_
  refine .bind (preserves_call (preserves_saveOperation about)) fun _ => ?_
  iterate 3 refine .bind (preserves_call (preserves_append about)) fun _ => ?_
  exact ensures_commitCall (fun _ owed => owed.within) fun _ owed => ⟨owed.within,owed.committed⟩

end

theorem ensures_released (id : MediaBindingId) :
    Ensures (Within before id) (releaseReservation none id) (fun _ => NoLeak before) (NoLeak before) := by
  refine .modify fun w within => ?_
  have fewer : Within before id { w with reserved := Function.update w.reserved id false } :=
    fun k other held => within k other (by simpa [other] using held)
  exact Settled.noLeak ⟨fewer,.inl (by simp)⟩

theorem ensures_handleStartResult (releases : faults .release = none) :
    Ensures (Carried before command.mediaBindingId) (handleStartResult faults now command result)
      (fun _ => NoLeak before) (NoLeak before) := by
  have settled w (carried : Carried before command.mediaBindingId w) : NoLeak before w := carried.owed.noLeak
  refine .bind ((preserves_call (preserves_reads reads_getOperation)).imp_error settled)
    fun operation => ?_
  refine .bind ((preserves_call (preserves_reads reads_getSession)).imp_error settled)
    fun session => ?_
  refine .bind (ensures_call (ensures_getBinding settled) settled) fun binding => .of_fact fun same => ?_
  have accepted : Ensures (Carried before command.mediaBindingId)
      (acceptStart faults command.tenantId now session binding) (fun _ => NoLeak before) (NoLeak before) :=
    (preserves_acceptStart ..).weaken (fun _ h => h) (fun _ => settled) settled
  cases result with
  | completed => exact (preserves_completeStart ..).weaken (fun _ h => h) (fun _ => settled) settled
  | accepted => exact accepted
  | unknownOutcome error => exact accepted
  | failed error =>
    refine .bind ((ensures_failStart ..).weaken (fun _ carried => carried.owed) (fun _ _ h => h)
      fun _ owed => owed.noLeak) fun _ => ?_
    rw [releases,same]
    exact .bind (ensures_released _) fun _ => .throw fun _ h => h

theorem ensures_dispatchMediaCommand (releases : answerFaults .release = none)
    (command : MediaNodeCommand) :
    Ensures (Carried before command.mediaBindingId)
      (dispatchMediaCommand sendFaults answerFaults node now command)
      (fun _ => NoLeak before) (NoLeak before) :=
  .bind ((preserves_executeMediaCommand ..).imp_error fun _ carried => carried.owed.noLeak)
    fun _ => ensures_handleStartResult releases ..

theorem preserves_persistStartResources :
    Preserves (Within before id) (persistStartResources faults context now ids scope request reservation
      ownerEpoch deadline payload purpose playback) := by
  have about := aboutBindings_within before id
  refine .bind preserves_ofResult fun (operation,submitted) => ?_
  refine .bind preserves_ofResult fun (session,sessionCreated) => ?_
  refine .bind preserves_ofResult fun session => ?_
  refine .bind preserves_ofResult fun (binding,bindingCreated) => ?_
  refine .bind (preserves_call (preserves_saveOperation about)) fun _ => ?_
  refine .bind (preserves_call (preserves_saveSession about)) fun _ => ?_
  refine .bind (preserves_call (preserves_saveIn _ fun _ h => h)) fun _ => ?_
  iterate 3 refine .bind (preserves_call (preserves_append about)) fun _ => ?_
  refine .bind preserves_ofResult fun (allocated,allocatingEvent) => ?_
  refine .bind (preserves_call (preserves_saveSession about)) fun _ => ?_
  refine .bind (preserves_call (preserves_append about)) fun _ => ?_
  exact .bind (ensures_commitCall (fun _ h => h) fun _ h => h) fun _ =>
    .pure fun _ h => h

theorem ensures_startReserved (releases : faults.start .release = none)
    (answerReleases : faults.answer .release = none) :
    Ensures (Within before ids.mediaBindingId) (startReserved faults node sourceNodeId context now ids scope
      request reservation ownerEpoch deadline payload purpose playback)
      (fun _ => NoLeak before) (NoLeak before) := by
  have kept : Preserves (Within before ids.mediaBindingId) (persistStartResources faults.persist context
      now ids scope request reservation ownerEpoch deadline payload purpose playback) :=
    preserves_persistStartResources ..
  have persisted : Ensures (Within before ids.mediaBindingId) (persistStartResources faults.persist context
      now ids scope request reservation ownerEpoch deadline payload purpose playback)
      (fun _ => Carried before ids.mediaBindingId) (Within before ids.mediaBindingId) := by
    refine ⟨fun start ran => ?_,kept.error⟩
    obtain ⟨session,binding,stored⟩ := persistStartResources_ok ran
    have backed : Backed _ _ := ⟨binding,stored.bindingRow,by rw [MediaBinding.isTerminal,stored.reserved]; rfl⟩
    exact ⟨kept.ok start ran,stored.committed ▸ backed,backed⟩
  refine .bind (ensures_attempt persisted) fun result => ?_
  cases result with
  | error e =>
    rw [releases]
    exact .bind (ensures_released _) fun _ => .throw fun _ h => h
  | ok operation =>
    exact ensures_dispatchMediaCommand answerReleases
      (startCommand sourceNodeId context ids operation reservation ownerEpoch deadline payload)

def Unreserved (before w : World) : Prop := ∀ k, w.reserved k = true → before.reserved k = true

theorem Unreserved.noLeak (fewer : Unreserved before w) : NoLeak before w := fun k held => .inl (fewer k held)

theorem aboutBindings_unreserved (before : World) : AboutBindings (Unreserved before) :=
  fun _ _ _ _ fewer unreserved k held => unreserved k (fewer k held)

theorem ensures_reserveBinding (id : MediaBindingId) :
    Ensures (Unreserved before) (reserveBinding reply id) (fun _ => Within before id) (Unreserved before) := by
  have reserved : Ensures (Unreserved before)
      (modify fun w => { w with reserved := Function.update w.reserved id true } : Service Unit)
      (fun _ => Within before id) (Unreserved before) := by
    refine .modify fun w unreserved k other held => unreserved k ?_
    simpa [other] using held
  refine .bind preserves_ofResult fun reservation => ?_
  exact .bind reserved fun _ => .pure fun _ h => h

theorem preserves_commitUnreserved (failure : Option DomainError) :
    Preserves (Unreserved before) (commitCall failure) :=
  ensures_commitCall (fun _ h => h) fun _ h => h

theorem ensures_startMedia (releases : faults.start .release = none)
    (answerReleases : faults.answer .release = none) :
    Ensures (Unreserved before) (startMedia purpose payload playback faults env sourceNodeId context now ids
      request) (fun _ => NoLeak before) (NoLeak before) := by
  have settled w (unreserved : Unreserved before w) : NoLeak before w := unreserved.noLeak
  refine .bind (preserves_ofResult.imp_error settled) fun _ => ?_
  refine .bind (preserves_ofResult.imp_error settled) fun scope => ?_
  refine .bind ((preserves_call (preserves_reads fun _ => rfl)).imp_error settled) fun existing => ?_
  cases existing with
  | some session => exact .pure settled
  | none =>
    refine .bind ((preserves_commitUnreserved _).imp_error settled) fun _ => ?_
    refine .bind (preserves_ofResult.imp_error settled) fun owner => ?_
    refine .bind (preserves_ofResult.imp_error settled) fun ownerEpoch => ?_
    refine .bind (preserves_ofResult.imp_error settled) fun deadline => ?_
    refine .bind ((ensures_reserveBinding _).imp_error settled) fun reservation => ?_
    exact ensures_startReserved releases answerReleases ..

end Start

end CheetahSignaling.MediaReservation
