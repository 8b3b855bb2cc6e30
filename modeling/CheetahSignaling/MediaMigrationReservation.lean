import CheetahSignaling.MediaMigration
import CheetahSignaling.MediaReservation

/-! The reservation of a migration. Up to the commit of the new binding nothing releases it
on an error, and neither does an error while a `Failed` answer is recorded; both are decided
by the commit `migrate_or_fail` makes after the attempt. -/
namespace CheetahSignaling.MediaMigration

open Service Outcomes MediaStart MediaReservation EStateM

/-- The world the commit after the attempt is made in: whether it succeeds or not, no
reservation is left alone. -/
structure Closes (attempt : Option DomainError) (before : World) (id : MediaBindingId) (w : World) : Prop where
  within : Within before id w
  settled : w.reserved id = false ∨ Backed (if attempt.isSome then w.committed else w.working) id

section Closing

variable {id : MediaBindingId}

theorem closes_of_carried (attempt : Option DomainError) (carried : Carried before id w) :
    Closes attempt before id w := by
  refine ⟨carried.within,.inr ?_⟩
  split
  · exact carried.committed
  · exact carried.working

theorem ensures_commitAttempt (attempt : Option DomainError) :
    Ensures (Closes attempt before id) (commitCall attempt) (fun _ => Settled before id)
      (Settled before id) := by
  cases attempt with
  | none => exact .modify fun _ closes => ⟨closes.within,closes.settled⟩
  | some e =>
    constructor
    · intro w _ w' _ ran
      cases ran
    · intro w _ w' closes ran
      cases ran
      exact ⟨closes.within,closes.settled⟩

theorem ensures_attempted (spec : Ensures pre x (fun _ => post) post) : Ensures pre (attempt x) (fun _ => post) onError := by
  refine (ensures_attempt spec).weaken (fun _ h => h) ?_ fun _ h => h
  rintro (_ | _) w kept <;> exact kept

end Closing

section Preserved

variable {id : MediaBindingId}

section

variable {result : Except DomainError (α × DomainEvent)} {save : α → Service Unit} (about : AboutBindings P)
  (first second : Option DomainError) (event : α → DomainEvent → Event) (saves : ∀ a e, result = .ok (a,e) →
    Preserves P (save a))

include about saves

theorem preserves_recordCalls : Preserves P (recordCalls first second event save result) := by
  refine .bind (ensures_ofResult fun _ h => h) fun (changed,payload) => .of_fact fun built => ?_
  refine .bind (preserves_call (preserves_append about)) fun _ => ?_
  exact .bind (preserves_call (saves changed payload built)) fun _ => .pure fun _ h => h

theorem preserves_saveCalls : Preserves P (saveCalls first second event save result) := by
  refine .bind (ensures_ofResult fun _ h => h) fun (changed,payload) => .of_fact fun built => ?_
  refine .bind (preserves_call (saves changed payload built)) fun _ => ?_
  exact .bind (preserves_call (preserves_append about)) fun _ => .pure fun _ h => h

end

section

variable (faults : ConvergeCall → Option DomainError) (tenant : TenantId) (now : UtcTimestamp)

theorem preserves_convergeSession :
    Preserves (Carried before id) (convergeSession faults tenant now session) := by
  have about := aboutBindings_carried before id
  have moves {result} first second :
    Preserves (Carried before id) (recordCalls first second (sessionEvent tenant) saveSession result) :=
    preserves_recordCalls about _ _ _ fun _ _ _ => preserves_saveSession about
  unfold convergeSession
  cases session.state with
  | requested => exact .bind (moves _ _) fun _ => .bind (moves _ _) fun _ => moves _ _
  | allocating => exact .bind (moves _ _) fun _ => moves _ _
  | inviting => exact moves _ _
  | active => exact .pure fun _ h => h
  | _ => exact .throw fun _ h => h

theorem preserves_convergeBinding :
    Preserves (Carried before id) (convergeBinding faults tenant now binding) := by
  have about := aboutBindings_carried before id
  have activates : ∀ b e, binding.transitionTo now .active none = .ok (b,e) →
      Preserves (Carried before id) (saveBinding b) := by
    intro b e moved
    obtain ⟨-,-,-,rfl⟩ := MediaBinding.transitionTo_inv moved
    exact preserves_saveLive rfl
  unfold convergeBinding
  cases binding.state with
  | reserved => exact preserves_recordCalls about _ _ _ activates
  | needsVerification => exact preserves_recordCalls about _ _ _ activates
  | _ => exact .pure fun _ h => h

theorem preserves_convergeActive :
    Preserves (Carried before id) (convergeActive faults tenant now session binding) :=
  .bind (preserves_convergeSession ..) fun _ => .bind (preserves_convergeBinding ..) fun _ =>
    .pure fun _ h => h

end

theorem preserves_convergeReconnect :
    Preserves (Carried before id) (convergeReconnect faults tenant now session binding operationId) := by
  have about := aboutBindings_carried before id
  refine .bind (preserves_convergeActive ..) fun (session,_) => ?_
  refine .bind (preserves_call (preserves_reads reads_getOperation)) fun operation => ?_
  refine .bind (.ite (fun _ => ?_) fun _ => .pure fun _ h => h) fun _ =>
    .pure fun _ h => h
  exact .bind (preserves_saveCalls about _ _ _ fun _ _ _ => preserves_saveOperation about) fun _ =>
    .pure fun _ h => h

theorem preserves_settleReconnect (posts : Preserves (Carried before id) post) :
    Preserves (Carried before id) (settleReconnect faults k post) := by
  refine .bind (ensures_attempt posts) fun result => ?_
  cases result with
  | ok session => exact .bind (preserves_commitCall _) fun _ => .pure fun _ h => h
  | error e =>
    refine .bind (preserves_attempt (preserves_commitCall _)) fun _ => ?_
    exact .bind (preserves_release (aboutBindings_carried before id) _) fun _ => .throw fun _ h => h

end Preserved

theorem run_saveCalls (saving : saveFailure = none) (appending : appendFailure = none)
    (event : α → DomainEvent → Event) (built : result = .ok (a,e)) (saved : (save a).run w = .ok () w') :
    (saveCalls saveFailure appendFailure event save result).run w = .ok a (w'.emit (event a e)) := by
  subst saving appending built
  simp only [saveCalls,call_none,run_bind,run_ofResult_ok,saved,run_append,run_pure]

def recordCallsOfFailure : List ReconnectCall :=
  [.appendFailedBinding,.saveFailedSession,.appendFailedSession,.saveFailedOperation,.appendFailedOperation]

/-- The rows of a migration when the answer of the node is applied. -/
structure Answered (before : World) (session : MediaSession) (binding : MediaBinding)
    (operation : Operation) (w : World) : Prop extends Carried before binding.mediaBindingId w where
  sessionRow : w.working.sessions.find session.mediaSessionId = some session
  sessionLive : session.isTerminal = false
  bindingRow : w.working.bindings.find binding.mediaBindingId = some binding
  bindingLive : binding.isTerminal = false
  operationRow : w.working.operations.find operation.operationId = some operation
  running : operation.status = .running

section Failed

theorem Answered.run_failReconnect (answered : Answered before session binding operation w) (fits : error.Fits)
    (save : faults .saveFailedBinding = none) (records : ∀ c ∈ recordCallsOfFailure, faults c = none) :
    ∃ w', (failReconnect faults tenant now session binding operation error).run w = .ok () w' ∧
      w'.committed = w.committed ∧ w'.reserved = w.reserved := by
  let failedBinding := binding.moved now .failed (some error)
  let failedSession := session.moved now .failed (some error)
  let failedOperation := operation.completed (.failure error) now
  let w₁ := (w.putBinding failedBinding).emit
    (bindingEvent tenant failedBinding (failedBinding.stateChangedEvent binding.state))
  let w₂ := (w₁.putSession failedSession).emit
    (sessionEvent tenant failedSession (failedSession.stateChangedEvent session.state))
  have saveB : (saveBinding failedBinding).run w = .ok () (w.putBinding failedBinding) :=
    saveBinding_next answered.bindingRow rfl
  have saveS : (saveSession failedSession).run w₁ = .ok () (w₁.putSession failedSession) :=
    saveSession_next answered.sessionRow rfl
  have saveO : (saveOperation failedOperation).run w₂ = .ok () (w₂.putOperation failedOperation) :=
    saveOperation_next answered.operationRow rfl
  have valid := error.validate_fits "operation" fits
  have first : (saveCalls (faults .saveFailedBinding) (faults .appendFailedBinding) (bindingEvent tenant)
      saveBinding (binding.failed error now)).run w = .ok failedBinding w₁ :=
    run_saveCalls save (records .appendFailedBinding (by decide)) _
      (binding.failed_live error now answered.bindingLive fits) saveB
  have second : (saveCalls (faults .saveFailedSession) (faults .appendFailedSession) (sessionEvent tenant)
      saveSession (session.failed error now)).run w₁ = .ok failedSession w₂ :=
    run_saveCalls (records .saveFailedSession (by decide)) (records .appendFailedSession (by decide)) _
      (session.failed_live error now answered.sessionLive fits) saveS
  have third := run_saveCalls (records .saveFailedOperation (by decide))
    (records .appendFailedOperation (by decide)) (operationEvent tenant)
    (operation.complete_running (.failure error) now answered.running valid) saveO
  simp only [failReconnect,run_bind,first,second,third]
  exact ⟨_,rfl,rfl,rfl⟩

theorem failReconnect_refused
    (refused : ¬ (error.Fits ∧ faults .saveFailedBinding = none)) :
    ∃ e, (failReconnect faults tenant now session binding operation error).run w = .error e w := by
  cases built : binding.failed error now with
  | error e => exact ⟨e,by simp [failReconnect,saveCalls,built]⟩
  | ok pair =>
    have fits : error.Fits := (MediaBinding.transitionTo_inv built).2.2.1 error rfl
    cases failing : faults .saveFailedBinding with
    | none => exact absurd ⟨fits,failing⟩ refused
    | some e => exact ⟨e,by simp [failReconnect,saveCalls,built,failing]⟩

theorem preserves_failReconnect (id : MediaBindingId) :
    Preserves (Owed before id) (failReconnect faults tenant now session binding operation error) := by
  have about := aboutBindings_owed before id
  refine .bind (preserves_saveCalls about _ _ _ fun _ _ _ =>
    preserves_saveIn _ fun _ owed => ⟨owed.within,owed.committed⟩) fun _ => ?_
  refine .bind (preserves_saveCalls about _ _ _ fun _ _ _ => preserves_saveSession about) fun _ => ?_
  exact .bind (preserves_saveCalls about _ _ _ fun _ _ _ => preserves_saveOperation about) fun _ =>
    .pure fun _ h => h

theorem ensures_failReconnect {attempt : Option DomainError}
    (recorded : (∀ c ∈ recordCallsOfFailure, faults c = none) ∨ attempt.isSome) :
    Ensures (Answered before session binding operation)
      (failReconnect faults tenant now session binding operation error)
      (fun _ => Owed before binding.mediaBindingId) (Closes attempt before binding.mediaBindingId) := by
  constructor
  · intro w _ w' answered ran
    exact (preserves_failReconnect ..).ok answered.toCarried.owed ran
  intro w e w' answered ran
  by_cases begun : error.Fits ∧ faults .saveFailedBinding = none
  · rcases recorded with records | discards
    · obtain ⟨w'',done,-⟩ := answered.run_failReconnect begun.1 begun.2 records
      rw [ran] at done
      cases done
    · have owed : Owed before binding.mediaBindingId w' :=
        (preserves_failReconnect ..).error answered.toCarried.owed ran
      exact ⟨owed.within,.inr (by rw [if_pos discards]; exact owed.committed)⟩
  obtain ⟨e',refused⟩ := failReconnect_refused begun
  rw [refused] at ran
  cases ran
  exact closes_of_carried attempt answered.toCarried

end Failed

section Answer

variable {attempt : Option DomainError}

theorem ensures_releaseClosing (id : MediaBindingId) :
    Ensures (Within before id) (releaseReservation none id) (fun _ => Closes attempt before id)
      (Closes attempt before id) := by
  refine .modify fun w within => ⟨fun k other held => ?_,.inl (by simp)⟩
  exact within k other (by simpa [other] using held)

theorem ensures_applyReconnectResult
    (recorded : (∀ c ∈ recordCallsOfFailure, faults.reconnect c = none) ∨ attempt.isSome)
    (release : faults.reconnect .releaseFailed = none) :
    Ensures (Answered before session binding operation)
      (applyReconnectResult faults tenant now session binding operation result)
      (fun _ => Closes attempt before binding.mediaBindingId)
      (Closes attempt before binding.mediaBindingId) := by
  have closes {α : Type} {x : Service α} (carried : Preserves (Carried before binding.mediaBindingId) x) :
      Ensures (Answered before session binding operation) x
        (fun _ => Closes attempt before binding.mediaBindingId) (Closes attempt before binding.mediaBindingId) :=
    carried.weaken (fun _ answered => answered.toCarried) (fun _ _ => closes_of_carried attempt)
      fun _ => closes_of_carried attempt
  cases result with
  | completed => exact closes (preserves_settleReconnect (preserves_convergeReconnect ..))
  | accepted => exact closes (preserves_settleReconnect (preserves_convergeReconnect ..))
  | unknownOutcome error =>
    refine closes (preserves_settleReconnect ?_)
    exact .bind (preserves_convergeActive ..) fun _ => .pure fun _ h => h
  | failed error =>
    have committed : Ensures (Owed before binding.mediaBindingId) (commitCall (faults.reconnect .commitFailed))
        (fun _ => Within before binding.mediaBindingId) (Closes attempt before binding.mediaBindingId) :=
      ensures_commitCall (fun _ owed => owed.within)
        fun _ owed => closes_of_carried attempt ⟨owed.within,owed.committed,owed.committed⟩
    refine .bind (ensures_failReconnect recorded) fun _ => .bind committed fun _ => ?_
    rw [release]
    exact .bind (ensures_releaseClosing _) fun _ => .throw fun _ h => h

structure Registered (before : World) (session : MediaSession) (binding : MediaBinding)
    (operation : Operation) (w : World) : Prop extends Carried before binding.mediaBindingId w where
  sessionRow : w.working.sessions.find session.mediaSessionId = some session
  sessionLive : session.isTerminal = false
  bindingRow : w.working.bindings.find binding.mediaBindingId = some binding
  bindingLive : binding.isTerminal = false
  operationRow : w.working.operations.find operation.operationId = some operation

theorem ensures_executeReconnect (ofOperation : command.operationId = operation.operationId) :
    Ensures (Registered before session binding operation) (executeMediaCommand sendFaults node now command)
      (fun _ => Answered before session binding (operation.started now))
      (Carried before binding.mediaBindingId) := by
  constructor
  · intro w result w' registered ran
    obtain ⟨op,operationRow,-,-,-,operations,sessions,bindings,-⟩ := executeMediaCommand_ok ran
    rw [ofOperation,registered.operationRow] at operationRow
    cases operationRow
    refine ⟨(preserves_executeMediaCommand ..).ok registered.toCarried ran,?_,registered.sessionLive,?_,
      registered.bindingLive,?_,rfl⟩
    · rw [sessions,registered.sessionRow]
    · rw [bindings,registered.bindingRow]
    · rw [operations]
      exact Table.find_put_same ..
  · intro w e w' registered ran
    exact (preserves_executeMediaCommand ..).error registered.toCarried ran

theorem ensures_sendReconnect (recorded : (∀ c ∈ recordCallsOfFailure, faults.reconnect c = none) ∨ attempt.isSome)
    (release : faults.reconnect .releaseFailed = none) (ofOperation : command.operationId = operation.operationId) :
    Ensures (Registered before session binding operation)
      (sendReconnect faults node now command session binding)
      (fun _ => Closes attempt before binding.mediaBindingId)
      (Closes attempt before binding.mediaBindingId) := by
  have closes w (carried : Carried before binding.mediaBindingId w) := closes_of_carried attempt carried
  refine .bind (ensures_attempt (ensures_executeReconnect ofOperation)) fun result => ?_
  cases result with
  | error e =>
    exact .bind ((preserves_release (aboutBindings_carried _ _) _).imp_error closes) fun _ => .throw closes
  | ok result =>
    have got : Ensures (Answered before session binding (operation.started now))
        (getOperation command.tenantId command.operationId)
        (fun op w => op = operation.started now ∧ Answered before session binding (operation.started now) w)
        (Closes attempt before binding.mediaBindingId) := by
      constructor
      · intro w op w' answered ran
        obtain ⟨rfl,stored,-⟩ := getOperation_ok ran
        have row := answered.operationRow
        rw [Operation.started_id,← ofOperation,stored] at row
        exact ⟨Option.some.inj row,answered⟩
      · intro w e w' answered ran
        cases reads_getOperation.error ran
        exact closes w answered.toCarried
    refine .bind (ensures_call got fun w answered => closes w answered.toCarried) fun op =>
      .of_fact fun same => ?_
    subst same
    exact ensures_applyReconnectResult recorded release ..

end Answer

/-- What the reconciler passes on: a live session and its live binding as stored, and new
identifiers. -/
structure Migratable (ids : MigrationIds) (session : MediaSession) (binding : MediaBinding) (w : World) : Prop where
  sessionRow : w.working.sessions.find session.mediaSessionId = some session
  sessionLive : session.isTerminal = false
  bindingRow : w.working.bindings.find binding.mediaBindingId = some binding
  bindingLive : binding.isTerminal = false
  freshBinding : w.working.bindings.find ids.mediaBindingId = none
  freshOperation : w.working.operations.find ids.operation.operationId = none

def Buildable (context : RequestContext) (now : UtcTimestamp) (ids : MigrationIds)
    (session : MediaSession) (reservation : MediaReservation) : Prop :=
  ∃ payload operation binding, reconnectPayload now session reservation = .ok payload ∧
    reconnectOperation context now ids session payload = .ok operation ∧
    reconnectBinding context now ids session reservation = .ok binding

/-- The failures that leave somebody answerable for the new reservation. -/
structure Covered (faults : MigrationFaults) : Prop where
  /-- Nothing fails until the new binding is written. -/
  generation : ∀ c ∈ [MigrateCall.appendGeneration,.saveGeneration,.commitGeneration], faults.migrate c = none
  written : ∀ c ∈ [ReconnectCall.saveOldBinding,.appendOldBinding,.saveOperation,.saveBinding],
    faults.reconnect c = none
  /-- The new binding is committed, here or after the attempt. -/
  announced : (∀ c ∈ [ReconnectCall.appendOperation,.appendBinding,.commitBinding], faults.reconnect c = none) ∨
    ((faults.reconnect .appendOperation).isSome ∨ (faults.reconnect .appendBinding).isSome) ∧
      faults.migrate .commitAttempt = none
  /-- A `Failed` answer is recorded, or what was recorded of it is discarded. -/
  recorded : (∀ c ∈ recordCallsOfFailure, faults.reconnect c = none) ∨ (faults.migrate .commitAttempt).isSome
  release : faults.reconnect .releaseFailed = none

section Migrate

def bumped (now : UtcTimestamp) (session : MediaSession) : MediaSession :=
  { session with generation := session.generation + 1 }.bump now

theorem Migratable.run_enterGeneration (migratable : Migratable ids session binding w) (covered : Covered faults) :
    ∃ w', (enterGeneration faults.migrate tenant now session).run w = .ok (bumped now session) w' ∧
      Migratable ids (bumped now session) binding w' ∧ w'.reserved = w.reserved := by
  have bump : session.bumpGeneration now = .ok (bumped now session,.mediaSessionGenerationBumped
      session.mediaSessionId session.tenantId (session.generation + 1) now) := by
    simp [MediaSession.bumpGeneration,migratable.sessionLive,bumped]
  have save (e : Event) : (saveSession (bumped now session)).run (w.emit e) =
      .ok () ((w.emit e).putSession (bumped now session)) :=
    saveSession_next migratable.sessionRow rfl
  simp only [enterGeneration,recordCalls,covered.generation .appendGeneration (by decide),
    covered.generation .saveGeneration
      (by decide),covered.generation .commitGeneration (by decide),call_none,run_bind,bump,run_ofResult_ok,run_append,save]
  refine ⟨_,rfl,⟨?_,migratable.sessionLive,migratable.bindingRow,migratable.bindingLive,
    migratable.freshBinding,migratable.freshOperation⟩,rfl⟩
  exact Table.find_put_same ..

theorem Migratable.run_registerReconnect (migratable : Migratable ids session binding w) (covered : Covered faults)
    (payloadOk : reconnectPayload now session reservation = .ok payload)
    (operationOk : reconnectOperation context now ids session payload = .ok (operation,submitted))
    (bindingOk : reconnectBinding context now ids session reservation = .ok (newBinding,created)) :
    ∃ w', (registerReconnect faults.reconnect context now ids session binding reservation).run w = (do
          call (faults.reconnect .appendOperation) (append (operationEvent context.tenantId operation submitted))
          call (faults.reconnect .appendBinding) (append (bindingEvent context.tenantId newBinding created))
          commitCall (faults.reconnect .commitBinding)
          return (operation,newBinding) : Service _).run w' ∧
      w'.working.sessions = w.working.sessions ∧
      w'.working.bindings.find ids.mediaBindingId = some newBinding ∧
      w'.working.operations.find operation.operationId = some operation ∧ w'.reserved = w.reserved := by
  have apart : ids.mediaBindingId ≠ binding.mediaBindingId := by
    intro same
    have fresh := migratable.freshBinding
    rw [same,migratable.bindingRow] at fresh
    cases fresh
  have fits : mediaNodeUnavailable.Fits := by decide
  let failedBinding := binding.moved now .failed (some mediaNodeUnavailable)
  let w₁ := (w.putBinding failedBinding).emit
    (bindingEvent context.tenantId failedBinding (failedBinding.stateChangedEvent binding.state))
  have saveOld : (saveBinding failedBinding).run w = .ok () (w.putBinding failedBinding) :=
    saveBinding_next migratable.bindingRow rfl
  have first : (failOldBinding faults.reconnect context.tenantId now binding).run w = .ok failedBinding w₁ := by
    rw [failOldBinding,if_neg (by simp [migratable.bindingLive])]
    exact run_saveCalls (covered.written .saveOldBinding (by decide))
      (covered.written .appendOldBinding (by decide)) _
      (binding.failed_live mediaNodeUnavailable now migratable.bindingLive fits) saveOld
  have operationId := (Operation.new_inv operationOk).id
  have bindingId := (MediaBinding.new_inv bindingOk).1
  have saveO : (saveOperation operation).run w₁ = .ok () (w₁.putOperation operation) :=
    saveIn_fresh (by rw [operationId]; exact migratable.freshOperation)
  have saveB : (saveBinding newBinding).run (w₁.putOperation operation) =
      .ok () ((w₁.putOperation operation).putBinding newBinding) := by
    refine saveIn_fresh ?_
    have other : ids.mediaBindingId ≠ failedBinding.mediaBindingId := apart
    rw [bindingId]
    exact (Table.find_put_other _ other).trans migratable.freshBinding
  refine ⟨(w₁.putOperation operation).putBinding newBinding,?_,rfl,?_,?_,rfl⟩
  · simp [registerReconnect,covered.written .saveOperation (by decide),
      covered.written .saveBinding (by decide),first,payloadOk,operationOk,bindingOk,saveO,saveB]
  · rw [← bindingId]
    exact Table.find_put_same ..
  · exact Table.find_put_same ..

theorem ensures_registerReconnect (covered : Covered faults)
    (buildable : Buildable context now ids session reservation) :
    Ensures (fun w => Migratable ids session binding w ∧ Within before ids.mediaBindingId w)
      (registerReconnect faults.reconnect context now ids session binding reservation)
      (fun pair w => pair.2.mediaBindingId = ids.mediaBindingId ∧ Registered before session pair.2 pair.1 w)
      (Closes (faults.migrate .commitAttempt) before ids.mediaBindingId) := by
  obtain ⟨payload,⟨operation,submitted⟩,⟨newBinding,created⟩,payloadOk,operationOk,bindingOk⟩ := buildable
  obtain ⟨bindingId,-,-,reserved,-⟩ := MediaBinding.new_inv bindingOk
  have live : newBinding.isTerminal = false := by rw [MediaBinding.isTerminal,reserved]; rfl
  constructor
  · rintro w ⟨op,b⟩ w' ⟨migratable,within⟩ ran
    obtain ⟨w₁,run,sessions,bindingRow,operationRow,kept⟩ :=
      migratable.run_registerReconnect covered payloadOk operationOk bindingOk
    rw [run] at ran
    cases bind_commit_ok (bind_append_ok (bind_append_ok ran))
    have backed : Backed w₁.working newBinding.mediaBindingId := ⟨newBinding,bindingId ▸ bindingRow,live⟩
    refine ⟨bindingId,⟨?_,backed,backed⟩,?_,migratable.sessionLive,bindingId ▸ bindingRow,live,operationRow⟩
    · rw [bindingId]
      intro k other held
      exact within k other (kept ▸ held)
    · change w₁.working.sessions.find _ = _
      rw [sessions,migratable.sessionRow]
  rintro w e w' ⟨migratable,within⟩ ran
  obtain ⟨w₁,run,-,bindingRow,-,kept⟩ := migratable.run_registerReconnect covered payloadOk operationOk bindingOk
  rw [run] at ran
  have within₁ : Within before ids.mediaBindingId w₁ := fun k other held => within k other (kept ▸ held)
  rcases covered.announced with none | ⟨failing,commits⟩
  · simp only [none .appendOperation (by decide),none .appendBinding (by decide),
      none .commitBinding (by decide)] at ran
    cases ran
  rw [commits]
  have backed : Backed w₁.working ids.mediaBindingId := ⟨newBinding,bindingRow,live⟩
  cases first : faults.reconnect .appendOperation with
  | some e =>
    rw [first] at ran
    cases ran
    exact ⟨within₁,.inr backed⟩
  | none =>
    rw [first] at ran failing
    cases second : faults.reconnect .appendBinding with
    | some e =>
      rw [second] at ran
      cases ran
      exact ⟨within₁,.inr backed⟩
    | none => simp [second] at failing

theorem ensures_migrateReserved (covered : Covered faults)
    (buildable : Buildable context now ids session reservation) :
    Ensures (fun w => Migratable ids session binding w ∧ Within before ids.mediaBindingId w)
      (migrateReserved faults node sourceNodeId context now ids session binding reservation report)
      (fun _ => NoLeak before) (NoLeak before) := by
  have entered : Ensures (fun w => Migratable ids session binding w ∧ Within before ids.mediaBindingId w)
      (enterGeneration faults.migrate context.tenantId now session)
      (fun s w => s = bumped now session ∧ Migratable ids (bumped now session) binding w ∧
        Within before ids.mediaBindingId w) (NoLeak before) := by
    constructor
    · rintro w s w' ⟨migratable,within⟩ ran
      obtain ⟨w₁,run,migratable₁,kept⟩ := migratable.run_enterGeneration covered
      rw [run] at ran
      cases ran
      exact ⟨rfl,migratable₁,fun k other held => within k other (kept ▸ held)⟩
    rintro w e w' ⟨migratable,-⟩ ran
    obtain ⟨w₁,run,-⟩ := migratable.run_enterGeneration covered
    rw [run] at ran
    cases ran
  refine .bind entered fun s => .of_fact fun same => ?_
  subst same
  have dispatched : Ensures (fun w => Migratable ids (bumped now session) binding w ∧
        Within before ids.mediaBindingId w)
      (dispatchReconnectCommand faults.toReconnectFaults node sourceNodeId context now ids
        (bumped now session) binding reservation)
      (fun _ => Closes (faults.migrate .commitAttempt) before ids.mediaBindingId)
      (Closes (faults.migrate .commitAttempt) before ids.mediaBindingId) := by
    refine .bind (ensures_registerReconnect covered buildable) fun (operation,newBinding) =>
      .of_fact fun ofBinding => ?_
    rw [← show newBinding.mediaBindingId = ids.mediaBindingId from ofBinding]
    exact ensures_sendReconnect covered.recorded covered.release rfl
  refine .bind (ensures_attempted dispatched) fun result => ?_
  refine .bind ((ensures_commitAttempt _).imp_error fun _ settled => settled.noLeak) fun _ => ?_
  exact .bind ((preserves_release aboutBindings_settled _).imp_error fun _ settled => settled.noLeak)
    fun _ => .pure fun _ settled => settled.noLeak

theorem preserves_abandon :
    Preserves (Unreserved before) (abandon faults tenant now error session binding report) := by
  have about := aboutBindings_unreserved before
  have failsSession : Preserves (Unreserved before) (failStoredSession faults.fail tenant now error session) :=
    .ite (fun _ => .pure fun _ h => h) fun _ =>
      preserves_recordCalls about _ _ _ fun _ _ _ => preserves_saveSession about
  have failsBinding : Preserves (Unreserved before) (failStoredBinding faults.fail tenant now error binding) :=
    .ite (fun _ => .pure fun _ h => h) fun _ =>
      preserves_recordCalls about _ _ _ fun _ _ _ => preserves_saveIn _ fun _ h => h
  have fails : Preserves (Unreserved before) (failSessionAndBinding faults.fail tenant now error session binding) :=
    .bind failsSession fun _ => .bind failsBinding fun _ => .pure fun _ h => h
  have failsLive : Preserves (Unreserved before) (failLive faults tenant now error session binding) :=
    .ite (fun _ => .pure fun _ h => h) fun _ => .bind fails fun _ => preserves_commitUnreserved _
  exact .bind failsLive fun _ => .bind (preserves_release about _) fun _ => .pure fun _ h => h

theorem reserveFor_ok (reserved : reserveFor purpose reply = .ok reservation) : reply = .ok reservation := by
  cases purpose with
  | unknown => cases reserved
  | _ => exact reserved

theorem ensures_migrateOrFail (covered : Covered faults)
    (buildable : ∀ reservation, env.reserve = .ok reservation → Buildable context now ids session reservation) :
    Ensures (fun w => Migratable ids session binding w ∧ Unreserved before w)
      (migrateOrFail faults env sourceNodeId context now ids session binding error report)
      (fun _ => NoLeak before) (NoLeak before) := by
  have commits failure : Ensures (fun w => Migratable ids session binding w ∧ Unreserved before w)
      (commitCall failure) (fun _ w => Migratable ids session binding w ∧ Unreserved before w) (NoLeak before) :=
    ensures_commitCall
      (fun _ start => ⟨⟨start.1.sessionRow,start.1.sessionLive,start.1.bindingRow,start.1.bindingLive,
        start.1.freshBinding,start.1.freshOperation⟩,start.2⟩)
      fun _ start => Unreserved.noLeak start.2
  have abandons : Ensures (Unreserved before)
      (abandon faults context.tenantId now error session binding report) (fun _ => NoLeak before)
      (NoLeak before) :=
    (preserves_abandon ..).weaken (fun _ h => h) (fun _ _ unreserved => unreserved.noLeak)
      fun _ unreserved => unreserved.noLeak
  refine .bind (commits _) fun _ => ?_
  cases env.ready with
  | error e => exact abandons.weaken (fun _ start => start.2) (fun _ _ h => h) fun _ h => h
  | ok _ =>
    refine .bind (commits _) fun _ => ?_
    have reserves : Ensures (fun w => Migratable ids session binding w ∧ Unreserved before w)
        (reserveBinding (reserveFor session.purpose env.reserve) ids.mediaBindingId)
        (fun reservation w => env.reserve = .ok reservation ∧ Migratable ids session binding w ∧
          Within before ids.mediaBindingId w) (Unreserved before) := by
      constructor
      · rintro w reservation w' ⟨migratable,unreserved⟩ ran
        have within := (ensures_reserveBinding _).ok unreserved ran
        obtain ⟨_,replied,rest⟩ := bind_ofResult_ok ran
        cases rest
        exact ⟨reserveFor_ok replied,⟨migratable.sessionRow,migratable.sessionLive,migratable.bindingRow,
          migratable.bindingLive,migratable.freshBinding,migratable.freshOperation⟩,within⟩
      · rintro w e w' ⟨-,unreserved⟩ ran
        exact (ensures_reserveBinding _).error unreserved ran
    refine .bind (ensures_attempt reserves) fun result => ?_
    cases result with
    | error e => exact abandons
    | ok reservation =>
      exact .of_fact fun replied => ensures_migrateReserved covered (buildable reservation replied) ..

end Migrate

/-! The sample session on its way to another node, and a new start on an empty store. -/

def sampleIds : MigrationIds := ⟨31,⟨40,41,42,44⟩,"reconnect-10-1-43"⟩

def sampleEnvironment : MigrationEnvironment := ⟨.ok (),.ok ⟨6,1,1⟩,fun _ => .ok .accepted⟩

def sampleFaults (failing : MigrateCall) : MigrationFaults :=
  ⟨⟨noFaults,noFaults,noFaults⟩,fun c => if c = failing then some (.unavailable "storage") else none,noFaults⟩

def sampleMigration (failing : MigrateCall) : Service ReconciliationReport :=
  migrateOrFail (sampleFaults failing) sampleEnvironment 2 ⟨1,"reconciler",9⟩ 5 sampleIds
    (Sample.session .active) (Sample.binding .active) ⟨"node_draining","media node is draining"⟩ ⟨0,0⟩

def sampleStart (persist : PersistCall → Option DomainError) (release : Option DomainError) : Service MediaSession :=
  startLive ⟨fun c => if c = .release then release else none,persist,noFaults,noFaults⟩
    ⟨.ok (),.ok (some 7),.ok none,.ok ⟨5,1,1⟩,fun _ => .ok .accepted⟩ 2 ⟨1,"operator",9⟩ 0
    ⟨10,30,⟨20,22,21,23⟩⟩ ⟨3,4,"key"⟩

/-- The runs of the functions that reserve, with a failure at any call, as long as releases
succeed and a migration is covered. The other starts are `startMedia` as well. -/
inductive SettlingRun (before : World) : World → Prop where
  | startLive (releases : faults.start .release = none) (answerReleases : faults.answer .release = none) :
    SettlingRun before ((startLive faults env sourceNodeId context now ids request).leaves before)
  | startPlayback (releases : faults.start .release = none) (answerReleases : faults.answer .release = none) :
    SettlingRun before ((startPlayback window faults env sourceNodeId context now ids request).leaves before)
  | migrateOrFail (migratable : Migratable ids session binding before) (covered : Covered faults)
      (buildable : ∀ reservation, env.reserve = .ok reservation → Buildable context now ids session reservation) :
    SettlingRun before
      ((migrateOrFail faults env sourceNodeId context now ids session binding error report).leaves before)

end CheetahSignaling.MediaMigration
