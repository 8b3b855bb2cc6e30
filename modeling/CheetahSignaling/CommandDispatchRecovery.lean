import CheetahSignaling.CommandDispatcher

/-! What an invocation of the dispatcher leaves behind when it stops, and what the next one
makes of it. -/
namespace CheetahSignaling.CommandDispatcher

open Service GuardedRun EStateM
open List hiding get

/-- The operation as a new unit of work reads it. -/
structure Stored (tenant : TenantId) (opId : OperationId) (w : World) (op : Operation) : Prop where
  row : w.working.operations.find opId = some op
  tenantId : op.tenantId = tenant
  opened : w.committed = w.working

section

variable (op : Operation) (attempts : List DispatchAttempt)

def Unsent : Prop := ∀ a ∈ attempts, a.status ≠ .sent ∧ a.status ≠ .acked

/-- No attempt is pending, and none was sent before the operation started. A pending row may
have no steps yet. -/
structure Clean : Prop where
  steps : op.stepAttempts op.commandStep = some attempts ∨ op.status = .pending ∧ op.steps = [] ∧ attempts = []
  settled : ∀ a ∈ attempts, a.status ≠ .pending
  unsent : op.status = .pending → Unsent attempts

/-- A pending attempt that was never sent: no invocation gets past it. -/
structure Stuck : Prop where
  running : op.status = .running
  tracked : op.stepAttempts op.commandStep = some attempts
  pending : ∃ a ∈ attempts, a.status = .pending
  unsent : Unsent attempts

end

section

variable (tenant : TenantId) (opId : OperationId) (d : Dispatch) (w : World)

variable (op : Operation)

def rejection : Option ErrorText :=
  match d.owner with
  | .ok (some ownerEpoch) =>
    if ownerEpoch = op.expectedOwnerEpoch then
      match d.bus op.command with
      | .ok () => none
      | .error text => some ⟨"COMMAND_BUS",text.val⟩
    else some ⟨"STALE_OWNER","stale owner epoch"⟩
  | .ok none => some ⟨"NO_OWNER","no owner resolved"⟩
  | .error text => some ⟨"RESOLVE_ERROR",text.val⟩

def reachesBus : Bool :=
  match d.owner with
  | .ok (some ownerEpoch) => ownerEpoch = op.expectedOwnerEpoch
  | _ => false

/-- The calls between the commit of an attempt and the commit of its outcome. -/
def outcomeCalls : List DispatchCall := .resolve :: (if reachesBus d op then [.send] else []) ++
    match rejection d op with
    | none => [.saveSent,.commitSent]
    | some _ => [.saveNacked,.commitNacked]

def Reached : Prop :=
  (op.status = .pending → ∀ c ∈ [DispatchCall.saveStarted,.appendStarted,.commitStarted], d.faults c = none) ∧
    ∀ c ∈ [DispatchCall.saveAttempt,.commitAttempt], d.faults c = none

/-- The invocation commits an attempt and stops before it commits the outcome. -/
structure Interrupted (d : Dispatch) (op : Operation) : Prop where
  live : op.isTerminal = false
  unsent : ¬ (op.status = .running ∧ op.hasSentOrAckedAttempt op.commandStep)
  get : d.faults .get = none
  reached : Reached d op
  lost : ∃ c ∈ outcomeCalls d op, d.faults c ≠ none

/-- A new unit of work after the invocation, whether it crashed or returned. -/
def step (d : Dispatch) : World := ((dispatch d tenant opId).leaves w).rollback

/-- What an invocation that is not interrupted leaves. -/
def Sound : Prop := ∃ op, Stored tenant opId w op ∧ (op.isTerminal = true ∨ ∃ attempts, Clean op attempts)

def Blocked : Prop := ∃ op attempts, Stored tenant opId w op ∧ Stuck op attempts

def InterruptedIn (d : Dispatch) : Prop := ∃ op, w.working.operations.find opId = some op ∧ Interrupted d op

/-- The attempt id drawn is a new one. -/
def FreshAttempt (d : Dispatch) : Prop :=
  ∀ op ∈ w.working.operations.find opId, ∀ attempts ∈ op.stepAttempts op.commandStep,
    ∀ a ∈ attempts, a.attemptId ≠ d.attemptId

instance (opId : OperationId) (w : World) (d : Dispatch) : Decidable (FreshAttempt opId w d) :=
  inferInstanceAs (Decidable (∀ op ∈ w.working.operations.find opId,
    ∀ attempts ∈ op.stepAttempts op.commandStep, ∀ a ∈ attempts, a.attemptId ≠ d.attemptId))

/-- The next invocation sends the command, finds it sent or ends the operation. -/
def Recovers (d : Dispatch) : Prop := ∀ op, w.working.operations.find opId = some op → op.isTerminal = false →
    ∃ op' w', (dispatch d tenant opId).run w = .ok op' w' ∧ (w'.sent = w.sent ++ [op.command] ∨
        (op.status = .running ∧ op.hasSentOrAckedAttempt op.commandStep = true ∧ op' = op ∧ w' = w) ∨
        (op'.isTerminal = true ∧ w'.committed.operations.find opId = some op'))

end

/-- What a delivery that stores its outcome ends with. -/
inductive Delivered (tenant : TenantId) (opId : OperationId) (d : Dispatch) (sentAfter : List Command) :
    EStateM.Result DomainError World Operation → Prop where
  | sent (stored : Stored tenant opId w' op') (clean : Clean op' attempts')
      (sent : w'.sent = sentAfter) : Delivered tenant opId d sentAfter (.ok op' w')
  | completed (stored : Stored tenant opId w' op') (terminal : op'.isTerminal = true) :
    Delivered tenant opId d sentAfter (.ok op' w')
  | rejected (stored : Stored tenant opId w'.rollback op') (clean : Clean op' attempts')
      (stopped : ∃ c, d.faults c ≠ none) : Delivered tenant opId d sentAfter (.error e w')

/-- How an invocation ends that tries to deliver the command. -/
inductive Ended (tenant : TenantId) (opId : OperationId) (d : Dispatch) (op : Operation)
    (sentAfter : List Command) : EStateM.Result DomainError World Operation → Prop where
  | early (stored : Stored tenant opId w'.rollback op') (clean : Clean op' attempts')
      (missed : ¬ Reached d op) (stopped : ∃ c, d.faults c ≠ none) :
    Ended tenant opId d op sentAfter (.error e w')
  | lost (stored : Stored tenant opId w'.rollback op') (stuck : Stuck op' attempts')
      (reached : Reached d op) (lost : ∃ c ∈ outcomeCalls d op, d.faults c ≠ none) :
    Ended tenant opId d op sentAfter (.error e w')
  | delivered (kept : ∀ c ∈ outcomeCalls d op, d.faults c = none)
      (delivered : Delivered tenant opId d sentAfter result) :
    Ended tenant opId d op sentAfter result

section

variable {tenant : TenantId} {opId : OperationId} {w w' : World} {op op' : Operation}
  {attempts : List DispatchAttempt}

theorem rejection_fits (rejected : rejection d op = some error) : error.Fits := by
  have bounded (code : String) (short : code.utf8ByteSize ≤ maxErrorCodeBytes) (text : PortText) :
      (⟨code,text.val⟩ : ErrorText).Fits := ⟨short,text.property⟩
  unfold rejection at rejected
  split at rejected
  · split at rejected
    · split at rejected
      · cases rejected
      · cases rejected
        exact bounded _ (by decide) _
    · cases rejected
      decide
  · cases rejected
    decide
  · cases rejected
    exact bounded _ (by decide) _

theorem Stored.id (stored : Stored tenant opId w op) : op.operationId = opId :=
  ((Table.find_eq_some _).mp stored.row).2

theorem Stored.rollback (stored : Stored tenant opId w op) (kept : w'.committed = w.committed) :
    Stored tenant opId w'.rollback op := by
  refine ⟨?_,stored.tenantId,rfl⟩
  rw [World.rollback_working,kept,stored.opened,stored.row]

theorem Stored.advance (stored : Stored tenant opId w op) (advanced : Operation.Advanced op op') :
    Stored tenant opId (w.putOperation op').commit op' := by
  refine ⟨?_,advanced.tenant.trans stored.tenantId,rfl⟩
  rw [← stored.id,← advanced.id]
  exact Table.find_put_same ..

theorem Clean.tracked (clean : Clean op attempts) (running : op.status = .running) :
    op.stepAttempts op.commandStep = some attempts :=
  clean.steps.resolve_right fun stepless => by simp [running] at stepless

theorem Clean.started (clean : Clean op attempts) (now : UtcTimestamp) :
    (op.started now).stepAttempts op.commandStep = some attempts := by
  rcases clean.steps with tracked | ⟨-,empty,rfl⟩
  · exact Operation.started_stepAttempts tracked
  · exact Operation.started_stepless empty

theorem Clean.no_pending (clean : Clean op attempts) (running : op.status = .running) :
    op.findPendingAttemptId op.commandStep = none := by
  simp only [Operation.findPendingAttemptId,clean.tracked running,Option.map_eq_none_iff,List.find?_eq_none]
  intro a member
  simpa using clean.settled a (mem_reverse.mp member)

theorem Stuck.has_pending (stuck : Stuck op attempts) :
    ∃ attemptId, op.findPendingAttemptId op.commandStep = some attemptId := by
  obtain ⟨a,member,pending⟩ := stuck.pending
  cases found : attempts.reverse.find? fun a => a.status == .pending with
  | none =>
    rw [List.find?_eq_none] at found
    exact absurd (by simpa using pending) (found a (mem_reverse.mpr member))
  | some b => exact ⟨b.attemptId,by simp [Operation.findPendingAttemptId,stuck.tracked,found]⟩

theorem Stuck.not_sent (stuck : Stuck op attempts) : op.hasSentOrAckedAttempt op.commandStep = false := by
  simp only [Operation.hasSentOrAckedAttempt,stuck.tracked,any_eq_false]
  intro a member
  simpa using stuck.unsent a member

section

variable (stored : Stored tenant opId w op) (advanced : Operation.Advanced op op')
include stored advanced

theorem Stored.run_save : (saveOperation op').run w = .ok () (w.putOperation op') :=
  saveOperation_next (by rw [advanced.id,stored.id,stored.row]) advanced.revision.symm

theorem Stored.run_store : (storeOperation none none op').run w = .ok () (w.putOperation op').commit := by
  simp [storeOperation,stored.run_save advanced]

theorem Stored.run_store_lost (lost : saveFailure ≠ none ∨ commitFailure ≠ none) :
    ∃ e w', (storeOperation saveFailure commitFailure op').run w = .error e w' ∧ w'.committed = w.committed := by
  cases saveFailure with
  | some e => exact ⟨e,w,rfl,rfl⟩
  | none =>
    cases commitFailure with
    | none => simp at lost
    | some e =>
      refine ⟨e,(w.putOperation op').rollback,?_,rfl⟩
      simp [storeOperation,stored.run_save advanced]

theorem Stored.store_cases (saveFailure commitFailure : Option DomainError) :
    (saveFailure = none ∧ commitFailure = none ∧ (storeOperation saveFailure commitFailure op').run w =
        .ok () (w.putOperation op').commit) ∨
      (saveFailure ≠ none ∨ commitFailure ≠ none) ∧
        ∃ e w', (storeOperation saveFailure commitFailure op').run w = .error e w' ∧ w'.committed = w.committed := by
  by_cases lost : saveFailure ≠ none ∨ commitFailure ≠ none
  · exact .inr ⟨lost,stored.run_store_lost advanced lost⟩
  · simp only [not_or,not_not] at lost
    obtain ⟨rfl,rfl⟩ := lost
    exact .inl ⟨rfl,rfl,stored.run_store advanced⟩

end

/-- A new attempt has been recorded behind attempts that are all settled. -/
structure Attempted (op : Operation) (attempts : List DispatchAttempt) (attemptId : MessageId) : Prop where
  running : op.status = .running
  tracked : op.stepAttempts op.commandStep = some (attempts ++ [DispatchAttempt.new attemptId])
  settled : ∀ a ∈ attempts, a.status ≠ .pending
  unsent : Unsent attempts
  fresh : ∀ a ∈ attempts, a.attemptId ≠ attemptId

section

variable (attempted : Attempted op attempts attemptId)
include attempted

theorem Attempted.stuck : Stuck op (attempts ++ [DispatchAttempt.new attemptId]) := by
  refine ⟨attempted.running,attempted.tracked,⟨DispatchAttempt.new attemptId,by simp,rfl⟩,?_⟩
  intro a member
  rcases mem_append.mp member with old | new
  · exact attempted.unsent a old
  · rw [mem_singleton.mp new]
    simp [DispatchAttempt.new]

theorem Attempted.mark (marked : f (DispatchAttempt.new attemptId) = .ok a) (settled : a.status ≠ .pending) :
    ∃ op', op.onDispatchAttempt op.commandStep attemptId f now = .ok op' ∧ Operation.Advanced op op' ∧
      op'.stepAttempts op'.commandStep = some (attempts ++ [a]) ∧ Clean op' (attempts ++ [a]) := by
  have changed : changeFirst (fun a => a.attemptId == attemptId) (DomainError.notFound "dispatch attempt" attemptId)
      f (attempts ++ [DispatchAttempt.new attemptId]) = .ok (attempts ++ [a]) :=
    changeFirst_append (fun a member => by simpa using attempted.fresh a member) (by simp [DispatchAttempt.new])
      marked
  obtain ⟨op',ok,tracked,advanced⟩ := Operation.onDispatchAttempt_ok attempted.tracked changed
  have same : op'.commandStep = op.commandStep := by rw [Operation.commandStep,advanced.command]; rfl
  rw [← same] at tracked
  refine ⟨op',ok,advanced,tracked,.inl tracked,?_,fun pending => ?_⟩
  · intro b member
    rcases mem_append.mp member with old | new
    · exact attempted.settled b old
    · rwa [mem_singleton.mp new]
  · rw [advanced.status,attempted.running] at pending
    cases pending

theorem Attempted.confirmed (now : UtcTimestamp) :
    ∃ op', op.markDispatchAttemptSent op.commandStep attemptId now = .ok op' ∧ Operation.Advanced op op' ∧
      Clean op' (attempts ++ [(DispatchAttempt.new attemptId).markSent now]) := by
  obtain ⟨op',ok,advanced,-,clean⟩ :=
    attempted.mark (f := fun a => .ok (a.markSent now)) rfl (by simp [DispatchAttempt.markSent])
  exact ⟨op',ok,advanced,clean⟩

theorem Attempted.rejected (now : UtcTimestamp) (fits : error.Fits) :
    ∃ op' attempts', op.markDispatchAttemptNacked op.commandStep attemptId error now = .ok op' ∧ Operation.Advanced op op' ∧
      Clean op' attempts' := by
  have marked : (DispatchAttempt.new attemptId).markNacked error now = .ok { DispatchAttempt.new attemptId with
      status := .nacked, error := some error, ackedAt := some now } := by
    simp [DispatchAttempt.markNacked,error.validate_fits "operation" fits]
  obtain ⟨op',ok,advanced,-,clean⟩ := attempted.mark (f := fun a => a.markNacked error now) marked (by simp)
  exact ⟨op',_,ok,advanced,clean⟩

end

theorem run_deliver
    (reached : ∀ c ∈ [DispatchCall.resolve,.send], c ∈ outcomeCalls d op → d.faults c = none) :
    (deliver d tenant op attemptId).run w = match rejection d op with
      | none => (confirmAttempt d op attemptId).run { w with sent := w.sent ++ [op.command] }
      | some error => (rejectAttempt d tenant op attemptId error).run w := by
  have resolved : d.faults .resolve = none := reached .resolve (by simp) (by simp [outcomeCalls])
  cases owner : d.owner with
  | error text => simp [deliver,resolved,owner,rejection]
  | ok found =>
    cases found with
    | none => simp [deliver,resolved,owner,rejection]
    | some ownerEpoch =>
      by_cases current : ownerEpoch = op.expectedOwnerEpoch
      · have sends : d.faults .send = none := reached .send (by simp) (by simp [outcomeCalls,reachesBus,owner,current])
        cases answer : d.bus op.command <;>
          simp [deliver,resolved,owner,rejection,current,sends,sendCommand,answer]
      · simp [deliver,resolved,owner,rejection,current]

theorem deliver_stopped
    (stopped : ∃ c ∈ [DispatchCall.resolve,.send], c ∈ outcomeCalls d op ∧ d.faults c ≠ none) :
    ∃ e, (deliver d tenant op attemptId).run w = .error e w := by
  cases resolved : d.faults .resolve with
  | some e => exact ⟨e,by simp [deliver,resolved]⟩
  | none =>
    obtain ⟨c,member,reached,failing⟩ := stopped
    have isSend : c = .send := by
      rcases mem_cons.mp member with rfl | rest
      · exact absurd resolved failing
      · simpa using rest
    subst isSend
    have bus : reachesBus d op = true := by
      by_contra misses
      cases rejected : rejection d op <;> simp [outcomeCalls,misses,rejected] at reached
    obtain ⟨e,fault⟩ := Option.ne_none_iff_exists'.mp failing
    unfold reachesBus at bus
    split at bus
    · rename_i ownerEpoch owner
      exact ⟨e,by simp [deliver,resolved,owner,of_decide_eq_true bus,fault]⟩
    · cases bus

theorem Stored.sent (stored : Stored tenant opId w op) (sent : List Command) : Stored tenant opId { w with sent } op :=
  ⟨stored.row,stored.tenantId,stored.opened⟩

theorem Stored.complete_cases (stored : Stored tenant opId w op) (running : op.status = .running)
    (fits : error.Fits) (d : Dispatch) :
    (∃ w', (completeOperation d tenant op error).run w = .ok (op.completed (.failure error) d.now) w' ∧
        Stored tenant opId w' (op.completed (.failure error) d.now)) ∨
      (∃ c, d.faults c ≠ none) ∧
        ∃ e w', (completeOperation d tenant op error).run w = .error e w' ∧ w'.committed = w.committed := by
  have completes := op.complete_running (.failure error) d.now running (error.validate_fits "operation" fits)
  have saves : (saveOperation (op.completed (.failure error) d.now)).run w =
      .ok () (w.putOperation (op.completed (.failure error) d.now)) :=
    saveOperation_next (r := op) (by rw [Operation.completed_id,stored.id,stored.row]) rfl
  cases save : d.faults .saveCompleted with
  | some e =>
    refine .inr ⟨⟨.saveCompleted,by simp [save]⟩,e,w,?_,rfl⟩
    simp [completeOperation,completes,save]
  | none =>
    cases append : d.faults .appendCompleted with
    | some e =>
      refine .inr ⟨⟨.appendCompleted,by simp [append]⟩,e,w.putOperation (op.completed (.failure error) d.now),?_,rfl⟩
      simp [completeOperation,completes,save,append,saves]
    | none =>
      simp only [completeOperation,completes,save,append,call_none,run_bind,run_ofResult_ok,saves]
      cases commit : d.faults .commitCompleted with
      | some e => exact .inr ⟨⟨.commitCompleted,by simp [commit]⟩,e,_,rfl,rfl⟩
      | none =>
        refine .inl ⟨_,rfl,?_,stored.tenantId,rfl⟩
        rw [← stored.id]
        exact Table.find_put_same ..

theorem outcome_faults : (∃ c ∈ outcomeCalls d op, d.faults c ≠ none) ↔
      (∃ c ∈ [DispatchCall.resolve,.send], c ∈ outcomeCalls d op ∧ d.faults c ≠ none) ∨
        match rejection d op with
        | none => d.faults .saveSent ≠ none ∨ d.faults .commitSent ≠ none
        | some _ => d.faults .saveNacked ≠ none ∨ d.faults .commitNacked ≠ none := by
  cases rejected : rejection d op <;> cases bus : reachesBus d op <;>
    simp [outcomeCalls,rejected,bus,or_assoc]

theorem Attempted.deliver_lost (attempted : Attempted op attempts attemptId)
    (stored : Stored tenant opId w op) (lost : ∃ c ∈ outcomeCalls d op, d.faults c ≠ none) :
    ∃ e w', (deliver d tenant op attemptId).run w = .error e w' ∧ w'.committed = w.committed := by
  by_cases stopped : ∃ c ∈ [DispatchCall.resolve,.send], c ∈ outcomeCalls d op ∧ d.faults c ≠ none
  · obtain ⟨e,ran⟩ := deliver_stopped stopped
    exact ⟨e,w,ran,rfl⟩
  have outcome := (outcome_faults.mp lost).resolve_left stopped
  rw [run_deliver fun c member reached => by
    by_contra failing
    exact stopped ⟨c,member,reached,failing⟩]
  cases rejected : rejection d op with
  | none =>
    rw [rejected] at outcome
    obtain ⟨op',marked,advanced,-⟩ := attempted.confirmed d.now
    obtain ⟨e,w',ran,kept⟩ := (stored.sent (w.sent ++ [op.command])).run_store_lost advanced outcome
    refine ⟨e,w',?_,kept⟩
    simp only [confirmAttempt,run_bind,marked,run_ofResult_ok,ran]
  | some error =>
    rw [rejected] at outcome
    obtain ⟨op',attempts',marked,advanced,-⟩ := attempted.rejected d.now (rejection_fits rejected)
    obtain ⟨e,w',ran,kept⟩ := stored.run_store_lost advanced outcome
    refine ⟨e,w',?_,kept⟩
    simp [rejectAttempt,marked,ran]

theorem Attempted.delivered (attempted : Attempted op attempts attemptId)
    (stored : Stored tenant opId w op) (kept : ∀ c ∈ outcomeCalls d op, d.faults c = none) :
    Delivered tenant opId d (w.sent ++ [op.command]) ((deliver d tenant op attemptId).run w) := by
  have notLost := mt outcome_faults.mpr (by simpa using kept)
  rw [run_deliver fun c _ reached => kept c reached]
  cases rejected : rejection d op with
  | none =>
    rw [rejected] at notLost
    simp only [not_or,not_not] at notLost
    obtain ⟨op',marked,advanced,clean⟩ := attempted.confirmed d.now
    have sent := stored.sent (w.sent ++ [op.command])
    simp only [confirmAttempt,run_bind,marked,run_ofResult_ok,notLost.2.1,notLost.2.2,
      sent.run_store advanced]
    exact .sent (sent.advance advanced) clean rfl
  | some error =>
    rw [rejected] at notLost
    simp only [not_or,not_not] at notLost
    have fits := rejection_fits rejected
    obtain ⟨op',attempts',marked,advanced,clean⟩ := attempted.rejected d.now fits
    have advancedStored := stored.advance advanced
    simp only [rejectAttempt,run_bind,marked,run_ofResult_ok,notLost.2.1,notLost.2.2,stored.run_store advanced]
    rcases advancedStored.complete_cases (advanced.status.trans attempted.running) fits d with
      ⟨w',ran,completed⟩ | ⟨failing,e,w',ran,unchanged⟩
    · rw [ran]
      exact .completed completed op'.completed_terminal
    · rw [ran]
      exact .rejected (advancedStored.rollback unchanged) clean failing

theorem outcomeCalls_congr (command : op'.command = op.command)
    (epoch : op'.expectedOwnerEpoch = op.expectedOwnerEpoch) : outcomeCalls d op' = outcomeCalls d op := by
  have bus : reachesBus d op' = reachesBus d op := by rw [reachesBus,epoch,reachesBus]
  have rejected : rejection d op' = rejection d op := by rw [rejection,command,epoch,rejection]
  rw [outcomeCalls,bus,rejected,outcomeCalls]

/-- The operation is running, with no attempt pending and its command unchanged. -/
structure Begun (op op' : Operation) (attempts : List DispatchAttempt) : Prop where
  running : op'.status = .running
  clean : Clean op' attempts
  command : op'.command = op.command
  epoch : op'.expectedOwnerEpoch = op.expectedOwnerEpoch

theorem Stored.start_cases (stored : Stored tenant opId w op) (clean : Clean op attempts)
    (live : op.isTerminal = false) (d : Dispatch) :
    ((op.status = .pending → ∀ c ∈ [DispatchCall.saveStarted,.appendStarted,.commitStarted], d.faults c = none) ∧
        ∃ op' w', (startPending d tenant op).run w = .ok op' w' ∧ Stored tenant opId w' op' ∧
          Begun op op' attempts ∧ w'.sent = w.sent) ∨
      (op.status = .pending ∧ ∃ c ∈ [DispatchCall.saveStarted,.appendStarted,.commitStarted], d.faults c ≠ none) ∧
        ∃ e w', (startPending d tenant op).run w = .error e w' ∧ w'.committed = w.committed := by
  by_cases pending : op.status = .pending
  · have saves : (saveOperation (op.started d.now)).run w = .ok () (w.putOperation (op.started d.now)) :=
      saveOperation_next (r := op) (by rw [Operation.started_id,stored.id,stored.row]) rfl
    have begun : Begun op (op.started d.now) attempts :=
      ⟨rfl,⟨.inl (clean.started d.now),clean.settled,by simp⟩,rfl,rfl⟩
    rw [startPending,if_pos pending]
    cases save : d.faults .saveStarted with
    | some e =>
      refine .inr ⟨⟨pending,.saveStarted,by simp,by simp [save]⟩,e,w,?_,rfl⟩
      simp [op.start_pending pending]
    | none =>
      cases append : d.faults .appendStarted with
      | some e =>
        refine .inr ⟨⟨pending,.appendStarted,by simp,by simp [append]⟩,e,w.putOperation (op.started d.now),?_,rfl⟩
        simp [op.start_pending pending,saves]
      | none =>
        simp only [run_bind,op.start_pending pending,run_ofResult_ok,call_none,saves]
        cases commit : d.faults .commitStarted with
        | some e => exact .inr ⟨⟨pending,.commitStarted,by simp,by simp [commit]⟩,e,_,rfl,rfl⟩
        | none =>
          refine .inl ⟨fun _ => by simp [save,append,commit],_,_,rfl,⟨?_,stored.tenantId,rfl⟩,begun,rfl⟩
          rw [← stored.id]
          exact Table.find_put_same ..
  have running : op.status = .running := by
    cases status : op.status <;> simp_all [Operation.isTerminal,OperationStatus.isTerminal]
  refine .inl ⟨fun is => absurd is pending,op,w,?_,stored,⟨running,clean,rfl,rfl⟩,rfl⟩
  rw [startPending,if_neg pending]
  rfl

theorem Begun.attempt (begun : Begun op op' attempts) (unsent : Unsent attempts)
    (fresh : ∀ a ∈ attempts, a.attemptId ≠ d.attemptId) :
    ∃ op'', pendingAttempt d op' = .ok (d.attemptId,op'') ∧ Operation.Advanced op' op'' ∧
      Attempted op'' attempts d.attemptId := by
  obtain ⟨op'',recorded,tracked,advanced⟩ :=
    Operation.recordDispatchAttempt_ok d.now (begun.clean.tracked begun.running)
  have same : op''.commandStep = op'.commandStep := by rw [Operation.commandStep,advanced.command]; rfl
  refine ⟨op'',?_,advanced,advanced.status.trans begun.running,same ▸ tracked,begun.clean.settled,unsent,fresh⟩
  simp [pendingAttempt,begun.clean.no_pending begun.running,recorded,Except.map]

theorem Stored.ended (stored : Stored tenant opId w op) (clean : Clean op attempts)
    (live : op.isTerminal = false) (unsent : Unsent attempts) (fresh : ∀ a ∈ attempts, a.attemptId ≠ d.attemptId) :
    Ended tenant opId d op (w.sent ++ [op.command]) ((attemptDispatch d tenant op).run w) := by
  rcases stored.start_cases clean live d with ⟨starts,op₁,w₁,ran₁,stored₁,begun,sent₁⟩ |
    ⟨⟨pending,c,member,failing⟩,e,w₁,ran₁,kept⟩
  · obtain ⟨op₂,recorded,advanced,attempted⟩ := begun.attempt unsent fresh
    have run : (attemptDispatch d tenant op).run w = (do
        storeOperation (d.faults .saveAttempt) (d.faults .commitAttempt) op₂
        deliver d tenant op₂ d.attemptId : Service Operation).run w₁ := by
      simp [attemptDispatch,ran₁,recorded]
    rw [run]
    rcases stored₁.store_cases advanced (d.faults .saveAttempt) (d.faults .commitAttempt) with
      ⟨save,commit,ran₂⟩ | ⟨failing,e,w₂,ran₂,kept⟩
    · have reached : Reached d op := ⟨starts,by simp [save,commit]⟩
      have stored₂ := stored₁.advance advanced
      have calls : outcomeCalls d op₂ = outcomeCalls d op :=
        outcomeCalls_congr (advanced.command.trans begun.command) (advanced.epoch.trans begun.epoch)
      rw [run_bind,ran₂]
      by_cases lost : ∃ c ∈ outcomeCalls d op, d.faults c ≠ none
      · obtain ⟨e,w₃,ran₃,kept⟩ := attempted.deliver_lost stored₂ (calls.symm ▸ lost)
        dsimp only
        rw [ran₃]
        exact .lost (stored₂.rollback kept) attempted.stuck reached lost
      have kept : ∀ c ∈ outcomeCalls d op, d.faults c = none := by simpa using lost
      have delivered := attempted.delivered stored₂ (calls.symm ▸ kept)
      rw [advanced.command,begun.command,show (w₁.putOperation op₂).commit.sent = w.sent from sent₁] at delivered
      exact .delivered kept delivered
    rw [run_bind_error ran₂]
    refine .early (stored₁.rollback kept) begun.clean (fun reached => ?_) ?_
    · rcases failing with save | commit
      · exact save (reached.2 _ (by simp))
      · exact commit (reached.2 _ (by simp))
    · rcases failing with save | commit
      · exact ⟨_,save⟩
      · exact ⟨_,commit⟩
  · have run : (attemptDispatch d tenant op).run w = .error e w₁ := run_bind_error ran₁
    rw [run]
    exact .early (stored.rollback kept) clean (fun reached => failing (reached.1 pending c member)) ⟨c,failing⟩

theorem Clean.attempts_unsent (clean : Clean op attempts) (live : op.isTerminal = false)
    (unsent : ¬ (op.status = .running ∧ op.hasSentOrAckedAttempt op.commandStep = true)) : Unsent attempts := by
  cases status : op.status with
  | pending => exact clean.unsent status
  | running =>
    have none_sent : op.hasSentOrAckedAttempt op.commandStep = false := by simpa [status] using unsent
    simp only [Operation.hasSentOrAckedAttempt,clean.tracked status,any_eq_false] at none_sent
    intro a member
    simpa using none_sent a member
  | _ => simp [Operation.isTerminal,status,OperationStatus.isTerminal] at live

theorem Clean.fresh (clean : Clean op attempts) (stored : Stored tenant opId w op)
    (fresh : FreshAttempt opId w d) : ∀ a ∈ attempts, a.attemptId ≠ d.attemptId := by
  rcases clean.steps with tracked | ⟨-,-,rfl⟩
  · exact fresh op stored.row attempts tracked
  · simp

theorem Stored.run_dispatch (stored : Stored tenant opId w op) (get : d.faults .get = none) :
    (dispatch d tenant opId).run w =
      if op.isTerminal = true then .ok op w
      else if op.status = .running ∧ op.hasSentOrAckedAttempt op.commandStep = true then .ok op w
      else (attemptDispatch d tenant op).run w := by
  simp [dispatch,get,getOperation_stored stored.row stored.tenantId]

/-- The next save of a pending attempt has the revision that is stored. -/
theorem Stuck.refused (stuck : Stuck op attempts) (stored : Stored tenant opId w op) (d : Dispatch) :
    ∃ e, (dispatch d tenant opId).run w = .error e w := by
  cases get : d.faults .get with
  | some e => exact ⟨e,by simp [dispatch,get]⟩
  | none =>
    obtain ⟨attemptId,found⟩ := stuck.has_pending
    have start : (startPending d tenant op).run w = .ok op w := by simp [startPending,stuck.running]
    have reused : pendingAttempt d op = .ok (attemptId,op) := by simp [pendingAttempt,found]
    have attempt : (attemptDispatch d tenant op).run w = (do
        storeOperation (d.faults .saveAttempt) (d.faults .commitAttempt) op
        deliver d tenant op attemptId : Service Operation).run w := by
      simp [attemptDispatch,start,reused]
    rw [stored.run_dispatch get,if_neg (by simp [Operation.isTerminal,stuck.running,OperationStatus.isTerminal]),
      if_neg (by simp [stuck.not_sent]),attempt]
    cases save : d.faults .saveAttempt with
    | some e => exact ⟨e,run_bind_error (run_bind_error rfl)⟩
    | none =>
      have stale : (saveOperation op).run w = .error (.concurrentModification (op.revision - 1) op.revision) w :=
        saveIn_stale (by rw [stored.id,stored.row]) (by simp)
      exact ⟨_,run_bind_error (run_bind_error stale)⟩

/-- A blocked operation stays blocked. -/
theorem Blocked.step (blocked : Blocked tenant opId w) (d : Dispatch) :
    Blocked tenant opId (step tenant opId w d) := by
  obtain ⟨op,attempts,stored,stuck⟩ := blocked
  obtain ⟨e,ran⟩ := stuck.refused stored d
  rw [CommandDispatcher.step,leaves_error ran]
  exact ⟨op,attempts,stored.rollback rfl,stuck⟩

theorem Sound.kept (sound : Sound tenant opId w) (kept : w'.committed = w.committed) :
    Sound tenant opId w'.rollback := by
  obtain ⟨op,stored,found⟩ := sound
  exact ⟨op,stored.rollback kept,found⟩

theorem Delivered.sound {x : Service Operation} (delivered : Delivered tenant opId d sentAfter result)
    (ran : x.run w = result) :
    Sound tenant opId (x.leaves w).rollback := by
  cases delivered with
  | sent stored clean sent =>
    rw [leaves_ok ran]
    exact ⟨_,stored.rollback rfl,.inr ⟨_,clean⟩⟩
  | completed stored terminal =>
    rw [leaves_ok ran]
    exact ⟨_,stored.rollback rfl,.inl terminal⟩
  | rejected stored clean stopped =>
    rw [leaves_error ran]
    exact ⟨_,stored,.inr ⟨_,clean⟩⟩

/-- An invocation leaves a pending attempt exactly when it is interrupted. -/
theorem Sound.step (sound : Sound tenant opId w) (fresh : FreshAttempt opId w d) :
    (InterruptedIn opId w d → Blocked tenant opId (step tenant opId w d)) ∧
      (¬ InterruptedIn opId w d → Sound tenant opId (step tenant opId w d)) := by
  have idle (left : (dispatch d tenant opId).leaves w = w) :
      Sound tenant opId (CommandDispatcher.step tenant opId w d) := by
    rw [CommandDispatcher.step,left]
    exact sound.kept rfl
  obtain ⟨op,stored,found⟩ := sound
  have about (interrupted : InterruptedIn opId w d) : Interrupted d op := by
    obtain ⟨op',row,interrupted⟩ := interrupted
    rw [stored.row] at row
    cases row
    exact interrupted
  cases get : d.faults .get with
  | some e =>
    refine ⟨fun interrupted => ?_,fun _ => idle (leaves_error (e := e) (by simp [dispatch,get]))⟩
    have answered := (about interrupted).get
    simp [get] at answered
  | none =>
    have ran := stored.run_dispatch get
    by_cases terminal : op.isTerminal = true
    · rw [if_pos terminal] at ran
      exact ⟨fun interrupted => absurd terminal (by simp [(about interrupted).live]),fun _ => idle (leaves_ok ran)⟩
    rw [if_neg terminal] at ran
    by_cases sent : op.status = .running ∧ op.hasSentOrAckedAttempt op.commandStep = true
    · rw [if_pos sent] at ran
      exact ⟨fun interrupted => absurd sent (about interrupted).unsent,fun _ => idle (leaves_ok ran)⟩
    rw [if_neg sent] at ran
    obtain ⟨attempts,clean⟩ := found.resolve_left terminal
    have live : op.isTerminal = false := by simpa using terminal
    have ended := stored.ended clean live (clean.attempts_unsent live sent) (clean.fresh stored fresh)
    generalize (attemptDispatch d tenant op).run w = result at ended ran
    rw [CommandDispatcher.step]
    cases ended with
    | early stored' clean' missed stopped =>
      rw [leaves_error ran]
      exact ⟨fun interrupted => absurd (about interrupted).reached missed,fun _ => ⟨_,stored',.inr ⟨_,clean'⟩⟩⟩
    | lost stored' stuck reached lost =>
      rw [leaves_error ran]
      exact ⟨fun _ => ⟨_,_,stored',stuck⟩,fun kept => absurd ⟨op,stored.row,live,sent,get,reached,lost⟩ kept⟩
    | delivered kept delivered =>
      refine ⟨fun interrupted => ?_,fun _ => delivered.sound ran⟩
      obtain ⟨c,member,failing⟩ := (about interrupted).lost
      exact absurd (kept c member) failing

/-- A run without an interruption leaves the operation sound, and any other blocks it for good. -/
theorem run_cases (run : List Dispatch) (sound : Sound tenant opId w)
    (fresh : Guarded (step tenant opId) (FreshAttempt opId) w run) :
    Guarded (step tenant opId) (fun w d => ¬ InterruptedIn opId w d) w run ∧
        Sound tenant opId (execute (step tenant opId) w run) ∨
      ¬ Guarded (step tenant opId) (fun w d => ¬ InterruptedIn opId w d) w run ∧
        Blocked tenant opId (execute (step tenant opId) w run) := by
  induction run generalizing w with
  | nil => exact .inl ⟨trivial,sound⟩
  | cons d rest ih =>
    have next := sound.step fresh.1
    by_cases interrupted : InterruptedIn opId w d
    · refine .inr ⟨fun guarded => guarded.1 interrupted,?_⟩
      exact execute_invariant (fun _ d blocked => blocked.step d) rest (next.1 interrupted)
    · rcases ih (next.2 interrupted) fresh.2 with ⟨guarded,sound⟩ | ⟨unguarded,blocked⟩
      · exact .inl ⟨⟨interrupted,guarded⟩,sound⟩
      · exact .inr ⟨fun guarded => unguarded guarded.2,blocked⟩

theorem Stored.unique (stored : Stored tenant opId w op)
    (row : w.working.operations.find opId = some op') : op' = op :=
  Option.some.inj (row.symm.trans stored.row)

theorem Sound.recovers (sound : Sound tenant opId w) (fresh : FreshAttempt opId w d)
    (faultless : d.faults = noFaults) : Recovers tenant opId w d := by
  obtain ⟨op,stored,found⟩ := sound
  intro op' row live
  obtain rfl := stored.unique row
  have none_fails (c : DispatchCall) : d.faults c = none := by simp [faultless,noFaults]
  have ran := stored.run_dispatch (none_fails .get)
  rw [if_neg (by simp [live])] at ran
  by_cases sent : op'.status = .running ∧ op'.hasSentOrAckedAttempt op'.commandStep = true
  · rw [if_pos sent] at ran
    exact ⟨op',w,ran,.inr (.inl ⟨sent.1,sent.2,rfl,rfl⟩)⟩
  rw [if_neg sent] at ran
  obtain ⟨attempts,clean⟩ := found.resolve_left (by simp [live])
  have ended := stored.ended clean live (clean.attempts_unsent live sent) (clean.fresh stored fresh)
  generalize (attemptDispatch d tenant op').run w = result at ended ran
  cases ended with
  | early stored' clean' missed stopped =>
    obtain ⟨c,failing⟩ := stopped
    exact absurd (none_fails c) failing
  | lost stored' stuck reached lost =>
    obtain ⟨c,-,failing⟩ := lost
    exact absurd (none_fails c) failing
  | delivered kept delivered =>
    cases delivered with
    | sent stored' clean' sent => exact ⟨_,_,ran,.inl sent⟩
    | completed stored' terminal =>
      refine ⟨_,_,ran,.inr (.inr ⟨terminal,?_⟩)⟩
      rw [stored'.opened]
      exact stored'.row
    | rejected stored' clean' stopped =>
      obtain ⟨c,failing⟩ := stopped
      exact absurd (none_fails c) failing

theorem Blocked.not_recovers (blocked : Blocked tenant opId w) (d : Dispatch) : ¬ Recovers tenant opId w d := by
  obtain ⟨op,attempts,stored,stuck⟩ := blocked
  intro recovers
  obtain ⟨op',w',ran,-⟩ :=
    recovers op stored.row (by simp [Operation.isTerminal,stuck.running,OperationStatus.isTerminal])
  obtain ⟨e,refused⟩ := stuck.refused stored d
  rw [ran] at refused
  cases refused

/-- After any number of invocations, each stopped at any call or not at all, the next one
recovers exactly when none of them stopped between the commit of a new attempt and the commit
of its outcome. -/
theorem dispatch_recovers_iff (stored : Stored tenant opId w op) (clean : Clean op attempts)
    (run : List Dispatch) (fresh : Guarded (step tenant opId) (FreshAttempt opId) w run)
    (faultless : d.faults = noFaults)
    (unused : FreshAttempt opId (execute (step tenant opId) w run) d) :
    Recovers tenant opId (execute (step tenant opId) w run) d ↔
      Guarded (step tenant opId) (fun w d => ¬ InterruptedIn opId w d) w run := by
  rcases run_cases run ⟨op,stored,.inr ⟨attempts,clean⟩⟩ fresh with ⟨guarded,sound⟩ | ⟨unguarded,blocked⟩
  · exact ⟨fun _ => guarded,fun _ => sound.recovers unused faultless⟩
  · exact ⟨fun recovers => absurd recovers (blocked.not_recovers d),fun guarded => absurd guarded unguarded⟩

end

def stoppedAt (calls : List DispatchCall) (attemptId : MessageId) : Dispatch where
  faults c := if c ∈ calls then some (.unavailable "storage") else none
  owner := .ok (some 7)
  bus _ := .ok ()
  now := 5
  attemptId := attemptId

theorem sample_stop_before_attempt :
    Recovers 1 20 (execute (step 1 20) (Sample.world .requested .active .pending) [stoppedAt [.commitAttempt] 40])
      { stoppedAt [] 41 with faults := noFaults } := by
  have stored : Stored 1 20 (Sample.world .requested .active .pending) (Sample.operation .pending) := ⟨rfl,rfl,rfl⟩
  have clean : Clean (Sample.operation .pending) [] := ⟨.inl rfl,by simp,fun _ => by simp [Unsent]⟩
  refine (dispatch_recovers_iff stored clean _ (by decide) rfl (by decide)).mpr ⟨?_,trivial⟩
  rintro ⟨_,_,interrupted⟩
  simpa [stoppedAt] using interrupted.reached.2 .commitAttempt

/-- The process stops before the owner is resolved, the next dispatch saves what is stored. -/
theorem sample_stop_blocks : ∃ w', (dispatch (stoppedAt [] 41) 1 20).run
        (step 1 20 (Sample.world .requested .active .pending) (stoppedAt [.resolve] 40)) =
      .error (.concurrentModification 2 3) w' ∧ w'.sent = [] :=
  ⟨_,rfl,rfl⟩

end CheetahSignaling.CommandDispatcher
