import CheetahSignaling.GuardedRun
import CheetahSignaling.Operation

/-! Calls of the methods of an operation in any order. An error leaves the operation as it was, except
for `fail`, which has set the status by the time it finds its texts too long. -/
namespace CheetahSignaling.Operation

open GuardedRun

inductive Call where
  | start
  | complete (result : OperationResult)
  | cancel
  | fail (error : ErrorText)
  | timeout (error : ErrorText)
  | expire
  | recordDispatchAttempt (stepId : MessageId) (attempt : DispatchAttempt)
  | markDispatchAttemptSent (stepId attemptId : MessageId)
  | markDispatchAttemptAcked (stepId attemptId : MessageId)
  | markDispatchAttemptNacked (stepId attemptId : MessageId) (error : ErrorText)

/-- What a method leaves that returns before it changes the operation. -/
def kept (op : Operation) : Except DomainError (Operation × List DomainEvent) → Operation × Except DomainError (List DomainEvent)
  | .ok (changed,events) => (changed,.ok events)
  | .error e => (op,.error e)

/-- The operation after a call, and the answer. -/
def call (op : Operation) (now : UtcTimestamp) : Call → Operation × Except DomainError (List DomainEvent)
  | .start => op.kept ((op.start now).map fun (changed,event) => (changed,[event]))
  | .complete result => op.kept ((op.complete result now).map fun (changed,event) => (changed,[event]))
  | .cancel => (op.cancel now).map id (·.map ([·]))
  | .fail error => (op.fail error now).map id (·.map ([·]))
  | .timeout error => (op.timeout error now).map id (·.map ([·]))
  | .expire => (op.expire now).map id (·.map ([·]))
  | .recordDispatchAttempt stepId attempt => op.kept ((op.recordDispatchAttempt stepId attempt now).map (·,[]))
  | .markDispatchAttemptSent stepId attemptId =>
    op.kept ((op.markDispatchAttemptSent stepId attemptId now).map (·,[]))
  | .markDispatchAttemptAcked stepId attemptId =>
    op.kept ((op.markDispatchAttemptAcked stepId attemptId now).map (·,[]))
  | .markDispatchAttemptNacked stepId attemptId error =>
    op.kept ((op.markDispatchAttemptNacked stepId attemptId error now).map (·,[]))

/-- An outcome that keeps a terminal status, and the whole operation if it is an error. -/
structure Atomic (op : Operation) (outcome : Operation × Except DomainError α) : Prop where
  terminal : op.isTerminal = true → outcome.1.status = op.status
  unchanged : ∀ e, outcome.2 = .error e → outcome.1 = op

section

variable {op : Operation}

theorem Atomic.same (answer : Except DomainError α) : Atomic op (op,answer) := ⟨fun _ => rfl,fun _ _ => rfl⟩

theorem error_of_map {answer : Except ε α} (failed : answer.map f = .error e) : answer = .error e := by
  cases answer with
  | ok result => cases failed
  | error _ => cases failed; rfl

theorem Atomic.map {outcome : Operation × Except DomainError α} (atomic : Atomic op outcome) (f : α → β) :
    Atomic op (outcome.map id (·.map f)) :=
  ⟨atomic.terminal,fun e failed => atomic.unchanged e (error_of_map failed)⟩

theorem kept_atomic (same : ∀ changed events, outcome = .ok (changed,events) → op.isTerminal = true →
    changed.status = op.status) :
    Atomic op (op.kept outcome) := by
  cases outcome with
  | ok result => exact ⟨same _ _ rfl,nofun⟩
  | error e => exact .same _

theorem endWith_atomic (valid : given.validate = .ok ()) : Atomic op (op.endWith ending cause given now) := by
  have active (running : op.isTerminal = false) : Atomic op (op.endWith ending cause given now) := by
    refine ⟨fun terminal => absurd (running.symm.trans terminal) nofun,?_⟩
    unfold endWith
    rw [valid,ite_self]
    split <;> simp_all
  cases status : op.status with
  | pending | running => exact active (by rw [isTerminal,status]; rfl)
  | _ =>
    simp only [endWith,status]
    exact .same _

theorem timeout_atomic : Atomic op (op.timeout cause now) := by
  unfold timeout
  split
  · exact .same _
  · exact endWith_atomic ‹_›

theorem fail_terminal (terminal : op.isTerminal = true) : Atomic op (op.fail cause now) := by
  unfold isTerminal at terminal
  unfold fail
  cases status : op.status with
  | pending | running => rw [status] at terminal; cases terminal
  | _ => exact .same _

theorem fail_error (active : op.isTerminal = false) (failed : (op.fail cause now).2 = .error e) :
    (op.fail cause now).1.status = .failed := by
  unfold fail isTerminal at *
  split at failed
  all_goals simp_all [OperationStatus.isTerminal]
  all_goals split <;> rfl

theorem fail_refused_iff (active : op.isTerminal = false) : (∃ e, (op.fail cause now).2 = .error e) ↔
    maxErrorCodeBytes < cause.code.utf8ByteSize ∨ maxErrorMessageBytes < cause.message.utf8ByteSize := by
  have oversized : (∃ e, cause.validate "operation" = .error e) ↔
      maxErrorCodeBytes < cause.code.utf8ByteSize ∨ maxErrorMessageBytes < cause.message.utf8ByteSize := by
    unfold ErrorText.validate
    split
    · simp [*]
    · split <;> simp [*]
  rw [← oversized]
  unfold fail isTerminal at *
  cases status : op.status with
  | pending | running => cases cause.validate "operation" <;> simp
  | _ => rw [status] at active; cases active

theorem call_atomic (c : Call) (other : ∀ error, c = .fail error → op.isTerminal = true) : Atomic op (op.call now c) := by
  have attempts {x : Except DomainError (List OperationStep)} :
      Atomic op (op.kept ((x.map fun steps => bump { op with steps } now).map (·,[]))) := by
    cases x with
    | ok steps => exact ⟨fun _ => rfl,nofun⟩
    | error e => exact .same _
  cases c with
  | start =>
    refine kept_atomic fun changed events returned terminal => ?_
    cases ran : op.start now with
    | error e => rw [ran] at returned; cases returned
    | ok result => simp [isTerminal,(start_inv ran).1,OperationStatus.isTerminal] at terminal
  | complete given =>
    refine kept_atomic fun changed events returned terminal => ?_
    cases ran : op.complete given now with
    | error e => rw [ran] at returned; cases returned
    | ok result => simp [isTerminal,(complete_inv ran).1,OperationStatus.isTerminal] at terminal
  | cancel => exact Atomic.map (endWith_atomic rfl) _
  | timeout cause => exact timeout_atomic.map _
  | expire =>
    have atomic : Atomic op (op.expire now) := timeout_atomic
    exact atomic.map _
  | fail cause => exact (fail_terminal (other cause rfl)).map _
  | recordDispatchAttempt | markDispatchAttemptSent | markDispatchAttemptAcked | markDispatchAttemptNacked => exact attempts

end

/-- A call that returns an error leaves the operation unchanged unless it is a `fail` of an active one,
which is refused exactly when a text is over its limit. No call changes a terminal status. -/
theorem errors_atomic_iff (op : Operation) : (∀ now c e, (op.call now c).2 = .error e →
      ((op.call now c).1 = op ↔ ¬∃ error, c = .fail error ∧ op.isTerminal = false)) ∧
    (op.isTerminal = false → ∀ now error, (∃ e, (op.call now (.fail error)).2 = .error e) ↔
      maxErrorCodeBytes < error.code.utf8ByteSize ∨ maxErrorMessageBytes < error.message.utf8ByteSize) ∧
    (op.isTerminal = true → ∀ run : List (UtcTimestamp × Call),
      (execute (fun op (now,c) => (op.call now c).1) op run).status = op.status) := by
  refine ⟨?_,fun active now error => ?_,?_⟩
  · intro now c e failed
    refine ⟨?_,fun none => (call_atomic c fun error is => ?_).unchanged e failed⟩
    · rintro same ⟨cause,rfl,active⟩
      have status : (op.call now (.fail cause)).1.status = .failed := fail_error active (error_of_map failed)
      rw [same] at status
      simp [isTerminal,status,OperationStatus.isTerminal] at active
    · by_contra active
      exact none ⟨error,is,by simpa using active⟩
  · rw [← fail_refused_iff active]
    exact ⟨fun ⟨e,refused⟩ => ⟨e,error_of_map refused⟩,fun ⟨e,refused⟩ => ⟨e,congrArg (Except.map ([·])) refused⟩⟩
  · intro terminal run
    refine execute_invariant (I := fun later : Operation => later.status = op.status) ?_ run rfl
    intro later (now,c) same
    have ended : later.isTerminal = true := by rw [isTerminal,same]; exact terminal
    exact ((call_atomic c fun _ _ => ended).terminal ended).trans same

/-- A code of 129 bytes is refused, but the pending operation has failed. -/
theorem long_code_refused :
    ∃ op event, new ⟨1,2,3,4⟩ 0 1 "user" "key" 5 ⟨1,.device,5⟩ (.stopMediaSession 6) none 0 = .ok (op,event) ∧
      op.status = .pending ∧ op.call 1 (.fail ⟨String.ofList (List.replicate 129 'x'),""⟩) =
        ({ op with status := .failed },.error (.invalidArgument "operation error code must not exceed 128 bytes")) := by
  have long : maxErrorCodeBytes < (String.ofList (List.replicate 129 'x')).utf8ByteSize := by decide +kernel
  refine ⟨_,_,rfl,rfl,?_⟩
  simp only [call,fail,ErrorText.validate,if_pos long]
  rfl

end CheetahSignaling.Operation
