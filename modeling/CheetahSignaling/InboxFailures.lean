import CheetahSignaling.InboxOnce

/-! What is left of the writes of a handler that returns an error. After an error that may be retried the
unit of work is rolled back. After any other the failure is recorded in the same unit of work, and the
commit takes the writes along. -/
namespace CheetahSignaling.Inbox

open Outcomes

/-- What is committed in the end, with a last commit behind the handler or without one. After a rollback every
commit is refused. -/
def left (final : Bool) : List (HandlerAction σ) → (committed working : σ) → σ
  | [],committed,working => if final then working else committed
  | .write change :: rest,committed,working => left final rest committed (change working)
  | .commit :: rest,_,working => left final rest working working
  | .rollback :: _,committed,_ => committed

/-- A commit that takes effect finds a write of the handler in the unit of work: one of the handler's own, or the
one at the end if there is one. -/
def takesWrite (final : Bool) : List (HandlerAction σ) → (pending : Bool) → Bool
  | [],pending => final && pending
  | .write _ :: rest,_ => takesWrite final rest true
  | .commit :: rest,pending => pending || takesWrite final rest false
  | .rollback :: _,_ => false

section

variable {actions : List (HandlerAction σ)} {committed working : σ}

theorem left_unchanged (none : takesWrite final actions pending = false)
    (clean : pending = false → working = committed) : left final actions committed working = committed := by
  induction actions generalizing committed working pending with
  | nil => cases final <;> simp_all [takesWrite,left]
  | cons action rest ih =>
    cases action with
    | write change => exact ih none nofun
    | commit =>
      simp only [takesWrite,Bool.or_eq_false_iff] at none
      exact (ih none.2 fun _ => rfl).trans (clean none.1)
    | rollback => rfl

/-- If every write can be seen in the size of the store, what is committed is the larger for a write among it. -/
theorem left_size {size : σ → Nat} (visible : ∀ change, .write change ∈ actions → ∀ s, size s < size (change s))
    (written : size committed + pending.toNat ≤ size working) :
    size committed + (takesWrite final actions pending).toNat ≤ size (left final actions committed working) := by
  induction actions generalizing committed working pending with
  | nil => cases final <;> simp_all [takesWrite,left]
  | cons action rest ih =>
    have later (change : σ → σ) (member : .write change ∈ rest) := visible change (.tail _ member)
    cases action with
    | write change =>
      have more : size committed + true.toNat ≤ size (change working) := by
        have seen := visible change (.head _) working
        simp only [Bool.toNat_true]
        omega
      exact ih later more
    | commit =>
      have taken : size working + (takesWrite final rest false).toNat ≤ size (left final rest working working) :=
        ih later le_rfl
      have either : (pending || takesWrite final rest false).toNat ≤ pending.toNat + (takesWrite final rest false).toNat := by
        cases pending <;> cases takesWrite final rest false <;> decide
      simp only [takesWrite,left]
      omega
    | rollback => exact le_rfl

end

/-! The delivery around the handler -/

/-- A commit here, if there is one, leaves these writes. -/
def Leaves (final : Bool) (rest : σ) (w : World σ) : Prop :=
  (if final && !w.rolledBack then w.uow.working.rest else w.uow.committed.rest) = rest

/-- And so do these actions before it. -/
def Acting (final : Bool) (actions : List (HandlerAction σ)) (rest : σ) (w : World σ) : Prop :=
  (if w.rolledBack then w.uow.committed.rest else left final actions w.uow.committed.rest w.uow.working.rest) = rest

theorem actAll_leaves (actions : List (HandlerAction σ)) :
    Ensures (Acting final actions rest) (actAll actions) (fun _ => Leaves final rest) onError := by
  induction actions with
  | nil =>
    refine .pure fun w acting => ?_
    rw [← acting]
    cases back : w.rolledBack <;> simp [Leaves,left,back]
  | cons action actions ih =>
    have once : Ensures (Acting final (action :: actions) rest) (act action) (fun _ => Acting final actions rest) onError := by
      refine .of_returns fun w acting => ?_
      rw [← acting]
      cases action with
      | write change => exact ⟨_,_,rfl,rfl⟩
      | commit => cases back : w.rolledBack <;> simp [act,run_commit,back,Acting,left,World.commit]
      | rollback => cases back : w.rolledBack <;> simp [act,run_rollback,back,Acting,left,World.rollback]
    exact once.bind fun _ => ih

/-- A call with this fault has its effect all the same. -/
def takesEffect : Option Fault → Bool
  | none | some (.late _) => true
  | _ => false

/-- The commit that records a failure takes effect. -/
def finalCommit (d : Delivery σ) (retryable : Bool) : Bool :=
  !retryable && (d.faults .complete).isNone && takesEffect (d.faults .commit)

section

variable {d : Delivery σ} {rest : σ}

theorem settle_leaves : Preserves (Leaves false rest) (settle d effect) :=
  (preserves_attempt _ (ensures_emit fun _ => id) fun _ => id).bind fun _ => .pure fun _ => id

theorem giveBack_leaves : Preserves (Leaves false rest) (giveBack d reason) :=
  (preserves_attempt _ (ensures_rollback fun _ => id) fun _ => id).bind fun _ => settle_leaves

theorem commit_leaves (fault : Option Fault) : Ensures (Leaves (takesEffect fault) rest) (attempt fault commit)
    (fun _ => Leaves false rest) (Leaves false rest) := by
  have base : Ensures (Leaves true rest) commit (fun _ => Leaves false rest) (Leaves false rest) := by
    refine .of_returns fun w leaves => ?_
    rw [run_commit]
    cases back : w.rolledBack with
    | true => exact ⟨_,_,rfl,by simpa [Leaves,back] using leaves⟩
    | false => exact ⟨_,_,rfl,by simpa [Leaves,back,World.commit] using leaves⟩
  cases fault with
  | none => exact base
  | some fault =>
    cases fault with
    | crash => exact .throw fun _ => id
    | error text => exact .pure fun _ => id
    | late text => exact base.bind fun _ => .pure fun _ => id

theorem complete_leaves : Ensures (Leaves final rest) (complete key status payload processedAt)
    (fun result w => result = .ok () ∧ Leaves final rest w) onError :=
  .of_returns fun _ leaves => ⟨_,_,rfl,rfl,leaves⟩

theorem finish_leaves : Ensures (Leaves (finalCommit d false) rest) (finish d key status payload reason effect)
    (fun _ => Leaves false rest) (Leaves false rest) := by
  unfold finish
  cases fault : d.faults .complete with
  | none =>
    have last : finalCommit d false = takesEffect (d.faults .commit) := by simp [finalCommit,fault]
    rw [last]
    refine complete_leaves.bind fun result => .of_fact fun returned => ?_
    subst returned
    refine (commit_leaves _).bind fun result => ?_
    cases result with
    | error text => exact settle_leaves
    | ok _ => exact settle_leaves
  | some failure =>
    have last : finalCommit d false = false := by simp [finalCommit,fault]
    rw [last]
    have refused : Ensures (Leaves false rest) (attempt (some failure) (complete key status payload d.completedAt))
        (fun result w => (∃ text, result = .error text) ∧ Leaves false rest w) (Leaves false rest) := by
      cases failure with
      | crash => exact .throw fun _ => id
      | error text => exact .pure fun _ leaves => ⟨⟨text,rfl⟩,leaves⟩
      | late text => exact complete_leaves.bind fun _ => .pure fun _ leaves => ⟨⟨text,rfl⟩,leaves.2⟩
    refine refused.bind fun result => .of_fact fun ⟨text,same⟩ => ?_
    subst same
    exact giveBack_leaves

end

section

variable {store : Store σ} {d : Delivery σ} (encoding : Encoding)

theorem handle_leaves (failed : d.ended = .failed text retryable) (key : MessageKey) (rest : σ) :
    Ensures (Acting (finalCommit d retryable) d.actions rest) (handle encoding d key) (fun _ => Leaves false rest)
      (Leaves false rest) := by
  have called : Ensures (Acting (finalCommit d retryable) d.actions rest) (emit .handled)
    (fun _ => Acting (finalCommit d retryable) d.actions rest) (Leaves false rest) := ensures_emit fun _ => id
  refine called.bind fun _ => (actAll_leaves _).bind fun _ => ?_
  rw [failed]
  cases retryable with
  | true => exact giveBack_leaves
  | false => exact finish_leaves

/-- A delivery for a handler comes down to its `handle`, with nothing written yet. -/
theorem reached_run (reaches : Reaches store d command owner) :
    ∃ w, (handleDelivery encoding d).run (.opened store) = (handle encoding d (command.tenantId,command.messageId)).run w ∧
      Acting final d.actions (left final d.actions store.rest store.rest) w := by
  obtain ⟨decoded,⟨resolve,known⟩,⟨own,epoch⟩,begin,insert,absent⟩ := reaches
  refine ⟨(World.opened store).putRecord (command.tenantId,command.messageId) (some ⟨command.tenantId,command.messageId,
    some command.idempotencyKey,.pending,none,d.now,d.expiresAt⟩),?_,rfl⟩
  simp only [handleDelivery,decoded,resolve,known,attempt,pure_bind,own,epoch,process,begin,insert,if_true,
    ne_eq,not_true_eq_false,if_false]
  rw [EStateM.run_bind]
  simp only [getOrInsert,EStateM.run_bind,EStateM.run_get,World.opened,UnitOfWork.opened,absent]
  rfl

/-- What a failed delivery leaves is what its actions leave at the last commit. -/
theorem step_reached (failed : d.ended = .failed text retryable) (reaches : Reaches store d command owner) :
    (step encoding store d).rest = left (finalCommit d retryable) d.actions store.rest store.rest := by
  obtain ⟨w,ran,acting⟩ := reached_run encoding reaches
  have spec := handle_leaves encoding failed (command.tenantId,command.messageId)
    (left (finalCommit d retryable) d.actions store.rest store.rest)
  unfold step delivered
  rw [ran]
  split
  · exact spec.ok acting ‹_›
  · exact spec.error acting ‹_›

/-- The delivery comes to the handler, and a commit that takes effect finds one of its writes. -/
def Commits (store : Store σ) (d : Delivery σ) (retryable : Bool) : Prop :=
  (∃ command owner, Reaches store d command owner) ∧ takesWrite (finalCommit d retryable) d.actions false = true

/-- A handler that returns an error leaves nothing behind unless one of its writes is committed. With writes that
can be seen in the store, this is exact. -/
theorem failed_handler_leaves_nothing_iff (encoding : Encoding) (store : Store σ) (d : Delivery σ)
    (failed : d.ended = .failed text retryable) :
    (¬ Commits store d retryable → (step encoding store d).rest = store.rest) ∧
      ∀ size : σ → Nat, (∀ change, .write change ∈ d.actions → ∀ s, size s < size (change s)) →
        ((step encoding store d).rest = store.rest ↔ ¬ Commits store d retryable) := by
  have kept (none : ¬ Commits store d retryable) : (step encoding store d).rest = store.rest := by
    by_cases committed : .committed ∈ effects encoding store d
    · obtain ⟨command,owner,reaches⟩ := (delivered_sound encoding).reached (.inr committed)
      have clean : takesWrite (finalCommit d retryable) d.actions false = false := by
        simpa using fun taken => none ⟨⟨command,owner,reaches⟩,taken⟩
      rw [step_reached encoding failed reaches,left_unchanged clean fun _ => rfl]
    · rw [step_unchanged committed]
  refine ⟨kept,fun size visible => ⟨fun same ⟨⟨command,owner,reaches⟩,taken⟩ => ?_,kept⟩⟩
  have grown : size store.rest + (takesWrite (finalCommit d retryable) d.actions false).toNat ≤ _ :=
    left_size visible (Nat.le_refl (size store.rest))
  rw [← step_reached encoding failed reaches,same,taken] at grown
  exact absurd grown (Nat.not_succ_le_self _)

end

namespace Sample

/-- The handler writes a number and fails. -/
def failing (retryable : Bool) : Delivery Nat :=
  ⟨.ok command,8,some ⟨8,7,none⟩,[.write (· + 1)],.failed "refused" retryable,5,none,6,fun _ => none⟩

theorem retryable_write_undone : (step encoding ⟨fun _ => none,0⟩ (failing true)).rest = 0 :=
  ((failed_handler_leaves_nothing_iff encoding ⟨fun _ => none,0⟩ (failing true) rfl).2 id
    (by simp [failing])).mpr (by simp [Commits,finalCommit,failing,takesWrite])

/-- The write of a handler whose error may not be retried is committed. -/
theorem refused_write_committed : (failing false).ended = .failed "refused" false ∧
    (step encoding ⟨fun _ => none,0⟩ (failing false)).rest = 1 ∧
    effects encoding ⟨fun _ => none,0⟩ (failing false) = [.handled,.committed,.term "refused"] := ⟨rfl,rfl,rfl⟩

end Sample

end CheetahSignaling.Inbox
