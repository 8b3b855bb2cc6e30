import Mathlib.Logic.Basic

/-! Pre- and postconditions for programs with state and errors. The state a failure leaves is
described as well: a program that fails keeps what it wrote before. -/
namespace CheetahSignaling.Outcomes

theorem bind_eq_ok {f : α → Except ε β} (returned : (x >>= f) = .ok b) : ∃ a, x = .ok a ∧ f a = .ok b := by
  cases x with
  | error e => cases returned
  | ok a => exact ⟨a,rfl,returned⟩

theorem bind_eq_ok₂ {y : α → Except ε β} {f : α → β → Except ε γ} (returned : (x >>= fun a => y a >>= f a) = .ok c) :
    ∃ a, x = .ok a ∧ ∃ b, y a = .ok b ∧ f a b = .ok c :=
  (bind_eq_ok returned).imp fun _ => And.imp_right bind_eq_ok

theorem passed_of_ok [Decidable p] {x : Except ε α} (returned : (if p then .error e else x) = .ok a) : ¬p ∧ x = .ok a := by
  split at returned
  · cases returned
  · exact ⟨‹_›,returned⟩

/-- From `pre`, the program returns with `post` or fails in a state with `onError`. -/
structure Ensures (pre : σ → Prop) (x : EStateM ε σ α) (post : α → σ → Prop) (onError : σ → Prop) : Prop where
  ok : ∀ {s a s'}, pre s → x.run s = .ok a s' → post a s'
  error : ∀ {s e s'}, pre s → x.run s = .error e s' → onError s'

/-- An invariant that holds whether the program returns or fails. -/
abbrev Preserves (inv : σ → Prop) (x : EStateM ε σ α) : Prop := Ensures inv x (fun _ => inv) inv

section

variable {x : EStateM ε σ α}

theorem Ensures.bind (first : Ensures pre x mid onError)
    (rest : ∀ a, Ensures (mid a) (f a) final onError) : Ensures pre (x >>= f) final onError := by
  constructor
  · intro s b s' start ran
    rw [EStateM.run_bind] at ran
    split at ran
    · exact (rest _).ok (first.ok start ‹_›) ran
    · cases ran
  intro s e s' start ran
  rw [EStateM.run_bind] at ran
  split at ran
  · exact (rest _).error (first.ok start ‹_›) ran
  · cases ran
    exact first.error start ‹_›

theorem Ensures.weaken (spec : Ensures pre x post onError) (before : ∀ s, pre' s → pre s)
    (after : ∀ a s, post a s → mid a s) (failed : ∀ s, onError s → onError' s) :
    Ensures pre' x mid onError' where
  ok start ran := after _ _ (spec.ok (before _ start) ran)
  error start ran := failed _ (spec.error (before _ start) ran)

theorem Ensures.imp_error (spec : Ensures pre x post onError) (failed : ∀ s, onError s → onError' s) :
    Ensures pre x post onError' :=
  spec.weaken (fun _ => id) (fun _ _ holds => holds) failed

theorem Ensures.pure (holds : ∀ s, pre s → post a s) : Ensures pre (Pure.pure a : EStateM ε σ α) post onError where
  ok start ran := by cases ran; exact holds _ start
  error start ran := by cases ran

theorem Ensures.throw (holds : ∀ s, pre s → onError s) :
    Ensures pre (MonadExcept.throw e : EStateM ε σ α) post onError where
  ok start ran := by cases ran
  error start ran := by cases ran; exact holds _ start

theorem Ensures.modify (holds : ∀ s, pre s → after () (change s)) :
    Ensures pre (modify change : EStateM ε σ Unit) after onError where
  ok start ran := by cases ran; exact holds _ start
  error start ran := by cases ran

theorem Ensures.ite [Decidable p] (first : p → Ensures pre x post onError) (second : ¬ p → Ensures pre y post onError) :
    Ensures pre (if p then x else y) post onError := by
  split
  · exact first ‹_›
  · exact second ‹_›

theorem Ensures.of_fact (spec : fact → Ensures pre x post onError) :
    Ensures (fun s => fact ∧ pre s) x post onError where
  ok start ran := (spec start.1).ok start.2 ran
  error start ran := (spec start.1).error start.2 ran

theorem Ensures.of_returns (returns : ∀ s, pre s → ∃ a s', x.run s = .ok a s' ∧ post a s') :
    Ensures pre x post onError where
  ok start ran := by
    obtain ⟨a,s',returned,holds⟩ := returns _ start
    rw [ran] at returned
    cases returned
    exact holds
  error start ran := by
    obtain ⟨a,s',returned,-⟩ := returns _ start
    rw [ran] at returned
    cases returned

theorem Ensures.of_exists {start : ι → σ → Prop} (spec : ∀ i, Ensures (start i) x post onError) :
    Ensures (fun s => ∃ i, start i s) x post onError where
  ok begun ran := begun.elim fun i holds => (spec i).ok holds ran
  error begun ran := begun.elim fun i holds => (spec i).error holds ran

end

/-- A loop that returns with `inv` of everything it went through, or leaves early with `left`. -/
def Ends (inv : σ → List β → Prop) (left : ε → List β → Prop) (x : Except ε σ) (through : List β) : Prop :=
  match x with
  | .ok s => inv s through
  | .error e => left e through

theorem foldlM_ends {step : σ → α → Except ε σ} {out : α → List β}
    (keeps : ∀ s through a, inv s through → Ends inv left (step s a) (through ++ out a))
    (grows : ∀ e through more, left e through → left e (through ++ more)) (start : inv s through) (as : List α) :
    Ends inv left (as.foldlM step s) (through ++ as.flatMap out) := by
  induction as generalizing s through with
  | nil => simpa [Ends,pure,Except.pure] using start
  | cons a as ih =>
    have once := keeps s through a start
    rw [List.foldlM_cons,List.flatMap_cons,← List.append_assoc]
    cases stepped : step s a with
    | error e =>
      rw [stepped] at once
      exact grows _ _ _ once
    | ok s' =>
      rw [stepped] at once
      exact ih once

end CheetahSignaling.Outcomes
