import Mathlib.Data.List.Basic

/-! Finite runs of a deterministic system whose actions an adversary chooses. A run
is *guarded* when each action meets a condition in the state in which it is taken;
the condition may speak about the action and that state, never about the outcome. -/
namespace CheetahSignaling.GuardedRun

open List hiding after

def execute (step : σ → α → σ) : σ → List α → σ
  | s, [] => s
  | s, action :: rest => execute step (step s action) rest

/-- Every action of the run is allowed where it happens. -/
def Guarded (step : σ → α → σ) (ok : σ → α → Prop) : σ → List α → Prop
  | _, [] => True
  | s, action :: rest => ok s action ∧ Guarded step ok (step s action) rest

instance decidableGuarded (step : σ → α → σ) (ok : σ → α → Prop) [∀ s a, Decidable (ok s a)] :
    (s : σ) → (run : List α) → Decidable (Guarded step ok s run)
  | _, [] => .isTrue trivial
  | s, action :: rest =>
    have := decidableGuarded step ok (step s action) rest
    inferInstanceAs (Decidable (ok s action ∧ Guarded step ok (step s action) rest))

variable {ok : σ → α → Prop} {I : σ → Prop}

/-- The run rule under a guard on every action. -/
theorem guarded_invariant (preserved : ∀ s action, I s → ok s action → I (step s action)) (start : I s)
    (guarded : Guarded step ok s run) : I (execute step s run) := by
  induction run generalizing s with
  | nil => exact start
  | cons action rest ih => exact ih (preserved s action start guarded.1) guarded.2

theorem Guarded.imp (weaker : ∀ s action, ok s action → ok' s action) (guarded : Guarded step ok s run) :
    Guarded step ok' s run := by
  induction run generalizing s with
  | nil => trivial
  | cons action rest ih => exact ⟨weaker s action guarded.1,ih guarded.2⟩

theorem Guarded.and_actions {p : α → Prop} (run : List α) (guarded : Guarded step ok s run) (all : ∀ a ∈ run, p a) :
    Guarded step (fun s a => p a ∧ ok s a) s run := by
  induction run generalizing s with
  | nil => trivial
  | cons action rest ih =>
    obtain ⟨first,others⟩ := forall_mem_cons.mp all
    exact ⟨⟨first,guarded.1⟩,ih guarded.2 others⟩

/-- The run rule: what every step preserves holds after every run. -/
theorem execute_invariant (preserved : ∀ s action, I s → I (step s action))
    (run : List α) (start : I s) : I (execute step s run) := by
  induction run generalizing s with
  | nil => exact start
  | cons action rest ih => exact ih (preserved s action start)

/-- A property that no step restores holds at the end exactly if each step keeps it. -/
theorem holds_iff_guarded {P : σ → Prop} (preserved : ∀ s action, I s → I (step s action))
    (lost : ∀ s action, I s → P (step s action) → P s) (keeps : ∀ s action, I s → P s → (P (step s action) ↔ ok s action))
    (run : List α) (start : I s) : P (execute step s run) ↔ P s ∧ Guarded step ok s run := by
  induction run generalizing s with
  | nil => exact (and_iff_left trivial).symm
  | cons action rest ih =>
    refine (ih (preserved s action start)).trans ⟨fun ⟨holds,later⟩ => ?_,fun ⟨holds,now,later⟩ => ?_⟩
    · have before := lost s action start holds
      exact ⟨before,(keeps s action start before).mp holds,later⟩
    · exact ⟨(keeps s action start holds).mpr now,later⟩

theorem execute_append (step : σ → α → σ) (s : σ) (first : List α) :
    execute step s (first ++ rest) = execute step (execute step s first) rest := by
  induction first generalizing s with
  | nil => rfl
  | cons action first ih => exact ih (step s action)

theorem guarded_append :
    Guarded step ok s (first ++ rest) ↔ Guarded step ok s first ∧ Guarded step ok (execute step s first) rest := by
  induction first generalizing s with
  | nil => exact (and_iff_right trivial).symm
  | cons action first ih => exact (and_congr_right fun _ => ih).trans and_assoc.symm

def outputs (step : σ → α → σ) (out : σ → α → β) : σ → List α → List (α × β)
  | _, [] => []
  | s, action :: rest => (action,out s action) :: outputs step out (step s action) rest

theorem outputs_append (s : σ) :
    outputs step out s (first ++ rest) = outputs step out s first ++ outputs step out (execute step s first) rest := by
  induction first generalizing s with
  | nil => rfl
  | cons action first ih => exact congrArg _ (ih (step s action))

theorem outputs_actions (run : List α) : (outputs step out s run).map Prod.fst = run := by
  induction run generalizing s with
  | nil => rfl
  | cons action rest ih => rw [outputs,map_cons,ih]

/-- An output was given out in the state that the actions before it led to. -/
theorem outputs_split (split : outputs step out s run = before ++ (action,b) :: after) :
    ∃ first rest, run = first ++ action :: rest ∧ before = outputs step out s first ∧
      b = out (execute step s first) action := by
  induction run generalizing s before with
  | nil => simp [outputs] at split
  | cons head tail ih =>
    cases before with
    | nil =>
      obtain ⟨⟨rfl,rfl⟩,-⟩ := split
      exact ⟨[],tail,rfl,rfl,rfl⟩
    | cons entry before =>
      simp only [outputs,cons_append,List.cons.injEq] at split
      obtain ⟨rfl,split⟩ := split
      obtain ⟨first,rest,rfl,rfl,rfl⟩ := ih split
      exact ⟨head :: first,rest,rfl,rfl,rfl⟩

def emissions (step : σ → α → σ) (emit : σ → α → List β) : σ → List α → List β
  | _, [] => []
  | s, action :: rest => emit s action ++ emissions step emit (step s action) rest

theorem emissions_append (s : σ) (first rest : List α) :
    emissions step emit s (first ++ rest) = emissions step emit s first ++ emissions step emit (execute step s first) rest := by
  induction first generalizing s with
  | nil => rfl
  | cons action first ih => exact (congrArg _ (ih (step s action))).trans (append_assoc _ _ _).symm

theorem filterMap_emissions (s : σ) (run : List α) :
    (emissions step emit s run).filterMap f = emissions step (fun s action => (emit s action).filterMap f) s run := by
  induction run generalizing s with
  | nil => rfl
  | cons action rest ih => exact filterMap_append.trans (congrArg _ (ih (step s action)))

theorem guarded_of_all {p : α → Prop} (run : List α) (all : ∀ action ∈ run, p action) :
    Guarded step (fun _ action => p action) s run := by
  induction run generalizing s with
  | nil => trivial
  | cons action rest ih =>
    obtain ⟨first,others⟩ := forall_mem_cons.mp all
    exact ⟨first,ih others⟩

/-- A system whose state remembers what it emitted, so that what it emits later is larger. The
state may forget a value once nothing more will be compared with it. -/
structure Remembers [LT β] (step : σ → α → σ) (ok : σ → α → Prop) (I : σ → Prop) (emit : σ → α → List β)
    (Seen : β → σ → Prop) : Prop where
  preserved : ∀ s action, I s → ok s action → I (step s action)
  kept : ∀ s action n, I s → ok s action → Seen n s → Seen n (step s action)
  larger : ∀ s action n, I s → ok s action → Seen n s → ∀ k ∈ emit s action, n < k
  rising : ∀ s action, I s → ok s action → (emit s action).Pairwise (· < ·)
  recorded : ∀ s action, I s → ok s action → ∀ n ∈ emit s action, Seen n (step s action)

namespace Remembers

variable [LT β] {Seen : β → σ → Prop}

variable (remembers : Remembers step ok I emit Seen) (run : List α) (start : I s) (guarded : Guarded step ok s run)
include remembers start guarded

theorem emissions_above (seen : Seen n s) : ∀ k ∈ emissions step emit s run, n < k := by
  induction run generalizing s with
  | nil => exact fun k member => absurd member not_mem_nil
  | cons action rest ih =>
    intro k member
    rcases mem_append.mp member with here | later
    · exact remembers.larger s action n start guarded.1 seen k here
    · exact ih (remembers.preserved s action start guarded.1) guarded.2 (remembers.kept s action n start guarded.1 seen) k later

theorem emissions_rising : (emissions step emit s run).Pairwise (· < ·) := by
  induction run generalizing s with
  | nil => exact .nil
  | cons action rest ih =>
    have after := remembers.preserved s action start guarded.1
    refine pairwise_append.mpr ⟨remembers.rising s action start guarded.1,ih after guarded.2,?_⟩
    intro n here
    exact remembers.emissions_above rest after guarded.2 (remembers.recorded s action start guarded.1 n here)

end Remembers

end CheetahSignaling.GuardedRun
