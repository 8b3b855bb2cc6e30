import Mathlib.Order.Basic
import Mathlib.Logic.Function.Basic

/-! Programs that are interleaved at their calls. A program is the tree of the calls it makes, each
with what it does after the reply; running it alone answers the calls one after the other, and
between two calls of one program any others may run. -/
namespace CheetahSignaling.Resumption

inductive Prog (Call : Type) (Reply : Call → Type) (α : Type) where
  | ret (result : α)
  | call (c : Call) (next : Reply c → Prog Call Reply α)

namespace Prog

variable {Call : Type} {Reply : Call → Type} {α β σ W : Type}

/-- Nothing else runs meanwhile. -/
def run (answer : (c : Call) → σ → Reply c × σ) : Prog Call Reply α → σ → α × σ
  | .ret result, s => (result,s)
  | .call c next, s =>
    let (reply,s) := answer c s
    run answer (next reply) s

def map (f : α → β) : Prog Call Reply α → Prog Call Reply β
  | .ret result => .ret (f result)
  | .call c next => .call c fun reply => map f (next reply)

variable [Preorder W] {pre : W → Call → Prop} {post : W → (c : Call) → Reply c → Prop}

def Holds (pre : W → Call → Prop) (post : W → (c : Call) → Reply c → Prop) : Prog Call Reply α → W → Prop
  | .ret _, _ => True
  | .call c next, w =>
    (∀ w', w ≤ w' → pre w' c) ∧ ∀ w' reply, w ≤ w' → post w' c reply → Holds pre post (next reply) w'

theorem Holds.mono {p : Prog Call Reply α} {w w' : W} (holds : p.Holds pre post w) (more : w ≤ w') :
    p.Holds pre post w' := by
  cases p with
  | ret result => trivial
  | call c next =>
    exact ⟨fun later known => holds.1 later (more.trans known),
      fun later reply known => holds.2 later reply (more.trans known)⟩

theorem Holds.map {p : Prog Call Reply α} {w : W} (f : α → β) (holds : p.Holds pre post w) :
    (p.map f).Holds pre post w := by
  induction p generalizing w with
  | ret result => trivial
  | call c next ih =>
    exact ⟨holds.1,fun later reply known replied => ih reply (holds.2 later reply known replied)⟩

theorem Holds.update {pool : Nat → Option (ι × Prog Call Reply α)} {pre : ι → W → Call → Prop} {w w' : W}
    (held : ∀ i, ∀ p ∈ pool i, p.2.Holds (pre p.1) post w) (more : w ≤ w') (rest : p.Holds (pre job) post w') (i : Nat) :
    ∀ j, ∀ q ∈ Function.update pool i (some (job,p)) j, q.2.Holds (pre q.1) post w' := by
  intro j q member
  by_cases same : j = i
  · subst same
    obtain rfl : (job,p) = q := by simpa using member
    exact rest
  · rw [Function.update_of_ne same] at member
    exact (held j q member).mono more

end Prog

end CheetahSignaling.Resumption
