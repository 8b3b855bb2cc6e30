import CheetahSignaling.Outcomes

/-! Transactions over any store. `working` is what the open transaction sees, `committed`
what is left when it is dropped. -/
namespace CheetahSignaling

structure UnitOfWork (σ : Type) where
  (committed working : σ)

namespace UnitOfWork

open Outcomes

variable {σ ε α : Type}

def opened (store : σ) : UnitOfWork σ := ⟨store,store⟩

/-- A call that fails as the argument says, before it has an effect. -/
def perform (failure : Option ε) (x : EStateM ε (UnitOfWork σ) α) : EStateM ε (UnitOfWork σ) α :=
  match failure with
  | some e => throw e
  | none => x

def read : EStateM ε (UnitOfWork σ) σ := fun u => .ok u.working u

def write (f : σ → σ) : EStateM ε (UnitOfWork σ) Unit := modify fun u => { u with working := f u.working }

def commit : EStateM ε (UnitOfWork σ) Unit := modify fun u => ⟨u.working,u.working⟩

def rollback : EStateM ε (UnitOfWork σ) Unit := modify fun u => ⟨u.committed,u.committed⟩

/-- The transaction has made `working` of `committed`. -/
def Holds (committed working : σ) (u : UnitOfWork σ) : Prop := u = ⟨committed,working⟩

def Uncommitted (committed : σ) (u : UnitOfWork σ) : Prop := u.committed = committed

section

variable {pre onError : UnitOfWork σ → Prop} {x : EStateM ε (UnitOfWork σ) α} {post : α → UnitOfWork σ → Prop}
  {committed working : σ}

theorem Holds.uncommitted (holds : Holds committed working u) : Uncommitted committed u := by
  rw [holds,Uncommitted]

theorem ensures_perform (failure : Option ε) (spec : Ensures pre x post onError)
    (failed : ∀ u, pre u → onError u) : Ensures pre (perform failure x) post onError := by
  cases failure with
  | none => exact spec
  | some e => exact .throw failed

theorem ensures_answer (failure : Option ε) (answer : α) :
    Ensures (Holds committed working) (perform failure (pure answer))
      (fun a u => a = answer ∧ Holds committed working u) (Uncommitted committed) :=
  ensures_perform failure (.pure fun _ holds => ⟨rfl,holds⟩) fun _ => Holds.uncommitted

theorem ensures_read : Ensures (Holds committed working) (read : EStateM ε (UnitOfWork σ) σ)
    (fun store u => store = working ∧ Holds committed working u) onError where
  ok start ran := by
    cases ran
    exact ⟨by rw [start],start⟩
  error start ran := by cases ran

theorem ensures_write : Ensures (Holds committed working) (write f : EStateM ε (UnitOfWork σ) Unit)
    (fun _ => Holds committed (f working)) onError :=
  .modify fun u start => by rw [start]; rfl

theorem ensures_commit : Ensures (Holds committed working) (commit : EStateM ε (UnitOfWork σ) Unit)
    (fun _ => Holds working working) onError :=
  .modify fun u start => by rw [start]; rfl

theorem ensures_rollback : Ensures (Holds committed working) (rollback : EStateM ε (UnitOfWork σ) Unit)
    (fun _ => Holds committed committed) onError :=
  .modify fun u start => by rw [start]; rfl

end

end UnitOfWork

end CheetahSignaling
