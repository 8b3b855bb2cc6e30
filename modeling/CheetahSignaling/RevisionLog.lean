import Mathlib.Logic.Function.Basic
import Mathlib.Logic.Relation

/-! Rows with a revision, and a log of what happens to them. A row is created at revision 0, a change
moves it to the next revision, and it may be removed; each appends an entry with the row's revision
under the row's reference. Rows may share a reference. The log numbers every reference in rising
order exactly if nothing was removed and no reference was created twice. -/
namespace CheetahSignaling.RevisionLog

open List Function

inductive Change where
  | created | changed | removed
  deriving DecidableEq

structure Entry (R : Type) where
  ref : R
  sequence : Nat
  change : Change

structure Ledger (K R : Type) where
  rows : K → Option Nat
  log : List (Entry R)

def empty : Ledger K R := ⟨fun _ => none,[]⟩

def Rising (log : List (Entry R)) : Prop := log.Pairwise fun a b => a.ref = b.ref → a.sequence < b.sequence

/-- Nothing is removed, and nothing created twice. -/
structure Plain (log : List (Entry R)) : Prop where
  kept : ∀ e ∈ log, e.change ≠ .removed
  once : log.Pairwise fun a b => a.change = .created → b.change = .created → a.ref ≠ b.ref

theorem pairwise_snoc : (log ++ [e]).Pairwise r ↔ log.Pairwise r ∧ ∀ a ∈ log, r a e := by
  simp [pairwise_append]

theorem rising_snoc {e : Entry R} :
    Rising (log ++ [e]) ↔ Rising log ∧ ∀ a ∈ log, a.ref = e.ref → a.sequence < e.sequence := pairwise_snoc

theorem plain_snoc {e : Entry R} : Plain (log ++ [e]) ↔
      Plain log ∧ e.change ≠ .removed ∧ ∀ a ∈ log, a.change = .created → e.change = .created → a.ref ≠ e.ref := by
  constructor
  · rintro ⟨kept,once⟩
    obtain ⟨before,apart⟩ := pairwise_snoc.mp once
    exact ⟨⟨fun a member => kept a (mem_append_left _ member),before⟩,kept e (by simp),apart⟩
  rintro ⟨⟨kept,once⟩,last,apart⟩
  refine ⟨fun a member => ?_,pairwise_snoc.mpr ⟨once,apart⟩⟩
  rcases mem_append.mp member with before | own
  · exact kept a before
  · exact mem_singleton.mp own ▸ last

section Moves

variable (ref : K → R)

/-- What the log says whatever happened. -/
structure Sound (l : Ledger K R) : Prop where
  /-- The entry that brought a row to its revision is in the log. -/
  last : ∀ key revision, l.rows key = some revision → ∃ e ∈ l.log, e.ref = ref key ∧ e.sequence = revision
  /-- A removal repeats a number, and a creation starts again from 0. -/
  plain : Rising l.log → Plain l.log

/-- What it says if nothing was removed and no reference was created twice. -/
structure Ordered (l : Ledger K R) : Prop where
  rising : Rising l.log
  bound : ∀ key revision, l.rows key = some revision → ∀ e ∈ l.log, e.ref = ref key → e.sequence ≤ revision
  origin : ∀ e ∈ l.log, ∃ first ∈ l.log, first.change = .created ∧ first.ref = e.ref
  single : ∀ key key' revision revision', l.rows key = some revision → l.rows key' = some revision' →
    ref key = ref key' → key = key'

variable {ref}

theorem Ordered.fresh (ordered : Ordered ref l) (first : ∀ a ∈ l.log, a.change = .created → a.ref ≠ r) :
    ∀ a ∈ l.log, a.ref ≠ r := by
  intro a member same
  obtain ⟨creation,logged,created,shared⟩ := ordered.origin a member
  exact first creation logged created (shared.trans same)

variable [DecidableEq K] (ref)

inductive Move (l : Ledger K R) : Ledger K R → Prop
  | create (key : K) (absent : l.rows key = none) :
      Move l ⟨update l.rows key (some 0),l.log ++ [⟨ref key,0,.created⟩]⟩
  | change (key : K) (revision : Nat) (stored : l.rows key = some revision) :
      Move l ⟨update l.rows key (some (revision + 1)),l.log ++ [⟨ref key,revision + 1,.changed⟩]⟩
  | remove (key : K) (revision : Nat) (stored : l.rows key = some revision) :
      Move l ⟨update l.rows key none,l.log ++ [⟨ref key,revision,.removed⟩]⟩

variable {ref}

theorem update_some {rows : K → Option V} (found : update rows key value other = some v) :
    (other = key ∧ value = some v) ∨ (other ≠ key ∧ rows other = some v) := by
  by_cases same : other = key
  · subst same
    rw [update_self] at found
    exact .inl ⟨rfl,found⟩
  · rw [update_of_ne same] at found
    exact .inr ⟨same,found⟩

theorem update_isSome {rows : K → Option V} (stored : (rows other).isSome) : (update rows key (some v) other).isSome := by
  by_cases same : other = key
  · rw [same,update_self]
    rfl
  · rwa [update_of_ne same]

theorem Sound.last_snoc (sound : Sound ref l) (own : e.ref = ref key)
    (number : ∀ revision, value = some revision → e.sequence = revision) (other : K) (revision : Nat)
    (found : update l.rows key value other = some revision) :
    ∃ a ∈ l.log ++ [e], a.ref = ref other ∧ a.sequence = revision := by
  rcases update_some found with ⟨rfl,new⟩ | ⟨-,old⟩
  · exact ⟨e,by simp,own,number revision new⟩
  · obtain ⟨a,member,same,count⟩ := sound.last other revision old
    exact ⟨a,mem_append_left _ member,same,count⟩

/-- A move keeps the log sound. -/
theorem Sound.move (sound : Sound ref l) (move : Move ref l l') : Sound ref l' := by
  cases move with
  | create key absent =>
    refine ⟨sound.last_snoc rfl fun _ new => Option.some.inj new,fun rising => ?_⟩
    obtain ⟨before,above⟩ := rising_snoc.mp rising
    refine plain_snoc.mpr ⟨sound.plain before,nofun,fun a member _ _ same => ?_⟩
    exact Nat.not_lt_zero _ (above a member same)
  | change key revision stored =>
    refine ⟨sound.last_snoc rfl fun _ new => Option.some.inj new,fun rising => ?_⟩
    exact plain_snoc.mpr ⟨sound.plain (rising_snoc.mp rising).1,nofun,nofun⟩
  | remove key revision stored =>
    refine ⟨sound.last_snoc rfl nofun,fun rising => ?_⟩
    obtain ⟨a,member,same,count⟩ := sound.last key revision stored
    exact absurd ((rising_snoc.mp rising).2 a member same) (count ▸ Nat.lt_irrefl revision)

namespace Ordered

theorem create (ordered : Ordered ref l) (sound : Sound ref l) (first : ∀ a ∈ l.log, a.change = .created → a.ref ≠ ref key) :
    Ordered ref ⟨update l.rows key (some 0),l.log ++ [⟨ref key,0,.created⟩]⟩ := by
  have fresh := ordered.fresh first
  have unshared {other : K} {revision : Nat} (stored : l.rows other = some revision) : ref other ≠ ref key := by
    obtain ⟨a,member,same,-⟩ := sound.last other revision stored
    exact same ▸ fresh a member
  refine ⟨rising_snoc.mpr ⟨ordered.rising,fun a member same => absurd same (fresh a member)⟩,?_,?_,?_⟩
  · intro other revision found a member same
    rcases update_some found with ⟨rfl,new⟩ | ⟨-,old⟩ <;> rcases mem_append.mp member with before | own
    · exact absurd same (fresh a before)
    · cases mem_singleton.mp own
      exact Nat.zero_le revision
    · exact ordered.bound other revision old a before same
    · cases mem_singleton.mp own
      exact absurd same.symm (unshared old)
  · intro a member
    rcases mem_append.mp member with before | own
    · obtain ⟨creation,logged,created,shared⟩ := ordered.origin a before
      exact ⟨creation,mem_append_left _ logged,created,shared⟩
    · cases mem_singleton.mp own
      exact ⟨_,by simp,rfl,rfl⟩
  intro one two m n left right same
  rcases update_some left with ⟨rfl,-⟩ | ⟨-,old⟩ <;> rcases update_some right with ⟨rfl,-⟩ | ⟨-,old'⟩
  · rfl
  · exact absurd same.symm (unshared old')
  · exact absurd same (unshared old)
  · exact ordered.single one two m n old old' same

theorem change (ordered : Ordered ref l) (sound : Sound ref l) (stored : l.rows key = some revision) :
    Ordered ref ⟨update l.rows key (some (revision + 1)),l.log ++ [⟨ref key,revision + 1,.changed⟩]⟩ := by
  have below (a : Entry R) (member : a ∈ l.log) (same : a.ref = ref key) : a.sequence ≤ revision :=
    ordered.bound key revision stored a member same
  have stays {other : K} {n : Nat} (found : update l.rows key (some (revision + 1)) other = some n) :
      ∃ m, l.rows other = some m := by
    rcases update_some found with ⟨rfl,-⟩ | ⟨-,old⟩
    · exact ⟨revision,stored⟩
    · exact ⟨n,old⟩
  refine ⟨rising_snoc.mpr ⟨ordered.rising,fun a member same => Nat.lt_succ_of_le (below a member same)⟩,?_,?_,?_⟩
  · intro other n found a member same
    rcases update_some found with ⟨rfl,new⟩ | ⟨apart,old⟩ <;> rcases mem_append.mp member with before | own
    · exact Option.some.inj new ▸ Nat.le_succ_of_le (below a before same)
    · cases mem_singleton.mp own
      exact Nat.le_of_eq (Option.some.inj new)
    · exact ordered.bound other n old a before same
    · cases mem_singleton.mp own
      exact absurd (ordered.single key other revision n stored old same).symm apart
  · intro a member
    rcases mem_append.mp member with before | own
    · obtain ⟨creation,logged,created,shared⟩ := ordered.origin a before
      exact ⟨creation,mem_append_left _ logged,created,shared⟩
    cases mem_singleton.mp own
    obtain ⟨a,logged,same,-⟩ := sound.last key revision stored
    obtain ⟨creation,early,created,shared⟩ := ordered.origin a logged
    exact ⟨creation,mem_append_left _ early,created,shared.trans same⟩
  intro one two m n left right same
  obtain ⟨m',old⟩ := stays left
  obtain ⟨n',old'⟩ := stays right
  exact ordered.single one two m' n' old old' same

/-- A move keeps the log in order as long as it is plain. -/
theorem move (ordered : Plain l.log → Ordered ref l) (sound : Sound ref l) (move : Move ref l l') (plain : Plain l'.log) :
    Ordered ref l' := by
  cases move with
  | create key absent =>
    obtain ⟨before,-,apart⟩ := plain_snoc.mp plain
    exact (ordered before).create sound fun a member created => apart a member created rfl
  | change key revision stored => exact (ordered (plain_snoc.mp plain).1).change sound stored
  | remove key revision stored => exact absurd rfl (plain_snoc.mp plain).2.1

end Ordered

theorem reachable (moves : Relation.ReflTransGen (Move ref) empty l) : Sound ref l ∧ (Plain l.log → Ordered ref l) := by
  induction moves with
  | refl => exact ⟨⟨nofun,fun _ => ⟨nofun,.nil⟩⟩,fun _ => ⟨.nil,nofun,nofun,nofun⟩⟩
  | tail _ move ih => exact ⟨ih.1.move move,Ordered.move ih.2 ih.1 move⟩

theorem Rising.before (moves : Relation.ReflTransGen (Move ref) l l') (rising : Rising l'.log) : Rising l.log := by
  induction moves with
  | refl => exact rising
  | tail _ move ih => cases move <;> exact ih (rising_snoc.mp rising).1

/-- While nothing is removed, what the log tells of has its row. -/
theorem standing (moves : Relation.ReflTransGen (Move ref) empty l) (kept : ∀ e ∈ l.log, e.change ≠ .removed) :
    ∀ e ∈ l.log, ∃ key revision, l.rows key = some revision ∧ ref key = e.ref := by
  induction moves with
  | refl => exact nofun
  | tail _ move ih =>
    cases move with
    | remove key revision stored => exact absurd rfl (kept _ (mem_append_right _ (mem_singleton_self _)))
    | create key | change key =>
      intro e member
      rcases mem_append.mp member with before | own
      · obtain ⟨other,revision,stored,same⟩ := ih (fun e member => kept e (mem_append_left _ member)) e before
        by_cases written : other = key
        · exact ⟨key,_,update_self ..,written ▸ same⟩
        · exact ⟨other,revision,(update_of_ne written ..).trans stored,same⟩
      · cases mem_singleton.mp own
        exact ⟨key,_,update_self ..,rfl⟩

/-- No two rows share a reference. -/
def Single (ref : K → R) (rows : K → Option Nat) : Prop :=
  ∀ key key', (rows key).isSome → (rows key').isSome → ref key = ref key' → key = key'

theorem Single.before (single : Single ref (update rows key (some v))) : Single ref rows :=
  fun one two left right => single one two (update_isSome left) (update_isSome right)

theorem plain_of_single (moves : Relation.ReflTransGen (Move ref) empty l) (kept : ∀ e ∈ l.log, e.change ≠ .removed)
    (single : Single ref l.rows) : Plain l.log := by
  induction moves with
  | refl => exact ⟨nofun,.nil⟩
  | tail earlier move ih =>
    cases move with
    | remove key revision stored => exact absurd rfl (kept _ (mem_append_right _ (mem_singleton_self _)))
    | change key revision stored =>
      exact plain_snoc.mpr ⟨ih (fun e member => kept e (mem_append_left _ member)) single.before,nofun,nofun⟩
    | create key absent =>
      have before := fun e member => kept e (mem_append_left _ member)
      refine plain_snoc.mpr ⟨ih before single.before,nofun,fun a member _ _ same => ?_⟩
      -- the row of the earlier creation is still there, beside the new one
      obtain ⟨other,revision,stored,shared⟩ := standing earlier before a member
      have both := single other key (update_isSome (Option.isSome_of_eq_some stored)) (Option.isSome_of_eq_some (update_self ..))
      cases both (shared.trans same)
      cases absent.symm.trans stored

/-- The numbers rise exactly if nothing was removed and no two rows share a reference. -/
theorem rising_iff (moves : Relation.ReflTransGen (Move ref) empty l) :
    Rising l.log ↔ (∀ e ∈ l.log, e.change ≠ .removed) ∧ Single ref l.rows := by
  obtain ⟨sound,ordered⟩ := reachable moves
  refine ⟨fun rising => ?_,fun ⟨kept,single⟩ => (ordered (plain_of_single moves kept single)).rising⟩
  have plain := sound.plain rising
  refine ⟨plain.kept,fun key key' left right => ?_⟩
  obtain ⟨revision,stored⟩ := Option.isSome_iff_exists.mp left
  obtain ⟨revision',stored'⟩ := Option.isSome_iff_exists.mp right
  exact (ordered plain).single key key' revision revision' stored stored'

end Moves

end CheetahSignaling.RevisionLog
