import CheetahSignaling.KeyMap
import Mathlib.Algebra.GroupWithZero.Nat

/-! One queue for each key. The weight of the queues counts their values and the keys that have one, so
it falls when a value is taken and when an empty queue is dropped. -/
namespace CheetahSignaling.KeyedQueues

open List

variable {K V : Type}

def weightOf (entries : List (Sigma fun _ : K => List V)) : Nat := (entries.map fun entry => entry.2.length + 1).sum

def weight (m : KeyMap K (List V)) : Nat := weightOf m.entries

theorem weight_eq_zero : weight m = 0 ↔ m.entries = [] := by
  unfold weight weightOf
  cases m.entries <;> simp

variable [DecidableEq K]

def queue (m : KeyMap K (List V)) (k : K) : List V := (m.lookup k).getD []

theorem queue_insert (k : K) :
    queue (m.insert key values) k = if k = key then values else queue m k := by
  unfold queue
  split
  · rename_i same
    rw [same,AList.lookup_insert]
    rfl
  · rename_i other
    rw [AList.lookup_insert_ne other]

theorem queue_erase (k : K) : queue (m.erase key) k = if k = key then [] else queue m k := by
  unfold queue
  split
  · rename_i same
    rw [same,AList.lookup_erase]
    rfl
  · rename_i other
    rw [AList.lookup_erase_ne other]

theorem weightOf_kerase {entries : List (Sigma fun _ : K => List V)} (found : entries.dlookup key = some values) :
    weightOf (entries.kerase key) + (values.length + 1) = weightOf entries := by
  induction entries with
  | nil => cases found
  | cons entry rest ih =>
    obtain ⟨k,v⟩ := entry
    by_cases same : key = k
    · subst same
      rw [dlookup_cons_eq] at found
      cases found
      have dropped : List.kerase key (⟨key,values⟩ :: rest) = rest := kerase_cons_eq rfl
      rw [dropped,weightOf,weightOf,map_cons,sum_cons,Nat.add_comm]
    rw [dlookup_cons_ne _ _ same] at found
    have shorter := ih found
    rw [kerase_cons_ne same]
    simp only [weightOf,map_cons,sum_cons] at shorter ⊢
    omega

theorem weight_erase (m : KeyMap K (List V)) (found : m.lookup key = some values) :
    weight (m.erase key) + (values.length + 1) = weight m :=
  weightOf_kerase found

theorem weight_erase_le (key : K) : weight (m.erase key) ≤ weight m := by
  cases found : m.lookup key with
  | some values =>
    have lighter := weight_erase m found
    omega
  | none =>
    have same : (m.erase key).entries = m.entries := kerase_of_notMem_keys (AList.lookup_eq_none.mp found)
    rw [weight,weight,same]

theorem weight_insert (m : KeyMap K (List V)) (found : m.lookup key = some values) (left : List V) :
    weight (m.insert key left) + values.length = weight m + left.length := by
  have erased := weight_erase m found
  have split : weight (m.insert key left) = left.length + 1 + weight (m.erase key) := by
    rfl
  omega

theorem weight_insert_le (key : K) :
    weight (m.insert key (queue m key ++ [value])) ≤ weight m + 2 := by
  cases found : m.lookup key with
  | some values =>
    have grown := weight_insert m found (queue m key ++ [value])
    rw [queue,found] at grown ⊢
    simp only [Option.getD_some,length_append,length_cons,length_nil] at grown ⊢
    omega
  | none =>
    have absent : key ∉ m := AList.lookup_eq_none.mp found
    rw [queue,found]
    simp [weight,weightOf,kerase_of_notMem_keys absent]
    omega

end CheetahSignaling.KeyedQueues
