import Mathlib.Order.Lattice
import Mathlib.Data.List.Pairwise

/-! Tables with a primary key: rows with distinct keys, kept in key order, so that a scan
ordered by the key is the list itself. `save` is the optimistic upsert: an existing row is
replaced only by a value exactly one revision ahead of it. -/
namespace CheetahSignaling

open List hiding after

structure Table {V K : Type} [LinearOrder K] (key : V → K) where
  rows : List V
  sorted : rows.Pairwise fun a b => key a < key b

namespace Table

variable {V K : Type} [LinearOrder K] {key : V → K}

def empty : Table key := ⟨[],.nil⟩

def find (t : Table key) (k : K) : Option V := t.rows.find? fun v => key v = k

def insertRow (key : V → K) (v : V) : List V → List V
  | [] => [v]
  | row :: rest =>
    if key v < key row then v :: row :: rest
    else if key v = key row then v :: rest
    else row :: insertRow key v rest

theorem mem_insertRow (v : V) (rows : List V) (sorted : rows.Pairwise fun a b => key a < key b) (w : V) :
    w ∈ insertRow key v rows ↔ w = v ∨ (w ∈ rows ∧ key w ≠ key v) := by
  induction rows with
  | nil => simp [insertRow]
  | cons row rest ih =>
    obtain ⟨above,sorted⟩ := pairwise_cons.mp sorted
    have beyond (b : V) (member : b ∈ rest) (le : key v ≤ key row) : key b ≠ key v :=
      (lt_of_le_of_lt le (above b member)).ne'
    simp only [insertRow]
    split
    · rename_i before
      have apart (b : V) (member : b ∈ row :: rest) : key b ≠ key v := by
        rcases mem_cons.mp member with rfl | member
        · exact before.ne'
        · exact beyond b member before.le
      simp only [mem_cons] at apart ⊢
      grind
    split
    · rename_i same
      have apart (b : V) (member : b ∈ rest) : key b ≠ key v := beyond b member same.le
      simp only [mem_cons]
      grind
    · rename_i other
      rw [mem_cons,ih sorted,mem_cons]
      grind

theorem insertRow_sorted (v : V) (rows : List V) (sorted : rows.Pairwise fun a b => key a < key b) :
    (insertRow key v rows).Pairwise fun a b => key a < key b := by
  induction rows with
  | nil => exact pairwise_singleton _ _
  | cons row rest ih =>
    obtain ⟨above,sorted'⟩ := pairwise_cons.mp sorted
    simp only [insertRow]
    split
    · rename_i before
      refine pairwise_cons.mpr ⟨?_,sorted⟩
      intro b member
      rcases mem_cons.mp member with rfl | member
      · exact before
      · exact before.trans (above b member)
    split
    · rename_i same
      exact pairwise_cons.mpr ⟨fun b member => same ▸ above b member,sorted'⟩
    rename_i after other
    refine pairwise_cons.mpr ⟨?_,ih sorted'⟩
    intro b member
    rcases (mem_insertRow v rest sorted' b).mp member with rfl | ⟨member,-⟩
    · exact lt_of_le_of_ne (not_lt.mp after) (Ne.symm other)
    · exact above b member

variable (t : Table key) (f : V → Option V)

def put (v : V) : Table key := ⟨insertRow key v t.rows,insertRow_sorted v t.rows t.sorted⟩

theorem mem_put : w ∈ (t.put v).rows ↔ w = v ∨ (w ∈ t.rows ∧ key w ≠ key v) :=
  mem_insertRow v t.rows t.sorted w

theorem unique (t : Table key) (left : a ∈ t.rows) (right : b ∈ t.rows) (same : key a = key b) : a = b := by
  have ordered := t.sorted
  generalize t.rows = rows at *
  induction rows with
  | nil => cases left
  | cons row rest ih =>
    obtain ⟨above,sorted⟩ := pairwise_cons.mp ordered
    rcases mem_cons.mp left with first | left <;> rcases mem_cons.mp right with second | right
    · rw [first,second]
    · exact absurd same (first ▸ above b right).ne
    · exact absurd same (second ▸ above a left).ne'
    · exact ih left right sorted

theorem find_eq_some : t.find k = some v ↔ v ∈ t.rows ∧ key v = k := by
  constructor
  · intro found
    exact ⟨mem_of_find?_eq_some found,by simpa using List.find?_some found⟩
  rintro ⟨member,rfl⟩
  cases found : t.find (key v) with
  | none => simpa using List.find?_eq_none.mp found v member
  | some w =>
    have same : key w = key v := by simpa using List.find?_some found
    rw [t.unique (mem_of_find?_eq_some found) member same]

theorem find_eq_none : t.find k = none ↔ ∀ v ∈ t.rows, key v ≠ k := by
  simp [find,List.find?_eq_none]

@[simp] theorem find_put_same (v : V) : (t.put v).find (key v) = some v :=
  (t.put v).find_eq_some.mpr ⟨t.mem_put.mpr (.inl rfl),rfl⟩

@[simp] theorem find_put_other (apart : k ≠ key v) : (t.put v).find k = t.find k := by
  cases found : t.find k with
  | none =>
    rw [find_eq_none] at found ⊢
    intro w member
    rcases t.mem_put.mp member with rfl | ⟨member,-⟩
    · exact apart.symm
    · exact found w member
  | some w =>
    obtain ⟨member,rfl⟩ := t.find_eq_some.mp found
    exact (t.put v).find_eq_some.mpr ⟨t.mem_put.mpr (.inr ⟨member,apart⟩),rfl⟩

def remove (k : K) : Table key := ⟨t.rows.filter fun v => key v ≠ k,t.sorted.filter _⟩

theorem mem_remove : v ∈ (t.remove k).rows ↔ v ∈ t.rows ∧ key v ≠ k := by
  simp [remove,mem_filter]

@[simp] theorem find_remove_same : (t.remove k).find k = none :=
  (t.remove k).find_eq_none.mpr fun _ member => (t.mem_remove.mp member).2

@[simp] theorem find_remove_other (apart : k ≠ gone) : (t.remove gone).find k = t.find k := by
  cases found : t.find k with
  | none =>
    rw [find_eq_none] at found ⊢
    exact fun v member => found v (t.mem_remove.mp member).1
  | some v =>
    obtain ⟨member,rfl⟩ := t.find_eq_some.mp found
    exact (t.remove gone).find_eq_some.mpr ⟨t.mem_remove.mpr ⟨member,apart⟩,rfl⟩

theorem rows_around_list (rows : List V) (sorted : rows.Pairwise fun a b => key a < key b) (k : K) :
    ∃ before after, rows = before ++ (rows.find? fun v => key v = k).toList ++ after ∧
      (∀ v, key v = k → insertRow key v rows = before ++ v :: after) ∧
      (rows.filter fun v => key v ≠ k) = before ++ after := by
  induction rows with
  | nil => exact ⟨[],[],rfl,fun v _ => rfl,rfl⟩
  | cons row rest ih =>
    obtain ⟨above,sorted⟩ := pairwise_cons.mp sorted
    rcases lt_trichotomy k (key row) with before | same | behind
    · have apart : ∀ v ∈ row :: rest, key v ≠ k :=
        forall_mem_cons.mpr ⟨before.ne',fun v member => (before.trans (above v member)).ne'⟩
      have absent : ((row :: rest).find? fun v => key v = k) = none := List.find?_eq_none.mpr (by simpa using apart)
      refine ⟨[],row :: rest,by rw [absent]; rfl,?_,filter_eq_self.mpr (by simpa using apart)⟩
      rintro v rfl
      simp only [insertRow,if_pos before,nil_append]
    · subst same
      have apart : ∀ v ∈ rest, key v ≠ key row := fun v member => (above v member).ne'
      refine ⟨[],rest,?_,?_,?_⟩
      · rw [List.find?_cons_of_pos (by simp)]
        rfl
      · intro v same
        simp only [insertRow,same,lt_irrefl,if_false,if_true,nil_append]
      · rw [filter_cons_of_neg (by simp)]
        exact filter_eq_self.mpr (by simpa using apart)
    obtain ⟨front,after,shape,put,removed⟩ := ih sorted
    refine ⟨row :: front,after,?_,?_,?_⟩
    · rw [List.find?_cons_of_neg (by simpa using behind.ne)]
      exact congrArg (row :: ·) shape
    · intro v same
      rw [insertRow,if_neg (same ▸ behind.not_gt),if_neg (same ▸ behind.ne'),put v same]
      rfl
    · rw [filter_cons_of_pos (by simpa using behind.ne),removed]
      rfl

theorem rows_around (k : K) :
    ∃ before after, t.rows = before ++ (t.find k).toList ++ after ∧ (∀ v, key v = k → (t.put v).rows = before ++ v :: after) ∧
      (t.remove k).rows = before ++ after :=
  rows_around_list t.rows t.sorted k

def dropWhile (t : Table key) (p : V → Bool) : Table key := ⟨t.rows.dropWhile p,t.sorted.sublist (dropWhile_sublist p)⟩

theorem mem_dropWhile_le (k : K) (member : v ∈ t.rows.dropWhile fun w => key w ≤ k) : k < key v := by
  have ordered := t.sorted
  generalize t.rows = rows at member ordered
  induction rows with
  | nil => cases member
  | cons row rest ih =>
    obtain ⟨above,sorted⟩ := pairwise_cons.mp ordered
    by_cases low : key row ≤ k
    · rw [dropWhile_cons_of_pos (by simpa using low)] at member
      exact ih member sorted
    rw [dropWhile_cons_of_neg (by simpa using low)] at member
    rcases mem_cons.mp member with rfl | member
    · exact not_le.mp low
    · exact (not_le.mp low).trans (above v member)

def keep (keeps : ∀ v, ∀ w ∈ f v, key w = key v) : Table key where
  rows := t.rows.filterMap f
  sorted := by
    refine List.Pairwise.filterMap f (fun a b less a' here b' there => ?_) t.sorted
    rw [keeps a a' here,keeps b b' there]
    exact less

theorem find_keep (keeps : ∀ v, ∀ w ∈ f v, key w = key v) (k : K) : (t.keep f keeps).find k = (t.find k).bind f := by
  cases found : (t.keep f keeps).find k with
  | some w =>
    obtain ⟨member,same⟩ := (t.keep f keeps).find_eq_some.mp found
    obtain ⟨v,member,image⟩ := mem_filterMap.mp member
    rw [t.find_eq_some.mpr ⟨member,(keeps v w image).symm.trans same⟩,Option.bind_some,image]
  | none =>
    rw [find_eq_none] at found
    cases old : t.find k with
    | none => rfl
    | some v =>
      obtain ⟨member,same⟩ := t.find_eq_some.mp old
      cases image : f v with
      | none => rw [Option.bind_some,image]
      | some w => exact absurd ((keeps v w image).trans same) (found w (mem_filterMap.mpr ⟨v,member,image⟩))

/-- The error carries the revision found. -/
def save (revision : V → Nat) (t : Table key) (v : V) : Except Nat (Table key) :=
  match t.find (key v) with
  | none => .ok (t.put v)
  | some stored => if revision stored + 1 = revision v then .ok (t.put v) else .error (revision stored)

theorem save_ok {revision : V → Nat} {t t' : Table key} (saved : t.save revision v = .ok t') : t' = t.put v := by
  unfold save at saved
  split at saved
  · cases saved; rfl
  · split at saved
    · cases saved; rfl
    · cases saved

end Table

end CheetahSignaling
