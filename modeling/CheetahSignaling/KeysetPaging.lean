import CheetahSignaling.SortedTable
import Mathlib.Data.List.Sort

/-! Reading a table page by page, where a page starts after the last key of the one before
and rows that were read may be replaced meanwhile. -/
namespace CheetahSignaling.Table

open List hiding after

variable {V K : Type} [LinearOrder K] {key : V → K}

def beyond (cursor : Option K) (k : K) : Bool := cursor.all (· < k)

/-- The rows a scan with this filter has still to read. -/
def remaining (t : Table key) (p : V → Bool) (cursor : Option K) : List V :=
  t.rows.filter fun v => p v && beyond cursor (key v)

structure Page (V K : Type) where
  items : List V
  nextCursor : Option K

/-- `LIMIT size + 1`: the row too many says that there is a next page. -/
def page (t : Table key) (size : Nat) (p : V → Bool) (cursor : Option K) : Page V K :=
  let rows := (t.remaining p cursor).take (size + 1)
  ⟨rows.take size,if size < rows.length then rows[size - 1]?.map key else none⟩

def replaceAll (t : Table key) (g : V → V) (rows : List V) : Table key := rows.foldl (fun t v => t.put (g v)) t

def mapRows (t : Table key) (f : V → V) (keeps : ∀ v, key (f v) = key v) : Table key where
  rows := t.rows.map f
  sorted := by
    rw [pairwise_map]
    simpa only [keeps] using t.sorted

section

variable {t : Table key} {p q : V → Bool} {cursor : Option K} {size : Nat} {g : V → V}

theorem ext_rows (same : ∀ v, v ∈ t.rows ↔ v ∈ t'.rows) : t = t' := by
  cases t with
  | mk rows sorted =>
    cases t' with
    | mk rows' sorted' =>
      obtain rfl := List.Pairwise.eq_of_mem_iff sorted sorted' same
      rfl

theorem filter_key (member : v ∈ t.rows) : (t.rows.filter fun u => key u = key v) = [v] := by
  apply List.Pairwise.eq_of_mem_iff (t.sorted.sublist filter_sublist) (pairwise_singleton _ v)
  intro u
  simp only [mem_filter,decide_eq_true_eq,mem_singleton]
  constructor
  · rintro ⟨found,same⟩
    exact t.unique found member same
  · rintro rfl
    exact ⟨member,rfl⟩

theorem remaining_sorted (t : Table key) (p : V → Bool) (cursor : Option K) :
    (t.remaining p cursor).Pairwise fun a b => key a < key b :=
  t.sorted.sublist filter_sublist

theorem mem_remaining : v ∈ t.remaining p cursor ↔ v ∈ t.rows ∧ p v = true ∧ beyond cursor (key v) = true := by
  simp [remaining]

theorem remaining_none : t.remaining p none = t.rows.filter p := by
  simp [remaining,beyond]

theorem filter_above (rows : List V) (sorted : rows.Pairwise fun a b => key a < key b) (n : Nat)
    (found : rows[n]? = some v) : (rows.filter fun u => key v < key u) = rows.drop (n + 1) := by
  induction rows generalizing n with
  | nil => simp at found
  | cons row rest ih =>
    obtain ⟨above,sorted⟩ := pairwise_cons.mp sorted
    cases n with
    | zero =>
      obtain rfl : row = v := by simpa using found
      simpa using above
    | succ n =>
      have here : rest[n]? = some v := by simpa using found
      have below : ¬ key v < key row := not_lt.mpr (above v (mem_of_getElem? here)).le
      simp [below,ih sorted n here]

theorem page_items (size : Nat) :
    (t.page size p cursor).items = (t.remaining p cursor).take size := by
  simp [page,take_take]

theorem page_nextCursor (positive : 0 < size) : (t.page size p cursor).nextCursor =
      if size < (t.remaining p cursor).length then (t.remaining p cursor)[size - 1]?.map key else none := by
  have counted : size < ((t.remaining p cursor).take (size + 1)).length ↔ size < (t.remaining p cursor).length := by
    rw [length_take]
    omega
  simp only [page,counted]
  rw [List.getElem?_take_of_lt (by omega)]

theorem page_last (positive : 0 < size) (last : (t.page size p cursor).nextCursor = none) :
    (t.page size p cursor).items = t.remaining p cursor := by
  rw [page_items]
  apply take_of_length_le
  by_contra more
  rw [page_nextCursor positive,if_pos (not_le.mp more),Option.map_eq_none_iff,List.getElem?_eq_none_iff] at last
  omega

theorem page_next (positive : 0 < size) (next : (t.page size p cursor).nextCursor = some c) :
    size < (t.remaining p cursor).length ∧ t.remaining p (some c) = (t.remaining p cursor).drop size ∧
      ∀ v ∈ (t.page size p cursor).items, key v ≤ c := by
  rw [page_nextCursor positive] at next
  split at next
  case isFalse => cases next
  case isTrue more =>
  obtain ⟨v,last,rfl⟩ := Option.map_eq_some_iff.mp next
  have sorted := t.remaining_sorted p cursor
  have behind := filter_above _ sorted _ last
  rw [Nat.sub_add_cancel positive] at behind
  refine ⟨more,?_,?_⟩
  · rw [← behind,remaining,remaining,filter_filter]
    apply filter_congr
    intro u _
    have reached := (mem_remaining.mp (mem_of_getElem? last)).2.2
    cases cursor with
    | none => simp [beyond,Bool.and_comm]
    | some start =>
      have start_lt : start < key v := by simpa [beyond] using reached
      by_cases above : key v < key u
      · simp [beyond,above,start_lt.trans above]
      · simp [beyond,above]
  intro u member
  rw [page_items] at member
  by_contra above
  have late : u ∈ (t.remaining p cursor).drop size := by
    rw [← behind]
    simpa using ⟨mem_of_mem_take member,not_le.mp above⟩
  exact disjoint_take_drop (sorted.imp fun less same => less.ne (congrArg key same)) le_rfl member late

theorem remaining_put (v : V) (read : beyond cursor (key v) = false) :
    (t.put v).remaining p cursor = t.remaining p cursor := by
  apply List.Pairwise.eq_of_mem_iff (remaining_sorted ..) (remaining_sorted ..)
  intro u
  rw [mem_remaining,mem_remaining,mem_put]
  constructor
  · rintro ⟨rfl | ⟨member,-⟩,selected,after⟩
    · simp [read] at after
    · exact ⟨member,selected,after⟩
  rintro ⟨member,selected,after⟩
  refine ⟨.inr ⟨member,fun same => ?_⟩,selected,after⟩
  rw [same,read] at after
  cases after

theorem remaining_replaceAll (keeps : ∀ v, key (g v) = key v) (rows : List V)
    (read : ∀ v ∈ rows, beyond cursor (key v) = false) :
    (t.replaceAll g rows).remaining p cursor = t.remaining p cursor := by
  induction rows generalizing t with
  | nil => rfl
  | cons v rest ih =>
    calc (t.replaceAll g (v :: rest)).remaining p cursor
        = (t.put (g v)).remaining p cursor := ih fun u member => read u (mem_cons_of_mem v member)
      _ = t.remaining p cursor := remaining_put (g v) (by rw [keeps]; exact read v mem_cons_self)

theorem replaceAll_append :
    t.replaceAll g (first ++ second) = (t.replaceAll g first).replaceAll g second :=
  foldl_append

theorem mem_replaceAll (keeps : ∀ v, key (g v) = key v) (rows : List V)
    (apart : rows.Pairwise fun a b => key a < key b) :
    u ∈ (t.replaceAll g rows).rows ↔ (∃ v ∈ rows, u = g v) ∨ u ∈ t.rows ∧ ∀ v ∈ rows, key u ≠ key v := by
  induction rows generalizing t with
  | nil => simp [replaceAll]
  | cons v rest ih =>
    obtain ⟨above,apart⟩ := pairwise_cons.mp apart
    have later (a : V) (member : a ∈ rest) : key (g v) ≠ key a := by
      rw [keeps]
      exact (above a member).ne
    rw [show t.replaceAll g (v :: rest) = (t.put (g v)).replaceAll g rest from rfl,ih apart,mem_put]
    constructor
    · rintro (⟨a,member,rfl⟩ | ⟨rfl | ⟨member,other⟩,others⟩)
      · exact .inl ⟨a,mem_cons_of_mem v member,rfl⟩
      · exact .inl ⟨v,mem_cons_self,rfl⟩
      refine .inr ⟨member,fun a listed => ?_⟩
      rcases mem_cons.mp listed with rfl | listed
      · rwa [keeps] at other
      · exact others a listed
    rintro (⟨a,listed,rfl⟩ | ⟨member,others⟩)
    · rcases mem_cons.mp listed with rfl | listed
      · exact .inr ⟨.inl rfl,later⟩
      · exact .inl ⟨a,listed,rfl⟩
    · refine .inr ⟨.inr ⟨member,?_⟩,fun a listed => others a (mem_cons_of_mem v listed)⟩
      rw [keeps]
      exact others v mem_cons_self

theorem replaceAll_filter (keeps : ∀ v, key (g v) = key v)
    (keeps' : ∀ v, key (if q v then g v else v) = key v) :
    t.replaceAll g (t.rows.filter q) = t.mapRows (fun v => if q v then g v else v) keeps' := by
  apply ext_rows
  intro u
  rw [mem_replaceAll keeps _ (t.sorted.sublist filter_sublist)]
  simp only [mapRows,mem_map,mem_filter]
  constructor
  · rintro (⟨v,⟨member,selected⟩,rfl⟩ | ⟨member,others⟩)
    · exact ⟨v,member,by simp [selected]⟩
    have kept : q u = false := by
      by_contra selected
      exact others u ⟨member,by simpa using selected⟩ rfl
    exact ⟨u,member,by simp [kept]⟩
  rintro ⟨v,member,rfl⟩
  by_cases selected : q v = true
  · exact .inl ⟨v,⟨member,selected⟩,by simp [selected]⟩
  rw [if_neg selected]
  refine .inr ⟨member,fun a listed same => ?_⟩
  rw [t.unique member listed.1 same] at selected
  exact selected listed.2

theorem find_mapRows (keeps : ∀ v, key (f v) = key v) :
    (t.mapRows f keeps).find k = (t.find k).map f := by
  cases found : t.find k with
  | none =>
    rw [find_eq_none] at found
    rw [Option.map_none,find_eq_none]
    intro u image
    obtain ⟨v,member,rfl⟩ := mem_map.mp image
    rw [keeps]
    exact found v member
  | some v =>
    obtain ⟨member,rfl⟩ := t.find_eq_some.mp found
    rw [Option.map_some,find_eq_some]
    exact ⟨mem_map_of_mem member,keeps v⟩

end

end CheetahSignaling.Table
