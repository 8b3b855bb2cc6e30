import Mathlib.Data.List.MinMax
import Mathlib.Data.Prod.Lex

/-! The element of a list with the least key. Where the key tells the elements apart, the choice is
a function of the set: a new element can only take it over, and only the loss of the chosen one moves
it. A choice among the preferred elements, if there are any, is a choice by a longer key. -/
namespace CheetahSignaling.LeastChoice

open List

variable {V K : Type} [LinearOrder K] {key : V → K} {l l' : List V}

def Told (key : V → K) (l : List V) : Prop := ∀ a ∈ l, ∀ b ∈ l, key a = key b → a = b

theorem argmin_eq_some (told : Told key l) : l.argmin key = some v ↔ v ∈ l ∧ ∀ w ∈ l, key v ≤ key w := by
  constructor
  · intro chosen
    exact ⟨argmin_mem chosen,fun w member => le_of_mem_argmin member chosen⟩
  rintro ⟨member,least⟩
  cases chosen : l.argmin key with
  | none =>
    rw [argmin_eq_none.mp chosen] at member
    cases member
  | some w =>
    have inside : w ∈ l := argmin_mem chosen
    have below : key w ≤ key v := le_of_mem_argmin member chosen
    rw [told w inside v member (below.antisymm (least w inside))]

theorem argmin_congr (told : Told key l) (same : ∀ v, v ∈ l' ↔ v ∈ l) : l'.argmin key = l.argmin key := by
  have told' : Told key l' := fun a left b right => told a ((same a).mp left) b ((same b).mp right)
  refine Option.ext fun v => ?_
  rw [argmin_eq_some told,argmin_eq_some told',same]
  exact and_congr_right fun _ =>
    ⟨fun least w member => least w ((same w).mpr member),fun least w member => least w ((same w).mp member)⟩

theorem argmin_insert (told : Told key l) (more : ∀ v, v ∈ l' ↔ v = new ∨ v ∈ l) :
    l'.argmin key = some new ∨ l'.argmin key = l.argmin key := by
  cases chosen : l'.argmin key with
  | none =>
    have member : new ∈ l' := (more new).mpr (.inl rfl)
    rw [argmin_eq_none.mp chosen] at member
    cases member
  | some v =>
    rcases (more v).mp (argmin_mem chosen) with rfl | member
    · exact .inl rfl
    · refine .inr ((argmin_eq_some told).mpr ⟨member,fun w old => ?_⟩).symm
      exact le_of_mem_argmin ((more w).mpr (.inr old)) chosen

theorem argmin_erase (told : Told key l) (less : ∀ v, v ∈ l' ↔ v ∈ l ∧ v ≠ gone) (other : l.argmin key ≠ some gone) :
    l'.argmin key = l.argmin key := by
  have told' : Told key l' := fun a left b right => told a ((less a).mp left).1 b ((less b).mp right).1
  cases chosen : l.argmin key with
  | none =>
    have empty := argmin_eq_none.mp chosen
    refine argmin_eq_none.mpr (eq_nil_iff_forall_not_mem.mpr fun v member => ?_)
    have inside := ((less v).mp member).1
    rw [empty] at inside
    cases inside
  | some v =>
    obtain ⟨member,least⟩ := (argmin_eq_some told).mp chosen
    have kept : v ≠ gone := by
      rintro rfl
      exact other chosen
    exact (argmin_eq_some told').mpr ⟨(less v).mpr ⟨member,kept⟩,fun w inside => least w ((less w).mp inside).1⟩

/-- The preferred elements, or all if none is preferred. -/
def tier (preferred : V → Bool) (l : List V) : List V :=
  if (l.filter preferred).isEmpty then l else l.filter preferred

theorem argmin_tier :
    (tier preferred l).argmin key = l.argmin fun v => toLex (!preferred v,key v) := by
  induction l with
  | nil => rfl
  | cons v l ih =>
    rw [argmin_cons,← ih]
    by_cases blank : l.filter preferred = []
    · have plain : ∀ w ∈ l, preferred w = false := by simpa using blank
      have here : tier preferred l = l := by rw [tier,blank]; rfl
      rw [here]
      by_cases first : preferred v = true
      · have only : tier preferred (v :: l) = [v] := by rw [tier,filter_cons_of_pos first,blank]; rfl
        rw [only]
        cases chosen : l.argmin key with
        | none => rfl
        | some w => simp [Prod.Lex.toLex_lt_toLex,first,plain w (argmin_mem chosen)]
      have all : tier preferred (v :: l) = v :: l := by rw [tier,filter_cons_of_neg first,blank]; rfl
      rw [all,argmin_cons]
      cases chosen : l.argmin key with
      | none => rfl
      | some w => simp [Prod.Lex.toLex_lt_toLex,first,plain w (argmin_mem chosen)]
    have here : tier preferred l = l.filter preferred := by rw [tier,if_neg (by simpa using blank)]
    rw [here]
    by_cases first : preferred v = true
    · have joined : tier preferred (v :: l) = v :: l.filter preferred := by rw [tier,filter_cons_of_pos first]; rfl
      rw [joined,argmin_cons]
      cases chosen : (l.filter preferred).argmin key with
      | none => rfl
      | some w =>
        have second : preferred w = true := (mem_filter.mp (argmin_mem chosen)).2
        simp [Prod.Lex.toLex_lt_toLex,first,second]
    have kept : tier preferred (v :: l) = l.filter preferred := by
      rw [tier,filter_cons_of_neg first,if_neg (by simpa using blank)]
    rw [kept]
    cases chosen : (l.filter preferred).argmin key with
    | none => exact absurd (argmin_eq_none.mp chosen) blank
    | some w =>
      have second : preferred w = true := (mem_filter.mp (argmin_mem chosen)).2
      simp [Prod.Lex.toLex_lt_toLex,first,second]

end CheetahSignaling.LeastChoice
