import CheetahSignaling.Utf8

/-! Lines that end with CR LF, in bytes and in text. -/
namespace CheetahSignaling.CrlfLines

open Utf8 Option
open List hiding after

def splitCrlf : List UInt8 → Option (List UInt8 × List UInt8)
  | 13 :: 10 :: rest => some ([],rest)
  | b :: rest => (splitCrlf rest).map fun (line,after) => (b :: line,after)
  | [] => none

theorem splitCrlf_cons (whole : ¬(b = 13 ∧ rest.head? = some 10)) :
    splitCrlf (b :: rest) = (splitCrlf rest).map fun (line,after) => (b :: line,after) := by
  rw [splitCrlf]
  rintro rest' rfl rfl
  exact whole ⟨rfl,rfl⟩

theorem splitCrlf_head (cut : b = 13 ∧ rest.head? = some 10) : splitCrlf (b :: rest) = some ([],rest.drop 1) := by
  obtain ⟨rfl,next⟩ := cut
  obtain ⟨rest',rfl⟩ := List.head?_eq_some_iff.mp next
  rfl

theorem splitCrlf_line (uncut : splitCrlf line = none) (after : List UInt8) :
    splitCrlf (line ++ 13 :: 10 :: after) = some (line,after) := by
  induction line with
  | nil => rfl
  | cons b line ih =>
    by_cases cut : b = 13 ∧ line.head? = some 10
    · rw [splitCrlf_head cut] at uncut
      cases uncut
    rw [splitCrlf_cons cut,map_eq_none_iff] at uncut
    have still : ¬(b = 13 ∧ (line ++ 13 :: 10 :: after).head? = some 10) := by
      rintro ⟨same,next⟩
      cases line with
      | nil => simp at next
      | cons c line => exact cut ⟨same,next⟩
    rw [cons_append,splitCrlf_cons still,ih uncut]
    rfl

theorem splitCrlf_eq (found : splitCrlf s = some (line,after)) : s = line ++ 13 :: 10 :: after ∧ splitCrlf line = none := by
  induction s generalizing line with
  | nil => cases found
  | cons b s ih =>
    by_cases cut : b = 13 ∧ s.head? = some 10
    · rw [splitCrlf_head cut] at found
      obtain ⟨rfl,rfl⟩ := Prod.mk.inj (Option.some.inj found)
      obtain ⟨rfl,next⟩ := cut
      obtain ⟨rest,rfl⟩ := List.head?_eq_some_iff.mp next
      exact ⟨rfl,rfl⟩
    rw [splitCrlf_cons cut,map_eq_some_iff] at found
    obtain ⟨⟨line',after'⟩,found,same⟩ := found
    obtain ⟨rfl,rfl⟩ := Prod.mk.inj same
    obtain ⟨rfl,uncut⟩ := ih found
    refine ⟨rfl,?_⟩
    have still : ¬(b = 13 ∧ line'.head? = some 10) := by
      rintro ⟨carriage,next⟩
      obtain ⟨line,rfl⟩ := List.head?_eq_some_iff.mp next
      exact cut ⟨carriage,rfl⟩
    rw [splitCrlf_cons still,uncut]
    rfl

theorem splitCrlf_append (found : splitCrlf s = some (line,after)) : splitCrlf (s ++ t) = some (line,after ++ t) := by
  obtain ⟨rfl,uncut⟩ := splitCrlf_eq found
  rw [append_assoc]
  exact splitCrlf_line uncut (after ++ t)

theorem splitCrlf_late (uncut : splitCrlf s = none) (found : splitCrlf (s ++ t) = some (line,after)) :
    s.length ≤ line.length ∨ s = line ++ [13] ∧ t.head? = some 10 := by
  obtain ⟨same,-⟩ := splitCrlf_eq found
  rcases append_eq_append_iff.mp same with ⟨more,rfl,_⟩ | ⟨more,rfl,rest⟩
  · exact .inl (by simp)
  match more,rest with
  | [],_ => exact .inl (by simp)
  | [_],rest =>
    obtain ⟨rfl,rfl⟩ := rest
    exact .inr ⟨rfl,rfl⟩
  | _ :: _ :: more,rest =>
    obtain ⟨rfl,rfl,_⟩ := rest
    rw [splitCrlf_line (splitCrlf_eq found).2] at uncut
    cases uncut

def Broken (s : List Char) : Prop := ['\r','\n'] <:+: s

theorem broken_cons : Broken (c :: s) ↔ (c = '\r' ∧ s.head? = some '\n') ∨ Broken s := by
  unfold Broken
  rw [infix_cons_iff]
  cases s with
  | nil => simp
  | cons d s => simp [eq_comm]

theorem Broken.of_infix (broken : Broken s) (inside : s <:+: t) : Broken t := broken.trans inside

theorem not_broken_join (left : ¬Broken s) (right : ¬Broken t) (other : c ≠ '\r' ∧ c ≠ '\n') : ¬Broken (s ++ c :: t) := by
  induction s with
  | nil =>
    rw [nil_append,broken_cons]
    rintro (⟨carriage,-⟩ | broken)
    · exact other.1 carriage
    · exact right broken
  | cons d s ih =>
    rw [broken_cons,not_or] at left
    rw [cons_append,broken_cons]
    rintro (⟨carriage,next⟩ | broken)
    · cases s with
      | nil => exact other.2 (Option.some.inj next)
      | cons e s => exact left.1 ⟨carriage,next⟩
    · exact ih left.2 broken

theorem not_broken_of_not_mem (absent : '\r' ∉ s) : ¬Broken s := fun broken => absent (broken.mem (by simp))

theorem ofNat_eq_iff {c d : Char} (ascii : c.toNat < 128) (small : d.toNat < 128) :
    UInt8.ofNat c.toNat = UInt8.ofNat d.toNat ↔ c = d := by
  refine ⟨fun same => ?_,fun same => by rw [same]⟩
  have same := congrArg UInt8.toNat same
  rw [UInt8.toNat_ofNat',UInt8.toNat_ofNat',Nat.mod_eq_of_lt (by omega),Nat.mod_eq_of_lt (by omega)] at same
  exact Char.toNat_inj.mp same

theorem head_encode (s : List Char) : (s.flatMap String.utf8EncodeChar).head? = some 10 ↔ s.head? = some '\n' := by
  cases s with
  | nil => simp
  | cons c s =>
    rw [flatMap_cons]
    rcases utf8EncodeChar_cases with ⟨ascii,encoded⟩ | ⟨wide,high⟩
    · rw [encoded]
      simpa using ofNat_eq_iff ascii (d := '\n') (by decide)
    obtain ⟨b,more,encoded⟩ := exists_cons_of_length_pos (String.length_utf8EncodeChar c ▸ Char.utf8Size_pos c)
    rw [encoded] at high ⊢
    constructor
    · intro next
      have same : b = 10 := Option.some.inj next
      have := high b mem_cons_self
      rw [same] at this
      exact absurd this (by decide)
    · intro next
      rw [Option.some.inj next] at wide
      exact absurd wide (by decide)

theorem splitCrlf_high (wide : ∀ b ∈ high, 128 ≤ b.toNat) :
    splitCrlf (high ++ rest) = none ↔ splitCrlf rest = none := by
  induction high with
  | nil => rfl
  | cons b high ih =>
    obtain ⟨first,others⟩ := forall_mem_cons.mp wide
    have whole : ¬(b = 13 ∧ (high ++ rest).head? = some 10) := by
      rintro ⟨rfl,-⟩
      exact absurd first (by decide)
    rw [cons_append,splitCrlf_cons whole,map_eq_none_iff,ih others]

theorem splitCrlf_text (s : List Char) : splitCrlf (s.flatMap String.utf8EncodeChar) = none ↔ ¬Broken s := by
  induction s with
  | nil => simp [splitCrlf,Broken]
  | cons c s ih =>
    rw [flatMap_cons,broken_cons]
    rcases utf8EncodeChar_cases with ⟨ascii,encoded⟩ | ⟨wide,high⟩
    · have carriage : UInt8.ofNat c.toNat = 13 ↔ c = '\r' := ofNat_eq_iff ascii (d := '\r') (by decide)
      rw [encoded,singleton_append]
      by_cases cut : c = '\r' ∧ s.head? = some '\n'
      · rw [splitCrlf_head ⟨carriage.mpr cut.1,(head_encode s).mpr cut.2⟩]
        simp [cut]
      · rw [splitCrlf_cons (fun broken => cut ⟨carriage.mp broken.1,(head_encode s).mp broken.2⟩),map_eq_none_iff,ih]
        simp [cut]
    rw [splitCrlf_high high,ih]
    have : c ≠ '\r' := by
      rintro rfl
      exact absurd wide (by decide)
    simp [this]

end CheetahSignaling.CrlfLines
