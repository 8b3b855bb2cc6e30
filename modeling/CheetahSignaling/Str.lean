import Mathlib.Data.List.Basic

/-! Operations of Rust's `str` on lists of characters: trimming by the `White_Space`
property, searching for a pattern, and reading decimal numbers. -/
namespace CheetahSignaling.Str

open Option
open List hiding after toString

/-- `char::is_whitespace`. -/
def isWhitespace (c : Char) : Bool :=
  let n := c.toNat
  (9 ≤ n && n ≤ 13) || n == 32 || n == 0x85 || n == 0xA0 || n == 0x1680 ||
    (0x2000 ≤ n && n ≤ 0x200A) || n == 0x2028 || n == 0x2029 || n == 0x202F ||
    n == 0x205F || n == 0x3000

def dropEndWhile (p : Char → Bool) (s : List Char) : List Char := (s.reverse.dropWhile p).reverse

def trimStart (s : List Char) : List Char := s.dropWhile isWhitespace

def trimEnd (s : List Char) : List Char := dropEndWhile isWhitespace s

def trim (s : List Char) : List Char := trimEnd (trimStart s)

def splitOnce (pattern : List Char) : List Char → Option (List Char × List Char)
  | [] => if pattern = [] then some ([],[]) else none
  | c :: s =>
    if pattern.isPrefixOf (c :: s) then some ([],(c :: s).drop pattern.length)
    else (splitOnce pattern s).map fun (before,after) => (c :: before,after)

def rsplitOnce (c : Char) (s : List Char) : Option (List Char × List Char) :=
  (splitOnce [c] s.reverse).map fun (behind,before) => (before.reverse,behind.reverse)

/-- `str::split` at a character. -/
def split (c : Char) : List Char → List (List Char)
  | [] => [[]]
  | d :: s =>
    if d = c then [] :: split c s
    else match split c s with
      | [] => [[d]]
      | part :: parts => (d :: part) :: parts

/-- `str::eq_ignore_ascii_case`. -/
def eqIgnoreAsciiCase (s t : List Char) : Bool := s.map Char.toLower == t.map Char.toLower

/-- `str::parse` for an unsigned integer below `bound`. -/
def parseUnsigned (bound : Nat) (s : List Char) : Option Nat :=
  let digits := if s.head? = some '+' then s.drop 1 else s
  if digits ≠ [] ∧ digits.all Char.isDigit then
    let n := digits.foldl (fun n c => 10 * n + (c.toNat - 48)) 0
    if n < bound then some n else none
  else none

theorem isDigit_range {c : Char} : c.isDigit = true ↔ 48 ≤ c.toNat ∧ c.toNat ≤ 57 :=
  Bool.and_eq_true_iff.trans (and_congr decide_eq_true_iff decide_eq_true_iff)

theorem isAlpha_range {c : Char} :
    c.isAlpha = true ↔ (65 ≤ c.toNat ∧ c.toNat ≤ 90) ∨ (97 ≤ c.toNat ∧ c.toNat ≤ 122) := by
  have upper : c.isUpper = true ↔ 65 ≤ c.toNat ∧ c.toNat ≤ 90 := decide_eq_true_iff
  have lower : c.isLower = true ↔ 97 ≤ c.toNat ∧ c.toNat ≤ 122 :=
    Bool.and_eq_true_iff.trans (and_congr decide_eq_true_iff decide_eq_true_iff)
  exact Bool.or_eq_true_iff.trans (or_congr upper lower)

theorem isWhitespace_of_isDigit (digit : c.isDigit = true) : isWhitespace c = false := by
  have range := isDigit_range.mp digit
  simp only [isWhitespace,Bool.or_eq_false_iff,Bool.and_eq_false_iff,decide_eq_false_iff_not,beq_eq_false_iff_ne]
  omega

theorem parseUnsigned_lt (parsed : parseUnsigned bound s = some n) : n < bound := by
  simp only [parseUnsigned] at parsed
  generalize (if s.head? = some '+' then s.drop 1 else s) = digits at parsed
  split_ifs at parsed with _ small
  cases parsed
  exact small

theorem toList_number (n : Nat) : (toString n).toList = Nat.toDigits 10 n := String.toList_ofList

theorem isDigit_number (n : Nat) : ∀ c ∈ (toString n).toList, c.isDigit = true := by
  rw [toList_number]
  exact fun c member => Nat.isDigit_of_mem_toDigits (by decide) (by decide) member

theorem parseUnsigned_number (small : n < bound) : parseUnsigned bound (toString n).toList = some n := by
  have all : (Nat.toDigits 10 n).all Char.isDigit = true := all_eq_true.mpr (toList_number n ▸ isDigit_number n)
  have filled : Nat.toDigits 10 n ≠ [] := Nat.toDigits_ne_nil
  have unsigned : (Nat.toDigits 10 n).head? ≠ some '+' := by
    intro signed
    have := all_eq_true.mp all '+' (mem_of_mem_head? signed)
    exact absurd this (by decide)
  have value : (Nat.toDigits 10 n).foldl (fun n c => 10 * n + (c.toNat - 48)) 0 = n :=
    Nat.ofDigitChars_eq_foldl.symm.trans Nat.ofDigitChars_ten_toDigits
  simp only [parseUnsigned,toList_number,if_neg unsigned,if_pos (And.intro filled all),value,if_pos small]

/-- `str::trim_matches` at a character. -/
def trimMatches (c : Char) (s : List Char) : List Char := dropEndWhile (· = c) (s.dropWhile (· = c))

/-- `str::strip_prefix`. -/
def stripLeading (pattern s : List Char) : Option (List Char) :=
  if pattern.isPrefixOf s then some (s.drop pattern.length) else none

/-- `str::contains`. -/
def contains (pattern s : List Char) : Bool := (splitOnce pattern s).isSome

theorem splitOnce_eq (found : splitOnce pattern s = some (before,after)) : s = before ++ pattern ++ after := by
  induction s generalizing before after with
  | nil =>
    simp only [splitOnce] at found
    split at found <;> simp_all
  | cons c s ih =>
    simp only [splitOnce] at found
    split at found
    next leading =>
      obtain ⟨rfl,rfl⟩ := found
      exact (prefix_iff_eq_append.1 (List.isPrefixOf_iff_prefix.1 leading)).symm
    next =>
      cases inner : splitOnce pattern s with
      | none => simp [inner] at found
      | some halves =>
        simp only [inner] at found
        obtain ⟨rfl,rfl⟩ := found
        rw [cons_append,cons_append,← ih inner]

theorem rsplitOnce_eq (found : rsplitOnce c s = some (before,after)) : s = before ++ [c] ++ after := by
  obtain ⟨⟨behind,front⟩,cut,same⟩ := map_eq_some_iff.1 found
  obtain ⟨rfl,rfl⟩ := Prod.mk.inj same
  rw [← reverse_reverse s,splitOnce_eq cut]
  simp

theorem splitOnce_infix (found : splitOnce pattern s = some (before,after)) : before <:+: s ∧ after <:+: s := by
  rw [splitOnce_eq found]
  exact ⟨⟨[],pattern ++ after,by simp⟩,⟨before ++ pattern,[],by simp⟩⟩

theorem rsplitOnce_infix (found : rsplitOnce c s = some (before,after)) : before <:+: s ∧ after <:+: s := by
  rw [rsplitOnce_eq found]
  exact ⟨⟨[],c :: after,by simp⟩,⟨before ++ [c],[],by simp⟩⟩

theorem splitOnce_before (found : splitOnce [c] s = some (before,after)) : c ∉ before := by
  induction s generalizing before with
  | nil => simp [splitOnce] at found
  | cons d s ih =>
    simp only [splitOnce] at found
    split at found
    · cases found
      exact not_mem_nil
    rename_i other
    obtain ⟨⟨before',after'⟩,inner,same⟩ := map_eq_some_iff.mp found
    obtain ⟨rfl,rfl⟩ := Prod.mk.inj same
    rw [mem_cons,not_or]
    refine ⟨?_,ih inner⟩
    rintro rfl
    simp at other

theorem split_pieces : ∃ first rest, split c s = first :: rest ∧ first <+: s ∧ ∀ piece ∈ rest, piece <:+: s := by
  induction s with
  | nil => exact ⟨[],[],rfl,prefix_rfl,nofun⟩
  | cons d s ih =>
    obtain ⟨first,rest,shape,leading,inside⟩ := ih
    have later : s <:+: d :: s := (suffix_cons d s).isInfix
    simp only [split,shape]
    split
    · refine ⟨[],first :: rest,rfl,List.nil_prefix,forall_mem_cons.mpr ⟨leading.isInfix.trans later,?_⟩⟩
      exact fun piece member => (inside piece member).trans later
    · exact ⟨d :: first,rest,rfl,cons_prefix_cons.mpr ⟨rfl,leading⟩,fun piece member => (inside piece member).trans later⟩

theorem split_infix (part : piece ∈ split c s) : piece <:+: s := by
  obtain ⟨first,rest,shape,leading,inside⟩ := split_pieces
  rw [shape] at part
  rcases mem_cons.mp part with rfl | later
  · exact leading.isInfix
  · exact inside piece later

theorem dropEndWhile_prefix : dropEndWhile p s <+: s := by
  have cut := reverse_prefix.mpr (dropWhile_suffix p (l := s.reverse))
  rwa [reverse_reverse] at cut

theorem trim_infix : trim s <:+: s := dropEndWhile_prefix.isInfix.trans (dropWhile_suffix _).isInfix

theorem splitOnce_char (absent : c ∉ s) : splitOnce [c] (s ++ c :: rest) = some (s,rest) := by
  induction s with
  | nil => simp [splitOnce]
  | cons d s ih =>
    simp only [mem_cons,not_or] at absent
    simp [splitOnce,ih absent.2,absent.1]

theorem dropEndWhile_append (keep : ∀ c ∈ s.getLast?, p c = false) : dropEndWhile p s = s := by
  unfold dropEndWhile
  cases shape : s.reverse with
  | nil => simpa using shape
  | cons c rest =>
    have last : s.getLast? = some c := by rw [← List.head?_reverse,shape]; rfl
    rw [dropWhile_cons_of_neg (by simp [keep c (by simp [last])]),← shape,reverse_reverse]

theorem mem_of_mem_trim (member : c ∈ trim s) : c ∈ s := trim_infix.mem member

theorem head_trim : ∀ c ∈ (trim s).head?, isWhitespace c = false := by
  intro c first
  have leading : trim s <+: trimStart s := dropEndWhile_prefix
  obtain ⟨rest,shape⟩ := List.head?_eq_some_iff.mp first
  obtain ⟨more,whole⟩ := leading
  have start : (s.dropWhile isWhitespace).head? = some c := by rw [← trimStart,← whole,shape]; rfl
  simpa [start] using List.head?_dropWhile_not isWhitespace s

theorem last_trim : ∀ c ∈ (trim s).getLast?, isWhitespace c = false := by
  intro c last
  have ends : (((trimStart s).reverse).dropWhile isWhitespace).head? = some c := by
    rw [← last,trim,trimEnd,dropEndWhile,List.getLast?_reverse]
  simpa [ends] using List.head?_dropWhile_not isWhitespace (trimStart s).reverse

theorem trim_head (trimmed : trim s = s) : ∀ c ∈ s.head?, isWhitespace c = false := by
  rw [← trimmed]
  exact head_trim

theorem trim_of_ends (head : ∀ c ∈ s.head?, isWhitespace c = false) (last : ∀ c ∈ s.getLast?, isWhitespace c = false) :
    trim s = s := by
  have whole : trimStart s = s := by
    cases s with
    | nil => rfl
    | cons c s => exact dropWhile_cons_of_neg (by simp [head c rfl])
  rw [trim,whole]
  exact dropEndWhile_append last

theorem trim_trim (s : List Char) : trim (trim s) = trim s := trim_of_ends head_trim last_trim

theorem trim_cons (blank : isWhitespace c = true) (s : List Char) : trim (c :: s) = trim s := by
  rw [trim,trimStart,dropWhile_cons_of_pos blank]
  rfl

theorem splitOnce_eq_none : splitOnce [c] s = none ↔ c ∉ s := by
  induction s with
  | nil => simp [splitOnce]
  | cons d s ih => by_cases same : c = d <;> simp [splitOnce,same,ih]

theorem rsplitOnce_eq_none : rsplitOnce c s = none ↔ c ∉ s := by
  rw [rsplitOnce,map_eq_none_iff,splitOnce_eq_none,mem_reverse]

theorem rsplitOnce_char (absent : c ∉ rest) : rsplitOnce c (s ++ c :: rest) = some (s,rest) := by
  have turned : (s ++ c :: rest).reverse = rest.reverse ++ c :: s.reverse := by simp
  rw [rsplitOnce,turned,splitOnce_char (mt mem_reverse.mp absent)]
  simp

theorem rsplitOnce_after (found : rsplitOnce c s = some (before,after)) : c ∉ after := by
  obtain ⟨⟨behind,front⟩,cut,same⟩ := map_eq_some_iff.mp found
  obtain ⟨rfl,rfl⟩ := Prod.mk.inj same
  rw [mem_reverse]
  exact splitOnce_before cut

theorem split_joins (c : Char) (s : List Char) :
    ∃ first rest, split c s = first :: rest ∧ s = first ++ rest.flatMap (c :: ·) ∧ c ∉ first ∧ ∀ piece ∈ rest, c ∉ piece := by
  induction s with
  | nil => exact ⟨[],[],rfl,rfl,not_mem_nil,nofun⟩
  | cons d s ih =>
    obtain ⟨first,rest,shape,joined,clear,clearRest⟩ := ih
    simp only [split,shape]
    split
    · rename_i same
      refine ⟨[],first :: rest,rfl,?_,not_mem_nil,forall_mem_cons.mpr ⟨clear,clearRest⟩⟩
      rw [same,joined]
      rfl
    rename_i other
    refine ⟨d :: first,rest,rfl,congrArg (d :: ·) joined,?_,clearRest⟩
    rw [mem_cons,not_or]
    exact ⟨Ne.symm other,clear⟩

theorem split_not_mem (part : piece ∈ split c s) : c ∉ piece := by
  obtain ⟨first,rest,shape,-,clear,clearRest⟩ := split_joins c s
  rw [shape] at part
  rcases mem_cons.mp part with rfl | later
  · exact clear
  · exact clearRest piece later

theorem split_single (clear : c ∉ s) : split c s = [s] := by
  induction s with
  | nil => rfl
  | cons d s ih =>
    rw [mem_cons,not_or] at clear
    rw [split,if_neg (Ne.symm clear.1),ih clear.2]

theorem split_append (clear : c ∉ first) (s : List Char) : split c (first ++ c :: s) = first :: split c s := by
  induction first with
  | nil => rw [nil_append,split,if_pos rfl]
  | cons d first ih =>
    rw [mem_cons,not_or] at clear
    rw [cons_append,split,if_neg (Ne.symm clear.1),ih clear.2]

theorem split_joined (clear : c ∉ first) (clearRest : ∀ piece ∈ rest, c ∉ piece) :
    split c (first ++ rest.flatMap (c :: ·)) = first :: rest := by
  induction rest generalizing first with
  | nil => rw [flatMap_nil,append_nil,split_single clear]
  | cons piece rest ih =>
    obtain ⟨next,others⟩ := forall_mem_cons.mp clearRest
    rw [flatMap_cons,cons_append,split_append clear,ih next others]

end CheetahSignaling.Str
