import CheetahSignaling.Dialog
import CheetahSignaling.SipUriForm
import Mathlib.Data.List.TakeWhile

/-! The tag and the URI that the two ends of a dialog read from a From or To value. Both are found by
their delimiters in the whole text, so a delimiter inside of a quoted name or of the URI hides them. -/
namespace CheetahSignaling.SipDialog

open Str HeaderValue
open List hiding after
open SipUri (Canonical)

def isQuotedBody : List Char → Bool
  | [] => true
  | ['\\'] => false
  | '\\' :: _ :: rest => isQuotedBody rest
  | c :: rest => c != '"' && isQuotedBody rest

def DisplayName (display : String) : Prop :=
  ∃ body gap, isQuotedBody body = true ∧ gap.all isWhitespace = true ∧ display.toList = '"' :: (body ++ '"' :: gap)

def addressed (display : String) (uri : SipUri) : String := display ++ toUri uri

/-- `;tag=`, in any case, stands between two parts of a text. -/
def TagAt (s before after : List Char) : Prop :=
  ∃ marker, s = before ++ (marker ++ after) ∧ marker.map Char.toLower = ";tag=".toList

/-- The value of a parameter: what comes before the next semicolon or blank, without quotes around it. -/
def tagValue (rest : List Char) : String :=
  String.ofList (trimMatches '"' (rest.takeWhile fun c => !(c == ';' || isWhitespace c)))

/-- The delimiters are met at their own places. Where `;tag=` stands first in the name and the URI, the tag itself follows.
With no `<` in the name there is no `>` in the URI, which is written as it is read; otherwise the text
between the first `<` of the name and the next `>` is a spelling of the URI. -/
structure Clear (display : String) (uri : SipUri) (tag : String) : Prop where
  tagged : ∀ before after, TagAt (addressed display uri).toList before after →
    (∀ before' after', TagAt (addressed display uri).toList before' after' → before.length ≤ before'.length) →
      tagValue after = tag
  bare : '<' ∉ display.toList → '>' ∉ uri.encode.toList ∧ Canonical uri.host uri.parameters
  hidden : '<' ∈ display.toList →
    ∀ before contents after, (addressed display uri).toList = before ++ '<' :: (contents ++ '>' :: after) →
    '<' ∉ before → '>' ∉ contents → SipUri.parse (String.ofList contents) = .ok uri

section Tag

variable {pattern s rest : List Char}

theorem TagAt.cons (tagAt : TagAt s before after) (c : Char) : TagAt (c :: s) (c :: before) after := by
  obtain ⟨marker,rfl,lower⟩ := tagAt
  exact ⟨marker,rfl,lower⟩

theorem tagAt_nil_iff : TagAt s [] after ↔
    eqIgnoreAsciiCase (s.take ";tag=".toList.length) ";tag=".toList = true ∧ after = s.drop ";tag=".toList.length := by
  have small : ";tag=".toList.map Char.toLower = ";tag=".toList := by decide
  constructor
  · rintro ⟨marker,rfl,lower⟩
    have length : marker.length = ";tag=".toList.length := by rw [← lower,length_map]
    rw [nil_append,take_left' length,drop_left' length]
    exact ⟨beq_iff_eq.mpr (lower.trans small.symm),rfl⟩
  · rintro ⟨matched,rfl⟩
    exact ⟨_,(take_append_drop ..).symm,(beq_iff_eq.mp matched).trans small⟩

/-- The search stops at the first place. -/
theorem afterIgnoreCase_first (found : afterIgnoreCase ";tag=".toList s = some rest) :
    ∃ before, TagAt s before rest ∧ ∀ before' after', TagAt s before' after' → before.length ≤ before'.length := by
  induction s with
  | nil => cases found
  | cons c s ih =>
    unfold afterIgnoreCase at found
    split at found
    · cases found
      exact ⟨[],tagAt_nil_iff.mpr ⟨‹_›,rfl⟩,fun _ _ _ => Nat.zero_le _⟩
    · rename_i other
      obtain ⟨before,tagAt,first⟩ := ih found
      refine ⟨c :: before,tagAt.cons c,fun before' after' tagAt' => ?_⟩
      cases before' with
      | nil => exact absurd (tagAt_nil_iff.mp tagAt').1 other
      | cons d before' =>
        obtain ⟨marker,same,lower⟩ := tagAt'
        exact Nat.succ_le_succ (first before' after' ⟨marker,(List.cons.inj same).2,lower⟩)

theorem not_tagAt (absent : afterIgnoreCase ";tag=".toList s = none) : ¬TagAt s before after := by
  induction s generalizing before with
  | nil =>
    rintro ⟨marker,same,lower⟩
    obtain ⟨-,rest⟩ := append_eq_nil_iff.mp same.symm
    rw [(append_eq_nil_iff.mp rest).1] at lower
    cases lower
  | cons c s ih =>
    intro tagAt
    unfold afterIgnoreCase at absent
    split at absent
    · cases absent
    cases before with
    | nil => exact absurd (tagAt_nil_iff.mp tagAt).1 ‹_›
    | cons d before =>
      obtain ⟨marker,same,lower⟩ := tagAt
      exact ih absent ⟨marker,(List.cons.inj same).2,lower⟩

theorem TagAt.unique (tagAt : TagAt s before after) (tagAt' : TagAt s before' after') (same : before.length = before'.length) :
    after = after' := by
  obtain ⟨marker,rfl,lower⟩ := tagAt
  obtain ⟨marker',shape,lower'⟩ := tagAt'
  have lengths : marker.length = marker'.length := by
    rw [← length_map Char.toLower,lower,← lower',length_map]
  exact (append_inj (append_inj shape same).2 lengths).2

theorem first_tagValue_iff : ((afterIgnoreCase ";tag=".toList s).map tagValue = none ∨
      (afterIgnoreCase ";tag=".toList s).map tagValue = some tag) ↔
    ∀ before after, TagAt s before after →
      (∀ before' after', TagAt s before' after' → before.length ≤ before'.length) → tagValue after = tag := by
  cases found : afterIgnoreCase ";tag=".toList s with
  | none => exact iff_of_true (.inl rfl) fun before after tagAt => absurd tagAt (not_tagAt found)
  | some rest =>
    obtain ⟨before,tagAt,first⟩ := afterIgnoreCase_first found
    simp only [Option.map_some,reduceCtorEq,Option.some.injEq,false_or]
    refine ⟨?_,fun each => each before rest tagAt first⟩
    rintro rfl before' after' tagAt' first'
    rw [tagAt'.unique tagAt (Nat.le_antisymm (first' _ _ tagAt) (first _ _ tagAt'))]

theorem matched_length (matched : eqIgnoreAsciiCase (s.take pattern.length) pattern = true) : pattern.length ≤ s.length := by
  have count := congrArg List.length (beq_iff_eq.mp matched)
  rw [length_map,length_map,length_take] at count
  omega

theorem afterIgnoreCase_length (found : afterIgnoreCase pattern s = some rest) : pattern.length ≤ s.length := by
  induction s with
  | nil => cases found
  | cons c s ih =>
    unfold afterIgnoreCase at found
    split at found
    · rename_i matched
      exact matched_length matched
    · exact (ih found).trans (Nat.le_succ _)

theorem afterIgnoreCase_append (found : afterIgnoreCase pattern s = some rest) (more : List Char) :
    afterIgnoreCase pattern (s ++ more) = some (rest ++ more) := by
  induction s with
  | nil => cases found
  | cons c s ih =>
    have fits := afterIgnoreCase_length found
    unfold afterIgnoreCase at found
    rw [cons_append,afterIgnoreCase,← cons_append,take_append_of_le_length fits]
    split at found
    · rename_i matched
      cases found
      rw [if_pos matched,drop_append_of_le_length fits]
    · rename_i other
      rw [if_neg other]
      exact ih found

theorem afterIgnoreCase_behind (foreign : c.toLower ∉ pattern.map Char.toLower)
    (absent : afterIgnoreCase pattern (s ++ [c]) = none) (more : List Char) :
    afterIgnoreCase pattern (s ++ c :: more) = afterIgnoreCase pattern more := by
  have straddles (front : List Char) (short : (front ++ [c]).length ≤ pattern.length) :
      ¬eqIgnoreAsciiCase ((front ++ c :: more).take pattern.length) pattern = true := by
    intro matched
    refine foreign ?_
    rw [← beq_iff_eq.mp matched]
    refine mem_map_of_mem ?_
    have inside : front ++ [c] <+: (front ++ c :: more).take pattern.length :=
      prefix_take_iff.mpr ⟨⟨more,by simp⟩,short⟩
    exact inside.mem (mem_append_right _ mem_cons_self)
  have misses (front : List Char) (other : ¬eqIgnoreAsciiCase ((front ++ [c]).take pattern.length) pattern = true) :
      ¬eqIgnoreAsciiCase ((front ++ c :: more).take pattern.length) pattern = true := by
    by_cases short : (front ++ [c]).length ≤ pattern.length
    · exact straddles front short
    have same : (front ++ c :: more).take pattern.length = (front ++ [c]).take pattern.length := by
      have joined : front ++ c :: more = (front ++ [c]) ++ more := by simp
      rw [joined,take_append_of_le_length (Nat.le_of_not_le short)]
    rwa [same]
  induction s with
  | nil =>
    rw [nil_append,afterIgnoreCase] at absent
    split at absent
    · cases absent
    · rename_i other
      exact if_neg (misses [] other)
  | cons d s ih =>
    rw [cons_append,afterIgnoreCase] at absent
    split at absent
    · cases absent
    · rename_i other
      exact (if_neg (misses (d :: s) other)).trans (ih absent)

theorem isWhitespace_of_token (token : isTokenChar c = true) : isWhitespace c = false := by
  rcases Bool.or_eq_true_iff.mp token with alphanumeric | listed
  · have range := (Bool.or_eq_true_iff.mp alphanumeric).imp isAlpha_range.mp isDigit_range.mp
    simp only [isWhitespace,Bool.or_eq_false_iff,Bool.and_eq_false_iff,decide_eq_false_iff_not,beq_eq_false_iff_ne]
    omega
  · have each : ("-.!%*_+`'~()".toList.all fun d => isWhitespace d == false) = true := by decide
    exact beq_iff_eq.mp (all_eq_true.mp each c (contains_iff_mem.mp listed))

theorem takeWhile_stop (stops : p c = false) : (s ++ c :: more).takeWhile p = s.takeWhile p := by
  induction s with
  | nil => exact takeWhile_cons_of_neg (by rw [stops]; exact Bool.false_ne_true)
  | cons d s ih => rw [cons_append,takeWhile_cons,takeWhile_cons,ih]

theorem token_chars (token : isToken tag = true) : tag.toList ≠ [] ∧ ∀ c ∈ tag.toList, isTokenChar c = true := by
  obtain ⟨filled,all⟩ := Bool.and_eq_true_iff.mp token
  refine ⟨fun blank => ?_,all_eq_true.mp all⟩
  rw [String.toList_eq_nil_iff.mp blank] at filled
  cases filled

theorem trimMatches_absent (absent : c ∉ s) : trimMatches c s = s := by
  have other : ∀ d ∈ s, decide (d = c) = false := fun d member => decide_eq_false fun same => absent (same ▸ member)
  have start : s.dropWhile (· = c) = s := by
    cases s with
    | nil => rfl
    | cons d s => exact dropWhile_cons_of_neg (by rw [other d mem_cons_self]; exact Bool.false_ne_true)
  rw [trimMatches,start]
  exact dropEndWhile_append fun d last => other d (mem_of_getLast? last)

theorem tagValue_token (token : isToken tag = true) :
    String.ofList (trimMatches '"' (tag.toList.takeWhile fun c => !(c == ';' || isWhitespace c))) = tag := by
  obtain ⟨-,all⟩ := token_chars token
  have kept : tag.toList.takeWhile (fun c => !(c == ';' || isWhitespace c)) = tag.toList := by
    refine takeWhile_eq_self_iff.mpr fun c member => ?_
    have separates : c ≠ ';' := by
      rintro rfl
      exact absurd (all ';' member) (by decide)
    simp [separates,isWhitespace_of_token (all c member)]
  have unquoted : '"' ∉ tag.toList := fun member => absurd (all '"' member) (by decide)
  rw [kept,trimMatches_absent unquoted,String.ofList_toList]

end Tag

variable {display tag : String} {uri : SipUri}

theorem head_display (named : display = "" ∨ DisplayName display) :
    ∀ c ∈ (display.toList ++ '<' :: s).head?, isWhitespace c = false := by
  rcases named with rfl | ⟨body,gap,-,-,shape⟩
  · exact fun c first => Option.some.inj first ▸ rfl
  · rw [shape]
    exact fun c first => Option.some.inj first ▸ rfl

theorem trim_named (named : display = "" ∨ DisplayName display) (last : ∀ c ∈ ('<' :: s).getLast?, isWhitespace c = false) :
    trim (display.toList ++ '<' :: s) = display.toList ++ '<' :: s := by
  refine trim_of_ends (head_display named) ?_
  rwa [List.getLast?_append_of_ne_nil _ (cons_ne_nil _ _)]

theorem addressed_toList (display : String) (uri : SipUri) :
    (addressed display uri).toList = display.toList ++ '<' :: (uri.encode.toList ++ ['>']) := by
  simp [addressed,toUri]

theorem extractTag_trimmed (trimmed : trim value.toList = value.toList) :
    extractTag value = (afterIgnoreCase ";tag=".toList value.toList).map tagValue := by
  rw [extractTag,trimmed]
  rfl

theorem extractTag_addressed (named : display = "" ∨ DisplayName display) :
    extractTag (addressed display uri) = (afterIgnoreCase ";tag=".toList (addressed display uri).toList).map tagValue := by
  refine extractTag_trimmed ?_
  rw [addressed_toList]
  refine trim_named named ?_
  rw [← cons_append,List.getLast?_concat]
  exact fun c last => Option.some.inj last ▸ rfl

theorem value_toList (display : String) (uri : SipUri) (tag : String) :
    (addressed display uri ++ ";tag=" ++ tag).toList = (addressed display uri).toList ++ (";tag=".toList ++ tag.toList) := by
  rw [String.toList_append,String.toList_append,append_assoc]

section

variable (named : display = "" ∨ DisplayName display) (token : isToken tag = true)

include named token

theorem trim_value :
    trim (addressed display uri ++ ";tag=" ++ tag).toList = (addressed display uri ++ ";tag=" ++ tag).toList := by
  obtain ⟨filled,all⟩ := token_chars token
  rw [value_toList,addressed_toList,append_assoc,cons_append]
  refine trim_named named fun c last => ?_
  rw [← cons_append,← append_assoc,List.getLast?_append_of_ne_nil _ filled] at last
  exact isWhitespace_of_token (all c (mem_of_getLast? last))

/-- The tag that is read is that of the first tag parameter, wherever it stands. -/
theorem extractTag_iff : extractTag (addressed display uri ++ ";tag=" ++ tag) = some tag ↔
      extractTag (addressed display uri) = none ∨ extractTag (addressed display uri) = some tag := by
  rw [extractTag_trimmed (trim_value named token),value_toList,extractTag_addressed named]
  cases earlier : afterIgnoreCase ";tag=".toList (addressed display uri).toList with
  | none =>
    refine iff_of_true ?_ (.inl rfl)
    rw [addressed_toList,← cons_append,← append_assoc] at earlier
    have shape : (addressed display uri).toList ++ (";tag=".toList ++ tag.toList) =
        (display.toList ++ '<' :: uri.encode.toList) ++ '>' :: (";tag=".toList ++ tag.toList) := by simp [addressed_toList]
    rw [shape,afterIgnoreCase_behind (by decide) earlier]
    exact congrArg some (tagValue_token token)
  | some rest =>
    rw [afterIgnoreCase_append earlier]
    have stopped : tagValue (rest ++ (";tag=".toList ++ tag.toList)) = tagValue rest := by
      exact congrArg (fun kept => String.ofList (trimMatches '"' kept)) (takeWhile_stop (by decide))
    rw [Option.map_some,Option.map_some,stopped]
    simp

end

section Uri

theorem splitOnce_more (found : splitOnce [c] s = some (before,behind)) :
    splitOnce [c] (s ++ more) = some (before,behind ++ more) := by
  rw [splitOnce_eq found,append_assoc,append_assoc]
  exact splitOnce_char (splitOnce_before found)

theorem bracketed_eq (opened : splitOnce ['<'] s = some (before,behind)) :
    bracketed s = (splitOnce ['>'] behind).map Prod.fst := by
  simp only [bracketed,opened,bind,Option.bind]
  cases splitOnce ['>'] behind <;> rfl

/-- The contents are those between the first `<` and the next `>`. -/
theorem bracketed_eq_some : bracketed s = some contents ↔
    ∃ before after, s = before ++ '<' :: (contents ++ '>' :: after) ∧ '<' ∉ before ∧ '>' ∉ contents := by
  constructor
  · intro found
    cases opened : splitOnce ['<'] s with
    | none =>
      rw [bracketed,opened] at found
      cases found
    | some halves =>
      rw [bracketed_eq opened] at found
      obtain ⟨⟨inner,after⟩,closed,rfl⟩ := Option.map_eq_some_iff.mp found
      refine ⟨halves.1,after,?_,splitOnce_before opened,splitOnce_before closed⟩
      rw [splitOnce_eq opened,splitOnce_eq closed]
      simp
  · rintro ⟨before,after,rfl,unopened,unclosed⟩
    rw [bracketed_eq (splitOnce_char unopened),splitOnce_char unclosed]
    rfl

theorem bracketed_more (found : bracketed s = some contents) : bracketed (s ++ more) = some contents := by
  cases opened : splitOnce ['<'] s with
  | none =>
    rw [bracketed,opened] at found
    cases found
  | some halves =>
    rw [bracketed_eq opened] at found
    obtain ⟨⟨inner,after⟩,closed,rfl⟩ := Option.map_eq_some_iff.mp found
    rw [bracketed_eq (splitOnce_more opened),splitOnce_more closed]
    rfl

theorem bracketed_addressed : ∃ contents, bracketed (addressed display uri).toList = some contents := by
  have shape := addressed_toList display uri
  have opens : '<' ∈ (addressed display uri).toList := by simp [shape]
  cases opened : splitOnce ['<'] (addressed display uri).toList with
  | none => exact absurd opens (splitOnce_eq_none.mp opened)
  | some halves =>
    obtain ⟨before,behind⟩ := halves
    have closes : '>' ∈ behind := by
      have whole := splitOnce_eq opened
      have last : (addressed display uri).toList.getLast? = some '>' := by
        rw [shape,← cons_append,← append_assoc,List.getLast?_concat]
      by_cases blank : behind = []
      · rw [whole,blank,append_nil,List.getLast?_concat] at last
        cases last
      · rw [whole,List.getLast?_append_of_ne_nil _ blank] at last
        exact mem_of_getLast? last
    rw [bracketed_eq opened]
    cases closed : splitOnce ['>'] behind with
    | none => exact absurd closes (splitOnce_eq_none.mp closed)
    | some halves => exact ⟨halves.1,rfl⟩

theorem extractFirstUri_iff (named : display = "" ∨ DisplayName display) (token : isToken tag = true) :
    extractFirstUri (addressed display uri ++ ";tag=" ++ tag).toList = some uri ↔
      ∃ contents, bracketed (addressed display uri).toList = some contents ∧
        SipUri.parse (String.ofList contents) = .ok uri := by
  obtain ⟨contents,found⟩ := bracketed_addressed
  have whole : bracketed (addressed display uri ++ ";tag=" ++ tag).toList = some contents := by
    rw [value_toList]
    exact bracketed_more found
  simp only [extractFirstUri,trim_value named token,whole,found,Option.some.injEq,exists_eq_left']
  cases SipUri.parse (String.ofList contents) <;> simp [Except.toOption]

theorem bracketed_iff (parsed : SipUri.parse raw = .ok uri) (unopened : '<' ∉ display.toList) :
    (∃ contents, bracketed (addressed display uri).toList = some contents ∧ SipUri.parse (String.ofList contents) = .ok uri) ↔
      '>' ∉ uri.encode.toList ∧ Canonical uri.host uri.parameters := by
  have opened : splitOnce ['<'] (addressed display uri).toList = some (display.toList,uri.encode.toList ++ ['>']) := by
    rw [addressed_toList]
    exact splitOnce_char unopened
  rw [bracketed_eq opened]
  cases closed : splitOnce ['>'] uri.encode.toList with
  | none =>
    have clear := splitOnce_eq_none.mp closed
    rw [splitOnce_char clear,← SipUri.read_again_iff parsed]
    simp [clear]
  | some halves =>
    obtain ⟨before,behind⟩ := halves
    have whole := splitOnce_eq closed
    have closes : '>' ∈ uri.encode.toList := by simp [whole]
    rw [splitOnce_more closed]
    refine iff_of_false ?_ fun clear => clear.1 closes
    rintro ⟨contents,same,read⟩
    -- the URI would be written shorter than itself
    obtain rfl : before = contents := Option.some.inj same
    have shorter := SipUri.encode_shorter read
    rw [← String.utf8Len_toList,← String.utf8Len_toList,whole,String.toList_ofList,String.utf8Len_append,String.utf8Len_append,
      String.utf8Len_cons] at shorter
    have := Char.utf8Size_pos '>'
    omega

end Uri

namespace Sample

def alice : SipUri := ⟨.sip,some "alice",none,"192.0.2.1",some 5060,[("lr",none)]⟩

def quotedName : String := "\"Alice, \\\"A\\\"\" "

theorem quotedName_display : DisplayName quotedName := ⟨"Alice, \\\"A\\\"".toList,[' '],by decide,by decide,by decide⟩

end Sample

end CheetahSignaling.SipDialog
