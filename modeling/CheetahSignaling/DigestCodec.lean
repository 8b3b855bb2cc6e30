import CheetahSignaling.Digest
import CheetahSignaling.Outcomes

/-! Header values of digest authentication are read back as they were written: a parameter never
ends inside its own text, and a quoted text loses nothing but its line breaks. -/
namespace CheetahSignaling.SipDigest

open List Str Option

namespace Quoting

/-- Where a scan stands behind a text that it does not cut. -/
def pass (q : Quoting) : List Char → Option Quoting
  | [] => some q
  | c :: rest => if q.separates c then none else (q.advance c).pass rest

theorem pass_append (q : Quoting) (s t : List Char) : q.pass (s ++ t) = (q.pass s).bind (·.pass t) := by
  induction s generalizing q with
  | nil => rfl
  | cons c s ih =>
    rw [cons_append,pass,pass]
    split
    · rfl
    · exact ih (q.advance c)

theorem splitFrom_pass (passed : q.pass s = some q') : splitFrom q s = [s] := by
  induction s generalizing q with
  | nil => rfl
  | cons c s ih =>
    rw [pass] at passed
    split at passed
    · cases passed
    · rename_i whole
      rw [splitFrom,if_neg whole,ih passed]

theorem splitFrom_separator (passed : q.pass s = some q') (separates : q'.separates c = true) (rest : List Char) :
    splitFrom q (s ++ c :: rest) = s :: splitFrom q' rest := by
  induction s generalizing q with
  | nil =>
    obtain rfl := Option.some.inj passed
    rw [nil_append,splitFrom,if_pos separates]
  | cons d s ih =>
    rw [pass] at passed
    split at passed
    · cases passed
    · rename_i whole
      rw [cons_append,splitFrom,if_neg whole,ih passed]

theorem pass_plain (plain : ∀ c ∈ s, c ≠ ',' ∧ c ≠ '\\' ∧ c ≠ '"') :
    (⟨false,false⟩ : Quoting).pass s = some ⟨false,false⟩ := by
  induction s with
  | nil => rfl
  | cons c s ih =>
    obtain ⟨⟨comma,backslash,quote⟩,rest⟩ := forall_mem_cons.mp plain
    have still : (⟨false,false⟩ : Quoting).advance c = ⟨false,false⟩ := by simp [advance,backslash,quote]
    rw [pass,if_neg (by simp [separates,comma]),still,ih rest]

end Quoting

open Quoting

def escapeChar (c : Char) : List Char :=
  if c = '\\' then ['\\','\\'] else if c = '"' then ['\\','"'] else if c = '\r' ∨ c = '\n' then [] else [c]

theorem sanitizeQuotedValue_append (s t : List Char) :
    sanitizeQuotedValue (s ++ t) = sanitizeQuotedValue s ++ sanitizeQuotedValue t := by
  simp [sanitizeQuotedValue,replaceChar]

theorem sanitizeQuotedValue_char (c : Char) : sanitizeQuotedValue [c] = escapeChar c := by
  unfold escapeChar
  split_ifs with backslash quote line
  · subst backslash; rfl
  · subst quote; rfl
  · rcases line with rfl | rfl <;> rfl
  · simpa [sanitizeQuotedValue,replaceChar,backslash,quote] using line

theorem sanitizeQuotedValue_eq (s : List Char) : sanitizeQuotedValue s = s.flatMap escapeChar := by
  induction s with
  | nil => rfl
  | cons c s ih => rw [← singleton_append,sanitizeQuotedValue_append,sanitizeQuotedValue_char,ih,singleton_append,flatMap_cons]

theorem pass_sanitized (s : List Char) : (⟨true,false⟩ : Quoting).pass (sanitizeQuotedValue s) = some ⟨true,false⟩ := by
  rw [sanitizeQuotedValue_eq]
  induction s with
  | nil => rfl
  | cons c s ih =>
    rw [flatMap_cons,pass_append]
    have one : (⟨true,false⟩ : Quoting).pass (escapeChar c) = some ⟨true,false⟩ := by
      unfold escapeChar
      split_ifs with backslash quote line
      · rfl
      · rfl
      · rfl
      · simp [Quoting.pass,separates,advance,backslash,quote]
    rw [one]
    exact ih

def OneLine (s : List Char) : Prop := '\r' ∉ s ∧ '\n' ∉ s

theorem unescape_cons (plain : c ≠ '\\') (s : List Char) : unescape (c :: s) = c :: unescape s := by
  rw [unescape]
  · simp [plain]
  · simp [plain]

theorem unescape_sanitized (oneLine : OneLine s) : unescape (sanitizeQuotedValue s) = s := by
  rw [sanitizeQuotedValue_eq]
  induction s with
  | nil => rfl
  | cons c s ih =>
    obtain ⟨cr,lf⟩ := oneLine
    have rest := ih ⟨fun member => cr (mem_cons_of_mem c member),fun member => lf (mem_cons_of_mem c member)⟩
    have noBreak : ¬(c = '\r' ∨ c = '\n') := by
      rintro (rfl | rfl)
      · exact cr mem_cons_self
      · exact lf mem_cons_self
    rw [flatMap_cons]
    generalize s.flatMap escapeChar = text at rest ⊢
    unfold escapeChar
    split_ifs with backslash quote
    · subst backslash
      simp [unescape,rest]
    · subst quote
      simp [unescape,rest]
    · rw [singleton_append,unescape_cons backslash,rest]

theorem unescape_plain (plain : '\\' ∉ s) : unescape s = s := by
  induction s with
  | nil => rfl
  | cons c s ih =>
    have head : c ≠ '\\' := fun same => plain (same ▸ mem_cons_self)
    rw [unescape_cons head,ih fun member => plain (mem_cons_of_mem c member)]

theorem unquote_quoted (oneLine : OneLine s) : unquote ('"' :: sanitizeQuotedValue s ++ ['"']) = s := by
  have ends : trim ('"' :: sanitizeQuotedValue s ++ ['"']) = '"' :: sanitizeQuotedValue s ++ ['"'] := by
    apply trim_of_ends
    · simp [isWhitespace]
    · rw [List.getLast?_append]
      simp [isWhitespace]
  rw [unquote,ends]
  simp only [cons_append,List.head?_cons,length_cons,length_append,drop_succ_cons,drop_zero,
    dropLast_concat]
  have quotes : ('"' :: (sanitizeQuotedValue s ++ ['"'])).getLast? = some '"' := by
    rw [← cons_append,List.getLast?_append]
    rfl
  rw [if_pos ⟨by omega,trivial,quotes⟩]
  split
  · exact unescape_sanitized oneLine
  · rename_i plain
    have same := unescape_plain (by simpa using plain)
    rw [← same,unescape_sanitized oneLine]

/-- A written parameter: it is not cut, and it neither begins nor ends with a blank. -/
structure Written (param : List Char) : Prop where
  uncut : (⟨false,false⟩ : Quoting).pass param = some ⟨false,false⟩
  head : ∃ c ∈ param.head?, isWhitespace c = false
  last : ∃ c ∈ param.getLast?, isWhitespace c = false

def IsName (name : List Char) : Prop := name ≠ [] ∧ ∀ c ∈ name, c.isAlpha = true

theorem plain_of_isAlpha (alpha : c.isAlpha = true) :
    (c ≠ ',' ∧ c ≠ '\\' ∧ c ≠ '"') ∧ c ≠ '=' ∧ isWhitespace c = false := by
  have range := isAlpha_range.mp alpha
  refine ⟨⟨?_,?_,?_⟩,?_,?_⟩
  · rintro rfl; revert range; decide
  · rintro rfl; revert range; decide
  · rintro rfl; revert range; decide
  · rintro rfl; revert range; decide
  · simp only [isWhitespace,Bool.or_eq_false_iff,Bool.and_eq_false_iff,decide_eq_false_iff_not,beq_eq_false_iff_ne]
    omega

theorem IsName.pass (isName : IsName name) : (⟨false,false⟩ : Quoting).pass name = some ⟨false,false⟩ :=
  pass_plain fun c member => (plain_of_isAlpha (isName.2 c member)).1

theorem IsName.head (isName : IsName name) (rest : List Char) :
    ∃ c ∈ (name ++ rest).head?, isWhitespace c = false := by
  obtain ⟨c,name',rfl⟩ := exists_cons_of_ne_nil isName.1
  exact ⟨c,rfl,(plain_of_isAlpha (isName.2 c mem_cons_self)).2.2⟩

theorem IsName.trim (isName : IsName name) : trim name = name := by
  have plain (c : Char) (member : c ∈ name) : isWhitespace c = false := (plain_of_isAlpha (isName.2 c member)).2.2
  exact trim_of_ends (fun c first => plain c (mem_of_mem_head? first)) fun c last => plain c (mem_of_getLast? last)

theorem written_quoted (isName : IsName name.toList) (value : String) : Written (quotedParam name value) where
  uncut := by
    rw [quotedParam,pass_append,isName.pass]
    show (⟨true,false⟩ : Quoting).pass (sanitizeQuotedValue value.toList ++ ['"']) = some ⟨false,false⟩
    rw [pass_append,pass_sanitized]
    rfl
  head := by
    exact isName.head _
  last := by
    refine ⟨'"',?_,by decide⟩
    rw [quotedParam,← cons_append,← append_assoc,List.getLast?_append]
    rfl

def IsToken (value : List Char) : Prop := value ≠ [] ∧ ∀ c ∈ value, c ≠ ',' ∧ c ≠ '\\' ∧ c ≠ '"' ∧ isWhitespace c = false

theorem written_raw (isName : IsName name.toList) (isToken : IsToken value) : Written (rawParam name value) where
  uncut := by
    rw [rawParam,pass_append,isName.pass]
    show (⟨false,false⟩ : Quoting).pass value = some ⟨false,false⟩
    exact pass_plain fun c member => ⟨(isToken.2 c member).1,(isToken.2 c member).2.1,(isToken.2 c member).2.2.1⟩
  head := by
    exact isName.head _
  last := by
    obtain ⟨filled,plain⟩ := isToken
    refine ⟨value.getLast filled,?_,(plain _ (getLast_mem filled)).2.2.2⟩
    rw [rawParam,append_cons,List.getLast?_append,List.getLast?_eq_some_getLast filled]
    rfl

theorem IsToken.trim (isToken : IsToken value) : trim value = value :=
  trim_of_ends (fun c first => (isToken.2 c (mem_of_mem_head? first)).2.2.2)
    fun c last => (isToken.2 c (mem_of_getLast? last)).2.2.2

theorem IsToken.unquote (isToken : IsToken value) : unquote value = value := by
  have unquoted : ¬(2 ≤ value.length ∧ value.head? = some '"' ∧ value.getLast? = some '"') := by
    rintro ⟨_,head,_⟩
    exact (isToken.2 '"' (mem_of_mem_head? head)).2.2.1 rfl
  rw [SipDigest.unquote,isToken.trim]
  exact if_neg unquoted

theorem Written.trim (written : Written param) : trim param = param := by
  obtain ⟨_,⟨c,first,plain⟩,⟨d,last,plain'⟩⟩ := written
  refine trim_of_ends (fun c' first' => ?_) fun d' last' => ?_
  · exact mem_unique first first' ▸ plain
  · exact mem_unique last last' ▸ plain'

theorem Written.filled (written : Written param) : param ≠ [] := by
  rintro rfl
  obtain ⟨c,first,_⟩ := written.head
  cases first

theorem isName_of_all {name : String} (filled : name.toList ≠ []) (all : name.toList.all Char.isAlpha = true) :
    IsName name.toList :=
  ⟨filled,fun c member => all_eq_true.mp all c member⟩

section Reading

variable {P : Type} {set : P → (key value : List Char) → Except DigestError P}

theorem readParam_blank (param : List Char) : readParam set p (' ' :: param) = readParam set p param := by
  rw [readParam,readParam,trim_cons (by decide)]

theorem readParam_quoted (isName : IsName name.toList) (oneLine : OneLine value.toList) :
    readParam set p (quotedParam name value) = set p name.toList value.toList := by
  have written := written_quoted isName value
  have cut : splitOnce ['='] (quotedParam name value) = some (name.toList,'"' :: sanitizeQuotedValue value.toList ++ ['"']) :=
    splitOnce_char fun member => (plain_of_isAlpha (isName.2 '=' member)).2.1 rfl
  have quoted : trim ('"' :: sanitizeQuotedValue value.toList ++ ['"']) = '"' :: sanitizeQuotedValue value.toList ++ ['"'] := by
    apply trim_of_ends
    · simp [isWhitespace]
    · rw [List.getLast?_append]
      simp [isWhitespace]
  rw [readParam,written.trim,if_neg written.filled,cut]
  simp only
  rw [isName.trim,quoted,unquote_quoted oneLine]

theorem readParam_raw (isName : IsName name.toList) (isToken : IsToken value) :
    readParam set p (rawParam name value) = set p name.toList value := by
  have written := written_raw isName isToken
  have cut : splitOnce ['='] (rawParam name value) = some (name.toList,value) :=
    splitOnce_char fun member => (plain_of_isAlpha (isName.2 '=' member)).2.1 rfl
  rw [readParam,written.trim,if_neg written.filled,cut]
  simp only
  rw [isName.trim,isToken.trim,isToken.unquote]

variable (first : List Char) (rest : List (List Char))

theorem splitCommas_intercalate (written : ∀ param ∈ first :: rest, Written param) :
    splitCommas (List.intercalate ", ".toList (first :: rest)) = first :: rest.map (' ' :: ·) := by
  induction rest generalizing first with
  | nil =>
    rw [intercalate_singleton]
    exact splitFrom_pass (written first mem_cons_self).uncut
  | cons next rest ih =>
    obtain ⟨here,later⟩ := forall_mem_cons.mp written
    have tail : splitFrom ⟨false,false⟩ (List.intercalate ", ".toList (next :: rest)) = next :: rest.map (' ' :: ·) :=
      ih next later
    have joined : List.intercalate ", ".toList (first :: next :: rest) =
        first ++ ',' :: ' ' :: List.intercalate ", ".toList (next :: rest) := by
      rfl
    have cut := splitFrom_separator here.uncut (c := ',') rfl (' ' :: List.intercalate ", ".toList (next :: rest))
    have blank : splitFrom ⟨false,false⟩ (' ' :: List.intercalate ", ".toList (next :: rest)) = (' ' :: next) ::
      rest.map (' ' :: ·) := by
      have stays : (⟨false,false⟩ : Quoting).advance ' ' = ⟨false,false⟩ := rfl
      rw [splitFrom,if_neg (by decide),stays,tail]
    rw [splitCommas,joined,cut,blank,map_cons]

theorem last_intercalate (written : ∀ param ∈ first :: rest, Written param) :
    ∃ c ∈ (List.intercalate ", ".toList (first :: rest)).getLast?, isWhitespace c = false := by
  induction rest generalizing first with
  | nil =>
    rw [intercalate_singleton]
    exact (written first mem_cons_self).last
  | cons next rest ih =>
    obtain ⟨c,last,plain⟩ := ih next (forall_mem_cons.mp written).2
    refine ⟨c,?_,plain⟩
    rw [intercalate_cons_cons,List.getLast?_append,mem_def.mp last]
    rfl

theorem stripScheme_digest (filled : text ≠ []) : stripScheme ("Digest ".toList ++ text) = text := by
  have seven : "Digest ".toList.length = 7 := rfl
  have long : 7 < ("Digest ".toList ++ text).length := by
    have := length_pos_iff.mpr filled
    rw [length_append]
    omega
  have scheme : eqIgnoreAsciiCase (("Digest ".toList ++ text).take 7) "digest ".toList = true := by
    rw [take_left' seven]
    decide
  rw [stripScheme,if_pos ⟨long,scheme⟩,drop_left' seven]

theorem trim_digest (last : ∃ c ∈ text.getLast?, isWhitespace c = false) :
    trim ("Digest ".toList ++ text) = "Digest ".toList ++ text := by
  obtain ⟨c,last,plain⟩ := last
  have head : ("Digest ".toList ++ text).head? = some 'D' := rfl
  refine trim_of_ends ?_ ?_
  · rw [head]
    simp [isWhitespace]
  · rw [List.getLast?_append,mem_def.mp last]
    simpa using plain

theorem readParams_writeParams (written : ∀ param ∈ first :: rest, Written param)
    (start : P) (fits : (writeParams (first :: rest)).utf8ByteSize ≤ maxLen) :
    readParams set start (writeParams (first :: rest)) maxLen = (first :: rest).foldlM (readParam set) start := by
  have last := last_intercalate first rest written
  have filled : List.intercalate ", ".toList (first :: rest) ≠ [] := by
    intro empty
    rw [empty] at last
    obtain ⟨c,member,_⟩ := last
    cases member
  have text : (writeParams (first :: rest)).toList = "Digest ".toList ++ List.intercalate ", ".toList (first :: rest) :=
    String.toList_ofList
  rw [readParams,if_neg (Nat.not_lt.mpr fits),text,trim_digest last,stripScheme_digest filled,
    splitCommas_intercalate first rest written]
  simp [foldlM_map,readParam_blank]

/-- Parameters that can be cut apart and are read one after the other. -/
structure Takes (set : P → List Char → List Char → Except DigestError P) (params : List (List Char)) (p p' : P) : Prop where
  written : ∀ param ∈ params, Written param
  read : params.foldlM (readParam set) p = .ok p'

theorem Takes.append (first : Takes set params p p') (rest : Takes set more p' p'') : Takes set (params ++ more) p p'' := by
  refine ⟨forall_mem_append.mpr ⟨first.written,rest.written⟩,?_⟩
  rw [foldlM_append,first.read]
  exact rest.read

theorem Takes.cons (first : Takes set [param] p p') (rest : Takes set more p' p'') : Takes set (param :: more) p p'' :=
  first.append rest

theorem Takes.one (written : Written param) (taken : readParam set p param = .ok p') : Takes set [param] p p' := by
  refine ⟨forall_mem_singleton.mpr written,?_⟩
  rw [foldlM_cons,taken]
  rfl

theorem Takes.quoted (update : P → String → P) (isName : name.toList ≠ [] ∧ name.toList.all Char.isAlpha = true)
    (oneLine : OneLine value.toList) (selected : ∀ p text, set p name.toList text = .ok (update p (String.ofList text))) :
    Takes set [quotedParam name value] p (update p value) := by
  have isName := isName_of_all isName.1 isName.2
  refine .one (written_quoted isName value) ?_
  rw [readParam_quoted isName oneLine,selected,String.ofList_toList]

theorem Takes.raw (isName : name.toList ≠ [] ∧ name.toList.all Char.isAlpha = true) (isToken : IsToken value)
    (selected : set p name.toList value = .ok p') : Takes set [rawParam name value] p p' := by
  have isName := isName_of_all isName.1 isName.2
  refine .one (written_raw isName isToken) ?_
  rw [readParam_raw isName isToken,selected]

theorem Takes.optional (update : P → Option α → P) (left : update p none = p)
    (taken : ∀ x ∈ o, Takes set [write x] p (update p (some x))) : Takes set (o.map write).toList p (update p o) := by
  cases o with
  | none => exact ⟨forall_mem_nil _,congrArg Except.ok left.symm⟩
  | some x => exact taken x rfl

end Reading

theorem isToken_of_all (filled : value ≠ [])
    (all : (value.all fun c => c != ',' && c != '\\' && c != '"' && !isWhitespace c) = true) : IsToken value := by
  refine ⟨filled,fun c member => ?_⟩
  have one := all_eq_true.mp all c member
  simp only [Bool.and_eq_true,bne_iff_ne,Bool.not_eq_true'] at one
  exact ⟨one.1.1.1,one.1.1.2,one.1.2,one.2⟩

theorem isToken_format (n : Nat) : IsToken (Hex.format 8 n) := by
  refine ⟨Hex.format_ne_nil,fun c member => ?_⟩
  obtain ⟨d,low,rfl⟩ := Hex.mem_format member
  have all : ∀ d < 16, d.digitChar ≠ ',' ∧ d.digitChar ≠ '\\' ∧ d.digitChar ≠ '"' ∧ isWhitespace d.digitChar = false := by decide
  exact all d low

theorem isToken_algorithm (algorithm : DigestAlgorithm) : IsToken algorithm.asWire.toList := by
  cases algorithm <;> exact isToken_of_all (by decide) (by decide)

theorem isToken_qop (qop : DigestQop) : IsToken qop.asWire.toList := by
  cases qop <;> exact isToken_of_all (by decide) (by decide)

@[simp] theorem parse_asWire_algorithm : DigestAlgorithm.parse algorithm.asWire.toList = some algorithm := by
  cases algorithm <;> decide

@[simp] theorem parse_asWire_qop : DigestQop.parse qop.asWire.toList = some qop := by
  cases qop <;> decide

/-- A response that can be written without loss: no line breaks, and a count of 64 bits. -/
structure Writable (r : DigestResponse) : Prop where
  username : OneLine r.username.toList
  realm : OneLine r.realm.toList
  nonce : OneLine r.nonce.toList
  uri : OneLine r.uri.toList
  response : OneLine r.response.toList
  cnonce : ∀ value ∈ r.cnonce, OneLine value.toList
  nc : ∀ nc ∈ r.nc, nc < 2 ^ 64
  opaqueValue : ∀ value ∈ r.opaqueValue, OneLine value.toList

theorem response_takes (writable : Writable r) : Takes ResponseParams.set r.params {}
    ⟨some r.username,some r.realm,some r.nonce,some r.uri,some r.response,r.cnonce,r.nc,r.qop,r.algorithm,r.opaqueValue⟩ := by
  have count (p : ResponseParams) (nc : Nat) (held : nc ∈ r.nc) :
      ResponseParams.set p "nc".toList (Hex.format 8 nc) = .ok { p with nc := some nc } := by
    unfold ResponseParams.set
    iterate 6 rw [if_neg (by decide)]
    rw [if_pos (by decide),Hex.parse_format (writable.nc nc held)]
  exact .append (.append (.append (.append (.append
    (.cons (.quoted (fun p value => { p with username := some value }) (by decide) writable.username fun _ _ => rfl)
      (.cons (.quoted (fun p value => { p with realm := some value }) (by decide) writable.realm fun _ _ => rfl)
        (.cons (.quoted (fun p value => { p with nonce := some value }) (by decide) writable.nonce fun _ _ => rfl)
          (.cons (.quoted (fun p value => { p with uri := some value }) (by decide) writable.uri fun _ _ => rfl)
            (.quoted (fun (p : ResponseParams) value => { p with response := some value })
              (by decide) writable.response fun _ _ => rfl)))))
    (.optional (fun p o => { p with cnonce := o }) rfl fun value held =>
      .quoted (fun (p : ResponseParams) value => { p with cnonce := some value })
        (by decide) (writable.cnonce value held) fun _ _ => rfl))
    (.optional (fun p o => { p with nc := o }) rfl fun nc held => .raw (by decide) (isToken_format nc) (count _ nc held)))
    (.optional (fun p o => { p with qop := o }) rfl fun qop _ => .raw (by decide) (isToken_qop qop) (by cases qop <;> rfl)))
    (.optional (fun p o => { p with algorithm := o }) rfl fun algorithm _ =>
      .raw (by decide) (isToken_algorithm algorithm) (by cases algorithm <;> rfl)))
    (.optional (fun (p : ResponseParams) o => { p with opaqueValue := o }) rfl fun value held =>
      .quoted (fun (p : ResponseParams) value => { p with opaqueValue := some value })
        (by decide) (writable.opaqueValue value held) fun _ _ => rfl)

theorem parse_toHeaderValue (writable : Writable r) (fits : r.toHeaderValue.utf8ByteSize ≤ maxLen) :
    DigestResponse.parseWithLimit r.toHeaderValue maxLen = .ok r := by
  have read : readParams ResponseParams.set {} r.toHeaderValue maxLen = r.params.foldlM (readParam ResponseParams.set) {} :=
    readParams_writeParams _ _ (response_takes writable).written _ fits
  rw [DigestResponse.parseWithLimit,read,(response_takes writable).read]
  rfl

theorem parse_long (long : maxHeaderLen < value.utf8ByteSize) :
    DigestResponse.parse value = .error (.malformed s!"digest header exceeds maximum length of {maxHeaderLen}") := by
  rw [DigestResponse.parse,DigestResponse.parseWithLimit,readParams,if_pos long]
  rfl

structure WritableChallenge (c : DigestChallenge) : Prop where
  realm : OneLine c.realm.toList
  nonce : OneLine c.nonce.toList
  opaqueValue : ∀ value ∈ c.opaqueValue, OneLine value.toList

theorem challenge_takes (writable : WritableChallenge c) : Takes ChallengeParams.set c.params {}
    ⟨some c.realm,some c.nonce,c.opaqueValue,c.stale,some c.algorithm,c.qop⟩ := by
  have algorithm (p : ChallengeParams) :
      ChallengeParams.set p "algorithm".toList c.algorithm.asWire.toList = .ok { p with algorithm := some c.algorithm } := by
    cases c.algorithm <;> rfl
  have stale (p : ChallengeParams) (unset : p.stale = false) : Takes ChallengeParams.set
      (if c.stale then [rawParam "stale" "true".toList] else []) p { p with stale := c.stale } := by
    cases c.stale with
    | false => exact ⟨forall_mem_nil _,congrArg Except.ok (by rw [← unset])⟩
    | true => exact .raw (by decide) (isToken_of_all (by decide) (by decide)) rfl
  have qop (p : ChallengeParams) (qop : DigestQop) :
      Takes ChallengeParams.set [quotedParam "qop" qop.asWire] p { p with qop := some qop } := by
    have named : IsName "qop".toList := isName_of_all (by decide) (by decide)
    refine .one (written_quoted named _) ?_
    cases qop <;> rfl
  exact .append (.append (.append
    (.cons (.quoted (fun p value => { p with realm := some value }) (by decide) writable.realm fun _ _ => rfl)
      (.cons (.quoted (fun p value => { p with nonce := some value }) (by decide) writable.nonce fun _ _ => rfl)
        (.raw (by decide) (isToken_algorithm c.algorithm) (algorithm _))))
    (.optional (fun p o => { p with opaqueValue := o }) rfl fun value held =>
      .quoted (fun (p : ChallengeParams) value => { p with opaqueValue := some value })
        (by decide) (writable.opaqueValue value held) fun _ _ => rfl))
    (stale _ rfl))
    (.optional (fun (p : ChallengeParams) o => { p with qop := o }) rfl fun value _ => qop _ value)

/-- What is written without line breaks is read back, in both headers and under every limit that it fits. -/
theorem digest_headers_read_back (maxLen : Nat) :
    (∀ r, Writable r → r.toHeaderValue.utf8ByteSize ≤ maxLen → DigestResponse.parseWithLimit r.toHeaderValue maxLen = .ok r) ∧
      ∀ c, WritableChallenge c → c.toHeaderValue.utf8ByteSize ≤ maxLen →
        DigestChallenge.parseWithLimit c.toHeaderValue maxLen = .ok c := by
  refine ⟨fun r writable fits => parse_toHeaderValue writable fits,fun c writable fits => ?_⟩
  have read : readParams ChallengeParams.set {} c.toHeaderValue maxLen = c.params.foldlM (readParam ChallengeParams.set) {} :=
    readParams_writeParams _ _ (challenge_takes writable).written _ fits
  rw [DigestChallenge.parseWithLimit,read,(challenge_takes writable).read]
  rfl

namespace Sample

def quotedResponse : DigestResponse := ⟨"a\"b\\","c,d","e=f","sip:g","0",none,some 255,some .authInt,some .sha256,some ""⟩

def quotedChallenge : DigestChallenge := ⟨"\\","\",",some ", ",true,.sha512,some .auth⟩

theorem quoted_headers_read_back :
    DigestResponse.parseWithLimit quotedResponse.toHeaderValue 2048 = .ok quotedResponse ∧
      DigestChallenge.parseWithLimit quotedChallenge.toHeaderValue 2048 = .ok quotedChallenge :=
  ⟨(digest_headers_read_back 2048).1 _ (by constructor <;> simp [OneLine,quotedResponse]) (by decide +kernel),
    (digest_headers_read_back 2048).2 _ (by constructor <;> simp [OneLine,quotedChallenge]) (by decide +kernel)⟩

end Sample

end CheetahSignaling.SipDigest
