import CheetahSignaling.Framing
import CheetahSignaling.SipParser

/-! The stream parser sees the stream, not its chunks: what `popMessage` has decided stands whatever
bytes follow. One check decides too early. A buffer longer than the limit without a CR LF is refused as
too long a start line, and a line of exactly the limit is such a buffer when only its CR has come. The
error of a buffer that is one or two bytes longer has no offset, that of a still longer one has. -/
namespace CheetahSignaling.SipParser

open CrlfLines Framing Option
open List hiding after count head length

variable {config : SipParserConfig} {buffer more : List UInt8} {parser parser' : SipParser}

theorem skipBlank_head (buffer : List UInt8) : (skipBlank buffer).take 2 ≠ [13,10] := by
  fun_induction skipBlank buffer with
  | case1 rest ih => exact ih
  | case2 buffer other =>
    intro blank
    have shape := take_append_drop 2 buffer
    rw [blank] at shape
    exact other _ shape.symm

theorem skipBlank_eq (head : buffer.take 2 ≠ [13,10]) : skipBlank buffer = buffer := by
  unfold skipBlank
  split
  · exact absurd rfl head
  · rfl

theorem skipBlank_append : skipBlank (skipBlank buffer ++ more) = skipBlank (buffer ++ more) := by
  fun_induction skipBlank buffer with
  | case1 rest ih => exact ih
  | case2 buffer other => rfl

theorem skipBlank_two (two : 2 ≤ (skipBlank buffer).length) (more : List UInt8) :
    skipBlank (buffer ++ more) = skipBlank buffer ++ more := by
  have head := skipBlank_head buffer
  rw [← skipBlank_append]
  apply skipBlank_eq
  rwa [take_append_of_le_length two]

theorem scanLine_cons (filled : rest ≠ []) : scanLine limit i (a :: rest) =
      if i > limit then .tooLong i else if a = 13 ∧ rest.head? = some 10 then .line i else scanLine limit (i + 1) rest := by
  obtain ⟨b,rest,rfl⟩ := exists_cons_of_ne_nil filled
  rw [scanLine]
  simp

theorem scanLine_line (found : splitCrlf buffer = some (line,after)) (start : i ≤ limit + 1) :
    scanLine limit i buffer = if i + line.length ≤ limit then .line (i + line.length) else .tooLong (limit + 1) := by
  induction buffer generalizing i line with
  | nil => cases found
  | cons a rest ih =>
    have filled : rest ≠ [] := by
      rintro rfl
      simp [splitCrlf] at found
    rw [scanLine_cons filled]
    by_cases long : i > limit
    · rw [if_pos long,if_neg (by omega)]
      congr 1
      omega
    rw [if_neg long]
    by_cases cut : a = 13 ∧ rest.head? = some 10
    · rw [splitCrlf_head cut] at found
      cases found
      rw [if_pos cut,length_nil,if_pos (by omega)]
      rfl
    rw [splitCrlf_cons cut,map_eq_some_iff] at found
    obtain ⟨⟨line,after⟩,found,same⟩ := found
    cases same
    rw [if_neg cut,ih found (by omega),length_cons,Nat.add_assoc,Nat.add_comm 1]

theorem scanLine_uncut (uncut : splitCrlf buffer = none) (start : i ≤ limit + 1) :
    scanLine limit i buffer = if i + buffer.length ≤ limit + 2 then .more else .tooLong (limit + 1) := by
  induction buffer generalizing i with
  | nil =>
    rw [length_nil,if_pos (by omega)]
    rfl
  | cons a rest ih =>
    rw [length_cons]
    by_cases filled : rest = []
    · subst filled
      rw [length_nil,if_pos (by omega)]
      rfl
    have some := length_pos_iff.mpr filled
    rw [scanLine_cons filled]
    by_cases long : i > limit
    · rw [if_pos long,if_neg (by omega)]
      congr 1
      omega
    by_cases cut : a = 13 ∧ rest.head? = Option.some 10
    · rw [splitCrlf_head cut] at uncut
      cases uncut
    · rw [splitCrlf_cons cut,map_eq_none_iff] at uncut
      rw [if_neg long,if_neg cut,ih uncut (by omega),Nat.add_assoc,Nat.add_comm 1]

def startLineTooLong (offset : Option Nat) : LocatedError := ⟨⟨.startLineTooLong,"start line exceeds limit"⟩,offset⟩

theorem parseStartLine_line (found : splitCrlf (skipBlank buffer) = some (line,after))
    (fits : line.length ≤ config.maxStartLineBytes) :
    parseStartLine config buffer = (Utf8.text line).elim
        (some (.error ⟨⟨.invalidStartLine,"start line is not valid UTF-8"⟩,some line.length⟩),skipBlank buffer)
        fun line => (some (.ok line),after) := by
  have scanned := scanLine_line found (Nat.zero_le (config.maxStartLineBytes + 1))
  rw [Nat.zero_add,if_pos fits] at scanned
  have shape := (splitCrlf_eq found).1
  have before : (skipBlank buffer).take line.length = line := by rw [shape,take_left]
  have behind : (skipBlank buffer).drop (line.length + 2) = after := by rw [shape,drop_append]; simp
  simp only [parseStartLine,scanned,before,behind]
  cases Utf8.text line <;> rfl

theorem parseStartLine_long (found : splitCrlf (skipBlank buffer) = some (line,after))
    (long : config.maxStartLineBytes < line.length) :
    parseStartLine config buffer =
    (some (.error (startLineTooLong (some (config.maxStartLineBytes + 1)))),skipBlank buffer) := by
  have scanned := scanLine_line found (Nat.zero_le (config.maxStartLineBytes + 1))
  rw [Nat.zero_add,if_neg (by omega)] at scanned
  simp [parseStartLine,scanned,startLineTooLong]

theorem parseStartLine_short (uncut : splitCrlf (skipBlank buffer) = none)
    (short : (skipBlank buffer).length ≤ config.maxStartLineBytes) :
    parseStartLine config buffer = (none,skipBlank buffer) := by
  have scanned := scanLine_uncut uncut (Nat.zero_le (config.maxStartLineBytes + 1))
  rw [Nat.zero_add,if_pos (by omega)] at scanned
  simp [parseStartLine,scanned,if_neg (Nat.not_lt.mpr short)]

/-- The offset of a line without CR LF that is too long. -/
def tooLongOffset (config : SipParserConfig) (length : Nat) : Option Nat :=
  if length ≤ config.maxStartLineBytes + 2 then none else some (config.maxStartLineBytes + 1)

theorem parseStartLine_uncut (uncut : splitCrlf (skipBlank buffer) = none)
    (long : config.maxStartLineBytes < (skipBlank buffer).length) :
    parseStartLine config buffer =
      (some (.error (startLineTooLong (tooLongOffset config (skipBlank buffer).length))),skipBlank buffer) := by
  have scanned := scanLine_uncut uncut (Nat.zero_le (config.maxStartLineBytes + 1))
  rw [Nat.zero_add] at scanned
  unfold tooLongOffset
  split at scanned
  · rename_i near
    simp [parseStartLine,scanned,if_pos long,startLineTooLong,near]
  · rename_i beyond
    simp [parseStartLine,scanned,startLineTooLong,beyond]

/-- What a start line can be: complete, not UTF-8, too long, or still to come. -/
inductive StartLine (config : SipParserConfig) (buffer : List UInt8) :
    Option (Except LocatedError String) × List UInt8 → Prop
  | complete (found : splitCrlf (skipBlank buffer) = some (line,after)) (fits : line.length ≤ config.maxStartLineBytes)
      (read : Utf8.text line = some text) : StartLine config buffer (some (.ok text),after)
  | garbled (found : splitCrlf (skipBlank buffer) = some (line,after)) (fits : line.length ≤ config.maxStartLineBytes)
      (read : Utf8.text line = none) :
      StartLine config buffer
        (some (.error ⟨⟨.invalidStartLine,"start line is not valid UTF-8"⟩,some line.length⟩),skipBlank buffer)
  | long (found : splitCrlf (skipBlank buffer) = some (line,after)) (long : config.maxStartLineBytes < line.length) :
      StartLine config buffer
        (some (.error (startLineTooLong (some (config.maxStartLineBytes + 1)))),skipBlank buffer)
  | refused (uncut : splitCrlf (skipBlank buffer) = none) (long : config.maxStartLineBytes < (skipBlank buffer).length) :
      StartLine config buffer
        (some (.error (startLineTooLong (tooLongOffset config (skipBlank buffer).length))),skipBlank buffer)
  | waits (uncut : splitCrlf (skipBlank buffer) = none) (short : (skipBlank buffer).length ≤ config.maxStartLineBytes) :
      StartLine config buffer (none,skipBlank buffer)

theorem startLine_cases (config : SipParserConfig) (buffer : List UInt8) :
    StartLine config buffer (parseStartLine config buffer) := by
  cases found : splitCrlf (skipBlank buffer) with
  | none =>
    by_cases short : (skipBlank buffer).length ≤ config.maxStartLineBytes
    · rw [parseStartLine_short found short]
      exact .waits found short
    · rw [parseStartLine_uncut found (Nat.lt_of_not_le short)]
      exact .refused found (Nat.lt_of_not_le short)
  | some halves =>
    by_cases fits : halves.1.length ≤ config.maxStartLineBytes
    · rw [parseStartLine_line found fits]
      cases read : Utf8.text halves.1 with
      | none => exact .garbled found fits read
      | some text => exact .complete found fits read
    · rw [parseStartLine_long found (Nat.lt_of_not_le fits)]
      exact .long found (Nat.lt_of_not_le fits)

/-- The line without CR LF is one or two bytes longer than the limit, and there is more of the stream than that; or its
last byte is the CR, and the LF is still to come. -/
def CutLine (config : SipParserConfig) (buffer more : List UInt8) : Prop :=
  splitCrlf (skipBlank buffer) = none ∧ config.maxStartLineBytes < (skipBlank buffer).length ∧
    (skipBlank buffer).length ≤ config.maxStartLineBytes + 2 ∧
    (config.maxStartLineBytes + 2 < (skipBlank buffer).length + more.length ∨
      (skipBlank buffer).getLast? = some 13 ∧ more.head? = some 10)

theorem splitCrlf_more (found : splitCrlf (skipBlank buffer) = some (line,after)) (more : List UInt8) :
    skipBlank (buffer ++ more) = skipBlank buffer ++ more ∧
      splitCrlf (skipBlank (buffer ++ more)) = some (line,after ++ more) := by
  have two : 2 ≤ (skipBlank buffer).length := by
    rw [(splitCrlf_eq found).1,length_append,length_cons,length_cons]
    omega
  have same := skipBlank_two two more
  exact ⟨same,same ▸ splitCrlf_append found⟩

theorem parseStartLine_gives (given : parseStartLine config buffer = (some (.ok text),after)) :
    parseStartLine config (buffer ++ more) = (some (.ok text),after ++ more) := by
  have cases := startLine_cases config buffer
  rw [given] at cases
  cases cases with
  | complete found fits read => rw [parseStartLine_line (splitCrlf_more found more).2 fits,read,elim_some]

theorem splitCrlf_refused (uncut : splitCrlf (skipBlank buffer) = none)
    (long : config.maxStartLineBytes < (skipBlank buffer).length) (whole : ¬CutLine config buffer more) :
    skipBlank (buffer ++ more) = skipBlank buffer ++ more ∧ (splitCrlf (skipBlank (buffer ++ more)) = none ∨
      ∃ line after, splitCrlf (skipBlank (buffer ++ more)) = some (line,after) ∧ config.maxStartLineBytes < line.length) := by
  have same : skipBlank (buffer ++ more) = skipBlank buffer ++ more := by
    by_cases two : 2 ≤ (skipBlank buffer).length
    · exact skipBlank_two two more
    obtain ⟨b,one⟩ := length_eq_one_iff.mp (show (skipBlank buffer).length = 1 by omega)
    rw [← skipBlank_append,one]
    apply skipBlank_eq
    intro blank
    apply whole
    rw [singleton_append,take_succ_cons,List.cons.injEq] at blank
    have next : more.head? = some 10 := by
      cases more with
      | nil => cases blank.2
      | cons c more => simpa using blank.2
    exact ⟨uncut,long,by rw [one,length_singleton]; omega,.inr ⟨by rw [one,blank.1]; rfl,next⟩⟩
  refine ⟨same,?_⟩
  rw [same]
  cases found : splitCrlf (skipBlank buffer ++ more) with
  | none => exact .inl rfl
  | some halves =>
    obtain ⟨line,after⟩ := halves
    refine .inr ⟨line,after,rfl,?_⟩
    rcases splitCrlf_late uncut found with later | ⟨shape,next⟩
    · omega
    · have length : (skipBlank buffer).length = line.length + 1 := by rw [shape,length_append]; rfl
      by_contra short
      exact whole ⟨uncut,long,by omega,.inr ⟨by rw [shape,List.getLast?_concat],next⟩⟩

theorem parseStartLine_fails (failed : parseStartLine config buffer = (some (.error e),rest))
    (whole : ¬CutLine config buffer more) : ∃ rest', parseStartLine config (buffer ++ more) = (some (.error e),rest') := by
  have cases := startLine_cases config buffer
  rw [failed] at cases
  cases cases with
  | garbled found fits read =>
    have later := parseStartLine_line (splitCrlf_more found more).2 fits
    rw [read,elim_none] at later
    exact ⟨_,later⟩
  | long found long => exact ⟨_,parseStartLine_long (splitCrlf_more found more).2 long⟩
  | refused uncut long =>
    obtain ⟨same,later⟩ := splitCrlf_refused uncut long whole
    have length : (skipBlank (buffer ++ more)).length = (skipBlank buffer).length + more.length := by rw [same,length_append]
    have far : (skipBlank buffer).length ≤ config.maxStartLineBytes + 2 →
        (skipBlank buffer).length + more.length ≤ config.maxStartLineBytes + 2 := by
      intro near
      by_contra beyond
      exact whole ⟨uncut,long,near,.inl (Nat.lt_of_not_le beyond)⟩
    rcases later with uncut' | ⟨line,after,found,long'⟩
    · have again := parseStartLine_uncut uncut' (by omega : config.maxStartLineBytes < _)
      have offset : tooLongOffset config (skipBlank (buffer ++ more)).length = tooLongOffset config
        (skipBlank buffer).length := by
        unfold tooLongOffset
        split <;> split <;> first | rfl | omega
      rw [offset] at again
      exact ⟨_,again⟩
    · have ends := congrArg List.length (splitCrlf_eq found).1
      rw [length,length_append,length_cons,length_cons] at ends
      have offset : tooLongOffset config (skipBlank buffer).length = some (config.maxStartLineBytes + 1) :=
        if_neg fun near => by have := far near; omega
      rw [offset]
      exact ⟨_,parseStartLine_long found long'⟩

theorem skipBlank_length : (skipBlank buffer).length ≤ buffer.length := by
  fun_induction skipBlank buffer with
  | case1 rest ih => exact Nat.le_trans ih (Nat.le_add_right _ 2)
  | case2 buffer other => exact Nat.le_refl _

theorem parseStartLine_length (given : parseStartLine config buffer = (some (.ok text),after)) :
    after.length ≤ buffer.length := by
  have cases := startLine_cases config buffer
  rw [given] at cases
  cases cases with
  | complete found fits read =>
    refine Nat.le_trans ?_ skipBlank_length
    rw [(splitCrlf_eq found).1,length_append,length_cons,length_cons]
    omega

theorem parseStartLine_waits (waiting : parseStartLine config buffer = (none,rest)) :
    parseStartLine config (rest ++ more) = parseStartLine config (buffer ++ more) := by
  have cases := startLine_cases config buffer
  rw [waiting] at cases
  cases cases with
  | waits uncut short => simp [parseStartLine,skipBlank_append]

def extend (more : List UInt8) : SipHeaders × Nat × List UInt8 → SipHeaders × Nat × List UInt8
  | (headers,length,rest) => (headers,length,rest ++ more)

theorem endHeaders_append (streaming : config.datagramMode = false) :
    endHeaders config headers (rest ++ more) = (endHeaders config headers rest).map (extend more) := by
  have same : contentLength config headers (rest ++ more) = contentLength config headers rest := by
    simp only [contentLength,streaming]
    rfl
  rw [endHeaders,endHeaders,same]
  cases contentLength config headers rest with
  | error e => rfl
  | ok pair =>
    show (if pair.2 > config.maxBodyBytes then _ else _) = Except.map _ (if pair.2 > config.maxBodyBytes then _ else _)
    split <;> rfl

theorem located_map : located offset (x.map f) = (located offset x).map f := by
  cases x <;> rfl

theorem headerLoop_append (streaming : config.datagramMode = false)
    (ended : headerLoop config none fuel consumed count blockSize headers rest = some result) :
    headerLoop config none (fuel + spare) consumed count blockSize headers (rest ++ more) = some (result.map (extend more)) := by
  induction fuel generalizing consumed count blockSize headers rest with
  | zero => cases ended
  | succ fuel ih =>
    rw [Nat.succ_add]
    unfold headerLoop at ended ⊢
    by_cases large : blockSize > config.maxHeaderBlockBytes
    · rw [if_pos large] at ended ⊢
      cases ended
      rfl
    rw [if_neg large] at ended ⊢
    by_cases many : count > config.maxHeaders
    · rw [if_pos many] at ended ⊢
      cases ended
      rfl
    rw [if_neg many] at ended ⊢
    by_cases short : rest.length ≤ 1
    · rw [if_pos short] at ended
      cases ended
    have two : 2 ≤ rest.length := by omega
    have longer : ¬(rest ++ more).length ≤ 1 := by rw [length_append]; omega
    rw [if_neg short] at ended
    rw [if_neg longer,take_append_of_le_length two,drop_append_of_le_length two]
    by_cases blank : rest.take 2 = [13,10]
    · rw [if_pos blank] at ended ⊢
      cases ended
      simp [profileHas,endHeaders_append streaming,located_map]
    rw [if_neg blank] at ended ⊢
    cases found : splitCrlf rest with
    | none => simp only [found] at ended; cases ended
    | some halves =>
      obtain ⟨line,after⟩ := halves
      simp only [found] at ended
      simp only [splitCrlf_append found]
      cases parsed : parseHeaderLine config none line with
      | error e =>
        simp only [parsed] at ended ⊢
        cases ended
        rfl
      | ok header =>
        simp only [parsed] at ended ⊢
        exact ih ended

theorem parseHeaders_append (streaming : config.datagramMode = false) (more : List UInt8)
    (ended : parseHeaders config none buffer = some result) :
    parseHeaders config none (buffer ++ more) = some (result.map (extend more)) := by
  rw [parseHeaders,length_append,Nat.add_right_comm]
  exact headerLoop_append streaming ended

def push (parser : SipParser) (data : List UInt8) : SipParser := { parser with buffer := parser.buffer ++ data }

/-- The parser of a stream without a compatibility profile. -/
structure Streams (parser : SipParser) : Prop where
  streaming : parser.config.datagramMode = false
  plain : parser.profile = none

theorem popBody_waits (waiting : popBody parser line headers length = (none,parser')) :
    parser' = { parser with state := .body line headers length } := by
  unfold popBody at waiting
  split at waiting
  · cases waiting
    rfl
  · cases waiting

theorem popBody_push (ended : popBody parser line headers length = (some result,parser')) :
    popBody (parser.push more) line headers length = (some result,parser'.push more) := by
  unfold popBody at ended ⊢
  by_cases short : parser.buffer.length < length
  · rw [if_pos short] at ended
    cases ended
  have enough : length ≤ parser.buffer.length := Nat.not_lt.mp short
  have longer : ¬(parser.push more).buffer.length < length := by
    simp only [push,length_append]
    omega
  rw [if_neg short] at ended
  cases ended
  rw [if_neg longer]
  simp [push,take_append_of_le_length enough,drop_append_of_le_length enough]

theorem popBody_state (state : ParserState) :
    popBody { parser with state := state } line headers length = popBody parser line headers length := by
  simp [popBody]

theorem popHeaders_state (state : ParserState) : popHeaders { parser with state := state } line = popHeaders parser line := by
  simp [popHeaders,popBody,reset]

theorem popHeaders_waits (streams : Streams parser) (waiting : popHeaders parser line = (none,parser')) :
    popHeaders (parser.push more) line = popMessage (parser'.push more) := by
  obtain ⟨config,_,state,buffer⟩ := parser
  obtain ⟨streaming,rfl⟩ := streams
  unfold popHeaders at waiting
  cases parsed : parseHeaders config none buffer with
  | none =>
    simp only [parsed] at waiting
    obtain rfl := (Prod.mk.inj waiting).2
    exact (popHeaders_state (.headers line)).symm
  | some outcome =>
    have later := parseHeaders_append streaming more parsed
    match outcome with
    | .error e => simp only [parsed] at waiting; cases waiting
    | .ok (headers,length,rest) =>
      simp only [parsed] at waiting
      obtain rfl := popBody_waits waiting
      simp only [popHeaders,push,later]
      exact (popBody_state (.body line headers length)).symm

theorem popHeaders_push (streams : Streams parser) (ended : popHeaders parser line = (some result,parser')) :
    ∃ parser'', popHeaders (parser.push more) line = (some result,parser'') ∧ (result.isOk → parser'' = parser'.push more) := by
  obtain ⟨streaming,plain⟩ := streams
  unfold popHeaders at ended
  rw [plain] at ended
  cases parsed : parseHeaders parser.config none parser.buffer with
  | none =>
    rw [parsed] at ended
    cases ended
  | some outcome =>
    rw [parsed] at ended
    have later := parseHeaders_append streaming more parsed
    match outcome with
    | .error e =>
      cases ended
      refine ⟨(parser.push more).reset,?_,nofun⟩
      simp [popHeaders,push,plain,later,Except.map]
    | .ok (headers,length,rest) =>
      refine ⟨parser'.push more,?_,fun _ => rfl⟩
      simp only [popHeaders,push,plain,later]
      exact popBody_push ended

theorem popBody_given (given : popBody parser line headers length = (some result,parser')) :
    parser' = { parser with state := .startLine, buffer := parser.buffer.drop length } := by
  unfold popBody at given
  split at given
  · cases given
  · exact (Prod.mk.inj given).2.symm

theorem popHeaders_given (streams : Streams parser) (given : popHeaders parser line = (some (.ok message),parser')) :
    parser'.state = .startLine ∧ parser'.buffer.length < parser.buffer.length := by
  unfold popHeaders at given
  rw [streams.plain] at given
  cases parsed : parseHeaders parser.config none parser.buffer with
  | none =>
    rw [parsed] at given
    cases given
  | some outcome =>
    rw [parsed] at given
    match outcome with
    | .error e => cases given
    | .ok (headers,length,rest) =>
      obtain ⟨lines,reads,-⟩ := headerLoop_reads parsed
      have shorter := reads.length
      obtain rfl := popBody_given given
      refine ⟨rfl,?_⟩
      show (rest.drop length).length < _
      rw [length_drop]
      omega

def weight (parser : SipParser) : Nat :=
  match parser.state with
  | .body _ _ _ => parser.buffer.length + 1
  | _ => parser.buffer.length

def decoder : Decoder SipParser UInt8 LocatedError SipMessage where
  feed := feed
  pop := popMessage
  weight := weight

/-- The stream is not cut where a start line passes its limit. -/
def Unsplit (parser : SipParser) (more : List UInt8) : Prop :=
  ¬(parser.state = .startLine ∧ CutLine parser.config parser.buffer more)

theorem feed_ok (fed : parser.feed data = .ok parser') : parser' = parser.push data := by
  unfold feed at fed
  split at fed
  · cases fed
  · cases fed
    rfl

theorem popBody_keeps : (popBody parser line headers length).2.config = parser.config ∧
    (popBody parser line headers length).2.profile = parser.profile := by
  unfold popBody
  split <;> exact ⟨rfl,rfl⟩

theorem popHeaders_keeps : (popHeaders parser line).2.config = parser.config ∧
    (popHeaders parser line).2.profile = parser.profile := by
  unfold popHeaders
  split
  · exact ⟨rfl,rfl⟩
  · exact ⟨rfl,rfl⟩
  · exact popBody_keeps

theorem popMessage_keeps (parser : SipParser) : parser.popMessage.2.config = parser.config ∧
    parser.popMessage.2.profile = parser.profile := by
  unfold popMessage
  split
  · split
    · exact ⟨rfl,rfl⟩
    · exact ⟨rfl,rfl⟩
    · exact popHeaders_keeps
  · exact popHeaders_keeps
  · exact popBody_keeps

section

variable (streams : Streams parser)

include streams

theorem popMessage_waits (waiting : parser.popMessage = (none,parser')) :
    (parser.push more).popMessage = (parser'.push more).popMessage := by
  obtain ⟨config,profile,state,buffer⟩ := parser
  match state with
  | .startLine =>
    cases start : parseStartLine config buffer with
    | mk out rest =>
      match out with
      | none =>
        simp only [popMessage,start] at waiting
        obtain rfl := (Prod.mk.inj waiting).2
        simp [popMessage,push,parseStartLine_waits start,reset]
      | some (.error e) => simp only [popMessage,start] at waiting; cases waiting
      | some (.ok line) =>
        simp only [popMessage,start] at waiting
        have held : Streams ⟨config,profile,.startLine,rest⟩ := ⟨streams.streaming,streams.plain⟩
        rw [← popHeaders_waits held waiting]
        simp [popMessage,push,parseStartLine_gives start]
  | .headers line => exact popHeaders_waits streams waiting
  | .body line headers length =>
    obtain rfl := popBody_waits waiting
    rfl

theorem popMessage_push (ended : parser.popMessage = (some result,parser')) :
    (∃ parser'', (parser.push more).popMessage = (some result,parser'') ∧ (result.isOk → parser'' = parser'.push more)) ∨
      ∃ e rest, parser.state = .startLine ∧ parseStartLine parser.config parser.buffer = (some (.error e),rest) ∧
        result = .error e := by
  obtain ⟨config,profile,state,buffer⟩ := parser
  match state with
  | .startLine =>
    cases start : parseStartLine config buffer with
    | mk out rest =>
      match out with
      | none => simp only [popMessage,start] at ended; cases ended
      | some (.error e) =>
        simp only [popMessage,start] at ended
        cases ended
        exact .inr ⟨e,rest,rfl,rfl,rfl⟩
      | some (.ok line) =>
        simp only [popMessage,start] at ended
        have held : Streams ⟨config,profile,.startLine,rest⟩ := ⟨streams.streaming,streams.plain⟩
        obtain ⟨parser'',again,kept⟩ := popHeaders_push held ended
        refine .inl ⟨parser'',?_,kept⟩
        simp only [popMessage,push,parseStartLine_gives start]
        exact again
  | .headers line => exact .inl (popHeaders_push streams ended)
  | .body line headers length => exact .inl ⟨_,popBody_push ended,fun _ => rfl⟩

theorem popMessage_gives (given : parser.popMessage = (some (.ok message),parser')) :
    (parser.push more).popMessage = (some (.ok message),parser'.push more) := by
  rcases popMessage_push streams given with ⟨parser'',again,kept⟩ | ⟨e,rest,-,-,wrong⟩
  · rw [again,kept rfl]
  · cases wrong

theorem popMessage_fails (failed : parser.popMessage = (some (.error e),parser'))
    (whole : Unsplit parser more) :
    ∃ parser'', (parser.push more).popMessage = (some (.error e),parser'') := by
  rcases popMessage_push streams failed with ⟨parser'',again,-⟩ | ⟨e',rest,fresh,start,same⟩
  · exact ⟨parser'',again⟩
  cases same
  obtain ⟨rest',again⟩ := parseStartLine_fails start fun cut => whole ⟨fresh,cut⟩
  refine ⟨(parser.push more).reset,?_⟩
  simp [popMessage,push,fresh,again]

theorem popMessage_weight (given : parser.popMessage = (some (.ok message),parser')) :
    parser'.weight < parser.weight := by
  obtain ⟨config,profile,state,buffer⟩ := parser
  match state with
  | .startLine =>
    cases start : parseStartLine config buffer with
    | mk out rest =>
      match out with
      | none => simp only [popMessage,start] at given; cases given
      | some (.error e) => simp only [popMessage,start] at given; cases given
      | some (.ok line) =>
        simp only [popMessage,start] at given
        have held : Streams ⟨config,profile,.startLine,rest⟩ := ⟨streams.streaming,streams.plain⟩
        obtain ⟨fresh,shorter⟩ := popHeaders_given held given
        have cut : rest.length ≤ buffer.length := parseStartLine_length start
        simp only [weight,fresh] at shorter ⊢
        omega
  | .headers line =>
    obtain ⟨fresh,shorter⟩ := popHeaders_given streams given
    simp only [weight,fresh]
    exact shorter
  | .body line headers length =>
    obtain rfl := popBody_given given
    show (buffer.drop length).length < buffer.length + 1
    rw [length_drop]
    omega

end

theorem decoder_incremental : decoder.Incremental Streams push Unsplit where
  feed_ok := feed_ok
  push_nil parser := by simp [push]
  push_append parser a b := by simp [push]
  inv_push _ streams := ⟨streams.streaming,streams.plain⟩
  inv_pop {parser} streams := by
    obtain ⟨config,profile⟩ := popMessage_keeps parser
    exact ⟨config ▸ streams.streaming,profile.trans streams.plain⟩
  waits more streams waiting := popMessage_waits streams waiting
  gives more streams given := popMessage_gives streams given
  fails streams failed whole := popMessage_fails streams failed whole
  progress streams given := popMessage_weight streams given

instance (parser : SipParser) (more : List UInt8) : Decidable (Unsplit parser more) :=
  inferInstanceAs (Decidable (¬(_ ∧ _ ∧ _ ∧ _ ∧ (_ ∨ _))))

def received (config : SipParserConfig) (chunks : List (List UInt8)) : List SipMessage × Except LocatedError SipParser :=
  decoder.receive (new config) chunks

/-- However a stream is cut into chunks that the buffer has room for, it gives the same messages up to
and including the first error, as long as no chunk ends between the CR and the LF of a start line of
exactly the greatest length or in the first two bytes beyond that length. -/
theorem received_chunks (config : SipParserConfig) (streaming : config.datagramMode = false) (chunks chunks' : List (List UInt8))
    (same : chunks.flatten = chunks'.flatten) (whole : decoder.Whole Unsplit (new config) chunks)
    (whole' : decoder.Whole Unsplit (new config) chunks') : received config chunks = received config chunks' :=
  Decoder.receive_flatten decoder_incremental ⟨streaming,rfl⟩ rfl same whole whole'

namespace Sample

def limits : SipParserConfig := { maxStartLineBytes := 14 }

def stream : List UInt8 := Utf8.bytes "SIP/2.0 200 OK\r\nContent-Length: 2\r\n\r\nhi\r\n"

/-- Cut before the CR, in a header, and in the body. -/
theorem cut_elsewhere :
    received limits [stream.take 14,(stream.drop 14).take 9,stream.drop 23] = received limits [stream.take 39,stream.drop 39] ∧
      (received limits [stream.take 39,stream.drop 39]).1.length = 1 := by
  refine ⟨received_chunks limits rfl _ _ ?_ ?_ ?_,?_⟩
  · decide +kernel
  · decide +kernel
  · decide +kernel
  · decide +kernel

/-- Cut between CR and LF the start line is refused; at once it is accepted. -/
theorem cut_behind_carriage_return :
    ∃ config chunks chunks', config.datagramMode = false ∧ chunks.flatten = chunks'.flatten ∧
      decoder.Whole (fun _ _ => True) (new config) chunks ∧ decoder.Whole (fun _ _ => True) (new config) chunks' ∧
      (received config chunks).1.length = 0 ∧ (received config chunks').1.length = 1 := by
  refine ⟨limits,[stream.take 15,stream.drop 15],[stream],rfl,?_,?_,?_,?_,?_⟩
  · decide +kernel
  · decide +kernel
  · decide +kernel
  · decide +kernel
  · decide +kernel

end Sample

end CheetahSignaling.SipParser
