import CheetahSignaling.Compatibility
import CheetahSignaling.CrlfLines
import CheetahSignaling.SipWire

/-! The SIP parser for datagrams and streams: a start line, header lines and a body of the length the
headers give. What is incomplete stays in the buffer until more bytes are fed. -/
namespace CheetahSignaling

open Str
open List hiding after count length toString
open CrlfLines (splitCrlf splitCrlf_eq)

structure SipParserConfig where
  maxStartLineBytes : Nat := 4096
  maxHeaders : Nat := 256
  maxHeaderBlockBytes : Nat := 65536
  maxHeaderLineBytes : Nat := 4096
  maxBodyBytes : Nat := 2097152
  maxBufferBytes : Nat := 8388608
  datagramMode : Bool := false

structure LocatedError where
  error : SipError
  offset : Option Nat
deriving DecidableEq

inductive ParserState where
  | startLine
  | headers (startLine : String)
  | body (startLine : String) (headers : SipHeaders) (contentLength : Nat)
deriving DecidableEq

structure SipParser where
  config : SipParserConfig
  profile : Option CompatibilityProfile
  state : ParserState
  buffer : List UInt8

namespace SipParser

def newWithProfile (config : SipParserConfig) (profile : Option CompatibilityProfile) : SipParser :=
  ⟨config,profile,.startLine,[]⟩

def new (config : SipParserConfig) : SipParser := newWithProfile config none

def profileHas (profile : Option CompatibilityProfile) (capability : CompatibilityCapability) : Bool :=
  profile.any fun profile => profile.has capability

def feed (parser : SipParser) (data : List UInt8) : Except LocatedError SipParser :=
  if parser.buffer.length + data.length > parser.config.maxBufferBytes then
    .error ⟨⟨.bufferTooLarge,"parser buffer exceeds limit"⟩,none⟩
  else .ok { parser with buffer := parser.buffer ++ data }

def skipBlank : List UInt8 → List UInt8
  | 13 :: 10 :: rest => skipBlank rest
  | buffer => buffer

inductive Scan where
  | line (length : Nat)
  | tooLong (offset : Nat)
  | more

/-- Looks for CR LF from index `i` on, up to a limit. -/
def scanLine (limit i : Nat) : List UInt8 → Scan
  | a :: b :: rest =>
    if i > limit then .tooLong i
    else if a = 13 ∧ b = 10 then .line i
    else scanLine limit (i + 1) (b :: rest)
  | _ => .more

/-- The start line, once it is complete, and the buffer that remains. -/
def parseStartLine (config : SipParserConfig) (buffer : List UInt8) :
    Option (Except LocatedError String) × List UInt8 :=
  let buffer := skipBlank buffer
  match scanLine config.maxStartLineBytes 0 buffer with
  | .tooLong i => (some (.error ⟨⟨.startLineTooLong,"start line exceeds limit"⟩,some i⟩),buffer)
  | .line i =>
    match Utf8.text (buffer.take i) with
    | none => (some (.error ⟨⟨.invalidStartLine,"start line is not valid UTF-8"⟩,some i⟩),buffer)
    | some line => (some (.ok line),buffer.drop (i + 2))
  | .more =>
    if buffer.length > config.maxStartLineBytes then
      (some (.error ⟨⟨.startLineTooLong,"start line exceeds limit"⟩,none⟩),buffer)
    else (none,buffer)

def normalizeCseqValue (value : String) : String :=
  let trimmed := trim value.toList
  match trimmed.dropWhile (!isWhitespace ·) with
  | [] => value
  | _ :: method =>
    String.ofList (trimmed.takeWhile (!isWhitespace ·) ++ ' ' :: (trimStart method).map Char.toUpper)

def isAsciiWhitespace (b : UInt8) : Bool := b = 32 || b = 9 || b = 10 || b = 12 || b = 13

def isNameByte (b : UInt8) : Bool := (48 ≤ b && b ≤ 57) || (65 ≤ b && b ≤ 90) || (97 ≤ b && b ≤ 122) ||
    (Utf8.bytes "-._!%$*&+^`\x7b|\x7d~").contains b

/-- The line behind a blank line is complete and looks like a header. -/
def looksLikeHeaderAfterBlank (rest : List UInt8) : Bool :=
  match splitCrlf rest with
  | none => false
  | some (line,_) =>
    let name := line.takeWhile (· ≠ 58)
    !(line.head?.all isAsciiWhitespace) && line.contains 58 && name ≠ [] && name.all isNameByte

def parseHeaderLine (config : SipParserConfig) (profile : Option CompatibilityProfile) (line : List UInt8) :
    Except SipError (HeaderName × String) :=
  if line.length > config.maxHeaderLineBytes then .error ⟨.headerTooLong,"header line exceeds limit"⟩
  else
    match Utf8.text line with
    | none => .error ⟨.invalidHeader,"header is not valid UTF-8"⟩
    | some line =>
      if line.toList.head? = some ' ' ∨ line.toList.head? = some '\t' then
        .error ⟨.invalidHeader,"header continuation not supported"⟩
      else
        match splitOnce [':'] line.toList with
        | none => .error ⟨.invalidHeader,"missing colon"⟩
        | some (name,value) =>
          let name := HeaderName.parse (String.ofList (trim name))
          let value := String.ofList (trim value)
          .ok (name,if name.same .cSeq && profileHas profile .headerNormalization then normalizeCseqValue value else value)

def contentLength (config : SipParserConfig) (headers : SipHeaders) (rest : List UInt8) :
    Except SipError (SipHeaders × Nat) :=
  match headers.get .contentLength with
  | some value =>
    let trimmed := trim value.toList
    if trimmed = [] then .error ⟨.invalidHeader,"Content-Length header is empty"⟩
    else
      match parseUnsigned (2 ^ 64) trimmed with
      | some n => .ok (headers,n)
      | none => .error ⟨.invalidHeader,"Content-Length header is not a non-negative integer"⟩
  | none =>
    if config.datagramMode then .ok (headers ++ [(.contentLength,toString rest.length)],rest.length)
    else .error ⟨.invalidFraming,"Content-Length is required for stream framing"⟩

def endHeaders (config : SipParserConfig) (headers : SipHeaders) (rest : List UInt8) :
    Except SipError (SipHeaders × Nat × List UInt8) := do
  let (headers,length) ← contentLength config headers rest
  if length > config.maxBodyBytes then .error ⟨.bodyTooLarge,"Content-Length exceeds body limit"⟩
  else .ok (headers,length,rest)

def located (offset : Nat) : Except SipError α → Except LocatedError α := Except.mapError fun e => ⟨e,some offset⟩

def headerLoop (config : SipParserConfig) (profile : Option CompatibilityProfile) :
    (fuel consumed count blockSize : Nat) → SipHeaders → (rest : List UInt8) →
      Option (Except LocatedError (SipHeaders × Nat × List UInt8))
  | 0, _, _, _, _, _ => none
  | fuel + 1, consumed, count, blockSize, headers, rest =>
    if blockSize > config.maxHeaderBlockBytes then
      some (.error ⟨⟨.headersTooLarge,"header block exceeds limit"⟩,some consumed⟩)
    else if count > config.maxHeaders then some (.error ⟨⟨.tooManyHeaders,"too many headers"⟩,some consumed⟩)
    else if rest.length ≤ 1 then none
    else if rest.take 2 = [13,10] then
      if profileHas profile .headerNormalization && looksLikeHeaderAfterBlank (rest.drop 2) then
        headerLoop config profile fuel (consumed + 2) count blockSize headers (rest.drop 2)
      else some (located (consumed + 2) (endHeaders config headers (rest.drop 2)))
    else
      match splitCrlf rest with
      | none => none
      | some (line,after) =>
        match parseHeaderLine config profile line with
        | .error e => some (.error ⟨e,some consumed⟩)
        | .ok header =>
          headerLoop config profile fuel (consumed + (line.length + 2)) (count + 1) (blockSize + (line.length + 2))
            (headers ++ [header]) after

def parseHeaders (config : SipParserConfig) (profile : Option CompatibilityProfile) (buffer : List UInt8) :
    Option (Except LocatedError (SipHeaders × Nat × List UInt8)) :=
  headerLoop config profile (buffer.length + 1) 0 0 0 [] buffer

/-- Header lines up to the blank line, and what stands behind it. -/
inductive Reads (config : SipParserConfig) : List UInt8 → SipHeaders → List UInt8 → Prop
  | blank : Reads config (13 :: 10 :: rest) [] rest
  | line (filled : line ≠ []) (uncut : splitCrlf line = none) (parsed : parseHeaderLine config none line = .ok header)
      (later : Reads config after headers rest) : Reads config (line ++ 13 :: 10 :: after) (header :: headers) rest

section Reading

variable {config : SipParserConfig}

theorem endHeaders_ok (ended : endHeaders config headers rest = .ok (headers',length,rest')) :
    contentLength config headers rest = .ok (headers',length) ∧ length ≤ config.maxBodyBytes ∧ rest' = rest := by
  obtain ⟨pair,counted,ended⟩ := Outcomes.bind_eq_ok ended
  obtain ⟨small,same⟩ := Outcomes.passed_of_ok ended
  cases same
  exact ⟨counted,Nat.not_lt.mp small,rfl⟩

theorem located_ok (returned : located offset x = .ok a) : x = .ok a := by
  cases x with
  | error e => cases returned
  | ok a => exact congrArg _ (Except.ok.inj returned)

/-- Without a profile the loop reads the header lines one after the other. -/
theorem headerLoop_reads
    (ended : headerLoop config none fuel consumed count blockSize headers rest = some (.ok (headers',length,rest'))) :
    ∃ lines, Reads config rest lines rest' ∧ endHeaders config (headers ++ lines) rest' = .ok (headers',length,rest') := by
  induction fuel generalizing consumed count blockSize headers rest with
  | zero => cases ended
  | succ fuel ih =>
    unfold headerLoop at ended
    split_ifs at ended with large many short blank normalized
    · cases ended
    · cases ended
    · cases normalized
    · obtain returned := located_ok (Option.some.inj ended)
      obtain ⟨-,-,rfl⟩ := endHeaders_ok returned
      refine ⟨[],?_,by rwa [append_nil]⟩
      have shape := take_append_drop 2 rest
      rw [blank] at shape
      rw [← shape]
      exact .blank
    cases found : splitCrlf rest with
    | none => simp only [found] at ended; cases ended
    | some halves =>
      obtain ⟨line,after⟩ := halves
      obtain ⟨rfl,uncut⟩ := splitCrlf_eq found
      simp only [found] at ended
      cases parsed : parseHeaderLine config none line with
      | error e => simp only [parsed] at ended; cases ended
      | ok header =>
        simp only [parsed] at ended
        obtain ⟨lines,later,counted⟩ := ih ended
        have filled : line ≠ [] := by
          rintro rfl
          exact blank rfl
        refine ⟨header :: lines,.line filled uncut parsed later,?_⟩
        rwa [append_assoc,singleton_append] at counted

theorem Reads.length (reads : Reads config rest lines rest') : rest'.length + 2 ≤ rest.length := by
  induction reads with
  | blank => exact Nat.le_refl _
  | line filled uncut parsed later ih =>
    rw [length_append,length_cons,length_cons]
    omega

end Reading

def parseResponse (rest : List Char) (headers : SipHeaders) (body : List UInt8) : Except SipError SipMessage :=
  match splitOnce [' '] rest with
  | none => build rest []
  | some (code,reason) => build code reason
where
  build (code reason : List Char) : Except SipError SipMessage :=
    match parseUnsigned (2 ^ 16) code with
    | none => .error ⟨.invalidStartLine,"invalid code"⟩
    | some code => .ok (.response ⟨code,String.ofList reason⟩ headers ⟨body.toArray⟩)

variable (parser : SipParser) (startLine : String) (headers : SipHeaders) (data : List UInt8)
  (config : SipParserConfig) (profile : Option CompatibilityProfile)

def parseRequest (line : List Char) (headers : SipHeaders) (body : List UInt8) : Except SipError SipMessage :=
  match splitOnce [' '] line with
  | none => .error ⟨.invalidStartLine,"missing URI"⟩
  | some (method,rest) =>
    match splitOnce [' '] rest with
    | none => .error ⟨.invalidStartLine,"missing version"⟩
    | some (uri,_) => do
      let method := if profileHas profile .headerNormalization then method.map Char.toUpper else method
      let method ← Method.parse (String.ofList method)
      let uri ← SipUri.parse (String.ofList uri)
      return .request ⟨method,uri⟩ headers ⟨body.toArray⟩

def buildMessage (body : List UInt8) (contentLength : Nat)
    (profile : Option CompatibilityProfile) : Except SipError SipMessage :=
  if body.length ≠ contentLength then
    .error ⟨.contentLengthMismatch,
      "Content-Length " ++ toString contentLength ++ " != body length " ++ toString body.length⟩
  else
    match stripLeading "SIP/2.0 ".toList startLine.toList with
    | some rest => parseResponse rest headers body
    | none => parseRequest profile startLine.toList headers body

def popBody (contentLength : Nat) : Option (Except LocatedError SipMessage) × SipParser :=
  if parser.buffer.length < contentLength then
    (none,{ parser with state := .body startLine headers contentLength })
  else
    let built := buildMessage startLine headers (parser.buffer.take contentLength) contentLength parser.profile
    (some (built.mapError fun e => ⟨e,none⟩),
      { parser with state := .startLine, buffer := parser.buffer.drop contentLength })

def reset : SipParser := { parser with state := .startLine, buffer := [] }

def popHeaders : Option (Except LocatedError SipMessage) × SipParser :=
  match parseHeaders parser.config parser.profile parser.buffer with
  | none => (none,{ parser with state := .headers startLine })
  | some (.error e) => (some (.error e),parser.reset)
  | some (.ok (headers,contentLength,rest)) => popBody { parser with buffer := rest } startLine headers contentLength

def popMessage : Option (Except LocatedError SipMessage) × SipParser :=
  match parser.state with
  | .startLine =>
    match parseStartLine parser.config parser.buffer with
    | (none,buffer) => (none,{ parser with buffer := buffer })
    | (some (.error e),_) => (some (.error e),parser.reset)
    | (some (.ok line),buffer) => popHeaders { parser with buffer := buffer } line
  | .headers line => popHeaders parser line
  | .body line headers contentLength => popBody parser line headers contentLength

def parseDatagramWithProfile : Except LocatedError SipMessage := do
  let parser ← (newWithProfile { config with datagramMode := true } profile).feed data
  match parser.popMessage with
  | (some (.ok message),parser) =>
    if parser.buffer = [] then .ok message
    else .error ⟨⟨.invalidFraming,
      "trailing bytes after Content-Length: " ++ toString parser.buffer.length ++ " bytes remain"⟩,none⟩
  | (some (.error e),_) => .error e
  | (none,parser) =>
    match parser.state with
    | .body _ _ contentLength =>
      if parser.buffer.length < contentLength then
        .error ⟨⟨.contentLengthMismatch,"Content-Length " ++ toString contentLength ++ " exceeds datagram body " ++
          toString parser.buffer.length⟩,none⟩
      else .error ⟨⟨.invalidFraming,"incomplete datagram"⟩,none⟩
    | _ => .error ⟨⟨.invalidFraming,"incomplete datagram"⟩,none⟩

def parseDatagram : Except LocatedError SipMessage := parseDatagramWithProfile data config none

end SipParser

end CheetahSignaling
