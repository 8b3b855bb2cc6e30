import CheetahSignaling.Outcomes
import CheetahSignaling.Str
import Mathlib.Algebra.Group.Nat.Defs

/-! SIP messages: methods, URIs, headers in their order, and the values the builders write.
Header values are plain text; only the token checks of the builders restrict them. -/
namespace CheetahSignaling

open Str Outcomes
open List hiding after get toString

inductive SipErrorKind where
  | startLineTooLong
  | headerTooLong
  | tooManyHeaders
  | headersTooLarge
  | bodyTooLarge
  | bufferTooLarge
  | contentLengthMismatch
  | invalidStartLine
  | invalidHeader
  | invalidUri
  | missingRequiredHeader
  | invalidFraming
  | transactionTimeout
  | transactionCancelled
  | transportFailure
  | authenticationFailure
deriving DecidableEq

structure SipError where
  kind : SipErrorKind
  message : String
deriving DecidableEq

def SipErrorKind.name : SipErrorKind → String
  | .startLineTooLong => "StartLineTooLong"
  | .headerTooLong => "HeaderTooLong"
  | .tooManyHeaders => "TooManyHeaders"
  | .headersTooLarge => "HeadersTooLarge"
  | .bodyTooLarge => "BodyTooLarge"
  | .bufferTooLarge => "BufferTooLarge"
  | .contentLengthMismatch => "ContentLengthMismatch"
  | .invalidStartLine => "InvalidStartLine"
  | .invalidHeader => "InvalidHeader"
  | .invalidUri => "InvalidUri"
  | .missingRequiredHeader => "MissingRequiredHeader"
  | .invalidFraming => "InvalidFraming"
  | .transactionTimeout => "TransactionTimeout"
  | .transactionCancelled => "TransactionCancelled"
  | .transportFailure => "TransportFailure"
  | .authenticationFailure => "AuthenticationFailure"

def SipError.text (e : SipError) : String := e.kind.name ++ ": " ++ e.message

inductive Method where
  | register
  | message
  | invite
  | ack
  | bye
  | cancel
  | options
  | subscribe
  | notify
  | info
  | other (name : String)
deriving DecidableEq

namespace Method

def parse (name : String) : Except SipError Method :=
  match name with
  | "REGISTER" => .ok .register
  | "MESSAGE" => .ok .message
  | "INVITE" => .ok .invite
  | "ACK" => .ok .ack
  | "BYE" => .ok .bye
  | "CANCEL" => .ok .cancel
  | "OPTIONS" => .ok .options
  | "SUBSCRIBE" => .ok .subscribe
  | "NOTIFY" => .ok .notify
  | "INFO" => .ok .info
  | _ =>
    if name.toList.all fun c => c.isUpper || c == '-' then .ok (.other name)
    else .error ⟨.invalidStartLine,"invalid method token"⟩

def name : Method → String
  | .register => "REGISTER"
  | .message => "MESSAGE"
  | .invite => "INVITE"
  | .ack => "ACK"
  | .bye => "BYE"
  | .cancel => "CANCEL"
  | .options => "OPTIONS"
  | .subscribe => "SUBSCRIBE"
  | .notify => "NOTIFY"
  | .info => "INFO"
  | .other name => name

end Method

inductive Scheme where
  | sip
  | sips
deriving DecidableEq

structure SipUri where
  scheme : Scheme
  (user password : Option String)
  host : String
  port : Option Nat
  parameters : List (String × Option String)
deriving DecidableEq

namespace SipUri

def parseScheme (s : List Char) : Except SipError Scheme :=
  if eqIgnoreAsciiCase s "sip".toList then .ok .sip
  else if eqIgnoreAsciiCase s "sips".toList then .ok .sips
  else .error ⟨.invalidUri,"unsupported scheme"⟩

/-- The part before the last `@`, unless it is empty, and the text behind it. -/
def splitUserinfo (rest : List Char) : Option (List Char) × List Char :=
  match rsplitOnce '@' rest with
  | none => (none,rest)
  | some (info,address) => (if info = [] then none else some info,address)

def parseUserinfo : Option (List Char) → Except SipError (Option String × Option String)
  | none => .ok (none,none)
  | some info =>
    match splitOnce [':'] info with
    | none => .ok (some (String.ofList info),none)
    | some (user,password) =>
      if user = [] then .error ⟨.invalidUri,"empty user with password"⟩
      else .ok (some (String.ofList user),some (String.ofList password))

def splitParameters (address : List Char) : List Char × List (List Char) :=
  match splitOnce [';'] address with
  | none => (address,[])
  | some (hostport,params) => (hostport,(split ';' params).filter (· ≠ []))

def parseHostport (s : List Char) : Except SipError (List Char × Option (List Char)) :=
  if s.head? = some '[' then
    match splitOnce [']'] s with
    | none => .error ⟨.invalidUri,"unterminated IPv6"⟩
    | some (inner,':' :: port) => .ok (inner ++ [']'],some port)
    | some (inner,_) => .ok (inner ++ [']'],none)
  else
    match rsplitOnce ':' s with
    | none => .ok (s,none)
    | some (host,port) => .ok (host,some port)

def parsePort : Option (List Char) → Except SipError (Option Nat)
  | none => .ok none
  | some s =>
    match parseUnsigned (2 ^ 16) s with
    | some port => .ok (some port)
    | none => .error ⟨.invalidUri,"invalid port"⟩

def parseParameter (token : List Char) : String × Option String :=
  match splitOnce ['='] token with
  | none => (String.ofList token,none)
  | some (key,value) => (String.ofList key,if value = [] then none else some (String.ofList value))

def parseAddress (address : List Char) : Except SipError (String × Option Nat × List (String × Option String)) := do
  let (hostport,params) := splitParameters address
  let (hostText,portText) ← parseHostport hostport
  let host := trim hostText
  if host = [] then .error ⟨.invalidUri,"empty host"⟩
  else do
    let port ← parsePort portText
    return (String.ofList host,port,params.map parseParameter)

def parse (raw : String) : Except SipError SipUri :=
  if raw.utf8ByteSize > 2048 then .error ⟨.invalidUri,"URI too long"⟩
  else
    match splitOnce [':'] raw.toList with
    | none => .error ⟨.invalidUri,"missing scheme"⟩
    | some (schemeText,rest) => do
      let scheme ← parseScheme schemeText
      let (user,password) ← parseUserinfo (splitUserinfo rest).1
      let (host,port,parameters) ← parseAddress (splitUserinfo rest).2
      return ⟨scheme,user,password,host,port,parameters⟩

def texts (uri : SipUri) : List String :=
  uri.host :: (uri.user.toList ++ uri.password.toList ++ uri.parameters.flatMap fun (key,value) => key :: value.toList)

section Pieces

open Outcomes

theorem splitUserinfo_pieces :
    (∀ info ∈ (splitUserinfo s).1, info <:+: s) ∧ (splitUserinfo s).2 <:+: s := by
  unfold splitUserinfo
  cases cut : rsplitOnce '@' s with
  | none => exact ⟨nofun,infix_rfl⟩
  | some halves =>
    obtain ⟨before,after⟩ := rsplitOnce_infix cut
    refine ⟨?_,after⟩
    intro info held
    simp only [Option.mem_def,Option.ite_none_left_eq_some,Option.some.injEq] at held
    exact held.2 ▸ before

theorem parseUserinfo_pieces {user password : Option String} (parsed : parseUserinfo (some s) = .ok (user,password)) :
    ∀ text ∈ user.toList ++ password.toList, text.toList <:+: s := by
  simp only [parseUserinfo] at parsed
  cases cut : splitOnce [':'] s with
  | none =>
    rw [cut] at parsed
    cases parsed
    simp
  | some halves =>
    simp only [cut] at parsed
    obtain ⟨-,same⟩ := passed_of_ok parsed
    cases same
    simpa using splitOnce_infix cut

theorem splitParameters_pieces :
    (splitParameters s).1 <:+: s ∧ ∀ token ∈ (splitParameters s).2, token <:+: s := by
  unfold splitParameters
  cases cut : splitOnce [';'] s with
  | none => exact ⟨infix_rfl,nofun⟩
  | some halves =>
    obtain ⟨before,after⟩ := splitOnce_infix cut
    exact ⟨before,fun token member => (Str.split_infix (mem_filter.mp member).1).trans after⟩

theorem parseHostport_piece (parsed : parseHostport s = .ok (piece,portText)) : piece <:+: s := by
  unfold parseHostport at parsed
  split at parsed
  · split at parsed
    · cases parsed
    · rename_i cut
      cases parsed
      rw [splitOnce_eq cut]
      exact (prefix_append _ _).isInfix
    rename_i cut
    cases parsed
    rw [splitOnce_eq cut]
    exact (prefix_append _ _).isInfix
  split at parsed
  · cases parsed
    exact infix_rfl
  · rename_i cut
    cases parsed
    exact (Str.rsplitOnce_infix cut).1

theorem parseParameter_pieces :
    ∀ text ∈ (parseParameter token).1 :: (parseParameter token).2.toList, text.toList <:+: token := by
  unfold parseParameter
  cases cut : splitOnce ['='] token with
  | none => simp
  | some halves =>
    obtain ⟨before,after⟩ := splitOnce_infix cut
    by_cases blank : halves.2 = []
    · simpa [blank] using before
    · simpa [blank] using ⟨before,after⟩

theorem parseAddress_pieces {host : String} {port : Option Nat} {parameters : List (String × Option String)}
    (parsed : parseAddress s = .ok (host,port,parameters)) :
    ∀ text ∈ host :: parameters.flatMap fun (key,value) => key :: value.toList, text.toList <:+: s := by
  obtain ⟨⟨hostText,portText⟩,cut,parsed⟩ := bind_eq_ok parsed
  obtain ⟨-,parsed⟩ := passed_of_ok parsed
  obtain ⟨port,-,parsed⟩ := bind_eq_ok parsed
  cases parsed
  obtain ⟨hostport,tokens⟩ := splitParameters_pieces
  refine forall_mem_cons.mpr ⟨?_,?_⟩
  · rw [String.toList_ofList]
    exact (Str.trim_infix.trans (parseHostport_piece cut)).trans hostport
  intro text member
  obtain ⟨parameter,held,member⟩ := mem_flatMap.mp member
  obtain ⟨token,given,rfl⟩ := mem_map.mp held
  exact (parseParameter_pieces text member).trans (tokens token given)

/-- The texts of a parsed URI are pieces of what was parsed. -/
theorem parse_pieces (parsed : parse raw = .ok uri) :
    raw.utf8ByteSize ≤ 2048 ∧ ∀ text ∈ uri.texts, text.toList <:+: raw.toList := by
  obtain ⟨short,parsed⟩ := passed_of_ok parsed
  refine ⟨Nat.not_lt.mp short,?_⟩
  split at parsed
  · cases parsed
  rename_i schemeText rest cut
  have tail := (Str.splitOnce_infix cut).2
  obtain ⟨scheme,-,parsed⟩ := bind_eq_ok parsed
  obtain ⟨⟨user,password⟩,userParsed,⟨host,port,parameters⟩,hostParsed,parsed⟩ := bind_eq_ok₂ parsed
  cases parsed
  obtain ⟨userinfo,address⟩ := splitUserinfo_pieces
  have behind := parseAddress_pieces hostParsed
  have before : ∀ text ∈ user.toList ++ password.toList, text.toList <:+: rest := by
    cases info : (splitUserinfo rest).1 with
    | none =>
      rw [info] at userParsed
      cases userParsed
      exact nofun
    | some given =>
      rw [info] at userParsed
      exact fun text member => (parseUserinfo_pieces userParsed text member).trans (userinfo given info)
  intro text member
  rcases mem_cons.mp member with first | member
  · exact ((behind text (first ▸ mem_cons_self)).trans address).trans tail
  · rcases mem_append.mp member with named | given
    · exact (before text named).trans tail
    · exact ((behind text (mem_cons_of_mem _ given)).trans address).trans tail

end Pieces

def encodeParameter : String × Option String → String
  | (key,none) => ";" ++ key
  | (key,some value) => ";" ++ key ++ "=" ++ value

def encode (uri : SipUri) : String :=
  let scheme := match uri.scheme with
    | .sip => "sip:"
    | .sips => "sips:"
  let userinfo := match uri.user with
    | none => ""
    | some user => match uri.password with
      | none => user ++ "@"
      | some password => user ++ ":" ++ password ++ "@"
  let port := match uri.port with
    | none => ""
    | some port => ":" ++ toString port
  scheme ++ userinfo ++ uri.host ++ port ++ String.join (uri.parameters.map encodeParameter)

end SipUri

inductive HeaderName where
  | via
  | from
  | to
  | callId
  | cSeq
  | contact
  | maxForwards
  | userAgent
  | contentType
  | contentLength
  | expires
  | route
  | recordRoute
  | authorization
  | wwwAuthenticate
  | proxyAuthenticate
  | proxyAuthorization
  | subject
  | other (name : String)
deriving DecidableEq

/-- Unknown names are equal up to ASCII case. -/
def HeaderName.same : HeaderName → HeaderName → Bool
  | .other a, .other b => eqIgnoreAsciiCase a.toList b.toList
  | a, b => a == b

/-- Headers in their order, with duplicates. -/
abbrev SipHeaders := List (HeaderName × String)

namespace SipHeaders

variable (headers : SipHeaders) (name : HeaderName)

def getAll : List String :=
  (headers.filter fun header => header.1.same name).map Prod.snd

def get : Option String := (headers.getAll name).head?

end SipHeaders

structure RequestLine where
  method : Method
  uri : SipUri
deriving DecidableEq

structure StatusLine where
  code : Nat
  reason : String
deriving DecidableEq

inductive SipMessage where
  | request (line : RequestLine) (headers : SipHeaders) (body : ByteArray)
  | response (line : StatusLine) (headers : SipHeaders) (body : ByteArray)

/-- Not derived, so that bodies are always compared as the core library does. -/
instance : DecidableEq SipMessage
  | .request line headers body, .request line' headers' body' =>
    have := ByteArray.instDecidableEq body body'
    decidable_of_iff (line = line' ∧ headers = headers' ∧ body = body') (by simp)
  | .response line headers body, .response line' headers' body' =>
    have := ByteArray.instDecidableEq body body'
    decidable_of_iff (line = line' ∧ headers = headers' ∧ body = body') (by simp)
  | .request _ _ _, .response _ _ _ => .isFalse nofun
  | .response _ _ _, .request _ _ _ => .isFalse nofun

namespace SipMessage

def headers : SipMessage → SipHeaders
  | .request _ headers _ => headers
  | .response _ headers _ => headers

variable (message : SipMessage)

def callId : Option String := message.headers.get .callId

def branchValue (via : String) : Option String := (split ';' via.toList).findSome? fun token =>
    (stripLeading "branch=".toList (trim token)).map fun value => String.ofList (trimMatches '"' value)

def topBranch : Option String := ((message.headers.getAll .via).head?).bind branchValue

def cseq : Except SipError (Nat × Method) :=
  match message.headers.get .cSeq with
  | none => .error ⟨.missingRequiredHeader,"missing CSeq header"⟩
  | some value =>
    let number := value.toList.takeWhile (!isWhitespace ·)
    match parseUnsigned (2 ^ 32) number with
    | none => .error ⟨.invalidHeader,"invalid CSeq number"⟩
    | some n =>
      match value.toList.dropWhile (!isWhitespace ·) with
      | [] => .error ⟨.invalidHeader,"missing CSeq method"⟩
      | _ :: rest =>
        match Method.parse (String.ofList rest) with
        | .error _ => .error ⟨.invalidHeader,"invalid CSeq method"⟩
        | .ok method => .ok (n,method)

end SipMessage

namespace HeaderValue

def isTokenChar (c : Char) : Bool := c.isAlphanum || "-.!%*_+`'~()".toList.contains c

def isToken (s : String) : Bool := !s.isEmpty && s.toList.all isTokenChar

def validateToken (value what : String) : Except SipError Unit :=
  if isToken value then .ok () else .error ⟨.invalidHeader,what ++ " is not a valid SIP token"⟩

def via (transport host : String) (port : Nat) (branch : String) : Except SipError String :=
  if host.isEmpty then .error ⟨.invalidHeader,"Via host must not be empty"⟩
  else do
    validateToken transport "Via transport"
    validateToken branch "Via branch"
    return "SIP/2.0/" ++ transport ++ " " ++ host ++ ":" ++ toString port ++ ";branch=" ++ branch

def fromUri (uri : SipUri) (tag : String) : Except SipError String := do
  validateToken tag "From tag"
  return "<" ++ uri.encode ++ ">;tag=" ++ tag

def toUri (uri : SipUri) : String := "<" ++ uri.encode ++ ">"

def contactUri (uri : SipUri) : String := "<" ++ uri.encode ++ ">"

def cseq (sequence : Nat) (method : Method) : String := toString sequence ++ " " ++ method.name

end HeaderValue

theorem SipMessage.cseq_lt {message : SipMessage} (parsed : message.cseq = .ok (n,method)) : n < 2 ^ 32 := by
  unfold SipMessage.cseq at parsed
  split at parsed
  · cases parsed
  simp only at parsed
  split at parsed
  · cases parsed
  rename_i number
  split at parsed
  · cases parsed
  split at parsed
  · cases parsed
  · cases parsed
    exact parseUnsigned_lt number

theorem SipMessage.cseq_written {message : SipMessage} (small : n < 2 ^ 32)
    (named : Method.parse method.name = .ok method)
    (written : message.headers.get .cSeq = some (HeaderValue.cseq n method)) : message.cseq = .ok (n,method) := by
  have text : (HeaderValue.cseq n method).toList = (toString n).toList ++ ' ' :: method.name.toList := by
    simp [HeaderValue.cseq]
  have plain : ∀ c ∈ (toString n).toList, (!isWhitespace c) = true := by
    exact fun c member => isWhitespace_of_isDigit (isDigit_number n c member) ▸ rfl
  have number : (HeaderValue.cseq n method).toList.takeWhile (!isWhitespace ·) = (toString n).toList := by
    rw [text,takeWhile_append_of_pos plain]
    exact append_nil _
  have rest : (HeaderValue.cseq n method).toList.dropWhile (!isWhitespace ·) = ' ' :: method.name.toList := by
    rw [text,dropWhile_append_of_pos plain]
    rfl
  simp only [SipMessage.cseq,written,number,parseUnsigned_number small,rest,String.ofList_toList,named]

end CheetahSignaling
