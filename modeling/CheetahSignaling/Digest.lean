import CheetahSignaling.Hex

/-! Digest authentication: challenges, responses and their header values. -/
namespace CheetahSignaling

inductive DigestAlgorithm where
  | md5
  | sha256
  | sha512
deriving DecidableEq

inductive DigestQop where
  | auth
  | authInt
deriving DecidableEq

inductive DigestError where
  | malformed (reason : String)
  | unknownAlgorithm
  | algorithmNotAllowed
  | algorithmDowngrade
  | invalidQop
  | invalidNonce
  | weakSecret
  | staleNonce
  | replayDetected
  | realmMismatch
  | uriMismatch
  | invalidResponse
deriving DecidableEq

structure DigestChallenge where
  (realm nonce : String)
  opaqueValue : Option String
  stale : Bool
  algorithm : DigestAlgorithm
  qop : Option DigestQop
deriving DecidableEq

structure DigestResponse where
  (username realm nonce uri response : String)
  cnonce : Option String
  nc : Option Nat
  qop : Option DigestQop
  algorithm : Option DigestAlgorithm
  opaqueValue : Option String
deriving DecidableEq

structure DigestClient where
  allowMd5 : Bool
  qop : Option DigestQop
  nonceCount : Nat
deriving DecidableEq

def DigestError.isSyntax : DigestError → Bool
  | .malformed _ | .unknownAlgorithm | .invalidQop => true
  | _ => false

namespace DigestAlgorithm

def parse (s : List Char) : Option DigestAlgorithm :=
  if Str.eqIgnoreAsciiCase s "md5".toList then some .md5
  else if Str.eqIgnoreAsciiCase s "sha-256".toList || Str.eqIgnoreAsciiCase s "sha256".toList then some .sha256
  else if Str.eqIgnoreAsciiCase s "sha-512".toList || Str.eqIgnoreAsciiCase s "sha512".toList then some .sha512
  else none

def asWire : DigestAlgorithm → String
  | .md5 => "MD5"
  | .sha256 => "SHA-256"
  | .sha512 => "SHA-512"

end DigestAlgorithm

namespace DigestQop

def parse (s : List Char) : Option DigestQop :=
  if Str.eqIgnoreAsciiCase s "auth".toList then some .auth
  else if Str.eqIgnoreAsciiCase s "auth-int".toList then some .authInt
  else none

def asWire : DigestQop → String
  | .auth => "auth"
  | .authInt => "auth-int"

end DigestQop

namespace SipDigest

/-- Where a scan for separators stands: inside quotes, behind a backslash. -/
structure Quoting where
  (inQuotes escaping : Bool)

namespace Quoting

def advance (q : Quoting) (c : Char) : Quoting :=
  if q.escaping then { q with escaping := false }
  else if c = '\\' then { q with escaping := true }
  else if c = '"' then { q with inQuotes := !q.inQuotes }
  else q

def separates (q : Quoting) (c : Char) : Bool := c = ',' && !q.inQuotes && !q.escaping

end Quoting

def splitFrom (q : Quoting) : List Char → List (List Char)
  | [] => [[]]
  | c :: rest =>
    if q.separates c then [] :: splitFrom q rest
    else
      match splitFrom (q.advance c) rest with
      | [] => [[c]]
      | part :: parts => (c :: part) :: parts

def splitCommas (value : List Char) : List (List Char) := splitFrom ⟨false,false⟩ value

def unescape : List Char → List Char
  | [] => []
  | ['\\'] => ['\\']
  | '\\' :: c :: rest => if c = '\\' ∨ c = '"' then c :: unescape rest else '\\' :: c :: unescape rest
  | c :: rest => c :: unescape rest

def unquote (text : List Char) : List Char :=
  let value := Str.trim text
  if 2 ≤ value.length ∧ value.head? = some '"' ∧ value.getLast? = some '"' then
    let inner := (value.drop 1).dropLast
    if inner.contains '\\' then unescape inner else inner
  else value

def replaceChar (c : Char) (text s : List Char) : List Char := s.flatMap fun d => if d = c then text else [d]

def sanitizeQuotedValue (s : List Char) : List Char :=
  (replaceChar '"' ['\\','"'] (replaceChar '\\' ['\\','\\'] s)).filter fun c => !(c == '\r' || c == '\n')

def quotedParam (name value : String) : List Char := name.toList ++ '=' :: ('"' :: sanitizeQuotedValue value.toList ++ ['"'])

def rawParam (name : String) (value : List Char) : List Char := name.toList ++ '=' :: value

def writeParams (params : List (List Char)) : String :=
  String.ofList ("Digest ".toList ++ List.intercalate ", ".toList params)

def maxHeaderLen : Nat := 2048

def stripScheme (value : List Char) : List Char :=
  if 7 < value.length ∧ Str.eqIgnoreAsciiCase (value.take 7) "digest ".toList then value.drop 7 else value

def readParam (set : P → (key value : List Char) → Except DigestError P) (p : P) (text : List Char) : Except DigestError P :=
  let part := Str.trim text
  if part = [] then .ok p
  else
    match Str.splitOnce ['='] part with
    | none => .error (.malformed "missing '=' in digest parameter")
    | some (key,raw) => set p (Str.trim key) (unquote (Str.trim raw))

def readParams (set : P → (key value : List Char) → Except DigestError P) (start : P) (value : String) (maxLen : Nat) :
    Except DigestError P :=
  if value.utf8ByteSize > maxLen then .error (.malformed s!"digest header exceeds maximum length of {maxLen}")
  else (splitCommas (stripScheme (Str.trim value.toList))).foldlM (readParam set) start

def require (what : String) : Option String → Except DigestError String
  | some value => .ok value
  | none => .error (.malformed ("missing " ++ what))

structure ResponseParams where
  username : Option String := none
  realm : Option String := none
  nonce : Option String := none
  uri : Option String := none
  response : Option String := none
  cnonce : Option String := none
  nc : Option Nat := none
  qop : Option DigestQop := none
  algorithm : Option DigestAlgorithm := none
  opaqueValue : Option String := none

def ResponseParams.set (p : ResponseParams) (key value : List Char) : Except DigestError ResponseParams :=
  let named (name : String) : Bool := Str.eqIgnoreAsciiCase key name.toList
  if named "username" then .ok { p with username := some (String.ofList value) }
  else if named "realm" then .ok { p with realm := some (String.ofList value) }
  else if named "nonce" then .ok { p with nonce := some (String.ofList value) }
  else if named "uri" then .ok { p with uri := some (String.ofList value) }
  else if named "response" then .ok { p with response := some (String.ofList value) }
  else if named "cnonce" then .ok { p with cnonce := some (String.ofList value) }
  else if named "nc" then
    match Hex.parse (2 ^ 64) value with
    | some nc => .ok { p with nc := some nc }
    | none => .error (.malformed "bad nc value")
  else if named "qop" then
    match DigestQop.parse value with
    | some qop => .ok { p with qop := some qop }
    | none => .error .invalidQop
  else if named "algorithm" then
    match DigestAlgorithm.parse value with
    | some algorithm => .ok { p with algorithm := some algorithm }
    | none => .error .unknownAlgorithm
  else if named "opaque" then .ok { p with opaqueValue := some (String.ofList value) }
  else .ok p

structure ChallengeParams where
  realm : Option String := none
  nonce : Option String := none
  opaqueValue : Option String := none
  stale : Bool := false
  algorithm : Option DigestAlgorithm := none
  qop : Option DigestQop := none

def selectQop (value : List Char) : Option DigestQop :=
  let tokens := (((splitCommas value).map Str.trim).filter (· ≠ [])).map unquote
  if tokens.any (Str.eqIgnoreAsciiCase · "auth".toList) then some .auth
  else if tokens.any (Str.eqIgnoreAsciiCase · "auth-int".toList) then some .authInt
  else none

def ChallengeParams.set (p : ChallengeParams) (key value : List Char) : Except DigestError ChallengeParams :=
  let named (name : String) : Bool := Str.eqIgnoreAsciiCase key name.toList
  if named "realm" then .ok { p with realm := some (String.ofList value) }
  else if named "nonce" then .ok { p with nonce := some (String.ofList value) }
  else if named "opaque" then .ok { p with opaqueValue := some (String.ofList value) }
  else if named "stale" then .ok { p with stale := Str.eqIgnoreAsciiCase value "true".toList }
  else if named "algorithm" then
    match DigestAlgorithm.parse value with
    | some algorithm => .ok { p with algorithm := some algorithm }
    | none => .error .unknownAlgorithm
  else if named "qop" then .ok { p with qop := selectQop value }
  else .ok p

end SipDigest

open SipDigest

namespace DigestResponse

def parseWithLimit (value : String) (maxLen : Nat) : Except DigestError DigestResponse := do
  let p ← readParams ResponseParams.set {} value maxLen
  let username ← require "username" p.username
  let realm ← require "realm" p.realm
  let nonce ← require "nonce" p.nonce
  let uri ← require "uri" p.uri
  let response ← require "response" p.response
  return ⟨username,realm,nonce,uri,response,p.cnonce,p.nc,p.qop,p.algorithm,p.opaqueValue⟩

def parse (value : String) : Except DigestError DigestResponse := parseWithLimit value maxHeaderLen

def params (r : DigestResponse) : List (List Char) :=
  [quotedParam "username" r.username,quotedParam "realm" r.realm,quotedParam "nonce" r.nonce,quotedParam "uri" r.uri,
    quotedParam "response" r.response] ++
    (r.cnonce.map (quotedParam "cnonce")).toList ++
    (r.nc.map fun nc => rawParam "nc" (Hex.format 8 nc)).toList ++
    (r.qop.map fun qop => rawParam "qop" qop.asWire.toList).toList ++
    (r.algorithm.map fun algorithm => rawParam "algorithm" algorithm.asWire.toList).toList ++
    (r.opaqueValue.map (quotedParam "opaque")).toList

def toHeaderValue (r : DigestResponse) : String := writeParams r.params

end DigestResponse

namespace DigestChallenge

def parseWithLimit (value : String) (maxLen : Nat) : Except DigestError DigestChallenge := do
  let p ← readParams ChallengeParams.set {} value maxLen
  let realm ← require "realm" p.realm
  let nonce ← require "nonce" p.nonce
  return ⟨realm,nonce,p.opaqueValue,p.stale,p.algorithm.getD .md5,p.qop⟩

def parse (value : String) : Except DigestError DigestChallenge := parseWithLimit value maxHeaderLen

def params (c : DigestChallenge) : List (List Char) :=
  [quotedParam "realm" c.realm,quotedParam "nonce" c.nonce,rawParam "algorithm" c.algorithm.asWire.toList] ++
    (c.opaqueValue.map (quotedParam "opaque")).toList ++
    (if c.stale then [rawParam "stale" "true".toList] else []) ++
    (c.qop.map fun qop => quotedParam "qop" qop.asWire).toList

def toHeaderValue (c : DigestChallenge) : String := writeParams c.params

end DigestChallenge

end CheetahSignaling
