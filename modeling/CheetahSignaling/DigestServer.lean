import CheetahSignaling.Digest
import CheetahSignaling.Sip
import Mathlib.Data.List.Nodup
import Mathlib.Data.List.TakeWhile

/-! The server side of digest authentication: signed nonces, the replay cache and the checks of a
response. The hash functions and the HMAC are any functions. -/
namespace CheetahSignaling.SipDigest

open List Outcomes

/-- Hashes and hexadecimal text. Of the hashes only a length is known; what is encoded consists of
lower-case digits, two for a byte, and is read back. -/
structure Crypto where
  hash : DigestAlgorithm → List UInt8 → List UInt8
  hmacSha256 : (key message : List UInt8) → List UInt8
  hmac_length : ∀ key message, (hmacSha256 key message).length = 32
  encode : List UInt8 → List Char
  decode : List Char → Option (List UInt8)
  encode_append : ∀ first rest, encode (first ++ rest) = encode first ++ encode rest
  length_encode : ∀ bytes, (encode bytes).length = 2 * bytes.length
  mem_encode : ∀ bytes, ∀ c ∈ encode bytes, ∃ n < 16, c = n.digitChar
  decode_encode : ∀ bytes, decode (encode bytes) = some bytes

namespace Crypto

variable (crypto : Crypto)

def hashHex (algorithm : DigestAlgorithm) (data : String) : String :=
  String.ofList (crypto.encode (crypto.hash algorithm data.toUTF8.data.toList))

def nonceSignature (secret timestamp counter : List UInt8) : List UInt8 := crypto.hmacSha256 secret (timestamp ++ counter)

def generateNonce (secret : List UInt8) (timestamp counter : UInt64) : String :=
  let signature := crypto.nonceSignature secret (Hex.toBeBytes timestamp) (Hex.toBeBytes counter)
  String.ofList (crypto.encode (Hex.toBeBytes timestamp) ++ crypto.encode (Hex.toBeBytes counter) ++ crypto.encode
    (signature.take 16))

def validateNonce (nonce : String) (secret : List UInt8) (now ttl : Nat) : Except DigestError Nat :=
  if nonce.utf8ByteSize ≠ 64 ∨ !nonce.toList.all (·.toNat < 128) then .error .invalidNonce
  else
    match crypto.decode nonce.toList with
    | none => .error .invalidNonce
    | some bytes =>
      if bytes.length ≠ 32 then .error .invalidNonce
      else
        let timestamp := (Hex.fromBeBytes (bytes.take 8)).toNat
        let expected := crypto.nonceSignature secret (bytes.take 8) ((bytes.drop 8).take 8)
        if bytes.drop 16 ≠ expected.take 16 then .error .invalidNonce
        else if now - timestamp > ttl then .error .staleNonce
        else .ok timestamp

def computeResponse (algorithm : DigestAlgorithm) (username realm password nonce : String) (nc : Nat)
    (cnonce : Option String) (qop : Option DigestQop) (method uri : String) : String :=
  let ha1 := crypto.hashHex algorithm (username ++ ":" ++ realm ++ ":" ++ password)
  let ha2 := crypto.hashHex algorithm (method ++ ":" ++ uri)
  match qop with
  | some .auth =>
    crypto.hashHex algorithm
      (ha1 ++ ":" ++ nonce ++ ":" ++ String.ofList (Hex.format 8 nc) ++ ":" ++ cnonce.getD "" ++ ":auth:" ++ ha2)
  | _ => crypto.hashHex algorithm (ha1 ++ ":" ++ nonce ++ ":" ++ ha2)

end Crypto

structure ReplayEntry where
  nonce : String
  (maxNc insertedAt : Nat)

/-- The highest count seen for each nonce, oldest nonce first. -/
structure DigestReplayCache where
  capacity : Nat
  entries : List ReplayEntry
  distinct : (entries.map (·.nonce)).Nodup

namespace DigestReplayCache

def new (capacity : Nat) : DigestReplayCache := ⟨capacity,[],.nil⟩

variable (cache : DigestReplayCache)

/-- The source adds with saturation, which no 64-bit `now` can tell apart. -/
def prune (now ttl : Nat) : DigestReplayCache where
  capacity := cache.capacity
  entries := cache.entries.dropWhile fun e => e.insertedAt + ttl < now
  distinct := cache.distinct.sublist ((dropWhile_sublist _).map _)

def find (nonce : String) : Option ReplayEntry := cache.entries.find? fun e => e.nonce = nonce

def raise (nonce : String) (nc : Nat) : DigestReplayCache where
  capacity := cache.capacity
  entries := cache.entries.map fun e => if e.nonce = nonce then { e with maxNc := nc } else e
  distinct := by
    have same : (cache.entries.map fun e => if e.nonce = nonce then { e with maxNc := nc } else e).map (·.nonce) =
        cache.entries.map (·.nonce) := by
      rw [map_map]
      refine map_congr_left fun e _ => ?_
      rw [Function.comp_apply]
      split <;> rfl
    rw [same]
    exact cache.distinct

def push (nonce : String) (nc now : Nat) (fresh : cache.find nonce = none) : DigestReplayCache where
  capacity := cache.capacity
  entries :=
    let entries := cache.entries ++ [⟨nonce,nc,now⟩]
    if entries.length > cache.capacity then entries.drop 1 else entries
  distinct := by
    have absent : nonce ∉ cache.entries.map (·.nonce) := by
      intro member
      obtain ⟨e,member,same⟩ := mem_map.mp member
      exact absurd (List.find?_eq_none.mp fresh e member) (by simp [same])
    have whole : ((cache.entries ++ [(⟨nonce,nc,now⟩ : ReplayEntry)]).map (·.nonce)).Nodup := by
      rw [map_append]
      exact List.Nodup.append cache.distinct (nodup_singleton nonce) (disjoint_singleton.mpr absent)
    simp only
    split
    · exact whole.sublist ((drop_sublist 1 _).map _)
    · exact whole

def check (nonce : String) (nc now ttl : Nat) : Bool × DigestReplayCache :=
  let pruned := cache.prune now ttl
  match fresh : pruned.find nonce with
  | some e => if nc > e.maxNc then (true,pruned.raise nonce nc) else (false,pruned)
  | none => (true,pruned.push nonce nc now fresh)

section

variable {cache}

theorem mem_prune (member : e ∈ cache.entries) :
    e ∈ (cache.prune now ttl).entries ∨ e.insertedAt + ttl < now := by
  rw [← takeWhile_append_dropWhile (p := fun e : ReplayEntry => decide (e.insertedAt + ttl < now))
    (l := cache.entries)] at member
  rcases mem_append.mp member with dropped | kept
  · exact .inr (by simpa using mem_takeWhile_imp dropped)
  · exact .inl kept

theorem mem_of_mem_prune (member : e ∈ (cache.prune now ttl).entries) : e ∈ cache.entries :=
  (dropWhile_sublist _).mem member

theorem find_nonce (found : cache.find nonce = some e) : e ∈ cache.entries ∧ e.nonce = nonce :=
  ⟨mem_of_find?_eq_some found,by simpa using List.find?_some found⟩

theorem find_of_mem (member : e ∈ cache.entries) : cache.find e.nonce = some e := by
  cases found : cache.find e.nonce with
  | none => exact absurd (List.find?_eq_none.mp found e member) (by simp)
  | some e' =>
    obtain ⟨member',same⟩ := find_nonce found
    exact congrArg some (inj_on_of_nodup_map cache.distinct member' member same)

theorem mem_raise_of_ne (member : e ∈ cache.entries) (other : e.nonce ≠ nonce) : e ∈ (cache.raise nonce nc).entries :=
  mem_map.mpr ⟨e,member,if_neg other⟩

theorem mem_raise (member : e ∈ cache.entries) (same : e.nonce = nonce) :
    { e with maxNc := nc } ∈ (cache.raise nonce nc).entries :=
  mem_map.mpr ⟨e,member,if_pos same⟩

theorem push_entries (fresh : cache.find nonce = none) (room : cache.entries.length < cache.capacity) :
    (cache.push nonce nc now fresh).entries = cache.entries ++ [⟨nonce,nc,now⟩] := by
  have fits : ¬(cache.entries ++ [(⟨nonce,nc,now⟩ : ReplayEntry)]).length > cache.capacity := by
    rw [length_append,length_singleton]
    omega
  exact if_neg fits

inductive Checks (pruned : DigestReplayCache) (nonce : String) (nc now : Nat) (result : Bool × DigestReplayCache) : Prop where
  | raised (e : ReplayEntry) (found : pruned.find nonce = some e) (above : e.maxNc < nc)
      (eq : result = (true,pruned.raise nonce nc))
  | replayed (eq : result = (false,pruned))
  | pushed (fresh : pruned.find nonce = none) (eq : result = (true,pruned.push nonce nc now fresh))

theorem Checks.entries (checks : Checks pruned nonce nc now result) (member : e ∈ result.2.entries) :
    e ∈ pruned.entries ∨ e.maxNc = nc := by
  cases checks with
  | raised found _ _ eq =>
    rw [eq] at member
    obtain ⟨before,held,rfl⟩ := mem_map.mp member
    split
    · exact .inr rfl
    · exact .inl held
  | replayed eq =>
    rw [eq] at member
    exact .inl member
  | pushed fresh eq =>
    rw [eq] at member
    have whole : e ∈ pruned.entries ++ [⟨nonce,nc,now⟩] := by
      simp only [push] at member
      split at member
      · exact mem_of_mem_drop member
      · exact member
    rcases mem_append.mp whole with old | new
    · exact .inl old
    · exact .inr (congrArg ReplayEntry.maxNc (mem_singleton.mp new))

theorem check_checks (cache : DigestReplayCache) (nonce : String) (nc now ttl : Nat) :
    Checks (cache.prune now ttl) nonce nc now (cache.check nonce nc now ttl) := by
  unfold check
  simp only
  split
  · rename_i e found
    split
    · rename_i above
      exact .raised e found above rfl
    · exact .replayed rfl
  · rename_i fresh
    exact .pushed fresh rfl

end

end DigestReplayCache

def stripCrlf (s : String) : String := String.ofList (s.toList.filter fun c => !(c == '\r' || c == '\n'))

/-- Realm, secret and quality of protection are as the builders leave them. -/
structure DigestContext where
  realm : String
  secret : List UInt8
  nonceCounter : UInt64
  allowMd5 : Bool
  preferredAlgorithm : DigestAlgorithm
  qop : Option DigestQop
  nonceTtlSeconds : Nat
  oneLine : stripCrlf realm = realm
  strong : 32 ≤ secret.length
  supported : qop ≠ some .authInt

namespace DigestContext

def new (realm : String) (secret : List UInt8) : Except DigestError DigestContext :=
  if strong : 32 ≤ secret.length then
    .ok ⟨stripCrlf realm,secret,0,false,.sha256,some .auth,300,by simp [stripCrlf],strong,by decide⟩
  else .error .weakSecret

section

variable (c : DigestContext)

def withAllowMd5 (allow : Bool) : DigestContext := { c with allowMd5 := allow }

def withPreferredAlgorithm (algorithm : DigestAlgorithm) : DigestContext :=
  { c with preferredAlgorithm := algorithm }

def withQop (qop : Option DigestQop) : Except DigestError DigestContext :=
  if supported : qop ≠ some .authInt then .ok { c with qop := qop, supported := supported } else .error .invalidQop

def withNonceTtlSeconds (ttl : Nat) : DigestContext := { c with nonceTtlSeconds := ttl }

end

variable (crypto : Crypto) (c : DigestContext)

section

variable (now : UInt64) (response : DigestResponse) (method : Method) (uri password : String)

def generateChallenge : DigestChallenge × DigestContext :=
  (⟨c.realm,crypto.generateNonce c.secret now c.nonceCounter,none,false,c.preferredAlgorithm,c.qop⟩,
    { c with nonceCounter := c.nonceCounter + 1 })

def generateStaleChallenge : DigestChallenge × DigestContext :=
  let (challenge,c) := c.generateChallenge crypto now
  ({ challenge with stale := true },c)

def checkResponse (now : Nat) : Except DigestError Unit :=
  let algorithm := response.algorithm.getD .md5
  if algorithm = .md5 ∧ !c.allowMd5 then .error .algorithmNotAllowed
  else if algorithm ≠ c.preferredAlgorithm then .error .algorithmDowngrade
  else if response.realm ≠ c.realm then .error .realmMismatch
  else if response.uri ≠ uri then .error .uriMismatch
  else if response.qop ≠ c.qop then .error .invalidQop
  else if response.qop = some .authInt then .error .invalidQop
  else if response.qop = some .auth ∧ (response.nc = none ∨ response.cnonce = none) then .error .invalidQop
  else if response.qop = none ∧ (response.nc ≠ none ∨ response.cnonce ≠ none) then .error .invalidQop
  else do
    let _ ← crypto.validateNonce response.nonce c.secret now c.nonceTtlSeconds
    let expected := crypto.computeResponse algorithm response.username response.realm password response.nonce
      (response.nc.getD 0) response.cnonce response.qop method.name uri
    match crypto.decode expected.toList,crypto.decode response.response.toList with
    | some expected,some actual => if actual ≠ expected then .error .invalidResponse else .ok ()
    | _,_ => .error .invalidResponse

def validate (cache : DigestReplayCache) (now : Nat) : Except DigestError Unit × DigestReplayCache :=
  match c.checkResponse crypto response method uri password now with
  | .error e => (.error e,cache)
  | .ok () =>
    if response.qop.isSome then
      let (fresh,cache) := cache.check response.nonce (response.nc.getD 0) now c.nonceTtlSeconds
      (if fresh then .ok () else .error .replayDetected,cache)
    else (.ok (),cache)

end

theorem checkResponse_ok {crypto : Crypto} {c : DigestContext}
    (passed : c.checkResponse crypto response method uri password now = .ok ()) :
    response.qop = c.qop ∧ (∃ t, crypto.validateNonce response.nonce c.secret now c.nonceTtlSeconds = .ok t) ∧
      (response.qop = none ∨ response.qop = some .auth ∧ ∃ nc, response.nc = some nc) := by
  iterate 4 obtain ⟨_,passed⟩ := passed_of_ok passed
  obtain ⟨other,passed⟩ := passed_of_ok passed
  obtain ⟨unsupported,passed⟩ := passed_of_ok passed
  obtain ⟨incomplete,passed⟩ := passed_of_ok passed
  obtain ⟨_,passed⟩ := passed_of_ok passed
  obtain ⟨t,valid,_⟩ := bind_eq_ok passed
  refine ⟨Decidable.not_not.mp other,⟨t,valid⟩,?_⟩
  cases qop : response.qop with
  | none => exact .inl rfl
  | some q =>
    cases q with
    | authInt => exact absurd qop unsupported
    | auth => exact .inr ⟨rfl,Option.ne_none_iff_exists'.mp fun none => incomplete ⟨qop,.inl none⟩⟩

theorem validate_entries {cache : DigestReplayCache} {e : ReplayEntry}
    (member : e ∈ (c.validate crypto response method uri password cache now).2.entries) :
    e ∈ cache.entries ∨ e.maxNc = response.nc.getD 0 := by
  unfold validate at member
  split at member
  · exact .inl member
  split at member
  · have checks := DigestReplayCache.check_checks cache response.nonce (response.nc.getD 0) now c.nonceTtlSeconds
    exact (checks.entries member).imp_left DigestReplayCache.mem_of_mem_prune
  · exact .inl member

end DigestContext

namespace Sample

def crypto : Crypto where
  hash _ data := data.take 1
  hmacSha256 key message := List.replicate 32 (key.headD 0 + message.getLastD 0)
  hmac_length _ _ := length_replicate
  encode := Hex.encode
  decode := Hex.decode
  encode_append _ _ := Hex.encode_append
  length_encode := Hex.length_encode
  mem_encode _ _ := Hex.mem_encode
  decode_encode := Hex.decode_encode

def server : DigestContext where
  realm := "example.com"
  secret := List.replicate 32 7
  nonceCounter := 0
  allowMd5 := false
  preferredAlgorithm := .sha256
  qop := some .auth
  nonceTtlSeconds := 300
  oneLine := by decide
  strong := by decide
  supported := by decide

end Sample

end CheetahSignaling.SipDigest
