import CheetahSignaling.DigestClient
import CheetahSignaling.DigestCodec
import CheetahSignaling.GuardedRun
import Mathlib.Data.String.Basic

/-! A client and a server of digest authentication with the same credentials: what the client
answers to a challenge is written, read and validated. -/
namespace CheetahSignaling.SipDigest

open List GuardedRun Outcomes

theorem utf8ByteSize_ascii (ascii : ∀ c ∈ s, c.utf8Size = 1) : (String.ofList s).utf8ByteSize = s.length := by
  rw [String.utf8ByteSize_ofList]
  induction s with
  | nil => rfl
  | cons c s ih =>
    obtain ⟨one,rest⟩ := forall_mem_cons.mp ascii
    rw [String.utf8Len_cons,one,ih rest,length_cons]

namespace Crypto

variable (crypto : Crypto)

variable (secret : List UInt8) (timestamp counter : UInt64)

def nonceBytes : List UInt8 := Hex.toBeBytes timestamp ++ Hex.toBeBytes counter ++
    (crypto.nonceSignature secret (Hex.toBeBytes timestamp) (Hex.toBeBytes counter)).take 16

theorem length_toBeBytes : (Hex.toBeBytes word).length = 8 := rfl

theorem nonce_toList :
    (crypto.generateNonce secret timestamp counter).toList = crypto.encode (crypto.nonceBytes secret timestamp counter) := by
  rw [generateNonce,String.toList_ofList,nonceBytes,crypto.encode_append,crypto.encode_append]

theorem length_nonceBytes : (crypto.nonceBytes secret timestamp counter).length = 32 := by
  have signature := crypto.hmac_length secret (Hex.toBeBytes timestamp ++ Hex.toBeBytes counter)
  simp [nonceBytes,nonceSignature,length_toBeBytes,signature]

theorem validateNonce_generated (live : now - timestamp.toNat ≤ ttl) :
    crypto.validateNonce (crypto.generateNonce secret timestamp counter) secret now ttl = .ok timestamp.toNat := by
  have text := crypto.nonce_toList secret timestamp counter
  have digits (c : Char) (member : c ∈ (crypto.generateNonce secret timestamp counter).toList) :
    c.utf8Size = 1 ∧ c.toNat < 128 := by
    rw [text] at member
    obtain ⟨d,low,rfl⟩ := crypto.mem_encode _ _ member
    have all : ∀ d < 16, (Nat.digitChar d).utf8Size = 1 ∧ (Nat.digitChar d).toNat < 128 := by decide
    exact all d low
  have size : (crypto.generateNonce secret timestamp counter).utf8ByteSize = 64 := by
    rw [← String.ofList_toList (s := crypto.generateNonce secret timestamp counter),
      utf8ByteSize_ascii fun c member => (digits c member).1,text,crypto.length_encode,length_nonceBytes]
  have shaped : ¬((crypto.generateNonce secret timestamp counter).utf8ByteSize ≠ 64 ∨
      (!(crypto.generateNonce secret timestamp counter).toList.all (·.toNat < 128)) = true) := by
    simp only [size,ne_eq,not_true_eq_false,false_or,Bool.not_eq_true',Bool.not_eq_false,all_eq_true,decide_eq_true_eq]
    exact fun c member => (digits c member).2
  have stamp : (crypto.nonceBytes secret timestamp counter).take 8 = Hex.toBeBytes timestamp := by
    rw [nonceBytes,append_assoc,take_left' length_toBeBytes]
  have count : ((crypto.nonceBytes secret timestamp counter).drop 8).take 8 = Hex.toBeBytes counter := by
    rw [nonceBytes,append_assoc,drop_left' length_toBeBytes,take_left' length_toBeBytes]
  have signed : (crypto.nonceBytes secret timestamp counter).drop 16 =
      (crypto.nonceSignature secret (Hex.toBeBytes timestamp) (Hex.toBeBytes counter)).take 16 := by
    have sixteen : (Hex.toBeBytes timestamp ++ Hex.toBeBytes counter).length = 16 := rfl
    rw [nonceBytes,drop_left' sixteen]
  have fresh : ¬now - timestamp.toNat > ttl := Nat.not_lt.mpr live
  rw [validateNonce,if_neg shaped,text,crypto.decode_encode]
  simp [length_nonceBytes,stamp,count,signed,Hex.fromBeBytes_toBeBytes,if_neg fresh]

end Crypto

structure Answerable (client : DigestClient) (username uri : String) (challenge : DigestChallenge) (cnonce : String) : Prop where
  username : OneLine username.toList
  uri : OneLine uri.toList
  cnonce : OneLine cnonce.toList
  realm : OneLine challenge.realm.toList
  nonce : OneLine challenge.nonce.toList
  opaqueValue : ∀ value ∈ challenge.opaqueValue, OneLine value.toList

theorem validateToken_ok (valid : validateToken value = .ok ()) : OneLine value.toList := by
  unfold validateToken at valid
  split at valid
  · cases valid
  · rename_i clean
    simpa [OneLine] using clean

open DigestClient (respond)

inductive Authorizes (crypto : Crypto) (client : DigestClient) (username password method uri : String)
    (challenge : DigestChallenge)
    (cnonce : String) (result : DigestResponse × DigestClient) : Prop where
  | counted (auth : challenge.qop.or client.qop = some .auth) (count : client.nonceCount + 1 < 2 ^ 64)
      (eq : result = (respond crypto username password method uri challenge (some .auth) (some cnonce)
        (some (client.nonceCount + 1)),
        { client with nonceCount := client.nonceCount + 1 }))
  | plain (unprotected : challenge.qop.or client.qop = none)
      (eq : result = (respond crypto username password method uri challenge none none none,client))

theorem authorize_authorizes
    (authorized : client.authorize crypto username password method uri challenge cnonce = .ok result) :
    Answerable client username uri challenge cnonce ∧
      Authorizes crypto client username password method uri challenge cnonce result := by
  obtain ⟨⟨⟩,usernameOk,⟨⟩,uriOk,authorized⟩ := bind_eq_ok₂ authorized
  obtain ⟨⟨⟩,cnonceOk,⟨⟩,realmOk,authorized⟩ := bind_eq_ok₂ authorized
  obtain ⟨⟨⟩,nonceOk,⟨⟩,opaqueOk,authorized⟩ := bind_eq_ok₂ authorized
  have opaqueClean : ∀ value ∈ challenge.opaqueValue, OneLine value.toList := by
    intro value held
    rw [Option.mem_def.mp held] at opaqueOk
    exact validateToken_ok opaqueOk
  refine ⟨⟨validateToken_ok usernameOk,validateToken_ok uriOk,validateToken_ok cnonceOk,validateToken_ok realmOk,
    validateToken_ok nonceOk,opaqueClean⟩,?_⟩
  obtain ⟨_,authorized⟩ := passed_of_ok authorized
  obtain ⟨_,authorized⟩ := passed_of_ok authorized
  obtain ⟨unsupported,authorized⟩ := passed_of_ok authorized
  split at authorized
  · rename_i auth
    obtain ⟨⟨⟩,_,authorized⟩ := bind_eq_ok authorized
    split at authorized
    · rename_i count
      exact .counted auth count (auth ▸ (Except.ok.inj authorized).symm)
    · cases authorized
  rename_i auth
  have unprotected : challenge.qop.or client.qop = none := by
    cases qop : challenge.qop.or client.qop with
    | none => rfl
    | some q =>
      cases q with
      | auth => exact absurd qop auth
      | authInt => exact absurd qop unsupported
  exact .plain unprotected (unprotected ▸ (Except.ok.inj authorized).symm)

section

variable (crypto : Crypto) (algorithm : DigestAlgorithm)

theorem decode_hashHex (data : String) :
    crypto.decode (crypto.hashHex algorithm data).toList = some (crypto.hash algorithm data.toUTF8.data.toList) := by
  rw [Crypto.hashHex,String.toList_ofList,crypto.decode_encode]

theorem oneLine_hashHex (data : String) : OneLine (crypto.hashHex algorithm data).toList := by
  have digit {c : Char} (member : c ∈ (crypto.hashHex algorithm data).toList) : c ≠ '\r' ∧ c ≠ '\n' := by
    rw [Crypto.hashHex,String.toList_ofList] at member
    obtain ⟨d,low,rfl⟩ := crypto.mem_encode _ _ member
    have all : ∀ d < 16, Nat.digitChar d ≠ '\r' ∧ Nat.digitChar d ≠ '\n' := by decide
    exact all d low
  exact ⟨fun member => (digit member).1 rfl,fun member => (digit member).2 rfl⟩

theorem computeResponse_hash (username realm password nonce : String) (nc : Nat) (cnonce : Option String)
    (qop : Option DigestQop) (method uri : String) :
    ∃ data, crypto.computeResponse algorithm username realm password nonce nc cnonce qop method
      uri = crypto.hashHex algorithm data := by
  unfold Crypto.computeResponse
  split <;> exact ⟨_,rfl⟩

end

theorem writable_respond (answerable : Answerable client username uri challenge cnonce)
    (cnonceClean : ∀ value ∈ cnonce', OneLine value.toList) (small : ∀ n ∈ nc, n < 2 ^ 64) :
    Writable (respond crypto username password method uri challenge qop cnonce' nc) where
  username := answerable.username
  realm := answerable.realm
  nonce := answerable.nonce
  uri := answerable.uri
  response := by
    obtain ⟨data,same⟩ :=
      computeResponse_hash crypto challenge.algorithm username challenge.realm password challenge.nonce (nc.getD 0)
      cnonce' qop method uri
    rw [respond,same]
    exact oneLine_hashHex crypto challenge.algorithm data
  cnonce := cnonceClean
  nc := small
  opaqueValue := answerable.opaqueValue

section

variable (authorizes : Authorizes crypto client username password method uri challenge cnonce (response,client'))
include authorizes

theorem Authorizes.writable (answerable : Answerable client username uri challenge cnonce) : Writable response := by
  cases authorizes with
  | counted auth count eq =>
    obtain rfl := (Prod.mk.inj eq).1
    exact writable_respond answerable (by simpa using answerable.cnonce) (by simpa using count)
  | plain unprotected eq =>
    obtain rfl := (Prod.mk.inj eq).1
    exact writable_respond answerable (by simp) (by simp)

theorem Authorizes.count :
    client.nonceCount ≤ client'.nonceCount ∧ response.nc.getD 0 ≤ client'.nonceCount ∧ client'.qop = client.qop := by
  cases authorizes with
  | counted auth count eq =>
    obtain ⟨rfl,rfl⟩ := Prod.mk.inj eq
    exact ⟨Nat.le_succ _,Nat.le_refl _,rfl⟩
  | plain unprotected eq =>
    obtain ⟨rfl,rfl⟩ := Prod.mk.inj eq
    exact ⟨Nat.le_refl _,Nat.zero_le _,rfl⟩

end

/-- The challenge as the server issues it at that time. -/
def IssuedAt (crypto : Crypto) (c : DigestContext) (challenge : DigestChallenge) (time : UInt64) : Prop :=
  ∃ counter stale, challenge =
    ⟨c.realm,crypto.generateNonce c.secret time counter,none,stale,c.preferredAlgorithm,c.qop⟩

theorem checkResponse_respond (issued : IssuedAt crypto c challenge time)
    (live : now - time.toNat ≤ c.nonceTtlSeconds) (allowed : c.preferredAlgorithm = .md5 → c.allowMd5 = true)
    (complete : c.qop = some .auth ∧ (∃ n, nc = some n) ∧ (∃ value, cnonce = some value) ∨ c.qop = none ∧
      nc = none ∧ cnonce = none) :
    c.checkResponse crypto
    (respond crypto username password method.name uri challenge c.qop cnonce nc) method uri password now = .ok () := by
  obtain ⟨counter,stale,rfl⟩ := issued
  have notDowngraded : ¬(c.preferredAlgorithm = .md5 ∧ (!c.allowMd5) = true) := by
    rintro ⟨md5,refused⟩
    simp [allowed md5] at refused
  have counted : ¬(c.qop = some .auth ∧ (nc = none ∨ cnonce = none)) := by
    rcases complete with ⟨_,⟨n,rfl⟩,value,rfl⟩ | ⟨plain,_⟩
    · simp
    · simp [plain]
  have uncounted : ¬(c.qop = none ∧ (nc ≠ none ∨ cnonce ≠ none)) := by
    rcases complete with ⟨auth,_⟩ | ⟨_,rfl,rfl⟩
    · simp [auth]
    · simp
  obtain ⟨data,same⟩ := computeResponse_hash crypto c.preferredAlgorithm username c.realm password
    (crypto.generateNonce c.secret time counter) (nc.getD 0) cnonce c.qop method.name uri
  simp only [DigestContext.checkResponse,respond,Option.getD_some,if_neg notDowngraded,ne_eq,not_true_eq_false,if_false,
    if_neg c.supported,if_neg counted,if_neg uncounted,crypto.validateNonce_generated c.secret time
      counter live,bind,Except.bind,
    same,decode_hashHex]

structure Exchange where
  challenge : DigestChallenge
  (username password : String)
  method : Method
  (uri cnonce : String)
  now : Nat

structure Session where
  client : DigestClient
  cache : DigestReplayCache

namespace Session

variable (crypto : Crypto) (c : DigestContext)

def authorize (s : Session) (e : Exchange) : Except DigestError (DigestResponse × DigestClient) :=
  s.client.authorize crypto e.username e.password e.method.name e.uri e.challenge e.cnonce

def receive (cache : DigestReplayCache) (e : Exchange) (value : String) : Except DigestError Unit × DigestReplayCache :=
  match DigestResponse.parse value with
  | .error err => (.error err,cache)
  | .ok response => c.validate crypto response e.method e.uri e.password cache e.now

def step (s : Session) (e : Exchange) : Session :=
  match s.authorize crypto e with
  | .error _ => s
  | .ok (response,client) => ⟨client,(receive crypto c s.cache e response.toHeaderValue).2⟩

/-- The cache knows no count that the client has not used, and the client asks for `qop` by itself. -/
structure Behind (qop : Option DigestQop) (s : Session) : Prop where
  counts : ∀ entry ∈ s.cache.entries, entry.maxNc ≤ s.client.nonceCount
  own : s.client.qop = qop

section

variable {crypto c}

theorem receive_writable (writable : Writable response) (fits : response.toHeaderValue.utf8ByteSize ≤ maxHeaderLen)
    (cache : DigestReplayCache) :
      receive crypto c cache e response.toHeaderValue = c.validate crypto response e.method e.uri e.password cache e.now := by
  rw [receive,DigestResponse.parse,parse_toHeaderValue writable fits]

theorem receive_long (crypto : Crypto) (c : DigestContext) (long : maxHeaderLen < value.utf8ByteSize)
    (cache : DigestReplayCache) (e : Exchange) :
    ∃ err, receive crypto c cache e value = (.error err,cache) := by
  rw [receive,parse_long long]
  exact ⟨_,rfl⟩

/-- After an exchange the server still knows no count that the client has not used. -/
theorem Behind.step (behind : Behind qop s) (e : Exchange) : Behind qop (s.step crypto c e) := by
  unfold Session.step
  cases authorized : s.authorize crypto e with
  | error _ => exact behind
  | ok result =>
    obtain ⟨response,client⟩ := result
    obtain ⟨answerable,authorizes⟩ := authorize_authorizes authorized
    obtain ⟨up,carried,own⟩ := authorizes.count
    refine ⟨fun entry member => ?_,own.trans behind.own⟩
    have old (held : entry ∈ s.cache.entries) : entry.maxNc ≤ client.nonceCount := Nat.le_trans (behind.counts entry held) up
    by_cases fits : response.toHeaderValue.utf8ByteSize ≤ maxHeaderLen
    · simp only [receive_writable (authorizes.writable answerable) fits] at member
      rcases c.validate_entries crypto member with held | now
      · exact old held
      · exact now ▸ carried
    · obtain ⟨err,same⟩ := receive_long crypto c (Nat.not_le.mp fits) s.cache e
      simp only [same] at member
      exact old member

theorem check_above {cache : DigestReplayCache} (above : ∀ entry ∈ cache.entries, entry.maxNc < nc)
    (nonce : String) (now ttl : Nat) :
    (cache.check nonce nc now ttl).1 = true := by
  unfold DigestReplayCache.check
  simp only
  split
  · rename_i entry found
    have member := DigestReplayCache.mem_of_mem_prune (DigestReplayCache.find_nonce found).1
    rw [if_pos (above entry member)]
  · rfl

theorem validate_respond {cache : DigestReplayCache} (issued : IssuedAt crypto c challenge time)
    (live : now - time.toNat ≤ c.nonceTtlSeconds) (allowed : c.preferredAlgorithm = .md5 → c.allowMd5 = true)
    (complete : c.qop = some .auth ∧ (∃ n, nc = some n) ∧ (∃ value, cnonce = some value) ∨ c.qop = none ∧
      nc = none ∧ cnonce = none)
    (above : ∀ n ∈ nc, ∀ entry ∈ cache.entries, entry.maxNc < n) :
    (c.validate crypto (respond crypto username password method.name uri challenge c.qop cnonce nc)
      method uri password cache now).1 =
      .ok () := by
  unfold DigestContext.validate
  rw [checkResponse_respond issued live allowed complete]
  rcases complete with ⟨auth,⟨n,rfl⟩,_⟩ | ⟨plain,rfl,rfl⟩
  · have fresh := check_above (above n rfl)
      (respond crypto username password method.name uri challenge c.qop cnonce (some n)).nonce now
    simp only [respond,auth,Option.getD_some] at fresh ⊢
    rw [fresh]
    rfl
  · simp [respond,plain]

theorem validate_other_qop {cache : DigestReplayCache} (other : response.qop ≠ c.qop) :
    (c.validate crypto response method uri password cache now).1 ≠ .ok () := by
  unfold DigestContext.validate
  cases passed : c.checkResponse crypto response method uri password now with
  | error e => simp
  | ok _ => exact absurd (DigestContext.checkResponse_ok passed).1 other

end

/-- An authorization that the client makes for a challenge of the server, whatever went on between the
two before, is accepted within the lifetime of the nonce just when the client does not bring a quality
of protection of its own to a challenge without one, and the header value is not too long. -/
theorem authorization_accepted_iff (client : DigestClient) (capacity : Nat) (before : List Exchange) (e : Exchange)
    (issued : IssuedAt crypto c e.challenge time) (live : e.now - time.toNat ≤ c.nonceTtlSeconds)
    (allowed : c.preferredAlgorithm = .md5 → c.allowMd5 = true)
    (authorized : (execute (step crypto c) ⟨client,.new capacity⟩ before).authorize crypto e = .ok (response,client')) :
    (receive crypto c (execute (step crypto c) ⟨client,.new capacity⟩ before).cache e response.toHeaderValue).1 = .ok () ↔
      (c.qop = none → client.qop = none) ∧ response.toHeaderValue.utf8ByteSize ≤ maxHeaderLen := by
  have behind : Behind client.qop (execute (step crypto c) ⟨client,.new capacity⟩ before) :=
    execute_invariant (fun _ e behind => behind.step e) before ⟨fun entry member => absurd member not_mem_nil,rfl⟩
  generalize execute (step crypto c) ⟨client,.new capacity⟩ before = s at behind authorized
  obtain ⟨answerable,authorizes⟩ := authorize_authorizes authorized
  by_cases fits : response.toHeaderValue.utf8ByteSize ≤ maxHeaderLen
  · rw [receive_writable (authorizes.writable answerable) fits,and_iff_left fits]
    have offered : e.challenge.qop = c.qop := by
      obtain ⟨counter,stale,same⟩ := issued
      rw [same]
    cases authorizes with
    | counted auth count eq =>
      obtain rfl := (Prod.mk.inj eq).1
      rw [offered,behind.own] at auth
      cases qop : c.qop with
      | none =>
        rw [qop,Option.none_or] at auth
        refine iff_of_false (validate_other_qop ?_) (by simp [auth])
        simp [respond,qop]
      | some q =>
        rw [qop,Option.some_or] at auth
        have same : some DigestQop.auth = c.qop := by rw [qop,auth]
        refine iff_of_true ?_ (by simp)
        rw [same]
        refine validate_respond issued live allowed (.inl ⟨same.symm,⟨_,rfl⟩,_,rfl⟩) ?_
        intro n held entry member
        obtain rfl := Option.some.inj held
        exact Nat.lt_succ_of_le (behind.counts entry member)
    | plain unprotected eq =>
      obtain rfl := (Prod.mk.inj eq).1
      rw [offered,behind.own,Option.or_eq_none_iff] at unprotected
      obtain ⟨plain,own⟩ := unprotected
      refine iff_of_true ?_ fun _ => own
      have accepted : (c.validate crypto (respond crypto e.username e.password e.method.name e.uri e.challenge c.qop none none)
          e.method e.uri e.password s.cache e.now).1 = .ok () :=
        validate_respond issued live allowed (.inr ⟨plain,rfl,rfl⟩) (by simp)
      rwa [plain] at accepted
  · obtain ⟨err,refused⟩ := receive_long crypto c (Nat.not_le.mp fits) s.cache e
    rw [refused]
    exact iff_of_false (by simp) fun both => fits both.2

end Session

namespace Sample

open Session

def registration (c : DigestContext) : Exchange where
  challenge := (c.generateChallenge crypto 100).1
  username := "alice"
  password := "pass\"word"
  method := .register
  uri := "sip:example.com"
  cnonce := "c"
  now := 400

/-- The second answer to one challenge is accepted as the first. -/
theorem second_registration_accepted :
    (execute (step crypto server) ⟨.new,.new 1⟩ [registration server]).client.nonceCount = 1 ∧
      (receive crypto server (execute (step crypto server) ⟨.new,.new 1⟩ [registration server]).cache (registration server)
        (respond crypto "alice" "pass\"word" "REGISTER" "sip:example.com" (registration server).challenge (some .auth) (some "c")
          (some 2)).toHeaderValue).1 = .ok () := by
  have authorized : (execute (step crypto server) ⟨.new,.new 1⟩ [registration server]).authorize crypto (registration server) =
      .ok (respond crypto "alice" "pass\"word" "REGISTER" "sip:example.com" (registration server).challenge
        (some .auth) (some "c")
        (some 2),⟨false,none,2⟩) := by
    decide +kernel
  refine ⟨by decide +kernel,?_⟩
  exact (authorization_accepted_iff crypto server .new 1 [registration server] (registration server)
    ⟨0,false,rfl⟩ (by decide) (by decide) authorized).mpr ⟨by decide,by decide +kernel⟩

def unprotected : DigestContext := { server with qop := none, supported := by decide }

/-- A client that is set to `auth` answers the challenge of such a server with it, and is refused. -/
theorem own_qop_refused :
    (⟨false,some .auth,0⟩ : DigestClient).authorize crypto "alice" "pass\"word" "REGISTER" "sip:example.com"
        (registration unprotected).challenge "c" =
      .ok (respond crypto "alice" "pass\"word" "REGISTER" "sip:example.com" (registration unprotected).challenge
        (some .auth) (some "c")
        (some 1),⟨false,some .auth,1⟩) ∧
      (receive crypto unprotected (.new 1) (registration unprotected)
        (respond crypto "alice" "pass\"word" "REGISTER" "sip:example.com" (registration unprotected).challenge
          (some .auth) (some "c")
          (some 1)).toHeaderValue).1 = .error .invalidQop := by
  decide +kernel

end Sample

end CheetahSignaling.SipDigest
