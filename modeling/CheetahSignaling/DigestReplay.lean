import CheetahSignaling.DigestServer
import CheetahSignaling.GuardedRun
import CheetahSignaling.KeyMap

/-! The replay cache over a sequence of validations. An entry is forgotten either because it is
older than the lifetime of a nonce, counted from its first use, or to make room. The first does no
harm as long as no nonce is dated in the future; the second does. -/
namespace CheetahSignaling.SipDigest

open List GuardedRun
open KeyMap (under)

/-- The time a nonce is dated at. -/
def Crypto.timestamp (crypto : Crypto) (nonce : String) : Option Nat :=
  (crypto.decode nonce.toList).map fun bytes => (Hex.fromBeBytes (bytes.take 8)).toNat

theorem timestamp_of_valid {crypto : Crypto} (valid : crypto.validateNonce nonce secret now ttl = .ok t) :
    crypto.timestamp nonce = some t ∧ now ≤ t + ttl := by
  unfold Crypto.validateNonce at valid
  split at valid
  · cases valid
  split at valid
  · cases valid
  rename_i bytes decoded
  simp only at valid
  split_ifs at valid with _ _ live
  obtain rfl := Except.ok.inj valid
  exact ⟨by simp [Crypto.timestamp,decoded],by omega⟩

open DigestReplayCache

structure Attempt where
  response : DigestResponse
  method : Method
  (uri password : String)
  now : Nat

structure ReplayState where
  cache : DigestReplayCache
  last : Nat

namespace DigestContext

variable (crypto : Crypto) (c : DigestContext)

section

variable (s : ReplayState) (a : Attempt)

def attempt : Except DigestError Unit × DigestReplayCache :=
  c.validate crypto a.response a.method a.uri a.password s.cache a.now

def step : ReplayState := ⟨(c.attempt crypto s a).2,a.now⟩

def accepted : List (String × Nat) :=
  if (c.attempt crypto s a).1.isOk ∧ a.response.qop = some .auth then (a.response.nc.map (a.response.nonce,·)).toList else []

/-- The clock does not go back. A response that checks out and whose count is not used up has a nonce
that is not dated ahead; and when the nonce is not held, there is room for it. -/
def InTime : Prop :=
  let pruned := s.cache.prune a.now c.nonceTtlSeconds
  s.last ≤ a.now ∧
    ((c.checkResponse crypto a.response a.method a.uri a.password a.now).isOk = true →
      (∀ e ∈ pruned.find a.response.nonce, e.maxNc < a.response.nc.getD 0) →
      (∀ t ∈ crypto.timestamp a.response.nonce, t ≤ a.now) ∧
        (pruned.find a.response.nonce = none → pruned.entries.length < s.cache.capacity))

instance decidableInTime (s : ReplayState) (a : Attempt) : Decidable (c.InTime crypto s a) :=
  inferInstanceAs (Decidable (_ ∧ _))

/-- The ways a validation can go, with the cache it leaves. -/
inductive Validates (s : ReplayState) (a : Attempt) (result : Except DigestError Unit × DigestReplayCache) : Prop where
  | rejected (e : DigestError) (eq : result = (.error e,s.cache))
  | replayed (eq : result = (.error .replayDetected,s.cache.prune a.now c.nonceTtlSeconds))
  | uncounted (plain : a.response.qop = none) (eq : result = (.ok (),s.cache))
  | counted (passed : c.checkResponse crypto a.response a.method a.uri a.password a.now = .ok ())
      (auth : a.response.qop = some .auth) (t : Nat)
      (valid : crypto.validateNonce a.response.nonce c.secret a.now c.nonceTtlSeconds = .ok t) (nc : Nat)
      (counts : a.response.nc = some nc) (cache : DigestReplayCache)
      (fresh : Checks (s.cache.prune a.now c.nonceTtlSeconds) a.response.nonce nc a.now (true,cache))
      (eq : result = (.ok (),cache))

theorem attempt_validates : Validates crypto c s a (c.attempt crypto s a) := by
  unfold attempt validate
  split
  · rename_i e _
    exact .rejected e rfl
  rename_i passed
  obtain ⟨_,⟨t,valid⟩,plain | ⟨auth,nc,counts⟩⟩ := checkResponse_ok passed
  · rw [if_neg (by simp [plain])]
    exact .uncounted plain rfl
  have checks := check_checks s.cache a.response.nonce nc a.now c.nonceTtlSeconds
  rw [if_pos (by simp [auth]),counts,Option.getD_some]
  cases outcome : s.cache.check a.response.nonce nc a.now c.nonceTtlSeconds with
  | mk fresh cache =>
    rw [outcome] at checks
    cases fresh with
    | true => exact .counted passed auth t valid nc counts cache checks rfl
    | false =>
      cases checks with
      | raised e found above eq => cases eq
      | replayed eq =>
        obtain rfl := (Prod.mk.inj eq).2
        exact .replayed rfl
      | pushed fresh eq => cases eq

/-- No entry is older than its nonce. -/
def Dated : Prop := ∀ e ∈ s.cache.entries, ∃ t, crypto.timestamp e.nonce = some t ∧ t ≤ e.insertedAt

end

/-- A count is remembered for a nonce, or the nonce is no longer valid. -/
def Remembered (nonce : String) (n : Nat) (s : ReplayState) : Prop :=
  (∃ e ∈ s.cache.entries, e.nonce = nonce ∧ n ≤ e.maxNc) ∨ ∃ t, crypto.timestamp nonce = some t ∧ t + c.nonceTtlSeconds < s.last

variable {crypto c}

theorem Remembered.mono {s : ReplayState} (dead : ∃ t, crypto.timestamp nonce = some t ∧ t + c.nonceTtlSeconds < s.last)
    (le : s.last ≤ last) : c.Remembered crypto nonce n ⟨cache,last⟩ := by
  obtain ⟨t,dated,expired⟩ := dead
  exact .inr ⟨t,dated,Nat.lt_of_lt_of_le expired le⟩

theorem Remembered.prune (dated : Dated crypto s) (remembered : c.Remembered crypto nonce n s) (le : s.last ≤ now) :
    c.Remembered crypto nonce n ⟨s.cache.prune now c.nonceTtlSeconds,now⟩ := by
  rcases remembered with ⟨e,member,same,covers⟩ | dead
  · rcases mem_prune member with kept | old
    · exact .inl ⟨e,kept,same,covers⟩
    · obtain ⟨t,stamp,early⟩ := dated e member
      exact .inr ⟨t,same ▸ stamp,by show t + _ < now; omega⟩
  · exact .mono dead le

/-- Recording a count keeps what is remembered, and the count is above it. -/
theorem Remembered.checks (remembered : c.Remembered crypto nonce n ⟨pruned,now⟩)
    (checks : Checks pruned nonce' nc now (true,cache))
    (room : pruned.find nonce' = none → pruned.entries.length < pruned.capacity) :
    c.Remembered crypto nonce n ⟨cache,now⟩ := by
  rcases remembered with ⟨e,member,same,covers⟩ | dead
  · cases checks with
    | raised found foundAt above eq =>
      obtain rfl := (Prod.mk.inj eq).2
      by_cases here : e.nonce = nonce'
      · have one := find_of_mem member
        rw [here,foundAt,Option.some.injEq] at one
        subst one
        exact .inl ⟨_,mem_raise member here,same,Nat.le_trans covers (Nat.le_of_lt above)⟩
      · exact .inl ⟨e,mem_raise_of_ne member here,same,covers⟩
    | replayed eq => cases eq
    | pushed fresh eq =>
      obtain rfl := (Prod.mk.inj eq).2
      refine .inl ⟨e,?_,same,covers⟩
      rw [push_entries fresh (room fresh)]
      exact mem_append_left _ member
  · exact .inr dead

theorem Remembered.below (remembered : c.Remembered crypto nonce n ⟨pruned,now⟩)
    (checks : Checks pruned nonce nc now (true,cache))
    (valid : crypto.validateNonce nonce c.secret now c.nonceTtlSeconds = .ok t) : n < nc := by
  rcases remembered with ⟨e,member,same,covers⟩ | ⟨t',stamp,expired⟩
  · have one := find_of_mem member
    rw [same] at one
    cases checks with
    | raised e' found above eq =>
      rw [found,Option.some.injEq] at one
      exact Nat.lt_of_le_of_lt covers (one ▸ above)
    | replayed eq => cases eq
    | pushed fresh eq => rw [fresh] at one; cases one
  obtain ⟨stamp',live⟩ := timestamp_of_valid valid
  rw [stamp',Option.some.injEq] at stamp
  subst stamp
  exact absurd expired (Nat.not_lt.mpr live)

theorem remembered_of_checks (checks : Checks pruned nonce nc now (true,cache))
    (room : pruned.find nonce = none → pruned.entries.length < pruned.capacity) :
    c.Remembered crypto nonce nc ⟨cache,now⟩ := by
  cases checks with
  | raised e found above eq =>
    obtain rfl := (Prod.mk.inj eq).2
    obtain ⟨member,same⟩ := find_nonce found
    exact .inl ⟨_,mem_raise member same,same,Nat.le_refl nc⟩
  | replayed eq => cases eq
  | pushed fresh eq =>
    obtain rfl := (Prod.mk.inj eq).2
    refine .inl ⟨⟨nonce,nc,now⟩,?_,rfl,Nat.le_refl nc⟩
    rw [push_entries fresh (room fresh)]
    exact mem_append_right _ (mem_singleton_self _)

theorem Dated.checks (dated : Dated crypto ⟨pruned,last⟩) (checks : Checks pruned nonce nc now (true,cache))
    (room : pruned.find nonce = none → pruned.entries.length < pruned.capacity) (stamp : crypto.timestamp nonce = some t)
    (past : t ≤ now) : Dated crypto ⟨cache,now⟩ := by
  cases checks with
  | raised e found above eq =>
    obtain rfl := (Prod.mk.inj eq).2
    intro e' member
    obtain ⟨before,held,rfl⟩ := mem_map.mp member
    obtain ⟨t,stamp,early⟩ := dated before held
    exact ⟨t,by split <;> exact stamp,by split <;> exact early⟩
  | replayed eq => cases eq
  | pushed fresh eq =>
    obtain rfl := (Prod.mk.inj eq).2
    intro e member
    rw [push_entries fresh (room fresh)] at member
    rcases mem_append.mp member with old | new
    · exact dated e old
    · obtain rfl := mem_singleton.mp new
      exact ⟨t,stamp,past⟩

inductive Moves (crypto : Crypto) (c : DigestContext) (s : ReplayState) (a : Attempt) : Prop where
  | kept (none : c.accepted crypto s a = []) (same : c.step crypto s a = ⟨s.cache,a.now⟩)
  | pruned (none : c.accepted crypto s a = []) (same : c.step crypto s a = ⟨s.cache.prune a.now c.nonceTtlSeconds,a.now⟩)
  | counted (t : Nat) (valid : crypto.validateNonce a.response.nonce c.secret a.now c.nonceTtlSeconds = .ok t) (past : t ≤ a.now)
      (nc : Nat) (one : c.accepted crypto s a = [(a.response.nonce,nc)]) (cache : DigestReplayCache)
      (checks : Checks (s.cache.prune a.now c.nonceTtlSeconds) a.response.nonce nc a.now (true,cache))
      (room : (s.cache.prune a.now c.nonceTtlSeconds).find a.response.nonce = none →
        (s.cache.prune a.now c.nonceTtlSeconds).entries.length < (s.cache.prune a.now c.nonceTtlSeconds).capacity)
      (same : c.step crypto s a = ⟨cache,a.now⟩)

theorem InTime.moves (inTime : c.InTime crypto s a) : Moves crypto c s a := by
  cases c.attempt_validates crypto s a with
  | rejected e eq => exact .kept (by simp [accepted,eq,Except.toBool]) (by rw [step,eq])
  | replayed eq => exact .pruned (by simp [accepted,eq,Except.toBool]) (by rw [step,eq])
  | uncounted plain eq => exact .kept (by simp [accepted,plain]) (by rw [step,eq])
  | counted passed auth t valid nc counts cache checks eq =>
    have unused : ∀ e ∈ (s.cache.prune a.now c.nonceTtlSeconds).find a.response.nonce, e.maxNc < a.response.nc.getD 0 := by
      intro e held
      rw [counts]
      cases checks with
      | raised e' found above _ => exact Option.some.inj (found.symm.trans held) ▸ above
      | replayed eq => cases eq
      | pushed fresh _ => cases fresh.symm.trans held
    obtain ⟨past,room⟩ := inTime.2 (by rw [passed]; rfl) unused
    exact .counted t valid (past t (timestamp_of_valid valid).1) nc
      (by simp [accepted,eq,auth,counts,Except.toBool]) cache checks room (by rw [step,eq])

theorem Dated.step (dated : Dated crypto s) (inTime : c.InTime crypto s a) : Dated crypto (c.step crypto s a) := by
  have pruned : Dated crypto ⟨s.cache.prune a.now c.nonceTtlSeconds,a.now⟩ := fun e member => dated e (mem_of_mem_prune member)
  cases inTime.moves with
  | kept none same => exact same ▸ dated
  | pruned none same => exact same ▸ pruned
  | counted t valid past nc one cache checks room same =>
    rw [same]
    exact pruned.checks checks room (timestamp_of_valid valid).1 past

/-- A count that is remembered stays so, and what is accepted under the nonce is above it. -/
theorem Remembered.step (remembered : c.Remembered crypto nonce n s) (dated : Dated crypto s) (inTime : c.InTime crypto s a) :
    c.Remembered crypto nonce n (c.step crypto s a) ∧ ∀ k ∈ under nonce (c.accepted crypto s a), n < k := by
  have pruned := remembered.prune dated inTime.1
  cases inTime.moves with
  | kept none same =>
    refine ⟨?_,by simp [none,under]⟩
    rw [same]
    exact remembered.elim .inl fun dead => .mono dead inTime.1
  | pruned none same => exact ⟨same ▸ pruned,by simp [none,under]⟩
  | counted t valid past nc one cache checks room same =>
    rw [same,one]
    refine ⟨pruned.checks checks room,?_⟩
    by_cases here : a.response.nonce = nonce
    · subst here
      simpa [under] using pruned.below checks valid
    · simp [under,here]

theorem accepted_remembered (inTime : c.InTime crypto s a) :
    (under nonce (c.accepted crypto s a)).Pairwise (· < ·) ∧
      ∀ n ∈ under nonce (c.accepted crypto s a), c.Remembered crypto nonce n (c.step crypto s a) := by
  cases inTime.moves with
  | kept none same => simp [none,under]
  | pruned none same => simp [none,under]
  | counted t valid past nc one cache checks room same =>
    rw [same,one]
    by_cases here : a.response.nonce = nonce
    · subst here
      simpa [under] using remembered_of_checks checks room
    · simp [under,here]

theorem remembers (nonce : String) :
    Remembers (c.step crypto) (c.InTime crypto) (Dated crypto) (fun s a => under nonce (c.accepted crypto s a))
      (c.Remembered crypto nonce) where
  preserved _ _ dated inTime := dated.step inTime
  kept _ _ _ dated inTime remembered := (remembered.step dated inTime).1
  larger _ _ _ dated inTime remembered := (remembered.step dated inTime).2
  rising _ _ _ inTime := (accepted_remembered inTime).1
  recorded _ _ _ inTime := (accepted_remembered inTime).2

/-- Over validations at rising times, none of a nonce dated in the future and none that drives another
nonce out of the cache, the counts accepted for each nonce rise, and no pair of a nonce and a count is
accepted twice. -/
theorem counts_accepted_once (c : DigestContext) (crypto : Crypto) (capacity start : Nat) (attempts : List Attempt)
    (inTime : Guarded (c.step crypto) (c.InTime crypto) ⟨.new capacity,start⟩ attempts) :
    (∀ nonce, (under nonce (emissions (c.step crypto) (c.accepted crypto) ⟨.new capacity,start⟩ attempts)).Pairwise (· < ·)) ∧
      (emissions (c.step crypto) (c.accepted crypto) ⟨.new capacity,start⟩ attempts).Nodup := by
  have rising (nonce : String) :
      (under nonce (emissions (c.step crypto) (c.accepted crypto) ⟨.new capacity,start⟩ attempts)).Pairwise (· < ·) := by
    rw [under,filterMap_emissions]
    exact (remembers nonce).emissions_rising attempts (fun e member => absurd member not_mem_nil) inTime
  exact ⟨rising,KeyMap.nodup_of_under fun nonce => (rising nonce).imp Nat.ne_of_lt⟩

def unexpired (crypto : Crypto) (c : DigestContext) (accepted : List (String × Nat)) (now : Nat) : List String :=
  ((accepted.map Prod.fst).filter fun nonce => (crypto.timestamp nonce).any fun t => now - t ≤ c.nonceTtlSeconds).dedup

end DigestContext

namespace Sample

def nonce (time : UInt64) : String := (server.generateChallenge crypto time).1.nonce

def first (issued : UInt64) (now : Nat) : Attempt where
  response :=
    { username := "alice", realm := "example.com", nonce := nonce issued, uri := "sip:example.com",
      response := crypto.computeResponse .sha256 "alice" "example.com" "password" (nonce issued) 1 (some "c") (some .auth)
        "REGISTER" "sip:example.com",
      cnonce := some "c", nc := some 1, qop := some .auth, algorithm := some .sha256, opaqueValue := none }
  method := .register
  uri := "sip:example.com"
  password := "password"
  now := now

def accepted (capacity : Nat) (attempts : List Attempt) : List (String × Nat) :=
  emissions (server.step crypto) (server.accepted crypto) ⟨.new capacity,0⟩ attempts

/-- Two nonces are used in turn; the second use of a count is refused. -/
theorem second_use_refused :
    Guarded (server.step crypto) (server.InTime crypto) ⟨.new 2,0⟩ [first 100 100,first 120 300,first 100 301] ∧
      accepted 2 [first 100 100,first 120 300,first 100 301] = [(nonce 100,1),(nonce 120,1)] ∧
      (accepted 2 [first 100 100,first 120 300,first 100 301]).Nodup := by
  have inTime : Guarded (server.step crypto) (server.InTime crypto) ⟨.new 2,0⟩ [first 100 100,first 120 300,first 100 301] := by
    decide +kernel
  exact ⟨inTime,by decide +kernel,(server.counts_accepted_once crypto 2 0 _ inTime).2⟩

/-- A nonce of time 0 that is first used at 300 stays in a cache of two beyond its lifetime and drives
out a younger nonce, which is then accepted with the same count again. A nonce dated ahead of the clock
outlives its entry. Never more than two nonces are accepted and valid. -/
theorem counts_accepted_twice :
    let eviction := [first 100 100,first 0 300,first 301 301,first 100 302]
    let ahead := [first 1000 0,first 1000 301]
    (eviction.map (·.now)).Pairwise (· ≤ ·) ∧
      (∀ k ≤ 4, (server.unexpired crypto (accepted 2 (eviction.take k))
        (execute (server.step crypto) ⟨.new 2,0⟩ (eviction.take k)).last).length ≤ 2) ∧
      accepted 2 eviction = [(nonce 100,1),(nonce 0,1),(nonce 301,1),(nonce 100,1)] ∧
      (ahead.map (·.now)).Pairwise (· ≤ ·) ∧
      (∀ k ≤ 2, (server.unexpired crypto (accepted 2 (ahead.take k))
        (execute (server.step crypto) ⟨.new 2,0⟩ (ahead.take k)).last).length ≤ 2) ∧
      accepted 2 ahead = [(nonce 1000,1),(nonce 1000,1)] := by
  decide +kernel

end Sample

end CheetahSignaling.SipDigest
