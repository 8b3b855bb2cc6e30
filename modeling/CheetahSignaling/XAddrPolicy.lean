import CheetahSignaling.Outcomes
import Mathlib.Data.List.Dedup
import Mathlib.Data.List.Infix
import Mathlib.Data.List.Perm.Subperm

/-! The address policy of ONVIF discovery, and the receive loop that applies it to announced devices. -/
namespace CheetahSignaling.Onvif

open Outcomes

inductive IpAddr where
  | v4 (address : BitVec 32)
  | v6 (address : BitVec 128)

inductive Host where
  | domain (name : String)
  | ip (address : IpAddr)

/-- A parsed URL. The parser leaves out a port that is the default of the scheme. -/
structure Url where
  scheme : String
  username : String := ""
  password : Option String := none
  host : Option Host
  port : Option Nat := none
  path : String := "/"
  text : String := ""

inductive OnvifError where
  | ssrfRejected (message : String)
  | invalidXAddr (text : String)

structure XAddrPolicy where
  allowedSchemes : List String := ["http","https"]
  allowedPorts : List Nat := [80,443]
  allowPrivate : Bool := false
  allowLoopback : Bool := false
  allowLinkLocal : Bool := false
  allowUnspecified : Bool := false
  allowDomainNames : Bool := false

/-- Loopback, link-local, private and unspecified. -/
structure Classes where
  loopback : Bool
  linkLocal : Bool
  isPrivate : Bool
  unspecified : Bool

def classifyV4 (ip : BitVec 32) : Classes where
  loopback := ip >>> 24 = 127
  linkLocal := ip >>> 16 = 0xa9fe
  isPrivate := ip >>> 24 = 10 ∨ ip >>> 20 = 0xac1 ∨ ip >>> 16 = 0xc0a8
  unspecified := ip = 0

def toIpv4Mapped (ip : BitVec 128) : Option (BitVec 32) := if ip >>> 32 = 0xffff then some (ip.truncate 32) else none

def classify : IpAddr → Classes
  | .v4 ip => classifyV4 ip
  | .v6 ip =>
    let mapped := (toIpv4Mapped ip).map classifyV4
    { loopback := ip = 1 ∨ mapped.any (·.loopback)
      linkLocal := ip >>> 118 = 0x3fa ∨ mapped.any (·.linkLocal)
      isPrivate := ip >>> 121 = 0x7e ∨ mapped.any (·.isPrivate)
      unspecified := ip = 0 ∨ mapped.any (·.unspecified) }

def reject (rejected : Bool) (message : String) : Except OnvifError Unit :=
  if rejected then .error (.ssrfRejected message) else .ok ()

namespace XAddrPolicy

variable (policy : XAddrPolicy) (parseIp : String → Option IpAddr)

def checkIp (ip : IpAddr) : Except OnvifError Unit := do
  reject (!policy.allowUnspecified && (classify ip).unspecified) "unspecified address not allowed"
  reject (!policy.allowLoopback && (classify ip).loopback) "loopback address not allowed"
  reject (!policy.allowLinkLocal && (classify ip).linkLocal) "link-local address not allowed"
  reject (!policy.allowPrivate && (classify ip).isPrivate) "private address not allowed"

def checkHost : Host → Except OnvifError Unit
  | .ip ip => policy.checkIp ip
  | .domain name =>
    if name = "localhost" then reject (!policy.allowLoopback) "localhost not allowed"
    else
      match parseIp name with
      | some ip => policy.checkIp ip
      | none => reject (!policy.allowDomainNames) "domain name hosts not allowed"

def validate (url : Url) : Except OnvifError Unit := do
  reject (url.scheme ∉ policy.allowedSchemes) ("scheme " ++ url.scheme ++ " not allowed")
  if let some port := url.port then
    reject (policy.allowedPorts ≠ [] ∧ port ∉ policy.allowedPorts) ("port " ++ toString port ++ " not allowed")
  reject (url.username ≠ "" ∨ url.password.isSome) "userinfo not allowed"
  reject ("//".toList <:+: url.path.toList) "empty path segment not allowed"
  match url.host with
  | none => .error (.invalidXAddr url.text)
  | some host => policy.checkHost parseIp host

end XAddrPolicy

@[simp] theorem reject_ok : reject rejected message = .ok () ↔ rejected = false := by
  cases rejected <;> simp [reject]

@[simp] theorem reject_bind_ok {f : Unit → Except OnvifError α} :
    (reject rejected message >>= f) = .ok a ↔ rejected = false ∧ f () = .ok a := by
  cases rejected <;> simp [reject,bind,Except.bind]

/-- The default port of a scheme that the URL library knows. -/
def knownDefault : String → Option Nat
  | "http" | "ws" => some 80
  | "https" | "wss" => some 443
  | "ftp" => some 21
  | _ => none

/-- `port_or_known_default`. -/
def Url.portOrKnownDefault (url : Url) : Option Nat := url.port <|> knownDefault url.scheme

/-- The IPv4 address inside an IPv6 one: mapped, compatible, 6to4 or under the NAT64 prefix. -/
def embedded (ip : BitVec 128) : Option (BitVec 32) :=
  if ip >>> 32 = 0xffff ∨ ip >>> 32 = 0 ∨ ip >>> 32 = 0x0064ff9b0000000000000000 then some (ip.truncate 32)
  else if ip >>> 112 = 0x2002 then some ((ip >>> 80).truncate 32)
  else none

section

variable {policy : XAddrPolicy} {parseIp : String → Option IpAddr} {url : Url}

theorem validate_ok : policy.validate parseIp url = .ok () ↔
    url.scheme ∈ policy.allowedSchemes ∧ (∀ port ∈ url.port, policy.allowedPorts = [] ∨ port ∈ policy.allowedPorts) ∧
      (url.username = "" ∧ url.password = none) ∧ ¬"//".toList <:+: url.path.toList ∧
        ∃ host, url.host = some host ∧ policy.checkHost parseIp host = .ok () := by
  unfold XAddrPolicy.validate
  cases url.port <;> cases url.host <;> simp [and_assoc,or_iff_not_imp_left]

/-- No class of the address is forbidden. -/
def XAddrPolicy.Admits (policy : XAddrPolicy) (classes : Classes) : Prop :=
  (classes.unspecified → policy.allowUnspecified) ∧ (classes.loopback → policy.allowLoopback) ∧
    (classes.linkLocal → policy.allowLinkLocal) ∧ (classes.isPrivate → policy.allowPrivate)

theorem checkIp_ok : policy.checkIp ip = .ok () ↔ policy.Admits (classify ip) := by
  have flag (allowed forbidden : Bool) : (!allowed && forbidden) = false ↔ (forbidden = true → allowed = true) := by
    cases allowed <;> cases forbidden <;> simp
  simp only [XAddrPolicy.checkIp,XAddrPolicy.Admits,reject_bind_ok,reject_ok,flag]

theorem Admits_mapped (mapped : toIpv4Mapped ip = some v4) (admitted : policy.Admits (classify (.v6 ip))) :
    policy.Admits (classifyV4 v4) := by
  simp only [XAddrPolicy.Admits,classify,mapped,Option.map_some,Option.any_some,decide_eq_true_eq] at admitted ⊢
  tauto

/-- The address a host stands for without resolving a name. -/
def Host.address (parseIp : String → Option IpAddr) : Host → Option IpAddr
  | .ip address => some address
  | .domain name => if name = "localhost" then none else parseIp name

theorem checkHost_address {host : Host} (known : host.address parseIp = some ip) :
    policy.checkHost parseIp host = policy.checkIp ip := by
  cases host with
  | ip => cases known; rfl
  | domain name =>
    simp only [Host.address,Option.ite_none_left_eq_some] at known
    simp [XAddrPolicy.checkHost,known]

/-- For an accepted URL: when its effective port is one of those listed, and when the IPv4 address inside its IPv6
address would be accepted as well, which is always so for a mapped one. -/
theorem accepted_destination (policy : XAddrPolicy) (parseIp : String → Option IpAddr) (url : Url)
    (accepted : policy.validate parseIp url = .ok ()) :
    ((policy.allowedPorts ≠ [] → ∀ port ∈ url.portOrKnownDefault, port ∈ policy.allowedPorts) ↔
      policy.allowedPorts = [] ∨ url.port ≠ none ∨ ∀ port ∈ knownDefault url.scheme, port ∈ policy.allowedPorts) ∧
    ∀ host ip v4, url.host = some host → host.address parseIp = some (.v6 ip) → embedded ip = some v4 →
      (policy.validate parseIp { url with host := some (.ip (.v4 v4)) } = .ok () ↔ policy.Admits (classifyV4 v4)) ∧
      (toIpv4Mapped ip = some v4 → policy.Admits (classifyV4 v4)) := by
  obtain ⟨scheme,ports,userinfo,path,host,named,checked⟩ := validate_ok.mp accepted
  constructor
  · cases given : url.port with
    | none => simp [Url.portOrKnownDefault,given,or_iff_not_imp_left]
    | some port => simpa [Url.portOrKnownDefault,given,or_iff_not_imp_left] using ports port given
  intro other ip v4 same known inside
  obtain rfl : host = other := Option.some.inj (named.symm.trans same)
  rw [checkHost_address known,checkIp_ok] at checked
  refine ⟨?_,fun mapped => Admits_mapped mapped checked⟩
  rw [validate_ok]
  constructor
  · rintro ⟨-,-,-,-,_,same,passed⟩
    cases same
    exact checkIp_ok.mp passed
  · exact fun admitted => ⟨scheme,ports,userinfo,path,_,rfl,checkIp_ok.mpr admitted⟩

end

namespace Sample

def direct : Url := { scheme := "http", host := some (.ip (.v4 0xc0000201)) }

/-- `http://192.0.2.1/` goes to port 80 although only 8080 is allowed, and `::10.0.0.1`, `2002:a00:1::` and
`64:ff9b::a00:1` pass where `10.0.0.1` does not. -/
theorem unlisted_port_and_embedded_accepted :
    XAddrPolicy.validate { allowedPorts := [8080] } (fun _ => none) direct = .ok () ∧
      direct.portOrKnownDefault = some 80 ∧
    ∀ ip ∈ [0xa000001,0x20020a00000100000000000000000000,0x0064ff9b00000000000000000a000001],
      embedded ip = some 0xa000001 ∧
        XAddrPolicy.validate {} (fun _ => none) { direct with host := some (.ip (.v6 ip)) } = .ok () ∧
        XAddrPolicy.validate {} (fun _ => none) { direct with host := some (.ip (.v4 0xa000001)) } =
          .error (.ssrfRejected "private address not allowed") := by
  refine ⟨rfl,rfl,?_⟩
  simp only [List.forall_mem_cons,List.not_mem_nil,false_implies,implies_true,and_true]
  exact ⟨⟨rfl,rfl,rfl⟩,⟨rfl,rfl,rfl⟩,rfl,rfl,rfl⟩

/-- `http://[::ffff:192.0.2.1]:443/`. -/
def mapped : Url := { direct with port := some 443, host := some (.ip (.v6 0xffffc0000201)) }

theorem mapped_destination : XAddrPolicy.validate {} (fun _ => none) mapped = .ok () ∧
    443 ∈ ({} : XAddrPolicy).allowedPorts ∧ XAddrPolicy.validate {} (fun _ => none) { direct with port := some 443 } = .ok () :=
  have sound := accepted_destination {} (fun _ => none) mapped rfl
  have inside := sound.2 _ _ _ rfl rfl rfl
  ⟨rfl,sound.1.mpr (.inr (.inl nofun)) (by simp) 443 rfl,inside.1.mpr (inside.2 rfl)⟩

end Sample

structure ProbeMatch where
  endpointReference : String
  xAddrs : List String

structure DiscoveryResult where
  matched : List ProbeMatch := []
  datagramsReceived : Nat := 0
  datagramsRejected : Nat := 0

structure Collecting extends DiscoveryResult where
  seen : List String := []

def firstOf (through : List ProbeMatch) (reference : String) : Option ProbeMatch :=
  through.find? (·.endpointReference = reference)

theorem firstOf_named (found : firstOf through r = some m) : m.endpointReference = r := by
  unfold firstOf at found
  simpa using List.find?_some found

theorem firstOf_snoc :
    firstOf (through ++ [m]) r = (firstOf through r).or (if m.endpointReference = r then some m else none) := by
  simp [firstOf,List.find?_append,List.find?_singleton]

/-- What the receive loop reads of the configuration, and the parsers it calls; `parse` stands for the checks of a
datagram's encoding and size as well. -/
structure Discovery (δ : Type) where
  policy : XAddrPolicy
  maxMatches : Nat
  parseUrl : String → Option Url
  parseIp : String → Option IpAddr
  parse : δ → Option (List ProbeMatch)

namespace Discovery

variable (d : Discovery δ)

def filter (policy : XAddrPolicy) (xaddrs : List String) : List String :=
  xaddrs.filter fun addr => (d.parseUrl addr).any fun url => (policy.validate d.parseIp url).isOk

def filterXaddrs (xaddrs : List String) (allowPrivate : Bool) : List String :=
  d.filter { allowPrivate, allowLoopback := allowPrivate, allowLinkLocal := allowPrivate, allowUnspecified := allowPrivate }
    xaddrs

def kept (m : ProbeMatch) : List String := d.filter d.policy (d.filterXaddrs m.xAddrs d.policy.allowPrivate)

/-- The body of the loop over one datagram's entries. An error is the early return at the limit. -/
def collectMatch (state : Collecting) (m : ProbeMatch) : Except DiscoveryResult Collecting :=
  if m.endpointReference ∈ state.seen then .ok state
  else
    let state := { state with seen := m.endpointReference :: state.seen }
    if d.kept m = [] then .ok { state with datagramsRejected := state.datagramsRejected + 1 }
    else
      let state := { state with matched := state.matched ++ [{ m with xAddrs := d.kept m }] }
      if d.maxMatches ≤ state.matched.length then .error state.toDiscoveryResult else .ok state

def receive (state : Collecting) (datagram : δ) : Except DiscoveryResult Collecting :=
  let state := { state with datagramsReceived := state.datagramsReceived + 1 }
  match d.parse datagram with
  | none => .ok { state with datagramsRejected := state.datagramsRejected + 1 }
  | some entries => entries.foldlM d.collectMatch state

def collectMatches (datagrams : List δ) : DiscoveryResult :=
  match datagrams.foldlM d.receive {} with
  | .error result => result
  | .ok state => state.toDiscoveryResult

/-- The first announcement of each reference gone through decides about it. -/
structure Collected (state : Collecting) (through : List ProbeMatch) : Prop where
  seen : ∀ r, r ∈ state.seen ↔ (firstOf through r).isSome
  distinct : (state.matched.map (·.endpointReference)).Nodup
  exact : ∀ k, k ∈ state.matched ↔
    ∃ first, firstOf through k.endpointReference = some first ∧ d.kept first ≠ [] ∧ k = { first with xAddrs := d.kept first }

def Left (result : DiscoveryResult) (through : List ProbeMatch) : Prop :=
  ∃ seen done, done <+: through ∧ d.Collected { result with seen } done ∧ d.maxMatches ≤ result.matched.length

variable {d}

theorem collectMatch_ends (state : Collecting) (through : List ProbeMatch) (m : ProbeMatch)
    (before : d.Collected state through) : Ends d.Collected d.Left (d.collectMatch state m) (through ++ [m]) := by
  unfold collectMatch
  by_cases seen : m.endpointReference ∈ state.seen
  · obtain ⟨first,found⟩ := Option.isSome_iff_exists.mp ((before.seen _).mp seen)
    have same : firstOf (through ++ [m]) = firstOf through := by
      funext r
      rw [firstOf_snoc]
      grind
    rw [if_pos seen]
    exact ⟨by simpa [same] using before.seen,before.distinct,by simpa [same] using before.exact⟩
  have fresh : firstOf through m.endpointReference = none := by simpa using (before.seen _).not.mp seen
  have now r : firstOf (through ++ [m]) r = if m.endpointReference = r then some m else firstOf through r := by
    rw [firstOf_snoc]
    grind
  have marked r : r ∈ m.endpointReference :: state.seen ↔ (firstOf (through ++ [m]) r).isSome := by
    rw [now]
    grind [before.seen r]
  rw [if_neg seen]
  by_cases useless : d.kept m = []
  · rw [if_pos useless]
    refine ⟨marked,before.distinct,fun k => ?_⟩
    rw [now]
    grind [before.exact k]
  have after : d.Collected { state with
      seen := m.endpointReference :: state.seen
      matched := state.matched ++ [{ m with xAddrs := d.kept m }] } (through ++ [m]) := by
    refine ⟨marked,?_,fun k => ?_⟩
    · rw [List.map_append,List.nodup_append]
      grind [before.distinct,before.exact]
    rw [now]
    grind [before.exact k]
  rw [if_neg useless]
  dsimp only
  split_ifs with full
  · exact ⟨_,_,List.prefix_rfl,after,full⟩
  · exact after

theorem Left.grows (result : DiscoveryResult) (through more : List ProbeMatch) (early : d.Left result through) :
    d.Left result (through ++ more) := by
  obtain ⟨seen,done,earlier,collected,full⟩ := early
  exact ⟨seen,done,earlier.trans (List.prefix_append ..),collected,full⟩

theorem receive_ends (state : Collecting) (through : List ProbeMatch) (datagram : δ) (before : d.Collected state through) :
    Ends d.Collected d.Left (d.receive state datagram) (through ++ (d.parse datagram).getD []) := by
  unfold receive
  cases d.parse datagram with
  | none => simpa using ⟨before.seen,before.distinct,before.exact⟩
  | some entries =>
    have counted : d.Collected { state with datagramsReceived := state.datagramsReceived + 1 } through :=
      ⟨before.seen,before.distinct,before.exact⟩
    simpa using foldlM_ends collectMatch_ends Left.grows counted entries

def announced (d : Discovery δ) (datagrams : List δ) : List ProbeMatch :=
  datagrams.flatMap fun datagram => (d.parse datagram).getD []

def accepted (d : Discovery δ) (m : ProbeMatch) : List String := d.filter d.policy m.xAddrs

def usable (d : Discovery δ) (datagrams : List δ) : List ProbeMatch := (d.announced datagrams).filter (d.accepted · ≠ [])

theorem kept_subset : d.kept m ⊆ d.accepted m := by
  unfold kept accepted filterXaddrs filter
  intro x member
  simp only [List.mem_filter] at member ⊢
  exact ⟨member.1.1,member.2⟩

theorem firstOf_of_earlier (earlier : done <+: through) (found : firstOf done r = some m) : firstOf through r = some m := by
  obtain ⟨rest,rfl⟩ := earlier
  simp only [firstOf,List.find?_append] at *
  rw [found,Option.some_or]

theorem collected (d : Discovery δ) (datagrams : List δ) : ∃ seen done, done <+: d.announced datagrams ∧
    d.Collected { d.collectMatches datagrams with seen } done ∧
      (done = d.announced datagrams ∨ d.maxMatches ≤ (d.collectMatches datagrams).matched.length) := by
  have start : d.Collected {} [] := ⟨by simp [firstOf],List.nodup_nil,by simp [firstOf]⟩
  have ends := foldlM_ends receive_ends Left.grows start datagrams
  unfold collectMatches
  cases ran : datagrams.foldlM d.receive {} with
  | ok state =>
    rw [ran] at ends
    exact ⟨_,_,List.prefix_rfl,ends,.inl rfl⟩
  | error result =>
    rw [ran] at ends
    obtain ⟨seen,done,earlier,collected,full⟩ := ends
    exact ⟨seen,done,earlier,collected,.inr full⟩

/-- One match for each reference with a usable announcement, with the accepted addresses of one of them. -/
structure Complete (d : Discovery δ) (datagrams : List δ) : Prop where
  distinct : ((d.collectMatches datagrams).matched.map (·.endpointReference)).Nodup
  sound : ∀ k ∈ (d.collectMatches datagrams).matched, ∃ m ∈ d.usable datagrams, k = { m with xAddrs := d.accepted m }
  covers : ∀ m ∈ d.usable datagrams, m.endpointReference ∈ (d.collectMatches datagrams).matched.map (·.endpointReference)

/-- The first announcement of a usable reference keeps through both filters what the policy accepts of a usable one. -/
def FirstSuffices (d : Discovery δ) (datagrams : List δ) : Prop :=
  ∀ m ∈ d.usable datagrams, ∃ other ∈ d.usable datagrams, other.endpointReference = m.endpointReference ∧
    ∀ first ∈ firstOf (d.announced datagrams) m.endpointReference, d.kept first = d.accepted other

theorem mem_usable : m ∈ d.usable datagrams ↔ m ∈ d.announced datagrams ∧ d.accepted m ≠ [] := by simp [usable]

/-- Every match is made from the first announcement of its reference, which is usable. -/
theorem matched_origin {d : Discovery δ} (listed : k ∈ (d.collectMatches datagrams).matched) :
    ∃ m ∈ d.usable datagrams, firstOf (d.announced datagrams) k.endpointReference = some m ∧ d.kept m ≠ [] ∧
      k = { m with xAddrs := d.kept m } := by
  obtain ⟨seen,done,earlier,collected,-⟩ := d.collected datagrams
  obtain ⟨m,found,keeps,rfl⟩ := (collected.exact k).mp listed
  have usable := mem_usable.mpr ⟨earlier.subset (List.mem_of_find?_eq_some found),
    fun none => keeps (List.subset_nil.mp (none ▸ kept_subset))⟩
  exact ⟨m,usable,firstOf_of_earlier earlier found,keeps,rfl⟩

theorem Complete.firstSuffices (complete : Complete d datagrams) : FirstSuffices d datagrams := by
  intro m wanted
  obtain ⟨k,listed,named⟩ := List.mem_map.mp (complete.covers m wanted)
  obtain ⟨first,-,found,-,rfl⟩ := matched_origin listed
  obtain ⟨other,usable,same⟩ := complete.sound _ listed
  simp only [ProbeMatch.mk.injEq] at same named
  refine ⟨other,usable,same.1 ▸ named,fun earliest again => ?_⟩
  rw [← named,found] at again
  exact Option.some.inj again ▸ same.2

/-- The result is the one the policy asks for exactly if the first announcements suffice. -/
theorem complete_iff (d : Discovery δ) (datagrams : List δ)
    (within : ((d.usable datagrams).map (·.endpointReference)).dedup.length ≤ d.maxMatches) :
    Complete d datagrams ↔ FirstSuffices d datagrams := by
  refine ⟨Complete.firstSuffices,fun enough => ?_⟩
  obtain ⟨seen,done,earlier,collected,complete⟩ := d.collected datagrams
  refine ⟨collected.distinct,fun k listed => ?_,fun m wanted => ?_⟩
  · obtain ⟨first,usable,found,-,rfl⟩ := matched_origin listed
    obtain ⟨other,usable',named,same⟩ := enough first usable
    exact ⟨other,usable',by rw [same first found,named]⟩
  obtain rfl | full := complete
  · obtain ⟨earliest,found⟩ : ∃ earliest, firstOf (d.announced datagrams) m.endpointReference = some earliest :=
      Option.isSome_iff_exists.mp (List.find?_isSome.mpr ⟨m,(mem_usable.mp wanted).1,decide_eq_true rfl⟩)
    obtain ⟨other,usable,-,same⟩ := enough m wanted
    have named := firstOf_named found
    refine List.mem_map.mpr ⟨{ earliest with xAddrs := d.kept earliest },(collected.exact _).mpr ⟨earliest,?_,?_,rfl⟩,named⟩
    · rw [named]
      exact found
    · exact same earliest found ▸ (mem_usable.mp usable).2
  -- At the limit every usable reference is matched: the matched ones are distinct and there are no others.
  have among : (d.collectMatches datagrams).matched.map (·.endpointReference) ⊆
      ((d.usable datagrams).map (·.endpointReference)).dedup := by
    intro r listed
    obtain ⟨k,found,rfl⟩ := List.mem_map.mp listed
    obtain ⟨m,usable,-,-,rfl⟩ := matched_origin found
    exact List.mem_dedup.mpr (List.mem_map.mpr ⟨m,usable,rfl⟩)
  have all := (List.subperm_of_subset collected.distinct among).perm_of_length_le (by simpa using within.trans full)
  exact all.mem_iff.mpr (List.mem_dedup.mpr (List.mem_map_of_mem wanted))

end Discovery

namespace Sample

def parseUrl : String → Option Url
  | "http://127.0.0.1/" => some { direct with host := some (.ip (.v4 0x7f000001)) }
  | "http://192.0.2.1:8080/" => some { direct with port := some 8080 }
  | "http://192.0.2.1/" => some direct
  | _ => none

def discovery (ports : List Nat) : Discovery (String × List String) where
  policy := { allowedPorts := ports }
  maxMatches := 8
  parseUrl := parseUrl
  parseIp _ := none
  parse datagram := some [⟨datagram.1,datagram.2⟩]

/-- An announcement without a usable address hides the device, and so does a port that only the configured policy allows. -/
theorem hidden_devices :
    (discovery [80]).accepted ⟨"urn:a",["http://192.0.2.1/"]⟩ = ["http://192.0.2.1/"] ∧
    (discovery [80]).collectMatches [("urn:a",["http://127.0.0.1/"]),("urn:a",["http://192.0.2.1/"])] =
      ⟨[],2,1⟩ ∧
    (discovery [8080]).accepted ⟨"urn:a",["http://192.0.2.1:8080/"]⟩ = ["http://192.0.2.1:8080/"] ∧
    (discovery [8080]).collectMatches [("urn:a",["http://192.0.2.1:8080/"])] = ⟨[],1,1⟩ :=
  ⟨rfl,rfl,rfl,rfl⟩

/-- A later announcement without a usable address does no harm. -/
theorem device_matched :
    Discovery.Complete (discovery [80]) [("urn:a",["http://192.0.2.1/"]),("urn:a",["http://127.0.0.1/"])] := by
  refine (Discovery.complete_iff (discovery [80]) _ (by decide)).mpr ?_
  refine List.forall_mem_singleton.mpr ⟨⟨"urn:a",["http://192.0.2.1/"]⟩,.head _,rfl,fun first found => ?_⟩
  cases found
  rfl

end Sample

end CheetahSignaling.Onvif
