import CheetahSignaling.CascadeMachine

/-! When the builders of the cascade succeed. Header values are made of SIP tokens: the platform
identifier and numbers for everything the machine numbers itself, the Call-ID of the peer for a
BYE. -/
namespace CheetahSignaling.Cascade

open List hiding toString
open HeaderValue (isToken isTokenChar via fromUri)
open Outcomes

def TokenText (s : String) : Prop := ∀ c ∈ s.toList, isTokenChar c = true

instance (s : String) : Decidable (TokenText s) := List.decidableBAll (fun c => isTokenChar c = true) s.toList

theorem isToken_iff : isToken s = true ↔ s ≠ "" ∧ TokenText s := by
  simp [isToken,TokenText]

theorem tokenText_append : TokenText (s ++ t) ↔ TokenText s ∧ TokenText t := by
  simp only [TokenText,String.toList_append,mem_append]
  exact ⟨fun all => ⟨fun c member => all c (.inl member),fun c member => all c (.inr member)⟩,
    fun both c member => member.elim (both.1 c) (both.2 c)⟩

theorem tokenText_number (n : Nat) : TokenText (toString n) := by
  intro c member
  have digit : c.isDigit = true := by
    have same : (toString n).toList = Nat.toDigits 10 n := String.toList_ofList
    rw [same] at member
    exact Nat.isDigit_of_mem_toDigits (by decide) (by decide) member
  simp [isTokenChar,Char.isAlphanum,digit]

theorem validateToken_ok (token : TokenText s) : validateToken s = .ok () := by
  have absent (c : Char) (foreign : isTokenChar c = false) : s.toList.contains c = false := by
    rw [Bool.eq_false_iff]
    intro member
    rw [token c (by simpa using member)] at foreign
    cases foreign
  unfold validateToken
  rw [absent '\r' (by decide),absent '\n' (by decide)]
  rfl

theorem isToken_append (token : isToken s = true) (text : TokenText t) : isToken (s ++ t) = true := by
  obtain ⟨filled,first⟩ := isToken_iff.mp token
  refine isToken_iff.mpr ⟨?_,tokenText_append.mpr ⟨first,text⟩⟩
  intro empty
  exact filled (String.append_eq_empty_iff.mp empty).1

theorem via_isOk (host : String) (port : Nat) :
    (via "UDP" host port branch).isOk = true ↔ host ≠ "" ∧ isToken branch = true := by
  by_cases empty : host = ""
  · simp [via,empty,Except.toBool]
  by_cases token : isToken branch = true
  · simp [via,empty,HeaderValue.validateToken,token,show isToken "UDP" = true by decide,
      Except.toBool,bind,Except.bind,pure,Except.pure]
  · simp [via,empty,HeaderValue.validateToken,token,show isToken "UDP" = true by decide,
      Except.toBool,bind,Except.bind]

theorem via_ok (port : Nat) (filled : host ≠ "") (token : isToken branch = true) :
    ∃ value, liftSip (via "UDP" host port branch) = .ok value := by
  have returned := (via_isOk host port).mpr ⟨filled,token⟩
  cases built : via "UDP" host port branch with
  | error e => simp [built,Except.toBool] at returned
  | ok value => exact ⟨value,rfl⟩

theorem fromUri_ok (uri : SipUri) (token : isToken tag = true) : ∃ value, liftSip (fromUri uri tag) = .ok value := by
  simp [fromUri,HeaderValue.validateToken,token,bind,Except.bind,pure,Except.pure,liftSip,Except.mapError]

/-- What the machine needs of its configuration to build its own requests. -/
structure Usable (config : CascadeConfig) : Prop where
  host : config.localUri.host ≠ ""
  platform : isToken config.platformId = true
  short : config.platformId.utf8ByteSize ≤ 4096
  timeout : 0 < config.mediaBridgeActiveTimeoutSeconds

section

variable {config : CascadeConfig}

theorem nextTag_token (usable : Usable config) (now : Nat) (s : Counted S) :
    isToken (nextTag config now s).1 = true := by
  have dash : TokenText "-" := by decide
  exact isToken_append (isToken_append (isToken_append (isToken_append usable.platform dash) (tokenText_number _)) dash)
    (tokenText_number _)

theorem nextBranch_token :
    isToken (nextBranch callId cseq s).1 = true ↔ TokenText callId := by
  have dash : TokenText "-" := by decide
  have lead : TokenText "z9hG4bK-" := by decide
  have digits (n : Nat) : TokenText n.repr := tokenText_number n
  simp [nextBranch,isToken_iff,tokenText_append,digits,dash,lead]

theorem buildRegisterRequest_ok (usable : Usable config) (cseq expiresSeconds : Nat) (auth : Option String)
    (callIdToken : isToken callId = true) (tagToken : isToken localTag = true) (branchToken : isToken branch = true) :
    ∃ headers, buildRegisterRequest config callId localTag cseq branch expiresSeconds auth =
        .ok (.request ⟨.register,config.upstream⟩ headers .empty) ∧ headers.get .callId = some callId := by
  obtain ⟨via,viaOk⟩ := via_ok config.localPort usable.host branchToken
  obtain ⟨fromValue,fromOk⟩ := fromUri_ok config.localUri tagToken
  simp only [buildRegisterRequest,validateToken_ok (isToken_iff.mp callIdToken).2,
    validateToken_ok (isToken_iff.mp tagToken).2,validateToken_ok (isToken_iff.mp branchToken).2,viaOk,fromOk]
  exact ⟨_,rfl,rfl⟩

theorem buildMessage_ok (usable : Usable config) (cseq : Nat) (extra : SipHeaders) (body : String)
    (tagToken : isToken localTag = true) (branchToken : isToken branch = true) :
    ∃ headers, buildMessage config callId cseq localTag branch extra body =
        .ok (.request ⟨.message,config.upstream⟩ headers body.toUTF8) ∧ headers.get .callId = some callId := by
  obtain ⟨via,viaOk⟩ := via_ok config.localPort usable.host branchToken
  obtain ⟨fromValue,fromOk⟩ := fromUri_ok config.localUri tagToken
  simp only [buildMessage,viaOk,fromOk]
  exact ⟨_,rfl,rfl⟩

theorem utf8ByteSize_le_of_sublist {s t : String} (piece : s.toList.Sublist t.toList) :
    s.utf8ByteSize ≤ t.utf8ByteSize := by
  rw [← String.ofList_toList (s := s),← String.ofList_toList (s := t),String.utf8ByteSize_ofList,
    String.utf8ByteSize_ofList]
  exact String.utf8Len_le_of_sublist piece

theorem number_utf8ByteSize (small : n < 2 ^ 32) : (toString n).utf8ByteSize ≤ 4096 := by
  have digits : (toString n) = String.ofList (Nat.toDigits 10 n) := rfl
  have few : (Nat.toDigits 10 n).length ≤ 10 :=
    (Nat.length_toDigits_le_iff (by decide) (by decide)).mpr (Nat.lt_trans small (by decide))
  have wide (cs : List Char) : String.utf8Len cs ≤ 4 * cs.length := by
    induction cs with
    | nil => exact Nat.le_refl _
    | cons c cs ih =>
      have := c.utf8Size_le_four
      rw [String.utf8Len_cons,length_cons]
      omega
  rw [digits,String.utf8ByteSize_ofList]
  have := wide (Nat.toDigits 10 n)
  omega

theorem leaf_every (here : p (.leaf name text)) : (XmlElement.leaf name text).Every p := .intro here nofun

theorem leaf_openDepth : XmlWriter.openDepth (.leaf name text) ≤ 1 := by
  simp only [XmlElement.leaf,XmlWriter.openDepth]
  split <;> decide

theorem encodeXml_leaves (valid : XmlWriter.ValidName name) (fields : List (String × String))
    (named : ∀ field ∈ fields, XmlWriter.ValidName field.1) (fits : ∀ field ∈ fields, field.2.utf8ByteSize ≤ 4096)
    (few : fields.length ≤ 10000) :
    ∃ body, XmlWriter.encodeXml (.node name (fields.map fun field => .leaf field.1 field.2)) true = .ok body := by
  have allNamed : (XmlElement.node name (fields.map fun field => .leaf field.1 field.2)).Every XmlWriter.Named := by
    refine .intro ⟨valid,nofun⟩ ?_
    intro child member
    obtain ⟨field,listed,rfl⟩ := mem_map.mp member
    exact leaf_every ⟨named field listed,nofun⟩
  have allSized : (XmlElement.node name (fields.map fun field => .leaf field.1 field.2)).Every
      (XmlWriter.Writable .default) := by
    refine .intro ⟨?_,Nat.zero_le _⟩ ?_
    · simpa [XmlElement.node,XmlLimits.default] using few
    · intro child member
      obtain ⟨field,listed,rfl⟩ := mem_map.mp member
      exact leaf_every ⟨Nat.zero_le _,fits field listed⟩
  have below : ∀ fields : List (String × String),
      XmlWriter.openDepths (fields.map fun field => .leaf field.1 field.2) ≤ 1 := by
    intro fields
    induction fields with
    | nil => exact Nat.zero_le _
    | cons field fields ih => exact Nat.max_le.mpr ⟨leaf_openDepth,ih⟩
  have depth : 0 + XmlWriter.openDepth (.node name (fields.map fun field => .leaf field.1 field.2)) ≤
      XmlLimits.default.maxDepth := by
    have := below fields
    simp only [XmlElement.node,XmlWriter.openDepth,XmlLimits.default]
    split <;> omega
  obtain ⟨text,written⟩ := XmlWriter.writeElement_ok allNamed allSized depth
  exact ⟨_,by rw [XmlWriter.encodeXml,written]; rfl⟩

theorem buildKeepalive_ok (number : sn.utf8ByteSize ≤ 4096) (short : deviceId.utf8ByteSize ≤ 4096) :
    ∃ body, Gb28181.buildKeepalive sn deviceId "OK" = .ok body := by
  apply encodeXml_leaves (XmlWriter.validName_of_all (by decide))
    [("CmdType","Keepalive"),("SN",sn),("DeviceID",deviceId),("Status","OK")]
  · simp only [forall_mem_cons]
    exact ⟨XmlWriter.validName_of_all (by decide),XmlWriter.validName_of_all (by decide),
      XmlWriter.validName_of_all (by decide),XmlWriter.validName_of_all (by decide),nofun⟩
  · simp only [forall_mem_cons]
    exact ⟨by decide,number,short,by decide,nofun⟩
  · exact Nat.le_of_ble_eq_true rfl

theorem buildKeepaliveMessage_ok (usable : Usable config) (callIdToken : isToken callId = true)
    (tagToken : isToken localTag = true) (branchToken : isToken branch = true) (small : sn < 2 ^ 32) :
    ∃ headers body, buildKeepaliveMessage config callId cseq localTag branch sn =
        .ok (.request ⟨.message,config.upstream⟩ headers body) ∧ headers.get .callId = some callId := by
  obtain ⟨body,built⟩ := buildKeepalive_ok (number_utf8ByteSize small) usable.short
  obtain ⟨headers,sent,named⟩ := buildMessage_ok usable cseq [] body tagToken branchToken
  refine ⟨headers,body.toUTF8,?_,named⟩
  simp only [buildKeepaliveMessage,validateToken_ok (isToken_iff.mp callIdToken).2,
    validateToken_ok (isToken_iff.mp tagToken).2,validateToken_ok (isToken_iff.mp branchToken).2,built,bind,
    Except.bind,Except.mapError,sent]

theorem buildByeFromBridge_ok_iff (usable : Usable config) (parses : (parseUriFromHeader bridge.upstreamFrom).isSome) :
    (∃ request, buildByeFromBridge config bridge cseq (nextBranch bridge.upstreamCallId cseq s).1 = .ok request) ↔
      TokenText bridge.upstreamCallId := by
  obtain ⟨target,found⟩ := Option.isSome_iff_exists.mp parses
  rw [← nextBranch_token]
  constructor
  · rintro ⟨request,built⟩
    obtain ⟨_,_,sent⟩ := bind_eq_ok built
    rw [found] at sent
    obtain ⟨via,viaOk,_⟩ := bind_eq_ok (show (liftSip _ >>= _) = _ from sent)
    refine ((via_isOk config.localUri.host config.localPort).mp ?_).2
    cases written : HeaderValue.via "UDP" config.localUri.host config.localPort _ with
    | error e => rw [written] at viaOk; cases viaOk
    | ok value => rfl
  intro branchToken
  obtain ⟨via,viaOk⟩ := via_ok config.localPort usable.host branchToken
  simp only [buildByeFromBridge,validateToken_ok (isToken_iff.mp branchToken).2,found,viaOk]
  exact ⟨_,rfl⟩

/-- A configuration that `with_options` has returned. -/
def Accepted (config : CascadeConfig) : Prop :=
  ∃ checks text domainId localUri upstream realm credentialRef registerIntervalSeconds
    registerRefreshMarginSeconds allowMd5 allowInternalUpstreams,
    SipUri.parse text = .ok localUri ∧
      CascadeConfig.withOptions checks domainId localUri upstream realm credentialRef registerIntervalSeconds
        registerRefreshMarginSeconds allowMd5 allowInternalUpstreams = .ok config

theorem sanitize_ok (sanitized : config.sanitize = .ok sane) : sane = config.clampLimits := by
  have checked {x : Except CascadeError Unit}
      (passed : (x >>= fun _ => (Except.ok config.clampLimits : Except CascadeError CascadeConfig)) = .ok sane) :
      sane = config.clampLimits := by
    obtain ⟨_,_,returned⟩ := bind_eq_ok passed
    exact (Except.ok.inj returned).symm
  unfold CascadeConfig.sanitize at sanitized
  simp only at sanitized
  split at sanitized
  · split_ifs at sanitized
    · cases sanitized
    · obtain ⟨_,_,sanitized⟩ := bind_eq_ok sanitized
      exact checked sanitized
  · exact checked sanitized

theorem usable_of_accepted (accepted : Accepted config) (host : isToken config.localUri.host = true)
    (user : ∀ user ∈ config.localUri.user, isToken user = true) : Usable config := by
  obtain ⟨checks,text,domainId,localUri,upstream,realm,credentialRef,interval,margin,md5,internal,parsed,made⟩ := accepted
  obtain ⟨shortText,pieces⟩ := SipUri.parse_pieces parsed
  unfold CascadeConfig.withOptions at made
  split_ifs at made
  iterate 6 obtain ⟨_,_,made⟩ := bind_eq_ok made
  have made := sanitize_ok made
  subst made
  have short (piece : String) (found : piece ∈ localUri.texts) : piece.utf8ByteSize ≤ 4096 :=
    (utf8ByteSize_le_of_sublist (pieces piece found).sublist).trans (shortText.trans (by decide))
  have platform : isToken (localUri.user.getD localUri.host) = true ∧
      (localUri.user.getD localUri.host).utf8ByteSize ≤ 4096 := by
    cases named : localUri.user with
    | none => exact ⟨host,short _ mem_cons_self⟩
    | some name => exact ⟨user name named,short name (by simp [SipUri.texts,named])⟩
  exact ⟨(isToken_iff.mp host).1,platform.1,platform.2,Nat.succ_pos 604799⟩

end

end CheetahSignaling.Cascade
