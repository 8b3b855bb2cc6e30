import CheetahSignaling.MediaDialog

/-! Every 2xx to a media INVITE should be acknowledged, and a dialog whose answer is of no use ended
again. The handler does so but for four kinds of answers: without a tag, without a Contact or with a
body that is no SDP the pending session refuses them without an ACK, and of two connection addresses
it takes that of the session. -/
namespace CheetahSignaling.Gb28181Media

open List Outcomes Gb28181

variable (ports : Ports) (media : Media) (sid : MediaSessionId) (session : Session) (message : SipMessage)

def Sends (method : Method) (outputs : List MediaOutput) : Prop :=
  ∃ line headers body, .sendMessage (.request line headers body) ∈ outputs ∧ line.method = method ∧
    SipHeaders.get headers .callId = some session.callId

def sources (outputs : List MediaOutput) : List SocketAddr := outputs.filterMap fun
    | .emitEvent (.mediaSessionStarted _ _ _ _ source _ _ _ _) => some source
    | _ => none

def failures (outputs : List MediaOutput) : Nat := outputs.countP fun
    | .emitEvent (.mediaSessionFailed _ _ _ _ _ _) => true
    | _ => false

def effectiveAddress (sdp : SdpSession) : String :=
  (((sdp.media.head?.bind SdpMedia.connection).or sdp.connection).map SdpConnection.address).getD ""

def Usable : Prop :=
  match session.state with
  | .active => True
  | .inviting =>
    ∃ tag contact sdp source, tagFromHeader message .to = some tag ∧ firstContactUri message = .ok contact ∧
      ports.parseSdp message.body = .ok sdp ∧ validateRemoteSdp sdp media.config.compatibility = none ∧
      socketAddr ports (effectiveAddress sdp) (Media.remotePort sdp) = .ok source
  | _ => False

/-- What a 2xx should lead to. It is acknowledged; a useless answer ends the dialog, if it has a tag, and the session;
a useful one makes the session active, and the source it reports is the effective address. -/
structure Settles (done : List MediaOutput × Media) : Prop where
  acknowledged : Sends session .ack done.1
  useless : ¬Usable ports media session message →
    ((∃ tag, tagFromHeader message .to = some tag ∧ tag ≠ "") → Sends session .bye done.1) ∧ failures done.1 = 1 ∧
      done.2.sessions.lookup sid = none
  useful : Usable ports media session message →
    (∃ session', done.2.sessions.lookup sid = some session' ∧ session'.state = .active) ∧ failures done.1 = 0 ∧
      (session.state = .inviting → ∃ sdp source, ports.parseSdp message.body = .ok sdp ∧
        socketAddr ports (effectiveAddress sdp) (Media.remotePort sdp) = .ok source ∧ sources done.1 = [source])

/-- Processing the 2xx succeeds and settles it. -/
def Acknowledged : Prop :=
  ∃ done, media.onMessage ports message = .ok done ∧ Settles ports media sid session message done

/-- The answers with a tag, a Contact and SDP that are settled. -/
def AddressAgrees (sdp : SdpSession) : Prop :=
  (validateRemoteSdp sdp media.config.compatibility = none →
    (socketAddr ports (Media.remoteAddress sdp) (Media.remotePort sdp)).toOption =
      (socketAddr ports (effectiveAddress sdp) (Media.remotePort sdp)).toOption) ∧
  (session.cseq + 1 < 2 ^ 32 ∨ validateRemoteSdp sdp media.config.compatibility = none ∧
    (socketAddr ports (Media.remoteAddress sdp) (Media.remotePort sdp)).isOk = true)

/-- The answers that are settled. -/
def Handled : Prop :=
  match session.state with
  | .active => True
  | .inviting =>
    ∃ tag contact sdp, tagFromHeader message .to = some tag ∧ firstContactUri message = .ok contact ∧
      ports.parseSdp message.body = .ok sdp ∧ AddressAgrees ports media session sdp
  | _ => ((tagFromHeader message .to).or session.remoteTag).getD "" ≠ "" → session.cseq + 1 < 2 ^ 32

variable {ports media sid session message}

theorem isHeaderToken_append (left : isHeaderToken a = true) (right : isHeaderToken b = true) :
    isHeaderToken (a ++ b) = true := by
  simp only [isHeaderToken,String.toList_append,Bool.and_eq_true,Bool.not_eq_true',contains_eq_mem,mem_append,
    decide_eq_false_iff_not,not_or] at left right ⊢
  exact ⟨⟨left.1,right.1⟩,left.2,right.2⟩

theorem validate_branch (suffix : isHeaderToken text = true) :
    validateSipHeaderToken (session.branch ++ text) = .ok () :=
  if_pos (isHeaderToken_append session.branch_token suffix)

theorem buildAck_ok (localUri : SipUri) (session : Session) (remoteTag : Option String) (target : SipUri)
    (text : String) (suffix : isHeaderToken text = true) :
    ∃ headers, buildAck localUri session remoteTag target (session.branch ++ text) = .ok
    (.request ⟨.ack,target⟩ headers ByteArray.empty) ∧
      SipHeaders.get headers .callId = some session.callId := by
  unfold buildAck
  rw [validate_branch suffix]
  exact ⟨_,rfl,rfl⟩

theorem buildBye_ok (localUri : SipUri) (session : Session) (tagged : session.remoteTag = some tag)
    (cseq : Nat) (target : SipUri)
    (text : String) (suffix : isHeaderToken text = true) :
    ∃ headers, buildBye localUri session cseq (session.branch ++ text) target = .ok
    (.request ⟨.bye,target⟩ headers ByteArray.empty) ∧
      SipHeaders.get headers .callId = some session.callId := by
  unfold buildBye
  rw [validate_branch suffix,tagged]
  exact ⟨_,rfl,rfl⟩

theorem onMessage_success (tracked : media.sessions.lookup sid = some session)
    (indexed : media.callIndex.lookup callId = some sid)
    (called : message.callId = some callId) (answers : message.cseq = .ok (session.inviteCseq,.invite))
    (shape : message = .response line headers body) (success : 200 ≤ line.code ∧ line.code < 300) :
    media.onMessage ports message = media.onInviteSuccess ports sid message := by
  subst shape
  have mine : (media.sessions.lookup sid).any (fun s => decide (s.inviteCseq = session.inviteCseq)) = true := by
    rw [tracked,Option.any_some,decide_eq_true rfl]
  unfold Media.onMessage
  simp only [called,indexed]
  unfold Media.onResponse
  rw [answers]
  show (if _ then _ else _) = _
  rw [if_pos ⟨rfl,mine⟩,if_pos success]

/-- The session is gone and its failure reported. -/
structure Ended (sid : MediaSessionId) (outputs : List MediaOutput) (media' : Media) : Prop where
  failed : failures outputs = 1
  removed : media'.sessions.lookup sid = none

theorem nextCseq_ok (room : cseq + 1 < 2 ^ 32) : Media.nextCseq cseq = .ok (cseq + 1) := if_pos room

theorem nextCseq_error (full : ¬cseq + 1 < 2 ^ 32) : Media.nextCseq cseq = .error (.invalidState "CSeq overflow") := if_neg full

theorem rejectAndTeardown_error (full : ¬session.cseq + 1 < 2 ^ 32) :
    ∃ e, media.rejectAndTeardown ports sid session remoteTag contact reason = .error e := by
  obtain ⟨ackHeaders,ack,-⟩ := buildAck_ok media.config.localSipUri session (some remoteTag) contact "-ack" (by decide)
  unfold Media.rejectAndTeardown
  rw [ack,nextCseq_error full]
  exact ⟨_,rfl⟩

theorem endLate_error (tagged : remoteTag ≠ "") (full : ¬session.cseq + 1 < 2 ^ 32) :
    ∃ e, media.endLate ports sid session remoteTag contact = .error e := by
  obtain ⟨ackHeaders,ack,-⟩ := buildAck_ok media.config.localSipUri session
    (if remoteTag.isEmpty then none else some remoteTag) contact "-ack-late" (by decide)
  unfold Media.endLate
  rw [ack]
  simp only [if_neg (mt String.isEmpty_iff.mp tagged),nextCseq_error full]
  exact ⟨_,rfl⟩

theorem activate_ok :
    ∃ outputs media', media.activate ports sid session message tag contact sdp source = .ok (outputs,media') ∧
      Sends session .ack outputs ∧ failures outputs = 0 ∧ sources outputs = [source] ∧
      ∃ session', media'.sessions.lookup sid = some session' ∧ session'.state = .active := by
  obtain ⟨headers,ack,call⟩ := buildAck_ok media.config.localSipUri session (some tag) contact "-ack" (by decide)
  unfold Media.activate
  rw [ack]
  exact ⟨_,_,rfl,⟨_,_,_,mem_cons_self,rfl,call⟩,rfl,rfl,_,AList.lookup_insert media.sessions,rfl⟩

theorem onFirstSuccess_ok (ended : media.onFirstSuccess ports sid session message = .ok done) :
    ∃ tag contact sdp, tagFromHeader message .to = some tag ∧ firstContactUri message = .ok contact ∧
      ports.parseSdp message.body = .ok sdp ∧ media.onAnswer ports sid session message tag contact sdp = .ok done := by
  obtain ⟨tag,tagged,contact,reached,ended⟩ := bind_eq_ok₂ ended
  obtain ⟨sdp,parsed,ended⟩ := bind_eq_ok ended
  refine ⟨tag,contact,sdp,?_,reached,?_,ended⟩
  · unfold Media.requiredTag at tagged
    cases found : tagFromHeader message .to with
    | none => rw [found] at tagged; cases tagged
    | some tag' => rw [found] at tagged; cases tagged; rfl
  · cases read : ports.parseSdp message.body with
    | error e => rw [read] at parsed; cases parsed
    | ok sdp' => rw [read] at parsed; cases parsed; rfl

section

variable (tracked : media.sessions.lookup sid = some session)

include tracked

theorem fail_ok (sent : List SipMessage) :
    ∃ outputs media', media.fail ports sid sent reason = .ok (outputs,media') ∧ Ended sid outputs media' ∧
      ∀ message ∈ sent, .sendMessage message ∈ outputs := by
  refine ⟨sent.map .sendMessage ++ [.emitEvent (failedEvent ports session media.config.domainId reason)],
    { media with sessions := media.sessions.erase sid, callIndex := media.callIndex.erase session.callId },?_,⟨?_,?_⟩,?_⟩
  · rw [Media.fail,Media.removeSession,tracked]
    rfl
  · have quiet : failures (sent.map .sendMessage) = 0 := by
      unfold failures
      rw [countP_map]
      exact countP_eq_zero.mpr fun _ _ => Bool.false_ne_true
    unfold failures at quiet ⊢
    rw [countP_append,quiet]
    rfl
  · exact AList.lookup_erase sid media.sessions
  · exact fun message member => mem_append_left _ (mem_map_of_mem member)

theorem fail_sent (ack : SipHeaders.get ackHeaders .callId = some session.callId)
    (bye : SipHeaders.get byeHeaders .callId = some session.callId) :
    ∃ outputs media', media.fail ports sid [.request ⟨.ack,contact⟩ ackHeaders ByteArray.empty,
        .request ⟨.bye,contact⟩ byeHeaders ByteArray.empty] reason = .ok (outputs,media') ∧
      Ended sid outputs media' ∧ Sends session .ack outputs ∧ Sends session .bye outputs := by
  obtain ⟨outputs,media',failed,ended,sent⟩ := fail_ok tracked _
  exact ⟨outputs,media',failed,ended,⟨_,_,_,sent _ mem_cons_self,rfl,ack⟩,
    ⟨_,_,_,sent _ (mem_cons_of_mem _ mem_cons_self),rfl,bye⟩⟩

theorem rejectAndTeardown_ok (room : session.cseq + 1 < 2 ^ 32) :
    ∃ outputs media', media.rejectAndTeardown ports sid session remoteTag contact reason = .ok (outputs,media') ∧
      Ended sid outputs media' ∧ Sends session .ack outputs ∧ Sends session .bye outputs := by
  obtain ⟨ackHeaders,ack,ackCall⟩ := buildAck_ok media.config.localSipUri session (some remoteTag) contact "-ack" (by decide)
  obtain ⟨byeHeaders,bye,byeCall⟩ := buildBye_ok media.config.localSipUri
    { session with remoteTag := some remoteTag, cseq := session.cseq + 1 } rfl (session.cseq + 1) contact "-bye" (by decide)
  unfold Media.rejectAndTeardown
  simp only [ack,nextCseq_ok room,bye,bind,Except.bind]
  exact fail_sent tracked ackCall byeCall

theorem endLate_ok (room : remoteTag ≠ "" → session.cseq + 1 < 2 ^ 32) :
    ∃ outputs media', media.endLate ports sid session remoteTag contact = .ok (outputs,media') ∧ Ended sid outputs media' ∧
      Sends session .ack outputs ∧ (remoteTag ≠ "" → Sends session .bye outputs) := by
  obtain ⟨ackHeaders,ack,ackCall⟩ := buildAck_ok media.config.localSipUri session
    (if remoteTag.isEmpty then none else some remoteTag) contact "-ack-late" (by decide)
  unfold Media.endLate
  simp only [ack,bind,Except.bind]
  by_cases untagged : remoteTag.isEmpty = true
  · obtain ⟨outputs,media',failed,ended,sent⟩ := fail_ok tracked [.request ⟨.ack,contact⟩ ackHeaders ByteArray.empty]
    rw [if_pos untagged]
    exact ⟨outputs,media',failed,ended,⟨_,_,_,sent _ mem_cons_self,rfl,ackCall⟩,
      fun tagged => absurd (String.isEmpty_iff.mp untagged) tagged⟩
  have room := room (mt String.isEmpty_iff.mpr untagged)
  obtain ⟨byeHeaders,bye,byeCall⟩ := buildBye_ok media.config.localSipUri
    { session with remoteTag := some remoteTag, remoteTarget := some contact, cseq := session.cseq + 1 } rfl (session.cseq + 1)
    contact "-bye-late" (by decide)
  simp only [if_neg untagged,nextCseq_ok room,bye]
  obtain ⟨outputs,media',failed,ended,acked,hungUp⟩ := fail_sent tracked ackCall byeCall
  exact ⟨outputs,media',failed,ended,acked,fun _ => hungUp⟩

theorem rejected_settles_iff :
    (∃ done, media.rejectAndTeardown ports sid session tag contact reason = .ok done ∧
      Settles ports media sid session message done) ↔ ¬Usable ports media session message ∧ session.cseq + 1 < 2 ^ 32 := by
  constructor
  · rintro ⟨done,rejected,settled⟩
    have room : session.cseq + 1 < 2 ^ 32 := by
      by_contra full
      obtain ⟨e,failed⟩ := rejectAndTeardown_error full
      rw [rejected] at failed
      cases failed
    refine ⟨fun usable => ?_,room⟩
    obtain ⟨outputs,media',rejected',ended,-⟩ := rejectAndTeardown_ok tracked room
    obtain rfl := Except.ok.inj (rejected.symm.trans rejected')
    obtain ⟨⟨session',found,-⟩,-⟩ := settled.useful usable
    rw [ended.removed] at found
    cases found
  · rintro ⟨useless,room⟩
    obtain ⟨outputs,media',rejected,ended,ack,bye⟩ := rejectAndTeardown_ok tracked room
    exact ⟨_,rejected,ack,fun _ => ⟨fun _ => bye,ended.failed,ended.removed⟩,fun usable => absurd usable useless⟩

section

variable (pending : session.state = .inviting) (tagged : tagFromHeader message .to = some tag)
  (reached : firstContactUri message = .ok contact) (parsed : ports.parseSdp message.body = .ok sdp)

omit tracked

include tagged reached parsed

theorem onFirstSuccess_eq :
    media.onFirstSuccess ports sid session message = media.onAnswer ports sid session message tag contact sdp := by
  simp [Media.onFirstSuccess,Media.requiredTag,tagged,reached,parsed,bind,Except.bind,Except.mapError]

include pending

theorem usable_iff (media : Media) :
    Usable ports media session message ↔ validateRemoteSdp sdp media.config.compatibility = none ∧
      ∃ source, socketAddr ports (effectiveAddress sdp) (Media.remotePort sdp) = .ok source := by
  unfold Usable
  rw [pending]
  constructor
  · rintro ⟨_,_,_,source,-,-,parsed',valid,addressed⟩
    obtain rfl := Except.ok.inj (parsed.symm.trans parsed')
    exact ⟨valid,source,addressed⟩
  · rintro ⟨valid,source,addressed⟩
    exact ⟨tag,contact,sdp,source,tagged,reached,parsed,valid,addressed⟩

theorem activated_settles_iff (valid : validateRemoteSdp sdp media.config.compatibility = none) :
    (∃ done, media.activate ports sid session message tag contact sdp source = .ok done ∧
      Settles ports media sid session message done) ↔
      socketAddr ports (effectiveAddress sdp) (Media.remotePort sdp) = .ok source := by
  obtain ⟨outputs,media',activated,ack,quiet,reported,active⟩ :=
    activate_ok
  have usable := usable_iff pending tagged reached parsed media
  constructor
  · rintro ⟨done,activated',settled⟩
    obtain rfl := Except.ok.inj (activated.symm.trans activated')
    by_cases useful : Usable ports media session message
    · obtain ⟨sdp',source',parsed',addressed,reported'⟩ := (settled.useful useful).2.2 pending
      obtain rfl := Except.ok.inj (parsed.symm.trans parsed')
      obtain ⟨rfl,-⟩ := List.cons.inj (reported.symm.trans reported')
      exact addressed
    · have failed := (settled.useless useful).2.1
      exact absurd (quiet.symm.trans failed) (by decide)
  · intro addressed
    exact ⟨_,activated,ack,fun useless => absurd (usable.mpr ⟨valid,source,addressed⟩) useless,
      fun _ => ⟨active,quiet,fun _ => ⟨sdp,source,parsed,addressed,reported⟩⟩⟩

include tracked

theorem onAnswer_settles_iff :
    (∃ done, media.onAnswer ports sid session message tag contact sdp = .ok done ∧
      Settles ports media sid session message done) ↔
      AddressAgrees ports media session sdp := by
  have usable := usable_iff pending tagged reached parsed media
  unfold Media.onAnswer AddressAgrees
  cases valid : validateRemoteSdp sdp media.config.compatibility with
  | some reason =>
    simp only [rejected_settles_iff tracked,usable,valid]
    simp
  | none =>
    cases addressed : socketAddr ports (Media.remoteAddress sdp) (Media.remotePort sdp) with
    | error e =>
      simp only [rejected_settles_iff tracked,usable,valid]
      cases effective : socketAddr ports (effectiveAddress sdp) (Media.remotePort sdp) <;> simp [Except.toOption,Except.toBool]
    | ok source =>
      simp only [activated_settles_iff pending tagged reached parsed valid]
      cases effective : socketAddr ports (effectiveAddress sdp) (Media.remotePort sdp) <;>
        simp [Except.toOption,Except.toBool,eq_comm]

end

theorem onFirstSuccess_settles_iff (pending : session.state = .inviting) :
    (∃ done, media.onFirstSuccess ports sid session message = .ok done ∧ Settles ports media sid session message done) ↔
      Handled ports media session message := by
  unfold Handled
  rw [pending]
  constructor
  · rintro ⟨done,ended,settled⟩
    obtain ⟨tag,contact,sdp,tagged,reached,parsed,answered⟩ := onFirstSuccess_ok ended
    exact ⟨tag,contact,sdp,tagged,reached,parsed,
      (onAnswer_settles_iff tracked pending tagged reached parsed).mp ⟨done,answered,settled⟩⟩
  · rintro ⟨tag,contact,sdp,tagged,reached,parsed,agrees⟩
    rw [onFirstSuccess_eq tagged reached parsed]
    exact (onAnswer_settles_iff tracked pending tagged reached parsed).mpr agrees

theorem onLateSuccess_settles_iff (useless : ¬Usable ports media session message) :
    (∃ done, media.onLateSuccess ports sid session message = .ok done ∧ Settles ports media sid session message done) ↔
      (Media.lateTag session message ≠ "" → session.cseq + 1 < 2 ^ 32) := by
  unfold Media.onLateSuccess
  constructor
  · rintro ⟨done,ended,-⟩ tagged
    by_contra full
    obtain ⟨e,failed⟩ := endLate_error tagged full
    rw [ended] at failed
    cases failed
  intro room
  obtain ⟨outputs,media',ended,closed,ack,bye⟩ := endLate_ok tracked room
  refine ⟨_,ended,ack,fun _ => ⟨?_,closed.failed,closed.removed⟩,fun usable => absurd usable useless⟩
  rintro ⟨tag,given,nonempty⟩
  refine bye ?_
  rw [Media.lateTag,given]
  exact nonempty

theorem active_settles (active : session.state = .active) :
    ∃ done, media.onInviteSuccess ports sid message = .ok done ∧ Settles ports media sid session message done := by
  obtain ⟨headers,ack,call⟩ := buildAck_ok media.config.localSipUri session ((tagFromHeader message .to).or session.remoteTag)
    (session.remoteTarget.getD session.target) "-ack" (by decide)
  have usable : Usable ports media session message := by rw [Usable,active]; trivial
  unfold Media.onInviteSuccess
  simp only [tracked,active,ack]
  exact ⟨_,rfl,⟨_,_,_,mem_cons_self,rfl,call⟩,fun useless => absurd usable useless,
    fun _ => ⟨⟨session,tracked,active⟩,rfl,fun pending => by rw [active] at pending; cases pending⟩⟩

end

/-- A 2xx to a tracked INVITE is acknowledged and settled exactly when it is one of the answers that the handler
is made for. -/
theorem acknowledged_iff (tracked : media.sessions.lookup sid = some session)
    (indexed : media.callIndex.lookup callId = some sid)
    (called : message.callId = some callId) (answers : message.cseq = .ok (session.inviteCseq,.invite))
    (shape : message = .response line headers body) (success : 200 ≤ line.code ∧ line.code < 300) :
    Acknowledged ports media sid session message ↔ Handled ports media session message := by
  unfold Acknowledged
  rw [onMessage_success tracked indexed called answers shape success]
  cases state : session.state with
  | active =>
    have handled : Handled ports media session message := by rw [Handled,state]; trivial
    exact iff_of_true (active_settles tracked state) handled
  | inviting =>
    rw [Media.onInviteSuccess]
    simp only [tracked,state]
    exact onFirstSuccess_settles_iff tracked state
  | stopping =>
    rw [Media.onInviteSuccess,Handled]
    simp only [tracked,state]
    exact onLateSuccess_settles_iff tracked (by rw [Usable,state]; exact id)
  | terminated =>
    rw [Media.onInviteSuccess,Handled]
    simp only [tracked,state]
    exact onLateSuccess_settles_iff tracked (by rw [Usable,state]; exact id)

namespace Sample

def gate : SipUri := ⟨.sip,some "34020000002000000001",none,"192.0.2.1",some 5060,[]⟩

def camera : SipUri := ⟨.sip,some "34020000001320000001",none,"192.0.2.7",some 5060,[]⟩

def device : Gb28181.DeviceId := ⟨"34020000001320000001",by decide⟩

def invited (state : SessionState) : Session where
  mediaSessionId := 1
  channelId := 1
  deviceId := device
  callId := "call"
  localTag := "here"
  remoteTag := none
  cseq := 1
  inviteCseq := 1
  branch := "z9hG4bK1"
  target := camera
  remoteTarget := none
  state := state
  mediaAddress := "192.0.2.1"
  mediaPort := 30000
  branch_token := by decide

def opened (state : SessionState) : Media where
  config := ⟨gate,"domain",100,{}⟩
  sessions := AList.singleton 1 (invited state)
  callIndex := AList.singleton "call" 1

def answerText : String :=
  "v=0\r\no=- 0 0 IN IP4 192.0.2.7\r\ns=Play\r\nt=0 0\r\nm=video 15060 RTP/AVP 96\r\nc=IN IP4 192.0.2.8"

def described : SdpSession where
  version := "0"
  origin := ⟨"-","0","0","IN","IP4","192.0.2.7"⟩
  name := "Play"
  info := none
  connection := none
  times := [⟨"0","0"⟩]
  media := [{ mediaType := "video", port := 15060, proto := "RTP/AVP", formats := ["96"],
              connection := some ⟨"IN","IP4","192.0.2.8"⟩, attributes := [], title := none }]
  attributes := []

/-- Knows one answer and its address. -/
def reading : Ports where
  parseSdp body := if body.data = answerText.toUTF8.data then .ok described else .error "unknown description"
  parseIp host := if host = "192.0.2.8" then .ok (.v4 8) else .error "invalid IP address syntax"
  fromUtf8Lossy _ := answerText

def answer (recipient : String) : SipMessage :=
  .response ⟨200,"OK"⟩ [(.callId,"call"),(.cSeq,"1 INVITE"),(.to,recipient),
    (.contact,"<sip:34020000001320000001@192.0.2.7:5060>")]
    answerText.toUTF8

theorem opened_lookup : (opened state).sessions.lookup 1 = some (invited state) := rfl

/-- A tagged answer with one address is acknowledged. -/
theorem tagged_acknowledged :
    Acknowledged reading (opened .inviting) 1 (invited .inviting) (answer "<sip:34020000001320000001@192.0.2.7>;tag=there") := by
  have called : (answer "<sip:34020000001320000001@192.0.2.7>;tag=there").callId = some "call" := by decide +kernel
  have answers : (answer "<sip:34020000001320000001@192.0.2.7>;tag=there").cseq = .ok (1,.invite) := by decide +kernel
  refine (acknowledged_iff opened_lookup rfl called answers rfl (by decide)).mpr ?_
  have parsed : reading.parseSdp answerText.toUTF8 = .ok described := by simp [reading]
  refine ⟨"there",camera,described,by decide +kernel,by decide +kernel,parsed,?_,.inl (by decide)⟩
  exact fun _ => rfl

/-- Without a To tag the 200 OK of a pending session is an error: there is no ACK and the session stays. -/
theorem untagged_unacknowledged :
    ∃ (media : Media) (sid : MediaSessionId) (session : Session) (message : SipMessage) (callId : String) (line : StatusLine)
      (headers : SipHeaders) (body : ByteArray),
      media.sessions.lookup sid = some session ∧ media.callIndex.lookup callId = some sid ∧ message.callId = some callId ∧
      message.cseq = .ok (session.inviteCseq,.invite) ∧ message = .response line headers body ∧
      (200 ≤ line.code ∧ line.code < 300) ∧
      ∀ ports, media.onMessage ports message = .error (.malformedSip "missing To tag in 200 OK") := by
  refine ⟨opened .inviting,1,invited .inviting,answer "<sip:34020000001320000001@192.0.2.7>","call",_,_,_,
    opened_lookup,rfl,by decide +kernel,by decide +kernel,rfl,by decide,?_⟩
  intro ports
  rfl

end Sample

end CheetahSignaling.Gb28181Media
