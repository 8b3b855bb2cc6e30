import CheetahSignaling.AccessMoves
import CheetahSignaling.GuardedRun

/-! Whether a device that has registered is heard. A REGISTER is for the device of its Request-URI and
only without one for that of To or From, whereas a MESSAGE comes from the device of From and the body:
a device is heard as long as the Request-URI names no other device than From and To do. -/
namespace CheetahSignaling.Gb28181.Access

open GuardedRun

/-- From and To both name the device. -/
def Names (deviceId : DeviceId) (headers : SipHeaders) : Prop :=
  (headers.get .from).bind deviceFromAddress = some deviceId ∧ (headers.get .to).bind deviceFromAddress = some deviceId

instance (deviceId : DeviceId) (headers : SipHeaders) : Decidable (Names deviceId headers) :=
  inferInstanceAs (Decidable (_ ∧ _))

def requestedDevice (uri : SipUri) : Option DeviceId := (uri.user.filter fun user => !user.isEmpty).bind DeviceId.new

theorem deviceIdFromRequest_of_names (names : Names deviceId headers)
    (addressed : ∀ other ∈ requestedDevice line.uri, other = deviceId) :
    deviceIdFromRequest line headers = some deviceId := by
  have resolved : deviceIdFromRequest line headers = ((requestedDevice line.uri).or
      ((headers.get .to).bind deviceFromAddress)).or ((headers.get .from).bind deviceFromAddress) := rfl
  rw [resolved,names.1,names.2]
  cases requested : requestedDevice line.uri with
  | none => rfl
  | some other => rw [addressed other requested]; rfl

namespace Input

def register? : Input E → Option (RequestLine × SipHeaders)
  | .packet ⟨_,_,.request line headers _⟩ => if line.method = .register then some (line,headers) else none
  | _ => none

def tick? : Input E → Option Nat
  | .tick now => some now
  | _ => none

end Input

section

variable (config : DomainConfig) (ports : Ports E D) (deviceId : DeviceId)

def grantedExpires (request : RequestLine × SipHeaders) : Option Nat :=
  (readRegister config request.1 request.2).toOption.map fun (_,_,expires) => expires

/-- The input does not end the device's registration: it has not expired at a tick, and the device does
not unregister. -/
structure Lasts (m : Machine E) (input : Input E) : Prop where
  unexpired : ∀ now ∈ input.tick?, ∀ reg ∈ m.registrations.get deviceId, reg.isExpired now = false
  registered : ∀ request ∈ input.register?, Names deviceId request.2 → grantedExpires config request = some 0 →
    200 ∉ statuses (emitted config ports m input)

instance (m : Machine E) (input : Input E) : Decidable (Lasts config ports deviceId m input) :=
  decidable_of_iff (_ ∧ _) ⟨fun both => ⟨both.1,both.2⟩,fun lasts => ⟨lasts.unexpired,lasts.registered⟩⟩

/-- Only the device itself asks for the end of its registration. -/
def OwnEnd (input : Input E) : Prop :=
  ∀ request ∈ input.register?, deviceIdFromRequest request.1 request.2 = some deviceId →
    grantedExpires config request = some 0 → Names deviceId request.2

instance (input : Input E) : Decidable (OwnEnd config deviceId input) :=
  inferInstanceAs (Decidable (∀ request ∈ input.register?, _ → _ → _))

end

section

variable {m : Machine E}

theorem grantedExpires_of_read (read : readRegister config line headers = .ok (deviceId,contactUri,expires)) :
    grantedExpires config (line,headers) = some expires := by
  rw [grantedExpires,read]
  rfl

theorem tickRegistration_kept (unexpired : reg.isExpired now = false) :
    ∃ kept, (tickRegistration config now reg).2 = some kept := by
  unfold tickRegistration
  simp only [unexpired,Bool.false_eq_true,if_false]
  split
  · exact ⟨_,rfl⟩
  · exact ⟨_,rfl⟩

def Present (deviceId : DeviceId) (m : Machine E) : Prop := ∃ reg, m.registrations.get deviceId = some reg

/-- The step lemma: a registered device stays registered. -/
theorem present_step (present : Present deviceId m) (lasts : Lasts config ports deviceId m input)
    (own : OwnEnd config deviceId input) : Present deviceId (step config ports m input) := by
  unfold Present at *
  obtain ⟨unexpired,registered⟩ := lasts
  have moves := outcome_moves config ports m input
  generalize (step config ports m input).registrations = registrations at moves ⊢
  generalize emitted config ports m input = outputs at moves registered
  cases moves with
  | idle silent refused => exact present
  | @unregistered uri headers gone _ _ _ _ _ read admitted =>
    by_cases same : deviceId = gone
    · subst same
      have ends := grantedExpires_of_read read
      have names := own (⟨.register,uri⟩,headers) rfl (readRegister_device read) ends
      exact absurd List.mem_cons_self (registered (⟨.register,uri⟩,headers) rfl names ends)
    · rw [RegistrationTable.get_remove_other _ same]
      exact present
  | @registered _ _ other _ _ _ _ _ _ _ _ read positive admitted stored =>
    have done := RegistrationTable.upsert_ok stored
    by_cases same : deviceId = other
    · exact ⟨_,same ▸ done.stored⟩
    · rw [done.others _ same]
      exact present
  | @heard _ _ _ _ old _ now _ _ read here =>
    by_cases same : deviceId = old.deviceId
    · subst same
      exact ⟨_,RegistrationTable.get_put_same m.registrations⟩
    refine present.imp fun reg found => ?_
    rw [RegistrationTable.get_put_other]
    · exact found
    · exact same
  | ticked =>
    obtain ⟨reg,found⟩ := present
    obtain ⟨kept,image⟩ := tickRegistration_kept (unexpired _ rfl reg found)
    refine ⟨kept,?_⟩
    rw [RegistrationTable.get] at found ⊢
    rw [Table.find_keep,found,Option.bind_some,image]

/-- A device stays registered along a run whose inputs let it last. -/
theorem present_run (present : Present deviceId m) (run : List (Input E))
    (lasts : Guarded (step config ports) (Lasts config ports deviceId) m run)
    (own : ∀ input ∈ run, OwnEnd config deviceId input) :
    Present deviceId (execute (step config ports) m run) :=
  GuardedRun.guarded_invariant (fun _ _ present both => present_step present both.2 both.1) present
    (lasts.and_actions run own)

theorem accepted_register (device : deviceIdFromRequest ⟨.register,uri⟩ headers = some deviceId)
    (granted : grantedExpires config (⟨.register,uri⟩,headers) = some expires) (positive : 0 < expires)
    (accepted : 200 ∈ statuses (emitted config ports m (.packet ⟨source,now,.request ⟨.register,uri⟩ headers body⟩))) :
    let m' := step config ports m (.packet ⟨source,now,.request ⟨.register,uri⟩ headers body⟩)
    Present deviceId m' ∧ ∀ other, other ≠ deviceId → m'.registrations.get other = m.registrations.get other := by
  intro m'
  unfold Present
  have moves := outcome_moves config ports m (.packet ⟨source,now,.request ⟨.register,uri⟩ headers body⟩)
  generalize m'.registrations = registrations at moves ⊢
  generalize emitted config ports m _ = outputs at moves accepted
  cases moves with
  | idle silent refused => exact absurd accepted refused
  | unregistered read admitted =>
    have zero := Option.some.inj (granted.symm.trans (grantedExpires_of_read read))
    omega
  | registered read _ admitted stored =>
    have done := RegistrationTable.upsert_ok stored
    have same := Option.some.inj (device.symm.trans (readRegister_device read))
    subst same
    exact ⟨⟨_,done.stored⟩,done.others⟩

/-- A device that has registered is heard until its registration ends, as long as the Request-URI of
its REGISTER names no other device and no other device asks for the end of its registration. -/
theorem registered_device_heard (config : DomainConfig) (ports : Ports E D) (env : E) (before : List (Input E))
    (source : SocketAddr) (now : Nat) (uri : SipUri) (headers : SipHeaders) (body : ByteArray)
    (names : Names deviceId headers) (granted : grantedExpires config (⟨.register,uri⟩,headers) = some expires)
    (positive : 0 < expires)
    (accepted : 200 ∈ statuses (emitted config ports (execute (step config ports) (.new env) before)
      (.packet ⟨source,now,.request ⟨.register,uri⟩ headers body⟩)))
    (addressed : ∀ other ∈ requestedDevice uri, other = deviceId) :
    let m := execute (step config ports) (.new env) before
    let m' := step config ports m (.packet ⟨source,now,.request ⟨.register,uri⟩ headers body⟩)
    (∀ other, other ≠ deviceId → m'.registrations.get other = m.registrations.get other) ∧
      ∀ run, Guarded (step config ports) (Lasts config ports deviceId) m' run →
        (∀ input ∈ run, OwnEnd config deviceId input) →
        ∀ source now uri headers body report,
          readMessage ports.crates config.compatibility headers body = .ok (deviceId,report) →
          let outputs := emitted config ports (execute (step config ports) m' run)
            (.packet ⟨source,now,.request ⟨.message,uri⟩ headers body⟩)
          statuses outputs = [200] ∧ ∃ address, .device config.domainId deviceId address report ∈ events outputs := by
  obtain ⟨present,others⟩ := accepted_register (deviceIdFromRequest_of_names names addressed) granted positive accepted
  refine ⟨others,fun run lasts own source now uri headers body report read => ?_⟩
  obtain ⟨reg,found⟩ := present_run present run lasts own
  have device : reg.deviceId = deviceId := RegistrationTable.get_deviceId found
  have heard := processMessage_heard source now read found
  intro outputs
  have given : outputs = heardOutputs config reg report headers _ := congrArg Outcome.outputs heard
  rw [given,← device]
  exact ⟨statuses_heardOutputs,reg.source,report_mem_heardOutputs⟩

end

namespace Sample

def optional : DomainConfig := config .challengeOptional

def after (inputs : List (Input Unit)) : Machine Unit := execute (step optional ports) (.new ()) inputs

theorem keepalive_read :
    readMessage ports.crates optional.compatibility [(.from,address camera)] keepaliveBody =
      .ok (camera,.keepalive "OK") := by
  decide +kernel

/-- A camera that has been silent for two minutes is heard again. -/
theorem silent_camera_heard :
    statuses (emitted optional ports (after [register home 0 camera camera [],.tick 120]) (keepalive home 130)) =
      [200] :=
  ((registered_device_heard optional ports () [] home 0 (uri camera) (registerHeaders camera []) .empty
    (by decide +kernel) (by decide +kernel : _ = some 3600) (by decide) (by decide +kernel) (by decide +kernel)).2
      [.tick 120] (by decide +kernel) (by decide +kernel) home 130 (uri server) [(.from,address camera)]
      keepaliveBody _ keepalive_read).1

theorem keepalive_forbidden (absent : m.registrations.get camera = none) (now : Nat) :
    statuses (emitted optional ports m (keepalive home now)) = [403] := by
  have forbidden : processMessage optional ports home now _ keepaliveBody m = _ :=
    processMessage_absent keepalive_read absent
  simp only [keepalive,emitted,outcome,process,forbidden]
  rfl

def misdirected : List (Input Unit) := [register elsewhere 0 server server [],register home 1 camera server []]

def endedByOther : List (Input Unit) :=
  [register home 0 camera camera [],register elsewhere 1 server camera [(.expires,"0")]]

/-- In both runs a REGISTER of the camera was accepted and its keepalive is answered with 403; in the first
the other device's registration is replaced. -/
theorem registered_camera_forbidden : (Names camera (registerHeaders camera []) ∧
      grantedExpires optional (⟨.register,uri server⟩,registerHeaders camera []) = some 3600 ∧
      statuses (emitted optional ports (after (misdirected.take 1)) (register home 1 camera server [])) = [200] ∧
      (after (misdirected.take 1)).registrations.sendTarget server = some elsewhere ∧
      (after misdirected).registrations.sendTarget server = some home ∧
      statuses (emitted optional ports (after misdirected) (keepalive home 2)) = [403]) ∧
    (statuses (emitted optional ports (after []) (register home 0 camera camera [])) = [200] ∧
      ¬Names camera (registerHeaders server [(.expires,"0")]) ∧
      statuses (emitted optional ports (after endedByOther) (keepalive home 2)) = [403]) ∧
    readMessage ports.crates optional.compatibility [(.from,address camera)] keepaliveBody =
      .ok (camera,.keepalive "OK") :=
  ⟨⟨by decide +kernel,by decide +kernel,by decide +kernel,by decide +kernel,by decide +kernel,
      keepalive_forbidden (by decide +kernel) 2⟩,
    ⟨by decide +kernel,by decide +kernel,keepalive_forbidden (by decide +kernel) 2⟩,keepalive_read⟩

end Sample

end CheetahSignaling.Gb28181.Access
