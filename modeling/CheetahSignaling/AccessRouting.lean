import CheetahSignaling.AccessMoves
import CheetahSignaling.GuardedRun

/-! Where a device is sent to is decided by its own authenticated REGISTER, whatever other packets
arrive and wherever they come from. -/
namespace CheetahSignaling.Gb28181.Access

open List hiding after
open GuardedRun

section

variable (ports : Ports E D)

/-- The input is a REGISTER for the device with a digest that is valid for the device's password. -/
inductive Authenticates (m : Machine E) (deviceId : DeviceId) : Input E → Prop
  | register (device : deviceIdFromRequest ⟨.register,uri⟩ headers = some deviceId)
      (presented : headers.get .authorization = some header) (parsed : ports.parseAuthorization header = .ok digest)
      (known : ports.passwordFor m.env deviceId = .ok (some password))
      (valid : (ports.validate m.env digest .register uri.encode password now).1 = .ok ()) :
      Authenticates m deviceId (.packet ⟨source,now,.request ⟨.register,uri⟩ headers body⟩)

/-- The route comes from the input, which is authenticated. -/
inductive Establishes (config : DomainConfig) (m : Machine E) (deviceId : DeviceId) : Input E → EndpointRoute → Prop
  | register (read : readRegister config ⟨.register,uri⟩ headers = .ok (deviceId,contactUri,expires))
      (authenticated : Authenticates ports m deviceId (.packet ⟨source,now,.request ⟨.register,uri⟩ headers body⟩)) :
      Establishes config m deviceId (.packet ⟨source,now,.request ⟨.register,uri⟩ headers body⟩)
        (.fromRegistrationWithProfile ports.parsers source (headers.getAll .via).head? (some contactUri)
          (some config.compatibility))

end

section

theorem checkRequired_proceed
    (passed : (checkRequired ports source now line deviceId header env).1 = .proceed authOk authAttempted) :
    ∃ digest password, ports.parseAuthorization header = .ok digest ∧
      ports.passwordFor env deviceId = .ok (some password) ∧
      (ports.validate env digest .register line.uri.encode password now).1 = .ok () := by
  unfold checkRequired at passed
  split at passed
  · split at passed <;> cases passed
  rename_i digest parsed
  split at passed
  · cases passed
  · cases passed
  rename_i password known
  split at passed
  · rename_i valid
    exact ⟨digest,password,parsed,known,by rw [valid]⟩
  · cases passed
  · cases passed

/-- Under the required policy nothing but a valid digest lets a REGISTER in. -/
theorem Admitted.authenticates (required : config.authPolicy = .required)
    (device : deviceIdFromRequest ⟨.register,uri⟩ headers = some deviceId)
    (admitted : Admitted config ports m.env source now ⟨.register,uri⟩ headers deviceId) :
    Authenticates ports m deviceId (.packet ⟨source,now,.request ⟨.register,uri⟩ headers body⟩) := by
  obtain ⟨authOk,authAttempted,step,passed⟩ := admitted
  have ok : authOk = true := by simpa [required] using passed
  subst ok
  unfold checkAuthorization at step
  split at step
  · cases step
  rename_i header presented
  split at step
  · cases step
  · rw [required] at step
    obtain ⟨digest,password,parsed,known,valid⟩ := checkRequired_proceed step
    exact .register device presented parsed known valid

theorem RegistrationTable.sendTarget_eq (t : RegistrationTable) :
    t.sendTarget deviceId = (t.route deviceId).map EndpointRoute.sendTarget := by
  simp only [route,Option.map_map]
  rfl

theorem tickRegistration_route (kept : reg' ∈ (tickRegistration config now reg).2) : reg'.route = reg.route := by
  unfold tickRegistration at kept
  split at kept
  · cases kept
  · split at kept
    · cases kept; rfl
    · cases kept; rfl

/-- A route of a device after a step was there before, or the input has established it. -/
theorem route_step (required : config.authPolicy = .required)
    (after : (step config ports m input).registrations.route deviceId = some route) :
    m.registrations.route deviceId = some route ∨ Establishes ports config m deviceId input route := by
  obtain ⟨reg,found,rfl⟩ := Option.map_eq_some_iff.mp after
  have kept {old : Registration} (before : m.registrations.get deviceId = some old) (same : reg.route = old.route) :
      m.registrations.route deviceId = some reg.route := by
    rw [RegistrationTable.route,before,Option.map_some,same]
  have moves := outcome_moves config ports m input
  generalize (step config ports m input).registrations = registrations at found moves
  generalize emitted config ports m input = outputs at moves
  cases moves with
  | idle silent refused => exact .inl (kept found rfl)
  | unregistered read admitted => exact .inl (kept (RegistrationTable.get_of_remove found) rfl)
  | registered read positive admitted stored =>
    have done := RegistrationTable.upsert_ok stored
    rcases done.get_cases found with ⟨rfl,rfl⟩ | before
    · rw [done.route]
      exact .inr (.register read (admitted.authenticates required (readRegister_device read)))
    · exact .inl (kept before rfl)
  | @heard _ _ speaker _ old _ _ _ _ read here =>
    rcases RegistrationTable.get_of_put found with ⟨device,rfl⟩ | before
    · have speaks : old.deviceId = speaker := RegistrationTable.get_deviceId here
      have before : m.registrations.get deviceId = some old := by rwa [device.trans speaks]
      exact .inl (kept before rfl)
    · exact .inl (kept before rfl)
  | ticked =>
    rw [RegistrationTable.get,Table.find_keep] at found
    obtain ⟨old,before,image⟩ := Option.bind_eq_some_iff.mp found
    exact .inl (kept before (tickRegistration_route image))

theorem message_events
    (reported : event ∈ events (emitted config ports m (.packet ⟨source,now,.request ⟨.message,uri⟩ headers body⟩))) :
    ∃ deviceId sent reg report, readMessage ports.crates config.compatibility headers body = .ok (deviceId,sent) ∧
      m.registrations.get deviceId = some reg ∧ event = .device config.domainId deviceId reg.source report := by
  have moves := outcome_moves config ports m (.packet ⟨source,now,.request ⟨.message,uri⟩ headers body⟩)
  generalize (step config ports m _).registrations = registrations at moves
  generalize emitted config ports m _ = outputs at moves reported
  cases moves with
  | idle silent refused =>
    rw [silent] at reported
    cases reported
  | @heard _ _ deviceId sent reg _ _ _ _ read here =>
    have device : reg.deviceId = deviceId := RegistrationTable.get_deviceId here
    subst device
    obtain ⟨output,member,image⟩ := mem_filterMap.mp reported
    refine ⟨reg.deviceId,sent,reg,?_⟩
    simp only [heardOutputs,mem_append,mem_cons,not_mem_nil,or_false] at member
    rcases member with online | rfl | rfl
    · split at online
      · cases mem_singleton.mp online
        exact ⟨_,read,here,(Option.some.inj image).symm⟩
      · cases online
    · exact ⟨_,read,here,(Option.some.inj image).symm⟩
    · cases image

/-- With the required policy, over every run, a route or send target changes or appears only with a
REGISTER for its device that is authenticated with the device's password, and the events of a MESSAGE
carry the address of the stored route. -/
theorem route_moves_only_authenticated (config : DomainConfig) (ports : Ports E D)
    (required : config.authPolicy = .required) (env : E) (run : List (Input E)) (input : Input E) :
    let m := execute (step config ports) (.new env) run
    let m' := step config ports m input
    (∀ deviceId, ¬Authenticates ports m deviceId input →
      (∀ route, m'.registrations.route deviceId = some route → m.registrations.route deviceId = some route) ∧
      ∀ target, m'.registrations.sendTarget deviceId = some target →
        m.registrations.sendTarget deviceId = some target) ∧
    ∀ source now uri headers body, input = .packet ⟨source,now,.request ⟨.message,uri⟩ headers body⟩ →
      ∀ event ∈ events (emitted config ports m input), ∃ deviceId sent report address,
        readMessage ports.crates config.compatibility headers body = .ok (deviceId,sent) ∧
          event = .device config.domainId deviceId address report ∧
          m.registrations.sendTarget deviceId = some address ∧
          m'.registrations.sendTarget deviceId = some address := by
  intro m m'
  have routes (deviceId : DeviceId) (none : ¬Authenticates ports m deviceId input) (route : EndpointRoute)
      (after : m'.registrations.route deviceId = some route) : m.registrations.route deviceId = some route := by
    rcases route_step required after with before | ⟨-,authenticated⟩
    · exact before
    · exact absurd authenticated none
  refine ⟨fun deviceId none => ⟨routes deviceId none,fun target after => ?_⟩,?_⟩
  · rw [RegistrationTable.sendTarget_eq] at after ⊢
    obtain ⟨route,stored,rfl⟩ := Option.map_eq_some_iff.mp after
    rw [routes deviceId none route stored,Option.map_some]
  rintro source now uri headers body rfl event reported
  obtain ⟨deviceId,sent,reg,report,read,here,rfl⟩ := message_events reported
  have after : m'.registrations.get deviceId = some { reg with lastSeen := now,offline := false } := by
    have device : reg.deviceId = deviceId := RegistrationTable.get_deviceId here
    have moved : m' = (processMessage config ports source now headers body m).2 := rfl
    rw [moved,processMessage_heard source now read here,← device]
    exact RegistrationTable.get_put_same m.registrations
  refine ⟨deviceId,sent,report,reg.source,read,rfl,?_,?_⟩
  · rw [RegistrationTable.sendTarget,here,Option.map_some]
  · rw [RegistrationTable.sendTarget,after,Option.map_some]
    rfl

end

namespace Sample

/-- The camera has registered from home with a valid digest. -/
def atHome : Machine Unit :=
  execute (step (config .required) ports) (.new ()) [register home 0 camera camera [(.authorization,digest.toHeaderValue)]]

/-- A REGISTER of the camera from elsewhere, without a digest. -/
def forged : Input Unit := register elsewhere 1 camera camera []

theorem forged_not_authenticated : ¬Authenticates ports atHome camera forged := by
  intro authenticated
  obtain ⟨-,presented,-,-,-⟩ := authenticated
  cases presented

theorem forged_register_moves_nothing : atHome.registrations.sendTarget camera = some home ∧
    (step (config .required) ports atHome forged).registrations.sendTarget camera ≠ some elsewhere := by
  refine ⟨by decide +kernel,fun moved => ?_⟩
  have kept := ((route_moves_only_authenticated (config .required) ports rfl ()
    [register home 0 camera camera [(.authorization,digest.toHeaderValue)]] forged).1 camera
      forged_not_authenticated).2 elsewhere moved
  exact absurd kept (by decide +kernel)

end Sample

end CheetahSignaling.Gb28181.Access
