import CheetahSignaling.AccessMachine

/-! What one call of the access machine can do. A REGISTER that is let in stores or removes the
registration of the device it is for; a MESSAGE of a registered device is a sign of life; a tick drops
what has expired; everything else leaves the registrations as they are and reports nothing. -/
namespace CheetahSignaling.Gb28181.Access

open List hiding after toString

variable {E D : Type}

section

variable (config : DomainConfig) (ports : Ports E D)

def Admitted (env : E) (source : SocketAddr) (now : Nat) (line : RequestLine) (headers : SipHeaders)
    (deviceId : DeviceId) : Prop :=
  ∃ authOk authAttempted,
    (checkAuthorization config ports source now line headers deviceId env).1 = .proceed authOk authAttempted ∧
      (authOk || (config.authPolicy == .challengeOptional && !authAttempted)) = true

def heardOutputs (reg : Registration) (report : DeviceReport) (headers : SipHeaders) (tag : String) :
    List AccessOutput :=
  let event (report : DeviceReport) : AccessOutput :=
    .emitEvent (.device config.domainId reg.deviceId reg.source report)
  (if reg.offline then [event (.presenceChanged .online)] else []) ++
    [event report,.sendResponse (buildMessageResponse headers tag)]

inductive Moves (m : Machine E) : Input E → List AccessOutput → RegistrationTable → Prop
  | idle (silent : events outputs = []) (refused : 200 ∉ statuses outputs) : Moves m input outputs m.registrations
  | unregistered (read : readRegister config ⟨.register,uri⟩ headers = .ok (deviceId,contactUri,0))
      (admitted : Admitted config ports m.env source now ⟨.register,uri⟩ headers deviceId) :
      Moves m (.packet ⟨source,now,.request ⟨.register,uri⟩ headers body⟩)
        [.sendResponse (buildSuccessResponse headers contactUri 0 tag),
          .emitEvent (.device config.domainId deviceId source .unregistered)]
        (m.registrations.remove deviceId)
  | registered (read : readRegister config ⟨.register,uri⟩ headers = .ok (deviceId,contactUri,expires))
      (positive : expires ≠ 0)
      (admitted : Admitted config ports m.env source now ⟨.register,uri⟩ headers deviceId)
      (stored : m.registrations.upsert config.maxRegistrations deviceId
          (.fromRegistrationWithProfile ports.parsers source (headers.getAll .via).head? (some contactUri)
            (some config.compatibility))
          contactUri.encode expires now (headers.get .userAgent) = .ok (reg,registrations)) :
      Moves m (.packet ⟨source,now,.request ⟨.register,uri⟩ headers body⟩)
        [.sendResponse (buildSuccessResponse headers contactUri expires tag),
          .emitEvent (.device config.domainId deviceId source
            (.registered contactUri.encode expires (headers.get .userAgent) reg.registrationSequence))]
        registrations
  | heard (read : readMessage ports.crates config.compatibility headers body = .ok (deviceId,report))
      (found : m.registrations.get deviceId = some reg) :
      Moves m (.packet ⟨source,now,.request ⟨.message,uri⟩ headers body⟩)
        (heardOutputs config reg report headers tag)
        (m.registrations.put { reg with lastSeen := now,offline := false })
  | ticked : Moves m (.tick now)
      (m.registrations.table.rows.flatMap fun reg => (tickRegistration config now reg).1)
      { m.registrations with
        table := m.registrations.table.keep (fun reg => (tickRegistration config now reg).2)
          (tickRegistration_key config) }

/-- The call changed no registration, reported nothing and was not a success. -/
structure Idle (m : Machine E) (x : Outcome E) : Prop where
  silent : events x.outputs = []
  refused : 200 ∉ statuses x.outputs
  same : x.2.registrations = m.registrations

end

variable {config : DomainConfig} {ports : Ports E D} {m : Machine E}

theorem Idle.moves (idle : Idle m x) : Moves config ports m input x.outputs x.2.registrations := by
  rw [idle.same]
  exact .idle idle.silent idle.refused

theorem idle_error (same : m'.registrations = m.registrations) : Idle m (.error e,m') := ⟨rfl,not_mem_nil,same⟩

theorem idle_respond {m' : Machine E} (same : m'.registrations = m.registrations) (refusal : 200 ≠ code) :
    Idle m (m'.respond (buildResponse headers code reason extra) []) :=
  ⟨rfl,fun member => refusal (mem_singleton.mp member),same⟩

theorem idle_authenticationFailure {m' : Machine E} (same : m'.registrations = m.registrations) :
    Idle m (authenticationFailure ports headers now stale m') := by
  unfold authenticationFailure
  split
  · exact idle_respond same (by decide)
  · exact idle_error same

theorem readRegister_device (read : readRegister config line headers = .ok (deviceId,contactUri,expires)) :
    deviceIdFromRequest line headers = some deviceId := by
  unfold readRegister at read
  split at read
  · cases read
  rename_i found
  obtain ⟨contact,-,read⟩ := Outcomes.bind_eq_ok read
  obtain ⟨header,-,read⟩ := Outcomes.bind_eq_ok read
  cases read
  exact found

theorem registerAccepted_moves {m' : Machine E} (same : m'.registrations = m.registrations)
    (read : readRegister config ⟨.register,uri⟩ headers = .ok (deviceId,contactUri,expires))
    (admitted : Admitted config ports m.env source now ⟨.register,uri⟩ headers deviceId) :
    let x := registerAccepted config ports source now headers contactUri expires deviceId m'
    Moves config ports m (.packet ⟨source,now,.request ⟨.register,uri⟩ headers body⟩) x.outputs
      x.2.registrations := by
  unfold registerAccepted
  dsimp only
  split
  · rename_i zero
    subst zero
    rw [same]
    exact .unregistered read admitted
  rename_i positive
  split
  · exact (idle_respond same (by decide)).moves
  · rename_i reg registrations stored
    rw [same] at stored
    exact .registered read positive admitted stored

theorem processRegister_moves :
    let x := processRegister config ports source now ⟨.register,uri⟩ headers m
    Moves config ports m (.packet ⟨source,now,.request ⟨.register,uri⟩ headers body⟩) x.outputs
      x.2.registrations := by
  unfold processRegister
  dsimp only
  split
  · exact (idle_respond rfl (by decide)).moves
  rename_i deviceId contactUri expires read
  split
  · exact (idle_respond rfl (by decide)).moves
  · exact (idle_respond rfl (by decide)).moves
  · refine (idle_authenticationFailure ?_).moves
    rfl
  rename_i authOk authAttempted step
  split
  · rename_i passed
    refine registerAccepted_moves ?_ read ⟨authOk,authAttempted,step,passed⟩
    split
    · rfl
    · rfl
  refine (idle_authenticationFailure ?_).moves
  split
  · rfl
  · rfl

theorem processMessage_heard (source : SocketAddr) (now : Nat)
    (read : readMessage ports.crates config.compatibility headers body = .ok (deviceId,report))
    (found : m.registrations.get deviceId = some reg) :
    processMessage config ports source now headers body m =
      (.ok (heardOutputs config reg report headers ("gb" ++ toString m.tagCounter)), { m with
          registrations := m.registrations.put { reg with lastSeen := now,offline := false }
          tagCounter := (m.tagCounter + 1) % 2 ^ 64 }) := by
  have device : reg.deviceId = deviceId := RegistrationTable.get_deviceId found
  subst device
  have after : (m.registrations.put { reg with lastSeen := now,offline := false }).get reg.deviceId =
      some { reg with lastSeen := now,offline := false } :=
    RegistrationTable.get_put_same m.registrations
  simp [processMessage,processMessageBody,read,RegistrationTable.touch,found,
    RegistrationTable.sendTarget,heardOutputs,Registration.source]

theorem statuses_heardOutputs : statuses (heardOutputs config reg report headers tag) = [200] := by
  unfold heardOutputs
  split
  · rfl
  · rfl

theorem report_mem_heardOutputs :
    .device config.domainId reg.deviceId reg.source report ∈ events (heardOutputs config reg report headers tag) := by
  unfold heardOutputs
  split
  · exact mem_cons_of_mem _ mem_cons_self
  · exact mem_cons_self

theorem processMessage_absent
    (read : readMessage ports.crates config.compatibility headers body = .ok (deviceId,report))
    (absent : m.registrations.get deviceId = none) :
    processMessage config ports source now headers body m =
      m.respond (buildErrorResponse headers 403 "Forbidden") [] := by
  simp [processMessage,processMessageBody,read,RegistrationTable.touch,absent]

theorem processMessage_moves :
    let x := processMessage config ports source now headers body m
    Moves config ports m (.packet ⟨source,now,.request ⟨.message,uri⟩ headers body⟩) x.outputs
      x.2.registrations := by
  cases read : readMessage ports.crates config.compatibility headers body with
  | error e =>
    have stopped : processMessageBody config ports source now headers body m = (.error e,m) := by
      simp [processMessageBody,read]
    simp only [processMessage,stopped]
    split
    · exact (idle_respond rfl (by decide)).moves
    · exact (idle_respond rfl (by decide)).moves
    · exact (idle_respond rfl (by decide)).moves
    · exact (idle_respond rfl (by decide)).moves
    · exact (idle_respond rfl (by decide)).moves
    · exact (idle_error rfl).moves
  | ok message =>
    obtain ⟨deviceId,report⟩ := message
    cases found : m.registrations.get deviceId with
    | none =>
      rw [processMessage_absent read found]
      exact (idle_respond rfl (by decide)).moves
    | some reg =>
      rw [processMessage_heard source now read found]
      exact .heard read found

variable (config ports) in
theorem outcome_moves (m : Machine E) (input : Input E) :
    Moves config ports m input (emitted config ports m input) (step config ports m input).registrations := by
  cases input with
  | tick now => exact .ticked
  | surroundings env => exact Idle.moves ⟨rfl,not_mem_nil,rfl⟩
  | packet packet =>
    obtain ⟨source,now,message⟩ := packet
    cases message with
    | response line headers body => exact Idle.moves ⟨rfl,not_mem_nil,rfl⟩
    | request line headers body =>
      obtain ⟨method,uri⟩ := line
      cases method with
      | register => exact processRegister_moves
      | message => exact processMessage_moves
      | _ => exact (idle_respond rfl (by decide)).moves

end CheetahSignaling.Gb28181.Access
