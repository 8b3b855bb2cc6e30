import CheetahSignaling.Types
import Mathlib.Data.Rat.Defs

/-! Value objects of the domain crate: the states of the aggregates, the transition check
that media sessions and media bindings share, commands, and the events written to the
outbox. Events of devices, channels and tenants are not represented, nor are the event
and trace identifiers of an envelope, which no modelled function reads. -/
namespace CheetahSignaling

/-- A stable code and a message, as every error value of the aggregates carries them. -/
structure ErrorText where
  (code message : String)
  deriving DecidableEq

def maxErrorCodeBytes : Nat := 128
def maxErrorMessageBytes : Nat := 2048

/-- The bounds every `validate` of an error value checks. -/
def ErrorText.Fits (e : ErrorText) : Prop :=
  e.code.utf8ByteSize ≤ maxErrorCodeBytes ∧ e.message.utf8ByteSize ≤ maxErrorMessageBytes

instance (e : ErrorText) : Decidable e.Fits := inferInstanceAs (Decidable (e.code.utf8ByteSize ≤ maxErrorCodeBytes ∧
    e.message.utf8ByteSize ≤ maxErrorMessageBytes))

def ErrorText.validate (entity : String) (e : ErrorText) : Except DomainError Unit :=
  if maxErrorCodeBytes < e.code.utf8ByteSize then
    .error (.invalidArgument (entity ++ " error code must not exceed 128 bytes"))
  else if maxErrorMessageBytes < e.message.utf8ByteSize then
    .error (.invalidArgument (entity ++ " error message must not exceed 2048 bytes"))
  else .ok ()

theorem ErrorText.validate_fits {e : ErrorText} (entity : String) (fits : e.Fits) : e.validate entity = .ok () := by
  obtain ⟨code,message⟩ := fits
  simp [ErrorText.validate,Nat.not_lt.mpr code,Nat.not_lt.mpr message]

theorem ErrorText.validate_oversized {e : ErrorText} (entity : String) (oversized : ¬ e.Fits) :
    ∃ text, e.validate entity = .error (.invalidArgument text) := by
  unfold ErrorText.validate
  split
  · exact ⟨_,rfl⟩
  · split
    · exact ⟨_,rfl⟩
    · exact absurd ⟨by omega,by omega⟩ oversized

/-- What `transition_to` of an aggregate is built from: its name in errors, which states
are terminal, which transitions are allowed and how a state prints. -/
structure Lifecycle (S : Type) where
  (entity errorEntity : String)
  terminal : S → Bool
  allowed : S → S → Bool
  name : S → String

/-- The checks of `transition_to`, in the order the source makes them. -/
def Lifecycle.check (life : Lifecycle S) (source target : S) (error : Option ErrorText) : Except DomainError Unit :=
  if life.terminal source then .error (.alreadyTerminal life.entity (life.name source))
  else if life.allowed source target then
    match error with
    | some e => e.validate life.errorEntity
    | none => .ok ()
  else .error (.invalidTransition life.entity (life.name source) (life.name target))

theorem Lifecycle.check_ok (life : Lifecycle S) (live : life.terminal source = false)
    (allowed : life.allowed source target = true) (fits : ∀ e ∈ error, e.Fits) :
    life.check source target error = .ok () := by
  cases error with
  | none => simp [Lifecycle.check,live,allowed]
  | some e => simpa [Lifecycle.check,live,allowed] using e.validate_fits life.errorEntity (fits e rfl)

theorem Lifecycle.check_ok_inv (life : Lifecycle S) (h : life.check source target error = .ok ()) :
    life.terminal source = false ∧ life.allowed source target = true ∧ ∀ e ∈ error, e.Fits := by
  unfold Lifecycle.check at h
  split at h
  · cases h
  rename_i live
  split at h
  · rename_i allowed
    refine ⟨by simpa using live,allowed,?_⟩
    rintro e rfl
    by_contra oversized
    obtain ⟨text,refused⟩ := e.validate_oversized life.errorEntity oversized
    simp [refused] at h
  · cases h

inductive MediaSessionDesiredState where
  | active | stopped
  deriving DecidableEq

inductive MediaSessionState where
  | requested | allocating | inviting | active | stopping | stopped | failed
  deriving DecidableEq

inductive MediaBindingState where
  | reserved | active | needsVerification | releasing | released | failed
  deriving DecidableEq

inductive MediaPurpose where
  | unknown | live | playback | talk | broadcast
  deriving DecidableEq

inductive OperationStatus where
  | pending | running | succeeded | failed | cancelled | timedOut
  deriving DecidableEq

def OperationStatus.isTerminal : OperationStatus → Bool
  | .succeeded | .failed | .cancelled | .timedOut => true
  | .pending | .running => false

inductive OperationResult where
  | success
  | failure (error : ErrorText)

def OperationResult.isSuccess : OperationResult → Bool
  | .success => true
  | .failure _ => false

def OperationResult.validate : OperationResult → Except DomainError Unit
  | .success => .ok ()
  | .failure error => error.validate "operation"

/-- A double: what `is_finite` and a comparison with zero can tell about it. -/
inductive Scale where
  | finite (value : Rat)
  | notFinite
  deriving DecidableEq

/-- `!scale.is_finite() || scale < 0.0` -/
def Scale.invalid : Scale → Bool
  | .finite value => value < 0
  | .notFinite => true

inductive ResourceKind where
  | tenant | device | channel | endpoint | protocolSession | mediaSession | mediaBinding | operation
  | event | plugin | node | mediaNode
  deriving DecidableEq

/-- The tag of a `ResourceId` is the kind it stands under. -/
structure ResourceRef where
  tenantId : TenantId
  kind : ResourceKind
  id : Nat
  deriving DecidableEq

structure IdempotencyScope where
  tenantId : TenantId
  principalId : String
  target : ResourceRef
  idempotencyKey : String
  deriving DecidableEq

def IdempotencyScope.new (tenantId : TenantId) (principalId : String) (target : ResourceRef)
    (idempotencyKey : String) : Except DomainError IdempotencyScope :=
  if idempotencyKey = "" then .error (.invalidArgument "idempotency_key must not be empty")
  else if 256 < idempotencyKey.utf8ByteSize then
    .error (.invalidArgument "idempotency_key must not exceed 256 bytes")
  else if 256 < principalId.utf8ByteSize then
    .error (.invalidArgument "principal_id must not exceed 256 bytes")
  else .ok ⟨tenantId,principalId,target,idempotencyKey⟩

theorem IdempotencyScope.new_cases (tenantId : TenantId) (principalId : String) (target : ResourceRef)
    (idempotencyKey : String) :
    IdempotencyScope.new tenantId principalId target idempotencyKey =
        .ok ⟨tenantId,principalId,target,idempotencyKey⟩ ∨
      ∃ text, IdempotencyScope.new tenantId principalId target idempotencyKey = .error (.invalidArgument text) := by
  unfold IdempotencyScope.new
  split_ifs
  · exact .inr ⟨_,rfl⟩
  · exact .inr ⟨_,rfl⟩
  · exact .inr ⟨_,rfl⟩
  · exact .inl rfl

/-- The payloads of media commands; of the others no modelled function reads more than
that they are valid. -/
inductive CommandPayload where
  | startLive (mediaSessionId : MediaSessionId) (channelId : ChannelId) (mediaNodeId : NodeId)
      (purpose : MediaPurpose)
  | startPlayback (mediaSessionId : MediaSessionId) (channelId : ChannelId) (mediaNodeId : NodeId)
      (startTime endTime : UtcTimestamp) (scale : Scale)
  | startTalk (mediaSessionId : MediaSessionId) (channelId : ChannelId) (mediaNodeId : NodeId)
  | startBroadcast (mediaSessionId : MediaSessionId) (channelId : ChannelId) (mediaNodeId : NodeId)
  | stopMediaSession (mediaSessionId : MediaSessionId)
  | other (kind : String) (valid : Except DomainError Unit)

def CommandPayload.validate : CommandPayload → Except DomainError Unit
  | .startPlayback _ _ _ _ _ scale =>
    if scale.invalid then .error (.invalidArgument "scale must be a non-negative finite number")
    else .ok ()
  | .other _ valid => valid
  | _ => .ok ()

structure Command where
  (commandId messageId : MessageId)
  operationId : OperationId
  stepId : Option MessageId
  tenantId : TenantId
  deviceId : DeviceId
  target : ResourceRef
  payload : CommandPayload
  idempotencyKey : String
  idempotencyScope : IdempotencyScope
  deadline : Option UtcTimestamp
  expectedOwnerEpoch : OwnerEpoch

inductive DomainEvent where
  | mediaSessionCreated (mediaSessionId : MediaSessionId) (tenantId : TenantId) (deviceId : DeviceId)
      (channelId : ChannelId) (purpose : MediaPurpose) (desiredState : MediaSessionDesiredState)
      (state : MediaSessionState) (ownerEpoch : OwnerEpoch) (operationId : OperationId)
      (idempotencyScope : IdempotencyScope) (generation : Nat) (deadline : Option UtcTimestamp)
      (createdAt : UtcTimestamp)
  | mediaSessionStateChanged (mediaSessionId : MediaSessionId) (tenantId : TenantId)
      (previousState state : MediaSessionState) (desiredState : MediaSessionDesiredState)
      (error : Option ErrorText)
  | mediaSessionGenerationBumped (mediaSessionId : MediaSessionId) (tenantId : TenantId)
      (generation : Nat) (updatedAt : UtcTimestamp)
  | mediaBindingCreated (mediaBindingId : MediaBindingId) (mediaSessionId : MediaSessionId)
      (tenantId : TenantId) (channelId : ChannelId) (mediaNodeId : NodeId) (ownerEpoch : OwnerEpoch)
      (state : MediaBindingState) (createdAt : UtcTimestamp)
  | mediaBindingStateChanged (mediaBindingId : MediaBindingId) (mediaSessionId : MediaSessionId)
      (tenantId : TenantId) (previousState state : MediaBindingState) (error : Option ErrorText)
  | operationSubmitted (operationId : OperationId) (tenantId : TenantId) (deviceId : DeviceId)
      (idempotencyScope : IdempotencyScope) (command : Command)
  | operationStateChanged (operationId : OperationId) (tenantId : TenantId)
      (previousStatus status : OperationStatus) (result : Option OperationResult)
      (error : Option ErrorText)
  | ownerChanged (tenantId : TenantId) (deviceId : DeviceId) (nodeId : NodeId)
      (ownerEpoch : OwnerEpoch) (previousNodeId : Option NodeId) (previousEpoch : Option OwnerEpoch)
      (takeover : Bool)

/-- An outbox row: a domain event under its aggregate and that aggregate's revision. -/
structure Event where
  tenantId : TenantId
  aggregate : ResourceRef
  sequence : Nat
  payload : DomainEvent

end CheetahSignaling
