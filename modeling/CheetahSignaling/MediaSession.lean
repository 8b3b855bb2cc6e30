import CheetahSignaling.DomainTypes

/-! The media session aggregate. Every transition bumps the revision by one. A method
that returns an error leaves the session as it was, so a result is either the error or
the new session with its event. -/
namespace CheetahSignaling

structure MediaSession where
  mediaSessionId : MediaSessionId
  tenantId : TenantId
  deviceId : DeviceId
  channelId : ChannelId
  purpose : MediaPurpose
  desiredState : MediaSessionDesiredState
  state : MediaSessionState
  ownerEpoch : OwnerEpoch
  operationId : OperationId
  idempotencyScope : IdempotencyScope
  deadline : Option UtcTimestamp
  error : Option ErrorText
  generation : Nat
  (playbackStartTime playbackEndTime : Option UtcTimestamp)
  playbackScale : Option Scale
  (createdAt updatedAt : UtcTimestamp)
  revision : Nat
  deriving DecidableEq

namespace MediaSession

def terminal : MediaSessionState → Bool
  | .stopped | .failed => true
  | _ => false

def allowedTransition : MediaSessionState → MediaSessionState → Bool
  | .requested, .allocating | .requested, .stopped | .requested, .failed => true
  | .allocating, .inviting | .allocating, .stopped | .allocating, .failed => true
  | .inviting, .active | .inviting, .stopped | .inviting, .failed => true
  | .active, .stopping | .active, .stopped | .active, .failed => true
  | .stopping, .stopped | .stopping, .failed => true
  | _, _ => false

theorem failed_allowed (state : MediaSessionState) (live : terminal state = false) :
    allowedTransition state .failed = true := by
  cases state with
  | stopped => cases live
  | failed => cases live
  | _ => rfl

def stateName : MediaSessionState → String
  | .requested => "Requested"
  | .allocating => "Allocating"
  | .inviting => "Inviting"
  | .active => "Active"
  | .stopping => "Stopping"
  | .stopped => "Stopped"
  | .failed => "Failed"

def life : Lifecycle MediaSessionState :=
  ⟨"MediaSession","media session",terminal,allowedTransition,stateName⟩

section

variable (s : MediaSession) (now : UtcTimestamp) (target : MediaSessionState) (error : Option ErrorText)

def isTerminal : Bool := terminal s.state

def bump : MediaSession :=
  { s with updatedAt := now, revision := s.revision + 1 }

def moved : MediaSession :=
  bump { s with
    state := target,
    error := if error.isSome then error else if target = .failed then s.error else none } now

def stateChangedEvent (previous : MediaSessionState) : DomainEvent :=
  .mediaSessionStateChanged s.mediaSessionId s.tenantId previous s.state s.desiredState s.error

def transitionTo : Except DomainError (MediaSession × DomainEvent) :=
  match life.check s.state target error with
  | .error e => .error e
  | .ok () => .ok (s.moved now target error,(s.moved now target error).stateChangedEvent s.state)

end

@[simp] theorem moved_state (s : MediaSession) : (s.moved now target cause).state = target := rfl
@[simp] theorem moved_revision (s : MediaSession) :
    (s.moved now target cause).revision = s.revision + 1 := rfl
@[simp] theorem moved_id (s : MediaSession) :
    (s.moved now target cause).mediaSessionId = s.mediaSessionId := rfl

theorem transitionTo_ok (s : MediaSession) (live : terminal s.state = false)
    (allowed : allowedTransition s.state target = true) (fits : ∀ e ∈ cause, e.Fits) :
    s.transitionTo now target cause =
      .ok (s.moved now target cause,(s.moved now target cause).stateChangedEvent s.state) := by
  unfold transitionTo
  rw [life.check_ok live allowed fits]

theorem transitionTo_inv (h : transitionTo s now target cause = .ok (s',event)) :
    terminal s.state = false ∧ allowedTransition s.state target = true ∧ (∀ e ∈ cause, e.Fits) ∧
      s' = s.moved now target cause := by
  unfold transitionTo at h
  split at h
  · cases h
  rename_i checked
  obtain ⟨live,allowed,fits⟩ := life.check_ok_inv checked
  cases h
  exact ⟨live,allowed,fits,rfl⟩

def new (now : UtcTimestamp) (mediaSessionId : MediaSessionId) (tenantId : TenantId)
    (deviceId : DeviceId) (channelId : ChannelId) (purpose : MediaPurpose)
    (desiredState : MediaSessionDesiredState) (ownerEpoch : OwnerEpoch) (operationId : OperationId)
    (idempotencyScope : IdempotencyScope) (deadline : Option UtcTimestamp) :
    Except DomainError (MediaSession × DomainEvent) :=
  if mediaSessionId = 0 then .error (.invalidArgument "media_session_id must not be nil")
  else if deviceId = 0 then .error (.invalidArgument "device_id must not be nil")
  else if channelId = 0 then .error (.invalidArgument "channel_id must not be nil")
  else if operationId = 0 then .error (.invalidArgument "operation_id must not be nil")
  else if purpose = .unknown then .error (.invalidArgument "media purpose must be known")
  else .ok (
    { mediaSessionId, tenantId, deviceId, channelId, purpose, desiredState, state := .requested,
      ownerEpoch, operationId, idempotencyScope, deadline, error := none, generation := 0,
      playbackStartTime := none, playbackEndTime := none, playbackScale := none,
      createdAt := now, updatedAt := now, revision := 0 },
    .mediaSessionCreated mediaSessionId tenantId deviceId channelId purpose desiredState .requested
      ownerEpoch operationId idempotencyScope 0 deadline now)

theorem new_inv (h : new now k tenant device channel use desired owner operation scope due = .ok (s,event)) :
    s.mediaSessionId = k ∧ s.tenantId = tenant ∧ s.state = .requested ∧ s.revision = 0 := by
  unfold new at h
  split_ifs at h
  cases h
  exact ⟨rfl,rfl,rfl,rfl⟩

variable (s : MediaSession) (now : UtcTimestamp)

def allocating := s.transitionTo now .allocating none
def inviting := s.transitionTo now .inviting none
def active := s.transitionTo now .active none
def stopped := s.transitionTo now .stopped none
def failed (error : ErrorText) (now : UtcTimestamp) :=
  s.transitionTo now .failed (some error)

theorem failed_live (s : MediaSession) (error : ErrorText) (now : UtcTimestamp) (live : s.isTerminal = false)
    (fits : error.Fits) : s.failed error now = .ok (s.moved now .failed (some error),
      (s.moved now .failed (some error)).stateChangedEvent s.state) :=
  s.transitionTo_ok live (failed_allowed _ live) (by simpa using fits)

/-- Only from `Active`; the wish to stop is recorded as well. -/
def stopping : Except DomainError (MediaSession × DomainEvent) :=
  if s.isTerminal then .error (.alreadyTerminal "MediaSession" (stateName s.state))
  else if s.state ≠ .active then
    .error (.invalidTransition "MediaSession" (stateName s.state) "Stopping")
  else { s with desiredState := .stopped }.transitionTo now .stopping none

def stop : Except DomainError (MediaSession × DomainEvent) :=
  if s.isTerminal then .error (.alreadyTerminal "MediaSession" (stateName s.state))
  else if s.state = .active then { s with desiredState := .stopped }.transitionTo now .stopping none
  else { s with desiredState := .stopped }.transitionTo now .stopped none

theorem stop_live (s : MediaSession) (now : UtcTimestamp) (live : s.isTerminal = false) :
    ∃ s' event, s.stop now = .ok (s',event) ∧ s'.mediaSessionId = s.mediaSessionId ∧
      s'.tenantId = s.tenantId ∧ s'.revision = s.revision + 1 ∧
      s'.state = (if s.state = .active then .stopping else .stopped) := by
  obtain ⟨_,_,_,_,_,_,state⟩ := s
  cases state with
  | stopped => cases live
  | failed => cases live
  | _ => exact ⟨_,_,rfl,rfl,rfl,rfl,rfl⟩

def cancel : Except DomainError (MediaSession × DomainEvent) :=
  if s.isTerminal then .error (.alreadyTerminal "MediaSession" (stateName s.state))
  else { s with desiredState := .stopped }.transitionTo now .stopped none

def timeout (s : MediaSession) (now : UtcTimestamp) :=
  s.failed ⟨"timeout","media session timed out"⟩ now

def bumpGeneration : Except DomainError (MediaSession × DomainEvent) :=
  if s.isTerminal then .error (.alreadyTerminal "MediaSession" (stateName s.state))
  else .ok ({ s with generation := s.generation + 1 }.bump now,
    .mediaSessionGenerationBumped s.mediaSessionId s.tenantId (s.generation + 1) now)

def setPlaybackWindow (startTime endTime : UtcTimestamp) (scale : Scale) : Except DomainError MediaSession :=
  if s.isTerminal then
    .error (.invalidArgument "cannot set playback window on a terminal media session")
  else if endTime < startTime then
    .error (.invalidArgument "playback start_time must not be after end_time")
  else if scale.invalid then
    .error (.invalidArgument "playback scale must be finite and non-negative")
  else .ok { s with
    playbackStartTime := some startTime,
    playbackEndTime := some endTime,
    playbackScale := some scale }

end MediaSession

end CheetahSignaling
