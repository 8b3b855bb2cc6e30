import CheetahSignaling.DomainTypes

/-! The media binding aggregate. As with media sessions, every transition bumps the
revision by one and a method that returns an error leaves the binding as it was. -/
namespace CheetahSignaling

structure MediaBinding where
  mediaBindingId : MediaBindingId
  mediaSessionId : MediaSessionId
  tenantId : TenantId
  channelId : ChannelId
  mediaNodeId : NodeId
  ownerEpoch : OwnerEpoch
  mediaNodeInstanceEpoch : Nat
  state : MediaBindingState
  error : Option ErrorText
  (createdAt updatedAt : UtcTimestamp)
  revision : Nat

namespace MediaBinding

def terminal : MediaBindingState → Bool
  | .released | .failed => true
  | _ => false

def allowedTransition : MediaBindingState → MediaBindingState → Bool
  | .reserved, .active | .reserved, .needsVerification | .reserved, .releasing
  | .reserved, .failed => true
  | .active, .needsVerification | .active, .releasing | .active, .failed => true
  | .needsVerification, .active | .needsVerification, .releasing
  | .needsVerification, .failed => true
  | .releasing, .released | .releasing, .failed => true
  | _, _ => false

theorem failed_allowed (state : MediaBindingState) (live : terminal state = false) :
    allowedTransition state .failed = true := by
  cases state with
  | released => cases live
  | failed => cases live
  | _ => rfl

theorem releasing_allowed (state : MediaBindingState) (live : terminal state = false)
    (notReleasing : state ≠ .releasing) : allowedTransition state .releasing = true := by
  cases state with
  | releasing => exact absurd rfl notReleasing
  | released => cases live
  | failed => cases live
  | _ => rfl

def stateName : MediaBindingState → String
  | .reserved => "Reserved"
  | .active => "Active"
  | .needsVerification => "NeedsVerification"
  | .releasing => "Releasing"
  | .released => "Released"
  | .failed => "Failed"

def life : Lifecycle MediaBindingState :=
  ⟨"MediaBinding","media binding",terminal,allowedTransition,stateName⟩

section

variable (b : MediaBinding) (now : UtcTimestamp) (target : MediaBindingState) (error : Option ErrorText)

def isTerminal : Bool := terminal b.state

def bump : MediaBinding :=
  { b with updatedAt := now, revision := b.revision + 1 }

def moved : MediaBinding :=
  bump { b with
    state := target,
    error := if error.isSome then error else if target = .failed then b.error else none } now

def stateChangedEvent (previous : MediaBindingState) : DomainEvent :=
  .mediaBindingStateChanged b.mediaBindingId b.mediaSessionId b.tenantId previous b.state b.error

def transitionTo : Except DomainError (MediaBinding × DomainEvent) :=
  match life.check b.state target error with
  | .error e => .error e
  | .ok () => .ok (b.moved now target error,(b.moved now target error).stateChangedEvent b.state)

end

@[simp] theorem moved_state (b : MediaBinding) : (b.moved now target cause).state = target := rfl
@[simp] theorem moved_revision (b : MediaBinding) :
    (b.moved now target cause).revision = b.revision + 1 := rfl
@[simp] theorem moved_id (b : MediaBinding) :
    (b.moved now target cause).mediaBindingId = b.mediaBindingId := rfl

theorem transitionTo_ok (b : MediaBinding) (live : terminal b.state = false)
    (allowed : allowedTransition b.state target = true) (fits : ∀ e ∈ cause, e.Fits) :
    b.transitionTo now target cause =
      .ok (b.moved now target cause,(b.moved now target cause).stateChangedEvent b.state) := by
  unfold transitionTo
  rw [life.check_ok live allowed fits]

theorem transitionTo_inv (h : transitionTo b now target cause = .ok (b',event)) :
    terminal b.state = false ∧ allowedTransition b.state target = true ∧ (∀ e ∈ cause, e.Fits) ∧
      b' = b.moved now target cause := by
  unfold transitionTo at h
  split at h
  · cases h
  rename_i checked
  obtain ⟨live,allowed,fits⟩ := life.check_ok_inv checked
  cases h
  exact ⟨live,allowed,fits,rfl⟩

def new (now : UtcTimestamp) (mediaBindingId : MediaBindingId) (mediaSessionId : MediaSessionId)
    (tenantId : TenantId) (channelId : ChannelId) (mediaNodeId : NodeId) (ownerEpoch : OwnerEpoch)
    (mediaNodeInstanceEpoch : Nat) : Except DomainError (MediaBinding × DomainEvent) :=
  if mediaBindingId = 0 then .error (.invalidArgument "media_binding_id must not be nil")
  else if mediaSessionId = 0 then .error (.invalidArgument "media_session_id must not be nil")
  else if channelId = 0 then .error (.invalidArgument "channel_id must not be nil")
  else if mediaNodeId = 0 then .error (.invalidArgument "media_node_id must not be nil")
  else .ok (
    { mediaBindingId, mediaSessionId, tenantId, channelId, mediaNodeId, ownerEpoch,
      mediaNodeInstanceEpoch, state := .reserved, error := none, createdAt := now,
      updatedAt := now, revision := 0 },
    .mediaBindingCreated mediaBindingId mediaSessionId tenantId channelId mediaNodeId ownerEpoch
      .reserved now)

theorem new_inv (h : new now k session tenant channel node owner epoch = .ok (b,event)) :
    b.mediaBindingId = k ∧ b.mediaSessionId = session ∧ b.tenantId = tenant ∧
      b.state = .reserved ∧ b.revision = 0 := by
  unfold new at h
  split_ifs at h
  cases h
  exact ⟨rfl,rfl,rfl,rfl,rfl⟩

section

variable (b : MediaBinding) (error : ErrorText) (now : UtcTimestamp)

def activate := b.transitionTo now .active none
def release := b.transitionTo now .releasing none
def released := b.transitionTo now .released none
def verified := b.transitionTo now .active none
def failed :=
  b.transitionTo now .failed (some error)

theorem failed_live (b : MediaBinding) (error : ErrorText) (now : UtcTimestamp) (live : b.isTerminal = false)
    (fits : error.Fits) : b.failed error now = .ok (b.moved now .failed (some error),
      (b.moved now .failed (some error)).stateChangedEvent b.state) :=
  b.transitionTo_ok live (failed_allowed _ live) (by simpa using fits)

def needsVerification :=
  b.transitionTo now .needsVerification (some error)

end

def timeout (b : MediaBinding) (now : UtcTimestamp) :=
  b.failed ⟨"timeout","media binding timed out"⟩ now

end MediaBinding

end CheetahSignaling
