import CheetahSignaling.Compatibility
import CheetahSignaling.Outcomes

/-! The protocol session of a device: where it registered from, until when, and which node owns it
at which epoch. One clock reading serves a whole transition. -/
namespace CheetahSignaling

open Outcomes

abbrev ProtocolSessionId := Nat

inductive Protocol where
  | unknown | gb28181 | onvif | plugin | mqtt | jt808 | isup | homekit | matter
  deriving DecidableEq

inductive SipTransport where
  | udp | tcp
  deriving DecidableEq

inductive PresenceState where
  | unknown | online | offline
  deriving DecidableEq

structure LocalIdentity where
  (listenerId localDeviceId domain realm : String)
  deriving DecidableEq

def LocalIdentity.validate (identity : LocalIdentity) : Except DomainError Unit := do
  for (name,value) in [("listener_id",identity.listenerId),("local_device_id",identity.localDeviceId),
      ("domain",identity.domain),("realm",identity.realm)] do
    refuse value.isEmpty (name ++ " must not be empty")
    checkLength name value

structure SessionEndpoint where
  (observedSource contactUri advertisedEndpoint : String)
  deriving DecidableEq

namespace SessionEndpoint

def validate (endpoint : SessionEndpoint) : Except DomainError Unit := do
  checkLength "observed_source" endpoint.observedSource
  checkLength "contact_uri" endpoint.contactUri
  checkLength "advertised_endpoint" endpoint.advertisedEndpoint

def Fits (endpoint : SessionEndpoint) : Prop :=
  endpoint.observedSource.utf8ByteSize ≤ maxFieldBytes ∧ endpoint.contactUri.utf8ByteSize ≤ maxFieldBytes ∧
    endpoint.advertisedEndpoint.utf8ByteSize ≤ maxFieldBytes

instance decidableEndpointFits (endpoint : SessionEndpoint) : Decidable endpoint.Fits := inferInstanceAs (Decidable (_ ∧ _ ∧ _))

theorem validate_ok {endpoint : SessionEndpoint} : endpoint.validate = .ok () ↔ endpoint.Fits := by
  unfold validate
  constructor
  · intro passed
    obtain ⟨_,first,_,second,third⟩ := bind_eq_ok₂ passed
    exact ⟨checkLength_ok.mp first,checkLength_ok.mp second,checkLength_ok.mp third⟩
  · rintro ⟨first,second,third⟩
    rw [checkLength_ok.mpr first,checkLength_ok.mpr second,checkLength_ok.mpr third]
    rfl

end SessionEndpoint

structure RegistrationInfo where
  callId : String
  (cseq expiresSecs : Nat)
  deriving DecidableEq

def RegistrationInfo.validate (registration : RegistrationInfo) : Except DomainError Unit :=
  checkLength "call_id" registration.callId

def RegistrationInfo.Fits (registration : RegistrationInfo) : Prop := registration.callId.utf8ByteSize ≤ maxFieldBytes

instance decidableRegistrationFits (registration : RegistrationInfo) : Decidable registration.Fits :=
  inferInstanceAs (Decidable (_ ≤ _))

structure ProtocolSession where
  protocolSessionId : ProtocolSessionId
  tenantId : TenantId
  deviceId : DeviceId
  protocol : Protocol
  protocolIdentity : String
  localIdentity : LocalIdentity
  transport : SipTransport
  endpoint : SessionEndpoint
  registration : RegistrationInfo
  expiryAt : UtcTimestamp
  lastAuthenticatedAt : Option UtcTimestamp
  presence : PresenceState
  lastKeepaliveAt : Option UtcTimestamp
  offlineReason : Option String
  ownerNodeId : Option NodeId
  ownerEpoch : OwnerEpoch
  compatibility : CompatibilityProfile
  (createdAt updatedAt : UtcTimestamp)
  revision : Nat
  deriving DecidableEq

structure NewProtocolSession where
  protocolSessionId : ProtocolSessionId
  tenantId : TenantId
  deviceId : DeviceId
  protocol : Protocol
  protocolIdentity : String
  localIdentity : LocalIdentity
  transport : SipTransport
  endpoint : SessionEndpoint
  registration : RegistrationInfo
  expiryAt : UtcTimestamp
  ownerNodeId : Option NodeId
  ownerEpoch : OwnerEpoch
  compatibility : CompatibilityProfile

namespace ProtocolSession

section

variable (session : ProtocolSession) (clock : UtcTimestamp)

def new (params : NewProtocolSession) : Except DomainError ProtocolSession := do
  refuse (params.protocolSessionId = 0) "protocol_session_id must not be nil"
  refuse (params.protocol = .unknown) "protocol must be known"
  refuse params.protocolIdentity.isEmpty "protocol_identity must not be empty"
  params.localIdentity.validate
  params.endpoint.validate
  params.registration.validate
  params.compatibility.validate
  return {
    protocolSessionId := params.protocolSessionId
    tenantId := params.tenantId
    deviceId := params.deviceId
    protocol := params.protocol
    protocolIdentity := params.protocolIdentity
    localIdentity := params.localIdentity
    transport := params.transport
    endpoint := params.endpoint
    registration := params.registration
    expiryAt := params.expiryAt
    lastAuthenticatedAt := some clock
    presence := .unknown
    lastKeepaliveAt := none
    offlineReason := none
    ownerNodeId := params.ownerNodeId
    ownerEpoch := params.ownerEpoch
    compatibility := params.compatibility
    createdAt := clock
    updatedAt := clock
    revision := 0 }

def bump : ProtocolSession := { session with updatedAt := clock,revision := session.revision + 1 }

def refreshRegistration (registration : RegistrationInfo) (expiryAt : UtcTimestamp)
    (endpoint : Option SessionEndpoint) : Except DomainError ProtocolSession := do
  registration.validate
  -- The Call-ID plays no part in the comparison.
  refuse (registration.cseq < session.registration.cseq) "REGISTER CSeq must not decrease"
  (endpoint.map SessionEndpoint.validate).getD (.ok ())
  let refreshed := { session with
    endpoint := endpoint.getD session.endpoint
    registration := registration
    expiryAt := expiryAt
    lastAuthenticatedAt := some clock
    presence := .online
    offlineReason := none }
  return refreshed.bump clock

def recordKeepalive : ProtocolSession :=
  { session with lastKeepaliveAt := some clock,presence := .online,offlineReason := none }.bump clock

def markOffline (reason : String) : Except DomainError ProtocolSession := do
  checkLength "offline_reason" reason
  return { session with presence := .offline,offlineReason := some reason }.bump clock

def assignOwner (nodeId : NodeId) (ownerEpoch : OwnerEpoch) : ProtocolSession :=
  { session with ownerNodeId := some nodeId,ownerEpoch := ownerEpoch }.bump clock

def isExpired (now : UtcTimestamp) : Bool := session.expiryAt ≤ now

end

/-- A transition keeps what the session is about and counts one revision. -/
structure Follows (old new : ProtocolSession) : Prop where
  protocolSessionId : new.protocolSessionId = old.protocolSessionId
  tenantId : new.tenantId = old.tenantId
  deviceId : new.deviceId = old.deviceId
  protocol : new.protocol = old.protocol
  protocolIdentity : new.protocolIdentity = old.protocolIdentity
  revision : new.revision = old.revision + 1

structure SameOwner (old new : ProtocolSession) : Prop where
  ownerNodeId : new.ownerNodeId = old.ownerNodeId
  ownerEpoch : new.ownerEpoch = old.ownerEpoch

variable {session next : ProtocolSession}

theorem new_ok (created : new clock params = .ok session) :
    session.protocolSessionId = params.protocolSessionId ∧ session.tenantId = params.tenantId ∧
      session.deviceId = params.deviceId ∧ session.protocol = params.protocol ∧
      session.ownerNodeId = params.ownerNodeId ∧ session.ownerEpoch = params.ownerEpoch ∧ session.revision = 0 := by
  repeat obtain ⟨_,-,created⟩ := bind_eq_ok created
  cases created
  exact ⟨rfl,rfl,rfl,rfl,rfl,rfl,rfl⟩

theorem refreshRegistration_ok {registration : RegistrationInfo} {expiryAt : UtcTimestamp} {endpoint : SessionEndpoint} :
    session.refreshRegistration clock registration expiryAt (some endpoint) = .ok next ↔
      (registration.Fits ∧ session.registration.cseq ≤ registration.cseq ∧ endpoint.Fits) ∧
      next = { session with
        endpoint := endpoint,registration := registration,expiryAt := expiryAt,lastAuthenticatedAt := some clock,
        presence := .online,offlineReason := none }.bump clock := by
  unfold refreshRegistration
  constructor
  · intro refreshed
    obtain ⟨_,short,_,later,refreshed⟩ := bind_eq_ok₂ refreshed
    obtain ⟨_,fits,refreshed⟩ := bind_eq_ok refreshed
    cases refreshed
    exact ⟨⟨checkLength_ok.mp short,not_lt.mp (refuse_ok.mp later),SessionEndpoint.validate_ok.mp fits⟩,rfl⟩
  rintro ⟨⟨short,later,fits⟩,rfl⟩
  rw [RegistrationInfo.validate,checkLength_ok.mpr short,refuse_ok.mpr (not_lt.mpr later)]
  simp only [Option.map_some,SessionEndpoint.validate_ok.mpr fits]
  rfl

theorem refreshRegistration_follows {registration : RegistrationInfo} {expiryAt : UtcTimestamp} {endpoint : SessionEndpoint}
    (refreshed : session.refreshRegistration clock registration expiryAt (some endpoint) = .ok next) :
    Follows session next ∧ SameOwner session next := by
  obtain ⟨-,rfl⟩ := refreshRegistration_ok.mp refreshed
  exact ⟨⟨rfl,rfl,rfl,rfl,rfl,rfl⟩,⟨rfl,rfl⟩⟩

theorem recordKeepalive_follows (session : ProtocolSession) :
    Follows session (session.recordKeepalive clock) ∧ SameOwner session (session.recordKeepalive clock) :=
  ⟨⟨rfl,rfl,rfl,rfl,rfl,rfl⟩,⟨rfl,rfl⟩⟩

theorem markOffline_follows (marked : session.markOffline clock reason = .ok next) :
    Follows session next ∧ SameOwner session next := by
  obtain ⟨_,-,marked⟩ := bind_eq_ok marked
  cases marked
  exact ⟨⟨rfl,rfl,rfl,rfl,rfl,rfl⟩,⟨rfl,rfl⟩⟩

theorem assignOwner_follows (session : ProtocolSession) (clock : UtcTimestamp) (node : NodeId) (epoch : OwnerEpoch) :
    Follows session (session.assignOwner clock node epoch) :=
  ⟨rfl,rfl,rfl,rfl,rfl,rfl⟩

end ProtocolSession

end CheetahSignaling
