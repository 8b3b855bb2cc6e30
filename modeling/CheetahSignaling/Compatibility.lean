import CheetahSignaling.Types

/-! Compatibility profiles: the deviations from the standard that a device is permitted, and the
bounds on the fields of a profile. -/
namespace CheetahSignaling

def maxFieldBytes : Nat := 512

def refuse (bad : Prop) [Decidable bad] (message : String) : Except DomainError Unit :=
  if bad then .error (.invalidArgument message) else .ok ()

theorem refuse_ok [Decidable bad] : refuse bad message = .ok () ↔ ¬ bad := by
  unfold refuse
  split
  · exact iff_of_false (by simp) (not_not_intro ‹_›)
  · exact iff_of_true rfl ‹_›

def checkLength (name value : String) : Except DomainError Unit :=
  refuse (maxFieldBytes < value.utf8ByteSize) (name ++ " too long")

theorem checkLength_ok : checkLength name value = .ok () ↔ value.utf8ByteSize ≤ maxFieldBytes :=
  refuse_ok.trans Nat.not_lt

inductive CompatibilityCapability where
  | charsetFallback | mimeAlias | contactRportRoute | headerNormalization | catalogCountFragment
  | catalogNotify | alarmSubscription | mobilePosition | gb2016 | configDownload | presetQuery
  | broadcast | mediaStatus | sdpMediaOverride | duplicateRegisterAllowed | strictRealm
  | minimumExpiry | udpRoute | tcpRoute | devicePerPassword
  deriving DecidableEq

inductive BroadcastAddressSource where
  | mediaNode | signalingHost
  deriving DecidableEq

structure SdpMediaOverride where
  (allowedPayloadTypes allowedAttributeNames : List String)
  deriving DecidableEq

structure BroadcastOverride where
  addressSource : BroadcastAddressSource
  deriving DecidableEq

structure MediaStatusOverride where
  stoppedStatusCodes : List String
  deriving DecidableEq

structure CompatibilityOverrides where
  sdp : Option SdpMediaOverride := none
  broadcast : Option BroadcastOverride := none
  mediaStatus : Option MediaStatusOverride := none
  deriving DecidableEq

def maxOverrideEntries : Nat := 64
def maxOverrideEntryBytes : Nat := 64

def validateEntries (field : String) (entries : List String) : Except DomainError Unit := do
  refuse (maxOverrideEntries < entries.length) (field ++ " must not exceed 64 entries")
  for entry in entries do
    refuse entry.isEmpty (field ++ " entries must not be empty")
    refuse (maxOverrideEntryBytes < entry.utf8ByteSize) (field ++ " entry too long")

def CompatibilityOverrides.validate (overrides : CompatibilityOverrides) : Except DomainError Unit := do
  if let some sdp := overrides.sdp then
    validateEntries "sdp.allowed_payload_types" sdp.allowedPayloadTypes
    validateEntries "sdp.allowed_attribute_names" sdp.allowedAttributeNames
  if let some status := overrides.mediaStatus then
    validateEntries "media_status.stopped_status_codes" status.stoppedStatusCodes

structure CompatibilityProfile where
  profileId : Option String := none
  standardVersion : Option String := none
  manufacturer : Option String := none
  model : Option String := none
  firmware : Option String := none
  capabilities : List CompatibilityCapability := []
  evidenceRef : Option String := none
  revision : Nat := 0
  overrides : CompatibilityOverrides := {}
  deriving DecidableEq

namespace CompatibilityProfile

def validate (profile : CompatibilityProfile) : Except DomainError Unit := do
  for (name,value) in [("profile_id",profile.profileId),("standard_version",profile.standardVersion),
      ("manufacturer",profile.manufacturer),("model",profile.model),("firmware",profile.firmware),
      ("evidence_ref",profile.evidenceRef)] do
    if let some text := value then checkLength name text
  refuse (64 < profile.capabilities.length) "compatibility capabilities must not exceed 64"
  profile.overrides.validate

def has (profile : CompatibilityProfile) (capability : CompatibilityCapability) : Bool :=
  profile.capabilities.contains capability

end CompatibilityProfile

end CheetahSignaling
