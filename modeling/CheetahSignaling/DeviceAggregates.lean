import CheetahSignaling.DomainTypes
import CheetahSignaling.Str

/-! The aggregates `Device` and `Channel` with their events. A DTO has the fields of the value it is
converted to; lengths are in bytes, and a map is the list of its entries. -/
namespace CheetahSignaling.Devices

def truncateForError (s : String) : String := String.ofList (s.toList.take 64)

/-- The names of an enumeration are read without regard to ASCII case. -/
def parseName (table : List (String × α)) (what s : String) : Except DomainError α :=
  match table.find? fun row => Str.eqIgnoreAsciiCase s.toList row.1.toList with
  | some row => .ok row.2
  | none => .error (.invalidArgument ("unknown " ++ what ++ ": " ++ truncateForError s))

def check (ok : Bool) (message : String) : Except DomainError Unit :=
  if ok then .ok () else .error (.invalidArgument message)

def checkAll (f : α → Except DomainError Unit) : List α → Except DomainError Unit
  | [] => .ok ()
  | a :: rest => do
    f a
    checkAll f rest

def checkSome (f : α → Except DomainError Unit) : Option α → Except DomainError Unit
  | none => .ok ()
  | some a => f a

inductive DeviceKind where
  | unknown | camera | nvr | dvr | encoder | iot | platform
  deriving DecidableEq

def DeviceKind.fromStr : String → Except DomainError DeviceKind :=
  parseName [("camera",.camera),("nvr",.nvr),("dvr",.dvr),("encoder",.encoder),("iot",.iot),("platform",.platform)]
    "device kind"

inductive Protocol where
  | unknown | gb28181 | onvif | plugin | mqtt | jt808 | isup | homekit | matter
  deriving DecidableEq

def Protocol.fromStr : String → Except DomainError Protocol :=
  parseName [("gb28181",.gb28181),("onvif",.onvif),("plugin",.plugin),("mqtt",.mqtt),("jt808",.jt808),("isup",.isup),
    ("homekit",.homekit),("matter",.matter)] "protocol"

inductive DeviceLifecycle where
  | provisioning | active | suspended | retired
  deriving DecidableEq

inductive Connectivity where
  | unknown | online
  | offline (since : UtcTimestamp) (reason : String)

def Connectivity.offlineReason : Connectivity → Option String
  | .offline _ reason => some reason
  | _ => none

inductive CapabilityValue where
  | string (value : String)
  | stringList (values : List String)
  | bool (value : Bool)
  | int (value : Int)

def CapabilityValue.validate : CapabilityValue → Except DomainError Unit
  | .string value => check (value.utf8ByteSize ≤ 1024) "capability string value too long"
  | .stringList values => do
    check (values.length ≤ 64) "capability string list too long"
    checkAll (fun value => check (value.utf8ByteSize ≤ 256) "capability string list item too long") values
  | _ => .ok ()

structure Capability where
  key : String
  value : CapabilityValue

def Capability.tryFrom (dto : Capability) : Except DomainError Capability := do
  dto.value.validate
  check (dto.key ≠ "" && dto.key.utf8ByteSize ≤ 128) "invalid capability key"
  .ok dto

/-- The loop over the capabilities with the keys seen so far. -/
def checkCapabilities (seen : List String) : List Capability → Except DomainError Unit
  | [] => .ok ()
  | capability :: rest => do
    check (capability.key ∉ seen) "duplicate capability key"
    check (capability.key ≠ "" && capability.key.utf8ByteSize ≤ 128) "capability key invalid"
    capability.value.validate
    checkCapabilities (capability.key :: seen) rest

def validateCapabilities (capabilities : List Capability) : Except DomainError Unit := do
  check (capabilities.length ≤ 256) "too many capabilities"
  checkCapabilities [] capabilities

abbrev Metadata := List (String × String)

def validateMetadata (metadata : Metadata) : Except DomainError Unit := do
  check (metadata.length ≤ 64) "too many metadata entries"
  checkAll (fun (key,value) => do
    check (key ≠ "" && key.utf8ByteSize ≤ 128) "metadata key invalid"
    check (value.utf8ByteSize ≤ 4096) "metadata value too long") metadata

def checkName (name : String) : Except DomainError Unit :=
  check (name ≠ "" && name.utf8ByteSize ≤ 1024) "name must not be empty and must not exceed 1024 bytes"

structure DeviceFields where
  protocol : Protocol
  (externalId authority name : String)
  kind : DeviceKind
  lifecycle : DeviceLifecycle
  connectivity : Connectivity
  ownerEpoch : OwnerEpoch
  capabilities : List Capability
  metadata : Metadata

structure Device extends DeviceFields where
  tenantId : TenantId
  deviceId : DeviceId
  (createdAt updatedAt : UtcTimestamp)
  revision : Nat

inductive ChannelKind where
  | unknown | video | audio | ptz | organization | event | io | composite

def ChannelKind.fromStr : String → Except DomainError ChannelKind :=
  parseName [("video",.video),("audio",.audio),("ptz",.ptz),("organization",.organization),("event",.event),("io",.io),
    ("composite",.composite)] "channel kind"

inductive ChannelStatus where
  | unknown | online | offline | fault

def ChannelStatus.fromStr : String → Except DomainError ChannelStatus :=
  parseName [("online",.online),("offline",.offline),("fault",.fault)] "channel status"

structure StreamProfile where
  (encoding resolution : String)
  (frameRate bitrate : Nat)

def StreamProfile.validate (profile : StreamProfile) : Except DomainError Unit := do
  check (profile.encoding ≠ "" && profile.encoding.utf8ByteSize ≤ 256)
    "encoding must not be empty and must not exceed 256 bytes"
  check (profile.resolution ≠ "" && profile.resolution.utf8ByteSize ≤ 256)
    "resolution must not be empty and must not exceed 256 bytes"
  check (profile.frameRate ≠ 0) "frame_rate must be > 0"
  check (profile.bitrate ≠ 0) "bitrate must be > 0"

def validateStreamProfiles (profiles : List StreamProfile) : Except DomainError Unit := do
  check (profiles.length ≤ 16) "too many stream profiles"
  checkAll StreamProfile.validate profiles

structure PtzCapabilities where
  (pan tilt zoom preset focus iris : Bool)

structure ChannelFields where
  kind : ChannelKind
  name : String
  enabled : Bool
  status : ChannelStatus
  streamProfiles : List StreamProfile
  ptzCapabilities : PtzCapabilities
  metadata : Metadata

structure Channel extends ChannelFields where
  tenantId : TenantId
  deviceId : DeviceId
  channelId : ChannelId
  (createdAt updatedAt : UtcTimestamp)
  revision : Nat

inductive DomainEvent where
  | deviceRegistered (tenantId : TenantId) (deviceId : DeviceId) (fields : DeviceFields) (createdAt : UtcTimestamp)
  | deviceUpdated (tenantId : TenantId) (deviceId : DeviceId) (fields : DeviceFields) (updatedAt : UtcTimestamp)
  | deviceOnlineChanged (tenantId : TenantId) (deviceId : DeviceId) (connectivity : Connectivity)
      (lifecycle : DeviceLifecycle) (reason : Option String)
  | deviceLifecycleChanged (tenantId : TenantId) (deviceId : DeviceId) (previousLifecycle lifecycle : DeviceLifecycle)
      (connectivity : Connectivity)
  | channelCreated (tenantId : TenantId) (deviceId : DeviceId) (channelId : ChannelId) (fields : ChannelFields)
      (createdAt : UtcTimestamp)
  | channelUpdated (tenantId : TenantId) (deviceId : DeviceId) (channelId : ChannelId) (fields : ChannelFields)
      (updatedAt : UtcTimestamp)
  | channelRemoved (tenantId : TenantId) (deviceId : DeviceId) (channelId : ChannelId)

namespace Device

section

variable (now : UtcTimestamp) (device : Device)

def new (tenantId : TenantId) (deviceId : DeviceId) (protocol : Protocol) (externalId authority name : String)
    (kind : DeviceKind) (capabilities : List Capability) (metadata : Metadata) :
    Except DomainError (Device × DomainEvent) := do
  check (deviceId ≠ 0) "device_id must not be nil"
  check (protocol ≠ .unknown) "protocol must be known"
  check (externalId ≠ "") "external_id must not be empty"
  checkName name
  check (authority.utf8ByteSize ≤ 256) "authority must not exceed 256 bytes"
  check (kind ≠ .unknown) "device kind must be known"
  validateCapabilities capabilities
  validateMetadata metadata
  let fields : DeviceFields :=
    { protocol, externalId, authority, name, kind, lifecycle := .provisioning, connectivity := .unknown,
      ownerEpoch := 0, capabilities, metadata }
  .ok ({ fields with tenantId, deviceId, createdAt := now, updatedAt := now, revision := 0 },
    .deviceRegistered tenantId deviceId fields now)

def guardNotRetired : Except DomainError Unit :=
  if device.lifecycle = .retired then .error (.invalidTransition "Device" "Retired" "mutating") else .ok ()

def bump : Device := { device with updatedAt := now, revision := device.revision + 1 }

def updatedEvent : DomainEvent := .deviceUpdated device.tenantId device.deviceId device.toDeviceFields device.updatedAt

structure Changes where
  name : Option String := none
  kind : Option DeviceKind := none
  protocol : Option Protocol := none
  externalId : Option String := none
  authority : Option String := none
  capabilities : Option (List Capability) := none
  metadata : Option Metadata := none

def update (changes : Changes) (device : Device) : Except DomainError (Device × DomainEvent) := do
  device.guardNotRetired
  checkSome checkName changes.name
  checkSome (fun kind => check (kind ≠ .unknown) "device kind must be known") changes.kind
  checkSome (fun protocol => check (protocol ≠ .unknown) "protocol must be known") changes.protocol
  checkSome (fun externalId => check (externalId ≠ "") "external_id must not be empty") changes.externalId
  checkSome (fun authority => check (authority.utf8ByteSize ≤ 256) "authority must not exceed 256 bytes") changes.authority
  checkSome validateCapabilities changes.capabilities
  checkSome validateMetadata changes.metadata
  let changed := bump now
      { device with
        name := changes.name.getD device.name, kind := changes.kind.getD device.kind
        protocol := changes.protocol.getD device.protocol, externalId := changes.externalId.getD device.externalId
        authority := changes.authority.getD device.authority
        capabilities := changes.capabilities.getD device.capabilities
        metadata := changes.metadata.getD device.metadata }
  .ok (changed,changed.updatedEvent)

def markOnline (reason : Option String) (device : Device) : Except DomainError (Device × DomainEvent) := do
  device.guardNotRetired
  checkSome (fun reason => check (reason.utf8ByteSize ≤ 1024) "reason must not exceed 1024 bytes") reason
  let changed := bump now
      { device with
        lifecycle := if device.lifecycle = .provisioning then .active else device.lifecycle
        connectivity := .online }
  .ok (changed,.deviceOnlineChanged changed.tenantId changed.deviceId changed.connectivity changed.lifecycle reason)

def markOffline (reason : String) (device : Device) : Except DomainError (Device × DomainEvent) := do
  device.guardNotRetired
  check (reason.utf8ByteSize ≤ 1024) "reason must not exceed 1024 bytes"
  let changed := bump now { device with connectivity := .offline now reason }
  .ok (changed,.deviceOnlineChanged changed.tenantId changed.deviceId changed.connectivity changed.lifecycle
    changed.connectivity.offlineReason)

def suspend : Except DomainError (Device × DomainEvent) := do
  device.guardNotRetired
  let connectivity := match device.connectivity with
    | .online => .offline now "suspended"
    | other => other
  let changed := bump now { device with lifecycle := .suspended, connectivity }
  .ok (changed,.deviceLifecycleChanged changed.tenantId changed.deviceId device.lifecycle changed.lifecycle
    changed.connectivity)

def activate : Except DomainError (Device × DomainEvent) := do
  device.guardNotRetired
  let changed := bump now { device with lifecycle := .active }
  .ok (changed,.deviceLifecycleChanged changed.tenantId changed.deviceId device.lifecycle changed.lifecycle
    changed.connectivity)

def retire : Except DomainError (Device × DomainEvent) := do
  device.guardNotRetired
  let changed := bump now { device with lifecycle := .retired, connectivity := .offline now "retired" }
  .ok (changed,.deviceLifecycleChanged changed.tenantId changed.deviceId device.lifecycle changed.lifecycle
    changed.connectivity)

def touch : Device × DomainEvent :=
  let changed := bump now device
  (changed,changed.updatedEvent)

end

end Device

namespace Channel

def new (now : UtcTimestamp) (tenantId : TenantId) (deviceId : DeviceId) (channelId : ChannelId)
    (given : ChannelStatus → ChannelFields) (status : Option ChannelStatus) : Except DomainError (Channel × DomainEvent) := do
  let fields := given (status.getD .unknown)
  check (channelId ≠ 0) "channel_id must not be nil"
  checkName fields.name
  validateStreamProfiles fields.streamProfiles
  validateMetadata fields.metadata
  .ok ({ fields with tenantId, deviceId, channelId, createdAt := now, updatedAt := now, revision := 0 },
    .channelCreated tenantId deviceId channelId fields now)

def update (now : UtcTimestamp) (given : ChannelStatus → ChannelFields) (status : Option ChannelStatus) (channel : Channel) :
    Except DomainError (Channel × DomainEvent) := do
  let fields := given (status.getD channel.status)
  checkName fields.name
  validateStreamProfiles fields.streamProfiles
  validateMetadata fields.metadata
  .ok ({ channel with toChannelFields := fields, updatedAt := now, revision := channel.revision + 1 },
    .channelUpdated channel.tenantId channel.deviceId channel.channelId fields now)

def remove (channel : Channel) : DomainEvent := .channelRemoved channel.tenantId channel.deviceId channel.channelId

end Channel

end CheetahSignaling.Devices
