import CheetahSignaling.DeviceAggregates
import CheetahSignaling.KeyMap
import Mathlib.Data.List.Sort

/-! `DeviceService` over the tables `devices`, `channels` and the outbox. A call runs in one
transaction: it returns the store it has committed, or an error, which leaves the store as it was.
Of an event the aggregate, its number, the time and the payload are represented. -/
namespace CheetahSignaling.Devices

structure Event where
  tenantId : TenantId
  aggregateRef : ResourceRef
  aggregateSequence : Nat
  occurredAt : UtcTimestamp
  payload : DomainEvent

abbrev ChannelKey := TenantId × DeviceId × ChannelId

structure Store where
  devices : KeyMap DeviceId Device
  channels : KeyMap ChannelKey Channel
  outbox : List Event

def Store.empty : Store := ⟨∅,∅,[]⟩

inductive SignalError where
  | domain (error : DomainError)
  | invalidArgument (text : String)
  | failedPrecondition (text : String)

def domain (x : Except DomainError α) : Except SignalError α := x.mapError .domain

/-! Repositories. The key of a device is its id alone; a retired device is marked deleted. -/

variable (s : Store) (tenantId : TenantId) (deviceId : DeviceId) (channel : Channel)

def getDevice : Option Device :=
  (s.devices.lookup deviceId).filter fun device => device.tenantId = tenantId && device.lifecycle ≠ .retired

def getByExternalId (protocol : Protocol) (externalId : String) : Option Device :=
  (s.devices.entries.map (·.2)).find? fun device =>
    device.tenantId = tenantId && device.protocol = protocol && device.externalId = externalId &&
      device.lifecycle ≠ .retired

def checkRevision (stored : Option Nat) (revision : Nat) : Except SignalError Unit :=
  match stored with
  | none => .ok ()
  | some found =>
    if found + 1 = revision then .ok () else .error (.domain (.concurrentModification (revision - 1) found))

def saveDevice (device : Device) (s : Store) : Except SignalError Store := do
  checkRevision ((s.devices.lookup device.deviceId).map (·.revision)) device.revision
  .ok { s with devices := s.devices.insert device.deviceId device }

def Channel.key : ChannelKey := (channel.tenantId,channel.deviceId,channel.channelId)

def saveChannel (s : Store) : Except SignalError Store := do
  checkRevision ((s.channels.lookup channel.key).map (·.revision)) channel.revision
  .ok { s with channels := s.channels.insert channel.key channel }

def removeChannel (key : ChannelKey) (expected : Nat) (s : Store) : Except SignalError Store :=
  match s.channels.lookup key with
  | none => .error (.domain (.concurrentModification expected 0))
  | some channel =>
    if channel.revision = expected then .ok { s with channels := s.channels.erase key }
    else .error (.domain (.concurrentModification expected channel.revision))

def listByDevice : List Channel :=
  ((s.channels.entries.map (·.2)).filter fun channel => channel.tenantId = tenantId && channel.deviceId = deviceId).insertionSort
    fun a b => a.channelId ≤ b.channelId

def append (event : Event) (s : Store) : Store := { s with outbox := s.outbox ++ [event] }

/-! Requests -/

structure RegisterDeviceRequest where
  (protocol externalId : String)
  authority : Option String
  (name kind : String)
  capabilities : Option (List Capability)
  metadata : Option Metadata

structure ChannelDescriptor where
  id : Option String
  (name kind : String)
  enabled : Bool
  status : Option String
  streamProfiles : List StreamProfile
  ptzCapabilities : Option PtzCapabilities
  metadata : Option Metadata

/-- A UUID is read by the parser of its type. -/
structure Ports where
  parseChannelId : String → Except SignalError ChannelId

def deviceResourceRef : ResourceRef := ⟨tenantId,.device,deviceId⟩

/-- The device plays no part in the reference of a channel. -/
def channelResourceRef (_deviceId : DeviceId) (channelId : ChannelId) : ResourceRef := ⟨tenantId,.channel,channelId⟩

def convertAll (f : α → Except ε β) : List α → Except ε (List β)
  | [] => .ok []
  | a :: rest => do
    let b ← f a
    let converted ← convertAll f rest
    .ok (b :: converted)

def convertSome (f : α → Except ε β) : Option α → Except ε (Option β)
  | none => .ok none
  | some a => do
    let b ← f a
    .ok (some b)

def protocolIdentity (value : String) : Except SignalError String :=
  if value = "" then .error (.invalidArgument "protocol identity must not be empty")
  else if value.utf8ByteSize > 256 then .error (.invalidArgument "protocol identity exceeds 256 bytes")
  else if value.toList.contains '\x00' then .error (.invalidArgument "protocol identity must not contain NUL")
  else .ok value

section Service

variable (now : UtcTimestamp) (tenantId : TenantId)

def commitDevice (changed : Device × DomainEvent) (s : Store) : Except SignalError (Device × Store) := do
  let saved ← saveDevice changed.1 s
  .ok (changed.1,append ⟨tenantId,deviceResourceRef tenantId changed.1.deviceId,changed.1.revision,now,changed.2⟩ saved)

section

variable (deviceId : DeviceId)

variable (generated : DeviceId) (request : RegisterDeviceRequest) (s : Store)

def findDevice : Except SignalError Device :=
  match getDevice s tenantId deviceId with
  | some device => .ok device
  | none => .error (.domain (.notFound "device" deviceId))

def registered (protocol : Protocol) (kind : DeviceKind)
    (externalId : String) (capabilities : List Capability) (s : Store) : Except SignalError ((Device × DomainEvent) × Bool) :=
  let authority := request.authority.getD ""
  let metadata := request.metadata.getD []
  match getByExternalId s tenantId protocol externalId with
  | some existing => do
    let changed ← domain (existing.update now
      ⟨some request.name,some kind,some protocol,some externalId,some authority,some capabilities,some metadata⟩)
    .ok (changed,false)
  | none => do
    let created ← domain (Device.new now tenantId generated protocol externalId authority request.name
      kind capabilities metadata)
    .ok (created,true)

def registerOrUpdateDevice : Except SignalError ((Device × Bool) × Store) := do
  let protocol ← domain (Protocol.fromStr request.protocol)
  let kind ← domain (DeviceKind.fromStr request.kind)
  let externalId ← protocolIdentity request.externalId
  let capabilities ← domain (convertAll Capability.tryFrom (request.capabilities.getD []))
  let found ← registered now tenantId generated request protocol kind externalId capabilities s
  let result ← commitDevice now tenantId found.1 s
  .ok ((result.1,found.2),result.2)

def markDeviceOnline (reason : Option String) (s : Store) : Except SignalError (Device × Store) := do
  let device ← findDevice tenantId deviceId s
  let changed ← domain (device.markOnline now reason)
  commitDevice now tenantId changed s

def markDeviceOffline (reason : String) (s : Store) : Except SignalError (Device × Store) := do
  let device ← findDevice tenantId deviceId s
  let changed ← domain (device.markOffline now reason)
  commitDevice now tenantId changed s

def updateDeviceCapabilities (expectedRevision : Nat) (capabilities : Option (List Capability))
    (metadata : Option Metadata) (s : Store) : Except SignalError (Device × Store) := do
  let device ← findDevice tenantId deviceId s
  if device.revision ≠ expectedRevision then
    .error (.failedPrecondition s!"device revision mismatch: If-Match {expectedRevision}, current {device.revision}")
  else do
    let converted ← domain (convertSome (convertAll Capability.tryFrom) capabilities)
    let changed ← domain (device.update now { capabilities := converted, metadata })
    commitDevice now tenantId changed s

def retireDevice : Except SignalError (Device × Store) := do
  let device ← findDevice tenantId deviceId s
  let changed ← domain (device.retire now)
  commitDevice now tenantId changed s

end

variable (deviceId : DeviceId)

/-- The event of a removed channel has the revision of its last change. -/
def removeMissing (incoming : List ChannelId) : List Channel → Store → Except SignalError Store
  | [], s => .ok s
  | channel :: rest, s =>
    if channel.channelId ∈ incoming then removeMissing incoming rest s
    else do
      let announced :=
        append ⟨tenantId,channelResourceRef tenantId deviceId channel.channelId,channel.revision,now,channel.remove⟩ s
      let removed ← removeChannel (tenantId,deviceId,channel.channelId) channel.revision announced
      removeMissing incoming rest removed

def described (channelId : ChannelId) (given : ChannelStatus → ChannelFields) (status : Option ChannelStatus) (s : Store) :
    Except DomainError (Channel × DomainEvent) :=
  match s.channels.lookup (tenantId,deviceId,channelId) with
  | some existing => existing.update now given status
  | none => Channel.new now tenantId deviceId channelId given status

def descriptorId (ports : Ports) (generated : ChannelId) : Option String → Except SignalError ChannelId
  | some id => ports.parseChannelId id
  | none => .ok generated

def applyDescriptor (ports : Ports) (generated : ChannelId) (descriptor : ChannelDescriptor) (s : Store) :
    Except SignalError Store := do
  let channelId ← descriptorId ports generated descriptor.id
  let kind ← domain (ChannelKind.fromStr descriptor.kind)
  let status ← domain (convertSome ChannelStatus.fromStr descriptor.status)
  domain (checkAll StreamProfile.validate descriptor.streamProfiles)
  let given (status : ChannelStatus) : ChannelFields :=
    ⟨kind,descriptor.name,descriptor.enabled,status,descriptor.streamProfiles,
      descriptor.ptzCapabilities.getD ⟨false,false,false,false,false,false⟩,descriptor.metadata.getD []⟩
  let changed ← domain (described now tenantId deviceId channelId given status s)
  let saved ← saveChannel changed.1 s
  .ok (append
    ⟨tenantId,channelResourceRef tenantId deviceId changed.1.channelId,changed.1.revision,now,changed.2⟩ saved)

def applyDescriptors (ports : Ports) : List (ChannelDescriptor × ChannelId) → Store → Except SignalError Store
  | [], s => .ok s
  | (descriptor,generated) :: rest, s => do
    let next ← applyDescriptor now tenantId deviceId ports generated descriptor s
    applyDescriptors ports rest next

def replaceChannelCatalog (ports : Ports) (channels : List (ChannelDescriptor × ChannelId)) (s : Store) :
    Except SignalError (Device × Store) := do
  let device ← findDevice tenantId deviceId s
  if device.lifecycle = .retired then
    .error (.domain (.invalidTransition "Device" "Retired" "replace_channel_catalog"))
  else if channels.length > 1024 then
    .error (.domain (.invalidArgument "channel catalog exceeds maximum allowed channels"))
  else do
    let incoming ← convertAll ports.parseChannelId (channels.filterMap (·.1.id))
    let remaining ← removeMissing now tenantId deviceId incoming (listByDevice s tenantId deviceId) s
    let described ← applyDescriptors now tenantId deviceId ports channels remaining
    commitDevice now tenantId (device.touch now) described

end Service

/-! Calls one after the other -/

inductive Call where
  | registerOrUpdateDevice (generated : DeviceId) (request : RegisterDeviceRequest)
  | markDeviceOnline (deviceId : DeviceId) (reason : Option String)
  | markDeviceOffline (deviceId : DeviceId) (reason : String)
  | replaceChannelCatalog (deviceId : DeviceId) (channels : List (ChannelDescriptor × ChannelId))
  | updateDeviceCapabilities (deviceId : DeviceId) (expectedRevision : Nat) (capabilities : Option (List Capability))
      (metadata : Option Metadata)
  | retireDevice (deviceId : DeviceId)

/-- A call with the tenant of its context and its clock reading. -/
structure Request where
  now : UtcTimestamp
  tenantId : TenantId
  call : Call

def committed (ports : Ports) (s : Store) (r : Request) : Except SignalError Store :=
  match r.call with
  | .registerOrUpdateDevice generated request => (registerOrUpdateDevice r.now r.tenantId generated request s).map Prod.snd
  | .markDeviceOnline deviceId reason => (markDeviceOnline r.now r.tenantId deviceId reason s).map Prod.snd
  | .markDeviceOffline deviceId reason => (markDeviceOffline r.now r.tenantId deviceId reason s).map Prod.snd
  | .replaceChannelCatalog deviceId channels =>
    (replaceChannelCatalog r.now r.tenantId deviceId ports channels s).map Prod.snd
  | .updateDeviceCapabilities deviceId expectedRevision capabilities metadata =>
    (updateDeviceCapabilities r.now r.tenantId deviceId expectedRevision capabilities metadata s).map Prod.snd
  | .retireDevice deviceId => (retireDevice r.now r.tenantId deviceId s).map Prod.snd

def step (ports : Ports) (s : Store) (r : Request) : Store :=
  match committed ports s r with
  | .ok next => next
  | .error _ => s

end CheetahSignaling.Devices
