import CheetahSignaling.Str

/-! Identities, addresses and domain events of the GB28181 module. Of the events only those are
represented that the access machine and the cascade produce or read. -/
namespace CheetahSignaling.Gb28181

def isDeviceId (id : String) : Bool := !id.isEmpty && id.utf8ByteSize ≤ 64 && id.toList.all Char.isDigit

/-- One to 64 ASCII digits. -/
@[ext] structure DeviceId where
  text : String
  valid : isDeviceId text = true
deriving DecidableEq

def DeviceId.new (id : String) : Option DeviceId :=
  if valid : isDeviceId id = true then some ⟨id,valid⟩ else none

inductive IpAddr where
  | v4 (bits : Nat)
  | v6 (bits : Nat)
deriving DecidableEq

structure SocketAddr where
  ip : IpAddr
  port : Nat
deriving DecidableEq

inductive DevicePresence where
  | online
  | offline
deriving DecidableEq

structure CatalogItem where
  deviceId : String
  (name manufacturer model owner civilCode block address parental parentId safetyWay : Option String)
  (registerWay certNum certifiable errCode endTime secrecy ipAddress port status : Option String)
  (longitude latitude : Option String)
deriving DecidableEq

structure RecordItem where
  deviceId : String
  (name filePath startTime endTime secrecy recordType recorderId fileSize : Option String)
deriving DecidableEq

inductive MediaStatusOutcome where
  | stopped
  | unknown
deriving DecidableEq

/-- What an event about a device says, apart from the domain, the device and its address. -/
inductive DeviceReport where
  | registered (contact : String) (expires : Nat) (userAgent : Option String) (registrationSequence : Nat)
  | unregistered
  | presenceChanged (presence : DevicePresence)
  | keepalive (status : String)
  | catalogReceived (sn : String) (sumNum num : Nat) (items : List CatalogItem)
  | deviceInfoReceived (sn : String) (result manufacturer model firmware : Option String)
  | deviceStatusReceived (sn : String) (result online status reason invalidEquip : Option String)
  | alarmReceived (sn : String) (priority method alarmType time info : Option String)
  | mobilePositionReceived (sn : String) (time longitude latitude speed direction altitude : Option String)
  | recordInfoReceived (sn : String) (name : Option String) (sumNum num : Nat) (items : List RecordItem)
  | deviceControlResponseReceived (sn : String) (result : Option String)
  | mediaStatusReceived (sn notifyType : String) (outcome : MediaStatusOutcome)
deriving DecidableEq

inductive Gb28181Event where
  | device (domainId : String) (deviceId : DeviceId) (source : SocketAddr) (report : DeviceReport)
  | cascadePlatformConnected (domainId platformId upstream : String) (expires : Nat)
  | cascadePlatformDisconnected (domainId platformId reason : String)
  | cascadePlayRequested
      (domainId platformId bridgeId upstreamCallId upstreamFrom upstreamTo targetUser remoteSdp : String)
  | cascadePlayStopped (domainId platformId bridgeId reason : String)
deriving DecidableEq

end CheetahSignaling.Gb28181
