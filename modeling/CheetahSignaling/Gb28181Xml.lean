import CheetahSignaling.Gb28181Events
import CheetahSignaling.XmlReader

/-! The MANSCDP payloads: what is read from the element tree of a message and what is written
into the body of one. -/
namespace CheetahSignaling

def AccessError.text : AccessError → String
  | .unknownDomain => "no domain configuration matches the request URI"
  | .unsupportedMethod => "request method is not supported for this endpoint"
  | .unsupportedCmdType cmdType => "unsupported command type: " ++ cmdType
  | .invalidDeviceId => "missing or invalid device identifier"
  | .invalidDomainId => "invalid domain identifier"
  | .invalidContact => "missing or malformed Contact header"
  | .invalidExpires => "missing or malformed Expires value"
  | .authenticationRequired => "authentication required"
  | .authenticationFailed => "authentication failed"
  | .notRegistered => "device is not registered or session has expired"
  | .registrationTableFull => "registration table is full"
  | .invalidXml reason => "malformed or disallowed XML body: " ++ reason
  | .unsupportedContentType contentType => "unsupported content type: " ++ contentType
  | .internal reason => "internal module error: " ++ reason

namespace XmlElement

def child (element : XmlElement) (name : String) : Option XmlElement :=
  element.children.find? fun child => child.name = name

variable (element : XmlElement) (name : String)

def childText : Option String := (element.child name).map fun child => String.ofList (Str.trim child.text.toList)

def requireChildText : Except AccessError String :=
  match element.childText name with
  | some text => if text.isEmpty then .error (.invalidXml ("missing " ++ name)) else .ok text
  | none => .error (.invalidXml ("missing " ++ name))

def leaf (name text : String) : XmlElement := ⟨name,.empty,text,[]⟩

def node (children : List XmlElement) : XmlElement := ⟨name,.empty,"",children⟩

def optional (value : Option String) : List XmlElement := (value.map (leaf name)).toList

end XmlElement

namespace Gb28181

open XmlElement XmlWriter XmlReader

def buildKeepalive (sn deviceId status : String) : Except AccessError String := encodeXml (node "Notify"
    [leaf "CmdType" "Keepalive",leaf "SN" sn,leaf "DeviceID" deviceId,leaf "Status" status]) true

variable (sn deviceId : String) (crates : Crates) (body : ByteArray)

def buildDeviceStatusNotify (online : Bool) : Except AccessError String := encodeXml (node "Notify"
    [leaf "CmdType" "DeviceStatus",leaf "SN" sn,leaf "DeviceID" deviceId,
      leaf "Online" (if online then "ONLINE" else "OFFLINE"),leaf "Status" "OK"]) true

def buildAlarmNotify (priority method alarmType time info : Option String) : Except AccessError String :=
  encodeXml (node "Notify"
    ([leaf "CmdType" "Alarm",leaf "SN" sn,leaf "DeviceID" deviceId] ++ optional "AlarmPriority" priority ++
      optional "AlarmMethod" method ++ optional "AlarmType" alarmType ++ optional "AlarmTime" time ++
      optional "Info" info)) true

def buildMobilePositionNotify
    (time longitude latitude speed direction altitude : Option String) : Except AccessError String :=
  encodeXml (node "Notify"
    ([leaf "CmdType" "MobilePosition",leaf "SN" sn,leaf "DeviceID" deviceId] ++ optional "Time" time ++
      optional "Longitude" longitude ++ optional "Latitude" latitude ++ optional "Speed" speed ++
      optional "Direction" direction ++ optional "Altitude" altitude)) true

def CatalogItem.element (item : CatalogItem) : XmlElement := node "Item"
    (leaf "DeviceID" item.deviceId :: optional "Name" item.name ++ optional "Manufacturer" item.manufacturer ++
      optional "Model" item.model ++ optional "Owner" item.owner ++ optional "CivilCode" item.civilCode ++
      optional "Block" item.block ++ optional "Address" item.address ++ optional "Parental" item.parental ++
      optional "ParentID" item.parentId ++ optional "SafetyWay" item.safetyWay ++
      optional "RegisterWay" item.registerWay ++ optional "CertNum" item.certNum ++
      optional "Certifiable" item.certifiable ++ optional "ErrCode" item.errCode ++
      optional "EndTime" item.endTime ++ optional "Secrecy" item.secrecy ++ optional "IPAddress" item.ipAddress ++
      optional "Port" item.port ++ optional "Status" item.status ++ optional "Longitude" item.longitude ++
      optional "Latitude" item.latitude)

def buildCatalogResponse (sumNum : Nat) (items : List CatalogItem) : Except AccessError String :=
  let list : XmlElement :=
    ⟨"DeviceList",Attributes.empty.insert "Num" (toString items.length),"",items.map CatalogItem.element⟩
  encodeXml (node "Response"
    [leaf "CmdType" "Catalog",leaf "SN" sn,leaf "DeviceID" deviceId,leaf "SumNum" (toString sumNum),list]) true

def expectCmdType (root : XmlElement) (expected : String) : Except AccessError Unit :=
  match root.childText "CmdType" with
  | none => .error (.invalidXml "missing CmdType")
  | some cmdType => if cmdType = expected then .ok () else .error (.unsupportedCmdType cmdType)

def parseKeepaliveResponse : Except AccessError String := do
  let root ← parseXml crates body .default
  if root.name ≠ "Response" then .error (.invalidXml ("expected Response root, got " ++ root.name))
  else do
    expectCmdType root "Keepalive"
    let _ ← root.requireChildText "SN"
    let _ ← root.requireChildText "DeviceID"
    root.requireChildText "Result"

def parseCatalogQuery : Except AccessError (String × String) := do
  let root ← parseXml crates body .default
  if root.name ≠ "Query" then .error (.invalidXml ("expected Query root, got " ++ root.name))
  else do
    expectCmdType root "Catalog"
    let deviceId ← root.requireChildText "DeviceID"
    let sn ← root.requireChildText "SN"
    return (sn,deviceId)

end Gb28181

end CheetahSignaling
