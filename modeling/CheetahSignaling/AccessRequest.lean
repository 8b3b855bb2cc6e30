import CheetahSignaling.Compatibility
import CheetahSignaling.Gb28181Xml
import CheetahSignaling.Sip

/-! What the access machine reads from a REGISTER and from a MESSAGE. -/
namespace CheetahSignaling.Gb28181.Access

open Str

/-- The text between the first `<` and the first `>`, which must be in this order. -/
def bracketed (before behind : List Char) : Option (List Char × List Char) :=
  if contains ['>'] before then none else splitOnce ['>'] behind

def deviceFromUri (text : List Char) : Option DeviceId :=
  match SipUri.parse (String.ofList text) with
  | .ok uri => (uri.user.filter fun user => !user.isEmpty).bind DeviceId.new
  | .error _ => none

def deviceFromAddress (value : String) : Option DeviceId :=
  let value := trim value.toList
  match splitOnce ['<'] value with
  | some (before,behind) => (bracketed before behind).bind fun (uri,_) => deviceFromUri uri
  | none => deviceFromUri (value.takeWhile (· ≠ ';'))

/-- The Request-URI comes first, then To, then From. -/
def deviceIdFromRequest (line : RequestLine) (headers : SipHeaders) : Option DeviceId :=
  (((line.uri.user.filter fun user => !user.isEmpty).bind DeviceId.new).or
    ((headers.get .to).bind deviceFromAddress)).or ((headers.get .from).bind deviceFromAddress)

/-- The last of the `expires` parameters. -/
def expiresParameter : List (List Char) → Option Nat → Except AccessError (Option Nat)
  | [], expires => .ok expires
  | token :: rest, expires =>
    match stripLeading "expires=".toList (trim token) with
    | none => expiresParameter rest expires
    | some value =>
      match parseUnsigned (2 ^ 32) (trim value) with
      | some seconds => expiresParameter rest (some seconds)
      | none => .error .invalidExpires

def parseAddressWithExpires (value : String) : Except AccessError (SipUri × Option Nat) := do
  let value := trim value.toList
  let (uriText,params) ← match splitOnce ['<'] value with
    | some (before,behind) =>
      match bracketed before behind with
      | some (uri,after) => .ok (uri,trim after)
      | none => .error AccessError.invalidContact
    | none => .ok (trim (value.takeWhile (· ≠ ';')),(value.dropWhile (· ≠ ';')).drop 1)
  let uri ← (SipUri.parse (String.ofList uriText)).mapError fun _ => AccessError.invalidContact
  let expires ← expiresParameter (split ';' params) none
  return (uri,expires)

def parseContactHeader (headers : SipHeaders) : Except AccessError (SipUri × Option Nat) :=
  match headers.get .contact with
  | some value => parseAddressWithExpires value
  | none => .error .invalidContact

def parseExpiresHeader (headers : SipHeaders) : Except AccessError (Option Nat) :=
  match headers.get .expires with
  | none => .ok none
  | some value =>
    match parseUnsigned (2 ^ 32) (trim value.toList) with
    | some seconds => .ok (some seconds)
    | none => .error .invalidExpires

inductive ContentType where
  | manscdp
  | mansrtsp
deriving DecidableEq

def isOneOf (names : List String) (value : List Char) : Bool :=
  names.any fun name => eqIgnoreAsciiCase value name.toList

/-- Vendor names count only with the `MimeAlias` capability. -/
def resolveVendorContentType (raw : Option String) (profile : CompatibilityProfile) : Except AccessError ContentType :=
  let raw := trim (raw.getD "application/manscdp+xml").toList
  if raw = [] then .ok .manscdp
  else
    let withoutParams := trim (raw.takeWhile (· ≠ ';'))
    let refused : Except AccessError ContentType :=
      .error (.unsupportedContentType (String.ofList (withoutParams.take 64)))
    if 256 < (String.ofList withoutParams).utf8ByteSize then refused
    else if isOneOf ["application/manscdp+xml","application/xml","text/xml"] withoutParams then .ok .manscdp
    else if isOneOf ["application/mansrtsp+xml"] withoutParams then .ok .mansrtsp
    else if !profile.has .mimeAlias then refused
    else if isOneOf ["application/kslp+xml","application/ksdu+xml","application/kssp+xml","application/klcp+xml"]
        withoutParams then .ok .manscdp
    else if isOneOf ["application/ksptz+xml"] withoutParams then .ok .mansrtsp
    else refused

/-! The extractions share the check of `CmdType` and of the fields `SN` and `DeviceID`. -/
section Extract

variable (root : XmlElement)

def extractHead (cmdType : String) : Except AccessError String := do
  expectCmdType root cmdType
  let sn ← root.requireChildText "SN"
  let _ ← root.requireChildText "DeviceID"
  return sn

def extractKeepalive : Except AccessError DeviceReport := do
  let _ ← extractHead root "Keepalive"
  return .keepalive (← root.requireChildText "Status")

def parseU32 (value : String) : Except AccessError Nat :=
  match parseUnsigned (2 ^ 32) (trim value.toList) with
  | some n => .ok n
  | none => .error (.invalidXml ("invalid numeric value: " ++ value))

/-- The item elements of a list; those without a `DeviceID` are dropped. -/
def parseItems (parse : String → XmlElement → α) (list : XmlElement) : List α :=
  (list.children.filter fun child => child.name = "Item").filterMap fun item =>
    ((item.childText "DeviceID").filter fun id => !id.isEmpty).map fun id => parse id item

def parseCatalogItem (deviceId : String) (item : XmlElement) : CatalogItem where
  deviceId := deviceId
  name := item.childText "Name"
  manufacturer := item.childText "Manufacturer"
  model := item.childText "Model"
  owner := item.childText "Owner"
  civilCode := item.childText "CivilCode"
  block := item.childText "Block"
  address := item.childText "Address"
  parental := item.childText "Parental"
  parentId := item.childText "ParentID"
  safetyWay := item.childText "SafetyWay"
  registerWay := item.childText "RegisterWay"
  certNum := item.childText "CertNum"
  certifiable := item.childText "Certifiable"
  errCode := item.childText "ErrCode"
  endTime := item.childText "EndTime"
  secrecy := item.childText "Secrecy"
  ipAddress := item.childText "IPAddress"
  port := item.childText "Port"
  status := item.childText "Status"
  longitude := item.childText "Longitude"
  latitude := item.childText "Latitude"

section

variable (profile : CompatibilityProfile)

def catalogNum (list : XmlElement) (sumNum parsed : Nat) : Except AccessError Nat :=
  match (list.attributes.get "Num").bind fun value => (parseU32 value).toOption with
  | none => .ok parsed
  | some declared =>
    let present := (list.children.filter fun child => child.name = "Item").length
    if profile.has .catalogCountFragment then .ok declared
    else if declared ≠ present then
      .error (.invalidXml ("Catalog Num " ++ toString declared ++ " does not match item element count " ++
        toString present))
    else if 0 < sumNum ∧ sumNum < declared then
      .error (.invalidXml ("Catalog Num " ++ toString declared ++ " exceeds SumNum " ++ toString sumNum))
    else .ok declared

def extractCatalogWithProfile : Except AccessError DeviceReport := do
  expectCmdType root "Catalog"
  if root.name ≠ "Response" ∧ !(profile.has .catalogNotify && root.name == "Notify") then
    .error (.invalidXml ("unexpected Catalog root element: " ++ root.name))
  else
    match root.child "DeviceList" with
    | none => .error (.invalidXml "missing DeviceList")
    | some list => do
      let sn ← root.requireChildText "SN"
      let _ ← root.requireChildText "DeviceID"
      let sumNum ← parseU32 (← root.requireChildText "SumNum")
      let items := parseItems parseCatalogItem list
      let num ← catalogNum profile list sumNum items.length
      return .catalogReceived sn sumNum num items

def extractDeviceInfo : Except AccessError DeviceReport := do
  let sn ← extractHead root "DeviceInfo"
  return .deviceInfoReceived sn (root.childText "Result") (root.childText "Manufacturer") (root.childText "Model")
    (root.childText "Firmware")

def extractDeviceStatus : Except AccessError DeviceReport := do
  let sn ← extractHead root "DeviceStatus"
  return .deviceStatusReceived sn (root.childText "Result") (root.childText "Online") (root.childText "Status")
    (root.childText "Reason") (root.childText "InvalidEquip")

def extractAlarm : Except AccessError DeviceReport := do
  let sn ← extractHead root "Alarm"
  return .alarmReceived sn (root.childText "AlarmPriority") (root.childText "AlarmMethod") (root.childText "AlarmType")
    (root.childText "AlarmTime") (root.childText "Info")

def extractMobilePosition : Except AccessError DeviceReport := do
  let sn ← extractHead root "MobilePosition"
  return .mobilePositionReceived sn (root.childText "Time") (root.childText "Longitude") (root.childText "Latitude")
    (root.childText "Speed") (root.childText "Direction") (root.childText "Altitude")

def parseRecordItem (deviceId : String) (item : XmlElement) : RecordItem where
  deviceId := deviceId
  name := item.childText "Name"
  filePath := item.childText "FilePath"
  startTime := item.childText "StartTime"
  endTime := item.childText "EndTime"
  secrecy := item.childText "Secrecy"
  recordType := item.childText "Type"
  recorderId := item.childText "RecorderID"
  fileSize := item.childText "FileSize"

def extractRecordInfo : Except AccessError DeviceReport := do
  expectCmdType root "RecordInfo"
  match root.child "RecordList" with
  | none => .error (.invalidXml "missing RecordList")
  | some list => do
    let sn ← root.requireChildText "SN"
    let _ ← root.requireChildText "DeviceID"
    let sumNum ← parseU32 (← root.requireChildText "SumNum")
    let items := parseItems parseRecordItem list
    return .recordInfoReceived sn (root.childText "Name") sumNum items.length items

def extractDeviceControlResponse : Except AccessError DeviceReport := do
  let sn ← extractHead root "DeviceControl"
  return .deviceControlResponseReceived sn (root.childText "Result")

def mediaStatusOutcome (notifyType : String) : MediaStatusOutcome :=
  if !profile.has .mediaStatus then .unknown
  else
    let notifyType := String.ofList (trim notifyType.toList)
    if notifyType = "121" ∨ profile.overrides.mediaStatus.any fun o => o.stoppedStatusCodes.contains notifyType then
      .stopped
    else .unknown

def extractMediaStatus : Except AccessError DeviceReport := do
  let sn ← extractHead root "MediaStatus"
  let notifyType ← root.requireChildText "NotifyType"
  return .mediaStatusReceived sn notifyType (mediaStatusOutcome profile notifyType)

def extractReport (cmdType : String) : Except AccessError DeviceReport :=
  match cmdType with
  | "Keepalive" => extractKeepalive root
  | "Catalog" => extractCatalogWithProfile root profile
  | "DeviceInfo" => extractDeviceInfo root
  | "DeviceStatus" => extractDeviceStatus root
  | "Alarm" => extractAlarm root
  | "MobilePosition" => extractMobilePosition root
  | "RecordInfo" => extractRecordInfo root
  | "DeviceControl" => extractDeviceControlResponse root
  | "MediaStatus" =>
    if profile.has .mediaStatus then extractMediaStatus root profile else .error (.unsupportedCmdType cmdType)
  | other => .error (.unsupportedCmdType other)

end

end Extract

def readMessage (crates : XmlReader.Crates) (profile : CompatibilityProfile) (headers : SipHeaders)
    (body : ByteArray) : Except AccessError (DeviceId × DeviceReport) := do
  let contentType ← resolveVendorContentType (headers.get .contentType) profile
  if contentType = .mansrtsp then .error (.unsupportedContentType "MANSRTSP not accepted on MESSAGE")
  else
    match (headers.get .from).bind deviceFromAddress with
    | none => .error .invalidDeviceId
    | some sender => do
      let root ← XmlReader.parseXmlWithProfile crates body .default (profile.has .charsetFallback)
      match root.childText "CmdType",root.requireChildText "DeviceID" with
      | none,_ => .error (.invalidXml "missing CmdType")
      | _,.error _ => .error (.invalidXml "missing DeviceID")
      | some cmdType,.ok deviceId =>
        if sender.text ≠ deviceId then .error .invalidDeviceId
        else do
          let report ← extractReport root profile cmdType
          return (sender,report)

end CheetahSignaling.Gb28181.Access
