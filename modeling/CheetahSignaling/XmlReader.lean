import CheetahSignaling.XmlWriter

/-! The reader of the GB28181 XML codec: charset detection, then a loop over the events of
the pull reader that builds the element tree under the configured limits. -/
namespace CheetahSignaling.XmlReader
open Str

/-- The content of a start tag, cut behind the name. -/
structure Tag where
  (name attributes : List Char)
deriving DecidableEq

/-- What quick-xml reports with text trimmed at both ends, closing names checked against the open
tags and empty elements kept apart. A reference is an event of its own. -/
inductive Event where
  | start (tag : Tag)
  | empty (tag : Tag)
  | close (name : List Char)
  | text (raw : List Char)
  | generalRef (name : List Char)
  | cData
  | comment
  | decl
  | pi
  | docType
  | eof
  | error (message : String)
deriving DecidableEq

inductive Encoding where
  | utf8
  | gbk
  | gb18030
  | other (name : String)
deriving DecidableEq

/-- What the reader uses of other crates. From encoding_rs: the lookup of a label, and decoding
without a byte order mark, which fails on a malformed sequence. From quick-xml: the events of a
document and the attributes of a start tag, where `none` stands for an error. -/
structure Crates where
  forLabel : String → Option Encoding
  decode : Encoding → ByteArray → Option String
  events : List Char → List Event
  attributes : Tag → List (Option (List Char × List Char))

/-- Every label means UTF-8, and only the given documents, whose tags have no attributes, are known. -/
def Crates.utf8 (documents : List (String × List Event)) : Crates where
  forLabel _ := some .utf8
  decode _ := String.fromUTF8?
  events text := (documents.lookup (String.ofList text)).getD [.error "syntax error"]
  attributes tag := if tag.attributes = [] then [] else [none]

/-- `String::from_utf8_lossy`, up to the number of replacement characters. -/
def lossy (bytes : List UInt8) : List Char := bytes.map fun byte => if byte < 128 then Char.ofNat byte.toNat else '�'

def quotedLabel : List Char → Option (List Char)
  | [] => none
  | quote :: rest =>
    if quote = '"' ∨ quote = '\'' then (splitOnce [quote] rest).map Prod.fst else none

/-- The value of `encoding` in the XML declaration. -/
def declaredLabel (head : List Char) : Option (List Char) := do
  let (_,behind) ← splitOnce "<?xml".toList head
  let (decl,_) ← splitOnce "?>".toList ("<?xml".toList ++ behind)
  let (_,after) ← splitOnce "encoding".toList decl
  match trimStart after with
  | '=' :: value => quotedLabel (trimStart value)
  | _ => none

section

variable (crates : Crates)

def detectEncoding (body : ByteArray) : Option Encoding := do
  let label ← declaredLabel (lossy (body.data.toList.take 256))
  crates.forLabel (String.ofList label)

def decodeBody (charsetFallback : Bool) (body : ByteArray) : Except AccessError String :=
  let declared := (detectEncoding crates body).getD .utf8
  match crates.decode declared body with
  | some decoded => .ok decoded
  | none =>
    let fallbacks := if charsetFallback then [Encoding.gbk,.gb18030,.utf8].filter (· ≠ declared) else []
    match fallbacks.findSome? fun fallback => crates.decode fallback body with
    | some decoded => .ok decoded
    | none => .error (.invalidXml "invalid byte sequence for declared encoding")

/-- `QName::local_name`. -/
def localName (name : List Char) : List Char :=
  match splitOnce [':'] name with
  | none => name
  | some (_,suffix) => suffix

def validateLen (s : String) (max : Nat) (message : String) : Except AccessError Unit :=
  if s.utf8ByteSize > max then .error (.invalidXml message) else .ok ()

def readAttributes (limits : XmlLimits) : List (Option (List Char × List Char)) → Attributes →
    Nat → Nat → Except AccessError (Attributes × Nat)
  | [], attributes, _, total => .ok (attributes,total)
  | none :: _, _, _, _ => .error (.invalidXml "bad attribute")
  | some (rawKey,rawValue) :: items, attributes, count, total => do
    let key := String.ofList (localName rawKey)
    validateLen key limits.maxNameLen "attribute name too long"
    let value := String.ofList rawValue
    if count + 1 > limits.maxAttributesPerElement then
      .error (.invalidXml "too many attributes on element")
    else if total + 1 > limits.maxTotalAttributes then
      .error (.invalidXml "too many attributes in document")
    else do
      validateLen value limits.maxTextLen "attribute value too long"
      readAttributes limits items (attributes.insert key value) (count + 1) (total + 1)

def startElement (limits : XmlLimits) (tag : Tag) (total : Nat) : Except AccessError (XmlElement × Nat) := do
  let name := String.ofList (localName tag.name)
  validateLen name limits.maxNameLen "element name too long"
  let (attributes,total) ← readAttributes limits (crates.attributes tag) .empty 0 total
  return (⟨name,attributes,"",[]⟩,total)

/-- The locals of the event loop; the innermost open element is the head of the stack. -/
structure Progress where
  stack : List XmlElement
  root : Option XmlElement
  (eventCount totalAttributes : Nat)

def Progress.start : Progress := ⟨[],none,0,0⟩

/-- A finished element goes to its parent, or becomes the root. -/
def attach (limits : XmlLimits) (p : Progress) (element : XmlElement) : Except AccessError Progress :=
  match p.stack with
  | parent :: outer =>
    if parent.children.length ≥ limits.maxChildrenPerElement then
      .error (.invalidXml "too many children per element")
    else .ok { p with stack := { parent with children := parent.children ++ [element] } :: outer }
  | [] =>
    if p.root.isSome then .error (.invalidXml "multiple top-level elements")
    else .ok { p with root := some element }

def onEvent (limits : XmlLimits) (p : Progress) : Event → Except AccessError Progress
  | .start tag =>
    if p.stack.length ≥ limits.maxDepth then .error (.invalidXml "XML nesting too deep")
    else do
      let (element,total) ← startElement crates limits tag p.totalAttributes
      return { p with stack := element :: p.stack,totalAttributes := total }
  | .empty tag => do
    let (element,total) ← startElement crates limits tag p.totalAttributes
    attach limits { p with totalAttributes := total } element
  | .text raw =>
    match p.stack with
    | [] => .ok p
    | top :: outer =>
      let text := top.text ++ String.ofList (trim raw)
      if text.utf8ByteSize > limits.maxTextLen then .error (.invalidXml "text node too long")
      else .ok { p with stack := { top with text := text } :: outer }
  | .close name =>
    match p.stack with
    | [] => .error (.invalidXml "unexpected end tag")
    | top :: outer =>
      if top.name ≠ String.ofList (localName name) then .error (.invalidXml "mismatched XML tags")
      else attach limits { p with stack := outer }
        { top with text := String.ofList (trim top.text.toList) }
  | .docType => .error (.invalidXml "DOCTYPE not allowed")
  | .error message => .error (.invalidXml message)
  | .generalRef _ | .cData | .comment | .decl | .pi | .eof => .ok p

def readLoop (limits : XmlLimits) : Progress → List Event → Except AccessError (Option XmlElement)
  | p, [] => .ok p.root
  | p, event :: events =>
    if p.eventCount > limits.maxEvents then .error (.invalidXml "too many XML events")
    else if event = .eof then .ok p.root
    else do
      let p ← onEvent crates limits { p with eventCount := p.eventCount + 1 } event
      readLoop limits p events

def parseXmlWithProfile (body : ByteArray) (limits : XmlLimits) (charsetFallback : Bool) :
    Except AccessError XmlElement := do
  if body.size > limits.maxBodyBytes then .error (.invalidXml "body too large")
  else do
    let decoded ← decodeBody crates charsetFallback body
    match ← readLoop crates limits .start (crates.events decoded.toList) with
    | some root => .ok root
    | none => .error (.invalidXml "empty XML document")

/-- The default profile grants no charset fallback. -/
def parseXml (body : ByteArray) (limits : XmlLimits) : Except AccessError XmlElement :=
  parseXmlWithProfile crates body limits false

end

end CheetahSignaling.XmlReader
