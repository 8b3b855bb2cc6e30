import Mathlib.Data.List.Nodup
import CheetahSignaling.Str

/-! The element tree of the GB28181 XML codec and its writer. -/
namespace CheetahSignaling

open List hiding get insert

inductive AccessError where
  | unknownDomain
  | unsupportedMethod
  | unsupportedCmdType (cmdType : String)
  | invalidDeviceId
  | invalidDomainId
  | invalidContact
  | invalidExpires
  | authenticationRequired
  | authenticationFailed
  | notRegistered
  | registrationTableFull
  | invalidXml (reason : String)
  | unsupportedContentType (contentType : String)
  | internal (reason : String)
deriving DecidableEq

/-- A `HashMap<String, String>`, in the order in which its iterator yields the entries. -/
structure Attributes where
  entries : List (String × String)
  distinct : (entries.map Prod.fst).Nodup

namespace Attributes

def empty : Attributes := ⟨[],nodup_nil⟩

theorem map_replaced (key value : String) (entries : List (String × String)) :
    (entries.map fun entry => if entry.1 = key then (key,value) else entry).map Prod.fst = entries.map Prod.fst := by
  rw [map_map]
  apply map_congr_left
  intro entry _
  by_cases same : entry.1 = key <;> simp [same]

/-- `HashMap::insert`. -/
def insert (map : Attributes) (key value : String) : Attributes :=
  if held : key ∈ map.entries.map Prod.fst then
    ⟨map.entries.map fun entry => if entry.1 = key then (key,value) else entry, by
      rw [map_replaced]; exact map.distinct⟩
  else
    ⟨map.entries ++ [(key,value)], by
      rw [map_append]
      exact nodup_append.2 ⟨map.distinct,nodup_singleton _,by
        rintro _ member _ (_ | ⟨_,⟨⟩⟩) rfl
        exact held member⟩⟩

def get (map : Attributes) (key : String) : Option String :=
  (map.entries.find? fun entry => entry.1 = key).map Prod.snd

end Attributes

structure XmlElement where
  name : String
  attributes : Attributes
  text : String
  children : List XmlElement

/-- The limits that the generic reader and writer enforce. -/
structure XmlLimits where
  (maxDepth maxTextLen maxEvents maxBodyBytes maxChildrenPerElement maxAttributesPerElement : Nat)
  (maxTotalAttributes maxNameLen : Nat)

def XmlLimits.default : XmlLimits where
  maxDepth := 32
  maxTextLen := 4096
  maxEvents := 10000
  maxBodyBytes := 65536
  maxChildrenPerElement := 10000
  maxAttributesPerElement := 64
  maxTotalAttributes := 100000
  maxNameLen := 256

namespace XmlWriter

def escapeTextChar : Char → List Char
  | '&' => "&amp;".toList
  | '<' => "&lt;".toList
  | '>' => "&gt;".toList
  | c => [c]

def escapeText (value : String) : String := String.ofList (value.toList.flatMap escapeTextChar)

def escapeAttrChar : Char → List Char
  | '&' => "&amp;".toList
  | '<' => "&lt;".toList
  | '>' => "&gt;".toList
  | '"' => "&quot;".toList
  | '\'' => "&apos;".toList
  | c => [c]

def escapeAttr (value : String) : String := String.ofList (value.toList.flatMap escapeAttrChar)

def isNameChar (c : Char) : Bool := c.isAlphanum || c == '_' || c == '-'

def validateXmlName (name : String) : Except AccessError Unit :=
  if name.isEmpty then .error (.invalidXml "empty element name")
  else if name.toList.all isNameChar then .ok ()
  else .error (.invalidXml "invalid character in XML name")

def writeAttributes : List (String × String) → Except AccessError String
  | [] => .ok ""
  | (key,value) :: entries => do
    validateXmlName key
    let rest ← writeAttributes entries
    return " " ++ key ++ "=\"" ++ escapeAttr value ++ "\"" ++ rest

mutual

def writeElement (limits : XmlLimits) (depth : Nat) : XmlElement → Except AccessError String
  | ⟨name,attributes,text,children⟩ =>
    if depth > limits.maxDepth then .error (.invalidXml "XML nesting too deep")
    else if children.length > limits.maxChildrenPerElement then
      .error (.invalidXml "too many children per element")
    else do
      validateXmlName name
      let written ← writeAttributes attributes.entries
      if text.isEmpty && children.isEmpty then return "<" ++ name ++ written ++ "/>"
      else if text.utf8ByteSize > limits.maxTextLen then .error (.invalidXml "text node too long")
      else do
        let inner ← writeChildren limits (depth + 1) children
        return "<" ++ name ++ written ++ ">" ++ escapeText text ++ inner ++ "</" ++ name ++ ">"

def writeChildren (limits : XmlLimits) (depth : Nat) : List XmlElement → Except AccessError String
  | [] => .ok ""
  | child :: children => do
    let first ← writeElement limits depth child
    let rest ← writeChildren limits depth children
    return first ++ rest

end

def declarationText : String := "<?xml version=\"1.0\" encoding=\"UTF-8\"?>"

def encodeXml (element : XmlElement) (declaration : Bool) : Except AccessError String := do
  let output ← writeElement .default 0 element
  return (if declaration then declarationText else "") ++ output

end XmlWriter

/-! ### When the writer succeeds -/

/-- A predicate at an element and everything below it. -/
inductive XmlElement.Every (p : XmlElement → Prop) : XmlElement → Prop
  | intro (here : p element) (below : ∀ child ∈ element.children, Every p child) : Every p element

namespace XmlElement.Every

theorem here (every : Every p element) : p element := by
  cases every; assumption

theorem children (every : Every p element) : ∀ child ∈ element.children, Every p child := by
  cases every; assumption

end XmlElement.Every

namespace XmlWriter

def ValidName (name : String) : Prop := name ≠ "" ∧ ∀ c ∈ name.toList, isNameChar c = true

/-- The names the writer puts into the tag of the element are accepted by `validateXmlName`. -/
def Named (element : XmlElement) : Prop :=
  ValidName element.name ∧ ∀ entry ∈ element.attributes.entries, ValidName entry.1

def Writable (limits : XmlLimits) (element : XmlElement) : Prop :=
  element.children.length ≤ limits.maxChildrenPerElement ∧ element.text.utf8ByteSize ≤ limits.maxTextLen

mutual

/-- The elements of the tree that stand open at once; a single tag opens none. -/
def openDepth : XmlElement → Nat
  | ⟨_,_,text,children⟩ => if text.isEmpty && children.isEmpty then 0 else openDepths children + 1

def openDepths : List XmlElement → Nat
  | [] => 0
  | child :: children => Nat.max (openDepth child) (openDepths children)

end

theorem validName_of_all (letters : name ≠ "" ∧ name.toList.all isNameChar = true) : ValidName name :=
  ⟨letters.1,all_eq_true.mp letters.2⟩

theorem validateXmlName_ok (valid : ValidName name) : validateXmlName name = .ok () := by
  have filled : name.isEmpty = false := by simpa using valid.1
  have letters : name.toList.all isNameChar = true := all_eq_true.2 valid.2
  simp [validateXmlName,filled,letters]

theorem writeAttributes_ok (valid : ∀ entry ∈ entries, ValidName entry.1) :
    ∃ text, writeAttributes entries = .ok text := by
  induction entries with
  | nil => exact ⟨_,rfl⟩
  | cons entry entries ih =>
    simp only [mem_cons,forall_eq_or_imp] at valid
    obtain ⟨rest,written⟩ := ih valid.2
    exact ⟨_,by rw [writeAttributes,validateXmlName_ok valid.1,written]; rfl⟩

theorem openDepth_le (member : child ∈ children) : openDepth child ≤ openDepths children := by
  induction children with
  | nil => cases member
  | cons first children ih =>
    rcases mem_cons.1 member with rfl | later
    · exact Nat.le_max_left ..
    · exact Nat.le_trans (ih later) (Nat.le_max_right ..)

theorem writeChildren_ok (level : Nat)
    (written : ∀ child ∈ children, ∃ text, writeElement limits level child = .ok text) :
    ∃ text, writeChildren limits level children = .ok text := by
  induction children with
  | nil => exact ⟨_,rfl⟩
  | cons child children ih =>
    simp only [mem_cons,forall_eq_or_imp] at written
    obtain ⟨first,here⟩ := written.1
    obtain ⟨rest,later⟩ := ih written.2
    exact ⟨_,by rw [writeChildren,here,later]; rfl⟩

/-- A tree within the limits is written: the depth is counted where a tag stays open. -/
theorem writeElement_ok (named : element.Every Named) (sized : element.Every (Writable limits))
    (depth : level + openDepth element ≤ limits.maxDepth) :
    ∃ text, writeElement limits level element = .ok text := by
  induction named generalizing level with
  | @intro element here _ ih =>
    obtain ⟨name,attributes,text,children⟩ := element
    obtain ⟨few,short⟩ := sized.here
    obtain ⟨tag,written⟩ := writeAttributes_ok here.2
    simp only at few short written
    rw [writeElement,if_neg (by omega),if_neg (by omega)]
    simp only [validateXmlName_ok here.1,written]
    cases hollow : text.isEmpty && children.isEmpty with
    | true => exact ⟨_,rfl⟩
    | false =>
      simp only [openDepth,hollow,Bool.false_eq_true,if_false] at depth
      obtain ⟨inner,below⟩ := writeChildren_ok (level + 1) fun child member =>
        ih child member (sized.children child member) (by have := openDepth_le member; simp only at this; omega)
      exact ⟨_,by simp only [if_neg (Nat.not_lt.2 short),below]; rfl⟩

end XmlWriter

end CheetahSignaling
