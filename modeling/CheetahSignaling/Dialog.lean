import CheetahSignaling.Sip

/-! SIP dialogs: identity, route state and the sequence numbers of both sides. -/
namespace CheetahSignaling.SipDialog

open Str

/-- The text behind the first occurrence of a pattern, up to ASCII case. -/
def afterIgnoreCase (pattern : List Char) : List Char → Option (List Char)
  | [] => none
  | c :: rest =>
    if eqIgnoreAsciiCase ((c :: rest).take pattern.length) pattern then some ((c :: rest).drop pattern.length)
    else afterIgnoreCase pattern rest

def extractTag (value : String) : Option String := (afterIgnoreCase ";tag=".toList (trim value.toList)).map fun rest =>
    String.ofList (trimMatches '"' (rest.takeWhile fun c => !(c == ';' || isWhitespace c)))

def extendFirst (text : List Char) : List (List Char) → List (List Char)
  | [] => [text]
  | entry :: rest => (text ++ entry) :: rest

def splitEntries : (inQuotes inAngle : Bool) → List Char → List (List Char)
  | _, _, [] => [[]]
  | true, inAngle, '\\' :: c :: rest => extendFirst ['\\',c] (splitEntries true inAngle rest)
  | inQuotes, inAngle, c :: rest =>
    if c = '"' ∧ !inAngle then extendFirst [c] (splitEntries (!inQuotes) inAngle rest)
    else if c = '<' ∧ !inQuotes then extendFirst [c] (splitEntries inQuotes true rest)
    else if c = '>' ∧ !inQuotes ∧ inAngle then extendFirst [c] (splitEntries inQuotes false rest)
    else if c = ',' ∧ !inQuotes ∧ !inAngle then [] :: splitEntries inQuotes inAngle rest
    else extendFirst [c] (splitEntries inQuotes inAngle rest)

def splitRouteEntries (value : List Char) : List (List Char) := splitEntries false false value

def bareUri : (quoted : Bool) → List Char → List Char
  | _, [] => []
  | quoted, c :: rest =>
    if c = '"' then c :: bareUri (!quoted) rest
    else if c = ';' ∧ !quoted then []
    else c :: bareUri quoted rest

def bracketed (value : List Char) : Option (List Char) := do
  let (_,behind) ← splitOnce ['<'] value
  let (contents,_) ← splitOnce ['>'] behind
  return contents

def extractFirstUri (text : List Char) : Option SipUri :=
  let value := trim text
  match bracketed value with
  | some contents => (SipUri.parse (String.ofList contents)).toOption
  | none =>
    match ((splitRouteEntries value).map trim).find? fun token =>
        "sip:".toList.isPrefixOf token || "sips:".toList.isPrefixOf token with
    | some token => (SipUri.parse (String.ofList (bareUri false token))).toOption
    | none => none

structure DialogId where
  (callId localTag remoteTag : String)

inductive DialogRole where
  | uac
  | uas

inductive DialogState where
  | early
  | confirmed
  | terminated
deriving DecidableEq

inductive DialogEvent where
  | request (message : SipMessage)
  | response (message : SipMessage)
  | timer

inductive DialogOutput where
  | deliver (message : SipMessage)
  | complete
  | failure (kind : SipErrorKind)

structure Dialog where
  id : DialogId
  role : DialogRole
  state : DialogState
  routeSet : List SipUri
  remoteTarget : SipUri
  localCseq : Nat
  remoteCseq : Option Nat

namespace Dialog

variable (d : Dialog)

def isTerminated : Bool := d.state = .terminated

/-- The counter is a `u32`. -/
def nextLocalCseq : Nat × Dialog :=
  let next := (d.localCseq + 1) % 2 ^ 32
  (next,{ d with localCseq := next })

def stale (cseq : Nat) : Bool := d.remoteCseq.isSome && decide (cseq ≤ d.remoteCseq.getD 0)

def onRequest (message : SipMessage) : List DialogOutput × Dialog :=
  match message with
  | .response _ _ _ => ([],d)
  | .request line headers _ =>
    match message.cseq with
    | .error e => ([.failure e.kind],d)
    | .ok (cseq,_) =>
      match line.method with
      | .bye =>
        if d.stale cseq then ([],d)
        else ([.deliver message,.complete],{ d with remoteCseq := some cseq,state := .terminated })
      -- These repeat the number of the INVITE they belong to.
      | .ack | .cancel => ([.deliver message],d)
      | .invite | .message | .options =>
        if d.stale cseq then ([],d)
        else
          let target := if line.method = .invite then
              ((headers.get .contact).bind fun value => extractFirstUri value.toList).getD d.remoteTarget
            else d.remoteTarget
          ([.deliver message],{ d with remoteCseq := some cseq,remoteTarget := target })
      | _ => if d.stale cseq then ([],d) else ([.deliver message],{ d with remoteCseq := some cseq })

def onResponse (message : SipMessage) : List DialogOutput × Dialog :=
  match message with
  | .request _ _ _ => ([],d)
  | .response line _ _ =>
    match message.cseq with
    | .error e => ([.failure e.kind],d)
    | .ok (cseq,method) =>
      if method = .bye ∧ 200 ≤ line.code ∧ line.code < 300 then
        ([.deliver message,.complete],{ d with state := .terminated })
      else ([.deliver message],{ d with localCseq := max d.localCseq cseq })

def terminate : List DialogOutput × Dialog := ([.complete],{ d with state := .terminated })

def process (event : DialogEvent) : List DialogOutput × Dialog :=
  if d.isTerminated then ([],d)
  else
    match event with
    | .request message => d.onRequest message
    | .response message => d.onResponse message
    | .timer => d.terminate

end Dialog

end CheetahSignaling.SipDialog
