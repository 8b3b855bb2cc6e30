import CheetahSignaling.ClientTransaction
import CheetahSignaling.ServerTransaction
import CheetahSignaling.KeyMap
import Mathlib.Logic.Function.Basic

/-! The bounded table of client and server transactions: it routes messages to the state machine
with their key, keeps the timers the machines arm, and reclaims what has ended or is idle. -/
namespace CheetahSignaling.SipTransaction

structure ManagerConfig where
  transaction : TransactionConfig := {}
  branchPolicy : BranchPolicy := .strict
  maxTransactions : Nat := 4096
  ttl : Nat := 64000000000

inductive ManagerOutput (T : Type) where
  | send (message : SipMessage) (target : T)
  | deliver (message : SipMessage)
  | failure (kind : SipErrorKind)
deriving DecidableEq

namespace ManagerOutput

variable {T : Type}

/-- What an output of a machine says to the user of the manager. -/
def translate (target : T) : TransactionOutput → Option (ManagerOutput T)
  | .sendMessage message => some (.send message target)
  | .deliver message => some (.deliver message)
  | .failure kind => some (.failure kind)
  | .setTimer _ _ => none
  | .cancelTimer _ => none
  | .complete => none

section Translate

variable (target : T) (message : SipMessage) (kind : TimerKind)

@[simp] theorem translate_sendMessage : translate target (.sendMessage message) = some (.send message target) := rfl

@[simp] theorem translate_deliver : translate target (.deliver message) = some (.deliver message) := rfl

@[simp] theorem translate_failure : translate target (.failure error) = some (.failure error) := rfl

@[simp] theorem translate_setTimer (deadline : Nat) : translate target (.setTimer kind deadline) = none := rfl

@[simp] theorem translate_cancelTimer : translate target (.cancelTimer kind) = none := rfl

@[simp] theorem translate_complete : translate target .complete = none := rfl

end Translate

def isDeliver : ManagerOutput T → Bool
  | .deliver _ => true
  | _ => false

end ManagerOutput

structure RequestOutcome (T : Type) where
  key : Option TransactionKey
  deliver : Bool
  outputs : List (ManagerOutput T)

/-- The part of a transaction that the table sees. -/
structure Fsm (X : Type) where
  process : X → TransactionEvent → Nat → List TransactionOutput × X
  isTerminated : X → Bool

def clientFsm : Fsm ClientTransaction := ⟨ClientTransaction.process,ClientTransaction.isTerminated⟩

def serverFsm : Fsm ServerTransaction := ⟨ServerTransaction.process,ServerTransaction.isTerminated⟩

abbrev Timers := TimerKind → Option Nat

def Timers.apply (timers : Timers) : TransactionOutput → Timers
  | .setTimer kind deadline => Function.update timers kind (some deadline)
  | .cancelTimer kind => Function.update timers kind none
  | _ => timers

structure Entry (X T : Type) where
  transaction : X
  target : T
  timers : Timers
  lastActivity : Nat

namespace Entry

def new (transaction : X) (target : T) (now : Nat) : Entry X T := ⟨transaction,target,fun _ => none,now⟩

variable (fsm : Fsm X) (e : Entry X T)

def absorb (outputs : List TransactionOutput) (now : Nat) : List (ManagerOutput T) × Option (Entry X T) :=
  (outputs.filterMap (ManagerOutput.translate e.target),
    if .complete ∈ outputs ∨ fsm.isTerminated e.transaction then none
    else some { e with timers := outputs.foldl Timers.apply e.timers,lastActivity := now })

def feed (event : TransactionEvent) (now : Nat) : List (ManagerOutput T) × Option (Entry X T) :=
  let (outputs,transaction) := fsm.process e.transaction event now
  { e with transaction := transaction }.absorb fsm outputs now

def dueTimers (now : Nat) : List TimerKind := TimerKind.all.filter fun kind => (e.timers kind).any (· ≤ now)

def disarm (kind : TimerKind) : Entry X T := { e with timers := Function.update e.timers kind none }

/-- Fires the timers of a list that are still armed, until the transaction ends. -/
def fireTimers (now : Nat) : List TimerKind → Entry X T → List (ManagerOutput T) × Option (Entry X T)
  | [], e => ([],some e)
  | kind :: rest, e =>
    if (e.timers kind).isNone then fireTimers now rest e
    else
      match (e.disarm kind).feed fsm (.timer kind) now with
      | (outputs,none) => (outputs,none)
      | (outputs,some e) =>
        let (more,left) := fireTimers now rest e
        (outputs ++ more,left)

def tick (ttl now : Nat) : List (ManagerOutput T) × Option (Entry X T) :=
  let (outputs,left) := fireTimers fsm now (e.dueTimers now) e
  (outputs,left.filter fun e => !fsm.isTerminated e.transaction && decide (now - e.lastActivity < ttl))

end Entry

abbrev Entries (X T : Type) := KeyMap TransactionKey (Entry X T)

namespace Entries

variable (fsm : Fsm X) (map : Entries X T)

def tickMap (ttl now : Nat) : List (TransactionKey × ManagerOutput T) × Entries X T :=
  (map.gather fun _ e => (e.tick fsm ttl now).1,map.sweep fun _ e => (e.tick fsm ttl now).2)

def ensureCapacity (max : Nat) : Entries X T :=
  map.makeRoom (fun e => fsm.isTerminated e.transaction) (fun e => e.lastActivity) max

def dispatch (key : TransactionKey) (event : TransactionEvent) (now : Nat) : List (ManagerOutput T) × Entries X T :=
  match map.lookup key with
  | none => ([],map)
  | some e =>
    match e.feed fsm event now with
    | (outputs,some e) => (outputs,map.insert key e)
    | (outputs,none) => (outputs,map.erase key)

def begin (max : Nat) (key : TransactionKey) (transaction : X) (target : T) (outputs : List TransactionOutput)
    (now : Nat) : List (ManagerOutput T) × Entries X T :=
  let map := ensureCapacity fsm map max
  match (Entry.new transaction target now).absorb fsm outputs now with
  | (outputs,some e) => (outputs,map.insert key e)
  | (outputs,none) => (outputs,map)

end Entries

structure TransactionManager (T : Type) where
  config : ManagerConfig
  client : Entries ClientTransaction T
  server : Entries ServerTransaction T

namespace TransactionManager

def new (T : Type) (config : ManagerConfig) : TransactionManager T := ⟨config,∅,∅⟩

variable (m : TransactionManager T)

variable (message : SipMessage) (key : TransactionKey) (now : Nat)

def serverKey : Option TransactionKey := TransactionKey.forMessage message .uas m.config.branchPolicy

def clientKey : Option TransactionKey := TransactionKey.forMessage message .uac m.config.branchPolicy

/-- The delivered request is conveyed by the flag, so its output is dropped. -/
def outcome (outputs : List (ManagerOutput T)) : RequestOutcome T :=
  ⟨some key,outputs.any (·.isDeliver),outputs.filter (!·.isDeliver)⟩

def handleRequest (target : T) (now : Nat) : RequestOutcome T × TransactionManager T :=
  match message with
  | .response _ _ _ => (⟨none,false,[]⟩,m)
  | .request line headers body =>
    match m.serverKey message with
    | none => (⟨none,true,[]⟩,m)
    | some key =>
      if key ∈ m.server then
        let (outputs,server) := m.server.dispatch serverFsm key (.request message) now
        (outcome key outputs,{ m with server := server })
      -- An orphaned ACK goes to the dialog layer.
      else if line.method = .ack then (⟨none,true,[]⟩,m)
      else
        let transaction := ServerTransaction.new m.config.transaction line headers body
        let (outputs,server) :=
          m.server.begin serverFsm m.config.maxTransactions key transaction target transaction.bootstrap now
        (outcome key outputs,{ m with server := server })

def provideResponse (response : SipMessage) (now : Nat) : List (ManagerOutput T) × TransactionManager T :=
  let (outputs,server) := m.server.dispatch serverFsm key (.response response) now
  (outputs,{ m with server := server })

def handleResponse : List (ManagerOutput T) × TransactionManager T :=
  match message with
  | .request _ _ _ => ([],m)
  | .response _ _ _ =>
    match m.clientKey message with
    | none => ([],m)
    | some key =>
      let (outputs,client) := m.client.dispatch clientFsm key (.response message) now
      (outputs,{ m with client := client })

def startClientTransaction (request : SipMessage) (target : T) (now : Nat) :
    List (ManagerOutput T) × TransactionManager T :=
  match m.clientKey request,request with
  | some key,.request line headers body =>
    let transaction := ClientTransaction.new m.config.transaction line headers body
    let (outputs,client) :=
      m.client.begin clientFsm m.config.maxTransactions key transaction target (transaction.bootstrap now) now
    (outputs,{ m with client := client })
  | _,_ => ([],m)

def tick : List (ManagerOutput T) × TransactionManager T :=
  let (serverOutputs,server) := m.server.tickMap serverFsm m.config.ttl now
  let (clientOutputs,client) := m.client.tickMap clientFsm m.config.ttl now
  ((serverOutputs ++ clientOutputs).map Prod.snd,{ m with client := client,server := server })

end TransactionManager

end CheetahSignaling.SipTransaction
