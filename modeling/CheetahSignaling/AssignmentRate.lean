import CheetahSignaling.GuardedRun
import CheetahSignaling.KeyMap
import CheetahSignaling.Types
import Mathlib.Data.List.Sort

/-! The rate limiter of the device assignment: a window over all nodes and one for each, in which a
permit holds a slot from its reservation until it is committed or dropped. Time is in milliseconds of
the monotonic clock. -/
namespace CheetahSignaling.DeviceAssignment

structure RateLimitConfig where
  (globalPerSecond perNodePerSecond maxTrackedNodes : Nat)

def RateLimitConfig.default : RateLimitConfig := ⟨1000,100,4096⟩

def trackedNodesCap : Nat := 1000000

structure SlidingWindow where
  (maxPerWindow window : Nat)
  events : List Nat
  pending : Nat
  lastUsed : Option Nat

namespace SlidingWindow

def new (maxPerWindow window : Nat) : SlidingWindow := ⟨maxPerWindow,window,[],0,none⟩

section

variable (now : Nat) (w : SlidingWindow)

/-- Drops expired events from the front only. -/
def prune : SlidingWindow := { w with events := w.events.dropWhile fun front => w.window < now - front }

def reserve : Bool × SlidingWindow :=
  let w := w.prune now
  if w.maxPerWindow ≤ w.events.length + w.pending then (false,w) else (true,{ w with pending := w.pending + 1 })

def commit : SlidingWindow := { w with lastUsed := some now, pending := w.pending - 1, events := w.events ++ [now] }

def rollback : SlidingWindow := { w with pending := w.pending - 1 }

def active : Option SlidingWindow :=
  let w := w.prune now
  if w.events ≠ [] ∨ 0 < w.pending then some w else none

end

end SlidingWindow

structure RateLimiter where
  global : SlidingWindow
  perNode : KeyMap NodeId SlidingWindow
  config : RateLimitConfig

namespace RateLimiter

def new (config : RateLimitConfig) : RateLimiter where
  global := .new config.globalPerSecond 1000
  perNode := ∅
  config := { config with maxTrackedNodes := min config.maxTrackedNodes trackedNodesCap }

def windowOf (node : NodeId) (limiter : RateLimiter) : SlidingWindow :=
  (limiter.perNode.lookup node).getD (.new limiter.config.perNodePerSecond 1000)

def reserve (now : Nat) (node : NodeId) (limiter : RateLimiter) : Bool × RateLimiter :=
  let (room,global) := limiter.global.reserve now
  if room then
    let (room,window) := (limiter.windowOf node).reserve now
    let perNode := limiter.perNode.insert node window
    if room then (true,{ limiter with global := global, perNode := perNode })
    else (false,{ limiter with global := global.rollback, perNode := perNode })
  else (false,{ limiter with global := global })

/-- A window that was never used comes first. -/
def lastUsedBefore (a b : NodeId × Option Nat) : Bool := a.2.all fun used => b.2.any (used ≤ ·)

def evicted (capacity : Nat) (perNode : KeyMap NodeId SlidingWindow) : List NodeId :=
  let ordered := (perNode.entries.map fun entry => (entry.1,entry.2.lastUsed)).insertionSort fun a b => lastUsedBefore a b
  (ordered.take (perNode.entries.length - capacity)).map Prod.fst

def trimPerNode (now : Nat) (limiter : RateLimiter) : RateLimiter :=
  if limiter.perNode.entries.length ≤ limiter.config.maxTrackedNodes then limiter
  else
    let perNode := limiter.perNode.sweep fun _ w => w.active now
    let gone := evicted limiter.config.maxTrackedNodes perNode
    { limiter with perNode := perNode.sweep fun node w => if node ∈ gone then none else some w }

def atNode (node : NodeId) (change : SlidingWindow → SlidingWindow) (limiter : RateLimiter) : RateLimiter :=
  match limiter.perNode.lookup node with
  | none => limiter
  | some w => { limiter with perNode := limiter.perNode.insert node (change w) }

def commit (now : Nat) (node : NodeId) (limiter : RateLimiter) : RateLimiter :=
  trimPerNode now (atNode node (.commit now) { limiter with global := limiter.global.commit now })

def rollback (node : NodeId) (limiter : RateLimiter) : RateLimiter :=
  atNode node .rollback { limiter with global := limiter.global.rollback }

end RateLimiter

/-- A slot with the time of its reservation, which is the time that a commit records. -/
structure RateLimitPermit where
  nodeId : NodeId
  now : Nat
deriving DecidableEq

structure Commit where
  permit : RateLimitPermit
  madeAt : Nat
deriving DecidableEq

structure Limited where
  limiter : RateLimiter
  permits : List RateLimitPermit
  commits : List Commit

inductive LimitAction where
  | reserve (now : Nat) (node : NodeId)
  | commit (now : Nat) (index : Nat)
  | drop (now : Nat) (index : Nat)

def LimitAction.time : LimitAction → Nat
  | .reserve now _ | .commit now _ | .drop now _ => now

def Limited.new (config : RateLimitConfig) : Limited := ⟨.new config,[],[]⟩

/-- A permit is one of those held; its commit or drop consumes it. -/
def Limited.step (s : Limited) : LimitAction → Limited
  | .reserve now node =>
    let (granted,limiter) := s.limiter.reserve now node
    ⟨limiter,if granted then s.permits ++ [⟨node,now⟩] else s.permits,s.commits⟩
  | .commit now index =>
    match s.permits[index]? with
    | none => s
    | some permit => ⟨s.limiter.commit permit.now permit.nodeId,s.permits.eraseIdx index,s.commits ++ [⟨permit,now⟩]⟩
  | .drop _ index =>
    match s.permits[index]? with
    | none => s
    | some permit => ⟨s.limiter.rollback permit.nodeId,s.permits.eraseIdx index,s.commits⟩

end CheetahSignaling.DeviceAssignment
