import Mathlib.Algebra.Order.Ring.Int

/-! Identifiers, clock values and error kinds shared by the crates. A UUID is its
big-endian number, so the nil identifier is 0 and identifiers compare as the source
compares them. A timestamp counts nanoseconds since the Unix epoch. -/
namespace CheetahSignaling

abbrev TenantId := Nat
abbrev DeviceId := Nat
abbrev ChannelId := Nat
abbrev NodeId := Nat
abbrev NodeInstanceId := Nat
abbrev MediaNodeId := Nat
abbrev MediaSessionId := Nat
abbrev MediaBindingId := Nat
abbrev OperationId := Nat
abbrev CommandId := Nat
abbrev StepId := Nat
abbrev AttemptId := Nat
abbrev MessageId := Nat

/-- `OwnerEpoch(u64)`: the fencing epoch of device ownership. -/
abbrev OwnerEpoch := Nat

abbrev UtcTimestamp := Int

/-- `to_millis`: whole milliseconds, rounded towards the past. -/
def toMillis (t : UtcTimestamp) : Int := t / 1000000

/-- `u64 as i64`. -/
def asI64 (n : Nat) : Int := Int.bmod n (2 ^ 64)

/-- `i64 as u64`. -/
def asU64 (i : Int) : Nat := (i % 2 ^ 64).toNat

/-- `u64::saturating_add`. -/
def saturatingAdd (a b : Nat) : Nat := min (a + b) (2 ^ 64 - 1)

def i64Max : Int := 2 ^ 63 - 1

theorem asI64_small (small : n < 2 ^ 63) : asI64 n = n := by
  unfold asI64
  rw [Int.bmod_eq_of_le] <;> omega

theorem asI64_lt : asI64 n < 2 ^ 63 := by
  have bound := Int.bmod_lt (x := n) (m := 2 ^ 64) (by decide)
  unfold asI64
  omega

theorem asU64_nonneg (nonneg : 0 ≤ i) (small : i < 2 ^ 63) : (asU64 i : Int) = i := by
  unfold asU64
  omega

theorem asU64_lt : asU64 i < 2 ^ 64 := by
  unfold asU64
  omega

theorem asU64_asI64 (small : n < 2 ^ 64) : asU64 (asI64 n) = n := by
  have cancel : asI64 n % (2 ^ 64 : Int) = n % (2 ^ 64 : Int) := Int.bmod_emod
  unfold asU64
  omega

/-- The longest initial segment of whole characters within `max` bytes. -/
def takeBytes (max : Nat) : List Char → List Char
  | [] => []
  | c :: rest => if c.utf8Size ≤ max then c :: takeBytes (max - c.utf8Size) rest else []

/-- `clamp_str`: at most `max` bytes, never splitting a character. -/
def clampStr (s : String) (max : Nat) : String :=
  if s.utf8ByteSize ≤ max then s else String.ofList (takeBytes max s.toList)

def clampMsg (s : String) : String := clampStr s 1024

inductive DomainError where
  | invalidTransition (entity source target : String)
  | concurrentModification (expected found : Nat)
  | notFound (entity : String) (id : Nat)
  | noOwner (deviceId : DeviceId)
  | staleOwner (expected found : Nat)
  | invalidArgument (message : String)
  | unavailable (message : String)
  | alreadyTerminal (entity status : String)
  | internal (message : String)
  | unsupported (message : String)
  deriving DecidableEq

inductive StorageError where
  | backend (message : String)
  | migration (version : Int) (message : String)
  | config (message : String)
  | connection (message : String)
  | unavailable (message : String)
  | concurrentModification (expected found : Nat)
  | invalidArgument (message : String)
  | internal (message : String)
  deriving DecidableEq

end CheetahSignaling
