import CheetahSignaling.Types

/-! The two SQL stores where they differ: in what a column keeps of a timestamp, in the order of
two stored timestamps, and in an increment that leaves the range of `i64`. -/
namespace CheetahSignaling

inductive SqlStore where
  | sqlite
  | postgres
  deriving DecidableEq

/-- The digits of a fraction with `places` decimals, the zeros at its end left out. -/
def decimals : (places fraction : Nat) → List Nat
  | 0,_ => []
  | places + 1,fraction =>
    if fraction = 0 then [] else fraction / 10 ^ places :: decimals places (fraction % 10 ^ places)

namespace SqlStore

/-- The decimals of the second in the RFC 3339 text of a time. -/
def subsecond (t : UtcTimestamp) : List Nat := decimals 9 (t % 10 ^ 9).toNat

/-- The bytes behind the seconds in that text: point, digits and `Z`. -/
def textTail (t : UtcTimestamp) : List Nat :=
  (if subsecond t = [] then [] else 46 :: (subsecond t).map (48 + ·)) ++ [90]

/-- Microseconds since 2000, which a `TIMESTAMPTZ` counts, rounded towards that time. -/
def micros (t : UtcTimestamp) : Int := (t - 946684800 * 10 ^ 9).tdiv 1000

/-- What a column keeps of a timestamp. -/
def kept : SqlStore → UtcTimestamp → UtcTimestamp
  | .sqlite,t => t
  | .postgres,t => micros t * 1000 + 946684800 * 10 ^ 9

/-- The order of two texts in SQLite's default collation, which is `memcmp`. -/
def binaryLe : List Nat → List Nat → Bool
  | [],_ => true
  | _ :: _,[] => false
  | a :: s,b :: t => a < b || (a = b && binaryLe s t)

/-- `a <= b` of two timestamps. SQLite compares their texts, byte by byte: year, month, day and
time of day have a fixed width, so down to the seconds this is the order of time. -/
def le : SqlStore → UtcTimestamp → UtcTimestamp → Bool
  | .sqlite,a,b => a / 10 ^ 9 < b / 10 ^ 9 || (a / 10 ^ 9 = b / 10 ^ 9 && binaryLe (textTail a) (textTail b))
  | .postgres,a,b => micros a ≤ micros b

/-- `lease_until > now` of `cluster_nodes`, an integer of milliseconds in SQLite. -/
def leased : SqlStore → UtcTimestamp → UtcTimestamp → Bool
  | .sqlite,lease,now => toMillis now < toMillis lease
  | .postgres,lease,now => micros now < micros lease

/-- `n + 1` of an integer column. Beyond `i64` PostgreSQL refuses it; SQLite goes over to the REAL
2^63, which no further increment changes. -/
def increment : SqlStore → Int → Except StorageError Int
  | .sqlite,n => .ok (min (n + 1) (2 ^ 63))
  | .postgres,n => if n < i64Max then .ok (n + 1) else .error (.backend "bigint out of range")

theorem increment_ok (raised : increment store n = .ok next) (range : 0 ≤ n ∧ n ≤ 2 ^ 63) :
    (0 ≤ next ∧ next ≤ 2 ^ 63) ∧ (n < next ∨ next = 2 ^ 63) := by
  cases store with
  | sqlite =>
    cases raised
    omega
  | postgres =>
    simp only [increment] at raised
    by_cases below : n < i64Max
    · rw [if_pos below] at raised
      cases raised
      unfold i64Max at below
      omega
    · simp [below] at raised

theorem increment_readable (raised : increment store n = .ok next) (readable : next ≤ i64Max) : next = n + 1 := by
  cases store with
  | sqlite =>
    cases raised
    unfold i64Max at readable
    omega
  | postgres =>
    simp only [increment] at raised
    split at raised <;> cases raised
    rfl

/-- A text ends before another one that continues it, and the `Z` at its end is above every digit. -/
theorem digits_le_iff (ordered : x ≤ y) (bounded : y < 10 ^ places) :
    binaryLe ((decimals places x).map (48 + ·) ++ [90]) ((decimals places y).map (48 + ·) ++ [90]) = true ↔
      ¬ ∃ d rest, decimals places y = decimals places x ++ d :: rest := by
  induction places generalizing x y with
  | zero => simp [decimals,binaryLe]
  | succ places ih =>
    have place : 0 < 10 ^ places := Nat.pow_pos (by decide)
    have digit : y / 10 ^ places < 10 := Nat.div_lt_of_lt_mul (by rwa [pow_succ] at bounded)
    have heads := Nat.div_le_div_right (c := 10 ^ places) ordered
    by_cases last : x = 0
    · by_cases same : y = 0
      · simp [decimals,last,same,binaryLe]
      · simp [decimals,last,same,binaryLe]
        omega
    have more : y ≠ 0 := by omega
    simp only [decimals,last,more,if_false,List.map_cons,List.cons_append,binaryLe,List.cons.injEq]
    by_cases equal : x / 10 ^ places = y / 10 ^ places
    · have below := Nat.mod_add_div x (10 ^ places)
      have above := Nat.mod_add_div y (10 ^ places)
      rw [equal] at below
      have rest := ih (by omega : x % 10 ^ places ≤ y % 10 ^ places) (Nat.mod_lt _ place)
      simpa [equal] using rest
    · simp [Ne.symm equal]
      omega

/-- The text of the earlier time is that of the later one, cut off at fewer decimals. -/
def CutOff (a b : UtcTimestamp) : Prop := a / 10 ^ 9 = b / 10 ^ 9 ∧ ∃ d rest, subsecond b = subsecond a ++ d :: rest

theorem sqlite_le_iff {a b : Int} (ordered : a ≤ b) : sqlite.le a b = true ↔ ¬ CutOff a b := by
  have seconds : a / 10 ^ 9 ≤ b / 10 ^ 9 := Int.ediv_le_ediv (by decide) ordered
  simp only [le,CutOff,Bool.or_eq_true,Bool.and_eq_true,decide_eq_true_eq]
  by_cases same : a / 10 ^ 9 = b / 10 ^ 9
  · have digits : binaryLe ((subsecond a).map (48 + ·) ++ [90]) ((subsecond b).map (48 + ·) ++ [90]) = true ↔
        ¬ ∃ d rest, subsecond b = subsecond a ++ d :: rest := digits_le_iff (by omega) (by omega)
    simp only [same,lt_irrefl,true_and,false_or,textTail]
    by_cases whole : subsecond a = []
    · cases whole' : subsecond b <;> simp [whole,binaryLe]
    · by_cases whole' : subsecond b = []
      · simp [whole,whole',binaryLe]
      · simpa [whole,whole',binaryLe] using digits
  · have before : a / 10 ^ 9 < b / 10 ^ 9 := lt_of_le_of_ne seconds same
    simp only [before,same,true_or,false_and,not_false_eq_true]

/-- PostgreSQL keeps the order of time; SQLite misses it exactly where a text is cut off. -/
theorem le_iff {a b : Int} (ordered : a ≤ b) : le store a b = true ↔ (store = .sqlite → ¬ CutOff a b) := by
  cases store with
  | sqlite => simpa using sqlite_le_iff ordered
  | postgres =>
    simp only [le,decide_eq_true_eq,reduceCtorEq,false_implies,iff_true]
    exact Int.tdiv_le_tdiv (by decide) (by omega)

end SqlStore
end CheetahSignaling
