import CheetahSignaling.Str
import Mathlib.Algebra.Group.Nat.Defs

/-! Hexadecimal text: bytes as pairs of digits, numbers padded with zeros, and the big-endian bytes
of a 64-bit word. What is written in lower case is read back. -/
namespace CheetahSignaling.Hex

open List

def value (c : Char) : Option Nat :=
  if c.isDigit then some (c.toNat - 48)
  else if 'a' ≤ c ∧ c ≤ 'f' then some (c.toNat - 87)
  else if 'A' ≤ c ∧ c ≤ 'F' then some (c.toNat - 55)
  else none

@[simp] theorem value_digitChar (small : n < 16) : value n.digitChar = some n := by
  have all : ∀ n < 16, value n.digitChar = some n := by decide
  exact all n small

def encodeByte (b : UInt8) : List Char := [(b.toNat / 16).digitChar,(b.toNat % 16).digitChar]

/-- `hex::encode`. -/
def encode (bytes : List UInt8) : List Char := bytes.flatMap encodeByte

/-- `hex::decode`, which takes digits of both cases. -/
def decode : List Char → Option (List UInt8)
  | [] => some []
  | [_] => none
  | high :: low :: rest => do
    let h ← value high
    let l ← value low
    let bytes ← decode rest
    return UInt8.ofNat (16 * h + l) :: bytes

theorem decode_encode (bytes : List UInt8) : decode (encode bytes) = some bytes := by
  induction bytes with
  | nil => rfl
  | cons b bytes ih =>
    have small : b.toNat < 256 := b.toNat_lt
    have high : b.toNat / 16 < 16 := by omega
    have low : b.toNat % 16 < 16 := Nat.mod_lt _ (by decide)
    have whole : UInt8.ofNat (16 * (b.toNat / 16) + b.toNat % 16) = b := by
      rw [Nat.div_add_mod,UInt8.ofNat_toNat]
    rw [encode,flatMap_cons,encodeByte,← encode]
    simp only [cons_append,nil_append,decode,value_digitChar high,value_digitChar low,ih,Option.bind_eq_bind,
      Option.bind_some,Option.pure_def,whole]

theorem encode_append : encode (first ++ rest) = encode first ++ encode rest :=
  flatMap_append

theorem length_encode (bytes : List UInt8) : (encode bytes).length = 2 * bytes.length := by
  induction bytes with
  | nil => rfl
  | cons b bytes ih =>
    rw [encode,flatMap_cons,length_append,← encode,ih,length_cons]
    simp only [encodeByte,length_cons,length_nil]
    omega

theorem mem_encode (member : c ∈ encode bytes) : ∃ n < 16, c = n.digitChar := by
  obtain ⟨b,-,digit⟩ := mem_flatMap.mp member
  have small : b.toNat < 256 := b.toNat_lt
  rcases mem_cons.mp digit with rfl | digit
  · exact ⟨b.toNat / 16,by omega,rfl⟩
  · exact ⟨b.toNat % 16,Nat.mod_lt _ (by decide),mem_singleton.mp digit⟩

def format (width n : Nat) : List Char := (Nat.toDigits 16 n).leftpad width '0'

def readDigits (n : Nat) (digits : List Char) : Option Nat := digits.foldlM (fun n c => (value c).map (16 * n + ·)) n

/-- `from_str_radix` with radix 16, for a number below `bound`. -/
def parse (bound : Nat) (s : List Char) : Option Nat :=
  let digits := if s.head? = some '+' then s.drop 1 else s
  if digits = [] then none else (readDigits 0 digits).filter (· < bound)

theorem readDigits_append :
    readDigits n (first ++ rest) = (readDigits n first).bind (readDigits · rest) :=
  foldlM_append

theorem readDigits_zeros (count : Nat) : readDigits 0 (List.replicate count '0') = some 0 := by
  induction count with
  | zero => rfl
  | succ count ih => exact ih

theorem readDigits_toDigits : readDigits 0 (Nat.toDigits 16 n) = some n := by
  induction n using Nat.strongRecOn with
  | ind n ih =>
    by_cases small : n < 16
    · simp [Nat.toDigits_of_lt_base small,readDigits,small]
    · have low : n % 16 < 16 := Nat.mod_lt n (by decide)
      rw [Nat.toDigits_of_base_le (by decide) (by omega),readDigits_append,ih (n / 16) (by omega)]
      simp [readDigits,low,Nat.div_add_mod]

theorem mem_toDigits (member : c ∈ Nat.toDigits 16 n) : ∃ d < 16, c = d.digitChar := by
  induction n using Nat.strongRecOn with
  | ind n ih =>
    by_cases small : n < 16
    · rw [Nat.toDigits_of_lt_base small,mem_singleton] at member
      exact ⟨n,small,member⟩
    rw [Nat.toDigits_of_base_le (by decide) (by omega),mem_append,mem_singleton] at member
    rcases member with early | last
    · exact ih (n / 16) (by omega) early
    · exact ⟨n % 16,Nat.mod_lt n (by decide),last⟩

theorem mem_format (member : c ∈ format width n) : ∃ d < 16, c = d.digitChar := by
  rcases mem_append.mp member with zero | digit
  · exact ⟨0,by decide,(mem_replicate.mp zero).2⟩
  · exact mem_toDigits digit

theorem format_ne_nil : format width n ≠ [] := by
  intro empty
  exact Nat.toDigits_ne_nil (append_eq_nil_iff.mp empty).2

theorem parse_format (small : n < bound) : parse bound (format width n) = some n := by
  have unsigned : (format width n).head? ≠ some '+' := by
    intro signed
    obtain ⟨d,low,same⟩ := mem_format (mem_of_mem_head? signed)
    have all : ∀ d < 16, '+' ≠ Nat.digitChar d := by decide
    exact all d low same
  have filled : format width n ≠ [] := format_ne_nil
  have read : readDigits 0 (format width n) = some n := by
    rw [format,List.leftpad,readDigits_append,readDigits_zeros]
    exact readDigits_toDigits
  simp [parse,if_neg unsigned,filled,read,small]

/-- `u64::to_be_bytes`. -/
def toBeBytes (word : UInt64) : List UInt8 := [7,6,5,4,3,2,1,0].map fun i => UInt8.ofNat (word.toNat / 256 ^ i)

/-- `u64::from_be_bytes`. -/
def fromBeBytes (bytes : List UInt8) : UInt64 := UInt64.ofNat (bytes.foldl (fun n b => 256 * n + b.toNat) 0)

theorem fromBeBytes_toBeBytes (word : UInt64) : fromBeBytes (toBeBytes word) = word := by
  have small : word.toNat < 2 ^ 64 := word.toNat_lt
  have same : (toBeBytes word).foldl (fun n b => 256 * n + b.toNat) 0 = word.toNat := by
    simp only [toBeBytes,map_cons,map_nil,foldl_cons,foldl_nil,UInt8.toNat_ofNat']
    omega
  rw [fromBeBytes,same,UInt64.ofNat_toNat]

end CheetahSignaling.Hex
