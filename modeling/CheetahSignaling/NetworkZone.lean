import CheetahSignaling.Str
import Mathlib.Algebra.Group.Nat.Defs

/-! The network zones of a listener: a block of addresses is given by a base and the number of leading bits that count. -/
namespace CheetahSignaling.Gb28181.Ingress

open Str

inductive Address where
  | v4 (octets : Vector UInt8 4)
  | v6 (octets : Vector UInt8 16)

namespace Address

def octets : Address → List UInt8
  | .v4 octets => octets.toList
  | .v6 octets => octets.toList

def width : Address → Nat
  | .v4 _ => 32
  | .v6 _ => 128

end Address

inductive IngressConfigError where
  | invalidZone (text : String)

structure NetworkZone where
  base : Address
  prefixLen : Nat
  valid : prefixLen ≤ base.width

/-- Compares the leading bits of two byte arrays of one length. -/
def prefixMatches : (base candidate : List UInt8) → (remaining : Nat) → Bool
  | b :: base, c :: candidate, remaining =>
    if remaining = 0 then true
    else if remaining ≥ 8 then
      if b ≠ c then false else prefixMatches base candidate (remaining - 8)
    else
      let mask : UInt8 := 0xff <<< UInt8.ofNat (8 - remaining)
      b &&& mask == c &&& mask
  | _, _, _ => true

namespace NetworkZone

def parse (parseIp : String → Option Address) (cidr : String) : Except IngressConfigError NetworkZone :=
  match splitOnce ['/'] cidr.toList with
  | none => .error (.invalidZone cidr)
  | some (addr,bits) =>
    match parseIp (String.ofList addr),parseUnsigned (2 ^ 8) bits with
    | some base,some prefixLen =>
      if valid : prefixLen ≤ base.width then .ok ⟨base,prefixLen,valid⟩ else .error (.invalidZone cidr)
    | _,_ => .error (.invalidZone cidr)

def contains (zone : NetworkZone) (ip : Address) : Bool :=
  match zone.base,ip with
  | .v4 base,.v4 ip => prefixMatches base.toList ip.toList zone.prefixLen
  | .v6 base,.v6 ip => prefixMatches base.toList ip.toList zone.prefixLen
  | _,_ => false

end NetworkZone

/-- The number that the bytes are in network order. -/
def number : List UInt8 → Nat
  | [] => 0
  | b :: rest => b.toNat * 2 ^ (8 * rest.length) + number rest

def Address.number (address : Address) : Nat := Ingress.number address.octets

theorem number_lt (octets : List UInt8) : number octets < 2 ^ (8 * octets.length) := by
  induction octets with
  | nil => decide
  | cons b rest ih =>
    have top : b.toNat + 1 ≤ 2 ^ 8 := b.toNat_lt
    calc number (b :: rest) < b.toNat * 2 ^ (8 * rest.length) + 2 ^ (8 * rest.length) := Nat.add_lt_add_left ih _
      _ = (b.toNat + 1) * 2 ^ (8 * rest.length) := (Nat.add_one_mul ..).symm
      _ ≤ 2 ^ 8 * 2 ^ (8 * rest.length) := Nat.mul_le_mul_right _ top
      _ = 2 ^ (8 * (b :: rest).length) := by rw [← Nat.pow_add,List.length_cons]; congr 1; omega

/-- The mask clears the low bits. -/
theorem toNat_masked (b : UInt8) (few : s < 8) : (b &&& (0xff <<< UInt8.ofNat s)).toNat = b.toNat / 2 ^ s * 2 ^ s := by
  have all : ∀ s < 8, ∀ n < 256, n &&& (255 <<< s % 256) = n / 2 ^ s * 2 ^ s := by decide +kernel
  simpa [Nat.mod_eq_of_lt few,Nat.mod_eq_of_lt (Nat.lt_trans few (by decide : 8 < 256))] using all s few b.toNat b.toNat_lt

theorem mul_add_inj {x w : Nat} (low : x < w) (low' : y < w) : q * w + x = r * w + y ↔ q = r ∧ x = y := by
  have quotient {q x : Nat} (low : x < w) : (q * w + x) / w = q := by
    rw [Nat.mul_comm,Nat.mul_add_div (Nat.zero_lt_of_lt low),Nat.div_eq_of_lt low,Nat.add_zero]
  constructor
  · intro sums
    have same : q = r := (quotient low).symm.trans (sums ▸ quotient low')
    exact ⟨same,Nat.add_left_cancel (same ▸ sums)⟩
  · rintro ⟨rfl,rfl⟩
    rfl

theorem number_div_whole (b : UInt8) (rest : List UInt8) (le : k ≤ 8 * rest.length) :
    number (b :: rest) / 2 ^ k = b.toNat * 2 ^ (8 * rest.length - k) + number rest / 2 ^ k := by
  obtain ⟨m,split⟩ := Nat.exists_eq_add_of_le le
  rw [number,split,Nat.pow_add,Nat.mul_left_comm,Nat.mul_add_div (Nat.two_pow_pos k),Nat.add_sub_cancel_left]

theorem number_div_inside (b : UInt8) (rest : List UInt8) (s : Nat) :
    number (b :: rest) / 2 ^ (8 * rest.length + s) = b.toNat / 2 ^ s := by
  rw [Nat.pow_add,← Nat.div_div_eq_div_mul,number_div_whole b rest (Nat.le_refl _),Nat.div_eq_of_lt (number_lt rest)]
  simp

theorem prefixMatches_iff (same : base.length = candidate.length) (le : remaining ≤ 8 * base.length) :
    prefixMatches base candidate remaining = true ↔
      number base / 2 ^ (8 * base.length - remaining) = number candidate / 2 ^ (8 * base.length - remaining) := by
  -- Over the bytes, with what remains of the prefix; the low bytes of both numbers are below one unit of the high ones.
  induction base generalizing candidate remaining with
  | nil =>
    obtain rfl := List.length_eq_zero_iff.mp same.symm
    simp [prefixMatches]
  | cons b base ih =>
    obtain _ | ⟨c,candidate⟩ := candidate
    · cases same
    have same : base.length = candidate.length := Nat.succ.inj same
    simp only [List.length_cons] at le ⊢
    unfold prefixMatches
    split
    · rename_i none
      have below := number_lt (b :: base)
      have below' := number_lt (c :: candidate)
      rw [List.length_cons] at below below'
      rw [← same] at below'
      simp [none,Nat.div_eq_of_lt below,Nat.div_eq_of_lt below']
    split
    · rename_i whole
      have left : 8 * (base.length + 1) - remaining = 8 * base.length - (remaining - 8) := by omega
      have few : 8 * base.length - (remaining - 8) ≤ 8 * base.length := Nat.sub_le ..
      have ih : prefixMatches base candidate (remaining - 8) = true ↔ _ := ih same (by omega)
      rw [left,number_div_whole b base few,number_div_whole c candidate (same ▸ few),← same]
      generalize 8 * base.length - (remaining - 8) = k at *
      have room : 2 ^ (8 * base.length) = 2 ^ k * 2 ^ (8 * base.length - k) := by rw [← Nat.pow_add]; congr 1; omega
      have low : number base / 2 ^ k < 2 ^ (8 * base.length - k) := Nat.div_lt_of_lt_mul (room ▸ number_lt base)
      have low' : number candidate / 2 ^ k < 2 ^ (8 * base.length - k) :=
        Nat.div_lt_of_lt_mul (room ▸ same ▸ number_lt candidate)
      rw [mul_add_inj low low',UInt8.toNat_inj,← ih]
      by_cases agree : b = c <;> simp [agree]
    · rename_i part
      have left : 8 * (base.length + 1) - remaining = 8 * base.length + (8 - remaining) := by omega
      rw [left,number_div_inside b base,same,number_div_inside c candidate,beq_iff_eq,← UInt8.toNat_inj,
        toNat_masked b (by omega),toNat_masked c (by omega)]
      exact Nat.mul_left_inj (Nat.ne_of_gt (Nat.two_pow_pos _))

/-- A zone contains exactly the addresses of its family that have its leading bits. -/
theorem zone_contains_iff (zone : NetworkZone) (ip : Address) :
    zone.contains ip = true ↔ zone.base.width = ip.width ∧
      zone.base.number / 2 ^ (zone.base.width - zone.prefixLen) = ip.number / 2 ^ (zone.base.width - zone.prefixLen) := by
  obtain ⟨base,prefixLen,valid⟩ := zone
  cases base <;> cases ip
  case v4.v4 base ip =>
    exact (prefixMatches_iff (by simp) (by simpa [Address.width] using valid)).trans
      (by simp [Address.width,Address.number,Address.octets])
  case v6.v6 base ip =>
    exact (prefixMatches_iff (by simp) (by simpa [Address.width] using valid)).trans
      (by simp [Address.width,Address.number,Address.octets])
  all_goals simp [NetworkZone.contains,Address.width]

end CheetahSignaling.Gb28181.Ingress
