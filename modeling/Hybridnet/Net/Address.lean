import Mathlib.Tactic.Linarith
import Mathlib.Tactic.Positivity
import Mathlib.Algebra.Order.Ring.Int

/-!
# Addresses, prefixes and CIDR blocks

An address is the integer that `ipToInt` of `pkg/utils` reads out of a `net.IP`,
so that `utils.Cmp` is the order of `Int`, and `utils.PrevIP` and `utils.NextIP`
subtract and add one. A `net.IPNet` is an address with the length of its
`net.CIDRMask`; membership compares the leading bits, as `net.IPNet.Contains`
does.

A network whose address is its own network address is an interval whose length
is a power of two, aligned to that power. Two such networks that share an address
are nested, which is what the greedy decomposition of ranges relies on.
-/

namespace Hybridnet

/-- The two address families; `net.IPv4len * 8` and `net.IPv6len * 8` bits. -/
inductive Family where
  | v4
  | v6
  deriving DecidableEq, Repr

/-- Number of bits of an address of the family. -/
def Family.bits : Family → Nat
  | .v4 => 32
  | .v6 => 128

/-- An address that a `net.IP` of the family can hold. -/
def Family.Valid (family : Family) (ip : Int) : Prop :=
  0 ≤ ip ∧ ip < 2 ^ family.bits

instance (family : Family) (ip : Int) : Decidable (family.Valid ip) :=
  inferInstanceAs (Decidable (_ ∧ _))

/-- Modelled from the spec: `utils.PrevIP`, the predecessor in the address order.
It is the integer below; below the zero address it is no address of the family. -/
def prevIP (ip : Int) : Int := ip - 1

/-- Modelled from the spec: `utils.NextIP`, the successor in the address order. -/
def nextIP (ip : Int) : Int := ip + 1

/-- A `net.IPNet`: an address and the length `ones` of its mask. -/
structure IPNet where
  ip : Int
  ones : Nat
  deriving DecidableEq, Repr

instance : ToString IPNet := ⟨fun n => toString n.ip ++ "/" ++ toString n.ones⟩

/-- `ip.Mask(net.CIDRMask(ones, bits))`: keep the leading `ones` bits. -/
def maskIP (bits ones : Nat) (ip : Int) : Int :=
  ip / 2 ^ (bits - ones) * 2 ^ (bits - ones)

namespace IPNet

variable (family : Family) (n : IPNet)

/-- Number of host bits of the network. -/
def hostBits : Nat := family.bits - n.ones

/-- `n.Contains(ip)`: the leading `ones` bits of `ip` are those of `n.IP`. -/
def contains (ip : Int) : Bool :=
  ip / 2 ^ n.hostBits family = n.ip / 2 ^ n.hostBits family

/-- The network address `n.IP.Mask(n.Mask)`. -/
def network : Int := maskIP family.bits n.ones n.ip

/-- `LastIP(n)`: the last address of the network. -/
def lastIP : Int := n.network family + 2 ^ n.hostBits family - 1

/-- `n` is a CIDR block of the family: a mask no longer than the address, and an
address that is its own network address. -/
def IsBlock : Prop :=
  n.ones ≤ family.bits ∧ family.Valid n.ip ∧ n.ip % 2 ^ n.hostBits family = 0

instance : Decidable (n.IsBlock family) :=
  inferInstanceAs (Decidable (_ ∧ _ ∧ _))

end IPNet

/-! ## Aligned intervals -/

section Aligned

variable {m a x : Int}

theorem ediv_eq_iff_mem (positive : 0 < m) :
    a / m = x / m ↔ x / m * m ≤ a ∧ a < x / m * m + m := by
  constructor
  · intro equal
    rw [← equal]
    have := Int.emod_add_ediv' a m
    have := Int.emod_nonneg a (ne_of_gt positive)
    have := Int.emod_lt_of_pos a positive
    omega
  · rintro ⟨lower, upper⟩
    have low : x / m ≤ a / m := (Int.le_ediv_iff_mul_le positive).2 lower
    have high : a / m < x / m + 1 :=
      (Int.ediv_lt_iff_lt_mul positive).2 (by rw [add_mul, one_mul]; exact upper)
    omega

theorem ediv_mul_eq_of_emod_eq_zero (aligned : x % m = 0) : x / m * m = x := by
  have := Int.emod_add_ediv' x m
  omega

/-- Membership in an aligned interval, read off the quotient. -/
theorem ediv_eq_iff_of_aligned (positive : 0 < m) (aligned : x % m = 0) :
    a / m = x / m ↔ x ≤ a ∧ a < x + m := by
  rw [ediv_eq_iff_mem positive, ediv_mul_eq_of_emod_eq_zero aligned]

/-- Two multiples of `m` differ by at least `m`. -/
theorem add_le_of_lt_of_dvd {y : Int} (positive : 0 < m)
    (dvdX : m ∣ x) (dvdY : m ∣ y) (lt : x < y) : x + m ≤ y := by
  obtain ⟨i, rfl⟩ := dvdX
  obtain ⟨j, rfl⟩ := dvdY
  have : i < j := lt_of_mul_lt_mul_left lt positive.le
  nlinarith

theorem emod_pow_eq_zero_of_le {k j : Nat} (le : k ≤ j) (aligned : x % 2 ^ j = 0) :
    x % 2 ^ k = 0 :=
  Int.emod_emod_of_dvd x (pow_dvd_pow 2 le) ▸ by rw [aligned]; rfl

end Aligned

namespace IPNet

variable {family : Family} {n n' : IPNet} {a : Int}

theorem pow_hostBits_pos : 0 < (2 : Int) ^ n.hostBits family := by positivity

theorem contains_iff :
    n.contains family a ↔ a / 2 ^ n.hostBits family = n.ip / 2 ^ n.hostBits family := by
  simp [contains]

theorem network_of_aligned (aligned : n.ip % 2 ^ n.hostBits family = 0) :
    n.network family = n.ip :=
  ediv_mul_eq_of_emod_eq_zero aligned

theorem lastIP_of_aligned (aligned : n.ip % 2 ^ n.hostBits family = 0) :
    n.lastIP family = n.ip + 2 ^ n.hostBits family - 1 := by
  rw [lastIP, network_of_aligned aligned]

/-- The network of a valid address of the family ends at a valid address. -/
theorem valid_lastIP (valid : family.Valid n.ip) : family.Valid (n.lastIP family) := by
  have positive : 0 < (2 : Int) ^ n.hostBits family := pow_hostBits_pos
  have dvd : (2 : Int) ^ n.hostBits family ∣ n.network family := Dvd.intro_left _ rfl
  have low : 0 ≤ n.network family :=
    Int.mul_nonneg (Int.ediv_nonneg valid.1 positive.le) positive.le
  have below : n.network family ≤ n.ip := Int.ediv_mul_le _ positive.ne'
  have high := add_le_of_lt_of_dvd positive dvd (pow_dvd_pow 2 (Nat.sub_le _ _))
    (lt_of_le_of_lt below valid.2)
  rw [lastIP]
  exact ⟨by omega, by omega⟩

/-- A network whose address is its network address holds exactly the addresses
from that address to its last one. -/
theorem contains_iff_of_aligned (aligned : n.ip % 2 ^ n.hostBits family = 0) :
    n.contains family a ↔ n.ip ≤ a ∧ a ≤ n.lastIP family := by
  rw [contains_iff, ediv_eq_iff_of_aligned pow_hostBits_pos aligned,
    lastIP_of_aligned aligned]
  omega

/-- With no host bits left, a network holds its address alone. -/
theorem lastIP_eq_of_contains_of_bits_le (full : family.bits ≤ n.ones)
    (contained : n.contains family a) : n.lastIP family = a := by
  have none : family.bits - n.ones = 0 := Nat.sub_eq_zero_of_le full
  simp only [contains_iff, hostBits, none, pow_zero, Int.ediv_one] at contained
  simp only [lastIP, network, maskIP, hostBits, none, pow_zero, Int.ediv_one, mul_one,
    contained]
  omega

/-- Two aligned networks with a common address are nested: the one with fewer host
bits lies inside the other. -/
theorem nested_of_hostBits_le (aligned : n.ip % 2 ^ n.hostBits family = 0)
    (aligned' : n'.ip % 2 ^ n'.hostBits family = 0)
    (fewer : n.hostBits family ≤ n'.hostBits family)
    (common : n.contains family a) (common' : n'.contains family a) :
    n'.ip ≤ n.ip ∧ n.lastIP family ≤ n'.lastIP family := by
  rw [contains_iff_of_aligned aligned, lastIP_of_aligned aligned] at common
  rw [contains_iff_of_aligned aligned', lastIP_of_aligned aligned'] at common'
  rw [lastIP_of_aligned aligned, lastIP_of_aligned aligned']
  have positive : 0 < (2 : Int) ^ n.hostBits family := pow_hostBits_pos
  have divides : (2 : Int) ^ n.hostBits family ∣ 2 ^ n'.hostBits family := pow_dvd_pow 2 fewer
  have dvdIP : (2 : Int) ^ n.hostBits family ∣ n.ip := Int.dvd_of_emod_eq_zero aligned
  have dvdIP' : (2 : Int) ^ n.hostBits family ∣ n'.ip :=
    divides.trans (Int.dvd_of_emod_eq_zero aligned')
  constructor
  · by_contra later
    have := add_le_of_lt_of_dvd positive dvdIP dvdIP' (by omega)
    omega
  · have := add_le_of_lt_of_dvd positive dvdIP (Int.dvd_add dvdIP' divides) (by omega)
    omega

end IPNet

end Hybridnet
