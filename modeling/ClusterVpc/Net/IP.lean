import Mathlib.Data.Nat.Bitwise
import Mathlib.Data.List.Basic

/-!
# Go's `net` addresses as byte slices

The planner works on the address types of Go's `net` package. An `IP` is a
byte slice of four bytes (IPv4) or sixteen bytes (IPv6, or IPv4 in its
sixteen-byte form); an `IPMask` is a byte slice of the same lengths. The
functions below follow the standard library's code byte for byte, with `nil`
rendered as the empty slice.

The second half connects four-byte slices to the 32-bit numbers they spell,
so that masking and containment become division by powers of two.
-/

namespace ClusterVpc.Net

/-- `net.IP`: a byte slice. -/
abbrev IP := List UInt8

/-- `net.IPMask`: a byte slice. -/
abbrev IPMask := List UInt8

/-- `net.IPNet`: an address and the mask of its network. -/
structure IPNet where
  ip : IP
  mask : IPMask
deriving DecidableEq, Repr

/-- `net.IPv4len`. -/
def ipv4len : Nat := 4

/-- `net.IPv6len`. -/
def ipv6len : Nat := 16

/-- The twelve bytes in front of an IPv4 address in its sixteen-byte form. -/
def v4InV6Prefix : IP := [0, 0, 0, 0, 0, 0, 0, 0, 0, 0, 0xff, 0xff]

/-- `net.IPv4(a, b, c, d)`: the sixteen-byte form of an IPv4 address. -/
def ipv4 (a b c d : UInt8) : IP := v4InV6Prefix ++ [a, b, c, d]

/-- `IP.To4`: the four-byte form of an IPv4 address, `nil` for anything else. -/
def IP.to4 (ip : IP) : IP :=
  if ip.length = ipv4len then ip
  else if ip.length = ipv6len ∧ ip.take 12 = v4InV6Prefix then ip.drop 12
  else []

/-- `IP.Mask`: the bytes of `ip` and-ed with those of `mask`, after both are
brought to the same form; `nil` when their lengths still differ. -/
def IP.mask (ip : IP) (mask : IPMask) : IP :=
  let mask :=
    if mask.length = ipv6len ∧ ip.length = ipv4len ∧ (mask.take 12).all (· = 0xff) then
      mask.drop 12
    else mask
  let ip :=
    if mask.length = ipv4len ∧ ip.length = ipv6len ∧ ip.take 12 = v4InV6Prefix then ip.drop 12
    else ip
  if ip.length = mask.length then List.zipWith (· &&& ·) ip mask else []

/-- `IP.Equal`: equality of addresses, a four-byte and a sixteen-byte form of one
IPv4 address counting as equal. -/
def IP.equal (ip x : IP) : Bool :=
  if ip.length = x.length then ip = x
  else if ip.length = ipv4len ∧ x.length = ipv6len then x.take 12 = v4InV6Prefix ∧ ip = x.drop 12
  else if ip.length = ipv6len ∧ x.length = ipv4len then ip.take 12 = v4InV6Prefix ∧ ip.drop 12 = x
  else false

/-- The loop of `net.CIDRMask` over the mask's bytes: `n` ones are still to be
written. -/
def cidrMaskBytes : Nat → Nat → IPMask
  | 0, _ => []
  | l + 1, n =>
    if n ≥ 8 then 0xff :: cidrMaskBytes l (n - 8)
    else ~~~((0xff : UInt8) >>> n.toUInt8) :: cidrMaskBytes l 0

/-- `net.CIDRMask(ones, bits)`: `ones` one bits followed by zeros, `bits` long. -/
def cidrMask (ones bits : Nat) : IPMask :=
  if bits ≠ 8 * ipv4len ∧ bits ≠ 8 * ipv6len then []
  else if ones > bits then []
  else cidrMaskBytes (bits / 8) ones

/-- The inner loop of `simpleMaskLength`: `for v&0x80 != 0 { n++; v <<= 1 }`,
with the at most eight rounds it can take as fuel. -/
def leadingOnes : Nat → UInt8 → Nat × UInt8
  | 0, v => (0, v)
  | fuel + 1, v =>
    if v &&& 0x80 ≠ 0 then
      let (n, rest) := leadingOnes fuel (v <<< 1)
      (n + 1, rest)
    else (0, v)

/-- `simpleMaskLength`: the number of leading ones of a canonical mask, `none`
(Go's `-1`) for a mask that is not ones followed by zeros. -/
def simpleMaskLength : IPMask → Option Nat
  | [] => some 0
  | v :: rest =>
    if v = 0xff then (simpleMaskLength rest).map (· + 8)
    else
      let (n, remaining) := leadingOnes 8 v
      if remaining ≠ 0 then none
      else if rest.all (· = 0) then some n
      else none

/-- `IPMask.Size`: the leading ones and the total bits of a canonical mask,
`(0, 0)` otherwise. -/
def IPMask.size (m : IPMask) : Nat × Nat :=
  match simpleMaskLength m with
  | some ones => (ones, m.length * 8)
  | none => (0, 0)

/-- `networkNumberAndMask`: the network's address and mask brought to one form,
`nil` when they do not fit together. -/
def networkNumberAndMask (n : IPNet) : Option (IP × IPMask) := do
  let ip ← if n.ip.to4 = [] then (if n.ip.length = ipv6len then some n.ip else none)
    else some n.ip.to4
  if n.mask.length = ipv4len then
    if ip.length = ipv4len then some (ip, n.mask) else none
  else if n.mask.length = ipv6len then
    some (ip, if ip.length = ipv4len then n.mask.drop 12 else n.mask)
  else none

/-- `IPNet.Contains`: whether `ip` lies in the network, comparing the masked
bytes of both. -/
def IPNet.contains (n : IPNet) (ip : IP) : Bool :=
  let (nn, m) := (networkNumberAndMask n).getD ([], [])
  let ip := if ip.to4 = [] then ip else ip.to4
  ip.length = nn.length ∧ List.zipWith (· &&& ·) nn m = List.zipWith (· &&& ·) ip m


/-! ## Four-byte addresses as 32-bit numbers -/

/-- The big-endian number spelled by an address's bytes. -/
def IP.value (ip : IP) : Nat := ip.foldl (fun acc b => acc * 256 + b.toNat) 0

/-- The four bytes of a 32-bit number, most significant first. -/
def ofValue (v : Nat) : IP := [(v / 2 ^ 24).toUInt8, (v / 2 ^ 16).toUInt8, (v / 2 ^ 8).toUInt8, v.toUInt8]

@[simp]
theorem toNat_toUInt8 (n : Nat) : n.toUInt8.toNat = n % 256 :=
  rfl

@[simp]
theorem value_four (a b c d : UInt8) :
    IP.value [a, b, c, d] = a.toNat * 2 ^ 24 + b.toNat * 2 ^ 16 + c.toNat * 2 ^ 8 + d.toNat := by
  simp only [IP.value, List.foldl]
  omega

@[simp]
theorem length_ofValue (v : Nat) : (ofValue v).length = 4 :=
  rfl

theorem value_ofValue (v : Nat) : (ofValue v).value = v % 2 ^ 32 := by
  simp only [ofValue, value_four, toNat_toUInt8]
  omega

theorem ofValue_value {ip : IP} (four : ip.length = 4) : ofValue ip.value = ip := by
  match ip, four with
  | [a, b, c, d], _ =>
    have := a.toNat_lt_size; have := b.toNat_lt_size
    have := c.toNat_lt_size; have := d.toNat_lt_size
    simp only [UInt8.size] at *
    simp only [ofValue, value_four, List.cons.injEq, and_true]
    refine ⟨UInt8.toNat.inj ?_, UInt8.toNat.inj ?_, UInt8.toNat.inj ?_, UInt8.toNat.inj ?_⟩ <;>
      simp only [toNat_toUInt8] <;> omega

theorem ofValue_eq_ofValue {v w : Nat} : ofValue v = ofValue w ↔ v % 2 ^ 32 = w % 2 ^ 32 := by
  constructor
  · intro same
    rw [← value_ofValue, same, value_ofValue]
  · intro same
    simp only [ofValue, List.cons.injEq, and_true]
    refine ⟨UInt8.toNat.inj ?_, UInt8.toNat.inj ?_, UInt8.toNat.inj ?_, UInt8.toNat.inj ?_⟩ <;>
      simp only [toNat_toUInt8] <;> omega

theorem value_lt {ip : IP} (four : ip.length = 4) : ip.value < 2 ^ 32 := by
  rw [← ofValue_value four, value_ofValue]
  exact Nat.mod_lt _ (by decide)

/-- And-ing two numbers digit by digit in base 256. -/
theorem land_digit {x y a b : Nat} (ha : a < 256) (hb : b < 256) :
    (x * 256 + a) &&& (y * 256 + b) = (x &&& y) * 256 + (a &&& b) := by
  have hab : a &&& b < 2 ^ 8 := Nat.and_lt_two_pow a hb
  apply Nat.eq_of_testBit_eq
  intro i
  rw [Nat.testBit_land, Nat.mul_comm x, Nat.mul_comm y, Nat.mul_comm (x &&& y)]
  rw [show (256 : Nat) = 2 ^ 8 from rfl, Nat.testBit_mul_pow_two_add _ ha,
    Nat.testBit_mul_pow_two_add _ hb, Nat.testBit_mul_pow_two_add _ hab]
  split <;> simp [Nat.testBit_land]

theorem value_zipWith_land {ip m : IP} (ip_four : ip.length = 4) (m_four : m.length = 4) :
    IP.value (List.zipWith (· &&& ·) ip m) = IP.value ip &&& IP.value m := by
  match ip, m, ip_four, m_four with
  | [a0, a1, a2, a3], [m0, m1, m2, m3], _, _ =>
    simp only [List.zipWith_cons_cons, List.zipWith_nil_left, IP.value, List.foldl, UInt8.and_toNat]
    simp only [Nat.zero_mul, Nat.zero_add]
    rw [land_digit a3.toNat_lt_size m3.toNat_lt_size, land_digit a2.toNat_lt_size m2.toNat_lt_size,
      land_digit a1.toNat_lt_size m1.toNat_lt_size]

theorem value_cidrMask : ∀ p < 33, IP.value (cidrMask p 32) = 2 ^ 32 - 2 ^ (32 - p) := by
  decide

/-- And-ing with the high `32 - k` bits of a 32-bit number rounds down to a
multiple of `2 ^ k`. -/
theorem land_high_bits {v k : Nat} (lt : v < 2 ^ 32) (le : k ≤ 32) :
    v &&& (2 ^ 32 - 2 ^ k) = v / 2 ^ k * 2 ^ k := by
  apply Nat.eq_of_testBit_eq
  intro i
  have mask_eq : 2 ^ 32 - 2 ^ k = 2 ^ 32 - ((2 ^ k - 1) + 1) := by
    have := Nat.one_le_two_pow (n := k); omega
  have sub_lt : 2 ^ k - 1 < 2 ^ 32 := by
    have := Nat.pow_le_pow_right (by decide : 0 < 2) le; omega
  rw [Nat.testBit_land, mask_eq, Nat.testBit_two_pow_sub_succ sub_lt, Nat.testBit_two_pow_sub_one,
    Nat.mul_comm, Nat.testBit_mul_pow_two, ← Nat.shiftRight_eq_div_pow, Nat.testBit_shiftRight]
  by_cases ik : k ≤ i
  · have bits_eq : k + (i - k) = i := by omega
    by_cases i32 : i < 32
    · simp [ik, i32, bits_eq]
    · have high : v.testBit i = false :=
        Nat.testBit_lt_two_pow (Nat.lt_of_lt_of_le lt (Nat.pow_le_pow_right (by decide) (by omega)))
      simp [high, bits_eq]
  · have low : i < k := by omega
    simp [ik, low]

theorem eq_iff_value_eq {x y : IP} (x_four : x.length = 4) (y_four : y.length = 4) :
    x = y ↔ IP.value x = IP.value y := by
  constructor
  · intro same; rw [same]
  · intro same; rw [← ofValue_value x_four, ← ofValue_value y_four, same]

@[simp]
theorem length_cidrMaskBytes (l n : Nat) : (cidrMaskBytes l n).length = l := by
  induction l generalizing n with
  | zero => rfl
  | succ l ih => unfold cidrMaskBytes; split <;> simp [ih]

theorem length_cidrMask {p : Nat} (le : p ≤ 32) : (cidrMask p 32).length = 4 := by
  simp [cidrMask, ipv4len, Nat.not_lt.mpr le]

theorem simpleMaskLength_cidrMask : ∀ p < 33, simpleMaskLength (cidrMask p 32) = some p := by
  decide

theorem size_cidrMask {p : Nat} (le : p ≤ 32) : (cidrMask p 32).size = (p, 32) := by
  simp [IPMask.size, simpleMaskLength_cidrMask p (Nat.lt_succ_of_le le), length_cidrMask le]

/-- The bytes of `x` and-ed with a prefix mask are the 32-bit number of `x`
rounded down to the prefix's block. -/
theorem value_masked {x : IP} (four : x.length = 4) {p : Nat} (le : p ≤ 32) :
    IP.value (List.zipWith (· &&& ·) x (cidrMask p 32)) = IP.value x / 2 ^ (32 - p) * 2 ^ (32 - p) := by
  rw [value_zipWith_land four (length_cidrMask le), value_cidrMask p (Nat.lt_succ_of_le le),
    land_high_bits (value_lt four) (Nat.sub_le 32 p)]

theorem to4_of_length_four {ip : IP} (four : ip.length = 4) : ip.to4 = ip := by
  simp [IP.to4, ipv4len, four]

@[simp]
theorem to4_ipv4 (a b c d : UInt8) : (ipv4 a b c d).to4 = [a, b, c, d] := by
  simp [IP.to4, ipv4, ipv4len, ipv6len, v4InV6Prefix]

/-- An address is in IPv4 form exactly when `To4` returns four bytes; otherwise
it returns `nil`. -/
theorem to4_eq_nil_or_length_four (ip : IP) : ip.to4 = [] ∨ ip.to4.length = 4 := by
  unfold IP.to4
  split
  · exact .inr ‹_›
  · split
    · exact .inr (by simp [List.length_drop, ‹_ ∧ _›.1, ipv6len])
    · exact .inl rfl

/-- Masking an IPv4 address, in either form, with a four-byte mask and-s its
four bytes. -/
theorem mask_of_to4 {ip m : IP} (four : ip.to4.length = 4) (m_four : m.length = 4) :
    ip.mask m = List.zipWith (· &&& ·) ip.to4 m := by
  unfold IP.to4 at four ⊢
  by_cases ip_four : ip.length = 4
  · simp [IP.mask, ipv4len, ipv6len, m_four, ip_four]
  · by_cases mapped : ip.length = ipv6len ∧ ip.take 12 = v4InV6Prefix
    · simp only [ipv4len] at four ⊢
      simp only [ip_four, mapped, if_false, if_true, and_self] at four ⊢
      simp [IP.mask, ipv4len, ipv6len, m_four, mapped.1, mapped.2, four]
    · simp [ip_four, mapped, ipv4len] at four

theorem networkNumberAndMask_four {base m : IP} (base_four : base.length = 4) (m_four : m.length = 4) :
    networkNumberAndMask ⟨base, m⟩ = some (base, m) := by
  have ne : base ≠ [] := by intro h; simp [h] at base_four
  simp [networkNumberAndMask, to4_of_length_four base_four, ne, m_four, base_four, ipv4len]

/-- Containment in a four-byte network with a prefix mask: the address and the
network number agree above the prefix. -/
theorem contains_cidrMask {base : IP} (base_four : base.length = 4) {p : Nat} (le : p ≤ 32)
    {ip : IP} (four : ip.to4.length = 4) :
    (IPNet.mk base (cidrMask p 32)).contains ip =
      decide (IP.value ip.to4 / 2 ^ (32 - p) = IP.value base / 2 ^ (32 - p)) := by
  have ne : ip.to4 ≠ [] := by intro h; simp [h] at four
  have block_pos : 0 < 2 ^ (32 - p) := Nat.two_pow_pos _
  simp only [IPNet.contains, networkNumberAndMask_four base_four (length_cidrMask le), Option.getD_some,
    ne, if_false, four, base_four, true_and]
  refine decide_eq_decide.mpr ?_
  rw [eq_iff_value_eq (by simp [base_four, length_cidrMask le]) (by simp [four, length_cidrMask le]),
    value_masked base_four le, value_masked four le]
  constructor
  · intro same; exact (Nat.eq_of_mul_eq_mul_right block_pos same).symm
  · intro same; rw [same]

theorem equal_of_four {x y : IP} (x_four : x.length = 4) (y_four : y.length = 4) :
    x.equal y = decide (x = y) := by
  simp [IP.equal, x_four, y_four]

end ClusterVpc.Net
