import ClusterVpc.Net.Cidr

/-!
# Stepping through addresses

`incrementIP` joins the four bytes of an IPv4 address into a 64-bit `uint`,
adds the increment converted to `uint`, and splits the low 32 bits back into
four bytes with shifts and masks. Read as a 32-bit number the address moves
by the increment modulo `2 ^ 32`, for every increment, negative ones included:
the wrap at `255.255.255.255` is what the planner's loop relies on to stop.
-/

namespace ClusterVpc.Planner

open Net

/-- Go's `uint(inc)` for an `int` on a 64-bit platform: the two's-complement
bits read as unsigned. -/
def goUint (inc : Int) : UInt64 :=
  UInt64.ofNat (inc % (2 ^ 64 : Nat)).toNat

/-- `incrementIP`: the address `inc` places after `ip`, in sixteen-byte form;
`none` is the index panic on `ipv4[0]` when `ip` is not an IPv4 address. -/
def incrementIP (ip : IP) (inc : Int) : Option IP :=
  match ip.to4 with
  | [b0, b1, b2, b3] =>
    let joinedBytes : UInt64 :=
      (b0.toUInt64 <<< 24) + (b1.toUInt64 <<< 16) + (b2.toUInt64 <<< 8) + b3.toUInt64
    let joinedBytes := joinedBytes + goUint inc
    let byte3 := (joinedBytes &&& 0xFF).toUInt8
    let byte2 := ((joinedBytes >>> 8) &&& 0xFF).toUInt8
    let byte1 := ((joinedBytes >>> 16) &&& 0xFF).toUInt8
    let byte0 := ((joinedBytes >>> 24) &&& 0xFF).toUInt8
    some (ipv4 byte0 byte1 byte2 byte3)
  | _ => none

/-! ## Machine words as numbers -/

theorem UInt64.toNat_shiftLeft_lt (a n : UInt64) :
    (a <<< n).toNat = a.toNat * 2 ^ (n.toNat % 64) % 2 ^ 64 := by
  show (a.toBitVec <<< (n % 64).toBitVec).toNat = _
  simp [BitVec.toNat_shiftLeft, Nat.shiftLeft_eq, UInt64.toNat]
  rfl

theorem UInt64.toNat_shiftRight_lt (a n : UInt64) :
    (a >>> n).toNat = a.toNat / 2 ^ (n.toNat % 64) := by
  show (a.toBitVec >>> (n % 64).toBitVec).toNat = _
  simp [BitVec.toNat_ushiftRight, Nat.shiftRight_eq_div_pow, UInt64.toNat]
  rfl

theorem UInt64.toNat_add' (a b : UInt64) : (a + b).toNat = (a.toNat + b.toNat) % 2 ^ 64 :=
  rfl

@[simp]
theorem UInt8.toNat_toUInt64 (b : UInt8) : b.toUInt64.toNat = b.toNat :=
  rfl

@[simp]
theorem UInt64.toNat_toUInt8 (a : UInt64) : a.toUInt8.toNat = a.toNat % 256 :=
  rfl

theorem land_255 (x : Nat) : x &&& 255 = x % 256 :=
  Nat.and_pow_two_sub_one_eq_mod x 8

theorem toNat_goUint (inc : Int) : (goUint inc).toNat = (inc % (2 ^ 64 : Nat)).toNat := by
  have nonneg : 0 ≤ inc % (2 ^ 64 : Nat) := Int.emod_nonneg _ (by decide)
  have lt : inc % (2 ^ 64 : Nat) < (2 ^ 64 : Nat) := Int.emod_lt_of_pos _ (by decide)
  exact UInt64.toNat_ofNat_of_lt (by simp only [UInt64.size]; omega)

/-- Joining four bytes into a `uint` spells their big-endian number. -/
theorem toNat_joinedBytes (b0 b1 b2 b3 : UInt8) :
    ((b0.toUInt64 <<< 24) + (b1.toUInt64 <<< 16) + (b2.toUInt64 <<< 8) + b3.toUInt64).toNat =
      IP.value [b0, b1, b2, b3] := by
  have := b0.toNat_lt_size; have := b1.toNat_lt_size
  have := b2.toNat_lt_size; have := b3.toNat_lt_size
  simp only [UInt8.size] at *
  simp only [UInt64.toNat_add', UInt64.toNat_shiftLeft_lt, UInt8.toNat_toUInt64, value_four,
    show (24 : UInt64).toNat = 24 from rfl, show (16 : UInt64).toNat = 16 from rfl,
    show (8 : UInt64).toNat = 8 from rfl, Nat.reduceMod, Nat.reducePow]
  omega

/-- Splitting a `uint` with shifts and masks gives the four bytes of its low
32 bits. -/
theorem splitBytes_eq (j : UInt64) :
    [((j >>> 24) &&& 0xFF).toUInt8, ((j >>> 16) &&& 0xFF).toUInt8, ((j >>> 8) &&& 0xFF).toUInt8,
      (j &&& 0xFF).toUInt8] = ofValue j.toNat := by
  simp only [ofValue, List.cons.injEq, and_true]
  refine ⟨UInt8.toNat.inj ?_, UInt8.toNat.inj ?_, UInt8.toNat.inj ?_, UInt8.toNat.inj ?_⟩ <;>
    simp only [UInt64.toNat_toUInt8, toNat_toUInt8, UInt64.toNat_shiftRight_lt, UInt64.and_toNat, land_255,
      show (24 : UInt64).toNat = 24 from rfl, show (16 : UInt64).toNat = 16 from rfl,
      show (8 : UInt64).toNat = 8 from rfl, show (0xFF : UInt64).toNat = 255 from rfl, Nat.mod_mod,
      Nat.reduceMod]

@[simp]
theorem to4_mapped {x : IP} (four : x.length = 4) : (v4InV6Prefix ++ x).to4 = x := by
  simp [IP.to4, ipv4len, ipv6len, four, v4InV6Prefix]

/-- `incrementIP` on an IPv4 address is `ofValue` of the moved number. -/
theorem incrementIP_eq {ip : IP} (v4 : ip.to4.length = 4) (inc : Int) :
    incrementIP ip inc =
      some (v4InV6Prefix ++ ofValue ((IP.value ip.to4 + (inc % (2 ^ 64 : Nat)).toNat) % 2 ^ 64)) := by
  unfold incrementIP
  match ip.to4, v4 with
  | [b0, b1, b2, b3], _ =>
    simp only [ipv4]
    rw [splitBytes_eq, UInt64.toNat_add', toNat_joinedBytes, toNat_goUint]

/-- The number of the moved address is the number of `ip` plus `inc`, modulo
`2 ^ 32`. -/
theorem value_moved (v : Nat) (inc : Int) :
    ((IP.value (ofValue ((v + (inc % (2 ^ 64 : Nat)).toNat) % 2 ^ 64)) : Nat) : Int) = (v + inc) % (2 ^ 32 : Nat) := by
  rw [value_ofValue]
  have nonneg : 0 ≤ inc % (2 ^ 64 : Nat) := Int.emod_nonneg _ (by decide)
  have cast : (((inc % (2 ^ 64 : Nat)).toNat : Nat) : Int) = inc % (2 ^ 64 : Nat) := Int.toNat_of_nonneg nonneg
  omega

/-- Every IPv4 address moved by any `int` is an IPv4 address whose number is
the old one plus the increment, modulo `2 ^ 32`. -/
theorem incrementIP_value (ip : IP) (inc : Int) (v4 : ip.to4 ≠ []) :
    ∃ next, incrementIP ip inc = some next ∧ next.to4.length = 4 ∧
      (IP.value next.to4 : Int) = (IP.value ip.to4 + inc) % (2 ^ 32 : Nat) := by
  have four := (to4_eq_nil_or_length_four ip).resolve_left v4
  refine ⟨_, incrementIP_eq four inc, by simp, ?_⟩
  rw [to4_mapped (length_ofValue _)]
  exact value_moved _ _

/-- Moving `0.0.0.0` back by one wraps to `255.255.255.255`. -/
theorem incrementIP_value_wraps :
    IP.to4 [0, 0, 0, 0] ≠ [] ∧
      ∃ next, incrementIP [0, 0, 0, 0] (-1) = some next ∧ next.to4.length = 4 ∧
        (IP.value next.to4 : Int) = (IP.value (IP.to4 [0, 0, 0, 0]) + -1) % (2 ^ 32 : Nat) :=
  ⟨by decide, incrementIP_value _ _ (by decide)⟩

end ClusterVpc.Planner
