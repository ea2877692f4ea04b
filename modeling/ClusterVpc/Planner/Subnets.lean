import ClusterVpc.Planner.Increment
import ClusterVpc.Cloud.Records

/-!
# Candidate subnet blocks

`buildSubnetAddress` reads the VPC's block, refuses blocks that cannot hold a
`/27`, and lists every `/27` block of the VPC, highest first.
`generateAvailableSubnets` finds them by stepping one address at a time from
the VPC's number, masking each address to its `/27` block and keeping the
blocks it has not seen; the loop stops at the first address outside the VPC
block. The loop has no bound of its own, so the model runs it on fuel: one
round more than there are IPv4 addresses.
-/

namespace ClusterVpc.Planner

open Net

/-- `defaultSubnetMask`: the prefix length of the subnets the code creates. -/
def defaultSubnetMask : Nat := 27

/-- `containsNetwork`: whether one of the networks has the address `toFind`. -/
def containsNetwork (networks : List IPNet) (toFind : IP) : Bool :=
  networks.any fun n => n.ip.equal toFind

/-- The `for` loop of `generateAvailableSubnets` from index `i`, with the
networks found so far. Go evaluates `incrementIP(toIPv4, i)` twice per round,
in the condition and in the body; it is one value. -/
def generateLoop (fromCIDR : IPNet) (toIPv4 : IP) (toMask : IPMask) :
    Nat → Nat → List IPNet → Except Abort (List IPNet)
  | 0, _, _ => .error .loops
  | fuel + 1, i, networks =>
    match incrementIP toIPv4 i with
    | none => .error (.panic "index out of range")
    | some nextFoundNetwork =>
      if fromCIDR.contains nextFoundNetwork then
        let nextFoundNetworkMasked := nextFoundNetwork.mask toMask
        if containsNetwork networks nextFoundNetworkMasked then
          generateLoop fromCIDR toIPv4 toMask fuel (i + 1) networks
        else
          generateLoop fromCIDR toIPv4 toMask fuel (i + 1)
            (networks ++ [⟨nextFoundNetworkMasked, toMask⟩])
      else .ok networks

/-- The rounds the model gives the loop. `incrementIP` is periodic in its
increment with period `2 ^ 32`, so a loop that has not stopped by then never
stops. -/
def generateFuel : Nat := 2 ^ 32 + 1

/-- `generateAvailableSubnets`: the blocks of `toCIDR`'s size met while stepping
from `toCIDR`'s address through `fromCIDR`, in the order they are met. -/
def generateAvailableSubnets (fromCIDR toCIDR : IPNet) : Except Abort (List IPNet) :=
  let toIPv4 := toCIDR.ip.to4
  generateLoop fromCIDR toIPv4 toCIDR.mask generateFuel 0 [⟨toIPv4, toCIDR.mask⟩]

/-- `buildSubnetAddress`: every `/27` block of the VPC's block, highest first. -/
def buildSubnetAddress (vpc : Vpc) : Except Abort (List IPNet) := do
  if vpc.cidrBlock = .other "" then
    throw (.error (.new "vpc cidr block can't be empty"))
  let (_, awsCIDR) ← (parseCIDR vpc.cidrBlock).mapError fun err =>
    .error (.wrap err ("failed to parse vpc cidr block " ++ vpc.cidrBlock.render))
  let (maskSize, _) := awsCIDR.mask.size
  if maskSize ≥ defaultSubnetMask then
    throw (.error (.new ("vpc cidr block " ++ vpc.cidrBlock.render ++
      " cannot contain generated subnet mask /" ++ toString defaultSubnetMask)))
  let croCIDRStr := cidrText awsCIDR.ip defaultSubnetMask
  let (_, croCIDR) ← (parseCIDR croCIDRStr).mapError fun err =>
    .error (.wrap err ("failed to parse cro cidr block " ++ croCIDRStr.render))
  let networks ← generateAvailableSubnets awsCIDR croCIDR
  pure networks.reverse

/-! ## The loop on a VPC block -/

theorem incrementIP_nat {x : IP} (four : x.length = 4) (i : Nat) :
    incrementIP x i = some (v4InV6Prefix ++ ofValue (IP.value x + i)) := by
  rw [incrementIP_eq (by rw [to4_of_length_four four]; exact four), to4_of_length_four four]
  congr 2
  rw [ofValue_eq_ofValue]
  omega

theorem contains_mapped {base : IP} (base_four : base.length = 4) {p : Nat} (le : p ≤ 32) (v : Nat) :
    (IPNet.mk base (cidrMask p 32)).contains (v4InV6Prefix ++ ofValue v) =
      decide (v % 2 ^ 32 / 2 ^ (32 - p) = IP.value base / 2 ^ (32 - p)) := by
  rw [contains_cidrMask base_four le (by simp), to4_mapped (length_ofValue v), value_ofValue]

theorem mask_mapped {p : Nat} (le : p ≤ 32) (v : Nat) :
    (v4InV6Prefix ++ ofValue v).mask (cidrMask p 32) = ofValue (v % 2 ^ 32 / 2 ^ (32 - p) * 2 ^ (32 - p)) := by
  rw [mask_of_to4 (by simp) (length_cidrMask le), to4_mapped (length_ofValue v),
    ← ofValue_value (by simp [length_cidrMask le] :
      (List.zipWith (· &&& ·) (ofValue v) (cidrMask p 32)).length = 4), value_masked (length_ofValue v) le,
    value_ofValue]


/-- The `k`-th `/27` block above `base`. -/
def block (base k : Nat) : IPNet :=
  ⟨ofValue (base + 32 * k), cidrMask 27 32⟩

/-- The first `n` `/27` blocks above `base`, lowest first. -/
def blocks (base n : Nat) : List IPNet :=
  (List.range n).map (block base)

theorem blocks_succ (base n : Nat) : blocks base (n + 1) = blocks base n ++ [block base n] := by
  simp [blocks, List.range_succ]

/-- A VPC block the planner can divide into `/27` blocks: a network number
aligned to its prefix length, with a prefix of at most 26 bits. -/
structure Block where
  base : Nat
  ones : Nat
  base_lt : base < 2 ^ 32
  aligned : base % 2 ^ (32 - ones) = 0
  pos : 1 ≤ ones
  le : ones ≤ 26

namespace Block

variable (v : Block)

/-- The number of addresses of the block. -/
def size : Nat := 2 ^ (32 - v.ones)

/-- The number of `/27` blocks in the block. -/
def count : Nat := 2 ^ (27 - v.ones)

/-- The block as the `IPNet` `net.ParseCIDR` gives. -/
def network : IPNet := ⟨ofValue v.base, cidrMask v.ones 32⟩

theorem size_eq : v.size = 32 * v.count := by
  rw [size, count, show 32 - v.ones = 5 + (27 - v.ones) by have := v.le; omega, Nat.pow_add]

theorem two_le_count : 2 ≤ v.count := by
  have := v.le
  calc 2 = 2 ^ 1 := rfl
    _ ≤ 2 ^ (27 - v.ones) := Nat.pow_le_pow_right (by decide) (by omega)

theorem base_add_size_le : v.base + v.size ≤ 2 ^ 32 := by
  have total : 2 ^ 32 = v.size * 2 ^ v.ones := by
    rw [size, ← Nat.pow_add, Nat.sub_add_cancel (by have := v.le; omega)]
  have split := Nat.div_add_mod v.base v.size
  rw [size, v.aligned, Nat.add_zero, ← size] at split
  have quotient_lt : v.base / v.size < 2 ^ v.ones := by
    rw [Nat.div_lt_iff_lt_mul (k := v.size) (Nat.two_pow_pos _), Nat.mul_comm, ← total]; exact v.base_lt
  calc v.base + v.size = v.size * (v.base / v.size + 1) := by rw [Nat.mul_add, split, Nat.mul_one]
    _ ≤ v.size * 2 ^ v.ones := Nat.mul_le_mul_left _ quotient_lt
    _ = 2 ^ 32 := total.symm

theorem div_add_of_lt {i : Nat} (lt : i < v.size) : (v.base + i) / v.size = v.base / v.size := by
  have pos : 0 < v.size := Nat.two_pow_pos _
  obtain ⟨q, base_eq⟩ := Nat.dvd_of_mod_eq_zero v.aligned
  rw [← size] at base_eq
  rw [base_eq, Nat.mul_add_div pos, Nat.mul_div_cancel_left q pos, Nat.div_eq_of_lt lt, Nat.add_zero]

theorem base_mod_32 : v.base % 32 = 0 := by
  exact Nat.mod_eq_zero_of_dvd (Nat.dvd_trans ⟨v.count, v.size_eq⟩ (Nat.dvd_of_mod_eq_zero v.aligned))

end Block

/-- Among the first `n` blocks above `base`, the one at `base + 32 * m` is found
exactly when `m < n`. -/
theorem containsNetwork_blocks {base n m : Nat} (fits : base + 32 * n ≤ 2 ^ 32)
    (m_fits : base + 32 * m < 2 ^ 32) :
    containsNetwork (blocks base n) (ofValue (base + 32 * m)) = decide (m < n) := by
  rw [Bool.eq_iff_iff, decide_eq_true_iff]
  simp only [containsNetwork, blocks, List.any_eq_true, List.mem_map, List.mem_range, block,
    exists_exists_and_eq_and, equal_of_four (length_ofValue _) (length_ofValue _), decide_eq_true_eq,
    ofValue_eq_ofValue]
  constructor
  · rintro ⟨k, lt, same⟩
    have : base + 32 * k < 2 ^ 32 := by omega
    rw [Nat.mod_eq_of_lt this, Nat.mod_eq_of_lt m_fits] at same
    omega
  · intro lt
    exact ⟨m, lt, rfl⟩

namespace Block

variable (v : Block)

/-- The loop's condition at an index up to the block's size: the address that
many places past the block's number is inside the block exactly below the
size. -/
theorem contains_offset {i : Nat} (le : i ≤ v.size) :
    v.network.contains (v4InV6Prefix ++ ofValue (v.base + i)) = decide (i < v.size) := by
  have fits := v.base_add_size_le
  have pos : 0 < v.size := Nat.two_pow_pos _
  simp only [network]
  rw [contains_mapped (length_ofValue _) (by have := v.le; omega), value_ofValue,
    Nat.mod_eq_of_lt v.base_lt, show 2 ^ (32 - v.ones) = v.size from rfl]
  rcases Nat.lt_or_eq_of_le le with lt | rfl
  · rw [Nat.mod_eq_of_lt (by omega), v.div_add_of_lt lt]
    simp [lt]
  rcases Nat.lt_or_eq_of_le fits with below | top
  · rw [Nat.mod_eq_of_lt below, Nat.add_div_right _ pos]
    simp
  · have half : v.size * 2 ≤ 2 ^ 32 := by
      have := v.pos
      calc v.size * 2 = 2 ^ (32 - v.ones + 1) := by rw [size, Nat.pow_succ]
        _ ≤ 2 ^ 32 := Nat.pow_le_pow_right (by decide) (by omega)
    have above : 0 < v.base / v.size := Nat.div_pos (by omega) pos
    rw [top, Nat.mod_self, Nat.zero_div]
    simp [above.ne]

/-- The address the loop steps to at an index up to the block's size, and
whether the loop goes on there. -/
theorem incrementIP_contains (i : Nat) (le : i ≤ v.size) :
    ∃ next, incrementIP (ofValue v.base) i = some next ∧ v.network.contains next = decide (i < v.size) :=
  ⟨_, by rw [incrementIP_nat (length_ofValue _), value_ofValue, Nat.mod_eq_of_lt v.base_lt],
    v.contains_offset le⟩

/-- The loop from index `i`, having found the blocks of the addresses before
`i` (at least the first, which it starts with), finds all `count` blocks and
stops at the first address past the VPC block. -/
theorem generateLoop_blocks (fuel i : Nat) (le : i ≤ v.size) (enough : v.size - i < fuel) :
    generateLoop v.network (ofValue v.base) (cidrMask 27 32) fuel i
        (blocks v.base (max 1 ((i + 31) / 32))) =
      .ok (blocks v.base v.count) := by
  have size_eq := v.size_eq
  have fits := v.base_add_size_le
  have base_mod := v.base_mod_32
  have two_le := v.two_le_count
  induction fuel generalizing i with
  | zero => omega
  | succ fuel ih =>
    rw [generateLoop, incrementIP_nat (length_ofValue _), value_ofValue, Nat.mod_eq_of_lt v.base_lt]
    dsimp only
    rw [v.contains_offset le]
    by_cases last : i = v.size
    · subst last
      simp only [Nat.lt_irrefl, decide_False, Bool.false_eq_true, ↓reduceIte, Except.ok.injEq]
      congr 1
      omega
    · have lt : i < v.size := by omega
      have masked : (v.base + i) % 2 ^ 32 / 2 ^ (32 - 27) * 2 ^ (32 - 27) = v.base + 32 * (i / 32) := by
        rw [Nat.mod_eq_of_lt (by omega)]; omega
      simp only [lt, decide_True, ↓reduceIte, mask_mapped (by decide : 27 ≤ 32), masked]
      rw [containsNetwork_blocks (by omega) (by omega)]
      by_cases seen : i / 32 < max 1 ((i + 31) / 32)
      · simp only [seen, decide_True, ↓reduceIte]
        rw [show max 1 ((i + 31) / 32) = max 1 ((i + 1 + 31) / 32) by omega]
        exact ih (i + 1) (by omega) (by omega)
      · simp only [seen, decide_False, Bool.false_eq_true, ↓reduceIte]
        rw [show max 1 ((i + 31) / 32) = i / 32 by omega, ← block, ← blocks_succ,
          show i / 32 + 1 = max 1 ((i + 1 + 31) / 32) by omega]
        exact ih (i + 1) (by omega) (by omega)

theorem generateAvailableSubnets_blocks :
    generateAvailableSubnets v.network ⟨ofValue v.base, cidrMask 27 32⟩ = .ok (blocks v.base v.count) := by
  have half : v.size ≤ 2 ^ 31 := Nat.pow_le_pow_right (by decide) (by have := v.pos; omega)
  have start : [(⟨ofValue v.base, cidrMask 27 32⟩ : IPNet)] = blocks v.base (max 1 ((0 + 31) / 32)) := rfl
  rw [generateAvailableSubnets, to4_of_length_four (length_ofValue _), start]
  exact v.generateLoop_blocks generateFuel 0 (Nat.zero_le _) (by unfold generateFuel; omega)

end Block

/-- The network number of `a.b.c.d/ones`: the address rounded down to its block. -/
def networkBase (a b c d : UInt8) (ones : Nat) : Nat :=
  IP.value [a, b, c, d] / 2 ^ (32 - ones) * 2 ^ (32 - ones)

/-- Every `/27` block of the VPC block `base/ones`, highest first: the
candidates the planner is meant to produce. -/
def subnetCandidates (base ones : Nat) : List IPNet :=
  (List.range (2 ^ (27 - ones))).reverse.map (block base)

/-- The block of an IPv4 CIDR text with a prefix of 1 to 26 bits. -/
def Block.ofText (a b c d : UInt8) (ones : Nat) (pos : 1 ≤ ones) (le : ones ≤ 26) : Block where
  base := networkBase a b c d ones
  ones := ones
  base_lt := by
    have := value_lt (rfl : [a, b, c, d].length = 4)
    have := Nat.div_mul_le_self (IP.value [a, b, c, d]) (2 ^ (32 - ones))
    unfold networkBase; omega
  aligned := Nat.mul_mod_left _ _
  pos := pos
  le := le

/-- On an IPv4 block with a prefix of at most 26 bits, `buildSubnetAddress`
passes the block and its lowest `/27` block to `generateAvailableSubnets` and
reverses what it returns. -/
theorem buildSubnetAddress_eq_generate (vpcId : String) {a b c d : UInt8} {ones : Nat} (le : ones ≤ 26) :
    buildSubnetAddress ⟨vpcId, .ipv4 a b c d ones⟩ =
      (generateAvailableSubnets ⟨ofValue (networkBase a b c d ones), cidrMask ones 32⟩
        ⟨ofValue (networkBase a b c d ones), cidrMask 27 32⟩).map List.reverse := by
  have base_mod : networkBase a b c d ones % 32 = 0 :=
    Nat.mod_eq_zero_of_dvd (Nat.dvd_trans (Nat.pow_dvd_pow 2 (by omega : 5 ≤ 32 - ones)) (Nat.dvd_mul_left _ _))
  have base_lt : networkBase a b c d ones < 2 ^ 32 := by
    have := value_lt (rfl : [a, b, c, d].length = 4)
    have := Nat.div_mul_le_self (IP.value [a, b, c, d]) (2 ^ (32 - ones))
    unfold networkBase; omega
  obtain ⟨croIP, cro_parse⟩ := parseCIDR_cidrText_ofValue (networkBase a b c d ones) (by decide : 27 ≤ 32)
  have cro : networkBase a b c d ones % 2 ^ 32 / 2 ^ (32 - 27) * 2 ^ (32 - 27) = networkBase a b c d ones := by
    rw [Nat.mod_eq_of_lt base_lt]; omega
  have small : ¬ ones ≥ defaultSubnetMask := by unfold defaultSubnetMask; omega
  have parse := parseCIDR_ipv4 (a := a) (b := b) (c := c) (d := d) (le.trans (by decide : 26 ≤ 32))
  rw [← networkBase] at parse
  simp only [buildSubnetAddress, reduceCtorEq, ↓reduceIte, parse, Except.mapError_ok, Except.ok_bind,
    size_cidrMask (le.trans (by decide : 26 ≤ 32)), small, pure_bind]
  simp only [defaultSubnetMask, cro_parse, Except.mapError_ok, Except.ok_bind, cro]
  generalize generateAvailableSubnets _ _ = generated
  cases generated <;> rfl

theorem buildSubnetAddress_ipv4 (vpcId : String) {a b c d : UInt8} {ones : Nat} (pos : 1 ≤ ones)
    (le : ones ≤ 26) :
    buildSubnetAddress ⟨vpcId, .ipv4 a b c d ones⟩ = .ok (subnetCandidates (networkBase a b c d ones) ones) := by
  have generated := (Block.ofText a b c d ones pos le).generateAvailableSubnets_blocks
  simp only [Block.network, Block.ofText] at generated
  rw [buildSubnetAddress_eq_generate vpcId le, generated]
  show Except.ok _ = Except.ok _
  simp only [blocks, subnetCandidates, Block.count, List.map_reverse]

theorem buildSubnetAddress_too_small (vpcId : String) {a b c d : UInt8} {ones : Nat} (ge : 27 ≤ ones) :
    ∃ err, buildSubnetAddress ⟨vpcId, .ipv4 a b c d ones⟩ = .error (.error err) := by
  by_cases le : ones ≤ 32
  · have too_small : ones ≥ defaultSubnetMask := ge
    simp only [buildSubnetAddress, reduceCtorEq, ↓reduceIte, parseCIDR_ipv4 le, Except.mapError_ok,
      Except.ok_bind, size_cidrMask le, pure_bind, too_small]
    exact ⟨_, rfl⟩
  · obtain ⟨err, parse⟩ := parseCIDR_ipv4_of_lt (a := a) (b := b) (c := c) (d := d) (Nat.lt_of_not_le le)
    simp only [buildSubnetAddress, reduceCtorEq, ↓reduceIte, parse, Except.mapError_error,
      Except.error_bind, pure_bind]
    exact ⟨_, rfl⟩

/-- The planner on an IPv4 VPC block with network number `b = networkBase`:
with a prefix of 1 to 26 bits it returns exactly the `2 ^ (27 - ones)` blocks
`b + 32 * k` with the `/27` mask, from the highest `k` down to `0`; with a
prefix of 27 bits or more it returns an error. -/
theorem buildSubnetAddress_candidates (vpcId : String) (a b c d : UInt8) (ones : Nat) :
    (1 ≤ ones → ones ≤ 26 → buildSubnetAddress ⟨vpcId, .ipv4 a b c d ones⟩ =
        .ok (subnetCandidates (networkBase a b c d ones) ones)) ∧
      (27 ≤ ones → ∃ err, buildSubnetAddress ⟨vpcId, .ipv4 a b c d ones⟩ = .error (.error err)) :=
  ⟨buildSubnetAddress_ipv4 vpcId, buildSubnetAddress_too_small vpcId⟩

/-- The planner's loop ends on every IPv4 block of 1 to 26 prefix bits: with
the network `net.ParseCIDR` gives as `fromCIDR` and its number as `toIPv4`, the
loop's condition holds at every index below `2 ^ (32 - ones)` and fails at that
index, and `buildSubnetAddress` returns its `2 ^ (27 - ones)` candidates. -/
theorem buildSubnetAddress_terminates (vpcId : String) (a b c d : UInt8) (ones : Nat) (pos : 1 ≤ ones)
    (le : ones ≤ 26) :
    (∃ ip, parseCIDR (.ipv4 a b c d ones) = .ok (ip, ⟨ofValue (networkBase a b c d ones), cidrMask ones 32⟩)) ∧
      (∀ i : Nat, i ≤ 2 ^ (32 - ones) →
        ∃ next, incrementIP (ofValue (networkBase a b c d ones)) i = some next ∧
          (IPNet.mk (ofValue (networkBase a b c d ones)) (cidrMask ones 32)).contains next =
            decide (i < 2 ^ (32 - ones))) ∧
      ∃ candidates, buildSubnetAddress ⟨vpcId, .ipv4 a b c d ones⟩ = .ok candidates ∧
        candidates.length = 2 ^ (27 - ones) :=
  ⟨⟨_, parseCIDR_ipv4 (le.trans (by decide))⟩, (Block.ofText a b c d ones pos le).incrementIP_contains,
    _, buildSubnetAddress_ipv4 vpcId pos le, by simp [subnetCandidates]⟩

/-- The loop on `10.0.0.0/16` leaves at index `65536`. -/
theorem buildSubnetAddress_terminates_sixteen :
    (1 ≤ 16 ∧ 16 ≤ 26) ∧
      (∃ ip, parseCIDR (.ipv4 10 0 0 0 16) = .ok (ip, ⟨ofValue (networkBase 10 0 0 0 16), cidrMask 16 32⟩)) ∧
      (∀ i : Nat, i ≤ 2 ^ (32 - 16) → ∃ next, incrementIP (ofValue (networkBase 10 0 0 0 16)) i = some next ∧
        (IPNet.mk (ofValue (networkBase 10 0 0 0 16)) (cidrMask 16 32)).contains next =
          decide (i < 2 ^ (32 - 16))) ∧
      ∃ candidates, buildSubnetAddress ⟨"vpc-a", .ipv4 10 0 0 0 16⟩ = .ok candidates ∧
        candidates.length = 2 ^ (27 - 16) :=
  ⟨⟨by decide, by decide⟩, buildSubnetAddress_terminates "vpc-a" 10 0 0 0 16 (by decide) (by decide)⟩

/-! ## A `/0` block -/

/-- With the whole address space as the VPC block, every address the loop
steps to is inside it. -/
theorem contains_everything (i : Nat) :
    ∃ next, incrementIP (ofValue 0) i = some next ∧ (IPNet.mk (ofValue 0) (cidrMask 0 32)).contains next = true :=
  ⟨_, incrementIP_nat (length_ofValue 0) i, by
    rw [contains_mapped (length_ofValue 0) (by decide), value_ofValue]; simp⟩

theorem generateLoop_everything (fuel i : Nat) (networks : List IPNet) :
    generateLoop ⟨ofValue 0, cidrMask 0 32⟩ (ofValue 0) (cidrMask 27 32) fuel i networks = .error .loops := by
  induction fuel generalizing i networks with
  | zero => rfl
  | succ fuel ih =>
    obtain ⟨next, step, inside⟩ := contains_everything i
    rw [generateLoop, step]
    simp only [inside, ↓reduceIte]
    split <;> exact ih _ _

/-- A `/0` VPC block makes the planner's loop run out of fuel. -/
theorem buildSubnetAddress_zero_loops (vpcId : String) (a b c d : UInt8) :
    buildSubnetAddress ⟨vpcId, .ipv4 a b c d 0⟩ = .error .loops := by
  have base_zero : networkBase a b c d 0 = 0 := by
    rw [networkBase, Nat.div_eq_of_lt (value_lt (rfl : [a, b, c, d].length = 4)), Nat.zero_mul]
  rw [buildSubnetAddress_eq_generate vpcId (Nat.zero_le 26), base_zero, generateAvailableSubnets,
    to4_of_length_four (length_ofValue _), generateLoop_everything]
  rfl

/-- On `0.0.0.0/0` the loop has no exit index: `net.ParseCIDR` gives the
network `0.0.0.0/0`, every index's address is inside it, and the planner runs
out of any fuel. -/
theorem buildSubnetAddress_whole_space :
    (∃ ip, parseCIDR (.ipv4 0 0 0 0 0) = .ok (ip, ⟨ofValue 0, cidrMask 0 32⟩)) ∧
      (∀ i : Nat, ∃ next, incrementIP (ofValue 0) i = some next ∧
        (IPNet.mk (ofValue 0) (cidrMask 0 32)).contains next = true) ∧
      buildSubnetAddress ⟨"vpc-a", .ipv4 0 0 0 0 0⟩ = .error .loops :=
  ⟨⟨_, parseCIDR_ipv4 (Nat.zero_le 32)⟩, contains_everything, buildSubnetAddress_zero_loops "vpc-a" 0 0 0 0⟩

end ClusterVpc.Planner
