import ClusterVpc.Planner.Subnets

/-!
# What the planner is for

The candidate sequence of a VPC block is a list of `/27` blocks, each lying in
the VPC block, each above the next with no address in common (highest first),
and with every `/27` block of the VPC block among them. The planner's output on
an IPv4 block of 1 to 26 prefix bits is the candidate sequence of the block the
text denotes.
-/

namespace ClusterVpc.Planner

open Net

/-- The `/27` block at address value `a` lies in the VPC block. -/
def Block.Holds (v : Block) (a : Nat) : Prop :=
  a % 32 = 0 ∧ v.base ≤ a ∧ a + 32 ≤ v.base + v.size

/-- Modelled from the spec: the candidate sequence of a VPC block. -/
structure CandidateSequence (v : Block) where
  candidates : List IPNet
  prefix_length : ∀ n ∈ candidates, n.mask = cidrMask 27 32
  inside : ∀ n ∈ candidates, n.ip.length = 4 ∧ v.Holds n.ip.value
  highest_first : candidates.Pairwise fun n m => m.ip.value + 32 ≤ n.ip.value
  complete : ∀ a, v.Holds a → ⟨ofValue a, cidrMask 27 32⟩ ∈ candidates

theorem mem_subnetCandidates {base ones : Nat} {n : IPNet} :
    n ∈ subnetCandidates base ones ↔ ∃ k < 2 ^ (27 - ones), block base k = n := by
  simp [subnetCandidates]

namespace Block

variable (v : Block)

theorem value_block {k : Nat} (lt : k < v.count) : (block v.base k).ip.value = v.base + 32 * k := by
  have fits := v.base_add_size_le
  have size_eq := v.size_eq
  rw [block, value_ofValue, Nat.mod_eq_of_lt (by rw [size_eq] at fits; omega)]

theorem holds_block {k : Nat} (lt : k < v.count) : v.Holds (block v.base k).ip.value := by
  have aligned := v.base_mod_32
  have size_eq := v.size_eq
  rw [v.value_block lt]
  exact ⟨by omega, by omega, by rw [size_eq]; omega⟩

theorem candidates_highest_first :
    (subnetCandidates v.base v.ones).Pairwise fun n m => m.ip.value + 32 ≤ n.ip.value := by
  rw [subnetCandidates, List.pairwise_map, List.pairwise_reverse]
  refine (List.pairwise_lt_range _).imp_of_mem fun {j k} j_mem k_mem lt => ?_
  rw [v.value_block (List.mem_range.mp k_mem), v.value_block (List.mem_range.mp j_mem)]
  omega

theorem mem_candidates_of_holds {a : Nat} (holds : v.Holds a) :
    (⟨ofValue a, cidrMask 27 32⟩ : IPNet) ∈ subnetCandidates v.base v.ones := by
  obtain ⟨aligned, above, below⟩ := holds
  have base_aligned := v.base_mod_32
  have size_eq := v.size_eq
  refine mem_subnetCandidates.mpr ⟨(a - v.base) / 32, ?_, ?_⟩
  · show _ < v.count
    omega
  · rw [block]
    congr 2
    omega

/-- The candidate sequence the planner returns for the block. -/
def plan : CandidateSequence v where
  candidates := subnetCandidates v.base v.ones
  prefix_length := fun _ mem => by
    obtain ⟨k, -, rfl⟩ := mem_subnetCandidates.mp mem
    rfl
  inside := fun _ mem => by
    obtain ⟨k, lt, rfl⟩ := mem_subnetCandidates.mp mem
    exact ⟨length_ofValue _, v.holds_block lt⟩
  highest_first := v.candidates_highest_first
  complete := fun _ holds => v.mem_candidates_of_holds holds

end Block

/-- The planner meets its purpose: on an IPv4 VPC block of 1 to 26 prefix bits
it returns, without error, the candidate sequence of the block the text
denotes. -/
theorem buildSubnetAddress_plans (vpcId : String) (a b c d : UInt8) (ones : Nat) (pos : 1 ≤ ones)
    (le : ones ≤ 26) :
    ∃ plan : CandidateSequence (Block.ofText a b c d ones pos le),
      buildSubnetAddress ⟨vpcId, .ipv4 a b c d ones⟩ = .ok plan.candidates :=
  ⟨(Block.ofText a b c d ones pos le).plan, buildSubnetAddress_ipv4 vpcId pos le⟩

/-- The planner on `10.0.0.0/16`. -/
theorem buildSubnetAddress_plans_sixteen :
    (1 ≤ 16 ∧ 16 ≤ 26) ∧ ∃ plan : CandidateSequence (Block.ofText 10 0 0 0 16 (by decide) (by decide)),
      buildSubnetAddress ⟨"vpc-a", .ipv4 10 0 0 0 16⟩ = .ok plan.candidates :=
  ⟨by decide, buildSubnetAddress_plans "vpc-a" 10 0 0 0 16 (by decide) (by decide)⟩

/-- The planner on every VPC: an IPv4 block of 1 to 26 prefix bits gets its
candidate sequence, a `/0` block makes the loop run on, and every other text
is an error. The planner never panics. -/
theorem buildSubnetAddress_outcomes (vpc : Vpc) :
    (∃ a b c d ones, ∃ (pos : 1 ≤ ones) (le : ones ≤ 26), vpc.cidrBlock = .ipv4 a b c d ones ∧
      buildSubnetAddress vpc = .ok (Block.ofText a b c d ones pos le).plan.candidates) ∨
    (∃ err, buildSubnetAddress vpc = .error (.error err)) ∨
    ((∃ a b c d, vpc.cidrBlock = .ipv4 a b c d 0) ∧ buildSubnetAddress vpc = .error .loops) := by
  obtain ⟨vpcId, cidr⟩ := vpc
  cases cidr with
  | ipv4 a b c d ones =>
    rcases Nat.lt_or_ge 26 ones with big | le
    · exact .inr (.inl (buildSubnetAddress_too_small vpcId big))
    rcases Nat.eq_zero_or_pos ones with rfl | pos
    · exact .inr (.inr ⟨⟨a, b, c, d, rfl⟩, buildSubnetAddress_zero_loops vpcId a b c d⟩)
    · exact .inl ⟨a, b, c, d, ones, pos, le, rfl, buildSubnetAddress_ipv4 vpcId pos le⟩
  | other text =>
    refine .inr (.inl ?_)
    by_cases empty : text = ""
    · subst empty
      exact ⟨_, rfl⟩
    · exact ⟨_, by simp only [buildSubnetAddress, CidrText.other.injEq, empty, ↓reduceIte, parseCIDR]; rfl⟩

end ClusterVpc.Planner
