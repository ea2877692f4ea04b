import ClusterVpc.Cloud.Provider

/-!
# What every run of the provider preserves

Along any sequence of provider steps the zone list and the VPCs stay as they
are, the log only grows, and a listed subnet stays listed with its identity,
VPC and zone and at least its tag keys: nothing the code sends removes a
subnet or a tag. The log also stays consistent with the listing: a subnet that
a logged `CreateSubnet` created is listed, and a successful `CreateTags` right
after its creation left its tag keys on it.
-/

namespace ClusterVpc

/-- The tag keys of a subnet. -/
def Subnet.keys (sub : Subnet) : List String :=
  sub.tags.map (·.key)

/-- `s` lists a subnet with the identity, VPC and zone of `sub` and at least
its tag keys. -/
def Persists (sub : Subnet) (s : Cloud) : Prop :=
  ∃ sub' ∈ s.subnets, sub'.subnetId = sub.subnetId ∧ sub'.vpcId = sub.vpcId ∧
    sub'.availabilityZone = sub.availabilityZone ∧ ∀ k ∈ sub.keys, k ∈ sub'.keys

/-- Every subnet `s` lists persists in `s'`. -/
def Keeps (s s' : Cloud) : Prop :=
  ∀ sub ∈ s.subnets, Persists sub s'

theorem Persists.of_mem {sub : Subnet} {s : Cloud} (mem : sub ∈ s.subnets) : Persists sub s :=
  ⟨sub, mem, rfl, rfl, rfl, fun _ k => k⟩

theorem Persists.keep {sub : Subnet} {s s' : Cloud} (persists : Persists sub s) (keeps : Keeps s s') :
    Persists sub s' := by
  obtain ⟨mid, mid_mem, same_id, same_vpc, same_zone, mid_keys⟩ := persists
  obtain ⟨last, last_mem, id_eq, vpc_eq, zone_eq, last_keys⟩ := keeps mid mid_mem
  exact ⟨last, last_mem, id_eq.trans same_id, vpc_eq.trans same_vpc, zone_eq.trans same_zone,
    fun k mem => last_keys k (mid_keys k mem)⟩

theorem Keeps.refl (s : Cloud) : Keeps s s :=
  fun _ mem => .of_mem mem

theorem Keeps.trans {s t u : Cloud} (first : Keeps s t) (second : Keeps t u) : Keeps s u :=
  fun sub mem => (first sub mem).keep second

namespace Cloud

theorem mem_keys_setTag {tags : List Tag} {tag : Tag} {k : String} :
    k ∈ (setTag tags tag).map (·.key) ↔ k ∈ tags.map (·.key) ∨ k = tag.key := by
  unfold setTag
  split
  · rename_i present
    simp only [List.any_eq_true, decide_eq_true_eq] at present
    obtain ⟨old, old_mem, old_key⟩ := present
    simp only [List.map_map, List.mem_map, Function.comp_apply]
    constructor
    · rintro ⟨t, t_mem, rfl⟩
      by_cases same : t.key = tag.key
      · exact .inr (by simp [same])
      · exact .inl ⟨t, t_mem, by simp [same]⟩
    · rintro (⟨t, t_mem, rfl⟩ | rfl)
      · by_cases same : t.key = tag.key
        · exact ⟨t, t_mem, by simp [same]⟩
        · exact ⟨t, t_mem, by simp [same]⟩
      · exact ⟨old, old_mem, by simp [old_key]⟩
  · simp

theorem mem_keys_applyTags {tags new : List Tag} {k : String} :
    k ∈ (applyTags tags new).map (·.key) ↔ k ∈ tags.map (·.key) ∨ k ∈ new.map (·.key) := by
  induction new generalizing tags with
  | nil => simp [applyTags]
  | cons tag rest ih =>
    simp only [applyTags, List.foldl_cons] at ih ⊢
    rw [ih, mem_keys_setTag]
    simp only [List.map_cons, List.mem_cons]
    tauto

theorem keeps_tagSubnets (subnets : List Subnet) (input : CreateTagsInput) (sub : Subnet)
    (mem : sub ∈ subnets) :
    ∃ sub' ∈ tagSubnets subnets input, sub'.subnetId = sub.subnetId ∧ sub'.vpcId = sub.vpcId ∧
      sub'.availabilityZone = sub.availabilityZone ∧ ∀ k ∈ sub.keys, k ∈ sub'.keys := by
  refine ⟨_, List.mem_map_of_mem _ mem, ?_⟩
  split
  · exact ⟨rfl, rfl, rfl, fun k k_mem => mem_keys_applyTags.mpr (.inl k_mem)⟩
  · exact ⟨rfl, rfl, rfl, fun _ k_mem => k_mem⟩

/-- A subnet named by a successful `CreateTags` carries every key it sent. -/
theorem tagged_tagSubnets (subnets : List Subnet) (input : CreateTagsInput) (sub : Subnet)
    (mem : sub ∈ subnets) (named : sub.subnetId ∈ input.resources) :
    ∃ sub' ∈ tagSubnets subnets input, sub'.subnetId = sub.subnetId ∧ sub'.vpcId = sub.vpcId ∧
      sub'.availabilityZone = sub.availabilityZone ∧ ∀ k ∈ input.tags.map (·.key), k ∈ sub'.keys := by
  have tagged : (if sub.subnetId ∈ input.resources then { sub with tags := applyTags sub.tags input.tags }
      else sub) = { sub with tags := applyTags sub.tags input.tags } := if_pos named
  have tagged_mem : { sub with tags := applyTags sub.tags input.tags } ∈ tagSubnets subnets input := by
    rw [← tagged]; exact List.mem_map_of_mem (fun sub => if sub.subnetId ∈ input.resources then
      { sub with tags := applyTags sub.tags input.tags } else sub) mem
  exact ⟨_, tagged_mem, rfl, rfl, rfl, fun k k_mem => mem_keys_applyTags.mpr (.inr k_mem)⟩

end Cloud

namespace Step

variable {s s' : Cloud}

theorem availabilityZones (step : Step s s') : s'.availabilityZones = s.availabilityZones := by
  cases step <;> rfl

theorem vpcs (step : Step s s') : s'.vpcs = s.vpcs := by
  cases step <;> rfl

theorem calls (step : Step s s') : ∃ call, s'.calls = s.calls ++ [call] := by
  cases step <;> exact ⟨_, rfl⟩

theorem keeps (step : Step s s') : Keeps s s' := by
  intro sub mem
  cases step with
  | createSubnet input subnetId => exact .of_mem (List.mem_append_left _ mem)
  | createTags input => exact Cloud.keeps_tagSubnets _ input sub mem
  | _ => exact .of_mem mem

end Step

namespace Steps

variable {s s' : Cloud}

theorem availabilityZones (steps : Steps s s') : s'.availabilityZones = s.availabilityZones := by
  induction steps with
  | refl => rfl
  | tail _ step ih => exact step.availabilityZones.trans ih

theorem vpcs (steps : Steps s s') : s'.vpcs = s.vpcs := by
  induction steps with
  | refl => rfl
  | tail _ step ih => exact step.vpcs.trans ih

theorem calls (steps : Steps s s') : s.calls <+: s'.calls := by
  induction steps with
  | refl => exact List.prefix_refl _
  | tail _ step ih =>
    obtain ⟨call, calls_eq⟩ := step.calls
    rw [calls_eq]
    exact ih.trans (List.prefix_append _ _)

theorem keeps (steps : Steps s s') : Keeps s s' := by
  induction steps with
  | refl => exact .refl _
  | tail _ step ih => exact ih.trans step.keeps

end Steps

/-- `CreateTags` leaves as they were the subnets it does not name. -/
theorem Cloud.tagSubnets_front {subnets rest : List Subnet} {input : CreateTagsInput}
    (unnamed : ∀ sub ∈ subnets, sub.subnetId ∉ input.resources) :
    subnets <+: tagSubnets (subnets ++ rest) input := by
  refine ⟨tagSubnets rest input, ?_⟩
  rw [tagSubnets, tagSubnets, List.map_append, List.map_congr_left fun sub mem => if_neg (unnamed sub mem),
    List.map_id']

/-- Along requests whose successful `CreateTags` name no subnet listed at the
start, the listing at the start stays at the front of the listing, as it
was. -/
theorem Steps.keeps_front {s s' : Cloud} (steps : Steps s s')
    (untouched : ∀ input, Call.createTags input none ∈ s'.calls.drop s.calls.length →
      ∀ sub ∈ s.subnets, sub.subnetId ∉ input.resources) :
    s.subnets <+: s'.subnets := by
  induction steps with
  | refl => exact List.prefix_refl _
  | tail before step ih =>
    have le := (Steps.calls before).length_le
    obtain ⟨call, calls_eq⟩ := step.calls
    have earlier := ih fun input mem => untouched input (by
      rw [calls_eq, List.drop_append_of_le_length le]; exact List.mem_append_left _ mem)
    cases step with
    | createSubnet input subnetId => exact earlier.trans (List.prefix_append _ _)
    | createTags input =>
      obtain ⟨rest, rest_eq⟩ := earlier
      rw [← rest_eq]
      exact Cloud.tagSubnets_front (untouched input (by simp [Cloud.record, List.drop_append_of_le_length le]))
    | _ => exact earlier

/-! ## The log agrees with the listing -/

/-- A pair of neighbours in a log with one more call is a pair of the old log
or ends with the new call. -/
theorem pair_infix_append {α : Type} {x y c : α} {l : List α} (pair : [x, y] <:+: l ++ [c]) :
    [x, y] <:+: l ∨ (y = c ∧ x ∈ l) := by
  obtain ⟨pre, post, split⟩ := pair
  rcases List.eq_nil_or_concat post with rfl | ⟨post, last, rfl⟩
  · have split : (pre ++ [x]) ++ [y] = l ++ [c] := by simpa using split
    obtain ⟨front, back⟩ := List.append_inj' split rfl
    exact .inr ⟨List.singleton_inj.mp back, front ▸ List.mem_append_right _ (List.mem_singleton_self x)⟩
  · have split : (pre ++ [x, y] ++ post) ++ [last] = l ++ [c] := by simpa using split
    exact .inl ⟨pre, post, (List.append_inj' split rfl).1⟩

/-- From position `n` of the log on, every successful `CreateSubnet` left its
subnet in the listing, and a successful `CreateTags` on that subnet alone, sent
right after it, left its tag keys on it. -/
structure Consistent (n : Nat) (s : Cloud) : Prop where
  le : n ≤ s.calls.length
  created : ∀ input subnetId, Call.createSubnet input (.ok subnetId) ∈ s.calls.drop n →
    Persists (Cloud.newSubnet input subnetId) s
  tagged : ∀ input subnetId tags,
    [Call.createSubnet input (.ok subnetId), Call.createTags ⟨[subnetId], tags⟩ none] <:+: s.calls.drop n →
      Persists { Cloud.newSubnet input subnetId with tags := tags } s

namespace Consistent

theorem start (s : Cloud) : Consistent s.calls.length s where
  le := le_refl _
  created := by simp
  tagged := fun _ _ _ pair => by simpa using pair.length_le

/-- A call that creates and tags nothing keeps the log consistent. -/
theorem extend {n : Nat} {s s' : Cloud} {call : Call} (consistent : Consistent n s)
    (calls_eq : s'.calls = s.calls ++ [call]) (keeps : Keeps s s')
    (not_created : ∀ input subnetId, call ≠ .createSubnet input (.ok subnetId))
    (not_tagged : ∀ input, call ≠ .createTags input none) : Consistent n s' where
  le := by rw [calls_eq, List.length_append]; exact consistent.le.trans (Nat.le_add_right _ _)
  created := by
    intro input subnetId mem
    rw [calls_eq, List.drop_append_of_le_length consistent.le, List.mem_append, List.mem_singleton] at mem
    rcases mem with old | new
    · exact (consistent.created _ _ old).keep keeps
    · exact absurd new.symm (not_created _ _)
  tagged := by
    intro input subnetId tags pair
    rw [calls_eq, List.drop_append_of_le_length consistent.le] at pair
    rcases pair_infix_append pair with old | ⟨new, _⟩
    · exact (consistent.tagged _ _ _ old).keep keeps
    · exact absurd new.symm (not_tagged _)

end Consistent

theorem Step.consistent {n : Nat} {s s' : Cloud} (step : Step s s') (consistent : Consistent n s) :
    Consistent n s' := by
  have keeps := step.keeps
  have le := consistent.le
  cases step with
  | createSubnet input subnetId =>
    refine ⟨by simp [Cloud.record]; omega, ?_, ?_⟩
    · intro input' subnetId' mem
      simp only [Cloud.record, List.drop_append_of_le_length le, List.mem_append, List.mem_singleton,
        Call.createSubnet.injEq, Except.ok.injEq] at mem
      rcases mem with old | ⟨rfl, rfl⟩
      · exact (consistent.created _ _ old).keep keeps
      · exact .of_mem (List.mem_append_right _ (List.mem_singleton_self _))
    · intro input' subnetId' tags pair
      simp only [Cloud.record, List.drop_append_of_le_length le] at pair
      rcases pair_infix_append pair with old | ⟨new, _⟩
      · exact (consistent.tagged _ _ _ old).keep keeps
      · simp at new
  | createTags input =>
    refine ⟨by simp [Cloud.record]; omega, ?_, ?_⟩
    · intro input' subnetId' mem
      simp only [Cloud.record, List.drop_append_of_le_length le, List.mem_append, List.mem_singleton,
        reduceCtorEq, or_false] at mem
      exact (consistent.created _ _ mem).keep keeps
    · intro input' subnetId' tags pair
      simp only [Cloud.record, List.drop_append_of_le_length le] at pair
      rcases pair_infix_append pair with old | ⟨new, created⟩
      · exact (consistent.tagged _ _ _ old).keep keeps
      · obtain ⟨sub, mem, id_eq, vpc_eq, zone_eq, -⟩ := consistent.created _ _ created
        simp only [Call.createTags.injEq, and_true] at new
        subst new
        obtain ⟨tagged, tagged_mem, tagged_id, tagged_vpc, tagged_zone, tagged_keys⟩ :=
          Cloud.tagged_tagSubnets s.subnets ⟨[subnetId'], tags⟩ sub mem (by simp [id_eq, Cloud.newSubnet])
        exact ⟨tagged, tagged_mem, tagged_id.trans id_eq, tagged_vpc.trans vpc_eq,
          tagged_zone.trans zone_eq, tagged_keys⟩
  | _ => exact consistent.extend rfl keeps (fun _ _ => by simp) (fun _ => by simp)

theorem Steps.consistent {n : Nat} {s s' : Cloud} (steps : Steps s s') (consistent : Consistent n s) :
    Consistent n s' := by
  induction steps with
  | refl => exact consistent
  | tail _ step ih => exact step.consistent ih

end ClusterVpc
