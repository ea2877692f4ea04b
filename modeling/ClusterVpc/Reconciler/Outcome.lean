import ClusterVpc.Reconciler.Passes

/-!
# What a pass returns

A pass that returns without error returns the identifiers of the private
subnets of the cluster's VPC, as the listing had them, followed by those of the
subnets it created, in the order it created them; every available zone of the
list then holds one of these subnets. Within a pass, at most one subnet is
created in a zone whose entries are all available.
-/

namespace ClusterVpc

open Net Planner

theorem privateSubnetExists_true {privSubs : List (Option Subnet)} {zone : AvailabilityZone}
    (found : privateSubnetExists privSubs zone = .ok true) : ∃ sub, some sub ∈ privSubs ∧ coversZone zone sub := by
  induction privSubs with
  | nil => cases found
  | cons entry privSubs ih =>
    rcases entry with _ | sub
    · cases found
    · by_cases covers : coversZone zone sub
      · exact ⟨sub, List.mem_cons_self _ _, covers⟩
      · simp only [privateSubnetExists, covers, Bool.false_eq_true, ↓reduceIte] at found
        obtain ⟨other, mem, other_covers⟩ := ih found
        exact ⟨other, List.mem_cons_of_mem _ mem, other_covers⟩

theorem liftAbort_eq_ok {α : Type} {result : Except Abort α} {a : α} {s s' : Cloud}
    (run : liftAbort result s = .ok a s') : result = .ok a ∧ s' = s := by
  cases result <;> cases run
  exact ⟨rfl, rfl⟩

theorem createdSubnets_of_reads {calls : List Call} (reads : ∀ call ∈ calls, call.isRead) :
    createdSubnets calls = [] := by
  refine List.filterMap_eq_nil_iff.mpr fun call mem => ?_
  have read := reads call mem
  cases call <;> first | rfl | cases read

/-- Once a scan has answered, entries appended after the list matter only when
the answer was no. -/
theorem privateSubnetExists_append_of_ok {privSubs : List (Option Subnet)} {zone : AvailabilityZone}
    {covered : Bool} (more : List (Option Subnet)) (found : privateSubnetExists privSubs zone = .ok covered) :
    privateSubnetExists (privSubs ++ more) zone = if covered then .ok true else privateSubnetExists more zone := by
  induction privSubs with
  | nil => cases found; rfl
  | cons entry privSubs ih =>
    rcases entry with _ | sub
    · cases found
    · by_cases covers : coversZone zone sub
      · simp only [privateSubnetExists, covers, ↓reduceIte] at found
        cases found
        simp [privateSubnetExists, covers]
      · simp only [privateSubnetExists, covers, Bool.false_eq_true, ↓reduceIte] at found
        simpa [privateSubnetExists, covers] using ih found

section ZoneLoop

variable (ec2 : EC2API) (cluster : Cluster) (vpc : Vpc)

/-- A zone loop that ends without a nil entry has appended exactly the subnets
it created, all in the VPC and each tagged right after it was created, and left
every available zone covered. -/
theorem reconcileZones_ok (azs : List AvailabilityZone) (privSubs : List (Option Subnet)) (s : Cloud)
    {privSubs' : List (Option Subnet)} {s' : Cloud}
    (run : reconcileZones ec2 cluster vpc azs privSubs s = .ok privSubs' s') (no_nil : none ∉ privSubs') :
    ∃ new, s'.calls = s.calls ++ new ∧ privSubs' = privSubs ++ (createdSubnets new).map some ∧
      (∀ sub ∈ createdSubnets new, sub.vpcId = vpc.vpcId ∧ TaggedIn cluster new sub) ∧
      ∀ az ∈ azs, az.state = "available" → ∃ sub, some sub ∈ privSubs' ∧ sub.availabilityZone = az.zoneName := by
  induction azs generalizing privSubs s with
  | nil =>
    cases run
    exact ⟨[], by simp, by simp, by simp, by simp⟩
  | cons az azs ih =>
    cases scan : privateSubnetExists privSubs az with
    | error e => rw [reconcileZones_scan_error scan] at run; cases run
    | ok covered =>
      cases covered
      case true =>
        rw [reconcileZones_covered scan] at run
        obtain ⟨rest, rest_eq, list_eq, rest_vpc, cover⟩ := ih privSubs s run
        refine ⟨rest, rest_eq, list_eq, rest_vpc, fun other mem available => ?_⟩
        rcases List.mem_cons.mp mem with rfl | mem
        · obtain ⟨sub, sub_mem, covers⟩ := privateSubnetExists_true scan
          simp only [coversZone, decide_eq_true_eq] at covers
          exact ⟨sub, list_eq ▸ List.mem_append_left _ sub_mem, covers.1⟩
        · exact cover other mem available
      obtain ⟨made, made_eq, -, made_where, made_result⟩ := createPrivateSubnet_created ec2 cluster vpc az.zoneName s
      cases created : createPrivateSubnet ec2 cluster vpc az.zoneName s with
      | error e s₁ =>
        obtain ⟨e', failed⟩ := reconcileZones_create_error azs scan created
        rw [failed] at run
        cases run
      | ok entry s₁ =>
        rw [reconcileZones_created scan created] at run
        rw [created, stateOf_ok] at made_eq
        rw [created, resultOf_ok] at made_result
        have made_list := made_result entry rfl
        obtain ⟨rest, rest_eq, list_eq, rest_vpc, cover⟩ := ih (privSubs ++ [entry]) s₁ run
        have entry_mem : entry ∈ privSubs' :=
          list_eq ▸ List.mem_append_left _ (List.mem_append_right _ (List.mem_singleton_self _))
        cases entry with
        | none => exact absurd entry_mem no_nil
        | some sub =>
          have sub_where := made_where sub (by simp [made_list])
          refine ⟨made ++ rest, by rw [rest_eq, made_eq, List.append_assoc], by simp [list_eq, made_list], ?_, ?_⟩
          · intro other mem
            rw [createdSubnets_append, made_list] at mem
            rcases List.mem_append.mp mem with mem | mem
            · rw [List.mem_singleton.mp mem]
              have tagged := createPrivateSubnet_tagged created
              rw [made_eq, List.drop_left] at tagged
              exact ⟨sub_where.2, tagged.mono (List.prefix_append _ _).isInfix⟩
            · exact ⟨(rest_vpc other mem).1, (rest_vpc other mem).2.mono (List.suffix_append _ _).isInfix⟩
          · intro other mem available
            rcases List.mem_cons.mp mem with rfl | mem
            · exact ⟨sub, entry_mem, sub_where.1⟩
            · exact cover other mem available

end ZoneLoop

/-- A pass that returns without error found the VPC, read, ran the zone loop
from the VPC's private subnets in the listing, and returns the identifiers of
the entries the loop ended with. -/
theorem getPrivateSubnetIDS_eq_ok {ec2 : EC2API} {cluster : Cluster} {s s' : Cloud} {ids : List String}
    (run : getPrivateSubnetIDS ec2 cluster s = .ok ids s') :
    ∃ vpc s₁ reads privSubs, getClusterVpc ec2 cluster s = .ok vpc s₁ ∧ (∀ call ∈ reads, call.isRead) ∧
      reconcileZones ec2 cluster vpc s.availabilityZones
        ((privateSubnets (s.subnets.filter (·.vpcId = vpc.vpcId))).map some) (s.recordAll reads) =
          .ok privSubs s' ∧
      subnetIds privSubs = .ok ids := by
  obtain ⟨vpc, s₁, found, run⟩ := bind_eq_ok run
  have found := wrapErr_eq_ok found
  obtain ⟨r₁, read₁, rfl⟩ := (readOnly_getClusterVpc ec2 cluster).eq_recordAll found
  obtain ⟨subs, s₂, listed, run⟩ := bind_eq_ok run
  have listed := wrapErr_eq_ok listed
  obtain ⟨r₂, read₂, rfl⟩ := (readOnly_getVPCSubnets ec2 (some vpc)).eq_recordAll listed
  obtain ⟨azs, s₃, zones, run⟩ := bind_eq_ok run
  have zones := wrapErr_eq_ok zones
  obtain ⟨r₃, read₃, rfl⟩ := (readOnly_getAZs ec2).eq_recordAll zones
  obtain ⟨privSubs, s₄, zoned, run⟩ := bind_eq_ok run
  obtain ⟨subIDs, s₅, lifted, ended⟩ := bind_eq_ok run
  obtain ⟨collected, rfl⟩ := liftAbort_eq_ok lifted
  by_cases empty : subIDs = []
  · simp only [empty, ↓reduceIte] at ended
    cases ended
  simp only [empty, ↓reduceIte, pure_apply] at ended
  cases ended
  refine ⟨vpc, _, r₁ ++ r₂ ++ r₃, privSubs, found,
    List.forall_mem_append.mpr ⟨List.forall_mem_append.mpr ⟨read₁, read₂⟩, read₃⟩, ?_, collected⟩
  simpa [getVPCSubnets_ok listed, getAZs_ok zones] using zoned

/-- A pass that returns without error returns the identifiers of the private
subnets of the cluster's VPC in the listing, followed by those of the subnets
it created in the VPC, in order; every available zone holds one of them. -/
theorem getPrivateSubnetIDS_ids (ec2 : EC2API) (cluster : Cluster) (s s' : Cloud) (ids : List String)
    (run : getPrivateSubnetIDS ec2 cluster s = .ok ids s') :
    ∃ vpc t, getClusterVpc ec2 cluster s = .ok vpc t ∧ vpc ∈ s.vpcs ∧ ∃ new, s'.calls = s.calls ++ new ∧
      ids = (privateSubnets (s.subnets.filter (·.vpcId = vpc.vpcId)) ++ createdSubnets new).map (·.subnetId) ∧
      (∀ sub ∈ createdSubnets new, sub.vpcId = vpc.vpcId) ∧
      ∀ az ∈ s.availabilityZones, az.state = "available" →
        ∃ sub ∈ privateSubnets (s.subnets.filter (·.vpcId = vpc.vpcId)) ++ createdSubnets new,
          sub.availabilityZone = az.zoneName := by
  obtain ⟨vpc, s₁, reads, privSubs, found, read, zoned, collected⟩ := getPrivateSubnetIDS_eq_ok run
  have no_nil : none ∉ privSubs := fun nil_mem => by simp [subnetIds_of_none nil_mem] at collected
  obtain ⟨made, made_eq, list_eq, made_vpc, cover⟩ := reconcileZones_ok ec2 cluster vpc _ _ _ zoned no_nil
  rw [list_eq, ← List.map_append] at collected cover
  have created : createdSubnets (reads ++ made) = createdSubnets made := by
    rw [createdSubnets_append, createdSubnets_of_reads read, List.nil_append]
  refine ⟨vpc, s₁, found, (getClusterVpc_mem found).1, reads ++ made, by simp [made_eq], ?_,
    fun sub mem => (made_vpc sub (created ▸ mem)).1, ?_⟩
  · rw [created, (Except.ok.inj ((subnetIds_map_some _).symm.trans collected)).symm]
  · intro az mem available
    obtain ⟨sub, sub_mem, sub_zone⟩ := cover az mem available
    obtain ⟨other, other_mem, same⟩ := List.mem_map.mp sub_mem
    cases same
    exact ⟨sub, created ▸ other_mem, sub_zone⟩

/-- The pass over the unmarked VPC returns the one subnet it created. -/
theorem getPrivateSubnetIDS_ids_unmarked :
    ∃ vpc t, getClusterVpc EC2API.answering sampleCluster unmarkedVpc = .ok vpc t ∧ vpc ∈ unmarkedVpc.vpcs ∧
      ∃ new,
      (stateOf (getPrivateSubnetIDS EC2API.answering sampleCluster unmarkedVpc)).calls = unmarkedVpc.calls ++ new ∧
      ["subnet-4"] =
        (privateSubnets (unmarkedVpc.subnets.filter (·.vpcId = vpc.vpcId)) ++ createdSubnets new).map (·.subnetId) ∧
      (∀ sub ∈ createdSubnets new, sub.vpcId = vpc.vpcId) ∧
      ∀ az ∈ unmarkedVpc.availabilityZones, az.state = "available" →
        ∃ sub ∈ privateSubnets (unmarkedVpc.subnets.filter (·.vpcId = vpc.vpcId)) ++ createdSubnets new,
          sub.availabilityZone = az.zoneName :=
  getPrivateSubnetIDS_ids _ _ _ _ _ (eq_ok_of_resultOf (by decide))

/-- The subnets a pass that returns without error ends with: one in every
available zone of the list, and each in the provider's listing afterwards, in the
cluster's VPC, with the private-subnet marker key. -/
theorem getPrivateSubnetIDS_ok_listed {ec2 : EC2API} {cluster : Cluster} {s s' : Cloud} {ids : List String}
    (run : getPrivateSubnetIDS ec2 cluster s = .ok ids s') :
    ∃ vpc t, getClusterVpc ec2 cluster s = .ok vpc t ∧ vpc ∈ s.vpcs ∧
      ∃ entries : List Subnet, ids = entries.map (·.subnetId) ∧
      (∀ az ∈ s.availabilityZones, az.state = "available" → ∃ sub ∈ entries, sub.availabilityZone = az.zoneName) ∧
      ∀ sub ∈ entries, ∃ sub' ∈ s'.subnets, sub'.subnetId = sub.subnetId ∧ sub'.vpcId = vpc.vpcId ∧
        sub'.availabilityZone = sub.availabilityZone ∧ defaultAWSPrivateSubnetTagKey ∈ sub'.keys := by
  have steps : Steps s s' := by simpa [run] using runs_getPrivateSubnetIDS ec2 cluster s
  obtain ⟨vpc, s₁, reads, privSubs, found, -, zoned, collected⟩ := getPrivateSubnetIDS_eq_ok run
  have no_nil : none ∉ privSubs := fun nil_mem => by simp [subnetIds_of_none nil_mem] at collected
  obtain ⟨made, made_eq, list_eq, made_vpc, cover⟩ := reconcileZones_ok ec2 cluster vpc _ _ _ zoned no_nil
  rw [list_eq, ← List.map_append] at collected cover
  rw [Cloud.recordAll_calls, List.append_assoc] at made_eq
  refine ⟨vpc, s₁, found, (getClusterVpc_mem found).1, _,
    (Except.ok.inj ((subnetIds_map_some _).symm.trans collected)).symm,
    fun az mem available => ?_, fun sub mem => ?_⟩
  · obtain ⟨sub, sub_mem, sub_zone⟩ := cover az mem available
    obtain ⟨other, other_mem, same⟩ := List.mem_map.mp sub_mem
    cases same
    exact ⟨sub, other_mem, sub_zone⟩
  rcases List.mem_append.mp mem with mem | mem
  · obtain ⟨mem, marked⟩ := mem_privateSubnets.mp mem
    obtain ⟨in_listing, same_vpc⟩ := List.mem_filter.mp mem
    obtain ⟨sub', sub'_mem, same_id, vpc_eq, zone_eq, keys⟩ := steps.keeps sub in_listing
    exact ⟨sub', sub'_mem, same_id, vpc_eq.trans (of_decide_eq_true same_vpc), zone_eq, keys _ marked⟩
  · obtain ⟨in_vpc, input, subnetId, tags, rfl, tags_ok, pair⟩ := made_vpc sub mem
    obtain ⟨sub', sub'_mem, same_id, vpc_eq, zone_eq, keys⟩ := (steps.consistent (.start s)).tagged input subnetId
      tags (by rw [made_eq, List.drop_left]; exact pair.trans (List.suffix_append _ _).isInfix)
    obtain ⟨rest, rfl⟩ := getDefaultSubnetTags_marker tags_ok
    exact ⟨sub', sub'_mem, same_id, vpc_eq.trans in_vpc, zone_eq, keys _ (by simp [Subnet.keys])⟩

/-- After a pass that returned without error, and any requests of the kinds the
code sends, every available zone of the list the pass read holds a private
subnet of the VPC the pass found. -/
theorem getPrivateSubnetIDS_ok_covered {ec2 : EC2API} {cluster : Cluster} {s s₁ s₂ : Cloud} {ids : List String}
    (run : getPrivateSubnetIDS ec2 cluster s = .ok ids s₁) (later : Steps s₁ s₂) :
    ∃ vpc t, getClusterVpc ec2 cluster s = .ok vpc t ∧ vpc ∈ s.vpcs ∧
      ∀ az ∈ s.availabilityZones, az.state = "available" →
        ∃ sub ∈ s₂.subnets, sub.vpcId = vpc.vpcId ∧ sub.availabilityZone = az.zoneName ∧
          defaultAWSPrivateSubnetTagKey ∈ sub.keys := by
  obtain ⟨vpc, t, found, vpc_mem, entries, -, cover, listed⟩ := getPrivateSubnetIDS_ok_listed run
  refine ⟨vpc, t, found, vpc_mem, fun az az_mem available => ?_⟩
  obtain ⟨sub, sub_mem, sub_zone⟩ := cover az az_mem available
  obtain ⟨sub', sub'_mem, -, vpc_eq, zone_eq, marked⟩ := listed sub sub_mem
  obtain ⟨last, last_mem, -, last_vpc, last_zone, last_keys⟩ := later.keeps sub' sub'_mem
  exact ⟨last, last_mem, last_vpc.trans vpc_eq, last_zone.trans (zone_eq.trans sub_zone), last_keys _ marked⟩

/-- A pass that returns without error leaves what it is for: every available
zone of the list has a subnet of the cluster's VPC in the provider's listing, in
that zone, with the private-subnet marker key, and every identifier the pass
returns is that of such a subnet of the VPC. -/
theorem getPrivateSubnetIDS_covers (ec2 : EC2API) (cluster : Cluster) (s s' : Cloud) (ids : List String)
    (run : getPrivateSubnetIDS ec2 cluster s = .ok ids s') :
    ∃ vpc t, getClusterVpc ec2 cluster s = .ok vpc t ∧ vpc ∈ s.vpcs ∧
      (∀ az ∈ s'.availabilityZones, az.state = "available" →
        ∃ sub ∈ s'.subnets, sub.vpcId = vpc.vpcId ∧ sub.availabilityZone = az.zoneName ∧
          defaultAWSPrivateSubnetTagKey ∈ sub.keys) ∧
      ∀ subnetId ∈ ids, ∃ sub ∈ s'.subnets, sub.subnetId = subnetId ∧ sub.vpcId = vpc.vpcId ∧
        defaultAWSPrivateSubnetTagKey ∈ sub.keys := by
  have zones : s'.availabilityZones = s.availabilityZones := by
    simpa [run] using (runs_getPrivateSubnetIDS ec2 cluster s).availabilityZones
  obtain ⟨vpc, t, found, vpc_mem, entries, rfl, cover, listed⟩ := getPrivateSubnetIDS_ok_listed run
  refine ⟨vpc, t, found, vpc_mem, fun az mem available => ?_, fun subnetId mem => ?_⟩
  · obtain ⟨sub, sub_mem, sub_zone⟩ := cover az (zones ▸ mem) available
    obtain ⟨sub', sub'_mem, -, vpc_eq, zone_eq, marked⟩ := listed sub sub_mem
    exact ⟨sub', sub'_mem, vpc_eq, zone_eq.trans sub_zone, marked⟩
  · obtain ⟨sub, sub_mem, rfl⟩ := List.mem_map.mp mem
    obtain ⟨sub', sub'_mem, same_id, vpc_eq, -, marked⟩ := listed sub sub_mem
    exact ⟨sub', sub'_mem, same_id, vpc_eq, marked⟩

/-- The pass over a VPC whose one zone is covered returns that zone's private
subnet. -/
theorem getPrivateSubnetIDS_covers_covered :
    ∃ vpc t, getClusterVpc EC2API.answering sampleCluster coveredVpc = .ok vpc t ∧ vpc ∈ coveredVpc.vpcs ∧
      (∀ az ∈ (stateOf (getPrivateSubnetIDS EC2API.answering sampleCluster coveredVpc)).availabilityZones,
        az.state = "available" →
        ∃ sub ∈ (stateOf (getPrivateSubnetIDS EC2API.answering sampleCluster coveredVpc)).subnets,
          sub.vpcId = vpc.vpcId ∧ sub.availabilityZone = az.zoneName ∧ defaultAWSPrivateSubnetTagKey ∈ sub.keys) ∧
      ∀ subnetId ∈ ["subnet-a"],
        ∃ sub ∈ (stateOf (getPrivateSubnetIDS EC2API.answering sampleCluster coveredVpc)).subnets,
          sub.subnetId = subnetId ∧ sub.vpcId = vpc.vpcId ∧ defaultAWSPrivateSubnetTagKey ∈ sub.keys :=
  getPrivateSubnetIDS_covers _ _ _ _ _ (eq_ok_of_resultOf (by decide))

/-- Re-entry: after a pass that returned without error, and any requests of the
kinds the code sends, by anyone, in between (none removes a subnet or a tag), a
later pass, with any answers and cluster data, asks for a subnet in the VPC the
first pass found only for a zone with an entry in the zone list that is not
available. -/
theorem getPrivateSubnetIDS_reentry (ec2 ec2' : EC2API) (cluster cluster' : Cluster) (s s₁ s₂ : Cloud)
    (ids : List String) (run : getPrivateSubnetIDS ec2 cluster s = .ok ids s₁) (later : Steps s₁ s₂) :
    ∃ vpc t, getClusterVpc ec2 cluster s = .ok vpc t ∧ vpc ∈ s.vpcs ∧
      ∀ request reply, Call.createSubnet request reply ∈
        (stateOf (getPrivateSubnetIDS ec2' cluster' s₂)).calls.drop s₂.calls.length →
      request.vpcId = vpc.vpcId →
      ∃ az ∈ s.availabilityZones, az.zoneName = request.availabilityZone ∧ az.state ≠ "available" := by
  have steps : Steps s s₂ := (show Steps s s₁ by simpa [run] using runs_getPrivateSubnetIDS ec2 cluster s).trans later
  obtain ⟨vpc, t, found, vpc_mem, covered⟩ := getPrivateSubnetIDS_ok_covered run later
  refine ⟨vpc, t, found, vpc_mem, fun request reply requested same_vpc => ?_⟩
  obtain ⟨vpc', -, -, request_vpc, az, az_mem, named, uncovered⟩ :=
    getPrivateSubnetIDS_requests ec2' cluster' s₂ requested
  rw [steps.availabilityZones] at az_mem
  refine ⟨az, az_mem, named, fun available => ?_⟩
  obtain ⟨sub, sub_mem, sub_vpc, sub_zone, marked⟩ := covered az az_mem available
  have covers := uncovered sub sub_mem (by rw [sub_vpc, ← same_vpc, request_vpc]) marked
  simp [coversZone, sub_zone, available] at covers

/-- A second pass over the covered VPC, right after the first. -/
theorem getPrivateSubnetIDS_reentry_covered :
    ∃ vpc t, getClusterVpc EC2API.answering sampleCluster coveredVpc = .ok vpc t ∧ vpc ∈ coveredVpc.vpcs ∧
      ∀ request reply, Call.createSubnet request reply ∈
        (stateOf (getPrivateSubnetIDS EC2API.answering sampleCluster
          (stateOf (getPrivateSubnetIDS EC2API.answering sampleCluster coveredVpc)))).calls.drop
          (stateOf (getPrivateSubnetIDS EC2API.answering sampleCluster coveredVpc)).calls.length →
      request.vpcId = vpc.vpcId →
      ∃ az ∈ coveredVpc.availabilityZones, az.zoneName = request.availabilityZone ∧ az.state ≠ "available" :=
  getPrivateSubnetIDS_reentry _ _ _ _ _ _ _ ["subnet-a"] (eq_ok_of_resultOf (by decide)) .refl

/-! ## At most one subnet per zone -/

section Once

variable (ec2 : EC2API) (cluster : Cluster) (vpc : Vpc) (zone : String)

/-- How many subnets the zone loop may still create in the zone: none once an
entry covers it as an available zone. -/
def zoneAllowance (privSubs : List (Option Subnet)) : Nat :=
  if privateSubnetExists privSubs ⟨zone, "available"⟩ = .ok true then 0 else 1

theorem zoneAllowance_append (privSubs more : List (Option Subnet)) :
    zoneAllowance zone (privSubs ++ more) ≤ zoneAllowance zone privSubs := by
  unfold zoneAllowance
  by_cases covered : privateSubnetExists privSubs ⟨zone, "available"⟩ = .ok true
  · simp [privateSubnetExists_append_of_ok more covered]
  · rw [if_neg covered]
    split <;> omega

theorem zoneAllowance_le_one (privSubs : List (Option Subnet)) : zoneAllowance zone privSubs ≤ 1 := by
  unfold zoneAllowance
  split <;> omega

/-- The subnets of a log created in the zone. -/
theorem createdIn_append (calls more : List Call) :
    ((createdSubnets (calls ++ more)).filter (·.availabilityZone = zone)).length =
      ((createdSubnets calls).filter (·.availabilityZone = zone)).length +
        ((createdSubnets more).filter (·.availabilityZone = zone)).length := by
  rw [createdSubnets_append, List.filter_append, List.length_append]

/-- Within one run of the zone loop, a zone whose entries in the list are all
available gets at most one new subnet, and none when an entry the loop started
from covers it. -/
theorem reconcileZones_creates_once (azs : List AvailabilityZone) (privSubs : List (Option Subnet)) (s : Cloud)
    (available : ∀ az ∈ azs, az.zoneName = zone → az.state = "available") :
    ∃ new, (stateOf (reconcileZones ec2 cluster vpc azs privSubs s)).calls = s.calls ++ new ∧
      ((createdSubnets new).filter (·.availabilityZone = zone)).length ≤ zoneAllowance zone privSubs := by
  induction azs generalizing privSubs s with
  | nil => exact ⟨[], by simp [reconcileZones], by simp⟩
  | cons az azs ih =>
    have rest_available := fun other mem => available other (List.mem_cons_of_mem _ mem)
    cases scan : privateSubnetExists privSubs az with
    | error e => exact ⟨[], by rw [reconcileZones_scan_error scan]; simp, by simp⟩
    | ok covered =>
      cases covered
      case true => rw [reconcileZones_covered scan]; exact ih privSubs s rest_available
      obtain ⟨made, made_eq, made_one, made_where, made_result⟩ :=
        createPrivateSubnet_created ec2 cluster vpc az.zoneName s
      -- the zone of this entry either is the zone, not yet covered, or gets nothing
      have made_in : ((createdSubnets made).filter (·.availabilityZone = zone)).length ≤
          if az.zoneName = zone then 1 else 0 := by
        split
        · exact (List.length_filter_le _ _).trans made_one
        · rename_i other
          rw [Nat.le_zero, List.length_eq_zero, List.filter_eq_nil_iff]
          exact fun sub mem same => other ((made_where sub mem).1 ▸ of_decide_eq_true same)
      have fresh : az.zoneName = zone → privateSubnetExists privSubs ⟨zone, "available"⟩ = .ok false := by
        intro named
        obtain ⟨name, state⟩ := az
        obtain rfl : state = "available" := available _ (List.mem_cons_self _ _) named
        cases named
        exact scan
      cases created : createPrivateSubnet ec2 cluster vpc az.zoneName s with
      | error e s₁ =>
        rw [created, stateOf_error] at made_eq
        obtain ⟨e', failed⟩ := reconcileZones_create_error azs scan created
        refine ⟨made, by rw [failed, stateOf_error, made_eq], made_in.trans ?_⟩
        split
        · simp [zoneAllowance, fresh ‹_›]
        · exact Nat.zero_le _
      | ok entry s₁ =>
        rw [created, stateOf_ok] at made_eq
        rw [created, resultOf_ok] at made_result
        have made_list := made_result entry rfl
        obtain ⟨rest, rest_eq, rest_in⟩ := ih (privSubs ++ [entry]) s₁ rest_available
        refine ⟨made ++ rest, by rw [reconcileZones_created scan created, rest_eq, made_eq, List.append_assoc], ?_⟩
        rw [createdIn_append]
        by_cases named : az.zoneName = zone
        · rw [show zoneAllowance zone privSubs = 1 by simp [zoneAllowance, fresh named]]
          cases entry with
          | none =>
            simp only [made_list, Option.toList_none, List.filter_nil, List.length_nil, zero_add]
            exact rest_in.trans (zoneAllowance_le_one zone _)
          | some sub =>
            have covers : zoneAllowance zone (privSubs ++ [some sub]) = 0 := by
              simp [zoneAllowance, privateSubnetExists_append_of_ok _ (fresh named), privateSubnetExists,
                coversZone, (made_where sub (by simp [made_list])).1, named]
            rw [covers] at rest_in
            simp only [if_pos named] at made_in
            omega
        · simp only [if_neg named] at made_in
          have := zoneAllowance_append zone privSubs [entry]
          omega

end Once

/-- A pass creates at most one subnet in a zone whose entries in the zone list
are all available. -/
theorem getPrivateSubnetIDS_creates_once (ec2 : EC2API) (cluster : Cluster) (s : Cloud) (zone : String)
    (available : ∀ az ∈ s.availabilityZones, az.zoneName = zone → az.state = "available") :
    ∃ new, (stateOf (getPrivateSubnetIDS ec2 cluster s)).calls = s.calls ++ new ∧
      ((createdSubnets new).filter (·.availabilityZone = zone)).length ≤ 1 := by
  obtain ⟨reads, read, looked_up | ⟨vpc, s₁, -, zoned⟩⟩ := getPrivateSubnetIDS_log ec2 cluster s
  · exact ⟨reads, by rw [looked_up, Cloud.recordAll_calls], by simp [createdSubnets_of_reads read]⟩
  obtain ⟨made, made_eq, made_in⟩ := reconcileZones_creates_once ec2 cluster vpc zone s.availabilityZones _
    (s.recordAll reads) available
  refine ⟨reads ++ made, by rw [zoned, made_eq, Cloud.recordAll_calls, List.append_assoc], ?_⟩
  rw [createdIn_append, createdSubnets_of_reads read, List.filter_nil, List.length_nil, Nat.zero_add]
  exact made_in.trans (zoneAllowance_le_one zone _)

theorem getPrivateSubnetIDS_creates_once_unmarked :
    (∀ az ∈ unmarkedVpc.availabilityZones, az.zoneName = "zone-a" → az.state = "available") ∧
      ∃ new, (stateOf (getPrivateSubnetIDS EC2API.answering sampleCluster unmarkedVpc)).calls =
          unmarkedVpc.calls ++ new ∧
        ((createdSubnets new).filter (·.availabilityZone = "zone-a")).length ≤ 1 :=
  ⟨by decide, getPrivateSubnetIDS_creates_once _ _ _ _ (by decide)⟩

end ClusterVpc
