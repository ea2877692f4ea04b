import ClusterVpc.Reconciler.Provision

/-!
# One reconciliation pass

`GetPrivateSubnetIDS` finds the cluster's VPC, its subnets and the region's
zones, keeps the subnets that carry the private-subnet marker, and walks the
zones: a zone in which `privateSubnetExists` finds no private subnet gets one
from `createPrivateSubnet`, appended to the list. The identifiers of the list
are returned.

`privateSubnetExists` tests the zone's state inside its loop, so a zone that is
not `available` never counts as covered. A nil subnet, which
`createPrivateSubnet` returns when every candidate conflicts, makes the next
dereference of the list panic.
-/

namespace ClusterVpc

open Net Planner

/-- The run-time panic of a nil pointer dereference. -/
def nilDereference : String :=
  "invalid memory address or nil pointer dereference"

/-- The test of `privateSubnetExists` on one subnet. -/
def coversZone (zone : AvailabilityZone) (subnet : Subnet) : Bool :=
  subnet.availabilityZone = zone.zoneName ∧ zone.state = "available"

/-- `privateSubnetExists`; `*subnet.AvailabilityZone` on a nil entry panics. -/
def privateSubnetExists : List (Option Subnet) → AvailabilityZone → Except Abort Bool
  | [], _ => .ok false
  | none :: _, _ => .error (.panic nilDereference)
  | some subnet :: privSubs, zone =>
    if coversZone zone subnet then .ok true else privateSubnetExists privSubs zone

/-- The filter of `GetPrivateSubnetIDS`: a subnet is appended once for each of
its tags with the marker key. -/
def privateSubnets (subs : List Subnet) : List Subnet :=
  subs.flatMap fun sub => (sub.tags.filter (·.key = defaultAWSPrivateSubnetTagKey)).map fun _ => sub

/-- The loop `for _, az := range azs` of `GetPrivateSubnetIDS`. -/
def reconcileZones (ec2 : EC2API) (cluster : Cluster) (foundVPC : Vpc) :
    List AvailabilityZone → List (Option Subnet) → CloudM (List (Option Subnet))
  | [], privSubs => pure privSubs
  | az :: azs, privSubs => do
    if ← liftAbort (privateSubnetExists privSubs az) then
      reconcileZones ec2 cluster foundVPC azs privSubs
    else
      let subnet ← wrapErr (createPrivateSubnet ec2 cluster foundVPC az.zoneName)
        "failed to created private subnet"
      reconcileZones ec2 cluster foundVPC azs (privSubs ++ [subnet])

/-- The loop `for _, sub := range privSubs` that collects the identifiers;
`sub.SubnetId` on a nil entry panics. -/
def subnetIds : List (Option Subnet) → Except Abort (List String)
  | [] => .ok []
  | none :: _ => .error (.panic nilDereference)
  | some sub :: privSubs => (sub.subnetId :: ·) <$> subnetIds privSubs

/-- `GetPrivateSubnetIDS`. -/
def getPrivateSubnetIDS (ec2 : EC2API) (cluster : Cluster) : CloudM (List String) := do
  let foundVPC ← wrapErr (getClusterVpc ec2 cluster) "error getting vpcs"
  let subs ← wrapErr (getVPCSubnets ec2 (some foundVPC)) "error getting vpc subnets"
  let azs ← wrapErr (getAZs ec2) "error getting availability zones"
  let privSubs ← reconcileZones ec2 cluster foundVPC azs ((privateSubnets subs).map some)
  let subIDs ← liftAbort (subnetIds privSubs)
  if subIDs = [] then throw (.error (.new "failed to get list of private subnet ids"))
  else pure subIDs

/-! ## One zone of the loop -/

section ZoneStep

variable {ec2 : EC2API} {cluster : Cluster} {vpc : Vpc} {az : AvailabilityZone} {azs : List AvailabilityZone}
  {privSubs : List (Option Subnet)} {s : Cloud}

/-- A zone the scan panics on ends the loop, the provider untouched. -/
theorem reconcileZones_scan_error {e : Abort} (scan : privateSubnetExists privSubs az = .error e) :
    reconcileZones ec2 cluster vpc (az :: azs) privSubs s = .error e s := by
  simp [reconcileZones, bind_apply, liftAbort, scan]

/-- A covered zone is passed over. -/
theorem reconcileZones_covered (scan : privateSubnetExists privSubs az = .ok true) :
    reconcileZones ec2 cluster vpc (az :: azs) privSubs s = reconcileZones ec2 cluster vpc azs privSubs s := by
  simp [reconcileZones, bind_apply, liftAbort, scan]

/-- An uncovered zone gets `createPrivateSubnet`, whose entry is appended. -/
theorem reconcileZones_created {entry : Option Subnet} {s₁ : Cloud}
    (scan : privateSubnetExists privSubs az = .ok false)
    (created : createPrivateSubnet ec2 cluster vpc az.zoneName s = .ok entry s₁) :
    reconcileZones ec2 cluster vpc (az :: azs) privSubs s = reconcileZones ec2 cluster vpc azs (privSubs ++ [entry]) s₁ := by
  rw [reconcileZones, bind_apply]
  simp only [liftAbort, scan, pure_apply, Bool.false_eq_true, ↓reduceIte]
  exact bind_wrapErr_ok _ created

/-- An uncovered zone whose `createPrivateSubnet` fails ends the loop where
the failure left the provider. -/
theorem reconcileZones_create_error (azs : List AvailabilityZone) {e : Abort} {s₁ : Cloud}
    (scan : privateSubnetExists privSubs az = .ok false)
    (failed : createPrivateSubnet ec2 cluster vpc az.zoneName s = .error e s₁) :
    ∃ e', reconcileZones ec2 cluster vpc (az :: azs) privSubs s = .error e' s₁ := by
  simp only [reconcileZones, bind_apply, liftAbort, scan, pure_apply, Bool.false_eq_true, ↓reduceIte, wrapErr,
    failed]
  cases e <;> exact ⟨_, rfl⟩

/-- The error of a failed `createPrivateSubnet` is wrapped. -/
theorem reconcileZones_create_failed {cause : GoError} {s₁ : Cloud}
    (scan : privateSubnetExists privSubs az = .ok false)
    (failed : createPrivateSubnet ec2 cluster vpc az.zoneName s = .error (.error cause) s₁) :
    reconcileZones ec2 cluster vpc (az :: azs) privSubs s =
      .error (.error (.wrap cause "failed to created private subnet")) s₁ := by
  simp only [reconcileZones, bind_apply, liftAbort, scan, pure_apply, Bool.false_eq_true, ↓reduceIte, wrapErr,
    failed]

/-- A planner that runs on ends the loop as it is. -/
theorem reconcileZones_create_loops {s₁ : Cloud} (scan : privateSubnetExists privSubs az = .ok false)
    (failed : createPrivateSubnet ec2 cluster vpc az.zoneName s = .error .loops s₁) :
    reconcileZones ec2 cluster vpc (az :: azs) privSubs s = .error .loops s₁ := by
  simp only [reconcileZones, bind_apply, liftAbort, scan, pure_apply, Bool.false_eq_true, ↓reduceIte, wrapErr,
    failed]

end ZoneStep

/-- Over subnets, `privateSubnetExists` asks whether one covers the zone; it
reaches the entries after them only when none does. -/
theorem privateSubnetExists_append (base : List Subnet) (extra : List (Option Subnet))
    (zone : AvailabilityZone) :
    privateSubnetExists (base.map some ++ extra) zone =
      if base.any (coversZone zone) then .ok true else privateSubnetExists extra zone := by
  induction base with
  | nil => simp
  | cons sub base ih => by_cases covers : coversZone zone sub <;> simp [privateSubnetExists, covers, ih]

theorem privateSubnetExists_map_some (base : List Subnet) (zone : AvailabilityZone) :
    privateSubnetExists (base.map some) zone = .ok (base.any (coversZone zone)) := by
  have scan := privateSubnetExists_append base [] zone
  rw [List.append_nil] at scan
  rw [scan]
  cases base.any (coversZone zone) <;> rfl

theorem subnetIds_map_some (subs : List Subnet) : subnetIds (subs.map some) = .ok (subs.map (·.subnetId)) := by
  induction subs with
  | nil => rfl
  | cons sub subs ih => simp [subnetIds, ih]

theorem subnetIds_of_none {privSubs : List (Option Subnet)} (nil_mem : none ∈ privSubs) :
    subnetIds privSubs = .error (.panic nilDereference) := by
  induction privSubs with
  | nil => cases nil_mem
  | cons entry privSubs ih =>
    rcases entry with _ | sub
    · rfl
    · simp only [List.mem_cons, reduceCtorEq, false_or] at nil_mem
      simp [subnetIds, ih nil_mem]

section Runs

variable (ec2 : EC2API) (cluster : Cluster)

theorem runs_reconcileZones (foundVPC : Vpc) (azs : List AvailabilityZone) (privSubs : List (Option Subnet)) :
    Runs (reconcileZones ec2 cluster foundVPC azs privSubs) := by
  induction azs generalizing privSubs with
  | nil => exact .pure _
  | cons az azs ih =>
    refine .bind (.liftAbort _) fun exists_ => ?_
    split
    · exact ih _
    · exact .bind ((runs_createPrivateSubnet ec2 cluster foundVPC az.zoneName).wrapErr _) fun _ => ih _

theorem runs_getPrivateSubnetIDS : Runs (getPrivateSubnetIDS ec2 cluster) := by
  refine .bind ((readOnly_getClusterVpc ec2 cluster).runs.wrapErr _) fun vpc =>
    .bind ((readOnly_getVPCSubnets ec2 _).runs.wrapErr _) fun subs =>
    .bind ((readOnly_getAZs ec2).runs.wrapErr _) fun azs =>
    .bind (runs_reconcileZones ec2 cluster vpc azs _) fun privSubs => .bind (.liftAbort _) fun subIDs => ?_
  split
  exacts [.throw _, .pure _]

end Runs

/-- Once its lookups have succeeded, a pass is the zone loop and the collection
of identifiers. -/
theorem getPrivateSubnetIDS_eq {ec2 : EC2API} {cluster : Cluster} {s s₁ s₂ s₃ : Cloud} {vpc : Vpc}
    {subs : List Subnet} {azs : List AvailabilityZone} (found : getClusterVpc ec2 cluster s = .ok vpc s₁)
    (listed : getVPCSubnets ec2 (some vpc) s₁ = .ok subs s₂) (zones : getAZs ec2 s₂ = .ok azs s₃) :
    getPrivateSubnetIDS ec2 cluster s = (do
      let privSubs ← reconcileZones ec2 cluster vpc azs ((privateSubnets subs).map some)
      let subIDs ← liftAbort (subnetIds privSubs)
      if subIDs = [] then throw (Abort.error (GoError.new "failed to get list of private subnet ids"))
      else pure subIDs) s₃ := by
  simp only [getPrivateSubnetIDS, bind_apply, wrapErr, found, listed, zones]

/-! ## When every candidate conflicts -/

section Exhausted

variable {ec2 : EC2API} {cands : List IPNet}

theorem createLoop_exhausted (cluster : Cluster) (vpc : Vpc)
    (conflicting : ∀ s input, ∃ err, ec2.createSubnetReply s input = .error err ∧ isConflict err)
    (zone : String) (subs : List IPNet) (s : Cloud) :
    ∃ s', createLoop ec2 cluster vpc zone subs s = .ok none s' := by
  induction subs generalizing s with
  | nil => exact ⟨s, rfl⟩
  | cons ip subs ih =>
    obtain ⟨err, reply, conflict⟩ := conflicting s (subnetRequest vpc zone ip)
    rw [createLoop_conflict reply conflict]
    exact ih _

/-- With every candidate conflicting, the zone loop appends a nil subnet for
the first zone it finds uncovered; after a nil entry it either panics or keeps
the nil entry to the end. -/
theorem reconcileZones_exhausted (cluster : Cluster) {vpc : Vpc}
    (conflicting : ∀ s input, ∃ err, ec2.createSubnetReply s input = .error err ∧ isConflict err)
    (build : buildSubnetAddress vpc = .ok cands) (base : List Subnet) (azs : List AvailabilityZone)
    (nones : List (Option Subnet)) (s : Cloud) (all_none : ∀ e ∈ nones, e = none)
    (nil_or_uncovered : nones ≠ [] ∨ ∃ az ∈ azs, base.any (coversZone az) = false) :
    ∃ s', reconcileZones ec2 cluster vpc azs (base.map some ++ nones) s = .error (.panic nilDereference) s' ∨
      ∃ privSubs, reconcileZones ec2 cluster vpc azs (base.map some ++ nones) s = .ok privSubs s' ∧
        none ∈ privSubs := by
  induction azs generalizing nones s with
  | nil =>
    obtain ⟨e, rest, rfl⟩ := List.exists_cons_of_ne_nil (nil_or_uncovered.resolve_right (by simp))
    obtain rfl := all_none e (List.mem_cons_self _ _)
    exact ⟨s, .inr ⟨_, rfl, by simp⟩⟩
  | cons az azs ih =>
    by_cases covered : base.any (coversZone az)
    · rw [reconcileZones_covered (by simp [privateSubnetExists_append, covered])]
      refine ih nones s all_none (nil_or_uncovered.imp_right ?_)
      rintro ⟨other, mem, uncovered⟩
      rcases List.mem_cons.mp mem with rfl | mem
      · simp [covered] at uncovered
      · exact ⟨other, mem, uncovered⟩
    · cases nones with
      | nil =>
        obtain ⟨s', exhausted⟩ := createLoop_exhausted cluster vpc conflicting az.zoneName cands s
        rw [List.append_nil, reconcileZones_created (by simpa [privateSubnetExists_map_some] using covered)
          ((createPrivateSubnet_eq build s).trans exhausted)]
        exact ih [none] s' (by simp) (.inl (List.cons_ne_nil _ _))
      | cons e rest =>
        obtain rfl := all_none e (List.mem_cons_self _ _)
        exact ⟨s, .inl (reconcileZones_scan_error (by simp [privateSubnetExists_append, covered, privateSubnetExists]))⟩

end Exhausted

/-- A pass in which every `CreateSubnet` is refused as a conflict, in a VPC
with a zone that has no private subnet, ends in a nil dereference: the nil
subnet `createPrivateSubnet` returns after the last candidate is appended to
the list and dereferenced, and no error is returned. -/
theorem getPrivateSubnetIDS_exhausted (ec2 : EC2API) (cluster : Cluster) (s : Cloud) (vpc : Vpc)
    (cands : List IPNet) (lists : ec2.Lists)
    (conflicting : ∀ s input, ∃ err, ec2.createSubnetReply s input = .error err ∧ isConflict err)
    (found : ∃ s', getClusterVpc ec2 cluster s = .ok vpc s') (build : buildSubnetAddress vpc = .ok cands)
    (uncovered : ∃ az ∈ s.availabilityZones,
      (privateSubnets (s.subnets.filter (·.vpcId = vpc.vpcId))).any (coversZone az) = false) :
    resultOf (getPrivateSubnetIDS ec2 cluster s) = .error (.panic nilDereference) := by
  obtain ⟨s₁, found⟩ := found
  obtain ⟨-, has⟩ := getClusterVpc_mem found
  obtain ⟨reads, -, rfl⟩ := (readOnly_getClusterVpc ec2 cluster).eq_recordAll found
  rw [getPrivateSubnetIDS_eq found (getVPCSubnets_lists lists (by simpa using has)) (getAZs_lists lists)]
  obtain ⟨s', outcome⟩ := reconcileZones_exhausted cluster conflicting build
    (privateSubnets (s.subnets.filter (·.vpcId = vpc.vpcId))) s.availabilityZones []
    (s.recordAll (reads ++ [.describeSubnets none, .describeAvailabilityZones none])) (by simp) (.inr uncovered)
  simp only [List.append_nil] at outcome
  simp only [Cloud.record_eq, Cloud.recordAll_recordAll, Cloud.recordAll_availabilityZones,
    Cloud.recordAll_subnets, List.append_assoc, List.singleton_append]
  rcases outcome with panics | ⟨privSubs, ends, nil_mem⟩
  · simp [bind_apply, panics]
  · simp [bind_apply, ends, liftAbort, subnetIds_of_none nil_mem]

/-- A provider that refuses every `CreateSubnet` as a conflict and answers
everything else. -/
def EC2API.conflicting : EC2API :=
  { EC2API.answering with createSubnetReply := fun _ _ => .error (.aws "InvalidSubnet.Conflict" "overlap") }

/-- A `/26` VPC with a cluster-owned subnet and no private subnet. -/
def unmarkedVpc : Cloud where
  subnets := [⟨"subnet-a", "vpc-a", "zone-a", [⟨"cluster/c1", "owned"⟩]⟩]
  availabilityZones := [⟨"zone-a", "available"⟩]
  vpcs := [⟨"vpc-a", .ipv4 10 0 0 0 26⟩]
  securityGroups := []
  calls := []

theorem getPrivateSubnetIDS_exhausted_unmarked :
    resultOf (getPrivateSubnetIDS EC2API.conflicting sampleCluster unmarkedVpc) = .error (.panic nilDereference) :=
  getPrivateSubnetIDS_exhausted _ _ _ ⟨"vpc-a", .ipv4 10 0 0 0 26⟩ _
    ⟨fun _ => rfl, fun _ => rfl, fun _ _ => rfl, fun _ => rfl⟩ (fun _ _ => ⟨_, rfl, rfl⟩) ⟨_, rfl⟩
    (buildSubnetAddress_ipv4 "vpc-a" (by decide) (by decide)) ⟨⟨"zone-a", "available"⟩, by decide, by decide⟩

/-- A zone that is not `available` is never covered, whatever subnets the list
holds. -/
theorem privateSubnetExists_unavailable (base : List Subnet) {zone : AvailabilityZone}
    (unavailable : zone.state ≠ "available") : privateSubnetExists (base.map some) zone = .ok false := by
  rw [privateSubnetExists_map_some]
  simp [coversZone, unavailable]

/-- A private subnet in an available zone and one in an impaired zone. -/
def impairedZone : Cloud where
  subnets := [⟨"subnet-a", "vpc-a", "zone-a", [⟨"cluster/c1", "owned"⟩, ⟨defaultAWSPrivateSubnetTagKey, "1"⟩]⟩,
    ⟨"subnet-b", "vpc-a", "zone-b", [⟨defaultAWSPrivateSubnetTagKey, "1"⟩]⟩]
  availabilityZones := [⟨"zone-a", "available"⟩, ⟨"zone-b", "impaired"⟩]
  vpcs := [⟨"vpc-a", .ipv4 10 0 0 0 26⟩]
  securityGroups := []
  calls := []

/-- The pass asks for a new subnet in the impaired zone, which already has a
private subnet. -/
theorem getPrivateSubnetIDS_impaired :
    Call.createSubnet ⟨"zone-b", .ipv4 10 0 0 32 27, "vpc-a"⟩ (.ok "subnet-4") ∈
      (stateOf (getPrivateSubnetIDS EC2API.answering sampleCluster impairedZone)).calls := by
  decide

end ClusterVpc
