import ClusterVpc.Reconciler.Pass

/-!
# Repeated passes

What a pass may send: reads, `CreateSubnet` requests in the cluster's VPC for
zones that no private subnet of the VPC covered when the pass started, and
`CreateTags` with the default subnet tags. A later pass reads the listing
afresh; since nothing removes a subnet or a tag, a subnet that a pass created
and tagged is a private subnet of the VPC for every later pass, and its zone,
when available, is covered from then on. A subnet whose tagging failed carries
no marker, and a later pass does not see it.
-/

namespace ClusterVpc

open Net Planner

theorem mem_privateSubnets {sub : Subnet} {subs : List Subnet} :
    sub ∈ privateSubnets subs ↔ sub ∈ subs ∧ defaultAWSPrivateSubnetTagKey ∈ sub.keys := by
  simp only [privateSubnets, List.mem_flatMap, List.mem_map, List.mem_filter, Subnet.keys, decide_eq_true_eq]
  constructor
  · rintro ⟨other, mem, tag, ⟨tag_mem, marked⟩, rfl⟩
    exact ⟨mem, tag, tag_mem, marked⟩
  · rintro ⟨mem, tag, tag_mem, marked⟩
    exact ⟨sub, mem, tag, ⟨tag_mem, marked⟩, rfl⟩

/-! ## What one pass sends -/

/-- Every `CreateTags` of a log names one subnet, which a successful
`CreateSubnet` of the log created. -/
def TagsCreated (calls : List Call) : Prop :=
  ∀ input failure, Call.createTags input failure ∈ calls →
    ∃ request subnetId, input.resources = [subnetId] ∧ Call.createSubnet request (.ok subnetId) ∈ calls

namespace TagsCreated

/-- A log without `CreateTags`. -/
theorem of_untagged {calls : List Call} (untagged : ∀ input failure, Call.createTags input failure ∉ calls) :
    TagsCreated calls :=
  fun input failure mem => absurd mem (untagged input failure)

theorem of_reads {calls : List Call} (reads : ∀ call ∈ calls, call.isRead) : TagsCreated calls :=
  of_untagged fun _ _ mem => absurd (reads _ mem) (by simp [Call.isRead])

theorem append {calls more : List Call} (first : TagsCreated calls) (second : TagsCreated more) :
    TagsCreated (calls ++ more) := by
  intro input failure mem
  rcases List.mem_append.mp mem with mem | mem
  · obtain ⟨request, subnetId, named, created⟩ := first input failure mem
    exact ⟨request, subnetId, named, List.mem_append_left _ created⟩
  · obtain ⟨request, subnetId, named, created⟩ := second input failure mem
    exact ⟨request, subnetId, named, List.mem_append_right _ created⟩

/-- A subnet created and then tagged. -/
theorem pair (request : CreateSubnetInput) (subnetId : String) (tags : List Tag) (failure : Option GoError) :
    TagsCreated [.createSubnet request (.ok subnetId), .createTags ⟨[subnetId], tags⟩ failure] := by
  intro input failure' mem
  simp only [List.mem_cons, List.mem_singleton, reduceCtorEq, Call.createTags.injEq, List.not_mem_nil,
    false_or, or_false] at mem
  exact ⟨request, subnetId, by rw [mem.1], List.mem_cons_self _ _⟩

end TagsCreated

/-- A call `createPrivateSubnet` can make for a zone of a VPC. -/
def ProvisionCall (cluster : Cluster) (vpc : Vpc) (zone : String) : Call → Prop
  | .createSubnet input _ => input.vpcId = vpc.vpcId ∧ input.availabilityZone = zone
  | .createTags input _ => getDefaultSubnetTags cluster = .ok input.tags
  | _ => False

/-- A call the zone loop can make over zones `azs`, when the private subnets it
started from are `base`. -/
def ZoneCall (cluster : Cluster) (vpc : Vpc) (azs : List AvailabilityZone) (base : List Subnet) :
    Call → Prop
  | .createSubnet input _ => input.vpcId = vpc.vpcId ∧
      ∃ az ∈ azs, az.zoneName = input.availabilityZone ∧ base.any (coversZone az) = false
  | .createTags input _ => getDefaultSubnetTags cluster = .ok input.tags
  | call => call.isRead

section Calls

variable (ec2 : EC2API) (cluster : Cluster) (vpc : Vpc)

theorem createLoop_calls (zone : String) (subs : List IPNet) (s : Cloud) :
    ∃ new, (stateOf (createLoop ec2 cluster vpc zone subs s)).calls = s.calls ++ new ∧
      (∀ call ∈ new, ProvisionCall cluster vpc zone call) ∧ TagsCreated new := by
  induction subs generalizing s with
  | nil => exact ⟨[], by simp [createLoop], by simp, .of_reads (by simp)⟩
  | cons ip subs ih =>
    have requested : ∀ reply, ProvisionCall cluster vpc zone (.createSubnet (subnetRequest vpc zone ip) reply) :=
      fun _ => ⟨rfl, rfl⟩
    by_cases conflict : ∃ err, ec2.createSubnetReply s (subnetRequest vpc zone ip) = .error err ∧ isConflict err
    · obtain ⟨err, reply, conflicting⟩ := conflict
      obtain ⟨new, calls_eq, all, tags⟩ := ih (s.record (.createSubnet (subnetRequest vpc zone ip) (.error err)))
      have refused : TagsCreated [.createSubnet (subnetRequest vpc zone ip) (.error err)] := .of_untagged (by simp)
      rw [createLoop_conflict reply conflicting]
      exact ⟨.createSubnet (subnetRequest vpc zone ip) (.error err) :: new, by rw [calls_eq]; simp [Cloud.record],
        List.forall_mem_cons.mpr ⟨requested _, all⟩, refused.append tags⟩
    · push_neg at conflict
      have decides : Decides cluster (subnetRequest vpc zone ip) s.calls (createLoop ec2 cluster vpc zone (ip :: subs) s) :=
        createLoop_decides fun err reply => by simpa using conflict err reply
      rcases decides with ⟨err, -, calls_eq, -⟩ | ⟨subnetId, decided⟩
      · exact ⟨_, calls_eq, List.forall_mem_singleton.mpr (requested _), .of_untagged (by simp)⟩
      · split at decided
        · exact ⟨_, decided.1, List.forall_mem_singleton.mpr (requested _), .of_untagged (by simp)⟩
        · rename_i tags tags_eq
          obtain ⟨failure, calls_eq, -⟩ := decided
          exact ⟨_, calls_eq, List.forall_mem_cons.mpr ⟨requested _, List.forall_mem_singleton.mpr tags_eq⟩,
            .pair _ _ _ _⟩

theorem createPrivateSubnet_calls (zone : String) (s : Cloud) :
    ∃ new, (stateOf (createPrivateSubnet ec2 cluster vpc zone s)).calls = s.calls ++ new ∧
      (∀ call ∈ new, ProvisionCall cluster vpc zone call) ∧ TagsCreated new := by
  cases build : buildSubnetAddress vpc with
  | error e =>
    exact ⟨[], by cases e <;> simp [createPrivateSubnet, bind_apply, build, liftAbort, wrapErr], by simp,
      .of_reads (by simp)⟩
  | ok subs => rw [createPrivateSubnet_eq build]; exact createLoop_calls ec2 cluster vpc zone subs s

/-- The zone loop only requests subnets, in the VPC, for zones that the private
subnets it started from do not cover, and tags them with the default tags. -/
theorem reconcileZones_calls (base : List Subnet) (azs : List AvailabilityZone)
    (extra : List (Option Subnet)) (s : Cloud) :
    ∃ new, (stateOf (reconcileZones ec2 cluster vpc azs (base.map some ++ extra) s)).calls = s.calls ++ new ∧
      (∀ call ∈ new, ZoneCall cluster vpc azs base call) ∧ TagsCreated new := by
  induction azs generalizing extra s with
  | nil => exact ⟨[], by simp [reconcileZones], by simp, .of_reads (by simp)⟩
  | cons az azs ih =>
    have widen : ∀ call, ZoneCall cluster vpc azs base call → ZoneCall cluster vpc (az :: azs) base call := by
      intro call zoneCall
      cases call <;> simp only [ZoneCall, List.mem_cons] at zoneCall ⊢
      all_goals first | exact zoneCall | skip
      obtain ⟨same_vpc, other, mem, named, uncovered⟩ := zoneCall
      exact ⟨same_vpc, other, .inr mem, named, uncovered⟩
    cases scan : privateSubnetExists (base.map some ++ extra) az with
    | error e => exact ⟨[], by rw [reconcileZones_scan_error scan]; simp, by simp, .of_reads (by simp)⟩
    | ok covered =>
      cases covered
      case true =>
        obtain ⟨rest, rest_eq, rest_calls, rest_tags⟩ := ih extra s
        exact ⟨rest, by rw [reconcileZones_covered scan, rest_eq], fun call mem => widen call (rest_calls call mem),
          rest_tags⟩
      have uncovered : base.any (coversZone az) = false := by
        rw [privateSubnetExists_append] at scan
        by_contra covers
        simp [covers] at scan
      obtain ⟨made, made_eq, made_calls, made_tags⟩ := createPrivateSubnet_calls ec2 cluster vpc az.zoneName s
      have made_zone : ∀ call ∈ made, ZoneCall cluster vpc (az :: azs) base call := by
        intro call mem
        have provision := made_calls call mem
        cases call <;> simp only [ProvisionCall, ZoneCall] at provision ⊢
        all_goals first | exact provision | skip
        exact ⟨provision.1, az, List.mem_cons_self _ _, provision.2.symm, uncovered⟩
      cases created : createPrivateSubnet ec2 cluster vpc az.zoneName s with
      | error e s₁ =>
        rw [created, stateOf_error] at made_eq
        obtain ⟨e', failed⟩ := reconcileZones_create_error azs scan created
        exact ⟨made, by rw [failed, stateOf_error, made_eq], made_zone, made_tags⟩
      | ok entry s₁ =>
        rw [created, stateOf_ok] at made_eq
        obtain ⟨rest, rest_eq, rest_calls, rest_tags⟩ := ih (extra ++ [entry]) s₁
        refine ⟨made ++ rest, ?_, fun call mem => ?_, made_tags.append rest_tags⟩
        · rw [reconcileZones_created scan created, List.append_assoc, rest_eq, made_eq, List.append_assoc]
        · rcases List.mem_append.mp mem with mem | mem
          exacts [made_zone call mem, widen call (rest_calls call mem)]

/-- A continuation that leaves the provider alone. -/
theorem stateOf_bind_frame {α β : Type} {m : CloudM α} {f : α → CloudM β} (s : Cloud)
    (frame : ∀ a s, stateOf (f a s) = s) : stateOf ((m >>= f) s) = stateOf (m s) := by
  rw [bind_apply]
  cases m s <;> simp [frame]

/-- A pass is its lookups, which only read, and then, once they have all
answered, the zone loop over the region's zones from the private subnets of the
VPC in the listing; what follows the loop sends nothing. -/
theorem getPrivateSubnetIDS_log (s : Cloud) :
    ∃ reads, (∀ call ∈ reads, call.isRead) ∧
      (stateOf (getPrivateSubnetIDS ec2 cluster s) = s.recordAll reads ∨
        ∃ vpc s₁, getClusterVpc ec2 cluster s = .ok vpc s₁ ∧
          stateOf (getPrivateSubnetIDS ec2 cluster s) = stateOf (reconcileZones ec2 cluster vpc s.availabilityZones
            ((privateSubnets (s.subnets.filter (·.vpcId = vpc.vpcId))).map some) (s.recordAll reads))) := by
  rw [getPrivateSubnetIDS]
  obtain ⟨r₁, read₁, ⟨e, failed⟩ | ⟨vpc, found⟩⟩ := (readOnly_getClusterVpc ec2 cluster).cases s
  · exact ⟨r₁, read₁, .inl (bind_wrapErr_error _ failed)⟩
  rw [bind_wrapErr_ok _ found]
  obtain ⟨r₂, read₂, ⟨e, failed⟩ | ⟨subs, listed⟩⟩ := (readOnly_getVPCSubnets ec2 (some vpc)).cases (s.recordAll r₁)
  · refine ⟨r₁ ++ r₂, List.forall_mem_append.mpr ⟨read₁, read₂⟩, .inl ?_⟩
    rw [bind_wrapErr_error _ failed, Cloud.recordAll_recordAll]
  rw [bind_wrapErr_ok _ listed]
  have reads : ∀ r₃ : List Call, (∀ call ∈ r₃, call.isRead) → ∀ call ∈ r₁ ++ r₂ ++ r₃, call.isRead :=
    fun _ read₃ => List.forall_mem_append.mpr ⟨List.forall_mem_append.mpr ⟨read₁, read₂⟩, read₃⟩
  obtain ⟨r₃, read₃, ⟨e, failed⟩ | ⟨azs, zones⟩⟩ := (readOnly_getAZs ec2).cases ((s.recordAll r₁).recordAll r₂)
  · refine ⟨r₁ ++ r₂ ++ r₃, reads r₃ read₃, .inl ?_⟩
    rw [bind_wrapErr_error _ failed, Cloud.recordAll_recordAll, Cloud.recordAll_recordAll, List.append_assoc]
  refine ⟨r₁ ++ r₂ ++ r₃, reads r₃ read₃, .inr ⟨vpc, _, found, ?_⟩⟩
  rw [bind_wrapErr_ok _ zones, stateOf_bind_frame]
  · simp only [getVPCSubnets_ok listed, getAZs_ok zones, Cloud.recordAll_recordAll, Cloud.recordAll_subnets,
      Cloud.recordAll_availabilityZones]
  · intro privSubs s'
    cases subnetIds privSubs with
    | error e => rfl
    | ok ids => simp only [liftAbort, bind_apply, pure_apply]; split <;> rfl

/-- Everything a pass sends: reads, and, once it has found the cluster's VPC,
the calls of the zone loop over the region's zones, started from the private
subnets of the VPC in the listing. -/
theorem getPrivateSubnetIDS_calls (s : Cloud) :
    ∃ new, (stateOf (getPrivateSubnetIDS ec2 cluster s)).calls = s.calls ++ new ∧ TagsCreated new ∧
      ((∀ call ∈ new, call.isRead) ∨ ∃ vpc s₁, getClusterVpc ec2 cluster s = .ok vpc s₁ ∧
        ∀ call ∈ new, ZoneCall cluster vpc s.availabilityZones
          (privateSubnets (s.subnets.filter (·.vpcId = vpc.vpcId))) call) := by
  obtain ⟨reads, read, looked_up | ⟨vpc, s₁, found, zoned⟩⟩ := getPrivateSubnetIDS_log ec2 cluster s
  · exact ⟨reads, by rw [looked_up, Cloud.recordAll_calls], .of_reads read, .inl read⟩
  obtain ⟨made, made_eq, made_calls, made_tags⟩ := reconcileZones_calls ec2 cluster vpc
    (privateSubnets (s.subnets.filter (·.vpcId = vpc.vpcId))) s.availabilityZones [] (s.recordAll reads)
  rw [List.append_nil, ← zoned, Cloud.recordAll_calls] at made_eq
  refine ⟨reads ++ made, by rw [made_eq, List.append_assoc], (TagsCreated.of_reads read).append made_tags,
    .inr ⟨vpc, s₁, found, fun call mem => ?_⟩⟩
  rcases List.mem_append.mp mem with mem | mem
  · have read := read call mem
    cases call <;> first | exact read | cases read
  · exact made_calls call mem

/-- A `CreateSubnet` request of a pass is in the VPC the pass found, for a zone
of the list that no private subnet of that VPC covered when the pass started. -/
theorem getPrivateSubnetIDS_requests (s : Cloud) {request : CreateSubnetInput} {reply : Except GoError String}
    (requested : .createSubnet request reply ∈
      (stateOf (getPrivateSubnetIDS ec2 cluster s)).calls.drop s.calls.length) :
    ∃ vpc s₁, getClusterVpc ec2 cluster s = .ok vpc s₁ ∧ request.vpcId = vpc.vpcId ∧
      ∃ az ∈ s.availabilityZones, az.zoneName = request.availabilityZone ∧
        ∀ sub ∈ s.subnets, sub.vpcId = vpc.vpcId → defaultAWSPrivateSubnetTagKey ∈ sub.keys →
          coversZone az sub = false := by
  obtain ⟨new, calls_eq, -, log⟩ := getPrivateSubnetIDS_calls ec2 cluster s
  rw [calls_eq, List.drop_left] at requested
  rcases log with reads | ⟨vpc, s₁, found, zoned⟩
  · exact absurd (reads _ requested) (by simp [Call.isRead])
  · obtain ⟨same_vpc, az, az_mem, named, uncovered⟩ := zoned _ requested
    refine ⟨vpc, s₁, found, same_vpc, az, az_mem, named, fun sub mem in_vpc marked => ?_⟩
    have listed : sub ∈ privateSubnets (s.subnets.filter (·.vpcId = vpc.vpcId)) :=
      mem_privateSubnets.mpr ⟨List.mem_filter.mpr ⟨mem, by simpa using in_vpc⟩, marked⟩
    by_contra covers
    simp only [List.any_eq_false] at uncovered
    exact uncovered sub listed (by simpa using covers)

/-- The tags of a successful `CreateTags` of a pass are the default tags, the
private-subnet marker among them. -/
theorem getPrivateSubnetIDS_marks (s : Cloud) {input : CreateTagsInput} {failure : Option GoError}
    (tagged : .createTags input failure ∈ (stateOf (getPrivateSubnetIDS ec2 cluster s)).calls.drop s.calls.length) :
    defaultAWSPrivateSubnetTagKey ∈ input.tags.map (·.key) := by
  obtain ⟨new, calls_eq, -, log⟩ := getPrivateSubnetIDS_calls ec2 cluster s
  rw [calls_eq, List.drop_left] at tagged
  have tags_ok : getDefaultSubnetTags cluster = .ok input.tags := by
    rcases log with reads | ⟨vpc, s₁, -, zoned⟩
    · exact absurd (reads _ tagged) (by simp [Call.isRead])
    · exact zoned _ tagged
  obtain ⟨rest, tags_eq⟩ := getDefaultSubnetTags_marker tags_ok
  simp [tags_eq]

end Calls

/-! ## Later passes -/

/-- Once a pass has created a subnet in a zone of the cluster's VPC and tagged
it, no later pass asks for a subnet in that zone of that VPC, if the zone is
available; in particular, a pass in a VPC whose zones are all available and
covered by private subnets asks for no subnet. The provider may answer each
request of each pass in any way, and any requests may come in between. -/
theorem getPrivateSubnetIDS_tagged_zone_covered :
    (∀ (ec2 ec2' : EC2API) (cluster cluster' : Cluster) (s s' : Cloud) (input : CreateSubnetInput)
      (subnetId : String) (tags : List Tag),
      [Call.createSubnet input (.ok subnetId), Call.createTags ⟨[subnetId], tags⟩ none] <:+:
        (stateOf (getPrivateSubnetIDS ec2 cluster s)).calls.drop s.calls.length →
      (∀ az ∈ s.availabilityZones, az.zoneName = input.availabilityZone → az.state = "available") →
      Steps (stateOf (getPrivateSubnetIDS ec2 cluster s)) s' →
      ∀ request reply, Call.createSubnet request reply ∈
        (stateOf (getPrivateSubnetIDS ec2' cluster' s')).calls.drop s'.calls.length →
        ¬ (request.vpcId = input.vpcId ∧ request.availabilityZone = input.availabilityZone)) ∧
    (∀ (ec2 : EC2API) (cluster : Cluster) (s : Cloud),
      (∀ vpc s₁, getClusterVpc ec2 cluster s = .ok vpc s₁ → ∀ az ∈ s.availabilityZones,
        az.state = "available" ∧ ∃ sub ∈ s.subnets, sub.vpcId = vpc.vpcId ∧
          sub.availabilityZone = az.zoneName ∧ defaultAWSPrivateSubnetTagKey ∈ sub.keys) →
      ∀ request reply, Call.createSubnet request reply ∉
        (stateOf (getPrivateSubnetIDS ec2 cluster s)).calls.drop s.calls.length) := by
  constructor
  · intro ec2 ec2' cluster cluster' s s' input subnetId tags tagged available later request reply requested same
    have runs := runs_getPrivateSubnetIDS ec2 cluster s
    have marked : defaultAWSPrivateSubnetTagKey ∈ tags.map (·.key) :=
      getPrivateSubnetIDS_marks ec2 cluster s (tagged.subset (List.mem_cons_of_mem _ (List.mem_singleton_self _)))
    obtain ⟨sub, sub_mem, -, sub_vpc, sub_zone, sub_keys⟩ :=
      ((runs.consistent (.start s)).tagged input subnetId tags tagged).keep later.keeps
    have zones : s'.availabilityZones = s.availabilityZones := later.availabilityZones.trans runs.availabilityZones
    obtain ⟨vpc, -, -, request_vpc, az, az_mem, named, uncovered⟩ := getPrivateSubnetIDS_requests ec2' cluster' s' requested
    have covers := uncovered sub sub_mem (by simpa [sub_vpc, ← request_vpc] using same.1.symm)
      (sub_keys _ (by simpa [Subnet.keys] using marked))
    have open_zone := available az (zones ▸ az_mem) (named.trans same.2)
    simp [coversZone, sub_zone, named, same.2, open_zone] at covers
  · intro ec2 cluster s covered request reply requested
    obtain ⟨vpc, s₁, found, -, az, az_mem, -, uncovered⟩ := getPrivateSubnetIDS_requests ec2 cluster s requested
    obtain ⟨open_zone, sub, sub_mem, sub_vpc, sub_zone, marked⟩ := covered vpc s₁ found az az_mem
    simpa [coversZone, sub_zone, open_zone] using uncovered sub sub_mem sub_vpc marked

/-- A VPC whose one zone has a private subnet. -/
def coveredVpc : Cloud where
  subnets := [⟨"subnet-a", "vpc-a", "zone-a", [⟨"cluster/c1", "owned"⟩, ⟨defaultAWSPrivateSubnetTagKey, "1"⟩]⟩]
  availabilityZones := [⟨"zone-a", "available"⟩]
  vpcs := [⟨"vpc-a", .ipv4 10 0 0 0 26⟩]
  securityGroups := []
  calls := []

theorem getPrivateSubnetIDS_second_pass :
    (∀ request reply, Call.createSubnet request reply ∈
      (stateOf (getPrivateSubnetIDS EC2API.answering sampleCluster
        (stateOf (getPrivateSubnetIDS EC2API.answering sampleCluster unmarkedVpc)))).calls.drop
        (stateOf (getPrivateSubnetIDS EC2API.answering sampleCluster unmarkedVpc)).calls.length →
      ¬ (request.vpcId = "vpc-a" ∧ request.availabilityZone = "zone-a")) ∧
    ∀ request reply, Call.createSubnet request reply ∉
      (stateOf (getPrivateSubnetIDS EC2API.answering sampleCluster coveredVpc)).calls.drop coveredVpc.calls.length :=
  ⟨getPrivateSubnetIDS_tagged_zone_covered.1 _ _ _ _ unmarkedVpc _ ⟨"zone-a", .ipv4 10 0 0 32 27, "vpc-a"⟩
      "subnet-4" [⟨defaultAWSPrivateSubnetTagKey, "1"⟩, ⟨"org/clusterID", "c1"⟩, ⟨"Name", "private-subnet"⟩,
        ⟨"org/managed", "true"⟩]
      ⟨[.describeSubnets none, .describeVpcs ["vpc-a"] none, .describeSubnets none, .describeAvailabilityZones none],
        [], by decide⟩ (by decide) .refl,
    getPrivateSubnetIDS_tagged_zone_covered.2 _ _ coveredVpc fun vpc s₁ found => by
      obtain ⟨mem, -⟩ := getClusterVpc_mem found
      simp only [coveredVpc, List.mem_singleton] at mem
      subst mem
      decide⟩

/-- A provider whose `CreateTags` fails. -/
def EC2API.untagging : EC2API :=
  { EC2API.answering with createTagsFailure := fun _ _ => some (.aws "RequestLimitExceeded" "slow down") }

/-- The first pass creates a subnet in `zone-a` but cannot tag it; the second
pass creates another one there. -/
theorem getPrivateSubnetIDS_untagged_twice :
    Call.createSubnet ⟨"zone-a", .ipv4 10 0 0 32 27, "vpc-a"⟩ (.ok "subnet-4") ∈
      (stateOf (getPrivateSubnetIDS EC2API.untagging sampleCluster unmarkedVpc)).calls ∧
    Call.createSubnet ⟨"zone-a", .ipv4 10 0 0 0 27, "vpc-a"⟩ (.ok "subnet-11") ∈
      (stateOf (getPrivateSubnetIDS EC2API.answering sampleCluster
        (stateOf (getPrivateSubnetIDS EC2API.untagging sampleCluster unmarkedVpc)))).calls.drop
        (stateOf (getPrivateSubnetIDS EC2API.untagging sampleCluster unmarkedVpc)).calls.length := by
  decide

end ClusterVpc
