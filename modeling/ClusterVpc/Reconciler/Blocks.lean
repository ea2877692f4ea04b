import ClusterVpc.Reconciler.Passes
import ClusterVpc.Planner.Candidates

/-!
# The blocks a pass asks for

`createPrivateSubnet` asks only for the planner's candidates, in the VPC it is
given, and the zone loop sends nothing else that creates. So every
`CreateSubnet` of a pass is for a `/27` block inside the block of the VPC the
pass found, and that VPC has an IPv4 block of 1 to 26 prefix bits.
-/

namespace ClusterVpc

open Net Planner

/-- The request is for one of the planner's candidates of the VPC's block, in
the VPC. -/
def CandidateRequest (vpc : Vpc) (request : CreateSubnetInput) : Prop :=
  ∃ subs ip, buildSubnetAddress vpc = .ok subs ∧ ip ∈ subs ∧
    request = subnetRequest vpc request.availabilityZone ip

/-- Every `CreateSubnet` among the calls is for a candidate of the VPC. -/
def CandidatesOnly (vpc : Vpc) (calls : List Call) : Prop :=
  ∀ request reply, Call.createSubnet request reply ∈ calls → CandidateRequest vpc request

theorem CandidatesOnly.append {vpc : Vpc} {calls more : List Call} (first : CandidatesOnly vpc calls)
    (rest : CandidatesOnly vpc more) : CandidatesOnly vpc (calls ++ more) := fun request reply mem =>
  (List.mem_append.mp mem).elim (first request reply) (rest request reply)

theorem candidatesOnly_of_reads {vpc : Vpc} {calls : List Call} (reads : ∀ call ∈ calls, call.isRead) :
    CandidatesOnly vpc calls :=
  fun _ _ mem => absurd (reads _ mem) (by simp [Call.isRead])

theorem mem_conflictCalls {vpc : Vpc} {zone : String} {subs : List IPNet} {conflicts : List GoError} {call : Call}
    (mem : call ∈ conflictCalls vpc zone subs conflicts) :
    ∃ ip ∈ subs, ∃ err, call = .createSubnet (subnetRequest vpc zone ip) (.error err) := by
  induction subs generalizing conflicts with
  | nil => cases mem
  | cons ip subs ih =>
    cases conflicts with
    | nil => cases mem
    | cons err conflicts =>
      rcases List.mem_cons.mp mem with rfl | mem
      · exact ⟨ip, List.mem_cons_self _ _, err, rfl⟩
      · obtain ⟨ip', mem', err', rfl⟩ := ih mem
        exact ⟨ip', List.mem_cons_of_mem _ mem', err', rfl⟩

section Requests

variable (ec2 : EC2API) (cluster : Cluster) (vpc : Vpc)

/-- `createPrivateSubnet` asks only for the planner's candidates. -/
theorem createPrivateSubnet_requests (zone : String) (s : Cloud) :
    ∃ new, (stateOf (createPrivateSubnet ec2 cluster vpc zone s)).calls = s.calls ++ new ∧
      CandidatesOnly vpc new := by
  cases build : buildSubnetAddress vpc with
  | error e => exact ⟨[], by cases e <;> simp [createPrivateSubnet, bind_apply, build, liftAbort, wrapErr],
      fun _ _ mem => nomatch mem⟩
  | ok subs =>
    rw [createPrivateSubnet_eq build]
    obtain ⟨conflicts, -, -, outcome⟩ := createLoop_spec ec2 cluster vpc zone subs s
    have candidate : ∀ ip ∈ subs, CandidateRequest vpc (subnetRequest vpc zone ip) :=
      fun ip mem => ⟨subs, ip, build, mem, rfl⟩
    have conflicted : CandidatesOnly vpc (conflictCalls vpc zone subs conflicts) := fun request reply mem => by
      obtain ⟨ip, ip_mem, err, same⟩ := mem_conflictCalls mem
      cases same
      exact candidate ip ip_mem
    split at outcome
    · exact ⟨_, outcome.1, conflicted⟩
    rename_i ip rest dropped
    have decisive : ∀ more : List Call, (∀ request reply, Call.createSubnet request reply ∈ more →
        request = subnetRequest vpc zone ip) → CandidatesOnly vpc (conflictCalls vpc zone subs conflicts ++ more) :=
      fun more only => conflicted.append fun request reply mem => by
        rw [only request reply mem]
        exact candidate ip (List.mem_of_mem_drop (dropped ▸ List.mem_cons_self _ _))
    rcases outcome with ⟨err, -, calls_eq, -⟩ | ⟨subnetId, decided⟩
    · exact ⟨_, calls_eq.trans (List.append_assoc _ _ _), decisive _ (by simp)⟩
    split at decided
    · exact ⟨_, decided.1.trans (List.append_assoc _ _ _), decisive _ (by simp)⟩
    · obtain ⟨failure, calls_eq, -⟩ := decided
      exact ⟨_, calls_eq.trans (List.append_assoc _ _ _), decisive _ (by simp)⟩

/-- The zone loop sends only what `createPrivateSubnet` sends for its zones. -/
theorem reconcileZones_requests (azs : List AvailabilityZone) (privSubs : List (Option Subnet)) (s : Cloud) :
    ∃ new, (stateOf (reconcileZones ec2 cluster vpc azs privSubs s)).calls = s.calls ++ new ∧
      CandidatesOnly vpc new := by
  induction azs generalizing privSubs s with
  | nil => exact ⟨[], by simp [reconcileZones], fun _ _ mem => nomatch mem⟩
  | cons az azs ih =>
    cases scan : privateSubnetExists privSubs az with
    | error e => exact ⟨[], by rw [reconcileZones_scan_error scan]; simp, fun _ _ mem => nomatch mem⟩
    | ok covered =>
      cases covered
      case true => rw [reconcileZones_covered scan]; exact ih privSubs s
      obtain ⟨made, made_eq, made_only⟩ := createPrivateSubnet_requests ec2 cluster vpc az.zoneName s
      cases created : createPrivateSubnet ec2 cluster vpc az.zoneName s with
      | error e s₁ =>
        rw [created, stateOf_error] at made_eq
        obtain ⟨e', failed⟩ := reconcileZones_create_error azs scan created
        exact ⟨made, by rw [failed, stateOf_error, made_eq], made_only⟩
      | ok entry s₁ =>
        rw [created, stateOf_ok] at made_eq
        obtain ⟨rest, rest_eq, rest_only⟩ := ih (privSubs ++ [entry]) s₁
        exact ⟨made ++ rest, by rw [reconcileZones_created scan created, rest_eq, made_eq, List.append_assoc],
          made_only.append rest_only⟩

end Requests

/-- Every subnet a pass asks for is a `/27` block inside the VPC block: the VPC
the pass found has an IPv4 block of 1 to 26 prefix bits, and the request is,
in that VPC, for the text of an aligned `/27` block that lies in it. -/
theorem getPrivateSubnetIDS_blocks (ec2 : EC2API) (cluster : Cluster) (s : Cloud) {request : CreateSubnetInput}
    {reply : Except GoError String}
    (requested : .createSubnet request reply ∈
      (stateOf (getPrivateSubnetIDS ec2 cluster s)).calls.drop s.calls.length) :
    ∃ vpc s₁, getClusterVpc ec2 cluster s = .ok vpc s₁ ∧ request.vpcId = vpc.vpcId ∧
      ∃ a b c d ones, ∃ (pos : 1 ≤ ones) (le : ones ≤ 26), vpc.cidrBlock = .ipv4 a b c d ones ∧
        ∃ x, (Block.ofText a b c d ones pos le).Holds x ∧ request.cidrBlock = cidrText (ofValue x) 27 := by
  obtain ⟨reads, read, looked_up | ⟨vpc, s₁, found, zoned⟩⟩ := getPrivateSubnetIDS_log ec2 cluster s
  · rw [looked_up, Cloud.recordAll_calls, List.drop_left] at requested
    exact absurd (read _ requested) (by simp [Call.isRead])
  obtain ⟨made, made_eq, made_only⟩ := reconcileZones_requests ec2 cluster vpc s.availabilityZones
    ((privateSubnets (s.subnets.filter (·.vpcId = vpc.vpcId))).map some) (s.recordAll reads)
  rw [zoned, made_eq, Cloud.recordAll_calls, List.append_assoc, List.drop_left] at requested
  obtain ⟨subs, ip, build, ip_mem, same⟩ :=
    ((candidatesOnly_of_reads read).append made_only) request reply requested
  rcases buildSubnetAddress_outcomes vpc with ⟨a, b, c, d, ones, pos, le, cidr, planned⟩ | ⟨err, failed⟩ |
    ⟨-, failed⟩
  · rw [build] at planned
    cases planned
    obtain ⟨four, holds⟩ := (Block.ofText a b c d ones pos le).plan.inside ip ip_mem
    refine ⟨vpc, s₁, found, by rw [same]; rfl, a, b, c, d, ones, pos, le, cidr, ip.ip.value, holds, ?_⟩
    rw [same]
    obtain ⟨address, mask⟩ := ip
    obtain rfl : mask = cidrMask 27 32 := (Block.ofText a b c d ones pos le).plan.prefix_length _ ip_mem
    show IPNet.string ⟨address, cidrMask 27 32⟩ = _
    rw [string_cidrMask four (by decide), ofValue_value four]
  all_goals rw [build] at failed; cases failed

/-- The subnet the pass over the unmarked VPC asks for. -/
theorem getPrivateSubnetIDS_blocks_unmarked :
    Call.createSubnet ⟨"zone-a", .ipv4 10 0 0 32 27, "vpc-a"⟩ (.ok "subnet-4") ∈
        (stateOf (getPrivateSubnetIDS EC2API.answering sampleCluster unmarkedVpc)).calls.drop
          unmarkedVpc.calls.length ∧
      ∃ vpc s₁, getClusterVpc EC2API.answering sampleCluster unmarkedVpc = .ok vpc s₁ ∧
        (⟨"zone-a", .ipv4 10 0 0 32 27, "vpc-a"⟩ : CreateSubnetInput).vpcId = vpc.vpcId ∧
        ∃ a b c d ones, ∃ (pos : 1 ≤ ones) (le : ones ≤ 26), vpc.cidrBlock = .ipv4 a b c d ones ∧
          ∃ x, (Block.ofText a b c d ones pos le).Holds x ∧
            (⟨"zone-a", .ipv4 10 0 0 32 27, "vpc-a"⟩ : CreateSubnetInput).cidrBlock = cidrText (ofValue x) 27 :=
  have requested : Call.createSubnet ⟨"zone-a", .ipv4 10 0 0 32 27, "vpc-a"⟩ (.ok "subnet-4") ∈
      (stateOf (getPrivateSubnetIDS EC2API.answering sampleCluster unmarkedVpc)).calls.drop
        unmarkedVpc.calls.length := by decide
  ⟨requested, getPrivateSubnetIDS_blocks _ _ _ requested⟩

/-! ## How many writes a pass sends -/

/-- A `CreateSubnet` request. -/
def Call.isCreateSubnet : Call → Bool
  | .createSubnet _ _ => true
  | _ => false

/-- A `CreateTags` request. -/
def Call.isCreateTags : Call → Bool
  | .createTags _ _ => true
  | _ => false

/-- How many candidate blocks the planner gives the VPC; none when it fails. -/
def candidateCount (vpc : Vpc) : Nat :=
  match buildSubnetAddress vpc with
  | .ok subs => subs.length
  | .error _ => 0

theorem countP_writes_of_reads {calls : List Call} (reads : ∀ call ∈ calls, call.isRead) :
    calls.countP Call.isCreateSubnet = 0 ∧ calls.countP Call.isCreateTags = 0 := by
  refine ⟨List.countP_eq_zero.mpr fun call mem => ?_, List.countP_eq_zero.mpr fun call mem => ?_⟩ <;>
    · have read := reads call mem
      cases call <;> first | exact Bool.false_ne_true | cases read

section Counts

variable (ec2 : EC2API) (cluster : Cluster) (vpc : Vpc)

/-- The candidate loop sends one `CreateSubnet` per candidate it tries and at
most one `CreateTags`. -/
theorem createLoop_counts (zone : String) (subs : List IPNet) (s : Cloud) :
    ∃ new, (stateOf (createLoop ec2 cluster vpc zone subs s)).calls = s.calls ++ new ∧
      new.countP Call.isCreateSubnet ≤ subs.length ∧ new.countP Call.isCreateTags ≤ 1 := by
  induction subs generalizing s with
  | nil => exact ⟨[], by simp [createLoop], by simp, by simp⟩
  | cons ip subs ih =>
    by_cases conflict : ∃ err, ec2.createSubnetReply s (subnetRequest vpc zone ip) = .error err ∧ isConflict err
    · obtain ⟨err, reply, conflicting⟩ := conflict
      obtain ⟨new, calls_eq, created, tagged⟩ :=
        ih (s.record (.createSubnet (subnetRequest vpc zone ip) (.error err)))
      rw [createLoop_conflict reply conflicting]
      refine ⟨.createSubnet (subnetRequest vpc zone ip) (.error err) :: new, by rw [calls_eq]; simp [Cloud.record],
        ?_, by simpa [Call.isCreateTags] using tagged⟩
      simp only [List.countP_cons, Call.isCreateSubnet, List.length_cons, ↓reduceIte]
      omega
    · push_neg at conflict
      have decides : Decides cluster (subnetRequest vpc zone ip) s.calls
          (createLoop ec2 cluster vpc zone (ip :: subs) s) :=
        createLoop_decides fun err reply => by simpa using conflict err reply
      rcases decides with ⟨err, -, calls_eq, -⟩ | ⟨subnetId, decided⟩
      · exact ⟨_, calls_eq, by simp [Call.isCreateSubnet], by simp [Call.isCreateTags]⟩
      split at decided
      · exact ⟨_, decided.1, by simp [Call.isCreateSubnet], by simp [Call.isCreateTags]⟩
      · obtain ⟨failure, calls_eq, -⟩ := decided
        exact ⟨_, calls_eq, by simp [Call.isCreateSubnet], by simp [Call.isCreateTags]⟩

theorem createPrivateSubnet_counts (zone : String) (s : Cloud) :
    ∃ new, (stateOf (createPrivateSubnet ec2 cluster vpc zone s)).calls = s.calls ++ new ∧
      new.countP Call.isCreateSubnet ≤ candidateCount vpc ∧ new.countP Call.isCreateTags ≤ 1 := by
  cases build : buildSubnetAddress vpc with
  | error e => exact ⟨[], by cases e <;> simp [createPrivateSubnet, bind_apply, build, liftAbort, wrapErr], by simp,
      by simp⟩
  | ok subs =>
    rw [createPrivateSubnet_eq build, candidateCount, build]
    exact createLoop_counts ec2 cluster vpc zone subs s

/-- The zone loop sends at most one `CreateTags`, and one `CreateSubnet` per
candidate block, for each zone. -/
theorem reconcileZones_counts (azs : List AvailabilityZone) (privSubs : List (Option Subnet)) (s : Cloud) :
    ∃ new, (stateOf (reconcileZones ec2 cluster vpc azs privSubs s)).calls = s.calls ++ new ∧
      new.countP Call.isCreateSubnet ≤ azs.length * candidateCount vpc ∧
      new.countP Call.isCreateTags ≤ azs.length := by
  induction azs generalizing privSubs s with
  | nil => exact ⟨[], by simp [reconcileZones], by simp, by simp⟩
  | cons az azs ih =>
    have more : ∀ made rest : List Call, made.countP Call.isCreateSubnet ≤ candidateCount vpc →
        made.countP Call.isCreateTags ≤ 1 → rest.countP Call.isCreateSubnet ≤ azs.length * candidateCount vpc →
        rest.countP Call.isCreateTags ≤ azs.length →
        (made ++ rest).countP Call.isCreateSubnet ≤ (az :: azs).length * candidateCount vpc ∧
          (made ++ rest).countP Call.isCreateTags ≤ (az :: azs).length := by
      intro made rest made_subnets made_tags rest_subnets rest_tags
      simp only [List.countP_append, List.length_cons, Nat.succ_mul]
      omega
    cases scan : privateSubnetExists privSubs az with
    | error e => exact ⟨[], by rw [reconcileZones_scan_error scan]; simp, by simp, by simp⟩
    | ok covered =>
      cases covered
      case true =>
        rw [reconcileZones_covered scan]
        obtain ⟨rest, rest_eq, rest_subnets, rest_tags⟩ := ih privSubs s
        exact ⟨rest, rest_eq, by simpa using more [] rest (by simp) (by simp) rest_subnets rest_tags⟩
      obtain ⟨made, made_eq, made_subnets, made_tags⟩ := createPrivateSubnet_counts ec2 cluster vpc az.zoneName s
      cases created : createPrivateSubnet ec2 cluster vpc az.zoneName s with
      | error e s₁ =>
        rw [created, stateOf_error] at made_eq
        obtain ⟨e', failed⟩ := reconcileZones_create_error azs scan created
        exact ⟨made, by rw [failed, stateOf_error, made_eq],
          by simpa using more made [] made_subnets made_tags (by simp) (by simp)⟩
      | ok entry s₁ =>
        rw [created, stateOf_ok] at made_eq
        obtain ⟨rest, rest_eq, rest_subnets, rest_tags⟩ := ih (privSubs ++ [entry]) s₁
        exact ⟨made ++ rest, by rw [reconcileZones_created scan created, rest_eq, made_eq, List.append_assoc],
          more made rest made_subnets made_tags rest_subnets rest_tags⟩

end Counts

/-- A pass sends at most one `CreateTags` per zone of the region. It sends a
`CreateSubnet` only when the VPC it found has an IPv4 block of 1 to 26 prefix
bits, and then at most one per `/27` block of the VPC for each zone, 2048 per
zone on a `/16`. -/
theorem getPrivateSubnetIDS_request_bound (ec2 : EC2API) (cluster : Cluster) (s : Cloud) :
    ((stateOf (getPrivateSubnetIDS ec2 cluster s)).calls.drop s.calls.length).countP Call.isCreateTags ≤
        s.availabilityZones.length ∧
      (((stateOf (getPrivateSubnetIDS ec2 cluster s)).calls.drop s.calls.length).countP Call.isCreateSubnet = 0 ∨
        ∃ vpc s₁ a b c d p, getClusterVpc ec2 cluster s = .ok vpc s₁ ∧ vpc.cidrBlock = .ipv4 a b c d p ∧
          1 ≤ p ∧ p ≤ 26 ∧
          ((stateOf (getPrivateSubnetIDS ec2 cluster s)).calls.drop s.calls.length).countP Call.isCreateSubnet ≤
            s.availabilityZones.length * 2 ^ (27 - p)) := by
  obtain ⟨reads, read, looked_up | ⟨vpc, s₁, found, zoned⟩⟩ := getPrivateSubnetIDS_log ec2 cluster s
  · rw [looked_up, Cloud.recordAll_calls, List.drop_left]
    obtain ⟨subnets, tags⟩ := countP_writes_of_reads read
    exact ⟨by omega, .inl subnets⟩
  obtain ⟨made, made_eq, made_subnets, made_tags⟩ := reconcileZones_counts ec2 cluster vpc s.availabilityZones
    ((privateSubnets (s.subnets.filter (·.vpcId = vpc.vpcId))).map some) (s.recordAll reads)
  rw [zoned, made_eq, Cloud.recordAll_calls, List.append_assoc, List.drop_left, List.countP_append,
    List.countP_append]
  obtain ⟨read_subnets, read_tags⟩ := countP_writes_of_reads read
  refine ⟨by omega, ?_⟩
  rcases buildSubnetAddress_outcomes vpc with ⟨a, b, c, d, p, pos, le, cidr, planned⟩ | ⟨err, failed⟩ |
    ⟨-, failed⟩
  · have count : candidateCount vpc = 2 ^ (27 - p) := by
      rw [candidateCount, planned]
      simp [Block.plan, Block.ofText, subnetCandidates]
    exact .inr ⟨vpc, s₁, a, b, c, d, p, found, cidr, pos, le, by rw [← count]; omega⟩
  all_goals
    have count : candidateCount vpc = 0 := by rw [candidateCount, failed]
    rw [count, Nat.mul_zero] at made_subnets
    exact .inl (by omega)

end ClusterVpc
