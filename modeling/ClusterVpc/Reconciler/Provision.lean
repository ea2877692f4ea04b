import ClusterVpc.Reconciler.Lookup
import ClusterVpc.Planner.Subnets

/-!
# Creating and tagging one private subnet

`createPrivateSubnet` walks the candidate blocks of `buildSubnetAddress` and
asks the provider for a subnet in the zone at each, until one is not refused
as `InvalidSubnet.Conflict`. A subnet it creates is tagged at once with the
default subnet tags, the private-subnet marker first among them. An error
other than a conflict ends the loop; so does a failure to compute the tags or
to write them, after the subnet exists. When every candidate conflicts, the
loop ends without a subnet and `createPrivateSubnet` returns a nil subnet with
a nil error, here `none`.
-/

namespace ClusterVpc

open Net Planner

/-- `defaultAWSPrivateSubnetTagKey`: the tag that marks a subnet as private. -/
def defaultAWSPrivateSubnetTagKey : String :=
  "kubernetes.io/role/internal-elb"

/-- Modelled from the spec: `resources.MergeTags` is not in the source. The
user's tags are merged into the default tags, the default tags taking
precedence on a key collision. -/
def mergeTags (tags infraTags : List Tag) : List Tag :=
  tags ++ infraTags.filter fun tag => !tags.any (·.key = tag.key)

/-- `getDefaultSubnetTags`: the marker, the cluster's identifier, the display
name and the managed tag, with the user's infrastructure tags merged in. -/
def getDefaultSubnetTags (cluster : Cluster) : Except GoError (List Tag) := do
  let clusterID ← cluster.clusterID.mapError (.wrap · "error getting clusterID")
  let tags : List Tag := [⟨defaultAWSPrivateSubnetTagKey, "1"⟩,
    ⟨cluster.organizationTag ++ "clusterID", clusterID⟩,
    ⟨cluster.tagDisplayName, cluster.subnetNameTagValue⟩, cluster.managedTag]
  let infraTags ← cluster.userInfraTags.mapError (.wrap · "Failed to get user infrastructure tags")
  match infraTags with
  | some infraTags => pure (mergeTags tags infraTags)
  | none => pure tags

/-- `tagPrivateSubnet`. -/
def tagPrivateSubnet (ec2 : EC2API) (cluster : Cluster) (sub : Subnet) : CloudM Unit := do
  let tags ← orReturn (getDefaultSubnetTags cluster)
  match ← ec2.createTags ⟨[sub.subnetId], tags⟩ with
  | some err => throw (.error (.wrap err "failed to tag subnet"))
  | none => pure ()

/-- The test `isAwsErr && ec2err.Code() == "InvalidSubnet.Conflict"`. -/
def isConflict : GoError → Bool
  | .aws code _ => code = "InvalidSubnet.Conflict"
  | _ => false

/-- The request `createPrivateSubnet` sends for a candidate block. -/
def subnetRequest (vpc : Vpc) (zone : String) (ip : IPNet) : CreateSubnetInput :=
  ⟨zone, ip.string, vpc.vpcId⟩

/-- The loop `for _, ip := range subs` of `createPrivateSubnet`. -/
def createLoop (ec2 : EC2API) (cluster : Cluster) (vpc : Vpc) (zone : String) :
    List IPNet → CloudM (Option Subnet)
  | [] => pure none
  | ip :: subs => do
    match ← ec2.createSubnet (subnetRequest vpc zone ip) with
    | .error err =>
      if isConflict err then createLoop ec2 cluster vpc zone subs
      else throw (.error (.wrap err "error creating new subnet"))
    | .ok subnet => do
      tagPrivateSubnet ec2 cluster subnet
      pure (some subnet)

/-- A planner result as a Go call: an error is returned, a panic or a loop
that does not end passes through. -/
def liftAbort {α : Type} (result : Except Abort α) : CloudM α :=
  match result with
  | .ok a => pure a
  | .error e => throw e

/-- `createPrivateSubnet`. -/
def createPrivateSubnet (ec2 : EC2API) (cluster : Cluster) (vpc : Vpc) (zone : String) :
    CloudM (Option Subnet) := do
  let subs ← wrapErr (liftAbort (buildSubnetAddress vpc)) "failed to build subnets"
  createLoop ec2 cluster vpc zone subs

/-- The default tags begin with the private-subnet marker. -/
theorem getDefaultSubnetTags_marker {cluster : Cluster} {tags : List Tag}
    (ok : getDefaultSubnetTags cluster = .ok tags) :
    ∃ rest, tags = ⟨defaultAWSPrivateSubnetTagKey, "1"⟩ :: rest := by
  cases id_eq : cluster.clusterID <;> cases infra : cluster.userInfraTags
  all_goals simp [getDefaultSubnetTags, id_eq, infra] at ok
  rename_i infraTags
  cases infraTags <;> cases ok <;> exact ⟨_, rfl⟩

/-! ## Every call is a provider step -/

section Runs

variable (ec2 : EC2API) (cluster : Cluster) (vpc : Vpc) (zone : String)

theorem Runs.liftAbort {α : Type} (result : Except Abort α) : Runs (liftAbort result) := by
  cases result <;> first | exact .pure _ | exact .throw _

theorem runs_tagPrivateSubnet (sub : Subnet) : Runs (tagPrivateSubnet ec2 cluster sub) := by
  refine .bind (.orReturn _) fun tags => .bind (ec2.runs_createTags _) fun failure => ?_
  cases failure
  exacts [.pure _, .throw _]

theorem runs_createLoop (subs : List IPNet) : Runs (createLoop ec2 cluster vpc zone subs) := by
  induction subs with
  | nil => exact .pure _
  | cons ip subs ih =>
    refine .bind (ec2.runs_createSubnet _) fun reply => ?_
    rcases reply with err | subnet
    · dsimp only
      split
      exacts [ih, .throw _]
    · exact .bind (runs_tagPrivateSubnet ec2 cluster _) fun _ => .pure _

theorem runs_createPrivateSubnet : Runs (createPrivateSubnet ec2 cluster vpc zone) :=
  .bind ((Runs.liftAbort _).wrapErr _) fun subs => runs_createLoop ec2 cluster vpc zone subs

end Runs

/-! ## The candidate loop -/

/-- The attempt at a candidate got an answer other than a conflict, after the
log `tried`, and the loop ended with `r`. A failed request ends it with that
error. A created subnet is tagged once, when its tags can be computed, and is
returned unless the tagging failed. -/
def Decides (cluster : Cluster) (request : CreateSubnetInput) (tried : List Call)
    (r : EStateM.Result Abort Cloud (Option Subnet)) : Prop :=
  (∃ err, isConflict err = false ∧ (stateOf r).calls = tried ++ [.createSubnet request (.error err)] ∧
    resultOf r = .error (.error (.wrap err "error creating new subnet"))) ∨
  ∃ subnetId, match getDefaultSubnetTags cluster with
    | .error err =>
      (stateOf r).calls = tried ++ [.createSubnet request (.ok subnetId)] ∧ resultOf r = .error (.error err)
    | .ok tags => ∃ failure,
      (stateOf r).calls = tried ++ [.createSubnet request (.ok subnetId), .createTags ⟨[subnetId], tags⟩ failure] ∧
      resultOf r = match failure with
        | none => .ok (some (Cloud.newSubnet request subnetId))
        | some err => .error (.error (.wrap err "failed to tag subnet"))

/-- The log of conflicting attempts at the first candidates. -/
def conflictCalls (vpc : Vpc) (zone : String) (subs : List IPNet) (conflicts : List GoError) : List Call :=
  List.zipWith (fun ip err => .createSubnet (subnetRequest vpc zone ip) (.error err)) subs conflicts

section Loop

variable {ec2 : EC2API} {cluster : Cluster} {vpc : Vpc} {zone : String} {ip : IPNet} {subs : List IPNet}
  {s : Cloud}

theorem createLoop_conflict {err : GoError}
    (reply : ec2.createSubnetReply s (subnetRequest vpc zone ip) = .error err) (conflict : isConflict err) :
    createLoop ec2 cluster vpc zone (ip :: subs) s =
      createLoop ec2 cluster vpc zone subs (s.record (.createSubnet (subnetRequest vpc zone ip) (.error err))) := by
  simp [createLoop, bind_apply, EC2API.createSubnet, reply, conflict]

/-- An answer other than a conflict decides the loop. -/
theorem createLoop_decides
    (decisive : ∀ err, ec2.createSubnetReply s (subnetRequest vpc zone ip) = .error err → isConflict err = false) :
    Decides cluster (subnetRequest vpc zone ip) s.calls (createLoop ec2 cluster vpc zone (ip :: subs) s) := by
  unfold Decides
  cases reply : ec2.createSubnetReply s (subnetRequest vpc zone ip) with
  | error err =>
    have decided := decisive err reply
    exact .inl ⟨err, decided, by simp [createLoop, bind_apply, EC2API.createSubnet, reply, decided, Cloud.record]⟩
  | ok subnetId =>
    refine .inr ⟨subnetId, ?_⟩
    cases tags_eq : getDefaultSubnetTags cluster with
    | error err =>
      simp [createLoop, bind_apply, EC2API.createSubnet, reply, tagPrivateSubnet, orReturn, tags_eq, Cloud.record]
    | ok tags =>
      let created : Cloud := { s.record (.createSubnet (subnetRequest vpc zone ip) (.ok subnetId)) with
        subnets := s.subnets ++ [Cloud.newSubnet (subnetRequest vpc zone ip) subnetId] }
      refine ⟨ec2.createTagsFailure created ⟨[subnetId], tags⟩, ?_⟩
      cases failure : ec2.createTagsFailure created ⟨[subnetId], tags⟩ <;>
        simp [created, createLoop, bind_apply, map_apply, EC2API.createSubnet, EC2API.createTags, reply, tagPrivateSubnet,
          orReturn, tags_eq, Cloud.record] at failure ⊢ <;> simp [failure]

/-- Every run of the loop: the first candidates conflict in turn; then either
none is left and the loop returns no subnet, or the next one decides it. -/
theorem createLoop_spec (ec2 : EC2API) (cluster : Cluster) (vpc : Vpc) (zone : String) (subs : List IPNet)
    (s : Cloud) :
    ∃ conflicts : List GoError, (∀ err ∈ conflicts, isConflict err) ∧ conflicts.length ≤ subs.length ∧
      match subs.drop conflicts.length with
      | [] => (stateOf (createLoop ec2 cluster vpc zone subs s)).calls =
          s.calls ++ conflictCalls vpc zone subs conflicts ∧
          resultOf (createLoop ec2 cluster vpc zone subs s) = .ok none
      | ip :: _ => Decides cluster (subnetRequest vpc zone ip) (s.calls ++ conflictCalls vpc zone subs conflicts)
          (createLoop ec2 cluster vpc zone subs s) := by
  induction subs generalizing s with
  | nil => exact ⟨[], by simp, le_refl _, by simp [createLoop, conflictCalls]⟩
  | cons ip subs ih =>
    by_cases conflict : ∃ err, ec2.createSubnetReply s (subnetRequest vpc zone ip) = .error err ∧ isConflict err
    · obtain ⟨err, reply, conflicting⟩ := conflict
      obtain ⟨conflicts, all_conflict, le, outcome⟩ :=
        ih (s.record (.createSubnet (subnetRequest vpc zone ip) (.error err)))
      refine ⟨err :: conflicts, ?_, by simpa using le, ?_⟩
      · simpa [conflicting] using all_conflict
      · rw [createLoop_conflict reply conflicting]
        simpa [conflictCalls, Cloud.record] using outcome
    · push_neg at conflict
      refine ⟨[], by simp, Nat.zero_le _, ?_⟩
      simpa [conflictCalls] using createLoop_decides (fun err reply => by simpa using conflict err reply)

end Loop

/-! ## One private subnet -/

theorem createPrivateSubnet_eq {ec2 : EC2API} {cluster : Cluster} {vpc : Vpc} {zone : String}
    {subs : List IPNet} (build : buildSubnetAddress vpc = .ok subs) (s : Cloud) :
    createPrivateSubnet ec2 cluster vpc zone s = createLoop ec2 cluster vpc zone subs s := by
  simp [createPrivateSubnet, bind_apply, build, liftAbort, wrapErr]

/-- `createPrivateSubnet` requests the candidates in the VPC and the zone, in
order, while they conflict. Then either every candidate has conflicted and it
makes no other request, or the next candidate decides: the requests stop
there, and the subnet it creates is tagged once when its tags can be
computed. -/
theorem createPrivateSubnet_attempts (ec2 : EC2API) (cluster : Cluster) (vpc : Vpc) (zone : String)
    (s : Cloud) (subs : List IPNet) (build : buildSubnetAddress vpc = .ok subs) :
    ∃ conflicts : List GoError, (∀ err ∈ conflicts, isConflict err) ∧ conflicts.length ≤ subs.length ∧
      match subs.drop conflicts.length with
      | [] => (stateOf (createPrivateSubnet ec2 cluster vpc zone s)).calls =
          s.calls ++ conflictCalls vpc zone subs conflicts
      | ip :: _ => Decides cluster (subnetRequest vpc zone ip) (s.calls ++ conflictCalls vpc zone subs conflicts)
          (createPrivateSubnet ec2 cluster vpc zone s) := by
  obtain ⟨conflicts, all_conflict, le, outcome⟩ :=
    createLoop_spec ec2 cluster vpc zone subs s
  refine ⟨conflicts, all_conflict, le, ?_⟩
  rw [createPrivateSubnet_eq build]
  revert outcome
  split
  exacts [fun outcome => outcome.1, id]

theorem createPrivateSubnet_attempts_small :
    ∃ conflicts : List GoError, (∀ err ∈ conflicts, isConflict err) ∧
      conflicts.length ≤ (subnetCandidates (networkBase 10 0 0 0 26) 26).length ∧
      match (subnetCandidates (networkBase 10 0 0 0 26) 26).drop conflicts.length with
      | [] => (stateOf (createPrivateSubnet EC2API.answering sampleCluster ⟨"vpc-a", .ipv4 10 0 0 0 26⟩ "zone-a"
            twoVpcs)).calls =
          twoVpcs.calls ++ conflictCalls ⟨"vpc-a", .ipv4 10 0 0 0 26⟩ "zone-a"
            (subnetCandidates (networkBase 10 0 0 0 26) 26) conflicts
      | ip :: _ => Decides sampleCluster (subnetRequest ⟨"vpc-a", .ipv4 10 0 0 0 26⟩ "zone-a" ip)
          (twoVpcs.calls ++ conflictCalls ⟨"vpc-a", .ipv4 10 0 0 0 26⟩ "zone-a"
            (subnetCandidates (networkBase 10 0 0 0 26) 26) conflicts)
          (createPrivateSubnet EC2API.answering sampleCluster ⟨"vpc-a", .ipv4 10 0 0 0 26⟩ "zone-a" twoVpcs) :=
  createPrivateSubnet_attempts _ _ _ _ _ _ (buildSubnetAddress_ipv4 "vpc-a" (by decide) (by decide))

/-! ## What one call creates -/

/-- The subnets that the successful `CreateSubnet` calls of a log created, in
order. -/
def createdSubnets (calls : List Call) : List Subnet :=
  calls.filterMap fun
    | .createSubnet input (.ok subnetId) => some (Cloud.newSubnet input subnetId)
    | _ => none

@[simp]
theorem createdSubnets_append (calls more : List Call) :
    createdSubnets (calls ++ more) = createdSubnets calls ++ createdSubnets more :=
  List.filterMap_append _ _ _

@[simp]
theorem createdSubnets_nil : createdSubnets [] = [] :=
  rfl

@[simp]
theorem createdSubnets_cons_created (input : CreateSubnetInput) (subnetId : String) (calls : List Call) :
    createdSubnets (.createSubnet input (.ok subnetId) :: calls) =
      Cloud.newSubnet input subnetId :: createdSubnets calls :=
  rfl

@[simp]
theorem createdSubnets_cons_refused (input : CreateSubnetInput) (err : GoError) (calls : List Call) :
    createdSubnets (.createSubnet input (.error err) :: calls) = createdSubnets calls :=
  rfl

@[simp]
theorem createdSubnets_cons_createTags (input : CreateTagsInput) (failure : Option GoError) (calls : List Call) :
    createdSubnets (.createTags input failure :: calls) = createdSubnets calls :=
  rfl

@[simp]
theorem createdSubnets_conflictCalls (vpc : Vpc) (zone : String) (subs : List IPNet) (conflicts : List GoError) :
    createdSubnets (conflictCalls vpc zone subs conflicts) = [] := by
  induction subs generalizing conflicts with
  | nil => rfl
  | cons ip subs ih => cases conflicts with
    | nil => rfl
    | cons err conflicts => simpa [conflictCalls] using ih conflicts

/-- `createPrivateSubnet` creates at most one subnet, in the zone and the VPC,
and returns the subnet it created, if it returns one. -/
theorem createPrivateSubnet_created (ec2 : EC2API) (cluster : Cluster) (vpc : Vpc) (zone : String) (s : Cloud) :
    ∃ new, (stateOf (createPrivateSubnet ec2 cluster vpc zone s)).calls = s.calls ++ new ∧
      (createdSubnets new).length ≤ 1 ∧
      (∀ sub ∈ createdSubnets new, sub.availabilityZone = zone ∧ sub.vpcId = vpc.vpcId) ∧
      ∀ entry, resultOf (createPrivateSubnet ec2 cluster vpc zone s) = .ok entry →
        createdSubnets new = entry.toList := by
  cases build : buildSubnetAddress vpc with
  | error e =>
    obtain ⟨e', failed⟩ : ∃ e', createPrivateSubnet ec2 cluster vpc zone s = .error e' s := by
      cases e <;> simp [createPrivateSubnet, bind_apply, build, liftAbort, wrapErr]
    refine ⟨[], by simp [failed], by simp, by simp, fun entry ok => ?_⟩
    rw [failed] at ok
    cases ok
  | ok subs =>
    rw [createPrivateSubnet_eq build]
    obtain ⟨conflicts, -, -, outcome⟩ := createLoop_spec ec2 cluster vpc zone subs s
    split at outcome
    · obtain ⟨calls_eq, ended⟩ := outcome
      refine ⟨_, calls_eq, by simp, by simp, fun entry ok => ?_⟩
      rw [ended] at ok
      cases ok
      simp
    · rcases outcome with ⟨err, -, calls_eq, ended⟩ | ⟨subnetId, decided⟩
      · refine ⟨_, calls_eq.trans (List.append_assoc _ _ _), by simp, by simp, fun entry ok => ?_⟩
        rw [ended] at ok
        cases ok
      · split at decided
        · obtain ⟨calls_eq, ended⟩ := decided
          refine ⟨_, calls_eq.trans (List.append_assoc _ _ _), by simp, by simp [subnetRequest], fun entry ok => ?_⟩
          rw [ended] at ok
          cases ok
        · obtain ⟨failure, calls_eq, ended⟩ := decided
          refine ⟨_, calls_eq.trans (List.append_assoc _ _ _), by simp, by simp [subnetRequest], fun entry ok => ?_⟩
          rw [ended] at ok
          cases failure with
          | none => cases ok; simp
          | some err => cases ok

/-- The log holds the subnet's `CreateSubnet`, followed at once by a successful
`CreateTags` on it alone with the default tags. -/
def TaggedIn (cluster : Cluster) (calls : List Call) (sub : Subnet) : Prop :=
  ∃ input subnetId tags, sub = Cloud.newSubnet input subnetId ∧ getDefaultSubnetTags cluster = .ok tags ∧
    [Call.createSubnet input (.ok subnetId), Call.createTags ⟨[subnetId], tags⟩ none] <:+: calls

theorem TaggedIn.mono {cluster : Cluster} {calls more : List Call} {sub : Subnet}
    (tagged : TaggedIn cluster calls sub) (within : calls <:+: more) : TaggedIn cluster more sub :=
  let ⟨input, subnetId, tags, same, tags_ok, pair⟩ := tagged
  ⟨input, subnetId, tags, same, tags_ok, pair.trans within⟩

/-- A subnet that `createPrivateSubnet` returns was tagged right after it was
created. -/
theorem createPrivateSubnet_tagged {ec2 : EC2API} {cluster : Cluster} {vpc : Vpc} {zone : String}
    {s s₁ : Cloud} {sub : Subnet} (created : createPrivateSubnet ec2 cluster vpc zone s = .ok (some sub) s₁) :
    TaggedIn cluster (s₁.calls.drop s.calls.length) sub := by
  cases build : buildSubnetAddress vpc with
  | error e => cases e <;> simp [createPrivateSubnet, bind_apply, build, liftAbort, wrapErr] at created
  | ok subs =>
    rw [createPrivateSubnet_eq build] at created
    obtain ⟨conflicts, -, -, outcome⟩ := createLoop_spec ec2 cluster vpc zone subs s
    rw [created] at outcome
    split at outcome
    · simp at outcome
    · rcases outcome with ⟨err, -, -, ended⟩ | ⟨subnetId, decided⟩
      · simp at ended
      · cases tags_eq : getDefaultSubnetTags cluster with
        | error err => simp [tags_eq] at decided
        | ok tags =>
          simp only [tags_eq] at decided
          obtain ⟨failure, calls_eq, ended⟩ := decided
          cases failure with
          | some err => simp at ended
          | none =>
            simp only [resultOf_ok, Except.ok.injEq, Option.some.injEq] at ended
            rw [stateOf_ok] at calls_eq
            refine ⟨_, subnetId, tags, ended, tags_eq, ?_⟩
            rw [calls_eq, List.append_assoc, List.drop_left]
            exact (List.suffix_append _ _).isInfix

/-- A VPC with two candidate blocks, in a provider with nothing else. -/
def smallVpc : Cloud where
  subnets := []
  availabilityZones := [⟨"zone-a", "available"⟩]
  vpcs := [⟨"vpc-a", .ipv4 10 0 0 0 26⟩]
  securityGroups := []
  calls := []

/-- The first candidate is created, but the cluster's identifier cannot be
read afterwards: no `CreateTags` follows the creation. -/
theorem createPrivateSubnet_untagged :
    (stateOf (createPrivateSubnet EC2API.answering { sampleCluster with clusterID := .error (.new "no cluster") }
      ⟨"vpc-a", .ipv4 10 0 0 0 26⟩ "zone-a" smallVpc)).calls =
      [.createSubnet ⟨"zone-a", .ipv4 10 0 0 32 27, "vpc-a"⟩ (.ok "subnet-0")] := by
  rw [createPrivateSubnet_eq (buildSubnetAddress_ipv4 "vpc-a" (by decide) (by decide))]
  decide

end ClusterVpc
