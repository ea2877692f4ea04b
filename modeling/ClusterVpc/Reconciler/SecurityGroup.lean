import ClusterVpc.Reconciler.Lookup

/-!
# The resource security group

`configureSecurityGroup` looks the group up by name. A missing group is
created; a found one gets the ingress permission for the VPC block unless one
of its permissions is already that permission. The comparison is
`reflect.DeepEqual` on the whole `IpPermission`: every field, nil and empty
lists apart, range descriptions included.
-/

namespace ClusterVpc

/-- `getSecurityGroup`: the first group with the name. -/
def getSecurityGroup (ec2 : EC2API) (secName : String) : CloudM (Option SecurityGroup) := do
  let secGroups ← check (← ec2.describeSecurityGroups) "failed to return information about security groups"
  pure (secGroups.find? (·.groupName = secName))

/-- The `ipPermission` that `configureSecurityGroup` builds: all traffic from
the VPC block. -/
def ingressPermission (cidr : CidrText) : IpPermission where
  fromPort := none
  ipProtocol := some "-1"
  ipRanges := some [⟨some cidr.render, none⟩]
  ipv6Ranges := none
  prefixListIds := none
  toPort := none
  userIdGroupPairs := none

/-- `configureSecurityGroup`. -/
def configureSecurityGroup (ec2 : EC2API) (cluster : Cluster) : CloudM Unit := do
  let clusterID ← check cluster.clusterID "error getting cluster id"
  let secName ← check cluster.securityGroupName "error building subnet group name"
  let (vpcID, cidr) ← wrapErr (getCidr ec2 cluster) "error finding cidr block"
  let foundSecGroup ← wrapErr (getSecurityGroup ec2 secName) "error get security group"
  match foundSecGroup with
  | none =>
    match ← ec2.createSecurityGroup ⟨"security group for cluster " ++ clusterID, secName, vpcID⟩ with
    | .error err => throw (.error (.wrap err "error creating security group"))
    | .ok _ => pure ()
  | some foundSecGroup =>
    if foundSecGroup.ipPermissions.any (· = ingressPermission cidr) then pure ()
    else
      match ← ec2.authorizeSecurityGroupIngress ⟨foundSecGroup.groupId, [ingressPermission cidr]⟩ with
      | some err => throw (.error (.wrap err "error authorizing security group ingress"))
      | none => pure ()

theorem readOnly_getSecurityGroup (ec2 : EC2API) (secName : String) : ReadOnly (getSecurityGroup ec2 secName) :=
  .bind ec2.readOnly_describeSecurityGroups fun _ => .bind (.check _ _) fun _ => .pure _

theorem getSecurityGroup_ok {ec2 : EC2API} {secName : String} {s s' : Cloud} {found : Option SecurityGroup}
    (run : getSecurityGroup ec2 secName s = .ok found s') :
    found = s.securityGroups.find? (·.groupName = secName) := by
  obtain ⟨listing, mid, described, run⟩ := bind_eq_ok run
  cases described
  obtain ⟨groups, mid', checked, run⟩ := bind_eq_ok run
  obtain ⟨listed, -⟩ := check_eq_ok checked
  cases run
  rw [answer_eq_ok listed]

theorem runs_configureSecurityGroup (ec2 : EC2API) (cluster : Cluster) : Runs (configureSecurityGroup ec2 cluster) := by
  refine .bind (.check _ _) fun clusterID => .bind (.check _ _) fun secName =>
    .bind ((readOnly_getCidr ec2 cluster).runs.wrapErr _) fun found => ?_
  refine .bind ((readOnly_getSecurityGroup ec2 _).runs.wrapErr _) fun group => ?_
  rcases group with _ | group
  · exact .bind (ec2.runs_createSecurityGroup _) fun reply => by cases reply <;> first | exact .pure _ | exact .throw _
  · dsimp only
    split
    · exact .pure _
    · exact .bind (ec2.runs_authorizeSecurityGroupIngress _) fun failure => by
        cases failure <;> first | exact .pure _ | exact .throw _

/-- Once the lookups have found the VPC block and the group, the only call
left is an `AuthorizeSecurityGroupIngress` for the group with the permission,
made exactly when no permission of the group is that permission, field by
field: a permission for the same traffic with more ranges, a range
description, or an empty list where the code writes nil does not count. -/
theorem configureSecurityGroup_authorizes (ec2 : EC2API) (cluster : Cluster) (s s₁ s₂ : Cloud)
    (clusterID secName vpcId : String) (cidr : CidrText) (group : SecurityGroup)
    (id_eq : cluster.clusterID = .ok clusterID) (name_eq : cluster.securityGroupName = .ok secName)
    (found : getCidr ec2 cluster s = .ok (vpcId, cidr) s₁)
    (looked_up : getSecurityGroup ec2 secName s₁ = .ok (some group) s₂) :
    (stateOf (configureSecurityGroup ec2 cluster s)).calls = s₂.calls ++
      if group.ipPermissions.any (· = ingressPermission cidr) then []
      else [.authorizeSecurityGroupIngress ⟨group.groupId, [ingressPermission cidr]⟩
        (ec2.authorizeSecurityGroupIngressFailure s₂ ⟨group.groupId, [ingressPermission cidr]⟩)] := by
  simp only [configureSecurityGroup, bind_apply, check, id_eq, name_eq, pure_apply, wrapErr, found, looked_up]
  split
  · simp
  · cases failure : ec2.authorizeSecurityGroupIngressFailure s₂ ⟨group.groupId, [ingressPermission cidr]⟩ <;>
      simp [bind_apply, EC2API.authorizeSecurityGroupIngress, failure, Cloud.record]

/-- An ingress permission for all traffic from `10.0.0.0/26` whose range
carries a description. -/
def describedPermission : IpPermission where
  fromPort := none
  ipProtocol := some "-1"
  ipRanges := some [⟨some "10.0.0.0/26", some "cluster vpc"⟩]
  ipv6Ranges := none
  prefixListIds := none
  toPort := none
  userIdGroupPairs := none

/-- The cluster's group, with the described permission. -/
def describedGroup : Cloud where
  subnets := [⟨"subnet-a", "vpc-a", "zone-a", [⟨"cluster/c1", "owned"⟩]⟩]
  availabilityZones := [⟨"zone-a", "available"⟩]
  vpcs := [⟨"vpc-a", .ipv4 10 0 0 0 26⟩]
  securityGroups := [⟨"sg-1", "c1-security-group", [describedPermission]⟩]
  calls := []

/-- The group already allows all traffic from the VPC block, in a permission
whose one range carries a description; the pass asks for the permission
again. -/
theorem configureSecurityGroup_authorizes_described :
    describedPermission.ipProtocol = some "-1" ∧
      (describedPermission.ipRanges.getD []).any (·.cidrIp = some "10.0.0.0/26") ∧
      ∃ s₁ s₂, getCidr EC2API.answering sampleCluster describedGroup = .ok ("vpc-a", .ipv4 10 0 0 0 26) s₁ ∧
        getSecurityGroup EC2API.answering "c1-security-group" s₁ =
          .ok (some ⟨"sg-1", "c1-security-group", [describedPermission]⟩) s₂ ∧
        (stateOf (configureSecurityGroup EC2API.answering sampleCluster describedGroup)).calls = s₂.calls ++
          [.authorizeSecurityGroupIngress ⟨"sg-1", [ingressPermission (.ipv4 10 0 0 0 26)]⟩ none] :=
  ⟨rfl, by decide, _, _, rfl, rfl, (configureSecurityGroup_authorizes EC2API.answering sampleCluster describedGroup
    _ _ "c1" "c1-security-group" "vpc-a" _ _ rfl rfl rfl rfl).trans (by decide)⟩

end ClusterVpc
