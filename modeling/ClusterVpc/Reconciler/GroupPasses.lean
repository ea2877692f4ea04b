import ClusterVpc.Reconciler.SecurityGroup

/-!
# The security group over passes

`configureSecurityGroup` does at most one write per pass and returns right
after it: a pass that creates the group leaves it without the ingress
permission, which the next pass adds. So two passes that return without error
settle the group: from then on the group of the name allows the VPC block, and
every later pass, with any provider answers, only reads.
-/

namespace ClusterVpc

/-! ## Two passes settle the group -/

/-- The first group of the name, the one `getSecurityGroup` finds, has the
ingress permission for the block. -/
def Allows (groups : List SecurityGroup) (secName : String) (cidr : CidrText) : Prop :=
  ∃ group, groups.find? (·.groupName = secName) = some group ∧ ingressPermission cidr ∈ group.ipPermissions

/-- `AuthorizeSecurityGroupIngress` keeps the names, so the first group of a name
is the same group, with the permissions added if the request names it. -/
theorem find?_authorize (groups : List SecurityGroup) (input : AuthorizeSecurityGroupIngressInput)
    (secName : String) :
    (Cloud.authorize groups input).find? (·.groupName = secName) =
      (groups.find? (·.groupName = secName)).map fun g =>
        if g.groupId = input.groupId then { g with ipPermissions := g.ipPermissions ++ input.ipPermissions }
        else g := by
  rw [Cloud.authorize, List.find?_map]
  congr 2
  funext g
  simp only [Function.comp]
  split <;> rfl

/-- One pass of the security group configuration, with any provider answers. -/
inductive GroupPass (cluster : Cluster) : Cloud → Cloud → Prop
  | pass (ec2 : EC2API) (s : Cloud) : GroupPass cluster s (stateOf (configureSecurityGroup ec2 cluster s))

section Passes

variable {ec2 : EC2API} {cluster : Cluster}

/-- The VPC block the lookups find depends on the listing only. -/
theorem getCidr_ok_unique {ec2' : EC2API} {s t s₁ t₁ : Cloud} {found found' : String × CidrText}
    (first : getCidr ec2 cluster s = .ok found s₁) (second : getCidr ec2' cluster t = .ok found' t₁)
    (subnets_eq : t.subnets = s.subnets) (vpcs_eq : t.vpcs = s.vpcs) : found' = found := by
  obtain ⟨vpc, mid, looked_up, run⟩ := bind_eq_ok first
  obtain ⟨vpc', mid', looked_up', run'⟩ := bind_eq_ok second
  cases run
  cases run'
  rw [getClusterVpc_of_front (wrapErr_eq_ok looked_up) (wrapErr_eq_ok looked_up') (subnets_eq ▸ List.prefix_refl _)
    vpcs_eq]

/-- A pass that returns has found the group's name and the VPC block, and leaves
a group of the name: the one it created if there was none, and otherwise one
that allows the block. It changes neither the subnets nor the VPCs. -/
theorem configureSecurityGroup_eq_ok {s s' : Cloud} (run : configureSecurityGroup ec2 cluster s = .ok () s') :
    ∃ secName vpcId cidr s₁, cluster.securityGroupName = .ok secName ∧
      getCidr ec2 cluster s = .ok (vpcId, cidr) s₁ ∧ s'.subnets = s.subnets ∧ s'.vpcs = s.vpcs ∧
      (s'.securityGroups.find? (·.groupName = secName)).isSome ∧
      ((s.securityGroups.find? (·.groupName = secName)).isSome → Allows s'.securityGroups secName cidr) := by
  cases id_eq : cluster.clusterID with
  | error err => simp [configureSecurityGroup, id_eq, check, bind_apply] at run
  | ok clusterID =>
  cases name_eq : cluster.securityGroupName with
  | error err => simp [configureSecurityGroup, id_eq, name_eq, check, bind_apply] at run
  | ok secName =>
  simp only [configureSecurityGroup, id_eq, name_eq, check, pure_bind] at run
  obtain ⟨⟨vpcId, cidr⟩, s₁, found, run⟩ := bind_eq_ok run
  have found := wrapErr_eq_ok found
  obtain ⟨group, s₂, looked_up, run⟩ := bind_eq_ok run
  have looked_up := wrapErr_eq_ok looked_up
  have group_eq := getSecurityGroup_ok looked_up
  obtain ⟨r₁, -, rfl⟩ := (readOnly_getCidr ec2 cluster).eq_recordAll found
  obtain ⟨r₂, -, rfl⟩ := (readOnly_getSecurityGroup ec2 secName).eq_recordAll looked_up
  rw [Cloud.recordAll_recordAll] at run
  simp only [Cloud.recordAll_securityGroups] at group_eq
  refine ⟨secName, vpcId, cidr, _, rfl, found, ?_⟩
  cases group with
  | none =>
    cases reply : ec2.createSecurityGroupReply (s.recordAll (r₁ ++ r₂))
        ⟨"security group for cluster " ++ clusterID, secName, vpcId⟩ with
    | error err => simp [EC2API.createSecurityGroup, bind_apply, reply] at run
    | ok groupId =>
      simp only [EC2API.createSecurityGroup, bind_apply, reply, pure_apply] at run
      cases run
      simp [Cloud.record, ← group_eq]
  | some group =>
    dsimp only at run
    split at run
    next present =>
      cases run
      obtain ⟨perm, mem, same⟩ := List.any_eq_true.mp present
      exact ⟨rfl, rfl, Option.isSome_iff_exists.mpr ⟨group, group_eq.symm⟩,
        fun _ => ⟨group, group_eq.symm, of_decide_eq_true same ▸ mem⟩⟩
    cases failure : ec2.authorizeSecurityGroupIngressFailure (s.recordAll (r₁ ++ r₂))
        ⟨group.groupId, [ingressPermission cidr]⟩ with
    | some err => simp [EC2API.authorizeSecurityGroupIngress, bind_apply, failure] at run
    | none =>
      simp only [EC2API.authorizeSecurityGroupIngress, bind_apply, failure, pure_apply] at run
      cases run
      have named := find?_authorize s.securityGroups ⟨group.groupId, [ingressPermission cidr]⟩ secName
      simp only [← group_eq, Option.map_some', ↓reduceIte] at named
      exact ⟨rfl, rfl, Option.isSome_iff_exists.mpr ⟨_, named⟩, fun _ => ⟨_, named, by simp⟩⟩

/-- Where the group of the name already allows the block the lookups find, a
pass only reads, however it ends. -/
theorem configureSecurityGroup_reads {s : Cloud} {secName : String} {cidr : CidrText}
    (name_eq : cluster.securityGroupName = .ok secName)
    (block : ∀ vpcId cidr' s₁, getCidr ec2 cluster s = .ok (vpcId, cidr') s₁ → cidr' = cidr)
    (allows : Allows s.securityGroups secName cidr) :
    ∃ reads, (∀ call ∈ reads, call.isRead) ∧
      stateOf (configureSecurityGroup ec2 cluster s) = s.recordAll reads := by
  obtain ⟨group, named, mem⟩ := allows
  cases id_eq : cluster.clusterID with
  | error err => exact ⟨[], by simp, by simp [configureSecurityGroup, id_eq, check, bind_apply]⟩
  | ok clusterID =>
  simp only [configureSecurityGroup, id_eq, name_eq, check, pure_bind]
  obtain ⟨r₁, read₁, ⟨e, failed⟩ | ⟨⟨vpcId, cidr'⟩, found⟩⟩ :=
    (readOnly_getCidr ec2 cluster).cases s
  · exact ⟨r₁, read₁, bind_wrapErr_error _ failed⟩
  rw [bind_wrapErr_ok _ found, block _ _ _ found]
  obtain ⟨r₂, read₂, ⟨e, failed⟩ | ⟨found_group, looked_up⟩⟩ :=
    (readOnly_getSecurityGroup ec2 secName).cases (s.recordAll r₁)
  all_goals refine ⟨r₁ ++ r₂, List.forall_mem_append.mpr ⟨read₁, read₂⟩, ?_⟩
  · rw [bind_wrapErr_error _ failed, Cloud.recordAll_recordAll]
  rw [bind_wrapErr_ok _ looked_up, getSecurityGroup_ok looked_up, Cloud.recordAll_securityGroups, named]
  have present : group.ipPermissions.any (· = ingressPermission cidr) :=
    List.any_eq_true.mpr ⟨_, mem, by simp⟩
  simp [present]

end Passes

/-- Two passes that return settle the group: along any run of later passes,
with any provider answers and however each ends, the provider gets only
reads. -/
theorem configureSecurityGroup_settles (ec2 ec2' : EC2API) (cluster : Cluster) {s s₁ s₂ t : Cloud}
    (first : configureSecurityGroup ec2 cluster s = .ok () s₁)
    (second : configureSecurityGroup ec2' cluster s₁ = .ok () s₂)
    (later : Relation.ReflTransGen (GroupPass cluster) s₂ t) :
    ∀ call ∈ t.calls.drop s₂.calls.length, call.isRead := by
  obtain ⟨secName, -, -, -, name_eq, -, -, -, created, -⟩ := configureSecurityGroup_eq_ok first
  obtain ⟨secName', vpcId, cidr, s₃, name_eq', found, subnets_eq, vpcs_eq, -, allows⟩ :=
    configureSecurityGroup_eq_ok second
  obtain rfl : secName' = secName := Except.ok.inj (name_eq'.symm.trans name_eq)
  have settled : ∃ reads, (∀ call ∈ reads, call.isRead) ∧ t = s₂.recordAll reads := by
    induction later with
    | refl => exact ⟨[], by simp, by simp⟩
    | tail _ pass ih =>
      obtain ⟨reads, read, rfl⟩ := ih
      obtain ⟨ec2'', _⟩ := pass
      have block : ∀ vpcId' cidr' s', getCidr ec2'' cluster (s₂.recordAll reads) = .ok (vpcId', cidr') s' →
          cidr' = cidr :=
        fun _ _ _ found' => congrArg Prod.snd (getCidr_ok_unique found found' subnets_eq vpcs_eq)
      obtain ⟨more, more_read, state_eq⟩ := configureSecurityGroup_reads name_eq block (allows created)
      exact ⟨reads ++ more, List.forall_mem_append.mpr ⟨read, more_read⟩,
        by rw [state_eq, Cloud.recordAll_recordAll]⟩
  obtain ⟨reads, read, rfl⟩ := settled
  simpa using read

/-- A region without the cluster's group: the first pass creates it and returns,
the second gives it the permission and returns, and a third only reads. -/
theorem configureSecurityGroup_settles_twoVpcs :
    ∃ s₁ s₂, configureSecurityGroup EC2API.answering sampleCluster twoVpcs = .ok () s₁ ∧
      configureSecurityGroup EC2API.answering sampleCluster s₁ = .ok () s₂ ∧
      ∀ call ∈ (stateOf (configureSecurityGroup EC2API.answering sampleCluster s₂)).calls.drop s₂.calls.length,
        call.isRead :=
  ⟨_, _, rfl, rfl, configureSecurityGroup_settles EC2API.answering EC2API.answering sampleCluster (s := twoVpcs)
    rfl rfl (.single (.pass EC2API.answering _))⟩

end ClusterVpc
