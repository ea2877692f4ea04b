import ClusterVpc.Reconciler.Outcome
import ClusterVpc.Reconciler.SecurityGroup

/-!
# The operator's reconcilers

The operator runs subnet passes and security group configurations against the
same provider state. A pass sends reads, subnet creations and tag requests, and
a configuration sends reads, a group creation or an ingress authorization, so
neither changes what the other reconciles: a pass leaves the security groups as
they were and a configuration leaves the subnets as they were, whatever the
provider answers and however each ends.

On its own, the operator tags only subnets it has just created. With subnet
identifiers that EC2 does not reuse, the listing it started from stays at the
front of the listing, as it was, so the cluster's VPC stays the one it first
found; once a pass has returned without error on a region whose zones are all
available, every later pass only reads.
-/

namespace ClusterVpc

/-- A request that can change the subnets. -/
def Call.writesSubnets : Call → Bool
  | .createSubnet _ _ | .createTags _ _ => true
  | _ => false

/-- A request that can change the security groups. -/
def Call.writesGroups : Call → Bool
  | .createSecurityGroup _ _ | .authorizeSecurityGroupIngress _ _ => true
  | _ => false

/-- A step changes the subnets only by a subnet write, and the groups only by a
group write. -/
theorem Step.frame {s s' : Cloud} (step : Step s s') :
    ∃ call, s'.calls = s.calls ++ [call] ∧ (call.writesSubnets = false → s'.subnets = s.subnets) ∧
      (call.writesGroups = false → s'.securityGroups = s.securityGroups) := by
  cases step <;>
    exact ⟨_, rfl, fun kept => (by first | rfl | cases kept), fun kept => (by first | rfl | cases kept)⟩

/-- Along any requests, the subnets change only if one of them writes subnets,
and the groups only if one of them writes groups. -/
theorem Steps.frame {s s' : Cloud} (steps : Steps s s') :
    ((∀ call ∈ s'.calls.drop s.calls.length, call.writesSubnets = false) → s'.subnets = s.subnets) ∧
      ((∀ call ∈ s'.calls.drop s.calls.length, call.writesGroups = false) →
        s'.securityGroups = s.securityGroups) := by
  induction steps with
  | refl => exact ⟨fun _ => rfl, fun _ => rfl⟩
  | tail before step ih =>
    obtain ⟨call, calls_eq, subnets_eq, groups_eq⟩ := step.frame
    rw [calls_eq, List.drop_append_of_le_length (Steps.calls before).length_le, List.forall_mem_append,
      List.forall_mem_append, List.forall_mem_singleton, List.forall_mem_singleton]
    exact ⟨fun ⟨earlier, last⟩ => (subnets_eq last).trans (ih.1 earlier),
      fun ⟨earlier, last⟩ => (groups_eq last).trans (ih.2 earlier)⟩

/-- Every request a run of `m` sends satisfies `P`. -/
def Sends {α : Type} (P : Call → Prop) (m : CloudM α) : Prop :=
  ∀ s, ∃ new, (stateOf (m s)).calls = s.calls ++ new ∧ ∀ call ∈ new, P call

namespace Sends

variable {α β : Type} {P : Call → Prop}

theorem pure (a : α) : Sends P (Pure.pure a : CloudM α) :=
  fun _ => ⟨[], by simp, by simp⟩

theorem throw (e : Abort) : Sends P (MonadExcept.throw e : CloudM α) :=
  fun _ => ⟨[], by simp, by simp⟩

theorem bind {m : CloudM α} {f : α → CloudM β} (first : Sends P m) (rest : ∀ a, Sends P (f a)) :
    Sends P (m >>= f) := by
  intro s
  obtain ⟨new, calls_eq, sent⟩ := first s
  rw [bind_apply]
  cases result : m s with
  | ok a s' =>
    rw [result, stateOf_ok] at calls_eq
    obtain ⟨more, more_eq, more_sent⟩ := rest a s'
    exact ⟨new ++ more, by rw [more_eq, calls_eq, List.append_assoc],
      List.forall_mem_append.mpr ⟨sent, more_sent⟩⟩
  | error e s' =>
    rw [result, stateOf_error] at calls_eq
    exact ⟨new, calls_eq, sent⟩

theorem wrapErr {m : CloudM α} (sends : Sends P m) (message : String) : Sends P (wrapErr m message) :=
  fun s => by simpa using sends s

theorem check (result : Except GoError α) (message : String) : Sends P (check result message) := by
  cases result <;> first | exact .pure _ | exact .throw _

theorem createSecurityGroup (ec2 : EC2API) (input : CreateSecurityGroupInput)
    (sent : ∀ reply, P (.createSecurityGroup input reply)) : Sends P (ec2.createSecurityGroup input) := by
  intro s
  refine ⟨[.createSecurityGroup input (ec2.createSecurityGroupReply s input)], ?_, by simpa using sent _⟩
  simp only [EC2API.createSecurityGroup]
  split <;> rfl

theorem authorizeSecurityGroupIngress (ec2 : EC2API) (input : AuthorizeSecurityGroupIngressInput)
    (sent : ∀ failure, P (.authorizeSecurityGroupIngress input failure)) :
    Sends P (ec2.authorizeSecurityGroupIngress input) := by
  intro s
  refine ⟨[.authorizeSecurityGroupIngress input (ec2.authorizeSecurityGroupIngressFailure s input)], ?_,
    by simpa using sent _⟩
  simp only [EC2API.authorizeSecurityGroupIngress]
  split <;> rfl

end Sends

theorem ReadOnly.sends {α : Type} {P : Call → Prop} {m : CloudM α} (reads : ReadOnly m)
    (read : ∀ call, call.isRead → P call) : Sends P m :=
  fun s =>
    let ⟨calls, all_read, state_eq⟩ := reads s
    ⟨calls, by rw [state_eq]; rfl, fun call mem => read call (all_read call mem)⟩

/-- A security group configuration sends reads and group writes only. -/
theorem sends_configureSecurityGroup (ec2 : EC2API) (cluster : Cluster) :
    Sends (fun call => call.writesSubnets = false) (configureSecurityGroup ec2 cluster) := by
  have read : ∀ call : Call, call.isRead → call.writesSubnets = false := by
    intro call read
    cases call <;> first | rfl | cases read
  refine .bind (.check _ _) fun clusterID => .bind (.check _ _) fun secName =>
    .bind (((readOnly_getCidr ec2 cluster).sends read).wrapErr _) fun found => ?_
  refine .bind (((readOnly_getSecurityGroup ec2 _).sends read).wrapErr _) fun group => ?_
  rcases group with _ | group
  · refine .bind (.createSecurityGroup ec2 _ fun _ => rfl) fun reply => ?_
    cases reply <;> first | exact .pure _ | exact .throw _
  · dsimp only
    split
    · exact .pure _
    · refine .bind (.authorizeSecurityGroupIngress ec2 _ fun _ => rfl) fun failure => ?_
      cases failure <;> first | exact .pure _ | exact .throw _

/-- The subnet pass and the security group configuration write apart: a pass,
whatever the provider answers and however it ends, leaves the security groups
as they were, and a configuration leaves the subnets as they were. -/
theorem reconcilers_write_apart (ec2 : EC2API) (cluster : Cluster) (s : Cloud) :
    (stateOf (getPrivateSubnetIDS ec2 cluster s)).securityGroups = s.securityGroups ∧
      (stateOf (configureSecurityGroup ec2 cluster s)).subnets = s.subnets := by
  refine ⟨(runs_getPrivateSubnetIDS ec2 cluster s).frame.2 fun call mem => ?_,
    (runs_configureSecurityGroup ec2 cluster s).frame.1 fun call mem => ?_⟩
  · obtain ⟨new, calls_eq, -, log⟩ := getPrivateSubnetIDS_calls ec2 cluster s
    rw [calls_eq, List.drop_left] at mem
    rcases log with reads | ⟨vpc, s₁, -, zoned⟩
    · have read := reads call mem
      cases call <;> first | rfl | cases read
    · have zoneCall := zoned call mem
      cases call <;> first | rfl | cases zoneCall
  · obtain ⟨new, calls_eq, sent⟩ := sends_configureSecurityGroup ec2 cluster s
    rw [calls_eq, List.drop_left] at mem
    exact sent call mem

/-! ## The operator on its own -/

/-- One run of one of the operator's reconcilers for the cluster, with any
provider answers. -/
inductive Reconciles (cluster : Cluster) : Cloud → Cloud → Prop
  | getPrivateSubnetIDS (ec2 : EC2API) (s : Cloud) :
      Reconciles cluster s (stateOf (getPrivateSubnetIDS ec2 cluster s))
  | configureSecurityGroup (ec2 : EC2API) (s : Cloud) :
      Reconciles cluster s (stateOf (configureSecurityGroup ec2 cluster s))

/-- The states the operator reaches on its own. -/
abbrev Operates (cluster : Cluster) : Cloud → Cloud → Prop :=
  Relation.ReflTransGen (Reconciles cluster)

section Operates

variable {cluster : Cluster} {s s' : Cloud}

theorem Reconciles.steps : Reconciles cluster s s' → Steps s s'
  | .getPrivateSubnetIDS ec2 s => runs_getPrivateSubnetIDS ec2 cluster s
  | .configureSecurityGroup ec2 s => runs_configureSecurityGroup ec2 cluster s

/-- A reconciler tags only subnets it has just created. -/
theorem Reconciles.tagsCreated : Reconciles cluster s s' → ∃ new, s'.calls = s.calls ++ new ∧ TagsCreated new
  | .getPrivateSubnetIDS ec2 s =>
    let ⟨new, calls_eq, tags, _⟩ := getPrivateSubnetIDS_calls ec2 cluster s
    ⟨new, calls_eq, tags⟩
  | .configureSecurityGroup ec2 s =>
    let ⟨new, calls_eq, sent⟩ := sends_configureSecurityGroup ec2 cluster s
    ⟨new, calls_eq, .of_untagged fun _ _ mem => absurd (sent _ mem) (by simp [Call.writesSubnets])⟩

theorem Operates.steps (run : Operates cluster s s') : Steps s s' := by
  induction run with
  | refl => exact .refl
  | tail _ last ih => exact ih.trans last.steps

theorem Operates.tagsCreated (run : Operates cluster s s') :
    ∃ new, s'.calls = s.calls ++ new ∧ TagsCreated new := by
  induction run with
  | refl => exact ⟨[], by simp, .of_reads (by simp)⟩
  | tail _ last ih =>
    obtain ⟨new, calls_eq, tags⟩ := ih
    obtain ⟨more, more_eq, more_tags⟩ := last.tagsCreated
    exact ⟨new ++ more, by rw [more_eq, calls_eq, List.append_assoc], tags.append more_tags⟩

/-- With subnet identifiers EC2 does not reuse, the operator on its own keeps
the listing it started from at the front of the listing, so every lookup of
the cluster's VPC that answers finds the VPC the first lookup found. -/
theorem Operates.clusterVpc_eq (run : Operates cluster s s')
    (fresh : ∀ input subnetId, Call.createSubnet input (.ok subnetId) ∈ s'.calls.drop s.calls.length →
      ∀ sub ∈ s.subnets, sub.subnetId ≠ subnetId)
    {ec2 ec2' : EC2API} {vpc vpc' : Vpc} {t t' : Cloud}
    (found : getClusterVpc ec2 cluster s = .ok vpc t) (found' : getClusterVpc ec2' cluster s' = .ok vpc' t') :
    vpc' = vpc := by
  have steps := run.steps
  obtain ⟨new, calls_eq, tags⟩ := run.tagsCreated
  refine getClusterVpc_of_front found found' (steps.keeps_front fun input mem sub sub_mem named => ?_) steps.vpcs
  rw [calls_eq, List.drop_left] at mem fresh
  obtain ⟨request, subnetId, resources_eq, created⟩ := tags input none mem
  rw [resources_eq, List.mem_singleton] at named
  exact fresh request subnetId created sub sub_mem named

end Operates

/-- Once a pass has returned without error on a region whose zones are all
available, the subnet reconciler has settled: with subnet identifiers EC2 does
not reuse, after any run of the operator's reconcilers the cluster's VPC is
still the one the pass found, and a later pass, with any provider answers,
only reads. -/
theorem getPrivateSubnetIDS_settles (ec2 ec2' : EC2API) (cluster : Cluster) {s s₁ s₂ : Cloud}
    {ids : List String} (first : getPrivateSubnetIDS ec2 cluster s = .ok ids s₁)
    (available : ∀ az ∈ s.availabilityZones, az.state = "available") (later : Operates cluster s₁ s₂)
    (fresh : ∀ input subnetId, Call.createSubnet input (.ok subnetId) ∈ s₂.calls.drop s.calls.length →
      ∀ sub ∈ s.subnets, sub.subnetId ≠ subnetId) :
    ∃ vpc t, getClusterVpc ec2 cluster s = .ok vpc t ∧
      (∀ ec2'' vpc' t', getClusterVpc ec2'' cluster s₂ = .ok vpc' t' → vpc' = vpc) ∧
      ∀ call ∈ (stateOf (getPrivateSubnetIDS ec2' cluster s₂)).calls.drop s₂.calls.length, call.isRead := by
  have run : Operates cluster s s₂ :=
    .head (by simpa [first] using (Reconciles.getPrivateSubnetIDS ec2 s : Reconciles cluster s _)) later
  obtain ⟨vpc, t, found, -, covered⟩ := getPrivateSubnetIDS_ok_covered first later.steps
  have same_vpc : ∀ ec2'' vpc' t', getClusterVpc ec2'' cluster s₂ = .ok vpc' t' → vpc' = vpc :=
    fun _ _ _ found' => run.clusterVpc_eq fresh found found'
  refine ⟨vpc, t, found, same_vpc, ?_⟩
  obtain ⟨new, calls_eq, tags, log⟩ := getPrivateSubnetIDS_calls ec2' cluster s₂
  have uncreated : ∀ request reply, Call.createSubnet request reply ∉ new := by
    intro request reply requested
    obtain ⟨vpc', t', found', in_vpc, az, az_mem, named, uncovered⟩ :=
      getPrivateSubnetIDS_requests ec2' cluster s₂ (by rw [calls_eq, List.drop_left]; exact requested)
    obtain rfl := same_vpc _ _ _ found'
    rw [run.steps.availabilityZones] at az_mem
    obtain ⟨sub, sub_mem, sub_vpc, sub_zone, marked⟩ := covered az az_mem (available az az_mem)
    have covers := uncovered sub sub_mem sub_vpc marked
    simp [coversZone, sub_zone, available az az_mem] at covers
  rw [calls_eq, List.drop_left]
  intro call mem
  cases call with
  | createSubnet request reply => exact absurd mem (uncreated request reply)
  | createTags input failure =>
    obtain ⟨request, subnetId, -, created⟩ := tags input failure mem
    exact absurd created (uncreated _ _)
  | _ =>
    rcases log with reads | ⟨vpc', t', -, zoned⟩
    exacts [reads _ mem, zoned _ mem]

/-- A pass over the covered VPC, whose one zone is available, and a second pass
right after it, which only reads. -/
theorem getPrivateSubnetIDS_settles_covered :
    (∀ az ∈ coveredVpc.availabilityZones, az.state = "available") ∧
      (∀ input subnetId, Call.createSubnet input (.ok subnetId) ∈
          (stateOf (getPrivateSubnetIDS EC2API.answering sampleCluster coveredVpc)).calls.drop
            coveredVpc.calls.length →
        ∀ sub ∈ coveredVpc.subnets, sub.subnetId ≠ subnetId) ∧
      ∃ vpc t, getClusterVpc EC2API.answering sampleCluster coveredVpc = .ok vpc t ∧
        (∀ ec2'' vpc' t', getClusterVpc ec2'' sampleCluster
          (stateOf (getPrivateSubnetIDS EC2API.answering sampleCluster coveredVpc)) = .ok vpc' t' → vpc' = vpc) ∧
        ∀ call ∈ (stateOf (getPrivateSubnetIDS EC2API.answering sampleCluster
            (stateOf (getPrivateSubnetIDS EC2API.answering sampleCluster coveredVpc)))).calls.drop
            (stateOf (getPrivateSubnetIDS EC2API.answering sampleCluster coveredVpc)).calls.length,
          call.isRead :=
  have first : getPrivateSubnetIDS EC2API.answering sampleCluster coveredVpc =
      .ok ["subnet-a"] (stateOf (getPrivateSubnetIDS EC2API.answering sampleCluster coveredVpc)) :=
    eq_ok_of_resultOf (by decide)
  have available : ∀ az ∈ coveredVpc.availabilityZones, az.state = "available" := by decide
  have log : (stateOf (getPrivateSubnetIDS EC2API.answering sampleCluster coveredVpc)).calls.drop
      coveredVpc.calls.length = [.describeSubnets none, .describeVpcs ["vpc-a"] none, .describeSubnets none,
        .describeAvailabilityZones none] := by decide
  have fresh : ∀ input subnetId, Call.createSubnet input (.ok subnetId) ∈
      (stateOf (getPrivateSubnetIDS EC2API.answering sampleCluster coveredVpc)).calls.drop
        coveredVpc.calls.length → ∀ sub ∈ coveredVpc.subnets, sub.subnetId ≠ subnetId :=
    fun _ _ mem => by simp [log] at mem
  ⟨available, fresh, getPrivateSubnetIDS_settles _ _ _ first available .refl fresh⟩

end ClusterVpc
