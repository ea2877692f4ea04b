import ClusterVpc.Cloud.Records
import Mathlib.Logic.Relation

/-!
# The provider

The code talks to EC2 through `ec2iface.EC2API`. Here the provider is a state
(its subnets, zones, VPCs and security groups, and the log of every call made
to it) and a behaviour: for each request, given the state, whether it fails
and, for a creation, the identifier it assigns. A successful request changes
the state as EC2 does: a created subnet appears in the listing, and tags are
added to the subnets they name. Quantifying over the behaviour covers every
pattern of answers, since the log lets a behaviour answer the same request
differently each time.

`Step` is one request of the eight kinds the code sends, handled with any
answer. Every call of the model is a `Step`, so what a `Step` preserves holds
along every run of the code; a run of steps by other clients holds no request
of another kind, so no subnet and no tag is deleted along it.
-/

namespace ClusterVpc

/-- One request made to the provider and what came back. -/
inductive Call
  | describeSubnets (failure : Option GoError)
  | describeAvailabilityZones (failure : Option GoError)
  | describeVpcs (vpcIds : List String) (failure : Option GoError)
  | describeSecurityGroups (failure : Option GoError)
  | createSubnet (input : CreateSubnetInput) (reply : Except GoError String)
  | createTags (input : CreateTagsInput) (failure : Option GoError)
  | createSecurityGroup (input : CreateSecurityGroupInput) (reply : Except GoError String)
  | authorizeSecurityGroupIngress (input : AuthorizeSecurityGroupIngressInput)
      (failure : Option GoError)
deriving DecidableEq, Repr

/-- The provider's state. -/
structure Cloud where
  subnets : List Subnet
  availabilityZones : List AvailabilityZone
  vpcs : List Vpc
  securityGroups : List SecurityGroup
  calls : List Call
deriving DecidableEq, Repr

/-- How the provider answers: the error a request fails with, if any, and the
identifier a successful creation gets, as a function of the state. -/
structure EC2API where
  describeSubnetsFailure : Cloud → Option GoError
  describeAvailabilityZonesFailure : Cloud → Option GoError
  describeVpcsFailure : Cloud → List String → Option GoError
  describeSecurityGroupsFailure : Cloud → Option GoError
  createSubnetReply : Cloud → CreateSubnetInput → Except GoError String
  createTagsFailure : Cloud → CreateTagsInput → Option GoError
  createSecurityGroupReply : Cloud → CreateSecurityGroupInput → Except GoError String
  authorizeSecurityGroupIngressFailure : Cloud → AuthorizeSecurityGroupIngressInput → Option GoError

/-- A Go call against the provider. It ends normally or by an `Abort`, and the
provider keeps its state either way. -/
abbrev CloudM := EStateM Abort Cloud

/-- The provider's state after a computation, however it ended. -/
def stateOf {α : Type} : EStateM.Result Abort Cloud α → Cloud
  | .ok _ s => s
  | .error _ s => s

/-- What a computation returned, or how it ended otherwise. -/
def resultOf {α : Type} : EStateM.Result Abort Cloud α → Except Abort α
  | .ok a _ => .ok a
  | .error e _ => .error e

@[simp]
theorem resultOf_ok {α : Type} (a : α) (s : Cloud) : resultOf (.ok a s) = .ok a :=
  rfl

@[simp]
theorem resultOf_error {α : Type} (e : Abort) (s : Cloud) :
    resultOf (.error e s : EStateM.Result Abort Cloud α) = .error e :=
  rfl

@[simp]
theorem stateOf_ok {α : Type} (a : α) (s : Cloud) : stateOf (.ok a s) = s :=
  rfl

@[simp]
theorem stateOf_error {α : Type} (e : Abort) (s : Cloud) : stateOf (.error e s : EStateM.Result Abort Cloud α) = s :=
  rfl

theorem eq_ok_of_resultOf {α : Type} {result : EStateM.Result Abort Cloud α} {a : α}
    (returned : resultOf result = .ok a) : result = .ok a (stateOf result) := by
  cases result <;> cases returned
  rfl

theorem eq_error_of_resultOf {α : Type} {result : EStateM.Result Abort Cloud α} {e : Abort}
    (failed : resultOf result = .error e) : result = .error e (stateOf result) := by
  cases result <;> cases failed
  rfl

namespace Cloud

/-- Append a call to the log. -/
def record (s : Cloud) (call : Call) : Cloud :=
  { s with calls := s.calls ++ [call] }

/-- `CreateTags` on one tag list: a tag with a key already present replaces
that tag, another is added. -/
def setTag (tags : List Tag) (tag : Tag) : List Tag :=
  if tags.any (·.key = tag.key) then tags.map fun t => if t.key = tag.key then tag else t
  else tags ++ [tag]

/-- `CreateTags` with all the tags of a request on one tag list. -/
def applyTags (tags new : List Tag) : List Tag :=
  new.foldl setTag tags

/-- `CreateTags` on the subnets the request names. -/
def tagSubnets (subnets : List Subnet) (input : CreateTagsInput) : List Subnet :=
  subnets.map fun sub =>
    if sub.subnetId ∈ input.resources then { sub with tags := applyTags sub.tags input.tags } else sub

/-- The subnet a successful `CreateSubnet` adds. -/
def newSubnet (input : CreateSubnetInput) (subnetId : String) : Subnet :=
  ⟨subnetId, input.vpcId, input.availabilityZone, []⟩

@[simp]
theorem newSubnet_subnetId (input : CreateSubnetInput) (subnetId : String) :
    (newSubnet input subnetId).subnetId = subnetId :=
  rfl

@[simp]
theorem newSubnet_vpcId (input : CreateSubnetInput) (subnetId : String) :
    (newSubnet input subnetId).vpcId = input.vpcId :=
  rfl

@[simp]
theorem newSubnet_availabilityZone (input : CreateSubnetInput) (subnetId : String) :
    (newSubnet input subnetId).availabilityZone = input.availabilityZone :=
  rfl

@[simp]
theorem newSubnet_tags (input : CreateSubnetInput) (subnetId : String) :
    (newSubnet input subnetId).tags = [] :=
  rfl

/-- `AuthorizeSecurityGroupIngress` on the group the request names: the
permissions are appended as sent. EC2 describes the ranges of one protocol and
port pair as one permission; the model keeps each request's permission
apart. -/
def authorize (groups : List SecurityGroup) (input : AuthorizeSecurityGroupIngressInput) :
    List SecurityGroup :=
  groups.map fun g =>
    if g.groupId = input.groupId then { g with ipPermissions := g.ipPermissions ++ input.ipPermissions }
    else g

end Cloud

/-- The SDK's `(output, err)` for a request that returns `output` when it does
not fail. -/
def answer {α : Type} (failure : Option GoError) (output : α) : Except GoError α :=
  match failure with
  | some err => .error err
  | none => .ok output

namespace EC2API

variable (ec2 : EC2API)

/-- `DescribeSubnets` with no filter: every subnet of the region. -/
def describeSubnets : CloudM (Except GoError (List Subnet)) := fun s =>
  let failure := ec2.describeSubnetsFailure s
  .ok (answer failure s.subnets) (s.record (.describeSubnets failure))

/-- `DescribeAvailabilityZones` with no filter. -/
def describeAvailabilityZones : CloudM (Except GoError (List AvailabilityZone)) := fun s =>
  let failure := ec2.describeAvailabilityZonesFailure s
  .ok (answer failure s.availabilityZones) (s.record (.describeAvailabilityZones failure))

/-- `DescribeVpcs` filtered by identifiers. -/
def describeVpcs (vpcIds : List String) : CloudM (Except GoError (List Vpc)) := fun s =>
  let failure := ec2.describeVpcsFailure s vpcIds
  .ok (answer failure (s.vpcs.filter (·.vpcId ∈ vpcIds))) (s.record (.describeVpcs vpcIds failure))

/-- `DescribeSecurityGroups` with no filter. -/
def describeSecurityGroups : CloudM (Except GoError (List SecurityGroup)) := fun s =>
  let failure := ec2.describeSecurityGroupsFailure s
  .ok (answer failure s.securityGroups) (s.record (.describeSecurityGroups failure))

/-- `CreateSubnet`: the new subnet, which the provider lists from then on. -/
def createSubnet (input : CreateSubnetInput) : CloudM (Except GoError Subnet) := fun s =>
  let reply := ec2.createSubnetReply s input
  let s' := s.record (.createSubnet input reply)
  match reply with
  | .ok subnetId =>
    .ok (.ok (Cloud.newSubnet input subnetId))
      { s' with subnets := s.subnets ++ [Cloud.newSubnet input subnetId] }
  | .error err => .ok (.error err) s'

/-- `CreateTags`; `none` is a nil error. -/
def createTags (input : CreateTagsInput) : CloudM (Option GoError) := fun s =>
  let failure := ec2.createTagsFailure s input
  let s' := s.record (.createTags input failure)
  match failure with
  | some err => .ok (some err) s'
  | none => .ok none { s' with subnets := Cloud.tagSubnets s.subnets input }

/-- `CreateSecurityGroup`: the new group's identifier. -/
def createSecurityGroup (input : CreateSecurityGroupInput) : CloudM (Except GoError String) := fun s =>
  let reply := ec2.createSecurityGroupReply s input
  let s' := s.record (.createSecurityGroup input reply)
  match reply with
  | .ok groupId =>
    .ok (.ok groupId) { s' with securityGroups := s.securityGroups ++ [⟨groupId, input.groupName, []⟩] }
  | .error err => .ok (.error err) s'

/-- `AuthorizeSecurityGroupIngress`; `none` is a nil error. -/
def authorizeSecurityGroupIngress (input : AuthorizeSecurityGroupIngressInput) :
    CloudM (Option GoError) := fun s =>
  let failure := ec2.authorizeSecurityGroupIngressFailure s input
  let s' := s.record (.authorizeSecurityGroupIngress input failure)
  match failure with
  | some err => .ok (some err) s'
  | none => .ok none { s' with securityGroups := Cloud.authorize s.securityGroups input }

end EC2API

/-! ## Provider steps -/

/-- One request of a kind the code sends, handled by the provider with any
answer. -/
inductive Step : Cloud → Cloud → Prop
  | describeSubnets (s : Cloud) (failure : Option GoError) :
      Step s (s.record (.describeSubnets failure))
  | describeAvailabilityZones (s : Cloud) (failure : Option GoError) :
      Step s (s.record (.describeAvailabilityZones failure))
  | describeVpcs (s : Cloud) (vpcIds : List String) (failure : Option GoError) :
      Step s (s.record (.describeVpcs vpcIds failure))
  | describeSecurityGroups (s : Cloud) (failure : Option GoError) :
      Step s (s.record (.describeSecurityGroups failure))
  | createSubnetFailed (s : Cloud) (input : CreateSubnetInput) (err : GoError) :
      Step s (s.record (.createSubnet input (.error err)))
  | createSubnet (s : Cloud) (input : CreateSubnetInput) (subnetId : String) :
      Step s { s.record (.createSubnet input (.ok subnetId)) with
        subnets := s.subnets ++ [Cloud.newSubnet input subnetId] }
  | createTagsFailed (s : Cloud) (input : CreateTagsInput) (err : GoError) :
      Step s (s.record (.createTags input (some err)))
  | createTags (s : Cloud) (input : CreateTagsInput) :
      Step s { s.record (.createTags input none) with subnets := Cloud.tagSubnets s.subnets input }
  | createSecurityGroupFailed (s : Cloud) (input : CreateSecurityGroupInput) (err : GoError) :
      Step s (s.record (.createSecurityGroup input (.error err)))
  | createSecurityGroup (s : Cloud) (input : CreateSecurityGroupInput) (groupId : String) :
      Step s { s.record (.createSecurityGroup input (.ok groupId)) with
        securityGroups := s.securityGroups ++ [⟨groupId, input.groupName, []⟩] }
  | authorizeFailed (s : Cloud) (input : AuthorizeSecurityGroupIngressInput) (err : GoError) :
      Step s (s.record (.authorizeSecurityGroupIngress input (some err)))
  | authorize (s : Cloud) (input : AuthorizeSecurityGroupIngressInput) :
      Step s { s.record (.authorizeSecurityGroupIngress input none) with
        securityGroups := Cloud.authorize s.securityGroups input }

/-- Any number of requests. -/
abbrev Steps : Cloud → Cloud → Prop :=
  Relation.ReflTransGen Step

/-- Every run of `m`, from any state, is a sequence of provider steps. -/
def Runs {α : Type} (m : CloudM α) : Prop :=
  ∀ s, Steps s (stateOf (m s))

theorem bind_ok {α β : Type} {m : CloudM α} {f : α → CloudM β} {s s' : Cloud} {a : α}
    (first : m s = .ok a s') : (m >>= f) s = f a s' := by
  show EStateM.bind m f s = _
  simp only [EStateM.bind, first]

theorem bind_error {α β : Type} {m : CloudM α} {f : α → CloudM β} {s s' : Cloud} {e : Abort}
    (first : m s = .error e s') : (m >>= f) s = .error e s' := by
  show EStateM.bind m f s = _
  simp only [EStateM.bind, first]

@[simp]
theorem pure_apply {α : Type} (a : α) (s : Cloud) : (pure a : CloudM α) s = .ok a s :=
  rfl

@[simp]
theorem throw_apply {α : Type} (e : Abort) (s : Cloud) : (throw e : CloudM α) s = .error e s :=
  rfl

namespace Runs

theorem pure {α : Type} (a : α) : Runs (pure a : CloudM α) :=
  fun _ => .refl

theorem throw {α : Type} (e : Abort) : Runs (throw e : CloudM α) :=
  fun _ => .refl

theorem bind {α β : Type} {m : CloudM α} {f : α → CloudM β} (first : Runs m)
    (rest : ∀ a, Runs (f a)) : Runs (m >>= f) := by
  intro s
  have first_runs := first s
  cases result : m s with
  | ok a s' =>
    rw [result] at first_runs
    rw [bind_ok result]
    exact first_runs.trans (rest a s')
  | error e s' =>
    rw [result] at first_runs
    rw [bind_error result]
    exact first_runs

end Runs

namespace EC2API

variable (ec2 : EC2API)

theorem runs_createSubnet (input : CreateSubnetInput) : Runs (ec2.createSubnet input) := by
  intro s
  simp only [createSubnet]
  split <;> rename_i reply_eq <;> rw [reply_eq]
  · exact .single (.createSubnet s input _)
  · exact .single (.createSubnetFailed s input _)

theorem runs_createTags (input : CreateTagsInput) : Runs (ec2.createTags input) := by
  intro s
  simp only [createTags]
  split <;> rename_i failure_eq <;> rw [failure_eq]
  · exact .single (.createTagsFailed s input _)
  · exact .single (.createTags s input)

theorem runs_createSecurityGroup (input : CreateSecurityGroupInput) :
    Runs (ec2.createSecurityGroup input) := by
  intro s
  simp only [createSecurityGroup]
  split <;> rename_i reply_eq <;> rw [reply_eq]
  · exact .single (.createSecurityGroup s input _)
  · exact .single (.createSecurityGroupFailed s input _)

theorem runs_authorizeSecurityGroupIngress (input : AuthorizeSecurityGroupIngressInput) :
    Runs (ec2.authorizeSecurityGroupIngress input) := by
  intro s
  simp only [authorizeSecurityGroupIngress]
  split <;> rename_i failure_eq <;> rw [failure_eq]
  · exact .single (.authorizeFailed s input _)
  · exact .single (.authorize s input)

end EC2API

end ClusterVpc
