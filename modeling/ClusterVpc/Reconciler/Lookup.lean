import ClusterVpc.Cloud.Invariants

/-!
# Finding the cluster's VPC, subnets and zones

The reads a reconciliation pass starts with. `getClusterVpc` takes the VPC of
the first listed subnet that carries the cluster's ownership tag and looks that
one identifier up; `getVPCSubnets` polls the subnet listing until it succeeds
or the poll's five minutes are up and keeps the subnets of the VPC; `getAZs`
lists the region's zones. None of them changes the provider beyond its log.

Besides the provider, the code reads the cluster through the controller-runtime
client and uses names declared elsewhere in the package; `Cluster` holds both.
-/

namespace ClusterVpc

/-- What the code reads through the controller-runtime client, and the names it
uses from the rest of the package. Each read is one value for a whole pass;
`getDefaultSubnetTags` repeats `GetClusterID` and `GetUserInfraTags` for every
subnet it tags, which the model reads as the same answers. -/
structure Cluster where
  /-- `resources.GetClusterID`. -/
  clusterID : Except GoError String
  /-- `resources.BuildInfraName(ctx, c, defaultSecurityGroupPostfix, defaultAwsIdentifierLength)`. -/
  securityGroupName : Except GoError String
  /-- `resources.GetUserInfraTags`; `none` is a nil slice. -/
  userInfraTags : Except GoError (Option (List Tag))
  /-- `resources.GetOrganizationTag()`. -/
  organizationTag : String
  /-- `resources.BuildManagedTag()`. -/
  managedTag : Tag
  /-- `resources.TagDisplayName`. -/
  tagDisplayName : String
  /-- `defaultSubnetNameTagValue`. -/
  subnetNameTagValue : String
  /-- `clusterOwnedTagKeyPrefix`. -/
  clusterOwnedTagKeyPrefix : String

/-- `if err != nil { return ..., errorUtil.Wrap(err, message) }` after a call of
the code: an error it returns is wrapped, a panic passes through. -/
def wrapErr {α : Type} (m : CloudM α) (message : String) : CloudM α := fun s =>
  match m s with
  | .error (.error err) s' => .error (.error (.wrap err message)) s'
  | result => result

/-- The same check on a value `(output, err)`. -/
def check {α : Type} (result : Except GoError α) (message : String) : CloudM α :=
  match result with
  | .ok output => pure output
  | .error err => throw (.error (.wrap err message))

/-- `if err != nil { return ..., err }` on a value `(output, err)`. -/
def orReturn {α : Type} (result : Except GoError α) : CloudM α :=
  match result with
  | .ok output => pure output
  | .error err => throw (.error err)

/-- `getOSDClusterTagKey`. -/
def getOSDClusterTagKey (cluster : Cluster) (clusterID : String) : String :=
  cluster.clusterOwnedTagKeyPrefix ++ clusterID

/-- The tag test of `getVPCIDByClusterSubnets`. -/
def isClusterTag (cluster : Cluster) (clusterID : String) (tag : Tag) : Bool :=
  (tag.value = "owned" ∨ tag.value = "shared") ∧ tag.key = getOSDClusterTagKey cluster clusterID

/-- The subnet test of `getVPCIDByClusterSubnets`: one of its tags is an
ownership tag of the cluster. -/
def clusterTagged (cluster : Cluster) (clusterID : String) (sub : Subnet) : Bool :=
  sub.tags.any (isClusterTag cluster clusterID)

/-- `getVPCIDByClusterSubnets`: the VPC of the first listed subnet with an
ownership tag of the cluster. -/
def getVPCIDByClusterSubnets (ec2 : EC2API) (cluster : Cluster) (clusterID : String) :
    CloudM String := do
  let subnets ← orReturn (← ec2.describeSubnets)
  match subnets.find? (clusterTagged cluster clusterID) with
  | some sub => pure sub.vpcId
  | none => throw (.error (.new ("failed to get cluster vpc id, no vpc found with osd cluster tag: " ++
      "could not find cluster associated subnets with clusterID " ++ clusterID)))

/-- `getClusterVpc`: the VPC with the identifier `getVPCIDByClusterSubnets`
finds, which must be listed exactly once. -/
def getClusterVpc (ec2 : EC2API) (cluster : Cluster) : CloudM Vpc := do
  let clusterID ← check cluster.clusterID "error getting clusterID"
  let vpcId ← wrapErr (getVPCIDByClusterSubnets ec2 cluster clusterID)
    "error getting vpc id from associated subnets"
  let vpcs ← check (← ec2.describeVpcs [vpcId]) ("error getting vpc with id " ++ vpcId)
  match vpcs with
  | [] => throw (.error (.new "error, no vpc found"))
  | [vpc] => pure vpc
  | _ :: _ :: _ => throw (.error (.new "error, more than one vpc found associated with cluster subnets"))

/-- The attempts `wait.PollImmediate(5s, 5min, ...)` makes at most: one at once,
then one every five seconds until five minutes have passed. Time is not
modelled and the count stands for it; in the code slow listings leave room for
fewer, and no result here depends on the count beyond its being positive. -/
def pollAttempts : Nat := 61

/-- The poll of `getSubnets`: a failed listing is "not ready yet". -/
def pollSubnets (ec2 : EC2API) : Nat → CloudM (List Subnet)
  | 0 => throw (.error .waitTimeout)
  | attempts + 1 => do
    match ← ec2.describeSubnets with
    | .ok subnets => pure subnets
    | .error _ => pollSubnets ec2 attempts

/-- `getSubnets`: the region's subnets, once a listing succeeds. -/
def getSubnets (ec2 : EC2API) : CloudM (List Subnet) :=
  pollSubnets ec2 pollAttempts

/-- `GetVPCSubnets`: the subnets of the VPC. With a nil VPC it returns
`errorUtil.Wrap(err, ...)` of a nil `err`, which is nil: no subnets and no
error. -/
def getVPCSubnets (ec2 : EC2API) (vpc : Option Vpc) : CloudM (List Subnet) := do
  let subs ← wrapErr (getSubnets ec2) "error getting subnets"
  match vpc with
  | none => pure []
  | some vpc =>
    let associatedSubs := subs.filter (·.vpcId = vpc.vpcId)
    if associatedSubs = [] then throw (.error (.new "error, unable to find subnets associated with cluster vpc"))
    else pure associatedSubs

/-- `getAZs`: the region's zones. -/
def getAZs (ec2 : EC2API) : CloudM (List AvailabilityZone) := do
  check (← ec2.describeAvailabilityZones) "error getting availability zones"

/-- `GetCidr`: the identifier and block of the cluster's VPC. -/
def getCidr (ec2 : EC2API) (cluster : Cluster) : CloudM (String × CidrText) := do
  let foundVPC ← wrapErr (getClusterVpc ec2 cluster) "error getting vpcs"
  pure (foundVPC.vpcId, foundVPC.cidrBlock)

/-! ## Reads change nothing but the log -/

/-- A request that changes nothing but the log. -/
def Call.isRead : Call → Bool
  | .describeSubnets _ | .describeAvailabilityZones _ | .describeVpcs _ _ | .describeSecurityGroups _ => true
  | _ => false

/-- `s` with calls appended to its log. -/
def Cloud.recordAll (s : Cloud) (calls : List Call) : Cloud :=
  { s with calls := s.calls ++ calls }

namespace Cloud

variable (s : Cloud) (calls more : List Call)

@[simp]
theorem recordAll_subnets : (s.recordAll calls).subnets = s.subnets :=
  rfl

@[simp]
theorem recordAll_availabilityZones : (s.recordAll calls).availabilityZones = s.availabilityZones :=
  rfl

@[simp]
theorem recordAll_vpcs : (s.recordAll calls).vpcs = s.vpcs :=
  rfl

@[simp]
theorem recordAll_securityGroups : (s.recordAll calls).securityGroups = s.securityGroups :=
  rfl

@[simp]
theorem recordAll_calls : (s.recordAll calls).calls = s.calls ++ calls :=
  rfl

@[simp]
theorem recordAll_nil : s.recordAll [] = s := by
  simp [recordAll]

@[simp]
theorem recordAll_recordAll : (s.recordAll calls).recordAll more = s.recordAll (calls ++ more) := by
  simp [recordAll]

theorem record_eq (call : Call) : s.record call = s.recordAll [call] :=
  rfl

end Cloud

/-- Every run of `m` only adds read requests to the log. -/
def ReadOnly {α : Type} (m : CloudM α) : Prop :=
  ∀ s, ∃ reads, (∀ call ∈ reads, call.isRead) ∧ stateOf (m s) = s.recordAll reads

theorem bind_apply {α β : Type} (m : CloudM α) (f : α → CloudM β) (s : Cloud) :
    (m >>= f) s = match m s with
      | .ok a s' => f a s'
      | .error e s' => .error e s' := by
  cases result : m s with
  | ok a s' => exact bind_ok result
  | error e s' => exact bind_error result

theorem map_apply {α β : Type} (f : α → β) (m : CloudM α) (s : Cloud) :
    (f <$> m) s = match m s with
      | .ok a s' => .ok (f a) s'
      | .error e s' => .error e s' := by
  show EStateM.map f m s = _
  unfold EStateM.map
  cases m s <;> rfl

@[simp]
theorem stateOf_wrapErr {α : Type} (m : CloudM α) (message : String) (s : Cloud) :
    stateOf (wrapErr m message s) = stateOf (m s) := by
  unfold wrapErr
  split <;> simp_all

theorem Runs.wrapErr {α : Type} {m : CloudM α} (runs : Runs m) (message : String) :
    Runs (wrapErr m message) :=
  fun s => by simpa using runs s

theorem Runs.check {α : Type} (result : Except GoError α) (message : String) :
    Runs (check result message) := by
  cases result <;> first | exact .pure _ | exact .throw _

theorem Runs.orReturn {α : Type} (result : Except GoError α) : Runs (orReturn result) := by
  cases result <;> first | exact .pure _ | exact .throw _

theorem Steps.recordAll {s : Cloud} {reads : List Call} (all_read : ∀ call ∈ reads, call.isRead) :
    Steps s (s.recordAll reads) := by
  induction reads using List.reverseRecOn with
  | nil => simpa using .refl
  | append_singleton reads call ih =>
    simp only [List.mem_append, List.mem_singleton] at all_read
    have read : call.isRead := all_read call (.inr rfl)
    have step : Step (s.recordAll reads) (s.recordAll (reads ++ [call])) := by
      rw [← Cloud.recordAll_recordAll, ← Cloud.record_eq]
      cases call <;> simp only [Call.isRead, Bool.false_eq_true] at read <;> constructor
    exact (ih fun c mem => all_read c (.inl mem)).tail step

namespace ReadOnly

variable {α β : Type}

theorem runs {m : CloudM α} (reads : ReadOnly m) : Runs m := by
  intro s
  obtain ⟨calls, all_read, state_eq⟩ := reads s
  rw [state_eq]
  exact Steps.recordAll all_read

theorem pure (a : α) : ReadOnly (Pure.pure a : CloudM α) :=
  fun s => ⟨[], by simp, by simp⟩

theorem throw (e : Abort) : ReadOnly (MonadExcept.throw e : CloudM α) :=
  fun s => ⟨[], by simp, by simp⟩

theorem bind {m : CloudM α} {f : α → CloudM β} (first : ReadOnly m) (rest : ∀ a, ReadOnly (f a)) :
    ReadOnly (m >>= f) := by
  intro s
  obtain ⟨reads, all_read, state_eq⟩ := first s
  cases result : m s with
  | ok a s' =>
    rw [result, stateOf_ok] at state_eq
    subst state_eq
    obtain ⟨more, more_read, more_eq⟩ := rest a (s.recordAll reads)
    refine ⟨reads ++ more, fun call mem => ?_, by rw [bind_ok result, more_eq, Cloud.recordAll_recordAll]⟩
    rcases List.mem_append.mp mem with old | new
    exacts [all_read call old, more_read call new]
  | error e s' =>
    rw [result, stateOf_error] at state_eq
    exact ⟨reads, all_read, by rw [bind_error result, stateOf_error, state_eq]⟩

/-- After a successful read-only run, the state is the old one with more reads
in its log. -/
theorem eq_recordAll {m : CloudM α} (reads : ReadOnly m) {a : α} {s s' : Cloud} (run : m s = .ok a s') :
    ∃ calls, (∀ call ∈ calls, call.isRead) ∧ s' = s.recordAll calls := by
  obtain ⟨calls, all_read, state_eq⟩ := reads s
  rw [run, stateOf_ok] at state_eq
  exact ⟨calls, all_read, state_eq⟩

/-- A read-only run fails or answers, having only read. -/
theorem cases {m : CloudM α} (reads : ReadOnly m) (s : Cloud) :
    ∃ calls, (∀ call ∈ calls, call.isRead) ∧
      ((∃ e, m s = .error e (s.recordAll calls)) ∨ ∃ a, m s = .ok a (s.recordAll calls)) := by
  obtain ⟨calls, all_read, state_eq⟩ := reads s
  refine ⟨calls, all_read, ?_⟩
  cases result : m s with
  | error e s' => rw [result, stateOf_error] at state_eq; exact .inl ⟨e, by rw [state_eq]⟩
  | ok a s' => rw [result, stateOf_ok] at state_eq; exact .inr ⟨a, by rw [state_eq]⟩

theorem wrapErr {m : CloudM α} (reads : ReadOnly m) (message : String) :
    ReadOnly (wrapErr m message) :=
  fun s => by simpa using reads s

theorem check (result : Except GoError α) (message : String) : ReadOnly (check result message) := by
  cases result <;> first | exact .pure _ | exact .throw _

theorem orReturn (result : Except GoError α) : ReadOnly (orReturn result) := by
  cases result <;> first | exact .pure _ | exact .throw _

end ReadOnly

namespace EC2API

variable (ec2 : EC2API)

theorem readOnly_describeSubnets : ReadOnly ec2.describeSubnets :=
  fun _ => ⟨[_], by simp [Call.isRead], rfl⟩

theorem readOnly_describeAvailabilityZones : ReadOnly ec2.describeAvailabilityZones :=
  fun _ => ⟨[_], by simp [Call.isRead], rfl⟩

theorem readOnly_describeVpcs (vpcIds : List String) : ReadOnly (ec2.describeVpcs vpcIds) :=
  fun _ => ⟨[_], by simp [Call.isRead], rfl⟩

theorem readOnly_describeSecurityGroups : ReadOnly ec2.describeSecurityGroups :=
  fun _ => ⟨[_], by simp [Call.isRead], rfl⟩

/-- A provider whose listings never fail. -/
structure Lists : Prop where
  subnets : ∀ s, ec2.describeSubnetsFailure s = none
  zones : ∀ s, ec2.describeAvailabilityZonesFailure s = none
  vpcs : ∀ s vpcIds, ec2.describeVpcsFailure s vpcIds = none
  securityGroups : ∀ s, ec2.describeSecurityGroupsFailure s = none

end EC2API

/-! ## The lookups only read -/

section Lookups

variable (ec2 : EC2API) (cluster : Cluster)

theorem readOnly_getVPCIDByClusterSubnets (clusterID : String) :
    ReadOnly (getVPCIDByClusterSubnets ec2 cluster clusterID) := by
  refine .bind ec2.readOnly_describeSubnets fun subnets => .bind (.orReturn _) fun subnets => ?_
  split
  exacts [.pure _, .throw _]

theorem readOnly_getClusterVpc : ReadOnly (getClusterVpc ec2 cluster) := by
  refine .bind (.check _ _) fun clusterID => .bind ((readOnly_getVPCIDByClusterSubnets ec2 cluster clusterID).wrapErr _)
    fun vpcId => .bind (ec2.readOnly_describeVpcs _) fun vpcs => .bind (.check _ _) fun vpcs => ?_
  split
  exacts [.throw _, .pure _, .throw _]

theorem readOnly_pollSubnets (attempts : Nat) : ReadOnly (pollSubnets ec2 attempts) := by
  induction attempts with
  | zero => exact .throw _
  | succ attempts ih =>
    refine .bind ec2.readOnly_describeSubnets fun listing => ?_
    cases listing
    exacts [ih, .pure _]

theorem readOnly_getVPCSubnets (vpc : Option Vpc) : ReadOnly (getVPCSubnets ec2 vpc) := by
  refine .bind ((readOnly_pollSubnets ec2 _).wrapErr _) fun subs => ?_
  split
  · exact .pure _
  · dsimp only
    split
    exacts [.throw _, .pure _]

theorem readOnly_getAZs : ReadOnly (getAZs ec2) :=
  .bind ec2.readOnly_describeAvailabilityZones fun _ => .check _ _

theorem readOnly_getCidr : ReadOnly (getCidr ec2 cluster) :=
  .bind ((readOnly_getClusterVpc ec2 cluster).wrapErr _) fun _ => .pure _

end Lookups

/-! ## What the lookups return -/

section Results

variable {α β : Type} {ec2 : EC2API} {cluster : Cluster} {s s' : Cloud}

theorem bind_eq_ok {m : CloudM α} {f : α → CloudM β} {b : β} (run : (m >>= f) s = .ok b s') :
    ∃ a mid, m s = .ok a mid ∧ f a mid = .ok b s' := by
  rw [bind_apply] at run
  split at run
  · exact ⟨_, _, ‹_›, run⟩
  · cases run

theorem wrapErr_eq_ok {m : CloudM α} {message : String} {a : α} (run : wrapErr m message s = .ok a s') :
    m s = .ok a s' := by
  unfold wrapErr at run
  split at run <;> simp_all

theorem bind_wrapErr_error {m : CloudM α} {f : α → CloudM β} {e : Abort}
    (message : String) (failed : m s = .error e s') : stateOf ((wrapErr m message >>= f) s) = s' := by
  rw [bind_apply]
  unfold wrapErr
  rw [failed]
  cases e <;> rfl

/-- A step that returns an error ends the function with the error wrapped. -/
theorem bind_wrapErr_fail {m : CloudM α} {f : α → CloudM β} {cause : GoError}
    (message : String) (failed : m s = .error (.error cause) s') :
    (wrapErr m message >>= f) s = .error (.error (.wrap cause message)) s' := by
  rw [bind_apply]
  unfold wrapErr
  rw [failed]

theorem bind_wrapErr_ok {m : CloudM α} {f : α → CloudM β} {a : α}
    (message : String) (ok : m s = .ok a s') : (wrapErr m message >>= f) s = f a s' := by
  rw [bind_apply]
  unfold wrapErr
  rw [ok]

theorem check_eq_ok {result : Except GoError α} {message : String} {a : α}
    (run : check result message s = .ok a s') : result = .ok a ∧ s' = s := by
  cases result <;> cases run; exact ⟨rfl, rfl⟩

theorem orReturn_eq_ok {result : Except GoError α} {a : α} (run : orReturn result s = .ok a s') :
    result = .ok a ∧ s' = s := by
  cases result <;> cases run; exact ⟨rfl, rfl⟩

theorem answer_eq_ok {failure : Option GoError} {output a : α} (ok : answer failure output = .ok a) :
    a = output := by
  cases failure <;> cases ok; rfl

theorem pollSubnets_ok {attempts : Nat} {subs : List Subnet}
    (run : pollSubnets ec2 attempts s = .ok subs s') : subs = s.subnets := by
  induction attempts generalizing s with
  | zero => cases run
  | succ attempts ih =>
    obtain ⟨listing, mid, described, run⟩ := bind_eq_ok run
    cases described
    cases listed : answer (ec2.describeSubnetsFailure s) s.subnets with
    | error err => rw [listed] at run; exact ih (s := s.record _) run
    | ok subnets => rw [listed] at run; cases run; exact answer_eq_ok listed

theorem getVPCSubnets_ok {vpc : Vpc} {subs : List Subnet}
    (run : getVPCSubnets ec2 (some vpc) s = .ok subs s') :
    subs = s.subnets.filter (·.vpcId = vpc.vpcId) := by
  obtain ⟨all, mid, polled, run⟩ := bind_eq_ok run
  rw [pollSubnets_ok (wrapErr_eq_ok polled)] at run
  dsimp only at run
  split at run
  · cases run
  · cases run; rfl

theorem getAZs_ok {azs : List AvailabilityZone} (run : getAZs ec2 s = .ok azs s') :
    azs = s.availabilityZones := by
  obtain ⟨listing, mid, described, run⟩ := bind_eq_ok run
  cases described
  exact answer_eq_ok (check_eq_ok run).1

theorem getVPCIDByClusterSubnets_ok {clusterID vpcId : String}
    (run : getVPCIDByClusterSubnets ec2 cluster clusterID s = .ok vpcId s') :
    ∃ sub, s.subnets.find? (clusterTagged cluster clusterID) = some sub ∧ vpcId = sub.vpcId := by
  obtain ⟨listing, mid, described, run⟩ := bind_eq_ok run
  cases described
  obtain ⟨subnets, mid', returned, run⟩ := bind_eq_ok run
  obtain ⟨listed, -⟩ := orReturn_eq_ok returned
  rw [answer_eq_ok listed] at run
  cases first : s.subnets.find? (clusterTagged cluster clusterID) with
  | none => rw [first] at run; cases run
  | some sub => rw [first] at run; cases run; exact ⟨sub, rfl, rfl⟩

/-- What a successful `getClusterVpc` found: the first cluster-tagged subnet,
and the one VPC listed under its identifier. -/
theorem getClusterVpc_ok {vpc : Vpc} (run : getClusterVpc ec2 cluster s = .ok vpc s') :
    ∃ clusterID sub, cluster.clusterID = .ok clusterID ∧
      s.subnets.find? (clusterTagged cluster clusterID) = some sub ∧
      s.vpcs.filter (·.vpcId ∈ [sub.vpcId]) = [vpc] := by
  obtain ⟨clusterID, mid, found, run⟩ := bind_eq_ok run
  obtain ⟨id_eq, same⟩ := check_eq_ok found
  subst mid
  obtain ⟨vpcId, mid, found, run⟩ := bind_eq_ok run
  have found := wrapErr_eq_ok found
  obtain ⟨sub, first, rfl⟩ := getVPCIDByClusterSubnets_ok found
  obtain ⟨calls, -, rfl⟩ := (readOnly_getVPCIDByClusterSubnets ec2 cluster clusterID).eq_recordAll found
  obtain ⟨listing, mid', described, run⟩ := bind_eq_ok run
  cases described
  obtain ⟨vpcs, mid'', checked, run⟩ := bind_eq_ok run
  obtain ⟨listed, -⟩ := check_eq_ok checked
  have vpcs_eq : vpcs = s.vpcs.filter (·.vpcId ∈ [sub.vpcId]) := by simpa using answer_eq_ok listed
  refine ⟨clusterID, sub, id_eq, first, ?_⟩
  rw [← vpcs_eq]
  rcases vpcs with _ | ⟨found, _ | ⟨other, rest⟩⟩ <;> cases run
  rfl

theorem getClusterVpc_mem {vpc : Vpc} (run : getClusterVpc ec2 cluster s = .ok vpc s') :
    vpc ∈ s.vpcs ∧ ∃ sub ∈ s.subnets, sub.vpcId = vpc.vpcId := by
  obtain ⟨clusterID, sub, -, first, listed⟩ := getClusterVpc_ok run
  have mem : vpc ∈ s.vpcs.filter (·.vpcId ∈ [sub.vpcId]) := listed ▸ List.mem_singleton_self vpc
  simp only [List.mem_filter, List.mem_singleton, decide_eq_true_eq] at mem
  exact ⟨mem.1, sub, List.mem_of_find?_eq_some first, mem.2.symm⟩

/-- The VPC the lookup finds is fixed by the first cluster-tagged subnet of the
listing, so a listing that has only grown at its end gives the same VPC. -/
theorem getClusterVpc_of_front {ec2' : EC2API} {t t' : Cloud} {vpc vpc' : Vpc}
    (first : getClusterVpc ec2 cluster s = .ok vpc s') (second : getClusterVpc ec2' cluster t = .ok vpc' t')
    (grown : s.subnets <+: t.subnets) (vpcs_eq : t.vpcs = s.vpcs) : vpc' = vpc := by
  obtain ⟨clusterID, sub, id_eq, tagged, listed⟩ := getClusterVpc_ok first
  obtain ⟨clusterID', sub', id_eq', tagged', listed'⟩ := getClusterVpc_ok second
  obtain rfl : clusterID' = clusterID := Except.ok.inj (id_eq'.symm.trans id_eq)
  obtain ⟨rest, rest_eq⟩ := grown
  rw [← rest_eq, List.find?_append, tagged, Option.or_some, Option.some_inj] at tagged'
  subst tagged'
  rw [vpcs_eq, listed, List.singleton_inj] at listed'
  exact listed'.symm

theorem getVPCSubnets_lists (lists : ec2.Lists) {vpc : Vpc} (has : ∃ sub ∈ s.subnets, sub.vpcId = vpc.vpcId) :
    getVPCSubnets ec2 (some vpc) s =
      .ok (s.subnets.filter (·.vpcId = vpc.vpcId)) (s.record (.describeSubnets none)) := by
  obtain ⟨sub, mem, same⟩ := has
  have nonempty : ¬ ∀ other ∈ s.subnets, ¬ other.vpcId = vpc.vpcId := fun none_in => none_in sub mem same
  have polled : getSubnets ec2 s = .ok s.subnets (s.record (.describeSubnets none)) := by
    rw [getSubnets, pollAttempts, show (61 : Nat) = 60 + 1 from rfl, pollSubnets, bind_apply]
    simp [EC2API.describeSubnets, lists.subnets, answer]
  simp [getVPCSubnets, bind_apply, wrapErr, polled, nonempty]

theorem getAZs_lists (lists : ec2.Lists) :
    getAZs ec2 s = .ok s.availabilityZones (s.record (.describeAvailabilityZones none)) := by
  simp [getAZs, bind_apply, check, EC2API.describeAvailabilityZones, lists.zones, answer]

end Results

/-! ## The poll -/

section Polling

variable (ec2 : EC2API)

/-- The poll lists until a listing answers or the attempts run out: the log
gains the failed listings and then the one that answered, if any; the poll
returns that listing's subnets or, when every attempt failed, the wait's
timeout. -/
theorem pollSubnets_attempts (attempts : Nat) (s : Cloud) :
    ∃ failures : List GoError, failures.length ≤ attempts ∧
      stateOf (pollSubnets ec2 attempts s) = s.recordAll (failures.map (Call.describeSubnets ∘ some) ++
        if failures.length = attempts then [] else [.describeSubnets none]) ∧
      resultOf (pollSubnets ec2 attempts s) =
        if failures.length = attempts then .error (.error .waitTimeout) else .ok s.subnets := by
  induction attempts generalizing s with
  | zero => exact ⟨[], le_rfl, by simp [pollSubnets], by simp [pollSubnets]⟩
  | succ attempts ih =>
    cases failed : ec2.describeSubnetsFailure s with
    | none =>
      refine ⟨[], Nat.zero_le _, ?_, ?_⟩ <;>
        simp [pollSubnets, bind_apply, EC2API.describeSubnets, failed, answer, Cloud.record_eq]
    | some err =>
      have step : pollSubnets ec2 (attempts + 1) s =
          pollSubnets ec2 attempts (s.record (.describeSubnets (some err))) := by
        simp [pollSubnets, bind_apply, EC2API.describeSubnets, failed, answer]
      obtain ⟨failures, le, state_eq, result_eq⟩ := ih (s.record (.describeSubnets (some err)))
      refine ⟨err :: failures, Nat.succ_le_succ le, ?_, ?_⟩
      · rw [step, state_eq, Cloud.record_eq, Cloud.recordAll_recordAll]
        simp
      · rw [step, result_eq, Cloud.record_eq]
        simp

end Polling

/-! ## Which VPC is the cluster's -/

/-- `getClusterVpc` returns the VPC of the first cluster-tagged subnet of the
listing, whatever VPCs the later cluster-tagged subnets lie in: it looks up one
identifier, so its check for more than one VPC never fires on a listing with
cluster-tagged subnets in several VPCs. -/
theorem getClusterVpc_first_tagged (ec2 : EC2API) (cluster : Cluster) (clusterID : String)
    (s : Cloud) (pre : List Subnet) (sub : Subnet) (rest : List Subnet) (vpc : Vpc)
    (lists : ec2.Lists) (id_eq : cluster.clusterID = .ok clusterID)
    (listing : s.subnets = pre ++ sub :: rest)
    (untagged : ∀ p ∈ pre, clusterTagged cluster clusterID p = false)
    (tagged : clusterTagged cluster clusterID sub = true)
    (listed : s.vpcs.filter (·.vpcId = sub.vpcId) = [vpc]) :
    ∃ s', getClusterVpc ec2 cluster s = .ok vpc s' := by
  have first : s.subnets.find? (clusterTagged cluster clusterID) = some sub := by
    rw [listing, List.find?_append, List.find?_eq_none.mpr (by simpa using untagged),
      List.find?_cons_of_pos _ tagged]
    rfl
  simp [getClusterVpc, getVPCIDByClusterSubnets, bind_apply, check, orReturn, wrapErr, id_eq,
    EC2API.describeSubnets, EC2API.describeVpcs, lists.subnets, lists.vpcs, answer, first, listed,
    Cloud.record]

/-- A provider that answers every request: listings never fail, a block
already created in the VPC is refused as a conflict, and other creations
succeed and are named after the length of the log. -/
def EC2API.answering : EC2API where
  describeSubnetsFailure _ := none
  describeAvailabilityZonesFailure _ := none
  describeVpcsFailure _ _ := none
  describeSecurityGroupsFailure _ := none
  createSubnetReply s input :=
    if s.calls.any fun
      | .createSubnet earlier (.ok _) => earlier.vpcId == input.vpcId && earlier.cidrBlock == input.cidrBlock
      | _ => false
    then .error (.aws "InvalidSubnet.Conflict" "the block is in use")
    else .ok ("subnet-" ++ toString s.calls.length)
  createTagsFailure _ _ := none
  createSecurityGroupReply s _ := .ok ("sg-" ++ toString s.calls.length)
  authorizeSecurityGroupIngressFailure _ _ := none

theorem EC2API.lists_answering : EC2API.answering.Lists :=
  ⟨fun _ => rfl, fun _ => rfl, fun _ _ => rfl, fun _ => rfl⟩

/-- A cluster whose identifier and tags are read without error. -/
def sampleCluster : Cluster where
  clusterID := .ok "c1"
  securityGroupName := .ok "c1-security-group"
  userInfraTags := .ok none
  organizationTag := "org/"
  managedTag := ⟨"org/managed", "true"⟩
  tagDisplayName := "Name"
  subnetNameTagValue := "private-subnet"
  clusterOwnedTagKeyPrefix := "cluster/"

/-- Cluster-tagged subnets in two VPCs. -/
def twoVpcs : Cloud where
  subnets := [⟨"subnet-a", "vpc-a", "zone-a", [⟨"cluster/c1", "owned"⟩]⟩,
    ⟨"subnet-b", "vpc-b", "zone-b", [⟨"cluster/c1", "shared"⟩]⟩]
  availabilityZones := []
  vpcs := [⟨"vpc-a", .ipv4 10 0 0 0 16⟩, ⟨"vpc-b", .ipv4 10 1 0 0 16⟩]
  securityGroups := []
  calls := []

theorem getClusterVpc_two_vpcs :
    (twoVpcs.subnets.filter (clusterTagged sampleCluster "c1")).map (·.vpcId) = ["vpc-a", "vpc-b"] ∧
      ∃ s', getClusterVpc EC2API.answering sampleCluster twoVpcs = .ok ⟨"vpc-a", .ipv4 10 0 0 0 16⟩ s' :=
  ⟨by decide, getClusterVpc_first_tagged _ _ "c1" twoVpcs [] _ _ _ EC2API.lists_answering rfl rfl
    (by simp) (by decide) (by decide)⟩

end ClusterVpc
