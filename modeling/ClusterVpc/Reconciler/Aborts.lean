import ClusterVpc.Reconciler.Outcome
import ClusterVpc.Planner.Candidates

/-!
# How a pass ends

A pass that does not return identifiers ends in one of three ways, each with
one cause. It returns an error that names the step that failed: the lookups
wrap theirs, `createPrivateSubnet` wraps the provider's and the tagging's, and
the pass's own error is the empty list of identifiers. The listing of the VPC's
subnets never fails for want of subnets, since the VPC was found through one of
them. It panics on a nil subnet, which `createPrivateSubnet` returns only when
the provider has refused every candidate block of the VPC in a zone as a
conflict. Or the planner runs on, which it does only on a `/0` VPC block.
-/

namespace ClusterVpc

open Net Planner

/-! ## Errors by step -/

/-- Every abort of `m` is an error that `P` allows. -/
def Fails {α : Type} (P : GoError → Prop) (m : CloudM α) : Prop :=
  ∀ s e s', m s = .error e s' → ∃ err, e = .error err ∧ P err

namespace Fails

variable {α β : Type} {P Q : GoError → Prop}

theorem pure (a : α) : Fails P (Pure.pure a : CloudM α) :=
  fun _ _ _ run => nomatch run

theorem throw {err : GoError} (allowed : P err) : Fails P (MonadExcept.throw (.error err) : CloudM α) :=
  fun _ _ _ run => by cases run; exact ⟨err, rfl, allowed⟩

theorem bind {m : CloudM α} {f : α → CloudM β} (first : Fails P m) (rest : ∀ a, Fails P (f a)) :
    Fails P (m >>= f) := by
  intro s e s' run
  rw [bind_apply] at run
  split at run
  · exact rest _ _ _ _ run
  · cases run
    exact first _ _ _ ‹_›

theorem check (result : Except GoError α) {message : String} (wrapped : ∀ cause, P (.wrap cause message)) :
    Fails P (check result message) := by
  cases result
  exacts [.throw (wrapped _), .pure _]

theorem orReturn {result : Except GoError α} (allowed : ∀ err, result = .error err → P err) :
    Fails P (orReturn result) := by
  cases result
  exacts [.throw (allowed _ rfl), .pure _]

theorem wrapErr {m : CloudM α} {message : String} (errs : Fails Q m)
    (wrapped : ∀ cause, Q cause → P (.wrap cause message)) :
    Fails P (wrapErr m message) := by
  intro s e s' run
  unfold ClusterVpc.wrapErr at run
  cases result : m s with
  | ok a s'' => rw [result] at run; cases run
  | error e' s'' =>
    obtain ⟨err, rfl, allowed⟩ := errs _ _ _ result
    rw [result] at run
    cases run
    exact ⟨_, rfl, wrapped _ allowed⟩

end Fails

/-- The errors `getClusterVpc` returns, by the step that failed. -/
inductive VpcFailure : GoError → Prop
  | clusterID (cause : GoError) : VpcFailure (.wrap cause "error getting clusterID")
  | vpcId (cause : GoError) : VpcFailure (.wrap cause "error getting vpc id from associated subnets")
  | describeVpcs (cause : GoError) (vpcId : String) :
      VpcFailure (.wrap cause ("error getting vpc with id " ++ vpcId))
  | missing : VpcFailure (.new "error, no vpc found")
  | ambiguous : VpcFailure (.new "error, more than one vpc found associated with cluster subnets")

section Lookups

variable (ec2 : EC2API) (cluster : Cluster)

theorem fails_getClusterVpc : Fails VpcFailure (getClusterVpc ec2 cluster) := by
  have vpcId_fails : ∀ clusterID, Fails (fun _ => True) (getVPCIDByClusterSubnets ec2 cluster clusterID) :=
    fun clusterID => .bind (fun _ _ _ run => nomatch run) fun _ => .bind (.orReturn fun _ _ => trivial) fun _ => by
      split
      exacts [.pure _, .throw trivial]
  refine .bind (.check _ .clusterID) fun clusterID => .bind ((vpcId_fails clusterID).wrapErr fun c _ => .vpcId c)
    fun vpcId => .bind (fun _ _ _ run => nomatch run) fun vpcs =>
      .bind (.check _ (.describeVpcs · vpcId)) fun vpcs => ?_
  split
  exacts [.throw .missing, .pure _, .throw .ambiguous]

theorem fails_getAZs :
    Fails (fun err => ∃ cause, err = .wrap cause "error getting availability zones") (getAZs ec2) :=
  .bind (fun _ _ _ run => nomatch run) fun _ => .check _ fun cause => ⟨cause, rfl⟩

end Lookups

/-- Listing the subnets of a VPC that has one fails only when every listing of
the poll failed. -/
theorem getVPCSubnets_fails {ec2 : EC2API} {vpc : Vpc} {s s' : Cloud} {e : Abort}
    (has : ∃ sub ∈ s.subnets, sub.vpcId = vpc.vpcId) (failed : getVPCSubnets ec2 (some vpc) s = .error e s') :
    e = .error (.wrap .waitTimeout "error getting subnets") := by
  obtain ⟨failures, -, -, result_eq⟩ := pollSubnets_attempts ec2 pollAttempts s
  rw [getVPCSubnets, bind_apply, wrapErr] at failed
  cases polled : pollSubnets ec2 pollAttempts s with
  | error e₁ s₁ =>
    rw [polled, resultOf_error] at result_eq
    split at result_eq
    · cases result_eq
      rw [getSubnets, polled] at failed
      cases failed
      rfl
    · cases result_eq
  | ok subs s₁ =>
    rw [getSubnets, polled] at failed
    obtain ⟨sub, mem, same⟩ := has
    have listed := pollSubnets_ok polled
    subst listed
    have nonempty : s.subnets.filter (·.vpcId = vpc.vpcId) ≠ [] :=
      List.ne_nil_of_mem (List.mem_filter.mpr ⟨mem, by simpa using same⟩)
    simp only [nonempty, ↓reduceIte, pure_apply] at failed
    cases failed

/-! ## One private subnet -/

/-- The provider refused every candidate block of the VPC in one zone as a
conflict: the log holds those requests, in order, with their refusals. -/
def Exhausted (vpc : Vpc) (calls : List Call) : Prop :=
  ∃ zone subs conflicts, buildSubnetAddress vpc = .ok subs ∧ (∀ err ∈ conflicts, isConflict err) ∧
    conflicts.length = subs.length ∧ conflictCalls vpc zone subs conflicts <:+: calls

theorem Exhausted.mono {vpc : Vpc} {calls more : List Call} (exhausted : Exhausted vpc calls)
    (within : calls <:+: more) : Exhausted vpc more :=
  let ⟨zone, subs, conflicts, build, all_conflict, length_eq, logged⟩ := exhausted
  ⟨zone, subs, conflicts, build, all_conflict, length_eq, logged.trans within⟩

/-- The errors `createPrivateSubnet` returns, by the step that failed. -/
inductive CreateFailure (cluster : Cluster) : GoError → Prop
  /-- The planner failed. -/
  | build (cause : GoError) : CreateFailure cluster (.wrap cause "failed to build subnets")
  /-- `CreateSubnet` failed, not with a conflict. -/
  | create (cause : GoError) (refused : isConflict cause = false) :
      CreateFailure cluster (.wrap cause "error creating new subnet")
  /-- The default tags could not be computed, once the subnet existed. -/
  | tags (err : GoError) (failed : getDefaultSubnetTags cluster = .error err) : CreateFailure cluster err
  /-- `CreateTags` failed, once the subnet existed. -/
  | tag (cause : GoError) : CreateFailure cluster (.wrap cause "failed to tag subnet")

/-- How `createPrivateSubnet` may end, having sent `new`: with a nil subnet
only when every candidate conflicted, with an error of one of its steps, or
with a planner that runs on, on a `/0` block; never with a panic. -/
def CreateOutcome (cluster : Cluster) (vpc : Vpc) (new : List Call) : Except Abort (Option Subnet) → Prop
  | .ok (some _) => True
  | .ok none => Exhausted vpc new
  | .error (.error err) => CreateFailure cluster err
  | .error (.panic _) => False
  | .error .loops => ∃ a b c d, vpc.cidrBlock = .ipv4 a b c d 0

section Create

variable (ec2 : EC2API) (cluster : Cluster) (vpc : Vpc) (zone : String)

theorem createLoop_outcome {subs : List IPNet} (build : buildSubnetAddress vpc = .ok subs) (s : Cloud) :
    ∃ new, (stateOf (createLoop ec2 cluster vpc zone subs s)).calls = s.calls ++ new ∧
      CreateOutcome cluster vpc new (resultOf (createLoop ec2 cluster vpc zone subs s)) := by
  obtain ⟨conflicts, all_conflict, le, outcome⟩ := createLoop_spec ec2 cluster vpc zone subs s
  split at outcome
  · rename_i ended
    obtain ⟨calls_eq, result⟩ := outcome
    refine ⟨_, calls_eq, ?_⟩
    rw [result]
    exact ⟨zone, subs, conflicts, build, all_conflict, by have := List.drop_eq_nil_iff.mp ended; omega,
      List.infix_refl _⟩
  · rcases outcome with ⟨err, refused, calls_eq, result⟩ | ⟨subnetId, decided⟩
    · refine ⟨_, calls_eq.trans (List.append_assoc _ _ _), ?_⟩
      rw [result]
      exact CreateFailure.create err refused
    split at decided
    · rename_i err tags_failed
      obtain ⟨calls_eq, result⟩ := decided
      refine ⟨_, calls_eq.trans (List.append_assoc _ _ _), ?_⟩
      rw [result]
      exact CreateFailure.tags err tags_failed
    · obtain ⟨failure, calls_eq, result⟩ := decided
      refine ⟨_, calls_eq.trans (List.append_assoc _ _ _), ?_⟩
      rw [result]
      cases failure with
      | none => trivial
      | some err => exact CreateFailure.tag err

theorem createPrivateSubnet_outcome (s : Cloud) :
    ∃ new, (stateOf (createPrivateSubnet ec2 cluster vpc zone s)).calls = s.calls ++ new ∧
      CreateOutcome cluster vpc new (resultOf (createPrivateSubnet ec2 cluster vpc zone s)) := by
  rcases buildSubnetAddress_outcomes vpc with ⟨a, b, c, d, ones, pos, le, -, build⟩ | ⟨err, build⟩ |
    ⟨zero, build⟩
  · rw [createPrivateSubnet_eq build]
    exact createLoop_outcome ec2 cluster vpc zone build s
  · have failed : createPrivateSubnet ec2 cluster vpc zone s =
        .error (.error (.wrap err "failed to build subnets")) s := by
      simp [createPrivateSubnet, bind_apply, build, liftAbort, wrapErr]
    refine ⟨[], by rw [failed, stateOf_error, List.append_nil], ?_⟩
    rw [failed]
    exact CreateFailure.build err
  · have failed : createPrivateSubnet ec2 cluster vpc zone s = .error .loops s := by
      simp [createPrivateSubnet, bind_apply, build, liftAbort, wrapErr]
    refine ⟨[], by rw [failed, stateOf_error, List.append_nil], ?_⟩
    rw [failed]
    exact zero

end Create

/-! ## The zone loop -/

theorem privateSubnetExists_error {privSubs : List (Option Subnet)} {zone : AvailabilityZone} {e : Abort}
    (failed : privateSubnetExists privSubs zone = .error e) : e = .panic nilDereference ∧ none ∈ privSubs := by
  induction privSubs with
  | nil => cases failed
  | cons entry privSubs ih =>
    rcases entry with _ | sub
    · cases failed
      exact ⟨rfl, List.mem_cons_self _ _⟩
    · unfold privateSubnetExists at failed
      split at failed
      · cases failed
      · exact (ih failed).imp_right (List.mem_cons_of_mem _)

theorem subnetIds_error {privSubs : List (Option Subnet)} {e : Abort} (failed : subnetIds privSubs = .error e) :
    e = .panic nilDereference ∧ none ∈ privSubs := by
  induction privSubs with
  | nil => cases failed
  | cons entry privSubs ih =>
    rcases entry with _ | sub
    · cases failed
      exact ⟨rfl, List.mem_cons_self _ _⟩
    · cases rest : subnetIds privSubs with
      | error e' =>
        rw [subnetIds, rest] at failed
        cases failed
        exact (ih rest).imp_right (List.mem_cons_of_mem _)
      | ok ids =>
        rw [subnetIds, rest] at failed
        cases failed

/-- How the zone loop may end, when `nilCause` accounts for a nil entry. -/
def ZoneOutcome (cluster : Cluster) (vpc : Vpc) (nilCause : Prop) : Except Abort (List (Option Subnet)) → Prop
  | .ok privSubs => none ∈ privSubs → nilCause
  | .error (.error err) =>
    ∃ cause, err = .wrap cause "failed to created private subnet" ∧ CreateFailure cluster cause
  | .error (.panic reason) => reason = nilDereference ∧ nilCause
  | .error .loops => ∃ a b c d, vpc.cidrBlock = .ipv4 a b c d 0

theorem ZoneOutcome.mono {cluster : Cluster} {vpc : Vpc} {P Q : Prop} (imp : P → Q)
    {r : Except Abort (List (Option Subnet))} (outcome : ZoneOutcome cluster vpc P r) :
    ZoneOutcome cluster vpc Q r := by
  rcases r with (_ | _ | _) | privSubs
  · exact outcome
  · exact ⟨outcome.1, imp outcome.2⟩
  · exact outcome
  · exact fun mem => imp (outcome mem)

section ZoneLoop

variable (ec2 : EC2API) (cluster : Cluster) (vpc : Vpc)

/-- The zone loop ends with a nil entry, or panics on one, only when the list
it started from had one or the provider refused every candidate in a zone. -/
theorem reconcileZones_outcome (azs : List AvailabilityZone) (privSubs : List (Option Subnet)) (s : Cloud) :
    ∃ new, (stateOf (reconcileZones ec2 cluster vpc azs privSubs s)).calls = s.calls ++ new ∧
      ZoneOutcome cluster vpc (none ∈ privSubs ∨ Exhausted vpc new)
        (resultOf (reconcileZones ec2 cluster vpc azs privSubs s)) := by
  induction azs generalizing privSubs s with
  | nil => exact ⟨[], by simp [reconcileZones], fun mem => .inl mem⟩
  | cons az azs ih =>
    cases scan : privateSubnetExists privSubs az with
    | error e =>
      obtain ⟨rfl, nil_mem⟩ := privateSubnetExists_error scan
      rw [reconcileZones_scan_error scan]
      exact ⟨[], by simp, rfl, .inl nil_mem⟩
    | ok covered =>
      cases covered
      case true => rw [reconcileZones_covered scan]; exact ih privSubs s
      obtain ⟨made, made_eq, made_outcome⟩ := createPrivateSubnet_outcome ec2 cluster vpc az.zoneName s
      cases created : createPrivateSubnet ec2 cluster vpc az.zoneName s with
      | error e s₁ =>
        rw [created, stateOf_error] at made_eq
        rw [created, resultOf_error] at made_outcome
        rcases e with cause | reason | _
        · rw [reconcileZones_create_failed scan created]
          exact ⟨made, made_eq, cause, rfl, made_outcome⟩
        · exact made_outcome.elim
        · rw [reconcileZones_create_loops scan created]
          exact ⟨made, made_eq, made_outcome⟩
      | ok entry s₁ =>
        rw [created, stateOf_ok] at made_eq
        rw [created, resultOf_ok] at made_outcome
        obtain ⟨rest, rest_eq, rest_outcome⟩ := ih (privSubs ++ [entry]) s₁
        rw [reconcileZones_created scan created]
        refine ⟨made ++ rest, by rw [rest_eq, made_eq, List.append_assoc], rest_outcome.mono ?_⟩
        rintro (nil_mem | exhausted)
        · rcases List.mem_append.mp nil_mem with mem | mem
          · exact .inl mem
          · obtain rfl := List.mem_singleton.mp mem
            exact .inr ((made_outcome : Exhausted vpc made).mono (List.prefix_append _ _).isInfix)
        · exact .inr (exhausted.mono (List.suffix_append _ _).isInfix)

end ZoneLoop

/-! ## The pass -/

/-- The errors `GetPrivateSubnetIDS` returns, by the step that failed. -/
inductive PassFailure (cluster : Cluster) : GoError → Prop
  /-- `getClusterVpc` failed. -/
  | vpc (cause : GoError) (failed : VpcFailure cause) : PassFailure cluster (.wrap cause "error getting vpcs")
  /-- Every listing of the poll failed. -/
  | subnets : PassFailure cluster (.wrap (.wrap .waitTimeout "error getting subnets") "error getting vpc subnets")
  /-- The zone listing failed; `getAZs` and the pass both wrap its error. -/
  | zones (cause : GoError) :
      PassFailure cluster (.wrap (.wrap cause "error getting availability zones") "error getting availability zones")
  /-- `createPrivateSubnet` failed. -/
  | create (cause : GoError) (failed : CreateFailure cluster cause) :
      PassFailure cluster (.wrap cause "failed to created private subnet")
  /-- The loop ended with no subnet. -/
  | empty : PassFailure cluster (.new "failed to get list of private subnet ids")

/-- How a pass may end: with identifiers, with an error of one of its steps,
with a nil dereference that `nilCause` accounts for, or with a planner that
runs on, which `loopCause` accounts for. -/
def PassOutcome (cluster : Cluster) (nilCause loopCause : Prop) : Except Abort (List String) → Prop
  | .ok _ => True
  | .error (.error err) => PassFailure cluster err
  | .error (.panic reason) => reason = nilDereference ∧ nilCause
  | .error .loops => loopCause

section Pass

variable (ec2 : EC2API) (cluster : Cluster)

theorem getPrivateSubnetIDS_outcome (s : Cloud) :
    ∃ new, (stateOf (getPrivateSubnetIDS ec2 cluster s)).calls = s.calls ++ new ∧
      PassOutcome cluster (∃ vpc s₁, getClusterVpc ec2 cluster s = .ok vpc s₁ ∧ Exhausted vpc new)
        (∃ vpc s₁, getClusterVpc ec2 cluster s = .ok vpc s₁ ∧ ∃ a b c d, vpc.cidrBlock = .ipv4 a b c d 0)
        (resultOf (getPrivateSubnetIDS ec2 cluster s)) := by
  rw [getPrivateSubnetIDS]
  obtain ⟨r₁, -, ⟨e, failed⟩ | ⟨vpc, found⟩⟩ := (readOnly_getClusterVpc ec2 cluster).cases s
  · obtain ⟨cause, rfl, vpc_failed⟩ := fails_getClusterVpc ec2 cluster _ _ _ failed
    rw [bind_wrapErr_fail _ failed]
    exact ⟨r₁, Cloud.recordAll_calls _ _, PassFailure.vpc cause vpc_failed⟩
  rw [bind_wrapErr_ok _ found]
  obtain ⟨r₂, -, ⟨e, failed⟩ | ⟨subs, listed⟩⟩ :=
    (readOnly_getVPCSubnets ec2 (some vpc)).cases (s.recordAll r₁)
  · obtain rfl := getVPCSubnets_fails (by simpa using (getClusterVpc_mem found).2) failed
    rw [bind_wrapErr_fail _ failed]
    exact ⟨r₁ ++ r₂, by simp, PassFailure.subnets⟩
  rw [bind_wrapErr_ok _ listed]
  obtain ⟨r₃, -, ⟨e, failed⟩ | ⟨azs, zones⟩⟩ :=
    (readOnly_getAZs ec2).cases ((s.recordAll r₁).recordAll r₂)
  · obtain ⟨_, rfl, cause, rfl⟩ := fails_getAZs ec2 _ _ _ failed
    rw [bind_wrapErr_fail _ failed]
    exact ⟨r₁ ++ r₂ ++ r₃, by simp, PassFailure.zones cause⟩
  rw [bind_wrapErr_ok _ zones, bind_apply]
  obtain ⟨made, made_eq, looped⟩ := reconcileZones_outcome ec2 cluster vpc azs ((privateSubnets subs).map some)
    (((s.recordAll r₁).recordAll r₂).recordAll r₃)
  have exhausted : none ∈ (privateSubnets subs).map some ∨ Exhausted vpc made →
      ∃ vpc' s₁, getClusterVpc ec2 cluster s = .ok vpc' s₁ ∧ Exhausted vpc' (r₁ ++ r₂ ++ r₃ ++ made) :=
    fun cause => ⟨vpc, _, found, ((cause.resolve_left (by simp)).mono (List.suffix_append _ _).isInfix)⟩
  cases loop : reconcileZones ec2 cluster vpc azs ((privateSubnets subs).map some)
    (((s.recordAll r₁).recordAll r₂).recordAll r₃) with
  | error e s₄ =>
    rw [loop, stateOf_error] at made_eq
    rw [loop, resultOf_error] at looped
    refine ⟨r₁ ++ r₂ ++ r₃ ++ made, by simp [made_eq], ?_⟩
    rcases e with err | reason | _
    · obtain ⟨cause, rfl, create_failed⟩ := looped
      exact PassFailure.create cause create_failed
    · exact ⟨looped.1, exhausted looped.2⟩
    · exact ⟨vpc, _, found, looped⟩
  | ok privSubs s₄ =>
    rw [loop, stateOf_ok] at made_eq
    rw [loop, resultOf_ok] at looped
    have calls_eq : s₄.calls = s.calls ++ (r₁ ++ r₂ ++ r₃ ++ made) := by simp [made_eq]
    cases ids : subnetIds privSubs with
    | error e =>
      obtain ⟨rfl, nil_mem⟩ := subnetIds_error ids
      simp only [bind_apply, liftAbort, ids, throw_apply, stateOf_error, resultOf_error]
      exact ⟨_, calls_eq, rfl, exhausted (looped nil_mem)⟩
    | ok subIDs =>
      by_cases empty : subIDs = []
      · simp only [bind_apply, liftAbort, ids, pure_apply, empty, ↓reduceIte, throw_apply, stateOf_error,
          resultOf_error]
        exact ⟨_, calls_eq, PassFailure.empty⟩
      · simp only [bind_apply, liftAbort, ids, pure_apply, empty, ↓reduceIte, stateOf_ok, resultOf_ok]
        exact ⟨_, calls_eq, trivial⟩

/-- Every error a pass returns names the step that failed: the VPC lookup,
with the lookup's own step inside; the subnet listing, only when every listing
of its poll failed; the zone listing; a step of `createPrivateSubnet`; or the
empty list of identifiers. The listing's error for a VPC without subnets never
reaches the caller. -/
theorem getPrivateSubnetIDS_fails (s : Cloud) (err : GoError)
    (failed : resultOf (getPrivateSubnetIDS ec2 cluster s) = .error (.error err)) : PassFailure cluster err := by
  obtain ⟨new, -, outcome⟩ := getPrivateSubnetIDS_outcome ec2 cluster s
  rw [failed] at outcome
  exact outcome

end Pass

/-- A cluster whose identifier cannot be read: the pass stops at the VPC
lookup. -/
theorem getPrivateSubnetIDS_fails_no_cluster :
    resultOf (getPrivateSubnetIDS EC2API.answering { sampleCluster with clusterID := .error (.new "no cluster") }
        smallVpc) =
        .error (.error (.wrap (.wrap (.new "no cluster") "error getting clusterID") "error getting vpcs")) ∧
      PassFailure { sampleCluster with clusterID := .error (.new "no cluster") }
        (.wrap (.wrap (.new "no cluster") "error getting clusterID") "error getting vpcs") :=
  ⟨rfl, getPrivateSubnetIDS_fails EC2API.answering { sampleCluster with clusterID := .error (.new "no cluster") }
    smallVpc _ rfl⟩

/-- A pass panics only on the nil subnet `createPrivateSubnet` returns after
the provider refused every candidate block of the VPC the pass found, in one
zone, as a conflict; and its planner runs on only on a `/0` VPC block. -/
theorem getPrivateSubnetIDS_aborts (ec2 : EC2API) (cluster : Cluster) (s : Cloud) :
    (∀ reason, resultOf (getPrivateSubnetIDS ec2 cluster s) = .error (.panic reason) →
      reason = nilDereference ∧ ∃ vpc s₁, getClusterVpc ec2 cluster s = .ok vpc s₁ ∧
        Exhausted vpc ((stateOf (getPrivateSubnetIDS ec2 cluster s)).calls.drop s.calls.length)) ∧
    (resultOf (getPrivateSubnetIDS ec2 cluster s) = .error .loops →
      ∃ vpc s₁, getClusterVpc ec2 cluster s = .ok vpc s₁ ∧ ∃ a b c d, vpc.cidrBlock = .ipv4 a b c d 0) := by
  obtain ⟨new, calls_eq, outcome⟩ := getPrivateSubnetIDS_outcome ec2 cluster s
  rw [calls_eq, List.drop_left]
  refine ⟨fun reason panicked => ?_, fun looped => ?_⟩
  · rw [panicked] at outcome
    exact outcome
  · rw [looped] at outcome
    exact outcome

/-! ## The empty list of identifiers -/

/-- The zone loop only appends: it ends with entries when it started with some
or had a zone to visit. -/
theorem reconcileZones_ne_nil {ec2 : EC2API} {cluster : Cluster} {vpc : Vpc} {azs : List AvailabilityZone}
    {privSubs privSubs' : List (Option Subnet)} {s s' : Cloud}
    (run : reconcileZones ec2 cluster vpc azs privSubs s = .ok privSubs' s')
    (nonempty : privSubs ≠ [] ∨ azs ≠ []) :
    privSubs' ≠ [] := by
  induction azs generalizing privSubs s with
  | nil =>
    cases run
    exact nonempty.resolve_right (not_not.mpr rfl)
  | cons az azs ih =>
    cases scan : privateSubnetExists privSubs az with
    | error e => rw [reconcileZones_scan_error scan] at run; cases run
    | ok covered =>
      cases covered
      case true =>
        rw [reconcileZones_covered scan] at run
        exact ih run (.inl fun empty => by simp [empty, privateSubnetExists] at scan)
      cases created : createPrivateSubnet ec2 cluster vpc az.zoneName s with
      | error e s₁ =>
        obtain ⟨e', failed⟩ := reconcileZones_create_error azs scan created
        rw [failed] at run
        cases run
      | ok entry s₁ =>
        rw [reconcileZones_created scan created] at run
        exact ih run (.inl (List.append_ne_nil_of_right_ne_nil _ (List.cons_ne_nil _ _)))

theorem subnetIds_eq_nil {privSubs : List (Option Subnet)} (collected : subnetIds privSubs = .ok []) :
    privSubs = [] := by
  rcases privSubs with _ | ⟨_ | sub, privSubs⟩
  · rfl
  · cases collected
  · cases rest : subnetIds privSubs <;> rw [subnetIds, rest] at collected <;> cases collected

/-- Once the lookups answer, a pass returns its own error, the empty list of
identifiers, exactly when the region lists no zone and no subnet of the VPC
carries the private-subnet marker. -/
theorem getPrivateSubnetIDS_empty_iff (ec2 : EC2API) (cluster : Cluster) (s s₁ : Cloud) (vpc : Vpc)
    (lists : ec2.Lists) (found : getClusterVpc ec2 cluster s = .ok vpc s₁) :
    resultOf (getPrivateSubnetIDS ec2 cluster s) = .error (.error (.new "failed to get list of private subnet ids")) ↔
      s.availabilityZones = [] ∧ privateSubnets (s.subnets.filter (·.vpcId = vpc.vpcId)) = [] := by
  obtain ⟨reads, -, rfl⟩ := (readOnly_getClusterVpc ec2 cluster).eq_recordAll found
  rw [getPrivateSubnetIDS_eq found (getVPCSubnets_lists lists (by simpa using (getClusterVpc_mem found).2))
    (getAZs_lists lists)]
  simp only [Cloud.record_eq, Cloud.recordAll_recordAll, Cloud.recordAll_availabilityZones, Cloud.recordAll_subnets,
    List.append_assoc, List.singleton_append]
  constructor
  · intro failed
    obtain ⟨made, -, looped⟩ := reconcileZones_outcome ec2 cluster vpc s.availabilityZones
      ((privateSubnets (s.subnets.filter (·.vpcId = vpc.vpcId))).map some)
      (s.recordAll (reads ++ [.describeSubnets none, .describeAvailabilityZones none]))
    rw [bind_apply] at failed
    cases loop : reconcileZones ec2 cluster vpc s.availabilityZones
      ((privateSubnets (s.subnets.filter (·.vpcId = vpc.vpcId))).map some)
      (s.recordAll (reads ++ [.describeSubnets none, .describeAvailabilityZones none])) with
    | error e s₄ =>
      rw [loop, resultOf_error] at failed looped
      cases failed
      obtain ⟨cause, wrong, -⟩ := looped
      cases wrong
    | ok privSubs s₄ =>
      rw [loop] at failed
      cases ids : subnetIds privSubs with
      | error e =>
        obtain ⟨rfl, -⟩ := subnetIds_error ids
        simp [bind_apply, liftAbort, ids] at failed
      | ok subIDs =>
        by_cases empty : subIDs = []
        · subst empty
          obtain rfl := subnetIds_eq_nil ids
          constructor <;> by_contra nonempty
          · exact reconcileZones_ne_nil loop (.inr nonempty) rfl
          · exact reconcileZones_ne_nil loop (.inl (by simpa using nonempty)) rfl
        · simp [bind_apply, liftAbort, ids, empty] at failed
  · rintro ⟨no_zones, no_private⟩
    simp [no_zones, no_private, reconcileZones, bind_apply, liftAbort, subnetIds]

/-- A VPC with a cluster-owned subnet in a region that lists no zone. -/
theorem getPrivateSubnetIDS_empty_iff_zoneless :
    resultOf (getPrivateSubnetIDS EC2API.answering sampleCluster { unmarkedVpc with availabilityZones := [] }) =
        .error (.error (.new "failed to get list of private subnet ids")) ↔
      ({ unmarkedVpc with availabilityZones := [] } : Cloud).availabilityZones = [] ∧
        privateSubnets (({ unmarkedVpc with availabilityZones := [] } : Cloud).subnets.filter
          (·.vpcId = "vpc-a")) = [] :=
  getPrivateSubnetIDS_empty_iff EC2API.answering sampleCluster _ _ ⟨"vpc-a", .ipv4 10 0 0 0 26⟩
    EC2API.lists_answering rfl

end ClusterVpc
