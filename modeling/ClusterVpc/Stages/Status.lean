import Mathlib.Data.List.Perm.Basic

/-!
# The end-to-end check of the installation's stages

`TestIntegreatlyStagesStatus` polls the RHMI resource every fifteen seconds,
without end, until a call of its condition returns true or an error. A call
ranges over the stages the installation type expects and, for each, over the
products it expects; a missing stage or product, or a status that is not
completed, in progress or empty, is reported to the test as an error, and a
status in progress is logged. The call returns the value `done` was last given: `true`
after an error, `false` after a status in progress, and `true` when nothing
was found wrong.

Two things the code leaves to the runtime and to other packages are explicit
here. Go ranges over a map in an order it does not specify and varies from one
loop to the next; a `Scheduler` gives that order for every map, and every
statement below holds for every scheduler unless it says otherwise. The RHMI
resource is what `GetRHMI` returned, and `IsRHOAMMultitenant` is a parameter.
-/

namespace ClusterVpc.Stages

/-! ## Maps and the order of `range` -/

/-- A Go map: its entries, each key once. The order of the list is not the
order in which `range` visits the map. -/
structure GoMap (κ ν : Type) where
  entries : List (κ × ν)
  keys_nodup : (entries.map Prod.fst).Nodup

/-- `value, ok := m[key]`: the value under the key, if the map has one. -/
def GoMap.get? {κ ν : Type} [DecidableEq κ] (m : GoMap κ ν) (key : κ) : Option ν :=
  (m.entries.find? (·.1 = key)).map Prod.snd

/-- An order in which `range` visits a map: every entry once. -/
structure RangeOrder {κ ν : Type} (m : GoMap κ ν) where
  entries : List (κ × ν)
  perm : entries.Perm m.entries

/-- The order the runtime picks for each map of expected stages it ranges over. -/
abbrev Scheduler := (m : GoMap String (List String)) → RangeOrder m

/-! ## The resource and the expected stages -/

/-- `v1alpha1.StatusPhase`. -/
abbrev StatusPhase := String

/-- `v1alpha1.RHMIProductStatus`: the code reads its phase. -/
structure RHMIProductStatus where
  phase : StatusPhase

/-- `v1alpha1.RHMIStageStatus`: the code reads its name, phase and products. -/
structure RHMIStageStatus where
  name : String
  phase : StatusPhase
  products : GoMap String RHMIProductStatus

/-- `v1alpha1.RHMI`: the installation type of its spec and the stages of its
status. -/
structure RHMI where
  type : String
  stages : GoMap String RHMIStageStatus

/-- `managedApiExpectedStageProducts`. -/
def managedApiExpectedStageProducts : GoMap String (List String) :=
  ⟨[("installation", ["rhsso", "cloud-resources", "observability", "rhssouser", "3scale", "marin3r", "grafana"])],
    by decide⟩

/-- `mtManagedApiExpectedStageProducts`. -/
def mtManagedApiExpectedStageProducts : GoMap String (List String) :=
  ⟨[("bootstrap", []),
      ("installation", ["rhsso", "cloud-resources", "observability", "3scale", "marin3r", "grafana"])],
    by decide⟩

/-- `getExpectedStageProducts`; `isRHOAMMultitenant` is
`integreatlyv1alpha1.IsRHOAMMultitenant`. -/
def getExpectedStageProducts (isRHOAMMultitenant : String → Bool) (installType : String) :
    GoMap String (List String) :=
  if isRHOAMMultitenant installType then mtManagedApiExpectedStageProducts else managedApiExpectedStageProducts

/-- `checkStatus`: the empty text for a completed status, the status itself
otherwise. -/
def checkStatus (status : StatusPhase) : String :=
  if status = "completed" then "" else status

/-- `checkStageStatus`. -/
def checkStageStatus (stage : RHMIStageStatus) : String :=
  checkStatus stage.phase

/-- `checkProductStatus`. -/
def checkProductStatus (product : RHMIProductStatus) : String :=
  checkStatus product.phase

/-- `retryStatus`. -/
def retryStatus (status : String) : Bool :=
  status = "in progress"

/-! ## One call of the condition -/

/-- What a call tells the test. -/
inductive Report
  /-- `t.Errorf`, which marks the test failed. -/
  | error (message : String)
  /-- `t.Logf`. -/
  | log (message : String)
deriving DecidableEq, Repr

/-- Whether a report marks the test failed. -/
def Report.isError : Report → Bool
  | .error _ => true
  | .log _ => false

/-- What a call has done so far: the value of `done` and its reports. -/
structure Round where
  done : Bool
  reports : List Report
deriving DecidableEq, Repr

/-- `t.Errorf(failing)` and then `done = true`. -/
def Round.fail (round : Round) (failing : String) : Round :=
  ⟨true, round.reports ++ [.error failing]⟩

/-- The test `if status != ""` the loops make on a stage and on each product: a
status in progress is logged and sets `done = false`, another one is an error. -/
def Round.check (round : Round) (status retrying failing : String) : Round :=
  if status ≠ "" then
    if retryStatus status then ⟨false, round.reports ++ [.log retrying]⟩ else round.fail failing
  else round

/-- One product of the inner loop. -/
def checkProduct (stageName : String) (stage : RHMIStageStatus) (round : Round) (productName : String) : Round :=
  match stage.products.get? productName with
  | none => round.fail ("Product " ++ productName ++ " not found in stage " ++ stageName)
  | some product =>
    round.check (checkProductStatus product)
      ("Status for product " ++ productName ++ " in stage " ++ stageName ++ " in progress. Retrying...")
      ("Error: Product " ++ productName ++ " status failed. It's current status is " ++ checkProductStatus product)

/-- One stage of the outer loop. -/
def checkStage (stages : GoMap String RHMIStageStatus) (round : Round) (entry : String × List String) : Round :=
  match stages.get? entry.1 with
  | none => round.fail ("Error checking stage " ++ entry.1 ++ ". Not found")
  | some stage =>
    entry.2.foldl (checkProduct entry.1 stage)
      (round.check (checkStageStatus stage) ("Status for stage " ++ entry.1 ++ " in progress. Retrying...")
        ("Error: Stage " ++ stage.name ++ " failed. It's current status is " ++ checkStageStatus stage))

/-- The loops of a call on the resource `GetRHMI` returned, in the scheduler's
order, from `done := true`. -/
def stagesRound (isRHOAMMultitenant : String → Bool) (scheduler : Scheduler) (rhmi : RHMI) : Round :=
  (scheduler (getExpectedStageProducts isRHOAMMultitenant rhmi.type)).entries.foldl (checkStage rhmi.stages)
    ⟨true, []⟩

/-- The condition `TestIntegreatlyStagesStatus` polls: an error of `GetRHMI`
ends the poll with that error, wrapped; otherwise the loops run. -/
def stagesCondition (isRHOAMMultitenant : String → Bool) (scheduler : Scheduler) (found : Except String RHMI) :
    Except String Round :=
  match found with
  | .error err => .error ("error getting RHMI CR: " ++ err)
  | .ok rhmi => .ok (stagesRound isRHOAMMultitenant scheduler rhmi)

/-! ## The poll -/

/-- What the test has done: its reports, and what the poll returned, if it
has returned (`some none` is a nil error). -/
structure Run where
  reports : List Report
  returned : Option (Option String)
deriving DecidableEq, Repr

/-- `wait.PollImmediateInfinite` over the calls of the condition it gets to
make, one at once and then one every fifteen seconds: it returns at the first
call that answers true or an error. When the calls run out it has not
returned. -/
def pollImmediateInfinite {α : Type} (condition : α → Except String Round) : List α → List Report → Run
  | [], reports => ⟨reports, none⟩
  | call :: calls, reports =>
    match condition call with
    | .error err => ⟨reports, some (some err)⟩
    | .ok round =>
      if round.done then ⟨reports ++ round.reports, some none⟩
      else pollImmediateInfinite condition calls (reports ++ round.reports)

/-- `TestIntegreatlyStagesStatus`, over what `GetRHMI` returns at each call of
the condition and the order the runtime picks then; an error of the poll is
reported with `t.Error`. -/
def testIntegreatlyStagesStatus (isRHOAMMultitenant : String → Bool)
    (observations : List (Scheduler × Except String RHMI)) : Run :=
  let run := pollImmediateInfinite (fun observation => stagesCondition isRHOAMMultitenant observation.1 observation.2)
    observations []
  match run.returned with
  | some (some err) => ⟨run.reports ++ [.error err], run.returned⟩
  | _ => run

end ClusterVpc.Stages
