import ClusterVpc.Stages.Status

/-!
# What a call of the condition decides

Each stage and each product a call visits gets a verdict: it passes when its
status is completed or empty, retries when it is in progress, and fails when it
is missing or has any other status. A call is the fold of its checks, in the
order it makes them, over `done` and the reports. So the call answers true
unless the last check that does not pass is a retry, and it reports one error
for each failing check. Neither depends on the order except through which
check comes last: a call that meets a stage in progress and a missing stage
answers according to the order the runtime picked.
-/

namespace ClusterVpc.Stages

/-! ## Checks and verdicts -/

/-- How a call judges a stage or a product. -/
inductive Verdict
  | passes
  | retries
  | fails
deriving DecidableEq, Repr

/-- The verdict on a status as `checkStatus` returns it. -/
def verdictOf (status : String) : Verdict :=
  if status = "" then .passes else if retryStatus status then .retries else .fails

/-- What a verdict leaves `done` at. -/
def Verdict.update : Verdict → Bool → Bool
  | .passes, done => done
  | .retries, _ => false
  | .fails, _ => true

/-- One check of a call: its verdict, and the texts it logs while retrying and
reports when failing. -/
structure Check where
  verdict : Verdict
  retrying : String
  failing : String

/-- What one check does to the call. -/
def Round.record (round : Round) (check : Check) : Round :=
  match check.verdict with
  | .passes => round
  | .retries => ⟨false, round.reports ++ [.log check.retrying]⟩
  | .fails => round.fail check.failing

/-- The check of one product of a stage. -/
def productCheck (stageName : String) (stage : RHMIStageStatus) (productName : String) : Check :=
  match stage.products.get? productName with
  | none => ⟨.fails, "", "Product " ++ productName ++ " not found in stage " ++ stageName⟩
  | some product =>
    ⟨verdictOf (checkProductStatus product),
      "Status for product " ++ productName ++ " in stage " ++ stageName ++ " in progress. Retrying...",
      "Error: Product " ++ productName ++ " status failed. It's current status is " ++ checkProductStatus product⟩

/-- The checks a call makes on one stage, in order. -/
def stageChecks (stages : GoMap String RHMIStageStatus) (entry : String × List String) : List Check :=
  match stages.get? entry.1 with
  | none => [⟨.fails, "", "Error checking stage " ++ entry.1 ++ ". Not found"⟩]
  | some stage =>
    ⟨verdictOf (checkStageStatus stage), "Status for stage " ++ entry.1 ++ " in progress. Retrying...",
      "Error: Stage " ++ stage.name ++ " failed. It's current status is " ++ checkStageStatus stage⟩ ::
      entry.2.map (productCheck entry.1 stage)

/-- The checks of a call, stage after stage in the scheduler's order. -/
def roundChecks (isRHOAMMultitenant : String → Bool) (scheduler : Scheduler) (rhmi : RHMI) : List Check :=
  (scheduler (getExpectedStageProducts isRHOAMMultitenant rhmi.type)).entries.flatMap (stageChecks rhmi.stages)

/-- The verdicts of a call, in order. -/
def roundVerdicts (isRHOAMMultitenant : String → Bool) (scheduler : Scheduler) (rhmi : RHMI) : List Verdict :=
  (roundChecks isRHOAMMultitenant scheduler rhmi).map Check.verdict

/-- The last verdict that is not a pass, if there is one. -/
def lastWord (verdicts : List Verdict) : Option Verdict :=
  (verdicts.filter (· ≠ .passes)).getLast?

/-! ## The loops are the fold of their checks -/

theorem Round.check_eq_record (round : Round) (status retrying failing : String) :
    round.check status retrying failing = round.record ⟨verdictOf status, retrying, failing⟩ := by
  unfold Round.check Round.record verdictOf
  by_cases empty : status = ""
  · simp [empty]
  · by_cases retry : retryStatus status <;> simp [empty, retry]

theorem checkProduct_eq_record (stageName : String) (stage : RHMIStageStatus) (round : Round)
    (productName : String) :
    checkProduct stageName stage round productName = round.record (productCheck stageName stage productName) := by
  unfold checkProduct productCheck
  cases stage.products.get? productName
  · rfl
  · exact Round.check_eq_record _ _ _ _

theorem checkProduct_eq (stageName : String) (stage : RHMIStageStatus) :
    checkProduct stageName stage = fun round productName => round.record (productCheck stageName stage productName) :=
  funext fun round => funext fun productName => checkProduct_eq_record stageName stage round productName

theorem checkStage_eq_fold (stages : GoMap String RHMIStageStatus) (round : Round) (entry : String × List String) :
    checkStage stages round entry = (stageChecks stages entry).foldl Round.record round := by
  unfold checkStage stageChecks
  cases stages.get? entry.1
  · rfl
  · dsimp only
    rw [List.foldl_cons, List.foldl_map, Round.check_eq_record, checkProduct_eq]

theorem foldl_checkStage (stages : GoMap String RHMIStageStatus) (entries : List (String × List String))
    (round : Round) :
    entries.foldl (checkStage stages) round = (entries.flatMap (stageChecks stages)).foldl Round.record round := by
  induction entries generalizing round with
  | nil => rfl
  | cons entry entries ih => rw [List.foldl_cons, ih, checkStage_eq_fold, List.flatMap_cons, List.foldl_append]

/-- A call is the fold of its checks. -/
theorem stagesRound_eq_fold (isRHOAMMultitenant : String → Bool) (scheduler : Scheduler) (rhmi : RHMI) :
    stagesRound isRHOAMMultitenant scheduler rhmi =
      (roundChecks isRHOAMMultitenant scheduler rhmi).foldl Round.record ⟨true, []⟩ :=
  foldl_checkStage _ _ _

/-! ## The fold of checks -/

theorem Verdict.update_of_ne_passes {verdict : Verdict} (decisive : verdict ≠ .passes) (done done' : Bool) :
    verdict.update done = verdict.update done' := by
  cases verdict
  exacts [(decisive rfl).elim, rfl, rfl]

theorem lastWord_append (verdicts more : List Verdict) :
    lastWord (verdicts ++ more) = (lastWord more).or (lastWord verdicts) := by
  simp only [lastWord, List.filter_append, List.getLast?_append]

theorem lastWord_ne_passes {verdicts : List Verdict} : lastWord verdicts ≠ some .passes := fun last => by
  have mem := List.mem_of_getLast?_eq_some last
  simp at mem

theorem mem_of_lastWord {verdicts : List Verdict} {verdict : Verdict} (last : lastWord verdicts = some verdict) :
    verdict ∈ verdicts :=
  (List.mem_filter.mp (List.mem_of_getLast?_eq_some last)).1

theorem lastWord_eq_none {verdicts : List Verdict} :
    lastWord verdicts = none ↔ ∀ verdict ∈ verdicts, verdict = .passes := by
  simp [lastWord, List.filter_eq_nil_iff]

/-- `done` ends as the last verdict that is not a pass leaves it; with none, as
it started. -/
theorem foldl_record_done (checks : List Check) (round : Round) :
    (checks.foldl Round.record round).done =
      match lastWord (checks.map Check.verdict) with
      | none => round.done
      | some verdict => verdict.update round.done := by
  induction checks using List.reverseRecOn with
  | nil => rfl
  | append_singleton checks check ih =>
    rw [List.foldl_append, List.foldl_cons, List.foldl_nil, List.map_append, lastWord_append]
    have step : ((checks.foldl Round.record round).record check).done =
        check.verdict.update (checks.foldl Round.record round).done := by
      unfold Round.record
      cases check.verdict <;> rfl
    rw [step, ih]
    by_cases decisive : check.verdict = .passes
    · simp only [List.map_cons, List.map_nil, lastWord, decisive, ne_eq, not_true_eq_false, decide_False,
        List.filter_cons_of_neg, List.filter_nil, List.getLast?_nil, Option.none_or]
      rfl
    · simp only [lastWord, List.map_cons, List.map_nil, List.filter_singleton, ne_eq, decisive, not_false_eq_true,
        decide_True, cond_true, List.getLast?_singleton, Option.or_some]
      split <;> exact Verdict.update_of_ne_passes decisive _ _

/-- Every failing check, and only a failing one, reports an error. -/
theorem foldl_record_errors (checks : List Check) (round : Round) :
    (checks.foldl Round.record round).reports.countP Report.isError =
      round.reports.countP Report.isError + (checks.map Check.verdict).count .fails := by
  induction checks generalizing round with
  | nil => rfl
  | cons check checks ih =>
    rw [List.foldl_cons, ih, List.map_cons, List.count_cons]
    unfold Round.record Round.fail
    cases check.verdict with
    | passes => simp
    | retries => simp [Report.isError, List.countP_append]
    | fails =>
      simp [Report.isError, List.countP_append]
      omega

/-! ## What a call answers -/

section Call

variable (isRHOAMMultitenant : String → Bool) (scheduler : Scheduler) (rhmi : RHMI)

theorem stagesRound_done :
    (stagesRound isRHOAMMultitenant scheduler rhmi).done =
      decide (lastWord (roundVerdicts isRHOAMMultitenant scheduler rhmi) ≠ some .retries) := by
  rw [stagesRound_eq_fold, foldl_record_done, roundVerdicts]
  split
  · rename_i last
    simp [last]
  · rename_i verdict last
    rw [last]
    cases verdict <;> rfl

theorem stagesRound_errors :
    (stagesRound isRHOAMMultitenant scheduler rhmi).reports.countP Report.isError =
      (roundVerdicts isRHOAMMultitenant scheduler rhmi).count .fails := by
  rw [stagesRound_eq_fold, foldl_record_errors, roundVerdicts]
  simp

/-- A call answers true unless the last check that does not pass, in the order
the runtime picked, is of a stage or product in progress; and it reports one
error for each failing check. -/
theorem stagesRound_settles :
    (stagesRound isRHOAMMultitenant scheduler rhmi).done =
        decide (lastWord (roundVerdicts isRHOAMMultitenant scheduler rhmi) ≠ some .retries) ∧
      (stagesRound isRHOAMMultitenant scheduler rhmi).reports.countP Report.isError =
        (roundVerdicts isRHOAMMultitenant scheduler rhmi).count .fails :=
  ⟨stagesRound_done isRHOAMMultitenant scheduler rhmi, stagesRound_errors isRHOAMMultitenant scheduler rhmi⟩

/-- A call reports no error exactly when none of its checks fails. -/
theorem stagesRound_no_errors_iff :
    (∀ message, Report.error message ∉ (stagesRound isRHOAMMultitenant scheduler rhmi).reports) ↔
      .fails ∉ roundVerdicts isRHOAMMultitenant scheduler rhmi := by
  rw [← List.count_eq_zero, ← stagesRound_errors, List.countP_eq_zero]
  refine ⟨fun none_error report mem => ?_, fun none_error message mem => by
    simpa [Report.isError] using none_error _ mem⟩
  cases report with
  | error message => exact absurd mem (none_error message)
  | log message => simp [Report.isError]

/-- A call answers true without reporting an error exactly when every check
passes. -/
theorem stagesRound_clean_iff :
    ((stagesRound isRHOAMMultitenant scheduler rhmi).done = true ∧
        ∀ message, Report.error message ∉ (stagesRound isRHOAMMultitenant scheduler rhmi).reports) ↔
      ∀ verdict ∈ roundVerdicts isRHOAMMultitenant scheduler rhmi, verdict = .passes := by
  rw [stagesRound_done, stagesRound_no_errors_iff, decide_eq_true_iff, ← lastWord_eq_none]
  constructor
  · rintro ⟨not_retry, not_fail⟩
    cases last : lastWord (roundVerdicts isRHOAMMultitenant scheduler rhmi) with
    | none => rfl
    | some verdict =>
      cases verdict
      · exact absurd last lastWord_ne_passes
      · exact absurd last not_retry
      · exact absurd (mem_of_lastWord last) not_fail
  · intro none_left
    exact ⟨by simp [none_left], fun mem => nomatch lastWord_eq_none.mp none_left _ mem⟩

end Call

/-! ## When a call passes -/

/-- Every stage the installation type expects is in the resource with a
completed or empty status, and so is every product the type expects of it. -/
def ExpectedComplete (isRHOAMMultitenant : String → Bool) (rhmi : RHMI) : Prop :=
  ∀ entry ∈ (getExpectedStageProducts isRHOAMMultitenant rhmi.type).entries,
    ∃ stage, rhmi.stages.get? entry.1 = some stage ∧ (stage.phase = "completed" ∨ stage.phase = "") ∧
      ∀ productName ∈ entry.2, ∃ product, stage.products.get? productName = some product ∧
        (product.phase = "completed" ∨ product.phase = "")

theorem verdictOf_checkStatus (phase : StatusPhase) :
    verdictOf (checkStatus phase) = .passes ↔ phase = "completed" ∨ phase = "" := by
  unfold verdictOf checkStatus
  by_cases completed : phase = "completed"
  · simp [completed]
  · by_cases empty : phase = ""
    · simp [empty]
    · simp only [completed, empty, ↓reduceIte, false_or]
      split <;> simp

theorem productCheck_passes (stageName : String) (stage : RHMIStageStatus) (productName : String) :
    (productCheck stageName stage productName).verdict = .passes ↔
      ∃ product, stage.products.get? productName = some product ∧
        (product.phase = "completed" ∨ product.phase = "") := by
  unfold productCheck
  cases stage.products.get? productName with
  | none => simp
  | some product => simpa [checkProductStatus] using verdictOf_checkStatus product.phase

theorem stageChecks_pass (stages : GoMap String RHMIStageStatus) (entry : String × List String) :
    (∀ check ∈ stageChecks stages entry, check.verdict = .passes) ↔
      ∃ stage, stages.get? entry.1 = some stage ∧ (stage.phase = "completed" ∨ stage.phase = "") ∧
        ∀ productName ∈ entry.2, ∃ product, stage.products.get? productName = some product ∧
          (product.phase = "completed" ∨ product.phase = "") := by
  unfold stageChecks
  cases stages.get? entry.1 with
  | none => simp
  | some stage =>
    simp only [List.mem_cons, List.mem_map, forall_eq_or_imp, forall_exists_index, and_imp,
      forall_apply_eq_imp_iff₂, Option.some.injEq, exists_eq_left', productCheck_passes, checkStageStatus,
      verdictOf_checkStatus]

theorem roundVerdicts_pass_iff (isRHOAMMultitenant : String → Bool) (scheduler : Scheduler) (rhmi : RHMI) :
    (∀ verdict ∈ roundVerdicts isRHOAMMultitenant scheduler rhmi, verdict = .passes) ↔
      ExpectedComplete isRHOAMMultitenant rhmi := by
  simp only [roundVerdicts, roundChecks, List.map_flatMap, List.mem_flatMap, List.mem_map, forall_exists_index,
    and_imp, ExpectedComplete]
  constructor
  · intro all_pass entry mem
    exact (stageChecks_pass _ entry).mp fun check check_mem =>
      all_pass _ entry ((scheduler _).perm.mem_iff.mpr mem) check check_mem rfl
  · rintro complete verdict entry mem check check_mem rfl
    exact (stageChecks_pass _ entry).mpr (complete entry ((scheduler _).perm.mem_iff.mp mem)) check check_mem

/-- A call answers true without reporting an error exactly when every stage
and product the installation type expects is there with a completed or empty
status, whatever the order of the stages. -/
theorem stagesRound_passes_iff (isRHOAMMultitenant : String → Bool) (scheduler : Scheduler) (rhmi : RHMI) :
    ((stagesRound isRHOAMMultitenant scheduler rhmi).done = true ∧
        ∀ message, Report.error message ∉ (stagesRound isRHOAMMultitenant scheduler rhmi).reports) ↔
      ExpectedComplete isRHOAMMultitenant rhmi :=
  (stagesRound_clean_iff isRHOAMMultitenant scheduler rhmi).trans
    (roundVerdicts_pass_iff isRHOAMMultitenant scheduler rhmi)

/-! ## The order of the stages -/

/-- The entries with the first one equal to `entry` moved to the end. -/
def moveLast (entry : String × List String) : List (String × List String) → List (String × List String)
  | [] => []
  | other :: rest => if other = entry then rest ++ [other] else other :: moveLast entry rest

theorem moveLast_perm (entry : String × List String) (entries : List (String × List String)) :
    (moveLast entry entries).Perm entries := by
  induction entries with
  | nil => exact .refl _
  | cons other rest ih =>
    unfold moveLast
    split
    · exact List.perm_append_singleton _ _
    · exact ih.cons _

theorem moveLast_of_mem {entry : String × List String} {entries : List (String × List String)}
    (mem : entry ∈ entries) :
    ∃ rest, moveLast entry entries = rest ++ [entry] := by
  induction entries with
  | nil => cases mem
  | cons other entries ih =>
    unfold moveLast
    split
    · rename_i same
      exact ⟨entries, by rw [same]⟩
    · rename_i other_ne
      obtain ⟨rest, moved⟩ := ih ((List.mem_cons.mp mem).resolve_left fun same => other_ne same.symm)
      exact ⟨other :: rest, by rw [moved, List.cons_append]⟩

/-- A runtime that ranges over every map with `entry` last, when the map has it. -/
def Scheduler.last (entry : String × List String) : Scheduler := fun m =>
  ⟨moveLast entry m.entries, moveLast_perm entry m.entries⟩

/-- With an expected stage visited last, the last check of that stage that
does not pass decides the call. -/
theorem lastWord_roundVerdicts_last (isRHOAMMultitenant : String → Bool) (rhmi : RHMI) {entry : String × List String}
    (mem : entry ∈ (getExpectedStageProducts isRHOAMMultitenant rhmi.type).entries) {verdict : Verdict}
    (decides : lastWord ((stageChecks rhmi.stages entry).map Check.verdict) = some verdict) :
    lastWord (roundVerdicts isRHOAMMultitenant (Scheduler.last entry) rhmi) = some verdict := by
  obtain ⟨rest, moved⟩ := moveLast_of_mem mem
  simp only [roundVerdicts, roundChecks, Scheduler.last, moved, List.flatMap_append, List.flatMap_singleton,
    List.map_append, lastWord_append, decides, Option.or_some]

/-- Whether a call answers true can depend on the order the runtime picks:
when one expected stage ends its checks in progress and another one fails, the
call answers false when the first is visited last, and true, ending the poll,
when the second is. -/
theorem stagesRound_order_dependent (isRHOAMMultitenant : String → Bool) (rhmi : RHMI)
    (first second : String × List String)
    (first_mem : first ∈ (getExpectedStageProducts isRHOAMMultitenant rhmi.type).entries)
    (second_mem : second ∈ (getExpectedStageProducts isRHOAMMultitenant rhmi.type).entries)
    (first_retries : lastWord ((stageChecks rhmi.stages first).map Check.verdict) = some .retries)
    (second_fails : lastWord ((stageChecks rhmi.stages second).map Check.verdict) = some .fails) :
    (stagesRound isRHOAMMultitenant (Scheduler.last first) rhmi).done = false ∧
      (stagesRound isRHOAMMultitenant (Scheduler.last second) rhmi).done = true := by
  rw [stagesRound_done, stagesRound_done, lastWord_roundVerdicts_last isRHOAMMultitenant rhmi first_mem first_retries,
    lastWord_roundVerdicts_last isRHOAMMultitenant rhmi second_mem second_fails]
  decide

/-- The installation type the examples take as multitenant. -/
def multitenant (installType : String) : Bool :=
  installType = "multitenant-managed-api"

/-- A completed product. -/
def completedProduct (name : String) : String × RHMIProductStatus :=
  (name, ⟨"completed"⟩)

/-- A multitenant installation whose installation stage is in progress, with
its products completed, and whose bootstrap stage is missing. -/
def bootstrapMissing : RHMI where
  type := "multitenant-managed-api"
  stages := ⟨[("installation", ⟨"installation", "in progress",
    ⟨["rhsso", "cloud-resources", "observability", "3scale", "marin3r", "grafana"].map completedProduct,
      by decide⟩⟩)],
    by decide⟩

theorem stagesRound_order_dependent_bootstrap :
    (("installation", ["rhsso", "cloud-resources", "observability", "3scale", "marin3r", "grafana"]) ∈
        (getExpectedStageProducts multitenant bootstrapMissing.type).entries ∧
      ("bootstrap", []) ∈ (getExpectedStageProducts multitenant bootstrapMissing.type).entries ∧
      lastWord ((stageChecks bootstrapMissing.stages
        ("installation", ["rhsso", "cloud-resources", "observability", "3scale", "marin3r", "grafana"])).map
          Check.verdict) = some .retries ∧
      lastWord ((stageChecks bootstrapMissing.stages ("bootstrap", [])).map Check.verdict) = some .fails) ∧
    (stagesRound multitenant
        (Scheduler.last ("installation", ["rhsso", "cloud-resources", "observability", "3scale", "marin3r", "grafana"]))
        bootstrapMissing).done = false ∧
      (stagesRound multitenant (Scheduler.last ("bootstrap", [])) bootstrapMissing).done = true :=
  have first_mem : ("installation", ["rhsso", "cloud-resources", "observability", "3scale", "marin3r", "grafana"]) ∈
      (getExpectedStageProducts multitenant bootstrapMissing.type).entries := by decide
  have second_mem : ("bootstrap", []) ∈ (getExpectedStageProducts multitenant bootstrapMissing.type).entries := by
    decide
  have first_retries : lastWord ((stageChecks bootstrapMissing.stages
      ("installation", ["rhsso", "cloud-resources", "observability", "3scale", "marin3r", "grafana"])).map
        Check.verdict) = some .retries := by decide
  have second_fails : lastWord ((stageChecks bootstrapMissing.stages ("bootstrap", [])).map Check.verdict) =
      some .fails := by decide
  ⟨⟨first_mem, second_mem, first_retries, second_fails⟩,
    stagesRound_order_dependent multitenant bootstrapMissing _ _ first_mem second_mem first_retries second_fails⟩

/-! ## When the order does not matter -/

/-- Every order visits the same checks. -/
theorem roundVerdicts_perm (isRHOAMMultitenant : String → Bool) (scheduler scheduler' : Scheduler) (rhmi : RHMI) :
    (roundVerdicts isRHOAMMultitenant scheduler rhmi).Perm (roundVerdicts isRHOAMMultitenant scheduler' rhmi) :=
  (((scheduler _).perm.trans (scheduler' _).perm.symm).flatMap_right _).map _

/-- Without a failing check, the last check that does not pass is one in
progress exactly when there is one. -/
theorem lastWord_eq_retries_iff {verdicts : List Verdict} (unfailing : .fails ∉ verdicts) :
    lastWord verdicts = some .retries ↔ .retries ∈ verdicts := by
  refine ⟨mem_of_lastWord, fun mem => ?_⟩
  cases last : lastWord verdicts with
  | none => exact absurd (lastWord_eq_none.mp last _ mem) (by decide)
  | some verdict =>
    cases verdict
    · exact absurd last lastWord_ne_passes
    · rfl
    · exact absurd (mem_of_lastWord last) unfailing

/-- The number of errors a call reports does not depend on the order, and
neither does its answer unless the call has both a check in progress and a
failing check. -/
theorem stagesRound_order_independent (isRHOAMMultitenant : String → Bool) (rhmi : RHMI)
    (scheduler scheduler' : Scheduler) :
    (stagesRound isRHOAMMultitenant scheduler rhmi).reports.countP Report.isError =
        (stagesRound isRHOAMMultitenant scheduler' rhmi).reports.countP Report.isError ∧
      ((.retries ∉ roundVerdicts isRHOAMMultitenant scheduler rhmi ∨
          .fails ∉ roundVerdicts isRHOAMMultitenant scheduler rhmi) →
        (stagesRound isRHOAMMultitenant scheduler rhmi).done =
          (stagesRound isRHOAMMultitenant scheduler' rhmi).done) := by
  have perm := roundVerdicts_perm isRHOAMMultitenant scheduler scheduler' rhmi
  refine ⟨by rw [stagesRound_errors, stagesRound_errors, perm.count_eq], fun unmixed => ?_⟩
  rw [stagesRound_done, stagesRound_done, decide_eq_decide]
  rcases unmixed with unretried | unfailing
  · exact iff_of_true (fun last => unretried (mem_of_lastWord last))
      fun last => unretried (perm.mem_iff.mpr (mem_of_lastWord last))
  · rw [ne_eq, ne_eq, lastWord_eq_retries_iff unfailing,
      lastWord_eq_retries_iff fun mem => unfailing (perm.mem_iff.mpr mem), perm.mem_iff]

/-- A managed installation whose one stage and all its products are
completed. -/
def installed : RHMI where
  type := "managed-api"
  stages := ⟨[("installation", ⟨"installation", "completed",
    ⟨["rhsso", "cloud-resources", "observability", "rhssouser", "3scale", "marin3r", "grafana"].map completedProduct,
      by decide⟩⟩)], by decide⟩

/-- A complete managed installation gets the same answer in any order. -/
theorem stagesRound_order_independent_installed :
    .retries ∉ roundVerdicts multitenant (Scheduler.last ("bootstrap", [])) installed ∧
      (stagesRound multitenant (Scheduler.last ("bootstrap", [])) installed).reports.countP Report.isError =
        (stagesRound multitenant (Scheduler.last ("installation", [])) installed).reports.countP Report.isError ∧
      (stagesRound multitenant (Scheduler.last ("bootstrap", [])) installed).done =
        (stagesRound multitenant (Scheduler.last ("installation", [])) installed).done :=
  have unretried : .retries ∉ roundVerdicts multitenant (Scheduler.last ("bootstrap", [])) installed := by decide
  ⟨unretried, (stagesRound_order_independent multitenant installed _ _).1,
    (stagesRound_order_independent multitenant installed _ _).2 (.inl unretried)⟩

end ClusterVpc.Stages
