import ClusterVpc.Stages.Verdicts

/-!
# The test over its whole poll

`PollImmediateInfinite` has no timeout: it stops at the first call that
answers true or an error and goes on while the calls answer false. A call
answers false exactly when its last check that does not pass is a status in
progress, so the test keeps polling for as long as each resource it reads has
that, whatever else the calls report, and it stops at the latest at the first
resource whose expected stages and products are all complete. Every error it
reports is the text of a failing check of a resource it read, or the error of
`GetRHMI`, wrapped, which also ends the poll.
-/

namespace ClusterVpc.Stages

/-- No report marks the test failed. -/
def Quiet (reports : List Report) : Prop :=
  ∀ message, Report.error message ∉ reports

theorem Quiet.append {reports more : List Report} : Quiet (reports ++ more) ↔ Quiet reports ∧ Quiet more := by
  simp only [Quiet, List.mem_append, not_or, forall_and]

theorem Quiet.mono {reports more : List Report} (quiet : Quiet more) (first : reports <+: more) :
    Quiet reports :=
  fun message mem => quiet message (first.subset mem)

/-- A split of a list around one element either puts it first or leaves the
first element in front. -/
theorem exists_split_cons {β : Type} (c : β) (calls : List β) (P Q : β → Prop) :
    (∃ pre call post, c :: calls = pre ++ call :: post ∧ (∀ x ∈ pre, P x) ∧ Q call) ↔
      Q c ∨ P c ∧ ∃ pre call post, calls = pre ++ call :: post ∧ (∀ x ∈ pre, P x) ∧ Q call := by
  constructor
  · rintro ⟨_ | ⟨p, pre⟩, call, post, split, before, found⟩
    · cases split
      exact .inl found
    · cases split
      exact .inr ⟨before c (List.mem_cons_self _ _), pre, call, post, rfl, fun x mem =>
        before x (List.mem_cons_of_mem _ mem), found⟩
  · rintro (found | ⟨first, pre, call, post, rfl, before, found⟩)
    · exact ⟨[], c, calls, rfl, nofun, found⟩
    · exact ⟨c :: pre, call, post, rfl, List.forall_mem_cons.mpr ⟨first, before⟩, found⟩

/-! ## The poll -/

section Poll

variable {α : Type} (condition : α → Except String Round)

/-- The poll is still running after its calls exactly when each answered
false. -/
theorem pollImmediateInfinite_running_iff (calls : List α) (reports : List Report) :
    (pollImmediateInfinite condition calls reports).returned = none ↔
      ∀ call ∈ calls, ∃ round, condition call = .ok round ∧ round.done = false := by
  induction calls generalizing reports with
  | nil => simp [pollImmediateInfinite]
  | cons call calls ih =>
    rw [List.forall_mem_cons]
    unfold pollImmediateInfinite
    cases answer : condition call with
    | error err => simp
    | ok round => cases done : round.done <;> simp [ih, done]

/-- An error the poll returns is one a call answered. -/
theorem pollImmediateInfinite_error (calls : List α) (reports : List Report) {err : String}
    (returned : (pollImmediateInfinite condition calls reports).returned = some (some err)) :
    ∃ call ∈ calls, condition call = .error err := by
  induction calls generalizing reports with
  | nil => cases returned
  | cons call calls ih =>
    unfold pollImmediateInfinite at returned
    cases answer : condition call with
    | error err' =>
      simp only [answer, Option.some.injEq] at returned
      exact ⟨call, List.mem_cons_self _ _, by rw [answer, returned]⟩
    | ok round =>
      simp only [answer] at returned
      split at returned
      · cases returned
      · obtain ⟨later, mem, failed⟩ := ih _ returned
        exact ⟨later, List.mem_cons_of_mem _ mem, failed⟩

/-- The poll reports only what the calls it made reported. -/
theorem mem_pollImmediateInfinite_reports (calls : List α) (reports : List Report) {report : Report}
    (mem : report ∈ (pollImmediateInfinite condition calls reports).reports) :
    report ∈ reports ∨ ∃ call ∈ calls, ∃ round, condition call = .ok round ∧ report ∈ round.reports := by
  induction calls generalizing reports with
  | nil => exact .inl mem
  | cons call calls ih =>
    unfold pollImmediateInfinite at mem
    have made : ∀ round, condition call = .ok round → report ∈ reports ++ round.reports →
        report ∈ reports ∨
          ∃ c ∈ call :: calls, ∃ round, condition c = .ok round ∧ report ∈ round.reports :=
      fun round answer mem => (List.mem_append.mp mem).imp_right fun mem =>
        ⟨call, List.mem_cons_self _ _, round, answer, mem⟩
    cases answer : condition call with
    | error err => simp only [answer] at mem; exact .inl mem
    | ok round =>
      simp only [answer] at mem
      split at mem
      · exact made round answer mem
      · rcases ih _ mem with mem | ⟨c, c_mem, round', found, mem⟩
        · exact made round answer mem
        · exact .inr ⟨c, List.mem_cons_of_mem _ c_mem, round', found, mem⟩

/-- The reports the poll started with stay first in its reports. -/
theorem reports_prefix_pollImmediateInfinite (calls : List α) (reports : List Report) :
    reports <+: (pollImmediateInfinite condition calls reports).reports := by
  induction calls generalizing reports with
  | nil => exact List.prefix_refl _
  | cons call calls ih =>
    unfold pollImmediateInfinite
    cases condition call with
    | error err => exact List.prefix_refl _
    | ok round =>
      dsimp only
      split
      · exact List.prefix_append _ _
      · exact (List.prefix_append _ _).trans (ih _)

/-- The poll returns nil with no error reported exactly at a call that answered
true with none, after calls that each answered false with none. -/
theorem pollImmediateInfinite_passes_iff (calls : List α) (reports : List Report) (quiet : Quiet reports) :
    ((pollImmediateInfinite condition calls reports).returned = some none ∧
        Quiet (pollImmediateInfinite condition calls reports).reports) ↔
      ∃ pre call post, calls = pre ++ call :: post ∧
        (∀ c ∈ pre, ∃ round, condition c = .ok round ∧ round.done = false ∧ Quiet round.reports) ∧
        ∃ round, condition call = .ok round ∧ round.done = true ∧ Quiet round.reports := by
  induction calls generalizing reports with
  | nil => simp [pollImmediateInfinite]
  | cons c calls ih =>
    rw [exists_split_cons]
    unfold pollImmediateInfinite
    cases answer : condition c with
    | error err => simp
    | ok round =>
      cases done : round.done
      case true => simp [done, Quiet.append, quiet]
      by_cases loud : Quiet round.reports
      · simp [done, loud, ih _ (Quiet.append.mpr ⟨quiet, loud⟩)]
      · simp only [done, loud, Bool.false_eq_true, ↓reduceIte, Except.ok.injEq, exists_eq_left', and_false,
          false_and, false_or, iff_false, not_and]
        exact fun _ quiet' => loud (Quiet.append.mp (quiet'.mono (reports_prefix_pollImmediateInfinite _ _ _))).2

end Poll

/-! ## The errors of a call -/

/-- An error report of the fold is an earlier one or the text of a failing
check. -/
theorem foldl_record_error_mem (checks : List Check) (round : Round) {message : String}
    (mem : Report.error message ∈ (checks.foldl Round.record round).reports) :
    Report.error message ∈ round.reports ∨
      ∃ check ∈ checks, check.verdict = .fails ∧ check.failing = message := by
  induction checks generalizing round with
  | nil => exact .inl mem
  | cons check checks ih =>
    rcases ih _ mem with mem | ⟨later, later_mem, fails, text⟩
    · unfold Round.record Round.fail at mem
      split at mem
      · exact .inl mem
      · exact .inl (by simpa using mem)
      · rename_i fails
        rcases List.mem_append.mp mem with mem | mem
        · exact .inl mem
        · simp only [List.mem_singleton, Report.error.injEq] at mem
          exact .inr ⟨check, List.mem_cons_self _ _, fails, mem.symm⟩
    · exact .inr ⟨later, List.mem_cons_of_mem _ later_mem, fails, text⟩

/-- Every error a call reports is the text of one of its failing checks. -/
theorem stagesRound_error_mem (isRHOAMMultitenant : String → Bool) (scheduler : Scheduler) (rhmi : RHMI)
    {message : String} (mem : Report.error message ∈ (stagesRound isRHOAMMultitenant scheduler rhmi).reports) :
    ∃ check ∈ roundChecks isRHOAMMultitenant scheduler rhmi,
      check.verdict = .fails ∧ check.failing = message := by
  rw [stagesRound_eq_fold] at mem
  exact (foldl_record_error_mem _ _ mem).resolve_left nofun

/-! ## The test -/

section Test

variable (isRHOAMMultitenant : String → Bool) (observations : List (Scheduler × Except String RHMI))

theorem testIntegreatlyStagesStatus_returned :
    (testIntegreatlyStagesStatus isRHOAMMultitenant observations).returned =
      (pollImmediateInfinite (fun observation => stagesCondition isRHOAMMultitenant observation.1 observation.2)
        observations []).returned := by
  unfold testIntegreatlyStagesStatus
  dsimp only
  split <;> rfl

/-- The test is still polling after the calls exactly when, in each, `GetRHMI`
answered and the last check that does not pass was a status in progress: it
never gives up on a stage or product that stays in progress, and it stops at
the latest at a resource with nothing left in progress. -/
theorem testIntegreatlyStagesStatus_running_iff :
    (testIntegreatlyStagesStatus isRHOAMMultitenant observations).returned = none ↔
      ∀ observation ∈ observations, ∃ rhmi, observation.2 = .ok rhmi ∧
        lastWord (roundVerdicts isRHOAMMultitenant observation.1 rhmi) = some .retries := by
  rw [testIntegreatlyStagesStatus_returned, pollImmediateInfinite_running_iff]
  refine forall₂_congr fun ⟨scheduler, found⟩ _ => ?_
  cases found with
  | error err => simp [stagesCondition]
  | ok rhmi => simp [stagesCondition, stagesRound_done]

/-- Every error the test reports is the text of a failing check of a resource
`GetRHMI` returned, or the error of a call of `GetRHMI`, wrapped, which is what
the poll returned. -/
theorem testIntegreatlyStagesStatus_errors {message : String}
    (reported : Report.error message ∈
      (testIntegreatlyStagesStatus isRHOAMMultitenant observations).reports) :
    (∃ scheduler rhmi, (scheduler, .ok rhmi) ∈ observations ∧
        ∃ check ∈ roundChecks isRHOAMMultitenant scheduler rhmi,
          check.verdict = .fails ∧ check.failing = message) ∨
      ∃ scheduler err, (scheduler, .error err) ∈ observations ∧ message = "error getting RHMI CR: " ++ err ∧
        (testIntegreatlyStagesStatus isRHOAMMultitenant observations).returned = some (some message) := by
  have of_round : Report.error message ∈ (pollImmediateInfinite
      (fun observation => stagesCondition isRHOAMMultitenant observation.1 observation.2) observations []).reports →
      ∃ scheduler rhmi, (scheduler, .ok rhmi) ∈ observations ∧
        ∃ check ∈ roundChecks isRHOAMMultitenant scheduler rhmi,
          check.verdict = .fails ∧ check.failing = message := by
    intro mem
    rcases mem_pollImmediateInfinite_reports _ _ _ mem with
      mem | ⟨⟨scheduler, found⟩, observed, round, answer, mem⟩
    · cases mem
    cases found with
    | error err => cases answer
    | ok rhmi =>
      cases answer
      exact ⟨scheduler, rhmi, observed, stagesRound_error_mem _ _ _ mem⟩
  rw [testIntegreatlyStagesStatus_returned]
  unfold testIntegreatlyStagesStatus at reported
  dsimp only at reported
  split at reported
  · rename_i err returned
    rcases List.mem_append.mp reported with mem | mem
    · exact .inl (of_round mem)
    simp only [List.mem_singleton, Report.error.injEq] at mem
    subst mem
    obtain ⟨⟨scheduler, found⟩, observed, failed⟩ := pollImmediateInfinite_error _ _ _ returned
    cases found with
    | ok rhmi => cases failed
    | error err =>
      simp only [stagesCondition, Except.error.injEq] at failed
      exact .inr ⟨scheduler, err, observed, failed.symm, returned⟩
  · exact .inl (of_round reported)

/-- The test passes exactly when its poll does: a poll that returned nil adds
no report. -/
theorem testIntegreatlyStagesStatus_quiet_iff :
    ((testIntegreatlyStagesStatus isRHOAMMultitenant observations).returned = some none ∧
        Quiet (testIntegreatlyStagesStatus isRHOAMMultitenant observations).reports) ↔
      ((pollImmediateInfinite (fun observation => stagesCondition isRHOAMMultitenant observation.1 observation.2)
          observations []).returned = some none ∧
        Quiet (pollImmediateInfinite (fun observation => stagesCondition isRHOAMMultitenant observation.1
          observation.2) observations []).reports) := by
  unfold testIntegreatlyStagesStatus
  dsimp only
  split
  · next returned => simp [returned]
  · rfl

/-- The test passes, its poll returning nil with no error reported, exactly
when `GetRHMI` answered every call up to one whose resource has every expected
stage and product complete, and each earlier resource had a stage or product
in progress as its last check that does not pass and no failing check. A
failing check in any earlier call fails the test, even though the poll goes
on. -/
theorem testIntegreatlyStagesStatus_passes_iff :
    ((testIntegreatlyStagesStatus isRHOAMMultitenant observations).returned = some none ∧
        Quiet (testIntegreatlyStagesStatus isRHOAMMultitenant observations).reports) ↔
      ∃ pre observation post, observations = pre ++ observation :: post ∧
        (∀ earlier ∈ pre, ∃ rhmi, earlier.2 = .ok rhmi ∧
          lastWord (roundVerdicts isRHOAMMultitenant earlier.1 rhmi) = some .retries ∧
          .fails ∉ roundVerdicts isRHOAMMultitenant earlier.1 rhmi) ∧
        ∃ rhmi, observation.2 = .ok rhmi ∧ ExpectedComplete isRHOAMMultitenant rhmi := by
  rw [testIntegreatlyStagesStatus_quiet_iff, pollImmediateInfinite_passes_iff _ _ _ fun _ => List.not_mem_nil _]
  refine exists₃_congr fun pre observation post => and_congr_right fun _ =>
    and_congr (forall₂_congr fun ⟨scheduler, found⟩ _ => ?_) ?_
  · cases found <;> simp [stagesCondition, stagesRound_done, Quiet, stagesRound_no_errors_iff]
  · obtain ⟨scheduler, found⟩ := observation
    cases found with
    | error err => simp [stagesCondition]
    | ok rhmi =>
      simp only [stagesCondition, Except.ok.injEq, exists_eq_left']
      exact (stagesRound_clean_iff isRHOAMMultitenant scheduler rhmi).trans
        (roundVerdicts_pass_iff isRHOAMMultitenant scheduler rhmi)

end Test

/-- The test passes, its poll returning nil and nothing reported as an error,
only after a call in which `GetRHMI` answered with a resource whose expected
stages and products are all there with a completed or empty status. -/
theorem testIntegreatlyStagesStatus_passes (isRHOAMMultitenant : String → Bool)
    (observations : List (Scheduler × Except String RHMI))
    (passed : (testIntegreatlyStagesStatus isRHOAMMultitenant observations).returned = some none)
    (clean : ∀ message,
      Report.error message ∉ (testIntegreatlyStagesStatus isRHOAMMultitenant observations).reports) :
    ∃ scheduler rhmi, (scheduler, .ok rhmi) ∈ observations ∧ ExpectedComplete isRHOAMMultitenant rhmi := by
  obtain ⟨pre, ⟨scheduler, found⟩, post, rfl, -, round, answered, done, quiet⟩ :=
    (pollImmediateInfinite_passes_iff _ _ _ fun _ => List.not_mem_nil _).mp
      ((testIntegreatlyStagesStatus_quiet_iff isRHOAMMultitenant _).mp ⟨passed, clean⟩)
  cases found with
  | error err => cases answered
  | ok rhmi =>
    cases answered
    exact ⟨scheduler, rhmi, List.mem_append_right _ (List.mem_cons_self _ _),
      (roundVerdicts_pass_iff isRHOAMMultitenant scheduler rhmi).mp
        ((stagesRound_clean_iff isRHOAMMultitenant scheduler rhmi).mp ⟨done, quiet⟩)⟩

/-- The test over a managed installation that is complete at the first call. -/
theorem testIntegreatlyStagesStatus_passes_installed :
    (testIntegreatlyStagesStatus multitenant [(Scheduler.last ("bootstrap", []), .ok installed)]).returned =
        some none ∧
      (∀ message, Report.error message ∉
        (testIntegreatlyStagesStatus multitenant [(Scheduler.last ("bootstrap", []), .ok installed)]).reports) ∧
      ∃ scheduler rhmi, (scheduler, .ok rhmi) ∈
          [(Scheduler.last ("bootstrap", []), (.ok installed : Except String RHMI))] ∧
        ExpectedComplete multitenant rhmi :=
  have passed : (testIntegreatlyStagesStatus multitenant [(Scheduler.last ("bootstrap", []), .ok installed)]).returned =
      some none := by decide
  have quiet : (testIntegreatlyStagesStatus multitenant [(Scheduler.last ("bootstrap", []), .ok installed)]).reports =
      [] := by decide
  have clean : ∀ message, Report.error message ∉
      (testIntegreatlyStagesStatus multitenant [(Scheduler.last ("bootstrap", []), .ok installed)]).reports :=
    fun message reported => by rw [quiet] at reported; cases reported
  ⟨passed, clean, testIntegreatlyStagesStatus_passes multitenant _ passed clean⟩


/-- A multitenant installation without its bootstrap stage, read once with the
bootstrap stage last: the missing stage is reported. -/
theorem testIntegreatlyStagesStatus_errors_bootstrap :
    Report.error "Error checking stage bootstrap. Not found" ∈
        (testIntegreatlyStagesStatus multitenant [(Scheduler.last ("bootstrap", []), .ok bootstrapMissing)]).reports ∧
      ((∃ scheduler rhmi, (scheduler, .ok rhmi) ∈
          [(Scheduler.last ("bootstrap", []), (.ok bootstrapMissing : Except String RHMI))] ∧
          ∃ check ∈ roundChecks multitenant scheduler rhmi, check.verdict = .fails ∧
            check.failing = "Error checking stage bootstrap. Not found") ∨
        ∃ scheduler err, (scheduler, .error err) ∈
          [(Scheduler.last ("bootstrap", []), (.ok bootstrapMissing : Except String RHMI))] ∧
          "Error checking stage bootstrap. Not found" = "error getting RHMI CR: " ++ err ∧
          (testIntegreatlyStagesStatus multitenant
            [(Scheduler.last ("bootstrap", []), .ok bootstrapMissing)]).returned =
              some (some "Error checking stage bootstrap. Not found")) :=
  have reported : Report.error "Error checking stage bootstrap. Not found" ∈
      (testIntegreatlyStagesStatus multitenant
        [(Scheduler.last ("bootstrap", []), .ok bootstrapMissing)]).reports := by
    decide
  ⟨reported, testIntegreatlyStagesStatus_errors multitenant _ reported⟩

end ClusterVpc.Stages
