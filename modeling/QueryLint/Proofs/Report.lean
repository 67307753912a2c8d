import QueryLint.Report

/-!
# Exit codes and summaries

The exit code for some issues tells the gravest of them, and the summary at the end of a text report
counts them. Both look at the levels of the issues only, so the exit code can be read off the counts
(`exitCode_eq_two_iff_count`, `exitCode_eq_one_iff_count`).
-/

namespace QueryLint

/-! ### Exit codes -/

namespace Issue

variable {issues : List Issue}

/-- Some issue has a level exactly when there is one. -/
theorem any_level_iff (level : Severity) :
    (issues.any fun i => i.level == level) = true ↔ ∃ i ∈ issues, i.level = level := by
  simp only [List.any_eq_true, beq_iff_eq]

/-- The exit code is 2 exactly when an issue is an error. -/
theorem exitCode_eq_two_iff : exitCode issues = 2 ↔ ∃ i ∈ issues, i.level = .error := by
  rw [← any_level_iff, exitCode]
  split
  · next herror => simp [herror]
  · next herror => split <;> simp [herror]

/-- The exit code is 1 exactly when an issue is a warning, but none an error. -/
theorem exitCode_eq_one_iff :
    exitCode issues = 1
      ↔ (∃ i ∈ issues, i.level = .warning) ∧ ¬ ∃ i ∈ issues, i.level = .error := by
  rw [← any_level_iff, ← any_level_iff, exitCode]
  split
  · next herror => simp [herror]
  · next herror => split <;> simp [*]

/-- The exit code is 0 exactly when no issue is a warning or an error: notes do not count. -/
theorem exitCode_eq_zero_iff :
    exitCode issues = 0
      ↔ ¬ (∃ i ∈ issues, i.level = .warning) ∧ ¬ ∃ i ∈ issues, i.level = .error := by
  rw [← any_level_iff, ← any_level_iff, exitCode]
  split
  · next herror => simp [herror]
  · next herror => split <;> simp [*]

end Issue

/-! ### Summaries -/

namespace IssueReport

variable {r : IssueReport}

/-- A level is counted exactly when an issue has it. -/
theorem count_pos_iff (level : Severity) : 0 < r.count level ↔ ∃ i ∈ r.issues, i.level = level := by
  rw [count, List.countP_pos_iff]
  simp only [beq_iff_eq]

/-- The exit code is 2 exactly when the summary counts errors. -/
theorem exitCode_eq_two_iff_count : Issue.exitCode r.issues = 2 ↔ 0 < r.count .error := by
  rw [Issue.exitCode_eq_two_iff, count_pos_iff]

/-- The exit code is 1 exactly when the summary counts warnings, but no errors. -/
theorem exitCode_eq_one_iff_count :
    Issue.exitCode r.issues = 1 ↔ 0 < r.count .warning ∧ r.count .error = 0 := by
  rw [Issue.exitCode_eq_one_iff, ← count_pos_iff, ← count_pos_iff, Nat.not_lt, Nat.le_zero]

/-- The exit code is 0 exactly when the summary counts neither warnings nor errors. -/
theorem exitCode_eq_zero_iff_count :
    Issue.exitCode r.issues = 0 ↔ r.count .warning = 0 ∧ r.count .error = 0 := by
  rw [Issue.exitCode_eq_zero_iff, ← count_pos_iff, ← count_pos_iff, Nat.not_lt, Nat.not_lt,
    Nat.le_zero, Nat.le_zero]

/-- The last line of a text report. -/
def summary (r : IssueReport) : String :=
  if r.issues.isEmpty then "No issues found.\n"
  else s!"Summary: {r.count .error} errors, {r.count .warning} warnings, {r.count .info} info\n"

/-- A text report has its header, the lines about its issues and its summary. -/
theorem toText_eq (r : IssueReport) (colored : Bool) :
    r.toText colored
      = (if colored then Ink.bold.apply r.header else r.header) ++ "\n\n"
        ++ String.join (r.issues.map (issueText colored)) ++ r.summary := by
  rw [toText, summary]
  by_cases hnone : r.issues = []
  · simp [hnone]
  · have hsome : ¬ r.issues.isEmpty = true := by simpa using hnone
    simp only [if_neg hsome, String.append_assoc]

/-- A text report ends with its summary, with colours or without. -/
theorem exists_render_text_eq (r : IssueReport) (colored : Bool) :
    ∃ front, r.render .text colored = front ++ r.summary :=
  ⟨_, r.toText_eq colored⟩

end IssueReport

end QueryLint
