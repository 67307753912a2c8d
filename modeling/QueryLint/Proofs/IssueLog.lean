import QueryLint.Proofs.Host.FileTree
import QueryLint.Replay

/-!
# Issue logs on file trees

Batches that are written to a log one after the other are behind its old text in their order, as if
they had been written at once. A log that cannot be written stays as it is, and so does everything
else. What is written about an issue are the lines of its block (`renderIssue_eq`).
-/

namespace QueryLint

/-- The system of a file tree at some time. -/
def FileTree.hostAt (input : String) (environment : List (String × String)) (time : Nat) :
    Host (StateM FileTree) :=
  { FileTree.host input environment with time := return time }

namespace IssueLog

variable {input dbPath : String} {environment : List (String × String)} {time : Nat}
  {log : IssueLog} {issues : List Issue} {t : FileTree}

open FileTree (hostAt)

/-- Nothing is logged of a batch without issues. -/
theorem publish_of_nil (h : issues = []) :
    (log.publish (hostAt input environment time) dbPath issues).run t = ([], t) := by
  subst h
  rfl

/-- A machine appends to a file of its tree, and tells why it cannot. -/
theorem hostAt_append (path text : String) :
    ((hostAt input environment time).append path text).run t
      = match t.append path text with
        | .ok after => (.ok (), after)
        | .error fault => (.error fault.reason, t) := by
  unfold hostAt FileTree.host
  cases happend : t.append path text with
  | ok after =>
    simp [happend]
    rfl
  | error fault =>
    simp [happend]
    rfl

/-- A batch is written to the log, or the log and everything else stay as they are. -/
theorem publish_of_ne_nil (hsome : issues ≠ []) :
    (log.publish (hostAt input environment time) dbPath issues).run t
      = match t.append log.path (renderBatch dbPath issues) with
        | .ok after => ([], after)
        | .error _ => ([.unwritable dbPath ErrorKind.internal.text], t) := by
  have hempty : ¬ issues.isEmpty = true := by simpa using hsome
  unfold publish append
  rw [if_neg hempty]
  simp only [StateT.run_bind, hostAt_append]
  cases t.append log.path (renderBatch dbPath issues) <;> rfl

theorem renderBatch_nil (dbPath : String) : renderBatch dbPath [] = "" := rfl

/-- The blocks of some deliveries. -/
def renderAll (deliveries : List Delivery) : String :=
  String.join (deliveries.map fun d => renderBatch d.dbPath d.issues)

/-- Deliveries are rendered one after the other. -/
theorem renderAll_cons (d : Delivery) (rest : List Delivery) :
    renderAll (d :: rest) = renderBatch d.dbPath d.issues ++ renderAll rest := by
  rw [renderAll, renderAll, List.map_cons, String.join_cons]

/-! ### The lines of a log -/

/-- The lines of an issue that a database published, with an empty line behind them. -/
def block (dbPath : String) (i : Issue) : List String :=
  ["issue_id : " ++ i.id, "db_path : " ++ dbPath, "table : " ++ i.table,
    "sql statement : " ++ i.sql, "issue_type : " ++ i.type, "level : " ++ i.level.label,
    "create_time : " ++ toString i.createTime, "desc : " ++ i.desc, "detail : " ++ i.detail,
    "advice : " ++ i.advice]
    ++ (if i.extInfo = "" then [] else ["ext_info : " ++ i.extInfo]) ++ [""]

/-- The text of some lines, each of which is ended. -/
def ofLines (lines : List String) : String :=
  String.join (lines.map (· ++ "\n"))

/-- Lines are written one after the other. -/
theorem ofLines_append (lines more : List String) :
    ofLines (lines ++ more) = ofLines lines ++ ofLines more := by
  rw [ofLines, List.map_append, String.join_append, ofLines, ofLines]

/-- What is written about an issue, with its names before it, are the lines of its block. -/
theorem map_issueLines_eq (dbPath : String) (i : Issue) :
    (issueLines dbPath i).map (fun (name, value) => name ++ " : " ++ value) ++ [""]
      = block dbPath i := by
  unfold issueLines block
  by_cases hnone : i.extInfo = ""
  · simp [hnone]
  · simp [hnone]

/-- An issue is rendered as the lines of its block. -/
theorem renderIssue_eq (dbPath : String) (i : Issue) :
    renderIssue dbPath i = ofLines (block dbPath i) := by
  have hlines : (issueLines dbPath i).map (fun (name, value) => s!"{name} : {value}\n")
      = ((issueLines dbPath i).map fun (name, value) => name ++ " : " ++ value).map
        (· ++ "\n") := by
    rw [List.map_map]
    rfl
  rw [renderIssue, hlines, ← map_issueLines_eq, ofLines_append]
  rfl

/-- A batch is rendered as the blocks of its issues. -/
theorem renderBatch_eq (dbPath : String) (issues : List Issue) :
    renderBatch dbPath issues = ofLines (issues.flatMap (block dbPath)) := by
  induction issues with
  | nil => rfl
  | cons i rest ih =>
    rw [renderBatch, List.map_cons, String.join_cons, List.flatMap_cons, ofLines_append, ← ih,
      renderIssue_eq, renderBatch]

end IssueLog

namespace Replay

open IssueLog (renderAll renderAll_cons renderBatch)
open FileTree (hostAt)

variable {input : String} {environment : List (String × String)} {time : Nat} {log : IssueLog}
  {t : FileTree}

/-- The log of some deliveries is written one delivery after the other, whether or not the first one
could be. -/
theorem writeLog_cons (d : Delivery) (rest : List Delivery) :
    (writeLog (hostAt input environment time) (some log) (d :: rest)).run t
      = (let (told, first) := (log.publish (hostAt input environment time) d.dbPath d.issues).run t
        let (more, last) := (writeLog (hostAt input environment time) (some log) rest).run first
        (told ++ more, last)) := by
  unfold writeLog
  simp only [List.mapM_cons]
  rfl

/-- Where the log can be written, all batches are written as one text. -/
theorem writeLog_of_writable (input : String) (environment : List (String × String)) (time : Nat)
    (deliveries : List Delivery) (h : t.Writable log.path) :
    ∃ after, (writeLog (hostAt input environment time) (some log) deliveries).run t = ([], after)
      ∧ (after = t ∧ renderAll deliveries = ""
        ∨ t.append log.path (renderAll deliveries) = .ok after) := by
  induction deliveries generalizing t with
  | nil => exact ⟨t, rfl, .inl ⟨rfl, rfl⟩⟩
  | cons d rest ih =>
    rw [writeLog_cons, renderAll_cons]
    by_cases hnone : d.issues = []
    · obtain ⟨after, hrest, hafter⟩ := ih h
      refine ⟨after, ?_, ?_⟩
      · rw [IssueLog.publish_of_nil hnone]
        dsimp only
        rw [hrest]
        rfl
      · rw [hnone, IssueLog.renderBatch_nil, String.empty_append]
        exact hafter
    · obtain ⟨first, hfirst⟩ : ∃ first, t.append log.path (renderBatch d.dbPath d.issues)
        = .ok first :=
        FileTree.writable_iff.mp h
      obtain ⟨after, hrest, hafter⟩ := ih (FileTree.writable_of_append hfirst)
      refine ⟨after, ?_, .inr ?_⟩
      · rw [IssueLog.publish_of_ne_nil hnone, hfirst]
        dsimp only
        rw [hrest]
        rfl
      · rcases hafter with ⟨rfl, hempty⟩ | hafter
        · rw [hempty, String.append_empty]
          exact hfirst
        · rw [← FileTree.append_append hfirst]
          exact hafter

/-- Where the log cannot be written, nothing is. -/
theorem writeLog_of_not_writable (input : String) (environment : List (String × String))
    (time : Nat) (deliveries : List Delivery) (h : ¬ t.Writable log.path) :
    ∃ told, (writeLog (hostAt input environment time) (some log) deliveries).run t = (told, t) := by
  induction deliveries with
  | nil => exact ⟨[], rfl⟩
  | cons d rest ih =>
    obtain ⟨more, hmore⟩ := ih
    rw [writeLog_cons]
    by_cases hnone : d.issues = []
    · refine ⟨[] ++ more, ?_⟩
      rw [IssueLog.publish_of_nil hnone]
      dsimp only
      rw [hmore]
    · refine ⟨[.unwritable d.dbPath ErrorKind.internal.text] ++ more, ?_⟩
      rw [IssueLog.publish_of_ne_nil hnone]
      cases happend : t.append log.path (renderBatch d.dbPath d.issues) with
      | ok after => exact absurd (FileTree.writable_iff.mpr ⟨after, happend⟩) h
      | error fault =>
        dsimp only
        rw [hmore]

end Replay

end QueryLint
