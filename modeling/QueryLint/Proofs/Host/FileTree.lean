import QueryLint.Host.FileTree
import QueryLint.Proofs.OrderedMap
import QueryLint.Proofs.Results

/-!
# Writing at the end of files

Whether a path can be written does not depend on what is written (`append_eq_error`). Writing
changes nothing but the file it goes to, and it takes no directory away, so the path leads to the
same place again and texts written one after the other are written as one (`append_append`).
-/

namespace QueryLint.FileTree

variable {t after : FileTree} {path text more : String} {parts place other : List String}
  {content : Option String} {fault : FileFault}

/-! ### Files at a place -/

/-- The tree with a file at a place. -/
def withFile (t : FileTree) (place : List String) (content : Option String) : FileTree :=
  { t with entries := t.entries.insert (t.key place) (.file content) }

/-- The text at a place behind which more is written. Where there is no file yet it is empty, and a
file that is not text holds none. -/
def heldText (t : FileTree) (place : List String) : Option String :=
  match t.find? place with
  | none => some ""
  | some (.file content) => content
  | some .directory => none

/-- Off the way to the working directory, there is what the entries say. -/
theorem find?_of_not_isPrefixOf (hplace : ¬ place <+: t.workingDirectory) :
    t.find? place = t.entries.find? (t.key place) := by
  rw [find?, if_neg (by simpa using hplace)]

/-- The working directory and all directories above it are there. -/
theorem find?_of_isPrefixOf (hplace : place <+: t.workingDirectory) :
    t.find? place = some .directory := by
  rw [find?, if_pos (by simpa using hplace)]

/-- A place that is no directory is not above the working directory. -/
theorem not_isPrefixOf_of_not_directory (h : t.find? place ≠ some .directory) :
    ¬ place <+: t.workingDirectory :=
  fun habove => h (find?_of_isPrefixOf habove)

/-- Away from the working directory, a file that is put somewhere is found there only. -/
theorem find?_withFile_of_not_isPrefixOf (hother : ¬ other <+: t.workingDirectory) :
    (t.withFile place content).find? other
      = (t.entries.insert (t.key place) (.file content)).find? (t.key other) :=
  find?_of_not_isPrefixOf (t := t.withFile place content) hother

/-- Where a file is put it is found. -/
theorem find?_withFile (hplace : t.find? place ≠ some .directory) :
    (t.withFile place content).find? place = some (.file content) := by
  rw [find?_withFile_of_not_isPrefixOf (not_isPrefixOf_of_not_directory hplace),
    OrderedMap.find?_insert, beq_self_eq_true, if_pos rfl]

/-- Another tree has the same working directory, and all directories of the first one. -/
structure KeepsDirectories (t after : FileTree) : Prop where
  workingDirectory_eq : after.workingDirectory = t.workingDirectory
  directory : ∀ place, t.find? place = some .directory → after.find? place = some .directory

/-- A file where there was no directory takes no directory away. -/
theorem keepsDirectories_withFile (hplace : t.find? place ≠ some .directory) :
    t.KeepsDirectories (t.withFile place content) := by
  refine ⟨rfl, fun other hother => ?_⟩
  by_cases habove : other <+: t.workingDirectory
  · exact find?_of_isPrefixOf (t := t.withFile place content) habove
  · rw [find?_of_not_isPrefixOf habove] at hother
    have hkey : t.key other ≠ t.key place := by
      intro hsame
      rw [find?_of_not_isPrefixOf (not_isPrefixOf_of_not_directory hplace), ← hsame] at hplace
      exact hplace hother
    rw [find?_withFile_of_not_isPrefixOf habove, OrderedMap.find?_insert, beq_false_of_ne hkey]
    exact hother

/-- The file that is put somewhere last counts. -/
theorem withFile_withFile (t : FileTree) (place : List String) (first last : Option String) :
    (t.withFile place first).withFile place last = t.withFile place last := by
  have hkey : (t.withFile place first).key place = t.key place := rfl
  rw [withFile, hkey, withFile, withFile, OrderedMap.insert_insert]

/-- A file that is put where no directory is holds its text. -/
theorem heldText_withFile (hplace : t.find? place ≠ some .directory) :
    (t.withFile place content).heldText place = content := by
  rw [heldText, find?_withFile hplace]

/-! ### Paths -/

/-- Where all directories are kept, parts that lead somewhere lead there again. -/
theorem KeepsDirectories.follow (hkeep : t.KeepsDirectories after)
    (h : t.follow parts place = .ok other) : after.follow parts place = .ok other := by
  induction parts generalizing place with
  | nil => exact h
  | cons part rest ih =>
    rw [FileTree.follow] at h ⊢
    split at h
    · cases h
    · cases h
    · next hdirectory =>
      rw [hkeep.directory place hdirectory]
      dsimp only
      split_ifs at h ⊢
      · exact ih h
      · exact ih h
      · exact ih h

/-- Paths begin at the same place where the working directory is the same. -/
theorem KeepsDirectories.start (hkeep : t.KeepsDirectories after) (path : String) :
    after.start path = t.start path := by
  rw [FileTree.start, FileTree.start, hkeep.workingDirectory_eq]

/-- A path leads to the same place as long as directories stay what they are. -/
theorem KeepsDirectories.resolve (hkeep : t.KeepsDirectories after)
    (h : t.resolve path = .ok place) : after.resolve path = .ok place := by
  unfold FileTree.resolve at h ⊢
  split_ifs at h ⊢
  rw [hkeep.start]
  exact hkeep.follow h

/-- A place to write to is one that the path leads to. -/
theorem target_eq_ok_iff :
    t.target path = .ok place
      ↔ (decide (path.length > 1) && path.toList.getLast? == some '/') = false
        ∧ t.resolve path = .ok place := by
  unfold target
  cases hslash : decide (path.length > 1) && path.toList.getLast? == some '/' with
  | false => simp
  | true =>
    simp only [if_true, Bool.true_eq_false, false_and, iff_false]
    intro h
    cases hfollow : t.follow ((FileTree.parts path).reverse.dropWhile String.isEmpty).tail.reverse
        (t.start path) with
    | error fault =>
      rw [hfollow] at h
      cases h
    | ok way =>
      rw [hfollow] at h
      cases h

/-! ### Writing -/

/-- A text is written where no directory stands. -/
theorem append_eq_ok_iff :
    t.append path text = .ok after
      ↔ ∃ place, t.target path = .ok place ∧ t.find? place ≠ some .directory
        ∧ t.withFile place ((t.heldText place).map (· ++ text)) = after := by
  unfold append
  rw [bind_eq_ok_iff]
  refine exists_congr fun place => and_congr_right fun _ => ?_
  unfold heldText
  cases hfound : t.find? place with
  | none => simp [withFile, pure, Except.pure]
  | some entry =>
    cases entry with
    | directory => simp [throw, throwThe, MonadExceptOf.throw]
    | file content => simp [withFile, pure, Except.pure]

/-- Whether a path can be written does not depend on the text. -/
theorem append_eq_error (h : t.append path text = .error fault) :
    t.append path more = .error fault := by
  unfold append at h ⊢
  cases htarget : t.target path with
  | error fault => rw [htarget] at h; exact h
  | ok place =>
    rw [htarget] at h
    simp only [bind, Except.bind] at h ⊢
    cases hfound : t.find? place with
    | none => rw [hfound] at h; cases h
    | some entry =>
      rw [hfound] at h
      cases entry with
      | directory => exact h
      | file content => cases h

/-- Behind what was written, a path leads to the same place. -/
theorem target_withFile (htarget : t.target path = .ok place)
    (hplace : t.find? place ≠ some .directory) :
    (t.withFile place content).target path = .ok place := by
  rw [target_eq_ok_iff] at htarget ⊢
  exact ⟨htarget.1, (keepsDirectories_withFile hplace).resolve htarget.2⟩

/-- Texts that are written one after the other are written as one. -/
theorem append_append (h : t.append path text = .ok after) :
    after.append path more = t.append path (text ++ more) := by
  obtain ⟨place, htarget, hplace, rfl⟩ := append_eq_ok_iff.mp h
  have hboth : t.append path (text ++ more)
      = .ok (t.withFile place ((t.heldText place).map (· ++ (text ++ more)))) :=
    append_eq_ok_iff.mpr ⟨place, htarget, hplace, rfl⟩
  rw [hboth]
  refine append_eq_ok_iff.mpr ⟨place, target_withFile htarget hplace, ?_, ?_⟩
  · rw [find?_withFile hplace]
    exact nofun
  · rw [heldText_withFile hplace, withFile_withFile, Option.map_map]
    congr 2
    funext old
    exact String.append_assoc

/-! ### Files that can be written -/

/-- Whether texts can be written at the end of the file that a path leads to. -/
def Writable (t : FileTree) (path : String) : Prop :=
  ∃ after, t.append path "" = .ok after

/-- The text in the file that a path is written to, if it is text. It is empty while there is no
file. -/
def textAt? (t : FileTree) (path : String) : Option String :=
  (t.target path).toOption.bind t.heldText

/-- A file that was appended to can be appended to again. -/
theorem exists_append (h : t.append path text = .ok after) (more : String) :
    ∃ other, t.append path more = .ok other := by
  cases happend : t.append path more with
  | ok other => exact ⟨other, rfl⟩
  | error fault =>
    rw [append_eq_error happend] at h
    cases h

/-- A path is writable exactly when something can be appended to it. -/
theorem writable_iff : t.Writable path ↔ ∃ after, t.append path text = .ok after := by
  constructor
  · rintro ⟨after, hafter⟩
    exact exists_append hafter text
  · rintro ⟨after, hafter⟩
    exact exists_append hafter ""

/-- A path that was appended to stays writable. -/
theorem writable_of_append (h : t.append path text = .ok after) : after.Writable path := by
  obtain ⟨place, htarget, hplace, -⟩ := append_eq_ok_iff.mp h
  exact ⟨_, (append_append h).trans (append_eq_ok_iff.mpr ⟨place, htarget, hplace, rfl⟩)⟩

/-- What is written comes behind what was there. -/
theorem textAt?_append (h : t.append path text = .ok after) :
    after.textAt? path = (t.textAt? path).map (· ++ text) := by
  obtain ⟨place, htarget, hplace, rfl⟩ := append_eq_ok_iff.mp h
  rw [textAt?, textAt?, target_withFile htarget hplace, htarget]
  exact heldText_withFile hplace

end QueryLint.FileTree
