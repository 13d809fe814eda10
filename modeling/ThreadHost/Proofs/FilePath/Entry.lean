import ThreadHost.FilePath.Entry
/-!
# Files that are written

A file is written in a place that is no directory, below directories that are there. So it is found
again on the same way, and nothing that was in its place before it makes a difference.
-/

namespace ThreadHost.Files

variable {files made : Files} {path place : FilePath} {root : String} {passed parts : List String}
  {entry other : Entry} {content : List UInt8}

@[simp] theorem put_same : files.put path entry path = entry := if_pos rfl

theorem put_of_ne (differs : place ≠ path) : files.put path entry place = files place :=
  if_neg differs

@[simp] theorem put_put : (files.put path entry).put path other = files.put path other := by
  funext asked
  unfold put
  split <;> rfl

theorem put_comm (differs : place ≠ path) :
    (files.put place entry).put path other = (files.put path other).put place entry := by
  funext asked
  unfold put
  grind

/-- Directories stay where others are made. -/
theorem directory_of_makeFrom (there : files path = .directory) :
    (makeFrom root files passed parts).1 path = .directory := by
  induction parts generalizing files passed with
  | nil => exact there
  | cons part rest inductionHypothesis =>
    unfold makeFrom
    split
    · exact there
    · simp only
      generalize (if part = ".." then passed.dropLast else passed ++ [part]) = here
      split
      · refine inductionHypothesis ?_
        unfold put
        split
        · rfl
        · exact there
      · exact inductionHypothesis there
      · exact there

/-- What is in a place where directories are not made makes no difference for making them. -/
theorem makeFrom_put (makes : makeFrom root files passed parts = (made, none))
    (free : made place ≠ .directory) :
    makeFrom root (files.put place entry) passed parts = (made.put place entry, none) := by
  induction parts generalizing files passed with
  | nil =>
    cases makes
    rfl
  | cons part rest inductionHypothesis =>
    unfold makeFrom at makes ⊢
    split at makes
    · cases makes
    · rename_i short
      rw [if_neg short]
      simp only at makes ⊢
      generalize (if part = ".." then passed.dropLast else passed ++ [part]) = here at makes ⊢
      split at makes
      · rename_i absent
        have apart : (⟨root, here⟩ : FilePath) ≠ place := by
          rintro rfl
          have stays := @directory_of_makeFrom (files.put ⟨root, here⟩ .directory) ⟨root, here⟩ root
            here rest put_same
          rw [makes] at stays
          exact free stays
        rw [put_of_ne apart, absent, put_comm apart.symm]
        exact inductionHypothesis makes
      · rename_i directory
        have apart : (⟨root, here⟩ : FilePath) ≠ place := by
          rintro rfl
          have stays := @directory_of_makeFrom files ⟨root, here⟩ root here rest directory
          rw [makes] at stays
          exact free stays
        rw [put_of_ne apart, directory]
        exact inductionHypothesis makes
      · cases makes

/-- A file is not written in place of a directory. -/
theorem ne_directory_of_placeFrom (found : placeFrom files root passed parts = .ok place) :
    files place ≠ .directory := by
  induction parts generalizing passed with
  | nil => cases found
  | cons part rest inductionHypothesis =>
    unfold placeFrom at found
    split at found
    · cases found
    · simp only at found
      split at found
      · exact inductionHypothesis found
      · rename_i noDirectory
        cases found
        exact noDirectory
      · cases found
      · cases found

/-- Whatever file is in a place, it is found as the place of a file. -/
theorem placeFrom_put (found : placeFrom files root passed parts = .ok place)
    (free : files place ≠ .directory) :
    placeFrom (files.put place (.file content)) root passed parts = .ok place := by
  induction parts generalizing passed with
  | nil => cases found
  | cons part rest inductionHypothesis =>
    unfold placeFrom at found ⊢
    split at found
    · cases found
    · rename_i short
      rw [if_neg short]
      simp only at found ⊢
      generalize (if part = ".." then passed.dropLast else passed ++ [part]) = here at found ⊢
      split at found
      · rename_i directory
        have apart : (⟨root, here⟩ : FilePath) ≠ place := fun same => free (same ▸ directory)
        rw [put_of_ne apart, directory]
        exact inductionHypothesis found
      · cases found
        rw [put_same]
      · cases found
      · cases found

/-- The place of a file lies at the end of the way. -/
theorem followFrom_of_placeFrom (found : placeFrom files root passed parts = .ok place)
    (there : files place = .file content) :
    FilePath.followFrom files root passed parts = .ok (.file content) := by
  induction parts generalizing passed with
  | nil => cases found
  | cons part rest inductionHypothesis =>
    unfold placeFrom at found
    unfold FilePath.followFrom
    split at found
    · cases found
    · rename_i short
      rw [if_neg short]
      simp only at found ⊢
      generalize (if part = ".." then passed.dropLast else passed ++ [part]) = here at found ⊢
      split at found
      · rename_i directory
        rw [directory]
        exact inductionHypothesis found
      · cases found
        rw [there]
        exact if_pos rfl
      · cases found
      · cases found

/-! ## Whole paths -/

/-- A path that a file is written at holds no null character and is not too long. -/
theorem placeOf_eq_ok_iff : files.placeOf path = .ok place ↔
    path.holdsNull = false ∧ path.isTooLong = false ∧
      placeFrom files path.root [] path.parts = .ok place := by
  unfold placeOf
  cases path.holdsNull <;> cases path.isTooLong <;> simp

/-- The directories above a path do not depend on the file that is written there. -/
theorem makeDirectories_put (makes : files.makeDirectories path = (made, none))
    (free : made place ≠ .directory) :
    (files.put place entry).makeDirectories path = (made.put place entry, none) := by
  unfold makeDirectories at makes ⊢
  split at makes
  · cases makes
  · rename_i noNull
    split at makes
    · cases makes
    · rename_i short
      rw [if_neg noNull, if_neg short]
      exact makeFrom_put makes free

theorem ne_directory_of_placeOf (found : files.placeOf path = .ok place) :
    files place ≠ .directory :=
  ne_directory_of_placeFrom (placeOf_eq_ok_iff.1 found).2.2

/-- Nor does the place of the file. -/
theorem placeOf_put (found : files.placeOf path = .ok place) :
    (files.put place (.file content)).placeOf path = .ok place := by
  obtain ⟨noNull, short, found⟩ := placeOf_eq_ok_iff.1 found
  exact placeOf_eq_ok_iff.2
    ⟨noNull, short, placeFrom_put found (ne_directory_of_placeFrom found)⟩

/-- What was written at a path is found there. -/
theorem follow_put (found : files.placeOf path = .ok place) :
    path.follow (files.put place (.file content)) = .ok (.file content) := by
  obtain ⟨-, short, found⟩ := placeOf_eq_ok_iff.1 (placeOf_put found)
  rw [FilePath.follow, short]
  exact followFrom_of_placeFrom found put_same

end ThreadHost.Files
