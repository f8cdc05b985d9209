import MobileAudit.Cache.Store

namespace MobileAudit

open Disk

/-! Operations of the disk fail by being refused, unless their path has a null character. -/

namespace Path

private theorem hasNull_parent {path : Path} (null : path.parent.hasNull = true) :
    path.hasNull = true := by
  unfold hasNull parent at *
  rw [List.any_eq_true] at null ⊢
  obtain ⟨part, member, isNull⟩ := null
  exact ⟨part, List.dropLast_subset _ member, isNull⟩

end Path

namespace FileSystem

private theorem admissible_nullByte {path : Path} (failed : admissible path = .error .nullByte) :
    path.hasNull = true := by
  unfold admissible at failed
  split at failed
  · assumption
  · split at failed <;> cases failed

theorem site_nullByte {fs : FileSystem} {path : Path} (failed : fs.site path = .error .nullByte) :
    path.hasNull = true := by
  unfold site at failed
  cases admitted : admissible path with
  | error e =>
      simp only [admitted, bind, Except.bind] at failed
      cases failed
      exact admissible_nullByte admitted
  | ok done =>
      simp only [admitted, bind, Except.bind] at failed
      split at failed
      · cases failed
      · split at failed
        · split at failed
          · cases failed
          · split at failed <;> cases failed
        · cases failed
        · cases failed
        · cases failed

private theorem write_nullByte {fs : FileSystem} {path : Path} {content : ByteArray}
    (failed : fs.write path content = .error .nullByte) : path.hasNull = true := by
  unfold write at failed
  cases place : fs.site path with
  | error e =>
      simp only [place, bind, Except.bind] at failed
      cases failed
      exact site_nullByte place
  | ok found =>
      simp only [place, bind, Except.bind] at failed
      split at failed <;> cases failed

private theorem tryWrite_nullByte {fs : FileSystem} {path : Path} {content : ByteArray}
    (failed : (fs.tryWrite path content).2 = some .nullByte) : path.hasNull = true := by
  unfold tryWrite at failed
  simp only at failed
  split at failed
  · rename_i e _ refused
    cases failed
    exact write_nullByte refused
  · cases failed
  · cases failed
  · split at failed
    · cases failed
    · rename_i e refused
      cases failed
      exact write_nullByte refused

private theorem makeDirectory_nullByte {fs : FileSystem} {path : Path}
    (failed : fs.makeDirectory path = .error .nullByte) : path.hasNull = true := by
  unfold makeDirectory at failed
  cases place : fs.site path with
  | error e =>
      simp only [place, bind, Except.bind] at failed
      cases failed
      exact site_nullByte place
  | ok found =>
      simp only [place, bind, Except.bind] at failed
      split at failed <;> cases failed

private theorem look_ne_nullByte (fs : FileSystem) (path : Path) :
    fs.look path ≠ .error .nullByte := by
  unfold look
  split <;> simp

private theorem isDirectory_ne_nullByte (fs : FileSystem) (path : Path) :
    fs.isDirectory path ≠ .error .nullByte := by
  unfold isDirectory
  cases looked : fs.look path with
  | error e =>
      intro failed
      cases failed
      exact look_ne_nullByte fs path looked
  | ok found => simp [Except.map]

private theorem unlessDirectory_nullByte {fs : FileSystem} {path : Path} {error : DiskError}
    (failed : fs.unlessDirectory path error = .error .nullByte) : error = .nullByte := by
  unfold unlessDirectory at failed
  cases checked : fs.isDirectory path with
  | error e =>
      rw [checked] at failed
      cases failed
      exact absurd checked (isDirectory_ne_nullByte fs path)
  | ok isFolder =>
      rw [checked] at failed
      cases isFolder with
      | true => cases failed
      | false =>
          cases failed
          rfl

private theorem makeAlong_nullByte (anchor : Anchor) (names : List String) :
    ∀ fs : FileSystem, fs.makeAlong anchor names = .error .nullByte →
      (Path.mk anchor names.reverse).hasNull = true := by
  induction names with
  | nil =>
      intro fs failed
      unfold makeAlong at failed
      simp only at failed
      split at failed
      · cases failed
      · cases failed
      · rename_i made
        exact makeDirectory_nullByte made
      · rename_i other _ noNull _
        exact absurd (unlessDirectory_nullByte failed) noNull
  | cons name above ih =>
      intro fs failed
      have outer : ∀ fs : FileSystem,
          fs.makeDirectory ⟨anchor, (name :: above).reverse⟩ = .error .nullByte →
          (Path.mk anchor (name :: above).reverse).hasNull = true :=
        fun fs => makeDirectory_nullByte
      have inner : (Path.mk anchor above.reverse).hasNull = true →
          (Path.mk anchor (name :: above).reverse).hasNull = true := by
        simp only [Path.hasNull, List.reverse_cons, List.any_append]
        intro null
        rw [null, Bool.true_or]
      unfold makeAlong at failed
      simp only at failed
      split at failed
      · cases failed
      · split at failed
        · rename_i e made
          cases failed
          exact inner (ih fs made)
        · split at failed
          · cases failed
          · rename_i made
            exact outer _ made
          · cases failed
          · rename_i noNull _ _
            exact absurd (unlessDirectory_nullByte failed) noNull
      · rename_i made
        exact outer _ made
      · rename_i noNull _
        exact absurd (unlessDirectory_nullByte failed) noNull

end FileSystem

namespace Cache.Store

private theorem putFile_nullByte {fs : FileSystem} {file : Path} {content : ByteArray}
    (failed : (putFile fs file content).2 = some .nullByte) : file.hasNull = true := by
  unfold putFile at failed
  split at failed
  · rename_i e made
    cases failed
    refine Path.hasNull_parent ?_
    have null := FileSystem.makeAlong_nullByte _ _ _ made
    rw [List.reverse_reverse] at null
    exact null
  · exact FileSystem.tryWrite_nullByte failed

/-- Saving a cache ends in an error only if the path of the cache file has a null character, and
the error says so. -/
theorem save_escaped {fs : FileSystem} {now : Int} {store : Store} {error : DiskError}
    (escaped : (store.save fs now).escaped = some error) :
    error = .nullByte ∧ store.file.hasNull = true := by
  unfold save at escaped
  split at escaped
  · cases escaped
  · simp only at escaped
    split at escaped
    · cases escaped
    · cases escaped
    · rename_i fs' failed
      cases escaped
      exact ⟨rfl, putFile_nullByte (by rw [failed])⟩

@[simp] theorem save_files (store : Store) (fs : FileSystem) (now : Int) :
    (store.save fs now).store.ledger.files = store.ledger.files := by
  unfold save
  split
  · rfl
  · simp only
    split <;> rfl

end Cache.Store

end MobileAudit
