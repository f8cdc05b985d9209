import MobileAudit.Proofs.Disk.Access

namespace MobileAudit

open Disk

/-! What has been written to a file is read from it again, whatever way its path takes: over
relative paths and through `..` as well. -/

namespace FileSystem

/-! Ways on a disk that has grown. -/

/-- A disk on which directories stay directories, and what exists goes on to exist. -/
structure Grown (disk disk' : Node) : Prop where
  folders : ∀ place, disk.see place = some none → disk'.see place = some none
  present : ∀ place, (disk.see place).isSome = true → (disk'.see place).isSome = true

private theorem Grown.follow {disk disk' : Node} (grown : Grown disk disk') (names : List String) :
    ∀ {here place : List String}, FileSystem.follow disk here names = .ok place →
      FileSystem.follow disk' here names = .ok place := by
  induction names with
  | nil => exact fun followed => followed
  | cons name names ih =>
      intro here place followed
      by_cases back : name = ".."
      · subst back
        rw [follow_back] at followed ⊢
        split at followed
        · rename_i isFolder
          rw [grown.folders here isFolder]
          exact ih followed
        · cases followed
        · cases followed
      · rw [follow_cons _ _ _ _ back] at followed ⊢
        split at followed
        · rename_i isFolder
          rw [grown.folders here isFolder]
          simp only
          split at followed
          · cases followed
          · rename_i short
            rw [if_neg short]
            split at followed
            · rename_i seen
              rw [if_pos (grown.present _ seen)]
              exact ih followed
            · cases followed
        · cases followed
        · cases followed

theorem follow_append (disk : Node) (first second : List String) :
    ∀ {here place : List String}, follow disk here first = .ok place →
      follow disk here (first ++ second) = follow disk place second := by
  induction first with
  | nil =>
      intro here place followed
      cases followed
      rfl
  | cons name first ih =>
      intro here place followed
      rw [List.cons_append]
      by_cases back : name = ".."
      · subst back
        rw [follow_back] at followed ⊢
        split at followed
        · exact ih followed
        · cases followed
        · cases followed
      · rw [follow_cons _ _ _ _ back] at followed ⊢
        split at followed
        · split at followed
          · cases followed
          · rename_i short
            split at followed
            · rename_i seen
              rw [if_neg short, if_pos seen]
              exact ih followed
            · cases followed
        · cases followed
        · cases followed

theorem find?_child {disk : Node} {above : List String} {entries : List (String × Node)}
    (name : String) (folder : disk.find? above = some (.folder entries)) :
    disk.find? (above ++ [name]) = entries.lookup name := by
  rw [Node.find?_append, folder, Option.bind_some, Node.find?_folder_cons]
  cases entries.lookup name with
  | none => rfl
  | some child => exact child.find?_nil

theorem find?_put_child {disk : Node} {above : List String} {entries : List (String × Node)}
    (name : String) (new : Node) (folder : disk.find? above = some (.folder entries)) :
    (disk.put (above ++ [name]) new).find? (above ++ [name]) = some new := by
  rw [find?_child name (Node.find?_put_entry above name new folder), Node.lookup_putEntry,
    if_pos rfl]

private theorem grown_put_file {disk : Node} {above : List String} {name : String}
    {entries : List (String × Node)} (content : ByteArray)
    (folder : disk.find? above = some (.folder entries))
    (noFolder : disk.see (above ++ [name]) ≠ some none) :
    Grown disk (disk.put (above ++ [name]) (.file content)) := by
  have written := find?_put_child name (.file content) folder
  -- Nothing is beneath the place, so only the place itself is seen in another way.
  have only : ∀ below, (disk.see (above ++ [name] ++ below)).isSome = true → below = [] := by
    intro below seen
    cases below with
    | nil => rfl
    | cons next below =>
        rw [Node.see, Node.find?_append] at seen
        cases found : disk.find? (above ++ [name]) with
        | none =>
            rw [found] at seen
            cases seen
        | some node =>
            cases node with
            | file old =>
                rw [found] at seen
                cases seen
            | folder inside => exact absurd (Node.see_eq_folder.mpr ⟨inside, found⟩) noFolder
  constructor
  · intro place isFolder
    by_cases beneath : above ++ [name] <+: place
    · obtain ⟨below, rfl⟩ := beneath
      have here := only below (by rw [isFolder]; rfl)
      subst here
      rw [List.append_nil] at isFolder
      exact absurd isFolder noFolder
    · rw [Node.see_put _ _ _ _ beneath]
      exact isFolder
  · intro place seen
    by_cases beneath : above ++ [name] <+: place
    · obtain ⟨below, rfl⟩ := beneath
      have here := only below seen
      subst here
      rw [List.append_nil, Node.see, written]
      rfl
    · rw [Node.see_put _ _ _ _ beneath]
      exact seen

/-! Writing and reading. -/

private theorem read_write {fs fs' : FileSystem} {path : Path} {content : ByteArray}
    (written : fs.write path content = .ok fs') : fs'.read path = .ok content := by
  obtain ⟨place, name, there, found, noFolder, rfl⟩ := write_eq_ok written
  obtain ⟨entries, site, isThere⟩ := site_eq_some found
  have unseen : fs.disk.see (place ++ [name]) ≠ some none := by
    rw [Ne, Node.see_eq_folder]
    rintro ⟨inside, isFolder⟩
    rw [find?_child name site.folder, ← isThere] at isFolder
    exact noFolder inside isFolder
  have grown := grown_put_file content site.folder unseen
  have folder := Node.find?_put_entry place name (.file content) site.folder
  have isFile := find?_put_child name (.file content) site.folder
  generalize fs.disk.put (place ++ [name]) (.file content) = disk at grown folder isFile ⊢
  have followed : follow disk (fs.startOf path) path.parts = .ok (place ++ [name]) := by
    rw [site.parts, follow_append disk _ _ (grown.follow _ site.followed),
      follow_cons _ _ _ _ site.forward, Node.see_eq_folder.mpr ⟨_, folder⟩]
    simp only [if_neg site.short, Node.see, isFile]
    rfl
  have located : locate { fs with disk } path = .ok (place ++ [name], .file content) := by
    rw [locate_eq, site.admitted]
    simp only
    rw [show startOf { fs with disk } path = fs.startOf path from rfl, followed]
    simp only [isFile]
  rw [read, located]
  rfl

theorem read_tryWrite {fs fs' : FileSystem} {path : Path} {content : ByteArray}
    (written : fs.tryWrite path content = (fs', none)) : fs'.read path = .ok content := by
  unfold tryWrite at written
  simp only at written
  split at written
  · cases written
  · rename_i done _
    cases written
    exact read_write done
  · cases written
  · split at written <;> cases written

end FileSystem

end MobileAudit
