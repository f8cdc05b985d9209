import MobileAudit.Disk.Access
import MobileAudit.Proofs.Disk.Tree

namespace MobileAudit

open Disk

/-! Access by paths from the root that do not go back.  What such an access gives depends only on
what is seen along its way. -/

namespace FileSystem

/-- Names that lead on, never back. -/
def Forward (names : List String) : Prop := ∀ name ∈ names, name ≠ ".."

theorem forward_of_proper {names : List String} (proper : ∀ name ∈ names, ProperName name) :
    Forward names :=
  fun name member => (proper name member).2.2.1

private theorem see_child (disk : Node) (here : List String) (name : String)
    {entries : List (String × Node)} (folder : disk.find? here = some (.folder entries)) :
    (disk.see (here ++ [name])).isSome = (entries.lookup name).isSome := by
  rw [Node.see, Node.find?_append, folder, Option.bind_some, Node.find?_folder_cons]
  cases entries.lookup name <;> simp

theorem follow_step (disk : Node) (here : List String) (name : String) (rest : List String) :
    follow disk here (name :: rest) =
      match disk.see here with
      | some none =>
          if name = ".." then follow disk here.dropLast rest
          else if maxNameBytes < name.utf8ByteSize then .error .nameTooLong
          else if (disk.see (here ++ [name])).isSome then follow disk (here ++ [name]) rest
          else .error .missing
      | some (some _) => .error .notDirectory
      | none => .error .missing := by
  rw [follow]
  cases found : disk.find? here with
  | none => simp only [Node.see, found, Option.map_none]
  | some node =>
      cases node with
      | file content => simp only [Node.see, found, Option.map_some, Node.surface]
      | folder entries =>
          have child := see_child disk here name found
          have isFolder : disk.see here = some none := by
            rw [Node.see, found]
            rfl
          simp only [isFolder, beq_iff_eq]
          split
          · rfl
          split
          · rfl
          · cases inside : entries.lookup name with
            | none =>
                rw [inside] at child
                simp [child]
            | some node =>
                rw [inside] at child
                simp [child]

theorem follow_cons (disk : Node) (here : List String) (name : String) (rest : List String)
    (forward : name ≠ "..") :
    follow disk here (name :: rest) =
      match disk.see here with
      | some none =>
          if maxNameBytes < name.utf8ByteSize then .error .nameTooLong
          else if (disk.see (here ++ [name])).isSome then follow disk (here ++ [name]) rest
          else .error .missing
      | some (some _) => .error .notDirectory
      | none => .error .missing := by
  rw [follow_step]
  simp only [if_neg forward]

theorem follow_back (disk : Node) (here rest : List String) :
    follow disk here (".." :: rest) =
      match disk.see here with
      | some none => follow disk here.dropLast rest
      | some (some _) => .error .notDirectory
      | none => .error .missing := by
  rw [follow_step]
  rfl

theorem follow_congr {disk disk' : Node} {hidden : List String}
    (same : ∀ place, ¬ hidden <+: place → disk'.see place = disk.see place) (names : List String) :
    ∀ here, Forward names → ¬ hidden <+: here ++ names →
      follow disk' here names = follow disk here names := by
  induction names with
  | nil =>
      intro here _ _
      rfl
  | cons name names ih =>
      intro here forward apart
      have step : here ++ name :: names = (here ++ [name]) ++ names := by simp
      rw [step] at apart
      have apartHere : ¬ hidden <+: here := fun inside =>
        apart ((inside.trans (List.prefix_append here [name])).trans (List.prefix_append _ names))
      have apartNext : ¬ hidden <+: here ++ [name] := fun inside =>
        apart (inside.trans (List.prefix_append _ names))
      rw [follow_cons disk' here name names (forward name (by simp)),
        follow_cons disk here name names (forward name (by simp)), same here apartHere,
        same _ apartNext, ih (here ++ [name]) (fun n member => forward n (by simp [member])) apart]

theorem follow_ok {disk : Node} (names : List String) :
    ∀ {here place : List String}, Forward names → follow disk here names = .ok place →
      place = here ++ names := by
  induction names with
  | nil =>
      intro here place _ reached
      cases reached
      simp
  | cons name names ih =>
      intro here place forward reached
      rw [follow_cons disk here name names (forward name (by simp))] at reached
      split at reached
      · split at reached
        · cases reached
        · split at reached
          · have next := ih (fun n member => forward n (by simp [member])) reached
            rw [next, List.append_assoc]
            rfl
          · cases reached
      · cases reached
      · cases reached

theorem follow_prefix {disk : Node} (first second : List String) :
    ∀ {here place : List String}, Forward first → follow disk here (first ++ second) = .ok place →
      follow disk here first = .ok (here ++ first) := by
  induction first with
  | nil =>
      intro here place _ _
      rw [List.append_nil]
      rfl
  | cons name first ih =>
      intro here place forward reached
      rw [List.cons_append, follow_cons disk here name _ (forward name (by simp))] at reached
      rw [follow_cons disk here name _ (forward name (by simp))]
      split at reached
      · split at reached
        · cases reached
        · rename_i short
          split at reached
          · rename_i seen
            have tail := ih (fun n member => forward n (by simp [member])) reached
            simp only [if_neg short, if_pos seen, tail, List.append_assoc, List.singleton_append]
          · cases reached
      · cases reached
      · cases reached

/-! Reading and looking. -/

theorem locate_eq (fs : FileSystem) (path : Path) :
    fs.locate path =
      match admissible path with
      | .error e => .error e
      | .ok _ =>
          match follow fs.disk (fs.startOf path) path.parts with
          | .error refusal => .error (.refused refusal path.text)
          | .ok place =>
              match fs.disk.find? place with
              | some node => .ok (place, node)
              | none => .error (.refused .missing path.text) := by
  unfold locate
  cases admissible path with
  | error e => rfl
  | ok done =>
      cases follow fs.disk (fs.startOf path) path.parts with
      | error refusal => rfl
      | ok place => rfl

theorem startOf_absolute (fs : FileSystem) {path : Path} (absolute : path.isAbsolute = true) :
    fs.startOf path = [] := by
  rw [startOf, if_pos absolute]

private theorem locate_ok {fs : FileSystem} {path : Path} {place : List String} {node : Node}
    (absolute : path.isAbsolute = true) (forward : Forward path.parts)
    (located : fs.locate path = .ok (place, node)) :
    admissible path = .ok () ∧ follow fs.disk [] path.parts = .ok path.parts ∧
      place = path.parts ∧ fs.disk.find? path.parts = some node := by
  rw [locate_eq, fs.startOf_absolute absolute] at located
  split at located
  · cases located
  · rename_i admitted
    split at located
    · cases located
    · rename_i reached followed
      have here := follow_ok path.parts forward followed
      rw [List.nil_append] at here
      subst here
      split at located
      · rename_i found
        cases located
        exact ⟨admitted, followed, rfl, found⟩
      · cases located

theorem read_eq (fs : FileSystem) {path : Path} (absolute : path.isAbsolute = true) :
    fs.read path =
      match admissible path with
      | .error e => .error e
      | .ok _ =>
          match follow fs.disk [] path.parts with
          | .error refusal => .error (.refused refusal path.text)
          | .ok place =>
              match fs.disk.see place with
              | some (some content) => .ok content
              | some none => .error (.refused .isDirectory path.text)
              | none => .error (.refused .missing path.text) := by
  unfold FileSystem.read
  rw [locate_eq, fs.startOf_absolute absolute]
  cases admissible path with
  | error e => rfl
  | ok done =>
      cases follow fs.disk [] path.parts with
      | error refusal => rfl
      | ok place =>
          simp only [Node.see]
          cases fs.disk.find? place with
          | none => rfl
          | some node => cases node <;> rfl

theorem find?_of_read {fs : FileSystem} {path : Path} {content : ByteArray}
    (absolute : path.isAbsolute = true) (forward : Forward path.parts)
    (read : fs.read path = .ok content) : fs.disk.find? path.parts = some (.file content) := by
  rw [fs.read_eq absolute] at read
  split at read
  · cases read
  · split at read
    · cases read
    · rename_i place followed
      have here := follow_ok path.parts forward followed
      rw [List.nil_append] at here
      subst here
      split at read
      · rename_i seen
        cases read
        exact Node.see_eq_file.mp seen
      · cases read
      · cases read

/-- Reading sees no difference at a hidden place that its path does not lead through. -/
theorem read_congr {fs fs' : FileSystem} {hidden : List String} {path : Path}
    (same : ∀ place, ¬ hidden <+: place → fs'.disk.see place = fs.disk.see place)
    (absolute : path.isAbsolute = true) (forward : Forward path.parts)
    (apart : ¬ hidden <+: path.parts) : fs'.read path = fs.read path := by
  rw [fs.read_eq absolute, fs'.read_eq absolute,
    follow_congr same path.parts [] forward (by simpa using apart)]
  cases admissible path with
  | error e => rfl
  | ok done =>
      cases followed : follow fs.disk [] path.parts with
      | error refusal => rfl
      | ok place =>
          have here := follow_ok path.parts forward followed
          rw [List.nil_append] at here
          subst here
          simp only [same path.parts apart]

/-! Directories. -/

private theorem look_eq_some {fs : FileSystem} {path : Path} {node : Node}
    (looked : fs.look path = .ok (some node)) :
    ∃ place, fs.locate path = .ok (place, node) := by
  unfold look at looked
  split at looked
  · rename_i place node' located
    cases looked
    exact ⟨place, located⟩
  · cases looked
  · cases looked

/-- A directory at a path from the root, with what makes it reachable. -/
structure DirectoryAt (fs : FileSystem) (path : Path) (entries : List (String × Node)) :
    Prop where
  absolute : path.isAbsolute = true
  forward : Forward path.parts
  admitted : admissible path = .ok ()
  followed : follow fs.disk [] path.parts = .ok path.parts
  found : fs.disk.find? path.parts = some (.folder entries)

theorem directoryAt_of_look {fs : FileSystem} {path : Path} {entries : List (String × Node)}
    (absolute : path.isAbsolute = true) (forward : Forward path.parts)
    (looked : fs.look path = .ok (some (.folder entries))) : DirectoryAt fs path entries := by
  obtain ⟨place, located⟩ := look_eq_some looked
  obtain ⟨admitted, followed, _, found⟩ := locate_ok absolute forward located
  exact ⟨absolute, forward, admitted, followed, found⟩

namespace DirectoryAt

variable {fs : FileSystem} {path : Path} {entries : List (String × Node)}

theorem look (directory : DirectoryAt fs path entries) :
    fs.look path = .ok (some (.folder entries)) := by
  unfold FileSystem.look
  rw [locate_eq, fs.startOf_absolute directory.absolute, directory.admitted, directory.followed]
  simp only [directory.found]

theorem congr {fs' : FileSystem} {hidden : List String}
    (directory : DirectoryAt fs path entries)
    (same : ∀ place, ¬ hidden <+: place → fs'.disk.see place = fs.disk.see place)
    (apart : ¬ hidden <+: path.parts) : ∃ entries', DirectoryAt fs' path entries' := by
  have seen := same path.parts apart
  rw [Node.see_eq_folder.mpr ⟨entries, directory.found⟩] at seen
  obtain ⟨entries', found⟩ := Node.see_eq_folder.mp seen
  refine ⟨entries', directory.absolute, directory.forward, directory.admitted, ?_, found⟩
  rw [follow_congr same path.parts [] directory.forward (by simpa using apart),
    directory.followed]

end DirectoryAt

/-! Writing. -/

/-- What is known of the place where an entry is to be made. -/
structure Site (fs : FileSystem) (path : Path) (place : List String) (name : String)
    (entries : List (String × Node)) : Prop where
  admitted : admissible path = .ok ()
  parts : path.parts = path.parts.dropLast ++ [name]
  followed : follow fs.disk (fs.startOf path) path.parts.dropLast = .ok place
  folder : fs.disk.find? place = some (.folder entries)
  forward : name ≠ ".."
  short : ¬ maxNameBytes < name.utf8ByteSize

theorem site_eq_some {fs : FileSystem} {path : Path} {place : List String} {name : String}
    {there : Option Node} (found : fs.site path = .ok (some (place, name, there))) :
    ∃ entries, Site fs path place name entries ∧ there = entries.lookup name := by
  unfold site at found
  cases admitted : admissible path with
  | error e =>
      simp only [admitted, bind, Except.bind] at found
      cases found
  | ok done =>
      simp only [admitted, bind, Except.bind] at found
      split at found
      · cases found
      · rename_i reached followed
        split at found
        · rename_i entries last isFolder isLast
          split at found
          · cases found
          · rename_i forward
            split at found
            · cases found
            · rename_i short
              cases found
              obtain ⟨front, parts⟩ := List.getLast?_eq_some_iff.mp isLast
              have split : path.parts = path.parts.dropLast ++ [name] := by
                rw [parts, List.dropLast_concat]
              exact ⟨entries, ⟨admitted, split, followed, isFolder, by simpa using forward, short⟩,
                rfl⟩
        · cases found
        · cases found
        · cases found

theorem site_ok {fs : FileSystem} {path : Path} {place : List String} {name : String}
    {there : Option Node} (absolute : path.isAbsolute = true) (forward : Forward path.parts)
    (found : fs.site path = .ok (some (place, name, there))) : place ++ [name] = path.parts := by
  obtain ⟨entries, site, _⟩ := site_eq_some found
  have forward' : Forward path.parts.dropLast := fun n member =>
    forward n (List.dropLast_subset _ member)
  have followed := site.followed
  rw [fs.startOf_absolute absolute] at followed
  have here := follow_ok _ forward' followed
  rw [List.nil_append] at here
  rw [here, ← site.parts]

theorem write_eq_ok {fs fs' : FileSystem} {path : Path} {content : ByteArray}
    (written : fs.write path content = .ok fs') :
    ∃ place name there, fs.site path = .ok (some (place, name, there)) ∧
      (∀ entries, there ≠ some (.folder entries)) ∧
      fs' = { fs with disk := fs.disk.put (place ++ [name]) (.file content) } := by
  unfold write at written
  cases found : fs.site path with
  | error e =>
      simp only [found, bind, Except.bind] at written
      cases written
  | ok site =>
      simp only [found, bind, Except.bind] at written
      split at written
      · cases written
      · cases written
      · rename_i place name there noFolder
        cases written
        exact ⟨place, name, there, rfl, noFolder, rfl⟩

theorem write_ok {fs fs' : FileSystem} {path : Path} {content : ByteArray}
    (absolute : path.isAbsolute = true) (forward : Forward path.parts)
    (written : fs.write path content = .ok fs') :
    fs' = { fs with disk := fs.disk.put path.parts (.file content) } := by
  obtain ⟨place, name, there, found, _, rfl⟩ := write_eq_ok written
  rw [site_ok absolute forward found]

theorem makeDirectory_ok {fs fs' : FileSystem} {path : Path}
    (absolute : path.isAbsolute = true) (forward : Forward path.parts)
    (made : fs.makeDirectory path = .ok fs') :
    fs' = { fs with disk := fs.disk.put path.parts .empty } := by
  unfold makeDirectory at made
  cases place : fs.site path with
  | error e =>
      simp only [place, bind, Except.bind] at made
      cases made
  | ok found =>
      simp only [place, bind, Except.bind] at made
      split at made
      · cases made
      · cases made
      · cases made
        rw [site_ok absolute forward place]

/-- After an attempt to write, the disk is as before or holds a beginning of the content. -/
theorem tryWrite_disk (fs : FileSystem) {path : Path} (content : ByteArray)
    (absolute : path.isAbsolute = true) (forward : Forward path.parts) :
    (fs.tryWrite path content).1.cwd = fs.cwd ∧
      ((fs.tryWrite path content).1.disk = fs.disk ∨
        ∃ kept, (fs.tryWrite path content).1.disk =
          fs.disk.put path.parts (.file (content.extract 0 kept))) := by
  unfold tryWrite
  simp only
  split
  · exact ⟨rfl, .inl rfl⟩
  · rename_i written _ done _
    have same := write_ok absolute forward done
    subst same
    refine ⟨rfl, .inr ⟨content.size, ?_⟩⟩
    rw [ByteArray.extract_zero_size]
  · exact ⟨rfl, .inl rfl⟩
  · split
    · rename_i written done
      have same := write_ok absolute forward done
      subst same
      exact ⟨rfl, .inr ⟨_, rfl⟩⟩
    · exact ⟨rfl, .inl rfl⟩

namespace DirectoryAt

variable {fs : FileSystem} {path : Path} {entries : List (String × Node)}

private theorem isDirectory (directory : DirectoryAt fs path entries) :
    fs.isDirectory path = .ok true := by
  rw [FileSystem.isDirectory, directory.look]
  rfl

private theorem makeDirectory (directory : DirectoryAt fs path entries) :
    ∃ refusal text, fs.makeDirectory path = .error (.refused refusal text) ∧
      refusal ≠ .missing := by
  have found := directory.found
  have followed := directory.followed
  unfold FileSystem.makeDirectory site
  rw [directory.admitted, fs.startOf_absolute directory.absolute]
  obtain none | ⟨front, name, parts⟩ := List.eq_nil_or_concat path.parts
  · rw [none, Node.find?_nil] at found
    rw [none]
    refine ⟨.present, path.text, ?_, by simp⟩
    simp only [bind, Except.bind, List.dropLast_nil, follow, List.getLast?_nil, Node.find?_nil,
      found]
    rfl
  · have forward : Forward (front ++ [name]) := by
      rw [← List.concat_eq_append, ← parts]
      exact directory.forward
    rw [parts, List.concat_eq_append] at found followed ⊢
    have before := follow_prefix front [name] (fun n member => forward n (by simp [member]))
      followed
    rw [Node.find?_append] at found
    obtain ⟨node, above, inside⟩ := Option.bind_eq_some_iff.mp found
    obtain ⟨siblings, child, rfl, there, _⟩ := Node.find?_cons_eq_some.mp inside
    have noBack : (name == "..") = false := by simpa using forward name (by simp)
    by_cases long : maxNameBytes < name.utf8ByteSize
    · refine ⟨.nameTooLong, path.text, ?_, by simp⟩
      simp only [bind, Except.bind, List.dropLast_concat, before, List.nil_append, above,
        List.getLast?_concat, noBack, Bool.false_eq_true, if_false, if_pos long]
      rfl
    · refine ⟨.present, path.text, ?_, by simp⟩
      simp only [bind, Except.bind, List.dropLast_concat, before, List.nil_append, above,
        List.getLast?_concat, noBack, Bool.false_eq_true, if_false, if_neg long, there]
      rfl

theorem makeDirectories (directory : DirectoryAt fs path entries) :
    fs.makeDirectories path = .ok fs := by
  obtain ⟨refusal, text, refused, present⟩ := directory.makeDirectory
  have isDirectory := directory.isDirectory
  have stays : fs.unlessDirectory path (.refused refusal text) = .ok fs := by
    rw [unlessDirectory, isDirectory]
    rfl
  obtain ⟨anchor, parts⟩ := path
  unfold FileSystem.makeDirectories
  cases reversed : parts.reverse with
  | nil =>
      have none : parts = [] := by simpa using reversed
      subst none
      rw [makeAlong]
      simp only [refused]
      cases refusal <;> simp_all
  | cons name above =>
      have whole : (name :: above).reverse = parts := by rw [← reversed, List.reverse_reverse]
      rw [makeAlong]
      simp only [whole, refused]
      cases refusal <;> simp_all

end DirectoryAt

end FileSystem

end MobileAudit
