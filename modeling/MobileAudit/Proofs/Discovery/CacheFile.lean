import MobileAudit.Discovery.Walk
import MobileAudit.Proofs.Disk.Access
import MobileAudit.Proofs.Disk.PathText

namespace MobileAudit

open Disk Exclusion

/-! The cache file is not among the files of a project, unless a pattern takes paths back in.  So the
files of a project are the same before and after the cache file has been written. -/

namespace Exclusion

/-- A pattern that takes paths back in. -/
def reincludes (pattern : String) : Bool := (Text.trim pattern.toList).head? == some '!'

def ruleOf? (caseSensitive : Bool) (pattern : String) : Option PathRule :=
  match compile caseSensitive pattern with
  | .rule rule => some rule
  | _ => none

private theorem readSigns_reincludes (pattern : List Char) :
    (readSigns pattern).reincludes = (pattern.head? == some '!') := by
  unfold readSigns
  simp only [apply_ite PatternSigns.reincludes, ite_self]

@[simp] theorem ruleOf?_eq_some {caseSensitive : Bool} {pattern : String} {rule : PathRule} :
    ruleOf? caseSensitive pattern = some rule ↔ compile caseSensitive pattern = .rule rule := by
  unfold ruleOf?
  cases compile caseSensitive pattern <;> simp

private theorem readRule_of_compile {caseSensitive : Bool} {pattern : String} {rule : PathRule}
    (compiled : compile caseSensitive pattern = .rule rule) :
    readRule caseSensitive (Text.trim pattern.toList) = .ok rule := by
  unfold compile at compiled
  simp only at compiled
  split at compiled
  · cases compiled
  · split at compiled
    · rename_i read
      cases compiled
      exact read
    · cases compiled
    · cases compiled

private theorem readRule_reincludes {caseSensitive : Bool} {trimmed : List Char} {rule : PathRule}
    (read : readRule caseSensitive trimmed = .ok rule) :
    rule.reincludes = (trimmed.head? == some '!') := by
  simp only [readRule, bind, Except.bind] at read
  split at read
  · cases read
  · split at read
    · cases read
    · cases read
      exact readSigns_reincludes trimmed

theorem ruleOf?_reincludes {caseSensitive : Bool} {pattern : String} {rule : PathRule}
    (compiled : ruleOf? caseSensitive pattern = some rule) :
    rule.reincludes = reincludes pattern :=
  readRule_reincludes (readRule_of_compile (ruleOf?_eq_some.mp compiled))

def breakdown? (caseSensitive : Bool) (pattern : String) : Option Pattern.Breakdown :=
  match compile caseSensitive pattern with
  | .broken cause => some cause
  | _ => none

theorem breakdown?_of_rule {caseSensitive : Bool} {pattern : String} {rule : PathRule}
    (compiled : ruleOf? caseSensitive pattern = some rule) :
    breakdown? caseSensitive pattern = none := by
  rw [breakdown?, ruleOf?_eq_some.mp compiled]

/-- What the first of the patterns that break down breaks down with. -/
def firstBreakdown? (patterns : List String) : Option Pattern.Breakdown :=
  patterns.findSome? (breakdown? true)

@[simp] theorem firstBreakdown?_append (patterns further : List String) :
    firstBreakdown? (patterns ++ further) =
      (firstBreakdown? patterns).or (firstBreakdown? further) :=
  List.findSome?_append

/-- The filter of those patterns that give a rule. -/
def filterOf (patterns : List String) : PathFilter where
  caseSensitive := true
  patterns := patterns.filter fun pattern => (ruleOf? true pattern).isSome
  rules := patterns.filterMap (ruleOf? true)

namespace PathFilter

private theorem add_value (filter : PathFilter) (pattern : String) :
    (filter.add pattern).value =
      match breakdown? filter.caseSensitive pattern with
      | some cause => .error cause
      | none => .ok ⟨filter.caseSensitive,
          filter.patterns ++
            if (ruleOf? filter.caseSensitive pattern).isSome then [pattern] else [],
          filter.rules ++ (ruleOf? filter.caseSensitive pattern).toList⟩ := by
  unfold add breakdown? ruleOf?
  cases compile filter.caseSensitive pattern <;> simp [accept]

private theorem addAll_value (patterns : List String) : ∀ kept rules,
    (addAll ⟨true, kept, rules⟩ patterns).value =
      match firstBreakdown? patterns with
      | some cause => .error cause
      | none => .ok ⟨true, kept ++ (filterOf patterns).patterns,
          rules ++ (filterOf patterns).rules⟩ := by
  induction patterns with
  | nil =>
      intro kept rules
      simp [addAll, firstBreakdown?, filterOf]
  | cons pattern patterns ih =>
      intro kept rules
      simp only [addAll, add_value, firstBreakdown?, List.findSome?_cons]
      cases breakdown? true pattern with
      | some cause => rfl
      | none =>
          simp only [ih, firstBreakdown?, filterOf, List.filter_cons, List.filterMap_cons]
          cases ruleOf? true pattern <;> simp

private theorem ofPatterns_value (patterns : List String) :
    (ofPatterns patterns).value =
      match firstBreakdown? patterns with
      | some cause => .error cause
      | none => .ok (filterOf patterns) := by
  rw [ofPatterns, empty, addAll_value]
  rfl

theorem excludes_eq (filter : PathFilter) (path : List Char) (isDirectory : Bool) :
    filter.excludes path isDirectory =
      match filter.decidingRule? (normalize path) isDirectory with
      | some rule => !rule.reincludes
      | none => false := by
  unfold excludes check
  simp only
  cases filter.decidingRule? (normalize path) isDirectory <;> rfl

/-- The last of the further patterns that applies decides, or else the others. -/
theorem decidingRule?_append (patterns further : List String) (path : List Char)
    (isDirectory : Bool) :
    (filterOf (patterns ++ further)).decidingRule? path isDirectory =
      ((further.filterMap (ruleOf? true)).reverse.find? (·.applies path isDirectory)).or
        ((filterOf patterns).decidingRule? path isDirectory) := by
  unfold decidingRule? filterOf
  rw [List.filterMap_append, List.reverse_append, List.find?_append]

/-- What a filter excludes it excludes with further patterns, unless one of them takes paths back
in. -/
theorem excludes_append (patterns further : List String)
    (noneBack : ∀ pattern ∈ further, reincludes pattern = false) (path : List Char)
    (isDirectory : Bool) (excluded : (filterOf patterns).excludes path isDirectory = true) :
    (filterOf (patterns ++ further)).excludes path isDirectory = true := by
  rw [excludes_eq] at excluded
  rw [excludes_eq, decidingRule?_append]
  cases found : (further.filterMap (ruleOf? true)).reverse.find?
      (·.applies (normalize path) isDirectory) with
  | none =>
      rw [Option.none_or]
      exact excluded
  | some rule =>
      have member := List.mem_of_find?_eq_some found
      rw [List.mem_reverse] at member
      obtain ⟨pattern, inside, compiled⟩ := List.mem_filterMap.mp member
      simp only [Option.some_or, ruleOf?_reincludes compiled, noneBack pattern inside,
        Bool.not_false]

end PathFilter

end Exclusion

namespace Discovery

theorem defaultExcludes_exclude : ∀ pattern ∈ defaultExcludes, reincludes pattern = false := by
  decide

/-- The filter of a project none of whose patterns breaks down. -/
def filterFor (excludes : List String) : PathFilter := filterOf (defaultExcludes ++ excludes)

@[simp] theorem defaultExcludes_whole : firstBreakdown? defaultExcludes = none := by
  decide

theorem projectFilter_value (excludes : List String) :
    (projectFilter excludes).value =
      match firstBreakdown? excludes with
      | some cause => .error cause
      | none => .ok (filterFor excludes) := by
  rw [projectFilter, PathFilter.ofPatterns_value, firstBreakdown?_append, defaultExcludes_whole,
    Option.none_or]
  rfl

theorem projectFilter_eq_ok {excludes : List String} {filter : PathFilter} :
    (projectFilter excludes).value = .ok filter ↔
      firstBreakdown? excludes = none ∧ filterFor excludes = filter := by
  rw [projectFilter_value]
  cases firstBreakdown? excludes <;> simp

private theorem cacheFile_excluded_by_default (isDirectory : Bool) :
    (filterFor []).excludes (relativeText [defaultCacheFile]).toList isDirectory = true := by
  cases isDirectory <;> decide +kernel

theorem cacheFile_excluded (excludes : List String)
    (noneBack : ∀ pattern ∈ excludes, reincludes pattern = false) (isDirectory : Bool) :
    (filterFor excludes).excludes (relativeText [defaultCacheFile]).toList isDirectory = true :=
  PathFilter.excludes_append defaultExcludes excludes noneBack _ isDirectory
    (cacheFile_excluded_by_default isDirectory)

/-- The patterns for a project with a cache file of a name: the usual one is among the others. -/
def withCacheFile (excludes : List String) (name : String) : List String :=
  if name = defaultCacheFile then excludes else excludes ++ [name]

theorem visit_excluded (filter : PathFilter) (above : List String) (name : String) (node : Node)
    (excluded : ∀ isDirectory,
      filter.excludes (relativeText (above ++ [name])).toList isDirectory = true) :
    (visit filter above name node).1 = [] := by
  cases node with
  | file content =>
      simp only [visit, visitFile, excluded false, if_true]
      cases FileKind.ofName? name <;> rfl
  | folder entries =>
      have verdict : (filter.check (relativeText (above ++ [name])).toList true).excluded = true :=
        excluded true
      rw [visit, exclusionOf?]
      simp only [verdict, if_true]

theorem visitAll_cons (filter : PathFilter) (above : List String) (entry : String × Node)
    (entries : List (String × Node)) :
    (visitAll filter above (entry :: entries)).1 =
      (visit filter above entry.1 entry.2).1 ++ (visitAll filter above entries).1 := rfl

theorem visitAll_putEntry (filter : PathFilter) (above : List String) (name : String)
    (node : Node) (entries : List (String × Node))
    (excluded : ∀ isDirectory,
      filter.excludes (relativeText (above ++ [name])).toList isDirectory = true) :
    (visitAll filter above (Node.putEntry name node entries)).1 =
      (visitAll filter above entries).1 := by
  induction entries with
  | nil =>
      rw [Node.putEntry, visitAll_cons, visit_excluded filter above name node excluded]
      rfl
  | cons entry entries ih =>
      obtain ⟨n, old⟩ := entry
      rw [Node.putEntry]
      split
      · rename_i here
        rw [beq_iff_eq] at here
        subst here
        rw [visitAll_cons, visitAll_cons, visit_excluded filter above n node excluded,
          visit_excluded filter above n old excluded]
      · rw [visitAll_cons, visitAll_cons, ih]

theorem mem_visitAll {filter : PathFilter} {above : List String}
    {entries : List (String × Node)} {found : Found}
    (member : found ∈ (visitAll filter above entries).1) :
    ∃ entry ∈ entries, found ∈ (visit filter above entry.1 entry.2).1 := by
  induction entries with
  | nil => cases member
  | cons entry entries ih =>
      rw [visitAll_cons, List.mem_append] at member
      obtain here | later := member
      · exact ⟨entry, by simp, here⟩
      · obtain ⟨other, inside, there⟩ := ih later
        exact ⟨other, by simp [inside], there⟩

private theorem parts_of_mem_visit {filter : PathFilter} {node : Node} (proper : node.Proper) :
    ∀ {above : List String} {name : String} {found : Found},
      found ∈ (visit filter above name node).1 →
        ∃ below, found.parts = above ++ name :: below ∧ ∀ n ∈ below, ProperName n := by
  induction proper with
  | file content =>
      intro above name found member
      rw [visit, visitFile] at member
      cases kind : FileKind.ofName? name with
      | none =>
          rw [kind] at member
          cases member
      | some found =>
          rw [kind, Option.elim_some] at member
          split at member
          · cases member
          · rw [List.mem_singleton] at member
            subst member
            exact ⟨[], rfl, by simp⟩
  | folder entries names nodes ih =>
      intro above name found member
      rw [visit] at member
      split at member
      · cases member
      · obtain ⟨entry, inside, there⟩ := mem_visitAll member
        obtain ⟨below, parts, properBelow⟩ := ih entry inside there
        refine ⟨entry.1 :: below, ?_, ?_⟩
        · rw [parts, List.append_assoc, List.singleton_append]
        · intro n member
          rw [List.mem_cons] at member
          obtain rfl | later := member
          · exact names entry inside
          · exact properBelow n later

private theorem parts_of_mem_visitAll {filter : PathFilter} {entries : List (String × Node)}
    {found : Found} {name : String} (proper : (Node.folder entries).Proper)
    (excluded : ∀ isDirectory,
      filter.excludes (relativeText [name]).toList isDirectory = true)
    (member : found ∈ (visitAll filter [] entries).1) :
    ¬ [name] <+: found.parts ∧ ∀ n ∈ found.parts, ProperName n := by
  obtain ⟨entry, inside, there⟩ := mem_visitAll member
  cases proper with
  | folder _ names nodes =>
      obtain ⟨below, parts, properBelow⟩ := parts_of_mem_visit (nodes entry inside) there
      rw [List.nil_append] at parts
      refine ⟨?_, ?_⟩
      · rw [parts, List.cons_prefix_cons]
        rintro ⟨rfl, _⟩
        rw [visit_excluded filter [] entry.1 entry.2 excluded] at there
        cases there
      · intro n inParts
        rw [parts, List.mem_cons] at inParts
        obtain rfl | later := inParts
        · exact names entry inside
        · exact properBelow n later

private theorem mem_pathsOf {root : Path} {found : List Found} {kind : FileKind} {path : String}
    (member : path ∈ pathsOf root found kind) :
    ∃ f ∈ found, path = (Path.mk root.anchor (root.parts ++ f.parts)).text := by
  unfold pathsOf at member
  rw [List.mem_mergeSort] at member
  obtain ⟨f, inside, rfl⟩ := List.mem_map.mp member
  exact ⟨f, (List.mem_filter.mp inside).1, rfl⟩

private theorem mem_all_groupOf {root : Path} {found : List Found} {path : String}
    (member : path ∈ (groupOf root found).all) :
    ∃ f ∈ found, path = (Path.mk root.anchor (root.parts ++ f.parts)).text := by
  simp only [FileGroup.all, groupOf, List.mem_append] at member
  rcases member with inKind | inKind | inKind | inKind <;> exact mem_pathsOf inKind

theorem hasNull_of_admissible {path : Path} (admitted : FileSystem.admissible path = .ok ()) :
    path.hasNull = false := by
  unfold FileSystem.admissible at admitted
  split at admitted
  · cases admitted
  · rename_i noNull
    simpa using noNull

/-- Nothing is found with a pattern that breaks down, whatever is on the disk. -/
theorem walk_broken {excludes : List String} {cause : Pattern.Breakdown}
    (broken : firstBreakdown? excludes = some cause) (fs : FileSystem) (path : Path) :
    (walk fs excludes path).value = .error (.pattern cause) := by
  simp only [walk, projectFilter_value, broken]

theorem whole_of_walk {fs : FileSystem} {excludes : List String} {path : Path}
    {group : FileGroup} (walked : (walk fs excludes path).value = .ok group) :
    firstBreakdown? excludes = none := by
  cases broken : firstBreakdown? excludes with
  | none => rfl
  | some cause =>
      rw [walk_broken broken] at walked
      cases walked

theorem walk_directory {fs : FileSystem} {parts : List String} {entries : List (String × Node)}
    (directory : fs.DirectoryAt (.fromRoot parts) entries) {excludes : List String}
    (whole : firstBreakdown? excludes = none) :
    (walk fs excludes (.fromRoot parts)).value =
      .ok (groupOf (.fromRoot parts) (visitAll (filterFor excludes) [] entries).1) := by
  have resolved : fs.resolve (.fromRoot parts) = .ok (.fromRoot parts) := by
    rw [FileSystem.resolve, hasNull_of_admissible directory.admitted,
      Path.absolute_fromRoot fs.cwd parts directory.forward]
    rfl
  simp only [walk, projectFilter_value, whole, resolved, directory.look]
  rfl

theorem directoryAt_put {fs fs' : FileSystem} {parts : List String}
    {entries : List (String × Node)} (directory : fs.DirectoryAt (.fromRoot parts) entries)
    {name : String} {content : ByteArray}
    (written : fs'.disk = fs.disk.put (parts ++ [name]) (.file content)) :
    fs'.DirectoryAt (.fromRoot parts) (Node.putEntry name (.file content) entries) := by
  have same : ∀ place, ¬ parts ++ [name] <+: place →
      fs'.disk.see place = fs.disk.see place := by
    intro place apart
    rw [written]
    exact Node.see_put _ _ _ place apart
  have apart : ¬ parts ++ [name] <+: (Path.fromRoot parts).parts := by
    intro inside
    have := inside.length_le
    simp only [Path.fromRoot, List.length_append, List.length_singleton] at this
    omega
  obtain ⟨entries', directory'⟩ := directory.congr same apart
  have found := directory'.found
  have found' : fs'.disk.find? parts =
      some (.folder (Node.putEntry name (.file content) entries)) := by
    rw [written]
    exact Node.find?_put_entry parts name (.file content) directory.found
  have equal : entries' = Node.putEntry name (.file content) entries :=
    Node.folder.inj (Option.some.inj (found.symm.trans found'))
  rw [← equal]
  exact directory'

/-- The files of a project do not depend on its cache file. -/
theorem walk_put {fs fs' : FileSystem} {parts : List String} {entries : List (String × Node)}
    (directory : fs.DirectoryAt (.fromRoot parts) entries) (excludes : List String)
    (noneBack : ∀ pattern ∈ excludes, reincludes pattern = false) {content : ByteArray}
    (written : fs'.disk = fs.disk.put (parts ++ [defaultCacheFile]) (.file content)) :
    (walk fs' excludes (.fromRoot parts)).value = (walk fs excludes (.fromRoot parts)).value := by
  cases whole : firstBreakdown? excludes with
  | some cause => rw [walk_broken whole, walk_broken whole]
  | none =>
      have same := visitAll_putEntry (filterFor excludes) [] defaultCacheFile (.file content)
        entries (cacheFile_excluded excludes noneBack)
      rw [walk_directory (directoryAt_put directory written) whole, walk_directory directory whole,
        same]

theorem path_of_mem_all {fs : FileSystem} {parts : List String} {entries : List (String × Node)}
    (directory : fs.DirectoryAt (.fromRoot parts) entries) (proper : fs.disk.Proper)
    (properParts : ∀ name ∈ parts, ProperName name) (excludes : List String)
    (noneBack : ∀ pattern ∈ excludes, reincludes pattern = false) {group : FileGroup}
    (walked : (walk fs excludes (.fromRoot parts)).value = .ok group) {path : String}
    (member : path ∈ group.all) :
    ∃ place, Path.ofText path = .fromRoot place ∧ (∀ name ∈ place, ProperName name) ∧
      ¬ parts ++ [defaultCacheFile] <+: place := by
  rw [walk_directory directory (whole_of_walk walked)] at walked
  cases walked
  obtain ⟨f, found, rfl⟩ := mem_all_groupOf member
  obtain ⟨apart, properFound⟩ := parts_of_mem_visitAll (proper.find? directory.found)
    (cacheFile_excluded excludes noneBack) found
  have properAll : ∀ name ∈ parts ++ f.parts, ProperName name := by
    intro name member
    obtain inRoot | inFound := List.mem_append.mp member
    · exact properParts name inRoot
    · exact properFound name inFound
  refine ⟨parts ++ f.parts, Path.ofText_text (parts ++ f.parts) properAll, properAll, ?_⟩
  rw [List.prefix_append_right_inj]
  exact apart

end Discovery

end MobileAudit
