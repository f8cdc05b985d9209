import MobileAudit.Proofs.Discovery.CacheFile

namespace MobileAudit

open Disk Exclusion

/-! The files of a project are exactly those of a known kind that the filter lets through together
with every directory above them.  They come in strictly increasing order, each in one kind, whatever
the order in which directories list their entries.  There is no filter, and nothing is found, if an
exclusion pattern breaks down. -/

namespace FileKind

@[simp] theorem ofExtension?_eq_some {ending : String} {kind : FileKind} :
    ofExtension? ending = some kind ↔ Text.lower ending ∈ kind.extensions := by
  unfold ofExtension?
  generalize Text.lower ending = lowered
  constructor
  · intro found
    have contained := List.find?_some found
    rwa [List.contains_iff_mem] at contained
  · intro member
    cases kind <;>
      simp only [extensions, List.mem_cons, List.not_mem_nil, or_false] at member <;>
      rcases member with rfl | rfl | rfl | rfl <;> decide

@[simp] theorem ofName?_eq_some {name : String} {kind : FileKind} :
    ofName? name = some kind ↔ Text.lower (Path.extensionOf name) ∈ kind.extensions :=
  ofExtension?_eq_some

end FileKind

/-- The files of one kind. -/
def FileGroup.ofKind (group : FileGroup) : FileKind → List String
  | .source => group.sources
  | .config => group.configs
  | .manifest => group.manifests
  | .propertyList => group.propertyLists

theorem FileGroup.all_eq_flatMap (group : FileGroup) :
    group.all = FileKind.all.flatMap group.ofKind := by
  simp [FileGroup.all, FileKind.all, ofKind]

namespace Discovery

/-! What is found beneath a node. -/

variable (filter : PathFilter)

/-- The files beneath a node that `above` leads to. -/
def beneath (above : List String) : Node → List Found
  | .file _ => []
  | .folder entries => (visitAll filter above entries).1

theorem visitAll_eq_flatMap (above : List String) (entries : List (String × Node)) :
    (visitAll filter above entries).1 =
      entries.flatMap fun entry => (visit filter above entry.1 entry.2).1 := by
  induction entries with
  | nil => rfl
  | cons entry entries ih => rw [visitAll_cons, ih, List.flatMap_cons]

theorem visit_folder (above : List String) (name : String) (entries : List (String × Node)) :
    (visit filter above name (.folder entries)).1 =
      if filter.excludes (relativeText (above ++ [name])).toList true then []
      else beneath filter (above ++ [name]) (.folder entries) := by
  rw [visit, exclusionOf?, PathFilter.excludes]
  cases (filter.check (relativeText (above ++ [name])).toList true).excluded <;> rfl

variable {filter}

theorem mem_visitFile {above : List String} {name : String} {found : Found} :
    found ∈ visitFile filter above name ↔
      FileKind.ofName? name = some found.kind ∧ found.parts = above ++ [name] ∧
        filter.excludes (relativeText (above ++ [name])).toList false = false := by
  obtain ⟨kind, parts⟩ := found
  unfold visitFile
  cases FileKind.ofName? name with
  | none => simp
  | some known =>
      cases filter.excludes (relativeText (above ++ [name])).toList false with
      | true => simp
      | false => simp [eq_comm (a := kind)]

theorem mem_visit {above : List String} {name : String} {node : Node} {found : Found} :
    found ∈ (visit filter above name node).1 ↔
      (∃ content, node = .file content) ∧ found ∈ visitFile filter above name ∨
        filter.excludes (relativeText (above ++ [name])).toList true = false ∧
          found ∈ beneath filter (above ++ [name]) node := by
  cases node with
  | file content => simp [visit, beneath]
  | folder entries =>
      rw [visit_folder]
      cases filter.excludes (relativeText (above ++ [name])).toList true <;> simp

/-- A way of directories to a file of a name is let through if the filter excludes neither the file
nor one of the directories. -/
def LetThrough (filter : PathFilter) (above directories : List String) (name : String) : Prop :=
  filter.excludes (relativeText (above ++ (directories ++ [name]))).toList false = false ∧
    ∀ way, way ≠ [] → way <+: directories →
      filter.excludes (relativeText (above ++ way)).toList true = false

@[simp] theorem letThrough_nil {above : List String} {name : String} :
    LetThrough filter above [] name ↔
      filter.excludes (relativeText (above ++ [name])).toList false = false := by
  unfold LetThrough
  constructor
  · intro through
    exact through.1
  · intro kept
    refine ⟨kept, ?_⟩
    intro way some isBegin
    exact absurd (List.prefix_nil.mp isBegin) some

theorem letThrough_cons {above directories : List String} {first name : String} :
    LetThrough filter above (first :: directories) name ↔
      filter.excludes (relativeText (above ++ [first])).toList true = false ∧
        LetThrough filter (above ++ [first]) directories name := by
  have longer : ∀ way, (above ++ [first]) ++ way = above ++ first :: way := by
    intro way
    rw [List.append_assoc, List.singleton_append]
  unfold LetThrough
  simp only [longer]
  constructor
  · rintro ⟨file, ways⟩
    refine ⟨ways [first] (by simp) (by simp), file, ?_⟩
    intro way _ isBegin
    exact ways (first :: way) (by simp) ((List.prefix_cons_inj first).mpr isBegin)
  · rintro ⟨directory, file, ways⟩
    refine ⟨file, ?_⟩
    intro way some isBegin
    rcases List.prefix_cons_iff.mp isBegin with rfl | ⟨rest, rfl, goesOn⟩
    · exact absurd rfl some
    · cases rest with
      | nil => exact directory
      | cons second rest => exact ways (second :: rest) (by simp) goesOn

theorem mem_beneath {node : Node} (distinct : node.Distinct) {found : Found} :
    ∀ {above : List String}, found ∈ beneath filter above node ↔
      ∃ directories name content, found.parts = above ++ (directories ++ [name]) ∧
        node.find? (directories ++ [name]) = some (.file content) ∧
        FileKind.ofName? name = some found.kind ∧ LetThrough filter above directories name := by
  induction distinct with
  | file content =>
      intro above
      constructor
      · intro member
        cases member
      · rintro ⟨directories, name, content, _, isThere, _⟩
        cases directories <;> cases isThere
  | folder entries names nodes ih =>
      intro above
      have lookup : ∀ entry ∈ entries, entries.lookup entry.1 = some entry.2 :=
        fun entry member => (Node.Distinct.folder entries names nodes).lookup member
      rw [beneath, visitAll_eq_flatMap, List.mem_flatMap]
      constructor
      · rintro ⟨entry, inside, visited⟩
        rcases mem_visit.mp visited with ⟨⟨content, isFile⟩, here⟩ | ⟨directory, deeper⟩
        · obtain ⟨kind, parts, kept⟩ := mem_visitFile.mp here
          refine ⟨[], entry.1, content, parts, ?_, kind, letThrough_nil.mpr kept⟩
          rw [List.nil_append, Node.find?_folder_cons, lookup entry inside, isFile]
          rfl
        · obtain ⟨directories, name, content, parts, isThere, kind, through⟩ :=
            (ih entry inside).mp deeper
          refine ⟨entry.1 :: directories, name, content, ?_, ?_, kind,
            letThrough_cons.mpr ⟨directory, through⟩⟩
          · rw [parts, List.append_assoc]
            rfl
          · rw [List.cons_append, Node.find?_folder_cons, lookup entry inside]
            exact isThere
      · rintro ⟨directories, name, content, parts, isThere, kind, through⟩
        cases directories with
        | nil =>
            obtain ⟨_, child, ⟨⟩, looked, isThere⟩ := Node.find?_cons_eq_some.mp isThere
            rw [Node.find?_nil, Option.some.injEq] at isThere
            refine ⟨(name, child), Node.mem_of_lookup looked, mem_visit.mpr (.inl ?_)⟩
            exact ⟨⟨content, isThere⟩, mem_visitFile.mpr ⟨kind, parts, letThrough_nil.mp through⟩⟩
        | cons first directories =>
            obtain ⟨directory, through⟩ := letThrough_cons.mp through
            obtain ⟨_, child, ⟨⟩, looked, isThere⟩ := Node.find?_cons_eq_some.mp isThere
            have inside := Node.mem_of_lookup looked
            refine ⟨(first, child), inside, mem_visit.mpr (.inr ⟨directory, ?_⟩)⟩
            refine (ih (first, child) inside).mpr
              ⟨directories, name, content, ?_, isThere, kind, through⟩
            rw [parts, List.append_assoc]
            rfl

/-! No file is found twice. -/

private theorem parts_beneath {node : Node} (distinct : node.Distinct) {above : List String}
    {found : Found} (member : found ∈ beneath filter above node) : above <+: found.parts := by
  obtain ⟨directories, name, _, parts, _⟩ := (mem_beneath distinct).mp member
  rw [parts]
  exact List.prefix_append above _

private theorem parts_visit {node : Node} (distinct : node.Distinct) {above : List String}
    {name : String}
    {found : Found} (member : found ∈ (visit filter above name node).1) :
    above ++ [name] <+: found.parts := by
  rcases mem_visit.mp member with ⟨_, here⟩ | ⟨_, deeper⟩
  · obtain ⟨_, parts, _⟩ := mem_visitFile.mp here
    exact ⟨[], by rw [parts, List.append_nil]⟩
  · exact parts_beneath distinct deeper

private theorem nodup_visitFile (above : List String) (name : String) :
    ((visitFile filter above name).map (·.parts)).Nodup := by
  unfold visitFile
  cases FileKind.ofName? name with
  | none => exact .nil
  | some kind =>
      rw [Option.elim_some]
      split
      · exact .nil
      · exact List.pairwise_singleton _ _

private theorem nodup_beneath (filter : PathFilter) {node : Node} (distinct : node.Distinct) :
    ∀ above, ((beneath filter above node).map (·.parts)).Nodup := by
  induction distinct with
  | file content =>
      intro above
      exact .nil
  | folder entries names nodes ih =>
      intro above
      have each : ∀ entry ∈ entries,
          ((visit filter above entry.1 entry.2).1.map (·.parts)).Nodup := by
        intro entry inside
        obtain ⟨name, node⟩ := entry
        cases node with
        | file content =>
            simp only [visit]
            exact nodup_visitFile above name
        | folder inner =>
            simp only [visit_folder]
            split
            · exact .nil
            · exact ih (name, .folder inner) inside (above ++ [name])
      rw [beneath, visitAll_eq_flatMap, List.map_flatMap, List.Nodup, List.pairwise_flatMap]
      refine ⟨each, List.Pairwise.imp_of_mem ?_ names⟩
      intro one other inOne inOther apart parts fromOne parts' fromOther same
      obtain ⟨found, visited, rfl⟩ := List.mem_map.mp fromOne
      obtain ⟨found', visited', rfl⟩ := List.mem_map.mp fromOther
      obtain ⟨rest, isRest⟩ := parts_visit (nodes one inOne) visited
      obtain ⟨rest', isRest'⟩ := parts_visit (nodes other inOther) visited'
      rw [← isRest, ← isRest', List.append_assoc, List.append_assoc,
        List.append_cancel_left_eq] at same
      exact apart (List.cons.inj same).1

/-! The order of listing. -/

private theorem visit_congr {above : List String} {name : String}
    {entries entries' : List (String × Node)}
    (same : (beneath filter (above ++ [name]) (.folder entries)).Perm
      (beneath filter (above ++ [name]) (.folder entries'))) :
    (visit filter above name (.folder entries)).1.Perm
      (visit filter above name (.folder entries')).1 := by
  rw [visit_folder, visit_folder]
  split
  · exact .refl _
  · exact same

private theorem beneath_relisted {node node' : Node} (relisted : node.Relisted node') :
    (∀ above, (beneath filter above node).Perm (beneath filter above node')) ∧
      ∀ above name, (visit filter above name node).1.Perm (visit filter above name node').1 := by
  induction relisted with
  | refl node => exact ⟨fun _ => .refl _, fun _ _ => .refl _⟩
  | @entries entries entries' reordered =>
      have same : ∀ above, (beneath filter above (.folder entries)).Perm
          (beneath filter above (.folder entries')) := by
        intro above
        rw [beneath, beneath, visitAll_eq_flatMap, visitAll_eq_flatMap]
        exact reordered.flatMap_right _
      exact ⟨same, fun above name => visit_congr (same _)⟩
  | @inside before name child child' after relisted ih =>
      have same : ∀ above, (beneath filter above (.folder (before ++ (name, child) :: after))).Perm
          (beneath filter above (.folder (before ++ (name, child') :: after))) := by
        intro above
        simp only [beneath, visitAll_eq_flatMap, List.flatMap_append, List.flatMap_cons]
        exact ((ih.2 above name).append_right _).append_left _
      exact ⟨same, fun above name => visit_congr (same _)⟩
  | trans once again first second =>
      exact ⟨fun above => (first.1 above).trans (second.1 above),
        fun above name => (first.2 above name).trans (second.2 above name)⟩

/-! The sorted paths of a kind. -/

@[simp] theorem ofKind_groupOf (root : Path) (found : List Found) (kind : FileKind) :
    (groupOf root found).ofKind kind = pathsOf root found kind := by
  cases kind <;> rfl

theorem sorted_pathsOf (root : Path) (found : List Found) (kind : FileKind) :
    (pathsOf root found kind).Pairwise (· ≤ ·) := by
  have sorted : (pathsOf root found kind).Pairwise fun a b => decide (a ≤ b) = true := by
    refine List.pairwise_mergeSort ?_ ?_ _
    · intro a b c first second
      rw [decide_eq_true_eq] at first second ⊢
      exact String.le_trans first second
    · intro a b
      rw [Bool.or_eq_true, decide_eq_true_eq, decide_eq_true_eq]
      exact String.le_total a b
  simpa only [decide_eq_true_eq] using sorted

private theorem pathsOf_perm {root : Path} {found found' : List Found} (same : found.Perm found')
    (kind : FileKind) : pathsOf root found kind = pathsOf root found' kind := by
  refine List.Perm.eq_of_pairwise (fun _ _ _ _ => String.le_antisymm)
    (sorted_pathsOf root found kind) (sorted_pathsOf root found' kind) ?_
  have sameTexts := (same.filter (·.kind == kind)).map fun f =>
    (Path.mk root.anchor (root.parts ++ f.parts)).text
  exact ((List.mergeSort_perm _ _).trans sameTexts).trans (List.mergeSort_perm _ _).symm

private theorem groupOf_perm {root : Path} {found found' : List Found} (same : found.Perm found') :
    groupOf root found = groupOf root found' := by
  unfold groupOf
  simp only [pathsOf_perm same]

theorem mem_pathsOf_iff {root : Path} {found : List Found} {kind : FileKind} {path : String} :
    path ∈ pathsOf root found kind ↔
      ∃ f ∈ found, f.kind = kind ∧ path = (Path.mk root.anchor (root.parts ++ f.parts)).text := by
  unfold pathsOf
  rw [List.mem_mergeSort, List.mem_map]
  constructor
  · rintro ⟨f, inside, rfl⟩
    obtain ⟨member, isKind⟩ := List.mem_filter.mp inside
    exact ⟨f, member, beq_iff_eq.mp isKind, rfl⟩
  · rintro ⟨f, member, isKind, rfl⟩
    exact ⟨f, List.mem_filter.mpr ⟨member, beq_iff_eq.mpr isKind⟩, rfl⟩

end Discovery

/-- A disk as directories make it: names are proper, and no directory lists one twice. -/
structure FileSystem.Regular (fs : FileSystem) : Prop where
  proper : fs.disk.Proper
  distinct : fs.disk.Distinct
  cwd : ∀ name ∈ fs.cwd, ProperName name

theorem FileSystem.Regular.of_check {fs : FileSystem} (checked : fs.disk.isRegular = true)
    (cwd : ∀ name ∈ fs.cwd, ProperName name) : fs.Regular :=
  ⟨(Node.regular_of_isRegular fs.disk checked).1, (Node.regular_of_isRegular fs.disk checked).2,
    cwd⟩

theorem FileSystem.directoryAt_of_resolve {fs : FileSystem}
    (cwd : ∀ name ∈ fs.cwd, ProperName name) {project : String} {root : Path}
    {entries : List (String × Node)} (resolved : fs.resolve (.ofText project) = .ok root)
    (looked : fs.look root = .ok (some (.folder entries))) :
    ∃ parts, root = .fromRoot parts ∧ (∀ name ∈ parts, ProperName name) ∧
      fs.DirectoryAt (.fromRoot parts) entries := by
  have names := Path.proper_absoluteParts cwd project
  unfold FileSystem.resolve at resolved
  split at resolved
  · cases resolved
  · cases resolved
    exact ⟨_, rfl, names,
      FileSystem.directoryAt_of_look rfl (FileSystem.forward_of_proper names) looked⟩

theorem Path.text_inj {parts parts' : List String} (proper : ∀ name ∈ parts, ProperName name)
    (proper' : ∀ name ∈ parts', ProperName name)
    (same : (fromRoot parts).text = (fromRoot parts').text) : parts = parts' := by
  have sameRead := congrArg ofText same
  rw [ofText_text parts proper, ofText_text parts' proper'] at sameRead
  exact congrArg Path.parts sameRead

namespace Discovery

/-! The files of a project. -/

structure IsProject (fs : FileSystem) (parts : List String) (entries : List (String × Node)) :
    Prop where
  names : ∀ name ∈ parts, ProperName name
  proper : (Node.folder entries).Proper
  distinct : (Node.folder entries).Distinct
  directory : fs.DirectoryAt (.fromRoot parts) entries

theorem isProject_of_look {fs : FileSystem} (regular : fs.Regular) {project : String} {root : Path}
    {entries : List (String × Node)} (resolved : fs.resolve (.ofText project) = .ok root)
    (looked : fs.look root = .ok (some (.folder entries))) :
    ∃ parts, root = .fromRoot parts ∧ IsProject fs parts entries := by
  obtain ⟨parts, isRoot, names, directory⟩ :=
    FileSystem.directoryAt_of_resolve regular.cwd resolved looked
  exact ⟨parts, isRoot, names, regular.proper.find? directory.found,
    regular.distinct.find? directory.found, directory⟩

def filesIn (filter : PathFilter) (parts : List String) (entries : List (String × Node)) :
    FileGroup :=
  groupOf (.fromRoot parts) (beneath filter [] (.folder entries))

theorem walk_resolved {fs : FileSystem} {path : Path} {parts : List String}
    {entries : List (String × Node)} (resolved : fs.resolve path = .ok (.fromRoot parts))
    (looked : fs.look (.fromRoot parts) = .ok (some (.folder entries))) {excludes : List String}
    (whole : firstBreakdown? excludes = none) :
    (walk fs excludes path).value = .ok (filesIn (filterFor excludes) parts entries) := by
  simp only [walk, projectFilter_value, whole, resolved, looked]
  rfl

section

variable {fs : FileSystem} {parts : List String} {entries : List (String × Node)}
  (project : IsProject fs parts entries) {filter : PathFilter}

include project

theorem IsProject.place {place : List String} {node : Node}
    (isThere : (Node.folder entries).find? place = some node) :
    ∀ name ∈ parts ++ place, ProperName name :=
  List.forall_mem_append.mpr ⟨project.names, project.proper.names isThere⟩

theorem mem_ofKind {kind : FileKind} {path : String} :
    path ∈ (filesIn filter parts entries).ofKind kind ↔
      ∃ directories name content,
        (Node.folder entries).find? (directories ++ [name]) = some (.file content) ∧
        path = (Path.fromRoot (parts ++ (directories ++ [name]))).text ∧
        Text.lower (Path.extensionOf name) ∈ kind.extensions ∧
        LetThrough filter [] directories name := by
  rw [filesIn, ofKind_groupOf, mem_pathsOf_iff]
  constructor
  · rintro ⟨found, member, rfl, rfl⟩
    obtain ⟨directories, name, content, isPlace, isThere, kind, through⟩ :=
      (mem_beneath project.distinct).mp member
    rw [List.nil_append] at isPlace
    rw [isPlace]
    exact ⟨directories, name, content, isThere, rfl, FileKind.ofName?_eq_some.mp kind, through⟩
  · rintro ⟨directories, name, content, isThere, rfl, ending, through⟩
    refine ⟨⟨kind, directories ++ [name]⟩, (mem_beneath project.distinct).mpr ?_, rfl, rfl⟩
    exact ⟨directories, name, content, rfl, isThere, FileKind.ofName?_eq_some.mpr ending, through⟩

theorem strict_ofKind (kind : FileKind) :
    ((filesIn filter parts entries).ofKind kind).Pairwise (· < ·) := by
  rw [filesIn, ofKind_groupOf]
  have places : ∀ found ∈ beneath filter [] (.folder entries),
      ∀ name ∈ parts ++ found.parts, ProperName name := by
    intro found member
    obtain ⟨directories, name, content, isPlace, isThere, _⟩ :=
      (mem_beneath project.distinct).mp member
    rw [List.nil_append] at isPlace
    rw [isPlace]
    exact project.place isThere
  have unequal : (pathsOf (.fromRoot parts) (beneath filter [] (.folder entries)) kind).Nodup := by
    refine (List.mergeSort_perm _ _).nodup_iff.mpr (List.pairwise_map.mpr ?_)
    have once := List.pairwise_map.mp (nodup_beneath filter project.distinct [])
    refine (once.sublist List.filter_sublist).imp_of_mem ?_
    intro one other inOne inOther apart same
    have placeOne := places one (List.mem_filter.mp inOne).1
    have placeOther := places other (List.mem_filter.mp inOther).1
    exact apart (List.append_cancel_left (Path.text_inj placeOne placeOther same))
  refine (sorted_pathsOf _ _ kind).imp₂ ?_ unequal
  intro one other ordered apart
  rw [← String.not_le]
  intro back
  exact apart (String.le_antisymm ordered back)

private theorem kind_unique {one other : FileKind} {path : String}
    (inOne : path ∈ (filesIn filter parts entries).ofKind one)
    (inOther : path ∈ (filesIn filter parts entries).ofKind other) : one = other := by
  rw [mem_ofKind project] at inOne inOther
  obtain ⟨directories, name, content, isThere, rfl, ending, _⟩ := inOne
  obtain ⟨directories', name', content', isThere', same, ending', _⟩ := inOther
  have samePlace := List.append_cancel_left
    (Path.text_inj (project.place isThere) (project.place isThere') same)
  have sameName : name = name' := by simpa using congrArg List.getLast? samePlace
  have kind := FileKind.ofName?_eq_some.mpr ending
  rw [sameName, FileKind.ofName?_eq_some.mpr ending'] at kind
  exact (Option.some.inj kind).symm

theorem nodup_all : (filesIn filter parts entries).all.Nodup := by
  rw [FileGroup.all_eq_flatMap, List.Nodup, List.pairwise_flatMap]
  constructor
  · intro kind _
    exact (strict_ofKind project kind).imp String.ne_of_lt
  · have kinds : FileKind.all.Pairwise (· ≠ ·) := by decide
    refine kinds.imp ?_
    rintro one other different path inOne _ inOther rfl
    exact different (kind_unique project inOne inOther)

end

/-- The files of a project are found exactly: those of a kind are listed in strictly increasing
order, they are the files with an extension of the kind of which neither the path itself nor a
directory above it is excluded, and no file is listed twice.  Nor does the order matter in which the
directories of the project list their entries.  Only with a pattern that breaks down no files are
found: the first such pattern ends the search before it begins. -/
theorem walk_exact (fs : FileSystem) (excludes : List String) (project : String) (root : Path)
    (entries : List (String × Node)) (regular : fs.Regular)
    (resolved : fs.resolve (.ofText project) = .ok root)
    (looked : fs.look root = .ok (some (.folder entries))) :
    match firstBreakdown? excludes with
    | some cause => (walk fs excludes (.ofText project)).value = .error (.pattern cause)
    | none => ∃ filter group, (projectFilter excludes).value = .ok filter ∧
        (walk fs excludes (.ofText project)).value = .ok group ∧
        (∀ kind, (group.ofKind kind).Pairwise (· < ·) ∧
          ∀ path, path ∈ group.ofKind kind ↔
            ∃ directories name content,
              (Node.folder entries).find? (directories ++ [name]) = some (.file content) ∧
              path = (Path.mk root.anchor (root.parts ++ (directories ++ [name]))).text ∧
              Text.lower (Path.extensionOf name) ∈ kind.extensions ∧
              filter.excludes (relativeText (directories ++ [name])).toList false = false ∧
              ∀ above, above ≠ [] → above <+: directories →
                filter.excludes (relativeText above).toList true = false) ∧
        group.all.Nodup ∧
        ∀ (fs' : FileSystem) (entries' : List (String × Node)), fs'.cwd = fs.cwd →
          fs'.look root = .ok (some (.folder entries')) →
          (Node.folder entries).Relisted (.folder entries') →
          (walk fs' excludes (.ofText project)).value = .ok group := by
  cases whole : firstBreakdown? excludes with
  | some cause => exact walk_broken whole fs (.ofText project)
  | none =>
      obtain ⟨parts, rfl, isProject⟩ := isProject_of_look regular resolved looked
      have made := projectFilter_eq_ok.mpr ⟨whole, rfl⟩
      refine ⟨_, _, made, walk_resolved resolved looked whole, ?_, nodup_all isProject, ?_⟩
      · intro kind
        refine ⟨strict_ofKind isProject kind, ?_⟩
        intro path
        exact mem_ofKind isProject
      · intro fs' entries' sameCwd looked' relisted
        have resolved' : fs'.resolve (.ofText project) = .ok (.fromRoot parts) := by
          rw [← resolved, FileSystem.resolve, FileSystem.resolve, sameCwd]
        rw [walk_resolved resolved' looked' whole]
        exact congrArg Except.ok (groupOf_perm ((beneath_relisted relisted).1 [])).symm

/-- A project in two orders of listing, with a file that a pattern takes back in; and the same
project with a pattern that asks for more repetitions than can be counted. -/
theorem walk_of_relisted_project :
    let entries := [("b.JS", Node.file .empty), ("Pods", .folder [("d.js", .file .empty)]),
      ("a.ts", .file .empty)]
    let fs : FileSystem := { disk := .folder [("p", .folder entries)] }
    let fs' : FileSystem := { disk := .folder [("p", .folder entries.reverse)] }
    let excludes := ["b.*", "!*.JS", "!d.js"]
    fs.Regular ∧ fs.resolve (.ofText "/p") = .ok (.fromRoot ["p"]) ∧
      fs.look (.fromRoot ["p"]) = .ok (some (.folder entries)) ∧
      (∃ group, (walk fs excludes (.ofText "/p")).value = .ok group ∧
        group.sources.Pairwise (· < ·) ∧ "/p/b.JS" ∈ group.sources ∧
        (walk fs' excludes (.ofText "/p")).value = .ok group) ∧
      (walk fs ["[^][](a\x7b4294967296\x7d)]"] (.ofText "/p")).value =
        .error (.pattern .manyRepetitions) := by
  intro entries fs fs' excludes
  have regular : fs.Regular := .of_check (by decide) (by simp [fs])
  have resolved : fs.resolve (.ofText "/p") = .ok (.fromRoot ["p"]) := by rfl
  have looked : fs.look (.fromRoot ["p"]) = .ok (some (.folder entries)) := by rfl
  have exact := fun excludes =>
    walk_exact fs excludes "/p" (.fromRoot ["p"]) entries regular resolved looked
  have whole : firstBreakdown? excludes = none := by decide +kernel
  have broken : firstBreakdown? ["[^][](a\x7b4294967296\x7d)]"] = some .manyRepetitions := by
    decide +kernel
  have found := exact excludes
  have ended := exact ["[^][](a\x7b4294967296\x7d)]"]
  rw [whole] at found
  rw [broken] at ended
  obtain ⟨filter, group, made, walked, kinds, _, relisted⟩ := found
  obtain ⟨_, rfl⟩ := projectFilter_eq_ok.mp made
  refine ⟨regular, resolved, looked, ⟨group, walked, (kinds .source).1, ?_, ?_⟩, ended⟩
  · refine ((kinds .source).2 "/p/b.JS").mpr ⟨[], "b.JS", .empty, rfl, by decide, by decide, ?_⟩
    refine ⟨by decide +kernel, ?_⟩
    intro above some isBegin
    exact absurd (List.prefix_nil.mp isBegin) some
  · exact relisted fs' entries.reverse rfl rfl (.entries (List.reverse_perm _).symm)

end Discovery

end MobileAudit
