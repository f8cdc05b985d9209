import MobileAudit.Proofs.Discovery.FileNamePattern
import MobileAudit.Proofs.Disk.ReadBack
import MobileAudit.Proofs.Rule.Catalog
import MobileAudit.Proofs.Scan.Completion
import MobileAudit.Proofs.Scan.Dispatch
import MobileAudit.Proofs.Surroundings.DebugPath

namespace MobileAudit

open Disk Discovery Exclusion Scan Surroundings

/-! Projects at other places.  What is found in a project are the findings of its files as they lie
within the project, put under its root, except that nothing is reported of a project in a directory
for development. -/

/-! Places under a root. -/

/-- The path of a file under a root that has this path within it. -/
def Path.under (root : Path) (path : String) : String :=
  String.ofList (wayText root.parts) ++ path

def Finding.under (root : Path) (found : Finding) : Finding :=
  { found with path := root.under found.path }

/-- A finding under one root as a finding under another. -/
def Finding.relocated (root root' : Path) (found : Finding) : Finding :=
  { found with
    path := root'.under (String.ofList (found.path.toList.drop (Path.wayText root.parts).length)) }

/-- A root in or at a directory for development. -/
def Path.inDevelopment (root : Path) : Bool :=
  root.parts.any fun name => isDebugPath (name.toList ++ ['/'])

theorem Path.inDevelopment_iff {root : Path}
    (plain : ∀ name ∈ root.parts, '/' ∉ name.toList ∧ '\\' ∉ name.toList) :
    root.inDevelopment = true ↔ ∃ name ∈ root.parts, name ∈ developmentDirectories := by
  rw [inDevelopment, List.any_eq_true]
  exact exists_congr fun name => and_congr_right fun member =>
    isDebugPath_name (plain name member).1 (plain name member).2

@[simp] theorem Finding.relocated_under (root root' : Path) (found : Finding) :
    (found.under root).relocated root root' = found.under root' := by
  simp [relocated, under, Path.under]

theorem Path.text_under (parts : List String) {place : List String} (nonempty : place ≠ []) :
    (fromRoot (parts ++ place)).text = (fromRoot parts).under (fromRoot place).text := by
  rw [← String.toList_inj, text_eq_wayText (by simp [nonempty]), wayText_append, under,
    String.toList_append, String.toList_ofList, text_eq_wayText nonempty]
  rfl

private theorem isDebugPath_under (parts : List String) {place : List String}
    (nonempty : place ≠ []) :
    isDebugPath (Path.fromRoot (parts ++ place)).text.toList =
      ((Path.fromRoot parts).inDevelopment ||
        isDebugPath (Path.fromRoot place).text.toList) := by
  obtain ⟨name, rest, rfl⟩ := List.exists_cons_of_ne_nil nonempty
  have noPath : isDebugPath ['/'] = false := by decide +kernel
  rw [Path.text_eq_wayText (by simp), Path.text_eq_wayText (by simp), Path.wayText_append]
  have slash : Path.wayText (name :: rest) = '/' :: (name.toList ++ Path.wayText rest) := rfl
  have within := isDebugPath_append [] (name.toList ++ Path.wayText rest)
  rw [List.nil_append, List.nil_append, noPath, Bool.false_or] at within
  rw [slash, isDebugPath_append, isDebugPath_wayText, within]
  rfl

/-! Files under a root. -/

namespace FileSystem

def canFollow (names : List String) : Bool :=
  names.all (fun name => name.utf8ByteSize ≤ maxNameBytes) &&
    !names.any (fun name => name.toList.contains '\x00')

private theorem follow_found {disk : Node} (names : List String) :
    ∀ {here : List String} {node child : Node}, disk.find? here = some node →
      node.find? names = some child → Forward names →
      follow disk here names =
        if names.all (fun name => name.utf8ByteSize ≤ maxNameBytes) then .ok (here ++ names)
        else .error .nameTooLong := by
  induction names with
  | nil =>
      intro here node child _ _ _
      simp [follow]
  | cons name names ih =>
      intro here node child isHere isThere forward
      obtain ⟨entries, next, rfl, looked, isThere⟩ := Node.find?_cons_eq_some.mp isThere
      have noBack : (name == "..") = false := by simpa using forward name (by simp)
      have isNext : disk.find? (here ++ [name]) = some next := by
        rw [find?_child name isHere, looked]
      have further := ih isNext isThere fun other member => forward other (by simp [member])
      rw [follow, isHere]
      simp only [noBack, Bool.false_eq_true, if_false, List.all_cons, looked, further]
      by_cases long : maxNameBytes < name.utf8ByteSize
      · simp [long, Nat.not_le.mpr long]
      · simp [long, Nat.not_lt.mp long]

private theorem read_under {fs : FileSystem} {parts : List String} {entries : List (String × Node)}
    (directory : fs.DirectoryAt (.fromRoot parts) entries) {place : List String}
    {content : ByteArray} (isThere : (Node.folder entries).find? place = some (.file content))
    (forward : Forward place) :
    (fs.read (.fromRoot (parts ++ place))).toOption =
      if maxPathBytes < (Path.fromRoot (parts ++ place)).text.utf8ByteSize then none
      else if canFollow place then some content else none := by
  have found : fs.disk.find? parts = some (.folder entries) := directory.found
  have followed : follow fs.disk [] (parts ++ place) =
      if place.all (fun name => name.utf8ByteSize ≤ maxNameBytes) then .ok (parts ++ place)
      else .error .nameTooLong :=
    (follow_append fs.disk parts place directory.followed).trans
      (follow_found place found isThere forward)
  have seen : fs.disk.see (parts ++ place) = some (some content) := by
    rw [Node.see_eq_file, Node.find?_append, found]
    exact isThere
  have rootNull : (parts.any fun name => name.toList.contains '\x00') = false :=
    Discovery.hasNull_of_admissible directory.admitted
  have null : (Path.fromRoot (parts ++ place)).hasNull =
      place.any fun name => name.toList.contains '\x00' := by
    rw [Path.hasNull, Path.fromRoot, List.any_append, rootNull, Bool.false_or]
  have reached : (Path.fromRoot (parts ++ place)).parts = parts ++ place := rfl
  rw [fs.read_eq rfl, reached, followed]
  unfold admissible canFollow
  rw [null]
  cases place.any fun name => name.toList.contains '\x00' with
  | true => simp [Except.toOption]
  | false =>
      by_cases long : maxPathBytes < (Path.fromRoot (parts ++ place)).text.utf8ByteSize
      · simp [long, Except.toOption]
      · cases place.all fun name => name.utf8ByteSize ≤ maxNameBytes <;>
          simp [long, seen, Except.toOption]

end FileSystem

namespace Discovery

private theorem filesIn_under {fs fs' : FileSystem} {parts : List String}
    {entries entries' : List (String × Node)} (project : IsProject fs parts entries)
    (project' : IsProject fs' [] entries') {filter : Exclusion.PathFilter}
    (same : ∀ place content, (Node.folder entries).find? place = some (.file content) ↔
      (Node.folder entries').find? place = some (.file content)) :
    (filesIn filter parts entries).all =
      (filesIn filter [] entries').all.map (Path.fromRoot parts).under := by
  have kinds : ∀ kind, (filesIn filter parts entries).ofKind kind =
      ((filesIn filter [] entries').ofKind kind).map (Path.fromRoot parts).under := by
    intro kind
    refine eq_of_strict (strict_ofKind project kind) ?_ ?_
    · refine List.pairwise_map.mpr ((strict_ofKind project' kind).imp ?_)
      intro one other before
      rw [String.lt_iff] at before ⊢
      rw [Path.under, Path.under, String.toList_append, String.toList_append]
      exact List.append_left_lt before
    · intro path
      rw [List.mem_map]
      simp only [mem_ofKind project, mem_ofKind project']
      constructor
      · rintro ⟨directories, name, content, isThere, rfl, known, through⟩
        refine ⟨_, ⟨directories, name, content, (same _ _).mp isThere, rfl, known, through⟩, ?_⟩
        exact (Path.text_under parts (by simp)).symm
      · rintro ⟨_, ⟨directories, name, content, isThere, rfl, known, through⟩, rfl⟩
        refine ⟨directories, name, content, (same _ _).mpr isThere, ?_, known, through⟩
        exact (Path.text_under parts (by simp)).symm
  rw [FileGroup.all_eq_flatMap, FileGroup.all_eq_flatMap, List.map_flatMap, funext kinds]

end Discovery

namespace Scan

/-! Rules under a root. -/

private theorem contextOf_moved {path other : String} (content : String)
    (same : FileKind.ofPath? path = FileKind.ofPath? other) :
    (contextOf .absent path content).value =
      { (contextOf .absent other content).value with path } := by
  unfold contextOf
  rw [same]
  cases FileKind.ofPath? other with
  | none => rfl
  | some kind => cases kind <;> rfl

private theorem foundBy_moved {rules : List Rule} (builtIn : ∀ rule ∈ rules, rule ∈ Rule.builtIn)
    (context : FileContext) (path : String) :
    foundBy rules { context with path } =
      (foundBy rules context).map fun found => { found with path } := by
  unfold foundBy
  rw [List.map_flatMap, List.flatMap_def, List.flatMap_def, List.map_congr_left]
  intro rule member
  exact Rule.builtIn_relocates rule (builtIn rule member) context path

theorem isReported_eq (content : List Char) (found : Finding) :
    isReported content found = !(isDebug content (found.snippet.getD "").toList [] ||
      isDebugPath found.path.toList) := by
  have noPath : isDebugPath [] = false := by decide +kernel
  unfold isReported isDebug
  cases found.path.toList with
  | nil => simp [noPath]
  | cons c rest => simp

/-- Of what rules find under a root everything is reported that is reported within it, or nothing if
the root is in a directory for development. -/
theorem reported_under {rules : List Rule} (builtIn : ∀ rule ∈ rules, rule ∈ Rule.builtIn)
    (context : FileContext) {root : Path} {path : String} (isUnder : path = root.under context.path)
    (debug : isDebugPath path.toList =
      (root.inDevelopment || isDebugPath context.path.toList)) (content : List Char) :
    (foundBy rules { context with path }).filter (isReported content) =
      if root.inDevelopment then []
      else ((foundBy rules context).filter (isReported content)).map (·.under root) := by
  -- Findings have the path of their file, so all of them are taken for development or none is.
  have here : ∀ found ∈ foundBy rules context, found.path = context.path := by
    intro found member
    obtain ⟨rule, inRules, isFound⟩ := List.mem_flatMap.mp member
    exact ((Rule.builtIn_signs rule (builtIn rule inRules)).signed context found isFound).2
  rw [foundBy_moved builtIn, List.filter_map]
  generalize foundBy rules context = all at *
  have reported : ∀ found ∈ all,
      (isReported content ∘ fun found : Finding => { found with path }) found =
        (!root.inDevelopment && isReported content found) := by
    intro found member
    rw [Function.comp_apply, isReported_eq, isReported_eq, here found member, debug, Bool.not_or,
      Bool.not_or, Bool.not_or, Bool.and_left_comm]
  rw [List.filter_congr reported]
  cases root.inDevelopment with
  | true => simp
  | false =>
      simp only [Bool.not_false, Bool.true_and, Bool.false_eq_true, if_false]
      refine List.map_congr_left fun found member => ?_
      rw [Finding.under, here found (List.mem_filter.mp member).1, isUnder]

private theorem analysis_under {rules : List Rule} (builtIn : ∀ rule ∈ rules, rule ∈ Rule.builtIn)
    (parser : SourceParser) {parts directories : List String} {name : String} {kind : FileKind}
    (known : Text.lower (Path.extensionOf name) ∈ kind.extensions)
    (proper : ∀ n ∈ parts ++ (directories ++ [name]), ProperName n) (bytes : ByteArray) :
    analysis rules parser (Path.fromRoot (parts ++ (directories ++ [name]))).text bytes =
      if (Path.fromRoot parts).inDevelopment then []
      else (analysis rules .absent (Path.fromRoot (directories ++ [name])).text bytes).map
        (·.under (.fromRoot parts)) := by
  -- Which rules apply and what they are given depends on the extension, and no rule looks at the
  -- syntax tree.
  have signs : ∀ rule ∈ rules, rule.Signs := fun rule member =>
    Rule.builtIn_signs rule (builtIn rule member)
  have within : ∀ n ∈ directories ++ [name], ProperName n := fun n member =>
    proper n (List.mem_append_right parts member)
  have nonempty : directories ++ [name] ≠ [] := by simp
  have debug := isDebugPath_under parts nonempty
  have isUnder := Path.text_under parts nonempty
  rw [← List.append_assoc] at proper debug isUnder ⊢
  have sameKind := (FileKind.ofPath?_known _ known proper).trans
    (FileKind.ofPath?_known _ known within).symm
  have sameRules : rules.filter (·.appliesTo
      (Path.fromRoot (parts ++ directories ++ [name])).text) =
      rules.filter (·.appliesTo (Path.fromRoot (directories ++ [name])).text) := by
    refine List.filter_congr fun rule member => ?_
    rw [Bool.eq_iff_iff, Rule.appliesTo_known _ known rule (builtIn rule member),
      Rule.appliesTo_known _ known rule (builtIn rule member)]
  have applied : ∀ applies : Rule → Bool, ∀ rule ∈ rules.filter applies, rule ∈ Rule.builtIn :=
    fun _ rule member => builtIn rule (List.mem_filter.mp member).1
  rw [analysis_treeless signs]
  unfold analysis
  rw [contextOf_moved _ sameKind, sameRules]
  have here := contextOf_path .absent (Path.fromRoot (directories ++ [name])).text
    (Text.decodeLossy bytes)
  generalize (contextOf .absent (Path.fromRoot (directories ++ [name])).text
    (Text.decodeLossy bytes)).value = context at *
  rw [← here] at debug isUnder ⊢
  exact reported_under (applied _) context isUnder debug context.content.toList

/-! Scans of projects. -/

/-- What rules report of a file of a project, by its path within the project. -/
def reportedWithin (rules : List Rule) (entries : List (String × Node)) (path : String) :
    List Finding :=
  match (Node.folder entries).find? (Path.ofText path).parts with
  | some (.file content) =>
      if FileSystem.canFollow (Path.ofText path).parts then analysis rules .absent path content
      else []
  | _ => []

/-- The files of a project that are scanned, by their paths within the project, and what the built-in
rules report of each. -/
def filesWithin (settings : Settings) (entries : List (String × Node)) :
    List (String × List Finding) :=
  (filesFor settings.scan.exclude [] entries).map fun path =>
    (path, reportedWithin (Engine.ofSettings settings Rule.catalog .absent).rules entries path)

/-- What files report under a root, given what they report within it: nothing if the root is in a
directory for development or if the path of the file is too long. -/
def reportedUnder (root : Path) (files : List (String × List Finding)) : List Finding :=
  files.flatMap fun file =>
    if root.inDevelopment ∨ FileSystem.maxPathBytes < (root.under file.1).utf8ByteSize then []
    else file.2.map (·.under root)

private theorem Engine.fresh_under (engine : Engine)
    (builtIn : ∀ rule ∈ engine.rules, rule ∈ Rule.builtIn) {fs : FileSystem}
    {parts : List String} {entries : List (String × Node)} (project : IsProject fs parts entries)
    {directories : List String} {name : String} {content : ByteArray} {kind : FileKind}
    (isThere : (Node.folder entries).find? (directories ++ [name]) = some (.file content))
    (known : Text.lower (Path.extensionOf name) ∈ kind.extensions) :
    let root := Path.fromRoot parts
    let path := (Path.fromRoot (directories ++ [name])).text
    engine.fresh fs (root.under path) =
      if root.inDevelopment ∨ FileSystem.maxPathBytes < (root.under path).utf8ByteSize then []
      else (reportedWithin engine.rules entries path).map (·.under root) := by
  intro root path
  have proper := project.place isThere
  have within : ∀ n ∈ directories ++ [name], ProperName n := fun n member =>
    proper n (List.mem_append_right parts member)
  have isUnder : (Path.fromRoot (parts ++ (directories ++ [name]))).text = root.under path :=
    Path.text_under parts (by simp)
  have place : Path.ofText (root.under path) = .fromRoot (parts ++ (directories ++ [name])) := by
    rw [← isUnder, Path.ofText_text _ proper]
  have placeWithin : (Path.ofText path).parts = directories ++ [name] := by
    rw [Path.ofText_text _ within]
    rfl
  have read := FileSystem.read_under project.directory isThere
    (FileSystem.forward_of_proper within)
  have analysed := analysis_under builtIn engine.parser known proper content
  rw [isUnder] at read analysed
  unfold Engine.fresh reportedWithin
  rw [place, read, placeWithin, isThere]
  by_cases long : FileSystem.maxPathBytes < (root.under path).utf8ByteSize
  · simp [long]
  · cases FileSystem.canFollow (directories ++ [name]) with
    | false => simp [long]
    | true => simpa [long] using analysed

/-- A request that scans the project with the given entries by the built-in rules. -/
structure IsScanOf (scene : Scene) (environment : Settings.Environment) (request : Request)
    (settings : Settings) (root : Path) (entries : List (String × Node)) : Prop where
  regular : scene.fs.Regular
  resolved : scene.fs.resolve (.ofText request.path) = .ok root
  looked : scene.fs.look root = .ok (some (.folder entries))
  asked : settingsOf environment request = .ok settings
  groups : request.groups = Rule.catalog

private theorem IsScanOf.findings {scene : Scene} {environment : Settings.Environment}
    {request : Request}
    {settings : Settings} {root : Path} {entries entries' : List (String × Node)}
    (scan : IsScanOf scene environment request settings root entries)
    (uncached : settings.cache.enabled = false)
    {fs' : FileSystem} (project' : IsProject fs' [] entries')
    (same : ∀ place content, (Node.folder entries).find? place = some (.file content) ↔
      (Node.folder entries').find? place = some (.file content))
    (whole : firstBreakdown? settings.scan.exclude = none) :
    ∃ report, (scanProject scene environment request).result = .ok report ∧
      report.findings = reportedUnder root (filesWithin settings entries') := by
  obtain ⟨parts, rfl, project⟩ := isProject_of_look scan.regular scan.resolved scan.looked
  have walked := walk_directory project.directory whole
  have positive : 0 < (Engine.ofSettings settings Rule.catalog request.parser).concurrency :=
    Engine.slots_positive _
  obtain ⟨⟨report, reported, findings⟩, _⟩ :=
    (Engine.ofSettings settings Rule.catalog request.parser).scanRoot_uncached scene settings.cache
      request.version request.clearCache request.listener request.turns positive rfl uncached walked
  rw [scanProject_directory scan.resolved scan.looked scan.asked, scan.groups]
  refine ⟨report, reported, ?_⟩
  have builtIn : ∀ rule ∈ (Engine.ofSettings settings Rule.catalog .absent).rules,
      rule ∈ Rule.builtIn :=
    fun rule member => (List.mem_filter.mp member).1
  have under : report.findings = _ := findings.trans
    (congrArg (List.flatMap _) (filesIn_under project project' same))
  rw [under, List.flatMap_map, reportedUnder, filesWithin, filesFor, whole, List.flatMap_map,
    List.flatMap_def, List.flatMap_def, List.map_congr_left]
  intro path member
  rw [FileGroup.all_eq_flatMap, List.mem_flatMap] at member
  obtain ⟨kind, _, inKind⟩ := member
  obtain ⟨directories, name, content, isThere, rfl, known, _⟩ := (mem_ofKind project').mp inKind
  have isThere' := (same _ _).mpr isThere
  have sameReport : ∀ rules,
      reportedWithin rules entries (Path.fromRoot ([] ++ (directories ++ [name]))).text =
        reportedWithin rules entries' (Path.fromRoot ([] ++ (directories ++ [name]))).text := by
    intro rules
    have within : ∀ n ∈ directories ++ [name], ProperName n := project'.place isThere
    unfold reportedWithin
    rw [List.nil_append, Path.ofText_text _ within]
    simp only [Path.fromRoot, isThere, isThere']
  rw [← sameReport]
  exact (Engine.ofSettings settings Rule.catalog request.parser).fresh_under builtIn project isThere'
    known

private theorem IsScanOf.broken {scene : Scene} {environment : Settings.Environment}
    {request : Request}
    {settings : Settings} {root : Path} {entries : List (String × Node)}
    (scan : IsScanOf scene environment request settings root entries)
    (uncached : settings.cache.enabled = false) {cause : Pattern.Breakdown}
    (broken : firstBreakdown? settings.scan.exclude = some cause) :
    (scanProject scene environment request).result = .error (.pattern cause) := by
  obtain ⟨parts, rfl, _⟩ := isProject_of_look scan.regular scan.resolved scan.looked
  rw [scanProject_directory scan.resolved scan.looked scan.asked]
  have failed : (walk scene.fs (Engine.ofSettings settings request.groups request.parser).excluded
      (.fromRoot parts)).value = .error (.pattern cause) := walk_broken broken scene.fs _
  exact (Engine.scanRoot_uncached_failed _ scene settings.cache request.version request.clearCache
    request.listener request.turns rfl uncached failed).1

theorem reportedUnder_inDevelopment {root : Path} (development : root.inDevelopment = true)
    (files : List (String × List Finding)) : reportedUnder root files = [] := by
  simp [reportedUnder, development]

private theorem reportedUnder_relocated {root root' : Path} {files : List (String × List Finding)}
    (development : root.inDevelopment = root'.inDevelopment)
    (fits : ∀ file ∈ files,
      (FileSystem.maxPathBytes < (root.under file.1).utf8ByteSize ↔
        FileSystem.maxPathBytes < (root'.under file.1).utf8ByteSize)) :
    reportedUnder root' files = (reportedUnder root files).map (·.relocated root root') := by
  unfold reportedUnder
  rw [List.map_flatMap, List.flatMap_def, List.flatMap_def, List.map_congr_left]
  intro file member
  simp only [development, fits file member]
  split
  · rfl
  · rw [List.map_map]
    exact List.map_congr_left fun found _ => (found.relocated_under root root').symm

theorem reportedUnder_relocated_iff {root root' : Path} {files : List (String × List Finding)}
    (fits : ∀ file ∈ files,
      (FileSystem.maxPathBytes < (root.under file.1).utf8ByteSize ↔
        FileSystem.maxPathBytes < (root'.under file.1).utf8ByteSize)) :
    reportedUnder root' files = (reportedUnder root files).map (·.relocated root root') ↔
      root.inDevelopment = root'.inDevelopment ∨
        reportedUnder root files = [] ∧ reportedUnder root' files = [] := by
  constructor
  · intro relocated
    by_cases development : root.inDevelopment = root'.inDevelopment
    · exact .inl development
    · right
      cases isDevelopment : root.inDevelopment with
      | true =>
          rw [reportedUnder_inDevelopment isDevelopment] at relocated ⊢
          exact ⟨rfl, relocated⟩
      | false =>
          have isDevelopment' : root'.inDevelopment = true := by
            cases other : root'.inDevelopment with
            | true => rfl
            | false => exact absurd (isDevelopment.trans other.symm) development
          rw [reportedUnder_inDevelopment isDevelopment'] at relocated ⊢
          exact ⟨List.map_eq_nil_iff.mp relocated.symm, rfl⟩
  · rintro (development | ⟨none, none'⟩)
    · exact reportedUnder_relocated development fits
    · rw [none, none']
      rfl

/-- The built-in rules find the same in two projects with the same files, wherever these lie, and
report it under the root of each, in the same order; but nothing is reported of a project in or at a
directory for development.  So unless paths become too long, the findings of one project are those
of the other, put under its root, exactly if both or neither are for development, or if there are
none.  With an exclusion pattern that breaks down neither project is reported on. -/
theorem scans_relocated {scene scene' : Scene} {environment environment' : Settings.Environment}
    {request request' : Request} {settings : Settings} {root root' : Path}
    {entries entries' : List (String × Node)}
    (scan : IsScanOf scene environment request settings root entries)
    (scan' : IsScanOf scene' environment' request' settings root' entries')
    (uncached : settings.cache.enabled = false)
    (same : ∀ place content, (Node.folder entries).find? place = some (.file content) ↔
      (Node.folder entries').find? place = some (.file content)) :
    let files := filesWithin settings entries
    match firstBreakdown? settings.scan.exclude with
    | some cause => (scanProject scene environment request).result = .error (.pattern cause) ∧
        (scanProject scene' environment' request').result = .error (.pattern cause)
    | none => ∃ report report',
        (scanProject scene environment request).result = .ok report ∧
        (scanProject scene' environment' request').result = .ok report' ∧
        report.findings = reportedUnder root files ∧
        report'.findings = reportedUnder root' files ∧
        ((∀ file ∈ files, (FileSystem.maxPathBytes < (root.under file.1).utf8ByteSize ↔
            FileSystem.maxPathBytes < (root'.under file.1).utf8ByteSize)) →
          (report'.findings = report.findings.map (·.relocated root root') ↔
            root.inDevelopment = root'.inDevelopment ∨
              report.findings = [] ∧ report'.findings = [])) := by
  intro files
  cases whole : firstBreakdown? settings.scan.exclude with
  | some cause => exact ⟨scan.broken uncached whole, scan'.broken uncached whole⟩
  | none =>
      -- The project as it lies within itself: as if it were the whole disk.
      have project : IsProject { disk := .folder entries } [] entries := by
        obtain ⟨parts, _, project⟩ := isProject_of_look scan.regular scan.resolved scan.looked
        exact ⟨by simp, project.proper, project.distinct, rfl,
          by simp [Path.fromRoot, FileSystem.Forward], rfl, rfl, rfl⟩
      obtain ⟨report, reported, found⟩ := scan.findings uncached project (fun _ _ => Iff.rfl) whole
      obtain ⟨report', reported', found'⟩ := scan'.findings uncached project
        (fun place content => (same place content).symm) whole
      refine ⟨report, report', reported, reported', found, found', ?_⟩
      rw [found, found']
      exact reportedUnder_relocated_iff

/-- A finding that is lost when the project is moved to a directory of another name. -/
theorem lost_in_directory_for_development :
    let entries := [("a.xml",
      Node.file (Text.encode "<application android:debuggable=\"true\"/>"))]
    let scene : Scene := ⟨{ disk := .folder [("app", .folder entries), ("debug", .folder entries)] }, 0⟩
    let settings : Settings := { cache := { enabled := false } }
    let app : Request := { path := "/app", settings := some settings }
    let debug : Request := { path := "/debug", settings := some settings }
    IsScanOf scene [] app settings (.fromRoot ["app"]) entries ∧
      IsScanOf scene [] debug settings (.fromRoot ["debug"]) entries ∧
      ∃ report report', (scanProject scene [] app).result = .ok report ∧
        (scanProject scene [] debug).result = .ok report' ∧
        report.findings ≠ [] ∧ report'.findings = [] := by
  intro entries scene settings app debug
  have regular : scene.fs.Regular := .of_check (by decide) (by simp [scene])
  have resolved : scene.fs.resolve (.ofText "/app") = .ok (.fromRoot ["app"]) := by rfl
  have resolved' : scene.fs.resolve (.ofText "/debug") = .ok (.fromRoot ["debug"]) := by rfl
  have scan : IsScanOf scene [] app settings (.fromRoot ["app"]) entries :=
    ⟨regular, resolved, rfl, rfl, rfl⟩
  have scan' : IsScanOf scene [] debug settings (.fromRoot ["debug"]) entries :=
    ⟨regular, resolved', rfl, rfl, rfl⟩
  obtain ⟨report, report', reported, reported', _, found', _⟩ :=
    scans_relocated scan scan' rfl fun _ _ => Iff.rfl
  have some : (scanProject scene [] app).result.toOption.map (·.findings.isEmpty) = some false := by
    decide +kernel
  refine ⟨scan, scan', report, report', reported, reported', ?_, ?_⟩
  · intro none
    rw [reported] at some
    simp [Except.toOption, none] at some
  · rw [found', reportedUnder_inDevelopment (by decide +kernel)]

end Scan

end MobileAudit
