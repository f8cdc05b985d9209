import MobileAudit.Proofs.Discovery.FileNamePattern

namespace MobileAudit

open Disk Exclusion Pattern

/-! Directories are pruned only to save work.  What a pattern excludes as a directory it excludes
with everything beneath, so that the files of a project could as well be tested one by one by their
own paths. -/

namespace Exclusion

/-! Globs with bracket expressions. -/

/-- A pattern whose bracket expressions are sets of characters, each in itself: none takes in text
that follows it or leaves some of its own behind. -/
def HasOwnSets (pattern : String) : Prop :=
  ∀ part ∈ globParts (readSigns (Text.trim pattern.toList)).body, part.pattern?.isSome = true

instance (pattern : String) : Decidable (HasOwnSets pattern) :=
  inferInstanceAs (Decidable (∀ part ∈ _, _))

private theorem GlobPart.exists_takes {part : GlobPart} {pattern : Pattern}
    (isPattern : part.pattern? = some pattern) : ∃ language, Takes pattern language := by
  cases part with
  | anyDirectories =>
      cases isPattern
      exact ⟨_, takes_anyDirectories⟩
  | anything =>
      cases isPattern
      exact ⟨_, takes_line⟩
  | anyName =>
      cases isPattern
      exact ⟨_, takes_anyName⟩
  | anyChar =>
      cases isPattern
      exact ⟨_, takes_anyChar⟩
  | bracket text =>
      simp only [GlobPart.pattern?] at isPattern
      split at isPattern
      · cases isPattern
        exact ⟨_, takes_set _⟩
      · cases isPattern
  | literal c =>
      cases isPattern
      exact ⟨_, takes_one c⟩

private theorem exists_partsPattern {parts : List GlobPart}
    (own : ∀ part ∈ parts, part.pattern?.isSome = true) :
    ∃ glob language, partsPattern? parts = some glob ∧ Takes glob language := by
  induction parts with
  | nil => exact ⟨.empty, _, rfl, takes_empty⟩
  | cons part parts ih =>
      obtain ⟨first, isFirst⟩ := Option.isSome_iff_exists.mp (own part (by simp))
      obtain ⟨rest, language, isRest, takes⟩ := ih fun other member => own other (by simp [member])
      obtain ⟨language', takes'⟩ := GlobPart.exists_takes isFirst
      exact ⟨first ++ rest, _, partsPattern?_cons isFirst isRest, takes_seq takes' takes⟩

/-! What lies beneath. -/

/-- A rule that applies to what lies beneath a directory if it applies to the directory. -/
def PathRule.IsHereditary (rule : PathRule) : Prop :=
  ∀ directory below : List Char, '\n' ∉ directory ++ '/' :: below →
    rule.applies directory true = true → rule.applies (directory ++ '/' :: below) false = true

private theorem IsTail.beneath {onlyBeneath : Bool} {tail : List Char} (isTail : IsTail false tail)
    (below : List Char) : IsTail onlyBeneath (tail ++ '/' :: below) := by
  obtain ⟨_, rfl⟩ | ⟨names, rfl⟩ := isTail
  · exact .inr ⟨below, rfl⟩
  · exact .inr ⟨names ++ '/' :: below, rfl⟩

private theorem hereditary_of_ownSets {pattern : String} {rule : PathRule}
    (own : HasOwnSets pattern)
    (compiled : compile true pattern = .rule rule) : rule.IsHereditary := by
  obtain ⟨glob, language, isGlob, takes⟩ := exists_partsPattern own
  obtain ⟨atOrBeneath, beneath, directoriesOnly⟩ := compile_parts isGlob compiled
  intro directory below oneLine applies
  have inDirectory : '\n' ∉ directory := fun member => oneLine (List.mem_append_left _ member)
  -- A directory is tested by the pattern for a path and what lies beneath it, a file perhaps by
  -- the pattern for what lies beneath alone.
  rw [PathRule.applies, Bool.not_true, Bool.and_false, if_neg Bool.false_ne_true, atOrBeneath,
    matchesStart_iff takes _ _ _ inDirectory] at applies
  obtain ⟨lead, body, tail, rfl, isLead, isBody, isTail⟩ := applies
  have matched : ∀ onlyBeneath,
      (startPattern (readSigns (Text.trim pattern.toList)).anchored ++
        (glob ++ endPattern onlyBeneath)).matchesStart
          (lead ++ (body ++ tail) ++ '/' :: below) = true := by
    intro onlyBeneath
    rw [matchesStart_iff takes _ _ _ oneLine]
    exact ⟨lead, body, tail ++ '/' :: below, by simp only [List.append_assoc], isLead, isBody,
      isTail.beneath below⟩
  rw [PathRule.applies, atOrBeneath, beneath]
  split
  · exact matched true
  · exact matched false

theorem relativeText_append {directory below : List String} (someDirectory : directory ≠ [])
    (someBelow : below ≠ []) :
    Text.joinWith ['/'] ((directory ++ below).map String.toList) =
      Text.joinWith ['/'] (directory.map String.toList) ++
        '/' :: Text.joinWith ['/'] (below.map String.toList) := by
  rw [List.map_append, Text.joinWith_append _ (by simpa using someDirectory)
    (by simpa using someBelow)]
  rfl

/-- Rules that exclude, a directory with what lies beneath it. -/
def AreHereditary (patterns : List String) : Prop :=
  ∀ pattern ∈ patterns, ∀ rule, ruleOf? true pattern = some rule →
    rule.reincludes = false ∧ rule.IsHereditary

theorem PathFilter.excludes_beneath {patterns : List String} (hereditary : AreHereditary patterns)
    {directory below : List String} (someDirectory : directory ≠ []) (someBelow : below ≠ [])
    (clean : ∀ name ∈ directory ++ below, IsClean name)
    (excluded : (filterOf patterns).excludes (Discovery.relativeText directory).toList true =
      true) :
    (filterOf patterns).excludes (Discovery.relativeText (directory ++ below)).toList false =
      true := by
  have oneLine : '\n' ∉ Text.joinWith ['/'] ((directory ++ below).map String.toList) := by
    refine Text.not_mem_joinWith (by decide) fun piece member => ?_
    obtain ⟨name, isName, rfl⟩ := List.mem_map.mp member
    exact (clean name isName).2.1
  rw [excludes_eq, normalize_relativeText fun name member => clean name (by simp [member])]
    at excluded
  rw [excludes_eq, normalize_relativeText clean]
  unfold decidingRule? filterOf at excluded ⊢
  rw [relativeText_append someDirectory someBelow] at oneLine ⊢
  split at excluded
  · rename_i rule found
    obtain ⟨pattern, inside, compiled⟩ :=
      List.mem_filterMap.mp (List.mem_reverse.mp (List.mem_of_find?_eq_some found))
    have applies := (hereditary pattern inside rule compiled).2 _ _ oneLine
      (by simpa using List.find?_some found)
    split
    · rename_i other found'
      obtain ⟨pattern', inside', compiled'⟩ :=
        List.mem_filterMap.mp (List.mem_reverse.mp (List.mem_of_find?_eq_some found'))
      rw [(hereditary pattern' inside' other compiled').1]
      rfl
    · rename_i none
      have unmatched := List.find?_eq_none.mp none rule (List.mem_of_find?_eq_some found)
      exact absurd applies unmatched
  · cases excluded

end Exclusion

namespace Discovery

private theorem defaultExcludes_ownSets : ∀ pattern ∈ defaultExcludes, HasOwnSets pattern := by
  decide

private theorem hereditary_projectPatterns {excludes : List String}
    (noneBack : ∀ pattern ∈ excludes, reincludes pattern = false)
    (own : ∀ pattern ∈ excludes, ∀ rule, compile true pattern = .rule rule → HasOwnSets pattern) :
    AreHereditary (defaultExcludes ++ excludes) := by
  intro pattern member rule isRule
  have compiled := ruleOf?_eq_some.mp isRule
  rw [ruleOf?_reincludes isRule]
  obtain byDefault | further := List.mem_append.mp member
  · exact ⟨defaultExcludes_exclude pattern byDefault,
      hereditary_of_ownSets (defaultExcludes_ownSets pattern byDefault) compiled⟩
  · exact ⟨noneBack pattern further, hereditary_of_ownSets (own pattern further rule compiled)
      compiled⟩

theorem letThrough_iff {patterns : List String} (hereditary : AreHereditary patterns)
    {directories : List String} {name : String}
    (clean : ∀ n ∈ directories ++ [name], IsClean n) :
    LetThrough (filterOf patterns) [] directories name ↔
      (filterOf patterns).excludes (relativeText (directories ++ [name])).toList
        false = false := by
  constructor
  · intro through
    exact through.1
  · intro kept
    refine ⟨kept, ?_⟩
    rintro way someWay ⟨rest, rfl⟩
    rw [List.nil_append, ← Bool.not_eq_true]
    intro excluded
    have someBelow : rest ++ [name] ≠ [] := by simp
    have beneath := PathFilter.excludes_beneath hereditary someWay someBelow
      (by rwa [← List.append_assoc]) excluded
    rw [← List.append_assoc, kept] at beneath
    cases beneath

/-- If the patterns make a filter, none of them takes paths back in and the bracket expressions of
those that are in effect are sets of their own, then the files of a project are those of a known kind
whose own paths the filter lets through: what is excluded as a directory is excluded with every file
beneath it. -/
theorem walk_unpruned (fs : FileSystem) (excludes : List String) (filter : PathFilter)
    (project : String) (root : Path) (entries : List (String × Node)) (regular : fs.Regular)
    (resolved : fs.resolve (.ofText project) = .ok root)
    (looked : fs.look root = .ok (some (.folder entries)))
    (made : (projectFilter excludes).value = .ok filter)
    (clean : ∀ place content, (Node.folder entries).find? place = some (.file content) →
      ∀ n ∈ place, '\n' ∉ n.toList ∧ '\\' ∉ n.toList)
    (noneBack : ∀ pattern ∈ excludes, reincludes pattern = false)
    (own : ∀ pattern ∈ excludes, ∀ rule, compile true pattern = .rule rule → HasOwnSets pattern) :
    (∃ group, (walk fs excludes (.ofText project)).value = .ok group ∧
      ∀ kind path, path ∈ group.ofKind kind ↔
        ∃ directories name content,
          (Node.folder entries).find? (directories ++ [name]) = some (.file content) ∧
          path = (Path.mk root.anchor (root.parts ++ (directories ++ [name]))).text ∧
          Text.lower (Path.extensionOf name) ∈ kind.extensions ∧
          filter.excludes (relativeText (directories ++ [name])).toList false = false) ∧
    ∀ directory below, directory ≠ [] → below ≠ [] → (∀ n ∈ directory ++ below, IsClean n) →
      filter.excludes (relativeText directory).toList true = true →
      filter.excludes (relativeText (directory ++ below)).toList false = true := by
  obtain ⟨whole, rfl⟩ := projectFilter_eq_ok.mp made
  have hereditary := hereditary_projectPatterns noneBack own
  refine ⟨?_, fun _ _ someDirectory someBelow =>
    PathFilter.excludes_beneath hereditary someDirectory someBelow⟩
  obtain ⟨parts, rfl, isProject⟩ := isProject_of_look regular resolved looked
  refine ⟨_, walk_resolved resolved looked whole, ?_⟩
  intro kind path
  rw [mem_ofKind isProject]
  constructor
  · rintro ⟨directories, name, content, isThere, isPath, ending, through⟩
    exact ⟨directories, name, content, isThere, isPath, ending, through.1⟩
  · rintro ⟨directories, name, content, isThere, isPath, ending, kept⟩
    refine ⟨directories, name, content, isThere, isPath, ending, ?_⟩
    refine (letThrough_iff hereditary ?_).mpr kept
    intro n member
    exact ⟨isProject.proper.names isThere n member, clean _ _ isThere n member⟩

/-- A pattern with sets that take slashes, for directories from the root on, excludes a file beneath
such a directory by its own path.  A pattern with an empty set is dropped. -/
theorem walk_unpruned_with_sets :
    let entries := [("a.ts", Node.file .empty),
      ("src", .folder [("gen", .folder [("b.ts", .file .empty)])])]
    let fs : FileSystem := { disk := .folder [("p", .folder entries)] }
    let excludes := ["s[!q-]*[.-9]ge?/", "[z-a]"]
    fs.Regular ∧ fs.resolve (.ofText "/p") = .ok (.fromRoot ["p"]) ∧
      fs.look (.fromRoot ["p"]) = .ok (some (.folder entries)) ∧
      (∀ pattern ∈ excludes, reincludes pattern = false) ∧
      (∀ pattern ∈ excludes, ∀ rule, compile true pattern = .rule rule → HasOwnSets pattern) ∧
      ∃ filter group, (projectFilter excludes).value = .ok filter ∧
        filter.excludes (relativeText ["src", "gen", "b.ts"]).toList false = true ∧
        (walk fs excludes (.ofText "/p")).value = .ok group ∧
        "/p/a.ts" ∈ group.ofKind .source := by
  intro entries fs excludes
  have regular : fs.Regular := .of_check (by decide) (by simp [fs])
  have resolved : fs.resolve (.ofText "/p") = .ok (.fromRoot ["p"]) := by rfl
  have looked : fs.look (.fromRoot ["p"]) = .ok (some (.folder entries)) := by rfl
  have noneBack : ∀ pattern ∈ excludes, reincludes pattern = false := by decide
  have own : ∀ pattern ∈ excludes, ∀ rule,
      compile true pattern = .rule rule → HasOwnSets pattern := by
    intro pattern member rule compiled
    simp only [excludes, List.mem_cons, List.not_mem_nil, or_false] at member
    rcases member with rfl | rfl
    · decide
    · have dropped : (ruleOf? true "[z-a]").isNone = true := by decide +kernel
      rw [ruleOf?, compiled] at dropped
      cases dropped
  have clean : ∀ place content, (Node.folder entries).find? place = some (.file content) →
      ∀ n ∈ place, '\n' ∉ n.toList ∧ '\\' ∉ n.toList := by
    have listed : ∀ place ∈ [["a.ts"], ["src", "gen", "b.ts"]],
        ∀ n ∈ place, '\n' ∉ n.toList ∧ '\\' ∉ n.toList := by decide
    intro place content isThere
    apply listed
    cases place with
    | nil => cases isThere
    | cons first rest =>
        obtain ⟨child, isEntry, isThere⟩ := Node.exists_entry isThere
        simp only [entries, List.mem_cons, Prod.mk.injEq, List.not_mem_nil, or_false] at isEntry
        obtain ⟨rfl, rfl⟩ | ⟨rfl, rfl⟩ := isEntry
        · cases rest with
          | nil => simp
          | cons _ _ => cases isThere
        · obtain _ | ⟨second, _ | ⟨third, rest⟩⟩ := rest
          · cases isThere
          · obtain ⟨_, isThere⟩ := Node.find?_single.mp isThere
            cases isThere
          · obtain ⟨isSecond, inside⟩ := Node.find?_single.mp isThere
            obtain ⟨isThird, atEnd⟩ := Node.find?_single.mp inside
            cases rest with
            | nil => simp [isSecond, isThird]
            | cons _ _ => cases atEnd
  have made : (projectFilter excludes).value = .ok (filterFor excludes) :=
    projectFilter_eq_ok.mpr ⟨by decide +kernel, rfl⟩
  obtain ⟨⟨group, walked, exact⟩, beneath⟩ := walk_unpruned fs excludes _ "/p" (.fromRoot ["p"])
    entries regular resolved looked made clean noneBack own
  refine ⟨regular, resolved, looked, noneBack, own, _, group, made, ?_, walked, ?_⟩
  · exact beneath ["src", "gen"] ["b.ts"] (by simp) (by simp) (by decide) (by decide +kernel)
  · exact (exact .source "/p/a.ts").mpr
      ⟨[], "a.ts", .empty, rfl, by decide, by decide, by decide +kernel⟩

/-- None of the conditions on the patterns can be left out.  A blank hides the sign of a pattern that
takes a path back in, and a bracket that does not close its expression by itself leaves other text of
the pattern to be read as a choice: both times a directory is pruned in which a file would have been
let through.  Nothing at all is found with a pattern that is not dropped though it gives no rule. -/
theorem pruned_though_let_through :
    let entries := [("a", Node.folder [("b.js", .file .empty)])]
    let fs : FileSystem := { disk := .folder [("p", .folder entries)] }
    (∀ excludes ∈ [["a/", " !a/b.js"], ["[^][]$|]"]],
      (∀ pattern ∈ excludes, pattern.toList.head? ≠ some '!') ∧
      (walk fs excludes (.ofText "/p")).value.toOption.map FileGroup.all = some [] ∧
      ∃ filter, (projectFilter excludes).value = .ok filter ∧
        filter.excludes (relativeText ["a"]).toList true = true ∧
        filter.excludes (relativeText ["a", "b.js"]).toList false = false) ∧
    (walk fs ["[^][](a\x7b4294967296\x7d)]"] (.ofText "/p")).value =
      .error (.pattern .manyRepetitions) := by
  intro entries fs
  refine ⟨?_, walk_broken (by decide +kernel) fs _⟩
  intro excludes member
  simp only [List.mem_cons, List.not_mem_nil, or_false] at member
  rcases member with rfl | rfl
  · exact ⟨by decide, by decide +kernel, _, projectFilter_eq_ok.mpr ⟨by decide +kernel, rfl⟩,
      by decide +kernel, by decide +kernel⟩
  · exact ⟨by decide, by decide +kernel, _, projectFilter_eq_ok.mpr ⟨by decide +kernel, rfl⟩,
      by decide +kernel, by decide +kernel⟩

end Discovery

end MobileAudit
