import MobileAudit.Proofs.Cache.Location
import MobileAudit.Proofs.Discovery.Exactness

namespace MobileAudit

open Disk Exclusion

/-! File names as exclusion patterns.  Such a pattern hides every file of which a part of the path is
described by the name, read as a glob, and nothing else. -/

namespace Exclusion

/-- A path of which a part, from one component to another, is described by a glob. -/
def Covers (glob : List Char) (components : List (List Char)) : Prop :=
  ∃ left middle right, components = left ++ (middle ++ right) ∧ middle ≠ [] ∧
    Describes glob (Text.joinWith ['/'] middle)

private theorem Covers.append {glob : List Char} {first : List (List Char)}
    (covers : Covers glob first)
    (second : List (List Char)) : Covers glob (first ++ second) := by
  obtain ⟨left, middle, right, rfl, some, described⟩ := covers
  exact ⟨left, middle, right ++ second, by simp, some, described⟩

theorem describes_self (fuel : Nat) (glob : List Char) (enough : glob.length ≤ fuel)
    (noSlash : '/' ∉ glob) (noBracket : '[' ∉ glob) : Describes glob glob := by
  -- The cases are those in which a glob is read; a wildcard describes itself among other texts.
  fun_induction partsFrom fuel glob with
  | case1 glob =>
      rw [List.length_eq_zero_iff.mp (Nat.le_zero.mp enough), Describes]
  | case2 => rw [Describes]
  | case3 => simp at noSlash
  | case4 fuel glob noDirectories ih =>
      simp only [List.length_cons, List.mem_cons, not_or] at enough noSlash noBracket
      rw [Describes]
      · exact ⟨['*', '*'], glob, rfl, ih (by omega) noSlash.2.2 noBracket.2.2⟩
      · exact noDirectories
  | case5 fuel glob noDirectories noAnything ih =>
      simp only [List.length_cons, List.mem_cons, not_or] at enough noSlash noBracket
      rw [Describes]
      · exact ⟨['*'], glob, rfl, by decide, ih (by omega) noSlash.2 noBracket.2⟩
      · exact noDirectories
      · exact noAnything
  | case6 fuel glob ih =>
      simp only [List.length_cons, List.mem_cons, not_or] at enough noSlash noBracket
      rw [Describes]
      exact ⟨'?', glob, rfl, by decide, ih (by omega) noSlash.2 noBracket.2⟩
  | case7 => simp at noBracket
  | case8 => simp at noBracket
  | case9 fuel c glob noDirectories noAnything noName noChar noSet ih =>
      simp only [List.length_cons, List.mem_cons, not_or] at enough noSlash noBracket
      rw [Describes]
      · exact ⟨glob, rfl, ih (by omega) noSlash.2 noBracket.2⟩
      · exact noDirectories
      · exact noAnything
      · exact noName
      · exact noChar

/-- A name that is read as a glob without signs and bracket expressions. -/
structure IsUnsigned (name : String) : Prop where
  noBracket : '[' ∉ name.toList
  noBack : name.toList.head? ≠ some '!'
  noComment : name.toList.head? ≠ some '#'

theorem covers_self {name : String} (isName : Settings.IsFileName name)
    (unsigned : IsUnsigned name) : Covers name.toList [name.toList] := by
  refine ⟨[], [name.toList], [], rfl, by simp, ?_⟩
  rw [Text.joinWith_singleton]
  exact describes_self _ _ (Nat.le_refl _) isName.noSlash unsigned.noBracket

theorem compile_fileName {name : String} (isName : Settings.IsFileName name)
    (unsigned : IsUnsigned name) :
    ∃ rule, ruleOf? true name = some rule ∧ rule.reincludes = false ∧
      ∀ components isDirectory, components ≠ [] → (∀ c ∈ components, IsComponent c) →
        (rule.applies (Text.joinWith ['/'] components) isDirectory = true ↔
          Covers name.toList components) := by
  have letters : name.toList ≠ [] := fun none =>
    isName.nonempty (String.toList_eq_nil_iff.mp none)
  have noEnd : name.toList.getLast? ≠ some '/' := fun slash =>
    isName.noSlash (List.mem_of_getLast? slash)
  have noStart : name.toList.head? ≠ some '/' := fun slash =>
    isName.noSlash (List.mem_of_head? slash)
  have signs : readSigns name.toList = ⟨name.toList, false, false, false⟩ := by
    unfold readSigns
    simp [unsigned.noBack, noEnd, noStart, isName.noSlash]
  obtain ⟨glob, isGlob, takes⟩ := globParts_takes name.toList unsigned.noBracket
  have isParts : partsPattern? (globParts (readSigns (Text.trim name.toList)).body) = some glob := by
    rw [isName.trimmed, signs]
    exact isGlob
  have compiled := compile_of_parts isParts
    (by simp [isIgnored, isName.trimmed, letters, unsigned.noComment])
  rw [isName.trimmed, signs] at compiled
  refine ⟨_, by rw [ruleOf?, compiled], rfl, ?_⟩
  · intro components isDirectory nonempty proper
    have apart : ∀ c ∈ components, '/' ∉ c := fun c member => (proper c member).2.1
    have oneLine : '\n' ∉ Text.joinWith ['/'] components :=
      Text.not_mem_joinWith (by decide) fun c member => (proper c member).2.2
    unfold PathRule.applies
    simp only [Bool.false_and, Bool.false_eq_true, if_false]
    rw [matchesStart_iff takes _ _ _ oneLine, exists_lead_iff _ _ _ nonempty apart]
    simp [Covers]

/-! Paths of clean names. -/

def IsClean (name : String) : Prop :=
  ProperName name ∧ '\n' ∉ name.toList ∧ '\\' ∉ name.toList

instance (name : String) : Decidable (IsClean name) :=
  inferInstanceAs (Decidable (_ ∧ _ ∧ _))

theorem IsClean.component {name : String} (clean : IsClean name) : IsComponent name.toList := by
  obtain ⟨⟨nonempty, _, _, noSlash⟩, noBreak, _⟩ := clean
  refine ⟨?_, noSlash, noBreak⟩
  intro none
  exact nonempty (String.toList_eq_nil_iff.mp none)

theorem relativeText_toList (place : List String) :
    (Discovery.relativeText place).toList = Text.joinWith ['/'] (place.map String.toList) := by
  rw [Discovery.relativeText, Text.joinTexts, String.toList_intercalate]
  rfl

theorem normalize_relativeText {place : List String} (clean : ∀ name ∈ place, IsClean name) :
    PathFilter.normalize (Discovery.relativeText place).toList =
      Text.joinWith ['/'] (place.map String.toList) := by
  rw [relativeText_toList]
  have components : ∀ c ∈ place.map String.toList, IsComponent c := by
    intro c member
    obtain ⟨name, inside, rfl⟩ := List.mem_map.mp member
    exact (clean name inside).component
  have apart : ∀ c ∈ place.map String.toList, '/' ∉ c := fun c member => (components c member).2.1
  have nonempty : ∀ {pieces : List (List Char)}, pieces ≠ [] →
      (∀ c ∈ pieces, c ∈ place.map String.toList) → Text.joinWith ['/'] pieces ≠ [] := by
    intro pieces more inside
    exact Text.joinWith_ne_nil more fun c member => (components c (inside c member)).1
  have noBackslash : '\\' ∉ Text.joinWith ['/'] (place.map String.toList) := by
    refine Text.not_mem_joinWith (by decide) fun c member => ?_
    obtain ⟨name, isName, rfl⟩ := List.mem_map.mp member
    exact (clean name isName).2.2
  have noStart : (Text.joinWith ['/'] (place.map String.toList)).head? ≠ some '/' := by
    intro slash
    obtain ⟨after, whole⟩ := List.head?_eq_some_iff.mp slash
    rw [← List.nil_append ('/' :: after)] at whole
    obtain ⟨first, second, split, some, _, none, _⟩ := Text.joinWith_eq_append_cons apart whole
    exact nonempty some (fun c member => by simp [split, member]) none.symm
  have noEnd : (Text.joinWith ['/'] (place.map String.toList)).getLast? ≠ some '/' := by
    intro slash
    obtain ⟨before, whole⟩ := List.getLast?_eq_some_iff.mp slash
    obtain ⟨first, second, split, _, some, _, none⟩ := Text.joinWith_eq_append_cons apart whole
    exact nonempty some (fun c member => by simp [split, member]) none.symm
  have kept : Text.replaceChar '\\' '/' (Text.joinWith ['/'] (place.map String.toList)) =
      Text.joinWith ['/'] (place.map String.toList) := Text.replaceChar_eq_self noBackslash
  rw [PathFilter.normalize, kept, Text.trimWhere, dropWhile_of_head? noStart,
    dropRightWhile_eq_self]
  intro c isLast
  rw [beq_eq_false_iff_ne]
  rintro rfl
  exact noEnd isLast

/-- A further pattern that is a plain name excludes what the name covers. -/
theorem excludes_fileName {name : String} (isName : Settings.IsFileName name)
    (unsigned : IsUnsigned name) (patterns : List String) {place : List String}
    (nonempty : place ≠ []) (clean : ∀ n ∈ place, IsClean n) (isDirectory : Bool) :
    (filterOf (patterns ++ [name])).excludes
        (Discovery.relativeText place).toList isDirectory = true ↔
      Covers name.toList (place.map String.toList) ∨
        (filterOf patterns).excludes
          (Discovery.relativeText place).toList isDirectory = true := by
  obtain ⟨rule, compiled, hides, applies⟩ := compile_fileName isName unsigned
  have components : ∀ c ∈ place.map String.toList, IsComponent c := by
    intro c member
    obtain ⟨n, inside, rfl⟩ := List.mem_map.mp member
    exact (clean n inside).component
  rw [PathFilter.excludes_eq, PathFilter.excludes_eq, PathFilter.decidingRule?_append,
    normalize_relativeText clean, ← applies _ isDirectory (by simpa using nonempty) components]
  simp only [List.filterMap_cons, compiled, List.filterMap_nil, List.reverse_singleton,
    List.find?_cons, List.find?_nil]
  cases rule.applies (Text.joinWith ['/'] (place.map String.toList)) isDirectory with
  | true => simp [hides]
  | false => simp

end Exclusion

namespace Discovery

/-! The files that the name of a cache file leaves of a project. -/

section

variable {excludes : List String} {name : String} (isName : Settings.IsFileName name)
  (unsigned : IsUnsigned name)

include isName unsigned

theorem letThrough_append {directories : List String} {last : String}
    (clean : ∀ n ∈ directories ++ [last], IsClean n) :
    LetThrough (filterFor (excludes ++ [name])) [] directories last ↔
      LetThrough (filterFor excludes) [] directories last ∧
        ¬ Covers name.toList ((directories ++ [last]).map String.toList) := by
  have split : defaultExcludes ++ (excludes ++ [name]) = defaultExcludes ++ excludes ++ [name] := by
    rw [List.append_assoc]
  have decided := fun (place : List String) (nonempty : place ≠ [])
      (clean : ∀ n ∈ place, IsClean n) (isDirectory : Bool) =>
    excludes_fileName isName unsigned (defaultExcludes ++ excludes) nonempty clean isDirectory
  unfold LetThrough filterFor
  simp only [split, List.nil_append, ← Bool.not_eq_true]
  rw [decided _ (by simp) clean false, not_or]
  constructor
  · rintro ⟨⟨uncovered, file⟩, ways⟩
    refine ⟨⟨file, ?_⟩, uncovered⟩
    intro way nonempty isBegin excluded
    refine ways way nonempty isBegin ((decided way nonempty ?_ true).mpr (.inr excluded))
    intro n member
    exact clean n (List.mem_append_left _ (isBegin.subset member))
  · rintro ⟨⟨file, ways⟩, uncovered⟩
    refine ⟨⟨uncovered, file⟩, ?_⟩
    intro way nonempty isBegin
    have cleanWay : ∀ n ∈ way, IsClean n := fun n member =>
      clean n (List.mem_append_left _ (isBegin.subset member))
    rw [decided way nonempty cleanWay true]
    rintro (covered | excluded)
    · obtain ⟨rest, rfl⟩ := isBegin
      refine uncovered ?_
      rw [List.append_assoc, List.map_append]
      exact covered.append _
    · exact ways way nonempty isBegin excluded

end

private theorem unsigned_default : IsUnsigned defaultCacheFile :=
  ⟨by decide, by decide, by decide⟩

private theorem not_covers_default {excludes : List String}
    (noneBack : ∀ pattern ∈ excludes, reincludes pattern = false) {directories : List String}
    {last : String} (clean : ∀ n ∈ directories ++ [last], IsClean n)
    (through : LetThrough (filterFor excludes) [] directories last) :
    ¬ Covers defaultCacheFile.toList ((directories ++ [last]).map String.toList) := by
  intro covers
  have isLast : defaultExcludes = defaultExcludes.dropLast ++ [defaultCacheFile] := by decide
  have byDefault := (excludes_fileName Settings.isFileName_default unsigned_default
    defaultExcludes.dropLast (by simp) clean false).mpr (.inl covers)
  rw [← isLast] at byDefault
  have excluded := PathFilter.excludes_append defaultExcludes excludes noneBack _ false byDefault
  have kept := through.1
  rw [List.nil_append, filterFor, excluded] at kept
  cases kept

/-- The name of a cache file breaks nothing down. -/
theorem firstBreakdown?_withCacheFile {name : String} (isName : Settings.IsFileName name)
    (unsigned : IsUnsigned name) (excludes : List String) :
    firstBreakdown? (withCacheFile excludes name) = firstBreakdown? excludes := by
  obtain ⟨rule, compiled, _⟩ := compile_fileName isName unsigned
  have whole : firstBreakdown? [name] = none := by
    rw [firstBreakdown?, List.findSome?_singleton, breakdown?_of_rule compiled]
  unfold withCacheFile
  split
  · rfl
  · rw [firstBreakdown?_append, whole, Option.or_none]

section

variable {excludes : List String} {name : String} (isName : Settings.IsFileName name)
  (unsigned : IsUnsigned name)
  (noneBack : name = defaultCacheFile → ∀ pattern ∈ excludes, reincludes pattern = false)

include isName unsigned noneBack

private theorem letThrough_withCacheFile {directories : List String} {last : String}
    (clean : ∀ n ∈ directories ++ [last], IsClean n) :
    LetThrough (filterFor (withCacheFile excludes name)) [] directories last ↔
      LetThrough (filterFor excludes) [] directories last ∧
        ¬ Covers name.toList ((directories ++ [last]).map String.toList) := by
  unfold withCacheFile
  by_cases usual : name = defaultCacheFile
  · rw [if_pos usual]
    refine (and_iff_left_of_imp fun through => ?_).symm
    rw [usual]
    exact not_covers_default (noneBack usual) clean through
  · rw [if_neg usual]
    exact letThrough_append isName unsigned clean

private theorem cacheFile_excluded_withCacheFile (clean : IsClean name) (isDirectory : Bool) :
    (filterFor (withCacheFile excludes name)).excludes (relativeText [name]).toList
      isDirectory = true := by
  unfold withCacheFile
  by_cases usual : name = defaultCacheFile
  · rw [if_pos usual]
    subst usual
    exact cacheFile_excluded excludes (noneBack rfl) isDirectory
  · rw [if_neg usual, filterFor, ← List.append_assoc,
      excludes_fileName isName unsigned _ (by simp) (by simpa using clean)]
    exact .inl (covers_self isName unsigned)

theorem filesIn_putEntry (clean : IsClean name) (node : Node) (parts : List String)
    (entries : List (String × Node)) :
    filesIn (filterFor (withCacheFile excludes name)) parts
        (Node.putEntry name node entries) =
      filesIn (filterFor (withCacheFile excludes name)) parts entries := by
  unfold filesIn beneath
  simp only
  rw [visitAll_putEntry]
  intro isDirectory
  exact cacheFile_excluded_withCacheFile isName unsigned noneBack clean isDirectory

end

/-- The files of a project that are found: none with a pattern that breaks down. -/
def filesFor (excludes parts : List String) (entries : List (String × Node)) : List String :=
  match firstBreakdown? excludes with
  | some _ => []
  | none => (filesIn (filterFor excludes) parts entries).all

theorem filter_eq_iff {paths : List String} {keep other : String → Bool} :
    paths.filter keep = paths.filter other ↔ ∀ path ∈ paths, keep path = other path := by
  constructor
  · intro same path member
    have kept := congrArg (path ∈ ·) same
    simp only [List.mem_filter, member, true_and] at kept
    exact Bool.eq_iff_iff.mpr (iff_of_eq kept)
  · exact List.filter_congr

theorem eq_of_strict {one other : List String} (ordered : one.Pairwise (· < ·))
    (ordered' : other.Pairwise (· < ·)) (same : ∀ path, path ∈ one ↔ path ∈ other) :
    one = other := by
  have unequal : one.Nodup := ordered.imp String.ne_of_lt
  have unequal' : other.Nodup := ordered'.imp String.ne_of_lt
  refine ((List.perm_ext_iff_of_nodup unequal unequal').mpr same).eq_of_pairwise ?_ ordered ordered'
  intro first second _ _ before after
  exact absurd (String.lt_trans before after) (String.lt_irrefl first)

section

variable {fs : FileSystem} {parts : List String} {entries : List (String × Node)}
  (project : IsProject fs parts entries) {excludes : List String} {name : String}
  (isName : Settings.IsFileName name) (unsigned : IsUnsigned name)
  (noneBack : name = defaultCacheFile → ∀ pattern ∈ excludes, reincludes pattern = false)
  (clean : ∀ place content, (Node.folder entries).find? place = some (.file content) →
    ∀ n ∈ place, '\n' ∉ n.toList ∧ '\\' ∉ n.toList)

include project isName unsigned noneBack clean

private theorem filesIn_withCacheFile {keep : String → Bool}
    (keeps : ∀ place content, (Node.folder entries).find? place = some (.file content) →
      (keep (Path.fromRoot (parts ++ place)).text = true ↔
        ¬ Covers name.toList (place.map String.toList))) :
    (filesIn (filterFor (withCacheFile excludes name)) parts entries).all =
      (filesIn (filterFor excludes) parts entries).all.filter keep := by
  rw [FileGroup.all_eq_flatMap, FileGroup.all_eq_flatMap, List.filter_flatMap, List.flatMap_def,
    List.flatMap_def]
  refine congrArg List.flatten (List.map_congr_left fun kind _ => ?_)
  refine eq_of_strict (strict_ofKind project kind)
    ((strict_ofKind project kind).sublist List.filter_sublist) fun path => ?_
  have cleanPlace : ∀ {place content}, (Node.folder entries).find? place = some (.file content) →
      ∀ n ∈ place, IsClean n := by
    intro place content isThere n member
    exact ⟨project.proper.names isThere n member, clean place content isThere n member⟩
  rw [List.mem_filter, mem_ofKind project, mem_ofKind project]
  constructor
  · rintro ⟨directories, last, content, isThere, rfl, known, through⟩
    rw [letThrough_withCacheFile isName unsigned noneBack (cleanPlace isThere)] at through
    exact ⟨⟨directories, last, content, isThere, rfl, known, through.1⟩,
      (keeps _ content isThere).mpr through.2⟩
  · rintro ⟨⟨directories, last, content, isThere, rfl, known, through⟩, kept⟩
    refine ⟨directories, last, content, isThere, rfl, known, ?_⟩
    rw [letThrough_withCacheFile isName unsigned noneBack (cleanPlace isThere)]
    exact ⟨through, (keeps _ content isThere).mp kept⟩

theorem filesFor_withCacheFile {keep : String → Bool}
    (keeps : ∀ place content, (Node.folder entries).find? place = some (.file content) →
      (keep (Path.fromRoot (parts ++ place)).text = true ↔
        ¬ Covers name.toList (place.map String.toList))) :
    filesFor (withCacheFile excludes name) parts entries =
      (filesFor excludes parts entries).filter keep := by
  unfold filesFor
  rw [firstBreakdown?_withCacheFile isName unsigned]
  cases firstBreakdown? excludes with
  | some cause => rfl
  | none => exact filesIn_withCacheFile project isName unsigned noneBack clean keeps

end

theorem mem_filesFor {fs : FileSystem} {parts : List String} {entries : List (String × Node)}
    (project : IsProject fs parts entries) {excludes : List String} {path : String}
    (member : path ∈ filesFor excludes parts entries) :
    ∃ place content, (Node.folder entries).find? place = some (.file content) ∧
      path = (Path.fromRoot (parts ++ place)).text := by
  unfold filesFor at member
  split at member
  · cases member
  · rw [FileGroup.all_eq_flatMap] at member
    obtain ⟨kind, _, inKind⟩ := List.mem_flatMap.mp member
    obtain ⟨directories, last, content, isThere, isPath, _⟩ := (mem_ofKind project).mp inKind
    exact ⟨_, content, isThere, isPath⟩

theorem text_eq_child_iff {fs : FileSystem} {parts : List String} {entries : List (String × Node)}
    (project : IsProject fs parts entries) {name : String} (isName : Settings.IsFileName name)
    (noPoint : name ≠ ".") {place : List String} {node : Node}
    (isThere : (Node.folder entries).find? place = some node) :
    (Path.fromRoot (parts ++ place)).text = ((Path.fromRoot parts).child name).text ↔
      place = [name] := by
  rw [Path.child_fileName isName, if_neg noPoint]
  constructor
  · intro same
    have names : ∀ n ∈ parts ++ [name], n ≠ "" ∧ n ≠ "." ∧ '/' ∉ n.toList := by
      intro n member
      obtain inRoot | isLast := List.mem_append.mp member
      · obtain ⟨nonempty, notPoint, _, noSlash⟩ := project.names n inRoot
        exact ⟨nonempty, notPoint, noSlash⟩
      · rw [List.mem_singleton.mp isLast]
        exact ⟨isName.nonempty, noPoint, isName.noSlash⟩
    have read := congrArg Path.ofText same
    rw [Path.ofText_text _ (project.place isThere), Path.ofText_fromRoot _ names] at read
    exact List.append_cancel_left (congrArg Path.parts read)
  · rintro rfl
    rfl

theorem exists_keep {fs : FileSystem} {parts : List String} {entries : List (String × Node)}
    (project : IsProject fs parts entries) (glob : List Char) :
    ∃ keep : String → Bool, ∀ place content,
      (Node.folder entries).find? place = some (.file content) →
        (keep (Path.fromRoot (parts ++ place)).text = true ↔
          ¬ Covers glob (place.map String.toList)) := by
  classical
  refine ⟨fun path => decide (∃ place content,
    (Node.folder entries).find? place = some (.file content) ∧
      path = (Path.fromRoot (parts ++ place)).text ∧ ¬ Covers glob (place.map String.toList)), ?_⟩
  intro place content isThere
  rw [decide_eq_true_iff]
  constructor
  · rintro ⟨other, _, isOther, same, uncovered⟩
    rwa [List.append_cancel_left
      (Path.text_inj (project.place isThere) (project.place isOther) same)]
  · intro uncovered
    exact ⟨place, content, isThere, rfl, uncovered⟩

end Discovery

end MobileAudit
