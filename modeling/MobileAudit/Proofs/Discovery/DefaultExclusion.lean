import MobileAudit.Proofs.Discovery.FileNamePattern
import MobileAudit.Proofs.Pattern.Search

namespace MobileAudit

open Disk Exclusion Pattern

/-! What is excluded by default.  The default patterns apply to directories and files of certain
names wherever these stand, so that nothing of them is found unless a further pattern takes it back
in.  A filter takes backslashes in names for slashes, and the patterns look past other components of
a path only as far as these stand on one line. -/

namespace Exclusion

/-! Components of paths as filters take them. -/

/-- The components of a path, in names with backslashes more than one. -/
def componentsOf (place : List String) : List (List Char) :=
  place.flatMap fun name => Text.splitOn '\\' name.toList

/-- A component of a path apart from which there are no line breaks. -/
def HasComponent (place : List String) (component : List Char) : Prop :=
  ∃ before after, componentsOf place = before ++ component :: after ∧
    ∀ other ∈ before ++ after, '\n' ∉ other

theorem splitOn_ne_nil (separator : Char) (text : List Char) :
    Text.splitOn separator text ≠ [] := Text.splitWhere_ne_nil _ _

private theorem forward_relativeText (place : List String) :
    Text.replaceChar '\\' '/' (Discovery.relativeText place).toList =
      Text.joinWith ['/'] (componentsOf place) := by
  rw [relativeText_toList]
  induction place with
  | nil => rfl
  | cons name place ih =>
      cases place with
      | nil => simp [componentsOf]
      | cons second place =>
          have more : componentsOf (second :: place) ≠ [] := by
            simp [componentsOf, splitOn_ne_nil]
          have split : componentsOf (name :: second :: place) =
              Text.splitOn '\\' name.toList ++ componentsOf (second :: place) := rfl
          have slash : Text.replaceChar '\\' '/' ['/'] = ['/'] := rfl
          rw [split, Text.joinWith_append _ (splitOn_ne_nil _ _) more, ← ih,
            Text.joinWith_splitOn, List.map_cons, Text.joinWith_cons _ _ (by simp),
            Text.replaceChar_append, Text.replaceChar_append, slash]

private theorem hasComponent_last {above : List String} {name : String} (plain : '\\' ∉ name.toList)
    (oneLine : ∀ n ∈ above, '\n' ∉ n.toList) : HasComponent (above ++ [name]) name.toList := by
  have whole : Text.splitOn '\\' name.toList = [name.toList] := by
    refine Text.splitWhere_piece _ _ fun c member => ?_
    rw [beq_eq_false_iff_ne]
    rintro rfl
    exact plain member
  refine ⟨componentsOf above, [], by simp [componentsOf, whole], ?_⟩
  intro other member
  rw [List.append_nil] at member
  obtain ⟨n, isAbove, isPiece⟩ := List.mem_flatMap.mp member
  exact fun isBreak => oneLine n isAbove (Text.mem_of_mem_splitOn isPiece isBreak)

/-- A text that may stand before a component, on one line. -/
def IsLineLead (lead : List Char) : Prop := IsLead false lead ∧ '\n' ∉ lead

/-- A text that may stand after a component, on one line. -/
def IsLineTail (tail : List Char) : Prop := IsTail false tail ∧ '\n' ∉ tail

private theorem joinWith_around (before after : List (List Char)) (component : List Char)
    (oneLine : ∀ other ∈ before ++ after, '\n' ∉ other) :
    ∃ lead tail, Text.joinWith ['/'] (before ++ component :: after) = lead ++ (component ++ tail) ∧
      IsLineLead lead ∧ IsLineTail tail := by
  obtain ⟨tail, isTail, within⟩ : ∃ tail, IsLineTail tail ∧
      Text.joinWith ['/'] (component :: after) = component ++ tail := by
    by_cases last : after = []
    · exact ⟨[], ⟨.inl ⟨rfl, rfl⟩, by simp⟩, by simp [last]⟩
    · refine ⟨'/' :: Text.joinWith ['/'] after, ⟨.inr ⟨_, rfl⟩, ?_⟩, Text.joinWith_cons _ _ last⟩
      have rest : '\n' ∉ Text.joinWith ['/'] after := Text.not_mem_joinWith (by decide)
        fun piece member => oneLine piece (List.mem_append_right before member)
      simp [rest]
  by_cases first : before = []
  · exact ⟨[], tail, by simp [first, within], ⟨.inl rfl, by simp⟩, isTail⟩
  · refine ⟨Text.joinWith ['/'] before ++ ['/'], tail, ?_, ⟨.inr ⟨rfl, _, rfl⟩, ?_⟩, isTail⟩
    · rw [Text.joinWith_append _ first (by simp), within, List.append_assoc]
    · have start : '\n' ∉ Text.joinWith ['/'] before := Text.not_mem_joinWith (by decide)
        fun piece member => oneLine piece (List.mem_append_left after member)
      simp [start]

private theorem IsLineLead.suffix {lead shorter : List Char} (isLead : IsLineLead lead)
    (isEnd : shorter <:+ lead) : IsLineLead shorter := by
  obtain ⟨begin, rfl⟩ := isEnd
  refine ⟨?_, fun member => isLead.2 (List.mem_append_right _ member)⟩
  obtain none | ⟨_, names, split⟩ := isLead.1
  · exact .inl (List.append_eq_nil_iff.mp none).2
  · obtain rfl | ⟨front, last, rfl⟩ := List.eq_nil_or_concat shorter
    · exact .inl rfl
    · rw [List.concat_eq_append, ← List.append_assoc] at split
      obtain ⟨_, isSlash⟩ := List.append_inj' split rfl
      exact .inr ⟨rfl, front, by rw [List.concat_eq_append, isSlash]⟩

private theorem IsLineTail.begins {tail shorter : List Char} (isTail : IsLineTail tail)
    (isStart : shorter <+: tail) : IsLineTail shorter := by
  obtain ⟨rest, rfl⟩ := isStart
  refine ⟨?_, fun member => isTail.2 (List.mem_append_left _ member)⟩
  cases shorter with
  | nil => exact .inl ⟨rfl, rfl⟩
  | cons c shorter =>
      obtain ⟨_, none⟩ | ⟨names, split⟩ := isTail.1
      · cases none
      · obtain ⟨rfl, _⟩ := List.cons.inj split
        exact .inr ⟨shorter, rfl⟩

/-- Slashes at the ends of a path do not belong to its components. -/
theorem trim_around {lead component tail : List Char} (isLead : IsLineLead lead)
    (isTail : IsLineTail tail) (nonempty : component ≠ []) (apart : '/' ∉ component) :
    ∃ lead' tail', Text.trimWhere (· == '/') (lead ++ (component ++ tail)) =
      lead' ++ (component ++ tail') ∧ IsLineLead lead' ∧ IsLineTail tail' := by
  -- Trimming comes to an end at the component at the latest, from either side.
  refine ⟨lead.dropWhile (· == '/'), Text.dropRightWhile (· == '/') tail, ?_,
    isLead.suffix (List.dropWhile_suffix _), isTail.begins (dropRightWhile_begins _ _)⟩
  have start : (component ++ tail).head? ≠ some '/' := by
    obtain ⟨c, rest, rfl⟩ := List.exists_cons_of_ne_nil nonempty
    rintro ⟨⟩
    exact apart (by simp)
  have stops : ∀ begin, Text.dropRightWhile (· == '/') (begin ++ component) =
      begin ++ component := by
    refine fun begin => dropRightWhile_eq_self fun c isLast => ?_
    rw [List.getLast?_append, List.getLast?_eq_some_getLast nonempty, Option.some_or,
      Option.some.injEq] at isLast
    rw [beq_eq_false_iff_ne]
    rintro rfl
    exact apart (isLast ▸ List.getLast_mem nonempty)
  rw [Text.trimWhere, Text.dropWhile_append_stop (dropWhile_of_head? start), ← List.append_assoc,
    Text.dropRightWhile_append_stop (stops _), List.append_assoc]

private theorem normalize_around {place : List String} {component : List Char}
    (isThere : HasComponent place component) (nonempty : component ≠ [])
    (apart : '/' ∉ component) :
    ∃ lead tail, PathFilter.normalize (Discovery.relativeText place).toList =
      lead ++ (component ++ tail) ∧ IsLineLead lead ∧ IsLineTail tail := by
  obtain ⟨before, after, split, oneLine⟩ := isThere
  obtain ⟨lead, tail, joined, isLead, isTail⟩ := joinWith_around before after component oneLine
  rw [PathFilter.normalize, forward_relativeText, split, joined]
  exact trim_around isLead isTail nonempty apart

/-! Patterns that apply to components wherever they stand. -/

/-- Parts that read the texts of a language, whatever stands around them. -/
def PartsRead (parts : List GlobPart) (language : List Char → Prop) : Prop :=
  ∃ glob, partsPattern? parts = some glob ∧ Reads glob fun _ taken _ => language taken

theorem PartsRead.nil : PartsRead [] (· = []) := ⟨.empty, rfl, reads_empty⟩

theorem PartsRead.literals {parts : List GlobPart} {language : List Char → Prop}
    (read : PartsRead parts language) (name : List Char) :
    PartsRead (name.map .literal ++ parts) fun text =>
      ∃ rest, text = name ++ rest ∧ language rest := by
  induction name with
  | nil => simpa using read
  | cons c name ih =>
      obtain ⟨glob, isGlob, reads⟩ := ih
      refine ⟨_, partsPattern?_cons rfl isGlob,
        (reads_seq (reads_one c) reads).congr fun _ taken _ => ⟨?_, ?_⟩⟩
      · rintro ⟨_, _, rfl, rfl, rest, rfl, isRest⟩
        exact ⟨rest, rfl, isRest⟩
      · rintro ⟨rest, rfl, isRest⟩
        exact ⟨[c], name ++ rest, rfl, rfl, rest, rfl, isRest⟩

private theorem PartsRead.name (name : List Char) : PartsRead (name.map .literal) (· = name) := by
  obtain ⟨glob, isGlob, reads⟩ := PartsRead.nil.literals name
  rw [List.append_nil] at isGlob
  exact ⟨glob, isGlob, reads.congr fun _ taken _ => by simp⟩

private theorem PartsRead.anyName {parts : List GlobPart} {language : List Char → Prop}
    (read : PartsRead parts language) :
    PartsRead (.anyName :: parts) fun text =>
      ∃ name rest, text = name ++ rest ∧ '/' ∉ name ∧ language rest := by
  obtain ⟨glob, isGlob, reads⟩ := read
  exact ⟨_, partsPattern?_cons rfl isGlob, reads_seq (reads_manyExcept '/') reads⟩

private theorem matchesStart_around {glob : Pattern} {language : List Char → Prop}
    (reads : Reads glob fun _ taken _ => language taken) {lead component tail : List Char}
    (isLead : IsLineLead lead) (isTail : IsLineTail tail) (isIn : language component) :
    (startPattern false ++ (glob ++ endPattern false)).matchesStart
      (lead ++ (component ++ tail)) = true := by
  -- The lemma for paths on one line does not apply: the component may have line breaks.
  have line := reads_manyExcept '\n'
  have start := reads_alt reads_textStart (reads_seq line (reads_ofChars "/".toList))
  have beneath := reads_alt (reads_seq (reads_ofChars "/".toList) line) reads_empty
  have reads' := reads_seq start (reads_seq reads (reads_seq beneath reads_textEnd))
  refine (matchesStart_reads reads' _).mpr ⟨lead ++ (component ++ tail), [], by simp, lead, _, rfl,
    ?_, component, tail, rfl, isIn, tail, [], by simp, ?_, rfl, .inl rfl⟩
  · obtain ⟨rfl | ⟨_, names, rfl⟩, oneLine⟩ := isLead
    · exact .inl ⟨rfl, rfl⟩
    · exact .inr ⟨names, ['/'], rfl, by simpa using oneLine, rfl⟩
  · obtain ⟨⟨_, rfl⟩ | ⟨names, rfl⟩, oneLine⟩ := isTail
    · exact .inr rfl
    · exact .inl ⟨['/'], names, rfl, rfl, by simpa using oneLine⟩

/-- A rule that applies to all paths with a component. -/
def PathRule.AppliesAround (rule : PathRule) (component : List Char) (isDirectory : Bool) : Prop :=
  ∀ lead tail, IsLineLead lead → IsLineTail tail →
    rule.applies (lead ++ (component ++ tail)) isDirectory = true

/-- A pattern of these parts that holds of directories or files at any depth. -/
def HoldsAnywhere (pattern : String) (isDirectory : Bool) (parts : List GlobPart) : Prop :=
  let trimmed := Text.trim pattern.toList
  let signs := readSigns trimmed
  isIgnored trimmed = false ∧ signs.anchored = false ∧
    (signs.directoriesOnly && !isDirectory) = false ∧ globParts signs.body = parts

instance (pattern : String) (isDirectory : Bool) (parts : List GlobPart) :
    Decidable (HoldsAnywhere pattern isDirectory parts) :=
  inferInstanceAs (Decidable (_ ∧ _ ∧ _ ∧ _))

private theorem exists_rule_around {pattern : String} {isDirectory : Bool} {parts : List GlobPart}
    {language : List Char → Prop} (anywhere : HoldsAnywhere pattern isDirectory parts)
    (read : PartsRead parts language) {component : List Char} (isIn : language component) :
    ∃ rule, ruleOf? true pattern = some rule ∧ rule.AppliesAround component isDirectory := by
  obtain ⟨regarded, unanchored, regards, rfl⟩ := anywhere
  obtain ⟨glob, isGlob, reads⟩ := read
  refine ⟨_, by rw [ruleOf?, compile_of_parts isGlob regarded], ?_⟩
  intro lead tail isLead isTail
  unfold PathRule.applies
  simp only [regards, unanchored, Bool.false_eq_true, if_false]
  exact matchesStart_around reads isLead isTail isIn

/-! Paths that are taken back in. -/

/-- A path that is taken back in by the last of the patterns that apply to it. -/
def TakenBack (patterns : List String) (path : List Char) (isDirectory : Bool) : Prop :=
  ∃ before pattern after rule, patterns = before ++ pattern :: after ∧
    ruleOf? true pattern = some rule ∧ reincludes pattern = true ∧
    rule.applies (PathFilter.normalize path) isDirectory = true ∧
    ∀ later ∈ after, ∀ other, ruleOf? true later = some other →
      other.applies (PathFilter.normalize path) isDirectory = false

theorem takenBack_iff (patterns : List String) (path : List Char) (isDirectory : Bool) :
    TakenBack patterns path isDirectory ↔
      ∃ rule, (patterns.filterMap (ruleOf? true)).reverse.find?
          (·.applies (PathFilter.normalize path) isDirectory) = some rule ∧
        rule.reincludes = true := by
  constructor
  · rintro ⟨before, pattern, after, rule, rfl, isRule, back, applies, others⟩
    refine ⟨rule, ?_, by rw [ruleOf?_reincludes isRule, back]⟩
    rw [List.filterMap_append, List.filterMap_cons_some isRule, List.reverse_append,
      List.reverse_cons, List.find?_append, List.find?_append, List.find?_eq_none.mpr]
    · simp [applies]
    · intro other member
      obtain ⟨later, inside, isOther⟩ := List.mem_filterMap.mp (List.mem_reverse.mp member)
      simp [others later inside other isOther]
  · rintro ⟨rule, found, back⟩
    obtain ⟨applies, later, earlier, split, others⟩ := List.find?_eq_some_iff_append.mp found
    rw [List.reverse_eq_append_iff, List.reverse_cons, List.append_assoc, List.singleton_append]
      at split
    obtain ⟨front, back', rfl, _, isBack⟩ := List.filterMap_eq_append_iff.mp split
    obtain ⟨without, pattern, after, rfl, _, isRule, isAfter⟩ := List.filterMap_eq_cons_iff.mp isBack
    refine ⟨front ++ without, pattern, after, rule, by simp, isRule, ?_, applies, ?_⟩
    · rw [← ruleOf?_reincludes isRule, back]
    · intro other inside rule' isRule'
      have member : rule' ∈ after.filterMap (ruleOf? true) :=
        List.mem_filterMap.mpr ⟨other, inside, isRule'⟩
      rw [isAfter] at member
      simpa using others rule' (List.mem_reverse.mp member)

/-- What a pattern excludes is let through only if it is taken back in. -/
theorem PathFilter.kept_iff_takenBack {patterns : List String} (further : List String)
    (noneBack : ∀ pattern ∈ patterns, reincludes pattern = false) {pattern : String}
    (member : pattern ∈ patterns) {rule : PathRule} (isRule : ruleOf? true pattern = some rule)
    {path : List Char} {isDirectory : Bool}
    (applies : rule.applies (normalize path) isDirectory = true) :
    (filterOf (patterns ++ further)).excludes path isDirectory = false ↔
      TakenBack further path isDirectory := by
  rw [excludes_eq, decidingRule?_append, takenBack_iff]
  cases (further.filterMap (ruleOf? true)).reverse.find?
      (·.applies (normalize path) isDirectory) with
  | some other => simp
  | none =>
      -- One of the first patterns decides, and none of these takes anything back in.
      rw [Option.none_or, decidingRule?, filterOf]
      cases found : (patterns.filterMap (ruleOf? true)).reverse.find?
          (·.applies (normalize path) isDirectory) with
      | none =>
          have isAmong : rule ∈ (patterns.filterMap (ruleOf? true)).reverse :=
            List.mem_reverse.mpr (List.mem_filterMap.mpr ⟨pattern, member, isRule⟩)
          exact absurd applies (List.find?_eq_none.mp found rule isAmong)
      | some deciding =>
          obtain ⟨other, inside, isOther⟩ :=
            List.mem_filterMap.mp (List.mem_reverse.mp (List.mem_of_find?_eq_some found))
          simp [ruleOf?_reincludes isOther, noneBack other inside]

end Exclusion

namespace Discovery

/-! The default patterns. -/

def excludedDirectories : List String :=
  ["node_modules", "Pods", "bower_components", "build", "dist", "coverage", "__tests__",
    "__mocks__"]

def excludedMarks : List String := [".test.", ".spec."]

/-- Names that are excluded by default, of directories and of files. -/
def IsExcludedName : Bool → List Char → Prop
  | true, name => name.head? = some '.' ∨ ∃ directory ∈ excludedDirectories, name = directory.toList
  | false, name =>
      (∃ mark ∈ excludedMarks, mark.toList <:+: name) ∨ name = defaultCacheFile.toList

private theorem default_hidden : HoldsAnywhere ".*/" true (['.'].map .literal ++ [.anyName]) := by
  decide

private theorem default_directories : ∀ directory ∈ excludedDirectories,
    directory ++ "/" ∈ defaultExcludes ∧
      HoldsAnywhere (directory ++ "/") true (directory.toList.map .literal) := by
  decide

private theorem default_marks : ∀ mark ∈ excludedMarks, "*" ++ mark ++ "*" ∈ defaultExcludes ∧
    HoldsAnywhere ("*" ++ mark ++ "*") false
      (.anyName :: (mark.toList.map .literal ++ [.anyName])) := by
  decide

private theorem default_cacheFile :
    HoldsAnywhere defaultCacheFile false (defaultCacheFile.toList.map .literal) := by
  decide

private theorem exists_default_rule {isDirectory : Bool} {name : List Char}
    (isExcluded : IsExcludedName isDirectory name) (apart : '/' ∉ name) :
    ∃ pattern ∈ defaultExcludes, ∃ rule, ruleOf? true pattern = some rule ∧
      rule.AppliesAround name isDirectory := by
  cases isDirectory with
  | true =>
      obtain hidden | ⟨directory, member, rfl⟩ := isExcluded
      · obtain ⟨rest, rfl⟩ := List.head?_eq_some_iff.mp hidden
        have noSlash : '/' ∉ rest := fun inside => apart (by simp [inside])
        exact ⟨".*/", by decide, exists_rule_around default_hidden
          (PartsRead.nil.anyName.literals ['.']) ⟨rest, rfl, rest, [], by simp, noSlash, rfl⟩⟩
      · obtain ⟨isDefault, anywhere⟩ := default_directories directory member
        exact ⟨_, isDefault, exists_rule_around anywhere (.name _) rfl⟩
  | false =>
      obtain ⟨mark, member, before, after, rfl⟩ | rfl := isExcluded
      · obtain ⟨isDefault, anywhere⟩ := default_marks mark member
        have noSlash : '/' ∉ before ∧ '/' ∉ after := by simp_all
        refine ⟨_, isDefault, exists_rule_around anywhere
          (PartsRead.nil.anyName.literals mark.toList).anyName ?_⟩
        exact ⟨before, mark.toList ++ after, by simp, noSlash.1, after, rfl, after, [], by simp,
          noSlash.2, rfl⟩
      · exact ⟨defaultCacheFile, by decide, exists_rule_around default_cacheFile (.name _) rfl⟩

private theorem IsExcludedName.nonempty {isDirectory : Bool} {name : List Char}
    (isExcluded : IsExcludedName isDirectory name) : name ≠ [] := by
  rintro rfl
  cases isDirectory with
  | true =>
      obtain hidden | ⟨directory, member, none⟩ := isExcluded
      · cases hidden
      · revert none
        revert directory
        decide
  | false =>
      revert isExcluded
      unfold IsExcludedName
      decide

/-- A path with a component that is excluded by default is let through exactly if a further pattern
takes it back in and no later one applies. -/
theorem kept_iff_takenBack (excludes : List String) {place : List String} {isDirectory : Bool}
    (apart : ∀ name ∈ place, '/' ∉ name.toList) {component : List Char}
    (isThere : HasComponent place component) (isExcluded : IsExcludedName isDirectory component) :
    (filterFor excludes).excludes (relativeText place).toList isDirectory = false ↔
      TakenBack excludes (relativeText place).toList isDirectory := by
  have apart' : '/' ∉ component := by
    obtain ⟨before, after, split, _⟩ := isThere
    intro slash
    have member : component ∈ componentsOf place := by simp [split]
    obtain ⟨name, inPlace, isPiece⟩ := List.mem_flatMap.mp member
    exact apart name inPlace (Text.mem_of_mem_splitOn isPiece slash)
  obtain ⟨lead, tail, isPath, isLead, isTail⟩ :=
    normalize_around isThere isExcluded.nonempty apart'
  obtain ⟨pattern, isDefault, rule, isRule, applies⟩ := exists_default_rule isExcluded apart'
  refine PathFilter.kept_iff_takenBack excludes defaultExcludes_exclude isDefault isRule ?_
  rw [isPath]
  exact applies lead tail isLead isTail

private theorem directory_of_found {fs : FileSystem} {excludes : List String} {path : Path}
    {group : FileGroup} (walked : (walk fs excludes path).value = .ok group) {found : String}
    (member : found ∈ group.all) :
    ∃ root entries, fs.resolve path = .ok root ∧ fs.look root = .ok (some (.folder entries)) := by
  have nothing : found ∉ FileGroup.all {} := List.not_mem_nil
  unfold walk at walked
  simp only [projectFilter_value, whole_of_walk walked] at walked
  split at walked
  · cases walked
  · rename_i root resolved
    split at walked
    · cases walked
    · rename_i entries looked
      exact ⟨root, entries, resolved, looked⟩
    · cases walked
      exact absurd member nothing

/-- Nothing is found in a directory or of a name that is excluded by default, wherever it stands in
a project, unless the last of the further patterns that apply to it takes it back in. -/
theorem walk_excludes_by_default (fs : FileSystem) (excludes : List String) (project : String)
    (group : FileGroup) (regular : fs.Regular)
    (walked : (walk fs excludes (.ofText project)).value = .ok group) :
    ∀ path ∈ group.all, ∃ root entries directories name content,
      fs.resolve (.ofText project) = .ok root ∧
      fs.look root = .ok (some (.folder entries)) ∧
      (Node.folder entries).find? (directories ++ [name]) = some (.file content) ∧
      path = (Path.mk root.anchor (root.parts ++ (directories ++ [name]))).text ∧
      (∀ way component, way <+: directories → HasComponent way component →
        IsExcludedName true component → TakenBack excludes (relativeText way).toList true) ∧
      ∀ component, HasComponent (directories ++ [name]) component →
        IsExcludedName false component →
        TakenBack excludes (relativeText (directories ++ [name])).toList false := by
  intro path member
  obtain ⟨root, entries, resolved, looked⟩ := directory_of_found walked member
  obtain ⟨parts, rfl, isProject⟩ := isProject_of_look regular resolved looked
  rw [walk_resolved resolved looked (whole_of_walk walked)] at walked
  cases walked
  rw [FileGroup.all_eq_flatMap, List.mem_flatMap] at member
  obtain ⟨kind, _, inKind⟩ := member
  obtain ⟨directories, name, content, isThere, isPath, _, through⟩ :=
    (mem_ofKind isProject).mp inKind
  have apart : ∀ n ∈ directories ++ [name], '/' ∉ n.toList := fun n inside =>
    (isProject.proper.names isThere n inside).2.2.2
  refine ⟨_, entries, directories, name, content, resolved, looked, isThere, isPath, ?_, ?_⟩
  · intro way component isBegin isComponent isExcluded
    refine (kept_iff_takenBack excludes ?_ isComponent isExcluded).mp
      (through.2 way ?_ isBegin)
    · exact fun n inside => apart n (List.mem_append_left _ (isBegin.subset inside))
    · rintro rfl
      obtain ⟨_, _, none, _⟩ := isComponent
      simp [componentsOf] at none
  · intro component isComponent isExcluded
    exact (kept_iff_takenBack excludes apart isComponent isExcluded).mp through.1

/-- A directory for dependencies that is taken back in; a hidden directory and a test are not. -/
theorem walk_takes_dependencies_back :
    let entries := [("a.json", Node.file .empty), (".git", .folder [("b.js", .file .empty)]),
      ("node_modules", .folder [("c.js", .file .empty)]), ("d.test.js", .file .empty)]
    let fs : FileSystem := { disk := .folder [("p", .folder entries)] }
    let excludes := ["!node_modules/"]
    let group : FileGroup := { sources := ["/p/node_modules/c.js"], configs := ["/p/a.json"] }
    fs.Regular ∧ (walk fs excludes (.ofText "/p")).value = .ok group ∧
      "/p/node_modules/c.js" ∈ group.all ∧
      TakenBack excludes (relativeText ["node_modules"]).toList true := by
  intro entries fs excludes group
  have regular : fs.Regular := .of_check (by decide) (by simp [fs])
  have resolved : fs.resolve (.ofText "/p") = .ok (.fromRoot ["p"]) := by rfl
  have looked : fs.look (.fromRoot ["p"]) = .ok (some (.folder entries)) := by rfl
  have found : filesIn (filterFor excludes) ["p"] entries = group := by decide +kernel
  have walked : (walk fs excludes (.ofText "/p")).value = .ok group :=
    (walk_resolved resolved looked (by decide +kernel)).trans (congrArg Except.ok found)
  have member : "/p/node_modules/c.js" ∈ group.all := by decide
  obtain ⟨root, entries', directories, name, content, resolved', looked', isThere, isPath, ways, _⟩ :=
    walk_excludes_by_default fs excludes "/p" group regular walked _ member
  obtain ⟨parts, rfl, isProject⟩ := isProject_of_look regular resolved' looked'
  rw [resolved] at resolved'
  cases resolved'
  -- The path tells which file this is, and so its directories.
  have isPlace : ["p"] ++ (["node_modules"] ++ ["c.js"]) = ["p"] ++ (directories ++ [name]) :=
    Path.text_inj (by decide) (isProject.place isThere) isPath
  have isWay : ["node_modules"] = directories :=
    (List.append_inj' (List.append_cancel_left isPlace) rfl).1
  subst isWay
  have isExcluded : IsExcludedName true "node_modules".toList := .inr ⟨_, by decide, rfl⟩
  refine ⟨regular, walked, member, ways _ _ (List.prefix_refl _) ?_ isExcluded⟩
  have isLast : HasComponent ([] ++ ["node_modules"]) "node_modules".toList :=
    hasComponent_last (by decide) (by simp)
  exact isLast

/-- The default patterns can be overruled, and they miss what stands in a directory with a line break
in its name. -/
theorem found_though_excluded_by_default :
    let dependencies := ("node_modules", Node.folder [("c.js", .file .empty)])
    let project (entry : String × Node) : FileSystem :=
      { disk := .folder [("p", .folder [entry])] }
    (walk (project dependencies) ["!node_modules/"] (.ofText "/p")).value.toOption =
        some { sources := ["/p/node_modules/c.js"] } ∧
      (walk (project ("a\nb", .folder [dependencies])) [] (.ofText "/p")).value.toOption =
        some { sources := ["/p/a\nb/node_modules/c.js"] } := by
  intro dependencies project
  exact ⟨by decide +kernel, by decide +kernel⟩

end Discovery

end MobileAudit
