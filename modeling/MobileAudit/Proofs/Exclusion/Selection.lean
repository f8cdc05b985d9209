import MobileAudit.Proofs.Exclusion.GlobLanguage
import MobileAudit.Proofs.Text.Pieces

namespace MobileAudit

open Pattern

/-! What exclusion patterns select: the paths of which a part, from one component to another, is
described by the glob of the pattern. -/

/-! Components of paths. -/

namespace Exclusion

/-- A component of a path: not empty, without slashes and on one line. -/
def IsComponent (name : List Char) : Prop :=
  name ≠ [] ∧ '/' ∉ name ∧ '\n' ∉ name

section

variable {components : List (List Char)} (language : List Char → Prop) (anchored onlyBeneath : Bool)

/-- A text of the glob and a tail are some of the components and the rest of them. -/
theorem exists_tail_iff (some : components ≠ []) (apart : ∀ c ∈ components, '/' ∉ c) :
    (∃ body tail, Text.joinWith ['/'] components = body ++ tail ∧ language body ∧
        IsTail onlyBeneath tail) ↔
      ∃ middle right, components = middle ++ right ∧ middle ≠ [] ∧
        (onlyBeneath = true → right ≠ []) ∧ language (Text.joinWith ['/'] middle) := by
  constructor
  · rintro ⟨body, tail, split, isBody, ⟨isFalse, rfl⟩ | ⟨names, rfl⟩⟩
    · rw [List.append_nil] at split
      refine ⟨components, [], by simp, some, by simp [isFalse], ?_⟩
      rwa [split]
    · obtain ⟨middle, right, rfl, someMiddle, someRight, rfl, rfl⟩ :=
        Text.joinWith_eq_append_cons apart split
      exact ⟨middle, right, rfl, someMiddle, fun _ => someRight, isBody⟩
  · rintro ⟨middle, right, rfl, someMiddle, beneath, isBody⟩
    by_cases whole : right = []
    · subst whole
      refine ⟨_, [], by simp, isBody, .inl ⟨?_, rfl⟩⟩
      cases onlyBeneath with
      | true => exact absurd rfl (beneath rfl)
      | false => rfl
    · exact ⟨_, _, Text.joinWith_append ['/'] someMiddle whole, isBody, .inr ⟨_, rfl⟩⟩

theorem exists_lead_iff (some : components ≠ []) (apart : ∀ c ∈ components, '/' ∉ c) :
    (∃ lead body tail, Text.joinWith ['/'] components = lead ++ (body ++ tail) ∧
        IsLead anchored lead ∧ language body ∧ IsTail onlyBeneath tail) ↔
      ∃ left middle right, components = left ++ (middle ++ right) ∧ middle ≠ [] ∧
        (anchored = true → left = []) ∧ (onlyBeneath = true → right ≠ []) ∧
        language (Text.joinWith ['/'] middle) := by
  constructor
  · rintro ⟨lead, body, tail, split, rfl | ⟨isFalse, names, rfl⟩, isBody, isTail⟩
    · obtain ⟨middle, right, rfl, rest⟩ :=
        (exists_tail_iff language onlyBeneath some apart).mp ⟨body, tail, split, isBody, isTail⟩
      exact ⟨[], middle, right, rfl, rest.1, fun _ => rfl, rest.2⟩
    · rw [List.append_assoc, List.singleton_append] at split
      obtain ⟨left, others, rfl, _, someOthers, _, split⟩ :=
        Text.joinWith_eq_append_cons apart split
      obtain ⟨middle, right, rfl, rest⟩ :=
        (exists_tail_iff language onlyBeneath someOthers
          fun c member => apart c (List.mem_append_right _ member)).mp
          ⟨body, tail, split.symm, isBody, isTail⟩
      exact ⟨left, middle, right, rfl, rest.1, by simp [isFalse], rest.2⟩
  · rintro ⟨left, middle, right, rfl, someMiddle, atRoot, rest⟩
    have someOthers : middle ++ right ≠ [] := by simp [someMiddle]
    obtain ⟨body, tail, split, isBody, isTail⟩ :=
      (exists_tail_iff language onlyBeneath someOthers
        fun c member => apart c (List.mem_append_right _ member)).mpr
        ⟨middle, right, rfl, someMiddle, rest⟩
    by_cases whole : left = []
    · subst whole
      exact ⟨[], body, tail, split, .inl rfl, isBody, isTail⟩
    · refine ⟨Text.joinWith ['/'] left ++ ['/'], body, tail, ?_, .inr ⟨?_, _, rfl⟩, isBody, isTail⟩
      · rw [Text.joinWith_append ['/'] whole someOthers, split, List.append_assoc]
      · cases anchored with
        | true => exact absurd (atRoot rfl) whole
        | false => rfl

/-- A part of a list is given by the numbers of its first and its last item. -/
theorem exists_part_iff (wholeLeft wholeRight : Prop) (holds : List (List Char) → Prop) :
    (∃ left middle right, components = left ++ (middle ++ right) ∧ middle ≠ [] ∧
        (wholeLeft → left = []) ∧ (wholeRight → right ≠ []) ∧ holds middle) ↔
      ∃ first last, 1 ≤ first ∧ first ≤ last ∧ last ≤ components.length ∧
        (wholeLeft → first = 1) ∧ (wholeRight → last < components.length) ∧
        holds ((components.take last).drop (first - 1)) := by
  constructor
  · rintro ⟨left, middle, right, rfl, someMiddle, atStart, goesOn, isMiddle⟩
    have positive : 0 < middle.length := List.length_pos_iff.mpr someMiddle
    refine ⟨left.length + 1, left.length + middle.length, by omega, by omega, ?_, ?_, ?_, ?_⟩
    · simp only [List.length_append]
      omega
    · intro isWhole
      rw [atStart isWhole]
      rfl
    · intro isWhole
      have more : 0 < right.length := List.length_pos_iff.mpr (goesOn isWhole)
      simp only [List.length_append]
      omega
    · rwa [Nat.add_sub_cancel, ← List.append_assoc, ← List.length_append, List.take_left,
        List.drop_left]
  · rintro ⟨first, last, positive, ordered, within, atStart, goesOn, isMiddle⟩
    refine ⟨components.take (first - 1), (components.take last).drop (first - 1),
      components.drop last, ?_, ?_, ?_, ?_, isMiddle⟩
    · have front : components.take (first - 1) = (components.take last).take (first - 1) := by
        rw [List.take_take, Nat.min_eq_left (by omega)]
      rw [front, ← List.append_assoc, List.take_append_drop, List.take_append_drop]
    · rw [← List.length_pos_iff, List.length_drop, List.length_take]
      omega
    · intro isWhole
      rw [atStart isWhole]
      rfl
    · intro isWhole
      rw [← List.length_pos_iff, List.length_drop]
      have := goesOn isWhole
      omega

end

/-! Signs of patterns. -/

/-- A pattern without the sign that takes paths back in. -/
def unsigned (pattern : List Char) : List Char :=
  if pattern.head? = some '!' then pattern.tail else pattern

/-- The glob of a pattern: without sign, and without slashes at its ends. -/
def globOf (pattern : List Char) : List Char :=
  (Text.dropRightWhile (· == '/') (unsigned pattern)).dropWhile (· == '/')

/-- A pattern that holds from the root on: it starts with a slash, or has one inside and does not
start with `**/`. -/
def IsAnchored (pattern : List Char) : Prop :=
  (unsigned pattern).head? = some '/' ∨
    '/' ∈ globOf pattern ∧ ¬ ['*', '*', '/'] <+: globOf pattern

def IsDirectoryOnly (pattern : List Char) : Prop :=
  (unsigned pattern).getLast? = some '/'

/-- A path is selected by a pattern if the glob describes a part of it: from the first component on
if the pattern is anchored, and not to the last one if the pattern is for directories and the path is
none. -/
def Selects (pattern : List Char) (components : List (List Char)) (isDirectory : Bool) : Prop :=
  ∃ first last, 1 ≤ first ∧ first ≤ last ∧ last ≤ components.length ∧
    (IsAnchored pattern → first = 1) ∧
    (IsDirectoryOnly pattern ∧ isDirectory = false → last < components.length) ∧
    Describes (globOf pattern) (Text.joinWith ['/'] ((components.take last).drop (first - 1)))

theorem dropRightWhile_begins (test : Char → Bool) (text : List Char) :
    Text.dropRightWhile test text <+: text := by
  have suffix := List.reverse_prefix.mpr (List.dropWhile_suffix (l := text.reverse) test)
  rwa [List.reverse_reverse] at suffix

theorem dropRightWhile_eq_self {test : Char → Bool} {text : List Char}
    (kept : ∀ c, text.getLast? = some c → test c = false) : Text.dropRightWhile test text = text := by
  unfold Text.dropRightWhile
  cases back : text.reverse with
  | nil =>
      rw [List.reverse_eq_nil_iff] at back
      rw [back]
      rfl
  | cons c rest =>
      have isLast : text.getLast? = some c := by
        rw [← List.head?_reverse, back]
        rfl
      rw [List.dropWhile_cons_of_neg (by simp [kept c isLast]), ← back, List.reverse_reverse]

private theorem head?_of_start {text whole : List Char} {c : Char} (start : text <+: whole)
    (isHead : text.head? = some c) : whole.head? = some c := by
  obtain ⟨rest, rfl⟩ := start
  rw [List.head?_append, isHead]
  rfl

theorem dropWhile_of_head? {text : List Char} (noSlash : text.head? ≠ some '/') :
    text.dropWhile (· == '/') = text := by
  cases text with
  | nil => rfl
  | cons c rest =>
      rw [List.head?_cons, Ne, Option.some.injEq] at noSlash
      exact List.dropWhile_cons_of_neg (by simpa using noSlash)

theorem readSigns_eq (pattern : List Char) :
    let stem := Text.dropRightWhile (· == '/') (unsigned pattern)
    (readSigns pattern).body = globOf pattern ∧
      ((readSigns pattern).directoriesOnly = true ↔ IsDirectoryOnly pattern) ∧
      (readSigns pattern).anchored = (stem.head? == some '/' ||
        stem.contains '/' && !"**/".toList.isPrefixOf stem) := by
  intro stem
  have isUnsigned : (if (pattern.head? == some '!') = true then pattern.drop 1 else pattern) =
      unsigned pattern := by
    simp only [unsigned, beq_iff_eq, List.drop_one]
  have isStem : (if ((unsigned pattern).getLast? == some '/') = true then stem
      else unsigned pattern) = stem := by
    split
    · rfl
    · rename_i noSlash
      refine (dropRightWhile_eq_self ?_).symm
      intro c isLast
      rw [isLast] at noSlash
      simpa using noSlash
  unfold readSigns
  simp only [isUnsigned]
  simp only [stem] at isStem ⊢
  simp only [isStem]
  split
  · rename_i slash
    exact ⟨rfl, by simp [IsDirectoryOnly], by simp [slash]⟩
  · rename_i noSlash
    refine ⟨?_, by simp [IsDirectoryOnly], ?_⟩
    · exact (dropWhile_of_head? (by simpa using noSlash)).symm
    · simp [noSlash]

/-- An anchored pattern is read as one, unless nothing is left of its glob. -/
theorem readSigns_anchored {pattern : List Char} (someGlob : globOf pattern ≠ []) :
    (readSigns pattern).anchored = true ↔ IsAnchored pattern := by
  have start := dropRightWhile_begins (· == '/') (unsigned pattern)
  rw [(readSigns_eq pattern).2.2]
  unfold IsAnchored
  unfold globOf at someGlob ⊢
  generalize Text.dropRightWhile (· == '/') (unsigned pattern) = stem at start someGlob ⊢
  by_cases slash : stem.head? = some '/'
  · simp [slash, head?_of_start start slash]
  · have same := dropWhile_of_head? slash
    have noSlash : (unsigned pattern).head? ≠ some '/' := by
      cases stem with
      | nil => exact absurd rfl someGlob
      | cons c rest =>
          intro isSlash
          have isHead := head?_of_start start (c := c) rfl
          rw [isSlash, Option.some.injEq] at isHead
          rw [← isHead] at slash
          exact slash rfl
    have noHead : (stem.head? == some '/') = false := by simpa using slash
    rw [same, noHead, Bool.false_or, Bool.and_eq_true, List.contains_iff_mem, Bool.not_eq_true',
      ← Bool.not_eq_true, List.isPrefixOf_iff_prefix]
    simp [noSlash]

/-! Compiled patterns. -/

private theorem mem_of_mem_trim {text : List Char} {c : Char} (member : c ∈ Text.trim text) :
    c ∈ text :=
  (List.dropWhile_suffix _).subset ((dropRightWhile_begins _ _).subset member)

private theorem mem_of_mem_globOf {pattern : List Char} {c : Char} (member : c ∈ globOf pattern) :
    c ∈ pattern := by
  have inUnsigned : c ∈ unsigned pattern :=
    (dropRightWhile_begins _ _).subset ((List.dropWhile_suffix _).subset member)
  unfold unsigned at inUnsigned
  split at inUnsigned
  · exact List.mem_of_mem_tail inUnsigned
  · exact inUnsigned

def isIgnored (pattern : List Char) : Bool := pattern.isEmpty || pattern.head? == some '#'

theorem compile_of_parts {pattern : String} {glob : Pattern}
    (isGlob : partsPattern? (globParts (readSigns (Text.trim pattern.toList)).body) = some glob)
    (regarded : isIgnored (Text.trim pattern.toList) = false) :
    let signs := readSigns (Text.trim pattern.toList)
    compile true pattern = .rule
      ⟨String.ofList (Text.trim pattern.toList),
        startPattern signs.anchored ++ (glob ++ endPattern false),
        startPattern signs.anchored ++ (glob ++ endPattern true), signs.reincludes,
        signs.directoriesOnly, signs.anchored⟩ := by
  intro signs
  have paths : ∀ onlyBeneath, pathPattern true signs.anchored onlyBeneath (globParts signs.body) =
      .ok (startPattern signs.anchored ++ (glob ++ endPattern onlyBeneath)) := by
    intro onlyBeneath
    rw [pathPattern, isGlob]
    rfl
  rw [isIgnored] at regarded
  unfold compile readRule
  simp only [regarded, Bool.false_eq_true, if_false]
  rw [paths false, paths true]
  rfl

private theorem compile_ignored {caseSensitive : Bool} {pattern : String}
    (ignored : isIgnored (Text.trim pattern.toList) = true) :
    compile caseSensitive pattern = .ignored := by
  rw [isIgnored] at ignored
  unfold compile
  simp only [ignored, if_true]

theorem compile_parts {pattern : String} {rule : PathRule} {glob : Pattern}
    (isGlob : partsPattern? (globParts (readSigns (Text.trim pattern.toList)).body) = some glob)
    (compiled : compile true pattern = .rule rule) :
    let signs := readSigns (Text.trim pattern.toList)
    rule.atOrBeneath = startPattern signs.anchored ++ (glob ++ endPattern false) ∧
      rule.beneath = startPattern signs.anchored ++ (glob ++ endPattern true) ∧
      rule.directoriesOnly = signs.directoriesOnly := by
  intro signs
  cases regarded : isIgnored (Text.trim pattern.toList) with
  | true =>
      rw [compile_ignored regarded] at compiled
      cases compiled
  | false =>
      rw [compile_of_parts isGlob regarded] at compiled
      cases compiled
      exact ⟨rfl, rfl, rfl⟩

private theorem compile_rule {pattern : String} {rule : PathRule} (noBracket : '[' ∉ pattern.toList)
    (compiled : compile true pattern = .rule rule) :
    let signs := readSigns (Text.trim pattern.toList)
    ∃ glob, Takes glob (Describes (globOf (Text.trim pattern.toList))) ∧
      rule.atOrBeneath = startPattern signs.anchored ++ (glob ++ endPattern false) ∧
      rule.beneath = startPattern signs.anchored ++ (glob ++ endPattern true) ∧
      rule.directoriesOnly = signs.directoriesOnly := by
  intro signs
  have isBody : signs.body = globOf (Text.trim pattern.toList) :=
    (readSigns_eq (Text.trim pattern.toList)).1
  obtain ⟨glob, isGlob, takes⟩ := globParts_takes (globOf (Text.trim pattern.toList))
    fun member => noBracket (mem_of_mem_trim (mem_of_mem_globOf member))
  rw [← isBody] at isGlob
  exact ⟨glob, takes, compile_parts isGlob compiled⟩

private theorem not_describes_part {components : List (List Char)}
    (proper : ∀ name ∈ components, IsComponent name) {first last : Nat} (positive : 1 ≤ first)
    (ordered : first ≤ last) (within : last ≤ components.length) :
    ¬ Describes [] (Text.joinWith ['/'] ((components.take last).drop (first - 1))) := by
  rw [Describes]
  refine Text.joinWith_ne_nil ?_ ?_
  · rw [← List.length_pos_iff, List.length_drop, List.length_take]
    omega
  · intro name member
    exact (proper name (List.mem_of_mem_take (List.mem_of_mem_drop member))).1

/-- A pattern without bracket expressions, blanks at its ends aside, applies to the paths that it
selects. -/
theorem applies_iff_selects (pattern : String) (rule : PathRule) (components : List (List Char))
    (isDirectory : Bool) (noBracket : '[' ∉ pattern.toList)
    (compiled : compile true pattern = .rule rule) (some : components ≠ [])
    (proper : ∀ name ∈ components, IsComponent name) :
    rule.applies (Text.joinWith ['/'] components) isDirectory = true ↔
      Selects (Text.trim pattern.toList) components isDirectory := by
  obtain ⟨glob, takes, atOrBeneath, beneath, directoriesOnly⟩ := compile_rule noBracket compiled
  generalize Text.trim pattern.toList = trimmed at *
  obtain ⟨_, isDirectoryOnly, _⟩ := readSigns_eq trimmed
  have apart : ∀ name ∈ components, '/' ∉ name := fun name member => (proper name member).2.1
  have oneLine : '\n' ∉ Text.joinWith ['/'] components := by
    intro member
    obtain between | ⟨name, inside, there⟩ := Text.mem_of_mem_joinWith member
    · simp at between
    · exact (proper name inside).2.2 there
  have applied : rule.applies (Text.joinWith ['/'] components) isDirectory =
      (startPattern (readSigns trimmed).anchored ++ (glob ++ endPattern
        ((readSigns trimmed).directoriesOnly && !isDirectory))).matchesStart
          (Text.joinWith ['/'] components) := by
    rw [PathRule.applies, atOrBeneath, beneath, directoriesOnly]
    cases (readSigns trimmed).directoriesOnly && !isDirectory <;> rfl
  have isBeneath : ((readSigns trimmed).directoriesOnly && !isDirectory) = true ↔
      IsDirectoryOnly trimmed ∧ isDirectory = false := by
    rw [Bool.and_eq_true, isDirectoryOnly, Bool.not_eq_true']
  rw [applied, matchesStart_iff takes _ _ _ oneLine, exists_lead_iff _ _ _ some apart,
    exists_part_iff _ _ fun middle => Describes (globOf trimmed) (Text.joinWith ['/'] middle),
    isBeneath]
  by_cases someGlob : globOf trimmed = []
  · unfold Selects
    rw [someGlob]
    constructor <;> rintro ⟨first, last, positive, ordered, within, _, _, described⟩ <;>
      exact absurd described (not_describes_part proper positive ordered within)
  · rw [readSigns_anchored someGlob]
    rfl

/-- A pattern for directories from the root on, with every kind of wildcard. -/
theorem applies_beneath_directory :
    let components := ["src".toList, "a".toList, "b.test".toList, "c".toList]
    (∀ name ∈ components, IsComponent name) ∧
    ∃ rule, compile true " src/**/*.te?t/ " = .rule rule ∧
      rule.applies (Text.joinWith ['/'] components) false = true := by
  intro components
  have proper : ∀ name ∈ components, IsComponent name := by
    simp only [components, IsComponent]
    decide
  refine ⟨proper, _, rfl, ?_⟩
  rw [applies_iff_selects " src/**/*.te?t/ " _ components false (by decide) rfl
    (List.cons_ne_nil _ _) proper]
  refine ⟨1, 3, by decide, by decide, by decide, fun _ => rfl, fun _ => by decide, ?_⟩
  have isGlob : globOf (Text.trim " src/**/*.te?t/ ".toList) = "src/**/*.te?t".toList := by decide
  rw [isGlob]
  exact ⟨_, rfl, _, rfl, _, rfl, _, rfl, ['a', '/'], _, rfl, .inr ⟨['a'], rfl⟩, ['b'], _, rfl,
    by decide, _, rfl, _, rfl, _, rfl, 's', _, rfl, by decide, _, rfl, rfl⟩

/-- Blanks at the ends of a pattern do not count: of the pattern as it stands, nothing in this path
is described. -/
theorem blank_is_no_part_of_pattern :
    ∃ rule, compile true " a" = .rule rule ∧ rule.applies (Text.joinWith ['/'] [['a']]) false = true ∧
      ¬ Selects " a".toList [['a']] false := by
  refine ⟨_, rfl, by decide +kernel, ?_⟩
  rintro ⟨first, last, positive, ordered, within, _, _, described⟩
  have isLast : last = 1 := Nat.le_antisymm within (Nat.le_trans positive ordered)
  subst isLast
  have isFirst : first = 1 := Nat.le_antisymm ordered positive
  subst isFirst
  have isGlob : globOf " a".toList = [' ', 'a'] := by decide
  rw [isGlob] at described
  obtain ⟨rest, starts, _⟩ := described
  cases starts

end Exclusion

end MobileAudit
