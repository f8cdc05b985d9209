import MobileAudit.Proofs.Disk.PathText
import MobileAudit.Proofs.Pattern.Search
import MobileAudit.Surroundings.Debug

namespace MobileAudit

open Pattern

/-! Paths that stand for development.  No pattern of them looks across a directory and what lies
beneath it, so that the path of a file is one of them exactly if the name of a directory on it is, or
if the way of the file from there is. -/

namespace Pattern

/-- A pattern that occurs in a path exactly if it occurs in a directory of the path or in the way
that goes on from it, and that occurs in the names of some directories. -/
structure GoesByNames (pattern : Pattern) (names : List Char → Prop) : Prop where
  parted : ∀ above rel : List Char, pattern.occursIn (above ++ '/' :: rel) = true ↔
    pattern.occursIn (above ++ ['/']) = true ∨ pattern.occursIn rel = true
  named : ∀ name : List Char, '/' ∉ name →
    (pattern.occursIn (name ++ ['/']) = true ↔ names name)

theorem eq_append_slash {above front back : List Char} (whole : above ++ ['/'] = front ++ back)
    (nonempty : back ≠ []) : ∃ begin, back = begin ++ ['/'] := by
  obtain rfl | ⟨begin, last, rfl⟩ := List.eq_nil_or_concat back
  · exact absurd rfl nonempty
  · rw [List.concat_eq_append] at whole ⊢
    rw [← List.append_assoc] at whole
    obtain ⟨_, isLast⟩ := List.append_inj' whole rfl
    exact ⟨begin, by rw [isLast]⟩

theorem eq_nil_of_slashless {above front back : List Char} (whole : above ++ ['/'] = front ++ back)
    (apart : '/' ∉ back) : back = [] := by
  refine Classical.byContradiction fun nonempty => ?_
  obtain ⟨begin, rfl⟩ := eq_append_slash whole nonempty
  exact apart (by simp)

/-- What takes and leaves no slash, whatever precedes it, occurs in the path of no directory. -/
theorem goesByNames_of_slashless {pattern : Pattern} {reading : List Char → List Char → Prop}
    (reads : Reads pattern fun _ taken rest => reading taken rest)
    (slashless : ∀ taken rest, reading taken rest → taken ≠ [] ∧ '/' ∉ taken ++ rest) :
    pattern.GoesByNames fun _ => False := by
  have nowhere : ∀ above, pattern.occursIn (above ++ ['/']) = false := by
    intro above
    rw [← Bool.not_eq_true, occursIn_iff reads]
    rintro ⟨skipped, taken, rest, whole, isRead⟩
    obtain ⟨nonempty, apart⟩ := slashless taken rest isRead
    exact nonempty (List.append_eq_nil_iff.mp (eq_nil_of_slashless whole apart)).1
  constructor
  · intro above rel
    simp only [nowhere, Bool.false_eq_true, false_or, occursIn_iff reads]
    constructor
    · rintro ⟨skipped, taken, rest, whole, isRead⟩
      have apart := (slashless taken rest isRead).2
      rw [List.append_cons] at whole
      obtain ⟨front, _, isRel⟩ | ⟨back, isAbove, isEnd⟩ := List.append_eq_append_iff.mp whole
      · exact ⟨front, taken, rest, isRel, isRead⟩
      · have none := eq_nil_of_slashless isAbove fun member => apart (by simp [isEnd, member])
        rw [none, List.nil_append] at isEnd
        exact ⟨[], taken, rest, isEnd.symm, isRead⟩
    · rintro ⟨skipped, taken, rest, rfl, isRead⟩
      exact ⟨above ++ '/' :: skipped, taken, rest, by simp, isRead⟩
  · intro name _
    simp [nowhere]

end Pattern

namespace Surroundings

/-! Directories of given names. -/

def IsBegin (above : List Char) : Prop := above = [] ∨ above.getLast? = some '/'

theorem isBegin_append (above rel : List Char) :
    IsBegin ((above ++ ['/']) ++ rel) ↔ IsBegin rel := by
  obtain rfl | ⟨front, last, rfl⟩ := List.eq_nil_or_concat rel
  · simp [IsBegin]
  · rw [List.concat_eq_append, ← List.append_assoc]
    unfold IsBegin
    rw [List.getLast?_concat, List.getLast?_concat]
    simp

theorem directory_occursIn_iff {name : Pattern} {names : List Char → Prop}
    (reads : Reads name fun _ taken _ => names taken) (path : List Char) :
    (directory name).occursIn path = true ↔
      ∃ above n below, path = above ++ (n ++ '/' :: below) ∧ names n ∧ IsBegin above := by
  have reads' := reads_seq (reads_alt reads_textStart (reads_ofChars "/".toList))
    (reads_seq reads (reads_ofChars "/".toList))
  refine (occursIn_iff reads' path).trans ⟨?_, ?_⟩
  · rintro ⟨skipped, _, below, rfl, start, _, rfl, isStart, n, _, rfl, isName, rfl⟩
    obtain ⟨rfl, first⟩ | rfl := isStart
    · refine ⟨[], n, below, ?_, isName, .inl rfl⟩
      rw [List.reverse_eq_nil_iff.mp first]
      simp
    · exact ⟨skipped ++ ['/'], n, below, by simp, isName, .inr (by simp)⟩
  · rintro ⟨above, n, below, rfl, isName, rfl | last⟩
    · exact ⟨[], n ++ ['/'], below, by simp, [], n ++ ['/'], rfl, .inl ⟨rfl, rfl⟩, n, ['/'], rfl,
        isName, rfl⟩
    · obtain ⟨front, rfl⟩ := List.getLast?_eq_some_iff.mp last
      exact ⟨front, '/' :: (n ++ ['/']), below, by simp, ['/'], n ++ ['/'], rfl, .inr rfl, n,
        ['/'], rfl, isName, rfl⟩

/-- A name with the slash after it that begins within a directory's path ends there. -/
theorem name_within {n below front rel : List Char} (plain : '/' ∉ n)
    (whole : n ++ '/' :: below = (front ++ ['/']) ++ rel) :
    ∃ below', front ++ ['/'] = n ++ '/' :: below' := by
  rw [← List.append_cons] at whole
  obtain ⟨more, rfl, isBelow⟩ | ⟨more, rfl, isRel⟩ := List.append_eq_append_iff.mp whole
  · cases more with
    | nil => exact ⟨[], by simp⟩
    | cons c more =>
        obtain ⟨rfl, _⟩ := List.cons.inj isBelow
        exact ⟨more ++ ['/'], by simp⟩
  · cases more with
    | nil => exact ⟨[], by simp⟩
    | cons c more =>
        obtain ⟨rfl, _⟩ := List.cons.inj isRel
        exact absurd (by simp) plain

theorem directory_goesByNames {name : Pattern} {names : List Char → Prop}
    (reads : Reads name fun _ taken _ => names taken) (plain : ∀ n, names n → '/' ∉ n) :
    (directory name).GoesByNames names := by
  constructor
  · intro above rel
    simp only [directory_occursIn_iff reads]
    rw [List.append_cons]
    constructor
    · rintro ⟨up, n, below, whole, isName, isBegin⟩
      obtain ⟨front, rfl, isRel⟩ | ⟨back, isAbove, isRel⟩ := List.append_eq_append_iff.mp whole
      · exact .inr ⟨front, n, below, isRel, isName, (isBegin_append above front).mp isBegin⟩
      · by_cases none : back = []
        · subst none
          exact .inr ⟨[], n, below, isRel.symm, isName, .inl rfl⟩
        · obtain ⟨front, rfl⟩ := eq_append_slash isAbove none
          obtain ⟨below', within⟩ := name_within (plain n isName) isRel
          exact .inl ⟨up, n, below', by rw [isAbove, within], isName, isBegin⟩
    · rintro (⟨up, n, below, whole, isName, isBegin⟩ | ⟨up, n, below, rfl, isName, isBegin⟩)
      · exact ⟨up, n, below ++ rel, by rw [whole]; simp, isName, isBegin⟩
      · exact ⟨(above ++ ['/']) ++ up, n, below, by simp, isName,
          (isBegin_append above up).mpr isBegin⟩
  · intro n single
    rw [directory_occursIn_iff reads]
    constructor
    · rintro ⟨above, m, below, whole, isName, isBegin⟩
      -- The path has one slash, which is the one after the name.
      have slashes := congrArg (List.count '/') whole
      simp only [List.count_append, List.count_cons_self, List.count_nil,
        List.count_eq_zero.mpr single] at slashes
      have nothing : above = [] := by
        obtain none | last := isBegin
        · exact none
        · have inside := List.count_pos_iff.mpr (List.mem_of_getLast? last)
          omega
      have apart : '/' ∉ below := List.count_eq_zero.mp (by omega)
      rw [nothing, List.nil_append, List.append_cons m] at whole
      rw [eq_nil_of_slashless whole apart, List.append_nil] at whole
      rwa [List.append_cancel_right whole]
    · intro isName
      exact ⟨[], n, [], rfl, isName, .inl rfl⟩

/-! The patterns for paths. -/

theorem marked_goesByNames {pattern mark : Pattern} {marks : List Char → Prop}
    (reads : Reads mark fun _ taken _ => marks taken)
    (plain : ∀ text, marks text → text ≠ [] ∧ '/' ∉ text)
    (same : ∀ k p, pattern.runAt k p =
      (mark ++ (Secret.alphanumerics.some ++ .textEnd) : Pattern).runAt k p) :
    pattern.GoesByNames fun _ => False := by
  have noSlash : Secret.alphanumerics.contains '/' = false := by decide
  refine goesByNames_of_slashless
    (((reads_seq reads (reads_seq (reads_some _) reads_textEnd)).of_runAt same).congr
      fun _ _ _ => Iff.rfl) ?_
  rintro _ rest ⟨text, _, rfl, isMark, letters, _, rfl, ⟨_, each⟩, rfl, atEnd⟩
  obtain ⟨nonempty, apart⟩ := plain text isMark
  refine ⟨by simp [nonempty], ?_⟩
  simp only [List.append_nil, List.mem_append, not_or]
  refine ⟨⟨apart, fun member => ?_⟩, ?_⟩
  · rw [each '/' member] at noSlash
    cases noSlash
  · obtain rfl | rfl := atEnd <;> decide

theorem lit_goesByNames (name : String) (plain : '/' ∉ name.toList) :
    (directory (lit name)).GoesByNames (· = name.toList) := by
  refine directory_goesByNames (reads_ofChars name.toList) ?_
  rintro _ rfl
  exact plain

theorem storybook_goesByNames :
    (directory ((CharSet.one '.').atMost 1 ++ lit "storybook")).GoesByNames fun name =>
      name = "storybook".toList ∨ name = ".storybook".toList := by
  refine directory_goesByNames ((reads_seq (reads_atMost_one '.')
    (reads_ofChars "storybook".toList)).congr fun _ taken _ => ⟨?_, ?_⟩) ?_
  · rintro ⟨_, _, rfl, rfl | rfl, rfl⟩
    · exact .inl rfl
    · exact .inr rfl
  · rintro (rfl | rfl)
    · exact ⟨[], _, rfl, .inl rfl, rfl⟩
    · exact ⟨['.'], _, rfl, .inr rfl, rfl⟩
  · rintro _ (rfl | rfl) <;> decide

theorem tested_goesByNames :
    (lit "." ++ (words ["test", "spec"] ++ (lit "." ++ (Secret.alphanumerics.some ++ .textEnd))) :
      Pattern).GoesByNames fun _ => False := by
  have reads := reads_seq (reads_ofChars ".".toList)
    (reads_seq (reads_alt (reads_ofChars "test".toList) (reads_ofChars "spec".toList))
      (reads_ofChars ".".toList))
  refine marked_goesByNames reads ?_ fun _ _ => rfl
  rintro _ ⟨_, _, rfl, rfl, _, _, rfl, rfl | rfl, rfl⟩ <;> decide

theorem stories_goesByNames :
    (lit ".stories." ++ (Secret.alphanumerics.some ++ .textEnd) : Pattern).GoesByNames
      fun _ => False := by
  refine marked_goesByNames (reads_ofChars ".stories.".toList) ?_ fun _ _ => rfl
  rintro _ rfl
  decide

private theorem debugPathPatterns_goByNames :
    ∀ pattern ∈ debugPathPatterns, ∃ names, pattern.GoesByNames names := by
  intro pattern member
  simp only [debugPathPatterns, List.mem_cons, List.not_mem_nil, or_false] at member
  rcases member with rfl | rfl | rfl | rfl | rfl | rfl | rfl
  · exact ⟨_, tested_goesByNames⟩
  · exact ⟨_, lit_goesByNames _ (by decide)⟩
  · exact ⟨_, lit_goesByNames _ (by decide)⟩
  · exact ⟨_, stories_goesByNames⟩
  · exact ⟨_, storybook_goesByNames⟩
  · exact ⟨_, lit_goesByNames _ (by decide)⟩
  · exact ⟨_, lit_goesByNames _ (by decide)⟩

/-! Paths as a whole. -/

theorem isDebugPath_append (above rel : List Char) :
    isDebugPath (above ++ '/' :: rel) = (isDebugPath (above ++ ['/']) || isDebugPath rel) := by
  have slash : ∀ rest, Text.replaceChar '\\' '/' ('/' :: rest) =
      '/' :: Text.replaceChar '\\' '/' rest := fun _ => rfl
  rw [Bool.eq_iff_iff, Bool.or_eq_true]
  unfold isDebugPath
  simp only [List.any_eq_true, Text.replaceChar_append, slash]
  constructor
  · rintro ⟨pattern, member, occurs⟩
    obtain ⟨_, byNames⟩ := debugPathPatterns_goByNames pattern member
    obtain inDirectory | inRest := (byNames.parted _ _).mp occurs
    · exact .inl ⟨pattern, member, inDirectory⟩
    · exact .inr ⟨pattern, member, inRest⟩
  · rintro (⟨pattern, member, occurs⟩ | ⟨pattern, member, occurs⟩)
    all_goals obtain ⟨_, byNames⟩ := debugPathPatterns_goByNames pattern member
    · exact ⟨pattern, member, (byNames.parted _ _).mpr (.inl occurs)⟩
    · exact ⟨pattern, member, (byNames.parted _ _).mpr (.inr occurs)⟩

/-- The path of a directory stands for development if the name of one of its directories does. -/
theorem isDebugPath_wayText (names : List String) :
    isDebugPath (Path.wayText names ++ ['/']) =
      names.any fun name => isDebugPath (name.toList ++ ['/']) := by
  have noPath : isDebugPath ['/'] = false := by decide +kernel
  -- A way starts with a slash, before which there is nothing.
  have start : ∀ rest, isDebugPath ('/' :: rest) = isDebugPath rest := by
    intro rest
    have parted := isDebugPath_append [] rest
    rwa [List.nil_append, List.nil_append, noPath, Bool.false_or] at parted
  induction names with
  | nil => exact noPath
  | cons name names ih =>
      have first : Path.wayText (name :: names) ++ ['/'] =
          '/' :: (name.toList ++ (Path.wayText names ++ ['/'])) := by
        simp [Path.wayText]
      obtain ⟨rest, isRest⟩ : ∃ rest, Path.wayText names ++ ['/'] = '/' :: rest := by
        cases names with
        | nil => exact ⟨[], rfl⟩
        | cons second names => exact ⟨_, rfl⟩
      rw [first, start, isRest, isDebugPath_append, ← start rest, ← isRest, ih, List.any_cons]

def developmentDirectories : List String :=
  ["__tests__", "__mocks__", "storybook", ".storybook", "debug", "node_modules"]

theorem isDebugPath_name {name : String} (plain : '/' ∉ name.toList)
    (forward : '\\' ∉ name.toList) :
    isDebugPath (name.toList ++ ['/']) = true ↔ name ∈ developmentDirectories := by
  have kept : Text.replaceChar '\\' '/' (name.toList ++ ['/']) = name.toList ++ ['/'] :=
    Text.replaceChar_eq_self (by simp [forward])
  have fixed : ∀ directory : String, '/' ∉ directory.toList →
      ((Surroundings.directory (lit directory)).occursIn (name.toList ++ ['/']) = true ↔
        name = directory) := by
    intro directory plain'
    rw [(lit_goesByNames directory plain').named _ plain, String.toList_inj]
  unfold isDebugPath
  simp only [kept, debugPathPatterns, List.any_cons, List.any_nil, Bool.or_eq_true, Bool.or_false,
    tested_goesByNames.named _ plain, stories_goesByNames.named _ plain,
    storybook_goesByNames.named _ plain, fixed _ (by decide : '/' ∉ "__tests__".toList),
    fixed _ (by decide : '/' ∉ "__mocks__".toList), fixed _ (by decide : '/' ∉ "debug".toList),
    fixed _ (by decide : '/' ∉ "node_modules".toList), String.toList_inj, false_or, or_assoc,
    developmentDirectories, List.mem_cons, List.not_mem_nil, or_false]

end Surroundings

end MobileAudit
