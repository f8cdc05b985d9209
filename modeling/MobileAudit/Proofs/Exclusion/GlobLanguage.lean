import MobileAudit.Exclusion.PathFilter
import MobileAudit.Proofs.Pattern.Language

namespace MobileAudit.Exclusion

open Pattern

/-! Globs as descriptions of texts.  A glob without bracket expressions is read from left to right,
and the pattern that is made of it takes exactly the texts that the glob describes.  A path is
matched if it consists of a lead, a text of the glob and a tail. -/

/-- A text is described by a glob. -/
def Describes : List Char → List Char → Prop
  | '*' :: '*' :: '/' :: glob, text =>
      ∃ directories rest, text = directories ++ rest ∧
        (directories = [] ∨ ∃ names, directories = names ++ ['/']) ∧ Describes glob rest
  | '*' :: '*' :: glob, text => ∃ anything rest, text = anything ++ rest ∧ Describes glob rest
  | '*' :: glob, text => ∃ name rest, text = name ++ rest ∧ '/' ∉ name ∧ Describes glob rest
  | '?' :: glob, text => ∃ c rest, text = c :: rest ∧ c ≠ '/' ∧ Describes glob rest
  | c :: glob, text => ∃ rest, text = c :: rest ∧ Describes glob rest
  | [], text => text = []

theorem takes_slash : Takes (lit "/") (· = ['/']) := takes_one '/'

theorem takes_anyDirectories :
    Takes (optional (CharSet.notNewline.many ++ lit "/"))
      fun text => text = [] ∨ ∃ names, text = names ++ ['/'] := by
  refine (takes_optional (takes_seq takes_line takes_slash)).congr fun text _ => ?_
  refine or_congr_right ⟨?_, ?_⟩
  · rintro ⟨names, slash, rfl, _, rfl⟩
    exact ⟨names, rfl⟩
  · rintro ⟨names, rfl⟩
    exact ⟨names, ['/'], rfl, trivial, rfl⟩

theorem takes_anyName : Takes (CharSet.one '/').except.many fun text => '/' ∉ text :=
  (reads_manyExcept '/').takes

theorem takes_anyChar :
    Takes (.set (CharSet.one '/').except) fun text => ∃ c, text = [c] ∧ c ≠ '/' := by
  refine (takes_set _).congr fun text _ => ?_
  simp only [contains_except_one]

theorem partsPattern?_cons {part : GlobPart} {first : Pattern} {parts : List GlobPart}
    {rest : Pattern} (isFirst : part.pattern? = some first)
    (isRest : partsPattern? parts = some rest) :
    partsPattern? (part :: parts) = some (first ++ rest) := by
  rw [partsPattern?, isFirst, isRest]
  rfl

/-- A glob without bracket expressions is read as a pattern that takes what it describes. -/
theorem partsFrom_takes (fuel : Nat) (glob : List Char) (enough : glob.length ≤ fuel)
    (noBracket : '[' ∉ glob) :
    ∃ pattern, partsPattern? (partsFrom fuel glob) = some pattern ∧
      Takes pattern (Describes glob) := by
  fun_induction partsFrom fuel glob with
  | case1 glob =>
      have isEmpty : glob = [] := List.length_eq_zero_iff.mp (Nat.le_zero.mp enough)
      subst isEmpty
      exact ⟨.empty, rfl, takes_empty⟩
  | case2 => exact ⟨.empty, rfl, takes_empty⟩
  | case3 fuel glob ih =>
      simp only [List.length_cons, List.mem_cons, not_or] at enough noBracket
      obtain ⟨rest, isRest, takes⟩ := ih (by omega) noBracket.2.2.2
      refine ⟨_, partsPattern?_cons rfl isRest, ?_⟩
      refine (takes_seq takes_anyDirectories takes).congr fun text _ => ?_
      rw [Describes]
  | case4 fuel glob noSlash ih =>
      simp only [List.length_cons, List.mem_cons, not_or] at enough noBracket
      obtain ⟨rest, isRest, takes⟩ := ih (by omega) noBracket.2.2
      refine ⟨_, partsPattern?_cons rfl isRest, ?_⟩
      refine (takes_seq takes_line takes).congr fun text _ => ?_
      rw [Describes]
      · simp only [true_and]
      · exact noSlash
  | case5 fuel glob noSlash noStar ih =>
      simp only [List.length_cons, List.mem_cons, not_or] at enough noBracket
      obtain ⟨rest, isRest, takes⟩ := ih (by omega) noBracket.2
      refine ⟨_, partsPattern?_cons rfl isRest, ?_⟩
      refine (takes_seq takes_anyName takes).congr fun text _ => ?_
      rw [Describes]
      · exact noSlash
      · exact noStar
  | case6 fuel glob ih =>
      simp only [List.length_cons, List.mem_cons, not_or] at enough noBracket
      obtain ⟨rest, isRest, takes⟩ := ih (by omega) noBracket.2
      refine ⟨_, partsPattern?_cons rfl isRest, ?_⟩
      refine (takes_seq takes_anyChar takes).congr fun text _ => ?_
      rw [Describes]
      constructor
      · rintro ⟨_, rest, rfl, ⟨c, rfl, noSlash⟩, described⟩
        exact ⟨c, rest, rfl, noSlash, described⟩
      · rintro ⟨c, rest, rfl, noSlash, described⟩
        exact ⟨[c], rest, rfl, ⟨c, rfl, noSlash⟩, described⟩
  | case7 => simp at noBracket
  | case8 => simp at noBracket
  | case9 fuel c glob noDirectories noAnything noName noChar noSet ih =>
      simp only [List.length_cons, List.mem_cons, not_or] at enough noBracket
      obtain ⟨rest, isRest, takes⟩ := ih (by omega) noBracket.2
      refine ⟨_, partsPattern?_cons rfl isRest, ?_⟩
      refine (takes_seq (takes_one c) takes).congr fun text _ => ?_
      rw [Describes]
      · constructor
        · rintro ⟨_, rest, rfl, rfl, described⟩
          exact ⟨rest, rfl, described⟩
        · rintro ⟨rest, rfl, described⟩
          exact ⟨[c], rest, rfl, rfl, described⟩
      · exact noDirectories
      · exact noAnything
      · exact noName
      · exact noChar

theorem globParts_takes (glob : List Char) (noBracket : '[' ∉ glob) :
    ∃ pattern, partsPattern? (globParts glob) = some pattern ∧ Takes pattern (Describes glob) :=
  partsFrom_takes glob.length glob (Nat.le_refl _) noBracket

/-! Whole paths. -/

/-- What may stand before a text of the glob. -/
def IsLead (anchored : Bool) (lead : List Char) : Prop :=
  lead = [] ∨ anchored = false ∧ ∃ names, lead = names ++ ['/']

/-- What may stand after a text of the glob. -/
def IsTail (onlyBeneath : Bool) (tail : List Char) : Prop :=
  onlyBeneath = false ∧ tail = [] ∨ ∃ names, tail = '/' :: names

private theorem takes_belowIt : Takes belowIt fun text => ∃ names, text = '/' :: names := by
  refine (takes_seq takes_slash takes_line).congr fun text _ => ⟨?_, ?_⟩
  · rintro ⟨_, names, rfl, rfl, _⟩
    exact ⟨names, rfl⟩
  · rintro ⟨names, rfl⟩
    exact ⟨['/'], names, rfl, rfl, trivial⟩

private theorem runAt_startPattern (anchored : Bool) (k : Continuation) (text : List Char)
    (oneLine : '\n' ∉ text) :
    ((startPattern anchored).runAt k (.ofText text)).isSome = true ↔
      GoesOn (IsLead anchored) k (.ofText text) := by
  have atStart : Pattern.textStart.runAt k (.ofText text) = k (.ofText text) := rfl
  have onceEmpty := takes_empty k (.ofText text) oneLine
  rw [runAt_empty] at onceEmpty
  cases anchored with
  | true =>
      have opened : startPattern true = .textStart := rfl
      rw [opened, atStart, onceEmpty]
      constructor
      · rintro ⟨taken, rest, ahead, isEmpty, success⟩
        exact ⟨taken, rest, ahead, .inl isEmpty, success⟩
      · rintro ⟨taken, rest, ahead, isEmpty | ⟨isFalse, _⟩, success⟩
        · exact ⟨taken, rest, ahead, isEmpty, success⟩
        · cases isFalse
  | false =>
      have opened : (startPattern false).runAt k (.ofText text) =
          (Pattern.textStart.runAt k (.ofText text)).orElse fun _ =>
            (CharSet.notNewline.many ++ lit "/").runAt k (.ofText text) := rfl
      rw [opened, isSome_orElse, atStart, onceEmpty,
        takes_seq takes_line takes_slash k (.ofText text) oneLine]
      constructor
      · rintro (⟨taken, rest, ahead, isEmpty, success⟩ |
          ⟨_, rest, ahead, ⟨names, _, rfl, _, rfl⟩, success⟩)
        · exact ⟨taken, rest, ahead, .inl isEmpty, success⟩
        · exact ⟨names ++ ['/'], rest, ahead, .inr ⟨rfl, names, rfl⟩, success⟩
      · rintro ⟨taken, rest, ahead, isEmpty | ⟨_, names, rfl⟩, success⟩
        · exact .inl ⟨taken, rest, ahead, isEmpty, success⟩
        · exact .inr ⟨names ++ ['/'], rest, ahead, ⟨names, ['/'], rfl, trivial, rfl⟩, success⟩

private theorem runAt_endPattern (onlyBeneath : Bool) (p : Point) (oneLine : '\n' ∉ p.after) :
    ((endPattern onlyBeneath).runAt some p).isSome = true ↔ IsTail onlyBeneath p.after := by
  have going : Takes (if onlyBeneath then belowIt else optional belowIt) (IsTail onlyBeneath) := by
    cases onlyBeneath with
    | true => exact takes_belowIt.congr fun text _ => by simp [IsTail]
    | false => exact (takes_optional takes_belowIt).congr fun text _ => by simp [IsTail]
  have opened : (endPattern onlyBeneath).runAt some p =
      (if onlyBeneath then belowIt else optional belowIt).runAt
        (fun q => if q.atTextEnd then some q else none) p := rfl
  rw [opened, going _ p oneLine]
  constructor
  · rintro ⟨taken, rest, ahead, isTail, success⟩
    have inLine : '\n' ∉ rest := fun member => oneLine (by simp [ahead, member])
    have atEnd : rest = [] := by
      rw [Option.isSome_ite, Point.atTextEnd, Point.after_past, Bool.or_eq_true, beq_iff_eq,
        beq_iff_eq] at success
      obtain isEnd | isEnd := success
      · exact isEnd
      · simp [isEnd] at inLine
    rw [ahead, atEnd, List.append_nil]
    exact isTail
  · intro isTail
    exact ⟨p.after, [], (List.append_nil _).symm, isTail, rfl⟩

/-- The pattern of a glob matches a path that is a lead, a text of the glob and a tail. -/
theorem matchesStart_iff {glob : Pattern} {language : List Char → Prop}
    (takes : Takes glob language) (anchored onlyBeneath : Bool) (path : List Char)
    (oneLine : '\n' ∉ path) :
    (startPattern anchored ++ (glob ++ endPattern onlyBeneath)).matchesStart path = true ↔
      ∃ lead body tail, path = lead ++ (body ++ tail) ∧ IsLead anchored lead ∧ language body ∧
        IsTail onlyBeneath tail := by
  have opened : (startPattern anchored ++ (glob ++ endPattern onlyBeneath)).matchesStart path =
      ((startPattern anchored).runAt (fun q => glob.runAt (fun r =>
        (endPattern onlyBeneath).runAt some r) q) (.ofText path)).isSome := rfl
  rw [opened, runAt_startPattern anchored _ path oneLine]
  constructor
  · rintro ⟨lead, rest, ahead, isLead, success⟩
    have ahead : path = lead ++ rest := ahead
    subst ahead
    have inLine : '\n' ∉ rest := fun member => oneLine (List.mem_append_right _ member)
    obtain ⟨body, tail, ahead, isBody, success⟩ := (takes _ _ inLine).mp success
    have ahead : rest = body ++ tail := ahead
    subst ahead
    have inLine : '\n' ∉ tail := fun member => inLine (List.mem_append_right _ member)
    exact ⟨lead, body, tail, rfl, isLead, isBody,
      (runAt_endPattern onlyBeneath _ inLine).mp success⟩
  · rintro ⟨lead, body, tail, rfl, isLead, isBody, isTail⟩
    have inLine : '\n' ∉ body ++ tail := fun member => oneLine (List.mem_append_right _ member)
    have inTail : '\n' ∉ tail := fun member => inLine (List.mem_append_right _ member)
    refine ⟨lead, body ++ tail, rfl, isLead, ?_⟩
    refine (takes _ _ inLine).mpr ⟨body, tail, rfl, isBody, ?_⟩
    exact (runAt_endPattern onlyBeneath _ inTail).mpr isTail

end MobileAudit.Exclusion
