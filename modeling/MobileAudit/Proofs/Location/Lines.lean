import Mathlib.Data.List.GetD
import Mathlib.Data.List.Intervals
import MobileAudit.Proofs.Text.Pieces
import MobileAudit.Rule.Basic

namespace MobileAudit

/-! Lines of a file, the offsets in them, and excerpts of whole lines.  From them follow the line
and the snippet of a finding. -/

namespace Location

@[simp] theorem joinWith_lines (content : List Char) :
    Text.joinWith ['\n'] (Text.lines content) = content := by
  rw [Text.lines, Text.joinWith_splitOn, Text.replaceChar]
  refine (List.map_congr_left fun c _ => ?_).trans (List.map_id _)
  by_cases same : c = '\n' <;> simp [same]

theorem newline_not_mem_line {content line : List Char} (member : line ∈ Text.lines content) :
    '\n' ∉ line := by
  intro inside
  have uncut := Text.not_cut_of_mem_splitWhere _ content line member '\n' inside
  simp at uncut

theorem lineOf_within {before line after : List Char} {n : Nat} (oneLine : '\n' ∉ line)
    (within : n ≤ line.length) :
    lineOf (before ++ (line ++ after)) ↑(before.length + n) = before.count '\n' + 1 := by
  have none : (line.take n).count '\n' = 0 :=
    List.count_eq_zero.mpr fun inside => oneLine (List.mem_of_mem_take inside)
  rw [lineOf, Int.toNat_natCast, List.take_length_add_append, List.take_append_of_le_length within,
    List.count_append, none, Nat.add_zero]

theorem lineOf_eq_iff (content : List Char) {first second : Nat} (before : first ≤ second) :
    lineOf content first = lineOf content second ↔
      '\n' ∉ (content.drop first).take (second - first) := by
  have parts : content.take second =
      content.take first ++ (content.drop first).take (second - first) := by
    rw [← List.take_add, Nat.add_sub_cancel' before]
  rw [lineOf, lineOf, Int.toNat_natCast, Int.toNat_natCast, parts, List.count_append,
    ← List.count_eq_zero]
  omega

theorem lineOf_mono (content : List Char) {first second : Nat} (ordered : first ≤ second) :
    lineOf content first ≤ lineOf content second := by
  have shorter : content.take first <+: content.take second := List.take_prefix_take_left ordered
  exact Nat.succ_le_succ (shorter.sublist.count_le '\n')

/-! Excerpts of whole lines. -/

/-- What may stand next to an excerpt: nothing, or a line break first. -/
def IsOutside (text : List Char) : Prop := ∀ c ∈ text.head?, c = '\n'

theorem isOutside_nil : IsOutside [] := nofun

theorem isOutside_break (text : List Char) : IsOutside ('\n' :: text) := by
  rintro c ⟨⟩
  rfl

/-- A part of a text that takes up whole lines. -/
def IsExcerpt (part text : List Char) : Prop :=
  ∃ above below, text = above ++ (part ++ below) ∧ IsOutside above.reverse ∧ IsOutside below

theorem exists_below {pieces : List (List Char)} (some : pieces ≠ []) (last : List (List Char)) :
    ∃ below, Text.joinWith ['\n'] (pieces ++ last) = Text.joinWith ['\n'] pieces ++ below ∧
      IsOutside below := by
  cases last with
  | nil => exact ⟨[], by simp, isOutside_nil⟩
  | cons line last =>
      refine ⟨_, Text.joinWith_append ['\n'] some (List.cons_ne_nil line last), ?_⟩
      exact isOutside_break _

private theorem exists_above {pieces : List (List Char)} (some : pieces ≠ [])
    (first : List (List Char)) :
    ∃ above, Text.joinWith ['\n'] (first ++ pieces) = above ++ Text.joinWith ['\n'] pieces ∧
      IsOutside above.reverse := by
  cases first with
  | nil => exact ⟨[], rfl, isOutside_nil⟩
  | cons line first =>
      refine ⟨Text.joinWith ['\n'] (line :: first) ++ ['\n'], ?_, ?_⟩
      · rw [Text.joinWith_append ['\n'] (List.cons_ne_nil line first) some, List.append_assoc]
      · rw [List.reverse_append]
        exact isOutside_break _

/-- Lines that follow one another, put together, are an excerpt of all lines put together. -/
theorem isExcerpt_joinWith (first : List (List Char)) {pieces : List (List Char)}
    (some : pieces ≠ []) (last : List (List Char)) :
    IsExcerpt (Text.joinWith ['\n'] pieces) (Text.joinWith ['\n'] (first ++ (pieces ++ last))) := by
  obtain ⟨below, isBelow, outsideBelow⟩ := exists_below some last
  obtain ⟨above, isAbove, outsideAbove⟩ :=
    exists_above (List.append_ne_nil_of_left_ne_nil some last) first
  exact ⟨above, below, by rw [isAbove, isBelow], outsideAbove, outsideBelow⟩

theorem snippet_isExcerpt (content : List Char) (line context : Int) :
    snippet content line context = [] ∨ IsExcerpt (snippet content line context) content := by
  obtain ⟨stop, front, isPart⟩ : ∃ stop front, linesAround (Text.lines content) line context =
      ((Text.lines content).take stop).drop front := ⟨_, _, rfl⟩
  have parts : Text.lines content = ((Text.lines content).take stop).take front ++
      (((Text.lines content).take stop).drop front ++ (Text.lines content).drop stop) := by
    rw [← List.append_assoc, List.take_append_drop, List.take_append_drop]
  rw [snippet, isPart]
  by_cases none : ((Text.lines content).take stop).drop front = []
  · exact .inl (by rw [none, Text.joinWith_nil])
  · have excerpt := isExcerpt_joinWith (((Text.lines content).take stop).take front) none
      ((Text.lines content).drop stop)
    rw [← parts, joinWith_lines] at excerpt
    exact .inr excerpt

/-! Lines by their numbers.  They are numbered from one, and the place of a line break belongs to
the line that it ends. -/

def lineAt (lines : List (List Char)) (number : Nat) : List Char :=
  lines.getD (number - 1) []

/-- Where a line starts: behind the lines before it, each with its line break. -/
def startAt (lines : List (List Char)) (number : Nat) : Nat :=
  (lines.take (number - 1)).foldr (fun line behind => line.length + 1 + behind) 0

/-- The line of a number is there, and an offset lies on it. -/
structure Holds (lines : List (List Char)) (number offset : Nat) : Prop where
  positive : 1 ≤ number
  within : number ≤ lines.length
  starts : startAt lines number ≤ offset
  ends : offset ≤ startAt lines number + (lineAt lines number).length

def textBefore (lines : List (List Char)) (number : Nat) : List Char :=
  (lines.take (number - 1)).flatMap fun line => line ++ ['\n']

section

variable {lines : List (List Char)} {number offset : Nat}

/-! The text around a line. -/

@[simp] theorem length_textBefore (lines : List (List Char)) (number : Nat) :
    (textBefore lines number).length = startAt lines number := by
  unfold textBefore startAt
  induction lines.take (number - 1) with
  | nil => rfl
  | cons line lines ih =>
      rw [List.flatMap_cons, List.length_append, ih, List.length_append]
      rfl

private theorem count_flatMap_break {lines : List (List Char)}
    (oneLine : ∀ line ∈ lines, '\n' ∉ line) :
    (lines.flatMap fun line => line ++ ['\n']).count '\n' = lines.length := by
  induction lines with
  | nil => rfl
  | cons line lines ih =>
      have here : (line ++ ['\n']).count '\n' = 1 := by
        simp [List.count_eq_zero.mpr (oneLine line List.mem_cons_self)]
      have later := ih fun other member => oneLine other (List.mem_cons_of_mem _ member)
      rw [List.flatMap_cons, List.count_append, here, later, List.length_cons, Nat.add_comm]

theorem isOutside_textBefore (lines : List (List Char)) (number : Nat) :
    IsOutside (textBefore lines number).reverse := by
  unfold textBefore
  obtain none | ⟨first, last, split⟩ := (lines.take (number - 1)).eq_nil_or_concat
  · rw [none]
    exact isOutside_nil
  · rw [split, List.concat_eq_append, List.flatMap_append, List.flatMap_singleton,
      List.reverse_append, List.reverse_append]
    exact isOutside_break _

theorem joinWith_append_cons (first : List (List Char)) (line : List Char)
    (last : List (List Char)) :
    Text.joinWith ['\n'] (first ++ line :: last) =
      (first.flatMap fun line => line ++ ['\n']) ++ Text.joinWith ['\n'] (line :: last) := by
  induction first with
  | nil => rfl
  | cons other first ih =>
      rw [List.cons_append, Text.joinWith_cons _ _ (by simp), ih, List.flatMap_cons,
        List.append_assoc, List.append_assoc]

theorem getElem?_lineAt (positive : 1 ≤ number) (within : number ≤ lines.length) :
    lines[number - 1]? = some (lineAt lines number) := by
  have inside : number - 1 < lines.length := by omega
  rw [lineAt, List.getD_eq_getElem _ _ inside]
  exact List.getElem?_eq_getElem inside

theorem lineAt_mem (positive : 1 ≤ number) (within : number ≤ lines.length) :
    lineAt lines number ∈ lines :=
  List.mem_of_getElem? (getElem?_lineAt positive within)

private theorem lines_split (positive : 1 ≤ number) (within : number ≤ lines.length) :
    lines = lines.take (number - 1) ++ lineAt lines number :: lines.drop number := by
  obtain ⟨inside, here⟩ := List.getElem?_eq_some_iff.mp (getElem?_lineAt positive within)
  have tail := List.drop_eq_getElem_cons inside
  rw [here, Nat.sub_add_cancel positive] at tail
  rw [← tail, List.take_append_drop]

theorem joinWith_around (positive : 1 ≤ number) (within : number ≤ lines.length) :
    ∃ below, IsOutside below ∧
      Text.joinWith ['\n'] lines = textBefore lines number ++ (lineAt lines number ++ below) := by
  obtain ⟨below, split, outside⟩ :=
    exists_below (List.cons_ne_nil (lineAt lines number) []) (lines.drop number)
  rw [List.singleton_append, Text.joinWith_singleton] at split
  refine ⟨below, outside, ?_⟩
  rw [← split]
  exact (congrArg _ (lines_split positive within)).trans (joinWith_append_cons _ _ _)

/-! Every offset lies on one line. -/

private theorem exists_holds (some : lines ≠ [])
    (within : offset ≤ (Text.joinWith ['\n'] lines).length) :
    ∃ number, Holds lines number offset := by
  induction lines generalizing offset with
  | nil => exact absurd rfl some
  | cons line rest ih =>
      by_cases here : offset ≤ line.length
      · refine ⟨1, Nat.le_refl 1, ?_, Nat.zero_le _, ?_⟩
        · exact Nat.succ_le_succ (Nat.zero_le _)
        · exact Nat.le_trans here (Nat.le_add_left _ _)
      · cases rest with
        | nil =>
            rw [Text.joinWith_singleton] at within
            exact absurd within here
        | cons next rest =>
            rw [Text.joinWith_cons _ _ (List.cons_ne_nil _ _)] at within
            simp only [List.length_append, List.length_singleton] at within
            have left : offset - (line.length + 1) ≤
                (Text.joinWith ['\n'] (next :: rest)).length := by omega
            obtain ⟨number, positive, inside, starts, ends⟩ := ih (List.cons_ne_nil _ _) left
            obtain ⟨number, rfl⟩ : ∃ n, number = n + 1 := ⟨number - 1, by omega⟩
            -- the line is one further on behind the first one
            have start : startAt (line :: next :: rest) (number + 2) =
                line.length + 1 + startAt (next :: rest) (number + 1) := by
              simp [startAt]
            have same : lineAt (line :: next :: rest) (number + 2) =
                lineAt (next :: rest) (number + 1) := by
              simp [lineAt]
            refine ⟨number + 2, by omega, Nat.succ_le_succ inside, ?_, ?_⟩
            · rw [start]
              omega
            · rw [start, same]
              omega

theorem Holds.lineOf_eq (oneLine : ∀ line ∈ lines, '\n' ∉ line)
    (holds : Holds lines number offset) :
    lineOf (Text.joinWith ['\n'] lines) offset = number := by
  obtain ⟨positive, within, starts, ends⟩ := holds
  obtain ⟨below, _, split⟩ := joinWith_around positive within
  have member := lineAt_mem positive within
  have before : (textBefore lines number).count '\n' = number - 1 := by
    have counted : (textBefore lines number).count '\n' = (lines.take (number - 1)).length :=
      count_flatMap_break fun line inside => oneLine line (List.mem_of_mem_take inside)
    rw [counted, List.length_take_of_le (by omega)]
  obtain ⟨n, rfl⟩ := Nat.exists_eq_add_of_le starts
  have inLine : n ≤ (lineAt lines number).length := by omega
  have placed : lineOf (textBefore lines number ++ (lineAt lines number ++ below))
      ↑((textBefore lines number).length + n) = (textBefore lines number).count '\n' + 1 :=
    lineOf_within (oneLine _ member) inLine
  rw [length_textBefore, before, ← split] at placed
  omega

end

theorem holds_iff {content : List Char} {number offset : Nat} (within : offset ≤ content.length) :
    Holds (Text.lines content) number offset ↔ number = lineOf content offset := by
  have whole := joinWith_lines content
  have oneLine : ∀ line ∈ Text.lines content, '\n' ∉ line := fun _ => newline_not_mem_line
  have unique {other : Nat} (holds : Holds (Text.lines content) other offset) :
      lineOf content offset = other := by
    have placed := holds.lineOf_eq oneLine
    rwa [whole] at placed
  constructor
  · exact fun holds => (unique holds).symm
  · rintro rfl
    obtain ⟨number, holds⟩ := exists_holds (Text.splitWhere_ne_nil _ content)
      (whole.symm ▸ within)
    rwa [unique holds]

/-! Snippets. -/

theorem drop_take_eq_map {lines : List (List Char)} {first last : Nat} (positive : 1 ≤ first)
    (within : last ≤ lines.length) :
    (lines.take last).drop (first - 1) = (List.Ico first (last + 1)).map (lineAt lines) := by
  refine List.ext_getElem ?_ fun i inside _ => ?_
  · simp only [List.length_drop, List.length_take, List.length_map, List.Ico.length]
    omega
  · simp only [List.length_drop, List.length_take] at inside
    have place : first + i - 1 = first - 1 + i := by omega
    have there : first - 1 + i < lines.length := by omega
    simp [List.Ico, lineAt, place, there]

theorem linesAround_eq {lines : List (List Char)} {number : Nat} (positive : 1 ≤ number)
    (context : Nat) :
    linesAround lines number context =
      (List.Ico (max 1 (number - context)) (min lines.length (number + context) + 1)).map
        (lineAt lines) := by
  have stop : sliceEnd lines.length (min (Int.ofNat lines.length) (number + context)) =
      min lines.length (number + context) := by
    rw [sliceEnd, Int.ofNat_eq_natCast, if_neg (by omega)]
    omega
  have front : (max 1 ((number : Int) - context) - 1).toNat = max 1 (number - context) - 1 := by
    omega
  rw [linesAround]
  simp only [stop, front]
  exact drop_take_eq_map (Nat.le_max_left _ _) (Nat.min_le_left _ _)

theorem snippet_eq {content : List Char} {number : Nat} (positive : 1 ≤ number) (context : Nat) :
    snippet content number context =
      Text.joinWith ['\n'] ((List.Ico (max 1 (number - context))
        (min (Text.lines content).length (number + context) + 1)).map
          (lineAt (Text.lines content))) := by
  rw [snippet, linesAround_eq positive]

private theorem lineAt_isExcerpt {lines : List (List Char)} {number first last : Nat}
    (inside : number ∈ List.Ico first last) :
    IsExcerpt (lineAt lines number)
      (Text.joinWith ['\n'] ((List.Ico first last).map (lineAt lines))) := by
  obtain ⟨above, below, split⟩ := List.append_of_mem inside
  have excerpt := isExcerpt_joinWith (above.map (lineAt lines))
    (List.cons_ne_nil (lineAt lines number) []) (below.map (lineAt lines))
  rwa [Text.joinWith_singleton, List.singleton_append, ← List.map_cons, ← List.map_append,
    ← split] at excerpt

private theorem snippet_isInfix (content : List Char) (line context : Int) :
    snippet content line context <:+: content := by
  obtain none | ⟨above, below, split, _⟩ := snippet_isExcerpt content line context
  · rw [none]
    exact List.nil_infix
  · exact ⟨above, below, by rw [List.append_assoc, ← split]⟩

end Location

/-- A finding bears the number of the one line that its offset lies on, and shows that line with up
to two lines before it and behind it. -/
theorem Rule.findingAt_exact (id description : String) (severity : Severity) (path : String)
    (content : List Char) {offset : Nat} (within : offset ≤ content.length)
    (suggestion : Option String) :
    let lines := Text.lines content
    let found := findingAt id description severity path content offset suggestion
    ∃ number : Nat, found.line = some ↑number ∧
      Location.Holds lines number offset ∧
      (∀ other, Location.Holds lines other offset → other = number) ∧
      let shown := Text.joinWith ['\n']
        ((List.Ico (max 1 (number - 2)) (min lines.length (number + 2) + 1)).map
          (Location.lineAt lines))
      found.snippet = some (String.ofList shown) ∧
        Location.IsExcerpt (Location.lineAt lines number) shown ∧ shown <:+: content := by
  intro lines found
  let number := Location.lineOf content offset
  have holds : Location.Holds lines number offset := (Location.holds_iff within).mpr rfl
  have isShown : Location.snippet content number 2 = _ := Location.snippet_eq holds.positive 2
  refine ⟨number, rfl, holds, fun other => (Location.holds_iff within).mp, ?_, ?_, ?_⟩
  · exact congrArg (fun shown => some (String.ofList shown)) isShown
  · refine Location.lineAt_isExcerpt (List.Ico.mem.mpr ⟨?_, ?_⟩)
    · have := holds.positive
      omega
    · have := holds.within
      omega
  · exact isShown ▸ Location.snippet_isInfix content number 2

/-- Behind the line break that ends a file lies one more line, which is empty. -/
theorem Rule.finding_behind_last_break :
    let content := "a\n\nbc\n".toList
    let found := findingAt "R" "d" .low "p" content 6 none
    6 ≤ content.length ∧ found.line = some 4 ∧ found.snippet = some "\nbc\n" := by
  intro content found
  obtain ⟨number, line, _, unique, snippet, _⟩ :=
    findingAt_exact "R" "d" .low "p" content (show 6 ≤ content.length by decide) none
  have isLast : 4 = number := unique 4 ⟨by decide, by decide, by decide, by decide⟩
  subst isLast
  exact ⟨by decide, line, snippet.trans (by decide)⟩

end MobileAudit
