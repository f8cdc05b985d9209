import MobileAudit.Proofs.Location.Lines
import MobileAudit.Proofs.Pattern.Search
import MobileAudit.Rule.Storage

namespace MobileAudit.Rule

open Pattern

/-! Sensitive values in unencrypted storage.  The rule cuts the line around a call out at the line
breaks nearest to it, and reports the line by counting line breaks: both are the same line. -/

/-! The line around an offset. -/

private theorem lineAround_within {above line below : List Char} {n : Nat} (oneLine : '\n' ∉ line)
    (outsideAbove : Location.IsOutside above.reverse) (outsideBelow : Location.IsOutside below)
    (within : n ≤ line.length) :
    lineAround (above ++ (line ++ below)) (above.length + n) = line := by
  have kept {part outside : List Char} (inside : ∀ c ∈ part, c ∈ line)
      (stops : Location.IsOutside outside) :
      (part ++ outside).takeWhile (· != '\n') = part := by
    have all : ∀ c ∈ part, (c != '\n') = true := by
      intro c member
      rw [bne_iff_ne]
      rintro rfl
      exact oneLine (inside _ member)
    rw [List.takeWhile_append_of_pos all]
    cases outside with
    | nil => simp
    | cons c outside => simp [stops c rfl]
  have before : (above ++ (line ++ below)).take (above.length + n) = above ++ line.take n := by
    rw [List.take_length_add_append, List.take_append_of_le_length within]
  have after : (above ++ (line ++ below)).drop (above.length + n) = line.drop n ++ below := by
    rw [List.drop_length_add_append, List.drop_append_of_le_length within]
  rw [lineAround, before, after, List.reverse_append,
    kept (fun c member => List.mem_of_mem_take (List.mem_reverse.mp member)) outsideAbove,
    kept (fun c member => List.mem_of_mem_drop member) outsideBelow, List.reverse_reverse,
    List.take_append_drop]

private theorem lineAround_holds {lines : List (List Char)} {number offset : Nat}
    (oneLine : ∀ line ∈ lines, '\n' ∉ line) (holds : Location.Holds lines number offset) :
    lineAround (Text.joinWith ['\n'] lines) offset = Location.lineAt lines number := by
  obtain ⟨positive, within, starts, ends⟩ := holds
  obtain ⟨below, outside, split⟩ := Location.joinWith_around positive within
  obtain ⟨n, rfl⟩ := Nat.exists_eq_add_of_le starts
  have cut := lineAround_within (oneLine _ (Location.lineAt_mem positive within))
    (Location.isOutside_textBefore lines number) outside (Nat.le_of_add_le_add_left ends)
  rwa [Location.length_textBefore, ← split] at cut

/-! The calls. -/

theorem moves_storageCall : storageCall.Moves :=
  ((moves_lit "AsyncStorage" (by decide)).seq_left _).seq_right _

def sensitiveCalls (content : List Char) : List Match :=
  (storageCall.findAll content).filter fun m => Naming.isSensitive (String.ofList (m.groupText 2))

private theorem start_le_of_mem_sensitiveCalls {content : List Char} {m : Match}
    (member : m ∈ sensitiveCalls content) : m.start ≤ content.length := by
  obtain ⟨found, _⟩ := List.mem_filter.mp member
  obtain ⟨_, ordered, bound⟩ := (scans_findAll moves_storageCall content).bounds found
  exact Nat.le_trans ordered (by simpa [Point.ofText] using bound)

/-! The findings. -/

def reportedLine? (lines : List (List Char)) (found : Finding) : Option (List Char) :=
  found.line.bind fun number => if 1 ≤ number then lines[(number - 1).toNat]? else none

def NotBelow (found other : Finding) : Prop :=
  ∃ number later, found.line = some number ∧ other.line = some later ∧ number ≤ later

section

variable {context : FileContext} {offset : Nat}

private theorem reportedLine?_finding (card : RuleCard) (advice : String)
    (within : offset ≤ context.content.toList.length) :
    reportedLine? (Text.lines context.content.toList) (card.finding context offset advice) =
      some (lineAround context.content.toList offset) := by
  let number := Location.lineOf context.content.toList offset
  have holds : Location.Holds (Text.lines context.content.toList) number offset :=
    (Location.holds_iff within).mpr rfl
  have around := lineAround_holds (fun _ => Location.newline_not_mem_line) holds
  rw [Location.joinWith_lines] at around
  have isLine : (card.finding context offset advice).line = some ↑number := rfl
  have positive : 1 ≤ (number : Int) := Int.ofNat_le.mpr holds.positive
  have index : ((number : Int) - 1).toNat = number - 1 := by omega
  rw [reportedLine?, isLine, Option.bind_some, if_pos positive, index,
    Location.getElem?_lineAt holds.positive holds.within, around]

private theorem notBelow_finding (card : RuleCard) (advice : String) {later : Nat}
    (ordered : offset ≤ later) :
    NotBelow (card.finding context offset advice) (card.finding context later advice) :=
  ⟨_, _, rfl, rfl, Int.ofNat_le.mpr (Location.lineOf_mono _ ordered)⟩

end

theorem detectStorage_eq (context : FileContext) :
    let content := context.content.toList
    detectStorage context =
      ((sensitiveCalls content).filter fun m =>
        !Surroundings.isFormLine (lineAround content m.start)).map fun m =>
          storageCard.finding context m.start storageAdvice := by
  intro content
  have reports : ∀ m ∈ storageCall.findAll content, reportsStorage content m =
      (!Surroundings.isFormLine (lineAround content m.start) &&
        Naming.isSensitive (String.ofList (m.groupText 2))) :=
    fun m _ => Bool.and_comm _ _
  rw [sensitiveCalls, List.filter_filter, ← List.filter_congr reports]
  rfl

/-- The rule finds the calls under sensitive keys in the order of their lines, without those on
lines that handle a form.  The line that it tests for this is the one that it reports. -/
theorem sensitiveStorage_judges_line (context : FileContext) :
    let content := context.content.toList
    let report := fun m : Match => storageCard.finding context m.start storageAdvice
    let found := ((sensitiveCalls content).map report).filter fun finding =>
      (reportedLine? (Text.lines content) finding).any (!Surroundings.isFormLine ·)
    (∀ m ∈ sensitiveCalls content,
      reportedLine? (Text.lines content) (report m) = some (lineAround content m.start)) ∧
      sensitiveStorage.apply context = .ofFindings found ∧ found.Pairwise NotBelow := by
  intro content report found
  have tested : ∀ m ∈ sensitiveCalls content,
      reportedLine? (Text.lines content) (report m) = some (lineAround content m.start) :=
    fun m member => reportedLine?_finding _ _ (start_le_of_mem_sensitiveCalls member)
  have judged : ∀ m ∈ sensitiveCalls content,
      (!Surroundings.isFormLine (lineAround content m.start)) =
        (reportedLine? (Text.lines content) (report m)).any (!Surroundings.isFormLine ·) := by
    intro m member
    rw [tested m member, Option.any_some]
  have detected : detectStorage context = found := by
    simp only [found, List.filter_map]
    rw [detectStorage_eq, List.filter_congr judged]
    rfl
  have calls : found.Sublist ((storageCall.findAll content).map report) :=
    List.filter_sublist.trans (List.filter_sublist.map report)
  refine ⟨tested, congrArg RuleAnswer.ofFindings detected,
    List.Pairwise.sublist calls (List.pairwise_map.mpr ?_)⟩
  exact (scans_findAll moves_storageCall content).ordered.imp fun ordered =>
    notBelow_finding _ _ (Nat.le_trans ordered.1 ordered.2)

/-- A call that goes over several lines is judged, and reported, by the line on which it starts. -/
example :
    let content := "\nAsyncStorage\n  .setItem('authToken', setToken(value))"
    (detectStorage { path := "a.ts", content }).map (·.line) = [some 2] := by decide +kernel

end MobileAudit.Rule
