import MobileAudit.Proofs.Location.Lines
import MobileAudit.Proofs.Pattern.Search
import MobileAudit.Rule.SourceSecret

namespace MobileAudit.Rule

open Pattern

/-! Literals of a line as a scan from left to right finds them. -/

def isQuote (c : Char) : Bool := "\"'`".toList.contains c

/-- Pairs of a backslash and a character, and characters other than a backslash and the quote. -/
def isBody (quote : Char) : List Char → Bool
  | [] => true
  | '\\' :: _ :: rest => isBody quote rest
  | c :: rest => c != '\\' && c != quote && isBody quote rest

/-- How far behind an opening quote the quote stands that closes it. -/
def closing? (quote : Char) (rest : List Char) : Option Nat :=
  (List.range rest.length).find? fun n => isBody quote (rest.take n) && rest[n]? == some quote

/-- The texts between quotes: behind a literal the scan goes on after its closing quote, and a quote
that nothing closes is passed over like any other character. -/
def literals : List Char → List (List Char)
  | [] => []
  | c :: rest =>
      if isQuote c then
        match closing? c rest with
        | some n => rest.take n :: literals (rest.drop (n + 1))
        | none => literals rest
      else literals rest
termination_by line => line.length
decreasing_by all_goals simp only [List.length_cons, List.length_drop]; omega

/-! Bodies of literals. -/

@[simp] theorem isBody_pair (quote c : Char) (rest : List Char) :
    isBody quote ('\\' :: c :: rest) = isBody quote rest := rfl

theorem isBody_cons {quote c : Char} {rest : List Char}
    (unpaired : ∀ d more, c = '\\' → rest = d :: more → False) :
    isBody quote (c :: rest) = true ↔ c ≠ '\\' ∧ c ≠ quote ∧ isBody quote rest = true := by
  rw [isBody.eq_3 _ _ _ unpaired, Bool.and_eq_true, Bool.and_eq_true, bne_iff_ne, bne_iff_ne,
    and_assoc]

theorem isBody_plain {quote c : Char} (other : c ≠ '\\') {rest : List Char} :
    isBody quote (c :: rest) = true ↔ c ≠ quote ∧ isBody quote rest = true :=
  (isBody_cons fun _ _ escape _ => other escape).trans (and_iff_right other)

/-- A body ends at the first quote that is not escaped. -/
theorem isBody_unique {quote : Char} (noEscape : quote ≠ '\\') {first second left right : List Char}
    (isFirst : isBody quote first = true) (isSecond : isBody quote second = true)
    (same : first ++ quote :: left = second ++ quote :: right) : first = second := by
  have notQuote {text : List Char} : isBody quote (quote :: text) ≠ true :=
    fun body => ((isBody_plain noEscape).mp body).1 rfl
  -- where the first body ends, its quote would have to stand in the second one unescaped
  induction first using isBody.induct generalizing second with
  | case1 =>
      cases second with
      | nil => rfl
      | cons d second =>
          obtain ⟨rfl, _⟩ := List.cons.inj same
          exact absurd isSecond notQuote
  | case2 c first ih =>
      match second, isSecond, same with
      | [], _, same => exact absurd (List.cons.inj same).1.symm noEscape
      | [d], isSecond, same =>
          obtain ⟨rfl, _⟩ := List.cons.inj same
          contradiction
      | d :: e :: second, isSecond, same =>
          obtain ⟨rfl, behind⟩ := List.cons.inj same
          obtain ⟨rfl, further⟩ := List.cons.inj behind
          rw [isBody_pair] at isSecond
          rw [ih isFirst isSecond further]
  | case3 c first unpaired ih =>
      obtain ⟨other, unquoted, restFirst⟩ := (isBody_cons unpaired).mp isFirst
      cases second with
      | nil => exact absurd (List.cons.inj same).1 unquoted
      | cons d second =>
          obtain ⟨rfl, behind⟩ := List.cons.inj same
          have restSecond := ((isBody_plain other).mp isSecond).2
          rw [ih restFirst restSecond behind]

theorem of_closing? {quote : Char} {rest : List Char} {n : Nat}
    (closed : closing? quote rest = some n) :
    isBody quote (rest.take n) = true ∧ rest = rest.take n ++ quote :: rest.drop (n + 1) := by
  have found := List.find?_some closed
  rw [Bool.and_eq_true, beq_iff_eq] at found
  obtain ⟨within, here⟩ := List.getElem?_eq_some_iff.mp found.2
  refine ⟨found.1, ?_⟩
  rw [← here, ← List.drop_eq_getElem_cons within, List.take_append_drop]

private theorem closing?_eq_some {quote : Char} (noEscape : quote ≠ '\\') {text : List Char}
    (body : isBody quote text = true) (rest : List Char) :
    closing? quote (text ++ quote :: rest) = some text.length := by
  cases closed : closing? quote (text ++ quote :: rest) with
  | none =>
      have unclosed := List.find?_eq_none.mp closed text.length (by simp)
      simp [body] at unclosed
  | some n =>
      obtain ⟨found, split⟩ := of_closing? closed
      have same := isBody_unique noEscape found body split.symm
      have within : n ≤ (text ++ quote :: rest).length := by
        have member := List.mem_of_find?_eq_some closed
        rw [List.mem_range] at member
        exact Nat.le_of_lt member
      rw [← congrArg List.length same, List.length_take_of_le within]

/-! The pattern of literals. -/

/-- One round of the repetition: an escaped character, or one other than a backslash and the quote
that the first group remembers. -/
def bodyStep : Pattern :=
  lit "\\" ++ .set CharSet.notNewline <|>
    .notBefore (.again 1) ++ .set (CharSet.ofChars "\\\n").except

@[simp] theorem contains_notNewline (c : Char) : CharSet.notNewline.contains c = true ↔ c ≠ '\n' :=
  contains_except_one '\n' c

@[simp] theorem contains_unescaped (c : Char) :
    (CharSet.ofChars "\\\n").except.contains c = true ↔ c ≠ '\\' ∧ c ≠ '\n' := by
  simp [CharSet.contains, CharSet.ofChars, CharSet.except, CharItem.contains, eq_comm (a := c)]

section

variable {quote : Char} {p q : Point} {capture : Capture}
  (held : p.groups.lookup 1 = some capture) (isText : capture.text = [quote])
include held isText

theorem mem_ends_quote :
    q ∈ (again 1).ends p ↔ ∃ rest, p.after = quote :: rest ∧ q = p.past [quote] rest := by
  rw [mem_ends_again held, isText]
  rfl

private theorem mem_ends_bodyStep (oneLine : '\n' ∉ p.after) :
    q ∈ bodyStep.ends p ↔
      (∃ c rest, p.after = '\\' :: c :: rest ∧ q = p.past ['\\', c] rest) ∨
        ∃ c rest, p.after = c :: rest ∧ c ≠ '\\' ∧ c ≠ quote ∧ q = p.past [c] rest := by
  have escaped := (reads_seq (reads_ofChars ['\\']) (reads_set CharSet.notNewline)).mem_ends
    (p := p) (q := q)
  have plain := (reads_set (CharSet.ofChars "\\\n").except).mem_ends (p := p) (q := q)
  have notQuote := List.eq_nil_iff_forall_not_mem (l := (again 1).ends p)
  simp only [mem_ends_quote held isText] at notQuote
  refine mem_ends_alt.trans (or_congr (escaped.trans ?_) ?_)
  · constructor
    · rintro ⟨_, rest, ahead, ⟨_, _, rfl, rfl, c, rfl, _⟩, rfl⟩
      exact ⟨c, rest, ahead, rfl⟩
    · rintro ⟨c, rest, ahead, rfl⟩
      refine ⟨_, rest, ahead, ⟨['\\'], [c], rfl, rfl, c, rfl, ?_⟩, rfl⟩
      rw [contains_notNewline]
      rintro rfl
      exact oneLine (by simp [ahead])
  · rw [mem_ends_seq]
    simp only [mem_ends_notBefore, notQuote]
    constructor
    · rintro ⟨_, ⟨unquoted, rfl⟩, inSet⟩
      obtain ⟨_, rest, ahead, ⟨c, rfl, member⟩, rfl⟩ := plain.mp inSet
      refine ⟨c, rest, ahead, ((contains_unescaped c).mp member).1, ?_, rfl⟩
      rintro rfl
      exact unquoted _ ⟨rest, ahead, rfl⟩
    · rintro ⟨c, rest, ahead, other, unquoted, rfl⟩
      refine ⟨p, ⟨?_, rfl⟩, plain.mpr ⟨[c], rest, ahead, ⟨c, rfl, ?_⟩, rfl⟩⟩
      · rintro _ ⟨more, same, _⟩
        exact unquoted (List.cons.inj (ahead.symm.trans same)).1
      · refine (contains_unescaped c).mpr ⟨other, ?_⟩
        rintro rfl
        exact oneLine (by simp [ahead])

private theorem mem_ends_body (oneLine : '\n' ∉ p.after) :
    q ∈ (star bodyStep).ends p ↔
      ∃ text rest, p.after = text ++ rest ∧ isBody quote text = true ∧ q = p.past text rest := by
  rw [mem_ends_star]
  constructor
  · intro rounds
    -- the rounds are read from the first one on; later ones see the same groups
    induction rounds using Relation.ReflTransGen.head_induction_on with
    | refl => exact ⟨[], q.after, rfl, rfl, (Point.past_nil rfl).symm⟩
    | @head a b round _ ih =>
        cases (mem_ends_bodyStep held isText oneLine).mp round.1 with
        | inl escaped =>
            obtain ⟨c, behind, ahead, rfl⟩ := escaped
            rw [ahead] at oneLine
            obtain ⟨text, rest, rfl, body, rfl⟩ := ih held fun inside =>
              oneLine (List.mem_cons_of_mem _ (List.mem_cons_of_mem _ inside))
            exact ⟨'\\' :: c :: text, rest, ahead, body, a.past_past ['\\', c] text _ rest⟩
        | inr plain =>
            obtain ⟨c, behind, ahead, other, unquoted, rfl⟩ := plain
            rw [ahead] at oneLine
            obtain ⟨text, rest, rfl, body, rfl⟩ := ih held fun inside =>
              oneLine (List.mem_cons_of_mem _ inside)
            exact ⟨c :: text, rest, ahead, (isBody_plain other).mpr ⟨unquoted, body⟩,
              a.past_past [c] text _ rest⟩
  · rintro ⟨text, rest, ahead, body, rfl⟩
    induction text using isBody.induct generalizing p with
    | case1 =>
        have here : p.past [] rest = p := Point.past_nil ahead
        rw [here]
    | case2 c text ih =>
        have inStep : p.past ['\\', c] (text ++ rest) ∈ bodyStep.ends p :=
          (mem_ends_bodyStep held isText oneLine).mpr (.inl ⟨c, _, ahead, rfl⟩)
        rw [ahead] at oneLine
        have onward := ih (p := p.past ['\\', c] (text ++ rest)) held (fun inside =>
          oneLine (List.mem_cons_of_mem _ (List.mem_cons_of_mem _ inside))) rfl body
        rw [Point.past_past] at onward
        exact .head ⟨inStep, Nat.lt_add_of_pos_right Nat.two_pos⟩ onward
    | case3 c text unpaired ih =>
        obtain ⟨other, unquoted, body⟩ := (isBody_cons unpaired).mp body
        have inStep : p.past [c] (text ++ rest) ∈ bodyStep.ends p :=
          (mem_ends_bodyStep held isText oneLine).mpr
            (.inr ⟨c, _, ahead, other, unquoted, rfl⟩)
        rw [ahead] at oneLine
        have onward := ih (p := p.past [c] (text ++ rest)) held
          (fun inside => oneLine (List.mem_cons_of_mem _ inside)) rfl body
        rw [Point.past_past] at onward
        exact .head ⟨inStep, Nat.lt_succ_self _⟩ onward

end

/-- Behind the opening quote, which the first group remembers. -/
def opened (p : Point) (quote : Char) (rest : List Char) : Point :=
  { p.past [quote] rest with groups := (1, ⟨p.offset, 1, quote :: rest⟩) :: p.groups }

theorem mem_ends_opening {p q : Point} :
    q ∈ (group 1 (.set (.ofChars "\"'`"))).ends p ↔
      ∃ quote rest, p.after = quote :: rest ∧ isQuote quote = true ∧ q = opened p quote rest := by
  have reads : Reads (.set (.ofChars "\"'`")) fun _ taken _ =>
      ∃ c, taken = [c] ∧ isQuote c = true :=
    (reads_set _).congr fun _ taken _ => exists_congr fun c => by
      rw [CharSet.contains_ofChars, isQuote]
  have remembered {quote : Char} {rest : List Char} (ahead : p.after = quote :: rest) :
      (p.past [quote] rest).remember 1 p = opened p quote rest := by
    simp [Point.remember, Point.past, opened, ahead]
  simp only [mem_ends_group, reads.mem_ends]
  constructor
  · rintro ⟨_, ⟨_, rest, ahead, ⟨quote, rfl, opens⟩, rfl⟩, rfl⟩
    exact ⟨quote, rest, ahead, opens, remembered ahead⟩
  · rintro ⟨quote, rest, ahead, opens, rfl⟩
    exact ⟨_, ⟨_, rest, ahead, ⟨quote, rfl, opens⟩, rfl⟩, remembered ahead⟩

/-- Behind a literal, whose text the second group remembers. -/
def passed (p : Point) (quote : Char) (text rest : List Char) : Point :=
  let start := opened p quote (text ++ quote :: rest)
  ((start.past text (quote :: rest)).remember 2 start).past [quote] rest

@[simp] theorem after_passed (p : Point) (quote : Char) (text rest : List Char) :
    (passed p quote text rest).after = rest := rfl

private theorem mem_ends_literal {p q : Point} (oneLine : '\n' ∉ p.after) :
    q ∈ stringLiteral.ends p ↔
      ∃ quote text rest, p.after = quote :: (text ++ quote :: rest) ∧ isQuote quote = true ∧
        isBody quote text = true ∧ q = passed p quote text rest := by
  simp only [stringLiteral, mem_ends_seq, mem_ends_opening]
  constructor
  · rintro ⟨_, ⟨quote, behind, ahead, opens, rfl⟩, _, inBody, closed⟩
    obtain ⟨_, rounds, rfl⟩ := mem_ends_group.mp inBody
    have sameLine : '\n' ∉ behind := fun inside => oneLine (ahead ▸ List.mem_cons_of_mem _ inside)
    obtain ⟨text, after, rfl, body, rfl⟩ := (mem_ends_body rfl rfl sameLine).mp rounds
    obtain ⟨rest, isAfter, rfl⟩ := (mem_ends_quote rfl rfl).mp closed
    have after_eq : after = quote :: rest := isAfter
    subst after_eq
    exact ⟨quote, text, rest, ahead, opens, body, rfl⟩
  · rintro ⟨quote, text, rest, ahead, opens, body, rfl⟩
    have sameLine : '\n' ∉ text ++ quote :: rest :=
      fun inside => oneLine (ahead ▸ List.mem_cons_of_mem _ inside)
    have rounds := (mem_ends_body (p := opened p quote (text ++ quote :: rest)) rfl rfl
      sameLine).mpr ⟨text, _, rfl, body, rfl⟩
    refine ⟨_, ⟨quote, _, ahead, opens, rfl⟩, _, mem_ends_group.mpr ⟨_, rounds, rfl⟩, ?_⟩
    exact (mem_ends_quote rfl rfl).mpr ⟨rest, rfl, rfl⟩

private theorem moves_literal : stringLiteral.Moves := by
  intro p q reached
  simp only [stringLiteral, mem_ends_seq, mem_ends_opening] at reached
  obtain ⟨_, ⟨quote, rest, _, _, rfl⟩, closed⟩ := reached
  obtain ⟨m, inBody, isEnd⟩ := closed
  exact ((leadsTo_of_mem_ends inBody).trans (leadsTo_of_mem_ends isEnd)).offset_le

/-! The scan. -/

private theorem literals_closed {quote : Char} {text : List Char} (opens : isQuote quote = true)
    (body : isBody quote text = true) (rest : List Char) :
    literals (quote :: (text ++ quote :: rest)) = text :: literals rest := by
  have noEscape : quote ≠ '\\' := by
    rintro rfl
    contradiction
  rw [literals, if_pos opens, closing?_eq_some noEscape body]
  simp

private theorem literals_unclosed {c : Char} {rest : List Char}
    (unclosed : isQuote c = true → ∀ text more, rest = text ++ c :: more → isBody c text = false) :
    literals (c :: rest) = literals rest := by
  rw [literals]
  split
  · rename_i opens
    cases closed : closing? c rest with
    | none => rfl
    | some n =>
        obtain ⟨body, split⟩ := of_closing? closed
        rw [unclosed opens _ _ split] at body
        contradiction
  · rfl

example : literals "'\\'a'\"b".toList = ["\\'a".toList] := by cbv

/-! The findings for the literals of a file, line by line. -/

/-- A literal without an inserted expression that looks like a secret or has a token in it. -/
def HidesSecret (text : List Char) : Prop :=
  ¬ ['$', '\x7b'] <:+: text ∧
    (Secret.looksLikeSecret text = true ∨ (Secret.embeddedAt? text).isSome = true)

instance (text : List Char) : Decidable (HidesSecret text) :=
  inferInstanceAs (Decidable (_ ∧ _))

/-- The finding that reports a secret on a line. -/
def secretOnLine (context : FileContext) (number : Nat) : Finding where
  ruleId := sourceSecretCard.id
  description := sourceSecretCard.description
  severity := sourceSecretCard.severity
  path := context.path
  line := some number
  snippet := some (String.ofList (Location.snippet context.content.toList number 2))
  suggestion := some sourceSecretAdvice

private theorem isSome_secretIn? {text : List Char} :
    (secretIn? text).isSome = true ↔ HidesSecret text := by
  rw [secretIn?, HidesSecret, ← Text.hasPiece_iff]
  split <;> rename_i inserted
  · simp [inserted]
  · split <;> rename_i secret <;> simp [inserted, secret]

private theorem secretIn?_le {text : List Char} {inner : Nat}
    (found : secretIn? text = some inner) :
    inner ≤ text.length := by
  rw [secretIn?] at found
  split at found
  · contradiction
  · split at found
    · cases found
      exact Nat.zero_le _
    · obtain ⟨shape, _, matched⟩ := (min?_search.mp found).1
      exact matched.1

def secretAt? (m : Match) : Option Nat := do
  let literal ← m.group? 2
  let inner ← secretIn? literal.text
  return literal.start + inner

private theorem secretAt?_passed (p : Point) (quote : Char) (text rest : List Char) :
    secretAt? (.ofPoints p (passed p quote text rest)) =
      (secretIn? text).map (p.offset + 1 + ·) := by
  have held : (Match.ofPoints p (passed p quote text rest)).group? 2 =
      some ⟨p.offset + 1, p.offset + 1 + text.length - (p.offset + 1), text ++ quote :: rest⟩ := rfl
  rw [secretAt?, held, Nat.add_sub_cancel_left]
  simp only [Option.bind_eq_bind, Option.bind_some, Capture.text, List.take_left]
  cases secretIn? text <;> rfl

section

variable {α : Type} {report : Nat → α} {same : α}

private theorem report_scans {p : Point} {found : List Match} (scans : Scans stringLiteral p found)
    (oneLine : '\n' ∉ p.after) (constant : ∀ n ≤ p.offset + p.after.length, report n = same) :
    (found.filterMap secretAt?).map report =
      ((literals p.after).filter HidesSecret).map fun _ => same := by
  -- all offsets in question lie on the line, so that they are reported alike
  induction scans with
  | done ended => simp [ended, literals]
  | @skip p c rest found ahead unmatched onward ih =>
      have unclosed : isQuote c = true → ∀ text more, rest = text ++ c :: more →
          isBody c text = false := by
        intro opens text more split
        rw [Bool.eq_false_iff]
        intro body
        have reached : passed p c text more ∈ stringLiteral.ends p :=
          (mem_ends_literal oneLine).mpr ⟨c, text, more, split ▸ ahead, opens, body, rfl⟩
        rw [unmatched] at reached
        cases reached
      rw [ahead] at oneLine constant
      rw [ahead, literals_unclosed unclosed]
      refine ih (fun inside => oneLine (List.mem_cons_of_mem _ inside)) fun n within => ?_
      have bound : n ≤ p.offset + 1 + rest.length := within
      exact constant n (by rw [List.length_cons]; omega)
  | @take p q found reached onward ih =>
      have leads := leadsTo_of_mem_ends reached
      have later := ih (fun inside => oneLine (List.mem_of_mem_drop (leads.after_eq ▸ inside)))
        fun n within => constant n (leads.length ▸ within)
      obtain ⟨quote, text, rest, ahead, opens, body, rfl⟩ := (mem_ends_literal oneLine).mp reached
      have hides : (secretIn? text).isSome = true ↔ HidesSecret text := isSome_secretIn?
      rw [ahead, literals_closed opens body, List.filterMap_cons, secretAt?_passed,
        List.filter_cons]
      cases secret : secretIn? text with
      | none =>
          rw [secret] at hides
          have harmless : ¬ HidesSecret text := fun holds => Bool.false_ne_true (hides.mpr holds)
          simpa [harmless] using later
      | some inner =>
          rw [secret] at hides
          have isHidden : HidesSecret text := hides.mp rfl
          have here : report (p.offset + 1 + inner) = same := by
            have within := secretIn?_le secret
            refine constant _ ?_
            simp only [ahead, List.length_cons, List.length_append]
            omega
          simpa [isHidden, here] using later

private theorem report_line {line : List Char} (oneLine : '\n' ∉ line)
    (constant : ∀ n ≤ line.length, report n = same) :
    (secretsInLine line).map report =
      if Surroundings.isFormLine line then []
      else ((literals line).filter HidesSecret).map fun _ => same := by
  rw [secretsInLine]
  split
  · rfl
  · exact report_scans (scans_findAll moves_literal line) oneLine fun n within =>
      constant n (Nat.zero_add line.length ▸ within)

end

private theorem finding_within {context : FileContext} {before line after : List Char}
    (parts : context.content.toList = before ++ (line ++ after)) (oneLine : '\n' ∉ line) {n : Nat}
    (within : n ≤ line.length) :
    sourceSecretCard.finding context (before.length + n) sourceSecretAdvice =
      secretOnLine context (before.count '\n' + 1) := by
  rw [RuleCard.finding, Rule.findingAt, parts, Location.lineOf_within oneLine within, ← parts]
  rfl

private theorem report_lines {context : FileContext} {lines : List (List Char)} (before : List Char)
    (parts : lines ≠ [] → context.content.toList = before ++ Text.joinWith ['\n'] lines)
    (oneLine : ∀ line ∈ lines, '\n' ∉ line) :
    (secretsInLines before.length lines).map
        (fun offset => sourceSecretCard.finding context offset sourceSecretAdvice) =
      (lines.zipIdx (before.count '\n' + 1)).flatMap fun (line, number) =>
        if Surroundings.isFormLine line then []
        else ((literals line).filter HidesSecret).map fun _ => secretOnLine context number := by
  -- `before` is the part of the file that ends with the line break before the first line
  induction lines generalizing before with
  | nil => rfl
  | cons line rest ih =>
      have placed : ∃ after, context.content.toList = before ++ (line ++ after) ∧
          (rest ≠ [] → after = '\n' :: Text.joinWith ['\n'] rest) := by
        rw [parts (List.cons_ne_nil _ _)]
        cases rest with
        | nil => exact ⟨[], by simp, nofun⟩
        | cons next rest =>
            rw [Text.joinWith_cons _ _ (List.cons_ne_nil _ _)]
            exact ⟨_, rfl, fun _ => rfl⟩
      obtain ⟨after, split, isAfter⟩ := placed
      have sameLine := oneLine line List.mem_cons_self
      have own := report_line sameLine fun n within => finding_within split sameLine within
      have offset : (before ++ (line ++ ['\n'])).length = before.length + line.length + 1 := by
        simp [Nat.add_assoc]
      have number : (before ++ (line ++ ['\n'])).count '\n' = before.count '\n' + 1 := by
        simp [List.count_eq_zero.mpr sameLine]
      have later := ih (before ++ (line ++ ['\n']))
        (fun some => by rw [split, isAfter some]; simp)
        fun next member => oneLine next (List.mem_cons_of_mem _ member)
      rw [offset, number] at later
      rw [secretsInLines, List.map_append, List.map_map, List.zipIdx_cons, List.flatMap_cons, later]
      exact congrArg (· ++ _) own

/-- The rule passes over the lines of a file and the literals of a line from left to right. -/
theorem sourceSecret_scans (context : FileContext) :
    sourceSecret.apply context =
      .ofFindings (((Text.lines context.content.toList).zipIdx 1).flatMap fun (line, number) =>
        if Surroundings.isFormLine line then []
        else ((literals line).filter HidesSecret).map fun _ => secretOnLine context number) := by
  have parts : Text.lines context.content.toList ≠ [] → context.content.toList =
      [] ++ Text.joinWith ['\n'] (Text.lines context.content.toList) := fun _ =>
    (Location.joinWith_lines _).symm
  exact congrArg RuleAnswer.ofFindings
    (report_lines [] parts fun _ => Location.newline_not_mem_line)

end MobileAudit.Rule
