import MobileAudit.Proofs.Json.RoundTrip

namespace MobileAudit.Json

/-! Reading a text that breaks off.  The reader never looks ahead beyond the end of a value, so what
it made of the beginning of a text it also makes of the whole text.  Hence no proper beginning of a
written mapping is read as anything, and none is found to be nested too deep. -/

/-- The part of a text that has been read stays as it is when the text goes on. -/
theorem readString_append (start start' : Nat) (p : Partial) (text more : List Char)
    {s : String} {rest : List Char} (read : readString start p text = .ok (s, rest)) :
    rest.length < text.length ∧ readString start' p (text ++ more) = .ok (s, rest ++ more) := by
  fun_induction readString start p text with
  | case1 => cases read
  | case2 p rest' =>
      cases read
      exact ⟨by simp, rfl⟩
  | case3 => cases read
  | case4 p a b c d rest' code known more' ih =>
      obtain ⟨shorter, read'⟩ := ih read
      have nonempty : (rest' ++ more).isEmpty = false := by
        cases rest' with
        | nil => exact absurd rfl more'
        | cons c rest' => rfl
      refine ⟨by simp only [List.length_cons]; omega, ?_⟩
      simp only [List.cons_append, readString, known, nonempty, Bool.false_eq_true, if_false]
      exact read'
  | case5 => cases read
  | case6 => cases read
  | case7 => cases read
  | case8 p c rest' _ _ e known ih =>
      obtain ⟨shorter, read'⟩ := ih read
      refine ⟨by simp only [List.length_cons]; omega, ?_⟩
      rw [List.cons_append, List.cons_append, readString_shortEscape start' p c e _ known]
      exact read'
  | case9 => cases read
  | case10 => cases read
  | case11 p c rest' noQuote _ _ lonely paired noControl ih =>
      obtain ⟨shorter, read'⟩ := ih read
      have noSlash : c ≠ '\\' := by
        intro slash
        cases rest' with
        | nil => exact lonely slash rfl
        | cons d rest' => exact paired d rest' slash rfl
      refine ⟨by simp only [List.length_cons]; omega, ?_⟩
      rw [List.cons_append, readString_plain start' p c _ noQuote noSlash noControl]
      exact read'

theorem readString_not_tooDeep (start : Nat) (p : Partial) (text : List Char)
    (container : Container) (remaining : Nat) :
    readString start p text ≠ .error ⟨.tooDeep container, remaining⟩ := by
  fun_induction readString start p text with
  | case4 p a b c d rest code known more ih => exact ih
  | case8 p c rest _ _ e known ih => exact ih
  | case11 p c rest _ _ _ _ _ _ ih => exact ih
  | _ => simp

/-! Numbers and words. -/

theorem digits_append (text more : List Char) (ended : text.dropWhile isDigit ≠ []) :
    (text ++ more).takeWhile isDigit = text.takeWhile isDigit ∧
      (text ++ more).dropWhile isDigit = text.dropWhile isDigit ++ more := by
  induction text with
  | nil => exact absurd rfl ended
  | cons c text ih =>
      cases digit : isDigit c with
      | true =>
          rw [List.dropWhile_cons, digit, if_pos rfl] at ended
          obtain ⟨taken, dropped⟩ := ih ended
          simp [digit, taken, dropped]
      | false => simp [digit]

theorem wholeDigits_append (text more : List Char) {whole rest : List Char}
    (read : wholeDigits text = some (whole, rest)) (ended : rest ≠ []) :
    wholeDigits (text ++ more) = some (whole, rest ++ more) := by
  fun_cases wholeDigits text with
  | case1 tail =>
      cases read
      rfl
  | case2 c tail nonzero digit =>
      rw [wholeDigits_cons c tail nonzero, if_pos digit] at read
      cases read
      obtain ⟨taken, dropped⟩ := digits_append tail more ended
      rw [List.cons_append, wholeDigits_cons c _ nonzero, if_pos digit, taken, dropped]
  | case3 c tail nonzero noDigit =>
      rw [wholeDigits_cons c tail nonzero, if_neg noDigit] at read
      cases read
  | case4 => cases read

private theorem fractionDigits_other (c : Char) (tail : List Char) (other : c ≠ '.') :
    fractionDigits (c :: tail) = none := by
  unfold fractionDigits
  split
  · rename_i equal
    exact absurd (List.cons.inj equal).1 other
  · rfl

theorem fractionDigits_append (text more : List Char) {digits rest : List Char}
    (read : fractionDigits text = some (digits, rest)) (ended : rest ≠ []) :
    fractionDigits (text ++ more) = some (digits, rest ++ more) := by
  revert read
  fun_cases fractionDigits text with
  | case1 tail none =>
      intro read
      cases read
  | case2 tail some =>
      intro read
      cases read
      obtain ⟨taken, dropped⟩ := digits_append tail more ended
      rw [List.cons_append, fractionDigits, taken, dropped]
      split
      · contradiction
      · rfl
  | case3 =>
      intro read
      cases read

private theorem exponentSign_other (c : Char) (tail : List Char) (noMinus : c ≠ '-')
    (noPlus : c ≠ '+') :
    exponentSign (c :: tail) = (false, c :: tail) := by
  rw [exponentSign.eq_def]
  split <;> simp_all

theorem exponentSign_append (text more : List Char) (nonempty : text ≠ []) :
    exponentSign (text ++ more) = ((exponentSign text).1, (exponentSign text).2 ++ more) := by
  obtain ⟨c, tail, rfl⟩ := List.exists_cons_of_ne_nil nonempty
  by_cases minus : c = '-'
  · subst minus
    rfl
  by_cases plus : c = '+'
  · subst plus
    rfl
  rw [List.cons_append, exponentSign_other c tail minus plus,
    exponentSign_other c (tail ++ more) minus plus]
  rfl

theorem exponentPart_append (text more : List Char) {power : Int} {rest : List Char}
    (read : exponentPart text = some (power, rest)) (ended : rest ≠ []) :
    exponentPart (text ++ more) = some (power, rest ++ more) := by
  cases text with
  | nil => cases read
  | cons mark tail =>
      have nonempty : tail ≠ [] := by
        rintro rfl
        simp [exponentPart, exponentSign] at read
      have sign := exponentSign_append tail more nonempty
      cases isMark : (mark == 'e' || mark == 'E') with
      | false =>
          simp only [exponentPart, isMark] at read
          cases read
      | true =>
          simp only [exponentPart, isMark, if_true] at read
          rw [List.cons_append, exponentPart]
          simp only [isMark, if_true, sign]
          split at read
          · cases read
          · cases read
            obtain ⟨taken, dropped⟩ := digits_append (exponentSign tail).2 more ended
            rw [taken, dropped]
            split
            · contradiction
            · rfl

private theorem exponentPart_other (c : Char) (tail : List Char) (noSmall : c ≠ 'e')
    (noLarge : c ≠ 'E') :
    exponentPart (c :: tail) = none := by
  simp [exponentPart, noSmall, noLarge]

/-- Without an exponent, what follows a number has no mark of one, also when the text goes on. -/
theorem exponentPart_none_append (rest more : List Char) (nonempty : rest ≠ [])
    (ends : EndsNumber rest) : exponentPart (rest ++ more) = none := by
  obtain ⟨c, tail, rfl⟩ := List.exists_cons_of_ne_nil nonempty
  obtain ⟨_, _, noSmall, noLarge⟩ := ends c rfl
  exact exponentPart_other c (tail ++ more) noSmall noLarge

theorem getD_append {α : Type} (part : Option (α × List Char)) (text more : List Char) :
    ((part.map (Prod.map id (· ++ more))).map (·.2)).getD (text ++ more) =
      (part.map (·.2)).getD text ++ more := by
  cases part <;> rfl

theorem map_fst_append {α : Type} (part : Option (α × List Char)) (more : List Char) :
    (part.map (Prod.map id (· ++ more))).map (·.1) = part.map (·.1) := by
  cases part <;> rfl

theorem exponent_append (text more : List Char) {rest : List Char}
    (isRest : ((exponentPart text).map (·.2)).getD text = rest) (nonempty : rest ≠ [])
    (ends : EndsNumber rest) :
    exponentPart (text ++ more) = (exponentPart text).map (Prod.map id (· ++ more)) ∧
      ∃ c tail, text = c :: tail ∧ c ≠ '.' := by
  cases exponent : exponentPart text with
  | none =>
      rw [exponent] at isRest
      obtain rfl : text = rest := isRest
      obtain ⟨c, tail, rfl⟩ := List.exists_cons_of_ne_nil nonempty
      exact ⟨exponentPart_none_append _ more nonempty ends, c, tail, rfl, (ends c rfl).2.1⟩
  | some found =>
      obtain ⟨power, rest'⟩ := found
      rw [exponent] at isRest
      obtain rfl : rest' = rest := isRest
      refine ⟨exponentPart_append text more exponent nonempty, ?_⟩
      cases text with
      | nil => cases exponent
      | cons c tail =>
          refine ⟨c, tail, rfl, ?_⟩
          rintro rfl
          simp [exponentPart] at exponent

theorem fraction_append (text more : List Char)
    (goesOn : ∃ c tail, ((fractionDigits text).map (·.2)).getD text = c :: tail ∧ c ≠ '.') :
    fractionDigits (text ++ more) = (fractionDigits text).map (Prod.map id (· ++ more)) ∧
      text ≠ [] := by
  obtain ⟨c, tail, isRest, noPoint⟩ := goesOn
  cases fraction : fractionDigits text with
  | none =>
      rw [fraction] at isRest
      obtain rfl : text = c :: tail := isRest
      exact ⟨fractionDigits_other c (tail ++ more) noPoint, List.cons_ne_nil c tail⟩
  | some found =>
      obtain ⟨digits, rest⟩ := found
      rw [fraction] at isRest
      obtain rfl : rest = c :: tail := isRest
      refine ⟨fractionDigits_append text more fraction (List.cons_ne_nil c tail), ?_⟩
      rintro rfl
      cases fraction

/-- A number that ends before the text does is the same in a longer text. -/
theorem readUnsigned_append (negative : Bool) (text more : List Char) {v : Value}
    {rest : List Char} (read : readUnsigned negative text = some (.ok (v, rest)))
    (nonempty : rest ≠ []) (ends : EndsNumber rest) :
    readUnsigned negative (text ++ more) = some (.ok (v, rest ++ more)) := by
  unfold readUnsigned at read ⊢
  cases whole : wholeDigits text with
  | none =>
      simp only [whole, bind, Option.bind] at read
      cases read
  | some cut =>
      obtain ⟨digits, afterWhole⟩ := cut
      simp only [whole, bind, Option.bind] at read
      have isRest : ((exponentPart (((fractionDigits afterWhole).map (·.2)).getD afterWhole)).map
          (·.2)).getD (((fractionDigits afterWhole).map (·.2)).getD afterWhole) = rest := by
        split at read
        · split at read
          · cases read
          · cases read
            rfl
        · cases read
          rfl
      obtain ⟨exponent, goesOn⟩ := exponent_append _ more isRest nonempty ends
      obtain ⟨fraction, ended⟩ := fraction_append afterWhole more goesOn
      rw [isRest] at read
      simp only [wholeDigits_append text more whole ended, bind, Option.bind, fraction, getD_append]
      simp only [exponent, getD_append, isRest, Option.isNone_map, map_fst_append]
      split at read
      · rename_i isInteger
        rw [if_pos isInteger]
        split at read
        · cases read
        · rename_i short
          cases read
          rw [if_neg short]
      · rename_i isFloat
        cases read
        rw [if_neg isFloat]

theorem numberSign_other (c : Char) (tail : List Char) (noMinus : c ≠ '-') :
    numberSign (c :: tail) = (false, c :: tail) := by
  rw [numberSign.eq_def]
  split <;> simp_all

private theorem readNumber_start {text : List Char} {outcome : Outcome Value}
    (read : readNumber text = some outcome) :
    ∃ d tail, isDigit d = true ∧ (text = d :: tail ∨ text = '-' :: d :: tail) := by
  have digitFirst : ∀ unsigned negative, readUnsigned negative unsigned = some outcome →
      ∃ d tail, isDigit d = true ∧ unsigned = d :: tail := by
    intro unsigned negative read
    unfold readUnsigned at read
    cases whole : wholeDigits unsigned with
    | none =>
        simp only [whole, bind, Option.bind] at read
        cases read
    | some cut =>
        cases unsigned with
        | nil => cases whole
        | cons c tail =>
            by_cases zero : c = '0'
            · exact ⟨c, tail, by rw [zero]; rfl, rfl⟩
            · rw [wholeDigits_cons c tail zero] at whole
              split at whole
              · rename_i digit
                exact ⟨c, tail, digit, rfl⟩
              · cases whole
  cases text with
  | nil => cases read
  | cons c tail =>
      by_cases minus : c = '-'
      · subst minus
        obtain ⟨d, rest, digit, rfl⟩ := digitFirst tail true read
        exact ⟨d, rest, digit, .inr rfl⟩
      · rw [readNumber, numberSign_other c tail minus] at read
        obtain ⟨d, rest, digit, same⟩ := digitFirst (c :: tail) false read
        exact ⟨d, rest, digit, .inl same⟩

theorem readNumber_append (text more : List Char) {v : Value} {rest : List Char}
    (read : readNumber text = some (.ok (v, rest))) (nonempty : rest ≠ [])
    (ends : EndsNumber rest) :
    readNumber (text ++ more) = some (.ok (v, rest ++ more)) := by
  cases text with
  | nil => cases read
  | cons c tail =>
      by_cases minus : c = '-'
      · subst minus
        exact readUnsigned_append true tail more read nonempty ends
      · rw [readNumber, numberSign_other c tail minus] at read
        rw [List.cons_append, readNumber, numberSign_other c (tail ++ more) minus]
        exact readUnsigned_append false (c :: tail) more read nonempty ends

def wordAt (text : List Char) (entry : String × Value) : Option (Value × List Char) :=
  if entry.1.toList.isPrefixOf text then some (entry.2, text.drop entry.1.length) else none

theorem readWord_eq (text : List Char) : readWord text = wordTable.findSome? (wordAt text) := rfl

theorem wordAt_eq_some {text : List Char} {entry : String × Value} {found : Value × List Char}
    (read : wordAt text entry = some found) :
    ∃ rest, text = entry.1.toList ++ rest ∧ found = (entry.2, rest) := by
  unfold wordAt at read
  split at read
  · rename_i start
    obtain ⟨rest, rfl⟩ := List.isPrefixOf_iff_prefix.mp start
    cases read
    exact ⟨rest, rfl, by rw [← String.length_toList, List.drop_left]⟩
  · cases read

theorem wordAt_append (entry : String × Value) (rest : List Char) :
    wordAt (entry.1.toList ++ rest) entry = some (entry.2, rest) := by
  unfold wordAt
  rw [if_pos (List.isPrefixOf_iff_prefix.mpr (List.prefix_append _ _)), ← String.length_toList,
    List.drop_left]

/-- A number is refused only for its length. -/
theorem readNumber_failure {text : List Char} {failure : Failure}
    (read : readNumber text = some (.error failure)) :
    ∃ count, failure.cause = .tooManyDigits count := by
  unfold readNumber readUnsigned at read
  cases whole : wholeDigits (numberSign text).2 with
  | none =>
      simp only [whole, bind, Option.bind] at read
      cases read
  | some cut =>
      simp only [whole, bind, Option.bind] at read
      split at read
      · split at read
        · cases read
          exact ⟨_, rfl⟩
        · cases read
      · cases read

/-- Words differ in their first characters, so at most one of them fits. -/
theorem wordTable_distinct :
    wordTable.Pairwise fun one other => one.1.toList.head? ≠ other.1.toList.head? := by
  decide

theorem readWord_append (text more : List Char) {v : Value} {rest : List Char}
    (read : readWord text = some (v, rest)) :
    readWord (text ++ more) = some (v, rest ++ more) := by
  rw [readWord_eq] at read ⊢
  obtain ⟨before, entry, after, table, fits, others⟩ := List.findSome?_eq_some_iff.mp read
  obtain ⟨rest', rfl, found⟩ := wordAt_eq_some fits
  cases found
  rw [table, List.findSome?_append]
  have none : before.findSome? (wordAt (entry.1.toList ++ rest ++ more)) = .none := by
    rw [List.findSome?_eq_none_iff]
    intro other member
    cases fits' : wordAt (entry.1.toList ++ rest ++ more) other with
    | none => rfl
    | some found =>
        obtain ⟨rest', same, _⟩ := wordAt_eq_some fits'
        have distinct := wordTable_distinct
        rw [table, List.pairwise_append] at distinct
        obtain ⟨first, _, _, start, _⟩ := wordTable_starts entry (by simp [table])
        obtain ⟨first', _, _, start', _⟩ := wordTable_starts other (by simp [table, member])
        refine absurd ?_ (distinct.2.2 other member entry (by simp))
        rw [start, start', List.cons_append, List.cons_append, List.cons_append] at same
        rw [start, start', List.head?_cons, List.head?_cons, (List.cons.inj same).1]
  rw [none, Option.none_or, List.findSome?_cons, List.append_assoc, wordAt_append]

/-! What is left of a text is the end of the text. -/

private theorem wholeDigits_suffix {text whole rest : List Char}
    (read : wholeDigits text = some (whole, rest)) : rest <:+ text := by
  cases text with
  | nil => cases read
  | cons c tail =>
      by_cases zero : c = '0'
      · subst zero
        cases read
        exact List.suffix_cons '0' rest
      · rw [wholeDigits_cons c tail zero] at read
        split at read
        · cases read
          exact (List.dropWhile_suffix isDigit).trans (List.suffix_cons c tail)
        · cases read

private theorem fractionDigits_suffix {text digits rest : List Char}
    (read : fractionDigits text = some (digits, rest)) : rest <:+ text := by
  revert read
  fun_cases fractionDigits text with
  | case1 tail none =>
      intro read
      cases read
  | case2 tail some =>
      intro read
      cases read
      exact (List.dropWhile_suffix isDigit).trans (List.suffix_cons '.' tail)
  | case3 =>
      intro read
      cases read

private theorem exponentSign_suffix (text : List Char) : (exponentSign text).2 <:+ text := by
  unfold exponentSign
  split
  · exact List.suffix_cons '-' _
  · exact List.suffix_cons '+' _
  · exact List.suffix_rfl

private theorem exponentPart_suffix {text rest : List Char} {power : Int}
    (read : exponentPart text = some (power, rest)) : rest <:+ text := by
  cases text with
  | nil => cases read
  | cons mark tail =>
      rw [exponentPart] at read
      split at read
      · simp only at read
        split at read
        · cases read
        · cases read
          have digits := List.dropWhile_suffix isDigit (l := (exponentSign tail).2)
          exact (digits.trans (exponentSign_suffix tail)).trans (List.suffix_cons mark tail)
      · cases read

private theorem readUnsigned_suffix {negative : Bool} {text rest : List Char} {v : Value}
    (read : readUnsigned negative text = some (.ok (v, rest))) : rest <:+ text := by
  unfold readUnsigned at read
  cases whole : wholeDigits text with
  | none =>
      simp only [whole, bind, Option.bind] at read
      cases read
  | some cut =>
      obtain ⟨digits, afterWhole⟩ := cut
      simp only [whole, bind, Option.bind] at read
      have first := wholeDigits_suffix whole
      have second : ((fractionDigits afterWhole).map (·.2)).getD afterWhole <:+ afterWhole := by
        cases fraction : fractionDigits afterWhole with
        | none => exact List.suffix_rfl
        | some cut => exact fractionDigits_suffix fraction
      generalize ((fractionDigits afterWhole).map (·.2)).getD afterWhole = afterFraction
        at read second
      have third : ((exponentPart afterFraction).map (·.2)).getD afterFraction <:+
          afterFraction := by
        cases exponent : exponentPart afterFraction with
        | none => exact List.suffix_rfl
        | some cut => exact exponentPart_suffix exponent
      have all := (third.trans second).trans first
      split at read
      · split at read
        · cases read
        · cases read
          exact all
      · cases read
        exact all

private theorem numberSign_suffix (text : List Char) : (numberSign text).2 <:+ text := by
  unfold numberSign
  split
  · exact List.suffix_cons '-' _
  · exact List.suffix_rfl

theorem readNumber_suffix {text rest : List Char} {v : Value}
    (read : readNumber text = some (.ok (v, rest))) : rest <:+ text := by
  have unsigned : rest <:+ (numberSign text).2 := readUnsigned_suffix read
  exact unsigned.trans (numberSign_suffix text)

theorem readWord_suffix {text rest : List Char} {v : Value}
    (read : readWord text = some (v, rest)) : rest <:+ text := by
  rw [readWord_eq] at read
  obtain ⟨entry, _, fits⟩ := List.exists_of_findSome?_eq_some read
  obtain ⟨rest', rfl, found⟩ := wordAt_eq_some fits
  cases found
  exact List.suffix_append _ _

theorem skipBlanks_suffix (text : List Char) : skipBlanks text <:+ text :=
  List.dropWhile_suffix isBlank

theorem skipBlanks_length (text : List Char) : (skipBlanks text).length ≤ text.length :=
  (skipBlanks_suffix text).length_le

theorem skipBlanks_append (text more : List Char) (nonempty : skipBlanks text ≠ []) :
    skipBlanks (text ++ more) = skipBlanks text ++ more := by
  unfold skipBlanks at nonempty ⊢
  induction text with
  | nil => exact absurd rfl nonempty
  | cons c text ih =>
      cases blank : isBlank c with
      | true =>
          rw [List.dropWhile_cons, blank, if_pos rfl] at nonempty
          simpa [blank] using ih nonempty
      | false => simp [blank]

private theorem endsNumber_of_skipBlanks {rest tail : List Char} {c : Char}
    (skipped : skipBlanks rest = c :: tail)
    (plain : isDigit c = false ∧ c ≠ '.' ∧ c ≠ 'e' ∧ c ≠ 'E') :
    rest ≠ [] ∧ EndsNumber rest := by
  cases rest with
  | nil => cases skipped
  | cons d rest =>
      refine ⟨by simp, endsNumber_cons d rest ?_⟩
      cases blank : isBlank d with
      | true =>
          simp only [isBlank, Bool.or_eq_true, beq_iff_eq] at blank
          obtain ((rfl | rfl) | rfl) | rfl := blank <;> decide
      | false =>
          rw [skipBlanks_cons d rest blank] at skipped
          cases skipped
          exact plain

/-! A text and its beginning. -/

/-- What `short` made of the beginning `text` of a longer text, `long` makes of the whole: the same
value, if the end of what has been read is `settled`, and the same complaint of too much nesting. -/
structure Extends {α : Type} (text more : List Char) (settled : List Char → Prop)
    (short long : Outcome α) : Prop where
  shorter : ∀ a rest, short = .ok (a, rest) → rest.length ≤ text.length
  same : ∀ a rest, short = .ok (a, rest) → settled rest → long = .ok (a, rest ++ more)
  deep : ∀ container remaining, short = .error ⟨.tooDeep container, remaining⟩ →
    ∃ remaining', long = .error ⟨.tooDeep container, remaining'⟩

namespace Extends

variable {α β : Type} {text more : List Char} {settled : List Char → Prop}
  {short long : Outcome α}

theorem of_ok {a : α} {rest : List Char} (shorter : rest.length ≤ text.length)
    (same : settled rest → long = .ok (a, rest ++ more)) :
    Extends text more settled (.ok (a, rest)) long := by
  refine ⟨?_, ?_, fun container remaining failed => by cases failed⟩
  · intro a' rest' read
    cases read
    exact shorter
  · intro a' rest' read atEnd
    cases read
    exact same atEnd

theorem map (extends' : Extends text more settled short long) (f : α → β) :
    Extends text more settled (short.map fun (a, rest) => (f a, rest))
      (long.map fun (a, rest) => (f a, rest)) := by
  cases short with
  | error e =>
      refine ⟨fun a rest read => (by cases read), fun a rest read => (by cases read), ?_⟩
      intro container remaining failed
      cases failed
      obtain ⟨remaining', failed'⟩ := extends'.deep container remaining rfl
      exact ⟨remaining', by rw [failed']; rfl⟩
  | ok found =>
      obtain ⟨a, rest⟩ := found
      refine of_ok (extends'.shorter a rest rfl) fun atEnd => ?_
      rw [extends'.same a rest rfl atEnd]
      rfl

theorem weaken (extends' : Extends text more settled short long) {text' : List Char}
    {settled' : List Char → Prop} (longer : text.length ≤ text'.length)
    (stronger : ∀ rest, settled' rest → settled rest) :
    Extends text' more settled' short long where
  shorter a rest read := Nat.le_trans (extends'.shorter a rest read) longer
  same a rest read atEnd := extends'.same a rest read (stronger rest atEnd)
  deep := extends'.deep

/-- A failure for another reason than nesting says nothing about the longer text. -/
theorem of_failure (failure : Failure) (failed : short = .error failure)
    (noNesting : ∀ container, failure.cause ≠ .tooDeep container) :
    Extends text more settled short long := by
  subst failed
  refine ⟨fun a rest read => (by cases read), fun a rest read => (by cases read), ?_⟩
  intro container remaining same
  cases same
  exact absurd rfl (noNesting container)

end Extends

/-- What may follow a number or a word in a text that goes on. -/
def AtEnd (rest : List Char) : Prop := rest ≠ [] ∧ EndsNumber rest

def ValuesExtend (fuel : Nat) : Prop :=
  ∀ depth text more fuel', 2 * text.length + 1 ≤ fuel → fuel ≤ fuel' →
    Extends text more AtEnd (readValue fuel depth text) (readValue fuel' depth (text ++ more))

def ItemsExtend (fuel : Nat) : Prop :=
  ∀ depth items text more fuel', 2 * text.length + 2 ≤ fuel → fuel ≤ fuel' →
    Extends text more (fun _ => True) (readItems fuel depth items text)
      (readItems fuel' depth items (text ++ more))

def EntriesExtend (fuel : Nat) : Prop :=
  ∀ depth entries text more fuel', 2 * text.length + 2 ≤ fuel → fuel ≤ fuel' →
    Extends text more (fun _ => True) (readEntries fuel depth entries text)
      (readEntries fuel' depth entries (text ++ more))

private theorem scalar_extends (fuel fuel' depth : Nat) (c : Char) (tail more : List Char)
    (noQuote : c ≠ '"') (noList : c ≠ '[') (noMap : c ≠ '\x7b') :
    Extends (c :: tail) more AtEnd (readValue (fuel + 1) depth (c :: tail))
      (readValue (fuel' + 1) depth (c :: tail ++ more)) := by
  rw [List.cons_append, readValue_scalar fuel depth c tail noQuote noList noMap,
    readValue_scalar fuel' depth c (tail ++ more) noQuote noList noMap, ← List.cons_append]
  cases word : readWord (c :: tail) with
  | some found =>
      obtain ⟨v, rest⟩ := found
      rw [readWord_append (c :: tail) more word]
      exact .of_ok (readWord_suffix word).length_le fun _ => rfl
  | none =>
      cases number : readNumber (c :: tail) with
      | none => exact .of_failure _ rfl (by simp)
      | some outcome =>
          obtain ⟨d, digits, digit, start⟩ := readNumber_start number
          have noWord : readWord (c :: tail ++ more) = none := by
            have words := readWord_of_digit d (digits ++ more) digit
            obtain start | start := start
            · rw [start]
              exact words.1
            · rw [start]
              exact words.2
          rw [noWord]
          cases outcome with
          | error failure =>
              obtain ⟨count, cause⟩ := readNumber_failure number
              exact .of_failure _ rfl (by simp [cause])
          | ok found =>
              obtain ⟨v, rest⟩ := found
              refine .of_ok (readNumber_suffix number).length_le fun atEnd => ?_
              simp only [readNumber_append (c :: tail) more number atEnd.1 atEnd.2]
              rfl

private theorem text_extends (fuel fuel' depth : Nat) (tail more : List Char)
    (settled : List Char → Prop) :
    Extends ('"' :: tail) more settled (readValue (fuel + 1) depth ('"' :: tail))
      (readValue (fuel' + 1) depth ('"' :: tail ++ more)) := by
  rw [List.cons_append, readValue, readValue]
  refine Extends.map ⟨?_, ?_, ?_⟩ Value.text
  · intro s rest read
    have := (readString_append _ 0 _ tail more read).1
    rw [List.length_cons]
    omega
  · intro s rest read _
    exact (readString_append _ _ _ tail more read).2
  · intro container remaining failed
    exact absurd failed (readString_not_tooDeep _ _ _ container remaining)

theorem readValue_nil (fuel depth : Nat) (enough : 1 ≤ fuel) :
    readValue fuel depth [] = .error ⟨.expectingValue, 0⟩ := by
  obtain ⟨fuel, rfl⟩ : ∃ n, fuel = n + 1 := ⟨fuel - 1, by omega⟩
  rw [readValue.eq_def]
  rfl

theorem readItems_nil (fuel depth : Nat) (items : List Value) (enough : 2 ≤ fuel) :
    readItems fuel depth items [] = .error ⟨.expectingValue, 0⟩ := by
  obtain ⟨fuel, rfl⟩ : ∃ n, fuel = n + 1 := ⟨fuel - 1, by omega⟩
  rw [readItems, readValue_nil fuel depth (by omega)]

theorem readEntries_nil (fuel depth : Nat) (entries : Value.Entries) (enough : 1 ≤ fuel) :
    readEntries fuel depth entries [] = .error ⟨.expectingKey, 0⟩ := by
  obtain ⟨fuel, rfl⟩ : ∃ n, fuel = n + 1 := ⟨fuel - 1, by omega⟩
  rw [readEntries.eq_def]
  rfl

/-- A list or mapping, if this holds of its parts and parts are not read from nothing. -/
theorem readEnclosed_extends {α : Type} (opening closing : Char) (empty : Value)
    (wrap : α → Value) (short long : List Char → Outcome α) (tail more : List Char)
    (settled : List Char → Prop) {failure : Failure} (nothing : short [] = .error failure)
    (noNesting : ∀ container, failure.cause ≠ .tooDeep container)
    (parts : ∀ text, text.length ≤ tail.length →
      Extends text more (fun _ => True) (short text) (long (text ++ more))) :
    Extends (opening :: tail) more settled (readEnclosed closing empty wrap short tail)
      (readEnclosed closing empty wrap long (tail ++ more)) := by
  have shorter := skipBlanks_length tail
  unfold readEnclosed
  cases skipped : skipBlanks tail with
  | nil => exact .of_failure failure (by rw [nothing]; rfl) noNesting
  | cons c rest =>
      have skipped' : skipBlanks (tail ++ more) = c :: (rest ++ more) := by
        rw [skipBlanks_append tail more (by simp [skipped]), skipped, List.cons_append]
      rw [skipped, List.length_cons] at shorter
      rw [skipped']
      simp only [List.head?_cons, List.tail_cons, Option.some.injEq]
      by_cases closed : c = closing
      · rw [if_pos closed, if_pos closed]
        exact .of_ok (by rw [List.length_cons]; omega) fun _ => rfl
      · rw [if_neg closed, if_neg closed]
        have inner := parts (c :: rest) (by rw [List.length_cons]; omega)
        refine (inner.weaken ?_ fun _ _ => trivial).map wrap
        rw [List.length_cons, List.length_cons]
        omega

theorem Extends.of_limit {α : Type} {text more : List Char} {settled : List Char → Prop}
    {container : Container} {long : Outcome α} {remaining remaining' : Nat}
    (failed : long = .error ⟨.tooDeep container, remaining'⟩) :
    Extends text more settled (.error ⟨.tooDeep container, remaining⟩) long := by
  refine ⟨fun a rest read => (by cases read), fun a rest read => (by cases read), ?_⟩
  intro container' remaining same
  cases same
  exact ⟨remaining', failed⟩

private theorem list_extends (fuel fuel' depth : Nat) (tail more : List Char)
    (settled : List Char → Prop) (enough : 2 * tail.length + 2 ≤ fuel) (larger : fuel ≤ fuel')
    (inner : ItemsExtend fuel) :
    Extends ('[' :: tail) more settled (readValue (fuel + 1) depth ('[' :: tail))
      (readValue (fuel' + 1) depth ('[' :: tail ++ more)) := by
  cases depth with
  | zero => exact .of_limit rfl
  | succ depth =>
      rw [List.cons_append, readValue_items, readValue_items]
      refine readEnclosed_extends '[' ']' _ _ _ _ tail more settled
        (readItems_nil fuel depth [] (by omega)) (by simp) ?_
      intro text short
      exact inner depth [] text more fuel' (by omega) larger

theorem map_extends (fuel fuel' depth : Nat) (tail more : List Char)
    (settled : List Char → Prop) (enough : 2 * tail.length + 2 ≤ fuel) (larger : fuel ≤ fuel')
    (inner : EntriesExtend fuel) :
    Extends ('\x7b' :: tail) more settled (readValue (fuel + 1) depth ('\x7b' :: tail))
      (readValue (fuel' + 1) depth ('\x7b' :: tail ++ more)) := by
  cases depth with
  | zero => exact .of_limit rfl
  | succ depth =>
      rw [List.cons_append, readValue_entries, readValue_entries]
      refine readEnclosed_extends '\x7b' '\x7d' _ _ _ _ tail more settled
        (readEntries_nil fuel depth [] (by omega)) (by simp) ?_
      intro text short
      exact inner depth [] text more fuel' (by omega) larger

theorem valuesExtend_succ (fuel : Nat) (items : ItemsExtend fuel) (entries : EntriesExtend fuel) :
    ValuesExtend (fuel + 1) := by
  intro depth text more fuel' enough larger
  obtain ⟨fuel', rfl⟩ : ∃ n, fuel' = n + 1 := ⟨fuel' - 1, by omega⟩
  cases text with
  | nil => exact .of_failure _ (readValue_nil (fuel + 1) depth (by omega)) (by simp)
  | cons c tail =>
      rw [List.length_cons] at enough
      by_cases quote : c = '"'
      · subst quote
        exact text_extends fuel fuel' depth tail more AtEnd
      by_cases opening : c = '['
      · subst opening
        exact list_extends fuel fuel' depth tail more AtEnd (by omega) (by omega) items
      by_cases brace : c = '\x7b'
      · subst brace
        exact map_extends fuel fuel' depth tail more AtEnd (by omega) (by omega) entries
      exact scalar_extends fuel fuel' depth c tail more quote opening brace

/-- Only where a blank, a comma or the closing sign stands can a list or mapping go on. -/
theorem readNext_atEnd {α : Type} (closing : Char) (whole : α) (further : List Char → Outcome α)
    (rest : List Char)
    (plain : isDigit closing = false ∧ closing ≠ '.' ∧ closing ≠ 'e' ∧ closing ≠ 'E') :
    AtEnd rest ∨ ∃ remaining,
      readNext closing whole further rest = .error ⟨.expectingComma, remaining⟩ := by
  unfold readNext
  split
  · rename_i first
    obtain ⟨tail, skipped⟩ := List.head?_eq_some_iff.mp first
    exact .inl (endsNumber_of_skipBlanks skipped plain)
  split
  · rename_i first
    obtain ⟨tail, skipped⟩ := List.head?_eq_some_iff.mp first
    exact .inl (endsNumber_of_skipBlanks skipped (by decide))
  · exact .inr ⟨_, rfl⟩

theorem Extends.afterBlanks {α : Type} (short long : List Char → Outcome α)
    (tail more : List Char) (settled : List Char → Prop) {failure : Failure}
    (nothing : short [] = .error failure)
    (noNesting : ∀ container, failure.cause ≠ .tooDeep container)
    (parts : ∀ text, text.length ≤ tail.length →
      Extends text more settled (short text) (long (text ++ more))) :
    Extends tail more settled (short (skipBlanks tail)) (long (skipBlanks (tail ++ more))) := by
  by_cases skipped : skipBlanks tail = []
  · rw [skipped]
    exact .of_failure _ nothing noNesting
  · rw [skipBlanks_append tail more skipped]
    exact (parts _ (skipBlanks_length tail)).weaken (skipBlanks_length tail) fun _ settled =>
      settled

private theorem readNext_extends {α : Type} (closing : Char) (whole : α)
    (short long : List Char → Outcome α) (rest more : List Char) {failure : Failure}
    (nothing : short [] = .error failure)
    (noNesting : ∀ container, failure.cause ≠ .tooDeep container)
    (parts : ∀ text, text.length < rest.length →
      Extends text more (fun _ => True) (short text) (long (text ++ more))) :
    Extends rest more (fun _ => True) (readNext closing whole short rest)
      (readNext closing whole long (rest ++ more)) := by
  have shorter := skipBlanks_length rest
  unfold readNext
  cases skipped : skipBlanks rest with
  | nil => exact .of_failure _ rfl (by simp)
  | cons c tail =>
      have skipped' : skipBlanks (rest ++ more) = c :: (tail ++ more) := by
        rw [skipBlanks_append rest more (by simp [skipped]), skipped, List.cons_append]
      rw [skipped, List.length_cons] at shorter
      rw [skipped']
      simp only [List.head?_cons, List.tail_cons, Option.some.injEq]
      by_cases closed : c = closing
      · rw [if_pos closed, if_pos closed]
        exact .of_ok (by omega) fun _ => rfl
      rw [if_neg closed, if_neg closed]
      by_cases comma : c = ','
      · rw [if_pos comma, if_pos comma]
        have next := Extends.afterBlanks short long tail more _ nothing noNesting
          fun text short => parts text (by omega)
        exact next.weaken (by omega) fun _ _ => trivial
      · rw [if_neg comma, if_neg comma]
        exact .of_failure _ rfl (by simp)

private theorem Extends.of_part {α β : Type} {text text' more : List Char}
    {settled settled' : List Char → Prop} {short long : Outcome α} {result : Outcome β}
    {failure : Failure} (part : Extends text more settled short long)
    (failed : short = .error failure) (passes : ∀ e, long = .error e → result = .error e) :
    Extends text' more settled' (.error failure) result := by
  refine ⟨fun a rest read => (by cases read), fun a rest read => (by cases read), ?_⟩
  intro container remaining same
  cases same
  obtain ⟨remaining', failed'⟩ := part.deep container remaining failed
  exact ⟨remaining', passes _ failed'⟩

theorem Extends.andNext {α : Type} (closing : Char) (whole : Value → α)
    (short long : Value → List Char → Outcome α) {text more : List Char}
    {value value' : Outcome Value} (failure : Failure)
    (plain : isDigit closing = false ∧ closing ≠ '.' ∧ closing ≠ 'e' ∧ closing ≠ 'E')
    (part : Extends text more AtEnd value value')
    (nothing : text ≠ [] → ∀ v, short v [] = .error failure)
    (noNesting : ∀ container, failure.cause ≠ .tooDeep container)
    (parts : ∀ v text', text'.length < text.length →
      Extends text' more (fun _ => True) (short v text') (long v (text' ++ more))) :
    Extends text more (fun _ => True)
      (value.bind fun found => readNext closing (whole found.1) (short found.1) found.2)
      (value'.bind fun found => readNext closing (whole found.1) (long found.1) found.2) := by
  cases read : value with
  | error failure =>
      exact part.of_part read fun e failed => by
        rw [failed]
        rfl
  | ok found =>
      obtain ⟨v, rest⟩ := found
      have shorter := part.shorter v rest read
      obtain atEnd | ⟨remaining, failed⟩ := readNext_atEnd closing (whole v) (short v) rest plain
      · have nonempty := List.length_pos_iff.mpr atEnd.1
        have fails := nothing (List.length_pos_iff.mp (by omega)) v
        rw [part.same v rest read atEnd]
        refine (readNext_extends closing (whole v) (short v) (long v) rest more fails noNesting
          ?_).weaken shorter fun _ _ => trivial
        intro text' shorter'
        exact parts v text' (by omega)
      · exact .of_failure _ failed (by simp)

theorem itemsExtend_succ (fuel : Nat) (values : ValuesExtend fuel) (items : ItemsExtend fuel) :
    ItemsExtend (fuel + 1) := by
  intro depth done text more fuel' enough larger
  obtain ⟨fuel', rfl⟩ : ∃ n, fuel' = n + 1 := ⟨fuel' - 1, by omega⟩
  rw [readItems_succ, readItems_succ]
  refine Extends.andNext ']' (fun v => (v :: done).reverse)
    (fun v => readItems fuel depth (v :: done)) (fun v => readItems fuel' depth (v :: done))
    ⟨.expectingValue, 0⟩ (by decide)
    (values depth text more fuel' (by omega) (by omega)) ?_ (by simp) ?_
  · intro nonempty v
    have := List.length_pos_iff.mpr nonempty
    exact readItems_nil fuel depth (v :: done) (by omega)
  · intro v text' shorter
    exact items depth (v :: done) text' more fuel' (by omega) (by omega)

private theorem readAfterKey_extends (fuel fuel' depth : Nat) (done : Value.Entries) (key : String)
    (rest more : List Char) (values : ValuesExtend fuel) (entries : EntriesExtend fuel)
    (enough : 2 * rest.length + 2 ≤ fuel) (larger : fuel ≤ fuel') :
    Extends rest more (fun _ => True) (readAfterKey fuel depth done key rest)
      (readAfterKey fuel' depth done key (rest ++ more)) := by
  have shorter := skipBlanks_length rest
  unfold readAfterKey
  cases skipped : skipBlanks rest with
  | nil => exact .of_failure _ rfl (by simp)
  | cons c tail =>
      have skipped' : skipBlanks (rest ++ more) = c :: (tail ++ more) := by
        rw [skipBlanks_append rest more (by simp [skipped]), skipped, List.cons_append]
      rw [skipped, List.length_cons] at shorter
      rw [skipped']
      simp only [List.head?_cons, List.tail_cons, Option.some.injEq]
      by_cases colon : c = ':'
      · rw [if_pos colon, if_pos colon]
        have value := Extends.afterBlanks (readValue fuel depth) (readValue fuel' depth) tail more
          AtEnd (readValue_nil fuel depth (by omega)) (by simp) fun text short =>
            values depth text more fuel' (by omega) larger
        refine Extends.weaken (Extends.andNext '\x7d' (done.put (.text key))
          (fun v => readEntries fuel depth (done.put (.text key) v))
          (fun v => readEntries fuel' depth (done.put (.text key) v)) ⟨.expectingKey, 0⟩
          (by decide) value ?_ (by simp) ?_) (by omega) fun _ _ => trivial
        · intro _ v
          exact readEntries_nil fuel depth (done.put (.text key) v) (by omega)
        · intro v text' shorter'
          exact entries depth (done.put (.text key) v) text' more fuel' (by omega) larger
      · rw [if_neg colon, if_neg colon]
        exact .of_failure _ rfl (by simp)

theorem entriesExtend_succ (fuel : Nat) (values : ValuesExtend fuel)
    (entries : EntriesExtend fuel) : EntriesExtend (fuel + 1) := by
  intro depth done text more fuel' enough larger
  obtain ⟨fuel', rfl⟩ : ∃ n, fuel' = n + 1 := ⟨fuel' - 1, by omega⟩
  cases text with
  | nil => exact .of_failure _ (readEntries_nil (fuel + 1) depth done (by omega)) (by simp)
  | cons c tail =>
      rw [List.length_cons] at enough
      by_cases quote : c = '"'
      · subst quote
        rw [List.cons_append, readEntries_succ, readEntries_succ]
        cases read : readString (tail.length + 1) ⟨[], none⟩ tail with
        | error failure =>
            refine .of_failure failure rfl ?_
            intro container nested
            obtain ⟨cause, remaining⟩ := failure
            cases nested
            exact readString_not_tooDeep _ _ _ container remaining read
        | ok found =>
            obtain ⟨key, rest⟩ := found
            obtain ⟨shorter, read'⟩ := readString_append _ ((tail ++ more).length + 1) _ tail more
              read
            rw [read']
            refine (readAfterKey_extends fuel fuel' depth done key rest more values entries
              (by omega) (by omega)).weaken ?_ fun _ _ => trivial
            rw [List.length_cons]
            omega
      · refine .of_failure _ (readEntries_noKey fuel depth done ?_) (by simp)
        rw [List.head?_cons, ne_eq, Option.some.injEq]
        exact quote

/-- The reader makes of a text what it made of its beginning. -/
theorem reader_extends (fuel : Nat) :
    ValuesExtend fuel ∧ ItemsExtend fuel ∧ EntriesExtend fuel := by
  induction fuel with
  | zero =>
      refine ⟨?_, ?_, ?_⟩
      · intro depth text more fuel' enough
        omega
      · intro depth items text more fuel' enough
        omega
      · intro depth entries text more fuel' enough
        omega
  | succ fuel ih =>
      obtain ⟨values, items, entries⟩ := ih
      exact ⟨valuesExtend_succ fuel items entries, itemsExtend_succ fuel values items,
        entriesExtend_succ fuel values entries⟩

private theorem writeValue_map_start (style : Style) (level : Nat) (entries : Value.Entries) :
    ∃ tail, writeValue style level (.map entries) = '\x7b' :: tail := by
  rw [writeValue, enclosed.eq_def]
  split
  · exact ⟨_, rfl⟩
  · exact ⟨_, rfl⟩

/-- No proper beginning of a written mapping is read as a value, and none is nested too deep. -/
theorem readChars_truncated (style : Style) {entries : Value.Entries}
    (document : Document maxDepth (.map entries)) (text more : List Char)
    (written : writeValue style 0 (.map entries) = text ++ more) (lost : more ≠ []) :
    ∃ failure, readChars text = .error failure ∧
      ∀ container, failure.cause ≠ .tooDeep container := by
  cases text with
  | nil => exact ⟨⟨.expectingValue, 0⟩, rfl, by simp⟩
  | cons c tail =>
      obtain ⟨tail', start⟩ := writeValue_map_start style 0 entries
      have brace : c = '\x7b' := by
        rw [start, List.cons_append] at written
        exact (List.cons.inj written).1.symm
      subst brace
      have back := readsBack style document 0 (2 * ('\x7b' :: tail ++ more).length + 2) []
        (by rw [written]; simp) (by intro c member; cases member)
      rw [List.append_nil, written] at back
      have part := map_extends (2 * tail.length + 3) (2 * ('\x7b' :: tail ++ more).length + 1)
        maxDepth tail more (fun _ => True) (by omega)
        (by simp only [List.length_append, List.length_cons]; omega)
        (reader_extends (2 * tail.length + 3)).2.2
      have unfolded := readChars_cons '\x7b' tail (by decide) (by decide)
      rw [show 2 * ('\x7b' :: tail).length + 2 = 2 * tail.length + 3 + 1 from rfl] at unfolded
      cases read : readValue (2 * tail.length + 3 + 1) maxDepth ('\x7b' :: tail) with
      | error failure =>
          refine ⟨failure, by rw [unfolded, read], ?_⟩
          intro container nested
          obtain ⟨cause, remaining⟩ := failure
          cases nested
          obtain ⟨remaining', failed⟩ := part.deep container remaining read
          cases writable : (Value.map entries).isWritable with
          | true =>
              have whole := back.whole writable
              rw [failed] at whole
              cases whole
          | false =>
              obtain ⟨count, tooLong⟩ := back.tooLong writable
              rw [failed] at tooLong
              cases tooLong
      | ok found =>
          obtain ⟨v, rest⟩ := found
          have same := part.same v rest read trivial
          cases writable : (Value.map entries).isWritable with
          | true =>
              have whole := back.whole writable
              rw [same] at whole
              have ended : rest ++ more = [] := (Prod.mk.inj (Except.ok.inj whole)).2
              exact absurd (List.append_eq_nil_iff.mp ended).2 lost
          | false =>
              obtain ⟨count, tooLong⟩ := back.tooLong writable
              rw [same] at tooLong
              cases tooLong

end MobileAudit.Json
