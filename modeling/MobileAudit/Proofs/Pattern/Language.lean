import MobileAudit.Pattern.Match

namespace MobileAudit.Pattern

/-! Patterns as sets of texts.  A pattern that remembers nothing is known by the texts that it may
take, given what stands before and after them: it succeeds exactly if the rest does after one of
them.  One that does not look around itself either is known by these texts alone. -/

/-- The point after a text has been passed over, with `rest` ahead. -/
def Point.past (p : Point) (taken rest : List Char) : Point :=
  { p with offset := p.offset + taken.length, before := taken.reverse ++ p.before, after := rest }

@[simp] theorem Point.after_past (p : Point) (taken rest : List Char) :
    (p.past taken rest).after = rest := rfl

theorem Point.past_nil {p : Point} {rest : List Char} (ahead : p.after = rest) :
    p.past [] rest = p := by
  subst ahead
  rfl

theorem Point.past_past (p : Point) (first second middle rest : List Char) :
    (p.past first middle).past second rest = p.past (first ++ second) rest := by
  simp only [past, List.length_append, List.reverse_append, List.append_assoc, Nat.add_assoc]

/-! Members of sets of characters. -/

namespace CharSet

theorem contains_union {left right : CharSet}
    (plainLeft : left.complement = false ∧ left.anyCase = false)
    (plainRight : right.complement = false ∧ right.anyCase = false) (c : Char) :
    (left ∪ right).contains c = (left.contains c || right.contains c) := by
  simp [contains, Union.union, union, plainLeft, plainRight]

@[simp] theorem contains_ofChars (text : String) (c : Char) :
    (ofChars text).contains c = text.toList.contains c := by
  rw [Bool.eq_iff_iff, List.contains_iff_mem]
  simp [contains, ofChars, CharItem.contains]

@[simp] theorem contains_space (c : Char) : space.contains c = Text.isSpace c := by
  simp [contains, space, CharItem.contains]

@[simp] theorem contains_upper (c : Char) : upper.contains c = Text.isAsciiUpper c :=
  contains_range 'A' 'Z' c

@[simp] theorem contains_lower (c : Char) : lower.contains c = Text.isAsciiLower c :=
  contains_range 'a' 'z' c

theorem contains_digits (c : Char) : (range '0' '9').contains c = Text.isAsciiDigit c :=
  contains_range '0' '9' c

end CharSet

@[simp] theorem contains_except_one (x c : Char) :
    (CharSet.one x).except.contains c = true ↔ c ≠ x := by
  have isOne : (CharSet.one x).except.contains c = !(x == c) := by
    simp [CharSet.contains, CharSet.one, CharSet.except, CharItem.contains]
  rw [isOne, Bool.not_eq_true', beq_eq_false_iff_ne, ne_comm]

/-! Runs of patterns. -/

section

variable (k : Continuation) (p : Point)

theorem runAt_empty : Pattern.empty.runAt k p = k p := rfl

theorem runAt_set (chars : CharSet) :
    (Pattern.set chars).runAt k p =
      match p.after with
      | c :: rest => if chars.contains c then k (p.step c rest) else none
      | [] => none := rfl

private theorem runAt_seq (first second : Pattern) :
    (first ++ second).runAt k p = first.runAt (fun q => second.runAt k q) p := rfl

private theorem runAt_alt (first second : Pattern) :
    (Pattern.alt first second).runAt k p =
      (first.runAt k p).orElse fun _ => second.runAt k p := rfl

private theorem runAt_run (chars : CharSet) (least : Nat) (most : Option Nat) :
    (Pattern.run chars least most false).runAt k p =
      ((p.reach chars most).take ((p.reach chars most).length - least)).findSome? k := rfl

private theorem runAt_textStart :
    Pattern.textStart.runAt k p = if p.before.isEmpty then k p else none := rfl

private theorem runAt_textEnd : Pattern.textEnd.runAt k p = if p.atTextEnd then k p else none := rfl

end

/-! Texts in their surroundings. -/

/-- At a point a pattern may take a text if the reading holds of what precedes the text, nearest
character first, of the text and of what follows it, and only then. -/
def ReadsAt (p : Point) (pattern : Pattern)
    (reading : List Char → List Char → List Char → Prop) : Prop :=
  ∀ k : Continuation,
    (pattern.runAt k p).isSome = true ↔
      ∃ taken rest, p.after = taken ++ rest ∧ reading p.before taken rest ∧
        (k (p.past taken rest)).isSome = true

theorem ReadsAt.seq {p : Point} {first second : Pattern}
    {left right : List Char → List Char → List Char → Prop} (readsFirst : ReadsAt p first left)
    (readsSecond : ∀ u rest, p.after = u ++ rest → ReadsAt (p.past u rest) second right) :
    ReadsAt p (first ++ second) fun before taken rest =>
      ∃ u v, taken = u ++ v ∧ left before u (v ++ rest) ∧ right (u.reverse ++ before) v rest := by
  intro k
  rw [runAt_seq, readsFirst _]
  constructor
  · rintro ⟨u, middle, ahead, isLeft, success⟩
    obtain ⟨v, rest, ahead', isRight, success⟩ := (readsSecond u middle ahead k).mp success
    rw [Point.after_past] at ahead'
    subst ahead'
    refine ⟨u ++ v, rest, by rw [ahead, List.append_assoc], ⟨u, v, rfl, isLeft, isRight⟩, ?_⟩
    rwa [Point.past_past] at success
  · rintro ⟨_, rest, ahead, ⟨u, v, rfl, isLeft, isRight⟩, success⟩
    rw [List.append_assoc] at ahead
    refine ⟨u, v ++ rest, ahead, isLeft, ?_⟩
    refine (readsSecond u _ ahead k).mpr ⟨v, rest, rfl, isRight, ?_⟩
    rwa [Point.past_past]

theorem isSome_orElse {α : Type} (first : Option α) (second : Unit → Option α) :
    (first.orElse second).isSome = true ↔ first.isSome = true ∨ (second ()).isSome = true := by
  cases first with
  | none => exact ⟨.inr, fun found => found.resolve_left Bool.false_ne_true⟩
  | some a => exact ⟨fun _ => .inl rfl, fun _ => rfl⟩

theorem ReadsAt.alt {p : Point} {first second : Pattern}
    {left right : List Char → List Char → List Char → Prop} (readsFirst : ReadsAt p first left)
    (readsSecond : ReadsAt p second right) :
    ReadsAt p (.alt first second) fun before taken rest =>
      left before taken rest ∨ right before taken rest := by
  intro k
  rw [runAt_alt, isSome_orElse, readsFirst k, readsSecond k]
  constructor
  · rintro (⟨taken, rest, ahead, isLeft, success⟩ | ⟨taken, rest, ahead, isRight, success⟩)
    · exact ⟨taken, rest, ahead, .inl isLeft, success⟩
    · exact ⟨taken, rest, ahead, .inr isRight, success⟩
  · rintro ⟨taken, rest, ahead, isLeft | isRight, success⟩
    · exact .inl ⟨taken, rest, ahead, isLeft, success⟩
    · exact .inr ⟨taken, rest, ahead, isRight, success⟩

/-- A pattern that reads the same texts at all points. -/
def Reads (pattern : Pattern) (reading : List Char → List Char → List Char → Prop) : Prop :=
  ∀ p : Point, ReadsAt p pattern reading

theorem Reads.congr {pattern : Pattern} {reading other : List Char → List Char → List Char → Prop}
    (reads : Reads pattern reading)
    (same : ∀ before taken rest, reading before taken rest ↔ other before taken rest) :
    Reads pattern other := by
  intro p k
  simp only [reads p k, same]

/-- A pattern that takes nothing and succeeds at some points only. -/
theorem Reads.of_runAt {pattern other : Pattern}
    {reading : List Char → List Char → List Char → Prop} (reads : Reads other reading)
    (same : ∀ k p, pattern.runAt k p = other.runAt k p) : Reads pattern reading := by
  intro p k
  rw [same]
  exact reads p k

theorem reads_nothing {pattern : Pattern} {here : List Char → List Char → Prop}
    (opened : ∀ (k : Continuation) (p : Point), (pattern.runAt k p).isSome = true ↔
      here p.before p.after ∧ (k p).isSome = true) :
    Reads pattern fun before taken rest => taken = [] ∧ here before rest := by
  intro p k
  rw [opened]
  constructor
  · rintro ⟨isHere, success⟩
    exact ⟨[], p.after, rfl, ⟨rfl, isHere⟩, by rwa [Point.past_nil rfl]⟩
  · rintro ⟨_, rest, ahead, ⟨rfl, isHere⟩, success⟩
    rw [List.nil_append] at ahead
    rw [Point.past_nil ahead] at success
    exact ⟨ahead ▸ isHere, success⟩

theorem reads_empty : Reads .empty fun _ taken _ => taken = [] := by
  have always : Reads .empty fun _ taken _ => taken = [] ∧ True :=
    reads_nothing fun k p => by simp [runAt_empty]
  exact always.congr fun _ _ _ => and_iff_left trivial

theorem reads_textStart : Reads .textStart fun before taken _ => taken = [] ∧ before = [] :=
  reads_nothing fun k p => by
    rw [runAt_textStart]
    cases p.before <;> simp

theorem reads_textEnd :
    Reads .textEnd fun _ taken rest => taken = [] ∧ (rest = [] ∨ rest = ['\n']) :=
  reads_nothing fun k p => by
    rw [runAt_textEnd, Point.atTextEnd]
    split <;> simp_all

theorem reads_set (chars : CharSet) :
    Reads (.set chars) fun _ taken _ => ∃ c, taken = [c] ∧ chars.contains c = true := by
  intro p k
  rw [runAt_set]
  constructor
  · intro success
    split at success
    · rename_i c rest ahead
      split at success
      · rename_i member
        exact ⟨[c], rest, ahead, ⟨c, rfl, member⟩, success⟩
      · cases success
    · cases success
  · rintro ⟨_, rest, ahead, ⟨c, rfl, member⟩, success⟩
    rw [ahead]
    simp only [List.singleton_append, member, if_true]
    exact success

theorem reads_seq {first second : Pattern} {left right : List Char → List Char → List Char → Prop}
    (readsFirst : Reads first left) (readsSecond : Reads second right) :
    Reads (first ++ second) fun before taken rest =>
      ∃ u v, taken = u ++ v ∧ left before u (v ++ rest) ∧ right (u.reverse ++ before) v rest :=
  fun p => (readsFirst p).seq fun _ _ _ => readsSecond _

theorem reads_alt {first second : Pattern} {left right : List Char → List Char → List Char → Prop}
    (readsFirst : Reads first left) (readsSecond : Reads second right) :
    Reads (.alt first second) fun before taken rest =>
      left before taken rest ∨ right before taken rest :=
  fun p => (readsFirst p).alt (readsSecond p)

/-- How many characters of a set begin a text, up to a bound. -/
def width (chars : CharSet) (most : Option Nat) : List Char → Nat
  | [] => 0
  | c :: rest =>
      if most == some 0 || !chars.contains c then 0 else width chars (most.map (· - 1)) rest + 1

theorem le_width_iff {chars : CharSet} {most : Option Nat} {text : List Char} {n : Nat} :
    n ≤ width chars most text ↔
      n ≤ text.length ∧ (∀ c ∈ text.take n, chars.contains c = true) ∧ ∀ b ∈ most, n ≤ b := by
  induction text generalizing most n with
  | nil => cases n <;> simp [width]
  | cons c rest ih =>
      cases n with
      | zero => simp
      | succ n =>
          rw [width]
          cases member : chars.contains c with
          | false => simp [member]
          | true =>
              cases most with
              | none => simp [ih, member]
              | some b =>
                  cases b with
                  | zero => simp
                  | succ b => simp [ih, member, and_comm, and_left_comm]

theorem reachOnto_eq (chars : CharSet) (groups : List (Nat × Capture)) (text : List Char)
    (offset : Nat) (before : List Char) (most : Option Nat) (reached : List Point) :
    Point.reachOnto chars offset before most groups reached text =
      (List.range (width chars most text + 1)).reverse.map (fun n =>
        Point.past ⟨offset, before, text, groups⟩ (text.take n) (text.drop n)) ++ reached := by
  induction text generalizing offset before most reached with
  | nil => rfl
  | cons c rest ih =>
      rw [Point.reachOnto, width]
      split
      · simp [Point.past]
      · rw [ih, List.range_succ_eq_map (n := width _ _ _ + 1)]
        simp [Point.past, Nat.add_comm 1, Nat.add_assoc, Function.comp_def]

theorem reads_run (chars : CharSet) (least : Nat) (most : Option Nat) :
    Reads (run chars least most false) fun _ taken _ =>
      least ≤ taken.length ∧ (∀ b ∈ most, taken.length ≤ b) ∧
        ∀ c ∈ taken, chars.contains c = true := by
  intro p k
  rw [runAt_run, Point.reach, reachOnto_eq, List.append_nil, List.length_map, List.length_reverse,
    List.length_range, ← List.map_take, List.take_reverse, List.length_range,
    List.findSome?_isSome_iff]
  have inRange (n : Nat) : n ∈ (List.range (width chars most p.after + 1)).drop
        (width chars most p.after + 1 - (width chars most p.after + 1 - least)) ↔
      least ≤ n ∧ n ≤ width chars most p.after := by
    rw [List.range_eq_range', List.drop_range', List.mem_range'_1]
    omega
  simp only [List.mem_map, List.mem_reverse, inRange, le_width_iff]
  constructor
  · rintro ⟨_, ⟨n, ⟨enough, inText, each, bounded⟩, rfl⟩, success⟩
    refine ⟨p.after.take n, p.after.drop n, (List.take_append_drop n _).symm, ?_, success⟩
    rw [List.length_take_of_le inText]
    exact ⟨enough, bounded, each⟩
  · rintro ⟨taken, rest, ahead, ⟨enough, bounded, each⟩, success⟩
    refine ⟨_, ⟨taken.length, ⟨enough, ?_, ?_, bounded⟩, rfl⟩, ?_⟩
    · simp [ahead]
    · simpa [ahead] using each
    · simpa [ahead, Point.past] using success

theorem reads_many (chars : CharSet) :
    Reads chars.many fun _ taken _ => ∀ c ∈ taken, chars.contains c = true :=
  (reads_run chars 0 none).congr fun _ _ _ => by simp

theorem reads_some (chars : CharSet) :
    Reads chars.some fun _ taken _ => taken ≠ [] ∧ ∀ c ∈ taken, chars.contains c = true :=
  (reads_run chars 1 none).congr fun _ taken _ => by
    simp [Nat.succ_le_iff, List.length_pos_iff]

theorem reads_atMost_one (c : Char) :
    Reads ((CharSet.one c).atMost 1) fun _ taken _ => taken = [] ∨ taken = [c] := by
  refine (reads_run (.one c) 0 (some 1)).congr fun _ taken _ => ?_
  match taken with
  | [] => simp
  | [d] => simp [eq_comm (a := c)]
  | d :: e :: rest => simp

theorem reads_manyExcept (x : Char) :
    Reads (CharSet.one x).except.many fun _ taken _ => x ∉ taken := by
  refine (reads_many _).congr fun _ taken _ => ⟨?_, ?_⟩
  · intro each isIn
    exact (contains_except_one x x).mp (each x isIn) rfl
  · intro apart c isIn
    rw [contains_except_one]
    rintro rfl
    exact apart isIn

theorem reads_one (c : Char) : Reads (.set (.one c)) fun _ taken _ => taken = [c] := by
  refine (reads_set (.one c)).congr fun _ taken _ => ⟨?_, ?_⟩
  · rintro ⟨d, rfl, member⟩
    rw [CharSet.contains_one, beq_iff_eq] at member
    rw [member]
  · rintro rfl
    exact ⟨c, rfl, by rw [CharSet.contains_one, beq_self_eq_true]⟩

theorem reads_ofChars (text : List Char) : Reads (ofChars text) fun _ taken _ => taken = text := by
  induction text with
  | nil => exact reads_empty
  | cons c text ih =>
      cases text with
      | nil => exact reads_one c
      | cons d text =>
          refine (reads_seq (reads_one c) ih).congr fun _ taken _ => ⟨?_, ?_⟩
          · rintro ⟨_, _, rfl, rfl, rfl⟩
            rfl
          · rintro rfl
            exact ⟨[c], d :: text, rfl, rfl, rfl⟩

theorem reads_lit (text : String) : Reads (lit text) fun _ taken _ => taken = text.toList :=
  reads_ofChars text.toList

theorem reads_notAfter (chars : CharSet) : Reads (.notAfter chars) fun before taken _ =>
    taken = [] ∧ ∀ c ∈ before.head?, chars.contains c = false :=
  reads_nothing fun k p => by
    rw [runAt]
    cases p.before.head? with
    | none => simp
    | some c => cases member : chars.contains c <;> simp [member]

theorem reads_notBefore_set (chars : CharSet) : Reads (.notBefore (.set chars))
    fun _ taken rest => taken = [] ∧ ∀ c ∈ rest.head?, chars.contains c = false :=
  reads_nothing fun k p => by
    rw [runAt, runAt_set]
    cases p.after with
    | nil => simp
    | cons c rest => cases member : chars.contains c <;> simp [member]

/-! Texts in a text of one line. -/

/-- A way to go on after taking a text of a language. -/
def GoesOn (language : List Char → Prop) (k : Continuation) (p : Point) : Prop :=
  ∃ taken rest, p.after = taken ++ rest ∧ language taken ∧ (k (p.past taken rest)).isSome = true

/-- In a text of one line, a pattern may take the texts of a language and no others. -/
def Takes (pattern : Pattern) (language : List Char → Prop) : Prop :=
  ∀ (k : Continuation) (p : Point), '\n' ∉ p.after →
    ((pattern.runAt k p).isSome = true ↔ GoesOn language k p)

theorem Reads.takes {pattern : Pattern} {language : List Char → Prop}
    (reads : Reads pattern fun _ taken _ => language taken) : Takes pattern language :=
  fun k p _ => reads p k

theorem Takes.readsAt {pattern : Pattern} {language : List Char → Prop}
    (takes : Takes pattern language) {p : Point} (oneLine : '\n' ∉ p.after) :
    ReadsAt p pattern fun _ taken _ => language taken :=
  fun k => takes k p oneLine

theorem Takes.congr {pattern : Pattern} {language other : List Char → Prop}
    (takes : Takes pattern language)
    (same : ∀ text, '\n' ∉ text → (language text ↔ other text)) : Takes pattern other := by
  intro k p oneLine
  rw [takes k p oneLine]
  constructor
  · rintro ⟨taken, rest, ahead, isIn, success⟩
    have inLine : '\n' ∉ taken := fun member => oneLine (by simp [ahead, member])
    exact ⟨taken, rest, ahead, (same taken inLine).mp isIn, success⟩
  · rintro ⟨taken, rest, ahead, isIn, success⟩
    have inLine : '\n' ∉ taken := fun member => oneLine (by simp [ahead, member])
    exact ⟨taken, rest, ahead, (same taken inLine).mpr isIn, success⟩

theorem takes_empty : Takes .empty (· = []) := reads_empty.takes

theorem takes_set (chars : CharSet) :
    Takes (.set chars) fun text => ∃ c, text = [c] ∧ chars.contains c = true :=
  (reads_set chars).takes

theorem takes_seq {first second : Pattern} {left right : List Char → Prop}
    (takesFirst : Takes first left) (takesSecond : Takes second right) :
    Takes (first ++ second) fun text => ∃ u v, text = u ++ v ∧ left u ∧ right v := by
  intro k p oneLine
  refine (takesFirst.readsAt oneLine).seq (fun u rest ahead => takesSecond.readsAt ?_) k
  intro member
  exact oneLine (by rw [ahead]; exact List.mem_append_right u member)

private theorem takes_alt {first second : Pattern} {left right : List Char → Prop}
    (takesFirst : Takes first left) (takesSecond : Takes second right) :
    Takes (.alt first second) fun text => left text ∨ right text :=
  fun k _ oneLine => (takesFirst.readsAt oneLine).alt (takesSecond.readsAt oneLine) k

theorem takes_optional {body : Pattern} {language : List Char → Prop}
    (takes : Takes body language) : Takes (optional body) fun text => text = [] ∨ language text :=
  (takes_alt takes takes_empty).congr fun _ _ => or_comm

theorem takes_one (c : Char) : Takes (.set (.one c)) (· = [c]) := (reads_one c).takes

theorem takes_line : Takes CharSet.notNewline.many fun _ => True :=
  (reads_manyExcept '\n').takes.congr fun _ oneLine => ⟨fun _ => trivial, fun _ => oneLine⟩

end MobileAudit.Pattern
