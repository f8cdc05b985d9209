import MobileAudit.Proofs.Naming.Segmentation

namespace MobileAudit.Naming

/-! Lists of words written as names in the usual styles, and read back. -/

/-- Two or more small letters and then any number of digits. -/
def IsWord (word : List Char) : Prop :=
  ∃ letters digits, word = letters ++ digits ∧ 2 ≤ letters.length ∧
    (∀ c ∈ letters, Text.isAsciiLower c = true) ∧ ∀ c ∈ digits, Text.isAsciiDigit c = true

inductive Style where
  | camel
  | pascal
  | snake
  | kebab
  | dotted
  | constant
deriving DecidableEq

def capitalised : List Char → List Char
  | [] => []
  | c :: rest => c.toUpper :: rest

namespace Style

def write : Style → List (List Char) → List Char
  | camel, [] => []
  | camel, word :: more => word ++ more.flatMap capitalised
  | pascal, words => words.flatMap capitalised
  | snake, words => Text.joinWith ['_'] words
  | kebab, words => Text.joinWith ['-'] words
  | dotted, words => Text.joinWith ['.'] words
  | constant, words => Text.joinWith ['_'] (words.map (·.map Char.toUpper))

/-- The name that a list of words has in a style. -/
def render (style : Style) (words : List String) : String :=
  String.ofList (style.write (words.map String.toList))

end Style

/-! Characters of words. -/

theorem toUpper_of_lower {c : Char} (small : Text.isAsciiLower c = true) :
    Text.isAsciiUpper c.toUpper = true ∧ Text.lowerChar c.toUpper = c := by
  have letters : ∀ code < 123, Text.isAsciiLower (Char.ofNat code) = true →
      Text.isAsciiUpper (Char.ofNat code).toUpper = true ∧
        Text.lowerChar (Char.ofNat code).toUpper = Char.ofNat code := by
    decide +kernel
  have bound := (Text.isAsciiLower_iff.mp small).2
  have letter := letters c.toNat (by omega)
  rw [Char.ofNat_toNat] at letter
  exact letter small

theorem toUpper_of_digit {c : Char} (digit : Text.isAsciiDigit c = true) : c.toUpper = c := by
  have digits : ∀ code < 58, Text.isAsciiDigit (Char.ofNat code) = true →
      (Char.ofNat code).toUpper = Char.ofNat code := by
    decide +kernel
  have bound := (Text.isAsciiDigit_iff.mp digit).2
  have fixed := digits c.toNat (by omega)
  rw [Char.ofNat_toNat] at fixed
  exact fixed digit

theorem isAlnum_of_smallOrDigit {c : Char} (plain : isSmallOrDigit c = true) :
    Text.isAsciiAlnum c = true := by
  rw [isSmallOrDigit, Bool.or_eq_true] at plain
  exact Text.isAsciiAlnum_iff.mpr (plain.imp_right .inr)

theorem isUpper_of_smallOrDigit {c : Char} (plain : isSmallOrDigit c = true) :
    Text.isAsciiUpper c = false := by
  rw [← Bool.not_eq_true]
  intro capital
  rw [isSmallOrDigit_of_upper capital] at plain
  contradiction

theorem lowerChar_of_smallOrDigit {c : Char} (plain : isSmallOrDigit c = true) :
    Text.lowerChar c = c := by
  rw [Text.lowerChar, if_pos (Text.toNat_lt_of_alnum (isAlnum_of_smallOrDigit plain)),
    isUpper_of_smallOrDigit plain]
  rfl

theorem IsWord.smallOrDigit {word : List Char} (isWord : IsWord word) :
    ∀ c ∈ word, isSmallOrDigit c = true := by
  obtain ⟨letters, digits, rfl, _, small, each⟩ := isWord
  intro c member
  rw [isSmallOrDigit, Bool.or_eq_true]
  exact (List.mem_append.mp member).imp (small c) (each c)

/-! Words stay whole. -/

theorem endsWord_of_not_upper (c : Char) {d : Char} (small : Text.isAsciiUpper d = false)
    (rest : List Char) : endsWord (c :: d :: rest) = false := by
  cases rest <;> simp [endsWord, beginsCamel, beginsAcronym, small]

theorem chop_of_not {c : Char} {rest : List Char} (plain : isSeparator c = false)
    (inside : endsWord (c :: rest) = false) :
    chop (c :: rest) = (chop rest).modifyHead (c :: ·) := by
  rw [chop, plain, inside]
  rfl

theorem chop_word {word rest : List Char} {more : List (List Char)} (some : word ≠ [])
    (plain : ∀ c ∈ word, isSeparator c = false)
    (whole : ∀ before c d after, word = before ++ c :: d :: after →
      endsWord (c :: d :: (after ++ rest)) = false)
    (close : ∀ c, word.getLast? = .some c → chop (c :: rest) = [c] :: more) :
    chop (word ++ rest) = word :: more := by
  induction word with
  | nil => exact absurd rfl some
  | cons c word ih =>
      cases word with
      | nil => exact close c rfl
      | cons d word =>
          have onward := ih (by simp) (fun x member => plain x (by simp [member]))
            (fun before x y after split => whole (c :: before) x y after (by rw [split]; rfl))
            (fun x last => close x (by simpa using last))
          refine (chop_of_not (plain c (by simp)) (whole [] c d word rfl)).trans ?_
          rw [← List.cons_append, onward]
          rfl

theorem chop_last {c : Char} (plain : isSeparator c = false) : chop [c] = [[c]] := by
  rw [chop_of_not plain rfl]
  rfl

private theorem chop_before_separator {c s : Char} (plain : isSeparator c = false)
    (cut : isSeparator s = true) (rest : List Char) :
    chop (c :: s :: rest) = [c] :: chop rest := by
  have small : Text.isAsciiUpper s = false := by
    rw [← Bool.not_eq_true]
    intro capital
    rw [isSeparator_of_alnum (Text.isAsciiAlnum_iff.mpr (.inr (.inl capital)))] at cut
    contradiction
  rw [chop_of_not plain (endsWord_of_not_upper c small rest), chop, cut]
  rfl

private theorem chop_before_capital {c d : Char} (small : isSmallOrDigit c = true)
    (capital : Text.isAsciiUpper d = true) (rest : List Char) :
    chop (c :: d :: rest) = [c] :: chop (d :: rest) := by
  have marked : endsWord (c :: d :: rest) = true := by
    rw [endsWord, beginsCamel, small, capital]
    rfl
  rw [chop, isSeparator_of_alnum (isAlnum_of_smallOrDigit small), marked]
  rfl

/-- A word that is not cut in front of a separator or the end. -/
structure IsWhole (separator : Char) (word : List Char) : Prop where
  nonempty : word ≠ []
  plain : ∀ c ∈ word, isSeparator c = false
  uncut : ∀ before c d after, word = before ++ c :: d :: after →
    ∀ rest, rest.head? = none ∨ rest.head? = some separator →
      endsWord (c :: d :: (after ++ rest)) = false

private theorem chop_joinWith {separator : Char} (cut : isSeparator separator = true)
    {words : List (List Char)} (present : words ≠ [])
    (each : ∀ word ∈ words, IsWhole separator word) :
    chop (Text.joinWith [separator] words) = words := by
  induction words with
  | nil => exact absurd rfl present
  | cons word words ih =>
      rw [List.forall_mem_cons] at each
      obtain ⟨here, others⟩ := each
      have plainLast (c : Char) (last : word.getLast? = some c) : isSeparator c = false :=
        here.plain c (List.mem_of_getLast? last)
      cases words with
      | nil =>
          have alone : chop (word ++ []) = [word] := chop_word here.nonempty here.plain
            (fun before c d after split => here.uncut before c d after split [] (.inl rfl))
            (fun c last => chop_last (plainLast c last))
          rw [List.append_nil] at alone
          rwa [Text.joinWith_singleton]
      | cons next words =>
          have onward := ih (List.cons_ne_nil next words) others
          rw [Text.joinWith_cons _ _ (List.cons_ne_nil next words), List.singleton_append,
            chop_word here.nonempty here.plain
              (fun before c d after split => here.uncut before c d after split _ (.inr rfl))
              (fun c last => chop_before_separator (plainLast c last) cut _), onward]

/-- A word whose characters from the second one on are small letters or digits. -/
def IsHump (word : List Char) : Prop :=
  ∃ c d tail, word = c :: d :: tail ∧ Text.isAsciiAlnum c = true ∧
    ∀ x ∈ d :: tail, isSmallOrDigit x = true

theorem IsHump.plain {word : List Char} (hump : IsHump word) :
    ∀ c ∈ word, isSeparator c = false := by
  obtain ⟨c, d, tail, rfl, plain, small⟩ := hump
  intro x member
  cases List.mem_cons.mp member with
  | inl first => exact isSeparator_of_alnum (first ▸ plain)
  | inr later => exact isSeparator_of_alnum (isAlnum_of_smallOrDigit (small x later))

theorem IsHump.uncut {word : List Char} (hump : IsHump word) {before after : List Char} {c d : Char}
    (split : word = before ++ c :: d :: after) (rest : List Char) :
    endsWord (c :: d :: rest) = false := by
  obtain ⟨x, y, tail, rfl, _, small⟩ := hump
  have inTail : d ∈ y :: tail := by
    cases before with
    | nil =>
        rw [List.nil_append, List.cons.injEq] at split
        exact split.2 ▸ List.mem_cons_self
    | cons z before =>
        rw [List.cons_append, List.cons.injEq] at split
        rw [split.2]
        simp
  exact endsWord_of_not_upper c (isUpper_of_smallOrDigit (small d inTail)) rest

private theorem IsHump.last {word : List Char} (hump : IsHump word) {c : Char}
    (last : word.getLast? = some c) : isSmallOrDigit c = true := by
  obtain ⟨x, y, tail, rfl, _, small⟩ := hump
  rw [List.getLast?_cons_cons] at last
  exact small c (List.mem_of_getLast? last)

theorem IsHump.isWhole {word : List Char} (hump : IsHump word) (separator : Char) :
    IsWhole separator word where
  nonempty := by
    obtain ⟨c, d, tail, rfl, _⟩ := hump
    exact List.cons_ne_nil _ _
  plain := hump.plain
  uncut _ _ _ _ split _ _ := hump.uncut split _

private theorem chop_humps {word : List Char} {more : List (List Char)} (hump : IsHump word)
    (each : ∀ next ∈ more, IsHump next ∧ next.head?.any Text.isAsciiUpper = true) :
    chop (word ++ more.flatten) = word :: more := by
  induction more generalizing word with
  | nil =>
      exact chop_word (hump.isWhole '_').nonempty hump.plain
        (fun before c d after split => hump.uncut split _)
        (fun c last => chop_last (isSeparator_of_alnum (isAlnum_of_smallOrDigit (hump.last last))))
  | cons next more ih =>
      rw [List.forall_mem_cons] at each
      obtain ⟨⟨isHump, capital⟩, others⟩ := each
      have onward := ih isHump others
      rw [List.flatten_cons]
      refine chop_word (hump.isWhole '_').nonempty hump.plain
        (fun before c d after split => hump.uncut split _) fun c last => ?_
      obtain ⟨x, y, tail, rfl, _⟩ := isHump
      exact (chop_before_capital (hump.last last) capital _).trans (congrArg ([c] :: ·) onward)

/-! The three forms of a word. -/

theorem IsWord.cases {word : List Char} (isWord : IsWord word) :
    ∃ c d tail, word = c :: d :: tail ∧ Text.isAsciiLower c = true ∧
      ∀ x ∈ d :: tail, isSmallOrDigit x = true := by
  have small := isWord.smallOrDigit
  obtain ⟨letters, digits, rfl, long, letter, _⟩ := isWord
  obtain ⟨c, d, tail, rfl⟩ : ∃ c d tail, letters = c :: d :: tail := by
    match letters, long with
    | c :: d :: tail, _ => exact ⟨c, d, tail, rfl⟩
  refine ⟨c, d, tail ++ digits, rfl, letter c (by simp), fun x member => small x ?_⟩
  exact List.mem_cons_of_mem c member

private theorem IsWord.isHump {word : List Char} (isWord : IsWord word) : IsHump word := by
  obtain ⟨c, d, tail, rfl, small, rest⟩ := isWord.cases
  exact ⟨c, d, tail, rfl, Text.isAsciiAlnum_iff.mpr (.inl small), rest⟩

private theorem IsWord.isHump_capitalised {word : List Char} (isWord : IsWord word) :
    IsHump (capitalised word) ∧ (capitalised word).head?.any Text.isAsciiUpper = true := by
  obtain ⟨c, d, tail, rfl, small, rest⟩ := isWord.cases
  have capital := (toUpper_of_lower small).1
  exact ⟨⟨c.toUpper, d, tail, rfl, Text.isAsciiAlnum_iff.mpr (.inr (.inl capital)), rest⟩, capital⟩

private theorem isUpper_of_digit {c : Char} (digit : Text.isAsciiDigit c = true) :
    Text.isAsciiUpper c = false := by
  apply isUpper_of_smallOrDigit
  rw [isSmallOrDigit, digit, Bool.or_true]

private theorem endsWord_of_capital {c : Char} (d : Char) {rest : List Char}
    (capital : Text.isAsciiUpper c = true)
    (next : ∀ x, rest.head? = some x → Text.isAsciiLower x = false) :
    endsWord (c :: d :: rest) = false := by
  rw [endsWord, beginsCamel_of_upper capital]
  cases rest with
  | nil => rfl
  | cons x rest => rw [beginsAcronym, next x rfl, Bool.and_false]; rfl

/-- In a word of capitals, only digits follow a digit. -/
theorem isWhole_of_capitals {capitals digits : List Char} (some : capitals ≠ [])
    (capital : ∀ c ∈ capitals, Text.isAsciiUpper c = true)
    (digit : ∀ c ∈ digits, Text.isAsciiDigit c = true) : IsWhole '_' (capitals ++ digits) := by
  have upperOrDigit : ∀ c ∈ capitals ++ digits,
      Text.isAsciiUpper c = true ∨ Text.isAsciiDigit c = true := by
    intro c member
    exact (List.mem_append.mp member).imp (capital c) (digit c)
  have ordered : (capitals ++ digits).Pairwise fun c d =>
      Text.isAsciiUpper d = true → Text.isAsciiUpper c = true := by
    rw [List.pairwise_append]
    refine ⟨?_, ?_, fun c member _ _ _ => capital c member⟩
    · exact List.pairwise_of_forall_mem_list fun c member _ _ _ => capital c member
    · refine List.pairwise_of_forall_mem_list fun _ _ d member isCapital => ?_
      rw [isUpper_of_digit (digit d member)] at isCapital
      contradiction
  refine ⟨by simp [some], fun c member => ?_, fun before c d after split rest ends => ?_⟩
  · exact isSeparator_of_alnum (Text.isAsciiAlnum_iff.mpr (.inr (upperOrDigit c member)))
  · rw [split] at ordered upperOrDigit
    cases isCapital : Text.isAsciiUpper d with
    | false => exact endsWord_of_not_upper c isCapital _
    | true =>
        have first := (List.pairwise_cons.mp (List.pairwise_append.mp ordered).2.1).1 d
          List.mem_cons_self isCapital
        refine endsWord_of_capital d first fun x isNext => ?_
        rw [← Bool.not_eq_true]
        intro small
        rw [List.head?_append] at isNext
        cases after with
        | nil =>
            have isSeparator : x = '_' := by
              cases ends with
              | inl none => simp [none] at isNext
              | inr next => simpa [next, eq_comm] using isNext
            exact absurd small (isSeparator ▸ by decide)
        | cons y after =>
            obtain rfl : y = x := by simpa using isNext
            cases upperOrDigit y (by simp) with
            | inl capital =>
                rw [Text.isAsciiLower_of_upper capital] at small
                contradiction
            | inr digit =>
                rw [Text.isAsciiLower_iff] at small
                rw [Text.isAsciiDigit_iff] at digit
                omega

private theorem IsWord.isWhole_capitals {word : List Char} (isWord : IsWord word) :
    IsWhole '_' (word.map Char.toUpper) := by
  obtain ⟨letters, digits, rfl, long, small, digit⟩ := isWord
  have fixed : digits.map Char.toUpper = digits :=
    (List.map_congr_left fun c member => toUpper_of_digit (digit c member)).trans (List.map_id _)
  rw [List.map_append, fixed]
  refine isWhole_of_capitals ?_ (fun c member => ?_) digit
  · rw [Ne, List.map_eq_nil_iff]
    rintro rfl
    contradiction
  · obtain ⟨x, inLetters, rfl⟩ := List.mem_map.mp member
    exact (toUpper_of_lower (small x inLetters)).1

/-! The forms in lower case. -/

theorem lowerChars_alnum {text : List Char} (plain : ∀ c ∈ text, Text.isAsciiAlnum c = true) :
    Text.lowerChars text = text.map Text.lowerChar :=
  Text.lowerFrom_ascii (fun c member => Text.toNat_lt_of_alnum (plain c member)) []

theorem lowerChar_toUpper {c : Char} (plain : isSmallOrDigit c = true) :
    Text.isAsciiAlnum c.toUpper = true ∧ Text.lowerChar c.toUpper = c := by
  have kept := lowerChar_of_smallOrDigit plain
  rw [isSmallOrDigit, Bool.or_eq_true] at plain
  cases plain with
  | inl small =>
      obtain ⟨capital, lowered⟩ := toUpper_of_lower small
      exact ⟨Text.isAsciiAlnum_iff.mpr (.inr (.inl capital)), lowered⟩
  | inr digit =>
      rw [toUpper_of_digit digit]
      exact ⟨Text.isAsciiAlnum_iff.mpr (.inr (.inr digit)), kept⟩

section

variable {word : List Char} (small : ∀ c ∈ word, isSmallOrDigit c = true)
include small

theorem map_lowerChar_word : word.map Text.lowerChar = word :=
  (List.map_congr_left fun c member => lowerChar_of_smallOrDigit (small c member)).trans
    (List.map_id _)

private theorem lowerChars_word : Text.lowerChars word = word := by
  rw [lowerChars_alnum fun c member => isAlnum_of_smallOrDigit (small c member),
    map_lowerChar_word small]

private theorem lowerChars_capitals : Text.lowerChars (word.map Char.toUpper) = word := by
  rw [lowerChars_alnum, List.map_map]
  · exact (List.map_congr_left fun c member => (lowerChar_toUpper (small c member)).2).trans
      (List.map_id _)
  · intro x member
    obtain ⟨c, inWord, rfl⟩ := List.mem_map.mp member
    exact (lowerChar_toUpper (small c inWord)).1

private theorem lowerChars_capitalised : Text.lowerChars (capitalised word) = word := by
  cases word with
  | nil => rfl
  | cons c rest =>
      rw [List.forall_mem_cons] at small
      obtain ⟨plain, lowered⟩ := lowerChar_toUpper small.1
      rw [capitalised, lowerChars_alnum, List.map_cons, lowered, map_lowerChar_word small.2]
      rw [List.forall_mem_cons]
      exact ⟨plain, fun x member => isAlnum_of_smallOrDigit (small.2 x member)⟩

end

/-! Reading a rendered list of words. -/

theorem pieces_of_chop {name : List Char} {forms : List (List Char)} (chopped : chop name = forms)
    (some : ∀ form ∈ forms, form ≠ []) : pieces name = forms := by
  rw [pieces_eq, chopped, List.filter_eq_self]
  intro form member
  simp [some form member]

private theorem pieces_joinWith {separator : Char} (cut : isSeparator separator = true)
    {forms : List (List Char)} (each : ∀ form ∈ forms, IsWhole separator form) :
    pieces (Text.joinWith [separator] forms) = forms := by
  cases forms with
  | nil => rw [Text.joinWith_nil, pieces_eq]; rfl
  | cons form forms =>
      exact pieces_of_chop (chop_joinWith cut (List.cons_ne_nil form forms) each)
        fun word member => (each word member).nonempty

private theorem pieces_humps {word : List Char} {more : List (List Char)} (hump : IsHump word)
    (each : ∀ next ∈ more, IsHump next ∧ next.head?.any Text.isAsciiUpper = true) :
    pieces (word ++ more.flatten) = word :: more := by
  refine pieces_of_chop (chop_humps hump each) fun form member => ?_
  cases List.mem_cons.mp member with
  | inl here => exact here ▸ (hump.isWhole '_').nonempty
  | inr later => exact ((each form later).1.isWhole '_').nonempty

/-- The pieces of a name in some style are the words in the forms that the style gives them. -/
theorem pieces_write (style : Style) {words : List (List Char)}
    (each : ∀ word ∈ words, IsWord word) :
    (pieces (style.write words)).map Text.lowerChars = words := by
  have lowered {form : List Char → List Char} {words : List (List Char)}
      (undone : ∀ word ∈ words, Text.lowerChars (form word) = word) :
      (words.map form).map Text.lowerChars = words := by
    rw [List.map_map]
    exact (List.map_congr_left undone).trans (List.map_id _)
  have joined {separator : Char} (cut : isSeparator separator = true) :
      (pieces (Text.joinWith [separator] words)).map Text.lowerChars = words := by
    rw [pieces_joinWith cut fun word member => (each word member).isHump.isWhole separator]
    have plain : (words.map id).map Text.lowerChars = words := lowered fun word member =>
      lowerChars_word (each word member).smallOrDigit
    rwa [List.map_id] at plain
  have capitals : ∀ more : List (List Char), (∀ word ∈ more, IsWord word) →
      ∀ next ∈ more.map capitalised, IsHump next ∧ next.head?.any Text.isAsciiUpper = true := by
    intro more areWords next member
    obtain ⟨word, inMore, rfl⟩ := List.mem_map.mp member
    exact (areWords word inMore).isHump_capitalised
  have none : pieces [] = [] := by
    rw [pieces_eq]
    rfl
  cases style with
  | snake => exact joined (by decide)
  | kebab => exact joined (by decide)
  | dotted => exact joined (by decide)
  | constant =>
      have whole : ∀ form ∈ words.map (·.map Char.toUpper), IsWhole '_' form := by
        intro form member
        obtain ⟨word, inWords, rfl⟩ := List.mem_map.mp member
        exact (each word inWords).isWhole_capitals
      rw [Style.write, pieces_joinWith (by decide) whole]
      exact lowered fun word member => lowerChars_capitals (each word member).smallOrDigit
  | pascal =>
      cases words with
      | nil => rw [Style.write, List.flatMap_nil, none]; rfl
      | cons word more =>
          have others := (List.forall_mem_cons.mp each).2
          have hump := (each word List.mem_cons_self).isHump_capitalised.1
          rw [Style.write, List.flatMap_cons, List.flatMap_def,
            pieces_humps hump (capitals more others)]
          have forms : ((word :: more).map capitalised).map Text.lowerChars = word :: more :=
            lowered fun next member => lowerChars_capitalised (each next member).smallOrDigit
          exact forms
  | camel =>
      cases words with
      | nil => rw [Style.write, none]; rfl
      | cons word more =>
          rw [List.forall_mem_cons] at each
          rw [Style.write, List.flatMap_def, pieces_humps each.1.isHump (capitals more each.2),
            List.map_cons, lowerChars_word each.1.smallOrDigit]
          exact congrArg (word :: ·) (lowered fun next member =>
            lowerChars_capitalised (each.2 next member).smallOrDigit)

theorem pair_infix_cons {α : Type} {a b x y : α} {rest : List α} :
    [a, b] <:+: x :: y :: rest ↔ (a = x ∧ b = y) ∨ [a, b] <:+: y :: rest := by
  rw [List.infix_cons_iff, List.cons_prefix_cons, List.cons_prefix_cons]
  simp

theorem mentionsSensitive_iff (words : List String) :
    mentionsSensitive words = true ↔
      (∃ word ∈ words, word ∈ sensitiveWords) ∨
        ∃ first next, [first, next] <:+: words ∧ first ++ next ∈ sensitiveWords := by
  induction words with
  | nil => simp [mentionsSensitive]
  | cons word rest ih =>
      cases rest with
      | nil =>
          have noPair (first next : String) : ¬ [first, next] <:+: [word] := by
            intro pair
            have length := pair.length_le
            simp at length
          simp [mentionsSensitive, noPair]
      | cons next rest =>
          rw [mentionsSensitive, Bool.or_eq_true, Bool.or_eq_true, List.contains_iff_mem,
            List.contains_iff_mem, ih]
          constructor
          · rintro ((here | pair) | ⟨other, member, inList⟩ | ⟨a, b, pair, inList⟩)
            · exact .inl ⟨word, List.mem_cons_self, here⟩
            · exact .inr ⟨word, next, pair_infix_cons.mpr (.inl ⟨rfl, rfl⟩), pair⟩
            · exact .inl ⟨other, List.mem_cons_of_mem _ member, inList⟩
            · exact .inr ⟨a, b, pair_infix_cons.mpr (.inr pair), inList⟩
          · rintro (⟨other, member, inList⟩ | ⟨a, b, pair, inList⟩)
            · cases List.mem_cons.mp member with
              | inl here => exact .inl (.inl (here ▸ inList))
              | inr later => exact .inr (.inl ⟨other, later, inList⟩)
            · cases pair_infix_cons.mp pair with
              | inl here => exact .inl (.inr (here.1 ▸ here.2 ▸ inList))
              | inr later => exact .inr (.inr ⟨a, b, later, inList⟩)

/-- Naming style hides no word. -/
theorem segments_render (style : Style) (words : List String)
    (each : ∀ word ∈ words, IsWord word.toList) :
    segments (style.render words) = words ∧
      (isSensitive (style.render words) = true ↔
        (∃ word ∈ words, word ∈ sensitiveWords) ∨
          ∃ first next, [first, next] <:+: words ∧ first ++ next ∈ sensitiveWords) := by
  have read : segments (style.render words) = words := by
    have inner : ∀ word ∈ words.map String.toList, IsWord word := by
      intro word member
      obtain ⟨text, inWords, rfl⟩ := List.mem_map.mp member
      exact each text inWords
    have written := congrArg (List.map String.ofList) (pieces_write style inner)
    rw [List.map_map, List.map_map] at written
    rw [segments, Style.render, String.toList_ofList]
    refine written.trans ?_
    exact (List.map_congr_left fun word _ => String.ofList_toList).trans (List.map_id _)
  refine ⟨read, ?_⟩
  rw [isSensitive, read, mentionsSensitive_iff]

theorem camel_name_read_back :
    (∀ word ∈ ["user2", "api", "key"], IsWord word.toList) ∧
      Style.camel.render ["user2", "api", "key"] = "user2ApiKey" ∧
        segments "user2ApiKey" = ["user2", "api", "key"] ∧ isSensitive "user2ApiKey" = true := by
  have words : ∀ word ∈ ["user2", "api", "key"], IsWord word.toList := by
    simp only [List.forall_mem_cons]
    refine ⟨?_, ?_, ?_, nofun⟩
    · exact ⟨['u', 's', 'e', 'r'], ['2'], by decide, by decide,
        List.all_eq_true.mp (by decide), List.all_eq_true.mp (by decide)⟩
    · exact ⟨['a', 'p', 'i'], [], by decide, by decide,
        List.all_eq_true.mp (by decide), List.all_eq_true.mp (by decide)⟩
    · exact ⟨['k', 'e', 'y'], [], by decide, by decide,
        List.all_eq_true.mp (by decide), List.all_eq_true.mp (by decide)⟩
  have rendered : Style.camel.render ["user2", "api", "key"] = "user2ApiKey" := by decide
  obtain ⟨read, sensitive⟩ := segments_render .camel ["user2", "api", "key"] words
  rw [rendered] at read sensitive
  refine ⟨words, rendered, read, sensitive.mpr (.inr ⟨"api", "key", ?_, by decide⟩)⟩
  exact ⟨["user2"], [], rfl⟩

end MobileAudit.Naming
