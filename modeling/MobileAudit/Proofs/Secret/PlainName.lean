import MobileAudit.Proofs.Naming.Rendering
import MobileAudit.Proofs.Secret.EmbeddedToken

namespace MobileAudit.Secret

open Pattern Naming

/-! Names made of plain words.  In every usual style they read as identifiers, so that such a name
looks like a secret only if it is a token as a whole. -/

/-- Three or more small letters. -/
def IsPlain (word : List Char) : Prop :=
  3 ≤ word.length ∧ ∀ c ∈ word, Text.isAsciiLower c = true

/-- The form of some kind of token. -/
def IsToken (text : List Char) : Prop :=
  IsWebToken text ∨ IsCodeHostToken text ∨ IsPaymentKey text ∨ IsCloudKeyId text ∨ IsMapsKey text ∨
    IsChatToken text

/-! Tokens as whole values. -/

theorem matchesStart_whole {shape : Pattern} {language : List Char → Prop}
    (reads : Reads shape fun _ taken _ => language taken) {text : List Char}
    (oneLine : '\n' ∉ text) : (whole shape).matchesStart text = true ↔ language text := by
  rw [whole, matchesStart_reads (reads_seq reads_textStart (reads_seq reads reads_textEnd))]
  constructor
  · rintro ⟨_, rest, rfl, _, _, rfl, ⟨rfl, _⟩, taken, _, rfl, isIn, rfl, rfl | rfl⟩
    · simpa using isIn
    · exact absurd (by simp) oneLine
  · intro isIn
    exact ⟨text, [], by simp, [], text, rfl, ⟨rfl, rfl⟩, text, [], by simp, isIn, rfl, .inl rfl⟩

theorem hasTokenShape_iff {text : List Char} (oneLine : '\n' ∉ text) :
    hasTokenShape text = true ↔ IsToken text := by
  simp only [hasTokenShape, tokenShapes, List.any_cons, List.any_nil, Bool.or_eq_true,
    Bool.or_false, matchesStart_whole reads_webToken oneLine,
    matchesStart_whole reads_codeHostToken oneLine, matchesStart_whole reads_paymentKey oneLine,
    matchesStart_whole reads_cloudKeyId oneLine, matchesStart_whole reads_mapsKey oneLine,
    matchesStart_whole reads_chatToken oneLine, IsToken]

/-- A value that reads as an identifier is a secret only as a token. -/
theorem looksLikeSecret_of_identifier {value : List Char} (some : value ≠ [])
    (noSpace : ∀ c ∈ value, Text.isSpace c = false) (identifier : readsAsIdentifier value = true) :
    looksLikeSecret value = hasTokenShape value := by
  have nonempty : value.isEmpty = false := by simpa using some
  unfold looksLikeSecret
  simp only [Text.trim_eq_self noSpace, nonempty, identifier, if_true, Bool.false_eq_true, if_false]
  cases hasTokenShape value with
  | true => rfl
  | false => simp

/-! Characters of names. -/

private theorem isWord_of_alnum {c : Char} (plain : Text.isAsciiAlnum c = true) :
    Text.isWord c = true := by
  rw [Text.isWord, Text.isAlnum, Text.inClass, if_pos (Text.toNat_lt_of_alnum plain), plain]
  rfl

theorem contains_smallAlnum {c : Char} (small : Text.isAsciiLower c = true) :
    smallAlnum.contains c = true := by
  rw [smallAlnum, digits, smallOrDigit_contains, isSmallOrDigit, small]
  rfl

private theorem contains_largeAlnum {c : Char} (capital : Text.isAsciiUpper c = true) :
    largeAlnum.contains c = true := by
  rw [largeAlnum, CharSet.contains_union ⟨rfl, rfl⟩ ⟨rfl, rfl⟩, CharSet.contains_upper, capital]
  rfl

private theorem isAlnum_of_lower {c : Char} (small : Text.isAsciiLower c = true) :
    Text.isAsciiAlnum c = true :=
  Text.isAsciiAlnum_iff.mpr (.inl small)

def separator? : Style → Option Char
  | .camel | .pascal => none
  | .snake | .constant => some '_'
  | .kebab => some '-'
  | .dotted => some '.'

def UsesChar (style : Style) (c : Char) : Prop :=
  Text.isAsciiLetter c = true ∨ separator? style = some c

theorem UsesChar.isSpace {style : Style} {c : Char} (used : UsesChar style c) :
    Text.isSpace c = false := by
  cases used with
  | inl letter => exact Text.isSpace_of_alnum (by rw [Text.isAsciiAlnum, letter]; rfl)
  | inr sign => cases style <;> cases sign <;> rfl

private theorem UsesChar.isDigit {style : Style} {c : Char} (used : UsesChar style c) :
    Text.isDigit c = false := by
  cases used with
  | inl letter =>
      have plain : Text.isAsciiAlnum c = true := by rw [Text.isAsciiAlnum, letter]; rfl
      rw [Text.isDigit, Text.inClass, if_pos (Text.toNat_lt_of_alnum plain), ← Bool.not_eq_true,
        Text.isAsciiDigit_iff]
      rw [Text.isAsciiLetter, Bool.or_eq_true, Text.isAsciiLower_iff,
        Text.isAsciiUpper_iff] at letter
      omega
  | inr sign => cases style <;> cases sign <;> rfl

theorem isLetter_of_lower {c : Char} (small : Text.isAsciiLower c = true) :
    Text.isAsciiLetter c = true := by
  rw [Text.isAsciiLetter, small]
  rfl

theorem isLetter_toUpper {c : Char} (small : Text.isAsciiLower c = true) :
    Text.isAsciiLetter c.toUpper = true := by
  rw [Text.isAsciiLetter, (toUpper_of_lower small).1, Bool.or_true]

private theorem isLetter_of_capitalised {word : List Char} (plain : IsPlain word) :
    ∀ c ∈ capitalised word, Text.isAsciiLetter c = true := by
  obtain ⟨_, small⟩ := plain
  cases word with
  | nil => exact nofun
  | cons c tail =>
      rw [List.forall_mem_cons] at small
      exact List.forall_mem_cons.mpr
        ⟨isLetter_toUpper small.1, fun d member => isLetter_of_lower (small.2 d member)⟩

theorem usesChar_written (style : Style) {words : List (List Char)}
    (plain : ∀ word ∈ words, IsPlain word) : ∀ c ∈ style.write words, UsesChar style c := by
  have letter {word : List Char} (member : word ∈ words) {c : Char} (inWord : c ∈ word) :
      Text.isAsciiLetter c = true :=
    isLetter_of_lower ((plain word member).2 c inWord)
  have joined {separator : Char} {c : Char} (member : c ∈ Text.joinWith [separator] words) :
      Text.isAsciiLetter c = true ∨ some separator = some c := by
    obtain between | ⟨word, isWord, inWord⟩ := Text.mem_of_mem_joinWith member
    · exact .inr (congrArg some (List.mem_singleton.mp between).symm)
    · exact .inl (letter isWord inWord)
  have humps {c : Char} {more : List (List Char)} (sub : more ⊆ words)
      (member : c ∈ more.flatMap capitalised) : Text.isAsciiLetter c = true := by
    obtain ⟨word, isWord, inWord⟩ := List.mem_flatMap.mp member
    exact isLetter_of_capitalised (plain word (sub isWord)) c inWord
  intro c member
  cases style with
  | camel =>
      cases words with
      | nil => cases member
      | cons word more =>
          cases List.mem_append.mp member with
          | inl first => exact .inl (letter List.mem_cons_self first)
          | inr later => exact .inl (humps (List.subset_cons_self word more) later)
  | pascal => exact .inl (humps (List.Subset.refl words) member)
  | snake => exact joined member
  | kebab => exact joined member
  | dotted => exact joined member
  | constant =>
      obtain between | ⟨_, isWord, inWord⟩ := Text.mem_of_mem_joinWith member
      · exact .inr (congrArg some (List.mem_singleton.mp between).symm)
      · obtain ⟨word, inWords, rfl⟩ := List.mem_map.mp isWord
        obtain ⟨x, isSmall, rfl⟩ := List.mem_map.mp inWord
        exact .inl (isLetter_toUpper ((plain word inWords).2 x isSmall))

/-! Words behind one another. -/

theorem joinWith_eq_flatten (separator : Char) (word : List Char) (more : List (List Char)) :
    Text.joinWith [separator] (word :: more) = word ++ (more.map (separator :: ·)).flatten := by
  induction more generalizing word with
  | nil => simp
  | cons next more ih =>
      rw [Text.joinWith_cons _ _ (List.cons_ne_nil next more), ih]
      rfl

theorem matchesStart_headed {first rest : CharSet} {chain : Pattern} {language : List Char → Prop}
    (reads : Reads chain fun _ taken _ => language taken) {c : Char} {tail more : List Char}
    (isFirst : first.contains c = true) (areRest : ∀ d ∈ tail, rest.contains d = true)
    (isChain : language more) :
    matchesStart (.textStart ++ (.set first ++ (rest.many ++ (chain ++ .textEnd))))
      (c :: tail ++ more) = true :=
  (matchesStart_reads (reads_seq reads_textStart (reads_seq (reads_set first)
    (reads_seq (reads_many rest) (reads_seq reads reads_textEnd)))) _).mpr
    ⟨c :: tail ++ more, [], by simp, [], _, rfl, ⟨rfl, rfl⟩, [c], tail ++ more, rfl,
      ⟨c, rfl, isFirst⟩, tail, more, rfl, areRest, more, [], by simp, isChain, rfl, .inl rfl⟩

theorem matchesStart_linked {first rest : CharSet} {link : Pattern} {language : List Char → Prop}
    (reads : Reads link fun _ taken _ => language taken) {c : Char} {tail : List Char}
    {parts : List (List Char)} (isFirst : first.contains c = true)
    (areRest : ∀ d ∈ tail, rest.contains d = true) (some : parts ≠ [])
    (areLinks : ∀ part ∈ parts, part ≠ [] ∧ language part) :
    matchesStart (.textStart ++ (.set first ++ (rest.many ++ (plus link ++ .textEnd))))
      (c :: tail ++ parts.flatten) = true := by
  cases parts with
  | nil => exact absurd rfl some
  | cons part parts =>
      rw [List.forall_mem_cons] at areLinks
      exact matchesStart_headed (reads_plus reads) isFirst areRest
        ⟨part, parts, rfl, areLinks.1.2, areLinks.2⟩

theorem reads_link {segment : Pattern} {language : List Char → Prop}
    (reads : Reads segment fun _ taken _ => language taken) (separator : Char) :
    Reads (.set (.one separator) ++ segment) fun _ taken _ =>
      ∃ part, taken = separator :: part ∧ language part :=
  (reads_seq (reads_one separator) reads).congr fun _ taken _ => by
    constructor
    · rintro ⟨_, part, rfl, rfl, isIn⟩
      exact ⟨part, rfl, isIn⟩
    · rintro ⟨part, rfl, isIn⟩
      exact ⟨[separator], part, rfl, rfl, isIn⟩

theorem links_of_words {language : List Char → Prop} {separator : Char} {words : List (List Char)}
    (areIn : ∀ word ∈ words, language word) :
    ∀ part ∈ words.map (separator :: ·),
      part ≠ [] ∧ ∃ word, part = separator :: word ∧ language word := by
  intro part member
  obtain ⟨word, isWord, rfl⟩ := List.mem_map.mp member
  exact ⟨List.cons_ne_nil _ _, word, rfl, areIn word isWord⟩

theorem reads_capitalWord : Reads capitalWord fun _ taken _ =>
    ∃ c tail, taken = c :: tail ∧ Text.isAsciiUpper c = true ∧ ∃ small more, tail = small ++ more ∧
      2 ≤ small.length ∧ (∀ d ∈ small, Text.isAsciiLower d = true) ∧
        ∀ d ∈ more, smallAlnum.contains d = true :=
  (reads_seq (reads_set _) (reads_seq
    (reads_atLeast (fun c => by rw [CharSet.contains_lower]) 2)
    (reads_many smallAlnum))).congr fun _ taken _ => by
    constructor
    · rintro ⟨_, tail, rfl, ⟨c, rfl, capital⟩, small, more, rfl, ⟨long, areSmall⟩, areMore⟩
      rw [CharSet.contains_upper] at capital
      exact ⟨c, _, rfl, capital, small, more, rfl, long, areSmall, areMore⟩
    · rintro ⟨c, _, rfl, capital, small, more, rfl, long, areSmall, areMore⟩
      rw [← CharSet.contains_upper] at capital
      exact ⟨[c], _, rfl, ⟨c, rfl, capital⟩, small, more, rfl, ⟨long, areSmall⟩, areMore⟩

theorem reads_dotSegment : Reads dotSegment fun _ taken _ =>
    ∃ c tail, taken = c :: tail ∧ (letters ∪ CharSet.ofChars "_$").contains c = true ∧
      ∀ d ∈ tail, (CharSet.word ∪ CharSet.ofChars "$-").contains d = true :=
  (reads_seq (reads_set _) (reads_many _)).congr fun _ taken _ => by
    constructor
    · rintro ⟨_, tail, rfl, ⟨c, rfl, isFirst⟩, areRest⟩
      exact ⟨c, tail, rfl, isFirst, areRest⟩
    · rintro ⟨c, tail, rfl, isFirst, areRest⟩
      exact ⟨[c], tail, rfl, ⟨c, rfl, isFirst⟩, areRest⟩

private theorem point_of_dotPath {value : List Char} (path : dotPath.matchesStart value = true) :
    '.' ∈ value := by
  obtain ⟨_, _, rfl, _, _, rfl, _, _, _, rfl, _, _, _, rfl, ⟨_, _, rfl, ⟨_, rfl, _⟩, _⟩, _⟩ :=
    (matchesStart_reads (reads_seq reads_textStart (reads_seq reads_dotSegment
      (reads_seq (reads_plus (reads_link reads_dotSegment '.')) reads_textEnd))) value).mp path
  simp

/-! Names in the usual styles. -/

theorem IsPlain.cases {word : List Char} (plain : IsPlain word) :
    ∃ c tail, word = c :: tail ∧ 2 ≤ tail.length ∧ Text.isAsciiLower c = true ∧
      ∀ d ∈ tail, Text.isAsciiLower d = true := by
  obtain ⟨long, small⟩ := plain
  cases word with
  | nil => contradiction
  | cons c tail =>
      rw [List.forall_mem_cons] at small
      exact ⟨c, tail, rfl, Nat.le_of_succ_le_succ long, small.1, small.2⟩

private theorem plainWord_matches {word : List Char} (plain : IsPlain word) :
    plainWord.matchesStart word = true := by
  obtain ⟨c, tail, rfl, _, first, small⟩ := plain.cases
  have isFirst : letters.contains c = true := by rw [contains_letters, isLetter_of_lower first]
  have areRest : ∀ d ∈ tail, CharSet.lower.contains d = true := fun d member => by
    rw [CharSet.contains_lower, small d member]
  have matched := matchesStart_headed reads_empty isFirst areRest rfl
  rwa [List.append_nil] at matched

section

variable {word : List Char} {more : List (List Char)} (plain : IsPlain word)
  (plainMore : ∀ next ∈ more, IsPlain next)
include plain plainMore

private theorem matchesStart_separated (separator : Char) (some : more ≠ []) :
    matchesStart (.textStart ++ (.set CharSet.lower ++ (smallAlnum.many ++
      (plus (.set (.one separator) ++ smallAlnum.some) ++ .textEnd))))
      (Text.joinWith [separator] (word :: more)) = true := by
  obtain ⟨c, tail, rfl, _, first, small⟩ := plain.cases
  have isFirst : CharSet.lower.contains c = true := by rw [CharSet.contains_lower, first]
  have areRest : ∀ d ∈ tail, smallAlnum.contains d = true := fun d member =>
    contains_smallAlnum (small d member)
  have areWords : ∀ next ∈ more, next ≠ [] ∧ ∀ d ∈ next, smallAlnum.contains d = true := by
    intro next member
    obtain ⟨d, rest, rfl, _⟩ := (plainMore next member).cases
    exact ⟨List.cons_ne_nil d rest, fun x inNext =>
      contains_smallAlnum ((plainMore _ member).2 x inNext)⟩
  rw [joinWith_eq_flatten]
  exact matchesStart_linked (reads_link (reads_some smallAlnum) separator) isFirst areRest
    (by simpa using some) (links_of_words areWords)

private theorem dotPath_matches (some : more ≠ []) :
    dotPath.matchesStart (Text.joinWith ['.'] (word :: more)) = true := by
  have areSegments : ∀ next, IsPlain next → ∃ c tail, next = c :: tail ∧
      (letters ∪ CharSet.ofChars "_$").contains c = true ∧
        ∀ d ∈ tail, (CharSet.word ∪ CharSet.ofChars "$-").contains d = true := by
    intro next isPlain
    obtain ⟨c, tail, rfl, _, first, small⟩ := isPlain.cases
    refine ⟨c, tail, rfl, ?_, fun d member => ?_⟩
    · rw [CharSet.contains_union ⟨rfl, rfl⟩ ⟨rfl, rfl⟩, contains_letters, isLetter_of_lower first]
      rfl
    · have isWord : CharSet.word.contains d = Text.isWord d := by
        simp [CharSet.contains, CharSet.word, CharItem.contains]
      rw [CharSet.contains_union ⟨rfl, rfl⟩ ⟨rfl, rfl⟩, isWord,
        isWord_of_alnum (isAlnum_of_lower (small d member))]
      rfl
  obtain ⟨c, tail, rfl, isFirst, areRest⟩ := areSegments word plain
  rw [joinWith_eq_flatten]
  exact matchesStart_linked (reads_link reads_dotSegment '.') isFirst areRest (by simpa using some)
    (links_of_words fun next member => areSegments next (plainMore next member))

private theorem constantCase_matches :
    constantCase.matchesStart (Style.constant.write (word :: more)) = true := by
  have capital {next : List Char} (isPlain : IsPlain next) :
      ∀ d ∈ next.map Char.toUpper, Text.isAsciiUpper d = true := by
    intro d member
    obtain ⟨x, inNext, rfl⟩ := List.mem_map.mp member
    exact (toUpper_of_lower (isPlain.2 x inNext)).1
  have areWords : ∀ next ∈ more.map (·.map Char.toUpper),
      next ≠ [] ∧ ∀ d ∈ next, largeAlnum.contains d = true := by
    intro _ member
    obtain ⟨next, isMore, rfl⟩ := List.mem_map.mp member
    obtain ⟨d, rest, rfl, _⟩ := (plainMore next isMore).cases
    exact ⟨by simp, fun x inNext => contains_largeAlnum (capital (plainMore _ isMore) x inNext)⟩
  have first := capital plain
  obtain ⟨c, tail, rfl, _⟩ := plain.cases
  rw [List.map_cons, List.forall_mem_cons] at first
  have isFirst : CharSet.upper.contains c.toUpper = true := by
    rw [CharSet.contains_upper, first.1]
  rw [Style.write, List.map_cons, List.map_cons, joinWith_eq_flatten]
  exact matchesStart_headed (reads_star (reads_link (reads_some largeAlnum) '_')) isFirst
    (fun d member => contains_largeAlnum (first.2 d member)) ⟨_, rfl, links_of_words areWords⟩

omit plain in
theorem capitalWords_of_plain : ∀ part ∈ more.map capitalised, part ≠ [] ∧
    ∃ c tail, part = c :: tail ∧ Text.isAsciiUpper c = true ∧ ∃ small rest, tail = small ++ rest ∧
      2 ≤ small.length ∧ (∀ d ∈ small, Text.isAsciiLower d = true) ∧
        ∀ d ∈ rest, smallAlnum.contains d = true := by
  intro _ member
  obtain ⟨next, isMore, rfl⟩ := List.mem_map.mp member
  obtain ⟨c, tail, rfl, long, first, small⟩ := (plainMore next isMore).cases
  exact ⟨List.cons_ne_nil _ _, c.toUpper, tail, rfl, (toUpper_of_lower first).1, tail, [],
    (List.append_nil tail).symm, long, small, nofun⟩

private theorem camelCase_matches (some : more ≠ []) :
    camelCase.matchesStart (Style.camel.write (word :: more)) = true := by
  obtain ⟨c, tail, rfl, _, first, small⟩ := plain.cases
  have isFirst : CharSet.lower.contains c = true := by rw [CharSet.contains_lower, first]
  rw [Style.write, List.flatMap_def]
  exact matchesStart_linked reads_capitalWord isFirst
    (fun d member => contains_smallAlnum (small d member)) (by simpa using some)
    (capitalWords_of_plain plainMore)

end

private theorem pascalCase_matches {words : List (List Char)} (some : words ≠ [])
    (plain : ∀ word ∈ words, IsPlain word) :
    pascalCase.matchesStart (Style.pascal.write words) = true := by
  have oneLine : '\n' ∉ Style.pascal.write words := by
    intro member
    have noSpace := (usesChar_written .pascal plain '\n' member).isSpace
    exact absurd noSpace (by decide)
  have parts := capitalWords_of_plain plain
  rw [Style.write, List.flatMap_def] at oneLine ⊢
  refine (matchesStart_whole (reads_plus reads_capitalWord) oneLine).mpr ?_
  cases words with
  | nil => exact absurd rfl some
  | cons word more =>
      rw [List.map_cons, List.forall_mem_cons] at parts
      exact ⟨_, _, rfl, parts.1.2, parts.2⟩

/-! The verdict on a name. -/

section

variable {style : Style} {value : List Char} (some : value ≠ [])
  (used : ∀ c ∈ value, UsesChar style c)
include some used

/-- There are neither blanks nor digits, so that only the form decides. -/
theorem readsAsIdentifier_of_form (form : (if dotPath.matchesStart value then
      (Text.splitOn '.' value).all (·.length ≤ 32)
    else namingStyles.any (·.matchesStart value)) = true) : readsAsIdentifier value = true := by
  have noSpace : ∀ c ∈ value, Text.isSpace c = false := fun c member => (used c member).isSpace
  have noneCounted : value.filter Text.isDigit = [] :=
    List.filter_eq_nil_iff.mpr fun c member => by simp [(used c member).isDigit]
  have light : isDigitHeavy value = false := by simp [isDigitHeavy, noneCounted]
  unfold readsAsIdentifier
  simp only [Text.trim_eq_self noSpace, Text.fields_eq_singleton some noSpace, light, form,
    List.length_singleton, Nat.lt_irrefl, Bool.and_false, Bool.false_eq_true, if_false, ite_self]

theorem readsAsIdentifier_of_style (undotted : separator? style ≠ .some '.') {form : Pattern}
    (known : form ∈ namingStyles) (matched : form.matchesStart value = true) :
    readsAsIdentifier value = true := by
  refine readsAsIdentifier_of_form some used ?_
  have noPath : ¬ dotPath.matchesStart value = true := fun path =>
    (used '.' (point_of_dotPath path)).elim (by decide) undotted
  rw [if_neg noPath, List.any_eq_true]
  exact ⟨form, known, matched⟩

private theorem readsAsIdentifier_of_path (path : dotPath.matchesStart value = true)
    (short : ∀ segment ∈ Text.splitOn '.' value, segment.length ≤ 32) :
    readsAsIdentifier value = true := by
  refine readsAsIdentifier_of_form some used ?_
  rw [if_pos path, List.all_eq_true]
  exact fun segment member => decide_eq_true (short segment member)

end

private theorem readsAsIdentifier_of_plain {word : List Char} (plain : IsPlain word) :
    readsAsIdentifier word = true := by
  have used : ∀ c ∈ word, UsesChar .camel c := fun c member =>
    .inl (isLetter_of_lower (plain.2 c member))
  obtain ⟨c, tail, isCons, _⟩ := plain.cases
  exact readsAsIdentifier_of_style (isCons ▸ List.cons_ne_nil c tail) used (by decide)
    (by simp [namingStyles]) (plainWord_matches plain)

theorem write_ne_nil (style : Style) {words : List (List Char)} (some : words ≠ [])
    (plain : ∀ word ∈ words, IsPlain word) : style.write words ≠ [] := by
  have nonempty : ∀ word ∈ words, word ≠ [] := by
    intro word member
    obtain ⟨c, tail, rfl, _⟩ := (plain word member).cases
    exact List.cons_ne_nil c tail
  have capitals : ∀ word ∈ words.map (·.map Char.toUpper), word ≠ [] := by
    simpa using nonempty
  cases words with
  | nil => exact absurd rfl some
  | cons word more =>
      obtain ⟨c, tail, rfl, _⟩ := (plain word List.mem_cons_self).cases
      cases style with
      | camel => exact List.cons_ne_nil c _
      | pascal => exact List.cons_ne_nil c.toUpper _
      | snake => exact Text.joinWith_ne_nil some nonempty
      | kebab => exact Text.joinWith_ne_nil some nonempty
      | dotted => exact Text.joinWith_ne_nil some nonempty
      | constant => exact Text.joinWith_ne_nil (by simp) capitals

private theorem splitOn_dotted {words : List (List Char)} (some : words ≠ [])
    (plain : ∀ word ∈ words, IsPlain word) :
    Text.splitOn '.' (Style.dotted.write words) = words := by
  cases words with
  | nil => exact absurd rfl some
  | cons word more =>
      exact Text.splitOn_intercalate '.' word more fun next member inNext =>
        absurd ((plain next member).2 '.' inNext) (by decide)

private theorem readsAsIdentifier_written (style : Style) {words : List (List Char)}
    (some : words ≠ [])
    (plain : ∀ word ∈ words, IsPlain word)
    (short : style = .dotted → ∀ word ∈ words, word.length ≤ 32) :
    readsAsIdentifier (style.write words) = true := by
  have nonempty := write_ne_nil style some plain
  have used := usesChar_written style plain
  obtain ⟨word, more, rfl⟩ := List.exists_cons_of_ne_nil some
  obtain ⟨first, others⟩ := List.forall_mem_cons.mp plain
  -- capitals are written in one way; a lone word of small letters has no mark of its style
  cases style with
  | pascal =>
      exact readsAsIdentifier_of_style nonempty used (by decide) (by simp [namingStyles])
        (pascalCase_matches some plain)
  | constant =>
      exact readsAsIdentifier_of_style nonempty used (by decide) (by simp [namingStyles])
        (constantCase_matches first others)
  | camel =>
      by_cases alone : more = []
      · simpa [alone, Style.write] using readsAsIdentifier_of_plain first
      · exact readsAsIdentifier_of_style nonempty used (by decide) (by simp [namingStyles])
          (camelCase_matches first others alone)
  | snake =>
      by_cases alone : more = []
      · simpa [alone, Style.write] using readsAsIdentifier_of_plain first
      · have matched : snakeCase.matchesStart (Style.snake.write (word :: more)) = true :=
          matchesStart_separated first others '_' alone
        exact readsAsIdentifier_of_style nonempty used (by decide) (by simp [namingStyles]) matched
  | kebab =>
      by_cases alone : more = []
      · simpa [alone, Style.write] using readsAsIdentifier_of_plain first
      · have matched : kebabCase.matchesStart (Style.kebab.write (word :: more)) = true :=
          matchesStart_separated first others '-' alone
        exact readsAsIdentifier_of_style nonempty used (by decide) (by simp [namingStyles]) matched
  | dotted =>
      by_cases alone : more = []
      · simpa [alone, Style.write] using readsAsIdentifier_of_plain first
      · refine readsAsIdentifier_of_path nonempty used (dotPath_matches first others alone) ?_
        rw [splitOn_dotted some plain]
        exact short rfl

/-- A name of plain words reads as an identifier in every style, and looks like a secret only where
it is a token as a whole. -/
theorem plainName_secret_iff (style : Style) {words : List String} (some : words ≠ [])
    (plain : ∀ word ∈ words, IsPlain word.toList)
    (short : style = .dotted → ∀ word ∈ words, word.length ≤ 32) :
    readsAsIdentifier (style.render words).toList = true ∧
      (looksLikeSecret (style.render words).toList = true ↔
        IsToken (style.render words).toList) := by
  have someWritten : words.map String.toList ≠ [] := by simpa using some
  have plainWritten : ∀ word ∈ words.map String.toList, IsPlain word := by simpa using plain
  have shortWritten : style = .dotted → ∀ word ∈ words.map String.toList, word.length ≤ 32 := by
    simpa [String.length_toList] using short
  have used := usesChar_written style plainWritten
  have identifier := readsAsIdentifier_written style someWritten plainWritten shortWritten
  rw [Style.render, String.toList_ofList]
  refine ⟨identifier, ?_⟩
  rw [looksLikeSecret_of_identifier (write_ne_nil style someWritten plainWritten)
    (fun c member => (used c member).isSpace) identifier]
  refine hasTokenShape_iff fun member => ?_
  exact absurd (used '\n' member).isSpace (by decide)

theorem chatToken_in_kebab :
    looksLikeSecret (Style.kebab.render ["xoxb", "abcdefghij"]).toList = true ∧
      readsAsIdentifier (Style.dotted.render ["settings", "network", "host"]).toList = true := by
  have isPlain : ∀ words : List String, (words.all fun word =>
      decide (3 ≤ word.toList.length) && word.toList.all Text.isAsciiLower) = true →
      ∀ word ∈ words, IsPlain word.toList := by
    simp [IsPlain]
  have isChat : IsChatToken (Style.kebab.render ["xoxb", "abcdefghij"]).toList := by
    have alnum : "abcdefghij".toList.all Text.isAsciiAlnum = true := by decide
    exact ⟨'b', "abcdefghij".toList, by decide, by decide, by decide,
      fun c member => .inl (List.all_eq_true.mp alnum c member)⟩
  have token := @plainName_secret_iff .kebab ["xoxb", "abcdefghij"] (by decide)
    (isPlain _ (by decide)) nofun
  have path := @plainName_secret_iff .dotted ["settings", "network", "host"] (by decide)
    (isPlain _ (by decide)) (fun _ => by decide)
  exact ⟨token.2.mpr (.inr (.inr (.inr (.inr (.inr isChat))))), path.1⟩

end MobileAudit.Secret
