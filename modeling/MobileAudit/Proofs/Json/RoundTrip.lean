import MobileAudit.Document.Show
import MobileAudit.Json.Write
import MobileAudit.Proofs.Json.Parts

namespace MobileAudit

/-! Reading undoes writing.  A written document is read as the value that it was written for, unless
one of its integers has more digits than the reader takes. -/

namespace Value

theorem allWritable_eq (items : List Value) : allWritable items = items.all isWritable := by
  induction items with
  | nil => rfl
  | cons v items ih => rw [allWritable, ih, List.all_cons]

theorem entriesWritable_eq (entries : Entries) :
    entriesWritable entries = entries.all fun entry => entry.1.isWritable && entry.2.isWritable := by
  induction entries with
  | nil => rfl
  | cons entry rest ih => rw [entriesWritable, ih, List.all_cons]

end Value

namespace Json

/-! Texts. -/

@[simp] theorem hexValue?_hexDigit :
    ∀ d : Fin 16, hexValue? (Text.hexDigit d.val) = some d.val := by
  decide

@[simp] theorem hexValue?_hexDigit_mod (n : Nat) :
    hexValue? (Text.hexDigit (n % 16)) = some (n % 16) :=
  hexValue?_hexDigit ⟨n % 16, Nat.mod_lt _ (by omega)⟩

theorem hexDigits_four (code : Nat) :
    Text.hexDigits 4 code =
      [Text.hexDigit (code / 16 / 16 / 16 % 16), Text.hexDigit (code / 16 / 16 % 16),
        Text.hexDigit (code / 16 % 16), Text.hexDigit (code % 16)] := rfl

private theorem hexCode?_hexDigits (code : Nat) (small : code < 0x10000) :
    hexCode? (Text.hexDigit (code / 16 / 16 / 16 % 16)) (Text.hexDigit (code / 16 / 16 % 16))
      (Text.hexDigit (code / 16 % 16)) (Text.hexDigit (code % 16)) = some code := by
  have sum : ((code / 16 / 16 / 16 % 16 * 16 + code / 16 / 16 % 16) * 16 +
      code / 16 % 16) * 16 + code % 16 = code := by
    omega
  simp only [hexCode?, hexValue?_hexDigit_mod, bind, Option.bind, pure, sum]

/-- An escaped code is taken up by what has been read so far. -/
theorem readString_codeEscape (start : Nat) (p : Partial) (code : Nat) (rest : List Char)
    (small : code < 0x10000) (more : rest ≠ []) :
    readString start p (codeEscape code ++ rest) = readString start (p.addCode code) rest := by
  rw [codeEscape, hexDigits_four]
  simp only [List.cons_append, List.nil_append, readString, hexCode?_hexDigits code small]
  simp [more]

@[simp] theorem charOfCode_toNat (c : Char) : charOfCode c.toNat = c := by
  have valid : c.toNat < 0xd800 ∨ (0xdfff < c.toNat ∧ c.toNat < 0x110000) := c.valid
  have noHalf : ¬ (0xd800 ≤ c.toNat ∧ c.toNat ≤ 0xdfff) := by omega
  simp [charOfCode, noHalf, Char.ofNat_toNat]

@[simp] theorem isHighSurrogate_toNat (c : Char) : isHighSurrogate c.toNat = false := by
  have valid : c.toNat < 0xd800 ∨ (0xdfff < c.toNat ∧ c.toNat < 0x110000) := c.valid
  simp [isHighSurrogate]
  omega

theorem addCode_toNat (p : Partial) (settled : p.high = none) (c : Char) :
    p.addCode c.toNat = p.addChar c := by
  simp [Partial.addCode, settled]

/-- A character that is written as a pair of halves is put together again. -/
theorem addCode_pair (p : Partial) (c : Char) (wide : 0x10000 ≤ c.toNat) :
    (p.addCode (0xd800 + (c.toNat - 0x10000) / 0x400)).addCode
      (0xdc00 + (c.toNat - 0x10000) % 0x400) = p.addChar c := by
  have valid : c.toNat < 0xd800 ∨ (0xdfff < c.toNat ∧ c.toNat < 0x110000) := c.valid
  have isHigh : isHighSurrogate (0xd800 + (c.toNat - 0x10000) / 0x400) = true := by
    simp [isHighSurrogate]
    omega
  have notHigh : isHighSurrogate (0xdc00 + (c.toNat - 0x10000) % 0x400) = false := by
    simp [isHighSurrogate]
    omega
  have isLow : isLowSurrogate (0xdc00 + (c.toNat - 0x10000) % 0x400) = true := by
    simp [isLowSurrogate]
    omega
  have joined : joinSurrogates (0xd800 + (c.toNat - 0x10000) / 0x400)
      (0xdc00 + (c.toNat - 0x10000) % 0x400) = c.toNat := by
    unfold joinSurrogates
    omega
  simp [Partial.addCode, isHigh, notHigh, isLow, joined, Partial.addChar]

theorem readString_plain (start : Nat) (p : Partial) (c : Char) (rest : List Char)
    (noQuote : c ≠ '"') (noSlash : c ≠ '\\') (noControl : ¬ c.toNat < 0x20) :
    readString start p (c :: rest) = readString start (p.addChar c) rest := by
  rw [readString]
  · exact if_neg noControl
  · exact noQuote
  · rintro _ _ _ _ _ isSlash _
    exact noSlash isSlash
  · rintro _ isSlash _
    exact noSlash isSlash
  · intro isSlash _
    exact noSlash isSlash
  · rintro _ _ isSlash _
    exact noSlash isSlash

theorem readString_shortEscape (start : Nat) (p : Partial) (c e : Char) (rest : List Char)
    (known : shortEscape? c = some e) :
    readString start p ('\\' :: c :: rest) = readString start (p.addChar e) rest := by
  have other : c ≠ 'u' := by
    rintro rfl
    cases known
  rw [readString.eq_def]
  split <;> simp_all
  · rename_i noPair same
    exact absurd same.2.symm (noPair c rest same.1.symm)

private theorem readString_escapeWide (start : Nat) (p : Partial) (settled : p.high = none)
    (c : Char)
    (rest : List Char) (more : rest ≠ []) :
    readString start p (escapeWide c.toNat ++ rest) = readString start (p.addChar c) rest := by
  have valid : c.toNat < 0xd800 ∨ (0xdfff < c.toNat ∧ c.toNat < 0x110000) := c.valid
  unfold escapeWide
  split
  · rename_i narrow
    rw [readString_codeEscape start p c.toNat rest narrow more, addCode_toNat p settled]
  · rename_i wide
    rw [List.append_assoc, readString_codeEscape start p _ _ (by omega) (by simp [codeEscape]),
      readString_codeEscape start _ _ rest (by omega) more, addCode_pair p c (by omega)]

/-- A written character is read as itself. -/
theorem readString_writeChar (asciiOnly : Bool) (start : Nat) (p : Partial)
    (settled : p.high = none) (c : Char) (rest : List Char) (more : rest ≠ []) :
    readString start p (writeChar asciiOnly c ++ rest) = readString start (p.addChar c) rest := by
  have short : ∀ e, shortEscape? e = some c →
      readString start p (['\\', e] ++ rest) = readString start (p.addChar c) rest :=
    fun e known => readString_shortEscape start p e c rest known
  fun_cases writeChar asciiOnly c with
  | case1 same =>
      obtain rfl := eq_of_beq same
      exact short '"' rfl
  | case2 _ same =>
      obtain rfl := eq_of_beq same
      exact short '\\' rfl
  | case3 _ _ same =>
      obtain rfl := eq_of_beq same
      exact short 'n' rfl
  | case4 _ _ _ same =>
      obtain rfl := eq_of_beq same
      exact short 'r' rfl
  | case5 _ _ _ _ same =>
      obtain rfl := eq_of_beq same
      exact short 't' rfl
  | case6 _ _ _ _ _ same =>
      obtain rfl := eq_of_beq same
      exact short 'b' rfl
  | case7 _ _ _ _ _ _ same =>
      obtain rfl := eq_of_beq same
      exact short 'f' rfl
  | case8 _ _ _ _ _ _ _ control =>
      rw [readString_codeEscape start p c.toNat rest (by omega) more, addCode_toNat p settled]
  | case9 => exact readString_escapeWide start p settled c rest more
  | case10 noQuote noSlash _ _ _ _ _ noControl =>
      refine readString_plain start p c rest ?_ ?_ noControl
      · exact fun quote => noQuote (beq_iff_eq.mpr quote)
      · exact fun slash => noSlash (beq_iff_eq.mpr slash)

private theorem readString_writeChars (asciiOnly : Bool) (start : Nat) (text rest : List Char) :
    ∀ p : Partial, p.high = none →
      readString start p (text.flatMap (writeChar asciiOnly) ++ '"' :: rest) =
        .ok (String.ofList (p.read.reverse ++ text), rest) := by
  induction text with
  | nil =>
      intro p settled
      simp [readString, Partial.text, Partial.settled, settled]
  | cons c text ih =>
      intro p settled
      rw [List.flatMap_cons, List.append_assoc,
        readString_writeChar asciiOnly start p settled c _ (by simp), ih (p.addChar c) rfl]
      simp [Partial.addChar, Partial.settled, settled]

theorem readString_writeText (asciiOnly : Bool) (start : Nat) (text : String)
    (rest : List Char) :
    ∃ tail, writeText asciiOnly text ++ rest = '"' :: tail ∧
      readString start ⟨[], none⟩ tail = .ok (text, rest) := by
  refine ⟨text.toList.flatMap (writeChar asciiOnly) ++ '"' :: rest, by simp [writeText], ?_⟩
  rw [readString_writeChars asciiOnly start text.toList rest ⟨[], none⟩ rfl]
  simp

/-! Integers. -/

/-- What may follow an integer without being taken for a part of it. -/
def EndsNumber (rest : List Char) : Prop :=
  ∀ c ∈ rest.head?, isDigit c = false ∧ c ≠ '.' ∧ c ≠ 'e' ∧ c ≠ 'E'

theorem endsNumber_cons (c : Char) (rest : List Char)
    (plain : isDigit c = false ∧ c ≠ '.' ∧ c ≠ 'e' ∧ c ≠ 'E') : EndsNumber (c :: rest) := by
  intro d member
  cases member
  exact plain

theorem isDigit_eq (c : Char) : isDigit c = c.isDigit := by
  simp only [isDigit, Char.isDigit, Char.le_def]

theorem isDigit_of_mem_toDigits {n : Nat} {c : Char} (member : c ∈ Nat.toDigits 10 n) :
    isDigit c = true := by
  rw [isDigit_eq]
  exact Nat.isDigit_of_mem_toDigits (by omega) (by omega) member

@[simp] theorem digitsValue_toDigits (n : Nat) : digitsValue (Nat.toDigits 10 n) = n := by
  have value := Nat.ofDigitChars_ten_toDigits (n := n)
  rw [Nat.ofDigitChars_eq_foldl] at value
  rw [digitsValue]
  simpa [Nat.mul_comm] using value

theorem toDigits_head_ne_zero (n : Nat) (positive : 0 < n) :
    ∃ d ds, Nat.toDigits 10 n = d :: ds ∧ d ≠ '0' := by
  induction n using Nat.strongRecOn with
  | _ n ih =>
      by_cases small : n < 10
      · refine ⟨n.digitChar, [], Nat.toDigits_of_lt_base small, ?_⟩
        have : ∀ d : Fin 10, d.val ≠ 0 → d.val.digitChar ≠ '0' := by decide
        exact this ⟨n, small⟩ (by simp; omega)
      · obtain ⟨d, ds, digits, nonzero⟩ := ih (n / 10) (by omega) (by omega)
        refine ⟨d, ds ++ [(n % 10).digitChar], ?_, nonzero⟩
        rw [Nat.toDigits_of_base_le (by omega) (by omega), digits]
        rfl

theorem takeWhile_isDigit_append (digits rest : List Char)
    (all : ∀ c ∈ digits, isDigit c = true) (ends : EndsNumber rest) :
    (digits ++ rest).takeWhile isDigit = digits ∧ (digits ++ rest).dropWhile isDigit = rest := by
  induction digits with
  | nil =>
      cases rest with
      | nil => exact ⟨rfl, rfl⟩
      | cons c rest => simp [(ends c rfl).1]
  | cons d digits ih =>
      have tail := ih fun c member => all c (by simp [member])
      simp [all d (by simp), tail]

theorem wholeDigits_cons (c : Char) (rest : List Char) (nonzero : c ≠ '0') :
    wholeDigits (c :: rest) =
      if isDigit c then some (c :: rest.takeWhile isDigit, rest.dropWhile isDigit) else none := by
  rw [wholeDigits.eq_def]
  split <;> simp_all

private theorem wholeDigits_toDigits (n : Nat) (rest : List Char) (ends : EndsNumber rest) :
    wholeDigits (Nat.toDigits 10 n ++ rest) = some (Nat.toDigits 10 n, rest) := by
  by_cases zero : n = 0
  · subst zero
    rfl
  · obtain ⟨d, ds, digits, nonzero⟩ := toDigits_head_ne_zero n (by omega)
    have all : ∀ c ∈ d :: ds, isDigit c = true := by
      intro c member
      rw [← digits] at member
      exact isDigit_of_mem_toDigits member
    have cut := takeWhile_isDigit_append ds rest (fun c member => all c (by simp [member])) ends
    rw [digits, List.cons_append, wholeDigits_cons d _ nonzero, if_pos (all d (by simp)), cut.1,
      cut.2]

private theorem fractionDigits_of_ends (rest : List Char) (ends : EndsNumber rest) :
    fractionDigits rest = none := by
  unfold fractionDigits
  split
  · exact absurd rfl (ends '.' rfl).2.1
  · rfl

private theorem exponentPart_of_ends (rest : List Char) (ends : EndsNumber rest) :
    exponentPart rest = none := by
  cases rest with
  | nil => rfl
  | cons c rest =>
      obtain ⟨_, _, noSmall, noLarge⟩ := ends c rfl
      simp [exponentPart, noSmall, noLarge]

private theorem readUnsigned_toDigits (negative : Bool) (n : Nat) (rest : List Char)
    (ends : EndsNumber rest) :
    readUnsigned negative (Nat.toDigits 10 n ++ rest) =
      if n < Nat.pow 10 Number.maxDigits then
        some (.ok (.int (if negative then -(n : Int) else n), rest))
      else some (.error ⟨.tooManyDigits (Nat.toDigits 10 n).length, 0⟩) := by
  have limit := Nat.length_toDigits_le_iff (b := 10) (n := n) (k := Number.maxDigits)
    (by omega) (by decide)
  rw [← Nat.pow_eq] at limit
  unfold readUnsigned
  simp only [wholeDigits_toDigits n rest ends, fractionDigits_of_ends rest ends,
    exponentPart_of_ends rest ends, digitsValue_toDigits, bind, Option.bind, Option.map_none,
    Option.getD_none, Option.isNone_none, Bool.and_self, if_true]
  by_cases fits : n < Nat.pow 10 Number.maxDigits
  · rw [if_neg (Nat.not_lt.mpr (limit.mpr fits)), if_pos fits]
    rfl
  · rw [if_pos (Nat.lt_of_not_le fun short => fits (limit.mp short)), if_neg fits]

theorem toString_int_toList (n : Int) :
    (toString n).toList =
      if n < 0 then '-' :: Nat.toDigits 10 n.natAbs else Nat.toDigits 10 n.natAbs := by
  rw [Int.toString_eq_repr, Int.repr_eq_if]
  by_cases negative : n < 0
  · have size : (-n).toNat = n.natAbs := by omega
    rw [if_neg (by omega), if_pos negative, String.toList_append, Nat.toList_repr, size]
    rfl
  · have size : n.toNat = n.natAbs := by omega
    rw [if_pos (by omega), if_neg negative, Nat.toList_repr, size]

theorem wordTable_starts : ∀ entry ∈ wordTable, ∃ first second tail,
    entry.1.toList = first :: second :: tail ∧ isDigit first = false ∧ isDigit second = false := by
  simp only [wordTable, List.forall_mem_cons]
  refine ⟨?_, ?_, ?_, ?_, ?_, ?_, by simp⟩ <;> exact ⟨_, _, _, rfl, by decide, by decide⟩

theorem readWord_of_digit (d : Char) (tail : List Char) (digit : isDigit d = true) :
    readWord (d :: tail) = none ∧ readWord ('-' :: d :: tail) = none := by
  constructor <;>
  · rw [readWord, List.findSome?_eq_none_iff]
    rintro ⟨word, value⟩ member
    obtain ⟨first, second, more, start, firstPlain, secondPlain⟩ := wordTable_starts _ member
    have noFirst : first ≠ d := by
      rintro rfl
      simp_all
    have noSecond : second ≠ d := by
      rintro rfl
      simp_all
    simp only at start
    simp [start, List.isPrefixOf, noFirst, noSecond]

/-- A value that starts with none of the signs for texts, lists and mappings is a word or a
number. -/
theorem readValue_scalar (fuel depth : Nat) (c : Char) (tail : List Char) (noQuote : c ≠ '"')
    (noList : c ≠ '[') (noMap : c ≠ '\x7b') :
    readValue (fuel + 1) depth (c :: tail) =
      match readWord (c :: tail) with
      | some found => .ok found
      | none => (readNumber (c :: tail)).getD (fail .expectingValue (c :: tail)) := by
  rewrite [readValue]
  · rfl
  · intro _ same
    exact noQuote (List.cons.inj same).1
  · intro _ same
    exact noList (List.cons.inj same).1
  · intro _ same
    exact noMap (List.cons.inj same).1

private theorem readValue_int (fuel depth : Nat) (n : Int) (rest : List Char)
    (ends : EndsNumber rest) :
    readValue (fuel + 1) depth ((toString n).toList ++ rest) =
      if Number.fitsDecimal n then .ok (.int n, rest)
      else .error ⟨.tooManyDigits (Nat.toDigits 10 n.natAbs).length, 0⟩ := by
  obtain ⟨d, ds, digits⟩ := List.exists_cons_of_ne_nil (Nat.toDigits_ne_nil (n := n.natAbs) (b := 10))
  have digit : isDigit d = true := isDigit_of_mem_toDigits (n := n.natAbs) (by simp [digits])
  have plain : ∀ c, isDigit c = false → d ≠ c := by
    rintro c noDigit rfl
    exact absurd digit (by simp [noDigit])
  have words := readWord_of_digit d (ds ++ rest) digit
  have fits : (Number.fitsDecimal n = true) ↔ n.natAbs < Nat.pow 10 Number.maxDigits := by
    simp [Number.fitsDecimal]
  rw [toString_int_toList]
  by_cases negative : n < 0
  · have number : readNumber ('-' :: (Nat.toDigits 10 n.natAbs ++ rest)) =
        readUnsigned true (Nat.toDigits 10 n.natAbs ++ rest) := rfl
    rw [if_pos negative, List.cons_append,
      readValue_scalar fuel depth '-' _ (by decide) (by decide) (by decide), number,
      readUnsigned_toDigits true _ rest ends, digits, List.cons_append, words.2]
    have value : -(n.natAbs : Int) = n := by omega
    simp only [fits, if_true, value]
    split <;> rfl
  · have number : readNumber (Nat.toDigits 10 n.natAbs ++ rest) =
        readUnsigned false (Nat.toDigits 10 n.natAbs ++ rest) := by
      unfold readNumber
      have sign : numberSign (Nat.toDigits 10 n.natAbs ++ rest) =
          (false, Nat.toDigits 10 n.natAbs ++ rest) := by
        rw [digits, List.cons_append, numberSign.eq_def]
        split
        · rename_i equal
          exact absurd (List.cons.inj equal).1 (plain '-' (by decide))
        · rfl
      rw [sign]
    have scalar := readValue_scalar fuel depth d (ds ++ rest) (plain '"' (by decide))
      (plain '[' (by decide)) (plain '\x7b' (by decide))
    rw [words.1, ← List.cons_append, ← digits, number,
      readUnsigned_toDigits false _ rest ends] at scalar
    rw [if_neg negative, scalar]
    have value : (n.natAbs : Int) = n := by omega
    simp only [fits, value]
    split <;> simp

/-! Blanks between the parts of a document. -/

theorem skipBlanks_blanks (blanks : List Char) (c : Char) (rest : List Char)
    (all : ∀ b ∈ blanks, isBlank b = true) (plain : isBlank c = false) :
    skipBlanks (blanks ++ c :: rest) = c :: rest := by
  rw [skipBlanks, List.dropWhile_append_of_pos all,
    List.dropWhile_cons_of_neg (by simp [plain])]

theorem skipBlanks_cons (c : Char) (rest : List Char) (plain : isBlank c = false) :
    skipBlanks (c :: rest) = c :: rest :=
  skipBlanks_blanks [] c rest (by simp) plain

theorem isBlank_of_mem_breakAt (style : Style) (level : Nat) :
    ∀ b ∈ style.breakAt level, isBlank b = true := by
  intro b member
  unfold Style.breakAt at member
  split at member
  · simp only [List.mem_cons, List.mem_replicate] at member
    rcases member with rfl | ⟨_, rfl⟩ <;> rfl
  · simp at member

theorem comma_eq (style : Style) (level : Nat) :
    ∃ blanks, style.comma level = ',' :: blanks ∧ ∀ b ∈ blanks, isBlank b = true := by
  unfold Style.comma
  split
  · exact ⟨_, rfl, isBlank_of_mem_breakAt style level⟩
  · exact ⟨[' '], rfl, by simp [isBlank]⟩

private theorem endsNumber_breakAt (style : Style) (level : Nat) (c : Char) (rest : List Char)
    (plain : isDigit c = false ∧ c ≠ '.' ∧ c ≠ 'e' ∧ c ≠ 'E') :
    EndsNumber (style.breakAt level ++ c :: rest) := by
  unfold Style.breakAt
  split
  · exact endsNumber_cons _ _ (by decide)
  · exact endsNumber_cons _ _ plain

/-! Values. -/

def fieldEntry (field : String × Value) : Value × Value := (.text field.1, field.2)

/-- The values that documents are made of, nested at most `depth` deep.  The keys of a mapping are
distinct texts. -/
inductive Document : Nat → Value → Prop
  | null {depth : Nat} : Document depth .null
  | bool {depth : Nat} (b : Bool) : Document depth (.bool b)
  | int {depth : Nat} (n : Int) : Document depth (.int n)
  | text {depth : Nat} (s : String) : Document depth (.text s)
  | list {depth : Nat} (items : List Value) (each : ∀ v ∈ items, Document depth v) :
      Document (depth + 1) (.list items)
  | map {depth : Nat} (fields : List (String × Value)) (distinct : (fields.map (·.1)).Nodup)
      (each : ∀ field ∈ fields, Document depth field.2) :
      Document (depth + 1) (.map (fields.map fieldEntry))

theorem Document.mono {depth deeper : Nat} {v : Value} (document : Document depth v)
    (more : depth ≤ deeper) : Document deeper v := by
  induction document generalizing deeper with
  | null => exact .null
  | bool b => exact .bool b
  | int n => exact .int n
  | text s => exact .text s
  | list items each ih =>
      obtain ⟨deeper, rfl⟩ : ∃ n, deeper = n + 1 := ⟨deeper - 1, by omega⟩
      exact .list items fun v member => ih v member (by omega)
  | map fields distinct each ih =>
      obtain ⟨deeper, rfl⟩ : ∃ n, deeper = n + 1 := ⟨deeper - 1, by omega⟩
      exact .map fields distinct fun field member => ih field member (by omega)

def fields? : Value.Entries → Option (List (String × Value))
  | [] => some []
  | (.text name, v) :: rest => (fields? rest).map ((name, v) :: ·)
  | _ => none

theorem fields?_eq_some {entries : Value.Entries} {fields : List (String × Value)} :
    fields? entries = some fields ↔ entries = fields.map fieldEntry := by
  fun_induction fields? entries generalizing fields with
  | case1 => simp [eq_comm]
  | case2 name v rest ih =>
      rw [Option.map_eq_some_iff]
      constructor
      · rintro ⟨more, isRest, rfl⟩
        rw [List.map_cons, ← ih.mp isRest]
        rfl
      · intro same
        cases fields with
        | nil => cases same
        | cons field more =>
            rw [List.map_cons, List.cons.injEq] at same
            obtain ⟨first, isRest⟩ := same
            cases first
            exact ⟨more, ih.mpr isRest, rfl⟩
  | case3 entries notNil notText =>
      refine ⟨nofun, ?_⟩
      rintro rfl
      cases fields with
      | nil => exact absurd rfl notNil
      | cons field more => exact absurd rfl (notText field.1 field.2 (more.map fieldEntry))

def isDocument : Nat → Value → Bool
  | _, .null | _, .bool _ | _, .int _ | _, .text _ => true
  | depth + 1, .list items => items.all fun item => isDocument depth item
  | depth + 1, .map entries =>
      match fields? entries with
      | some fields =>
          decide (fields.map (·.1)).Nodup && fields.all fun field => isDocument depth field.2
      | none => false
  | _, _ => false

private theorem document_of_isDocument {depth : Nat} {v : Value}
    (isDoc : isDocument depth v = true) :
    Document depth v := by
  fun_induction isDocument depth v with
  | case1 => exact .null
  | case2 => exact .bool _
  | case3 => exact .int _
  | case4 => exact .text _
  | case5 depth items ih => exact .list items fun v member => ih v (List.all_eq_true.mp isDoc v member)
  | case6 depth entries fields isFields ih =>
      rw [Bool.and_eq_true, decide_eq_true_eq, List.all_eq_true] at isDoc
      rw [fields?_eq_some.mp isFields]
      exact .map fields isDoc.1 fun field member => ih field (isDoc.2 field member)
  | case7 => cases isDoc
  | case8 => cases isDoc

theorem isDocument_iff {depth : Nat} {v : Value} : isDocument depth v = true ↔ Document depth v := by
  refine ⟨document_of_isDocument, fun document => ?_⟩
  induction document with
  | list items each ih => exact List.all_eq_true.mpr ih
  | map fields distinct each ih =>
      rw [isDocument, fields?_eq_some.mpr rfl]
      simp only [distinct, decide_true, Bool.true_and]
      exact List.all_eq_true.mpr ih
  | _ => simp [isDocument]

instance (depth : Nat) (v : Value) : Decidable (Document depth v) :=
  decidable_of_iff (isDocument depth v = true) isDocument_iff

/-- A text was read as a part of a document: the part itself comes out if its integers can be
read, and otherwise the reader says that one of them is too long. -/
structure Reads {α : Type} (outcome : Outcome α) (readable : Bool) (result : α)
    (rest : List Char) : Prop where
  whole : readable = true → outcome = .ok (result, rest)
  tooLong : readable = false → ∃ count, outcome = .error ⟨.tooManyDigits count, 0⟩

namespace Reads

variable {α β : Type} {outcome : Outcome α} {readable : Bool} {result : α} {rest : List Char}

theorem of_ok (isRead : outcome = .ok (result, rest)) : Reads outcome true result rest :=
  ⟨fun _ => isRead, nofun⟩

private theorem map (reads : Reads outcome readable result rest) (wrap : α → β) :
    Reads (outcome.map fun (a, rest) => (wrap a, rest)) readable (wrap result) rest := by
  constructor
  · intro writable
    rw [reads.whole writable]
    rfl
  · intro long
    obtain ⟨count, failed⟩ := reads.tooLong long
    exact ⟨count, by rw [failed]; rfl⟩

private theorem bind (reads : Reads outcome readable result rest) {next : α × List Char → Outcome β}
    {readable' : Bool} {result' : β} {rest' : List Char}
    (further : Reads (next (result, rest)) readable' result' rest') :
    Reads (outcome.bind next) (readable && readable') result' rest' := by
  cases readable with
  | true =>
      rw [reads.whole rfl, Bool.true_and]
      exact further
  | false =>
      obtain ⟨count, failed⟩ := reads.tooLong rfl
      rw [failed, Bool.false_and]
      exact ⟨nofun, fun _ => ⟨count, rfl⟩⟩

end Reads

/-- The reader takes up a value wherever it has been written. -/
def ReadsBack (style : Style) (depth : Nat) (v : Value) : Prop :=
  ∀ level fuel rest, 2 * (writeValue style level v ++ rest).length + 1 ≤ fuel → EndsNumber rest →
    Reads (readValue fuel depth (writeValue style level v ++ rest)) v.isWritable v rest

private theorem entriesWritable_fields (fields : List (String × Value)) :
    Value.entriesWritable (fields.map fieldEntry) = fields.all fun field => field.2.isWritable := by
  rw [Value.entriesWritable_eq, List.all_map]
  rfl

theorem writeItems_eq_map (style : Style) (level : Nat) (items : List Value) :
    writeItems style level items = items.map (writeValue style level) := by
  induction items with
  | nil => rfl
  | cons v items ih => rw [writeItems, ih, List.map_cons]

def writeField (style : Style) (level : Nat) (field : String × Value) : List Char :=
  writeText style.asciiOnly field.1 ++ ':' :: ' ' :: writeValue style level field.2

theorem writeEntries_eq_map (style : Style) (level : Nat) (fields : List (String × Value)) :
    writeEntries style level (fields.map fieldEntry) = fields.map (writeField style level) := by
  induction fields with
  | nil => rfl
  | cons field fields ih =>
      rw [List.map_cons, fieldEntry, writeEntries, ih, List.map_cons]
      rfl

/-- A sign that may stand at the start of a value: not a blank, the end of a list or the mark of a
byte order. -/
def StartsValue (c : Char) : Prop := isBlank c = false ∧ c ≠ ']' ∧ c ≠ '\uFEFF'

private theorem startsValue_of_isDigit {d : Char} (digit : isDigit d = true) : StartsValue d := by
  have other : ∀ c, isDigit c = false → d ≠ c := by
    rintro c noDigit rfl
    exact absurd digit (by simp [noDigit])
  refine ⟨?_, other ']' (by decide), other '\uFEFF' (by decide)⟩
  simp [isBlank, other ' ' (by decide), other '\t' (by decide), other '\n' (by decide),
    other '\r' (by decide)]

theorem writeValue_start (style : Style) (level : Nat) {depth : Nat} {v : Value}
    (document : Document depth v) :
    ∃ c tail, writeValue style level v = c :: tail ∧ StartsValue c := by
  have sign : ∀ c, c ∈ ['n', 't', 'f', '-', '"', '[', '\x7b'] → StartsValue c := by
    simp [StartsValue, isBlank]
  cases document with
  | null => exact ⟨_, _, rfl, sign 'n' (by simp)⟩
  | bool b =>
      cases b with
      | false => exact ⟨_, _, rfl, sign 'f' (by simp)⟩
      | true => exact ⟨_, _, rfl, sign 't' (by simp)⟩
  | int n =>
      rw [writeValue, toString_int_toList]
      obtain ⟨d, ds, digits⟩ :=
        List.exists_cons_of_ne_nil (Nat.toDigits_ne_nil (n := n.natAbs) (b := 10))
      have digit : isDigit d = true := isDigit_of_mem_toDigits (n := n.natAbs) (by simp [digits])
      split
      · exact ⟨_, _, rfl, sign '-' (by simp)⟩
      · exact ⟨d, ds, digits, startsValue_of_isDigit digit⟩
  | text s => exact ⟨_, _, rfl, sign '"' (by simp)⟩
  | list items each =>
      rw [writeValue, enclosed.eq_def]
      split <;> exact ⟨_, _, rfl, sign '[' (by simp)⟩
  | map fields distinct each =>
      rw [writeValue, enclosed.eq_def]
      split <;> exact ⟨_, _, rfl, sign '\x7b' (by simp)⟩

theorem intercalate_cons_cons (separator first second : List Char) (rest : List (List Char)) :
    separator.intercalate (first :: second :: rest) =
      first ++ (separator ++ separator.intercalate (second :: rest)) := by
  simp [List.intercalate, List.intersperse]

theorem intercalate_singleton (separator only : List Char) :
    separator.intercalate [only] = only := by
  simp [List.intercalate, List.intersperse]

theorem intercalate_start (separator first : List Char) (rest : List (List Char)) (c : Char)
    (tail more : List Char) (start : first = c :: tail) :
    ∃ tail, separator.intercalate (first :: rest) ++ more = c :: tail := by
  subst start
  cases rest with
  | nil => exact ⟨tail ++ more, by rw [intercalate_singleton]; rfl⟩
  | cons second rest =>
      rw [intercalate_cons_cons, List.cons_append, List.cons_append]
      exact ⟨_, rfl⟩

private theorem readNext_closing {α : Type} (closing : Char) (whole : α)
    (further : List Char → Outcome α)
    (blanks rest : List Char) (allBlank : ∀ b ∈ blanks, isBlank b = true)
    (noBlank : isBlank closing = false) :
    readNext closing whole further (blanks ++ closing :: rest) = .ok (whole, rest) := by
  rw [readNext, skipBlanks_blanks blanks closing rest allBlank noBlank, List.head?_cons, if_pos rfl]
  rfl

private theorem readNext_comma {α : Type} (closing : Char) (whole : α)
    (further : List Char → Outcome α)
    (blanks : List Char) (c : Char) (tail : List Char) (noComma : closing ≠ ',')
    (allBlank : ∀ b ∈ blanks, isBlank b = true) (noBlank : isBlank c = false) :
    readNext closing whole further (',' :: (blanks ++ c :: tail)) = further (c :: tail) := by
  rw [readNext, skipBlanks_cons ',' _ (by decide), List.head?_cons, if_neg, if_pos rfl,
    List.tail_cons, skipBlanks_blanks blanks c tail allBlank noBlank]
  rw [Option.some.injEq]
  exact noComma.symm

/-- How the parts of a list or mapping are written, and read on top of those that have been read. -/
structure PartReader (style : Style) (depth level : Nat) (α β : Type) where
  opening : Char
  closing : Char
  write : β → List Char
  value : β → Value
  read : Nat → α → List Char → Outcome α
  start : α
  add : α → β → Value → α
  whole : α → α
  wrap : α → Value
  noBlank : isBlank closing = false
  noComma : closing ≠ ','
  plain : isDigit closing = false ∧ closing ≠ '.' ∧ closing ≠ 'e' ∧ closing ≠ 'E'
  write_start : ∀ part, Document depth (value part) →
    ∃ c tail, write part = c :: tail ∧ isBlank c = false ∧ c ≠ closing
  length_value : ∀ part, (writeValue style level (value part)).length ≤ (write part).length
  read_write : ∀ fuel done part rest, Document depth (value part) →
    read (fuel + 1) done (write part ++ rest) =
      (readValue fuel depth (writeValue style level (value part) ++ rest)).bind fun found =>
        readNext closing (whole (add done part found.1)) (read fuel (add done part found.1)) found.2
  read_enclosed : ∀ fuel tail, readValue (fuel + 1) (depth + 1) (opening :: tail) =
    readEnclosed closing (wrap (whole start)) wrap (read fuel start) tail

namespace PartReader

variable {style : Style} {depth level : Nat} {α β : Type} (reader : PartReader style depth level α β)

/-- What comes out when these parts are read on top of others. -/
def result (done : α) (parts : List β) : α :=
  reader.whole (parts.foldl (fun done part => reader.add done part (reader.value part)) done)

/-- Parts that are written one after the other are read in the same order. -/
theorem reads_parts (outer : Nat) (rest : List Char) (parts : List β) :
    ∀ (part : β) (done : α) (fuel : Nat),
      (∀ p ∈ part :: parts,
        Document depth (reader.value p) ∧ ReadsBack style depth (reader.value p)) →
      2 * ((style.comma level).intercalate ((part :: parts).map reader.write) ++
        (style.breakAt outer ++ reader.closing :: rest)).length + 2 ≤ fuel →
      Reads
        (reader.read fuel done
          ((style.comma level).intercalate ((part :: parts).map reader.write) ++
            (style.breakAt outer ++ reader.closing :: rest)))
        ((part :: parts).all fun p => (reader.value p).isWritable)
        (reader.result done (part :: parts)) rest := by
  induction parts with
  | nil =>
      intro part done fuel each enough
      obtain ⟨fuel, rfl⟩ : ∃ n, fuel = n + 1 := ⟨fuel - 1, by omega⟩
      obtain ⟨document, back⟩ := each part List.mem_cons_self
      have long := reader.length_value part
      rw [List.map_cons, List.map_nil, intercalate_singleton] at enough ⊢
      rw [List.length_append] at enough
      rw [reader.read_write fuel done part _ document, List.all_cons]
      refine (back level fuel _ (by rw [List.length_append]; omega)
        (endsNumber_breakAt style outer reader.closing rest reader.plain)).bind ?_
      exact .of_ok (readNext_closing _ _ _ _ rest (isBlank_of_mem_breakAt style outer)
        reader.noBlank)
  | cons second parts ih =>
      intro part done fuel each enough
      obtain ⟨fuel, rfl⟩ : ∃ n, fuel = n + 1 := ⟨fuel - 1, by omega⟩
      obtain ⟨document, back⟩ := each part List.mem_cons_self
      obtain ⟨blanks, comma, allBlank⟩ := comma_eq style level
      obtain ⟨c, start, begins, noBlank, _⟩ := reader.write_start second (each second (by simp)).1
      obtain ⟨tail, beginsAll⟩ := intercalate_start (style.comma level) (reader.write second)
        (parts.map reader.write) c start (style.breakAt outer ++ reader.closing :: rest) begins
      have long := reader.length_value part
      have next := ih second (reader.add done part (reader.value part)) fuel
        fun p member => each p (List.mem_cons_of_mem part member)
      rw [List.map_cons, beginsAll] at next
      rw [List.map_cons, List.map_cons, intercalate_cons_cons, List.append_assoc,
        List.append_assoc, beginsAll, comma, List.cons_append] at enough ⊢
      simp only [List.length_append, List.length_cons] at enough next
      rw [reader.read_write fuel done part _ document, List.all_cons]
      refine (back level fuel _ ?_ (endsNumber_cons _ _ (by decide))).bind ?_
      · simp only [List.length_append, List.length_cons]
        omega
      · rw [readNext_comma _ _ _ blanks c tail reader.noComma allBlank noBlank]
        exact next (by omega)

/-- A list or mapping is read back if its parts are. -/
theorem reads_enclosed {outer : Nat} (nested : level = outer + 1) (parts : List β) (fuel : Nat)
    (rest : List Char)
    (each : ∀ p ∈ parts, Document depth (reader.value p) ∧ ReadsBack style depth (reader.value p))
    (enough : 2 * (enclosed style outer reader.opening reader.closing (parts.map reader.write) ++
      rest).length ≤ fuel) :
    Reads
      (readValue (fuel + 1) (depth + 1)
        (enclosed style outer reader.opening reader.closing (parts.map reader.write) ++ rest))
      (parts.all fun p => (reader.value p).isWritable)
      (reader.wrap (reader.result reader.start parts)) rest := by
  subst nested
  cases parts with
  | nil =>
      refine .of_ok ((reader.read_enclosed fuel (reader.closing :: rest)).trans ?_)
      rw [readEnclosed, skipBlanks_cons _ rest reader.noBlank, List.head?_cons, if_pos rfl]
      rfl
  | cons part parts =>
      obtain ⟨c, start, begins, noBlank, noClosing⟩ :=
        reader.write_start part (each part List.mem_cons_self).1
      obtain ⟨tail, beginsAll⟩ := intercalate_start (style.comma (outer + 1)) (reader.write part)
        (parts.map reader.write) c start (style.breakAt outer ++ reader.closing :: rest) begins
      have reads := reader.reads_parts outer rest parts part reader.start fuel each
      simp only [List.map_cons, enclosed, List.cons_append, List.append_assoc,
        List.nil_append] at enough reads ⊢
      rw [beginsAll] at enough reads ⊢
      rw [reader.read_enclosed, readEnclosed, skipBlanks_blanks _ c tail
        (isBlank_of_mem_breakAt style (outer + 1)) noBlank, List.head?_cons, if_neg]
      · refine (reads ?_).map reader.wrap
        simp only [List.length_append, List.length_cons] at enough ⊢
        omega
      · rw [Option.some.injEq]
        exact noClosing

end PartReader

theorem put_field (done : List (String × Value)) (field : String × Value)
    (fresh : field.1 ∉ done.map (·.1)) :
    Value.Entries.put (.text field.1) field.2 (done.map fieldEntry) =
      (done ++ [field]).map fieldEntry := by
  induction done with
  | nil => rfl
  | cons first done ih =>
      rw [List.map_cons, List.mem_cons, not_or] at fresh
      have other : Value.sameKey (.text first.1) (.text field.1) = false := by
        simp [Value.sameKey, Ne.symm fresh.1]
      rw [List.map_cons, fieldEntry, Value.Entries.put, other, ih fresh.2]
      rfl

private theorem readEntries_key (asciiOnly : Bool) (fuel depth : Nat) (done : Value.Entries)
    (key : String) (c : Char) (tail : List Char) (noBlank : isBlank c = false) :
    readEntries (fuel + 1) depth done (writeText asciiOnly key ++ ':' :: ' ' :: c :: tail) =
      (readValue fuel depth (c :: tail)).bind fun found =>
        readNext '\x7d' (done.put (.text key) found.1)
          (readEntries fuel depth (done.put (.text key) found.1)) found.2 := by
  obtain ⟨text, opening, _⟩ :=
    readString_writeText asciiOnly 0 key (':' :: ' ' :: c :: tail)
  obtain ⟨text', opening', readKey⟩ :=
    readString_writeText asciiOnly (text.length + 1) key (':' :: ' ' :: c :: tail)
  have same : text' = text := (List.cons.inj (opening'.symm.trans opening)).2
  subst same
  have space := skipBlanks_blanks [' '] c tail (by simp [isBlank]) noBlank
  rw [opening, readEntries_succ, readKey]
  simp only [Except.bind, readAfterKey, skipBlanks_cons ':' (' ' :: c :: tail) (by decide),
    List.head?_cons, if_true, List.tail_cons]
  rewrite [show ' ' :: c :: tail = [' '] ++ c :: tail from rfl, space]
  rfl

def itemReader (style : Style) (depth level : Nat) :
    PartReader style depth level (List Value) Value where
  opening := '['
  closing := ']'
  write := writeValue style level
  value v := v
  read fuel := readItems fuel depth
  start := []
  add done _ v := v :: done
  whole := List.reverse
  wrap := .list
  noBlank := rfl
  noComma := by decide
  plain := by decide
  write_start v document := by
    obtain ⟨c, tail, begins, noBlank, noClosing, _⟩ := writeValue_start style level document
    exact ⟨c, tail, begins, noBlank, noClosing⟩
  length_value v := Nat.le_refl _
  read_write fuel done v rest _ := readItems_succ fuel depth done _
  read_enclosed fuel tail := readValue_items fuel depth tail

def fieldReader (style : Style) (depth level : Nat) :
    PartReader style depth level Value.Entries (String × Value) where
  opening := '\x7b'
  closing := '\x7d'
  write := writeField style level
  value field := field.2
  read fuel := readEntries fuel depth
  start := []
  add done field v := done.put (.text field.1) v
  whole entries := entries
  wrap := .map
  noBlank := rfl
  noComma := by decide
  plain := by decide
  write_start field _ := ⟨'"', _, rfl, rfl, by decide⟩
  length_value field := by
    rw [writeField, List.length_append, List.length_cons, List.length_cons]
    omega
  read_write fuel done field rest document := by
    obtain ⟨c, tail, begins, noBlank, _⟩ := writeValue_start style level document
    rw [writeField, begins, List.append_assoc]
    exact readEntries_key style.asciiOnly fuel depth done field.1 c (tail ++ rest) noBlank
  read_enclosed fuel tail := readValue_entries fuel depth tail

private theorem itemReader_result (style : Style) (depth level : Nat) (done items : List Value) :
    (itemReader style depth level).result done items = done.reverse ++ items := by
  induction items generalizing done with
  | nil => simp [PartReader.result, itemReader]
  | cons v items ih =>
      have further := ih (v :: done)
      rw [List.reverse_cons, List.append_assoc] at further
      exact further

private theorem fieldReader_result (style : Style) (depth level : Nat)
    (done fields : List (String × Value))
    (distinct : ((done ++ fields).map (·.1)).Nodup) :
    (fieldReader style depth level).result (done.map fieldEntry) fields =
      (done ++ fields).map fieldEntry := by
  induction fields generalizing done with
  | nil => rw [List.append_nil]; rfl
  | cons field fields ih =>
      have fresh : field.1 ∉ done.map (·.1) := by
        rw [List.map_append, List.nodup_append] at distinct
        intro member
        exact distinct.2.2 _ member _ List.mem_cons_self rfl
      have further := ih (done ++ [field]) (by simpa using distinct)
      rw [List.append_assoc, ← put_field done field fresh] at further
      exact further

/-- A document is read back wherever it has been written. -/
theorem readsBack (style : Style) {depth : Nat} {v : Value} (document : Document depth v) :
    ReadsBack style depth v := by
  induction document with
  | null =>
      intro level fuel rest enough ends
      obtain ⟨fuel, rfl⟩ : ∃ n, fuel = n + 1 := ⟨fuel - 1, by omega⟩
      exact .of_ok rfl
  | bool b =>
      intro level fuel rest enough ends
      obtain ⟨fuel, rfl⟩ : ∃ n, fuel = n + 1 := ⟨fuel - 1, by omega⟩
      cases b <;> exact .of_ok rfl
  | @int depth n =>
      intro level fuel rest enough ends
      obtain ⟨fuel, rfl⟩ : ∃ n, fuel = n + 1 := ⟨fuel - 1, by omega⟩
      have read := readValue_int fuel depth n rest ends
      constructor
      · intro fits
        rw [Value.isWritable] at fits
        rw [writeValue, read, if_pos fits]
      · intro long
        rw [Value.isWritable] at long
        exact ⟨_, by rw [writeValue, read, long]; rfl⟩
  | text s =>
      intro level fuel rest enough ends
      obtain ⟨fuel, rfl⟩ : ∃ n, fuel = n + 1 := ⟨fuel - 1, by omega⟩
      obtain ⟨tail, opening, _⟩ := readString_writeText style.asciiOnly 0 s rest
      obtain ⟨tail', opening', read⟩ :=
        readString_writeText style.asciiOnly (tail.length + 1) s rest
      have same : tail' = tail := (List.cons.inj (opening'.symm.trans opening)).2
      subst same
      rw [writeValue, opening, readValue, read]
      exact .of_ok rfl
  | @list depth items each ih =>
      intro level fuel rest enough ends
      obtain ⟨fuel, rfl⟩ : ∃ n, fuel = n + 1 := ⟨fuel - 1, by omega⟩
      rw [writeValue, writeItems_eq_map] at enough ⊢
      have reads := (itemReader style depth (level + 1)).reads_enclosed rfl items fuel rest
        (fun v member => ⟨each v member, ih v member⟩) (Nat.le_of_succ_le_succ enough)
      rw [itemReader_result] at reads
      rw [Value.isWritable, Value.allWritable_eq]
      exact reads
  | @map depth fields distinct each ih =>
      intro level fuel rest enough ends
      obtain ⟨fuel, rfl⟩ : ∃ n, fuel = n + 1 := ⟨fuel - 1, by omega⟩
      rw [writeValue, writeEntries_eq_map] at enough ⊢
      have reads := (fieldReader style depth (level + 1)).reads_enclosed rfl fields fuel rest
        (fun field member => ⟨each field member, ih field member⟩) (Nat.le_of_succ_le_succ enough)
      have result := fieldReader_result style depth (level + 1) [] fields distinct
      rw [Value.isWritable, entriesWritable_fields, ← List.nil_append fields, ← result]
      exact reads

/-- A text that starts with no mark and no blank holds a value and nothing after it. -/
theorem readChars_cons (c : Char) (tail : List Char) (noMark : c ≠ '\uFEFF')
    (noBlank : isBlank c = false) :
    readChars (c :: tail) =
      match readValue (2 * (c :: tail).length + 2) maxDepth (c :: tail) with
      | .error e => .error e
      | .ok (value, rest) =>
          match skipBlanks rest with
          | [] => .ok value
          | extra => .error ⟨.extraData, extra.length⟩ := by
  rw [readChars.eq_def]
  split
  · rename_i equal
    exact absurd (List.cons.inj equal).1 noMark
  · rewrite [skipBlanks_cons c tail noBlank]
    rfl

private theorem endsNumber_blanks {blanks : List Char} (allBlank : ∀ b ∈ blanks, isBlank b = true) :
    EndsNumber blanks := by
  cases blanks with
  | nil =>
      intro c member
      cases member
  | cons b blanks =>
      refine endsNumber_cons b blanks ?_
      have blank := allBlank b List.mem_cons_self
      simp only [isBlank, Bool.or_eq_true, beq_iff_eq] at blank
      obtain ((rfl | rfl) | rfl) | rfl := blank <;> decide

theorem readChars_written (style : Style) {v : Value} (document : Document maxDepth v)
    {blanks : List Char} (allBlank : ∀ b ∈ blanks, isBlank b = true) :
    (v.isWritable = true → readChars (writeValue style 0 v ++ blanks) = .ok v) ∧
      (v.isWritable = false → ∃ count,
        readChars (writeValue style 0 v ++ blanks) = .error ⟨.tooManyDigits count, 0⟩) := by
  obtain ⟨c, tail, start, noBlank, _, noMark⟩ := writeValue_start style 0 document
  have back := readsBack style document 0 (2 * (writeValue style 0 v ++ blanks).length + 2) blanks
    (by simp) (endsNumber_blanks allBlank)
  have unfolded := readChars_cons c (tail ++ blanks) noMark noBlank
  rw [← List.cons_append, ← start] at unfolded
  have nothing : skipBlanks (blanks ++ []) = [] := List.dropWhile_append_of_pos allBlank
  rw [List.append_nil] at nothing
  rw [unfolded]
  constructor
  · intro writable
    rw [back.whole writable]
    simp only [nothing]
  · intro long
    obtain ⟨count, failed⟩ := back.tooLong long
    exact ⟨count, by rw [failed]⟩

/-- Reading a written document gives the document back, unless one of its integers is too long. -/
theorem read_write (style : Style) {v : Value} (document : Document maxDepth v) :
    (v.isWritable = true → read (write style v) = .ok v) ∧
      (v.isWritable = false →
        ∃ count, read (write style v) = .error ⟨.tooManyDigits count, 0⟩) := by
  have whole := readChars_written style document (List.forall_mem_nil _)
  rw [List.append_nil] at whole
  rwa [read, write, String.toList_ofList]

/-! A written document has no carriage return, so its line ends are those that it was written
with. -/

private theorem isDigit_ne_return {c : Char} (digit : isDigit c = true) : c ≠ '\r' := by
  rintro rfl
  cases digit

private theorem hexDigit_ne_return (n : Nat) : Text.hexDigit (n % 16) ≠ '\r' := by
  have all : ∀ d : Fin 16, Text.hexDigit d.val ≠ '\r' := by decide
  exact all ⟨n % 16, Nat.mod_lt _ (by omega)⟩

private theorem return_not_mem_codeEscape (code : Nat) : '\r' ∉ codeEscape code := by
  rw [codeEscape, hexDigits_four]
  simp only [List.mem_cons, List.not_mem_nil, or_false, not_or]
  exact ⟨by decide, by decide, (hexDigit_ne_return _).symm, (hexDigit_ne_return _).symm,
    (hexDigit_ne_return _).symm, (hexDigit_ne_return _).symm⟩

private theorem return_not_mem_writeChar (asciiOnly : Bool) (c : Char) :
    '\r' ∉ writeChar asciiOnly c := by
  fun_cases writeChar asciiOnly c with
  | case8 => exact return_not_mem_codeEscape c.toNat
  | case9 =>
      unfold escapeWide
      split
      · exact return_not_mem_codeEscape c.toNat
      · rw [List.mem_append, not_or]
        exact ⟨return_not_mem_codeEscape _, return_not_mem_codeEscape _⟩
  | case10 =>
      rw [List.mem_singleton]
      rintro rfl
      simp_all
  | _ => decide

private theorem return_not_mem_writeText (asciiOnly : Bool) (text : String) :
    '\r' ∉ writeText asciiOnly text := by
  simp only [writeText, List.mem_cons, List.mem_append, List.mem_flatMap, List.not_mem_nil,
    or_false, not_or]
  refine ⟨⟨by decide, ?_⟩, by decide⟩
  rintro ⟨c, _, member⟩
  exact return_not_mem_writeChar asciiOnly c member

theorem return_not_mem_breakAt (style : Style) (level : Nat) : '\r' ∉ style.breakAt level := by
  unfold Style.breakAt
  split
  · simp only [List.mem_cons, List.mem_replicate, not_or]
    exact ⟨by decide, fun member => absurd member.2 (by decide)⟩
  · simp

private theorem return_not_mem_comma (style : Style) (level : Nat) : '\r' ∉ style.comma level := by
  unfold Style.comma
  split
  · rw [List.mem_cons, not_or]
    exact ⟨by decide, return_not_mem_breakAt style level⟩
  · decide

private theorem return_not_mem_intercalate (separator : List Char) (parts : List (List Char))
    (noSeparator : '\r' ∉ separator) (noPart : ∀ part ∈ parts, '\r' ∉ part) :
    '\r' ∉ separator.intercalate parts := by
  induction parts with
  | nil => simp
  | cons first parts ih =>
      have tail := ih fun part member => noPart part (by simp [member])
      cases parts with
      | nil =>
          rw [intercalate_singleton]
          exact noPart first (by simp)
      | cons second parts =>
          rw [intercalate_cons_cons, List.mem_append, List.mem_append, not_or, not_or]
          exact ⟨noPart first (by simp), noSeparator, tail⟩

private theorem return_not_mem_enclosed (style : Style) (level : Nat) (opening closing : Char)
    (parts : List (List Char)) (noOpening : opening ≠ '\r') (noClosing : closing ≠ '\r')
    (noPart : ∀ part ∈ parts, '\r' ∉ part) :
    '\r' ∉ enclosed style level opening closing parts := by
  unfold enclosed
  split
  · simp [noOpening.symm, noClosing.symm]
  · simp only [List.mem_cons, List.mem_append, List.not_mem_nil, or_false, not_or]
    exact ⟨⟨⟨⟨noOpening.symm, return_not_mem_breakAt style (level + 1)⟩,
      return_not_mem_intercalate _ _ (return_not_mem_comma style (level + 1)) noPart⟩,
      return_not_mem_breakAt style level⟩, noClosing.symm⟩

theorem return_not_mem_writeValue (style : Style) {depth : Nat} {v : Value}
    (document : Document depth v) : ∀ level, '\r' ∉ writeValue style level v := by
  induction document with
  | null =>
      intro level
      rw [writeValue]
      decide
  | bool b =>
      intro level
      rw [writeValue]
      cases b <;> decide
  | int n =>
      intro level
      rw [writeValue, toString_int_toList]
      have digits : '\r' ∉ Nat.toDigits 10 n.natAbs := fun member =>
        isDigit_ne_return (isDigit_of_mem_toDigits member) rfl
      split
      · rw [List.mem_cons, not_or]
        exact ⟨by decide, digits⟩
      · exact digits
  | text s =>
      intro level
      exact return_not_mem_writeText style.asciiOnly s
  | list items each ih =>
      intro level
      rw [writeValue, writeItems_eq_map]
      refine return_not_mem_enclosed style level _ _ _ (by decide) (by decide) ?_
      intro part member
      obtain ⟨v, inside, rfl⟩ := List.mem_map.mp member
      exact ih v inside (level + 1)
  | map fields distinct each ih =>
      intro level
      rw [writeValue, writeEntries_eq_map]
      refine return_not_mem_enclosed style level _ _ _ (by decide) (by decide) ?_
      intro part member
      obtain ⟨field, inside, rfl⟩ := List.mem_map.mp member
      simp only [writeField, List.mem_append, List.mem_cons, not_or]
      exact ⟨return_not_mem_writeText style.asciiOnly field.1, by decide, by decide,
        ih field inside (level + 1)⟩

end Json

end MobileAudit
