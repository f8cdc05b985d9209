import MobileAudit.Json.Read

namespace MobileAudit

/-! The reader of JSON by its parts.  Lists and mappings are read in the same way: behind the
opening sign either the closing sign follows or parts do, and behind each part either the closing
sign or a comma and further parts. -/

/-! Steps that succeed. -/

theorem bind_eq_ok {ε α β : Type} {first : Except ε α} {next : α → Except ε β} {result : β} :
    first >>= next = .ok result ↔ ∃ a, first = .ok a ∧ next a = .ok result := by
  cases first with
  | error e =>
      constructor
      · intro failed
        cases failed
      · rintro ⟨a, isOk, _⟩
        cases isOk
  | ok a =>
      constructor
      · intro success
        exact ⟨a, rfl, success⟩
      · rintro ⟨b, isOk, success⟩
        cases isOk
        exact success

@[simp] theorem map_eq_ok {ε α β : Type} {f : α → β} {outcome : Except ε α} {result : β} :
    outcome.map f = .ok result ↔ ∃ a, outcome = .ok a ∧ f a = result := by
  cases outcome with
  | error e =>
      constructor
      · intro failed
        cases failed
      · rintro ⟨_, isOk, _⟩
        cases isOk
  | ok a =>
      constructor
      · intro isResult
        cases isResult
        exact ⟨a, rfl, rfl⟩
      · rintro ⟨_, isOk, rfl⟩
        cases isOk
        rfl

@[simp] theorem toOption_map {ε α β : Type} (f : α → β) (outcome : Except ε α) :
    (outcome.map f).toOption = outcome.toOption.map f := by
  cases outcome <;> rfl

@[simp] theorem toOption_eq_some {ε α : Type} {outcome : Except ε α} {a : α} :
    outcome.toOption = some a ↔ outcome = .ok a := by
  cases outcome <;> simp [Except.toOption]

@[simp] theorem toOption_bind {ε α β : Type} (outcome : Except ε α) (next : α → Except ε β) :
    (outcome.bind next).toOption = outcome.toOption.bind fun a => (next a).toOption := by
  cases outcome <;> rfl

namespace Json

theorem head?_ne_some {c : Char} {text : List Char} (other : ∀ rest, text = c :: rest → False) :
    text.head? ≠ some c := by
  intro first
  obtain ⟨rest, start⟩ := List.head?_eq_some_iff.mp first
  exact other rest start

/-! Lists and mappings. -/

/-- What follows the opening sign of a list or mapping: the closing sign, or parts. -/
def readEnclosed {α : Type} (closing : Char) (empty : Value) (wrap : α → Value)
    (parts : List Char → Outcome α) (tail : List Char) : Outcome Value :=
  if (skipBlanks tail).head? = some closing then .ok (empty, (skipBlanks tail).tail)
  else (parts (skipBlanks tail)).map fun (a, rest) => (wrap a, rest)

/-- What follows a part of a list or mapping: the closing sign, or a comma and further parts. -/
def readNext {α : Type} (closing : Char) (whole : α) (further : List Char → Outcome α)
    (rest : List Char) : Outcome α :=
  if (skipBlanks rest).head? = some closing then .ok (whole, (skipBlanks rest).tail)
  else if (skipBlanks rest).head? = some ',' then further (skipBlanks (skipBlanks rest).tail)
  else fail .expectingComma (skipBlanks rest)

/-- What follows a key: a colon and a value, and then further entries. -/
def readAfterKey (fuel depth : Nat) (entries : Value.Entries) (key : String) (rest : List Char) :
    Outcome Value.Entries :=
  if (skipBlanks rest).head? = some ':' then
    (readValue fuel depth (skipBlanks (skipBlanks rest).tail)).bind fun found =>
      readNext '\x7d' (entries.put (.text key) found.1)
        (readEntries fuel depth (entries.put (.text key) found.1)) found.2
  else fail .expectingColon (skipBlanks rest)

theorem readValue_items (fuel depth : Nat) (tail : List Char) :
    readValue (fuel + 1) (depth + 1) ('[' :: tail) =
      readEnclosed ']' (.list []) .list (readItems fuel depth []) tail := by
  rw [readValue, readEnclosed]
  split
  · rename_i closed
    simp [closed]
  · rename_i parts
    rw [if_neg (head?_ne_some parts)]

theorem readValue_entries (fuel depth : Nat) (tail : List Char) :
    readValue (fuel + 1) (depth + 1) ('\x7b' :: tail) =
      readEnclosed '\x7d' (.map []) .map (readEntries fuel depth []) tail := by
  rw [readValue, readEnclosed]
  split
  · rename_i closed
    simp [closed]
  · rename_i parts
    rw [if_neg (head?_ne_some parts)]


theorem readItems_succ (fuel depth : Nat) (items : List Value) (text : List Char) :
    readItems (fuel + 1) depth items text = (readValue fuel depth text).bind fun found =>
      readNext ']' (found.1 :: items).reverse (readItems fuel depth (found.1 :: items))
        found.2 := by
  rw [readItems]
  cases readValue fuel depth text with
  | error e => rfl
  | ok found =>
      simp only [Except.bind, readNext]
      split
      · rename_i closed
        simp [closed]
      · rename_i comma
        simp [comma]
      · rename_i noClose noComma
        rw [if_neg (head?_ne_some noClose), if_neg (head?_ne_some noComma)]

theorem readEntries_succ (fuel depth : Nat) (entries : Value.Entries) (tail : List Char) :
    readEntries (fuel + 1) depth entries ('"' :: tail) =
      (readString (tail.length + 1) ⟨[], none⟩ tail).bind fun found =>
        readAfterKey fuel depth entries found.1 found.2 := by
  rw [readEntries]
  cases readString (tail.length + 1) ⟨[], none⟩ tail with
  | error e => rfl
  | ok found =>
      simp only [Except.bind, readAfterKey]
      split
      · rename_i colon
        simp only [colon, List.head?_cons, if_true, List.tail_cons]
        cases readValue fuel depth (skipBlanks _) with
        | error e => rfl
        | ok found =>
            simp only [readNext]
            split
            · rename_i closed
              simp [closed]
            · rename_i comma
              simp [comma]
            · rename_i noClose noComma
              rw [if_neg (head?_ne_some noClose), if_neg (head?_ne_some noComma)]
      · rename_i noColon
        rw [if_neg (head?_ne_some noColon)]

theorem readEntries_noKey (fuel depth : Nat) (entries : Value.Entries) {text : List Char}
    (noText : text.head? ≠ some '"') :
    readEntries (fuel + 1) depth entries text = fail .expectingKey text := by
  unfold readEntries
  split
  · exact absurd rfl noText
  · rfl

/-! Values without parts. -/

theorem readValue_leaf (fuel depth : Nat) {text : List Char} (noList : text.head? ≠ some '[')
    (noMap : text.head? ≠ some '\x7b') : readValue (fuel + 1) depth text = readValue 1 0 text := by
  unfold readValue
  split
  · rfl
  · exact absurd rfl noList
  · exact absurd rfl noMap
  · rfl

/-! What has been read. -/

section

variable {α : Type} {closing : Char} {rest rest' : List Char}

theorem readEnclosed_eq_ok {empty v : Value} {wrap : α → Value} {parts : List Char → Outcome α}
    {tail : List Char} (isRead : readEnclosed closing empty wrap parts tail = .ok (v, rest)) :
    v = empty ∨ ∃ text a, parts text = .ok (a, rest) ∧ v = wrap a := by
  unfold readEnclosed at isRead
  split at isRead
  · cases isRead
    exact .inl rfl
  · obtain ⟨⟨a, _⟩, isParts, same⟩ := map_eq_ok.mp isRead
    cases same
    exact .inr ⟨_, a, isParts, rfl⟩

theorem readNext_eq_ok {whole a : α} {further : List Char → Outcome α}
    (isRead : readNext closing whole further rest = .ok (a, rest')) :
    a = whole ∨ ∃ text, further text = .ok (a, rest') := by
  unfold readNext at isRead
  split at isRead
  · cases isRead
    exact .inl rfl
  split at isRead
  · exact .inr ⟨_, isRead⟩
  · cases isRead

end

variable {fuel depth : Nat} {text rest : List Char}

theorem readItems_eq_ok {done items : List Value}
    (isRead : readItems (fuel + 1) depth done text = .ok (items, rest)) :
    ∃ item behind, readValue fuel depth text = .ok (item, behind) ∧
      (items = (item :: done).reverse ∨
        ∃ text', readItems fuel depth (item :: done) text' = .ok (items, rest)) := by
  rw [readItems_succ] at isRead
  obtain ⟨⟨item, behind⟩, isItem, isNext⟩ := bind_eq_ok.mp isRead
  exact ⟨item, behind, isItem, readNext_eq_ok isNext⟩

theorem readEntries_eq_ok {done entries : Value.Entries}
    (isRead : readEntries (fuel + 1) depth done text = .ok (entries, rest)) :
    ∃ key value text' behind, readValue fuel depth text' = .ok (value, behind) ∧
      (entries = done.put (.text key) value ∨
        ∃ text'', readEntries fuel depth (done.put (.text key) value) text'' =
          .ok (entries, rest)) := by
  by_cases isText : text.head? = some '"'
  · obtain ⟨tail, rfl⟩ := List.head?_eq_some_iff.mp isText
    rw [readEntries_succ] at isRead
    obtain ⟨⟨key, afterKey⟩, _, isRead⟩ := bind_eq_ok.mp isRead
    unfold readAfterKey at isRead
    split at isRead
    · obtain ⟨⟨value, behind⟩, isValue, isNext⟩ := bind_eq_ok.mp isRead
      exact ⟨key, value, _, behind, isValue, readNext_eq_ok isNext⟩
    · cases isRead
  · rw [readEntries_noKey fuel depth done isText] at isRead
    cases isRead

theorem readLeaf_eq_ok {v : Value} (isRead : readValue 1 0 text = .ok (v, rest)) :
    (∃ tail s, text = '"' :: tail ∧ v = .text s ∧
      readString (tail.length + 1) ⟨[], none⟩ tail = .ok (s, rest)) ∨
    readWord text = some (v, rest) ∨ readNumber text = some (.ok (v, rest)) := by
  unfold readValue at isRead
  simp only at isRead
  split at isRead
  · rename_i tail
    obtain ⟨⟨s, _⟩, isString, same⟩ := map_eq_ok.mp isRead
    cases same
    exact .inl ⟨tail, s, rfl, rfl, isString⟩
  · cases isRead
  · cases isRead
  · split at isRead
    · rename_i isWord
      cases isRead
      exact .inr (.inl isWord)
    · cases number : readNumber text with
      | none =>
          rw [number] at isRead
          cases isRead
      | some outcome =>
          rw [number] at isRead
          exact .inr (.inr (congrArg some isRead))

theorem readValue_eq_ok {v : Value} (isRead : readValue (fuel + 1) depth text = .ok (v, rest)) :
    readValue 1 0 text = .ok (v, rest) ∨
    (∃ inner tail, text = '[' :: tail ∧
      readEnclosed ']' (.list []) .list (readItems fuel inner []) tail = .ok (v, rest)) ∨
    ∃ inner tail, text = '\x7b' :: tail ∧
      readEnclosed '\x7d' (.map []) .map (readEntries fuel inner []) tail = .ok (v, rest) := by
  by_cases isList : text.head? = some '['
  · obtain ⟨tail, rfl⟩ := List.head?_eq_some_iff.mp isList
    cases depth with
    | zero =>
        rw [readValue] at isRead
        cases isRead
    | succ depth =>
        rw [readValue_items] at isRead
        exact .inr (.inl ⟨depth, tail, rfl, isRead⟩)
  by_cases isMap : text.head? = some '\x7b'
  · obtain ⟨tail, rfl⟩ := List.head?_eq_some_iff.mp isMap
    cases depth with
    | zero =>
        rw [readValue] at isRead
        cases isRead
    | succ depth =>
        rw [readValue_entries] at isRead
        exact .inr (.inr ⟨depth, tail, rfl, isRead⟩)
  rw [readValue_leaf fuel depth isList isMap] at isRead
  exact .inl isRead

theorem exists_of_read {text : String} {v : Value} (isRead : read text = .ok v) :
    ∃ fuel depth text' rest, readValue fuel depth text' = .ok (v, rest) := by
  unfold read readChars at isRead
  split at isRead
  · cases isRead
  · split at isRead
    · cases isRead
    · rename_i isValue
      split at isRead
      · cases isRead
        exact ⟨_, _, _, _, isValue⟩
      · cases isRead

/-! Lists within lists. -/

private theorem readValue_lists (further : Nat) : ∀ depth fuel, 2 * depth < fuel →
    readValue fuel depth (List.replicate (depth + (further + 1)) '[') =
      .error ⟨.tooDeep .array, further + 1⟩ := by
  intro depth
  induction depth with
  | zero =>
      intro fuel enough
      obtain ⟨fuel, rfl⟩ := Nat.exists_eq_succ_of_ne_zero (Nat.ne_of_gt enough)
      rw [Nat.zero_add, List.replicate_succ, readValue, fail, List.length_cons,
        List.length_replicate]
  | succ depth ih =>
      intro fuel enough
      obtain ⟨fuel, rfl⟩ : ∃ less, fuel = less + 2 := ⟨fuel - 2, by omega⟩
      have blanks : skipBlanks (List.replicate (depth + (further + 1)) '[') =
          List.replicate (depth + (further + 1)) '[' := rfl
      have opened : (List.replicate (depth + (further + 1)) '[').head? ≠ some ']' := by
        rw [← Nat.add_assoc, List.replicate_succ]
        simp
      rw [Nat.succ_add, List.replicate_succ, readValue_items, readEnclosed, blanks,
        if_neg opened, readItems_succ, ih fuel (by omega)]
      rfl

/-- A text of more opening brackets than may nest is too deep. -/
theorem read_lists (further : Nat) :
    read (String.ofList (List.replicate (maxDepth + (further + 1)) '[')) =
      .error ⟨.tooDeep .array, further + 1⟩ := by
  rw [read, String.toList_ofList]
  generalize isDepth : maxDepth = depth
  have deep := readValue_lists further depth (2 * (depth + (further + 1)) + 2) (by omega)
  have blanks : skipBlanks (List.replicate (depth + (further + 1)) '[') =
      List.replicate (depth + (further + 1)) '[' := rfl
  unfold readChars
  split
  · rename_i marked
    cases marked
  · rw [isDepth, List.length_replicate, blanks, deep]

end Json

end MobileAudit
