import MobileAudit.Check.Scalar
import MobileAudit.Proofs.Document.Keys
import MobileAudit.Proofs.Json.Parts

namespace MobileAudit

/-! What texts in JSON can be read as.  Mappings have distinct keys, which are texts, nothing has a
label, and integers are small enough to be written; so are the integers that a check makes of
them. -/

namespace Json

/-! Numbers. -/

private theorem digitValue_lt {c : Char} (digit : isDigit c = true) : c.toNat - 48 < 10 := by
  simp only [isDigit, Bool.and_eq_true, decide_eq_true_eq, Char.le_def] at digit
  have upper : c.toNat ≤ 57 := digit.2
  omega

private theorem foldl_digits_lt (digits : List Char) (all : ∀ c ∈ digits, isDigit c = true) :
    ∀ n places, n < Nat.pow 10 places →
      digits.foldl (fun n c => n * 10 + (c.toNat - 48)) n <
        Nat.pow 10 (places + digits.length) := by
  induction digits with
  | nil =>
      intro n places small
      exact small
  | cons c digits ih =>
      intro n places small
      have digit := digitValue_lt (all c (by simp))
      have longer : n * 10 + (c.toNat - 48) < Nat.pow 10 (places + 1) := by
        have grown : Nat.pow 10 (places + 1) = Nat.pow 10 places * 10 := rfl
        omega
      have further := ih (fun d member => all d (by simp [member])) _ _ longer
      rw [List.foldl_cons, List.length_cons]
      rwa [Nat.add_right_comm, Nat.add_assoc] at further

private theorem digitsValue_lt {digits : List Char} (all : ∀ c ∈ digits, isDigit c = true)
    {places : Nat} (short : digits.length ≤ places) :
    digitsValue digits < Nat.pow 10 places := by
  have bound := foldl_digits_lt digits all 0 0 (by decide)
  rw [Nat.zero_add] at bound
  exact Nat.lt_of_lt_of_le bound (Nat.pow_le_pow_right (by omega) short)

/-- Digits that may be read are those of a number that may be written, with either sign. -/
theorem fitsDecimal_digits {digits : List Char} (all : ∀ c ∈ digits, isDigit c = true)
    (short : digits.length ≤ Number.maxDigits) (negative : Prop) [Decidable negative] :
    Number.fitsDecimal
      (if negative then -Int.ofNat (digitsValue digits) else Int.ofNat (digitsValue digits)) =
        true := by
  have size : (if negative then -Int.ofNat (digitsValue digits)
      else Int.ofNat (digitsValue digits)).natAbs = digitsValue digits := by
    split
    · exact Int.natAbs_neg _
    · rfl
  rw [Number.fitsDecimal, size, decide_eq_true_eq]
  exact digitsValue_lt all short

private theorem wholeDigits_all {text whole rest : List Char}
    (cut : wholeDigits text = some (whole, rest)) : ∀ c ∈ whole, isDigit c = true := by
  unfold wholeDigits at cut
  split at cut
  · cases cut
    simp only [List.mem_singleton]
    rintro c rfl
    decide
  · split at cut
    · rename_i first
      cases cut
      intro c member
      rw [List.mem_cons] at member
      obtain rfl | later := member
      · exact first
      · exact List.all_eq_true.mp List.all_takeWhile c later
    · cases cut
  · cases cut

private theorem readNumber_cases {text rest : List Char} {v : Value}
    (isRead : readNumber text = some (.ok (v, rest))) :
    (∃ n, v = .int n ∧ Number.fitsDecimal n = true) ∨ ∃ x, v = .float x := by
  unfold readNumber readUnsigned at isRead
  simp only at isRead
  cases whole : wholeDigits (numberSign text).2 with
  | none =>
      rw [whole] at isRead
      cases isRead
  | some cut =>
      obtain ⟨digits, after⟩ := cut
      rw [whole] at isRead
      simp only [bind, Option.bind] at isRead
      split at isRead
      · split at isRead
        · cases isRead
        · rename_i short
          cases isRead
          exact .inl ⟨_, rfl, fitsDecimal_digits (wholeDigits_all whole) (by omega) _⟩
      · cases isRead
        exact .inr ⟨_, rfl⟩

/-! Values. -/

inductive IsLeaf : Value → Prop
  | null : IsLeaf .null
  | bool (b : Bool) : IsLeaf (.bool b)
  | int {n : Int} (fits : Number.fitsDecimal n = true) : IsLeaf (.int n)
  | float (x : Binary64) : IsLeaf (.float x)
  | text (s : String) : IsLeaf (.text s)

private theorem isLeaf_of_readWord {text rest : List Char} {v : Value}
    (isRead : readWord text = some (v, rest)) : IsLeaf v := by
  obtain ⟨entry, member, found⟩ := List.exists_of_findSome?_eq_some isRead
  have known : ∀ entry ∈ wordTable, IsLeaf entry.2 := by
    simp only [wordTable, List.forall_mem_cons]
    exact ⟨.null, .bool _, .bool _, .float _, .float _, .float _, List.forall_mem_nil _⟩
  simp only at found
  split at found
  · cases found
    exact known entry member
  · cases found

theorem isLeaf_of_readLeaf {text rest : List Char} {v : Value}
    (isRead : readValue 1 0 text = .ok (v, rest)) : IsLeaf v := by
  obtain ⟨tail, s, _, rfl, _⟩ | isWord | isNumber := readLeaf_eq_ok isRead
  · exact .text s
  · exact isLeaf_of_readWord isWord
  · obtain ⟨n, rfl, fits⟩ | ⟨x, rfl⟩ := readNumber_cases isNumber
    · exact .int fits
    · exact .float x

/-- The values that texts can be read as. -/
inductive Readable : Value → Prop
  | leaf {v : Value} (isLeaf : IsLeaf v) : Readable v
  | list {items : List Value} (each : ∀ item ∈ items, Readable item) : Readable (.list items)
  | map {entries : Value.Entries} (distinct : entries.Distinct)
      (keys : ∀ entry ∈ entries, ∃ name, entry.1 = .text name)
      (each : ∀ entry ∈ entries, Readable entry.2) : Readable (.map entries)

namespace Readable

private theorem empty_list : Readable (.list []) := .list (List.forall_mem_nil _)

theorem empty_map : Readable (.map []) :=
  .map Value.Entries.distinct_nil (List.forall_mem_nil _) (List.forall_mem_nil _)

private theorem put {entries : Value.Entries} (readable : Readable (.map entries)) (name : String)
    {value : Value} (isReadable : Readable value) :
    Readable (.map (entries.put (.text name) value)) := by
  cases readable with
  | leaf isLeaf => cases isLeaf
  | map distinct keys each =>
      refine .map (distinct.put _ _) ?_ ?_
      · intro entry member
        obtain old | ⟨_, isKey | ⟨_, value, old⟩⟩ := Value.Entries.mem_put member
        · exact keys entry old
        · exact ⟨name, isKey⟩
        · exact keys (entry.1, value) old
      · intro entry member
        obtain old | ⟨isValue, _⟩ := Value.Entries.mem_put member
        · exact each entry old
        · rwa [isValue]

private theorem bare {v : Value} (readable : Readable v) : v.bare = v := by
  cases readable with
  | leaf isLeaf => cases isLeaf <;> rfl
  | list each => rfl
  | map distinct keys each => rfl

end Readable

/-- The reader gives nothing else, if its parts so far are of that kind. -/
theorem reader_readable (fuel : Nat) :
    (∀ {depth text v rest}, readValue fuel depth text = .ok (v, rest) → Readable v) ∧
    (∀ {depth done text items rest}, (∀ item ∈ done, Readable item) →
      readItems fuel depth done text = .ok (items, rest) → ∀ item ∈ items, Readable item) ∧
    (∀ {depth done text entries rest}, Readable (.map done) →
      readEntries fuel depth done text = .ok (entries, rest) → Readable (.map entries)) := by
  induction fuel with
  | zero =>
      refine ⟨?_, ?_, ?_⟩
      · intro depth text v rest isRead
        rw [readValue] at isRead
        cases isRead
      · intro depth done text items rest _ isRead
        rw [readItems] at isRead
        cases isRead
      · intro depth done text entries rest _ isRead
        rw [readEntries] at isRead
        cases isRead
  | succ fuel ih =>
      obtain ⟨values, itemsRead, entriesRead⟩ := ih
      refine ⟨?_, ?_, ?_⟩
      · intro depth text v rest isRead
        obtain isLeaf | ⟨inner, tail, _, isList⟩ | ⟨inner, tail, _, isMap⟩ := readValue_eq_ok isRead
        · exact .leaf (isLeaf_of_readLeaf isLeaf)
        · obtain rfl | ⟨_, items, isItems, rfl⟩ := readEnclosed_eq_ok isList
          · exact .empty_list
          · exact .list (itemsRead (List.forall_mem_nil _) isItems)
        · obtain rfl | ⟨_, entries, isEntries, rfl⟩ := readEnclosed_eq_ok isMap
          · exact .empty_map
          · exact entriesRead .empty_map isEntries
      · intro depth done text items rest readable isRead
        obtain ⟨item, behind, isItem, whole⟩ := readItems_eq_ok isRead
        have further : ∀ item' ∈ item :: done, Readable item' :=
          List.forall_mem_cons.mpr ⟨values isItem, readable⟩
        obtain rfl | ⟨_, isFurther⟩ := whole
        · exact fun item' member => further item' (List.mem_reverse.mp member)
        · exact itemsRead further isFurther
      · intro depth done text entries rest readable isRead
        obtain ⟨key, value, _, behind, isValue, whole⟩ := readEntries_eq_ok isRead
        have further := readable.put key (values isValue)
        obtain rfl | ⟨_, isFurther⟩ := whole
        · exact further
        · exact entriesRead further isFurther

theorem read_readable {text : String} {v : Value} (isRead : read text = .ok v) : Readable v := by
  obtain ⟨fuel, depth, text', rest, isValue⟩ := exists_of_read isRead
  exact (reader_readable fuel).1 isValue

end Json

/-! Values that are small enough to be written. -/

namespace Value

theorem isWritable_of_findText? {entries : Entries} (writable : entriesWritable entries = true)
    {name : String} {value : Value} (found : entries.findText? name = some value) :
    value.isWritable = true := by
  rw [entriesWritable_eq, List.all_eq_true] at writable
  have both := writable _ (Entries.mem_of_findText? found)
  exact (Bool.and_eq_true_iff.mp both).2

end Value

namespace Json

private theorem Readable.isWritable {v : Value} (readable : Readable v) : v.isWritable = true := by
  induction readable with
  | leaf isLeaf =>
      cases isLeaf with
      | int fits => exact fits
      | _ => rfl
  | list each ih =>
      rw [Value.isWritable, Value.allWritable_eq, List.all_eq_true]
      exact ih
  | map distinct keys each ih =>
      rw [Value.isWritable, Value.entriesWritable_eq, List.all_eq_true]
      intro entry member
      obtain ⟨name, isName⟩ := keys entry member
      rw [isName, ih entry member]
      rfl

theorem read_isWritable {text : String} {v : Value} (isRead : read text = .ok v) :
    v.isWritable = true :=
  (read_readable isRead).isWritable

theorem read?_bare {text : String} {v : Value} (isRead : read? text = some v) : v.bare = v :=
  (read_readable (toOption_eq_some.mp isRead)).bare

end Json

namespace Check

private theorem fitsDecimal_of_lt {n : Int} (small : n.natAbs < Nat.pow 2 63) :
    Number.fitsDecimal n = true := by
  rw [Number.fitsDecimal, decide_eq_true_eq]
  have wider : ∀ places, 63 ≤ places → Nat.pow 2 63 ≤ Nat.pow 10 places := fun places enough =>
    Nat.le_trans (Nat.pow_le_pow_left (by omega) 63) (Nat.pow_le_pow_right (by omega) enough)
  exact Nat.lt_of_lt_of_le small (wider Number.maxDigits (by decide))

private theorem integerOfText_fits {s : String} {n : Int} (checked : integerOfText s = .valid n) :
    Number.fitsDecimal n = true := by
  unfold integerOfText at checked
  simp only at checked
  split at checked
  · cases checked
  · rename_i negative digits _
    split at checked
    · cases checked
    · rename_i short
      split at checked
      · cases checked
      · rename_i whole
        cases checked
        rw [Bool.or_eq_true, not_or, decide_eq_true_eq] at whole
        -- Nothing but digits is left, since the run of digits is not shorter than the text.
        have run : digits.takeWhile Json.isDigit = digits :=
          (List.takeWhile_prefix _).eq_of_length_le (by omega)
        rw [run] at short
        refine Json.fitsDecimal_digits ?_ (by omega) _
        rw [← List.all_eq_true, ← run]
        exact List.all_takeWhile

theorem integer_fits {v : Value} {n : Int} (writable : v.isWritable = true)
    (checked : integer v = .valid n) : Number.fitsDecimal n = true := by
  unfold integer at checked
  split at checked
  · cases checked
    exact writable
  · rename_i b
    cases checked
    cases b <;> exact fitsDecimal_of_lt (by decide)
  · split at checked
    · cases checked
    · split at checked
      · cases checked
      · split at checked
        · rename_i small
          cases checked
          exact fitsDecimal_of_lt small
        · cases checked
  · exact integerOfText_fits checked
  · split at checked
    · exact integerOfText_fits checked
    · cases checked
  · cases checked

end Check

end MobileAudit
