import MobileAudit.Document.Show
import MobileAudit.Proofs.Json.RoundTrip

namespace MobileAudit.Value

/-! Keys of mappings.  A text is the same key as itself only, and a simple name is the text of no
other value. -/

/-! Texts as keys. -/

theorem sameKey_text (key : Value) (name : String) :
    key.sameKey (.text name) = true ↔ key = .text name := by
  cases key <;> simp [sameKey]

theorem text_sameKey (key : Value) (name : String) :
    (Value.text name).sameKey key = true ↔ key = .text name := by
  cases key with
  | text other =>
      rw [sameKey, beq_iff_eq, Value.text.injEq]
      exact eq_comm
  | _ => simp [sameKey]

theorem bare_ne_loop (v : Value) (label : Nat) (inner : Value) : v.bare ≠ .loop label inner := by
  induction v using Value.bare.induct with
  | case1 _ v ih => exact ih
  | case2 v noLoop =>
      intro same
      cases v with
      | loop outer deeper => exact noLoop outer deeper rfl
      | _ => cases same

theorem isNull_eq_false {v : Value} (stated : v ≠ .null) : v.isNull = false := by
  cases v with
  | null => exact absurd rfl stated
  | _ => rfl

namespace Entries

theorem find?_cons (key k v : Value) (rest : Entries) :
    find? key ((k, v) :: rest) = if k.sameKey key then some v else find? key rest := rfl

theorem findText?_eq (entries : Entries) (name : String) :
    entries.findText? name = find? (.text name) entries := rfl

theorem findText?_cons_self (name : String) (value : Value) (rest : Entries) :
    findText? ((.text name, value) :: rest) name = some value := by
  rw [findText?_eq, find?_cons, if_pos ((sameKey_text _ _).mpr rfl)]

theorem findText?_cons_other {key : Value} {name : String} (value : Value) (rest : Entries)
    (other : key ≠ .text name) : findText? ((key, value) :: rest) name = findText? rest name := by
  rw [findText?_eq, find?_cons, if_neg (by rwa [sameKey_text]), ← findText?_eq]

theorem findText?_put (entries : Entries) (key value : Value) (name : String) :
    (entries.put key value).findText? name =
      if key.sameKey (.text name) then some value else entries.findText? name := by
  simp only [findText?_eq]
  induction entries with
  | nil => rw [put, find?_cons]
  | cons entry rest ih =>
      obtain ⟨k, v⟩ := entry
      rw [put]
      by_cases same : k.sameKey key = true
      · rw [if_pos same, find?_cons, find?_cons]
        by_cases isName : k = .text name
        · subst isName
          have isKey := (text_sameKey key name).mp same
          simp [isKey, sameKey]
        · have noName : ¬ k.sameKey (.text name) = true := by rwa [sameKey_text]
          have noKey : ¬ key.sameKey (.text name) = true := by
            rw [sameKey_text]
            rintro rfl
            exact noName same
          rw [if_neg noName, if_neg noName, if_neg noKey]
      · rw [if_neg same, find?_cons, find?_cons, ih]
        by_cases isName : k.sameKey (.text name) = true
        · have noKey : ¬ key.sameKey (.text name) = true := by
            rw [sameKey_text]
            rintro rfl
            exact same isName
          rw [if_pos isName, if_pos isName, if_neg noKey]
        · rw [if_neg isName, if_neg isName]

@[simp] theorem findText?_put_self (entries : Entries) (name : String) (value : Value) :
    (entries.put (.text name) value).findText? name = some value := by
  rw [findText?_put, if_pos ((sameKey_text _ _).mpr rfl)]

theorem findText?_put_other (entries : Entries) {key : Value} {name : String} (value : Value)
    (other : key ≠ .text name) :
    (entries.put key value).findText? name = entries.findText? name := by
  rw [findText?_put, if_neg (by rwa [sameKey_text])]

theorem mem_put {key value : Value} {entries : Entries} {entry : Value × Value}
    (member : entry ∈ entries.put key value) :
    entry ∈ entries ∨ entry.2 = value ∧
      (entry.1 = key ∨ entry.1.sameKey key = true ∧ ∃ old, (entry.1, old) ∈ entries) := by
  induction entries with
  | nil =>
      rw [put, List.mem_singleton] at member
      subst member
      exact .inr ⟨rfl, .inl rfl⟩
  | cons first rest ih =>
      obtain ⟨k, v⟩ := first
      rw [put] at member
      split at member
      · rename_i same
        rw [List.mem_cons] at member
        obtain rfl | later := member
        · exact .inr ⟨rfl, .inr ⟨same, v, by simp⟩⟩
        · exact .inl (by simp [later])
      · rw [List.mem_cons] at member
        obtain rfl | later := member
        · exact .inl (by simp)
        · obtain inRest | ⟨same, here | ⟨isKey, old, there⟩⟩ := ih later
          · exact .inl (by simp [inRest])
          · exact .inr ⟨same, .inl here⟩
          · exact .inr ⟨same, .inr ⟨isKey, old, by simp [there]⟩⟩

theorem mem_of_find? {key value : Value} {entries : Entries}
    (found : find? key entries = some value) :
    ∃ k, k.sameKey key = true ∧ (k, value) ∈ entries := by
  induction entries with
  | nil => cases found
  | cons first rest ih =>
      obtain ⟨k, v⟩ := first
      rw [find?_cons] at found
      split at found
      · rename_i same
        cases found
        exact ⟨k, same, by simp⟩
      · obtain ⟨other, same, member⟩ := ih found
        exact ⟨other, same, by simp [member]⟩

theorem mem_of_findText? {entries : Entries} {name : String} {value : Value}
    (found : entries.findText? name = some value) : (.text name, value) ∈ entries := by
  obtain ⟨k, same, member⟩ := mem_of_find? found
  rwa [(sameKey_text k name).mp same] at member

/-! Keys that stand once. -/

/-- No two keys are the same. -/
def Distinct (entries : Entries) : Prop :=
  entries.Pairwise fun first second => first.1.sameKey second.1 = false

/-- The keys after an entry was set: the old ones, and the new one if it was not among them. -/
theorem keys_put (entries : Entries) (key value : Value) :
    (entries.put key value).map (·.1) = entries.map (·.1) ∨
      (entries.put key value).map (·.1) = entries.map (·.1) ++ [key] ∧
        ∀ k ∈ entries.map (·.1), k.sameKey key = false := by
  induction entries with
  | nil => exact .inr ⟨rfl, by simp⟩
  | cons entry rest ih =>
      obtain ⟨k, v⟩ := entry
      rw [put]
      split
      · exact .inl rfl
      · rename_i other
        obtain same | ⟨appended, new⟩ := ih
        · exact .inl (by rw [List.map_cons, List.map_cons, same])
        · refine .inr ⟨by rw [List.map_cons, appended, List.map_cons, List.cons_append], ?_⟩
          intro k' member
          rw [List.map_cons, List.mem_cons] at member
          obtain rfl | member := member
          · exact Bool.eq_false_iff.mpr other
          · exact new k' member

theorem distinct_iff_keys (entries : Entries) :
    entries.Distinct ↔ (entries.map (·.1)).Pairwise fun first second =>
      first.sameKey second = false := by
  rw [List.pairwise_map]
  rfl

theorem distinct_of_texts {entries : Entries} (names : List String)
    (keys : entries.map (·.1) = names.map .text) (nodup : names.Nodup) : entries.Distinct := by
  rw [distinct_iff_keys, keys, List.pairwise_map]
  exact nodup.imp fun other => beq_eq_false_iff_ne.mpr other

theorem Distinct.put {entries : Entries} (distinct : entries.Distinct) (key value : Value) :
    (entries.put key value).Distinct := by
  rw [distinct_iff_keys] at distinct ⊢
  obtain same | ⟨appended, new⟩ := keys_put entries key value
  · rwa [same]
  · rw [appended, List.pairwise_append]
    refine ⟨distinct, List.pairwise_singleton _ _, ?_⟩
    intro k member k' isKey
    rw [List.mem_singleton.mp isKey]
    exact new k member

theorem distinct_nil : Distinct [] := List.Pairwise.nil

theorem Distinct.tail {entry : Value × Value} {rest : Entries}
    (distinct : Distinct (entry :: rest)) : rest.Distinct :=
  (List.pairwise_cons.mp distinct).2

theorem Distinct.findText?_tail {name : String} {value : Value} {rest : Entries}
    (distinct : Distinct ((.text name, value) :: rest)) : rest.findText? name = none := by
  cases found : rest.findText? name with
  | none => rfl
  | some again =>
      have apart := (List.pairwise_cons.mp distinct).1 _ (mem_of_findText? found)
      rw [(sameKey_text _ _).mpr rfl] at apart
      cases apart

theorem Distinct.findText?_of_mem {entries : Entries} (distinct : entries.Distinct) {name : String}
    {value : Value} (member : (.text name, value) ∈ entries) :
    entries.findText? name = some value := by
  rw [findText?_eq]
  induction entries with
  | nil => cases member
  | cons entry rest ih =>
      obtain ⟨k, v⟩ := entry
      rw [Distinct, List.pairwise_cons] at distinct
      rw [find?_cons]
      obtain isHead | later := List.mem_cons.mp member
      · cases isHead
        rw [if_pos ((sameKey_text _ _).mpr rfl)]
      · have apart := distinct.1 _ later
        rw [if_neg (by rw [apart]; exact Bool.false_ne_true)]
        exact ih distinct.2 later

end Entries

/-! Names. -/

def isNameChar (c : Char) : Bool := 'a' ≤ c && c ≤ 'z' || c == '_'

def Marked (text : String) : Prop := ∃ c ∈ text.toList, isNameChar c = false

theorem marked_of_mem {text : String} (c : Char) (mark : isNameChar c = false)
    (member : c ∈ text.toList) : Marked text := ⟨c, member, mark⟩

theorem Marked.append {first second : String} (marked : Marked first ∨ Marked second) :
    Marked (first ++ second) := by
  obtain ⟨c, member, mark⟩ | ⟨c, member, mark⟩ := marked
  · exact ⟨c, by simp [member], mark⟩
  · exact ⟨c, by simp [member], mark⟩

private theorem marked_exponent (head tail : List Char) (negative : Prop) [Decidable negative] :
    Marked (String.ofList (head ++ 'e' :: (if negative then '-' else '+') :: tail)) := by
  by_cases isNegative : negative
  · exact marked_of_mem '-' (by decide) (by simp [isNegative])
  · exact marked_of_mem '+' (by decide) (by simp [isNegative])

def numberNames : List String := ["nan", "inf"]

private theorem marked_floatText (x : Binary64) :
    Marked (Number.floatText x) ∨ Number.floatText x ∈ numberNames := by
  unfold Number.floatText
  simp only
  split
  · exact .inr (by simp [numberNames])
  · split
    · cases x.negative with
      | true => exact .inl (marked_of_mem '-' (by decide) (by simp))
      | false => exact .inr (by simp [numberNames])
    · split
      · exact .inl (.append (.inr (marked_of_mem '.' (by decide) (by simp))))
      · refine .inl (.append (.inr ?_))
        split
        · exact marked_exponent _ _ _
        · split <;> exact marked_of_mem '.' (by decide) (by simp)

private theorem isNameChar_of_isDigit {d : Char} (digit : Json.isDigit d = true) :
    isNameChar d = false := by
  simp only [Json.isDigit, Bool.and_eq_true, decide_eq_true_eq] at digit
  have noLetter : ¬ 'a' ≤ d := fun letter =>
    absurd (Char.le_trans letter digit.2) (by decide)
  have noLine : ¬ d = '_' := by
    rintro rfl
    exact absurd digit.2 (by decide)
  simp [isNameChar, noLetter, noLine]

private theorem marked_int (n : Int) : Marked (toString n) := by
  obtain ⟨d, member⟩ := List.exists_mem_of_ne_nil (Nat.toDigits 10 n.natAbs) Nat.toDigits_ne_nil
  refine marked_of_mem d (isNameChar_of_isDigit (Json.isDigit_of_mem_toDigits member)) ?_
  rw [Json.toString_int_toList]
  split <;> simp [member]

private theorem marked_ellipsis (v : Value) : Marked v.ellipsis := by
  unfold ellipsis
  split <;> exact marked_of_mem '.' (by decide) (by simp)

theorem isNameChar_quoteFor (text : List Char) : isNameChar (Text.quoteFor text) = false := by
  unfold Text.quoteFor
  split <;> decide

private theorem marked_quoted (s : String) : Marked (Text.quoted s) := by
  refine marked_of_mem _ (isNameChar_quoteFor s.toList) ?_
  rw [Text.quoted, String.toList_ofList, Text.quotedChars]
  exact List.mem_cons_self

private theorem marked_quotedBytes (data : List UInt8) : Marked (Text.quotedBytes data) := by
  refine marked_of_mem _ (isNameChar_quoteFor (data.map fun b => Char.ofNat b.toNat)) ?_
  rw [Text.quotedBytes, String.toList_ofList]
  simp

private theorem marked_call (name : String) (arguments : List String) :
    Marked (Document.call name arguments) := by
  unfold Document.call
  exact .append (.inl (.append (.inl (.append (.inr (marked_of_mem '(' (by decide) (by simp)))))))

/-- The text of a value inside another one is a simple name only if it is that of a number. -/
theorem marked_quotedIn (v : Value) : ∀ labels : List (Nat × String),
    (∀ label ∈ labels, Marked label.2) →
      Marked (quotedIn labels v) ∨ quotedIn labels v ∈ numberNames := by
  induction v using Value.bare.induct with
  | case1 label v ih =>
      intro labels marked
      rw [quotedIn]
      split
      · exact .inl v.marked_ellipsis
      · refine ih _ ?_
        intro l member
        obtain rfl | member := List.mem_cons.mp member
        · exact v.marked_ellipsis
        · exact marked l member
  | case2 v noLoop =>
      intro labels marked
      cases v with
      | loop label v => exact absurd rfl (noLoop label v)
      | float x =>
          rw [quotedIn]
          exact marked_floatText x
      | null => exact .inl (marked_of_mem 'N' (by decide) (by simp [quotedIn]))
      | bool b =>
          refine .inl ?_
          rw [quotedIn]
          cases b with
          | true => exact marked_of_mem 'T' (by decide) (by simp)
          | false => exact marked_of_mem 'F' (by decide) (by simp)
      | int n =>
          rw [quotedIn]
          exact .inl (marked_int n)
      | text s =>
          rw [quotedIn]
          exact .inl (marked_quoted s)
      | list items =>
          rw [quotedIn]
          exact .inl (marked_of_mem '[' (by decide) (by simp))
      | tuple items =>
          refine .inl (marked_of_mem '(' (by decide) ?_)
          rw [quotedIn.eq_def]
          split <;> simp_all
      | map entries =>
          rw [quotedIn]
          exact .inl (marked_of_mem '\x7b' (by decide) (by simp))
      | set items =>
          refine .inl ?_
          cases items with
          | nil => exact marked_of_mem '(' (by decide) (by simp [quotedIn])
          | cons item items => exact marked_of_mem '\x7b' (by decide) (by simp [quotedIn])
      | date d =>
          rw [quotedIn]
          exact .inl (marked_call _ _)
      | time t =>
          rw [quotedIn]
          exact .inl (marked_call _ _)
      | moment m =>
          rw [quotedIn]
          exact .inl (marked_call _ _)
      | bytes data =>
          rw [quotedIn]
          exact .inl (marked_quotedBytes data)
      | back label =>
          refine .inl ?_
          rw [quotedIn]
          cases found : labels.lookup label with
          | none => exact marked_of_mem '.' (by decide) (by simp)
          | some text =>
              obtain ⟨before, after, split, _⟩ := List.lookup_eq_some_iff.mp found
              exact marked (label, text) (by simp [split])

/-- A simple name that is no number is the text of a text only. -/
theorem eq_text_of_plain {v : Value} {name : String} (simple : name.toList.all isNameChar = true)
    (noNumber : name ∉ numberNames) (same : v.plain = name) : v = .text name := by
  have unmarked : ¬ Marked name := by
    rintro ⟨c, member, mark⟩
    have isName := List.all_eq_true.mp simple c member
    rw [mark] at isName
    cases isName
  have other : ∀ w : Value, w.quoted ≠ name := by
    intro w isName
    obtain marked | isNumber := w.marked_quotedIn [] (by simp)
    · exact unmarked (isName ▸ marked)
    · exact noNumber (isName ▸ isNumber)
  cases v with
  | text s => exact congrArg Value.text same
  | date d =>
      rw [plain] at same
      refine absurd (marked_of_mem '-' (by decide) ?_) unmarked
      rw [← same, Document.Date.iso]
      simp
  | time t =>
      rw [plain] at same
      refine absurd (marked_of_mem ':' (by decide) ?_) unmarked
      rw [← same, Document.Time.iso]
      simp
  | moment m =>
      rw [plain] at same
      refine absurd (marked_of_mem '-' (by decide) ?_) unmarked
      rw [← same, Document.Moment.write, Document.Date.iso]
      simp
  | _ => exact absurd same (other _)

end MobileAudit.Value
