import MobileAudit.Proofs.Json.Range
import MobileAudit.Settings.File

namespace MobileAudit

/-! Every mapping that a document holds has distinct keys, in all formats. -/

/-! Values. -/

namespace Value

/-- A value whose mappings have distinct keys, down to mappings that are nested `depth` deep.
Nothing but a list, tuple or mapping has a label. -/
def Tidy : Nat → Value → Prop
  | 0, _ => True
  | depth + 1, v =>
      (v.bare = .null → v = .null) ∧
        ∀ entries : Entries, v.bare = .map entries →
          entries.Distinct ∧ ∀ entry ∈ entries, Tidy depth entry.2

def isUnmapped : Value → Bool
  | map _ => false
  | loop _ _ => false
  | _ => true

theorem bare_of_isUnmapped {v : Value} (unmapped : v.isUnmapped = true) : v.bare = v := by
  cases v with
  | loop label v => cases unmapped
  | _ => rfl

theorem bare_ne_map {v : Value} (unmapped : v.isUnmapped = true) (entries : Entries) :
    v.bare ≠ .map entries := by
  rw [bare_of_isUnmapped unmapped]
  rintro rfl
  cases unmapped

theorem tidy_of_isUnmapped {v : Value} (unmapped : v.isUnmapped = true) (depth : Nat) :
    Tidy depth v := by
  cases depth with
  | zero => trivial
  | succ depth =>
      refine ⟨?_, fun entries isMap => absurd isMap (bare_ne_map unmapped entries)⟩
      rw [bare_of_isUnmapped unmapped]
      exact id

def Entries.Tidy (depth : Nat) (entries : Entries) : Prop :=
  entries.Distinct ∧ ∀ entry ∈ entries, Value.Tidy depth entry.2

theorem Entries.tidy_nil (depth : Nat) : Entries.Tidy depth [] :=
  ⟨distinct_nil, by simp⟩

theorem Entries.Tidy.put {depth : Nat} {entries : Entries} (tidy : Entries.Tidy depth entries)
    (key : Value) {value : Value} (tidyValue : Value.Tidy depth value) :
    Entries.Tidy depth (entries.put key value) := by
  refine ⟨tidy.1.put key value, ?_⟩
  intro entry member
  obtain old | ⟨same, _⟩ := Entries.mem_put member
  · exact tidy.2 entry old
  · rw [same]
    exact tidyValue

theorem tidy_map {entries : Entries} (tidy : ∀ depth, Entries.Tidy depth entries) (depth : Nat) :
    Tidy depth (.map entries) := by
  cases depth with
  | zero => trivial
  | succ depth =>
      refine ⟨Value.noConfusion, ?_⟩
      rintro _ ⟨⟩
      exact tidy depth

theorem Tidy.find? {depth : Nat} {entries : Entries} (tidy : Entries.Tidy depth entries)
    {name : String} {value : Value} (found : entries.findText? name = some value) :
    Tidy depth value :=
  tidy.2 _ (Entries.mem_of_findText? found)

theorem Tidy.entries {depth : Nat} {v : Value} {entries : Entries} (tidy : Tidy (depth + 1) v)
    (isMap : v.bare = .map entries) : Entries.Tidy depth entries :=
  tidy.2 entries isMap

end Value

open Value

/-! JSON. -/

namespace Json

private theorem Readable.tidy {v : Value} (readable : Readable v) : ∀ depth, Tidy depth v := by
  induction readable with
  | leaf isLeaf => cases isLeaf <;> exact tidy_of_isUnmapped rfl
  | list each ih => exact tidy_of_isUnmapped rfl
  | map distinct keys each ih =>
      exact tidy_map fun depth => ⟨distinct, fun entry member => ih entry member depth⟩

theorem read_tidy {text : String} {v : Value} (isRead : read text = .ok v) (depth : Nat) :
    Tidy depth v :=
  (read_readable isRead).tidy depth

end Json

/-! TOML. -/

namespace Toml

theorem alter_tidy (intoLists : Bool) {change : Value.Entries → Option Value.Entries}
    (keeps : ∀ entries result, (∀ depth, Entries.Tidy depth entries) →
      change entries = some result → ∀ depth, Entries.Tidy depth result) (key : Key) :
    ∀ entries result, (∀ depth, Entries.Tidy depth entries) →
      alter intoLists change key entries = some result → ∀ depth, Entries.Tidy depth result := by
  induction key with
  | nil => exact keeps
  | cons name key ih =>
      intro entries result tidy altered depth
      rw [alter] at altered
      split at altered
      · obtain ⟨inner, isInner, rfl⟩ := Option.map_eq_some_iff.mp altered
        exact (tidy depth).put _ (tidy_map (ih [] inner Entries.tidy_nil isInner) depth)
      · rename_i inner found
        obtain ⟨inner', isInner, rfl⟩ := Option.map_eq_some_iff.mp altered
        have tidyInner : ∀ depth, Entries.Tidy depth inner := fun depth =>
          (Tidy.find? (tidy (depth + 1)) found).entries rfl
        exact (tidy depth).put _ (tidy_map (ih inner inner' tidyInner isInner) depth)
      · split at altered
        · obtain ⟨inner, _, rfl⟩ := Option.map_eq_some_iff.mp altered
          exact (tidy depth).put _ (tidy_of_isUnmapped rfl depth)
        · cases altered
      · cases altered

theorem define_tidy {name : String} {v : Value} (tidyValue : ∀ depth, Tidy depth v) :
    ∀ entries result, (∀ depth, Entries.Tidy depth entries) →
      define name v entries = some result → ∀ depth, Entries.Tidy depth result := by
  intro entries result tidy defined depth
  unfold define at defined
  split at defined
  · cases defined
  · cases defined
    exact (tidy depth).put _ (tidyValue depth)

private theorem appendTable_tidy {name : String} :
    ∀ entries result, (∀ depth, Entries.Tidy depth entries) →
      appendTable name entries = some result → ∀ depth, Entries.Tidy depth result := by
  intro entries result tidy appended depth
  unfold appendTable at appended
  split at appended
  · cases appended
    exact (tidy depth).put _ (tidy_of_isUnmapped rfl depth)
  · cases appended
    exact (tidy depth).put _ (tidy_of_isUnmapped rfl depth)
  · cases appended

private theorem momentOf?_unmapped {m : Pattern.Match} {v : Value}
    (isMoment : momentOf? m = some v) :
    v.isUnmapped = true := by
  unfold momentOf? at isMoment
  simp only [bind, Option.bind_eq_some_iff] at isMoment
  obtain ⟨date, _, isMoment⟩ := isMoment
  split at isMoment
  · cases isMoment
    rfl
  · obtain ⟨time, _, isMoment⟩ := Option.bind_eq_some_iff.mp isMoment
    split at isMoment
    · obtain ⟨zone, _, isMoment⟩ := Option.bind_eq_some_iff.mp isMoment
      cases isMoment
      rfl
    · cases isMoment
      rfl

private theorem numberOf?_unmapped {m : Pattern.Match} {text : List Char} {v : Value}
    (isNumber : numberOf? m text = some v) : v.isUnmapped = true := by
  unfold numberOf? at isNumber
  simp only at isNumber
  split at isNumber
  · split at isNumber
    · obtain ⟨n, _, rfl⟩ := Option.map_eq_some_iff.mp isNumber
      rfl
    · obtain ⟨n, _, rfl⟩ := Option.map_eq_some_iff.mp isNumber
      rfl
    · obtain ⟨n, _, rfl⟩ := Option.map_eq_some_iff.mp isNumber
      rfl
    · split at isNumber
      · cases isNumber
      · obtain ⟨n, _, rfl⟩ := Option.map_eq_some_iff.mp isNumber
        rfl
  · obtain ⟨x, _, rfl⟩ := Option.map_eq_some_iff.mp isNumber
    rfl

private theorem scalar?_unmapped {text rest : List Char} {v : Value}
    (isScalar : scalar? text = some (v, rest)) : v.isUnmapped = true := by
  unfold scalar? at isScalar
  split at isScalar
  · obtain ⟨w, isMoment, same⟩ := Option.map_eq_some_iff.mp isScalar
    cases same
    exact momentOf?_unmapped isMoment
  · split at isScalar
    · obtain ⟨t, _, same⟩ := Option.map_eq_some_iff.mp isScalar
      cases same
      rfl
    · split at isScalar
      · obtain ⟨w, isNumber, same⟩ := Option.map_eq_some_iff.mp isScalar
        cases same
        exact numberOf?_unmapped isNumber
      · obtain ⟨word, _, found⟩ := List.exists_of_findSome?_eq_some isScalar
        split at found
        · obtain ⟨x, _, same⟩ := Option.map_eq_some_iff.mp found
          cases same
          rfl
        · cases found

private theorem InlineTable.assign_tidy {table table' : InlineTable} {key : Key} {v : Value}
    (tidy : ∀ depth, Entries.Tidy depth table.entries) (tidyValue : ∀ depth, Tidy depth v)
    (assigned : table.assign key v = some table') :
    ∀ depth, Entries.Tidy depth table'.entries := by
  unfold InlineTable.assign at assigned
  simp only [bind] at assigned
  split at assigned
  · cases assigned
  · obtain ⟨entries, altered, isTable⟩ := Option.bind_eq_some_iff.mp assigned
    cases isTable
    exact alter_tidy false (define_tidy tidyValue) _ _ _ tidy altered

/-- What is read as a value is tidy, and so is an inline table that is read on top of a tidy one. -/
theorem reader_tidy (fuel : Nat) :
    (∀ nesting text v rest, readValue fuel nesting text = some (v, rest) →
      ∀ depth, Tidy depth v) ∧
    (∀ nesting table text result rest, (∀ depth, Entries.Tidy depth table.entries) →
      readInline fuel nesting table text = some (result, rest) →
        ∀ depth, Entries.Tidy depth result) := by
  induction fuel with
  | zero =>
      constructor
      · intro nesting text v rest isRead
        unfold readValue at isRead
        cases isRead
      · intro nesting table text result rest _ isRead
        unfold readInline at isRead
        cases isRead
  | succ fuel ih =>
      obtain ⟨values, tables⟩ := ih
      constructor
      · intro nesting text v rest isRead
        have quoted : ∀ taken, readValue.quoted taken = some (v, rest) →
            ∀ depth, Tidy depth v := by
          intro taken isQuoted
          obtain ⟨_, _, isText⟩ := Option.map_eq_some_iff.mp isQuoted
          cases isText
          exact tidy_of_isUnmapped rfl
        unfold readValue at isRead
        split at isRead
        · exact quoted _ isRead
        · exact quoted _ isRead
        · exact quoted _ isRead
        · exact quoted _ isRead
        · cases isRead
          exact tidy_of_isUnmapped rfl
        · cases isRead
          exact tidy_of_isUnmapped rfl
        · split at isRead
          · cases isRead
          · obtain ⟨_, _, isList⟩ := Option.map_eq_some_iff.mp isRead
            cases isList
            exact tidy_of_isUnmapped rfl
        · split at isRead
          · cases isRead
          · cases isRead
            exact tidy_map Entries.tidy_nil
          · obtain ⟨⟨entries, rest'⟩, isInline, isMap⟩ := Option.map_eq_some_iff.mp isRead
            cases isMap
            exact tidy_map (tables _ _ _ _ _ Entries.tidy_nil isInline)
        · exact tidy_of_isUnmapped (scalar?_unmapped isRead)
      · intro nesting table text result rest tidy isRead
        unfold readInline at isRead
        split at isRead
        · split at isRead
          · cases isRead
          · rename_i value _ isValue
            split at isRead
            · cases isRead
            · rename_i table' assigned
              have further := InlineTable.assign_tidy tidy (values _ _ _ _ isValue) assigned
              split at isRead
              · cases isRead
                exact further
              · exact tables _ _ _ _ _ further isRead
              · cases isRead
        · cases isRead

namespace Draft

def IsTidy (draft : Draft) : Prop := ∀ depth, Entries.Tidy depth draft.entries

private theorem IsTidy.openTable {draft draft' : Draft} (tidy : draft.IsTidy) {key : Key}
    (opened : draft.openTable key = some draft') : draft'.IsTidy := by
  unfold Draft.openTable at opened
  simp only [bind] at opened
  split at opened
  · cases opened
  · obtain ⟨entries, altered, isDraft⟩ := Option.bind_eq_some_iff.mp opened
    cases isDraft
    refine alter_tidy true (fun entries result tidy same => ?_) _ _ _ tidy altered
    cases same
    exact tidy

private theorem IsTidy.openListed {draft draft' : Draft} (tidy : draft.IsTidy) {key : Key}
    (opened : draft.openListed key = some draft') : draft'.IsTidy := by
  unfold Draft.openListed at opened
  simp only [bind] at opened
  split at opened
  · cases opened
  · obtain ⟨entries, altered, isDraft⟩ := Option.bind_eq_some_iff.mp opened
    cases isDraft
    exact alter_tidy true appendTable_tidy _ _ _ tidy altered

private theorem IsTidy.assign {draft draft' : Draft} (tidy : draft.IsTidy) {key : Key} {v : Value}
    (tidyValue : ∀ depth, Tidy depth v) (assigned : draft.assign key v = some draft') :
    draft'.IsTidy := by
  unfold Draft.assign at assigned
  simp only [bind] at assigned
  split at assigned
  · cases assigned
  · split at assigned
    · cases assigned
    · obtain ⟨entries, altered, isDraft⟩ := Option.bind_eq_some_iff.mp assigned
      cases isDraft
      exact alter_tidy true (define_tidy tidyValue) _ _ _ tidy altered

end Draft

private theorem readStatement_tidy {draft draft' : Draft} {text rest : List Char}
    (tidy : draft.IsTidy)
    (isRead : readStatement draft text = some (draft', rest)) : draft'.IsTidy := by
  unfold readStatement at isRead
  split at isRead
  · cases isRead
    exact tidy
  · split at isRead
    · cases isRead
      exact tidy
    · split at isRead
      · unfold readHeader at isRead
        split at isRead
        · split at isRead
          · obtain ⟨_, opened, same⟩ := Option.map_eq_some_iff.mp isRead
            cases same
            exact tidy.openListed opened
          · cases isRead
        · split at isRead
          · obtain ⟨_, opened, same⟩ := Option.map_eq_some_iff.mp isRead
            cases same
            exact tidy.openTable opened
          · cases isRead
        · cases isRead
      · unfold readPair at isRead
        split at isRead
        · simp only at isRead
          split at isRead
          · rename_i isValue
            obtain ⟨_, assigned, same⟩ := Option.map_eq_some_iff.mp isRead
            cases same
            exact tidy.assign ((reader_tidy _).1 _ _ _ _ isValue) assigned
          · cases isRead
        · cases isRead

private theorem readLines_tidy (fuel : Nat) : ∀ {draft draft' : Draft} {text : List Char},
    draft.IsTidy → readLines fuel draft text = some draft' → draft'.IsTidy := by
  induction fuel with
  | zero =>
      intro draft draft' text _ isRead
      cases isRead
  | succ fuel ih =>
      intro draft draft' text tidy isRead
      unfold readLines at isRead
      simp only [bind, Option.bind_eq_some_iff] at isRead
      obtain ⟨⟨next, rest⟩, isStatement, _, _, isRead⟩ := isRead
      have further := readStatement_tidy tidy isStatement
      split at isRead
      · cases isRead
        exact further
      · exact ih further isRead
      · cases isRead

private theorem read?_tidy {text : String} {v : Value} (isRead : read? text = some v)
    (depth : Nat) :
    Tidy depth v := by
  obtain ⟨draft, isDraft, rfl⟩ := Option.map_eq_some_iff.mp isRead
  have start : Draft.IsTidy {} := Entries.tidy_nil
  exact tidy_map (readLines_tidy _ start isDraft) depth

end Toml

/-! YAML. -/

namespace Yaml

/-- Every result of a computation satisfies a predicate. -/
def Gives {ε α : Type} (P : α → Prop) (outcome : Except ε α) : Prop := ∀ a, outcome = .ok a → P a

theorem Gives.pure {ε α : Type} {P : α → Prop} {a : α} (holds : P a) :
    Gives P (Pure.pure a : Except ε α) := by
  rintro _ ⟨⟩
  exact holds

theorem Gives.throw {ε α : Type} {P : α → Prop} (e : ε) :
    Gives P (MonadExcept.throw e : Except ε α) := by
  rintro _ ⟨⟩

theorem Gives.bind {ε α β : Type} {P : β → Prop} (first : Except ε α) {next : α → Except ε β}
    (gives : ∀ a, Gives P (next a)) : Gives P (first >>= next) := by
  intro b isOk
  cases first with
  | error e => cases isOk
  | ok a => exact gives a b isOk

private theorem truthOf_unmapped (text : String) : Gives (·.isUnmapped = true) (truthOf text) := by
  unfold truthOf
  simp only
  split
  · exact .pure rfl
  · split
    · exact .pure rfl
    · exact .throw _

private theorem integerOf_unmapped (text : List Char) :
    Gives (·.isUnmapped = true) (integerOf text) := by
  unfold integerOf
  simp only
  split
  · exact .throw _
  · split
    case h_6 =>
      split
      · exact .bind _ fun _ => .bind _ fun _ => .pure rfl
      · exact .bind _ fun _ => .pure rfl
    all_goals exact .bind _ fun _ => .pure rfl

private theorem floatOf_unmapped (text : List Char) :
    Gives (·.isUnmapped = true) (floatOf text) := by
  unfold floatOf
  simp only
  split
  · exact .throw _
  · split
    · exact .pure rfl
    · split
      · exact .pure rfl
      · split
        · exact .bind _ fun _ => .bind _ fun _ => .pure rfl
        · exact .bind _ fun _ => .pure rfl

private theorem momentOf_unmapped (text : List Char) :
    Gives (·.isUnmapped = true) (momentOf text) := by
  unfold momentOf
  simp only
  split
  · split
    · split
      · exact .pure rfl
      · split
        · split
          · split
            · exact .pure rfl
            · exact .throw _
          · split <;> exact .pure rfl
        · exact .throw _
    · exact .throw _
  · exact .throw _

private theorem scalarValue?_unmapped {tag : String} {read : String → Except Failure Value}
    (found : scalarValue? tag = some read) (text : String) :
    Gives (·.isUnmapped = true) (read text) := by
  obtain ⟨before, after, isTable, _⟩ := List.lookup_eq_some_iff.mp found
  have member : (tag, read) ∈ before ++ (tag, read) :: after := by simp
  rw [← isTable] at member
  simp only [List.mem_cons, Prod.mk.injEq, List.not_mem_nil, or_false] at member
  obtain ⟨_, rfl⟩ | ⟨_, rfl⟩ | ⟨_, rfl⟩ | ⟨_, rfl⟩ | ⟨_, rfl⟩ | ⟨_, rfl⟩ | ⟨_, rfl⟩ := member
  · exact .pure rfl
  · exact truthOf_unmapped text
  · exact integerOf_unmapped _
  · exact floatOf_unmapped _
  · exact momentOf_unmapped _
  · exact .pure rfl
  · simp only
    split
    · exact .pure rfl
    · exact .throw _

/-- A part that is no mapping by itself. -/
def Part.IsSettled : Part → Prop
  | .value v => v.isUnmapped = true
  | .node _ => True

/-- The keys of entries with some values or other. -/
def Content.skeleton (entries : List (Value × Part)) : Entries :=
  entries.map fun entry => (entry.1, .null)

def Content.Sound : Content → Prop
  | .map entries =>
      (skeleton entries).Distinct ∧ ∀ entry ∈ entries, entry.2.IsSettled
  | _ => True

/-- Every result of a step satisfies a predicate, and what has been filled stays as it was. -/
def Yields {α : Type} (P : α → Prop) (step : Fill α) : Prop :=
  ∀ filling a filling', step filling = .ok (a, filling') →
    P a ∧ filling'.contents = filling.contents

theorem of_bind {α β : Type} {first : Fill α} {next : α → Fill β} {filling filling' : Filling}
    {b : β} (isOk : (first >>= next) filling = .ok (b, filling')) :
    ∃ a middle, first filling = .ok (a, middle) ∧ next a middle = .ok (b, filling') := by
  have run : (first >>= next) filling = (first filling).bind fun (a, f) => next a f := rfl
  rw [run] at isOk
  cases isFirst : first filling with
  | error failure =>
      rw [isFirst] at isOk
      cases isOk
  | ok result =>
      rw [isFirst] at isOk
      exact ⟨result.1, result.2, rfl, isOk⟩

namespace Yields

variable {α β : Type} {P : α → Prop} {Q : β → Prop}

theorem pure {a : α} (holds : P a) : Yields P (Pure.pure a) := by
  rintro filling _ _ ⟨⟩
  exact ⟨holds, rfl⟩

theorem throw (failure : Failure) : Yields P (MonadExcept.throw failure) := by
  rintro filling _ _ ⟨⟩

theorem bind {first : Fill α} {next : α → Fill β} (yields : Yields P first)
    (further : ∀ a, P a → Yields Q (next a)) : Yields Q (first >>= next) := by
  intro filling b filling' isOk
  obtain ⟨a, middle, isFirst, isNext⟩ := of_bind isOk
  obtain ⟨holds, same⟩ := yields _ _ _ isFirst
  obtain ⟨result, later⟩ := further a holds _ _ _ isNext
  exact ⟨result, later.trans same⟩

private theorem lift {outcome : Except Failure α} (gives : Gives P outcome) :
    Yields P (MonadLift.monadLift outcome : Fill α) := by
  intro filling a filling' isOk
  cases outcome with
  | error failure => cases isOk
  | ok a =>
      cases isOk
      exact ⟨gives a rfl, rfl⟩

theorem get : Yields (fun _ => True) (MonadState.get : Fill Filling) := by
  rintro filling _ _ ⟨⟩
  exact ⟨trivial, rfl⟩

theorem modified {change : Filling → Filling}
    (keeps : ∀ filling, (change filling).contents = filling.contents) :
    Yields (fun _ => True) (modify change : Fill PUnit) := by
  rintro filling _ _ ⟨⟩
  exact ⟨trivial, keeps filling⟩

private theorem weaken {step : Fill α} (yields : Yields P step) : Yields (fun _ => True) step :=
  fun filling a filling' isOk => ⟨trivial, (yields filling a filling' isOk).2⟩

private theorem mapM {step : α → Fill β} (yields : ∀ a, Yields (fun _ => True) (step a))
    (items : List α) : Yields (fun _ => True) (items.mapM step) := by
  induction items with
  | nil => exact .pure trivial
  | cons item rest ih =>
      rw [List.mapM_cons]
      exact .bind (yields item) fun _ _ => .bind ih fun _ _ => .pure trivial

private theorem foldlM {next : β → α → Fill β} (keeps : ∀ b a, Q b → Yields Q (next b a))
    (items : List α)
    {start : β} (holds : Q start) : Yields Q (items.foldlM next start) := by
  induction items generalizing start with
  | nil => exact .pure holds
  | cons item rest ih => exact .bind (keeps start item holds) fun _ => ih

end Yields

private theorem contents_meet (id : NodeId) (filling : Filling) :
    (filling.meet id).contents = filling.contents := by
  unfold Filling.meet
  split <;> rfl

theorem part_yields (id : NodeId) : Yields Part.IsSettled (part id) := by
  unfold part
  refine .bind .get fun filling _ => ?_
  simp only
  split
  · rename_i read found
    split
    · exact .bind (.lift (scalarValue?_unmapped found _)) fun v unmapped => .pure unmapped
    · exact .throw _
  · split
    · exact .bind (.modified (contents_meet id)) fun _ _ => .pure trivial
    · exact .throw _

private theorem keyValue_yields (id : NodeId) : Yields (fun _ => True) (keyValue id) := by
  unfold keyValue
  refine .bind (part_yields id) fun part _ => ?_
  split
  · exact .pure trivial
  · exact .throw _

private theorem Content.skeleton_put (key : Value) (part : Part) (entries : List (Value × Part)) :
    skeleton (put key part entries) = (skeleton entries).put key .null := by
  induction entries with
  | nil => rfl
  | cons entry rest ih =>
      obtain ⟨k, p⟩ := entry
      have head : skeleton ((k, p) :: rest) = (k, .null) :: skeleton rest := rfl
      rw [put, head, Entries.put]
      split
      · rfl
      · rw [← ih]
        rfl

private theorem Content.mem_put {key : Value} {part : Part} {entries : List (Value × Part)}
    {entry : Value × Part} (member : entry ∈ put key part entries) :
    entry ∈ entries ∨ entry.2 = part := by
  induction entries with
  | nil =>
      rw [put, List.mem_singleton] at member
      exact .inr (by rw [member])
  | cons first rest ih =>
      obtain ⟨k, p⟩ := first
      rw [put] at member
      split at member
      · obtain rfl | later := List.mem_cons.mp member
        · exact .inr rfl
        · exact .inl (List.mem_cons_of_mem _ later)
      · obtain rfl | later := List.mem_cons.mp member
        · exact .inl List.mem_cons_self
        · exact (ih later).imp_left (List.mem_cons_of_mem _)

private theorem Content.Sound.put {entries : List (Value × Part)} (sound : Sound (.map entries))
    (key : Value) {part : Part} (settled : part.IsSettled) :
    Sound (.map (Content.put key part entries)) := by
  refine ⟨?_, ?_⟩
  · rw [skeleton_put]
    exact sound.1.put key .null
  · intro entry member
    obtain old | same := mem_put member
    · exact sound.2 entry old
    · rw [same]
      exact settled

private theorem entriesOf_yields (id : NodeId) :
    Yields (fun entries => Content.Sound (.map entries)) (entriesOf id) := by
  unfold entriesOf
  refine .bind .get fun filling _ => ?_
  split
  · refine .bind .get fun filling _ => ?_
    split
    · exact .throw _
    · refine .bind (.modified fun _ => rfl) fun _ _ => ?_
      refine .foldlM (fun entries entry sound => ?_) _ ⟨.nil, by simp⟩
      exact .bind (keyValue_yields entry.1) fun key _ =>
        .bind (part_yields entry.2) fun part settled => .pure (sound.put key settled)
  · exact .throw _

private theorem itemsOf_yields (id : NodeId) : Yields (fun _ => True) (itemsOf id) := by
  unfold itemsOf
  refine .bind .get fun filling _ => ?_
  split
  · exact .pure trivial
  · exact .throw _

private theorem pairOf_yields (id : NodeId) : Yields (fun _ => True) (pairOf id) := by
  unfold pairOf
  refine .bind .get fun filling _ => ?_
  split
  · exact .bind (part_yields _) fun _ _ => .bind (part_yields _) fun _ _ => .pure trivial
  · exact .throw _

private theorem contentOf_yields (id : NodeId) : Yields Content.Sound (contentOf id) := by
  unfold contentOf
  refine .bind .get fun filling _ => ?_
  split
  · refine .bind (itemsOf_yields id) fun items _ => ?_
    exact .bind (.mapM (fun item => (part_yields item).weaken) items) fun _ _ => .pure trivial
  · refine .bind (itemsOf_yields id) fun items _ => ?_
    exact .bind (.mapM pairOf_yields items) fun _ _ => .pure trivial
  · exact .bind (entriesOf_yields id) fun _ sound => .pure sound
  · exact .bind (entriesOf_yields id) fun _ _ => .pure trivial
  · exact .throw _

def Filling.Sound (filling : Filling) : Prop := ∀ id : NodeId,
  (filling.contents.getD id (.list [])).Sound

private theorem Filling.Sound.store {filling : Filling} (sound : filling.Sound) (id : NodeId)
    {content : Content} (soundContent : content.Sound) : (filling.store id content).Sound := by
  intro other
  have stored : (filling.store id content).contents =
    filling.contents.setIfInBounds id content := rfl
  rw [stored, Array.getD_eq_getD_getElem?, Array.getElem?_setIfInBounds]
  split
  · split
    · exact soundContent
    · trivial
  · rw [← Array.getD_eq_getD_getElem?]
    exact sound other

private theorem fillFrom_sound (fuel : Nat) :
    ∀ {index : Nat} {filling filling' : Filling} {done : Unit},
    filling.Sound → fillFrom fuel index filling = .ok (done, filling') → filling'.Sound := by
  induction fuel with
  | zero =>
      rintro index filling filling' done sound ⟨⟩
      exact sound
  | succ fuel ih =>
      intro index filling filling' done sound filled
      rw [fillFrom] at filled
      obtain ⟨_, _, ⟨⟩, filled⟩ := of_bind filled
      cases met : filling.met[index]? with
      | none =>
          rw [met] at filled
          cases filled
          exact sound
      | some id =>
          rw [met] at filled
          obtain ⟨content, middle, isContent, filled⟩ := of_bind filled
          obtain ⟨_, _, ⟨⟩, filled⟩ := of_bind filled
          obtain ⟨soundContent, same⟩ := contentOf_yields _ _ _ _ isContent
          have soundMiddle : middle.Sound := by
            intro id
            rw [same]
            exact sound id
          exact ih (soundMiddle.store id soundContent) filled

private theorem tidy_labelled {depth : Nat} {v : Value} (labelled : Prop) [Decidable labelled]
    (label : Nat)
    (tidy : Tidy (depth + 1) v) (filled : v.bare ≠ .null) :
    Tidy (depth + 1) (if labelled then .loop label v else v) := by
  split
  · exact ⟨fun isNull => absurd isNull filled, tidy.2⟩
  · exact tidy

private theorem valueAt_tidy {filling : Filling} (sound : filling.Sound) (loops : List NodeId)
    (depth : Nat) : ∀ fuel level around part, part.IsSettled →
      Tidy depth (Filled.valueAt ⟨filling.contents, loops⟩ fuel level around part) := by
  induction depth with
  | zero => intros; trivial
  | succ depth ih =>
      intro fuel level around part settled
      cases fuel with
      | zero => exact tidy_of_isUnmapped rfl _
      | succ fuel =>
          cases part with
          | value v => exact tidy_of_isUnmapped settled _
          | node id =>
              rw [Filled.valueAt]
              split
              · exact tidy_of_isUnmapped rfl _
              · have soundHere := sound id
                simp only
                generalize filling.contents.getD id (.list []) = content at soundHere ⊢
                refine tidy_labelled _ _ ?_ ?_
                · cases content with
                  | list items => exact tidy_of_isUnmapped rfl _
                  | pairs items => exact tidy_of_isUnmapped rfl _
                  | set keys => exact tidy_of_isUnmapped rfl _
                  | map entries =>
                      refine ⟨Value.noConfusion, ?_⟩
                      rintro _ ⟨⟩
                      refine ⟨?_, ?_⟩
                      · have distinct := soundHere.1
                        rw [Entries.distinct_iff_keys, Content.skeleton, List.map_map] at distinct
                        rw [Entries.distinct_iff_keys, List.map_map]
                        exact distinct
                      · intro entry member
                        obtain ⟨inner, isInner, rfl⟩ := List.mem_map.mp member
                        exact ih _ _ _ _ (soundHere.2 inner isInner)
                · cases content <;> exact Value.noConfusion

private theorem value_tidy {graph : Graph} {root : NodeId} {v : Value}
    (isValue : graph.value root = .ok v) (depth : Nat) : Tidy depth v := by
  unfold Graph.value at isValue
  obtain ⟨⟨part, filling⟩, run, isValue⟩ := bind_eq_ok.mp isValue
  cases isValue
  obtain ⟨rootPart, first, isRoot, run⟩ := of_bind run
  obtain ⟨_, last, filled, ⟨⟩⟩ := of_bind run
  obtain ⟨settled, same⟩ := part_yields root _ _ _ isRoot
  have start : first.Sound := by
    intro id
    rw [same, Filling.ofGraph, Array.getD_eq_getD_getElem?, Array.getElem?_replicate]
    split <;> trivial
  exact valueAt_tidy (fillFrom_sound _ start filled) _ depth _ _ _ _ settled

private theorem read_tidy {text : String} {v : Value} (isRead : read text = .ok v) (depth : Nat) :
    Tidy depth v := by
  unfold read at isRead
  split at isRead
  · split at isRead
    · split at isRead
      · cases isRead
        exact tidy_map Entries.tidy_nil depth
      · obtain ⟨found, isValue, isRead⟩ := bind_eq_ok.mp isRead
        split at isRead
        · cases isRead
          exact tidy_map Entries.tidy_nil depth
        · cases isRead
          exact value_tidy isValue depth
    · cases isRead
  · cases isRead

end Yaml

/-! Settings files. -/

namespace Settings

private theorem Format.read_tidy {format : Format} {text : String} {v : Value}
    (isRead : format.read text = .ok v) (depth : Nat) : Tidy depth v := by
  unfold Format.read at isRead
  split at isRead
  · split at isRead
    · rename_i isYaml
      cases isRead
      exact Yaml.read_tidy isYaml depth
    · cases isRead
    · cases isRead
  · split at isRead
    · rename_i isToml
      cases isRead
      exact Toml.read?_tidy isToml depth
    · cases isRead
  · split at isRead
    · rename_i isJson
      cases isRead
      exact Json.read_tidy isJson depth
    · cases isRead

private theorem decodeAs_tidy {format : Format} {path text : String} {entries : Entries}
    (decoded : decodeAs format path text = .ok entries) (depth : Nat) :
    Entries.Tidy depth entries := by
  unfold decodeAs at decoded
  split at decoded
  · rename_i v isRead
    split at decoded
    · rename_i isMap
      cases decoded
      exact (Format.read_tidy isRead (depth + 1)).entries isMap
    · cases decoded
  · cases decoded
  · cases decoded

/-- The mapping of a settings file has distinct keys, and so have the mappings in it. -/
theorem fileEntries_tidy {fs : FileSystem} {path : Path} {entries : Entries}
    (isRead : fileEntries fs path = .ok entries) (depth : Nat) : Entries.Tidy depth entries := by
  unfold fileEntries at isRead
  split at isRead
  · cases isRead
  · cases isRead
  · cases isRead
  · split at isRead
    · cases isRead
    · unfold decodeFile at isRead
      split at isRead
      · exact decodeAs_tidy isRead depth
      · split at isRead
        · unfold decodeDetected at isRead
          split at isRead
          · exact decodeAs_tidy isRead depth
          · split at isRead
            · split at isRead
              · cases isRead
              · exact decodeAs_tidy isRead depth
            · exact decodeAs_tidy isRead depth
        · exact decodeAs_tidy isRead depth

end Settings

end MobileAudit
