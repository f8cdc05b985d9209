import MobileAudit.Proofs.Document.Place
import MobileAudit.Proofs.Json.Range
import MobileAudit.Proofs.Json.Truncation

namespace MobileAudit.Json

/-! Where the keys of a document stand in its text.  A second reader keeps every key with its place;
without the places it gives what the reader gives. -/

/-- A key as it stands in a text: how many characters there are from its opening quote on, what is
written between its quotes, and how that reads. -/
structure KeyToken where
  remaining : Nat
  spelling : List Char
  key : String

inductive Layout where
  | leaf (v : Value)
  | list (items : List Layout)
  | map (entries : List (KeyToken × Layout))

namespace Layout

mutual

/-- The value that is laid out; of repeated keys the last value counts. -/
def value : Layout → Value
  | leaf v => v
  | list items => .list (values items)
  | map entries => .map (putAll [] entries)

def values : List Layout → List Value
  | [] => []
  | item :: rest => item.value :: values rest

def putAll (done : Value.Entries) : List (KeyToken × Layout) → Value.Entries
  | [] => done
  | (token, part) :: rest => putAll (done.put (.text token.key) part.value) rest

end

def children : Layout → List Layout
  | leaf _ => []
  | list items => items
  | map entries => entries.map (·.2)

def keys : Layout → List KeyToken
  | map entries => entries.map (·.1)
  | _ => []

def at? : Layout → List Nat → Option Layout
  | doc, [] => some doc
  | doc, n :: place => doc.children[n]?.bind fun child => child.at? place

def HasKey (doc : Layout) (place : List Nat) (token : KeyToken) : Prop :=
  ∃ front n part, place = front ++ [n] ∧ doc.at? front = some part ∧ part.keys[n]? = some token

def Everywhere (test : Layout → Prop) (doc : Layout) : Prop :=
  ∀ place part, doc.at? place = some part → test part

/-- No mapping repeats a key. -/
def Distinct (doc : Layout) : Prop :=
  doc.Everywhere fun part => (part.keys.map (·.key)).Nodup

/-- No key is written with an escape. -/
def Unescaped (doc : Layout) : Prop :=
  doc.Everywhere fun part => ∀ token ∈ part.keys, '\\' ∉ token.spelling

end Layout

/-! The reader that keeps the places. -/

/-- What follows the opening sign of a list or mapping: the closing sign, or parts. -/
def locateEnclosed {α : Type} (closing : Char) (wrap : List α → Layout)
    (parts : List Char → Option (List α × List Char)) (tail : List Char) :
    Option (Layout × List Char) :=
  if (skipBlanks tail).head? = some closing then some (wrap [], (skipBlanks tail).tail)
  else (parts (skipBlanks tail)).map fun (found, rest) => (wrap found, rest)

/-- What follows a part of a list or mapping: the closing sign, or a comma and further parts. -/
def locateNext {α : Type} (closing : Char) (part : α)
    (further : List Char → Option (List α × List Char)) (rest : List Char) :
    Option (List α × List Char) :=
  if (skipBlanks rest).head? = some closing then some ([part], (skipBlanks rest).tail)
  else if (skipBlanks rest).head? = some ',' then
    (further (skipBlanks (skipBlanks rest).tail)).map fun (parts, rest) => (part :: parts, rest)
  else none

mutual

def locateValue (fuel depth : Nat) (text : List Char) : Option (Layout × List Char) :=
  match fuel with
  | 0 => none
  | fuel + 1 =>
      match depth, text with
      | depth + 1, '[' :: tail => locateEnclosed ']' .list (locateItems fuel depth) tail
      | depth + 1, '\x7b' :: tail => locateEnclosed '\x7d' .map (locateEntries fuel depth) tail
      | _, text => (readValue 1 0 text).toOption.map fun (v, rest) => (.leaf v, rest)

def locateItems (fuel depth : Nat) (text : List Char) : Option (List Layout × List Char) :=
  match fuel with
  | 0 => none
  | fuel + 1 =>
      (locateValue fuel depth text).bind fun (item, rest) =>
        locateNext ']' item (locateItems fuel depth) rest

def locateEntries (fuel depth : Nat) (text : List Char) :
    Option (List (KeyToken × Layout) × List Char) :=
  match fuel with
  | 0 => none
  | fuel + 1 =>
      match text with
      | '"' :: tail =>
          (readString (tail.length + 1) ⟨[], none⟩ tail).toOption.bind fun (key, rest) =>
            let token := ⟨text.length, tail.take (tail.length - rest.length - 1), key⟩
            if (skipBlanks rest).head? = some ':' then
              (locateValue fuel depth (skipBlanks (skipBlanks rest).tail)).bind fun (part, rest) =>
                locateNext '\x7d' (token, part) (locateEntries fuel depth) rest
            else none
      | _ => none

end

/-- The layout of a text, nothing if the text is no JSON. -/
def layout? (text : List Char) : Option Layout :=
  if text.head? = some '\uFEFF' then none
  else
    (locateValue (2 * text.length + 2) maxDepth (skipBlanks text)).bind fun (doc, rest) =>
      if skipBlanks rest = [] then some doc else none

/-! Without the places. -/

private theorem locateValue_leaf (fuel depth : Nat) {text : List Char}
    (noList : text.head? ≠ some '[')
    (noMap : text.head? ≠ some '\x7b') :
    locateValue (fuel + 1) depth text =
      (readValue 1 0 text).toOption.map fun (v, rest) => (.leaf v, rest) := by
  rw [locateValue]
  · rintro _ _ _ rfl
    exact noList rfl
  · rintro _ _ _ rfl
    exact noMap rfl

section

variable {α β : Type} (collect : List α → β)

private theorem locateEnclosed_erased {closing : Char} {wrap : List α → Layout} {whole : β → Value}
    (same : ∀ parts, (wrap parts).value = whole (collect parts))
    {read : List Char → Outcome β} {parts : List Char → Option (List α × List Char)}
    (each : ∀ text, (read text).toOption = (parts text).map (Prod.map collect id))
    (tail : List Char) :
    (readEnclosed closing (whole (collect [])) whole read tail).toOption =
      (locateEnclosed closing wrap parts tail).map (Prod.map Layout.value id) := by
  unfold readEnclosed locateEnclosed
  split
  · simp [same, Except.toOption]
  · rw [toOption_map, each, Option.map_map, Option.map_map]
    simp [Function.comp_def, same]

theorem locateNext_erased {closing : Char} (part : α) {later : List α → β}
    (same : ∀ parts, later parts = collect (part :: parts))
    {read : List Char → Outcome β} {parts : List Char → Option (List α × List Char)}
    (each : ∀ text, (read text).toOption = (parts text).map (Prod.map later id))
    (rest : List Char) :
    (readNext closing (collect [part]) read rest).toOption =
      (locateNext closing part parts rest).map (Prod.map collect id) := by
  unfold readNext locateNext
  split
  · rfl
  split
  · rw [each, Option.map_map]
    congr 1
    funext ⟨parts, rest⟩
    exact congrArg (·, rest) (same parts)
  · rfl

end

def ValuesErased (fuel : Nat) : Prop :=
  ∀ depth text, (readValue fuel depth text).toOption =
    (locateValue fuel depth text).map (Prod.map Layout.value id)

def ItemsErased (fuel : Nat) : Prop :=
  ∀ depth done text, (readItems fuel depth done text).toOption =
    (locateItems fuel depth text).map
      (Prod.map (fun items => done.reverse ++ Layout.values items) id)

def EntriesErased (fuel : Nat) : Prop :=
  ∀ depth done text, (readEntries fuel depth done text).toOption =
    (locateEntries fuel depth text).map (Prod.map (Layout.putAll done) id)

theorem valuesErased_succ {fuel : Nat} (items : ItemsErased fuel) (entries : EntriesErased fuel) :
    ValuesErased (fuel + 1) := by
  intro depth text
  by_cases isList : text.head? = some '['
  · obtain ⟨tail, rfl⟩ := List.head?_eq_some_iff.mp isList
    cases depth with
    | zero => rfl
    | succ depth =>
        rw [readValue_items]
        exact locateEnclosed_erased Layout.values (fun _ => rfl) (items depth []) tail
  by_cases isMap : text.head? = some '\x7b'
  · obtain ⟨tail, rfl⟩ := List.head?_eq_some_iff.mp isMap
    cases depth with
    | zero => rfl
    | succ depth =>
        rw [readValue_entries]
        exact locateEnclosed_erased (Layout.putAll []) (fun _ => rfl) (entries depth []) tail
  rw [readValue_leaf fuel depth isList isMap, locateValue_leaf fuel depth isList isMap,
    Option.map_map]
  cases (readValue 1 0 text).toOption <;> rfl

theorem itemsErased_succ {fuel : Nat} (values : ValuesErased fuel) (items : ItemsErased fuel) :
    ItemsErased (fuel + 1) := by
  intro depth done text
  rw [readItems_succ, toOption_bind, values, locateItems, Option.bind_map, Option.map_bind]
  congr 1
  funext ⟨part, rest⟩
  have whole : (part.value :: done).reverse = done.reverse ++ Layout.values [part] := by
    rw [List.reverse_cons]
    rfl
  simp only [Function.comp_apply, Prod.map, id, whole]
  exact locateNext_erased (fun more => done.reverse ++ Layout.values more) part
    (fun more => by rw [List.reverse_cons, List.append_assoc]; rfl)
    (items depth (part.value :: done)) rest

theorem entriesErased_succ {fuel : Nat} (values : ValuesErased fuel)
    (entries : EntriesErased fuel) : EntriesErased (fuel + 1) := by
  intro depth done text
  by_cases isText : text.head? = some '"'
  · obtain ⟨tail, rfl⟩ := List.head?_eq_some_iff.mp isText
    rw [readEntries_succ, toOption_bind, locateEntries, Option.map_bind]
    congr 1
    funext ⟨key, rest⟩
    dsimp only [Function.comp_apply, readAfterKey]
    split
    · rw [toOption_bind, values, Option.bind_map, Option.map_bind]
      congr 1
      funext ⟨part, rest⟩
      exact locateNext_erased (Layout.putAll done) (⟨_, _, key⟩, part) (fun _ => rfl)
        (entries depth _) rest
    · rfl
  · have notLocated : locateEntries (fuel + 1) depth text = none := by
      unfold locateEntries
      split
      · exact absurd rfl isText
      · rfl
    rw [readEntries_noKey fuel depth done isText, notLocated]
    rfl

/-- Without the places, the one reader gives what the other gives. -/
theorem locate_erased (fuel : Nat) :
    ValuesErased fuel ∧ ItemsErased fuel ∧ EntriesErased fuel := by
  induction fuel with
  | zero =>
      refine ⟨?_, ?_, ?_⟩
      · intro depth text
        rw [readValue, locateValue]
        rfl
      · intro depth done text
        rw [readItems, locateItems]
        rfl
      · intro depth done text
        rw [readEntries, locateEntries]
        rfl
  | succ fuel ih =>
      obtain ⟨values, items, entries⟩ := ih
      exact ⟨valuesErased_succ items entries, itemsErased_succ values items,
        entriesErased_succ values entries⟩

/-- A text is JSON exactly if it has a layout, and its value is what is laid out. -/
theorem read?_eq (text : String) : read? text = (layout? text.toList).map Layout.value := by
  have same := (locate_erased (2 * text.toList.length + 2)).1 maxDepth (skipBlanks text.toList)
  unfold read? read readChars layout?
  split
  · rename_i marked
    rw [marked]
    rfl
  · rename_i unmarked
    rw [if_neg (head?_ne_some (unmarked ·))]
    cases isRead : readValue (2 * text.toList.length + 2) maxDepth (skipBlanks text.toList) with
    | error e =>
        rw [isRead] at same
        rw [Option.map_eq_none_iff.mp same.symm]
        rfl
    | ok found =>
        obtain ⟨v, rest⟩ := found
        rw [isRead] at same
        obtain ⟨⟨doc, _⟩, located, isFound⟩ := Option.map_eq_some_iff.mp same.symm
        cases isFound
        rw [located]
        dsimp only [Option.bind_some, id]
        split
        · rename_i done
          rw [if_pos done]
          rfl
        · rename_i extra more
          rw [if_neg more]
          rfl

/-! The places. -/

theorem Layout.everywhere_iff {test : Layout → Prop} {doc : Layout} :
    doc.Everywhere test ↔ test doc ∧ ∀ child ∈ doc.children, child.Everywhere test := by
  constructor
  · intro all
    refine ⟨all [] doc rfl, fun child member place part isAt => ?_⟩
    obtain ⟨n, isChild⟩ := List.mem_iff_getElem?.mp member
    refine all (n :: place) part ?_
    rw [at?, isChild]
    exact isAt
  · rintro ⟨here, below⟩ place part isAt
    cases place with
    | nil =>
        cases isAt
        exact here
    | cons n place =>
        obtain ⟨child, isChild, isAt⟩ := Option.bind_eq_some_iff.mp isAt
        exact below child (List.mem_of_getElem? isChild) place part isAt

@[simp] theorem Layout.everywhere_leaf {test : Layout → Prop} {v : Value} :
    (leaf v).Everywhere test ↔ test (leaf v) :=
  everywhere_iff.trans (and_iff_left nofun)

@[simp] theorem Layout.everywhere_list {test : Layout → Prop} {items : List Layout} :
    (list items).Everywhere test ↔ test (list items) ∧ ∀ item ∈ items, item.Everywhere test :=
  everywhere_iff

@[simp] theorem Layout.everywhere_map {test : Layout → Prop} {entries : List (KeyToken × Layout)} :
    (map entries).Everywhere test ↔
      test (map entries) ∧ ∀ entry ∈ entries, entry.2.Everywhere test :=
  everywhere_iff.trans (and_congr_right' List.forall_mem_map)

namespace Layout

mutual

/-- Whether a test holds of all parts. -/
def all (test : Layout → Bool) : Layout → Bool
  | leaf v => test (leaf v)
  | list items => test (list items) && allItems test items
  | map entries => test (map entries) && allEntries test entries

def allItems (test : Layout → Bool) : List Layout → Bool
  | [] => true
  | item :: rest => item.all test && allItems test rest

def allEntries (test : Layout → Bool) : List (KeyToken × Layout) → Bool
  | [] => true
  | (_, part) :: rest => part.all test && allEntries test rest

end

mutual

theorem all_iff (test : Layout → Bool) :
    (doc : Layout) → (doc.all test = true ↔ doc.Everywhere (test · = true))
  | leaf v => by rw [all, everywhere_leaf]
  | list items => by rw [all, Bool.and_eq_true, allItems_iff test items, everywhere_list]
  | map entries => by rw [all, Bool.and_eq_true, allEntries_iff test entries, everywhere_map]

theorem allItems_iff (test : Layout → Bool) : (items : List Layout) →
    (allItems test items = true ↔ ∀ item ∈ items, item.Everywhere (test · = true))
  | [] => by simp [allItems]
  | item :: rest => by
      rw [allItems, Bool.and_eq_true, all_iff test item, allItems_iff test rest,
        List.forall_mem_cons]

theorem allEntries_iff (test : Layout → Bool) : (entries : List (KeyToken × Layout)) →
    (allEntries test entries = true ↔ ∀ entry ∈ entries, entry.2.Everywhere (test · = true))
  | [] => by simp [allEntries]
  | (token, part) :: rest => by
      rw [allEntries, Bool.and_eq_true, all_iff test part, allEntries_iff test rest,
        List.forall_mem_cons]

end

instance (test : Layout → Prop) [DecidablePred test] (doc : Layout) :
    Decidable (doc.Everywhere test) :=
  decidable_of_iff (doc.all fun part => decide (test part)) (by simp [all_iff])

instance (doc : Layout) : Decidable doc.Distinct :=
  inferInstanceAs (Decidable (doc.Everywhere _))

instance (doc : Layout) : Decidable doc.Unescaped :=
  inferInstanceAs (Decidable (doc.Everywhere _))

end Layout

private theorem Layout.Everywhere.imp {test other : Layout → Prop} {doc : Layout}
    (all : doc.Everywhere test) (implies : ∀ part, test part → other part) :
    doc.Everywhere other :=
  fun place part isAt => implies part (all place part isAt)

/-- The key stands in the text as its token says. -/
structure KeyToken.StandsIn (token : KeyToken) (text : List Char) : Prop where
  placed : ∃ after, '"' :: (token.spelling ++ '"' :: after) <:+ text ∧
    token.remaining = ('"' :: (token.spelling ++ '"' :: after)).length
  plain : '\\' ∉ token.spelling → token.key.toList = token.spelling

theorem KeyToken.StandsIn.mono {token : KeyToken} {text longer : List Char}
    (stands : token.StandsIn text) (suffix : text <:+ longer) : token.StandsIn longer where
  placed := by
    obtain ⟨after, ends, counted⟩ := stands.placed
    exact ⟨after, ends.trans suffix, counted⟩
  plain := stands.plain

/-- All keys stand in the text, and what has no parts is no list or mapping. -/
def Layout.StandsIn (text : List Char) (doc : Layout) : Prop :=
  doc.Everywhere fun part =>
    (∀ token ∈ part.keys, token.StandsIn text) ∧ ∀ v, part = leaf v → v.children = []

def EntryStandsIn (text : List Char) (entry : KeyToken × Layout) : Prop :=
  entry.1.StandsIn text ∧ entry.2.StandsIn text

theorem Layout.StandsIn.mono {doc : Layout} {text longer : List Char} (suffix : text <:+ longer)
    (stands : doc.StandsIn text) : doc.StandsIn longer :=
  stands.imp fun _ here => ⟨fun token member => (here.1 token member).mono suffix, here.2⟩

theorem EntryStandsIn.mono {entry : KeyToken × Layout} {text longer : List Char}
    (suffix : text <:+ longer) (stands : EntryStandsIn text entry) : EntryStandsIn longer entry :=
  ⟨stands.1.mono suffix, stands.2.mono suffix⟩

theorem readString_spelled (start : Nat) (p : Partial) (text : List Char) {s : String}
    {rest : List Char} (read : readString start p text = .ok (s, rest)) :
    ∃ spelling, text = spelling ++ '"' :: rest ∧
      ('\\' ∉ spelling → s.toList = p.settled.reverse ++ spelling) := by
  fun_induction readString start p text with
  | case1 => cases read
  | case2 p rest' =>
      cases read
      exact ⟨[], rfl, fun _ => by simp [Partial.text]⟩
  | case3 => cases read
  | case4 p a b c d rest' code known more ih =>
      obtain ⟨spelling, rfl, _⟩ := ih read
      exact ⟨'\\' :: 'u' :: a :: b :: c :: d :: spelling, rfl, fun plain => by simp at plain⟩
  | case5 => cases read
  | case6 => cases read
  | case7 => cases read
  | case8 p c rest' _ _ e known ih =>
      obtain ⟨spelling, rfl, _⟩ := ih read
      exact ⟨'\\' :: c :: spelling, rfl, fun plain => by simp at plain⟩
  | case9 => cases read
  | case10 => cases read
  | case11 p c rest' _ _ _ _ _ _ ih =>
      obtain ⟨spelling, rfl, plainly⟩ := ih read
      refine ⟨c :: spelling, rfl, fun plain => ?_⟩
      rw [plainly fun member => plain (List.mem_cons_of_mem c member)]
      simp [Partial.addChar, Partial.settled]

theorem readString_suffix {start : Nat} {p : Partial} {tail : List Char} {s : String}
    {rest : List Char} (read : readString start p tail = .ok (s, rest)) : rest <:+ '"' :: tail := by
  obtain ⟨spelling, rfl, _⟩ := readString_spelled _ _ _ read
  have behind : rest <:+ spelling ++ '"' :: rest :=
    (List.suffix_cons '"' rest).trans (List.suffix_append spelling _)
  exact behind.trans (List.suffix_cons '"' _)

private theorem token_standsIn {start : Nat} {tail : List Char} {key : String} {rest : List Char}
    (read : readString start ⟨[], none⟩ tail = .ok (key, rest)) :
    KeyToken.StandsIn
      ⟨('"' :: tail).length, tail.take (tail.length - rest.length - 1), key⟩ ('"' :: tail) := by
  obtain ⟨spelling, rfl, plainly⟩ := readString_spelled _ _ _ read
  have counted : (spelling ++ '"' :: rest).length - rest.length - 1 = spelling.length := by
    rw [List.length_append, List.length_cons]
    omega
  have spelled : (spelling ++ '"' :: rest).take
      ((spelling ++ '"' :: rest).length - rest.length - 1) = spelling := by
    rw [counted, List.take_left]
  rw [spelled]
  exact ⟨⟨rest, List.suffix_rfl, rfl⟩, plainly⟩

section

variable {α : Type} (good : List Char → α → Prop)
  (grows : ∀ {a text longer}, text <:+ longer → good text a → good longer a)
  {parts : List Char → Option (List α × List Char)}
  (each : ∀ {text found rest}, parts text = some (found, rest) →
    rest <:+ text ∧ ∀ a ∈ found, good text a)
include grows each

private theorem locateEnclosed_within {closing : Char} {wrap : List α → Layout} {doc : Layout}
    {tail rest : List Char} (located : locateEnclosed closing wrap parts tail = some (doc, rest)) :
    rest <:+ tail ∧ ∃ found, doc = wrap found ∧ ∀ a ∈ found, good tail a := by
  unfold locateEnclosed at located
  split at located
  · cases located
    exact ⟨(List.tail_suffix _).trans (skipBlanks_suffix tail), [], rfl, nofun⟩
  · obtain ⟨⟨found, _⟩, isFound, same⟩ := Option.map_eq_some_iff.mp located
    cases same
    obtain ⟨suffix, areGood⟩ := each isFound
    exact ⟨suffix.trans (skipBlanks_suffix tail), found, rfl,
      fun a member => grows (skipBlanks_suffix tail) (areGood a member)⟩

theorem locateNext_within {closing : Char} {part : α} {found : List α} {rest rest' : List Char}
    (located : locateNext closing part parts rest = some (found, rest')) :
    rest' <:+ rest ∧ ∃ more, found = part :: more ∧ ∀ a ∈ more, good rest a := by
  unfold locateNext at located
  have behind := (List.tail_suffix _).trans (skipBlanks_suffix rest)
  split at located
  · cases located
    exact ⟨behind, [], rfl, nofun⟩
  split at located
  · obtain ⟨⟨more, _⟩, isFound, same⟩ := Option.map_eq_some_iff.mp located
    cases same
    obtain ⟨suffix, areGood⟩ := each isFound
    have within := (skipBlanks_suffix _).trans behind
    exact ⟨suffix.trans within, more, rfl, fun a member => grows within (areGood a member)⟩
  · cases located

end

private theorem readLeaf_within {text rest : List Char} {v : Value}
    (isRead : readValue 1 0 text = .ok (v, rest)) : rest <:+ text ∧ v.children = [] := by
  constructor
  · obtain ⟨tail, s, rfl, _, isString⟩ | isWord | isNumber := readLeaf_eq_ok isRead
    · exact readString_suffix isString
    · exact readWord_suffix isWord
    · exact readNumber_suffix isNumber
  · cases isLeaf_of_readLeaf isRead <;> rfl

def ValuesWithin (fuel : Nat) : Prop :=
  ∀ {depth text doc rest}, locateValue fuel depth text = some (doc, rest) →
    rest <:+ text ∧ doc.StandsIn text

def ItemsWithin (fuel : Nat) : Prop :=
  ∀ {depth text items rest}, locateItems fuel depth text = some (items, rest) →
    rest <:+ text ∧ ∀ item ∈ items, item.StandsIn text

def EntriesWithin (fuel : Nat) : Prop :=
  ∀ {depth text entries rest}, locateEntries fuel depth text = some (entries, rest) →
    rest <:+ text ∧ ∀ entry ∈ entries, EntryStandsIn text entry

theorem valuesWithin_succ {fuel : Nat} (items : ItemsWithin fuel) (entries : EntriesWithin fuel) :
    ValuesWithin (fuel + 1) := by
  intro depth text doc rest located
  unfold locateValue at located
  split at located
  · rename_i tail
    obtain ⟨suffix, found, rfl, each⟩ :=
      locateEnclosed_within Layout.StandsIn Layout.StandsIn.mono items located
    have within := List.suffix_cons '[' tail
    exact ⟨suffix.trans within, Layout.everywhere_list.mpr
      ⟨⟨nofun, nofun⟩, fun item member => (each item member).mono within⟩⟩
  · rename_i tail
    obtain ⟨suffix, found, rfl, each⟩ :=
      locateEnclosed_within EntryStandsIn EntryStandsIn.mono entries located
    have within := List.suffix_cons '\x7b' tail
    refine ⟨suffix.trans within, Layout.everywhere_map.mpr ⟨⟨?_, nofun⟩, ?_⟩⟩
    · exact List.forall_mem_map.mpr fun entry member => ((each entry member).mono within).1
    · exact fun entry member => ((each entry member).mono within).2
  · obtain ⟨⟨v, _⟩, isRead, same⟩ := Option.map_eq_some_iff.mp located
    cases same
    obtain ⟨suffix, childless⟩ := readLeaf_within (toOption_eq_some.mp isRead)
    refine ⟨suffix, Layout.everywhere_leaf.mpr ⟨nofun, ?_⟩⟩
    rintro _ ⟨⟩
    exact childless

theorem itemsWithin_succ {fuel : Nat} (values : ValuesWithin fuel) (items : ItemsWithin fuel) :
    ItemsWithin (fuel + 1) := by
  intro depth text found rest located
  rw [locateItems] at located
  obtain ⟨⟨item, behind⟩, isItem, isNext⟩ := Option.bind_eq_some_iff.mp located
  obtain ⟨suffix, isFound⟩ := values isItem
  obtain ⟨further, more, rfl, each⟩ :=
    locateNext_within Layout.StandsIn Layout.StandsIn.mono items isNext
  exact ⟨further.trans suffix, List.forall_mem_cons.mpr
    ⟨isFound, fun next member => (each next member).mono suffix⟩⟩

theorem entriesWithin_succ {fuel : Nat} (values : ValuesWithin fuel)
    (entries : EntriesWithin fuel) : EntriesWithin (fuel + 1) := by
  intro depth text found rest located
  unfold locateEntries at located
  split at located
  · obtain ⟨⟨key, afterKey⟩, isKey, located⟩ := Option.bind_eq_some_iff.mp located
    have isRead := toOption_eq_some.mp isKey
    dsimp only at located
    split at located
    · obtain ⟨⟨part, afterPart⟩, isPart, isNext⟩ := Option.bind_eq_some_iff.mp located
      obtain ⟨suffix, isFound⟩ := values isPart
      obtain ⟨further, more, rfl, each⟩ :=
        locateNext_within EntryStandsIn EntryStandsIn.mono entries isNext
      have within := (skipBlanks_suffix _).trans ((List.tail_suffix _).trans
        ((skipBlanks_suffix afterKey).trans (readString_suffix isRead)))
      refine ⟨(further.trans suffix).trans within, List.forall_mem_cons.mpr
        ⟨⟨token_standsIn isRead, isFound.mono within⟩, fun entry member => ?_⟩⟩
      exact (each entry member).mono (suffix.trans within)
    · cases located
  · cases located

/-- What is located stands in the text. -/
theorem locate_within (fuel : Nat) :
    ValuesWithin fuel ∧ ItemsWithin fuel ∧ EntriesWithin fuel := by
  induction fuel with
  | zero =>
      refine ⟨?_, ?_, ?_⟩
      · intro depth text doc rest located
        rw [locateValue] at located
        cases located
      · intro depth text items rest located
        rw [locateItems] at located
        cases located
      · intro depth text entries rest located
        rw [locateEntries] at located
        cases located
  | succ fuel ih =>
      obtain ⟨values, items, entries⟩ := ih
      exact ⟨valuesWithin_succ items entries, itemsWithin_succ values items,
        entriesWithin_succ values entries⟩

theorem layout?_standsIn {text : List Char} {doc : Layout} (laidOut : layout? text = some doc) :
    doc.StandsIn text := by
  unfold layout? at laidOut
  split at laidOut
  · cases laidOut
  · obtain ⟨⟨found, rest⟩, located, same⟩ := Option.bind_eq_some_iff.mp laidOut
    have isFound : found = doc := by simpa using (Option.ite_none_right_eq_some.mp same).2
    exact isFound ▸ ((locate_within _).1 located).2.mono (skipBlanks_suffix text)

/-! Keys by their places in the value. -/

namespace Layout

theorem values_eq (items : List Layout) : values items = items.map value := by
  induction items with
  | nil => rfl
  | cons item items ih => rw [values, ih, List.map_cons]

private theorem putAll_distinct (done : List (String × Value)) {entries : List (KeyToken × Layout)}
    (distinct : (done.map (·.1) ++ entries.map (·.1.key)).Nodup) :
    putAll (done.map fieldEntry) entries =
      (done ++ entries.map fun entry => (entry.1.key, entry.2.value)).map fieldEntry := by
  induction entries generalizing done with
  | nil => rw [putAll, List.map_nil, List.append_nil]
  | cons entry entries ih =>
      obtain ⟨token, part⟩ := entry
      rw [List.map_cons] at distinct
      have fresh : token.key ∉ done.map (·.1) := fun member =>
        (List.nodup_append.mp distinct).2.2 _ member _ List.mem_cons_self rfl
      have moved : ((done ++ [(token.key, part.value)]).map (·.1) ++
          entries.map (·.1.key)).Nodup := by
        rw [List.map_append, List.append_assoc]
        exact distinct
      rw [putAll, put_field done (token.key, part.value) fresh, ih _ moved, List.map_cons,
        List.append_assoc]
      rfl

theorem value_map {entries : List (KeyToken × Layout)}
    (distinct : (entries.map (·.1.key)).Nodup) :
    (map entries).value = .map (entries.map fun entry => (.text entry.1.key, entry.2.value)) := by
  have whole := putAll_distinct [] distinct
  rw [List.nil_append, List.map_map] at whole
  rw [value]
  exact congrArg Value.map whole

private theorem child_of_value {doc : Layout} (distinct : (doc.keys.map (·.key)).Nodup)
    (childless : ∀ v, doc = leaf v → v.children = []) {n : Nat} {step : Value.Step} {child : Value}
    (isChild : doc.value.children[n]? = some (step, child)) :
    ∃ part, doc.children[n]? = some part ∧ part.value = child ∧
      ∀ key, step = .key key → ∃ token, doc.keys[n]? = some token ∧ token.key = key := by
  cases doc with
  | leaf v =>
      rw [value, childless v rfl] at isChild
      cases isChild
  | list items =>
      rw [value, values_eq, Value.children, List.getElem?_map, List.getElem?_zipIdx,
        List.getElem?_map] at isChild
      simp only [Option.map_map, Option.map_eq_some_iff] at isChild
      obtain ⟨part, isPart, same⟩ := isChild
      cases same
      exact ⟨part, isPart, rfl, nofun⟩
  | map entries =>
      rw [keys, List.map_map] at distinct
      rw [value_map distinct, Value.children, List.map_map, List.getElem?_map] at isChild
      obtain ⟨⟨token, part⟩, isEntry, same⟩ := Option.map_eq_some_iff.mp isChild
      cases same
      refine ⟨part, ?_, rfl, ?_⟩
      · rw [children, List.getElem?_map, isEntry]
        rfl
      · rintro _ ⟨⟩
        refine ⟨token, ?_, rfl⟩
        rw [keys, List.getElem?_map, isEntry]
        rfl

theorem HasKey.standsIn {doc : Layout} {place : List Nat} {token : KeyToken} {text : List Char}
    (has : doc.HasKey place token) (stands : doc.StandsIn text) : token.StandsIn text := by
  obtain ⟨front, n, part, _, isAt, isKey⟩ := has
  exact (stands front part isAt).1 token (List.mem_of_getElem? isKey)

theorem HasKey.plain {doc : Layout} {place : List Nat} {token : KeyToken}
    (has : doc.HasKey place token) (unescaped : doc.Unescaped) : '\\' ∉ token.spelling := by
  obtain ⟨front, n, part, _, isAt, isKey⟩ := has
  exact unescaped front part isAt token (List.mem_of_getElem? isKey)

private theorem HasKey.beneath {doc part : Layout} {n : Nat} {place : List Nat} {token : KeyToken}
    (isChild : doc.children[n]? = some part) (has : part.HasKey place token) :
    doc.HasKey (n :: place) token := by
  obtain ⟨front, m, inner, rfl, isAt, isKey⟩ := has
  refine ⟨n :: front, m, inner, rfl, ?_, isKey⟩
  rw [at?, isChild]
  exact isAt

theorem hasKey_of_at? {doc : Layout} {text : List Char} (distinct : doc.Distinct)
    (stands : doc.StandsIn text) {place : List Nat} {way : List Value.Step} {key : String}
    {v : Value} (isAt : doc.value.at? place = some (way ++ [.key key], v)) :
    ∃ token, doc.HasKey place token ∧ token.key = key := by
  induction place generalizing doc way with
  | nil => simp [Value.at?] at isAt
  | cons n place ih =>
      obtain ⟨distinctHere, distinctBelow⟩ := everywhere_iff.mp distinct
      obtain ⟨standsHere, standsBelow⟩ := everywhere_iff.mp stands
      rw [Value.at?] at isAt
      obtain ⟨⟨step, child⟩, isChild, isAt⟩ := Option.bind_eq_some_iff.mp isAt
      obtain ⟨⟨onward, found⟩, isBelow, same⟩ := Option.bind_eq_some_iff.mp isAt
      obtain ⟨isWay, rfl⟩ : step :: onward = way ++ [.key key] ∧ found = v := by simpa using same
      obtain ⟨part, isPart, rfl, keyed⟩ := child_of_value distinctHere standsHere.2 isChild
      have member := List.mem_of_getElem? isPart
      cases way with
      | nil =>
          obtain ⟨rfl, rfl⟩ : step = .key key ∧ onward = [] := by simpa using isWay
          obtain ⟨token, isToken, isKey⟩ := keyed key rfl
          obtain rfl : place = [] := List.length_eq_zero_iff.mp (Value.length_of_at? isBelow).symm
          exact ⟨token, ⟨[], n, doc, rfl, rfl, isToken⟩, isKey⟩
      | cons first way =>
          obtain ⟨rfl, rfl⟩ : step = first ∧ onward = way ++ [.key key] := by simpa using isWay
          obtain ⟨token, has, isKey⟩ :=
            ih (distinctBelow part member) (standsBelow part member) isBelow
          exact ⟨token, has.beneath isPart, isKey⟩

end Layout

end MobileAudit.Json
