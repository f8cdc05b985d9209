import Mathlib.Data.List.Forall2
import MobileAudit.Proofs.Document.Place
import MobileAudit.Rule.ConfigSecret

namespace MobileAudit.Rule

open Value

/-! Entries of nested mappings and lists by their places, and the findings for them: one for each
entry that hardcodes a secret, in document order. -/

/-! Text entries by their places. -/

def extendBy (path : String) : Step → String
  | .key name => extendPath path name
  | .item index => itemPath path index

/-- The entry at the end of a way, if the way ends with a key and leads to a text. -/
def entryOf? (path : String) (way : List Step) : Value → Option TextEntry
  | .text s =>
      match way.getLast? with
      | some (.key name) => some ⟨name, way.foldl extendBy path, s⟩
      | _ => none
  | _ => none

def entryAt? (path : String) (v : Value) (place : List Nat) : Option TextEntry :=
  (v.at? place).bind fun (way, found) => entryOf? path way found

def entryUnder? (path : String) (child : Step × Value) (place : List Nat) : Option TextEntry :=
  (child.2.at? place).bind fun (way, found) => entryOf? path (child.1 :: way) found

/-- The entries that a child is or has. -/
def entriesUnder (path : String) : Step × Value → List TextEntry
  | (.key name, .text s) => [⟨name, extendPath path name, s⟩]
  | (step, child) => textEntries (extendBy path step) child

theorem entryAt?_eq (path : String) (v : Value) :
    entryAt? path v = descend (entryUnder? path) v.children := by
  funext place
  cases place with
  | nil => cases v <;> rfl
  | cons n place =>
      rw [entryAt?, at?, descend]
      cases v.children[n]? with
      | none => rfl
      | some child =>
          simp only [Option.bind_eq_bind, Option.bind_some, entryUnder?]
          cases child.2.at? place <;> rfl

theorem entryOf?_cons (path : String) (first second : Step) (way : List Step) (v : Value) :
    entryOf? path (first :: second :: way) v = entryOf? (extendBy path first) (second :: way) v := by
  cases v <;> simp [entryOf?, List.getLast?_cons_cons]

theorem entryUnder?_cons (path : String) (child : Step × Value) (n : Nat) (place : List Nat) :
    entryUnder? path child (n :: place) = entryAt? (extendBy path child.1) child.2 (n :: place) := by
  unfold entryUnder? entryAt?
  rw [at?]
  cases child.2.children[n]? with
  | none => rfl
  | some next =>
      simp only [Option.bind_eq_bind, Option.bind_some]
      cases next.2.at? place with
      | none => rfl
      | some found => exact entryOf?_cons path child.1 next.1 found.1 found.2

theorem entriesOfMap_eq (path : String) (entries : List (Value × Value)) :
    entriesOfMap path entries = (Value.map entries).children.flatMap (entriesUnder path) := by
  induction entries with
  | nil => rfl
  | cons entry entries ih =>
      obtain ⟨key, value⟩ := entry
      cases value <;> exact congrArg (_ ++ ·) ih

theorem entriesOfList_eq (path : String) (index : Nat) (items : List Value) :
    entriesOfList path index items =
      (items.zipIdx index).flatMap fun (item, n) => entriesUnder path (.item n, item) := by
  induction items generalizing index with
  | nil => rfl
  | cons item items ih =>
      rw [entriesOfList, ih, List.zipIdx_cons, List.flatMap_cons]
      rfl

theorem textEntries_eq (path : String) (v : Value) :
    textEntries path v = v.children.flatMap (entriesUnder path) := by
  cases v with
  | map entries => exact entriesOfMap_eq path entries
  | list items =>
      rw [textEntries, entriesOfList_eq, children, List.flatMap_map]
  | _ => rfl

theorem entryAt?_nil (path : String) (v : Value) : entryAt? path v [] = none := by
  cases v <;> rfl

/-- A child is a text under a key, or only what is beneath it counts. -/
theorem child_cases (path : String) (child : Step × Value) :
    (∃ name s, child = (.key name, .text s)) ∨
      entriesUnder path child = textEntries (extendBy path child.1) child.2 ∧
        entryUnder? path child [] = none := by
  obtain ⟨step, v⟩ := child
  cases step with
  | item index => exact .inr ⟨rfl, by cases v <;> rfl⟩
  | key name =>
      cases v with
      | text s => exact .inl ⟨name, s, rfl⟩
      | _ => exact .inr ⟨rfl, rfl⟩

private theorem enumerates_under {path : String} {child : Step × Value}
    (within : Enumerates (entryAt? (extendBy path child.1) child.2)
      (textEntries (extendBy path child.1) child.2)) :
    Enumerates (entryUnder? path child) (entriesUnder path child) := by
  obtain ⟨name, s, rfl⟩ | ⟨entries, notHere⟩ := child_cases path child
  · refine enumerates_here rfl fun n place => ?_
    rw [entryUnder?_cons]
    rfl
  · have same : entryUnder? path child = entryAt? (extendBy path child.1) child.2 := by
      funext place
      cases place with
      | nil => rw [notHere, entryAt?_nil]
      | cons n place => exact entryUnder?_cons path child n place
    rwa [same, entries]

theorem enumerates_textEntries (path : String) (v : Value) :
    Enumerates (entryAt? path v) (textEntries path v) := by
  rw [entryAt?_eq, textEntries_eq]
  refine enumerates_descend fun child member => enumerates_under ?_
  have smaller : sizeOf child.2 < sizeOf v := sizeOf_of_mem_children member
  exact enumerates_textEntries (extendBy path child.1) child.2
termination_by sizeOf v

theorem exists_place {path : String} {v : Value} {entry : TextEntry}
    (member : entry ∈ textEntries path v) : ∃ place, entryAt? path v place = some entry := by
  obtain ⟨places, _, _, isFound⟩ := enumerates_textEntries path v
  rw [← isFound] at member
  obtain ⟨place, _, isEntry⟩ := List.mem_filterMap.mp member
  exact ⟨place, isEntry⟩

private theorem entryOf?_eq_some {path : String} {way : List Step} {v : Value} {entry : TextEntry} :
    entryOf? path way v = some entry ↔ way.getLast? = some (Step.key entry.key) ∧
      v = .text entry.value ∧ entry.path = way.foldl extendBy path := by
  cases v with
  | text s =>
      cases last : way.getLast? with
      | none => simp [entryOf?, last]
      | some step =>
          obtain ⟨key, written, value⟩ := entry
          cases step <;> simp [entryOf?, last, and_comm, and_left_comm, eq_comm]
  | _ => simp [entryOf?]

theorem entryAt?_eq_some {path : String} {v : Value} {place : List Nat} {entry : TextEntry} :
    entryAt? path v place = some entry ↔
      ∃ way, v.at? place = some (way ++ [Step.key entry.key], .text entry.value) ∧
        entry.path = (way ++ [Step.key entry.key]).foldl extendBy path := by
  rw [entryAt?, Option.bind_eq_some_iff]
  constructor
  · rintro ⟨⟨way, found⟩, isAt, isEntry⟩
    obtain ⟨last, rfl, isPath⟩ := entryOf?_eq_some.mp isEntry
    obtain ⟨front, rfl⟩ := List.getLast?_eq_some_iff.mp last
    exact ⟨front, isAt, isPath⟩
  · rintro ⟨way, isAt, isPath⟩
    exact ⟨_, isAt, entryOf?_eq_some.mpr ⟨by simp, rfl, isPath⟩⟩

/-! Paths. -/

private theorem foldl_extendBy {path : String} (some : path ≠ "") (way : List Step) :
    way.foldl extendBy path = path ++ String.join (way.map Step.suffix) := by
  induction way generalizing path with
  | nil => simp
  | cons step way ih =>
      have stepped : extendBy path step = path ++ step.suffix := by
        cases step with
        | key name => simp [extendBy, extendPath, Step.suffix, some, String.append_assoc]
        | item index => simp [extendBy, itemPath, Step.suffix, String.append_assoc]
      rw [List.foldl_cons, stepped, ih (by simp [some]), List.map_cons, String.join_cons,
        String.append_assoc]

private theorem foldl_extendBy_empty {way : List Step} (named : .key "" ∉ way) :
    way.foldl extendBy "" = dotted way := by
  cases way with
  | nil => rfl
  | cons step way =>
      cases step with
      | key name =>
          have some : name ≠ "" := by
            rintro rfl
            exact named List.mem_cons_self
          exact foldl_extendBy some way
      | item index =>
          have first : extendBy "" (.item index) = (Step.item index).suffix := by
            simp [extendBy, itemPath, Step.suffix]
          have some : (Step.item index).suffix ≠ "" := by simp [Step.suffix]
          rw [List.foldl_cons, first, foldl_extendBy some, dotted, List.map_cons, String.join_cons]
          simp

/-! The findings. -/

/-- An entry that gives a secret to its key lies at this place. -/
def HoldsSecret (v : Value) (place : List Nat) : Prop :=
  ∃ way key value, v.at? place = some (way ++ [.key key], .text value) ∧
    Secret.isHardcoded key value = true

/-- The finding for the entry at a place, which names the way there. -/
def Reports (context : FileContext) (place : List Nat) (found : Finding) : Prop :=
  ∃ way key value path, context.config.at? place = some (way ++ [.key key], .text value) ∧
    (.key "" ∉ way → path = dotted (way ++ [.key key])) ∧
      found = configSecretCard.finding context (keyOffset context.content.toList key)
        (configSecretAdvice path)

private theorem ne_empty_of_isHardcoded {name value : String}
    (hardcoded : Secret.isHardcoded name value = true) : name ≠ "" := by
  rintro rfl
  simp [Secret.isHardcoded] at hardcoded

def reportOf (context : FileContext) (entry : TextEntry) : Finding :=
  configSecretCard.finding context (keyOffset context.content.toList entry.key)
    (configSecretAdvice entry.path)

theorem reports_entry {context : FileContext} {place : List Nat} {entry : TextEntry}
    (isEntry : entryAt? "" context.config place = some entry)
    (hardcoded : Secret.isHardcoded entry.key entry.value = true) :
    Reports context place (reportOf context entry) := by
  obtain ⟨way, isAt, isPath⟩ := entryAt?_eq_some.mp isEntry
  refine ⟨way, entry.key, entry.value, entry.path, isAt, fun named => ?_, rfl⟩
  rw [isPath, foldl_extendBy_empty]
  simp [named, (ne_empty_of_isHardcoded hardcoded).symm]

private theorem forall₂_filterMap {α β : Type} {f : α → Option β} {test : β → Bool}
    {R : α → β → Prop}
    (each : ∀ a b, f a = some b → test b = true → R a b) (list : List α) :
    List.Forall₂ R (list.filter fun a => (f a).any test) ((list.filterMap f).filter test) := by
  induction list with
  | nil => exact .nil
  | cons a list ih =>
      cases image : f a with
      | none => simpa [image] using ih
      | some b =>
          cases passed : test b with
          | false => simpa [image, passed] using ih
          | true => simpa [image, passed] using ⟨each a b image passed, ih⟩

/-- One finding for each entry that hardcodes a secret, in document order, and no other. -/
theorem configSecret_reports_each (context : FileContext) :
    ∃ places found, configSecret.apply context = .ofFindings found ∧
      places.Pairwise (List.Lex (· < ·)) ∧
      (∀ place, place ∈ places ↔ HoldsSecret context.config place) ∧
        List.Forall₂ (Reports context) places found := by
  obtain ⟨places, sorted, inPlaces, isFound⟩ := enumerates_textEntries "" context.config
  let hardcodes (entry : TextEntry) : Bool := Secret.isHardcoded entry.key entry.value
  refine ⟨places.filter fun place => (entryAt? "" context.config place).any hardcodes, _, rfl,
    sorted.filter _, fun place => ?_, ?_⟩
  · rw [List.mem_filter, inPlaces, Option.any_eq_true_iff_get]
    constructor
    · rintro ⟨_, inPlace, hardcoded⟩
      obtain ⟨way, isAt, _⟩ := entryAt?_eq_some.mp (Option.some_get inPlace).symm
      exact ⟨way, _, _, isAt, hardcoded⟩
    · rintro ⟨way, key, value, isAt, hardcoded⟩
      have isEntry : entryAt? "" context.config place =
          some ⟨key, (way ++ [Step.key key]).foldl extendBy "", value⟩ :=
        entryAt?_eq_some.mpr ⟨way, isAt, rfl⟩
      rw [isEntry]
      exact ⟨rfl, rfl, hardcoded⟩
  · unfold detectConfigSecrets
    rw [List.forall₂_map_right_iff, ← isFound]
    refine forall₂_filterMap (fun place entry isEntry hardcoded => ?_) places
    exact reports_entry isEntry hardcoded

end MobileAudit.Rule
