import MobileAudit.Proofs.Settings.Overlay
import MobileAudit.Proofs.Settings.PlainFile
import MobileAudit.Proofs.Settings.Refusal

namespace MobileAudit.Settings

open Check Disk

/-! The check of a settings file and the loading of its settings.  One checks the mapping of the
file by itself, the other merges it over the defaults first; they agree on every file that leaves
nothing open between the two. -/

/-! Names of what a layer sets. -/

theorem namelessEntry_null {v : Value} (isNull : v.bare = .null) (base : Value.Entries)
    (key : Value) : namelessEntry base key v = false := by
  rw [namelessEntry_bare, isNull, namelessEntry]

theorem namelessEntry_eq {key v : Value} (stated : v.bare ≠ .null) (written : key.isWritable = true)
    {base : Value.Entries}
    (inside : ∀ inner old w, v.bare = .map inner → base.find? key = some w → w.bare = .map old →
      nameless old inner = false) : namelessEntry base key v = false := by
  rw [namelessEntry_bare]
  cases bare : v.bare with
  | null => exact absurd bare stated
  | loop label inner => exact absurd bare (v.bare_ne_loop label inner)
  | map inner =>
      rw [namelessEntry, written, Bool.not_true, Bool.false_or]
      split
      · rename_i old found
        obtain ⟨w, isFound, isOld⟩ := Option.map_eq_some_iff.mp found
        exact inside inner old w bare isFound isOld
      · rfl
  | _ => exact congrArg not written

theorem named_of_sections {base layer : Value.Entries} (distinct : layer.Distinct)
    (texts : ∀ entry ∈ layer, entry.2.bare ≠ .null → IsText entry.1)
    (inside : ∀ name v inner old w, (.text name, v) ∈ layer → v.bare = .map inner →
      base.findText? name = some w → w.bare = .map old → nameless old inner = false) :
    nameless base layer = false := by
  induction layer generalizing base with
  | nil => rfl
  | cons entry rest ih =>
      obtain ⟨k, v⟩ := entry
      rw [List.forall_mem_cons] at texts
      have first : namelessEntry base k v = false := by
        by_cases isNull : v.bare = .null
        · exact namelessEntry_null isNull base k
        · obtain ⟨name, rfl⟩ := texts.1 isNull
          exact namelessEntry_eq isNull rfl fun inner old w isMap found isOld =>
            inside name v inner old w List.mem_cons_self isMap found isOld
      rw [nameless, first, Bool.false_or]
      refine ih distinct.tail texts.2 fun name w inner old u member isMap found isOld => ?_
      have other : k ≠ .text name := by
        have apart := (List.pairwise_cons.mp distinct).1 _ member
        rw [Ne, ← Value.sameKey_text, apart]
        exact Bool.false_ne_true
      rw [overlayEntry_eq] at found
      split at found
      · exact inside name w inner old u (List.mem_cons_of_mem _ member) isMap found isOld
      · rw [Value.Entries.findText?_put_other _ _ other] at found
        exact inside name w inner old u (List.mem_cons_of_mem _ member) isMap found isOld

private theorem named_of_written {base layer : Value.Entries} (distinct : layer.Distinct)
    (written : ∀ entry ∈ layer, entry.2.bare ≠ .null → entry.1.isWritable = true)
    (spelled : ∀ entry ∈ base, IsText entry.1 ∨
      ∀ later ∈ layer, entry.1.sameKey later.1 = false)
    (unmapped : ∀ entry ∈ base, ∀ inner, entry.2.bare = .map inner →
      ∀ later ∈ layer, entry.1.sameKey later.1 = false) :
    nameless base layer = false := by
  induction layer generalizing base with
  | nil => rfl
  | cons entry rest ih =>
      obtain ⟨k, v⟩ := entry
      rw [List.forall_mem_cons] at written
      have apart := (List.pairwise_cons.mp distinct).1
      have first : namelessEntry base k v = false := by
        by_cases isNull : v.bare = .null
        · exact namelessEntry_null isNull base k
        · refine namelessEntry_eq isNull (written.1 isNull) fun inner old w _ found isOld => ?_
          obtain ⟨k', same, member⟩ := Value.Entries.mem_of_find? found
          have other := unmapped _ member old isOld _ List.mem_cons_self
          rw [same] at other
          cases other
      rw [nameless, first, Bool.false_or, overlayEntry_eq]
      have spelledRest : ∀ entry ∈ base, IsText entry.1 ∨
          ∀ later ∈ rest, entry.1.sameKey later.1 = false :=
        fun entry member => (spelled entry member).imp_right fun others later isLater =>
          others later (List.mem_cons_of_mem _ isLater)
      have unmappedRest : ∀ entry ∈ base, ∀ inner, entry.2.bare = .map inner →
          ∀ later ∈ rest, entry.1.sameKey later.1 = false :=
        fun entry member inner isMap later isLater =>
          unmapped entry member inner isMap later (List.mem_cons_of_mem _ isLater)
      split
      · exact ih distinct.tail written.2 spelledRest unmappedRest
      · -- An entry that was set has the key of the layer, or a text that is the same key.
        have set : ∀ entry ∈ base.put k (overlaid (base.find? k) v),
            entry ∈ base ∨ entry.1 = k := by
          intro entry member
          obtain old | ⟨_, isKey | ⟨same, old, before⟩⟩ := Value.Entries.mem_put member
          · exact .inl old
          · exact .inr isKey
          · obtain ⟨name, isName⟩ | others := spelled _ before
            · rw [isName, Value.text_sameKey] at same
              exact .inr (isName.trans same.symm)
            · have other := others _ List.mem_cons_self
              simp only at other same
              rw [same] at other
              cases other
        refine ih distinct.tail written.2 ?_ ?_
        · intro entry member
          obtain old | isKey := set entry member
          · exact spelledRest entry old
          · rw [isKey]
            exact .inr apart
        · intro entry member inner isMap
          obtain old | isKey := set entry member
          · exact unmappedRest entry old inner isMap
          · rw [isKey]
            exact apart

/-! Layers of files. -/

/-- A file leaves nothing open between its own check and the check of the settings that are merged
from it: it names settings as they are written, `null` stands under texts only, for no section and
for no setting that has no use for it, and everything else in a section has a name. -/
structure IsExplicit (layer : Value.Entries) : Prop where
  spelled : IsSpelled layer
  texts : ∀ entry ∈ layer, entry.2 = .null → IsText entry.1
  sections : ∀ name ∈ sectionNames, layer.findText? name ≠ some .null
  values : ∀ setting : Setting, valueIn layer setting = some .null →
    ∃ a, setting.check .null = .valid a
  written : ∀ name ∈ sectionNames, ∀ entry ∈ sectionIn layer name, entry.2 ≠ .null →
    entry.1.isWritable = true

section Layer

variable {layer : Value.Entries} (tidy : Value.Entries.Tidy 2 layer)

include tidy

theorem eq_null_of_findText? {name : String} {v : Value} (found : layer.findText? name = some v)
    (isNull : v.bare = .null) : v = .null :=
  (Value.Tidy.find? tidy found).1 isNull

private theorem eq_null_of_valueIn {setting : Setting} {v : Value}
    (found : valueIn layer setting = some v)
    (isNull : v.bare = .null) : v = .null := by
  unfold valueIn at found
  cases above : setting.sectionName? with
  | none =>
      simp only [above] at found
      exact eq_null_of_findText? tidy found isNull
  | some name =>
      simp only [above] at found
      obtain ⟨w, inner, isSection, isMap, isInner⟩ := of_findText?_sectionIn found
      rw [isInner] at found
      have tidyInner := (Value.Tidy.find? tidy isSection).entries isMap
      exact (Value.Tidy.find? tidyInner found).1 isNull

private theorem eq_null_of_mem {entry : Value × Value} (member : entry ∈ layer)
    (isNull : entry.2.bare = .null) : entry.2 = .null :=
  (tidy.2 entry member).1 isNull

private theorem named_layer (texts : ∀ entry ∈ layer, entry.2.bare ≠ .null → IsText entry.1)
    (written : ∀ name ∈ sectionNames, ∀ entry ∈ sectionIn layer name, entry.2 ≠ .null →
      entry.1.isWritable = true) (settings : Settings) :
    nameless settings.entries layer = false := by
  refine named_of_sections tidy.1 texts fun name v inner old w member isMap found isOld => ?_
  have isSection := tidy.1.findText?_of_mem member
  obtain ⟨isName, plain⟩ := of_section_entries found isOld
  have distinct := ((Value.Tidy.find? tidy isSection).entries isMap).1
  refine named_of_written distinct ?_ (fun entry inOld => .inl (plain entry inOld).1) ?_
  · intro entry inInner stated
    refine written name isName entry ?_ fun isNull => stated (by rw [isNull]; rfl)
    rwa [sectionIn_eq isSection isMap]
  · intro entry inOld inner isMap
    have unmapped := (plain entry inOld).2
    cases value : entry.2 with
    | map _ => rw [value] at unmapped; cases unmapped
    | loop _ _ => rw [value] at unmapped; cases unmapped
    | _ => rw [value] at isMap; cases isMap

end Layer

/-! Verdicts. -/

@[simp] theorem unmapped_write (setting : Setting) (a : setting.Kind) :
    (setting.write a).isUnmapped = true := by
  cases setting <;> rfl

theorem bare_write (setting : Setting) (a : setting.Kind) (inner : Value.Entries) :
    (setting.write a).bare ≠ .map inner :=
  Value.bare_ne_map (unmapped_write setting a) inner

@[simp] theorem given?_write (setting : Setting) (a : setting.Kind) :
    given? (some (setting.write a)) = some (setting.write a) :=
  given?_eq_some.mpr ⟨rfl, by cases setting <;> exact Value.noConfusion⟩

theorem mergeOver_unmapped {v : Value} (unmapped : v.isUnmapped = true) (base : Value) :
    mergeOver base v = v := by
  cases v with
  | map inner => cases unmapped
  | loop label v => cases unmapped
  | _ => rfl

@[simp] theorem overlaid_write (setting : Setting) (a : setting.Kind) (v : Value) :
    overlaid (some (setting.write a)) v = v := by
  refine overlaid_of_unmapped (.inr ?_)
  rintro _ inner ⟨⟩
  exact bare_write setting a inner

theorem keepsSources_overlay {base layer : Value.Entries} (distinct : layer.Distinct)
    (keepsBase : KeepsSources base) (keeps : KeepsSources layer) :
    KeepsSources (overlay base layer) := by
  have nothing : given? (layer.findText? sourcesKey) = none := by
    rw [given?_eq_none]
    intro v found
    rw [keeps v found]
    rfl
  unfold KeepsSources
  rw [findText?_overlay distinct, nothing]
  exact keepsBase

theorem keepsSources_entries (settings : Settings) : KeepsSources settings.entries := by
  rintro v ⟨⟩

theorem textKeys_of_valid {environment : Environment} {data : Value.Entries} {settings : Settings}
    (valid : check environment (.map data) = .valid settings) : textKeys data = true := by
  unfold check at valid
  simp only at valid
  split at valid
  · cases valid
  · rename_i texts
    simpa using texts

theorem check_overlay_of_sources {environment : Environment} {layer : Value.Entries} {v : Value}
    (tidy : Value.Entries.Tidy 2 layer) (found : layer.findText? sourcesKey = some v)
    (stated : v ≠ .null) (texts : textKeys layer = true) (standard : Settings) :
    check environment (.map (overlay standard.entries layer)) =
      check environment (.map layer) := by
  have isGiven : given? (layer.findText? sourcesKey) = some v :=
    given?_eq_some.mpr ⟨found, fun isNull => stated (eq_null_of_findText? tidy found isNull)⟩
  have merged : (overlay standard.entries layer).findText? sourcesKey = some v := by
    rw [findText?_overlay tidy.1, isGiven, Option.elim_some]
    refine congrArg some (overlaid_of_unmapped (.inr ?_))
    rintro w inner ⟨⟩
  have textsMerged : textKeys (overlay standard.entries layer) = true := by
    rw [textKeys_iff] at texts
    exact (textKeys_overlay _ _).mpr ⟨rfl, fun entry member _ => texts entry member⟩
  rw [check_of_sources found stated, check_of_sources merged stated, texts, textsMerged]

theorem exists_sources {layer : Value.Entries} (replaces : ¬ KeepsSources layer) :
    ∃ v, layer.findText? sourcesKey = some v ∧ v ≠ .null := by
  unfold KeepsSources at replaces
  obtain ⟨v, replaces⟩ := Classical.not_forall.mp replaces
  exact ⟨v, Classical.not_imp.mp replaces⟩

section Verdicts

variable {environment : Environment} {defaults layer : Value.Entries} {standard : Settings}
  (isDefault : environmentDefaults environment = .ok defaults)
  (isStandard : fields defaults = .valid standard) (tidy : Value.Entries.Tidy 2 layer)

include isDefault isStandard tidy

theorem layer_valid_iff (keeps : KeepsSources layer) (spelled : IsSpelled layer) :
    (∃ settings, check environment (.map layer) = .valid settings) ↔
      textKeys layer = true ∧ (∀ name ∈ sectionNames, IsSection layer name) ∧
        ∀ setting w, valueIn layer setting = some w →
          ∃ a, setting.check (mergeOver ((behind? defaults setting).getD .null) w) = .valid a := by
  rw [exists_check_eq_valid keeps isDefault,
    exists_valid_iff isStandard spelled (separate_of_tidy tidy)]

theorem overlay_valid_iff (keeps : KeepsSources layer) :
    (∃ settings, check environment (.map (overlay standard.entries layer)) = .valid settings) ↔
      (∀ entry ∈ layer, entry.2.bare ≠ .null → IsText entry.1) ∧
        (∀ name ∈ sectionNames, IsSectionOrNull layer name) ∧
        ∀ setting w, given? (valueIn layer setting) = some w →
          ∃ a, setting.check (mergeOver ((behind? defaults setting).getD .null) w) = .valid a := by
  have separate := separate_of_tidy tidy
  have has := hasSections_entries standard
  have spelled := ((isHeaded_entries standard).overlay layer).isSpelled
  have texts : textKeys standard.entries = true := rfl
  have value : (∀ name ∈ sectionNames, IsSectionOrNull layer name) → ∀ setting : Setting,
      valueIn (overlay standard.entries layer) setting =
        some ((given? (valueIn layer setting)).getD (setting.write (setting.of standard))) := by
    intro sections setting
    rw [valueIn_overlay has separate sections, valueIn_entries]
    cases given? (valueIn layer setting) with
    | none => rfl
    | some w => exact congrArg some (overlaid_write setting _ w)
  rw [exists_check_eq_valid (keepsSources_overlay tidy.1 (keepsSources_entries _) keeps) isDefault,
    exists_valid_iff isStandard spelled ((separate_entries standard).overlay has tidy.1),
    textKeys_overlay, and_iff_right texts]
  refine and_congr Iff.rfl ?_
  have sections : (∀ name ∈ sectionNames, IsSection (overlay standard.entries layer) name) ↔
      ∀ name ∈ sectionNames, IsSectionOrNull layer name :=
    forall₂_congr fun name isName => isSection_overlay has tidy.1 isName
  rw [sections]
  refine and_congr_right fun isSection => forall_congr' fun setting => ?_
  rw [value isSection setting]
  cases given? (valueIn layer setting) with
  | some w => rfl
  | none =>
      refine ⟨by rintro _ w ⟨⟩, ?_⟩
      rintro _ _ ⟨⟩
      rw [Option.getD_none, mergeOver_unmapped (unmapped_write setting _)]
      exact ⟨_, check_write_of_valid isStandard setting⟩

private theorem overlay_valid_of_valid (spelled : IsSpelled layer)
    (valid : ∃ settings, check environment (.map layer) = .valid settings) :
    ∃ settings, check environment (.map (overlay standard.entries layer)) = .valid settings := by
  by_cases keeps : KeepsSources layer
  · rw [layer_valid_iff isDefault isStandard tidy keeps spelled] at valid
    rw [overlay_valid_iff isDefault isStandard tidy keeps]
    obtain ⟨texts, sections, values⟩ := valid
    refine ⟨fun entry member _ => (textKeys_iff layer).mp texts entry member, ?_, ?_⟩
    · exact fun name isName v found => .inr (sections name isName v found)
    · exact fun setting w isGiven => values setting w (given?_eq_some.mp isGiven).1
  · obtain ⟨settings, valid⟩ := valid
    obtain ⟨v, found, stated⟩ := exists_sources keeps
    refine ⟨settings, ?_⟩
    rw [check_overlay_of_sources tidy found stated (textKeys_of_valid valid), valid]

/-- What is valid after merging is valid by itself, if `null` stands only where it may. -/
theorem valid_of_overlay_valid (isExplicit : IsExplicit layer)
    (valid : ∃ settings, check environment (.map (overlay standard.entries layer)) =
      .valid settings) :
    ∃ settings, check environment (.map layer) = .valid settings := by
  have texts : textKeys layer = true := by
    obtain ⟨settings, valid⟩ := valid
    have stated := ((textKeys_overlay _ _).mp (textKeys_of_valid valid)).2
    rw [textKeys_iff]
    intro entry member
    by_cases isNull : entry.2.bare = .null
    · exact isExplicit.texts entry member (eq_null_of_mem tidy member isNull)
    · exact stated entry member isNull
  by_cases keeps : KeepsSources layer
  · rw [overlay_valid_iff isDefault isStandard tidy keeps] at valid
    rw [layer_valid_iff isDefault isStandard tidy keeps isExplicit.spelled]
    obtain ⟨_, sections, values⟩ := valid
    refine ⟨texts, ?_, ?_⟩
    · intro name isName v found
      refine (sections name isName v found).resolve_left fun isNull => ?_
      rw [eq_null_of_findText? tidy found isNull] at found
      exact isExplicit.sections name isName found
    · intro setting w found
      by_cases isNull : w.bare = .null
      · cases eq_null_of_valueIn tidy found isNull
        exact isExplicit.values setting found
      · exact values setting w (given?_eq_some.mpr ⟨found, isNull⟩)
  · obtain ⟨settings, valid⟩ := valid
    obtain ⟨v, found, stated⟩ := exists_sources keeps
    rw [check_overlay_of_sources tidy found stated texts] at valid
    exact ⟨settings, valid⟩

end Verdicts

/-- The query for the settings of a file, without variables and arguments. -/
def Query.ofFile (path : String) : Query := { configPath := some path, useEnvironment := false }

theorem loads_iff {origin : Origin} {path : String} {layer : Value.Entries}
    (read : fileEntries origin.fs (.ofText path) = .ok layer) :
    (∃ settings, load origin (.ofFile path) = .ok settings) ↔
      ∃ standard, check origin.environment (.map []) = .valid standard ∧
        nameless standard.entries layer = false ∧
        ∃ settings, check origin.environment (.map (overlay standard.entries layer)) =
          .valid settings := by
  have chosen : chooseFile origin (.ofFile path) = .ok (some (.ofText path)) := rfl
  have given : argumentLayer (Query.ofFile path).arguments = .ok [] := rfl
  unfold load
  simp only [map_eq_ok, resolve_eq_ok]
  constructor
  · rintro ⟨_, resolved, ⟨standard, found, arguments, resolution⟩, rfl⟩
    obtain rfl := resolution.layer_eq chosen read
    cases Except.ok.inj (given.symm.trans resolution.given)
    exact ⟨standard, resolution.isDefault, resolution.named, resolved.settings, resolution.valid⟩
  · rintro ⟨standard, isStandard, named, settings, valid⟩
    exact ⟨settings, ⟨settings, some (.ofText path), _⟩,
      ⟨standard, layer, [], isStandard, chosen, read, named, rfl, given, rfl, valid, rfl⟩, rfl⟩

private theorem not_validated {fs : FileSystem} {environment : Environment} {path : Path}
    {obstacle : Obstacle} (failed : fileEntries fs path = .error obstacle) :
    validateFile fs environment path ≠ .ok [] := by
  unfold validateFile
  rw [failed]
  cases obstacle <;> simp

private theorem not_loaded {origin : Origin} {path : String} {obstacle : Obstacle}
    (failed : fileEntries origin.fs (.ofText path) = .error obstacle) :
    ¬ ∃ settings, load origin (.ofFile path) = .ok settings := by
  have chosen : chooseFile origin (.ofFile path) = .ok (some (.ofText path)) := rfl
  unfold load
  simp only [map_eq_ok, resolve_eq_ok]
  rintro ⟨_, resolved, ⟨standard, layer, arguments, resolution⟩, rfl⟩
  have read := resolution.read
  rw [← Except.ok.inj (chosen.symm.trans resolution.chosen)] at read
  cases failed.symm.trans read

/-- A section that is `null` counts as absent where settings are merged, but is refused by the check
of its file. -/
theorem null_section_loaded_unvalidated :
    let layer : Value.Entries := [(.text "scan", .null)]
    let origin : Origin := { fs := diskWith layer }
    validateFile origin.fs origin.environment (.ofText "/c.json") ≠ .ok [] ∧
      load origin (.ofFile "/c.json") = .ok {} := by
  intro layer origin
  have read : fileEntries origin.fs (.ofText "/c.json") = .ok layer :=
    fileEntries_diskWith (by decide +kernel) (by decide +kernel)
  refine ⟨?_, ?_⟩
  · rw [Ne, validateFile_eq_nil read]
    rintro ⟨settings, valid⟩
    cases valid
  · rw [load, map_eq_ok]
    refine ⟨⟨{}, some (.ofText "/c.json"), []⟩, resolve_eq_ok.mpr ?_, rfl⟩
    exact ⟨{}, layer, [], rfl, rfl, read, rfl, rfl, rfl, rfl, rfl, rfl⟩

end MobileAudit.Settings
