import MobileAudit.Proofs.Settings.Agreement
import MobileAudit.Proofs.Settings.Assignments
import MobileAudit.Proofs.Settings.Provenance

namespace MobileAudit.Settings

open Check Disk

/-! Precedence.  Every setting is decided by the highest layer that gives a value for it, and that
layer is recorded as its source. -/

/-! Drafts. -/

/-- A draft in which every setting has a value from a source. -/
structure Decided (draft : Draft) (decision : Setting → Source × Value) : Prop where
  headed : IsHeaded draft.entries
  has : HasSections draft.entries
  separate : Separate draft.entries
  keeps : KeepsSources draft.entries
  value : ∀ setting, valueIn draft.entries setting = some (decision setting).2
  source : ∀ setting : Setting, draft.sources.of setting.name = (decision setting).1

/-- A layer that sets settings by their sections and keys only. -/
structure Sets (layer : Value.Entries) : Prop where
  separate : Separate layer
  texts : ∀ entry ∈ layer, entry.2.bare ≠ .null → IsText entry.1
  sections : ∀ name ∈ sectionNames, IsSectionOrNull layer name
  undotted : ∀ setting : Setting, setting.sectionName? ≠ none →
    ∀ v, (.text setting.name, v) ∈ layer → v.bare = .null
  keeps : KeepsSources layer

def decidedBy (source : Source) (values : Setting → Option Value)
    (decision : Setting → Source × Value) (setting : Setting) : Source × Value :=
  (given? (values setting)).elim (decision setting) fun v => (source, v)

theorem decided_entries (settings : Settings) :
    Decided ⟨settings.entries, []⟩ fun setting =>
      (.default, setting.write (setting.of settings)) where
  headed := isHeaded_entries settings
  has := hasSections_entries settings
  separate := separate_entries settings
  keeps := keepsSources_entries settings
  value := valueIn_entries settings
  source := fun _ => rfl

/-- A layer decides the settings for which it gives a value, and leaves the others as they were. -/
theorem Decided.overlaid {draft : Draft} {decision : Setting → Source × Value}
    (decided : Decided draft decision) {layer : Value.Entries} (sets : Sets layer)
    (replaced : ∀ setting v, valueIn layer setting = some v →
      (∀ inner, v.bare ≠ .map inner) ∨ ∀ inner, (decision setting).2.bare ≠ .map inner)
    (source : Source) :
    Decided (draft.overlaid source layer) (decidedBy source (valueIn layer) decision) where
  headed := decided.headed.overlay layer
  has := hasSections_overlay decided.has sets.separate.top sets.sections
  separate := decided.separate.overlay decided.has sets.separate.top
  keeps := keepsSources_overlay sets.separate.top decided.keeps sets.keeps
  value := by
    intro setting
    rw [Draft.overlaid, valueIn_overlay decided.has sets.separate sets.sections,
      decided.value, decidedBy]
    cases isGiven : given? (valueIn layer setting) with
    | none => rfl
    | some v =>
        refine congrArg some (overlaid_of_unmapped ?_)
        refine (replaced setting v (given?_eq_some.mp isGiven).1).imp_right fun noMap => ?_
        rintro _ inner ⟨⟩
        exact noMap inner
  source := by
    intro setting
    have recorded : (draft.overlaid source layer).sources.lookup setting.name =
        if (given? (valueIn layer setting)).isSome then some source
        else draft.sources.lookup setting.name := by
      refine lookup_note decided.has sets.separate sets.texts sets.sections
        (sets.undotted setting) draft.sources fun v found => ?_
      refine (replaced setting v found).imp_right fun noMap w inner isOld => ?_
      cases (decided.value setting).symm.trans isOld
      exact noMap inner
    rw [Sources.of, recorded, decidedBy]
    cases given? (valueIn layer setting) with
    | none => exact decided.source setting
    | some v => rfl

theorem Decided.check_eq_valid {environment : Environment} {defaults : Value.Entries}
    {standard settings : Settings} {draft : Draft} {decision : Setting → Source × Value}
    (decided : Decided draft decision)
    (isDefault : environmentDefaults environment = .ok defaults)
    (isStandard : fields defaults = .valid standard) (texts : textKeys draft.entries = true)
    (unmapped : ∀ setting, (decision setting).2.isUnmapped = true) :
    check environment (.map draft.entries) = .valid settings ↔
      ∀ setting : Setting, setting.check (decision setting).2 = .valid (setting.of settings) := by
  have spelled := decided.headed.isSpelled
  have values : ∀ setting,
      valueIn (mergeEntries defaults (settingEntries draft.entries)) setting =
        some (decision setting).2 := by
    intro setting
    have value := decided.value setting
    rw [← valueIn_settingEntries spelled] at value
    rw [valueIn_mergeEntries (decided.separate.settingEntries spelled) defaults value,
      mergeOver_unmapped (unmapped setting)]
  rw [Settings.check_eq_valid decided.keeps]
  constructor
  · rintro ⟨_, found, isSame, valid⟩ setting
    cases isDefault.symm.trans isSame
    have passed := (fields_eq_valid.mp valid).2 setting
    rw [values] at passed
    exact passed
  · intro passed
    refine ⟨texts, defaults, isDefault, fields_eq_valid.mpr ⟨?_, fun setting => ?_⟩⟩
    · intro name isName
      exact (isSection_merged isStandard spelled isName).mpr (decided.has.isSection isName)
    · rw [values]
      exact passed setting

theorem IsLayer.sets {layer : Value.Entries} (isLayer : IsLayer layer) : Sets layer where
  separate := isLayer.separate
  texts := by
    intro entry member _
    obtain ⟨name, _, isText⟩ := isLayer.named entry member
    exact ⟨name, isText⟩
  sections := isLayer.isSectionOrNull
  undotted := by
    intro setting inSection v member
    obtain ⟨name, isName, same⟩ := isLayer.named _ member
    cases same
    cases setting with
    | logLevel => exact absurd rfl inSection
    | _ => exact absurd isName (by decide)
  keeps := by
    intro v found
    rw [isLayer.findText?_unnamed (by decide)] at found
    cases found

/-! Layers. -/

/-- The value for a setting in each of the layers. -/
def layerValue (origin : Origin) (query : Query) (standard : Settings) (layer : Value.Entries)
    (setting : Setting) : Source → Option Value
  | .default => valueIn standard.entries setting
  | .configFile => valueIn layer setting
  | .environment => Assignment.last? (variableAssignments origin query) setting
  | .commandLine => Assignment.last? (query.arguments.filterMap argumentAssignment?) setting

/-- The highest layer that gives a value, with the value. -/
def highest? (values : Source → Option Value) : Option (Source × Value) :=
  [Source.commandLine, .environment, .configFile, .default].findSome? fun source =>
    (given? (values source)).map fun v => (source, v)

/-- A layer of a file whose sections are absent, `null` or mappings, and that sets neither the full
name of a setting nor the key of the sources. -/
structure IsOrderly (layer : Value.Entries) : Prop where
  sections : ∀ name ∈ sectionNames, IsSectionOrNull layer name
  undotted : ∀ setting : Setting, setting.sectionName? ≠ none →
    ∀ v, layer.findText? setting.name = some v → v = .null
  keeps : KeepsSources layer

theorem fileLayer_tidy {origin : Origin} {file : Option Path} {layer : Value.Entries}
    (read : fileLayer origin file = .ok layer) (depth : Nat) : Value.Entries.Tidy depth layer := by
  cases file with
  | none =>
      cases read
      exact Value.Entries.tidy_nil depth
  | some path => exact fileEntries_tidy read depth

private theorem IsOrderly.sets {layer : Value.Entries} (isOrderly : IsOrderly layer)
    (tidy : Value.Entries.Tidy 2 layer)
    (texts : ∀ entry ∈ layer, entry.2.bare ≠ .null → IsText entry.1) : Sets layer where
  separate := separate_of_tidy tidy
  texts := texts
  sections := isOrderly.sections
  undotted := by
    intro setting inSection v member
    rw [isOrderly.undotted setting inSection v (tidy.1.findText?_of_mem member)]
    rfl
  keeps := isOrderly.keeps

/-- The values that a layer of assignments gives are replaced by none and replace all. -/
theorem Decided.assigned {draft : Draft} {decision : Setting → Source × Value}
    (decided : Decided draft decision) {assignments : List Assignment}
    (known : ∀ assignment ∈ assignments, assignment.IsKnown)
    (unmapped : ∀ assignment ∈ assignments, ∀ inner, assignment.value.bare ≠ .map inner)
    (source : Source) :
    Decided (draft.overlaid source (assignments.foldl Assignment.setIn []))
      (decidedBy source (Assignment.last? assignments) decision) := by
  obtain ⟨isLayer, values⟩ := isLayer_foldl known
  have same : valueIn (assignments.foldl Assignment.setIn []) = Assignment.last? assignments :=
    funext values
  rw [← same]
  refine decided.overlaid isLayer.sets (fun setting v found => .inl ?_) source
  rw [values] at found
  obtain ⟨assignment, member, rfl⟩ := Assignment.mem_of_last? found
  exact unmapped assignment member

private theorem Resolution.decided {origin : Origin} {query : Query} {resolved : Resolved}
    {standard : Settings} {layer arguments : Value.Entries}
    (resolution : Resolution origin query resolved standard layer arguments)
    (orderly : IsOrderly layer)
    (plain : ∀ argument ∈ query.arguments, ∀ inner, argument.2.bare ≠ .map inner) :
    Decided ((draftOf origin query standard layer).overlaid .commandLine arguments)
      (decidedBy .commandLine
        (Assignment.last? (query.arguments.filterMap argumentAssignment?))
        (decidedBy .environment (Assignment.last? (variableAssignments origin query))
          (decidedBy .configFile (valueIn layer) fun setting =>
            (.default, setting.write (setting.of standard))))) := by
  have texts := (textKeys_overlay _ _).mp (textKeys_of_valid resolution.valid)
  have textsBelow := (textKeys_overlay _ _).mp texts.1
  have textsLayer := ((textKeys_overlay _ _).mp textsBelow.1).2
  rw [argumentLayer_eq resolution.given]
  refine Decided.assigned ?_ (fun _ => known_argument) (fun _ => unmapped_argument plain) _
  rw [draftOf, environmentLayer_eq]
  refine Decided.assigned ?_ (fun _ => known_variableAssignments) (fun _ => unmapped_variable) _
  refine (decided_entries standard).overlaid
    (orderly.sets (fileLayer_tidy resolution.read 2) textsLayer) (fun setting v _ => .inr ?_) _
  exact bare_write setting _

/-- The decisions of all layers are those of the highest ones. -/
theorem highest?_eq (values : Source → Setting → Option Value) (standard : Settings)
    (isDefault : ∀ setting, values .default setting =
      some (setting.write (setting.of standard))) (setting : Setting) :
    highest? (fun source => values source setting) =
      some (decidedBy .commandLine (values .commandLine) (decidedBy .environment
        (values .environment) (decidedBy .configFile (values .configFile) fun setting =>
          (.default, setting.write (setting.of standard)))) setting) := by
  unfold highest? decidedBy
  simp only [List.findSome?_cons, isDefault, given?_write]
  cases given? (values .commandLine setting) with
  | some v => rfl
  | none =>
      cases given? (values .environment setting) with
      | some v => rfl
      | none => cases given? (values .configFile setting) <;> rfl

/-- A file that sets the full name of a setting is recorded as its source, while the setting keeps
its default. -/
theorem dotted_name_recorded_unset :
    let layer : Value.Entries := [(.text "scan.concurrency", .int 5)]
    let origin : Origin := { fs := diskWith layer }
    ∃ resolved, resolve origin (.ofFile "/c.json") = .ok resolved ∧
      resolved.settings = {} ∧ resolved.sources.of "scan.concurrency" = .configFile := by
  intro layer origin
  have read : fileEntries origin.fs (.ofText "/c.json") = .ok layer :=
    fileEntries_diskWith (by decide +kernel) (by decide +kernel)
  refine ⟨⟨{}, some (.ofText "/c.json"), [("scan.concurrency", .configFile)]⟩,
    resolve_eq_ok.mpr ?_, rfl, rfl⟩
  exact ⟨{}, layer, [], rfl, rfl, read, rfl, rfl, rfl, rfl, rfl, rfl⟩

end MobileAudit.Settings
