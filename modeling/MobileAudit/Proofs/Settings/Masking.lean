import MobileAudit.Proofs.Settings.Likeness
import MobileAudit.Proofs.Settings.Stated

namespace MobileAudit.Settings

open Check Disk

/-! Sections of the wrong shape.  A file that gives a section as anything but a mapping is refused,
unless a variable or an argument sets a value in that section: then the section of the file is
replaced as a whole, and the settings are those of the file without it. -/

/-! Misshapen sections. -/

/-- Whether a value can stand for a section: `null` and mappings do. -/
def shapesSection (v : Value) : Bool :=
  match v.bare with
  | .null => true
  | .map _ => true
  | _ => false

theorem shapesSection_iff {v : Value} :
    shapesSection v = true ↔ v.bare = .null ∨ ∃ inner, v.bare = .map inner := by
  unfold shapesSection
  cases v.bare <;> simp

theorem shapesSection_eq_false {v : Value} :
    shapesSection v = false ↔ v.bare ≠ .null ∧ ∀ inner, v.bare ≠ .map inner := by
  rw [← Bool.not_eq_true, shapesSection_iff, not_or, not_exists]

/-- A section that a layer gives as something else. -/
def IsMisshapen (layer : Value.Entries) (name : String) : Prop :=
  name ∈ sectionNames ∧ ∃ v, layer.findText? name = some v ∧ shapesSection v = false

theorem isSectionOrNull_of_shaped {layer : Value.Entries} {name : String}
    (isName : name ∈ sectionNames) (shaped : ¬ IsMisshapen layer name) :
    IsSectionOrNull layer name := by
  intro v found
  by_contra misshapen
  rw [← shapesSection_iff, Bool.not_eq_true] at misshapen
  exact shaped ⟨isName, v, found, misshapen⟩

/-- Whether an entry gives a section as something else. -/
def isMisshapenEntry : Value × Value → Bool
  | (.text name, v) => sectionNames.contains name && !shapesSection v
  | _ => false

/-- A layer without its misshapen sections. -/
def wellShaped (layer : Value.Entries) : Value.Entries :=
  layer.filter fun entry => !isMisshapenEntry entry

theorem isMisshapenEntry_iff {layer : Value.Entries} (distinct : layer.Distinct)
    {entry : Value × Value} (member : entry ∈ layer) :
    isMisshapenEntry entry = true ↔ ∃ name, IsMisshapen layer name ∧ entry.1 = .text name := by
  obtain ⟨k, v⟩ := entry
  constructor
  · intro misshapen
    cases k with
    | text name =>
        simp only [isMisshapenEntry, Bool.and_eq_true, List.contains_iff_mem,
          Bool.not_eq_true'] at misshapen
        exact ⟨name, ⟨misshapen.1, v, distinct.findText?_of_mem member, misshapen.2⟩, rfl⟩
    | _ => cases misshapen
  · rintro ⟨name, ⟨isName, w, found, misshapen⟩, rfl⟩
    cases found.symm.trans (distinct.findText?_of_mem member)
    simp [isMisshapenEntry, isName, misshapen]

/-! The layer of a file and the same layer without its misshapen sections. -/

private theorem namelessEntry_misshapen {v : Value} (misshapen : shapesSection v = false)
    (base : Value.Entries) (name : String) : namelessEntry base (.text name) v = false := by
  obtain ⟨stated, noMap⟩ := shapesSection_eq_false.mp misshapen
  exact namelessEntry_eq stated rfl fun inner _ _ isMap => absurd isMap (noMap inner)

private theorem present_overlayEntry {base : Value.Entries} {name : String}
    (present : (base.findText? name).isSome) (key v : Value) :
    ((overlayEntry base key v v).findText? name).isSome := by
  rw [overlayEntry_eq]
  split
  · exact present
  · rw [Value.Entries.findText?_put]
    split
    · rfl
    · exact present

/-- Over data alike, a layer does the same with and without the entries under hidden names. -/
theorem alike_wellShaped {hidden : String → Prop} {layer : Value.Entries}
    (cut : ∀ entry ∈ layer,
      isMisshapenEntry entry = true ↔ ∃ name, hidden name ∧ entry.1 = .text name)
    {first second : Value.Entries} (alike : Alike hidden first second)
    (present : ∀ name, hidden name → (first.findText? name).isSome) :
    nameless first layer = nameless second (wellShaped layer) ∧
      Alike hidden (overlay first layer) (overlay second (wellShaped layer)) := by
  induction layer generalizing first second with
  | nil => exact ⟨rfl, alike⟩
  | cons entry rest ih =>
      obtain ⟨k, v⟩ := entry
      rw [List.forall_mem_cons] at cut
      have present' : ∀ name, hidden name → ((overlayEntry first k v v).findText? name).isSome :=
        fun name isHidden => present_overlayEntry (present name isHidden) k v
      rw [wellShaped, List.filter_cons]
      cases isMisshapen : isMisshapenEntry (k, v) with
      | true =>
          obtain ⟨name, isHidden, isName⟩ := cut.1.mp isMisshapen
          simp only at isName
          subst isName
          simp only [isMisshapenEntry, Bool.and_eq_true, Bool.not_eq_true'] at isMisshapen
          have misshapen := isMisshapen.2
          have stated := Value.isNull_eq_false (shapesSection_eq_false.mp misshapen).1
          have same : Alike hidden (overlayEntry first (.text name) v v) second := by
            rw [overlayEntry_eq, stated]
            exact alike.put_hidden isHidden (present name isHidden) _
          rw [nameless, namelessEntry_misshapen misshapen]
          exact ih cut.2 same present'
      | false =>
          have shown : ∀ name, hidden name → k ≠ .text name := by
            intro name isHidden isName
            have isMisshapen' := cut.1.mpr ⟨name, isHidden, isName⟩
            rw [isMisshapen] at isMisshapen'
            cases isMisshapen'
          obtain ⟨names, entries⟩ := ih cut.2 (alike.overlayEntry k v) present'
          refine ⟨?_, entries⟩
          rw [nameless, namelessEntry_congr (alike.find? shown), names]
          rfl

/-! Values under misshapen sections. -/

section WellShaped

variable {layer : Value.Entries} (tidy : Value.Entries.Tidy 2 layer)

include tidy

theorem tidy_wellShaped : Value.Entries.Tidy 2 (wellShaped layer) :=
  ⟨tidy.1.filter _, fun entry member => tidy.2 entry (List.mem_of_mem_filter member)⟩

private theorem findText?_wellShaped {name : String} (misshapen : IsMisshapen layer name) :
    (wellShaped layer).findText? name = none := by
  cases found : (wellShaped layer).findText? name with
  | none => rfl
  | some v =>
      obtain ⟨member, kept⟩ := List.mem_filter.mp (Value.Entries.mem_of_findText? found)
      rw [(isMisshapenEntry_iff tidy.1 member).mpr ⟨name, misshapen, rfl⟩] at kept
      cases kept

theorem isSectionOrNull_wellShaped :
    ∀ name ∈ sectionNames, IsSectionOrNull (wellShaped layer) name := by
  intro name isName v found
  obtain ⟨member, kept⟩ := List.mem_filter.mp (Value.Entries.mem_of_findText? found)
  refine isSectionOrNull_of_shaped isName (fun misshapen => ?_) v
    (tidy.1.findText?_of_mem member)
  rw [(isMisshapenEntry_iff tidy.1 member).mpr ⟨name, misshapen, rfl⟩] at kept
  cases kept

theorem alike_file (standard : Settings) :
    nameless standard.entries layer = nameless standard.entries (wellShaped layer) ∧
      Alike (IsMisshapen layer) (overlay standard.entries layer)
        (overlay standard.entries (wellShaped layer)) := by
  refine alike_wellShaped (fun entry member => isMisshapenEntry_iff tidy.1 member)
    (.refl _ _) fun name misshapen => ?_
  obtain ⟨v, _, found, _⟩ := hasSections_entries standard name misshapen.1
  rw [found]
  rfl

theorem findText?_overlay_misshapen {name : String} {v : Value}
    (found : layer.findText? name = some v) (misshapen : shapesSection v = false)
    (base : Value.Entries) : (overlay base layer).findText? name = some v := by
  obtain ⟨stated, noMap⟩ := shapesSection_eq_false.mp misshapen
  rw [findText?_overlay tidy.1, found, given?_eq_some.mpr ⟨rfl, stated⟩, Option.elim_some,
    overlaid_of_unmapped (.inl noMap)]

/-- A misshapen section holds no value, and without it there is the standard one. -/
theorem valueIn_file {name : String} (misshapen : IsMisshapen layer name) {setting : Setting}
    (inSection : setting.sectionName? = some name) (standard : Settings) :
    valueIn (overlay standard.entries layer) setting = none ∧
      valueIn (overlay standard.entries (wellShaped layer)) setting =
        some (setting.write (setting.of standard)) := by
  constructor
  · obtain ⟨_, v, found, shape⟩ := misshapen
    have merged := findText?_overlay_misshapen tidy found shape standard.entries
    have empty : sectionIn (overlay standard.entries layer) name = [] :=
      sectionIn_eq_nil fun isSection => by
        obtain ⟨inner, isMap⟩ := isSection v merged
        exact (shapesSection_eq_false.mp shape).2 inner isMap
    unfold valueIn
    simp only [inSection, empty]
    rfl
  · have absent : given? (valueIn (wellShaped layer) setting) = none := by
      have empty : sectionIn (wellShaped layer) name = [] := by
        rw [sectionIn, findText?_wellShaped tidy misshapen]
        rfl
      unfold valueIn
      simp only [inSection, empty]
      rfl
    rw [valueIn_overlay (hasSections_entries standard) (separate_of_tidy (tidy_wellShaped tidy))
      (isSectionOrNull_wellShaped tidy), absent, Option.elim_none, valueIn_entries]

end WellShaped

/-- The data of all layers. -/
def layered (standard : Settings) (layer environment arguments : Value.Entries) : Value.Entries :=
  overlay (overlay (overlay standard.entries layer) environment) arguments

theorem unmapped_getD {layer : Value.Entries}
    (unmapped : ∀ setting v, valueIn layer setting = some v → ∀ inner, v.bare ≠ .map inner)
    (setting : Setting) (a : setting.Kind) (inner : Value.Entries) :
    ((valueIn layer setting).getD (setting.write a)).bare ≠ .map inner := by
  cases found : valueIn layer setting with
  | none => exact bare_write setting a inner
  | some v => exact unmapped setting v found inner

section Layers

variable {layer ofVariables ofArguments : Value.Entries} (tidy : Value.Entries.Tidy 2 layer)
  (isVariables : IsStated ofVariables) (isArguments : IsStated ofArguments)
  (unmapped : ∀ setting v, valueIn ofVariables setting = some v → ∀ inner, v.bare ≠ .map inner)
  (standard : Settings)

include tidy isVariables

theorem valueIn_variables {name : String} (misshapen : IsMisshapen layer name) {setting : Setting}
    (inSection : setting.sectionName? = some name) :
    valueIn (overlay (overlay standard.entries layer) ofVariables) setting =
        valueIn ofVariables setting ∧
      valueIn (overlay (overlay standard.entries (wellShaped layer)) ofVariables) setting =
        some ((valueIn ofVariables setting).getD (setting.write (setting.of standard))) := by
  obtain ⟨hidden, shown⟩ := valueIn_file tidy misshapen inSection standard
  have values := valueIn_overlay_stated isVariables.separate isVariables.isSectionOrNull
    isVariables.stated
  rw [values, values, hidden, shown]
  cases valueIn ofVariables setting with
  | none => exact ⟨rfl, rfl⟩
  | some v => exact ⟨congrArg some (overlaid_none v), congrArg some (overlaid_write setting _ v)⟩

include isArguments

private theorem isData_layered (again : ∀ name, IsMisshapen layer name →
    (ofVariables.findText? name).isSome ∨ (ofArguments.findText? name).isSome) :
    IsData (layered standard layer ofVariables ofArguments) where
  headed := (((isHeaded_entries standard).overlay _).overlay _).overlay _
  has := by
    intro name isName
    have fromVariables := isVariables.isSectionOrNull name isName
    have fromArguments := isArguments.isSectionOrNull name isName
    by_cases misshapen : IsMisshapen layer name
    · obtain present | present := again name misshapen
      · exact mapped_overlay isArguments.distinct fromArguments
          (isVariables.mapped isName present _)
      · exact isArguments.mapped isName present _
    · have fromFile := isSectionOrNull_of_shaped isName misshapen
      exact mapped_overlay isArguments.distinct fromArguments
        (mapped_overlay isVariables.distinct fromVariables
          (mapped_overlay tidy.1 fromFile (hasSections_entries standard name isName)))
  separate := (((separate_entries standard).merged (separate_of_tidy tidy)).merged
    isVariables.separate).merged isArguments.separate

include unmapped

private theorem valueIn_layered {name : String} (misshapen : IsMisshapen layer name)
    {setting : Setting}
    (inSection : setting.sectionName? = some name) :
    valueIn (layered standard layer ofVariables ofArguments) setting =
        (valueIn ofArguments setting).or (valueIn ofVariables setting) ∧
      valueIn (layered standard (wellShaped layer) ofVariables ofArguments) setting =
        some (((valueIn ofArguments setting).or (valueIn ofVariables setting)).getD
          (setting.write (setting.of standard))) := by
  obtain ⟨hidden, shown⟩ := valueIn_variables tidy isVariables standard misshapen inSection
  have values := valueIn_overlay_stated isArguments.separate isArguments.isSectionOrNull
    isArguments.stated
  rw [layered, layered, values, values, hidden, shown]
  cases valueIn ofArguments setting with
  | none => exact ⟨rfl, rfl⟩
  | some v =>
      refine ⟨congrArg some (overlaid_of_unmapped (.inr ?_)),
        congrArg some (overlaid_of_unmapped (.inr ?_))⟩
      · exact fun w inner isOld => unmapped setting w isOld inner
      · rintro w inner ⟨⟩
        exact unmapped_getD unmapped setting _ inner

/-- A misshapen section makes no difference to the names of what arguments set. -/
theorem nameless_layered :
    nameless (overlay (overlay standard.entries layer) ofVariables) ofArguments =
      nameless (overlay (overlay standard.entries (wellShaped layer)) ofVariables) ofArguments := by
  have alike := (alike_file tidy standard).2.overlay ofVariables
  have texts : ∀ entry ∈ ofArguments, IsText entry.1 := fun entry member =>
    (isArguments.named entry member).imp fun _ isName => isName.2
  rw [nameless_eq_any isArguments.distinct texts, nameless_eq_any isArguments.distinct texts]
  refine Bool.eq_iff_iff.mpr ?_
  rw [List.any_eq_true, List.any_eq_true]
  refine exists_congr fun entry => and_congr_right fun member => ?_
  obtain ⟨k, v⟩ := entry
  obtain ⟨name, _, isName⟩ := isArguments.named _ member
  simp only at isName
  subst isName
  by_cases misshapen : IsMisshapen layer name
  · have found := isArguments.distinct.findText?_of_mem member
    have values := fun (setting : Setting) (inSection : setting.sectionName? = some name) =>
      valueIn_variables tidy isVariables standard misshapen inSection
    rw [isArguments.namelessEntry_section misshapen.1 found,
      isArguments.namelessEntry_section misshapen.1 found]
    · intro setting inSection v isValue
      rw [(values setting inSection).2] at isValue
      cases isValue
      exact unmapped_getD unmapped setting _
    · intro setting inSection v isValue
      rw [(values setting inSection).1] at isValue
      exact unmapped setting v isValue
  · have same := alike.findText? misshapen
    rw [Value.Entries.findText?_eq, Value.Entries.findText?_eq] at same
    rw [namelessEntry_congr same]

end Layers

theorem not_isMisshapen {layer : Value.Entries} {name : String} (noSection : name ∉ sectionNames) :
    ¬ IsMisshapen layer name := fun misshapen => noSection misshapen.1

private theorem Alike.valueIn {layer first second : Value.Entries} {setting : Setting}
    (alike : Alike (IsMisshapen layer) first second)
    (shown : ∀ name, setting.sectionName? = some name → ¬ IsMisshapen layer name) :
    Settings.valueIn first setting = Settings.valueIn second setting := by
  unfold Settings.valueIn
  cases above : setting.sectionName? with
  | none =>
      refine alike.findText? (not_isMisshapen ?_)
      rw [key_of_top above]
      decide
  | some name => simp only [sectionIn, alike.findText? (shown name above)]

/-- Where every misshapen section is set again, the check is that of the file without them. -/
theorem check_layered {environment : Environment} {standard : Settings}
    (isStandard : check environment (.map []) = .valid standard)
    {layer ofVariables ofArguments : Value.Entries} (tidy : Value.Entries.Tidy 2 layer)
    (isVariables : IsStated ofVariables) (isArguments : IsStated ofArguments)
    (unmapped : ∀ setting v, valueIn ofVariables setting = some v → ∀ inner, v.bare ≠ .map inner)
    (again : ∀ name, IsMisshapen layer name →
      (ofVariables.findText? name).isSome ∨ (ofArguments.findText? name).isSome) :
    check environment (.map (layered standard layer ofVariables ofArguments)) =
      check environment (.map (layered standard (wellShaped layer) ofVariables ofArguments)) := by
  obtain ⟨defaults, isDefault, valid⟩ := check_nil_eq_valid.mp isStandard
  have alike := ((alike_file tidy standard).2.overlay ofVariables).overlay ofArguments
  have shaped : ∀ name, ¬ IsMisshapen (wellShaped layer) name := by
    rintro name ⟨isName, v, found, misshapen⟩
    have isSection := isSectionOrNull_wellShaped tidy name isName v found
    rw [← shapesSection_iff, misshapen] at isSection
    cases isSection
  refine check_eq_check isDefault valid (isData_layered tidy isVariables isArguments standard again)
    (isData_layered (tidy_wellShaped tidy) isVariables isArguments standard fun name misshapen =>
      absurd misshapen (shaped name))
    (textKeys_congr alike.keys) (alike.findText? (not_isMisshapen (by decide))) fun setting => ?_
  unfold outcomeOver
  by_cases hidden : ∃ name, setting.sectionName? = some name ∧ IsMisshapen layer name
  · obtain ⟨name, inSection, misshapen⟩ := hidden
    obtain ⟨with_, without⟩ := valueIn_layered tidy isVariables isArguments unmapped standard
      misshapen inSection
    rw [with_, without]
    cases (valueIn ofArguments setting).or (valueIn ofVariables setting) with
    | some v => rfl
    | none =>
        rw [Option.elim_none, Option.getD_none, Option.elim_some,
          mergeOver_unmapped (unmapped_write setting _), check_write_of_valid valid]
  · rw [layered, layered,
      Alike.valueIn alike fun name inSection misshapen => hidden ⟨name, inSection, misshapen⟩]

/-! Resolutions. -/

/-- Once its file is chosen and read, a resolution names, merges and checks. -/
theorem load_eq {origin : Origin} {query : Query} {file : Option Path} {layer : Value.Entries}
    (chosen : chooseFile origin query = .ok file) (read : fileLayer origin file = .ok layer) :
    load origin query = (do
      let standard ← checked origin.environment []
      if nameless standard.entries layer then .error (.breakdown .unwritten)
      else
        let arguments ← (argumentLayer query.arguments).mapError .config
        if nameless (overlay (overlay standard.entries layer) (environmentLayer origin query))
          arguments then .error (.breakdown .unwritten)
        else
          checked origin.environment
            (layered standard layer (environmentLayer origin query) arguments)) := by
  unfold load resolve
  cases checked origin.environment [] with
  | error e => rfl
  | ok standard =>
      simp only [chosen, read, Bind.bind, Except.bind, withLayer_eq]
      cases nameless standard.entries layer with
      | true => rfl
      | false =>
          simp only [Draft.overlaid, named_environmentLayer, Bool.false_eq_true, if_false]
          cases (argumentLayer query.arguments).mapError Obstacle.config with
          | error e => rfl
          | ok arguments =>
              simp only [layered]
              cases nameless (overlay (overlay standard.entries layer)
                  (environmentLayer origin query)) arguments with
              | true => rfl
              | false =>
                  simp only [Bool.false_eq_true, if_false]
                  cases checked origin.environment _ <;> rfl

theorem isSetAgain_iff {origin : Origin} {query : Query} {arguments : Value.Entries}
    (given : argumentLayer query.arguments = .ok arguments) {name : String}
    (isName : name ∈ sectionNames) :
    IsSetAgain origin query name ↔
      ((environmentLayer origin query).findText? name).isSome ∨
        (arguments.findText? name).isSome := by
  have nothing : (Value.Entries.findText? [] name).isSome = false := rfl
  rw [environmentLayer_eq, argumentLayer_eq given,
    isSome_findText?_foldl (fun _ => known_variableAssignments) isName,
    isSome_findText?_foldl (fun _ => known_argument) isName]
  simp only [IsSetAgain, laterAssignments, List.mem_append, or_and_right, exists_or, nothing,
    Bool.or_false, List.any_eq_true, beq_iff_eq]

/-- A misshapen section that is not set again stays, and no check passes it. -/
theorem not_valid_layered {environment : Environment} {standard settings : Settings}
    (isStandard : check environment (.map []) = .valid standard)
    {layer ofVariables ofArguments : Value.Entries} (tidy : Value.Entries.Tidy 2 layer)
    (keeps : KeepsSources layer) (isVariables : IsLayer ofVariables)
    (isArguments : IsLayer ofArguments) {name : String} (misshapen : IsMisshapen layer name)
    (noVariable : ofVariables.findText? name = none)
    (noArgument : ofArguments.findText? name = none) :
    check environment (.map (layered standard layer ofVariables ofArguments)) ≠
      .valid settings := by
  intro valid
  have keepsAll := keepsSources_overlay isArguments.distinct
    (keepsSources_overlay isVariables.distinct
      (keepsSources_overlay tidy.1 (keepsSources_entries standard) keeps) isVariables.sets.keeps)
    isArguments.sets.keeps
  have headed := (((isHeaded_entries standard).overlay layer).overlay ofVariables).overlay
    ofArguments
  obtain ⟨_, defaults, isDefault, valid⟩ := (check_eq_valid keepsAll).mp valid
  obtain ⟨_, isSame, validDefaults⟩ := check_nil_eq_valid.mp isStandard
  cases isDefault.symm.trans isSame
  have isSection := (fields_eq_valid.mp valid).1 name misshapen.1
  rw [isSection_merged validDefaults headed.isSpelled misshapen.1] at isSection
  obtain ⟨_, v, found, shape⟩ := misshapen
  have kept : ∀ base later : Value.Entries, later.Distinct → later.findText? name = none →
      (overlay base later).findText? name = base.findText? name := by
    intro base later distinct absent
    rw [findText?_overlay distinct, absent]
    rfl
  obtain ⟨inner, isMap⟩ := isSection v (by
    rw [kept _ _ isArguments.distinct noArgument, kept _ _ isVariables.distinct noVariable,
      findText?_overlay_misshapen tidy found shape])
  exact (shapesSection_eq_false.mp shape).2 inner isMap

end MobileAudit.Settings
