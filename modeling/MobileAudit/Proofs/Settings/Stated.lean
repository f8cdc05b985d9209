import MobileAudit.Proofs.Settings.StrayVariables

namespace MobileAudit.Settings

open Check

/-! Layers in which no value is `null`, as variables and arguments make them.  Such a layer decides
about a section even where what it meets there is no mapping. -/

/-! Values under a layer that states all its values. -/

@[simp] theorem overlaid_none (v : Value) : overlaid none v = v :=
  overlaid_of_unmapped (.inr (by rintro _ _ ⟨⟩))

private theorem sectionIn_overlay_absent {layer : Value.Entries} (distinct : layer.Distinct)
    {name : String} (absent : given? (layer.findText? name) = none) (base : Value.Entries) :
    sectionIn (overlay base layer) name = sectionIn base name ∧ sectionIn layer name = [] := by
  constructor
  · rw [sectionIn, findText?_overlay distinct, absent, Option.elim_none, ← sectionIn]
  · rw [sectionIn]
    cases found : layer.findText? name with
    | none => rfl
    | some v => rw [Option.map_some, given?_eq_none.mp absent v found]

/-- A section that is set over something else than a mapping is the section of the layer. -/
theorem valueIn_overlay_stated {layer : Value.Entries} (separate : Separate layer)
    (sections : ∀ name ∈ sectionNames, IsSectionOrNull layer name)
    (stated : ∀ setting v, valueIn layer setting = some v → v.bare ≠ .null)
    (base : Value.Entries) (setting : Setting) :
    valueIn (overlay base layer) setting =
      (valueIn layer setting).elim (valueIn base setting) fun v =>
        some (overlaid (valueIn base setting) v) := by
  have isGiven : given? (valueIn layer setting) = valueIn layer setting := by
    cases found : valueIn layer setting with
    | none => rfl
    | some v => exact given?_eq_some.mpr ⟨rfl, stated setting v found⟩
  rw [← isGiven]
  unfold valueIn at isGiven ⊢
  cases above : setting.sectionName? with
  | none => exact findText?_overlay separate.top base setting.key
  | some name =>
      have isName := sectionName_mem above
      simp only [above] at isGiven ⊢
      cases isSection : given? (layer.findText? name) with
      | none =>
          obtain ⟨kept, empty⟩ := sectionIn_overlay_absent separate.top isSection base
          rw [kept, empty]
          rfl
      | some w =>
          obtain ⟨found, isStated⟩ := given?_eq_some.mp isSection
          obtain ⟨update, isMap⟩ := (sections name isName w found).resolve_left isStated
          have distinct := separate.inside name isName
          have merged := findText?_overlay separate.top base name
          rw [isSection, Option.elim_some] at merged
          rw [sectionIn_eq found isMap] at distinct isGiven ⊢
          unfold overlaid at merged
          simp only [isMap] at merged
          split at merged
          · rename_i old isOld
            have isBase : sectionIn base name = old := by rw [sectionIn, isOld]
            rw [sectionIn_eq merged rfl, isBase, findText?_overlay distinct]
          · rename_i noMap
            have isBase : sectionIn base name = [] := by
              rw [sectionIn]
              split
              · rename_i inner isInner
                exact absurd isInner (noMap inner)
              · rfl
            rw [sectionIn_eq merged isMap, isBase, isGiven]
            cases Value.Entries.findText? update setting.key with
            | none => rfl
            | some v => exact congrArg some (overlaid_none v).symm

/-! Layers of variables and arguments. -/

/-- The values that variables and arguments give, in this order. -/
def laterAssignments (origin : Origin) (query : Query) : List Assignment :=
  variableAssignments origin query ++ query.arguments.filterMap argumentAssignment?

/-- Whether a variable or an argument sets a value in a section. -/
def IsSetAgain (origin : Origin) (query : Query) (name : String) : Prop :=
  ∃ assignment ∈ laterAssignments origin query, assignment.sectionName? = some name

private theorem isSome_findText?_setIn {assignment : Assignment} (known : assignment.IsKnown)
    {name : String} (isName : name ∈ sectionNames) (entries : Value.Entries) :
    ((assignment.setIn entries).findText? name).isSome =
      (assignment.sectionName? == some name || (entries.findText? name).isSome) := by
  obtain ⟨setting, isFor⟩ := known
  obtain ⟨isSection, isKey⟩ := Assignment.isFor_iff.mp isFor
  unfold Assignment.setIn
  cases above : assignment.sectionName? with
  | some other =>
      have put : ∃ w, putInSection entries other assignment.key assignment.value =
          entries.put (.text other) w := by
        unfold putInSection
        split <;> exact ⟨_, rfl⟩
      obtain ⟨w, isPut⟩ := put
      simp only
      rw [isPut, Value.Entries.findText?_put, Value.sameKey]
      by_cases same : other = name
      · simp [same]
      · simp [same]
  | none =>
      rw [above] at isSection
      have other : Value.text assignment.key ≠ .text name := by
        rw [isKey, key_of_top isSection.symm]
        rintro ⟨⟩
        exact absurd isName (by decide)
      simp [Value.Entries.findText?_put_other _ _ other]

theorem isSome_findText?_foldl {assignments : List Assignment}
    (known : ∀ assignment ∈ assignments, assignment.IsKnown) {name : String}
    (isName : name ∈ sectionNames) (entries : Value.Entries) :
    ((assignments.foldl Assignment.setIn entries).findText? name).isSome =
      (assignments.any (fun assignment => assignment.sectionName? == some name) ||
        (entries.findText? name).isSome) := by
  induction assignments generalizing entries with
  | nil => rfl
  | cons assignment assignments ih =>
      rw [List.forall_mem_cons] at known
      rw [List.foldl_cons, ih known.2, isSome_findText?_setIn known.1 isName, List.any_cons,
        Bool.or_assoc, Bool.or_left_comm]

private theorem keyed_foldl {assignments : List Assignment}
    (known : ∀ assignment ∈ assignments, assignment.IsKnown) {name : String}
    (isName : name ∈ sectionNames) {layer : Value.Entries} (isLayer : IsLayer layer)
    (keyed : ∀ entry ∈ sectionIn layer name, ∃ setting : Setting,
      setting.sectionName? = some name ∧ entry.1 = .text setting.key) :
    ∀ entry ∈ sectionIn (assignments.foldl Assignment.setIn layer) name, ∃ setting : Setting,
      setting.sectionName? = some name ∧ entry.1 = .text setting.key := by
  induction assignments generalizing layer with
  | nil => exact keyed
  | cons assignment assignments ih =>
      rw [List.forall_mem_cons] at known
      refine ih known.2 (isLayer.setIn known.1) ?_
      obtain ⟨setting, isFor⟩ := known.1
      obtain ⟨isSection, isKey⟩ := Assignment.isFor_iff.mp isFor
      unfold Assignment.setIn
      cases above : assignment.sectionName? with
      | some other =>
          rw [above] at isSection
          simp only
          rw [isLayer.putInSection_eq (sectionName_mem isSection.symm)]
          by_cases same : other = name
          · subst same
            rw [sectionIn_put_self]
            intro entry member
            obtain old | ⟨_, here | ⟨_, w, old⟩⟩ := Value.Entries.mem_put member
            · exact keyed entry old
            · exact ⟨setting, isSection.symm, here.trans (congrArg Value.text isKey)⟩
            · exact keyed (entry.1, w) old
          · rwa [sectionIn_put_other _ _ same]
      | none =>
          rw [above] at isSection
          have other : assignment.key ≠ name := by
            rw [isKey, key_of_top isSection.symm]
            rintro rfl
            exact absurd isName (by decide)
          simp only
          rwa [sectionIn_put_other _ _ other]

private theorem stated_variable {origin : Origin} {query : Query} {assignment : Assignment}
    (member : assignment ∈ variableAssignments origin query) : assignment.value.bare ≠ .null := by
  unfold variableAssignments at member
  split at member
  · obtain ⟨source, isSource, found⟩ := List.mem_filterMap.mp member
    obtain ⟨raw, _, stated, rfl⟩ := Variable.assignment?_eq_some.mp found
    rwa [Value.bare_of_isUnmapped (isUnmapped_parse source isSource raw)]
  · cases member

private theorem stated_argument {arguments : Value.Entries}
    (unlabelled : ∀ argument ∈ arguments, argument.2.bare = .null → argument.2 = .null)
    {assignment : Assignment} (member : assignment ∈ arguments.filterMap argumentAssignment?) :
    assignment.value.bare ≠ .null := by
  obtain ⟨argument, isArgument, found⟩ := List.mem_filterMap.mp member
  obtain ⟨given, rfl | ⟨place, _, rfl⟩⟩ := argumentAssignment?_cases found
  · exact Value.noConfusion
  · simp only
    unfold asList
    split
    · exact Value.noConfusion
    · intro isNull
      rw [unlabelled argument isArgument isNull] at given
      cases given

structure IsStated (layer : Value.Entries) : Prop extends IsLayer layer where
  stated : ∀ setting v, valueIn layer setting = some v → v.bare ≠ .null
  keyed : ∀ name ∈ sectionNames, ∀ entry ∈ sectionIn layer name, ∃ setting : Setting,
    setting.sectionName? = some name ∧ entry.1 = .text setting.key

theorem isStated_foldl {assignments : List Assignment}
    (known : ∀ assignment ∈ assignments, assignment.IsKnown)
    (stated : ∀ assignment ∈ assignments, assignment.value.bare ≠ .null) :
    IsStated (assignments.foldl Assignment.setIn []) where
  toIsLayer := (isLayer_foldl known).1
  stated := by
    intro setting v found
    rw [(isLayer_foldl known).2] at found
    obtain ⟨assignment, member, rfl⟩ := Assignment.mem_of_last? found
    exact stated assignment member
  keyed := fun name isName => keyed_foldl known isName IsLayer.nil (List.forall_mem_nil _)

theorem isStated_environmentLayer (origin : Origin) (query : Query) :
    IsStated (environmentLayer origin query) := by
  rw [environmentLayer_eq]
  exact isStated_foldl (fun _ => known_variableAssignments) fun _ => stated_variable

theorem isStated_argumentLayer {given arguments : Value.Entries}
    (isLayer : argumentLayer given = .ok arguments)
    (unlabelled : ∀ argument ∈ given, argument.2.bare = .null → argument.2 = .null) :
    IsStated arguments := by
  rw [argumentLayer_eq isLayer]
  exact isStated_foldl (fun _ => known_argument) fun _ => stated_argument unlabelled

theorem unmapped_environmentLayer (origin : Origin) (query : Query) {setting : Setting} {v : Value}
    (found : valueIn (environmentLayer origin query) setting = some v) (inner : Value.Entries) :
    v.bare ≠ .map inner := by
  rw [environmentLayer_eq, (isLayer_foldl fun _ => known_variableAssignments).2] at found
  obtain ⟨assignment, member, rfl⟩ := Assignment.mem_of_last? found
  exact unmapped_variable member inner

theorem mapped_overlay {base layer : Value.Entries} (distinct : layer.Distinct) {name : String}
    (isSection : IsSectionOrNull layer name)
    (mapped : ∃ v inner, base.findText? name = some v ∧ v.bare = .map inner) :
    ∃ v inner, (overlay base layer).findText? name = some v ∧ v.bare = .map inner := by
  obtain ⟨v, inner, found, isMap⟩ := mapped
  rw [findText?_overlay distinct, found]
  cases isGiven : given? (layer.findText? name) with
  | none => exact ⟨v, inner, rfl, isMap⟩
  | some w =>
      obtain ⟨isFound, stated⟩ := given?_eq_some.mp isGiven
      obtain ⟨inner, isMap⟩ := bare_overlaid.mpr ((isSection w isFound).resolve_left stated)
      exact ⟨_, inner, rfl, isMap⟩

/-- A section that a layer of assignments sets is a mapping, whatever it was. -/
theorem IsStated.mapped {layer : Value.Entries} (isStated : IsStated layer) {name : String}
    (isName : name ∈ sectionNames) (present : (layer.findText? name).isSome)
    (base : Value.Entries) :
    ∃ v inner, (overlay base layer).findText? name = some v ∧ v.bare = .map inner := by
  obtain ⟨v, found⟩ := Option.isSome_iff_exists.mp present
  obtain ⟨inner, rfl, _⟩ := isStated.sections name isName v found
  have isGiven : given? (layer.findText? name) = some (.map inner) :=
    given?_eq_some.mpr ⟨found, Value.noConfusion⟩
  have isMapped : ∃ merged, (overlaid (base.findText? name) (.map inner)).bare = .map merged :=
    bare_overlaid.mpr ⟨inner, rfl⟩
  obtain ⟨merged, isMap⟩ := isMapped
  refine ⟨_, merged, ?_, isMap⟩
  rw [findText?_overlay isStated.distinct, isGiven, Option.elim_some]

theorem IsStated.namelessEntry_section {layer : Value.Entries} (isStated : IsStated layer)
    {name : String} (isName : name ∈ sectionNames) {v : Value}
    (found : layer.findText? name = some v) {base : Value.Entries}
    (plain : ∀ setting : Setting, setting.sectionName? = some name →
      ∀ w, valueIn base setting = some w → ∀ inner, w.bare ≠ .map inner) :
    namelessEntry base (.text name) v = false := by
  obtain ⟨inner, rfl, _⟩ := isStated.sections name isName v found
  refine namelessEntry_eq Value.noConfusion rfl fun update old w isUpdate isFound isOld => ?_
  cases isUpdate
  have isInner := sectionIn_eq found rfl
  have keyed := isStated.keyed name isName
  have distinct := isStated.distinct_sectionIn name isName
  rw [isInner] at keyed distinct
  refine named_of_sections distinct (fun entry member _ =>
    (keyed entry member).imp' _ fun _ isKey => isKey.2) fun key v deeper older u member _ isValue
      isMap => ?_
  obtain ⟨setting, inSection, isKey⟩ := keyed _ member
  cases isKey
  refine absurd isMap (plain setting inSection u ?_ older)
  unfold valueIn
  simp only [inSection]
  rw [sectionIn_eq isFound isOld]
  exact isValue

end MobileAudit.Settings
