import MobileAudit.Proofs.Settings.Background
import MobileAudit.Proofs.Settings.Merging

namespace MobileAudit.Settings

/-! Values of settings after a layer was merged: what the layer gives takes the place of what there
was, and `null` gives nothing. -/

/-- The value that a layer gives. -/
def given? (v? : Option Value) : Option Value := v?.filter fun v => !v.bare.isNull

/-- A value over an older one: mappings are merged, anything else is replaced. -/
def overlaid (old : Option Value) (v : Value) : Value :=
  match v.bare with
  | .map inner =>
      match old.map Value.bare with
      | some (.map entries) => .map (overlay entries inner)
      | _ => v
  | _ => v

theorem overlaid_of_unmapped {old : Option Value} {v : Value}
    (unmapped : (∀ inner, v.bare ≠ .map inner) ∨ ∀ w inner, old = some w → w.bare ≠ .map inner) :
    overlaid old v = v := by
  unfold overlaid
  split
  · rename_i inner isMap
    split
    · rename_i entries isOld
      obtain ⟨w, rfl, isEntries⟩ := Option.map_eq_some_iff.mp isOld
      obtain noMap | noOld := unmapped
      · exact absurd isMap (noMap inner)
      · exact absurd isEntries (noOld w entries rfl)
    · rfl
  · rfl

theorem bare_overlaid {old : Option Value} {v : Value} :
    (∃ inner, (overlaid old v).bare = .map inner) ↔ ∃ inner, v.bare = .map inner := by
  unfold overlaid
  split
  · rename_i inner isMap
    split
    · exact ⟨fun _ => ⟨inner, isMap⟩, fun _ => ⟨_, rfl⟩⟩
    · exact Iff.rfl
  · exact Iff.rfl

theorem overlayEntry_eq (base : Value.Entries) (key v : Value) :
    overlayEntry base key v v =
      if v.bare.isNull then base else base.put key (overlaid (base.find? key) v) := by
  rw [overlayEntry_bare, overlaid]
  cases bare : v.bare with
  | loop label inner => exact absurd bare (v.bare_ne_loop label inner)
  | map inner =>
      rw [overlayEntry]
      cases (base.find? key).map Value.bare with
      | none => rfl
      | some old => cases old <;> rfl
  | _ => rfl

theorem given?_eq_some {v? : Option Value} {v : Value} :
    given? v? = some v ↔ v? = some v ∧ v.bare ≠ .null := by
  rw [given?, Option.filter_eq_some_iff]
  refine and_congr Iff.rfl ?_
  cases v.bare <;> simp [Value.isNull]

theorem given?_eq_none {v? : Option Value} :
    given? v? = none ↔ ∀ v, v? = some v → v.bare = .null := by
  rw [given?, Option.filter_eq_none_iff]
  refine forall₂_congr fun v _ => ?_
  cases v.bare <;> simp [Value.isNull]

theorem findText?_overlay {layer : Value.Entries} (distinct : layer.Distinct)
    (base : Value.Entries) (name : String) :
    (overlay base layer).findText? name =
      (given? (layer.findText? name)).elim (base.findText? name) fun v =>
        some (overlaid (base.findText? name) v) := by
  induction layer generalizing base with
  | nil => rfl
  | cons entry rest ih =>
      obtain ⟨k, v⟩ := entry
      rw [overlay, ih distinct.tail, overlayEntry_eq]
      by_cases isName : k = .text name
      · subst isName
        rw [distinct.findText?_tail, Value.Entries.findText?_cons_self, given?, given?,
          Option.filter_none, Option.elim_none, Option.filter_some]
        cases v.bare.isNull with
        | true => rfl
        | false => exact Value.Entries.findText?_put_self _ _ _
      · rw [Value.Entries.findText?_cons_other _ _ isName]
        split
        · rfl
        · rw [Value.Entries.findText?_put_other _ _ isName]

/-! Sections. -/

def HasSections (data : Value.Entries) : Prop :=
  ∀ name ∈ sectionNames, ∃ v inner, data.findText? name = some v ∧ v.bare = .map inner

theorem HasSections.isSection {data : Value.Entries} (has : HasSections data) {name : String}
    (isName : name ∈ sectionNames) : IsSection data name := by
  obtain ⟨v, inner, found, isMap⟩ := has name isName
  intro w isSection
  cases found.symm.trans isSection
  exact ⟨inner, isMap⟩

/-- A section of a layer that is absent, `null` or a mapping. -/
def IsSectionOrNull (layer : Value.Entries) (name : String) : Prop :=
  ∀ v, layer.findText? name = some v → v.bare = .null ∨ ∃ inner, v.bare = .map inner

section Sections

variable {base layer : Value.Entries} (has : HasSections base) (distinct : layer.Distinct)

include has distinct

theorem isSection_overlay {name : String} (isName : name ∈ sectionNames) :
    IsSection (overlay base layer) name ↔ IsSectionOrNull layer name := by
  obtain ⟨v, inner, found, isMap⟩ := has name isName
  unfold IsSection
  rw [findText?_overlay distinct, found]
  cases isGiven : given? (layer.findText? name) with
  | none =>
      refine ⟨fun _ w isSection => .inl (given?_eq_none.mp isGiven w isSection), ?_⟩
      rintro _ _ ⟨⟩
      exact ⟨inner, isMap⟩
  | some w =>
      obtain ⟨isSection, stated⟩ := given?_eq_some.mp isGiven
      simp only [Option.elim_some, Option.some.injEq, forall_eq', bare_overlaid, IsSectionOrNull,
        isSection]
      exact ⟨.inr, fun either => either.resolve_left stated⟩

theorem hasSections_overlay (sections : ∀ name ∈ sectionNames, IsSectionOrNull layer name) :
    HasSections (overlay base layer) := by
  intro name isName
  obtain ⟨v, inner, found, isMap⟩ := has name isName
  have isSection := (isSection_overlay has distinct isName).mpr (sections name isName)
  obtain ⟨w, isFound⟩ : ∃ w, (overlay base layer).findText? name = some w := by
    rw [findText?_overlay distinct, found]
    cases given? (layer.findText? name) with
    | none => exact ⟨_, rfl⟩
    | some w => exact ⟨_, rfl⟩
  obtain ⟨inner, isMap⟩ := isSection w isFound
  exact ⟨w, inner, isFound, isMap⟩

theorem sectionIn_overlay {name : String} (isName : name ∈ sectionNames)
    (sections : IsSectionOrNull layer name) :
    sectionIn (overlay base layer) name = overlay (sectionIn base name) (sectionIn layer name) := by
  obtain ⟨v, inner, found, isMap⟩ := has name isName
  have merged := findText?_overlay distinct base name
  rw [sectionIn_eq found isMap]
  rw [found] at merged
  cases isGiven : given? (layer.findText? name) with
  | none =>
      have empty : sectionIn layer name = [] := by
        rw [sectionIn]
        cases isSection : layer.findText? name with
        | none => rfl
        | some w => rw [Option.map_some, given?_eq_none.mp isGiven w isSection]
      rw [isGiven] at merged
      rw [sectionIn_eq merged isMap, empty, overlay]
  | some w =>
      obtain ⟨isSection, stated⟩ := given?_eq_some.mp isGiven
      obtain ⟨update, isUpdate⟩ := (sections w isSection).resolve_left stated
      rw [isGiven, Option.elim_some] at merged
      rw [sectionIn_eq isSection isUpdate]
      refine sectionIn_eq merged ?_
      rw [overlaid, isUpdate, Option.map_some, isMap]
      rfl

end Sections

theorem valueIn_overlay {base layer : Value.Entries} (has : HasSections base)
    (separate : Separate layer) (sections : ∀ name ∈ sectionNames, IsSectionOrNull layer name)
    (setting : Setting) :
    valueIn (overlay base layer) setting =
      (given? (valueIn layer setting)).elim (valueIn base setting) fun v =>
        some (overlaid (valueIn base setting) v) := by
  unfold valueIn
  cases above : setting.sectionName? with
  | none => exact findText?_overlay separate.top base setting.key
  | some name =>
      have isName := sectionName_mem above
      simp only
      rw [sectionIn_overlay has separate.top isName (sections name isName),
        findText?_overlay (separate.inside name isName)]

theorem distinct_overlay {base : Value.Entries} (distinct : base.Distinct)
    (layer : Value.Entries) : (overlay base layer).Distinct := by
  induction layer generalizing base with
  | nil => exact distinct
  | cons entry rest ih =>
      rw [overlay, overlayEntry_eq]
      split
      · exact ih distinct
      · exact ih (distinct.put _ _)

theorem Separate.overlay {base layer : Value.Entries} (has : HasSections base)
    (separateBase : Separate base) (distinct : layer.Distinct) :
    Separate (overlay base layer) where
  top := distinct_overlay separateBase.top layer
  inside := by
    intro name isName
    have isSection := isSection_overlay has distinct isName
    by_cases sections : IsSectionOrNull layer name
    · rw [sectionIn_overlay has distinct isName sections]
      exact distinct_overlay (separateBase.inside name isName) _
    · rw [sectionIn_eq_nil fun isMap => sections (isSection.mp isMap)]
      exact Value.Entries.distinct_nil

/-! Keys. -/

def IsText (key : Value) : Prop := ∃ name, key = .text name

theorem textKeys_iff (data : Value.Entries) :
    textKeys data = true ↔ ∀ entry ∈ data, IsText entry.1 := by
  induction data with
  | nil => simp [textKeys]
  | cons entry rest ih =>
      obtain ⟨k, v⟩ := entry
      rw [List.forall_mem_cons, ← ih]
      cases k <;> simp [textKeys, IsText]

private theorem textKeys_put (entries : Value.Entries) (key v : Value) :
    textKeys (entries.put key v) = true ↔ textKeys entries = true ∧ IsText key := by
  simp only [textKeys_iff]
  induction entries with
  | nil => simp [Value.Entries.put]
  | cons entry rest ih =>
      obtain ⟨k, w⟩ := entry
      rw [Value.Entries.put]
      split
      · rename_i same
        simp only [List.forall_mem_cons]
        refine ⟨fun texts => ⟨texts, ?_⟩, fun texts => texts.1⟩
        obtain ⟨name, rfl⟩ := texts.1
        exact ⟨name, (Value.text_sameKey key name).mp same⟩
      · rw [List.forall_mem_cons, List.forall_mem_cons, ih, and_assoc]

/-- Merging a layer leaves texts for keys exactly if the layer sets nothing else. -/
theorem textKeys_overlay (base layer : Value.Entries) :
    textKeys (overlay base layer) = true ↔
      textKeys base = true ∧ ∀ entry ∈ layer, entry.2.bare ≠ .null → IsText entry.1 := by
  induction layer generalizing base with
  | nil => simp [overlay]
  | cons entry rest ih =>
      obtain ⟨k, v⟩ := entry
      rw [overlay, ih, overlayEntry_eq, List.forall_mem_cons]
      cases bare : v.bare <;> simp [Value.isNull, textKeys_put, and_assoc]

private theorem keys_overlay (base layer : Value.Entries) :
    ∃ more, (overlay base layer).map (·.1) = base.map (·.1) ++ more := by
  induction layer generalizing base with
  | nil => exact ⟨[], by simp [overlay]⟩
  | cons entry rest ih =>
      rw [overlay, overlayEntry_eq]
      split
      · exact ih base
      · obtain ⟨more, keys⟩ := ih (base.put entry.1 (overlaid (base.find? entry.1) entry.2))
        obtain same | ⟨appended, _⟩ := Value.Entries.keys_put base entry.1
          (overlaid (base.find? entry.1) entry.2)
        · exact ⟨more, by rw [keys, same]⟩
        · exact ⟨entry.1 :: more, by rw [keys, appended, List.append_assoc]; rfl⟩

theorem named?_of_head {names : List String} (low : ∀ name ∈ names, Text.lower name = name)
    {data : Value.Entries} {more : List Value}
    (keys : data.map (·.1) = names.map .text ++ more) {name : String} (isName : name ∈ names) :
    named? data name = data.findText? name := by
  induction names generalizing data with
  | nil => cases isName
  | cons first names ih =>
      cases data with
      | nil => cases keys
      | cons entry rest =>
          obtain ⟨k, v⟩ := entry
          rw [List.map_cons, List.map_cons, List.cons_append, List.cons.injEq] at keys
          obtain ⟨rfl, keys⟩ := keys
          have isLow := low first List.mem_cons_self
          unfold named?
          by_cases same : first = name
          · subst same
            rw [List.find?_cons_of_pos (by simp [namesSetting, isLow]),
              Value.Entries.findText?_cons_self]
            rfl
          · rw [List.find?_cons_of_neg (by simp [namesSetting, isLow, same]),
              Value.Entries.findText?_cons_other _ _ (by simpa using same)]
            exact ih (fun n member => low n (List.mem_cons_of_mem _ member)) keys
              ((List.mem_cons.mp isName).resolve_left fun isFirst => same isFirst.symm)

theorem isSpelled_of_names (names : List String) {data : Value.Entries}
    (keys : data.map (·.1) = names.map .text) (low : ∀ name ∈ names, Text.lower name = name) :
    IsSpelled data := by
  intro name _
  by_cases isName : name ∈ names
  · exact named?_of_head low (by rw [keys, List.append_nil]) isName
  · have isOther : ∀ entry ∈ data, namesSetting name entry.1 = false ∧ entry.1 ≠ .text name := by
      intro entry member
      have isKey : entry.1 ∈ names.map Value.text := keys ▸ List.mem_map_of_mem member
      obtain ⟨other, isOther, same⟩ := List.mem_map.mp isKey
      have differs : other ≠ name := fun isSame => isName (isSame ▸ isOther)
      rw [← same]
      exact ⟨by simp [namesSetting, low other isOther, differs], by simpa using differs⟩
    have unnamed : named? data name = none := by
      rw [named?, Option.map_eq_none_iff, List.find?_eq_none]
      intro entry member isNamed
      rw [(isOther entry member).1] at isNamed
      cases isNamed
    rw [unnamed]
    cases found : data.findText? name with
    | none => rfl
    | some v => exact absurd rfl (isOther _ (Value.Entries.mem_of_findText? found)).2

/-- Data in which the settings stand in front, as they are written. -/
def IsHeaded (data : Value.Entries) : Prop :=
  ∃ more, data.map (·.1) = settingNames.map .text ++ more

theorem IsHeaded.isSpelled {data : Value.Entries} (headed : IsHeaded data) : IsSpelled data := by
  obtain ⟨more, keys⟩ := headed
  exact fun name isName => named?_of_head (by decide +kernel) keys isName

theorem IsHeaded.overlay {base : Value.Entries} (headed : IsHeaded base) (layer : Value.Entries) :
    IsHeaded (overlay base layer) := by
  obtain ⟨more, keys⟩ := headed
  obtain ⟨further, merged⟩ := keys_overlay base layer
  rw [keys, List.append_assoc] at merged
  exact ⟨more ++ further, merged⟩

/-! Written settings as the lowest layer. -/

theorem isHeaded_entries (settings : Settings) : IsHeaded settings.entries := ⟨[], rfl⟩

theorem hasSections_entries (settings : Settings) : HasSections settings.entries := by
  intro name isName
  simp only [sectionNames, sectionKeys, List.map_cons, List.map_nil, List.mem_cons,
    List.not_mem_nil, or_false] at isName
  obtain rfl | rfl | rfl := isName <;> exact ⟨_, _, rfl, rfl⟩

theorem separate_entries (settings : Settings) : Separate settings.entries where
  top := Value.Entries.distinct_of_texts settingNames rfl (by decide)
  inside := by
    intro name isName
    simp only [sectionNames, sectionKeys, List.map_cons, List.map_nil, List.mem_cons,
      List.not_mem_nil, or_false] at isName
    obtain rfl | rfl | rfl := isName
    · exact Value.Entries.distinct_of_texts ["concurrency", "exclude", "ignored_rules"] rfl
        (by decide)
    · exact Value.Entries.distinct_of_texts ["enabled", "file_name", "max_age_days"] rfl
        (by decide)
    · exact Value.Entries.distinct_of_texts ["format", "quiet", "verbose"] rfl (by decide)

theorem of_section_entries {settings : Settings} {name : String} {v : Value}
    {inner : Value.Entries} (found : settings.entries.findText? name = some v)
    (isMap : v.bare = .map inner) :
    name ∈ sectionNames ∧ ∀ entry ∈ inner, IsText entry.1 ∧ entry.2.isUnmapped = true := by
  have member := Value.Entries.mem_of_findText? found
  simp only [entries, List.mem_cons, List.not_mem_nil, or_false, Prod.mk.injEq,
    Value.text.injEq] at member
  obtain ⟨rfl, rfl⟩ | ⟨rfl, rfl⟩ | ⟨rfl, rfl⟩ | ⟨rfl, rfl⟩ := member
  case inr.inr.inr => cases isMap
  all_goals
    cases isMap
    refine ⟨by decide, ?_⟩
    simp only [List.forall_mem_cons]
    exact ⟨⟨⟨_, rfl⟩, rfl⟩, ⟨⟨_, rfl⟩, rfl⟩, ⟨⟨_, rfl⟩, rfl⟩, List.forall_mem_nil _⟩

theorem separate_of_tidy {depth : Nat} {layer : Value.Entries}
    (tidy : Value.Entries.Tidy (depth + 1) layer) : Separate layer where
  top := tidy.1
  inside := by
    intro name _
    rw [sectionIn]
    split
    · rename_i inner found
      obtain ⟨v, isSection, isMap⟩ := Option.map_eq_some_iff.mp found
      exact ((Value.Tidy.find? tidy isSection).entries isMap).1
    · exact Value.Entries.distinct_nil

end MobileAudit.Settings
