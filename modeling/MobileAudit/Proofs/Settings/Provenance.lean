import MobileAudit.Proofs.Settings.Overlay

namespace MobileAudit.Settings

/-! The sources of settings.  Merging a layer records it as the source of exactly those settings for
which it gives a value, unless it sets something under the full name of a setting. -/

theorem Sources.lookup_cons (name : String) (source : Source) (rest : Sources) (other : String) :
    List.lookup other ((name, source) :: rest) =
      if other = name then some source else rest.lookup other := by
  rw [List.lookup_cons]
  by_cases same : other = name
  · rw [beq_iff_eq.mpr same, if_pos same]
  · rw [beq_eq_false_iff_ne.mpr same, if_neg same]

@[simp] theorem Sources.lookup_put (sources : Sources) (name : String) (source : Source)
    (other : String) :
    (sources.put name source).lookup other =
      if other = name then some source else sources.lookup other := by
  induction sources with
  | nil => exact Sources.lookup_cons name source [] other
  | cons entry rest ih =>
      obtain ⟨n, s⟩ := entry
      rw [Sources.put]
      by_cases isName : n = name
      · subst isName
        rw [if_pos (beq_self_eq_true n), Sources.lookup_cons, Sources.lookup_cons]
        split <;> rfl
      · rw [if_neg (by simpa using isName), Sources.lookup_cons, Sources.lookup_cons, ih]
        by_cases same : other = n
        · subst same
          rw [if_pos rfl, if_neg isName, if_pos rfl]
        · rw [if_neg same, if_neg same]

/-! Names that are recorded below a section. -/

theorem noteEntry_bare (source : Source) (above : String) (base : Value.Entries)
    (sources : Sources) (key v : Value) :
    noteEntry source above base sources key v = noteEntry source above base sources key v.bare := by
  induction v using Value.bare.induct with
  | case1 _ v ih => exact ih
  | case2 v noLoop =>
      cases v with
      | loop label inner => exact absurd rfl (noLoop label inner)
      | _ => rfl

mutual

theorem lookup_noteEntry_outside (source : Source) {name : String} :
    ∀ (above : String) (base : Value.Entries) (sources : Sources) (key v : Value),
      (∀ rest, name ≠ above ++ rest) →
        (noteEntry source above base sources key v).lookup name = sources.lookup name
  | _, _, _, _, .null, _ => rfl
  | above, base, sources, key, .loop _ v, outside =>
      lookup_noteEntry_outside source above base sources key v outside
  | above, base, sources, key, .map inner, outside => by
      rw [noteEntry]
      split
      · refine lookup_note_outside source _ _ sources inner fun rest => ?_
        rw [String.append_assoc, String.append_assoc]
        exact outside _
      · rw [Sources.lookup_put, if_neg (outside _)]
  | above, _, sources, key, .bool _, outside | above, _, sources, key, .int _, outside
  | above, _, sources, key, .float _, outside | above, _, sources, key, .text _, outside
  | above, _, sources, key, .list _, outside | above, _, sources, key, .tuple _, outside
  | above, _, sources, key, .set _, outside | above, _, sources, key, .date _, outside
  | above, _, sources, key, .time _, outside | above, _, sources, key, .moment _, outside
  | above, _, sources, key, .bytes _, outside | above, _, sources, key, .back _, outside =>
      (Sources.lookup_put sources _ source name).trans (if_neg (outside key.plain))

private theorem lookup_note_outside (source : Source) {name : String} :
    ∀ (above : String) (base : Value.Entries) (sources : Sources) (layer : Value.Entries),
      (∀ rest, name ≠ above ++ rest) →
        (note source above base sources layer).lookup name = sources.lookup name
  | _, _, _, [], _ => rfl
  | above, base, sources, (key, v) :: layer, outside => by
      rw [note, lookup_note_outside source above _ _ layer outside,
        lookup_noteEntry_outside source above base sources key v outside]

end

/-! Names of settings. -/

/-- A key of a simple name, which nothing but its text has. -/
structure IsSimple (key : String) : Prop where
  plain : key.toList.all Value.isNameChar = true
  noNumber : key ∉ Value.numberNames

theorem IsSimple.noDot {key : String} (simple : IsSimple key) : '.' ∉ key.toList := by
  intro member
  exact absurd (List.all_eq_true.mp simple.plain '.' member) (by decide)

private theorem isSimple_key (setting : Setting) : IsSimple setting.key := by
  cases setting <;> exact ⟨by decide, by decide⟩

private theorem isSimple_section {name : String} (isName : name ∈ sectionNames) :
    IsSimple name := by
  have simple : ∀ name ∈ sectionNames,
      name.toList.all Value.isNameChar = true ∧ name ∉ Value.numberNames := by decide
  exact ⟨(simple name isName).1, (simple name isName).2⟩

private theorem eq_of_dotted {name key first rest : String} (noDot : '.' ∉ name.toList)
    (noDotKey : '.' ∉ key.toList) (same : first ++ "." ++ rest = name ++ "." ++ key) :
    first = name := by
  have chars : first.toList ++ '.' :: rest.toList = name.toList ++ '.' :: key.toList := by
    have lists := congrArg String.toList same
    simpa using lists
  obtain ⟨more, isName, isRest⟩ | ⟨more, isFirst, isKey⟩ := List.append_eq_append_iff.mp chars
  · cases more with
    | nil => exact String.toList_injective (by simpa using isName.symm)
    | cons c more =>
        rw [List.cons_append, List.cons.injEq] at isRest
        rw [isName, ← isRest.1] at noDot
        simp at noDot
  · cases more with
    | nil => exact String.toList_injective (by simpa using isFirst)
    | cons c more =>
        rw [List.cons_append, List.cons.injEq] at isKey
        rw [isKey.2] at noDotKey
        simp at noDotKey

theorem note_append (source : Source) (above : String) (base : Value.Entries) (sources : Sources)
    (first second : Value.Entries) :
    note source above base sources (first ++ second) =
      note source above (overlay base first) (note source above base sources first) second := by
  induction first generalizing base sources with
  | nil => rfl
  | cons entry rest ih => exact ih _ _

/-! Single keys. -/

section Keys

variable (source : Source) (above : String) (base : Value.Entries) (sources : Sources)

theorem noteEntry_null {v : Value} (isNull : v.bare = .null) (key : Value) :
    noteEntry source above base sources key v = sources := by
  rw [noteEntry_bare, isNull, noteEntry]

private theorem noteEntry_replaced {key v : Value} (stated : v.bare ≠ .null)
    (replaced : (∀ inner, v.bare ≠ .map inner) ∨
      ∀ w inner, base.find? key = some w → w.bare ≠ .map inner) :
    noteEntry source above base sources key v = sources.put (above ++ key.plain) source := by
  rw [noteEntry_bare]
  cases bare : v.bare with
  | null => exact absurd bare stated
  | loop label inner => exact absurd bare (v.bare_ne_loop label inner)
  | map inner =>
      rw [noteEntry]
      split
      · rename_i old found
        obtain ⟨w, isFound, isOld⟩ := Option.map_eq_some_iff.mp found
        obtain noMap | noOld := replaced
        · exact absurd bare (noMap inner)
        · exact absurd isOld (noOld w old isFound)
      · rfl
  | _ => rfl

theorem lookup_noteEntry_other {name : String} {key v : Value}
    (other : v.bare ≠ .null → name ≠ above ++ key.plain)
    (below : ∀ rest, name ≠ above ++ key.plain ++ "." ++ rest) :
    (noteEntry source above base sources key v).lookup name = sources.lookup name := by
  by_cases isNull : v.bare = .null
  · rw [noteEntry_null source above base sources isNull]
  · rw [noteEntry_bare]
    cases bare : v.bare with
    | null => exact absurd bare isNull
    | loop label inner => exact absurd bare (v.bare_ne_loop label inner)
    | map inner =>
        rw [noteEntry]
        split
        · exact lookup_note_outside source _ _ sources inner below
        · rw [Sources.lookup_put, if_neg (other isNull)]
    | _ => exact (Sources.lookup_put sources _ source name).trans (if_neg (other isNull))

end Keys

/-- A key of a layer is recorded exactly if the layer gives a value for it, where no mapping is
merged with another one. -/
theorem lookup_note_key (source : Source) (above : String) {key : String} (simple : IsSimple key)
    {layer : Value.Entries} (distinct : layer.Distinct) (base : Value.Entries) (sources : Sources)
    (replaced : ∀ v, layer.findText? key = some v → (∀ inner, v.bare ≠ .map inner) ∨
      ∀ w inner, base.findText? key = some w → w.bare ≠ .map inner) :
    (note source above base sources layer).lookup (above ++ key) =
      if (given? (layer.findText? key)).isSome then some source
      else sources.lookup (above ++ key) := by
  induction layer generalizing base sources with
  | nil => rfl
  | cons entry rest ih =>
      obtain ⟨k, v⟩ := entry
      rw [note]
      by_cases isKey : k = .text key
      · subst isKey
        have gone := distinct.findText?_tail
        rw [ih distinct.tail _ _ (by simp [gone]), gone]
        rw [Value.Entries.findText?_cons_self] at replaced ⊢
        by_cases isNull : v.bare = .null
        · have absent : given? (some v) = none := by
            rw [given?_eq_none]
            rintro _ ⟨⟩
            exact isNull
          rw [absent, noteEntry_null source above base sources isNull]
          rfl
        · have isGiven : given? (some v) = some v := given?_eq_some.mpr ⟨rfl, isNull⟩
          rw [isGiven, noteEntry_replaced source above base sources isNull (replaced v rfl)]
          exact (Sources.lookup_put sources _ source _).trans (if_pos rfl)
      · have kept : (overlayEntry base k v v).findText? key = base.findText? key := by
          rw [overlayEntry_eq]
          split
          · rfl
          · exact Value.Entries.findText?_put_other _ _ isKey
        rw [Value.Entries.findText?_cons_other _ _ isKey] at replaced ⊢
        rw [ih distinct.tail _ _ (by rwa [kept])]
        refine congrArg _ (lookup_noteEntry_other source above base sources ?_ ?_)
        · intro _ same
          exact isKey (Value.eq_text_of_plain simple.plain simple.noNumber
            ((String.append_right_inj above).mp same.symm))
        · intro rest same
          rw [String.append_assoc, String.append_assoc] at same
          have inKey : '.' ∈ key.toList := by
            rw [(String.append_right_inj above).mp same]
            simp
          exact simple.noDot inKey

section Dotted

variable (source : Source) {name key : String} (isName : name ∈ sectionNames)
  (simple : IsSimple key)

include isName simple

private theorem lookup_noteEntry_elsewhere {base : Value.Entries} {sources : Sources}
    {other : String}
    {v : Value} (noSection : other ≠ name)
    (undotted : v.bare ≠ .null → other ≠ name ++ "." ++ key) :
    (noteEntry source "" base sources (.text other) v).lookup (name ++ "." ++ key) =
      sources.lookup (name ++ "." ++ key) := by
  refine lookup_noteEntry_other source "" base sources ?_ ?_
  · intro stated same
    rw [String.empty_append] at same
    exact undotted stated same.symm
  · intro rest same
    rw [String.empty_append] at same
    exact noSection (eq_of_dotted (isSimple_section isName).noDot simple.noDot same.symm)

/-- Without the section, a layer records nothing for its settings. -/
theorem lookup_note_elsewhere {layer : Value.Entries}
    (texts : ∀ entry ∈ layer, entry.2.bare ≠ .null → IsText entry.1)
    (absent : ∀ v, (.text name, v) ∉ layer)
    (undotted : ∀ v, (.text (name ++ "." ++ key), v) ∈ layer → v.bare = .null)
    (base : Value.Entries) (sources : Sources) :
    (note source "" base sources layer).lookup (name ++ "." ++ key) =
      sources.lookup (name ++ "." ++ key) := by
  induction layer generalizing base sources with
  | nil => rfl
  | cons entry rest ih =>
      obtain ⟨k, v⟩ := entry
      rw [List.forall_mem_cons] at texts
      rw [note, ih texts.2 (fun w later => absent w (List.mem_cons_of_mem _ later))
        (fun w later => undotted w (List.mem_cons_of_mem _ later))]
      by_cases isNull : v.bare = .null
      · rw [noteEntry_null source "" base sources isNull]
      · obtain ⟨other, isText⟩ := texts.1 isNull
        simp only at isText
        subst isText
        refine lookup_noteEntry_elsewhere source isName simple ?_ ?_
        · rintro rfl
          exact absent v List.mem_cons_self
        · rintro _ rfl
          exact isNull (undotted v List.mem_cons_self)

private theorem lookup_note_section {layer : Value.Entries} (separate : Separate layer)
    (texts : ∀ entry ∈ layer, entry.2.bare ≠ .null → IsText entry.1)
    (isSection : IsSectionOrNull layer name)
    (undotted : ∀ v, (.text (name ++ "." ++ key), v) ∈ layer → v.bare = .null)
    {base : Value.Entries} (has : HasSections base) (sources : Sources)
    (replaced : ∀ v, (sectionIn layer name).findText? key = some v →
      (∀ inner, v.bare ≠ .map inner) ∨
        ∀ w inner, (sectionIn base name).findText? key = some w → w.bare ≠ .map inner) :
    (note source "" base sources layer).lookup (name ++ "." ++ key) =
      if (given? ((sectionIn layer name).findText? key)).isSome then some source
      else sources.lookup (name ++ "." ++ key) := by
  cases found : layer.findText? name with
  | none =>
      have empty : sectionIn layer name = [] := by rw [sectionIn, found]; rfl
      rw [empty]
      refine lookup_note_elsewhere source isName simple texts ?_ undotted base sources
      intro v member
      rw [separate.top.findText?_of_mem member] at found
      cases found
  | some v =>
      -- The layer is cut at the section: nothing before or after it records a setting of it.
      obtain ⟨before, after, isLayer⟩ := List.append_of_mem (Value.Entries.mem_of_findText? found)
      subst isLayer
      have distinct := List.pairwise_append.mp separate.top
      have cut := List.pairwise_cons.mp distinct.2.1
      have notBefore : ∀ w, (.text name, w) ∉ before := by
        intro w member
        have apart := distinct.2.2 _ member _ List.mem_cons_self
        rw [(Value.sameKey_text _ _).mpr rfl] at apart
        cases apart
      have notAfter : ∀ w, (.text name, w) ∉ after := by
        intro w member
        have apart := cut.1 _ member
        rw [(Value.sameKey_text _ _).mpr rfl] at apart
        cases apart
      rw [note_append, note,
        lookup_note_elsewhere source isName simple
          (fun entry member => texts entry (by simp [member])) notAfter
          (fun w member => undotted w (by simp [member]))]
      have earlier := lookup_note_elsewhere source isName simple
        (fun entry member => texts entry (by simp [member])) notBefore
        (fun w member => undotted w (by simp [member])) base sources
      obtain ⟨w, old, isOld, isMapOld⟩ := has name isName
      have kept : (overlay base before).findText? name = some w := by
        rw [findText?_overlay distinct.1, isOld]
        cases again : Value.Entries.findText? before name with
        | none => rfl
        | some u => exact absurd (Value.Entries.mem_of_findText? again) (notBefore u)
      obtain isNull | ⟨inner, isMap⟩ := isSection v found
      · have empty : sectionIn (before ++ (.text name, v) :: after) name = [] := by
          rw [sectionIn, found, Option.map_some, isNull]
        rw [noteEntry_null source "" _ _ isNull, earlier, empty]
        rfl
      · have isInner := sectionIn_eq found isMap
        have distinctInner := separate.inside name isName
        rw [isInner] at replaced distinctInner ⊢
        rw [sectionIn_eq isOld isMapOld] at replaced
        have merged : noteEntry source "" (overlay base before)
            (note source "" base sources before) (.text name) v =
              note source (name ++ ".") old (note source "" base sources before) inner := by
          rw [Value.Entries.findText?_eq] at kept
          rw [noteEntry_bare, isMap, noteEntry, kept, Option.map_some, isMapOld,
            String.empty_append]
          rfl
        rw [merged, lookup_note_key source (name ++ ".") simple distinctInner old _ replaced,
          earlier]

end Dotted

/-- Merging a layer records it for exactly those settings for which it gives a value. -/
theorem lookup_note {source : Source} {base layer : Value.Entries} (has : HasSections base)
    (separate : Separate layer)
    (texts : ∀ entry ∈ layer, entry.2.bare ≠ .null → IsText entry.1)
    (sections : ∀ name ∈ sectionNames, IsSectionOrNull layer name) {setting : Setting}
    (undotted : setting.sectionName? ≠ none → ∀ v, (.text setting.name, v) ∈ layer →
      v.bare = .null)
    (sources : Sources)
    (replaced : ∀ v, valueIn layer setting = some v → (∀ inner, v.bare ≠ .map inner) ∨
      ∀ w inner, valueIn base setting = some w → w.bare ≠ .map inner) :
    (note source "" base sources layer).lookup setting.name =
      if (given? (valueIn layer setting)).isSome then some source
      else sources.lookup setting.name := by
  unfold valueIn at replaced ⊢
  unfold Setting.name at undotted ⊢
  cases above : setting.sectionName? with
  | none =>
      simp only [above] at replaced ⊢
      have recorded := lookup_note_key source "" (isSimple_key setting) separate.top base sources
        replaced
      rwa [String.empty_append] at recorded
  | some name =>
      simp only [above] at undotted replaced ⊢
      have isName := sectionName_mem above
      exact lookup_note_section source isName (isSimple_key setting) separate texts
        (sections name isName) (undotted (by simp)) has sources replaced

end MobileAudit.Settings
