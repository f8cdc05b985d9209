import MobileAudit.Proofs.Json.Range
import MobileAudit.Proofs.Settings.Background

namespace MobileAudit.Settings

/-! The variables behind the settings.  The defaults of the environment come from the variables of
certain names, in any case, and from nothing else in it. -/

/-- Whether variables of a name in lower case give defaults: a section, a key of a section, or the
log level. -/
def isBackground (name : String) : Bool :=
  name == "mobsentry_log_level" ||
    sectionNames.any fun above =>
      name == "mobsentry_" ++ above ||
        ("mobsentry_".toList ++ above.toList ++ ['_', '_']).isPrefixOf name.toList

/-- The variables that give defaults. -/
def background (environment : Environment) : Environment :=
  environment.filter fun entry => isBackground (Text.lower entry.1)

private theorem isBackground_section {above : String} (isName : above ∈ sectionNames) :
    isBackground ("mobsentry_" ++ above) = true := by
  rw [isBackground, Bool.or_eq_true, List.any_eq_true]
  exact .inr ⟨above, isName, by simp⟩

private theorem isBackground_nested {above name : String} (isName : above ∈ sectionNames)
    (leads : ("mobsentry_".toList ++ above.toList ++ ['_', '_']).isPrefixOf name.toList = true) :
    isBackground name = true := by
  rw [isBackground, Bool.or_eq_true, List.any_eq_true]
  exact .inr ⟨above, isName, by rw [leads, Bool.or_true]⟩

/-! Variables under kept names. -/

section Kept

variable (kept : String → Bool)

theorem lookup_filter {name : String} (isKept : kept name = true) (environment : Environment) :
    (environment.filter fun entry => kept entry.1).lookup name = environment.lookup name := by
  induction environment with
  | nil => rfl
  | cons entry rest ih =>
      obtain ⟨other, raw⟩ := entry
      by_cases same : name = other
      · subst same
        rw [List.filter_cons, if_pos isKept, List.lookup_cons_self, List.lookup_cons_self]
      · have differs : (name == other) = false := beq_eq_false_iff_ne.mpr same
        rw [List.filter_cons]
        split
        · simp only [List.lookup_cons, differs, ih]
        · simp only [List.lookup_cons, differs, ih]

private theorem filter_putVariable (name raw : String) (environment : Environment) :
    ((putVariable name raw environment).filter fun entry => kept entry.1) =
      if kept name then putVariable name raw (environment.filter fun entry => kept entry.1)
      else environment.filter fun entry => kept entry.1 := by
  induction environment with
  | nil =>
      rw [putVariable, List.filter_cons]
      rfl
  | cons entry rest ih =>
      obtain ⟨other, old⟩ := entry
      rw [putVariable]
      by_cases same : other = name
      · subst same
        simp only [beq_self_eq_true, if_true, List.filter_cons]
        cases kept other with
        | true => simp [putVariable]
        | false => rfl
      · have differs : (other == name) = false := beq_eq_false_iff_ne.mpr same
        simp only [differs, Bool.false_eq_true, if_false, List.filter_cons, ih]
        cases kept name with
        | false => rfl
        | true => cases kept other <;> simp [putVariable, differs]

theorem foldNames_filter (environment : Environment) :
    foldNames (environment.filter fun entry => kept (Text.lower entry.1)) =
      (foldNames environment).filter fun entry => kept entry.1 := by
  let step (folded : Environment) (entry : String × String) : Environment :=
    putVariable (Text.lower entry.1) entry.2 folded
  have folds : ∀ folded : Environment,
      (environment.filter fun entry => kept (Text.lower entry.1)).foldl step
          (folded.filter fun entry => kept entry.1) =
        (environment.foldl step folded).filter fun entry => kept entry.1 := by
    induction environment with
    | nil => exact fun _ => rfl
    | cons entry rest ih =>
        intro folded
        rw [List.foldl_cons, ← ih, filter_putVariable, List.filter_cons]
        split
        · rw [List.foldl_cons]
        · rfl
  exact folds []

end Kept

/-! Defaults. -/

private theorem nestedEntries_background {above : String} (isName : above ∈ sectionNames)
    (folded : Environment) (entries : Value.Entries) :
    nestedEntries above (folded.filter fun entry => isBackground entry.1) entries =
      nestedEntries above folded entries := by
  induction folded generalizing entries with
  | nil => rfl
  | cons entry rest ih =>
      obtain ⟨name, raw⟩ := entry
      rw [List.filter_cons]
      split
      · simp only [nestedEntries, ih]
      · rename_i other
        have apart : ¬ ("mobsentry_".toList ++ above.toList ++ ['_', '_']).isPrefixOf
            name.toList = true := fun leads => other (isBackground_nested isName leads)
        rw [ih, nestedEntries]
        exact (if_neg apart).symm

theorem sectionDefault_background {above : String} (isName : above ∈ sectionNames)
    (folded : Environment) (keys : List String) :
    sectionDefault (folded.filter fun entry => isBackground entry.1) above keys =
      sectionDefault folded above keys := by
  unfold sectionDefault
  rw [nestedEntries_background isName, lookup_filter _ (isBackground_section isName)]

theorem environmentDefaults_background (environment : Environment) :
    environmentDefaults (background environment) = environmentDefaults environment := by
  have scan := sectionDefault_background (show "scan" ∈ sectionNames by decide)
    (foldNames environment)
  have cache := sectionDefault_background (show "cache" ∈ sectionNames by decide)
    (foldNames environment)
  have output := sectionDefault_background (show "output" ∈ sectionNames by decide)
    (foldNames environment)
  have level := lookup_filter isBackground (show isBackground "mobsentry_log_level" = true from rfl)
    (foldNames environment)
  unfold environmentDefaults
  simp only [background, foldNames_filter, sectionKeys, List.foldlM_cons, List.foldlM_nil, scan,
    cache, output, level]

theorem readDocument_eq_ok {sectionName raw : String} {v : Value} :
    readDocument sectionName raw = .ok v ↔ Json.read? raw = some v := by
  unfold readDocument Json.read?
  cases Json.read raw with
  | ok w => simp [Except.toOption]
  | error failure =>
      split <;> simp_all [Except.toOption]

private theorem sectionDefault_bare {folded : Environment} {above : String} {keys : List String}
    {v : Value}
    (isDefault : sectionDefault folded above keys = .ok (some v)) : v.bare = v := by
  unfold sectionDefault at isDefault
  simp only at isDefault
  split at isDefault
  · split at isDefault
    · cases isDefault
    · cases isDefault
    · cases isDefault
      rfl
  · split at isDefault
    · cases isDefault
    · cases isDefault
    · split at isDefault
      · cases isDefault
      · cases isDefault
        rfl
    · rename_i isRead
      cases isDefault
      exact Json.read?_bare (readDocument_eq_ok.mp isRead)

private theorem findText?_of_put {name : String} {entries defaults : Value.Entries}
    {v? : Option Value}
    (isPut : (match v? with
      | some v => pure (Value.Entries.put (.text name) v entries)
      | none => pure entries : Except Unreadable Value.Entries) = .ok defaults) (other : String) :
    defaults.findText? other =
      if name = other then v?.or (entries.findText? other) else entries.findText? other := by
  cases v? with
  | none =>
      cases isPut
      rw [Option.none_or, ite_self]
  | some v =>
      cases isPut
      rw [Value.Entries.findText?_put, Value.sameKey, Option.some_or]
      by_cases same : name = other
      · simp [same]
      · simp [same]

theorem findText?_environmentDefaults {environment : Environment} {defaults : Value.Entries}
    (isDefault : environmentDefaults environment = .ok defaults) :
    (∀ place ∈ sectionKeys,
      sectionDefault (foldNames environment) place.1 place.2 =
        .ok (defaults.findText? place.1)) ∧
      defaults.findText? "log_level" =
        ((foldNames environment).lookup "mobsentry_log_level").map .text := by
  unfold environmentDefaults at isDefault
  simp only [sectionKeys, List.foldlM_cons, List.foldlM_nil, bind_eq_ok] at isDefault
  obtain ⟨sections, ⟨_, ⟨scan, isScan, putScan⟩, _, ⟨cache, isCache, putCache⟩, _,
    ⟨output, isOutput, putOutput⟩, last⟩, isDefault⟩ := isDefault
  cases last
  have level : ∀ name, defaults.findText? name = if "log_level" = name then
      (((foldNames environment).lookup "mobsentry_log_level").map .text).or
        (sections.findText? name) else sections.findText? name := by
    refine findText?_of_put ?_
    cases lookup : (foldNames environment).lookup "mobsentry_log_level" with
    | none =>
        rw [lookup] at isDefault
        exact isDefault
    | some raw =>
        rw [lookup] at isDefault
        exact isDefault
  have noEntries : ∀ name, Value.Entries.findText? [] name = none := fun _ => rfl
  simp only [findText?_of_put putOutput, findText?_of_put putCache, findText?_of_put putScan,
    noEntries] at level
  constructor
  · intro place isPlace
    simp only [sectionKeys, List.mem_cons, List.not_mem_nil, or_false] at isPlace
    rcases isPlace with rfl | rfl | rfl
    · simp [isScan, level]
    · simp [isCache, level]
    · simp [isOutput, level]
  · simp [level]

theorem exists_environmentDefaults {environment : Environment}
    (given : ∀ place ∈ sectionKeys,
      ∃ v?, sectionDefault (foldNames environment) place.1 place.2 = .ok v?) :
    ∃ defaults, environmentDefaults environment = .ok defaults := by
  simp only [sectionKeys, List.forall_mem_cons] at given
  obtain ⟨⟨scan, isScan⟩, ⟨cache, isCache⟩, ⟨output, isOutput⟩, _⟩ := given
  unfold environmentDefaults
  simp only [sectionKeys, List.foldlM_cons, List.foldlM_nil, isScan, isCache, isOutput]
  cases scan <;> cases cache <;> cases output <;>
    cases (foldNames environment).lookup "mobsentry_log_level" <;> exact ⟨_, rfl⟩

theorem behind?_eq {environment : Environment} {defaults : Value.Entries}
    (isDefault : environmentDefaults environment = .ok defaults) (setting : Setting) :
    behind? defaults setting = valueIn defaults setting := by
  unfold behind? valueIn
  cases above : setting.sectionName? with
  | none => rfl
  | some name =>
      obtain ⟨place, isPlace, rfl⟩ := List.mem_map.mp (sectionName_mem above)
      have isSection := (findText?_environmentDefaults isDefault).1 place isPlace
      simp only
      cases found : defaults.findText? place.1 with
      | none =>
          rw [sectionIn, found]
          rfl
      | some v =>
          rw [found] at isSection
          rw [sectionIn, found, Option.map_some, Option.getD_some, sectionDefault_bare isSection]
          cases v <;> rfl

end MobileAudit.Settings
