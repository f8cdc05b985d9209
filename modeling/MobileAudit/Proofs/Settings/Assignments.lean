import MobileAudit.Proofs.Settings.Breakdown
import MobileAudit.Proofs.Settings.Overlay

namespace MobileAudit.Settings

/-! The layers of variables and arguments.  Each variable and each argument gives a value for one
setting or nothing; of several values for one setting the last one counts. -/

structure Assignment where
  sectionName? : Option String
  key : String
  value : Value

namespace Assignment

def isFor (assignment : Assignment) (setting : Setting) : Bool :=
  assignment.sectionName? == setting.sectionName? && assignment.key == setting.key

theorem isFor_iff {assignment : Assignment} {setting : Setting} :
    assignment.isFor setting = true ↔
      assignment.sectionName? = setting.sectionName? ∧ assignment.key = setting.key := by
  rw [isFor, Bool.and_eq_true, beq_iff_eq, beq_iff_eq]

def setIn (entries : Value.Entries) (assignment : Assignment) : Value.Entries :=
  match assignment.sectionName? with
  | some name => putInSection entries name assignment.key assignment.value
  | none => entries.put (.text assignment.key) assignment.value

def last? (assignments : List Assignment) (setting : Setting) : Option Value :=
  ((assignments.filter (·.isFor setting)).getLast?).map (·.value)

theorem last?_cons (assignment : Assignment) (assignments : List Assignment) (setting : Setting) :
    last? (assignment :: assignments) setting =
      (last? assignments setting).or
        (if assignment.isFor setting then some assignment.value else none) := by
  unfold last?
  rw [List.filter_cons]
  split
  · rw [List.getLast?_cons]
    cases (assignments.filter (·.isFor setting)).getLast? <;> rfl
  · cases (assignments.filter (·.isFor setting)).getLast? <;> rfl

theorem mem_of_last? {assignments : List Assignment} {setting : Setting} {v : Value}
    (found : last? assignments setting = some v) :
    ∃ assignment ∈ assignments, assignment.value = v := by
  obtain ⟨assignment, isLast, rfl⟩ := Option.map_eq_some_iff.mp found
  exact ⟨assignment, (List.mem_filter.mp (List.mem_of_getLast? isLast)).1, rfl⟩

end Assignment

/-- The value that a variable gives, if it is set and makes sense. -/
def Variable.assignment? (environment : Environment) (source : Variable) : Option Assignment :=
  match (environment.lookup source.name).map source.parse with
  | none => none
  | some .null => none
  | some v => some ⟨source.sectionName, source.key, v⟩

theorem Variable.assignment?_eq_some {environment : Environment} {source : Variable}
    {assignment : Assignment} :
    source.assignment? environment = some assignment ↔
      ∃ raw, environment.lookup source.name = some raw ∧ source.parse raw ≠ .null ∧
        assignment = ⟨source.sectionName, source.key, source.parse raw⟩ := by
  unfold Variable.assignment?
  cases environment.lookup source.name with
  | none => simp
  | some raw =>
      cases isValue : source.parse raw <;> simp [isValue, eq_comm]

/-- The value that an argument gives: nothing if it is absent or empty, and `no_cache` counts only
if it holds. -/
def argumentAssignment? (argument : Value × Value) : Option Assignment :=
  if !isGiven argument.2 then none
  else if argument.1.plain == "no_cache" then
    if argument.2.truthy then some ⟨some "cache", "enabled", .bool false⟩ else none
  else (argumentSettings.lookup argument.1.plain).map fun (sectionName, key) =>
    ⟨some sectionName, key, asList argument.2⟩

theorem argumentAssignment?_cases {argument : Value × Value} {assignment : Assignment}
    (found : argumentAssignment? argument = some assignment) :
    isGiven argument.2 = true ∧
      (assignment = ⟨some "cache", "enabled", .bool false⟩ ∨
        ∃ place, argumentSettings.lookup argument.1.plain = some place ∧
          assignment = ⟨some place.1, place.2, asList argument.2⟩) := by
  unfold argumentAssignment? at found
  split at found
  · cases found
  · rename_i given
    rw [Bool.not_eq_true', Bool.not_eq_false] at given
    refine ⟨given, ?_⟩
    split at found
    · split at found
      · cases found
        exact .inl rfl
      · cases found
    · obtain ⟨place, isPlace, rfl⟩ := Option.map_eq_some_iff.mp found
      exact .inr ⟨place, isPlace, rfl⟩

/-! Layers as lists of assignments. -/

theorem overrideWith_eq (environment : Environment) (entries : Value.Entries) (source : Variable) :
    overrideWith environment entries source =
      (source.assignment? environment).elim entries (Assignment.setIn entries) := by
  unfold overrideWith Variable.assignment?
  cases environment.lookup source.name with
  | none => rfl
  | some raw =>
      rw [Option.map_some]
      simp only
      cases source.parse raw <;> rfl

theorem foldl_elim {α : Type} (assignment? : α → Option Assignment) (items : List α)
    (entries : Value.Entries) :
    items.foldl (fun entries item => (assignment? item).elim entries (Assignment.setIn entries))
      entries = (items.filterMap assignment?).foldl Assignment.setIn entries := by
  induction items generalizing entries with
  | nil => rfl
  | cons item items ih =>
      rw [List.foldl_cons, ih, List.filterMap_cons]
      cases assignment? item <;> rfl

theorem overrides_eq (environment : Environment) :
    overrides environment =
      (settingVariables.filterMap (·.assignment? environment)).foldl Assignment.setIn [] := by
  have step : overrideWith environment = fun entries source =>
      (source.assignment? environment).elim entries (Assignment.setIn entries) := by
    funext entries source
    exact overrideWith_eq environment entries source
  rw [overrides, step]
  exact foldl_elim _ _ _

private theorem addArgument_eq_ok {layer result : Value.Entries} {argument : Value × Value}
    (added : addArgument layer argument.1.plain argument.2 = .ok result) :
    result = (argumentAssignment? argument).elim layer (Assignment.setIn layer) := by
  unfold addArgument at added
  unfold argumentAssignment?
  split at added
  · rename_i absent
    cases added
    rw [if_pos absent]
    rfl
  · rename_i present
    rw [if_neg present]
    split at added
    · rename_i isSwitch
      cases added
      rw [if_pos isSwitch]
      cases argument.2.truthy <;> rfl
    · rename_i noSwitch
      rw [if_neg noSwitch]
      split at added
      · rename_i found
        cases added
        rw [found]
        rfl
      · cases added

private theorem foldlM_addArgument {layer : Value.Entries} :
    ∀ (arguments start : Value.Entries),
      arguments.foldlM (fun layer argument => addArgument layer argument.1.plain argument.2) start =
        .ok layer →
      layer = (arguments.filterMap argumentAssignment?).foldl Assignment.setIn start
  | [], start, given => by
      cases given
      rfl
  | argument :: arguments, start, given => by
      rw [List.foldlM_cons] at given
      obtain ⟨next, added, given⟩ := bind_eq_ok.mp given
      rw [foldlM_addArgument arguments next given, addArgument_eq_ok added, ← foldl_elim,
        ← foldl_elim]
      rfl

theorem argumentLayer_eq {arguments layer : Value.Entries}
    (given : argumentLayer arguments = .ok layer) :
    layer = (arguments.filterMap argumentAssignment?).foldl Assignment.setIn [] :=
  foldlM_addArgument arguments [] given

/-! Known settings. -/

/-- An assignment to some setting. -/
def Assignment.IsKnown (assignment : Assignment) : Prop :=
  ∃ setting, assignment.isFor setting = true

theorem exists_setting : ∀ source ∈ settingVariables, ∃ setting : Setting,
    source.sectionName = setting.sectionName? ∧ source.key = setting.key := by
  simp only [settingVariables, List.forall_mem_cons]
  exact ⟨⟨.concurrency, rfl, rfl⟩, ⟨.exclude, rfl, rfl⟩, ⟨.ignoredRules, rfl, rfl⟩,
    ⟨.cacheEnabled, rfl, rfl⟩, ⟨.outputFormat, rfl, rfl⟩, ⟨.quiet, rfl, rfl⟩,
    ⟨.verbose, rfl, rfl⟩, ⟨.logLevel, rfl, rfl⟩, List.forall_mem_nil _⟩

private theorem known_variable {environment : Environment} {assignment : Assignment}
    (member : assignment ∈ settingVariables.filterMap (·.assignment? environment)) :
    assignment.IsKnown := by
  obtain ⟨source, isSource, found⟩ := List.mem_filterMap.mp member
  obtain ⟨_, _, _, rfl⟩ := Variable.assignment?_eq_some.mp found
  obtain ⟨setting, place⟩ := exists_setting source isSource
  exact ⟨setting, Assignment.isFor_iff.mpr place⟩

theorem known_argument {arguments : Value.Entries} {assignment : Assignment}
    (member : assignment ∈ arguments.filterMap argumentAssignment?) : assignment.IsKnown := by
  obtain ⟨argument, _, found⟩ := List.mem_filterMap.mp member
  have known : ∀ place ∈ argumentSettings, ∃ setting : Setting,
      some place.2.1 = setting.sectionName? ∧ place.2.2 = setting.key := by
    simp only [argumentSettings, List.forall_mem_cons]
    exact ⟨⟨.concurrency, rfl, rfl⟩, ⟨.exclude, rfl, rfl⟩, ⟨.ignoredRules, rfl, rfl⟩,
      ⟨.ignoredRules, rfl, rfl⟩, ⟨.cacheEnabled, rfl, rfl⟩, ⟨.cacheFileName, rfl, rfl⟩,
      ⟨.outputFormat, rfl, rfl⟩, ⟨.outputFormat, rfl, rfl⟩, ⟨.verbose, rfl, rfl⟩,
      ⟨.quiet, rfl, rfl⟩, List.forall_mem_nil _⟩
  obtain ⟨_, rfl | ⟨place, isPlace, rfl⟩⟩ := argumentAssignment?_cases found
  · exact ⟨.cacheEnabled, rfl⟩
  · obtain ⟨before, after, isTable, _⟩ := List.lookup_eq_some_iff.mp isPlace
    obtain ⟨setting, isSetting⟩ := known (argument.1.plain, place) (by simp [isTable])
    exact ⟨setting, Assignment.isFor_iff.mpr isSetting⟩

/-- Data whose keys name settings and whose sections are mappings under distinct keys. -/
structure IsLayer (layer : Value.Entries) : Prop where
  named : ∀ entry ∈ layer, ∃ name ∈ settingNames, entry.1 = .text name
  distinct : layer.Distinct
  sections : ∀ name ∈ sectionNames, ∀ v, layer.findText? name = some v →
    ∃ inner : Value.Entries, v = .map inner ∧ inner.Distinct

@[simp] theorem sectionIn_put_self (entries : Value.Entries) (name : String)
    (inner : Value.Entries) :
    sectionIn (entries.put (.text name) (.map inner)) name = inner :=
  sectionIn_eq (Value.Entries.findText?_put_self _ _ _) rfl

theorem sectionIn_put_other (entries : Value.Entries) {name other : String} (v : Value)
    (isOther : name ≠ other) :
    sectionIn (entries.put (.text name) v) other = sectionIn entries other := by
  rw [sectionIn, Value.Entries.findText?_put_other _ _ (by simpa using isOther), ← sectionIn]

namespace IsLayer

theorem nil : IsLayer [] where
  named := List.forall_mem_nil _
  distinct := Value.Entries.distinct_nil
  sections := by rintro name _ v ⟨⟩

variable {layer : Value.Entries} (isLayer : IsLayer layer)

include isLayer

theorem distinct_sectionIn (name : String) (isName : name ∈ sectionNames) :
    (sectionIn layer name).Distinct := by
  cases found : layer.findText? name with
  | none =>
      rw [sectionIn, found]
      exact Value.Entries.distinct_nil
  | some v =>
      obtain ⟨inner, rfl, distinct⟩ := isLayer.sections name isName v found
      rwa [sectionIn_eq found rfl]

theorem separate : Separate layer where
  top := isLayer.distinct
  inside := isLayer.distinct_sectionIn

theorem isSectionOrNull : ∀ name ∈ sectionNames, IsSectionOrNull layer name := by
  intro name isName v found
  obtain ⟨inner, rfl, _⟩ := isLayer.sections name isName v found
  exact .inr ⟨inner, rfl⟩

theorem findText?_unnamed {name : String} (unnamed : name ∉ settingNames) :
    layer.findText? name = none := by
  cases found : layer.findText? name with
  | none => rfl
  | some v =>
      obtain ⟨other, isOther, same⟩ := isLayer.named _ (Value.Entries.mem_of_findText? found)
      cases same
      exact absurd isOther unnamed

theorem putInSection_eq {name : String} (isName : name ∈ sectionNames) (key : String) (v : Value) :
    putInSection layer name key v =
      layer.put (.text name) (.map ((sectionIn layer name).put (.text key) v)) := by
  unfold putInSection
  cases found : layer.findText? name with
  | none =>
      rw [sectionIn, found]
      rfl
  | some w =>
      obtain ⟨inner, rfl, _⟩ := isLayer.sections name isName w found
      rw [sectionIn_eq found rfl]

private theorem put {name : String} (isName : name ∈ settingNames) {v : Value}
    (isSection : name ∈ sectionNames → ∃ inner : Value.Entries, v = .map inner ∧ inner.Distinct) :
    IsLayer (layer.put (.text name) v) where
  named := by
    intro entry member
    obtain old | ⟨_, isKey | ⟨_, old, before⟩⟩ := Value.Entries.mem_put member
    · exact isLayer.named entry old
    · exact ⟨name, isName, isKey⟩
    · exact isLayer.named (entry.1, old) before
  distinct := isLayer.distinct.put _ _
  sections := by
    intro other isOther w found
    by_cases same : name = other
    · subst same
      rw [Value.Entries.findText?_put_self] at found
      cases found
      exact isSection isOther
    · rw [Value.Entries.findText?_put_other _ _ (by simpa using same)] at found
      exact isLayer.sections other isOther w found

theorem setIn {assignment : Assignment} (known : assignment.IsKnown) :
    IsLayer (assignment.setIn layer) := by
  obtain ⟨setting, isFor⟩ := known
  obtain ⟨isSection, isKey⟩ := Assignment.isFor_iff.mp isFor
  unfold Assignment.setIn
  cases above : assignment.sectionName? with
  | some name =>
      rw [above] at isSection
      have isName := sectionName_mem isSection.symm
      simp only
      rw [isLayer.putInSection_eq isName]
      exact isLayer.put (settingName_of_section isName) fun _ =>
        ⟨_, rfl, (isLayer.distinct_sectionIn name isName).put _ _⟩
  | none =>
      rw [above] at isSection
      have isTop := key_of_top isSection.symm
      rw [← isKey] at isTop
      simp only [isTop]
      exact isLayer.put (by decide) fun isSection => absurd isSection (by decide)

private theorem valueIn_setIn {assignment : Assignment} (known : assignment.IsKnown)
    (setting : Setting) :
    valueIn (assignment.setIn layer) setting =
      if assignment.isFor setting then some assignment.value else valueIn layer setting := by
  obtain ⟨target, isFor⟩ := known
  obtain ⟨isSection, isKey⟩ := Assignment.isFor_iff.mp isFor
  simp only [Assignment.isFor_iff]
  unfold Assignment.setIn valueIn
  cases above : assignment.sectionName? with
  | some name =>
      rw [above] at isSection
      have isName := sectionName_mem isSection.symm
      simp only
      rw [isLayer.putInSection_eq isName]
      cases inSection : setting.sectionName? with
      | none =>
          have other : Value.text name ≠ .text setting.key := by
            rw [key_of_top inSection]
            rintro ⟨⟩
            exact absurd isName (by decide)
          simp [Value.Entries.findText?_put_other _ _ other]
      | some other =>
          by_cases same : name = other
          · subst same
            simp only [sectionIn_put_self, true_and]
            by_cases isSame : assignment.key = setting.key
            · rw [if_pos isSame, isSame, Value.Entries.findText?_put_self]
            · rw [if_neg isSame, Value.Entries.findText?_put_other _ _ (by simpa using isSame)]
          · simp [sectionIn_put_other _ _ same, same]
  | none =>
      rw [above] at isSection
      have isTop : assignment.key = "log_level" := isKey.trans (key_of_top isSection.symm)
      simp only [isTop]
      cases inSection : setting.sectionName? with
      | none => simp [key_of_top inSection]
      | some other =>
          have isOther : "log_level" ≠ other := by
            rintro rfl
            exact absurd (sectionName_mem inSection) (by decide)
          simp [sectionIn_put_other _ _ isOther]

/-- Values that are set one after the other: for each setting the last one counts. -/
theorem foldl_setIn {assignments : List Assignment}
    (known : ∀ assignment ∈ assignments, assignment.IsKnown) :
    IsLayer (assignments.foldl Assignment.setIn layer) ∧ ∀ setting,
      valueIn (assignments.foldl Assignment.setIn layer) setting =
        (Assignment.last? assignments setting).or (valueIn layer setting) := by
  induction assignments generalizing layer with
  | nil => exact ⟨isLayer, fun _ => rfl⟩
  | cons assignment assignments ih =>
      rw [List.forall_mem_cons] at known
      obtain ⟨isLast, values⟩ := ih (isLayer.setIn known.1) known.2
      refine ⟨isLast, fun setting => ?_⟩
      rw [List.foldl_cons, values, Assignment.last?_cons, Option.or_assoc,
        isLayer.valueIn_setIn known.1]
      split <;> rfl

end IsLayer

@[simp] theorem valueIn_nil (setting : Setting) : valueIn [] setting = none := by
  cases setting <;> rfl

theorem isLayer_foldl {assignments : List Assignment}
    (known : ∀ assignment ∈ assignments, assignment.IsKnown) :
    IsLayer (assignments.foldl Assignment.setIn []) ∧ ∀ setting,
      valueIn (assignments.foldl Assignment.setIn []) setting =
        Assignment.last? assignments setting := by
  obtain ⟨isLayer, values⟩ := IsLayer.nil.foldl_setIn known
  refine ⟨isLayer, fun setting => ?_⟩
  rw [values, valueIn_nil, Option.or_none]

def variableAssignments (origin : Origin) (query : Query) : List Assignment :=
  if query.useEnvironment then settingVariables.filterMap (·.assignment? origin.environment) else []

theorem known_variableAssignments {origin : Origin} {query : Query} {assignment : Assignment}
    (member : assignment ∈ variableAssignments origin query) : assignment.IsKnown := by
  unfold variableAssignments at member
  split at member
  · exact known_variable member
  · cases member

theorem environmentLayer_eq (origin : Origin) (query : Query) :
    environmentLayer origin query =
      (variableAssignments origin query).foldl Assignment.setIn [] := by
  unfold environmentLayer variableAssignments
  split
  · exact overrides_eq origin.environment
  · rfl

theorem unmapped_variable {origin : Origin} {query : Query} {assignment : Assignment}
    (member : assignment ∈ variableAssignments origin query) (inner : Value.Entries) :
    assignment.value.bare ≠ .map inner := by
  unfold variableAssignments at member
  split at member
  · obtain ⟨source, isSource, found⟩ := List.mem_filterMap.mp member
    obtain ⟨raw, _, _, rfl⟩ := Variable.assignment?_eq_some.mp found
    exact Value.bare_ne_map (isUnmapped_parse source isSource raw) inner
  · cases member

theorem unmapped_argument {arguments : Value.Entries}
    (plain : ∀ argument ∈ arguments, ∀ inner, argument.2.bare ≠ .map inner)
    {assignment : Assignment} (member : assignment ∈ arguments.filterMap argumentAssignment?)
    (inner : Value.Entries) : assignment.value.bare ≠ .map inner := by
  obtain ⟨argument, isArgument, found⟩ := List.mem_filterMap.mp member
  obtain ⟨_, rfl | ⟨place, _, rfl⟩⟩ := argumentAssignment?_cases found
  · exact Value.noConfusion
  · simp only
    unfold asList
    split
    · exact Value.noConfusion
    · exact plain argument isArgument inner

end MobileAudit.Settings
