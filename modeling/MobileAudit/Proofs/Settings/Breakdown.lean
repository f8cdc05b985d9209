import MobileAudit.Proofs.Settings.Merging
import MobileAudit.Proofs.Settings.PlainFile

namespace MobileAudit

/-! Checks of settings that break down.  Whether a check ends with an answer depends on a few values
only: on the keys of the data, on the number of files that are processed at once, and on the lists
of exclusions and ignored rules. -/

/-! Values that cannot be converted. -/

namespace Value

/-- A value that no integer stands for: infinity, and what is neither a number nor a text. -/
def isCountless : Value → Bool
  | null => false
  | bool _ => false
  | int _ => false
  | float x => x.isInfinite
  | text _ => false
  | bytes _ => false
  | _ => true

/-- A value without items, `null` apart, which stands for no items. -/
def isItemless : Value → Bool
  | bool _ => true
  | int _ => true
  | float _ => true
  | date _ => true
  | time _ => true
  | moment _ => true
  | loop _ v => v.isNull || v.isItemless
  | back _ => true
  | _ => false

end Value

namespace Check

namespace Checked

variable {α β : Type}

def isBroken : Checked α → Bool
  | broken _ => true
  | _ => false

@[simp] theorem isBroken_valid (a : α) : (valid a).isBroken = false := rfl

@[simp] theorem isBroken_broken (cause : Breakdown) :
    (broken cause : Checked α).isBroken = true := rfl

@[simp] theorem isBroken_map (f : α → β) (checked : Checked α) :
    (checked.map f).isBroken = checked.isBroken := by
  cases checked <;> rfl

@[simp] theorem isBroken_under (step : String) (checked : Checked α) :
    (checked.under step).isBroken = checked.isBroken := by
  cases checked <;> rfl

@[simp] theorem isBroken_and (first : Checked α) (second : Checked β) :
    (first.and second).isBroken = (first.isBroken || second.isBroken) := by
  cases first <;> cases second <;> rfl

theorem isBroken_bind (checked : Checked α) (next : α → Checked β)
    (whole : ∀ a, (next a).isBroken = false) :
    (checked.bind next).isBroken = checked.isBroken := by
  cases checked with
  | valid a => exact whole a
  | invalid problems => rfl
  | broken cause => rfl

end Checked

open Checked

/-! Single values. -/

@[simp] theorem isBroken_convertText (v : Value) : (convertText v).isBroken = false := by
  unfold convertText
  split <;> rfl

@[simp] theorem isBroken_convertItems (items : List Value) :
    (convertItems items).isBroken = false := by
  induction items with
  | nil => rfl
  | cons v items ih =>
      rw [convertItems, isBroken_bind _ _ fun text => ?_]
      · exact isBroken_convertText v
      · rw [isBroken_map]
        exact ih

@[simp] theorem isBroken_convertedText (text : List Char) (shown : String) :
    (convertedText text shown).isBroken = false := by
  unfold convertedText
  split <;> rfl

private theorem isBroken_convertInteger (v : Value) (present : v.isNull = false) :
    (convertInteger v).isBroken = v.isCountless := by
  cases v with
  | null => cases present
  | text s => exact isBroken_convertedText _ _
  | bytes data => exact isBroken_convertedText _ _
  | float x =>
      rw [convertInteger, Value.isCountless]
      cases nan : x.isNaN with
      | true =>
          have infinite : x.isInfinite = false := by
            simp only [Binary64.isNaN, Binary64.isInfinite, Bool.and_eq_true,
              bne_iff_ne] at nan ⊢
            simp [nan.2]
          rw [infinite]
          rfl
      | false => cases x.isInfinite <;> rfl
  | _ => rfl

private theorem itemsOf?_isNone (v : Value) : (itemsOf? v).isNone = (v.isNull || v.isItemless) := by
  induction v using Value.bare.induct with
  | case1 _ v ih => exact ih
  | case2 v noLoop =>
      cases v with
      | loop label inner => exact absurd rfl (noLoop label inner)
      | _ => rfl

@[simp] theorem isBroken_convertTexts (v : Value) : (convertTexts v).isBroken = v.isItemless := by
  unfold convertTexts
  split
  · rfl
  · rfl
  · rename_i present noText
    have none := itemsOf?_isNone v
    rw [Value.isNull_eq_false present, Bool.false_or] at none
    split
    · rename_i items found
      rw [found] at none
      rw [isBroken_convertItems, ← none]
      rfl
    · rename_i missing
      rw [missing] at none
      rw [← none]
      rfl

@[simp] theorem isBroken_integerOfText (s : String) : (integerOfText s).isBroken = false := by
  unfold integerOfText
  simp only
  split
  · rfl
  · split
    · rfl
    · split <;> rfl

@[simp] theorem isBroken_integer (v : Value) : (integer v).isBroken = false := by
  cases v with
  | float x =>
      rw [integer]
      split
      · rfl
      · split
        · rfl
        · split <;> rfl
  | text s => exact isBroken_integerOfText s
  | bytes data =>
      rw [integer]
      split
      · exact isBroken_integerOfText _
      · rfl
  | _ => rfl

@[simp] theorem isBroken_integerAtLeast (least : Int) (v : Value) :
    (integerAtLeast least v).isBroken = false := by
  rw [integerAtLeast, isBroken_bind _ _ fun n => ?_]
  · exact isBroken_integer v
  · split <;> rfl

@[simp] theorem isBroken_truthOfInteger (n : Int) : (truthOfInteger n).isBroken = false := by
  unfold truthOfInteger
  split
  · rfl
  · split
    · rfl
    · split <;> rfl

@[simp] theorem isBroken_truthOfText (s : String) : (truthOfText s).isBroken = false := by
  unfold truthOfText
  simp only
  split
  · rfl
  · split <;> rfl

@[simp] theorem isBroken_truth (v : Value) : (truth v).isBroken = false := by
  cases v with
  | int n => exact isBroken_truthOfInteger n
  | float x =>
      rw [truth]
      split
      · exact isBroken_truthOfInteger _
      · rfl
  | text s => exact isBroken_truthOfText s
  | bytes data =>
      rw [truth]
      split
      · exact isBroken_truthOfText _
      · rfl
  | _ => rfl

/-! Parts of data. -/

@[simp] theorem isBroken_optional {α : Type} (entries : Value.Entries) (key : String) (fallback : α)
    (check : Value → Checked α) :
    (optional entries [key] fallback check).isBroken =
      (entries.findText? key).any fun v => (check v).isBroken := by
  rw [optional, isBroken_under, fieldValue?, List.findSome?_cons]
  cases entries.findText? key <;> rfl

private theorem isBroken_record {α : Type} (name : String) (fields : Value.Entries → Checked α)
    (v : Value) :
    (record name fields v).isBroken =
      match v.bare with
      | .map entries => (fields entries).isBroken
      | _ => false := by
  unfold record
  cases v.bare <;> rfl

end Check

namespace Settings

open Check Checked Disk

/-! Whole settings. -/

@[simp] theorem isBroken_checkConcurrency (v : Value) :
    (checkConcurrency v).isBroken = v.isCountless := by
  unfold checkConcurrency
  split
  · rfl
  · rename_i present
    rw [isBroken_map, isBroken_convertInteger v (Value.isNull_eq_false present)]

@[simp] theorem isBroken_checkFileName (v : Value) : (checkFileName v).isBroken = false := by
  unfold checkFileName
  split
  · rfl
  · rw [isBroken_bind _ _ fun text => ?_]
    · exact isBroken_convertText v
    · simp only
      split <;> rfl

@[simp] theorem isBroken_checkChoice {α : Type} (label : String) (names : List String)
    (ofName? : String → Option α) (fallback : α) (v : Value) :
    (checkChoice label names ofName? fallback v).isBroken = false := by
  unfold checkChoice
  split
  · rfl
  · rw [isBroken_bind _ _ fun text => ?_]
    · exact isBroken_convertText v
    · split <;> rfl

/-- Whether the section of scans holds a value that its key cannot take. -/
def scanBreaks (entries : Value.Entries) : Bool :=
  (entries.findText? "concurrency").any (·.isCountless) ||
    (entries.findText? "exclude").any (·.isItemless) ||
    (entries.findText? "ignored_rules").any (·.isItemless)

def sectionBreaks (v : Value) : Bool :=
  match v.bare with
  | .map entries => scanBreaks entries
  | _ => false

@[simp] theorem isBroken_scanFields (entries : Value.Entries) :
    (scanFields entries).isBroken = scanBreaks entries := by
  unfold scanFields scanBreaks
  simp only [isBroken_map, isBroken_and, isBroken_optional, isBroken_checkConcurrency,
    isBroken_convertTexts, Bool.or_assoc]

@[simp] theorem isBroken_cacheFields (entries : Value.Entries) :
    (cacheFields entries).isBroken = false := by
  unfold cacheFields
  simp only [isBroken_map, isBroken_and, isBroken_optional, isBroken_truth,
    isBroken_checkFileName, isBroken_integerAtLeast, Option.any_false, Bool.or_self]

@[simp] theorem isBroken_outputFields (entries : Value.Entries) :
    (outputFields entries).isBroken = false := by
  unfold outputFields checkFormat
  simp only [isBroken_map, isBroken_and, isBroken_optional, isBroken_truth,
    isBroken_checkChoice, Option.any_false, Bool.or_self]

private theorem isBroken_fields (entries : Value.Entries) :
    (fields entries).isBroken = (entries.findText? "scan").any sectionBreaks := by
  have scan : ∀ v, (record "ScanSettings" scanFields v).isBroken = sectionBreaks v := by
    intro v
    rw [isBroken_record, sectionBreaks]
    cases v.bare <;> first | rfl | exact isBroken_scanFields _
  have cache : ∀ v, (record "CacheSettings" cacheFields v).isBroken = false := by
    intro v
    rw [isBroken_record]
    cases v.bare <;> first | rfl | exact isBroken_cacheFields _
  have output : ∀ v, (record "OutputSettings" outputFields v).isBroken = false := by
    intro v
    rw [isBroken_record]
    cases v.bare <;> first | rfl | exact isBroken_outputFields _
  unfold fields checkLogLevel
  simp only [isBroken_map, isBroken_and, isBroken_optional, scan, cache, output,
    isBroken_checkChoice, Option.any_false, Bool.or_false]

/-- Whether a value under the key of the sources is taken for sources, or is no pair at all. -/
def sourcesBreak (v : Value) : Bool :=
  match itemsOf? v with
  | none => true
  | some [sources, _] => sources.truthy
  | some _ => false

private theorem isBroken_fromSources (v : Value) : (fromSources v).isBroken = sourcesBreak v := by
  unfold fromSources sourcesBreak
  cases itemsOf? v with
  | none => rfl
  | some items =>
      match items with
      | [] => rfl
      | [_] => rfl
      | [sources, _] =>
          cases truthy : sources.truthy with
          | false => simp only [truthy, Bool.not_false, if_true, isBroken_valid]
          | true =>
              simp only [truthy, Bool.not_true, Bool.false_eq_true, if_false]
              split <;> rfl
      | _ :: _ :: _ :: _ => rfl

/-- Whether the check of data breaks down: a key is no text, the sources of settings are replaced, a
variable for the defaults holds a document that is nested too deep, or the section of scans, merged
over these defaults, holds what it cannot take. -/
def breaksDown (environment : Environment) (data : Value.Entries) : Bool :=
  !textKeys data ||
    match (data.findText? sourcesKey).filter fun v => !v.isNull with
    | some v => sourcesBreak v
    | none =>
        match environmentDefaults environment with
        | .error (.malformed _) => false
        | .error (.tooDeep _) => true
        | .ok defaults =>
            ((mergeEntries defaults (settingEntries data)).findText? "scan").any sectionBreaks

theorem isBroken_check (environment : Environment) (data : Value.Entries) :
    (check environment (.map data)).isBroken = breaksDown environment data := by
  unfold check breaksDown
  cases texts : textKeys data with
  | false => simp only [texts, Bool.not_false, if_true, isBroken_broken, Bool.true_or]
  | true =>
      simp only [texts, Bool.not_true, Bool.false_eq_true, if_false, Bool.false_or]
      cases (Value.Entries.findText? data sourcesKey).filter fun v => !v.isNull with
      | some v => exact isBroken_fromSources v
      | none =>
          cases environmentDefaults environment with
          | error unreadable => cases unreadable <;> rfl
          | ok defaults => exact isBroken_fields _

/-! The layer of the environment has texts for keys. -/

def IsFlat (entries : Value.Entries) : Prop :=
  ∀ entry ∈ entries, (∃ name, entry.1 = .text name) ∧ ∀ inner, entry.2.bare ≠ .map inner

def IsSectioned (entries : Value.Entries) : Prop :=
  ∀ entry ∈ entries, (∃ name, entry.1 = .text name) ∧
    ∀ inner, entry.2.bare = .map inner → IsFlat inner

private theorem IsFlat.put {entries : Value.Entries} {value : Value} (flat : IsFlat entries)
    (name : String) (plain : ∀ inner, value.bare ≠ .map inner) :
    IsFlat (entries.put (.text name) value) := by
  intro entry member
  obtain old | ⟨same, here | ⟨_, before, there⟩⟩ := Value.Entries.mem_put member
  · exact flat entry old
  · rw [here, same]
    exact ⟨⟨name, rfl⟩, plain⟩
  · rw [same]
    exact ⟨(flat _ there).1, plain⟩

theorem IsSectioned.put {entries : Value.Entries} {value : Value} (sectioned : IsSectioned entries)
    (name : String) (flat : ∀ inner, value.bare = .map inner → IsFlat inner) :
    IsSectioned (entries.put (.text name) value) := by
  intro entry member
  obtain old | ⟨same, here | ⟨_, before, there⟩⟩ := Value.Entries.mem_put member
  · exact sectioned entry old
  · rw [here, same]
    exact ⟨⟨name, rfl⟩, flat⟩
  · rw [same]
    exact ⟨(sectioned _ there).1, flat⟩

private theorem IsSectioned.putInSection {entries : Value.Entries} {value : Value}
    (sectioned : IsSectioned entries) (sectionName key : String)
    (plain : ∀ inner, value.bare ≠ .map inner) :
    IsSectioned (putInSection entries sectionName key value) := by
  unfold Settings.putInSection
  split
  · rename_i inner found
    have member := Value.Entries.mem_of_findText? found
    refine sectioned.put sectionName ?_
    rintro _ ⟨⟩
    exact ((sectioned _ member).2 inner rfl).put key plain
  · refine sectioned.put sectionName ?_
    rintro _ ⟨⟩
    intro entry member
    rw [List.mem_singleton.mp member]
    exact ⟨⟨key, rfl⟩, plain⟩

theorem isUnmapped_parse : ∀ source ∈ settingVariables, ∀ raw,
    (source.parse raw).isUnmapped = true := by
  intro source isSource raw
  simp only [settingVariables, List.mem_cons, List.not_mem_nil, or_false] at isSource
  rcases isSource with rfl | rfl | rfl | rfl | rfl | rfl | rfl | rfl
  · simp only [parseCount]
    split <;> rfl
  all_goals rfl

private theorem isSectioned_overrides (environment : Environment) :
    IsSectioned (overrides environment) := by
  have kept : ∀ sources : List Variable, (∀ source ∈ sources, source ∈ settingVariables) →
      ∀ entries, IsSectioned entries →
        IsSectioned (sources.foldl (overrideWith environment) entries) := by
    intro sources
    induction sources with
    | nil => exact fun _ entries sectioned => sectioned
    | cons source sources ih =>
        intro known entries sectioned
        refine ih (fun other member => known other (by simp [member])) _ ?_
        have plain := fun raw =>
          Value.bare_ne_map (isUnmapped_parse source (known source (by simp)) raw)
        unfold overrideWith
        split
        · exact sectioned
        · rename_i raw _
          split
          · exact sectioned
          · split
            · exact sectioned.putInSection _ _ (plain raw)
            · exact sectioned.put _ fun inner isMap => absurd isMap (plain raw inner)
  exact kept settingVariables (fun _ member => member) [] (by simp [IsSectioned])

private theorem named_of_texts {layer : Value.Entries}
    (texts : ∀ entry ∈ layer, (∃ name, entry.1 = .text name) ∧
      ∀ inner, entry.2.bare = .map inner → ∀ base, nameless base inner = false) :
    ∀ base, nameless base layer = false := by
  induction layer with
  | nil => exact fun _ => rfl
  | cons first rest ih =>
      obtain ⟨key, v⟩ := first
      intro base
      obtain ⟨⟨name, isText⟩, inside⟩ := texts (key, v) (by simp)
      rw [nameless, ih (fun entry member => texts entry (by simp [member])), Bool.or_false,
        namelessEntry_bare]
      simp only at isText inside
      subst isText
      cases bare : v.bare with
      | map inner =>
          have named := inside inner bare
          rw [namelessEntry]
          cases (base.find? (.text name)).map Value.bare with
          | none => rfl
          | some found =>
              cases found with
              | map old => exact named old
              | _ => rfl
      | loop label w =>
          exact absurd bare (v.bare_ne_loop label w)
      | _ => rfl

@[simp] theorem named_overrides (environment : Environment) (base : Value.Entries) :
    nameless base (overrides environment) = false := by
  refine named_of_texts ?_ base
  intro entry member
  obtain ⟨text, sections⟩ := isSectioned_overrides environment entry member
  refine ⟨text, ?_⟩
  intro inner isMap
  refine named_of_texts ?_
  intro setting inSection
  obtain ⟨text, plain⟩ := sections inner isMap setting inSection
  exact ⟨text, fun deeper isMap => absurd isMap (plain deeper)⟩

/-! Whole resolutions. -/

/-- An outcome that is a result or an error of the configuration. -/
def IsAnswer {α : Type} (outcome : Except Obstacle α) : Prop :=
  (∃ result, outcome = .ok result) ∨ ∃ error, outcome = .error (.config error)

/-- Whether settings break down, given the layer of their file: the check of the defaults does, a
layer has a nameless setting, or the check of the merged data does. -/
def resolutionBreaks (origin : Origin) (query : Query) (layer : Value.Entries) : Bool :=
  match check origin.environment (.map []) with
  | .broken _ => true
  | .invalid _ => false
  | .valid defaults =>
      nameless defaults.entries layer ||
        let merged := overlay (overlay defaults.entries layer) (environmentLayer origin query)
        match argumentLayer query.arguments with
        | .error _ => false
        | .ok arguments =>
            nameless merged arguments || breaksDown origin.environment (overlay merged arguments)

/-- What decides an outcome that either breaks down or is an answer. -/
def Decides {α : Type} (breaks : Bool) (outcome : Except Obstacle α) : Prop :=
  if breaks then ∃ cause, outcome = .error (.breakdown cause) else IsAnswer outcome

private theorem not_isAnswer {α : Type} (cause : Breakdown) :
    ¬ IsAnswer (.error (.breakdown cause) : Except Obstacle α) := by
  rintro (⟨_, isOk⟩ | ⟨_, isError⟩)
  · cases isOk
  · cases isError

theorem Decides.isAnswer_iff {α : Type} {breaks : Bool} {outcome : Except Obstacle α}
    (decides : Decides breaks outcome) : IsAnswer outcome ↔ breaks = false := by
  cases breaks with
  | false => exact ⟨fun _ => rfl, fun _ => decides⟩
  | true =>
      obtain ⟨cause, failed⟩ := decides
      rw [failed]
      exact ⟨fun answer => absurd answer (not_isAnswer cause), fun whole => by cases whole⟩

theorem Decides.map {α β : Type} {breaks : Bool} {outcome : Except Obstacle α} (f : α → β)
    (decides : Decides breaks outcome) : Decides breaks (outcome.map f) := by
  cases breaks with
  | true =>
      obtain ⟨cause, failed⟩ := decides
      rw [failed]
      exact ⟨cause, rfl⟩
  | false =>
      obtain ⟨result, isOk⟩ | ⟨error, isError⟩ := decides
      · rw [isOk]
        exact .inl ⟨f result, rfl⟩
      · rw [isError]
        exact .inr ⟨error, rfl⟩

private theorem decides_checked (environment : Environment) (data : Value.Entries) :
    Decides (breaksDown environment data) (checked environment data) := by
  rw [← isBroken_check]
  unfold checked
  cases check environment (.map data) with
  | valid settings => exact .inl ⟨settings, rfl⟩
  | invalid problems => exact .inr ⟨_, rfl⟩
  | broken cause => exact ⟨cause, rfl⟩

@[simp] theorem named_environmentLayer (origin : Origin) (query : Query) (base : Value.Entries) :
    nameless base (environmentLayer origin query) = false := by
  unfold environmentLayer
  split
  · exact named_overrides origin.environment base
  · rfl

/-- Given the layer of the file, settings are found or refused, or a check breaks down. -/
theorem decides_resolve {origin : Origin} {query : Query} {file : Option Path}
    {layer : Value.Entries} (chosen : chooseFile origin query = .ok file)
    (read : fileLayer origin file = .ok layer) :
    Decides (resolutionBreaks origin query layer) (resolve origin query) := by
  unfold resolve resolutionBreaks
  rw [checked]
  cases check origin.environment (.map []) with
  | broken cause => exact ⟨cause, rfl⟩
  | invalid problems => exact .inr ⟨_, rfl⟩
  | valid defaults =>
      simp only [chosen, read, Bind.bind, Except.bind, withLayer_eq]
      cases nameless defaults.entries layer with
      | true => exact ⟨_, rfl⟩
      | false =>
          simp only [Draft.overlaid, named_environmentLayer, Bool.false_eq_true, if_false,
            Bool.false_or]
          generalize overlay (overlay defaults.entries layer) (environmentLayer origin query)
            = merged
          cases argumentLayer query.arguments with
          | error error => exact .inr ⟨error, rfl⟩
          | ok arguments =>
              have given : (Except.ok arguments : Except ConfigError Value.Entries).mapError
                Obstacle.config = .ok arguments := rfl
              simp only [given]
              cases nameless merged arguments with
              | true => exact ⟨_, rfl⟩
              | false => exact (decides_checked origin.environment _).map _

private theorem answers_validateFile {fs : FileSystem} {path : Path} {entries : Value.Entries}
    (environment : Environment) (read : fileEntries fs path = .ok entries) :
    (∃ messages, validateFile fs environment path = .ok messages) ↔
      breaksDown environment entries = false := by
  rw [← isBroken_check]
  unfold validateFile
  rw [read]
  simp only
  cases check environment (.map entries) with
  | valid settings => exact ⟨fun _ => rfl, fun _ => ⟨[], rfl⟩⟩
  | invalid problems => exact ⟨fun _ => rfl, fun _ => ⟨_, rfl⟩⟩
  | broken cause =>
      constructor
      · rintro ⟨_, isOk⟩
        cases isOk
      · exact fun whole => by cases whole

/-- A variable for the section of the cache whose document is nested too deep breaks every check
down that looks at the defaults. -/
theorem environmentDefaults_tooDeep {raw : String} {container : Json.Container} {left : Nat}
    (deep : Json.read raw = .error ⟨.tooDeep container, left⟩) :
    environmentDefaults [("MOBSENTRY_CACHE", raw)] = .error (.tooDeep container) := by
  have document : readDocument "cache" raw = .error (.tooDeep container) := by
    rw [readDocument, deep]
  have folded : foldNames [("MOBSENTRY_CACHE", raw)] = [("mobsentry_cache", raw)] := rfl
  rw [environmentDefaults, folded]
  simp [sectionKeys, sectionDefault, document, nestedEntries]
  rfl

end Settings

end MobileAudit
