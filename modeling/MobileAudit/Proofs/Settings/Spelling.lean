import Mathlib.Data.List.Nodup
import MobileAudit.Proofs.Settings.Isolation
import MobileAudit.Proofs.Settings.StrayVariables
import MobileAudit.Proofs.Text.Ascii

namespace MobileAudit

/-! The same text for a setting in a file and in its variable.  What is accepted in a file means the
same in the variable, but for the one-letter words for truth, which only files know. -/

/-! Texts without blanks. -/

namespace Text

def blankCodes : List Nat :=
  [0x09, 0x0a, 0x0b, 0x0c, 0x0d, 0x1c, 0x1d, 0x1e, 0x1f, 0x20, 0x85, 0xa0, 0x1680, 0x2000, 0x2001,
    0x2002, 0x2003, 0x2004, 0x2005, 0x2006, 0x2007, 0x2008, 0x2009, 0x200a, 0x2028, 0x2029, 0x202f,
    0x205f, 0x3000]

private theorem toNat_mem_blankCodes {c : Char} (space : isSpace c = true) :
    c.toNat ∈ blankCodes := by
  simp only [isSpace, Bool.or_eq_true, Bool.and_eq_true, decide_eq_true_eq, beq_iff_eq] at space
  simp only [blankCodes, List.mem_cons, List.not_mem_nil, or_false]
  omega

private theorem lowerChar_of_isSpace {c : Char} (space : isSpace c = true) : lowerChar c = c := by
  have blanks : ∀ code ∈ blankCodes, lowerChar (Char.ofNat code) = Char.ofNat code := by
    decide +kernel
  have kept := blanks _ (toNat_mem_blankCodes space)
  rwa [Char.ofNat_toNat] at kept

/-- Blanks stay where a text is lower-cased. -/
theorem mem_lowerFrom_of_isSpace {text : List Char} {c : Char} (member : c ∈ text)
    (space : isSpace c = true) (before : List Char) : c ∈ lowerFrom before text := by
  induction text generalizing before with
  | nil => cases member
  | cons d rest ih =>
      rw [List.mem_cons] at member
      obtain rfl | later := member
      · have noSigma : c ≠ capitalSigma := by
          rintro rfl
          exact absurd space (by decide)
        have noDotted : c ≠ capitalDottedI := by
          rintro rfl
          exact absurd space (by decide)
        rw [lowerFrom_cons noSigma noDotted, lowerChar_of_isSpace space]
        exact List.mem_cons_self
      · rw [lowerFrom, List.mem_append]
        exact .inr (ih later _)

private theorem trimText_eq_self {text : String} (noSpace : ∀ c ∈ text.toList, isSpace c = false) :
    trimText text = text := by
  rw [trimText, trim_eq_self noSpace, String.ofList_toList]

/-- A text whose lower-case form has no blanks has none to trim. -/
theorem trimText_of_lower {text : String} (noSpace : (lower text).toList.any isSpace = false) :
    trimText text = text := by
  refine trimText_eq_self fun c member => ?_
  by_contra space
  rw [Bool.not_eq_false] at space
  have kept : c ∈ (lower text).toList := by
    rw [lower, String.toList_ofList]
    exact mem_lowerFrom_of_isSpace member space []
  exact List.any_eq_false.mp noSpace c kept space

end Text

namespace Settings

open Check Checked Disk

/-! Words. -/

theorem checkChoice_text_eq_valid {α : Type} {label : String} {names : List String}
    {ofName? : String → Option α} {fallback choice : α} {raw : String} :
    checkChoice label names ofName? fallback (.text raw) = .valid choice ↔
      ofName? (Text.lower raw) = some choice := by
  unfold checkChoice
  simp only [convertText_text, Checked.bind]
  cases ofName? (Text.lower raw) <;> simp [flawed]

/-- A text that names a choice in any case is that name, once it is trimmed and lower-cased. -/
theorem parseWord_eq {α : Type} {choices : List α} {name : α → String}
    (noSpace : ∀ choice ∈ choices, (name choice).toList.any Text.isSpace = false)
    {raw : String} {choice : α}
    (named : choices.find? (fun choice => name choice == Text.lower raw) = some choice) :
    parseWord raw = .text (name choice) := by
  have lowered := List.find?_some named
  rw [beq_iff_eq] at lowered
  have trimmed : Text.trimText raw = raw := by
    refine Text.trimText_of_lower ?_
    rw [← lowered]
    exact noSpace choice (List.mem_of_find?_eq_some named)
  rw [parseWord, trimmed, lowered]

private theorem parseWord_format {raw : String} {format : OutputFormat}
    (passed : checkFormat (.text raw) = .valid format) :
    parseWord raw = Setting.outputFormat.write format :=
  parseWord_eq (by decide +kernel) (checkChoice_text_eq_valid.mp passed)

private theorem parseWord_level {raw : String} {level : LogLevel}
    (passed : checkLogLevel (.text raw) = .valid level) :
    parseWord raw = Setting.logLevel.write level :=
  parseWord_eq (by decide +kernel) (checkChoice_text_eq_valid.mp passed)

/-! Switches. -/

def lowerAscii (c : Char) : Char := if c.toNat < 0x80 then Text.lowerChar c else c

theorem mem_truthWords {b : Bool} {word : String}
    (member : word ∈ if b then trueWords else falseWords) : word ∈ trueWords ++ falseWords := by
  rw [List.mem_append]
  cases b with
  | true => exact .inl member
  | false => exact .inr member

theorem truthWords_ascii : ∀ word ∈ trueWords ++ falseWords,
    word.toList.all (fun c => c.toNat < 0x80) = true ∧ word.toList.any Text.isSpace = false := by
  decide +kernel

private theorem word_of_truth {raw : String} {b : Bool} (passed : truthOfText raw = .valid b) :
    Text.lower raw ∈ if b then trueWords else falseWords := by
  obtain ⟨word, isWord, member⟩ : ∃ word, word = String.ofList (raw.toList.map lowerAscii) ∧
      word ∈ if b then trueWords else falseWords := by
    refine ⟨_, rfl, ?_⟩
    unfold truthOfText at passed
    simp only at passed
    split at passed
    · rename_i isFalse
      cases passed
      exact List.contains_iff_mem.mp isFalse
    · split at passed
      · rename_i isTrue
        cases passed
        exact List.contains_iff_mem.mp isTrue
      · cases passed
  -- A letter from U+0080 on would have stayed, and no word has one.
  have ascii : ∀ c ∈ raw.toList, c.toNat < 0x80 := by
    intro c isLetter
    by_contra wide
    have kept : lowerAscii c ∈ word.toList := by
      rw [isWord, String.toList_ofList]
      exact List.mem_map_of_mem isLetter
    rw [lowerAscii, if_neg wide] at kept
    have letters := (truthWords_ascii word (mem_truthWords member)).1
    exact wide (of_decide_eq_true (List.all_eq_true.mp letters c kept))
  have same : Text.lower raw = word := by
    rw [Text.lower, Text.lowerChars, Text.lowerFrom_ascii ascii, isWord]
    refine congrArg String.ofList (List.map_congr_left fun c isLetter => ?_)
    rw [lowerAscii, if_pos (ascii c isLetter)]
  rwa [same]

/-- The words that stand for truth in a file only. -/
def shortTruths : List String := ["t", "y"]

theorem parseSwitch_eq {raw : String} {b : Bool} (passed : truthOfText raw = .valid b) :
    parseSwitch raw = .bool (b && !shortTruths.contains (Text.lower raw)) := by
  have member := word_of_truth passed
  have noSpace := (truthWords_ascii _ (mem_truthWords member)).2
  rw [parseSwitch, Text.trimText_of_lower noSpace]
  generalize Text.lower raw = word at member
  cases b with
  | true =>
      have words : ∀ word ∈ trueWords,
          switchWords.contains word = !shortTruths.contains word := by decide
      rw [words word member]
      rfl
  | false =>
      have words : ∀ word ∈ falseWords, switchWords.contains word = false := by decide
      rw [words word member]
      rfl

/-! Variables and their settings. -/

/-- What a file holds that gives nothing but a text for the setting of a variable. -/
def Variable.stated (source : Variable) (raw : String) : Value.Entries :=
  Assignment.setIn [] ⟨source.sectionName, source.key, .text raw⟩

/-- What a variable makes of the settings that a file with its text gives: a word for truth that
only files know leaves a switch off. -/
def Variable.settled (source : Variable) (raw : String) (settings : Settings) : Settings :=
  if shortTruths.contains (Text.lower raw) then
    if source.key == "quiet" then { settings with output.quiet := false }
    else if source.key == "verbose" then { settings with output.verbose := false }
    else settings
  else settings

theorem parseCount_eq {raw : String} {n : Int}
    (passed : convertInteger (.text raw) = .valid n) : parseCount raw = .int n := by
  simp only [convertInteger, convertedText] at passed
  unfold parseCount Number.convert?
  cases converted : Number.convert raw.toList with
  | integer m =>
      simp only [converted] at passed
      cases passed
      rfl
  | _ =>
      simp only [converted] at passed
      cases passed

private theorem exists_settled {source : Variable} (isSource : source ∈ settingVariables)
    (noCache : source.name ≠ "MOBSENTRY_CACHE") {setting : Setting}
    (isKey : source.key = setting.key) {raw : String} {a : setting.Kind}
    (passed : setting.check (.text raw) = .valid a) :
    source.parse raw ≠ .null ∧ ∃ b, setting.check (source.parse raw) = .valid b ∧
      ∀ settings, setting.put settings b = source.settled raw (setting.put settings a) := by
  simp only [settingVariables, List.mem_cons, List.not_mem_nil, or_false] at isSource
  rcases isSource with rfl | rfl | rfl | rfl | rfl | rfl | rfl | rfl
  · obtain rfl : setting = .concurrency := Setting.key_injective isKey.symm
    obtain ⟨n, isInteger, isMax⟩ := map_eq_valid.mp passed
    simp only [parseCount_eq isInteger]
    exact ⟨Value.noConfusion, a, congrArg Checked.valid isMax, fun _ => (ite_self _).symm⟩
  · obtain rfl : setting = .exclude := Setting.key_injective isKey.symm
    cases passed
    exact ⟨Value.noConfusion, _, convertItems_texts _, fun _ => (ite_self _).symm⟩
  · obtain rfl : setting = .ignoredRules := Setting.key_injective isKey.symm
    cases passed
    exact ⟨Value.noConfusion, _, convertItems_texts _, fun _ => (ite_self _).symm⟩
  · exact absurd rfl noCache
  · obtain rfl : setting = .outputFormat := Setting.key_injective isKey.symm
    simp only [parseWord_format passed]
    exact ⟨Value.noConfusion, a, check_write passed, fun _ => (ite_self _).symm⟩
  · obtain rfl : setting = .quiet := Setting.key_injective isKey.symm
    simp only [parseSwitch_eq passed]
    refine ⟨Value.noConfusion, _, rfl, fun settings => ?_⟩
    unfold Variable.settled
    cases shortTruths.contains (Text.lower raw) <;> cases a <;> rfl
  · obtain rfl : setting = .verbose := Setting.key_injective isKey.symm
    simp only [parseSwitch_eq passed]
    refine ⟨Value.noConfusion, _, rfl, fun settings => ?_⟩
    unfold Variable.settled
    cases shortTruths.contains (Text.lower raw) <;> cases a <;> rfl
  · obtain rfl : setting = .logLevel := Setting.key_injective isKey.symm
    simp only [parseWord_level passed]
    exact ⟨Value.noConfusion, a, check_write passed, fun _ => (ite_self _).symm⟩

/-! Variables alone. -/

/-- An environment in which a variable is set, and no other variable for a setting.  No other
variable gives defaults either. -/
structure SetsOnly (environment : Environment) (source : Variable) (raw : String) : Prop where
  value : environment.lookup source.name = some raw
  others : ∀ other ∈ settingVariables, other.name ≠ source.name →
    environment.lookup other.name = none
  behind : (background environment).Sublist [(source.name, raw)]

private theorem variable_ext {first second : Variable} (isFirst : first ∈ settingVariables)
    (isSecond : second ∈ settingVariables) (same : first.name = second.name) : first = second :=
  List.inj_on_of_nodup_map (show (settingVariables.map (·.name)).Nodup by decide) isFirst isSecond
    same

theorem SetsOnly.variableValue?_eq {environment : Environment} {source : Variable} {raw : String}
    (only : SetsOnly environment source raw) (isSource : source ∈ settingVariables)
    (stated : source.parse raw ≠ .null) {setting : Setting}
    (isSection : source.sectionName = setting.sectionName?) (isKey : source.key = setting.key)
    (other : Setting) :
    variableValue? environment other =
      if other = setting then some (source.parse raw) else none := by
  have sole : ∀ {v}, variableValue? environment other = some v →
      other = setting ∧ v = source.parse raw := by
    intro v found
    obtain ⟨given, isGiven, _, isOther, text, isSet, rfl, _⟩ := exists_variable found
    have same : given = source := by
      by_contra differs
      have unset := only.others given isGiven fun same =>
        differs (variable_ext isGiven isSource same)
      cases unset.symm.trans isSet
    subst same
    cases only.value.symm.trans isSet
    exact ⟨Setting.key_injective (isOther.symm.trans isKey), rfl⟩
  cases found : variableValue? environment other with
  | some v =>
      obtain ⟨same, rfl⟩ := sole found
      rw [if_pos same]
  | none =>
      rw [if_neg]
      rintro rfl
      have given : (⟨source.sectionName, source.key, source.parse raw⟩ : Assignment) ∈
          (settingVariables.filterMap (·.assignment? environment)).filter (·.isFor other) :=
        List.mem_filter.mpr ⟨List.mem_filterMap.mpr ⟨source, isSource,
          Variable.assignment?_eq_some.mpr ⟨raw, only.value, stated, rfl⟩⟩,
          Assignment.isFor_iff.mpr ⟨isSection, isKey⟩⟩
      unfold variableValue? Assignment.last? at found
      rw [Option.map_eq_none_iff, List.getLast?_eq_none_iff] at found
      rw [found] at given
      cases given

/-- With no more than a variable behind them whose text makes sense in a file, the standard settings
are the built-in ones, but for the setting of the variable. -/
theorem exists_standard {source : Variable} (isSource : source ∈ settingVariables)
    (noCache : source.name ≠ "MOBSENTRY_CACHE") {setting : Setting}
    (isKey : source.key = setting.key) {raw : String} {a : setting.Kind}
    (passed : setting.check (.text raw) = .valid a) {environment : Environment}
    (behind : (background environment).Sublist [(source.name, raw)]) :
    ∃ standard, check environment (.map []) = .valid standard ∧
      ∀ other, other ≠ setting → other.of standard = other.fallback := by
  simp only [check_nil_eq_valid]
  rw [← environmentDefaults_background]
  obtain none | sole := List.sublist_singleton.mp behind
  · rw [none]
    exact ⟨{}, ⟨[], rfl, rfl⟩, fun _ _ => rfl⟩
  · have isLevel : source.name = "MOBSENTRY_LOG_LEVEL" ∧ source.key = "log_level" := by
      have names : ∀ source ∈ settingVariables, isBackground (Text.lower source.name) = true →
          source.name = "MOBSENTRY_CACHE" ∨
            source.name = "MOBSENTRY_LOG_LEVEL" ∧ source.key = "log_level" := by
        decide +kernel
      have member : (source.name, raw) ∈ background environment := by simp [sole]
      exact (names source isSource (List.mem_filter.mp member).2).resolve_left noCache
    obtain rfl : setting = .logLevel := Setting.key_injective (isKey.symm.trans isLevel.2)
    rw [sole, isLevel.1]
    refine ⟨{ logLevel := a }, ⟨[(.text "log_level", .text raw)], rfl, ?_⟩, fun other differs => ?_⟩
    · refine fields_eq_valid.mpr ⟨fun name isName v found => ?_, fun setting => ?_⟩
      · rw [findText?_singleton] at found
        split at found
        · rename_i same
          exact absurd (same ▸ isName) (by decide)
        · cases found
      · cases setting with
        | logLevel => exact passed
        | _ => rfl
    · cases other with
      | logLevel => exact absurd rfl differs
      | _ => rfl

/-! Files and variables. -/

/-- A query that comes to a file with nothing but a text for the setting of a variable.  It leaves
the environment aside, which gives no defaults unless by that variable with the same text. -/
structure IsOfFile (origin : Origin) (query : Query) (source : Variable) (raw : String) :
    Prop where
  aside : query.useEnvironment = false
  behind : (background origin.environment).Sublist [(source.name, raw)]
  noArguments : query.arguments = []
  read : ∃ path, chooseFile origin query = .ok (some path) ∧
    fileEntries origin.fs path = .ok (source.stated raw)

/-- A query that comes to no file, in an environment that sets only a variable. -/
structure IsOfVariable (origin : Origin) (query : Query) (source : Variable) (raw : String) :
    Prop where
  used : query.useEnvironment = true
  only : SetsOnly origin.environment source raw
  noArguments : query.arguments = []
  noFile : chooseFile origin query = .ok none

section Queries

variable {origin : Origin} {query : Query} {source : Variable} {raw : String}

private theorem decided_stated {setting : Setting}
    (isSection : source.sectionName = setting.sectionName?)
    (isKey : source.key = setting.key) (raw : String) (standard : Settings) :
    Decided (Draft.overlaid ⟨standard.entries, []⟩ .configFile (source.stated raw)) fun other =>
      if other = setting then (.configFile, .text raw)
      else (.default, other.write (other.of standard)) := by
  let assignment : Assignment := ⟨source.sectionName, source.key, .text raw⟩
  have isFor : ∀ other, assignment.isFor other = true ↔ other = setting := by
    intro other
    rw [Assignment.isFor_iff]
    constructor
    · exact fun place => Setting.key_injective (place.2.symm.trans isKey)
    · rintro rfl
      exact ⟨isSection, isKey⟩
  have known : ∀ given ∈ [assignment], given.IsKnown := by
    rw [List.forall_mem_singleton]
    exact ⟨setting, (isFor setting).mpr rfl⟩
  have unmapped : ∀ given ∈ [assignment], ∀ inner, given.value.bare ≠ .map inner := by
    rw [List.forall_mem_singleton]
    exact fun _ => Value.noConfusion
  have decided := (decided_entries standard).assigned known unmapped .configFile
  have decision : decidedBy .configFile (Assignment.last? [assignment])
      (fun other => (.default, other.write (other.of standard))) = fun other =>
        if other = setting then (.configFile, .text raw)
        else (.default, other.write (other.of standard)) := by
    funext other
    simp only [decidedBy, Assignment.last?_cons, isFor]
    split <;> rfl
  rwa [decision] at decided

private theorem IsOfFile.settings (isOfFile : IsOfFile origin query source raw) {setting : Setting}
    (isSection : source.sectionName = setting.sectionName?) (isKey : source.key = setting.key)
    {accepted : Resolved} (success : resolve origin query = .ok accepted) :
    ∃ standard, check origin.environment (.map []) = .valid standard ∧
      setting.check (.text raw) = .valid (setting.of accepted.settings) ∧
      ∀ other, other ≠ setting → other.of accepted.settings = other.of standard := by
  obtain ⟨path, chosen, read⟩ := isOfFile.read
  obtain ⟨standard, layer, arguments, resolution⟩ := resolve_eq_ok.mp success
  obtain rfl := resolution.layer_eq chosen read
  have given := resolution.given
  rw [isOfFile.noArguments] at given
  cases given
  have valid := resolution.valid
  rw [draftOf, environmentLayer_aside isOfFile.aside] at valid
  obtain ⟨defaults, isDefault, isStandard⟩ := check_nil_eq_valid.mp resolution.isDefault
  have decided := decided_stated isSection isKey raw standard
  have passed := (decided.check_eq_valid isDefault isStandard (textKeys_of_valid valid) (by
    intro other
    split
    · rfl
    · exact unmapped_write other _)).mp valid
  refine ⟨standard, resolution.isDefault, ?_, fun other differs => ?_⟩
  · have own := passed setting
    rwa [if_pos rfl] at own
  · have others := passed other
    rw [if_neg differs] at others
    exact Checked.valid.inj (others.symm.trans (check_write_of_valid isStandard other))

theorem IsOfVariable.resolve_eq (isOfVariable : IsOfVariable origin query source raw) :
    resolve origin query = resolve origin (.ofVariables none none) := by
  have chosen : chooseFile origin (.ofVariables none none) = .ok none := rfl
  have layers : environmentLayer origin query =
      environmentLayer origin (.ofVariables none none) := by
    rw [environmentLayer, isOfVariable.used]
    rfl
  have given : query.arguments = (Query.ofVariables none none).arguments :=
    isOfVariable.noArguments
  unfold resolve
  rw [isOfVariable.noFile, chosen, layers, given]

/-- Where a file that gives nothing but a text for one setting is accepted without the environment,
the variable of the setting with the same text gives the same settings without a file.  This is so
for all variables but the one for the cache, except that the words `t` and `y`, in any case, leave
a switch off that they turn on in a file. -/
theorem variable_agrees_with_file (isSource : source ∈ settingVariables)
    (noCache : source.name ≠ "MOBSENTRY_CACHE") {fileOrigin : Origin} {fileQuery : Query}
    (isOfFile : IsOfFile fileOrigin fileQuery source raw) {accepted : Resolved}
    (success : resolve fileOrigin fileQuery = .ok accepted)
    (isOfVariable : IsOfVariable origin query source raw) :
    ∃ resolved, resolve origin query = .ok resolved ∧
      resolved.settings = source.settled raw accepted.settings := by
  obtain ⟨setting, isSection, isKey⟩ := exists_setting source isSource
  obtain ⟨below, isBelow, passed, rest⟩ := isOfFile.settings isSection isKey success
  obtain ⟨stated, b, passes, settled⟩ := exists_settled isSource noCache isKey passed
  -- Beside the setting itself, both resolutions have the built-in settings.
  obtain ⟨_, isSame, builtIn⟩ := exists_standard isSource noCache isKey passed isOfFile.behind
  cases isBelow.symm.trans isSame
  obtain ⟨standard, isStandard, alone⟩ :=
    exists_standard isSource noCache isKey passed isOfVariable.only.behind
  obtain ⟨_, _, valid⟩ := check_nil_eq_valid.mp isStandard
  have values := isOfVariable.only.variableValue?_eq isSource stated isSection isKey
  refine ⟨⟨setting.put standard b, none, (variableDraft origin none none standard).sources⟩, ?_, ?_⟩
  · rw [isOfVariable.resolve_eq]
    refine (resolve_variables_eq_ok _ _ _).mpr ⟨standard, isStandard, fun other => ?_, rfl, rfl⟩
    rw [variableDecision_eq, values]
    by_cases isOwn : other = setting
    · subst isOwn
      rw [if_pos rfl, Setting.of_put]
      exact passes
    · rw [if_neg isOwn, Setting.of_put_other isOwn]
      exact check_write_of_valid valid other
  · have same : setting.put standard b = setting.put accepted.settings b :=
      Setting.put_congr (fun other differs => by
        rw [alone other differs, rest other differs, builtIn other differs]) b
    rw [same, settled, Setting.put_of]

end Queries

/-- A log level in its own case, beside a variable that is none of the program. -/
theorem level_agrees_with_file :
    let layer : Value.Entries := [(.text "log_level", .text "Debug")]
    let origin : Origin :=
      { fs := diskWith [], environment := [("LANG", "C"), ("MOBSENTRY_LOG_LEVEL", "Debug")] }
    ∃ accepted, resolve { fs := diskWith layer } (.ofFile "/c.json") = .ok accepted ∧
      ∃ resolved, resolve origin (.ofVariables none none) = .ok resolved ∧
        resolved.settings = accepted.settings ∧ resolved.settings.logLevel = .debug := by
  intro layer origin
  let source : Variable :=
    ⟨"MOBSENTRY_LOG_LEVEL", none, "log_level", parseWord, "debug, info, warning or error"⟩
  have isSource : source ∈ settingVariables := by simp [source, settingVariables]
  have read : fileEntries (diskWith layer) (.ofText "/c.json") = .ok layer :=
    fileEntries_diskWith (by decide +kernel) (by decide +kernel)
  have success : resolve { fs := diskWith layer } (.ofFile "/c.json") =
      .ok ⟨{ logLevel := .debug }, some (.ofText "/c.json"), [("log_level", .configFile)]⟩ :=
    resolve_eq_ok.mpr ⟨{}, layer, [], rfl, rfl, read, rfl, rfl, rfl, rfl, rfl, rfl⟩
  have isOfFile : IsOfFile { fs := diskWith layer } (.ofFile "/c.json") source "Debug" :=
    { aside := rfl, behind := List.nil_sublist _, noArguments := rfl, read := ⟨_, rfl, read⟩ }
  have others : ∀ other ∈ settingVariables, other.name ≠ source.name →
      origin.environment.lookup other.name = none := by
    intro other isOther
    simp only [settingVariables, List.mem_cons, List.not_mem_nil, or_false] at isOther
    rcases isOther with rfl | rfl | rfl | rfl | rfl | rfl | rfl | rfl
    case inr.inr.inr.inr.inr.inr.inr => exact fun differs => absurd rfl differs
    all_goals exact fun _ => rfl
  have behind : background origin.environment = [(source.name, "Debug")] := by decide +kernel
  have isOfVariable : IsOfVariable origin (.ofVariables none none) source "Debug" :=
    { used := rfl
      only := { value := rfl, others, behind := behind ▸ List.Sublist.refl _ }
      noArguments := rfl
      noFile := rfl }
  obtain ⟨resolved, resolves, agrees⟩ :=
    variable_agrees_with_file isSource (by decide) isOfFile success isOfVariable
  have kept : source.settled "Debug" { logLevel := .debug } = { logLevel := .debug } := by
    decide +kernel
  rw [kept] at agrees
  exact ⟨_, success, resolved, resolves, agrees, congrArg Settings.logLevel agrees⟩

/-- A word for truth that a file knows and a variable does not. -/
theorem short_truth_in_file_only :
    let layer : Value.Entries := [(.text "output", .map [(.text "quiet", .text "t")])]
    fileEntries (diskWith layer) (.ofText "/c.json") = .ok layer ∧
      (∃ accepted, resolve { fs := diskWith layer } (.ofFile "/c.json") = .ok accepted ∧
        accepted.settings.output.quiet = true) ∧
      ∃ resolved, resolve { fs := diskWith layer, environment := [("MOBSENTRY_QUIET", "t")] }
          (.ofVariables none none) = .ok resolved ∧ resolved.settings.output.quiet = false := by
  intro layer
  have read : fileEntries (diskWith layer) (.ofText "/c.json") = .ok layer :=
    fileEntries_diskWith (by decide +kernel) (by decide +kernel)
  refine ⟨read, ⟨⟨{ output := { quiet := true } }, some (.ofText "/c.json"),
    [("output.quiet", .configFile)]⟩, resolve_eq_ok.mpr ?_, rfl⟩, ⟨{}, none, _⟩, rfl, rfl⟩
  exact ⟨{}, layer, [], rfl, rfl, read, rfl, rfl, rfl, rfl, rfl, rfl⟩

end Settings

end MobileAudit
