import MobileAudit.Settings.File

namespace MobileAudit

/-! Refusals name a problem: no check of settings refuses data without saying what is wrong. -/

namespace Check

namespace Checked

variable {α β : Type}

/-- A check that does not refuse without a problem. -/
def Explains (checked : Checked α) : Prop := checked ≠ .invalid []

theorem explains_valid (a : α) : (valid a).Explains := by
  rintro ⟨⟩

theorem explains_broken (cause : Breakdown) : (broken cause : Checked α).Explains := by
  rintro ⟨⟩

theorem explains_flawed (flaw : Flaw) : (flawed flaw : Checked α).Explains := by
  rintro ⟨⟩

theorem Explains.map {checked : Checked α} (explains : checked.Explains) (f : α → β) :
    (checked.map f).Explains := by
  cases checked with
  | valid a => exact explains_valid (f a)
  | invalid problems => exact fun empty => explains (congrArg _ (Checked.invalid.inj empty))
  | broken cause => exact explains_broken cause

theorem Explains.bind {checked : Checked α} (explains : checked.Explains) {next : α → Checked β}
    (further : ∀ a, (next a).Explains) : (checked.bind next).Explains := by
  cases checked with
  | valid a => exact further a
  | invalid problems => exact fun empty => explains (congrArg _ (Checked.invalid.inj empty))
  | broken cause => exact explains_broken cause

private theorem Explains.under {checked : Checked α} (explains : checked.Explains) (step : String) :
    (checked.under step).Explains := by
  cases checked with
  | invalid problems =>
      intro empty
      have none := List.map_eq_nil_iff.mp (Checked.invalid.inj empty)
      exact explains (congrArg _ none)
  | valid a => exact explains_valid a
  | broken cause => exact explains_broken cause

private theorem Explains.and {first : Checked α} {second : Checked β}
    (explainsFirst : first.Explains)
    (explainsSecond : second.Explains) : (first.and second).Explains := by
  cases first <;> cases second
  case invalid.invalid problems more =>
    intro empty
    have none := List.append_eq_nil_iff.mp (Checked.invalid.inj empty)
    exact explainsFirst (congrArg _ none.1)
  case valid.invalid a problems =>
    exact fun empty => explainsSecond (congrArg _ (Checked.invalid.inj empty))
  case invalid.valid problems b =>
    exact fun empty => explainsFirst (congrArg _ (Checked.invalid.inj empty))
  case valid.valid a b => exact explains_valid (a, b)
  all_goals exact explains_broken _

end Checked

open Checked

private theorem explains_optional {α : Type} {check : Value → Checked α}
    (explains : ∀ v, (check v).Explains) (entries : Value.Entries) (names : List String)
    (fallback : α) : (optional entries names fallback check).Explains := by
  unfold optional
  refine .under ?_ _
  split
  · exact explains _
  · exact explains_valid _

private theorem explains_record {α : Type} {fields : Value.Entries → Checked α}
    (explains : ∀ entries, (fields entries).Explains) (name : String) (v : Value) :
    (record name fields v).Explains := by
  unfold record
  split
  · exact explains _
  · exact explains_flawed _

private theorem explains_integerOfText (s : String) : (integerOfText s).Explains := by
  unfold integerOfText
  simp only
  split
  · exact explains_flawed _
  · split
    · exact explains_flawed _
    · split
      · exact explains_flawed _
      · exact explains_valid _

private theorem explains_integer (v : Value) : (integer v).Explains := by
  unfold integer
  split
  · exact explains_valid _
  · exact explains_valid _
  · split
    · exact explains_flawed _
    · split
      · exact explains_flawed _
      · split
        · exact explains_valid _
        · exact explains_flawed _
  · exact explains_integerOfText _
  · split
    · exact explains_integerOfText _
    · exact explains_flawed _
  · exact explains_flawed _

private theorem explains_integerAtLeast (least : Int) (v : Value) :
    (integerAtLeast least v).Explains := by
  refine (explains_integer v).bind fun n => ?_
  split
  · exact explains_flawed _
  · exact explains_valid _

private theorem explains_truthOfInteger (n : Int) : (truthOfInteger n).Explains := by
  unfold truthOfInteger
  split
  · exact explains_valid _
  · split
    · exact explains_valid _
    · split <;> exact explains_flawed _

private theorem explains_truthOfText (s : String) : (truthOfText s).Explains := by
  unfold truthOfText
  simp only
  split
  · exact explains_valid _
  · split
    · exact explains_valid _
    · exact explains_flawed _

private theorem explains_truth (v : Value) : (truth v).Explains := by
  unfold truth
  split
  · exact explains_valid _
  · exact explains_truthOfInteger _
  · split
    · exact explains_truthOfInteger _
    · exact explains_flawed _
  · exact explains_truthOfText _
  · split
    · exact explains_truthOfText _
    · exact explains_flawed _
  · exact explains_flawed _

private theorem explains_convertedText (text : List Char) (shown : String) :
    (convertedText text shown).Explains := by
  unfold convertedText
  split
  · exact explains_valid _
  · exact explains_flawed _
  · exact explains_flawed _

private theorem explains_convertInteger (v : Value) : (convertInteger v).Explains := by
  unfold convertInteger
  split
  · exact explains_valid _
  · exact explains_valid _
  · split
    · exact explains_flawed _
    · split
      · exact explains_broken _
      · exact explains_valid _
  · exact explains_convertedText _ _
  · exact explains_convertedText _ _
  · exact explains_broken _

theorem explains_convertText (v : Value) : (convertText v).Explains := by
  unfold convertText
  split
  · exact explains_valid _
  · exact explains_flawed _

private theorem explains_convertItems (items : List Value) : (convertItems items).Explains := by
  induction items with
  | nil => exact explains_valid _
  | cons v items ih => exact (explains_convertText v).bind fun text => ih.map _

private theorem explains_convertTexts (v : Value) : (convertTexts v).Explains := by
  unfold convertTexts
  split
  · exact explains_valid _
  · exact explains_valid _
  · split
    · exact explains_convertItems _
    · exact explains_broken _

end Check

namespace Settings

open Check Checked Disk

private theorem explains_checkConcurrency (v : Value) : (checkConcurrency v).Explains := by
  unfold checkConcurrency
  split
  · exact explains_valid _
  · exact (explains_convertInteger v).map _

private theorem explains_checkFileName (v : Value) : (checkFileName v).Explains := by
  unfold checkFileName
  split
  · exact explains_valid _
  · refine (explains_convertText v).bind fun text => ?_
    simp only
    split
    · exact explains_valid _
    · exact explains_flawed _

private theorem explains_checkChoice {α : Type} (label : String) (names : List String)
    (ofName? : String → Option α) (fallback : α) (v : Value) :
    (checkChoice label names ofName? fallback v).Explains := by
  unfold checkChoice
  split
  · exact explains_valid _
  · refine (explains_convertText v).bind fun text => ?_
    split
    · exact explains_valid _
    · exact explains_flawed _

private theorem explains_fields (entries : Value.Entries) : (fields entries).Explains := by
  have scan : ∀ entries, (scanFields entries).Explains := fun entries =>
    ((explains_optional explains_checkConcurrency _ _ _).and
      ((explains_optional explains_convertTexts _ _ _).and
        (explains_optional explains_convertTexts _ _ _))).map _
  have cache : ∀ entries, (cacheFields entries).Explains := fun entries =>
    ((explains_optional explains_truth _ _ _).and
      ((explains_optional explains_checkFileName _ _ _).and
        (explains_optional (explains_integerAtLeast 0) _ _ _))).map _
  have output : ∀ entries, (outputFields entries).Explains := fun entries =>
    ((explains_optional (explains_checkChoice _ _ _ _) _ _ _).and
      ((explains_optional explains_truth _ _ _).and
        (explains_optional explains_truth _ _ _))).map _
  exact ((explains_optional (explains_record scan _) _ _ _).and
    ((explains_optional (explains_record cache _) _ _ _).and
      ((explains_optional (explains_record output _) _ _ _).and
        (explains_optional (explains_checkChoice _ _ _ _) _ _ _)))).map _

private theorem explains_check (environment : Environment) (data : Value.Entries) :
    (check environment (.map data)).Explains := by
  unfold check
  simp only
  split
  · exact explains_broken _
  · split
    · rename_i v _
      unfold fromSources
      split
      · exact explains_broken _
      · split
        · exact explains_valid _
        · split <;> exact explains_broken _
      · exact explains_flawed _
    · split
      · exact explains_flawed _
      · exact explains_broken _
      · exact explains_fields _

theorem validateFile_eq_nil {fs : FileSystem} {environment : Environment} {path : Path}
    {entries : Value.Entries} (read : fileEntries fs path = .ok entries) :
    validateFile fs environment path = .ok [] ↔
      ∃ settings, check environment (.map entries) = .valid settings := by
  have explains := explains_check environment entries
  unfold validateFile
  rw [read]
  simp only
  cases checked : check environment (.map entries) with
  | valid settings => simp
  | invalid problems =>
      rw [checked] at explains
      have some : problems ≠ [] := fun empty => explains (congrArg _ empty)
      simp [some]
  | broken cause => simp

end Settings

end MobileAudit
