import Mathlib.Data.List.Forall2
import MobileAudit.Proofs.Settings.Isolation

namespace MobileAudit.Settings

open Check

/-! Data that is alike.  Entries that differ under some names only stay so under every further
layer, and data whose settings have the same outcomes passes the same check. -/

/-- Entries under the same keys in the same order, whose values differ under hidden names only. -/
def Alike (hidden : String → Prop) : Value.Entries → Value.Entries → Prop :=
  List.Forall₂ fun first second =>
    first.1 = second.1 ∧ ((∀ name, hidden name → first.1 ≠ .text name) → first.2 = second.2)

namespace Alike

variable {hidden : String → Prop} {first second : Value.Entries}

theorem refl (hidden : String → Prop) (entries : Value.Entries) : Alike hidden entries entries :=
  List.forall₂_same.mpr fun _ _ => ⟨rfl, fun _ => rfl⟩

theorem keys (alike : Alike hidden first second) : first.map (·.1) = second.map (·.1) := by
  induction alike with
  | nil => rfl
  | cons same _ ih => rw [List.map_cons, List.map_cons, same.1, ih]

theorem find? (alike : Alike hidden first second) {key : Value}
    (shown : ∀ name, hidden name → key ≠ .text name) : first.find? key = second.find? key := by
  induction alike with
  | nil => rfl
  | @cons a b _ _ same _ ih =>
      obtain ⟨k, v⟩ := a
      obtain ⟨k', w⟩ := b
      obtain ⟨isKey, values⟩ := same
      simp only at isKey values
      subst isKey
      rw [Value.Entries.find?_cons, Value.Entries.find?_cons, ih]
      split
      · rename_i sameKey
        rw [values fun name isHidden => ?_]
        rintro rfl
        exact shown name isHidden ((Value.text_sameKey key name).mp sameKey)
      · rfl

theorem findText? (alike : Alike hidden first second) {name : String} (shown : ¬ hidden name) :
    first.findText? name = second.findText? name := by
  refine alike.find? fun other isHidden same => ?_
  cases same
  exact shown isHidden

private theorem put (alike : Alike hidden first second) {key v w : Value}
    (values : (∀ name, hidden name → key ≠ .text name) → v = w) :
    Alike hidden (first.put key v) (second.put key w) := by
  induction alike with
  | nil => exact .cons ⟨rfl, values⟩ .nil
  | @cons a b _ _ same rest ih =>
      obtain ⟨k, v'⟩ := a
      obtain ⟨k', w'⟩ := b
      obtain ⟨isKey, olds⟩ := same
      simp only at isKey olds
      subst isKey
      rw [Value.Entries.put, Value.Entries.put]
      split
      · rename_i sameKey
        refine .cons ⟨rfl, fun shown => values fun name isHidden => ?_⟩ rest
        rintro rfl
        exact shown name isHidden ((Value.sameKey_text k name).mp sameKey)
      · exact .cons ⟨rfl, olds⟩ ih

theorem put_hidden (alike : Alike hidden first second) {name : String} (isHidden : hidden name)
    (present : (first.findText? name).isSome) (v : Value) :
    Alike hidden (first.put (.text name) v) second := by
  induction alike with
  | nil => cases present
  | @cons a b _ _ same rest ih =>
      obtain ⟨k, w⟩ := a
      rw [Value.Entries.put]
      split
      · rename_i sameKey
        refine .cons ⟨same.1, fun shown => ?_⟩ rest
        exact absurd ((Value.sameKey_text k name).mp sameKey) (shown name isHidden)
      · rename_i other
        rw [Value.sameKey_text] at other
        rw [Value.Entries.findText?_cons_other _ _ other] at present
        exact .cons same (ih present)

theorem overlayEntry (alike : Alike hidden first second) (key v : Value) :
    Alike hidden (overlayEntry first key v v) (overlayEntry second key v v) := by
  rw [overlayEntry_eq, overlayEntry_eq]
  split
  · exact alike
  · exact alike.put fun shown => by rw [alike.find? shown]

theorem overlay (alike : Alike hidden first second) (layer : Value.Entries) :
    Alike hidden (overlay first layer) (overlay second layer) := by
  induction layer generalizing first second with
  | nil => exact alike
  | cons entry rest ih => exact ih (alike.overlayEntry entry.1 entry.2)

end Alike

theorem namelessEntry_congr {first second : Value.Entries} {key : Value}
    (same : first.find? key = second.find? key) (v : Value) :
    namelessEntry first key v = namelessEntry second key v := by
  rw [namelessEntry_bare, namelessEntry_bare second]
  cases bare : v.bare with
  | loop label inner => exact absurd bare (v.bare_ne_loop label inner)
  | map inner => rw [namelessEntry, namelessEntry, same]
  | _ => rfl

/-- Under distinct texts every entry of a layer meets what was there before the layer. -/
theorem nameless_eq_any {layer : Value.Entries} (distinct : layer.Distinct)
    (texts : ∀ entry ∈ layer, IsText entry.1) (base : Value.Entries) :
    nameless base layer = layer.any fun entry => namelessEntry base entry.1 entry.2 := by
  induction layer generalizing base with
  | nil => rfl
  | cons entry rest ih =>
      obtain ⟨k, v⟩ := entry
      rw [List.forall_mem_cons] at texts
      rw [nameless, ih distinct.tail texts.2, List.any_cons]
      refine congrArg _ (Bool.eq_iff_iff.mpr ?_)
      rw [List.any_eq_true, List.any_eq_true]
      refine exists_congr fun later => and_congr_right fun member => ?_
      have same : (overlayEntry base k v v).find? later.1 = base.find? later.1 := by
        obtain ⟨name, isName⟩ := texts.2 later member
        have apart := (List.pairwise_cons.mp distinct).1 later member
        have other : k ≠ .text name := by
          rw [Ne, ← Value.sameKey_text, ← isName, apart]
          exact Bool.false_ne_true
        rw [isName, overlayEntry_eq]
        split
        · rfl
        · exact Value.Entries.findText?_put_other _ _ other
      rw [namelessEntry_congr same]

theorem textKeys_congr {first second : Value.Entries}
    (keys : first.map (·.1) = second.map (·.1)) : textKeys first = textKeys second := by
  rw [Bool.eq_iff_iff, textKeys_iff, textKeys_iff]
  have texts : ∀ data : Value.Entries,
      (∀ entry ∈ data, IsText entry.1) ↔ ∀ key ∈ data.map (·.1), IsText key := fun data =>
    List.forall_mem_map.symm
  rw [texts, texts, keys]

/-! Checks of data with the same outcomes. -/

def outcomeOver (defaults : Value.Entries) (standard : Settings) (data : Value.Entries)
    (setting : Setting) : Checked setting.Kind :=
  (valueIn data setting).elim (.valid (setting.of standard)) fun v =>
    setting.check (mergeOver ((behind? defaults setting).getD .null) v)

/-- Data whose sections are mappings, and whose keys do not come twice. -/
structure IsData (data : Value.Entries) : Prop where
  headed : IsHeaded data
  has : HasSections data
  separate : Separate data

section Outcomes

variable {environment : Environment} {defaults : Value.Entries} {standard : Settings}
  (isDefault : environmentDefaults environment = .ok defaults)
  (isStandard : fields defaults = .valid standard)

include isDefault isStandard

private theorem outcomeIn_merged {data : Value.Entries} (isData : IsData data) (setting : Setting) :
    outcomeIn (mergeEntries defaults (settingEntries data)) setting =
      outcomeOver defaults standard data setting := by
  have spelled := isData.headed.isSpelled
  have separate := isData.separate.settingEntries spelled
  have value := valueIn_settingEntries spelled setting
  unfold outcomeIn outcomeOver
  cases found : valueIn data setting with
  | some v =>
      rw [found] at value
      rw [valueIn_mergeEntries separate defaults value]
      rfl
  | none =>
      rw [found] at value
      have inSection : InSection (settingEntries data) setting := fun name above =>
        (isSection_settingEntries spelled (sectionName_mem above)).mpr
          (isData.has.isSection (sectionName_mem above))
      rw [valueIn_mergeEntries_missing separate isDefault inSection value]
      exact (fields_eq_valid.mp isStandard).2 setting

theorem check_eq_check {first second : Value.Entries} (isFirst : IsData first)
    (isSecond : IsData second) (texts : textKeys first = textKeys second)
    (sources : first.findText? sourcesKey = second.findText? sourcesKey)
    (outcomes : ∀ setting, outcomeOver defaults standard first setting =
      outcomeOver defaults standard second setting) :
    check environment (.map first) = check environment (.map second) := by
  have same : fields (mergeEntries defaults (settingEntries first)) =
      fields (mergeEntries defaults (settingEntries second)) := by
    refine fields_congr (fun name isName => ?_) fun setting => ?_
    · rw [isSection_merged isStandard isFirst.headed.isSpelled isName,
        isSection_merged isStandard isSecond.headed.isSpelled isName]
      exact iff_of_true (isFirst.has.isSection isName) (isSecond.has.isSection isName)
    · rw [outcomeIn_merged isDefault isStandard isFirst,
        outcomeIn_merged isDefault isStandard isSecond, outcomes]
  unfold check
  simp only [texts, sources, isDefault, same]

end Outcomes

end MobileAudit.Settings
