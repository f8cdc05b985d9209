import MobileAudit.Text.Case

namespace MobileAudit.Text

/-! Letters and digits below U+0080 by their codes, and texts of such characters in lower case. -/

variable {c : Char}

theorem le_iff_toNat (a b : Char) : a ≤ b ↔ a.toNat ≤ b.toNat :=
  Char.le_def.trans UInt32.le_iff_toNat_le

theorem isAsciiLower_iff : isAsciiLower c = true ↔ 97 ≤ c.toNat ∧ c.toNat ≤ 122 := by
  rw [isAsciiLower, Bool.and_eq_true, decide_eq_true_iff, decide_eq_true_iff, le_iff_toNat,
    le_iff_toNat]
  rfl

theorem isAsciiUpper_iff : isAsciiUpper c = true ↔ 65 ≤ c.toNat ∧ c.toNat ≤ 90 := by
  rw [isAsciiUpper, Bool.and_eq_true, decide_eq_true_iff, decide_eq_true_iff, le_iff_toNat,
    le_iff_toNat]
  rfl

theorem isAsciiDigit_iff : isAsciiDigit c = true ↔ 48 ≤ c.toNat ∧ c.toNat ≤ 57 := by
  rw [isAsciiDigit, Bool.and_eq_true, decide_eq_true_iff, decide_eq_true_iff, le_iff_toNat,
    le_iff_toNat]
  rfl

theorem isAsciiAlnum_iff :
    isAsciiAlnum c = true ↔
      isAsciiLower c = true ∨ isAsciiUpper c = true ∨ isAsciiDigit c = true := by
  rw [isAsciiAlnum, isAsciiLetter, Bool.or_eq_true, Bool.or_eq_true, or_assoc]

theorem isAsciiLower_of_upper (capital : isAsciiUpper c = true) : isAsciiLower c = false := by
  rw [← Bool.not_eq_true, isAsciiLower_iff]
  rw [isAsciiUpper_iff] at capital
  omega

theorem isAsciiDigit_of_upper (capital : isAsciiUpper c = true) : isAsciiDigit c = false := by
  rw [← Bool.not_eq_true, isAsciiDigit_iff]
  rw [isAsciiUpper_iff] at capital
  omega

theorem isAsciiUpper_of_lower (small : isAsciiLower c = true) : isAsciiUpper c = false := by
  rw [← Bool.not_eq_true, isAsciiUpper_iff]
  rw [isAsciiLower_iff] at small
  omega

theorem isSpace_of_alnum (plain : isAsciiAlnum c = true) : isSpace c = false := by
  rw [isAsciiAlnum_iff, isAsciiLower_iff, isAsciiUpper_iff, isAsciiDigit_iff] at plain
  simp only [isSpace, Bool.or_eq_false_iff, Bool.and_eq_false_iff, decide_eq_false_iff_not,
    beq_eq_false_iff_ne]
  omega

theorem toNat_lt_of_alnum (plain : isAsciiAlnum c = true) : c.toNat < 0x80 := by
  rw [isAsciiAlnum_iff, isAsciiLower_iff, isAsciiUpper_iff, isAsciiDigit_iff] at plain
  omega

/-! Lower-casing of texts below U+0080. -/

theorem lowerFrom_cons {c : Char} (noSigma : c ≠ capitalSigma) (noDotted : c ≠ capitalDottedI)
    (before rest : List Char) :
    lowerFrom before (c :: rest) = lowerChar c :: lowerFrom (c :: before) rest := by
  rw [lowerFrom, if_neg (by simpa using noSigma), if_neg (by simpa using noDotted)]
  rfl

theorem lowerFrom_ascii {text : List Char} (ascii : ∀ c ∈ text, c.toNat < 0x80)
    (before : List Char) : lowerFrom before text = text.map lowerChar := by
  induction text generalizing before with
  | nil => rfl
  | cons c rest ih =>
      rw [List.forall_mem_cons] at ascii
      have noSigma : c ≠ capitalSigma := by
        rintro rfl
        exact absurd ascii.1 (by decide)
      have noDotted : c ≠ capitalDottedI := by
        rintro rfl
        exact absurd ascii.1 (by decide)
      rw [lowerFrom_cons noSigma noDotted, ih ascii.2, List.map_cons]

end MobileAudit.Text
