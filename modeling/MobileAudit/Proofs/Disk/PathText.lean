import MobileAudit.Disk.Path
import MobileAudit.Proofs.Disk.Tree
import MobileAudit.Proofs.Text.Pieces

namespace MobileAudit

open Disk

/-! Texts of paths.  The names of a path text are proper, apart from those that go back, and a path
from the root over proper names is read from its text. -/

namespace Path

theorem text_toList (name : String) (rest : List String) :
    (fromRoot (name :: rest)).text.toList =
      '/' :: ['/'].intercalate (name.toList :: rest.map String.toList) := by
  rw [text]
  simp only [fromRoot, Anchor.text, Text.joinTexts]
  rw [String.toList_append, String.toList_intercalate]
  rfl

/-- A way from the root of the disk as a text: a slash before each name. -/
def wayText (names : List String) : List Char := names.flatMap fun name => '/' :: name.toList

theorem wayText_append (first second : List String) :
    wayText (first ++ second) = wayText first ++ wayText second :=
  List.flatMap_append

theorem text_eq_wayText {names : List String} (nonempty : names ≠ []) :
    (fromRoot names).text.toList = wayText names := by
  obtain ⟨name, rest, rfl⟩ := List.exists_cons_of_ne_nil nonempty
  rw [text_toList]
  clear nonempty
  induction rest generalizing name with
  | nil => simp [wayText]
  | cons second rest ih =>
      have joined : wayText (name :: second :: rest) =
          '/' :: (name.toList ++ wayText (second :: rest)) := rfl
      rw [joined, ← ih second]
      simp

/-- Names that go back are read as well. -/
theorem ofText_fromRoot (parts : List String)
    (names : ∀ name ∈ parts, name ≠ "" ∧ name ≠ "." ∧ '/' ∉ name.toList) :
    ofText (fromRoot parts).text = fromRoot parts := by
  cases parts with
  | nil => decide
  | cons name rest =>
      have noSlash : ∀ p ∈ name.toList :: rest.map String.toList, '/' ∉ p := by
        intro p member
        rw [← List.map_cons (f := String.toList)] at member
        obtain ⟨other, inside, rfl⟩ := List.mem_map.mp member
        exact (names other inside).2.2
      have split := Text.splitOn_intercalate '/' name.toList (rest.map String.toList) noSlash
      obtain ⟨c, tail, start⟩ : ∃ c tail, name.toList = c :: tail := by
        cases characters : name.toList with
        | nil => exact absurd (String.toList_eq_nil_iff.mp characters) (names name (by simp)).1
        | cons c tail => exact ⟨c, tail, rfl⟩
      have first : c ≠ '/' := by
        rintro rfl
        exact noSlash name.toList (by simp) (by simp [start])
      obtain ⟨more, joined⟩ : ∃ more,
          ['/'].intercalate (name.toList :: rest.map String.toList) = c :: more := by
        rw [start]
        cases rest.map String.toList with
        | nil => exact ⟨tail, by simp⟩
        | cons second pieces => exact ⟨_, by simp; rfl⟩
      have anchor : anchorOf ('/' :: c :: more) = .root := by
        rw [anchorOf.eq_def]
        split <;> simp_all
      have kept : ((name :: rest).map String.toList).filter
          (fun part => !part.isEmpty && part != ['.']) = (name :: rest).map String.toList := by
        rw [List.filter_eq_self]
        intro part member
        obtain ⟨other, inside, rfl⟩ := List.mem_map.mp member
        obtain ⟨nonempty, noPoint, _⟩ := names other inside
        have characters : other.toList ≠ [] := fun none =>
          nonempty (String.toList_eq_nil_iff.mp none)
        have single : other.toList ≠ ['.'] := fun point =>
          noPoint (String.toList_inj.mp point)
        simp [characters, single]
      rw [ofText, text_toList, joined, anchor, partsOf, Text.splitOn, Text.splitWhere,
        ← Text.splitOn, ← joined, split, if_pos (by decide), List.filter_cons_of_neg (by simp),
        ← List.map_cons, kept, List.map_map]
      simp [fromRoot, Function.comp_def]

theorem ofText_text (parts : List String) (proper : ∀ name ∈ parts, ProperName name) :
    ofText (fromRoot parts).text = fromRoot parts := by
  refine ofText_fromRoot parts fun name member => ?_
  obtain ⟨nonempty, noPoint, _, noSlash⟩ := proper name member
  exact ⟨nonempty, noPoint, noSlash⟩

private theorem proper_of_mem_partsOf {text : List Char} {name : String}
    (member : name ∈ partsOf text)
    (forward : name ≠ "..") : ProperName name := by
  unfold partsOf at member
  obtain ⟨piece, inside, rfl⟩ := List.mem_map.mp member
  obtain ⟨isPiece, kept⟩ := List.mem_filter.mp inside
  have uncut := Text.not_cut_of_mem_splitWhere _ text piece isPiece
  simp only [Bool.and_eq_true, Bool.not_eq_true', List.isEmpty_eq_false_iff, bne_iff_ne] at kept
  refine ⟨?_, ?_, forward, ?_⟩
  · intro none
    exact kept.1 (by simpa using congrArg String.toList none)
  · intro point
    exact kept.2 (by simpa using congrArg String.toList point)
  · rw [String.toList_ofList]
    intro slash
    simpa using uncut '/' slash

private theorem mem_foldl_walkStep (parts : List String) :
    ∀ {start : List String} {name : String}, name ∈ parts.foldl walkStep start →
      name ∈ start ∨ name ∈ parts ∧ name ≠ ".." := by
  induction parts with
  | nil =>
      intro start name member
      exact .inl member
  | cons part parts ih =>
      intro start name member
      rw [List.foldl_cons] at member
      obtain inStep | ⟨later, forward⟩ := ih member
      · unfold walkStep at inStep
        split at inStep
        · exact .inl (List.dropLast_subset _ inStep)
        · rename_i noBack
          rw [List.mem_append, List.mem_singleton] at inStep
          obtain old | rfl := inStep
          · exact .inl old
          · exact .inr ⟨by simp, by simpa using noBack⟩
      · exact .inr ⟨by simp [later], forward⟩

theorem proper_absoluteParts {cwd : List String} (proper : ∀ name ∈ cwd, ProperName name)
    (text : String) : ∀ name ∈ (ofText text).absoluteParts cwd, ProperName name := by
  intro name member
  obtain inStart | ⟨inParts, forward⟩ := mem_foldl_walkStep _ member
  · split at inStart
    · cases inStart
    · exact proper name inStart
  · exact proper_of_mem_partsOf inParts forward

private theorem foldl_walkStep (parts : List String) (forward : ∀ name ∈ parts, name ≠ "..") :
    ∀ start, parts.foldl walkStep start = start ++ parts := by
  induction parts with
  | nil =>
      intro start
      simp
  | cons part parts ih =>
      intro start
      rw [List.foldl_cons, ih (fun name member => forward name (by simp [member])), walkStep,
        if_neg (by simpa using forward part (by simp)), List.append_assoc, List.singleton_append]

theorem absolute_fromRoot (cwd parts : List String) (forward : ∀ name ∈ parts, name ≠ "..") :
    (fromRoot parts).absolute cwd = fromRoot parts := by
  have start : (if (fromRoot parts).isAbsolute then [] else cwd) = [] := rfl
  rw [absolute, absoluteParts, start]
  exact congrArg fromRoot (foldl_walkStep parts forward [])

end Path

end MobileAudit
