import MobileAudit.Proofs.Location.Lines
import MobileAudit.Proofs.Pattern.Search
import MobileAudit.Surroundings.Debug

namespace MobileAudit

open Location

/-! Guards of debug code in an excerpt of a file.  A guard looks no further than at the characters
that touch it, and a line break touches no word, so that a guard in an excerpt of whole lines is one
in the file. -/

namespace Pattern

/-- A pattern that may take in a text what it may take in an excerpt of whole lines. -/
def Extends (pattern : Pattern) : Prop :=
  ∃ reading, Reads pattern reading ∧ ∀ before taken rest above below, IsOutside above →
    IsOutside below → reading before taken rest → reading (before ++ above) taken (rest ++ below)

theorem extends_of_reads {pattern : Pattern} {language : List Char → Prop}
    (reads : Reads pattern fun _ taken _ => language taken) : pattern.Extends :=
  ⟨_, reads, fun _ _ _ _ _ _ _ isIn => isIn⟩

private theorem extends_set (chars : CharSet) :
    (set chars).Extends := extends_of_reads (reads_set chars)

private theorem extends_run (chars : CharSet) (least : Nat) (most : Option Nat) :
    (run chars least most false).Extends :=
  extends_of_reads (reads_run chars least most)

theorem extends_lit (text : String) : (lit text).Extends := extends_of_reads (reads_lit text)

private theorem Extends.seq {first second : Pattern} (extendsFirst : first.Extends)
    (extendsSecond : second.Extends) : (first ++ second).Extends := by
  obtain ⟨left, readsFirst, leftExtends⟩ := extendsFirst
  obtain ⟨right, readsSecond, rightExtends⟩ := extendsSecond
  refine ⟨_, reads_seq readsFirst readsSecond, ?_⟩
  rintro before _ rest above below outsideAbove outsideBelow ⟨u, v, rfl, isLeft, isRight⟩
  refine ⟨u, v, rfl, ?_, ?_⟩
  · rw [← List.append_assoc]
    exact leftExtends _ _ _ _ _ outsideAbove outsideBelow isLeft
  · rw [← List.append_assoc]
    exact rightExtends _ _ _ _ _ outsideAbove outsideBelow isRight

private theorem Extends.alt {first second : Pattern} (extendsFirst : first.Extends)
    (extendsSecond : second.Extends) : (Pattern.alt first second).Extends := by
  obtain ⟨left, readsFirst, leftExtends⟩ := extendsFirst
  obtain ⟨right, readsSecond, rightExtends⟩ := extendsSecond
  refine ⟨_, reads_alt readsFirst readsSecond, ?_⟩
  intro before taken rest above below outsideAbove outsideBelow
  exact Or.imp (leftExtends _ _ _ _ _ outsideAbove outsideBelow)
    (rightExtends _ _ _ _ _ outsideAbove outsideBelow)

private theorem extends_oneOf {patterns : List Pattern}
    (each : ∀ pattern ∈ patterns, pattern.Extends) :
    (oneOf patterns).Extends := by
  induction patterns with
  | nil => exact extends_of_reads reads_empty
  | cons first patterns ih =>
      rw [List.forall_mem_cons] at each
      cases patterns with
      | nil => exact each.1
      | cons second patterns => exact each.1.alt (ih each.2)

private theorem extends_words (texts : List String) : (words texts).Extends := by
  refine extends_oneOf fun pattern member => ?_
  obtain ⟨text, _, rfl⟩ := List.mem_map.mp member
  exact extends_lit text

/-! Edges of words. -/

def meetsWord (text : List Char) : Bool := text.head?.any Text.isWord

theorem meetsWord_append {text outside : List Char} (isOutside : IsOutside outside) :
    meetsWord (text ++ outside) = meetsWord text := by
  cases text with
  | cons c text => rfl
  | nil =>
      cases outside with
      | nil => rfl
      | cons c outside =>
          rw [isOutside c rfl]
          exact (by decide : Text.isWord '\n' = false)

private theorem reads_wordEdge : Reads .wordEdge fun before taken rest =>
    taken = [] ∧ meetsWord before ≠ meetsWord rest :=
  reads_nothing fun k p => by
    rw [runAt, Point.atWordEdge, ← bne_iff_ne]
    unfold meetsWord
    split <;> rename_i edge <;> simp [edge]

private theorem extends_wordEdge : wordEdge.Extends := by
  refine ⟨_, reads_wordEdge, ?_⟩
  intro before taken rest above below outsideAbove outsideBelow
  rw [meetsWord_append outsideAbove, meetsWord_append outsideBelow]
  exact id

private theorem Extends.occursIn {pattern : Pattern} (extension : pattern.Extends)
    {part text : List Char}
    (excerpt : IsExcerpt part text) (occurs : pattern.occursIn part = true) :
    pattern.occursIn text = true := by
  obtain ⟨reading, reads, extended⟩ := extension
  obtain ⟨above, below, rfl, outsideAbove, outsideBelow⟩ := excerpt
  obtain ⟨skipped, taken, rest, rfl, isRead⟩ := (occursIn_iff reads part).mp occurs
  refine (occursIn_iff reads _).mpr ⟨above ++ skipped, taken, rest ++ below, by simp, ?_⟩
  rw [List.reverse_append]
  exact extended _ _ _ _ _ outsideAbove outsideBelow isRead

end Pattern

namespace Surroundings

open Pattern

private theorem debugCodePatterns_extend : ∀ pattern ∈ debugCodePatterns, pattern.Extends := by
  have blanks : spaces.Extends := extends_run _ _ _
  have flags : debugFlags.Extends := extends_words _
  have environment : nodeEnvironment.Extends := extends_lit _
  have quote : quotes.Extends := extends_set _
  have edge := extends_wordEdge
  intro pattern member
  simp only [debugCodePatterns, List.mem_cons, List.not_mem_nil, or_false] at member
  rcases member with rfl | rfl | rfl | rfl | rfl | rfl | rfl
  · exact edge.seq ((extends_lit _).seq edge)
  · exact environment.seq (blanks.seq ((extends_lit _).seq ((extends_run _ _ _).seq (blanks.seq
      (quote.seq ((extends_words _).seq quote))))))
  · exact environment.seq (blanks.seq ((extends_lit _).seq ((extends_run _ _ _).seq (blanks.seq
      (quote.seq ((extends_lit _).seq quote))))))
  · exact edge.seq ((extends_lit _).seq (blanks.seq ((extends_lit _).seq (blanks.seq (flags.seq
      (blanks.seq (extends_lit _)))))))
  · exact edge.seq (flags.seq (blanks.seq (extends_lit _)))
  · exact edge.seq ((extends_lit _).seq edge)
  · exact (extends_lit _).seq ((extends_run _ _ _).seq ((extends_lit _).seq edge))

private theorem isDebugCode_of_excerpt {part code : List Char} (excerpt : IsExcerpt part code)
    (debug : isDebugCode part = true) : isDebugCode code = true := by
  obtain ⟨pattern, member, occurs⟩ := List.any_eq_true.mp debug
  exact List.any_eq_true.mpr
    ⟨pattern, member, (debugCodePatterns_extend pattern member).occursIn excerpt occurs⟩

/-- An excerpt of a file decides nothing that the file itself does not. -/
theorem isDebug_excerpt {part code : List Char} (excerpt : part = [] ∨ IsExcerpt part code)
    (path : List Char) : isDebug code part path = isDebug code [] path := by
  suffices silent : (!part.isEmpty && isDebugCode part) = true →
      (!code.isEmpty && isDebugCode code) = true by
    unfold isDebug
    cases inPart : !part.isEmpty && isDebugCode part with
    | false => rfl
    | true => rw [silent inPart]; rfl
  intro inPart
  rw [Bool.and_eq_true, Bool.not_eq_true', List.isEmpty_eq_false_iff] at inPart ⊢
  obtain empty | excerpt := excerpt
  · exact absurd empty inPart.1
  · refine ⟨?_, isDebugCode_of_excerpt excerpt inPart.2⟩
    rintro rfl
    obtain ⟨above, below, whole, _⟩ := excerpt
    exact inPart.1 (by simp_all)

end Surroundings

end MobileAudit
