import MobileAudit.Proofs.Pattern.Ends

namespace MobileAudit.Pattern

/-! Where patterns match in whole texts: at the start, at some place, at which place first, and one
match after another. -/

theorem matchesStart_reads {pattern : Pattern}
    {reading : List Char → List Char → List Char → Prop} (reads : Reads pattern reading)
    (text : List Char) :
    pattern.matchesStart text = true ↔
      ∃ taken rest, text = taken ++ rest ∧ reading [] taken rest := by
  refine (reads (.ofText text) some).trans ⟨?_, ?_⟩
  · rintro ⟨taken, rest, ahead, isRead, _⟩
    exact ⟨taken, rest, ahead, isRead⟩
  · rintro ⟨taken, rest, ahead, isRead⟩
    exact ⟨taken, rest, ahead, isRead, rfl⟩

def MatchesAt (pattern : Pattern) (text : List Char) (place : Nat) : Prop :=
  place ≤ text.length ∧
    (pattern.matchAt ⟨place, (text.take place).reverse, text.drop place, []⟩).isSome = true

private theorem matchesAt_length {pattern : Pattern} (skipped ahead : List Char) :
    pattern.MatchesAt (skipped ++ ahead) skipped.length ↔
      (pattern.matchAt ⟨skipped.length, skipped.reverse, ahead, []⟩).isSome = true := by
  simp [MatchesAt]

theorem matchesAt_reads {pattern : Pattern} {reading : List Char → List Char → List Char → Prop}
    (reads : Reads pattern reading) {text : List Char} {place : Nat} :
    pattern.MatchesAt text place ↔
      place ≤ text.length ∧ ∃ taken rest, text.drop place = taken ++ rest ∧
        reading (text.take place).reverse taken rest := by
  have found := reads ⟨place, (text.take place).reverse, text.drop place, []⟩ some
  simp only [Option.isSome_some, and_true] at found
  exact and_congr_right fun _ => found

/-- The first place of a text at which a pattern matches. -/
def FirstAt (pattern : Pattern) (text : List Char) (place : Nat) : Prop :=
  pattern.MatchesAt text place ∧ ∀ earlier < place, ¬ pattern.MatchesAt text earlier

theorem FirstAt.eq_iff {pattern : Pattern} {text : List Char} {place : Nat}
    (first : pattern.FirstAt text place) (other : Nat) :
    place = other ↔ pattern.FirstAt text other := by
  constructor
  · intro same
    exact same ▸ first
  · intro also
    apply Nat.le_antisymm
    · exact Nat.le_of_not_lt fun later => first.2 other later also.1
    · exact Nat.le_of_not_lt fun later => also.2 place later first.1

private theorem searchOnto_start {pattern : Pattern} {place : Nat} (skipped ahead : List Char)
    (unmatched : ∀ earlier < skipped.length, ¬ pattern.MatchesAt (skipped ++ ahead) earlier) :
    (pattern.searchOnto skipped.length skipped.reverse ahead).map (·.start) = some place ↔
      pattern.FirstAt (skipped ++ ahead) place := by
  induction ahead generalizing skipped with
  | nil =>
      have here : pattern.MatchesAt (skipped ++ []) skipped.length ↔ _ :=
        matchesAt_length skipped []
      rw [searchOnto]
      cases found : pattern.matchAt ⟨skipped.length, skipped.reverse, [], []⟩ with
      | some q =>
          rw [found] at here
          have first : pattern.FirstAt (skipped ++ []) skipped.length := ⟨here.mpr rfl, unmatched⟩
          exact Option.some_inj.trans (first.eq_iff place)
      | none =>
          rw [found] at here
          refine ⟨nofun, fun first => ?_⟩
          have within : place ≤ skipped.length := by simpa using first.1.1
          cases Nat.lt_or_eq_of_le within with
          | inl earlier => exact absurd first.1 (unmatched place earlier)
          | inr same => exact absurd (here.mp (same ▸ first.1)) Bool.false_ne_true
  | cons c ahead ih =>
      have here : pattern.MatchesAt (skipped ++ c :: ahead) skipped.length ↔ _ :=
        matchesAt_length skipped (c :: ahead)
      rw [searchOnto]
      cases found : pattern.matchAt ⟨skipped.length, skipped.reverse, c :: ahead, []⟩ with
      | some q =>
          rw [found] at here
          have first : pattern.FirstAt (skipped ++ c :: ahead) skipped.length :=
            ⟨here.mpr rfl, unmatched⟩
          exact Option.some_inj.trans (first.eq_iff place)
      | none =>
          rw [found] at here
          have onward := ih (skipped ++ [c])
          simp only [List.length_append, List.length_singleton, List.reverse_append,
            List.reverse_singleton, List.singleton_append, List.append_assoc] at onward
          refine onward fun earlier within => ?_
          cases Nat.lt_or_eq_of_le (Nat.le_of_lt_succ within) with
          | inl before => exact unmatched earlier before
          | inr same => exact fun matched => absurd (here.mp (same ▸ matched)) Bool.false_ne_true

theorem search_start {pattern : Pattern} {text : List Char} {place : Nat} :
    (pattern.search text).map (·.start) = some place ↔ pattern.FirstAt text place :=
  searchOnto_start [] text nofun

theorem exists_firstAt {pattern : Pattern} {text : List Char} {place : Nat}
    (matched : pattern.MatchesAt text place) : ∃ first ≤ place, pattern.FirstAt text first := by
  induction place using Nat.strongRecOn with
  | ind place ih =>
      by_cases earlier : ∃ before < place, pattern.MatchesAt text before
      · obtain ⟨before, less, also⟩ := earlier
        obtain ⟨first, within, isFirst⟩ := ih before less also
        exact ⟨first, by omega, isFirst⟩
      · exact ⟨place, Nat.le_refl _, matched, fun before less also => earlier ⟨before, less, also⟩⟩

theorem min?_search {α : Type} {shapes : List α} {pattern : α → Pattern} {text : List Char}
    {place : Nat} :
    (shapes.filterMap fun shape => ((pattern shape).search text).map (·.start)).min? =
        some place ↔
      (∃ shape ∈ shapes, (pattern shape).MatchesAt text place) ∧
        ∀ earlier < place, ∀ shape ∈ shapes, ¬ (pattern shape).MatchesAt text earlier := by
  simp only [List.min?_eq_some_iff, List.mem_filterMap, search_start]
  constructor
  · rintro ⟨⟨shape, member, first⟩, least⟩
    refine ⟨⟨shape, member, first.1⟩, fun earlier less other isOther matched => ?_⟩
    obtain ⟨start, within, isFirst⟩ := exists_firstAt matched
    have bound := least start ⟨other, isOther, isFirst⟩
    omega
  · rintro ⟨⟨shape, member, matched⟩, unmatched⟩
    refine ⟨⟨shape, member, matched, fun earlier less => unmatched earlier less shape member⟩, ?_⟩
    rintro start ⟨other, isOther, first⟩
    exact Nat.le_of_not_lt fun less => unmatched start less other isOther first.1

/-! Patterns that occur anywhere. -/

private theorem occursIn_iff_matchesAt {pattern : Pattern} {text : List Char} :
    pattern.occursIn text = true ↔ ∃ place, pattern.MatchesAt text place := by
  have found : pattern.occursIn text = true ↔
      ∃ place, (pattern.search text).map (·.start) = some place := by
    rw [occursIn, ← Option.isSome_iff_exists, Option.isSome_map]
  simp only [found, search_start]
  constructor
  · rintro ⟨place, first⟩
    exact ⟨place, first.1⟩
  · rintro ⟨place, matched⟩
    obtain ⟨first, _, isFirst⟩ := exists_firstAt matched
    exact ⟨first, isFirst⟩

theorem occursIn_iff {pattern : Pattern} {reading : List Char → List Char → List Char → Prop}
    (reads : Reads pattern reading) (text : List Char) :
    pattern.occursIn text = true ↔
      ∃ skipped taken rest, text = skipped ++ (taken ++ rest) ∧
        reading skipped.reverse taken rest := by
  simp only [occursIn_iff_matchesAt, matchesAt_reads reads]
  constructor
  · rintro ⟨place, _, taken, rest, ahead, isRead⟩
    exact ⟨text.take place, taken, rest, by rw [← ahead, List.take_append_drop], isRead⟩
  · rintro ⟨skipped, taken, rest, rfl, isRead⟩
    exact ⟨skipped.length, by simp, taken, rest, by simp, by simpa using isRead⟩

/-! The matches in a text that follow one another, and what is made of the text around them. -/

/-- The matches of a pattern that takes at least one character, from a point on. -/
inductive Scans (pattern : Pattern) : Point → List Match → Prop
  | done {p : Point} (ended : p.after = []) : Scans pattern p []
  | skip {p : Point} {c : Char} {rest : List Char} {found : List Match}
      (ahead : p.after = c :: rest) (unmatched : pattern.ends p = [])
      (onward : Scans pattern (p.step c rest) found) :
      Scans pattern p found
  | take {p q : Point} {found : List Match} (reached : q ∈ pattern.ends p)
      (onward : Scans pattern { q with groups := [] } found) :
      Scans pattern p (.ofPoints p q :: found)

def Moves (pattern : Pattern) : Prop := ∀ p, ∀ q ∈ pattern.ends p, p.offset < q.offset

namespace Moves

variable {first second : Pattern}

theorem seq_left (moves : first.Moves) (second : Pattern) : (first ++ second).Moves := by
  intro p q reached
  obtain ⟨m, inFirst, inSecond⟩ := mem_ends_seq.mp reached
  exact Nat.lt_of_lt_of_le (moves p m inFirst) (leadsTo_of_mem_ends inSecond).offset_le

theorem seq_right (moves : second.Moves) (first : Pattern) : (first ++ second).Moves := by
  intro p q reached
  obtain ⟨m, inFirst, inSecond⟩ := mem_ends_seq.mp reached
  exact Nat.lt_of_le_of_lt (leadsTo_of_mem_ends inFirst).offset_le (moves m q inSecond)

end Moves

theorem moves_lit (text : String) (some : text.toList ≠ []) : (lit text).Moves := by
  intro p q reached
  obtain ⟨_, rest, _, rfl, rfl⟩ := (reads_lit text).mem_ends.mp reached
  exact Nat.lt_add_of_pos_right (List.length_pos_iff.mpr some)

private theorem scans_scanFrom {pattern : Pattern} (moves : pattern.Moves) {fuel : Nat} {p : Point}
    (enough : p.after.length < fuel) : Scans pattern p (pattern.scanFrom fuel p) := by
  -- every match moves on, so what is ahead gets shorter at least as fast as the fuel
  induction fuel generalizing p with
  | zero => cases Nat.not_lt_zero _ enough
  | succ fuel ih =>
      rw [scanFrom, matchAt_eq]
      cases found : (pattern.ends p).head? with
      | some q =>
          have reached := List.mem_of_head? found
          have further := moves p q reached
          have length := (leadsTo_of_mem_ends reached).length
          simp only [further, if_true]
          refine .take reached (ih ?_)
          show q.after.length < fuel
          omega
      | none =>
          have unmatched := List.head?_eq_none_iff.mp found
          cases ahead : p.after with
          | nil => exact .done ahead
          | cons c rest =>
              refine .skip ahead unmatched (ih ?_)
              simp only [ahead, List.length_cons] at enough
              show rest.length < fuel
              omega

theorem scans_findAll {pattern : Pattern} (moves : pattern.Moves) (text : List Char) :
    Scans pattern (.ofText text) (pattern.findAll text) :=
  scans_scanFrom moves (Nat.lt_succ_self _)

theorem Scans.bounds {pattern : Pattern} {p : Point} {found : List Match}
    (scans : Scans pattern p found) {m : Match} (member : m ∈ found) :
    p.offset ≤ m.start ∧ m.start ≤ m.stop ∧ m.stop ≤ p.offset + p.after.length := by
  induction scans with
  | done ended => cases member
  | skip ahead unmatched onward ih =>
      have later := ih member
      simp only [Point.step] at later
      simp only [ahead, List.length_cons]
      omega
  | @take p q found reached onward ih =>
      have leads := leadsTo_of_mem_ends reached
      have length := leads.length
      cases List.mem_cons.mp member with
      | inl here =>
          subst here
          show p.offset ≤ p.offset ∧ p.offset ≤ q.offset ∧ q.offset ≤ _
          have onto := leads.offset_le
          omega
      | inr later =>
          have bound := ih later
          have onto := leads.offset_le
          simp only at bound
          omega

theorem Scans.ordered {pattern : Pattern} {p : Point} {found : List Match}
    (scans : Scans pattern p found) :
    found.Pairwise fun m n => m.start ≤ m.stop ∧ m.stop ≤ n.start := by
  induction scans with
  | done ended => exact .nil
  | skip ahead unmatched onward ih => exact ih
  | take reached onward ih =>
      have onto := (leadsTo_of_mem_ends reached).offset_le
      exact .cons (fun n later => ⟨onto, (onward.bounds later).1⟩) ih

theorem Scans.starts_later {pattern : Pattern} {p : Point} {c : Char} {rest : List Char}
    {found : List Match} (scans : Scans pattern (p.step c rest) found) :
    ∀ m ∈ found, p.offset < m.start ∧ m.start ≤ m.stop := by
  intro m member
  obtain ⟨after, ordered, _⟩ := scans.bounds member
  exact ⟨after, ordered⟩

theorem Match.cut_cons {m : Match} {offset : Nat} (later : offset < m.start ∧ m.start ≤ m.stop)
    (c : Char) (rest : List Char) :
    (c :: rest).take (m.start - offset) = c :: rest.take (m.start - (offset + 1)) ∧
      (c :: rest).drop (m.stop - offset) = rest.drop (m.stop - (offset + 1)) := by
  have start : m.start - offset = m.start - (offset + 1) + 1 := by omega
  have stop : m.stop - offset = m.stop - (offset + 1) + 1 := by omega
  rw [start, stop]
  exact ⟨rfl, rfl⟩

theorem replaceMatches_cons {write : Match → List Char} {offset : Nat} {found : List Match}
    (later : ∀ m ∈ found, offset < m.start ∧ m.start ≤ m.stop) (c : Char) (rest : List Char) :
    replaceMatches write offset found (c :: rest) =
      c :: replaceMatches write (offset + 1) found rest := by
  cases found with
  | nil => rfl
  | cons m found =>
      obtain ⟨before, behind⟩ := Match.cut_cons (later m List.mem_cons_self) c rest
      rw [replaceMatches, replaceMatches, before, behind]
      rfl

theorem piecesBetween_cons {offset : Nat} {found : List Match}
    (later : ∀ m ∈ found, offset < m.start ∧ m.start ≤ m.stop) (c : Char) (rest : List Char) :
    piecesBetween offset found (c :: rest) =
      (piecesBetween (offset + 1) found rest).modifyHead (c :: ·) := by
  cases found with
  | nil => rfl
  | cons m found =>
      obtain ⟨before, behind⟩ := Match.cut_cons (later m List.mem_cons_self) c rest
      rw [piecesBetween, piecesBetween, before, behind]
      rfl

/-- Replacing is a function on texts that keeps characters where nothing matches and goes on behind
what is written where something does. -/
theorem replaceAll_eq {pattern : Pattern} {write : Match → List Char} {f : List Char → List Char}
    (moves : pattern.Moves) (nil : f [] = [])
    (skip : ∀ p c rest, p.after = c :: rest → pattern.ends p = [] → f (c :: rest) = c :: f rest)
    (take : ∀ p, ∀ q ∈ pattern.ends p, f p.after = write (.ofPoints p q) ++ f q.after)
    (text : List Char) : pattern.replaceAll write text = f text := by
  suffices replaced : ∀ p found, Scans pattern p found →
      replaceMatches write p.offset found p.after = f p.after from
    replaced _ _ (scans_findAll moves text)
  intro p found scans
  induction scans with
  | done ended => rw [ended, nil]; rfl
  | @skip p c rest found ahead unmatched onward ih =>
      rw [ahead, replaceMatches_cons onward.starts_later, skip p c rest ahead unmatched]
      exact congrArg (c :: ·) ih
  | @take p q found reached onward ih =>
      rw [take p q reached, ← ih, (leadsTo_of_mem_ends reached).after_eq]
      simp [replaceMatches, Match.ofPoints]

/-- What holds of a text and its pieces if it is kept by every character where nothing matches and
by every match. -/
theorem splitBy_induct {pattern : Pattern} (cuts : List Char → List (List Char) → Prop)
    (moves : pattern.Moves) (nil : cuts [] [[]])
    (skip : ∀ p c rest pieces, p.after = c :: rest → pattern.ends p = [] → cuts rest pieces →
      cuts (c :: rest) (pieces.modifyHead (c :: ·)))
    (take : ∀ p, ∀ q ∈ pattern.ends p, ∀ pieces, cuts q.after pieces → cuts p.after ([] :: pieces))
    (text : List Char) : cuts text (pattern.splitBy text) := by
  suffices cut : ∀ p found, Scans pattern p found →
      cuts p.after (piecesBetween p.offset found p.after) from
    cut _ _ (scans_findAll moves text)
  intro p found scans
  induction scans with
  | done ended => exact ended ▸ nil
  | @skip p c rest found ahead unmatched onward ih =>
      rw [ahead, piecesBetween_cons onward.starts_later]
      exact skip p c rest _ ahead unmatched ih
  | @take p q found reached onward ih =>
      have pieces := take p q reached _ ih
      rw [(leadsTo_of_mem_ends reached).after_eq] at pieces
      simpa [piecesBetween, Match.ofPoints] using pieces

end MobileAudit.Pattern
