import Mathlib.Data.List.SplitBy
import MobileAudit.Naming
import MobileAudit.Proofs.Pattern.Search
import MobileAudit.Proofs.Text.Ascii
import MobileAudit.Proofs.Text.Pieces

namespace MobileAudit.Naming

open Pattern

/-! The words of a name in one pass: where a blank is written depends on a character and the next
two, and a blank cuts like any other separator. -/

def isSeparator (c : Char) : Bool :=
  Text.isSpace c || c == '_' || c == '.' || c == '-' || c == '$'

def isSmallOrDigit (c : Char) : Bool := Text.isAsciiLower c || Text.isAsciiDigit c

def beginsCamel : List Char → Bool
  | c :: d :: _ => isSmallOrDigit c && Text.isAsciiUpper d
  | _ => false

def beginsAcronym : List Char → Bool
  | c :: d :: e :: _ => Text.isAsciiUpper c && Text.isAsciiUpper d && Text.isAsciiLower e
  | _ => false

/-- Does a word end with the first character of a text? -/
def endsWord (text : List Char) : Bool := beginsCamel text || beginsAcronym text

/-- Writes a blank behind the first character of every rest that satisfies the test. -/
def spread (test : List Char → Bool) : List Char → List Char
  | [] => []
  | c :: rest => if test (c :: rest) then c :: ' ' :: spread test rest else c :: spread test rest

/-- Cuts at separators, which are dropped, and behind characters that end a word. -/
def chop : List Char → List (List Char)
  | [] => [[]]
  | c :: rest =>
      if isSeparator c then [] :: chop rest
      else if endsWord (c :: rest) then [c] :: chop rest
      else (chop rest).modifyHead (c :: ·)

/-! Classes of characters. -/

@[simp] theorem smallOrDigit_contains (c : Char) :
    (CharSet.lower ∪ CharSet.range '0' '9').contains c = isSmallOrDigit c := by
  rw [CharSet.contains_union ⟨rfl, rfl⟩ ⟨rfl, rfl⟩, CharSet.contains_lower,
    CharSet.contains_digits, isSmallOrDigit]

@[simp] theorem separators_contains (c : Char) :
    (CharSet.space ∪ CharSet.ofChars "_.-$").contains c = isSeparator c := by
  rw [CharSet.contains_union ⟨rfl, rfl⟩ ⟨rfl, rfl⟩, CharSet.contains_space,
    CharSet.contains_ofChars, Bool.eq_iff_iff]
  simp [isSeparator, or_assoc]

theorem isSmallOrDigit_of_upper {c : Char} (capital : Text.isAsciiUpper c = true) :
    isSmallOrDigit c = false := by
  rw [isSmallOrDigit, Text.isAsciiLower_of_upper capital, Text.isAsciiDigit_of_upper capital]
  rfl

theorem isSeparator_of_alnum {c : Char} (plain : Text.isAsciiAlnum c = true) :
    isSeparator c = false := by
  simp only [isSeparator, Text.isSpace_of_alnum plain, Bool.false_or, Bool.or_eq_false_iff,
    beq_eq_false_iff_ne]
  refine ⟨⟨⟨?_, ?_⟩, ?_⟩, ?_⟩ <;> rintro rfl <;> exact absurd plain (by decide)

/-! Edges between words. -/

section

variable {first second : Pattern} {left right : List Char → List Char → List Char → Prop}
  {p q : Point}

theorem exists_of_mem_edge (readsFirst : Reads first left) (readsSecond : Reads second right)
    (member : q ∈ (group 1 first ++ group 2 second).ends p) :
    ∃ u v rest, p.after = u ++ (v ++ rest) ∧ left p.before u (v ++ rest) ∧
      right (u.reverse ++ p.before) v rest ∧ q.offset = p.offset + u.length + v.length ∧
        q.after = rest ∧ apart (.ofPoints p q) = u ++ ' ' :: v := by
  obtain ⟨m, inFirst, inSecond⟩ := mem_ends_seq.mp member
  rw [mem_ends_group] at inFirst inSecond
  obtain ⟨m, inFirst, rfl⟩ := inFirst
  obtain ⟨n, inSecond, rfl⟩ := inSecond
  obtain ⟨u, middle, ahead, isLeft, rfl⟩ := readsFirst.mem_ends.mp inFirst
  obtain ⟨v, rest, further, isRight, rfl⟩ := readsSecond.mem_ends.mp inSecond
  have split : middle = v ++ rest := further
  subst split
  refine ⟨u, v, rest, ahead, isLeft, isRight, rfl, rfl, ?_⟩
  simp [apart, Match.groupText, Match.group?, Match.ofPoints, Point.remember, Point.past,
    Capture.text, List.lookup_cons, ahead]

theorem ends_edge_ne_nil (readsFirst : Reads first left) (readsSecond : Reads second right)
    {u v rest : List Char} (ahead : p.after = u ++ (v ++ rest))
    (isLeft : left p.before u (v ++ rest)) (isRight : right (u.reverse ++ p.before) v rest) :
    (group 1 first ++ group 2 second).ends p ≠ [] := by
  have inFirst : p.past u (v ++ rest) ∈ first.ends p :=
    readsFirst.mem_ends.mpr ⟨u, v ++ rest, ahead, isLeft, rfl⟩
  have inSecond := readsSecond.mem_ends (p := (p.past u (v ++ rest)).remember 1 p).mpr
    ⟨v, rest, rfl, isRight, rfl⟩
  apply List.ne_nil_of_mem
  apply mem_ends_seq.mpr
  exact ⟨_, mem_ends_group.mpr ⟨_, inFirst, rfl⟩, mem_ends_group.mpr ⟨_, inSecond, rfl⟩⟩

end

theorem reads_capital : Reads (.set CharSet.upper) fun _ taken _ =>
    ∃ c, taken = [c] ∧ Text.isAsciiUpper c = true :=
  (reads_set _).congr fun _ _ _ => by simp only [CharSet.contains_upper]

private theorem reads_capitals : Reads CharSet.upper.some fun _ taken _ =>
    taken ≠ [] ∧ ∀ c ∈ taken, Text.isAsciiUpper c = true :=
  (reads_some _).congr fun _ _ _ => by simp only [CharSet.contains_upper]

private theorem reads_smallOrDigit : Reads (.set (CharSet.lower ∪ CharSet.range '0' '9'))
    fun _ taken _ => ∃ c, taken = [c] ∧ isSmallOrDigit c = true :=
  (reads_set _).congr fun _ _ _ => by simp only [smallOrDigit_contains]

private theorem reads_capitalised :
    Reads (.set CharSet.upper ++ .set CharSet.lower) fun _ taken _ =>
    ∃ c d, taken = [c, d] ∧ Text.isAsciiUpper c = true ∧ Text.isAsciiLower d = true := by
  refine (reads_seq reads_capital (reads_set _)).congr fun _ taken _ => ?_
  constructor
  · rintro ⟨_, _, rfl, ⟨c, rfl, capital⟩, d, rfl, small⟩
    exact ⟨c, d, rfl, capital, CharSet.contains_lower d ▸ small⟩
  · rintro ⟨c, d, rfl, capital, small⟩
    exact ⟨[c], [d], rfl, ⟨c, rfl, capital⟩, d, rfl, (CharSet.contains_lower d).trans small⟩

/-! Where blanks are written. -/

private theorem beginsAcronym_of_not_upper {c : Char} (small : Text.isAsciiUpper c = false)
    (rest : List Char) : beginsAcronym (c :: rest) = false := by
  rw [beginsAcronym.eq_def]
  split
  · rename_i same
    cases same
    rw [small]
    rfl
  · rfl

theorem beginsCamel_of_upper {c : Char} (capital : Text.isAsciiUpper c = true)
    (rest : List Char) : beginsCamel (c :: rest) = false := by
  cases rest with
  | nil => rfl
  | cons d rest => rw [beginsCamel, isSmallOrDigit_of_upper capital, Bool.false_and]

theorem spread_of_not {test : List Char → Bool} {c : Char} {rest : List Char}
    (unmarked : test (c :: rest) = false) : spread test (c :: rest) = c :: spread test rest := by
  rw [spread, unmarked]
  rfl

theorem spread_of {test : List Char → Bool} {c : Char} {rest : List Char}
    (marked : test (c :: rest) = true) :
    spread test (c :: rest) = c :: ' ' :: spread test rest := by
  rw [spread, marked]
  rfl

private theorem spread_capitals {capitals : List Char} (some : capitals ≠ []) {d e : Char}
    (each : ∀ c ∈ capitals, Text.isAsciiUpper c = true) (capital : Text.isAsciiUpper d = true)
    (small : Text.isAsciiLower e = true) (rest : List Char) :
    spread beginsAcronym (capitals ++ d :: e :: rest) =
      capitals ++ ' ' :: d :: e :: spread beginsAcronym rest := by
  have notCapital := Text.isAsciiUpper_of_lower small
  induction capitals with
  | nil => exact absurd rfl some
  | cons c capitals ih =>
      rw [List.forall_mem_cons] at each
      cases capitals with
      | nil =>
          have edge : beginsAcronym (c :: d :: e :: rest) = true := by
            rw [beginsAcronym, each.1, capital, small]
            rfl
          have word : beginsAcronym (d :: e :: rest) = false := by
            cases rest <;> simp [beginsAcronym, notCapital]
          rw [List.singleton_append, spread_of edge, spread_of_not word,
            spread_of_not (beginsAcronym_of_not_upper notCapital rest)]
          rfl
      | cons x capitals =>
          -- the second next character is still a capital
          have inside : beginsAcronym (c :: x :: (capitals ++ d :: e :: rest)) = false := by
            cases capitals with
            | nil => simp [beginsAcronym, Text.isAsciiLower_of_upper capital]
            | cons y capitals =>
                simp [beginsAcronym, Text.isAsciiLower_of_upper (each.2 y (by simp))]
          rw [List.cons_append, List.cons_append, spread_of_not inside, ← List.cons_append,
            ih (by simp) each.2]
          rfl

private theorem spread_acronym (name : List Char) :
    acronymEdge.replaceAll apart name = spread beginsAcronym name := by
  apply replaceAll_eq
  · intro p q member
    obtain ⟨u, v, rest, _, ⟨some, _⟩, _, offset, _⟩ :=
      exists_of_mem_edge reads_capitals reads_capitalised member
    have length := List.length_pos_iff.mpr some
    omega
  · rfl
  · intro p c rest ahead unmatched
    apply spread_of_not
    rw [← Bool.not_eq_true, beginsAcronym.eq_def]
    intro begins
    split at begins
    · rename_i c d e rest same
      simp only [Bool.and_eq_true] at begins
      refine ends_edge_ne_nil reads_capitals reads_capitalised (u := [c]) (v := [d, e])
        (ahead.trans same) ⟨by simp, ?_⟩ ⟨d, e, rfl, begins.1.2, begins.2⟩ unmatched
      simpa using begins.1.1
    · cases begins
  · intro p q member
    obtain ⟨u, v, rest, ahead, ⟨some, each⟩, ⟨d, e, rfl, capital, small⟩, _, after, written⟩ :=
      exists_of_mem_edge reads_capitals reads_capitalised member
    rw [ahead, after, written]
    exact (spread_capitals some each capital small rest).trans (by simp)

private theorem spread_camel (name : List Char) :
    camelEdge.replaceAll apart name = spread beginsCamel name := by
  apply replaceAll_eq
  · intro p q member
    obtain ⟨u, v, rest, _, ⟨c, rfl, _⟩, _, offset, _⟩ :=
      exists_of_mem_edge reads_smallOrDigit reads_capital member
    simp only [List.length_singleton] at offset
    omega
  · rfl
  · intro p c rest ahead unmatched
    apply spread_of_not
    rw [← Bool.not_eq_true, beginsCamel.eq_def]
    intro begins
    split at begins
    · rename_i c d rest same
      rw [Bool.and_eq_true] at begins
      exact ends_edge_ne_nil reads_smallOrDigit reads_capital (u := [c]) (v := [d])
        (ahead.trans same) ⟨c, rfl, begins.1⟩ ⟨d, rfl, begins.2⟩ unmatched
    · cases begins
  · intro p q member
    obtain ⟨u, v, rest, ahead, ⟨c, rfl, small⟩, ⟨d, rfl, capital⟩, _, after, written⟩ :=
      exists_of_mem_edge reads_smallOrDigit reads_capital member
    have edge : beginsCamel (c :: d :: rest) = true := by
      rw [beginsCamel, small, capital]
      rfl
    rw [ahead, after, written]
    simp [spread_of edge, spread_of_not (beginsCamel_of_upper capital rest)]

@[simp] theorem head?_spread (test : List Char → Bool) (text : List Char) :
    (spread test text).head? = text.head? := by
  cases text with
  | nil => rfl
  | cons c rest =>
      rw [spread]
      split <;> rfl

private theorem beginsCamel_congr {c : Char} {first second : List Char}
    (same : first.head? = second.head?) :
    beginsCamel (c :: first) = beginsCamel (c :: second) := by
  cases first <;> cases second <;> simp_all [beginsCamel]

@[simp] theorem beginsCamel_blank (rest : List Char) : beginsCamel (' ' :: rest) = false := by
  cases rest <;> rfl

/-- A blank that is written behind a capital hides no edge from the second pass. -/
theorem spread_spread (name : List Char) :
    spread beginsCamel (spread beginsAcronym name) = spread endsWord name := by
  induction name with
  | nil => rfl
  | cons c rest ih =>
      cases acronym : beginsAcronym (c :: rest) with
      | true =>
          have marked : endsWord (c :: rest) = true := by rw [endsWord, acronym, Bool.or_true]
          have unmarked : beginsCamel (c :: ' ' :: spread beginsAcronym rest) = false :=
            Bool.and_false _
          rw [spread_of acronym, spread_of marked, spread_of_not unmarked,
            spread_of_not (beginsCamel_blank _), ih]
      | false =>
          have camel : beginsCamel (c :: spread beginsAcronym rest) = endsWord (c :: rest) := by
            rw [endsWord, acronym, Bool.or_false, beginsCamel_congr (head?_spread _ rest)]
          rw [spread_of_not acronym, spread, spread, camel, ih]

/-! Cutting at separators. -/

private theorem reads_separators : Reads separators fun _ taken _ =>
    taken ≠ [] ∧ ∀ c ∈ taken, isSeparator c = true :=
  (reads_some _).congr fun _ _ _ => by simp only [separators_contains]

/-- A run of separators counts as one cut, which shows in empty pieces only. -/
theorem splitBy_separators (text : List Char) :
    (separators.splitBy text).filter (!·.isEmpty) =
      (Text.splitWhere isSeparator text).filter (!·.isEmpty) := by
  have pieces : ∃ first more others, separators.splitBy text = first :: more ∧
      Text.splitWhere isSeparator text = first :: others ∧
        more.filter (!·.isEmpty) = others.filter (!·.isEmpty) := by
    apply splitBy_induct (fun text pieces =>
      ∃ first more others, pieces = first :: more ∧
        Text.splitWhere isSeparator text = first :: others ∧
          more.filter (!·.isEmpty) = others.filter (!·.isEmpty))
    · intro p q member
      obtain ⟨taken, rest, _, ⟨some, _⟩, rfl⟩ := reads_separators.mem_ends.mp member
      exact Nat.lt_add_of_pos_right (List.length_pos_iff.mpr some)
    · exact ⟨[], [], [], rfl, rfl, rfl⟩
    · rintro p c rest _ ahead unmatched ⟨first, more, others, rfl, cut, same⟩
      have kept : isSeparator c = false := by
        rw [← Bool.not_eq_true]
        intro isCut
        refine List.ne_nil_of_mem (reads_separators.mem_ends.mpr
          ⟨[c], rest, ahead, ⟨by simp, by simpa using isCut⟩, rfl⟩) unmatched
      exact ⟨c :: first, more, others, rfl, by rw [Text.splitWhere_of_not kept, cut]; rfl, same⟩
    · rintro p q member _ ⟨first, more, others, rfl, cut, same⟩
      obtain ⟨taken, rest, ahead, ⟨some, each⟩, rfl⟩ := reads_separators.mem_ends.mp member
      obtain ⟨c, taken, rfl⟩ := List.exists_cons_of_ne_nil some
      rw [List.forall_mem_cons] at each
      refine ⟨[], first :: more, List.replicate taken.length [] ++ first :: others, rfl, ?_, ?_⟩
      · rw [ahead, List.cons_append, Text.splitWhere_of each.1, Text.splitWhere_all each.2]
        exact congrArg _ (congrArg _ cut)
      · simp [List.filter_cons, same]
  obtain ⟨first, more, others, split, cut, same⟩ := pieces
  rw [split, cut, List.filter_cons, List.filter_cons, same]

private theorem isSeparator_of_endsWord {c : Char} {rest : List Char}
    (marked : endsWord (c :: rest) = true) : isSeparator c = false := by
  apply isSeparator_of_alnum
  rw [Text.isAsciiAlnum_iff]
  rw [endsWord, Bool.or_eq_true, beginsCamel.eq_def, beginsAcronym.eq_def] at marked
  rcases marked with camel | acronym
  · split at camel
    · rename_i same
      cases same
      rw [Bool.and_eq_true, isSmallOrDigit, Bool.or_eq_true] at camel
      exact camel.1.imp_right .inr
    · cases camel
  · split at acronym
    · rename_i same
      cases same
      rw [Bool.and_eq_true, Bool.and_eq_true] at acronym
      exact .inr (.inl acronym.1.1)
    · cases acronym

theorem splitWhere_spread (name : List Char) :
    Text.splitWhere isSeparator (spread endsWord name) = chop name := by
  induction name with
  | nil => rfl
  | cons c rest ih =>
      rw [chop]
      cases marked : endsWord (c :: rest) with
      | true =>
          have kept := isSeparator_of_endsWord marked
          rw [spread_of marked, Text.splitWhere_of_not kept, Text.splitWhere_of (by decide), ih,
            kept]
          rfl
      | false =>
          rw [spread_of_not marked]
          cases cut : isSeparator c with
          | true => rw [Text.splitWhere_of cut, ih]; rfl
          | false => rw [Text.splitWhere_of_not cut, ih]; rfl

theorem pieces_eq (name : List Char) : pieces name = (chop name).filter (!·.isEmpty) := by
  rw [pieces, spread_acronym, spread_camel, spread_spread, splitBy_separators, splitWhere_spread]

/-! A name is cut at its separators, and before the capitals that the characters next to them show
to begin a word. -/

/-- A capital after a small letter or digit, or between a capital and a small letter. -/
def beginsWord (name : List Char) (place : Nat) : Bool :=
  0 < place && name[place]?.any Text.isAsciiUpper &&
    (name[place - 1]?.any isSmallOrDigit ||
      name[place - 1]?.any Text.isAsciiUpper && name[place + 1]?.any Text.isAsciiLower)

def areJoined (name : List Char) (entry next : Char × Nat) : Bool :=
  next.2 == entry.2 + 1 && !beginsWord name next.2

def isKept (entry : Char × Nat) : Bool := !isSeparator entry.1

/-- The characters that are no separators, with their places, cut where a place is left out or a
word begins. -/
def wordsOf (name : List Char) : List (List Char) :=
  ((name.zipIdx.filter isKept).splitBy (areJoined name)).map (·.map Prod.fst)

private theorem splitBy_cons_of {α : Type} {r : α → α → Bool} {a b : α} (related : r a b = true)
    (rest : List α) :
    (a :: b :: rest).splitBy r = ((b :: rest).splitBy r).modifyHead (a :: ·) := by
  obtain ⟨whole, nonempty, chains, breaks⟩ := List.splitBy_eq_iff.mp
    (Eq.refl ((b :: rest).splitBy r))
  cases split : (b :: rest).splitBy r with
  | nil => exact absurd split (List.splitBy_ne_nil.mpr (List.cons_ne_nil b rest))
  | cons piece more =>
      rw [split] at whole nonempty chains breaks
      obtain ⟨x, piece, rfl⟩ := List.exists_cons_of_ne_nil
        (fun empty : piece = [] => nonempty (empty ▸ List.mem_cons_self))
      obtain ⟨rfl, rfl⟩ := List.cons.inj whole
      rw [List.splitBy_eq_iff]
      refine ⟨rfl, ?_, ?_, ?_⟩
      · simpa using nonempty
      · intro m member
        cases List.mem_cons.mp member with
        | inl here =>
            rw [here, List.isChain_cons_cons]
            exact ⟨related, chains _ List.mem_cons_self⟩
        | inr later => exact chains m (List.mem_cons_of_mem _ later)
      · cases more with
        | nil => exact .singleton _
        | cons next more =>
            rw [List.isChain_cons_cons] at breaks
            obtain ⟨⟨some, others, apart⟩, rest⟩ := breaks
            refine .cons_cons ⟨List.cons_ne_nil _ _, others, ?_⟩ rest
            rwa [List.getLast_cons some]

theorem beginsWord_after (before rest : List Char) (c : Char) :
    beginsWord (before ++ c :: rest) (before.length + 1) = endsWord (c :: rest) := by
  have place (n : Nat) : (before ++ c :: rest)[before.length + n]? = (c :: rest)[n]? := by
    rw [List.getElem?_append_right (Nat.le_add_right _ _), Nat.add_sub_cancel_left]
  rw [beginsWord, Nat.add_sub_cancel, Nat.add_assoc, place 1, place 2, ← Nat.add_zero before.length,
    place 0]
  cases rest with
  | nil => simp [endsWord, beginsCamel, beginsAcronym]
  | cons d rest =>
      cases rest with
      | nil => simp [endsWord, beginsCamel, beginsAcronym, Bool.and_comm]
      | cons e rest =>
          have neighbours : (decide (0 < before.length + 1) &&
              (c :: d :: e :: rest)[1]?.any Text.isAsciiUpper &&
                ((c :: d :: e :: rest)[0]?.any isSmallOrDigit ||
                  (c :: d :: e :: rest)[0]?.any Text.isAsciiUpper &&
                    (c :: d :: e :: rest)[2]?.any Text.isAsciiLower)) =
              (Text.isAsciiUpper d && (isSmallOrDigit c ||
                Text.isAsciiUpper c && Text.isAsciiLower e)) := by simp
          rw [endsWord, beginsCamel, beginsAcronym]
          refine neighbours.trans ?_
          cases isSmallOrDigit c <;> cases Text.isAsciiUpper d <;> simp

def goesOn (text : List Char) : Bool :=
  text.tail.head?.any (!isSeparator ·) && !endsWord text

theorem chop_ne_nil (name : List Char) : chop name ≠ [] := by
  rw [← splitWhere_spread]
  exact Text.splitWhere_ne_nil _ _

private theorem exists_chop {c : Char} (rest : List Char) (kept : isSeparator c = false) :
    ∃ piece more, chop (c :: rest) = (c :: piece) :: more := by
  rw [chop, kept]
  split
  · contradiction
  · split
    · exact ⟨[], chop rest, rfl⟩
    · cases chopped : chop rest with
      | nil => exact absurd chopped (chop_ne_nil rest)
      | cons piece more => exact ⟨piece, more, rfl⟩

private theorem filter_chop {c : Char} (rest : List Char) (kept : isSeparator c = false) :
    (chop (c :: rest)).filter (!·.isEmpty) =
      if goesOn (c :: rest) then ((chop rest).filter (!·.isEmpty)).modifyHead (c :: ·)
      else [c] :: (chop rest).filter (!·.isEmpty) := by
  rw [chop, kept, goesOn]
  cases marked : endsWord (c :: rest) with
  | true => simp
  | false =>
      cases rest with
      | nil => simp [chop]
      | cons d rest =>
          cases cut : isSeparator d with
          | true => simp [chop, cut]
          | false =>
              obtain ⟨piece, more, chopped⟩ := exists_chop rest cut
              simp [chopped, cut]

private theorem areJoined_of_not_goesOn (before : List Char) {c : Char} {rest : List Char}
    (ends : goesOn (c :: rest) = false) {next : Char × Nat}
    (later : next ∈ (rest.zipIdx (before.length + 1)).filter isKept) :
    areJoined (before ++ c :: rest) (c, before.length) next = false := by
  obtain ⟨member, kept⟩ := List.mem_filter.mp later
  rw [areJoined]
  by_cases adjacent : next.2 = before.length + 1
  · obtain ⟨x, place⟩ := next
    obtain rfl : place = before.length + 1 := adjacent
    have first : rest.head? = some x := by
      have located := (List.mem_zipIdx_iff_le_and_getElem?_sub.mp member).2
      rwa [Nat.sub_self, ← List.head?_eq_getElem?] at located
    have begins : endsWord (c :: rest) = true := by
      have inWord : (!isSeparator x) = true := kept
      simpa [goesOn, first, inWord] using ends
    rw [beginsWord_after, begins]
    simp
  · simp [adjacent]

private theorem splitBy_kept (before ahead : List Char) :
    (((ahead.zipIdx before.length).filter isKept).splitBy (areJoined (before ++ ahead))).map
        (·.map Prod.fst) =
      (chop ahead).filter (!·.isEmpty) := by
  -- `before` only moves on: the places of the rest are counted in the whole name
  induction ahead generalizing before with
  | nil => rfl
  | cons c rest ih =>
      have onward := ih (before ++ [c])
      rw [List.append_assoc, List.singleton_append, List.length_append, List.length_singleton]
        at onward
      rw [List.zipIdx_cons, List.filter_cons]
      cases cut : isSeparator c with
      | true =>
          rw [isKept, cut, chop, cut]
          exact onward
      | false =>
          rw [isKept, cut, filter_chop rest cut, ← onward]
          cases on : goesOn (c :: rest) with
          | true =>
              rw [goesOn, Bool.and_eq_true, Bool.not_eq_true'] at on
              cases rest with
              | nil => cases on.1
              | cons d rest =>
                  have next : isKept (d, before.length + 1) = true := on.1
                  rw [List.zipIdx_cons, List.filter_cons, next]
                  have joined : areJoined (before ++ c :: d :: rest) (c, before.length)
                      (d, before.length + 1) = true := by
                    rw [areJoined, beginsWord_after, on.2]
                    simp
                  simp only [Bool.not_false, if_true, splitBy_cons_of joined]
                  -- places are forgotten in every piece alike, whatever the first piece is
                  cases List.splitBy (areJoined (before ++ c :: d :: rest))
                    ((d, before.length + 1) ::
                      (rest.zipIdx (before.length + 1 + 1)).filter isKept) <;> rfl
          | false =>
              have apart : ∀ entry ∈ [(c, before.length)].getLast?,
                  ∀ next ∈ ((rest.zipIdx (before.length + 1)).filter isKept).head?,
                    areJoined (before ++ c :: rest) entry next = false := by
                intro entry last next first
                obtain rfl : (c, before.length) = entry := by simpa using last
                exact areJoined_of_not_goesOn before on (List.mem_of_mem_head? first)
              have cuts := List.splitBy_append apart
              rw [List.singleton_append] at cuts
              simp only [Bool.not_false, if_true, cuts]
              rfl

private theorem pieces_eq_wordsOf (name : List Char) : pieces name = wordsOf name := by
  rw [pieces_eq]
  exact (splitBy_kept [] name).symm

private theorem flatten_wordsOf (name : List Char) :
    (wordsOf name).flatten = name.filter (!isSeparator ·) := by
  have unplaced : (name.zipIdx.filter isKept).map Prod.fst = name.filter (!isSeparator ·) := by
    have kept := List.filter_map (f := Prod.fst) (p := (!isSeparator ·)) (l := name.zipIdx)
    rw [List.zipIdx_map_fst] at kept
    exact kept.symm
  rw [wordsOf, ← List.map_flatten, List.flatten_splitBy, unplaced]

/-- The words of a name in lower case are the pieces that a look at each place and its neighbours
gives; nothing but separators is lost. -/
theorem segments_local (name : String) :
    segments name =
        (wordsOf name.toList).map (fun word => String.ofList (Text.lowerChars word)) ∧
      (wordsOf name.toList).flatten = name.toList.filter (!isSeparator ·) := by
  refine ⟨?_, flatten_wordsOf name.toList⟩
  rw [segments, pieces_eq_wordsOf]

end MobileAudit.Naming
