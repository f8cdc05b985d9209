import MobileAudit.Text.Split

namespace MobileAudit.Text

/-! Texts that are cut into pieces and put together again. -/

theorem splitWhere_of {cut : Char → Bool} {c : Char} {rest : List Char} (isCut : cut c = true) :
    splitWhere cut (c :: rest) = [] :: splitWhere cut rest := by
  rw [splitWhere, isCut]
  rfl

theorem splitWhere_of_not {cut : Char → Bool} {c : Char} {rest : List Char}
    (kept : cut c = false) :
    splitWhere cut (c :: rest) = (splitWhere cut rest).modifyHead (c :: ·) := by
  rw [splitWhere, kept]
  cases pieces : splitWhere cut rest with
  | nil => exact absurd pieces (splitWhere_ne_nil cut rest)
  | cons piece more => rfl

theorem splitWhere_all {cut : Char → Bool} {dropped : List Char}
    (each : ∀ c ∈ dropped, cut c = true) (rest : List Char) :
    splitWhere cut (dropped ++ rest) =
      List.replicate dropped.length [] ++ splitWhere cut rest := by
  induction dropped with
  | nil => rfl
  | cons c dropped ih =>
      rw [List.forall_mem_cons] at each
      rw [List.cons_append, splitWhere_of each.1, ih each.2]
      rfl

theorem splitWhere_piece (cut : Char → Bool) (piece : List Char)
    (whole : ∀ c ∈ piece, cut c = false) : splitWhere cut piece = [piece] := by
  induction piece with
  | nil => rfl
  | cons c piece ih =>
      rw [splitWhere, ih fun d member => whole d (by simp [member])]
      simp [whole c (by simp)]

theorem splitWhere_append (cut : Char → Bool) (piece : List Char) (c : Char) (rest : List Char)
    (whole : ∀ d ∈ piece, cut d = false) (isCut : cut c = true) :
    splitWhere cut (piece ++ c :: rest) = piece :: splitWhere cut rest := by
  induction piece with
  | nil =>
      rw [List.nil_append, splitWhere]
      simp [isCut]
  | cons d piece ih =>
      rw [List.cons_append, splitWhere, ih fun d member => whole d (by simp [member])]
      simp [whole d (by simp)]

theorem not_cut_of_mem_splitWhere (cut : Char → Bool) (text : List Char) :
    ∀ piece ∈ splitWhere cut text, ∀ c ∈ piece, cut c = false := by
  induction text with
  | nil => simp
  | cons c rest ih =>
      intro piece member d inside
      rw [splitWhere] at member
      split at member
      · rw [List.mem_cons] at member
        obtain rfl | later := member
        · cases inside
        · exact ih piece later d inside
      · rename_i uncut
        split at member
        · rename_i first more pieces
          rw [List.mem_cons] at member
          obtain rfl | later := member
          · rw [List.mem_cons] at inside
            obtain rfl | old := inside
            · simpa using uncut
            · exact ih first (by simp [pieces]) d old
          · exact ih piece (by simp [pieces, later]) d inside
        · rename_i none
          exact absurd none (splitWhere_ne_nil cut rest)

@[simp] theorem replaceChar_append (old new : Char) (first second : List Char) :
    replaceChar old new (first ++ second) =
      replaceChar old new first ++ replaceChar old new second :=
  List.map_append

theorem replaceChar_eq_self {old new : Char} {text : List Char} (apart : old ∉ text) :
    replaceChar old new text = text := by
  refine (List.map_congr_left fun c member => ?_).trans (List.map_id _)
  have other : (c == old) = false := by
    rw [beq_eq_false_iff_ne]
    rintro rfl
    exact apart member
  rw [other]
  rfl

theorem splitOn_intercalate (separator : Char) (piece : List Char) (pieces : List (List Char))
    (whole : ∀ p ∈ piece :: pieces, separator ∉ p) :
    splitOn separator ([separator].intercalate (piece :: pieces)) = piece :: pieces := by
  have uncut : ∀ p ∈ piece :: pieces, ∀ c ∈ p, (c == separator) = false := by
    intro p member c inside
    rw [beq_eq_false_iff_ne]
    rintro rfl
    exact whole p member inside
  induction pieces generalizing piece with
  | nil =>
      have only : [separator].intercalate [piece] = piece := by simp
      rw [only]
      exact splitWhere_piece _ piece (uncut piece (by simp))
  | cons second pieces ih =>
      have two : [separator].intercalate (piece :: second :: pieces) =
          piece ++ separator :: [separator].intercalate (second :: pieces) := by
        simp
      rw [two, splitOn, splitWhere_append _ piece separator _ (uncut piece (by simp)) (by simp)]
      rw [← splitOn, ih second (fun p member => whole p (by simp_all))
        fun p member => uncut p (by simp_all)]

/-! Joined pieces. -/

@[simp] theorem joinWith_nil (separator : List Char) : joinWith separator [] = [] := rfl

@[simp] theorem joinWith_singleton (separator piece : List Char) :
    joinWith separator [piece] = piece :=
  List.intercalate_singleton

theorem joinWith_cons (separator piece : List Char) {pieces : List (List Char)}
    (some : pieces ≠ []) :
    joinWith separator (piece :: pieces) = piece ++ (separator ++ joinWith separator pieces) := by
  rw [joinWith, List.intercalate_cons_of_ne_nil some, List.append_assoc]
  rfl

theorem joinWith_append (separator : List Char) {first second : List (List Char)}
    (someFirst : first ≠ []) (someSecond : second ≠ []) :
    joinWith separator (first ++ second) =
      joinWith separator first ++ (separator ++ joinWith separator second) := by
  induction first with
  | nil => exact absurd rfl someFirst
  | cons piece first ih =>
      cases first with
      | nil => rw [List.singleton_append, joinWith_cons _ _ someSecond, joinWith_singleton]
      | cons other first =>
          have whole := joinWith_cons separator piece (List.cons_ne_nil other first)
          rw [List.cons_append, joinWith_cons _ _ (by simp), ih (by simp), whole]
          simp only [List.append_assoc]

theorem mem_of_mem_joinWith {separator : List Char} {pieces : List (List Char)} {c : Char}
    (member : c ∈ joinWith separator pieces) : c ∈ separator ∨ ∃ piece ∈ pieces, c ∈ piece := by
  induction pieces with
  | nil => cases member
  | cons piece pieces ih =>
      cases pieces with
      | nil => exact .inr ⟨piece, by simp, by simpa using member⟩
      | cons other pieces =>
          rw [joinWith_cons _ _ (by simp), List.mem_append, List.mem_append] at member
          obtain here | between | later := member
          · exact .inr ⟨piece, by simp, here⟩
          · exact .inl between
          · obtain between | ⟨p, inside, there⟩ := ih later
            · exact .inl between
            · exact .inr ⟨p, List.mem_cons_of_mem _ inside, there⟩

theorem not_mem_joinWith {separator : List Char} {pieces : List (List Char)} {c : Char}
    (between : c ∉ separator) (inside : ∀ piece ∈ pieces, c ∉ piece) :
    c ∉ joinWith separator pieces := by
  intro member
  obtain isBetween | ⟨piece, isPiece, isInside⟩ := mem_of_mem_joinWith member
  · exact between isBetween
  · exact inside piece isPiece isInside

theorem joinWith_eq_append_cons {separator : Char} {pieces : List (List Char)}
    (apart : ∀ piece ∈ pieces, separator ∉ piece) {before after : List Char}
    (split : joinWith [separator] pieces = before ++ separator :: after) :
    ∃ first second, pieces = first ++ second ∧ first ≠ [] ∧ second ≠ [] ∧
      before = joinWith [separator] first ∧ after = joinWith [separator] second := by
  induction pieces generalizing before with
  | nil => exact absurd split.symm (by simp)
  | cons piece pieces ih =>
      have noSeparator : separator ∉ piece := apart piece (by simp)
      cases pieces with
      | nil =>
          rw [joinWith_singleton] at split
          exact absurd (by simp [split]) noSeparator
      | cons other pieces =>
          rw [joinWith_cons _ _ (by simp), List.singleton_append] at split
          obtain ⟨middle, rfl, rest⟩ | ⟨middle, rfl, rest⟩ := List.append_eq_append_iff.mp split
          · cases middle with
            | nil =>
                rw [List.nil_append, List.cons.injEq] at rest
                exact ⟨[piece], other :: pieces, rfl, by simp, by simp, by simp, rest.2.symm⟩
            | cons c middle =>
                rw [List.cons_append, List.cons.injEq] at rest
                obtain ⟨rfl, rest⟩ := rest
                obtain ⟨first, second, isSplit, someFirst, someSecond, rfl, rfl⟩ :=
                  ih (fun p member => apart p (by simp [member])) rest
                refine ⟨piece :: first, second, by rw [isSplit, List.cons_append], by simp,
                  someSecond, ?_, rfl⟩
                rw [joinWith_cons _ _ someFirst, List.singleton_append]
          · cases middle with
            | nil =>
                rw [List.nil_append, List.cons.injEq] at rest
                exact ⟨[before ++ []], other :: pieces, rfl, by simp, by simp, by simp, rest.2⟩
            | cons c middle =>
                rw [List.cons_append, List.cons.injEq] at rest
                exact absurd (by simp [rest.1]) noSeparator

theorem joinWith_ne_nil {separator : List Char} {pieces : List (List Char)} (some : pieces ≠ [])
    (nonempty : ∀ piece ∈ pieces, piece ≠ []) : joinWith separator pieces ≠ [] := by
  cases pieces with
  | nil => exact absurd rfl some
  | cons piece pieces =>
      have first := nonempty piece (by simp)
      cases pieces with
      | nil => rwa [joinWith_singleton]
      | cons other pieces => simp [joinWith_cons, first]

/-- Cutting a text and joining the pieces with another character replaces the one by the other. -/
@[simp] theorem joinWith_splitOn (old new : Char) (text : List Char) :
    joinWith [new] (splitOn old text) = replaceChar old new text := by
  unfold splitOn
  induction text with
  | nil => rfl
  | cons c rest ih =>
      have replaced : replaceChar old new (c :: rest) =
          (if c == old then new else c) :: replaceChar old new rest := rfl
      rw [splitWhere, replaced, ← ih]
      cases isOld : c == old with
      | true =>
          simp only [if_true]
          rw [joinWith_cons _ _ (splitWhere_ne_nil _ _)]
          rfl
      | false =>
          simp only [Bool.false_eq_true, if_false]
          cases pieces : splitWhere (· == old) rest with
          | nil => exact absurd pieces (splitWhere_ne_nil _ _)
          | cons piece more =>
              cases more with
              | nil => simp
              | cons second more =>
                  have whole := joinWith_cons [new] piece (List.cons_ne_nil second more)
                  rw [joinWith_cons _ _ (List.cons_ne_nil second more), whole]
                  rfl

private theorem mem_joinWith {separator piece : List Char} {pieces : List (List Char)} {c : Char}
    (isPiece : piece ∈ pieces) (inside : c ∈ piece) : c ∈ joinWith separator pieces := by
  induction pieces with
  | nil => cases isPiece
  | cons first pieces ih =>
      cases pieces with
      | nil =>
          rw [List.mem_singleton.mp isPiece] at inside
          rwa [joinWith_singleton]
      | cons second pieces =>
          rw [joinWith_cons _ _ (by simp), List.mem_append, List.mem_append]
          obtain rfl | later := List.mem_cons.mp isPiece
          · exact .inl inside
          · exact .inr (.inr (ih later))

/-! Trimmed texts and their fields. -/

theorem dropWhile_eq_self {test : Char → Bool} {text : List Char}
    (kept : ∀ c, text.head? = some c → test c = false) : text.dropWhile test = text := by
  cases text with
  | nil => rfl
  | cons c rest => rw [List.dropWhile_cons_of_neg (by simp [kept c rfl])]

theorem trim_eq_self {text : List Char} (noSpace : ∀ c ∈ text, isSpace c = false) :
    trim text = text := by
  have kept : ∀ letters : List Char, (∀ c ∈ letters, isSpace c = false) →
      letters.dropWhile isSpace = letters := fun letters none =>
    dropWhile_eq_self fun c isHead => none c (List.mem_of_head? isHead)
  have back : ∀ c ∈ text.reverse, isSpace c = false := fun c member =>
    noSpace c (List.mem_reverse.mp member)
  rw [trim, trimWhere, dropRightWhile, kept _ noSpace, kept _ back, List.reverse_reverse]

theorem fields_eq_singleton {text : List Char} (some : text ≠ [])
    (noSpace : ∀ c ∈ text, isSpace c = false) : fields text = [text] := by
  rw [fields, splitWhere_piece isSpace text noSpace]
  simp [some]

theorem dropWhile_append_stop {test : Char → Bool} {first second : List Char}
    (stops : second.dropWhile test = second) :
    (first ++ second).dropWhile test = first.dropWhile test ++ second := by
  rw [List.dropWhile_append, stops]
  split
  · rename_i none
    rw [List.isEmpty_iff.mp none, List.nil_append]
  · rfl

theorem dropRightWhile_append_stop {test : Char → Bool} {first second : List Char}
    (stops : dropRightWhile test first = first) :
    dropRightWhile test (first ++ second) = first ++ dropRightWhile test second := by
  unfold dropRightWhile at stops ⊢
  rw [List.reverse_append, dropWhile_append_stop (List.reverse_eq_iff.mp stops),
    List.reverse_append, List.reverse_reverse]

theorem mem_of_mem_splitOn {separator : Char} {text piece : List Char} {c : Char}
    (isPiece : piece ∈ splitOn separator text) (inside : c ∈ piece) : c ∈ text := by
  have member : c ∈ joinWith [separator] (splitOn separator text) := mem_joinWith isPiece inside
  rw [joinWith_splitOn] at member
  obtain ⟨d, isIn, isReplaced⟩ := List.mem_map.mp member
  have same : (if (d == separator) = true then separator else d) = d := by
    split
    · rename_i isSeparator
      exact (beq_iff_eq.mp isSeparator).symm
    · rfl
  rwa [← isReplaced, same]

theorem hasPiece_iff {piece text : List Char} : hasPiece piece text = true ↔ piece <:+: text := by
  suffices found : ∀ offset, (findOnto piece offset text).isSome = true ↔ piece <:+: text from
    found 0
  induction text with
  | nil =>
      intro offset
      rw [findOnto, List.infix_nil]
      cases piece <;> simp
  | cons c rest ih =>
      intro offset
      rw [findOnto, List.infix_cons_iff, ← List.isPrefixOf_iff_prefix]
      split
      · rename_i here
        simp [here]
      · rename_i elsewhere
        simp [elsewhere, ih]

structure IsFirst (piece text : List Char) (offset : Nat) : Prop where
  stands : piece <+: text.drop offset
  least : ∀ earlier < offset, ¬ piece <+: text.drop earlier

private theorem findOnto_of_stands {piece text : List Char} {n : Nat} (some : piece ≠ [])
    (stands : piece <+: text.drop n) (offset : Nat) :
    ∃ first ≤ n, findOnto piece offset text = .some (offset + first) ∧
      IsFirst piece text first := by
  induction text generalizing n offset with
  | nil =>
      rw [List.drop_nil, List.prefix_nil] at stands
      exact absurd stands some
  | cons c rest ih =>
      rw [findOnto]
      split
      · rename_i here
        exact ⟨0, Nat.zero_le n, rfl, List.isPrefixOf_iff_prefix.mp here, nofun⟩
      · rename_i elsewhere
        rw [List.isPrefixOf_iff_prefix] at elsewhere
        cases n with
        | zero => exact absurd stands elsewhere
        | succ n =>
            obtain ⟨first, bound, found, isFirst⟩ := ih stands (offset + 1)
            refine ⟨first + 1, Nat.succ_le_succ bound, ?_, isFirst.stands, fun earlier before => ?_⟩
            · rw [found, Nat.add_right_comm, Nat.add_assoc]
            · cases earlier with
              | zero => exact elsewhere
              | succ earlier => exact isFirst.least earlier (Nat.lt_of_succ_lt_succ before)

theorem find?_of_stands {piece text : List Char} {n : Nat} (some : piece ≠ [])
    (stands : piece <+: text.drop n) :
    ∃ first ≤ n, find? piece text = .some first ∧ IsFirst piece text first := by
  obtain ⟨first, bound, found, isFirst⟩ := findOnto_of_stands some stands 0
  exact ⟨first, bound, by rw [find?, found, Nat.zero_add], isFirst⟩

end MobileAudit.Text
