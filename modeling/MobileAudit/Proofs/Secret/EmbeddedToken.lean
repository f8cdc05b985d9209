import MobileAudit.Secret.Judgement
import MobileAudit.Proofs.Pattern.Search
import MobileAudit.Proofs.Text.Ascii

namespace MobileAudit.Secret

open Pattern

/-! Tokens inside a value: a token takes up a whole run of token characters, or three such runs with
points between them. -/

def isTokenChar (c : Char) : Bool := Text.isAsciiAlnum c || c == '_' || c == '-'

/-- A run of token characters that no further one touches. -/
structure IsTokenRun (value : List Char) (start : Nat) (run : List Char) : Prop where
  nonempty : run ≠ []
  tokens : ∀ c ∈ run, isTokenChar c = true
  placed : run <+: value.drop start
  freeBefore : ∀ c ∈ (value.take start).getLast?, isTokenChar c = false
  freeAfter : ∀ c ∈ value[start + run.length]?, isTokenChar c = false

def IsCodeHostToken (run : List Char) : Prop :=
  ∃ kind tail, run = "gh".toList ++ kind :: '_' :: tail ∧ kind ∈ "pousr".toList ∧
    36 ≤ tail.length ∧ ∀ c ∈ tail, Text.isAsciiAlnum c = true

def IsPaymentKey (run : List Char) : Prop :=
  ∃ kind mode tail, run = kind :: ("k_".toList ++ (mode ++ '_' :: tail)) ∧ kind ∈ "sr".toList ∧
    (mode = "live".toList ∨ mode = "test".toList) ∧
      24 ≤ tail.length ∧ ∀ c ∈ tail, Text.isAsciiAlnum c = true

def IsCloudKeyId (run : List Char) : Prop :=
  ∃ kind tail, run = kind ++ tail ∧ (kind = "AKIA".toList ∨ kind = "ASIA".toList) ∧
    tail.length = 16 ∧ ∀ c ∈ tail, Text.isAsciiDigit c = true ∨ Text.isAsciiUpper c = true

def IsMapsKey (run : List Char) : Prop :=
  ∃ tail, run = "AIza".toList ++ tail ∧ tail.length = 35 ∧ ∀ c ∈ tail, isTokenChar c = true

def IsChatToken (run : List Char) : Prop :=
  ∃ kind tail, run = "xox".toList ++ kind :: '-' :: tail ∧ kind ∈ "abprs".toList ∧
    10 ≤ tail.length ∧ ∀ c ∈ tail, Text.isAsciiAlnum c = true ∨ c = '-'

/-- A header that a point, a payload, another point and a signature follow. -/
def HeadsWebToken (value : List Char) (start : Nat) (header : List Char) : Prop :=
  (∃ tail, header = "eyJ".toList ++ tail ∧ 5 ≤ tail.length) ∧
    ∃ payload signature,
      value[start + header.length]? = some '.' ∧
      IsTokenRun value (start + header.length + 1) payload ∧ 5 ≤ payload.length ∧
      value[start + header.length + 1 + payload.length]? = some '.' ∧
      IsTokenRun value (start + header.length + 1 + payload.length + 1) signature ∧
        5 ≤ signature.length

def HoldsTokenAt (value : List Char) (start : Nat) : Prop :=
  ∃ run, IsTokenRun value start run ∧
    (HeadsWebToken value start run ∨ IsCodeHostToken run ∨ IsPaymentKey run ∨ IsCloudKeyId run ∨
      IsMapsKey run ∨ IsChatToken run)

/-! Classes of characters. -/

@[simp] theorem contains_letters (c : Char) : letters.contains c = Text.isAsciiLetter c := by
  rw [letters, CharSet.contains_union ⟨rfl, rfl⟩ ⟨rfl, rfl⟩, CharSet.contains_upper,
    CharSet.contains_lower, Bool.or_comm, Text.isAsciiLetter]

@[simp] theorem contains_alphanumerics (c : Char) :
    alphanumerics.contains c = Text.isAsciiAlnum c := by
  rw [alphanumerics, CharSet.contains_union ⟨rfl, rfl⟩ ⟨rfl, rfl⟩, contains_letters, digits,
    CharSet.contains_digits, Text.isAsciiAlnum]

@[simp] theorem contains_tokenChars (c : Char) : tokenChars.contains c = isTokenChar c := by
  rw [tokenChars, CharSet.contains_union ⟨rfl, rfl⟩ ⟨rfl, rfl⟩, contains_alphanumerics,
    CharSet.contains_ofChars, Bool.eq_iff_iff]
  simp [isTokenChar, or_assoc]

@[simp] theorem contains_digitOrCapital (c : Char) :
    (digits ∪ CharSet.upper).contains c = (Text.isAsciiDigit c || Text.isAsciiUpper c) := by
  rw [CharSet.contains_union ⟨rfl, rfl⟩ ⟨rfl, rfl⟩, digits, CharSet.contains_digits,
    CharSet.contains_upper]

@[simp] theorem contains_alnumOr (more : String) (c : Char) :
    (digits ∪ letters ∪ CharSet.ofChars more).contains c =
      (Text.isAsciiAlnum c || more.toList.contains c) := by
  rw [CharSet.contains_union ⟨rfl, rfl⟩ ⟨rfl, rfl⟩, CharSet.contains_union ⟨rfl, rfl⟩ ⟨rfl, rfl⟩,
    digits, CharSet.contains_digits, contains_letters, CharSet.contains_ofChars,
    Bool.or_comm (Text.isAsciiDigit c), Text.isAsciiAlnum]

/-! Shapes as languages. -/

theorem reads_kind (kinds : String) : Reads (.set (.ofChars kinds)) fun _ taken _ =>
    ∃ kind, taken = [kind] ∧ kind ∈ kinds.toList :=
  (reads_set _).congr fun _ _ _ => by
    simp only [CharSet.contains_ofChars, List.contains_iff_mem]

theorem reads_either (first second : String) : Reads (words [first, second]) fun _ taken _ =>
    taken = first.toList ∨ taken = second.toList :=
  reads_alt (reads_lit first) (reads_lit second)

theorem reads_atLeast {chars : CharSet} {test : Char → Prop}
    (named : ∀ c, chars.contains c = true ↔ test c) (least : Nat) :
    Reads (chars.atLeast least) fun _ taken _ => least ≤ taken.length ∧ ∀ c ∈ taken, test c :=
  (reads_run chars least none).congr fun _ _ _ => by simp [named]

theorem reads_exactly {chars : CharSet} {test : Char → Prop}
    (named : ∀ c, chars.contains c = true ↔ test c) (count : Nat) :
    Reads (chars.exactly count) fun _ taken _ => taken.length = count ∧ ∀ c ∈ taken, test c :=
  (reads_run chars count (some count)).congr fun _ taken _ => by
    simp only [named, Option.mem_def, Option.some.injEq, forall_eq', ← and_assoc]
    rw [and_comm (a := count ≤ _), ← Nat.le_antisymm_iff]

theorem reads_codeHostToken : Reads codeHostToken fun _ taken _ => IsCodeHostToken taken := by
  refine (reads_seq (reads_lit "gh") (reads_seq (reads_kind "pousr") (reads_seq (reads_lit "_")
    (reads_atLeast (fun c => by rw [contains_alphanumerics]) 36)))).congr fun _ taken _ => ?_
  constructor
  · rintro ⟨_, _, rfl, rfl, _, _, rfl, ⟨kind, rfl, member⟩, _, tail, rfl, rfl, long, each⟩
    exact ⟨kind, tail, rfl, member, long, each⟩
  · rintro ⟨kind, tail, rfl, member, long, each⟩
    exact ⟨_, _, rfl, rfl, [kind], _, rfl, ⟨kind, rfl, member⟩, _, tail, rfl, rfl, long, each⟩

theorem reads_paymentKey : Reads paymentKey fun _ taken _ => IsPaymentKey taken := by
  refine (reads_seq (reads_kind "sr") (reads_seq (reads_lit "k_") (reads_seq
    (reads_either "live" "test") (reads_seq (reads_lit "_")
      (reads_atLeast (fun c => by rw [contains_alphanumerics]) 24))))).congr fun _ taken _ => ?_
  constructor
  · rintro ⟨_, _, rfl, ⟨kind, rfl, member⟩, _, _, rfl, rfl, mode, _, rfl, isMode, _, tail, rfl, rfl,
      long, each⟩
    exact ⟨kind, mode, tail, rfl, member, isMode, long, each⟩
  · rintro ⟨kind, mode, tail, rfl, member, isMode, long, each⟩
    exact ⟨[kind], _, rfl, ⟨kind, rfl, member⟩, _, _, rfl, rfl, mode, _, rfl, isMode, _, tail, rfl,
      rfl, long, each⟩

theorem reads_cloudKeyId : Reads cloudKeyId fun _ taken _ => IsCloudKeyId taken := by
  refine (reads_seq (reads_either "AKIA" "ASIA") (reads_exactly (fun c => by
    rw [contains_digitOrCapital, Bool.or_eq_true]) 16)).congr fun _ taken _ => ?_
  constructor
  · rintro ⟨kind, tail, rfl, isKind, count, each⟩
    exact ⟨kind, tail, rfl, isKind, count, each⟩
  · rintro ⟨kind, tail, rfl, isKind, count, each⟩
    exact ⟨kind, tail, rfl, isKind, count, each⟩

theorem reads_mapsKey : Reads mapsKey fun _ taken _ => IsMapsKey taken := by
  have named (c : Char) : (digits ∪ letters ∪ CharSet.ofChars "_-").contains c = true ↔
      isTokenChar c = true := by
    rw [contains_alnumOr]
    simp [isTokenChar, or_assoc]
  refine (reads_seq (reads_lit "AIza") (reads_exactly named 35)).congr fun _ taken _ => ?_
  constructor
  · rintro ⟨_, tail, rfl, rfl, count, each⟩
    exact ⟨tail, rfl, count, each⟩
  · rintro ⟨tail, rfl, count, each⟩
    exact ⟨_, tail, rfl, rfl, count, each⟩

theorem reads_chatToken : Reads chatToken fun _ taken _ => IsChatToken taken := by
  have named (c : Char) : (digits ∪ letters ∪ CharSet.ofChars "-").contains c = true ↔
      Text.isAsciiAlnum c = true ∨ c = '-' := by
    rw [contains_alnumOr]
    simp
  refine (reads_seq (reads_lit "xox") (reads_seq (reads_kind "abprs") (reads_seq (reads_lit "-")
    (reads_atLeast named 10)))).congr fun _ taken _ => ?_
  constructor
  · rintro ⟨_, _, rfl, rfl, _, _, rfl, ⟨kind, rfl, member⟩, _, tail, rfl, rfl, long, each⟩
    exact ⟨kind, tail, rfl, member, long, each⟩
  · rintro ⟨kind, tail, rfl, member, long, each⟩
    exact ⟨_, _, rfl, rfl, [kind], _, rfl, ⟨kind, rfl, member⟩, _, tail, rfl, rfl, long, each⟩

def IsWebToken (taken : List Char) : Prop :=
  ∃ tail payload signature,
    taken = "eyJ".toList ++ tail ++ '.' :: (payload ++ '.' :: signature) ∧
      (5 ≤ tail.length ∧ ∀ c ∈ tail, isTokenChar c = true) ∧
      (5 ≤ payload.length ∧ ∀ c ∈ payload, isTokenChar c = true) ∧
        5 ≤ signature.length ∧ ∀ c ∈ signature, isTokenChar c = true

theorem reads_webToken : Reads webToken fun _ taken _ => IsWebToken taken := by
  have part := reads_atLeast (fun c => by rw [contains_tokenChars]) 5
  refine (reads_seq (reads_lit "eyJ") (reads_seq part (reads_seq (reads_lit ".") (reads_seq part
    (reads_seq (reads_lit ".") part))))).congr fun _ taken _ => ?_
  constructor
  · rintro ⟨_, _, rfl, rfl, tail, _, rfl, isTail, _, _, rfl, rfl, payload, _, rfl, isPayload, _,
      signature, rfl, rfl, isSignature⟩
    exact ⟨tail, payload, signature, by simp, isTail, isPayload, isSignature⟩
  · rintro ⟨tail, payload, signature, rfl, isTail, isPayload, isSignature⟩
    exact ⟨_, _, List.append_assoc .., rfl, tail, _, rfl, isTail, _, _, rfl, rfl, payload, _, rfl,
      isPayload, _, signature, rfl, rfl, isSignature⟩

/-! Where shapes stand in a value. -/

section

variable {shape : Pattern} {language : List Char → Prop} {value : List Char} {start : Nat}

theorem matchesAt_embedded (reads : Reads shape fun _ taken _ => language taken) :
    (embedded shape).MatchesAt value start ↔
      start ≤ value.length ∧ ∃ taken, language taken ∧ taken <+: value.drop start ∧
        (∀ c ∈ (value.take start).getLast?, isTokenChar c = false) ∧
          ∀ c ∈ value[start + taken.length]?, isTokenChar c = false := by
  rw [embedded, matchesAt_reads (reads_seq (reads_notAfter tokenChars)
    (reads_seq reads (reads_notBefore_set tokenChars)))]
  refine and_congr_right fun _ => ?_
  simp only [List.head?_reverse, contains_tokenChars]
  constructor
  · rintro ⟨_, rest, ahead, _, _, rfl, ⟨rfl, free⟩, taken, _, rfl, isIn, rfl, closed⟩
    rw [List.nil_append, List.append_nil] at ahead
    refine ⟨taken, isIn, ⟨rest, ahead.symm⟩, free, ?_⟩
    rwa [← List.getElem?_drop, ahead, List.getElem?_append_right (Nat.le_refl _), Nat.sub_self,
      ← List.head?_eq_getElem?]
  · rintro ⟨taken, isIn, ⟨rest, ahead⟩, free, closed⟩
    rw [← List.getElem?_drop, ← ahead, List.getElem?_append_right (Nat.le_refl _), Nat.sub_self,
      ← List.head?_eq_getElem?] at closed
    exact ⟨taken, rest, ahead.symm, [], taken, rfl, ⟨rfl, free⟩, taken, [], by simp, isIn, rfl,
      closed⟩

theorem IsTokenRun.start_le {run : List Char} (isRun : IsTokenRun value start run) :
    start ≤ value.length := by
  have length := isRun.placed.length_le
  have some := List.length_pos_iff.mpr isRun.nonempty
  rw [List.length_drop] at length
  omega

variable (value start) in
private theorem matchesAt_run (reads : Reads shape fun _ taken _ => language taken)
    (tokens : ∀ run, language run → run ≠ [] ∧ ∀ c ∈ run, isTokenChar c = true) :
    (embedded shape).MatchesAt value start ↔
      ∃ run, IsTokenRun value start run ∧ language run := by
  rw [matchesAt_embedded reads]
  constructor
  · rintro ⟨_, run, isIn, placed, free, closed⟩
    obtain ⟨some, each⟩ := tokens run isIn
    exact ⟨run, ⟨some, each, placed, free, closed⟩, isIn⟩
  · rintro ⟨run, isRun, isIn⟩
    exact ⟨isRun.start_le, run, isIn, isRun.placed, isRun.freeBefore, isRun.freeAfter⟩

/-! Texts behind one another in a value. -/

theorem drop_past {run rest : List Char} (ahead : value.drop start = run ++ rest) :
    value.drop (start + run.length) = rest := by
  rw [← List.drop_drop, ahead, List.drop_left]

private theorem drop_of_char {c : Char} (here : value[start]? = some c) :
    value.drop start = c :: value.drop (start + 1) := by
  obtain ⟨within, isHere⟩ := List.getElem?_eq_some_iff.mp here
  rw [List.drop_eq_getElem_cons within, isHere]

private theorem char_of_drop {c : Char} {rest : List Char} (ahead : value.drop start = c :: rest) :
    value[start]? = some c ∧ value.drop (start + 1) = rest := by
  have behind : value.drop (start + [c].length) = rest := drop_past ahead
  refine ⟨?_, behind⟩
  rw [← Nat.add_zero start, ← List.getElem?_drop, ahead]
  rfl

private theorem getLast?_take_of_char {c : Char} (here : value[start]? = some c) :
    (value.take (start + 1)).getLast? = some c := by
  rw [List.take_add_one, here]
  simp

private theorem IsTokenRun.drop {run : List Char} (isRun : IsTokenRun value start run) :
    value.drop start = run ++ value.drop (start + run.length) := by
  obtain ⟨rest, ahead⟩ := isRun.placed
  rw [drop_past ahead.symm, ahead]

/-- A run that a point precedes. -/
theorem isTokenRun_after_point {run rest : List Char} (point : value[start]? = some '.')
    (some : 5 ≤ run.length) (tokens : ∀ c ∈ run, isTokenChar c = true)
    (ahead : value.drop (start + 1) = run ++ rest)
    (closed : ∀ c ∈ value[start + 1 + run.length]?, isTokenChar c = false) :
    IsTokenRun value (start + 1) run where
  nonempty := by
    rintro rfl
    contradiction
  tokens := tokens
  placed := ⟨rest, ahead.symm⟩
  freeBefore c last := by
    rw [getLast?_take_of_char point] at last
    cases last
    rfl
  freeAfter := closed

private theorem not_token_of_point {place : Nat} (point : value[place]? = some '.') :
    ∀ c ∈ value[place]?, isTokenChar c = false := by
  intro c here
  rw [point] at here
  cases here
  rfl

private theorem matchesAt_webToken : (embedded webToken).MatchesAt value start ↔
    ∃ run, IsTokenRun value start run ∧ HeadsWebToken value start run := by
  rw [matchesAt_embedded reads_webToken]
  constructor
  · rintro ⟨_, _, ⟨tail, payload, signature, rfl, isTail, isPayload, isSignature⟩, ⟨rest, ahead⟩,
      free, closed⟩
    -- no run goes on over a point, so each of the three parts is a whole run
    generalize isHeader : "eyJ".toList ++ tail = header at ahead closed
    have parts : value.drop start = header ++ '.' :: (payload ++ '.' :: (signature ++ rest)) := by
      rw [← ahead]
      simp
    obtain ⟨first, afterFirst⟩ := char_of_drop (drop_past parts)
    obtain ⟨second, afterSecond⟩ := char_of_drop (drop_past afterFirst)
    refine ⟨header, ⟨?_, ?_, ⟨_, parts.symm⟩, free, not_token_of_point first⟩,
      ⟨tail, isHeader.symm, isTail.1⟩, payload, signature, first, ?_, isPayload.1, second, ?_,
      isSignature.1⟩
    · subst isHeader
      simp
    · subst isHeader
      have lead : ∀ c ∈ "eyJ".toList, isTokenChar c = true :=
        List.all_eq_true.mp (by decide)
      exact List.forall_mem_append.mpr ⟨lead, isTail.2⟩
    · exact isTokenRun_after_point first isPayload.1 isPayload.2 afterFirst
        (not_token_of_point second)
    · refine isTokenRun_after_point second isSignature.1 isSignature.2 afterSecond ?_
      have length : start + (header ++ '.' :: (payload ++ '.' :: signature)).length =
          start + header.length + 1 + payload.length + 1 + signature.length := by
        simp
        omega
      rwa [length] at closed
  · rintro ⟨run, isRun, ⟨tail, rfl, long⟩, payload, signature, first, isPayload, longPayload,
      second, isSignature, longSignature⟩
    refine ⟨isRun.start_le, _, ⟨tail, payload, signature, rfl, ⟨long, ?_⟩,
      ⟨longPayload, isPayload.tokens⟩, longSignature, isSignature.tokens⟩, ?_, isRun.freeBefore, ?_⟩
    · exact fun c member => isRun.tokens c (List.mem_append_right _ member)
    · rw [isRun.drop, drop_of_char first, isPayload.drop, drop_of_char second, isSignature.drop]
      exact ⟨value.drop (start + ("eyJ".toList ++ tail).length + 1 + payload.length + 1 +
        signature.length), by simp only [List.append_assoc, List.cons_append]⟩
    · have length : start + ("eyJ".toList ++ tail ++ '.' :: (payload ++ '.' :: signature)).length =
          start + ("eyJ".toList ++ tail).length + 1 + payload.length + 1 + signature.length := by
        simp
        omega
      rw [length]
      exact isSignature.freeAfter

end

/-! All shapes. -/

theorem isTokenChar_of_alnum {c : Char} (plain : Text.isAsciiAlnum c = true) :
    isTokenChar c = true := by
  rw [isTokenChar, plain]
  rfl

private theorem IsCodeHostToken.tokens {run : List Char} (isToken : IsCodeHostToken run) :
    run ≠ [] ∧ ∀ c ∈ run, isTokenChar c = true := by
  obtain ⟨kind, tail, rfl, member, _, each⟩ := isToken
  have kinds : ∀ c ∈ "pousr".toList, isTokenChar c = true := List.all_eq_true.mp (by decide)
  refine ⟨by simp, List.forall_mem_append.mpr ⟨List.all_eq_true.mp (by decide),
    List.forall_mem_cons.mpr ⟨kinds kind member, List.forall_mem_cons.mpr ⟨by decide, ?_⟩⟩⟩⟩
  exact fun c inTail => isTokenChar_of_alnum (each c inTail)

private theorem IsPaymentKey.tokens {run : List Char} (isKey : IsPaymentKey run) :
    run ≠ [] ∧ ∀ c ∈ run, isTokenChar c = true := by
  obtain ⟨kind, mode, tail, rfl, member, isMode, _, each⟩ := isKey
  have kinds : ∀ c ∈ "sr".toList, isTokenChar c = true := List.all_eq_true.mp (by decide)
  have inMode : ∀ c ∈ mode, isTokenChar c = true := by
    cases isMode with
    | inl live => exact live ▸ List.all_eq_true.mp (by decide)
    | inr test => exact test ▸ List.all_eq_true.mp (by decide)
  refine ⟨by simp, List.forall_mem_cons.mpr ⟨kinds kind member, List.forall_mem_append.mpr
    ⟨List.all_eq_true.mp (by decide), List.forall_mem_append.mpr
      ⟨inMode, List.forall_mem_cons.mpr ⟨by decide, ?_⟩⟩⟩⟩⟩
  exact fun c inTail => isTokenChar_of_alnum (each c inTail)

private theorem IsCloudKeyId.tokens {run : List Char} (isKey : IsCloudKeyId run) :
    run ≠ [] ∧ ∀ c ∈ run, isTokenChar c = true := by
  obtain ⟨kind, tail, rfl, isKind, _, each⟩ := isKey
  have inKind : kind ≠ [] ∧ ∀ c ∈ kind, isTokenChar c = true := by
    cases isKind with
    | inl permanent => exact permanent ▸ ⟨by decide, List.all_eq_true.mp (by decide)⟩
    | inr session => exact session ▸ ⟨by decide, List.all_eq_true.mp (by decide)⟩
  refine ⟨by simp [inKind.1], List.forall_mem_append.mpr ⟨inKind.2, fun c inTail => ?_⟩⟩
  exact isTokenChar_of_alnum (Text.isAsciiAlnum_iff.mpr (.inr (each c inTail).symm))

private theorem IsMapsKey.tokens {run : List Char} (isKey : IsMapsKey run) :
    run ≠ [] ∧ ∀ c ∈ run, isTokenChar c = true := by
  obtain ⟨tail, rfl, _, each⟩ := isKey
  exact ⟨by simp, List.forall_mem_append.mpr ⟨List.all_eq_true.mp (by decide), each⟩⟩

private theorem IsChatToken.tokens {run : List Char} (isToken : IsChatToken run) :
    run ≠ [] ∧ ∀ c ∈ run, isTokenChar c = true := by
  obtain ⟨kind, tail, rfl, member, _, each⟩ := isToken
  have kinds : ∀ c ∈ "abprs".toList, isTokenChar c = true := List.all_eq_true.mp (by decide)
  refine ⟨by simp, List.forall_mem_append.mpr ⟨List.all_eq_true.mp (by decide),
    List.forall_mem_cons.mpr ⟨kinds kind member, List.forall_mem_cons.mpr
      ⟨by decide, fun c inTail => ?_⟩⟩⟩⟩
  cases each c inTail with
  | inl plain => exact isTokenChar_of_alnum plain
  | inr hyphen => subst hyphen; decide

private theorem matchesAt_tokenShape {value : List Char} {start : Nat} :
    (∃ shape ∈ tokenShapes, (embedded shape).MatchesAt value start) ↔
      HoldsTokenAt value start := by
  have codeHost := matchesAt_run value start reads_codeHostToken
    fun _ => IsCodeHostToken.tokens
  have payment := matchesAt_run value start reads_paymentKey
    fun _ => IsPaymentKey.tokens
  have cloud := matchesAt_run value start reads_cloudKeyId
    fun _ => IsCloudKeyId.tokens
  have maps := matchesAt_run value start reads_mapsKey
    fun _ => IsMapsKey.tokens
  have chat := matchesAt_run value start reads_chatToken
    fun _ => IsChatToken.tokens
  simp only [tokenShapes, List.mem_cons, List.not_mem_nil, or_false, exists_eq_or_imp,
    exists_eq_left, matchesAt_webToken, codeHost, payment, cloud, maps, chat, HoldsTokenAt,
    and_or_left, exists_or]

/-- The offset of an embedded secret is the least start of a token, and there is none exactly if no
token starts anywhere. -/
theorem embeddedAt?_least (value : List Char) :
    (∀ start, embeddedAt? value = some start ↔
      HoldsTokenAt value start ∧ ∀ earlier < start, ¬ HoldsTokenAt value earlier) ∧
      (embeddedAt? value = none ↔ ∀ start, ¬ HoldsTokenAt value start) := by
  have found (start : Nat) : embeddedAt? value = some start ↔
      HoldsTokenAt value start ∧ ∀ earlier < start, ¬ HoldsTokenAt value earlier := by
    simp only [← matchesAt_tokenShape, not_exists, not_and]
    exact min?_search
  refine ⟨found, fun none start holds => ?_, fun nowhere => ?_⟩
  · induction start using Nat.strongRecOn with
    | ind start ih =>
        have here := (found start).mpr ⟨holds, fun earlier less => ih earlier less⟩
        rw [none] at here
        cases here
  · cases first : embeddedAt? value with
    | none => rfl
    | some start => exact absurd ((found start).mp first).1 (nowhere start)

end MobileAudit.Secret
