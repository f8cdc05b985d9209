import MobileAudit.Exclusion.PatternMemo

namespace MobileAudit.Exclusion

/-! Filters that share their compiled rules, and filters that compile every pattern afresh.  What is
kept under a key is always what the patterns of that key compile to, so no filter can tell which
patterns have been compiled before. -/

/-! Keys. -/

namespace PatternMemo

private theorem toList_key (caseSensitive : Bool) (pattern : String) :
    (key caseSensitive pattern).toList =
      Text.trim pattern.toList ++ (if caseSensitive then ":True" else ":False").toList := by
  cases caseSensitive <;> simp [key, Text.trimText]

/-- Nothing but the trimmed text and the way of comparing case goes into a key, and both can be
read off it, also when the text itself ends like a key. -/
theorem key_eq_iff {caseSensitive caseSensitive' : Bool} {pattern pattern' : String} :
    key caseSensitive pattern = key caseSensitive' pattern' ↔
      caseSensitive = caseSensitive' ∧ Text.trim pattern.toList = Text.trim pattern'.toList := by
  rw [← String.toList_inj, toList_key, toList_key]
  constructor
  · intro same
    -- read from the end, where the two ways of comparing case differ in the second letter
    rw [← List.reverse_inj, List.reverse_append, List.reverse_append] at same
    cases caseSensitive <;> cases caseSensitive' <;> simp_all
  · rintro ⟨rfl, same⟩
    rw [same]

end PatternMemo

private theorem compile_congr (caseSensitive : Bool) {pattern pattern' : String}
    (same : Text.trim pattern.toList = Text.trim pattern'.toList) :
    compile caseSensitive pattern = compile caseSensitive pattern' := by
  rw [compile, compile, same]

/-! Memos of which every entry is what its key compiles to. -/

namespace PatternMemo

/-- A pattern whose key has an entry compiles to the rule of that entry. -/
def Sound (memo : PatternMemo) : Prop :=
  ∀ caseSensitive pattern rule, memo.find? (key caseSensitive pattern) = some rule →
    Exclusion.compile caseSensitive pattern = .rule rule

theorem sound_empty : empty.Sound := by
  intro caseSensitive pattern rule found
  cases found

namespace Sound

variable {memo : PatternMemo}

/-- An entry holds for every pattern of its key, not only for the one it was made of. -/
theorem remember (sound : memo.Sound) {caseSensitive : Bool} {pattern : String} {rule : PathRule}
    (compiled : Exclusion.compile caseSensitive pattern = .rule rule) :
    (⟨(key caseSensitive pattern, rule) :: memo.entries⟩ : PatternMemo).Sound := by
  intro caseSensitive' pattern' rule' found
  rw [find?, List.lookup_cons] at found
  cases same : key caseSensitive' pattern' == key caseSensitive pattern with
  | true =>
      obtain ⟨rfl, text⟩ := key_eq_iff.mp (eq_of_beq same)
      rw [same] at found
      cases found
      rw [compile_congr caseSensitive' text, compiled]
  | false =>
      rw [same] at found
      exact sound caseSensitive' pattern' rule' found

private theorem compile (sound : memo.Sound) (caseSensitive : Bool) (pattern : String) :
    ∃ later, later.Sound ∧
      memo.compile caseSensitive pattern = (later, Exclusion.compile caseSensitive pattern) := by
  by_cases ignored :
      ((Text.trim pattern.toList).isEmpty || (Text.trim pattern.toList).head? == some '#') = true
  · refine ⟨memo, sound, ?_⟩
    rw [PatternMemo.compile, Exclusion.compile, if_pos ignored, if_pos ignored]
  · rw [PatternMemo.compile, if_neg ignored]
    cases known : memo.find? (key caseSensitive pattern) with
    | some rule => exact ⟨memo, sound, by rw [sound caseSensitive pattern rule known]⟩
    | none =>
        cases compiled : Exclusion.compile caseSensitive pattern with
        | ignored => exact ⟨memo, sound, rfl⟩
        | invalid source => exact ⟨memo, sound, rfl⟩
        | broken cause => exact ⟨memo, sound, rfl⟩
        | rule rule => exact ⟨_, sound.remember compiled, rfl⟩

theorem add (sound : memo.Sound) (filter : PathFilter) (pattern : String) :
    ∃ later, later.Sound ∧ memo.add filter pattern = (later, filter.add pattern) := by
  obtain ⟨later, soundLater, answer⟩ := sound.compile filter.caseSensitive pattern
  exact ⟨later, soundLater, by rw [PatternMemo.add, answer, PathFilter.add]⟩

private theorem addAll (sound : memo.Sound) (filter : PathFilter) (patterns : List String) :
    ∃ later, later.Sound ∧ memo.addAll filter patterns = (later, filter.addAll patterns) := by
  induction patterns generalizing memo filter with
  | nil => exact ⟨memo, sound, rfl⟩
  | cons pattern rest ih =>
      obtain ⟨between, soundBetween, first⟩ := sound.add filter pattern
      simp only [PatternMemo.addAll, PathFilter.addAll, first]
      cases (filter.add pattern).value with
      | error cause => exact ⟨between, soundBetween, rfl⟩
      | ok filter =>
          obtain ⟨later, soundLater, more⟩ := ih soundBetween filter
          exact ⟨later, soundLater, by simp only [more]⟩

end Sound

end PatternMemo

/-! Sessions with any number of filters, which go by the order in which they were made. -/

/-- What can be done with filters. -/
inductive FilterCall where
  | make (caseSensitive : Bool) (patterns : List String)
  | add (filter : Nat) (pattern : String)
  /-- Forgets the rules compiled so far. -/
  | clear
  | check (filter : Nat) (path : List Char) (isDirectory : Bool)

/-- What can be seen of a call: the filters there are after it, the answer of a check, the warnings,
and what broke down. -/
structure Seen where
  filters : List PathFilter
  verdict : Option Verdict := none
  warnings : List Diagnostic := []
  broken : Option Pattern.Breakdown := none

/-- What is seen once patterns have been added to a filter.  If one of them breaks down, a new
filter is not made and an old one stays as it was. -/
def Seen.afterAdding (filters : List PathFilter) (put : PathFilter → List PathFilter)
    (added : Logged (Except Pattern.Breakdown PathFilter)) : Seen :=
  match added.value with
  | .ok filter => { filters := put filter, warnings := added.logs }
  | .error cause => { filters, warnings := added.logs, broken := some cause }

/-- A call of filters that share a memo.  A filter that has not been made is neither changed nor
asked. -/
def callWith (memo : PatternMemo) (filters : List PathFilter) : FilterCall → PatternMemo × Seen
  | .make caseSensitive patterns =>
      let (memo, made) := memo.addAll (.empty caseSensitive) patterns
      (memo, .afterAdding filters (filters ++ [·]) made)
  | .add index pattern =>
      match filters[index]? with
      | none => (memo, { filters })
      | some filter =>
          let (memo, added) := memo.add filter pattern
          (memo, .afterAdding filters (filters.set index) added)
  | .clear => (.empty, { filters })
  | .check index path isDirectory =>
      (memo, { filters, verdict := filters[index]?.map (·.check path isDirectory) })

/-- The calls one after the other; `before` is what becomes of the memo ahead of each. -/
def callsWith (before : PatternMemo → PatternMemo) (memo : PatternMemo)
    (filters : List PathFilter) : List FilterCall → List Seen
  | [] => []
  | call :: rest =>
      let (memo, seen) := callWith (before memo) filters call
      seen :: callsWith before memo seen.filters rest

def callAfresh (filters : List PathFilter) : FilterCall → Seen
  | .make caseSensitive patterns =>
      .afterAdding filters (filters ++ [·]) (PathFilter.addAll (.empty caseSensitive) patterns)
  | .add index pattern =>
      match filters[index]? with
      | none => { filters }
      | some filter => .afterAdding filters (filters.set index) (filter.add pattern)
  | .clear => { filters }
  | .check index path isDirectory =>
      { filters, verdict := filters[index]?.map (·.check path isDirectory) }

def callsAfresh (filters : List PathFilter) : List FilterCall → List Seen
  | [] => []
  | call :: rest =>
      let seen := callAfresh filters call
      seen :: callsAfresh seen.filters rest

private theorem callWith_of_sound {memo : PatternMemo} (sound : memo.Sound)
    (filters : List PathFilter)
    (call : FilterCall) :
    ∃ later, later.Sound ∧ callWith memo filters call = (later, callAfresh filters call) := by
  cases call with
  | make caseSensitive patterns =>
      obtain ⟨later, soundLater, made⟩ := sound.addAll (.empty caseSensitive) patterns
      exact ⟨later, soundLater, by simp only [callWith, callAfresh, made]⟩
  | add index pattern =>
      rw [callWith, callAfresh]
      cases filters[index]? with
      | none => exact ⟨memo, sound, rfl⟩
      | some filter =>
          obtain ⟨later, soundLater, added⟩ := sound.add filter pattern
          exact ⟨later, soundLater, by simp only [added]⟩
  | clear => exact ⟨.empty, PatternMemo.sound_empty, rfl⟩
  | check index path isDirectory => exact ⟨memo, sound, rfl⟩

/-- Whatever keeps the entries of memos right can be done to the memo between calls. -/
theorem callsWith_of_sound {before : PatternMemo → PatternMemo}
    (keeps : ∀ memo, memo.Sound → (before memo).Sound) {memo : PatternMemo} (sound : memo.Sound)
    (filters : List PathFilter) (calls : List FilterCall) :
    callsWith before memo filters calls = callsAfresh filters calls := by
  induction calls generalizing memo filters with
  | nil => rfl
  | cons call rest ih =>
      obtain ⟨later, soundLater, answer⟩ := callWith_of_sound (keeps memo sound) filters call
      rw [callsWith, callsAfresh, answer]
      simp only [ih soundLater]

/-- However the calls follow each other, nothing that is seen of them tells whether the compiled
rules have been kept from the beginning or are forgotten ahead of every call. -/
theorem callsWith_kept_eq_emptied (calls : List FilterCall) :
    callsWith id .empty [] calls = callsWith (fun _ => .empty) .empty [] calls := by
  have kept : callsWith id .empty [] calls = callsAfresh [] calls :=
    callsWith_of_sound (fun _ sound => sound) PatternMemo.sound_empty [] calls
  have emptied : callsWith (fun _ => .empty) .empty [] calls = callsAfresh [] calls :=
    callsWith_of_sound (fun _ _ => PatternMemo.sound_empty) PatternMemo.sound_empty [] calls
  rw [kept, emptied]

end MobileAudit.Exclusion
