import MobileAudit.Proofs.Cache.Persistence
import MobileAudit.Proofs.Document.DistinctKeys
import MobileAudit.Proofs.Settings.Fields

namespace MobileAudit

open Disk

/-! Whatever a cache file holds, the ledger that is loaded from it can be written and read again.
Its paths are distinct, its integers have few digits, and its entries do not depend on the clock. -/

/-! Checks of records that succeed. -/

namespace Value

theorem isWritable_bare {v : Value} (writable : v.isWritable = true) : v.bare.isWritable = true := by
  induction v using Value.bare.induct with
  | case1 label v ih =>
      rw [isWritable] at writable
      rw [bare]
      exact ih writable
  | case2 v noLoop =>
      cases v with
      | loop label v => exact absurd rfl (noLoop label v)
      | _ => exact writable

end Value

namespace Check

open Checked

variable {α : Type} {check : Value → Checked α} {entries : Value.Entries} {names : List String}

theorem record_eq_valid {name : String} {fields : Value.Entries → Checked α} {v : Value} {a : α}
    (checked : record name fields v = .valid a) :
    ∃ entries, v.bare = .map entries ∧ fields entries = .valid a := by
  unfold record at checked
  split at checked
  · rename_i entries isMap
    exact ⟨entries, isMap, checked⟩
  · cases checked

theorem isWritable_fieldValue? {v : Value} (writable : Value.entriesWritable entries = true)
    (found : fieldValue? entries names = some v) : v.isWritable = true := by
  obtain ⟨name, _, isValue⟩ := List.exists_of_findSome?_eq_some found
  exact Value.isWritable_of_findText? writable isValue

private theorem required_eq_valid {a : α} (writable : Value.entriesWritable entries = true)
    (checked : required entries names check = .valid a) :
    ∃ v, v.isWritable = true ∧ check v = .valid a := by
  rw [required, under_eq_valid] at checked
  split at checked
  · rename_i v found
    exact ⟨v, isWritable_fieldValue? writable found, checked⟩
  · cases checked

theorem optional_cases {fallback a : α} (writable : Value.entriesWritable entries = true)
    (checked : optional entries names fallback check = .valid a) :
    a = fallback ∨ ∃ v, v.isWritable = true ∧ check v = .valid a := by
  rw [optional, under_eq_valid] at checked
  split at checked
  · rename_i v found
    exact .inr ⟨v, isWritable_fieldValue? writable found, checked⟩
  · cases checked
    exact .inl rfl

variable {good : α → Bool}

private theorem itemsFrom_all
    (each : ∀ v a, v.isWritable = true → check v = .valid a → good a = true) :
    ∀ (items : List Value) index (as : List α), Value.allWritable items = true →
      itemsFrom check index items = .valid as → as.all good = true := by
  intro items
  induction items with
  | nil =>
      intro index as _ checked
      cases checked
      rfl
  | cons v items ih =>
      intro index as writable checked
      rw [Value.allWritable, Bool.and_eq_true] at writable
      obtain ⟨⟨a, rest⟩, both, rfl⟩ := map_eq_valid.mp checked
      obtain ⟨isFirst, isRest⟩ := and_eq_valid.mp both
      rw [List.all_cons, each v a writable.1 (under_eq_valid.mp isFirst),
        ih _ rest writable.2 isRest]
      rfl

/-- What holds of all that a check makes of single values holds of what it makes of a list. -/
theorem list_all (each : ∀ v a, v.isWritable = true → check v = .valid a → good a = true)
    {v : Value} {as : List α} (writable : v.isWritable = true)
    (checked : list check v = .valid as) : as.all good = true := by
  unfold list at checked
  split at checked
  · exact itemsFrom_all each _ _ _ writable checked
  · exact itemsFrom_all each _ _ _ writable checked
  · exact itemsFrom_all each _ _ _ writable checked
  · cases checked

private theorem nullable_integer_fits {v : Value} {n? : Option Int} (writable : v.isWritable = true)
    (checked : nullable integer v = .valid n?) : n?.all Number.fitsDecimal = true := by
  unfold nullable at checked
  split at checked
  · cases checked
    rfl
  · obtain ⟨n, isInteger, rfl⟩ := map_eq_valid.mp checked
    rw [Option.all_some]
    exact integer_fits writable isInteger

end Check

open Check Checked

/-! Checks that differ in the values they give only. -/

namespace Check

namespace Checked

variable {α β γ : Type}

@[simp] theorem map_map (checked : Checked α) (f : α → β) (g : β → γ) :
    (checked.map f).map g = checked.map fun a => g (f a) := by
  cases checked <;> rfl

@[simp] theorem value?_map (checked : Checked α) (f : α → β) :
    (checked.map f).value? = checked.value?.map f := by
  cases checked <;> rfl

/-- What a check says, without the value it gives. -/
def forget (checked : Checked α) : Checked Unit := checked.map fun _ => ()

private theorem and_forget {first first' : Checked α} {second second' : Checked β}
    (sameFirst : first.forget = first'.forget) (sameSecond : second.forget = second'.forget) :
    (first.and second).forget = (first'.and second').forget := by
  cases first <;> cases first' <;> cases second <;> cases second' <;>
    simp_all [forget, map, Checked.and]

private theorem and_map_fst (first : Checked α) {second second' : Checked β}
    (same : second.forget = second'.forget) :
    (first.and second).map (·.1) = (first.and second').map (·.1) := by
  cases first <;> cases second <;> cases second' <;> simp_all [forget, map, Checked.and]

end Checked

private theorem optional_forget {α : Type} (entries : Value.Entries) (names : List String)
    (fallback other : α) (check : Value → Checked α) :
    (Check.optional entries names fallback check).forget =
      (Check.optional entries names other check).forget := by
  unfold Check.optional
  cases fieldValue? entries names <;> rfl

end Check

/-! Findings, entries and ledgers that are checked. -/

private theorem Finding.check_fits {v : Value} {f : Finding} (writable : v.isWritable = true)
    (checked : Finding.check v = .valid f) : f.fits = true := by
  obtain ⟨entries, isMap, checked⟩ := record_eq_valid checked
  have writable := Value.isWritable_bare writable
  rw [isMap, Value.isWritable] at writable
  obtain ⟨⟨_, _, _, _, line, _, _⟩, parts, rfl⟩ := map_eq_valid.mp checked
  simp only [and_eq_valid] at parts
  obtain ⟨_, _, _, _, isLine, _⟩ := parts
  obtain rfl | ⟨v, fits, isLine⟩ := optional_cases writable isLine
  · rfl
  · exact nullable_integer_fits fits isLine

namespace Cache

private theorem Entry.check_fits {v : Value} {entry : Entry} (writable : v.isWritable = true)
    (checked : Entry.check v = .valid entry) : entry.fits = true := by
  obtain ⟨entries, isMap, checked⟩ := record_eq_valid checked
  have writable := Value.isWritable_bare writable
  rw [isMap, Value.isWritable] at writable
  obtain ⟨⟨_, findings, timestamp, _⟩, parts, rfl⟩ := map_eq_valid.mp checked
  simp only [and_eq_valid] at parts
  obtain ⟨_, isFindings, isTimestamp, _⟩ := parts
  have timestampFits : Number.fitsDecimal timestamp = true := by
    obtain ⟨v, fits, isTimestamp⟩ := required_eq_valid writable isTimestamp
    exact integer_fits fits isTimestamp
  have findingsFit : findings.all Finding.fits = true := by
    obtain rfl | ⟨v, fits, isFindings⟩ := optional_cases writable isFindings
    · rfl
    · exact list_all (fun _ _ => Finding.check_fits) fits isFindings
  rw [Entry.fits, findingsFit, timestampFits]
  rfl

private theorem Files.checkEntries_fits {entries : Value.Entries} :
    ∀ {files : Files}, Value.entriesWritable entries = true →
      checkEntries entries = .valid files →
        files.map (fun file => Value.text file.1) = entries.map (·.1) ∧
          ∀ file ∈ files, file.2.fits = true := by
  induction entries with
  | nil =>
      intro files _ checked
      cases checked
      exact ⟨rfl, by simp⟩
  | cons entry rest ih =>
      obtain ⟨key, v⟩ := entry
      intro files writable checked
      simp only [Value.entriesWritable, Bool.and_eq_true] at writable
      obtain ⟨⟨file, more⟩, both, rfl⟩ := map_eq_valid.mp checked
      obtain ⟨isFile, isMore⟩ := and_eq_valid.mp both
      obtain ⟨isPath, isEntry⟩ := and_eq_valid.mp (under_eq_valid.mp isFile)
      obtain ⟨paths, fits⟩ := ih writable.2 isMore
      have path : Value.text file.1 = key := by
        cases key with
        | text path =>
            cases isPath
            rfl
        | _ => cases isPath
      constructor
      · rw [List.map_cons, List.map_cons, paths, path]
      · intro other member
        rw [List.mem_cons] at member
        obtain rfl | later := member
        · exact Entry.check_fits writable.1.2 isEntry
        · exact fits other later

private theorem Files.check_fits {v : Value} {files : Files} (tidy : Value.Tidy 1 v)
    (writable : v.isWritable = true) (checked : check v = .valid files) :
    (files.map (·.1)).Nodup ∧ ∀ file ∈ files, file.2.fits = true := by
  cases v with
  | map entries =>
      rw [Value.isWritable] at writable
      obtain ⟨paths, fits⟩ := checkEntries_fits writable checked
      have distinct := (Value.Tidy.entries tidy rfl).1
      refine ⟨?_, fits⟩
      rw [Value.Entries.distinct_iff_keys, ← paths, List.pairwise_map] at distinct
      rw [List.Nodup, List.pairwise_map]
      exact distinct.imp fun apart => beq_eq_false_iff_ne.mp apart
  | _ => cases checked

/-- A ledger that is written as one that can be read, whenever it is written. -/
structure Ledger.Sound (ledger : Ledger) : Prop where
  keeps : ledger.Keeps fun _ entry => entry.fits = true
  createdAt : Number.fitsDecimal ledger.createdAt = true

namespace Ledger

theorem sound_fresh {now : Int} (fitsNow : Number.fitsDecimal now = true) : (fresh now).Sound :=
  ⟨keeps_fresh now, fitsNow⟩

private theorem sound_of_check {now : Int} {v : Value} {ledger : Ledger}
    (tidy : ∀ depth, Value.Tidy depth v) (writable : v.isWritable = true)
    (fitsNow : Number.fitsDecimal now = true) (checked : check now v = .valid ledger) :
    ledger.Sound := by
  obtain ⟨entries, isMap, checked⟩ := record_eq_valid checked
  have writable := Value.isWritable_bare writable
  rw [isMap, Value.isWritable] at writable
  have tidyEntries : ∀ depth, Value.Entries.Tidy depth entries :=
    fun depth => (tidy (depth + 1)).entries isMap
  obtain ⟨⟨files, createdAt, updatedAt⟩, parts, rfl⟩ := map_eq_valid.mp checked
  simp only [and_eq_valid] at parts
  obtain ⟨isFiles, isCreated, _⟩ := parts
  constructor
  · rw [optional_eq_valid] at isFiles
    cases found : Value.Entries.findText? entries "files" with
    | none =>
        rw [found] at isFiles
        cases isFiles
        exact ⟨.nil, by simp⟩
    | some value =>
        rw [found] at isFiles
        obtain ⟨distinct, fits⟩ := Files.check_fits (Value.Tidy.find? (tidyEntries 1) found)
          (Value.isWritable_of_findText? writable found) isFiles
        exact ⟨distinct, fits⟩
  · obtain rfl | ⟨v, fits, isCreated⟩ := optional_cases writable isCreated
    · exact fitsNow
    · exact integer_fits fits isCreated

/-- Whether a document holds a ledger, and with which entries, does not depend on the clock. -/
theorem check_files (now later : Int) (v : Value) :
    (check now v).map (·.files) = (check later v).map (·.files) := by
  unfold check Check.record
  split
  · rename_i entries _
    rw [fields, fields, map_map, map_map]
    refine and_map_fst _ (and_forget ?_ ?_)
    · exact optional_forget entries _ _ _ integer
    · exact optional_forget entries _ _ _ integer
  · rfl

end Ledger

namespace Store

private theorem sound_of_decode {now : Int} {bytes : ByteArray} {ledger : Ledger}
    (fitsNow : Number.fitsDecimal now = true) (decoded : decode now bytes = .ok (some ledger)) :
    ledger.Sound := by
  unfold decode at decoded
  split at decoded
  · cases decoded
  · split at decoded
    · cases decoded
    · cases decoded
    · rename_i v isRead
      have checked : (Ledger.check now v).value? = some ledger := by injection decoded
      cases outcome : Ledger.check now v with
      | valid found =>
          rw [outcome] at checked
          cases checked
          exact Ledger.sound_of_check (Json.read_tidy isRead) (Json.read_isWritable isRead) fitsNow
            outcome
      | invalid problems =>
          rw [outcome] at checked
          cases checked
      | broken cause =>
          rw [outcome] at checked
          cases checked

private theorem decode_files (now later : Int) (bytes : ByteArray) :
    (decode now bytes).map (·.map (·.files)) = (decode later bytes).map (·.map (·.files)) := by
  unfold decode
  split
  · rfl
  · split
    · rfl
    · rfl
    · have same := congrArg Checked.value? (Ledger.check_files now later ‹Value›)
      rw [value?_map, value?_map] at same
      exact congrArg Except.ok same

/-- Every ledger that is loaded can be written and read again. -/
theorem sound_of_readLedger {fs : FileSystem} {now : Int} {file : Path} {read : Logged Ledger}
    (fitsNow : Number.fitsDecimal now = true) (isRead : readLedger fs now file = .ok read) :
    read.value.Sound := by
  unfold readLedger at isRead
  simp only at isRead
  split at isRead
  · cases isRead
    exact Ledger.sound_fresh fitsNow
  · cases isRead
    exact Ledger.sound_fresh fitsNow
  · split at isRead
    · cases isRead
    · cases isRead
      exact Ledger.sound_fresh fitsNow
    · rename_i decoded
      cases isRead
      exact sound_of_decode fitsNow decoded

theorem readLedger_later {fs : FileSystem} {now : Int} {file : Path} {read : Logged Ledger}
    (isRead : readLedger fs now file = .ok read) (later : Int) :
    ∃ again, readLedger fs later file = .ok again ∧ again.value.files = read.value.files := by
  unfold readLedger at isRead ⊢
  simp only at isRead ⊢
  split at isRead
  · cases isRead
    exact ⟨_, rfl, rfl⟩
  · cases isRead
    exact ⟨_, rfl, rfl⟩
  · rename_i bytes _
    have same := decode_files now later bytes
    split at isRead
    · cases isRead
    · rename_i nothing
      cases isRead
      rw [nothing] at same
      obtain ⟨decoded, isDecoded, absent⟩ := map_eq_ok.mp same.symm
      rw [isDecoded, Option.map_eq_none_iff.mp absent]
      exact ⟨_, rfl, rfl⟩
    · rename_i ledger found
      cases isRead
      rw [found] at same
      obtain ⟨decoded, isDecoded, present⟩ := map_eq_ok.mp same.symm
      obtain ⟨again, rfl, files⟩ := Option.map_eq_some_iff.mp present
      rw [isDecoded]
      exact ⟨_, rfl, files⟩

theorem readLedger_save {store : Store} {fs : FileSystem} {now : Int} (later : Int)
    (sound : store.ledger.Sound) (fitsNow : Number.fitsDecimal now = true)
    (enabled : store.enabled = true) (changed : store.dirty = true)
    (saved : (store.save fs now).store.dirty = false) :
    readLedger (store.save fs now).fs later store.file =
      .ok ⟨{ store.ledger with updatedAt := now }, []⟩ := by
  let ledger : Ledger := { store.ledger with updatedAt := now }
  have fits : ledger.fits = true := by
    simp only [Ledger.fits, Bool.and_eq_true, List.all_eq_true]
    exact ⟨⟨sound.keeps.entries, sound.createdAt⟩, fitsNow⟩
  have decoded := decode_encode later ledger sound.keeps.distinct
  rw [Ledger.isWritable_toValue, if_pos fits] at decoded
  rw [readLedger, read_save enabled changed saved]
  simp only
  rw [decoded]

end Store

end Cache

end MobileAudit
