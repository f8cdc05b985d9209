import MobileAudit.Cache.Store
import MobileAudit.Proofs.Disk.ReadBack
import MobileAudit.Proofs.Finding.Record
import MobileAudit.Proofs.Json.Truncation

namespace MobileAudit

/-! The stored form of the cache.  A ledger is checked to be itself after it has been written, and a
file that was broken off while it was written holds nothing.  A cache that has been saved is loaded
again as it was. -/

namespace Cache

@[simp] theorem Entry.check_toValue (entry : Entry) : Entry.check entry.toValue = .valid entry := by
  have findings := Check.itemsFrom_map Finding.check (Finding.toValue true) entry.findings
    (fun f _ => f.check_toValue true) 0
  simp [Entry.check, Entry.toValue, Entry.fields, recordOf, Check.record, Value.bare,
    Check.required, Check.optional, Check.fieldValue?, Value.Entries.findText?,
    Value.Entries.find?, Value.sameKey, Check.text, Check.integer, Check.list, findings]

private theorem Files.checkEntries_toValue (files : Files) :
    Files.checkEntries (files.map fun (path, entry) => (.text path, entry.toValue)) =
      .valid files := by
  induction files with
  | nil => rfl
  | cons file files ih =>
      rw [List.map_cons, Files.checkEntries, ih, file.2.check_toValue]
      rfl

@[simp] theorem Ledger.check_toValue (now : Int) (ledger : Ledger) :
    Ledger.check now ledger.toValue = .valid ledger := by
  have files := ledger.files.checkEntries_toValue
  simp [Ledger.check, Ledger.toValue, Ledger.fields, recordOf, Check.record, Value.bare,
    Check.optional, Check.fieldValue?, Value.Entries.findText?, Value.Entries.find?,
    Value.sameKey, Files.check, Files.toValue, Check.integer, files]

end Cache

/-! Bytes. -/

namespace Text

theorem unifyLineEnds_eq (text : List Char) (noReturn : '\r' ∉ text) :
    unifyLineEnds text = text := by
  fun_induction unifyLineEnds text with
  | case1 => rfl
  | case2 => simp at noReturn
  | case3 c rest _ ih =>
      rw [List.mem_cons, not_or] at noReturn
      rw [ih noReturn.2, if_neg (by simpa using Ne.symm noReturn.1)]

@[simp] theorem decode?_encode (text : String) : decode? (encode text) = some text := by
  unfold decode? encode
  rw [String.fromUTF8?, String.toUTF8_eq_toByteArray, dif_pos text.isValidUTF8]
  rfl

theorem decodeFile?_encode (text : String) (noReturn : '\r' ∉ text.toList) :
    decodeFile? (encode text) = some text := by
  rw [decodeFile?, decode?_encode, Option.map_some, unifyLineEnds_eq _ noReturn,
    String.ofList_toList]

/-- What is left of a text after bytes at its end have been lost: nothing, or its beginning. -/
theorem decodeFile?_truncated (text : String) (noReturn : '\r' ∉ text.toList) (kept : Nat)
    {read : String} (decoded : decodeFile? ((encode text).extract 0 kept) = some read) :
    read.toList <+: text.toList := by
  unfold decodeFile? at decoded
  obtain ⟨start, found, rfl⟩ := Option.map_eq_some_iff.mp decoded
  have bytes : start.toByteArray = (encode text).extract 0 kept := by
    unfold decode? String.fromUTF8? at found
    split at found
    · cases found
      rfl
    · cases found
  have whole : start.toList.utf8Encode ++ (encode text).extract kept (encode text).size =
      text.toList.utf8Encode := by
    rw [String.utf8Encode_toList, String.utf8Encode_toList, bytes,
      ByteArray.extract_append_extract, Nat.min_eq_left (Nat.zero_le kept),
      ByteArray.extract_zero_max_size]
    rfl
  have beginning := List.isPrefix_of_utf8Encode_append_eq_utf8Encode _ whole
  have noReturn' : '\r' ∉ start.toList := fun member => noReturn (beginning.subset member)
  rw [unifyLineEnds_eq _ noReturn', String.toList_ofList]
  exact beginning

end Text

/-! Ledgers are documents. -/

namespace Cache

private theorem Entry.document (entry : Entry) : Json.Document 3 entry.toValue := by
  refine recordOf_document true _ (by simp) ?_
  intro field member v value
  simp only [List.mem_cons, List.not_mem_nil, or_false] at member
  rcases member with rfl | rfl | rfl | rfl
  · cases value
    exact .text entry.hash
  · cases value
    refine .list _ ?_
    intro v inside
    obtain ⟨f, _, rfl⟩ := List.mem_map.mp inside
    exact f.document true
  · cases value
    exact .int entry.timestamp
  · cases value
    exact .text entry.version

private theorem Files.document (files : Files) (distinct : (files.map (·.1)).Nodup) :
    Json.Document 4 files.toValue := by
  have fields : files.toValue =
      .map ((files.map fun file => (file.1, file.2.toValue)).map Json.fieldEntry) := by
    rw [List.map_map]
    rfl
  rw [fields]
  refine .map _ (by simpa [Function.comp_def] using distinct) ?_
  intro field member
  obtain ⟨file, _, rfl⟩ := List.mem_map.mp member
  exact file.2.document

theorem Ledger.document (ledger : Ledger) (distinct : (ledger.files.map (·.1)).Nodup) :
    Json.Document 5 ledger.toValue := by
  refine recordOf_document true _ (by simp) ?_
  intro field member v value
  simp only [List.mem_cons, List.not_mem_nil, or_false] at member
  rcases member with rfl | rfl | rfl
  · cases value
    exact ledger.files.document distinct
  · cases value
    exact .int ledger.createdAt
  · cases value
    exact .int ledger.updatedAt

theorem Ledger.document_maxDepth (ledger : Ledger) (distinct : (ledger.files.map (·.1)).Nodup) :
    Json.Document Json.maxDepth ledger.toValue :=
  (ledger.document distinct).mono (by decide)

theorem Ledger.toJson_toList (ledger : Ledger) :
    ledger.toJson.toList = Json.writeValue .document 0 ledger.toValue :=
  String.toList_ofList

theorem Ledger.return_not_mem_toJson (ledger : Ledger)
    (distinct : (ledger.files.map (·.1)).Nodup) : '\r' ∉ ledger.toJson.toList := by
  rw [ledger.toJson_toList]
  exact Json.return_not_mem_writeValue .document (ledger.document distinct) 0

/-- A written ledger is read back, unless one of its numbers is too long to be read. -/
theorem Store.decode_encode (now : Int) (ledger : Ledger)
    (distinct : (ledger.files.map (·.1)).Nodup) :
    Store.decode now (Text.encode ledger.toJson) =
      .ok (if ledger.toValue.isWritable then some ledger else none) := by
  have document := ledger.document_maxDepth distinct
  have noReturn := ledger.return_not_mem_toJson distinct
  obtain ⟨whole, tooLong⟩ := Json.read_write .document document
  unfold Store.decode
  rw [Text.decodeFile?_encode _ noReturn]
  cases writable : ledger.toValue.isWritable with
  | true =>
      have read : Json.read ledger.toJson = .ok ledger.toValue := whole writable
      simp only [read, Ledger.check_toValue]
      rfl
  | false =>
      obtain ⟨count, read⟩ := tooLong writable
      have read : Json.read ledger.toJson = .error ⟨.tooManyDigits count, 0⟩ := read
      simp only [read]
      rfl

/-- What has been lost of a written ledger is not replaced by anything: the file holds the whole
ledger or none. -/
theorem Store.decode_truncated (now : Int) (ledger : Ledger)
    (distinct : (ledger.files.map (·.1)).Nodup) (kept : Nat) :
    ∃ read, Store.decode now ((Text.encode ledger.toJson).extract 0 kept) = .ok read ∧
      (read = none ∨ read = some ledger) := by
  have document := ledger.document_maxDepth distinct
  have noReturn := ledger.return_not_mem_toJson distinct
  cases decoded : Text.decodeFile? ((Text.encode ledger.toJson).extract 0 kept) with
  | none => exact ⟨none, by rw [Store.decode, decoded], .inl rfl⟩
  | some text =>
      obtain ⟨more, split⟩ := Text.decodeFile?_truncated _ noReturn kept decoded
      by_cases complete : more = []
      · rw [complete, List.append_nil] at split
        have same : text = ledger.toJson := String.toList_inj.mp split
        have whole := Store.decode_encode now ledger distinct
        rw [Store.decode, Text.decodeFile?_encode _ noReturn] at whole
        refine ⟨_, by rw [Store.decode, decoded, same]; exact whole, ?_⟩
        split
        · exact .inr rfl
        · exact .inl rfl
      · rw [ledger.toJson_toList] at split
        rw [Ledger.toValue, recordOf_eq] at document split
        obtain ⟨⟨cause, remaining⟩, failed, noNesting⟩ := Json.readChars_truncated .document
          document text.toList more split.symm complete
        have read : Json.read text = .error ⟨cause, remaining⟩ := failed
        refine ⟨none, ?_, .inl rfl⟩
        rw [Store.decode, decoded]
        simp only [read]
        cases cause with
        | tooDeep container => exact absurd rfl (noNesting container)
        | _ => rfl

/-! Saved caches.  Integers are the only data that may be lost: those of more digits than can be
read. -/

def Entry.fits (entry : Entry) : Bool :=
  entry.findings.all Finding.fits && Number.fitsDecimal entry.timestamp

/-- Whether every integer of a ledger has at most as many digits as can be read. -/
def Ledger.fits (ledger : Ledger) : Bool :=
  ledger.files.all (fun file => file.2.fits) && Number.fitsDecimal ledger.createdAt &&
    Number.fitsDecimal ledger.updatedAt

@[simp] theorem Entry.isWritable_toValue (entry : Entry) :
    entry.toValue.isWritable = entry.fits := by
  rw [toValue, isWritable_recordOf, fits]
  simp only [List.all_cons, List.all_nil, Option.all_some, Value.isWritable,
    Value.allWritable_eq, List.all_map, Bool.true_and, Bool.and_true]
  congr 1
  exact List.all_congr rfl fun f => f.isWritable_toValue true

@[simp] theorem Files.isWritable_toValue (files : Files) :
    files.toValue.isWritable = files.all fun file => file.2.fits := by
  rw [toValue, Value.isWritable]
  induction files with
  | nil => rfl
  | cons file files ih =>
      rw [List.map_cons, Value.entriesWritable, ih, Entry.isWritable_toValue, List.all_cons]
      rfl

@[simp] theorem Ledger.isWritable_toValue (ledger : Ledger) :
    ledger.toValue.isWritable = ledger.fits := by
  rw [toValue, isWritable_recordOf, fits]
  simp only [List.all_cons, List.all_nil, Option.all_some, Files.isWritable_toValue,
    Value.isWritable, Bool.and_true, Bool.and_assoc]

namespace Store

private theorem read_putFile {fs fs' : FileSystem} {file : Path} {content : ByteArray}
    (put : putFile fs file content = (fs', none)) : fs'.read file = .ok content := by
  unfold putFile at put
  split at put
  · cases put
  · exact FileSystem.read_tryWrite put

theorem read_save {store : Store} {fs : FileSystem} {now : Int}
    (enabled : store.enabled = true) (changed : store.dirty = true)
    (saved : (store.save fs now).store.dirty = false) :
    (store.save fs now).fs.read store.file =
      .ok (Text.encode ({ store.ledger with updatedAt := now } : Ledger).toJson) := by
  unfold save at saved ⊢
  simp only [enabled, changed, Bool.not_true, Bool.or_self, Bool.false_eq_true, if_false] at saved ⊢
  split at saved
  · rename_i fs' put
    exact read_putFile put
  · simp at saved
  · simp at saved

/-- A cache that is saved is loaded from its file entry by entry, in its order and with its time of
creation, at whatever time and by whatever cache on that file. -/
theorem load_save (store other : Store) (fs : FileSystem) (now later : Int)
    (enabled : store.enabled = true) (changed : store.dirty = true)
    (distinct : (store.ledger.files.map (·.1)).Nodup)
    (fits : store.ledger.fits = true) (fitsNow : Number.fitsDecimal now = true)
    (saved : (store.save fs now).store.dirty = false)
    (sameFile : other.file = store.file) (otherEnabled : other.enabled = true) :
    ∃ loaded, other.load (store.save fs now).fs later = .ok ⟨loaded, []⟩ ∧
      loaded.ledger.files = store.ledger.files ∧
      loaded.ledger.createdAt = store.ledger.createdAt := by
  let ledger : Ledger := { store.ledger with updatedAt := now }
  have writable : ledger.toValue.isWritable = true := by
    rw [Ledger.isWritable_toValue]
    simp only [Ledger.fits, Bool.and_eq_true] at fits ⊢
    exact ⟨fits.1, fitsNow⟩
  have decoded := decode_encode later ledger distinct
  rw [if_pos writable] at decoded
  refine ⟨{ other with ledger, dirty := false }, ?_, rfl, rfl⟩
  rw [load, otherEnabled, sameFile, readLedger, read_save enabled changed saved]
  simp only [ledger] at decoded ⊢
  rw [decoded]
  rfl

/-- Quotes, backslashes, control characters and line separators come back as they were. -/
theorem load_save_quoted :
    let finding : Finding := {
      ruleId := "R", description := "\"\\\x07", severity := .high, path := "a\nb",
      line := some (-3), snippet := some "\u2028😀" }
    let store : Store := {
      file := .ofText "/c.json", version := "1", dirty := true
      ledger := ⟨[("\\\"\t", ⟨"h", [finding], 5, "\x7f"⟩), ("", ⟨"", [], -1, ""⟩)], 7, 8⟩ }
    (store.save {} 9).store.dirty = false ∧
      ∃ loaded, Store.load (store.save {} 9).fs 10 (.create (.ofText "/") "2" "c.json" 10) =
          .ok ⟨loaded, []⟩ ∧
        loaded.ledger.files = store.ledger.files ∧ loaded.ledger.createdAt = 7 := by
  intro finding store
  have saved : (store.save {} 9).store.dirty = false := by rfl
  exact ⟨saved, load_save store (.create (.ofText "/") "2" "c.json" 10) {} 9 10 rfl rfl
    (by decide) (by decide +kernel) (by decide +kernel) saved (by decide +kernel) rfl⟩

end Store

end Cache

end MobileAudit
