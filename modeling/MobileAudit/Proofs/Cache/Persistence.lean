import MobileAudit.Proofs.Cache.Codec
import MobileAudit.Proofs.Cache.Entries
import MobileAudit.Proofs.Disk.Access
import MobileAudit.Proofs.Disk.Refusal

namespace MobileAudit.Cache

open Disk

/-! What holds of every entry of a cache stays so when the cache is emptied, pruned, extended,
written, wholly or in part, and read again. -/

/-- A ledger with one entry for a path, in which every entry fulfils a condition. -/
structure Ledger.Keeps (holds : String → Entry → Prop) (ledger : Ledger) : Prop where
  distinct : (ledger.files.map (·.1)).Nodup
  entries : ∀ file ∈ ledger.files, holds file.1 file.2

namespace Ledger

variable {holds : String → Entry → Prop}

theorem keeps_fresh (now : Int) : (fresh now).Keeps holds :=
  ⟨.nil, by simp [fresh]⟩

theorem Keeps.mono {weaker : String → Entry → Prop} {ledger : Ledger}
    (keeps : ledger.Keeps holds) (implies : ∀ path entry, holds path entry → weaker path entry) :
    ledger.Keeps weaker :=
  ⟨keeps.distinct, fun file member => implies _ _ (keeps.entries file member)⟩

theorem Keeps.of_files {ledger other : Ledger} (keeps : ledger.Keeps holds)
    (files : other.files = ledger.files) : other.Keeps holds := by
  constructor
  · rw [files]
    exact keeps.distinct
  · rw [files]
    exact keeps.entries

theorem Keeps.sublist {ledger other : Ledger} (keeps : ledger.Keeps holds)
    (sublist : other.files.Sublist ledger.files) : other.Keeps holds :=
  ⟨keeps.distinct.sublist (sublist.map _),
    fun file member => keeps.entries file (sublist.subset member)⟩

theorem Keeps.find? {ledger : Ledger} {path : String} {entry : Entry}
    (keeps : ledger.Keeps holds) (found : ledger.files.find? path = some entry) :
    holds path entry :=
  keeps.entries (path, entry) (Files.mem_of_find? found)

end Ledger

namespace Store

variable {holds : String → Entry → Prop}

theorem keeps_set {store : Store} (keeps : store.ledger.Keeps holds) (now : Int)
    (path hash : String) (findings : List Finding)
    (new : holds path { hash, findings, timestamp := now, version := store.version }) :
    (store.set now path hash findings).ledger.Keeps holds := by
  cases enabled : store.enabled with
  | false =>
      rw [set_disabled _ _ _ _ _ enabled]
      exact keeps
  | true =>
      rw [set_enabled _ _ _ _ _ enabled]
      refine ⟨Files.nodup_put path _ store.ledger.files keeps.distinct, ?_⟩
      intro file member
      obtain rfl | old := Files.mem_put member
      · exact new
      · exact keeps.entries file old

theorem keeps_clear {store : Store} (keeps : store.ledger.Keeps holds) (now : Int) :
    (store.clear now).ledger.Keeps holds := by
  unfold clear
  split
  · exact keeps
  · exact Ledger.keeps_fresh now

theorem prune_kept (store : Store) (now : Int) (existing : List String) (maxAgeMs : Int) :
    let pruned := (store.prune now existing maxAgeMs).value.1
    pruned.file = store.file ∧ pruned.version = store.version ∧
      pruned.enabled = store.enabled ∧
      pruned.ledger.files.Sublist store.ledger.files := by
  unfold prune
  split
  · exact ⟨rfl, rfl, rfl, List.Sublist.refl _⟩
  · simp only [List.partition_eq_filter_filter]
    split
    · exact ⟨rfl, rfl, rfl, List.Sublist.refl _⟩
    · exact ⟨rfl, rfl, rfl, List.filter_sublist⟩

theorem clear_fixed (store : Store) (now : Int) :
    (store.clear now).file = store.file ∧ (store.clear now).version = store.version ∧
      (store.clear now).enabled = store.enabled := by
  unfold clear
  split <;> exact ⟨rfl, rfl, rfl⟩

theorem save_fixed (store : Store) (fs : FileSystem) (now : Int) :
    (store.save fs now).store.file = store.file ∧
      (store.save fs now).store.version = store.version ∧
      (store.save fs now).store.enabled = store.enabled := by
  unfold save
  split
  · exact ⟨rfl, rfl, rfl⟩
  · simp only
    split <;> exact ⟨rfl, rfl, rfl⟩

end Store

/-- The bytes of a ledger whose entries fulfil a condition, or a beginning of them. -/
def Stored (holds : String → Entry → Prop) (bytes : ByteArray) : Prop :=
  ∃ (ledger : Ledger) (kept : Nat), ledger.Keeps holds ∧
    bytes = (Text.encode ledger.toJson).extract 0 kept

theorem Stored.mono {holds weaker : String → Entry → Prop}
    (implies : ∀ path entry, holds path entry → weaker path entry) {bytes : ByteArray}
    (stored : Stored holds bytes) : Stored weaker bytes := by
  obtain ⟨ledger, kept, keeps, rfl⟩ := stored
  exact ⟨ledger, kept, keeps.mono implies, rfl⟩

namespace Store

variable {holds : String → Entry → Prop}

theorem readLedger_keeps {fs : FileSystem} {file : Path} (now : Int)
    (absolute : file.isAbsolute = true) (forward : FileSystem.Forward file.parts)
    (stored : ∀ bytes, fs.disk.find? file.parts = some (.file bytes) → Stored holds bytes) :
    ∃ read, readLedger fs now file = .ok read ∧ read.value.Keeps holds := by
  unfold readLedger
  simp only
  split
  · exact ⟨_, rfl, Ledger.keeps_fresh now⟩
  · exact ⟨_, rfl, Ledger.keeps_fresh now⟩
  · rename_i bytes read
    obtain ⟨ledger, kept, keeps, rfl⟩ :=
      stored bytes (FileSystem.find?_of_read absolute forward read)
    obtain ⟨decoded, isDecoded, none | whole⟩ := decode_truncated now ledger keeps.distinct kept
    · rw [isDecoded, none]
      exact ⟨_, rfl, Ledger.keeps_fresh now⟩
    · rw [isDecoded, whole]
      exact ⟨_, rfl, keeps⟩

theorem save_fs (store : Store) (fs : FileSystem) (now : Int) :
    (store.save fs now).fs = fs ∨
      ∃ ledger : Ledger, ledger.files = store.ledger.files ∧
        (store.save fs now).fs = (putFile fs store.file (Text.encode ledger.toJson)).1 := by
  unfold save
  split
  · exact .inl rfl
  · refine .inr ⟨{ store.ledger with updatedAt := now }, rfl, ?_⟩
    simp only
    split <;> rename_i done <;> rw [done]

/-- What saving does to the disk: nothing, or it puts a beginning of the ledger into the cache
file. -/
theorem save_disk {fs : FileSystem} {store : Store} {entries : List (String × Node)} (now : Int)
    (directory : fs.DirectoryAt store.file.parent entries)
    (forward : FileSystem.Forward store.file.parts) (keeps : store.ledger.Keeps holds) :
    (store.save fs now).fs.cwd = fs.cwd ∧
      ((store.save fs now).fs.disk = fs.disk ∨
        ∃ content, Stored holds content ∧
          (store.save fs now).fs.disk = fs.disk.put store.file.parts (.file content)) := by
  have absolute : store.file.isAbsolute = true := directory.absolute
  obtain same | ⟨ledger, files, put⟩ := store.save_fs fs now
  · rw [same]
    exact ⟨rfl, .inl rfl⟩
  · rw [put, putFile, directory.makeDirectories]
    obtain ⟨cwd, same | ⟨kept, written⟩⟩ :=
      fs.tryWrite_disk (Text.encode ledger.toJson) absolute forward
    · exact ⟨cwd, .inl same⟩
    · exact ⟨cwd, .inr ⟨_, ⟨ledger, kept, keeps.of_files files, rfl⟩, written⟩⟩

end Store

end MobileAudit.Cache
