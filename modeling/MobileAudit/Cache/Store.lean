import MobileAudit.Cache.Ledger
import MobileAudit.Diagnostic
import MobileAudit.Disk.Access
import MobileAudit.Fault
import MobileAudit.Json.Read
import MobileAudit.Settings.Basic
import MobileAudit.Text.Utf8

namespace MobileAudit.Cache

/-! The cache of a project.  It is read as a whole, changed in memory and written as a whole.  A
cache file that cannot be used counts as an empty one, and a disabled cache holds nothing and
changes nothing. -/

open Disk

def defaultMaxAgeMs : Int := 7 * 24 * 60 * 60 * 1000

structure Store where
  file : Path
  version : String
  ledger : Ledger
  dirty : Bool := false
  enabled : Bool := true

namespace Store

def create (directory : Path) (version fileName : String) (now : Int) : Store where
  file := directory.child fileName
  version
  ledger := .fresh now

def description (store : Store) : String :=
  "ContentCache(cache_file=" ++ Text.quoted store.file.text ++ ", version=" ++
    Text.quoted store.version ++ ")"

/-- What the bytes of a cache file hold: a ledger, or nothing if they hold none.  Only a document
that is nested too deep is an error. -/
def decode (now : Int) (bytes : ByteArray) : Except Json.Cause (Option Ledger) :=
  match Text.decodeFile? bytes with
  | none => .ok none
  | some text =>
      match Json.read text with
      | .error ⟨.tooDeep container, _⟩ => .error (.tooDeep container)
      | .error _ => .ok none
      | .ok v => .ok (Ledger.check now v).value?

/-- The ledger on the disk.  A missing file is an empty ledger, and so is an unusable one, which is
reported. -/
def readLedger (fs : FileSystem) (now : Int) (file : Path) :
    Except Json.Cause (Logged Ledger) :=
  let unusable : Logged Ledger := ⟨.fresh now, [.cacheIgnored file.text]⟩
  match fs.read file with
  | .error (.refused .missing _) => .ok ⟨.fresh now, []⟩
  | .error _ => .ok unusable
  | .ok bytes =>
      match decode now bytes with
      | .error cause => .error cause
      | .ok none => .ok unusable
      | .ok (some ledger) => .ok ⟨ledger, []⟩

def load (fs : FileSystem) (now : Int) (store : Store) : Except Json.Cause (Logged Store) :=
  if !store.enabled then .ok ⟨store, []⟩
  else (readLedger fs now store.file).map fun read =>
    ⟨{ store with ledger := read.value, dirty := false }, read.logs⟩

/-- The outcome of saving.  `escaped` is an error that is not a refusal of the disk. -/
structure Saved where
  store : Store
  fs : FileSystem
  logs : List Diagnostic
  escaped : Option DiskError

def putFile (fs : FileSystem) (file : Path) (content : ByteArray) :
    FileSystem × Option DiskError :=
  match fs.makeDirectories file.parent with
  | .error e => (fs, some e)
  | .ok fs => fs.tryWrite file content

/-- Writes the ledger if it has changed.  A refusal of the disk is reported, and the cache stays
changed. -/
def save (fs : FileSystem) (now : Int) (store : Store) : Saved :=
  if !store.enabled || !store.dirty then ⟨store, fs, [], none⟩
  else
    let store := { store with ledger := { store.ledger with updatedAt := now } }
    match putFile fs store.file (Text.encode store.ledger.toJson) with
    | (fs, none) => ⟨{ store with dirty := false }, fs, [], none⟩
    | (fs, some (.refused refusal path)) =>
        let error := Fault.of (.cache (some store.file.text))
          ("Failed to write cache file: " ++ (DiskError.refused refusal path).message)
        ⟨store, fs, [.cacheNotSaved error.text], none⟩
    | (fs, some .nullByte) => ⟨store, fs, [], some .nullByte⟩

def find? (store : Store) (path : String) : Option Entry :=
  if store.enabled then store.ledger.files.find? path else none

def isValid (store : Store) (path hash : String) : Bool :=
  match store.find? path with
  | some entry => entry.hash == hash && entry.version == store.version
  | none => false

def findings? (store : Store) (path : String) : Option (List Finding) :=
  (store.find? path).map (·.findings)

/-- Replaces the entries of an enabled cache, which is then changed. -/
def replaceFiles (store : Store) (files : Files) : Store :=
  { store with ledger := { store.ledger with files }, dirty := true }

def set (store : Store) (now : Int) (path hash : String) (findings : List Finding) : Store :=
  if !store.enabled then store
  else
    store.replaceFiles (store.ledger.files.put path
      { hash, findings, timestamp := now, version := store.version })

def remove (store : Store) (path : String) : Store :=
  if !store.enabled || (store.ledger.files.find? path).isNone then store
  else store.replaceFiles (store.ledger.files.erase path)

def clear (store : Store) (now : Int) : Store :=
  if !store.enabled then store else { store with ledger := .fresh now, dirty := true }

/-- An entry whose file is gone or that is older than allowed. -/
def isStale (existing : List String) (cutoff : Int) (path : String) (entry : Entry) : Bool :=
  !existing.contains path || entry.timestamp < cutoff

def prune (store : Store) (now : Int) (existing : List String) (maxAgeMs : Int) :
    Logged (Store × Nat) :=
  if !store.enabled then ⟨(store, 0), []⟩
  else
    let (stale, kept) := store.ledger.files.partition fun (path, entry) =>
      isStale existing (now - maxAgeMs) path entry
    if stale.isEmpty then ⟨(store, 0), []⟩
    else ⟨(store.replaceFiles kept, stale.length), [.pruned stale.length]⟩

def enable (store : Store) : Store := { store with enabled := true }

def disable (store : Store) : Store := { store with enabled := false }

end Store

end MobileAudit.Cache
