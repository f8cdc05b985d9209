import MobileAudit.Finding.Record

namespace MobileAudit.Cache

/-! What earlier scans found, file by file, as it is stored between runs. -/

structure Entry where
  hash : String
  findings : List Finding
  timestamp : Int
  version : String
deriving DecidableEq

namespace Entry

def fields (entries : Value.Entries) : Check.Checked Entry :=
  ((Check.required entries ["hash"] Check.text).and
    ((Check.optional entries ["findings"] [] (Check.list Finding.check)).and
    ((Check.required entries ["timestamp"] Check.integer).and
    (Check.required entries ["version"] Check.text)))).map
    fun (hash, findings, timestamp, version) => { hash, findings, timestamp, version }

def check (v : Value) : Check.Checked Entry :=
  Check.record "CacheEntry" fields v

def toValue (entry : Entry) : Value :=
  recordOf true
    [("hash", some (.text entry.hash)),
      ("findings", some (.list (entry.findings.map (Finding.toValue true)))),
      ("timestamp", some (.int entry.timestamp)), ("version", some (.text entry.version))]

end Entry

abbrev Files := List (String × Entry)

namespace Files

def find? (files : Files) (path : String) : Option Entry :=
  files.lookup path

/-- Sets the entry of a path: a known path keeps its place, a new one goes to the end. -/
def put (path : String) (entry : Entry) : Files → Files
  | [] => [(path, entry)]
  | (p, e) :: rest => if p == path then (p, entry) :: rest else (p, e) :: put path entry rest

def erase (path : String) (files : Files) : Files :=
  files.filter fun (p, _) => p != path

def checkEntries : Value.Entries → Check.Checked Files
  | [] => .valid []
  | (key, v) :: rest =>
      (((Check.text key).and (Entry.check v)).under key.plain |>.and (checkEntries rest)).map
        fun (entry, more) => entry :: more

def check : Value → Check.Checked Files
  | .map entries => checkEntries entries
  | _ => .flawed .notMapping

def toValue (files : Files) : Value :=
  .map (files.map fun (path, entry) => (.text path, entry.toValue))

end Files

structure Ledger where
  files : Files
  createdAt : Int
  updatedAt : Int
deriving DecidableEq

namespace Ledger

def fresh (now : Int) : Ledger := ⟨[], now, now⟩

def fields (now : Int) (entries : Value.Entries) : Check.Checked Ledger :=
  ((Check.optional entries ["files"] [] Files.check).and
    ((Check.optional entries ["createdAt", "created_at"] now Check.integer).and
    (Check.optional entries ["updatedAt", "updated_at"] now Check.integer))).map
    fun (files, createdAt, updatedAt) => { files, createdAt, updatedAt }

def check (now : Int) (v : Value) : Check.Checked Ledger :=
  Check.record "CacheData" (fields now) v

def toValue (ledger : Ledger) : Value :=
  recordOf true
    [("files", some ledger.files.toValue), ("createdAt", some (.int ledger.createdAt)),
      ("updatedAt", some (.int ledger.updatedAt))]

def toJson (ledger : Ledger) : String :=
  Json.write .document ledger.toValue

end Ledger

end MobileAudit.Cache
