import MobileAudit.Disk.Path
import MobileAudit.Text.Case

namespace MobileAudit

/-! The kinds of files that a scan looks at. -/

inductive FileKind where
  | source
  | config
  | manifest
  | propertyList
deriving DecidableEq

namespace FileKind

def all : List FileKind := [source, config, manifest, propertyList]

def extensions : FileKind → List String
  | source => [".js", ".jsx", ".ts", ".tsx"]
  | config => [".json"]
  | manifest => [".xml"]
  | propertyList => [".plist"]

/-- The kind with an extension, in any case. -/
def ofExtension? (ending : String) : Option FileKind :=
  all.find? fun kind => kind.extensions.contains (Text.lower ending)

def ofName? (name : String) : Option FileKind :=
  ofExtension? (Path.extensionOf name)

def ofPath? (path : String) : Option FileKind :=
  ofExtension? (Path.ofText path).suffix

end FileKind

end MobileAudit
