import MobileAudit.Text.Quoted

namespace MobileAudit.Disk

/-! Why the disk refuses an operation. -/

inductive Refusal where
  | missing
  | present
  | notDirectory
  | isDirectory
  | nameTooLong
deriving DecidableEq

namespace Refusal

def number : Refusal → Nat
  | missing => 2
  | present => 17
  | notDirectory => 20
  | isDirectory => 21
  | nameTooLong => 36

def description : Refusal → String
  | missing => "No such file or directory"
  | present => "File exists"
  | notDirectory => "Not a directory"
  | isDirectory => "Is a directory"
  | nameTooLong => "File name too long"

end Refusal

/-- A refused operation on a path, or a path that no disk can hold. -/
inductive DiskError where
  | refused (refusal : Refusal) (path : String)
  | nullByte
deriving DecidableEq

def DiskError.message : DiskError → String
  | refused refusal path =>
      "[Errno " ++ toString refusal.number ++ "] " ++ refusal.description ++ ": " ++
        Text.quoted path
  | nullByte => "embedded null byte"

end MobileAudit.Disk
