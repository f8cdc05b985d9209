import MobileAudit.Console.Table
import MobileAudit.Settings.Resolve

namespace MobileAudit.Command

/-! What a command leaves behind. -/

structure Setup where
  origin : Settings.Origin
  now : Int

/-- What was printed, the disk afterwards, and how the command ended.  A failure that no command
expects ends it on the spot. -/
structure Outcome where
  exitCode : Nat
  fs : FileSystem
  out : List Char := []
  err : List Char := []
  crash : Option String := none

namespace Outcome

def success : Nat := 0

def failure : Nat := 1

def findings : Nat := 2

def misuse : Nat := 2

def crashed (fs : FileSystem) (out : List Char) (reason : String) : Outcome :=
  { exitCode := failure, fs, out, crash := some reason }

def failed (fs : FileSystem) (out : List Char) (title : String) (text : List Char) : Outcome :=
  match Console.panel title text with
  | .ok lines => { exitCode := failure, fs, out, err := Console.ended lines }
  | .error e => crashed fs out e.message

/-- A message with a heading above it and, if there is one, a detail below it. -/
def messageText (heading message : String) (detail : Option (String × String)) : List Char :=
  let below := match detail with
    | some (label, text) =>
        if text.isEmpty then []
        else "\n\n".toList ++ Markup.styled "dim" (label ++ ":") ++ ' ' :: text.toList
    | none => []
  Markup.styled "bold red" heading ++ "\n\n".toList ++ message.toList ++ below

def configFailed (fs : FileSystem) (message : String) (key : Option String) : Outcome :=
  failed fs [] "Config Error"
    (messageText "Configuration Error" message (key.map fun key => ("Config key", key)))

def obstructed (fs : FileSystem) : Settings.Obstacle → Outcome
  | .config e => configFailed fs e.message e.key?
  | .disk e => crashed fs [] e.message
  | .yaml failure => crashed fs [] failure.message
  | .breakdown cause => crashed fs [] cause.message

/-- Prints more and ends well, unless what is to be printed cannot be shown. -/
def printed (fs : FileSystem) (out : List Char) (exitCode : Nat) :
    Except Markup.Error (List Char) → Outcome
  | .ok text => { exitCode, fs, out := out ++ text }
  | .error e => crashed fs out e.message

end Outcome

end MobileAudit.Command
