import MobileAudit.Check.Scalar
import MobileAudit.Command.Switch

namespace MobileAudit.Command

/-! What a command line asks for. -/

structure ScanRequest where
  path : String
  concurrency : Option Int := none
  exclude : List String := []
  ignore : List String := []
  noCache : Bool := false
  clearCache : Bool := false
  format : Option String := none
  configFile : Option String := none
  verbose : Bool := false
  quiet : Bool := false
deriving DecidableEq

structure ShowRequest where
  start : Option String := none
  configFile : Option String := none
  format : String := "yaml"
  sources : Bool := false
deriving DecidableEq

inductive Request where
  | help
  | version
  | scan (request : ScanRequest)
  | showSettings (request : ShowRequest)
  | validateSettings (file : Option String)
deriving DecidableEq

def helpSwitch : Switch := { name := "--help", takesValue := false }

def versionSwitch : Switch := { name := "--version", takesValue := false }

def configSwitch : Switch := { name := "--config", letter := some 'c' }

def formatSwitch : Switch := { name := "--format", letter := some 'f' }

def scanSwitches : List Switch :=
  [{ name := "--concurrency", letter := some 'j' },
    { name := "--exclude", letter := some 'e' },
    { name := "--ignore", letter := some 'i' },
    { name := "--no-cache", takesValue := false },
    { name := "--clear-cache", takesValue := false },
    formatSwitch, configSwitch,
    { name := "--verbose", letter := some 'v', takesValue := false },
    { name := "--quiet", letter := some 'q', takesValue := false }, helpSwitch]

def showSwitches : List Switch :=
  [configSwitch, formatSwitch, { name := "--sources", takesValue := false }, helpSwitch]

/-- Takes the arguments of a command apart.  Help goes before everything but unknown switches and
missing values. -/
def withHelp (switches : List Switch) (arguments : List String)
    (request : Taken → Except Misuse Request) : Except Misuse Request := do
  let taken ← takeApart switches true arguments
  if taken.has helpSwitch.name then return .help else request taken

def integer? (taken : Taken) (name : String) : Except Misuse (Option Int) :=
  match taken.value? name with
  | none => .ok none
  | some text =>
      match Check.integerOfText text with
      | .valid n => .ok (some n)
      | _ => .error (.notInteger name text)

def argument? (taken : Taken) : Except Misuse (Option String) :=
  match taken.rest with
  | [] => .ok none
  | [text] => .ok (some text)
  | _ :: text :: _ => .error (.argumentUnexpected text)

def readScan (taken : Taken) : Except Misuse Request := do
  let concurrency ← integer? taken "--concurrency"
  match ← argument? taken with
  | none => throw (.argumentMissing "PATH")
  | some path =>
      return .scan
        { path, concurrency
          exclude := taken.values "--exclude"
          ignore := taken.values "--ignore"
          noCache := taken.has "--no-cache"
          clearCache := taken.has "--clear-cache"
          format := taken.value? formatSwitch.name
          configFile := taken.value? configSwitch.name
          verbose := taken.has "--verbose"
          quiet := taken.has "--quiet" }

def readShow (taken : Taken) : Except Misuse Request := do
  let start ← argument? taken
  return .showSettings
    { start
      configFile := taken.value? configSwitch.name
      format := (taken.value? formatSwitch.name).getD "yaml"
      sources := taken.has "--sources" }

def readValidate (taken : Taken) : Except Misuse Request := do
  let file ← argument? taken
  return .validateSettings file

def readConfig (arguments : List String) : Except Misuse Request := do
  let taken ← takeApart [helpSwitch] false arguments
  if taken.has helpSwitch.name then return .help
  match taken.rest with
  | [] => throw .commandMissing
  | "show" :: rest => withHelp showSwitches rest readShow
  | "validate" :: rest => withHelp [helpSwitch] rest readValidate
  | name :: _ => throw (.noSuchCommand name)

/-- Reads a command line.  Help and version go before any command, whichever of them comes first;
without a command help is asked for. -/
def read (arguments : List String) : Except Misuse Request := do
  let taken ← takeApart [versionSwitch, helpSwitch] false arguments
  match taken.given, taken.rest with
  | first :: _, _ => return if first.name == versionSwitch.name then .version else .help
  | [], [] => return .help
  | [], "scan" :: rest => withHelp scanSwitches rest readScan
  | [], "config" :: rest => readConfig rest
  | [], name :: _ => throw (.noSuchCommand name)

end MobileAudit.Command
