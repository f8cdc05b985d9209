import MobileAudit.Text.Split

namespace MobileAudit.Command

/-! Switches and positional arguments of a command line. -/

/-- A switch with a long name, a letter if it has one, and whether a value follows it. -/
structure Switch where
  name : String
  letter : Option Char := none
  takesValue : Bool := true
deriving DecidableEq

inductive Misuse where
  | noSuchSwitch (text : String)
  | valueMissing (name : String)
  | valueUnexpected (name : String)
  | notInteger (name value : String)
  | argumentMissing (name : String)
  | argumentUnexpected (text : String)
  | commandMissing
  | noSuchCommand (name : String)
deriving DecidableEq

def Misuse.message : Misuse → String
  | noSuchSwitch text => "no such option: " ++ text
  | valueMissing name => "option " ++ name ++ " requires a value"
  | valueUnexpected name => "option " ++ name ++ " does not take a value"
  | notInteger name value => "option " ++ name ++ " needs an integer, not " ++ value
  | argumentMissing name => "missing argument: " ++ name
  | argumentUnexpected text => "unexpected argument: " ++ text
  | commandMissing => "missing command"
  | noSuchCommand name => "no such command: " ++ name

/-- A switch of a command line with its value, which is empty if it takes none. -/
structure Given where
  name : String
  value : String := ""
deriving DecidableEq

/-- A command line taken apart: switches in their order, and what else there is. -/
structure Taken where
  given : List Given := []
  rest : List String := []
deriving DecidableEq

namespace Taken

def has (taken : Taken) (name : String) : Bool :=
  taken.given.any (·.name == name)

def values (taken : Taken) (name : String) : List String :=
  (taken.given.filter (·.name == name)).map (·.value)

/-- The last value of a switch counts. -/
def value? (taken : Taken) (name : String) : Option String :=
  (taken.values name).getLast?

def addGiven (taken : Taken) (given : List Given) : Taken :=
  { taken with given := given ++ taken.given }

def addRest (taken : Taken) (text : String) : Taken :=
  { taken with rest := text :: taken.rest }

end Taken

/-- What one argument says: switches, of which the last may still wait for its value. -/
structure Reading where
  given : List Given := []
  waiting : Option String := none

def readLong (switches : List Switch) (text : List Char) : Except Misuse Reading :=
  let name := String.ofList (text.takeWhile (· != '='))
  match switches.find? (·.name == name), text.dropWhile (· != '=') with
  | none, _ => .error (.noSuchSwitch name)
  | some switch, [] =>
      .ok (if switch.takesValue then ⟨[], some name⟩ else ⟨[⟨name, ""⟩], none⟩)
  | some switch, _ :: value =>
      if switch.takesValue then .ok ⟨[⟨name, String.ofList value⟩], none⟩
      else .error (.valueUnexpected name)

/-- Reads letters after a dash.  What follows a letter that takes a value is this value. -/
def readLetters (switches : List Switch) : List Char → Except Misuse Reading
  | [] => .ok {}
  | c :: rest =>
      match switches.find? (·.letter == some c) with
      | none => .error (.noSuchSwitch (String.ofList ['-', c]))
      | some switch =>
          if switch.takesValue then
            .ok (if rest.isEmpty then ⟨[], some switch.name⟩
              else ⟨[⟨switch.name, String.ofList rest⟩], none⟩)
          else (readLetters switches rest).map fun reading =>
            { reading with given := ⟨switch.name, ""⟩ :: reading.given }

/-- Reads an argument if it is a switch; a single dash is none. -/
def readSwitch? (switches : List Switch) (text : String) : Option (Except Misuse Reading) :=
  match text.toList with
  | '-' :: '-' :: _ => some (readLong switches text.toList)
  | '-' :: c :: rest => some (readLetters switches (c :: rest))
  | _ => none

/-- Takes a command line apart.  Two dashes end the switches; if `mixed` does not hold, so does the
first argument that is no switch. -/
def takeApart (switches : List Switch) (mixed : Bool) : List String → Except Misuse Taken
  | [] => .ok {}
  | text :: rest =>
      if text == "--" then .ok ⟨[], rest⟩
      else match readSwitch? switches text with
        | none =>
            if mixed then (takeApart switches mixed rest).map (·.addRest text)
            else .ok ⟨[], text :: rest⟩
        | some (.error misuse) => .error misuse
        | some (.ok ⟨given, none⟩) =>
            (takeApart switches mixed rest).map (·.addGiven given)
        | some (.ok ⟨given, some name⟩) =>
            match rest with
            | [] => .error (.valueMissing name)
            | value :: rest =>
                (takeApart switches mixed rest).map (·.addGiven (given ++ [⟨name, value⟩]))

end MobileAudit.Command
