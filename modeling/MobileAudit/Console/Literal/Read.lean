import MobileAudit.Console.Literal.Escape
import MobileAudit.Console.Literal.Shape
import MobileAudit.Console.Literal.Token

namespace MobileAudit.Literal

/-! Reading expressions.  Where two of them follow one another, or a sign is out of place, the fault
says what is probably missing. -/

structure Reading where
  rest : List Token
  ending : Option Fault
  /-- The number of brackets that are open after the last token. -/
  level : Nat := 0

abbrev Reader := StateT Reading (Except Fault)

namespace Reader

/-- The next lexeme; what is wrong at the end counts only when it is reached. -/
def peek : Reader (Option Lexeme) := do
  let reading ← get
  match reading.rest, reading.ending with
  | token :: _, _ => return some token.lexeme
  | [], some fault => throw fault
  | [], none => return none

def skip : Reader Unit :=
  modify fun reading =>
    match reading.rest with
    | token :: rest => { reading with rest, level := token.level }
    | [] => reading

def takeSign (text : String) : Reader Bool := do
  if (← peek) == some (.sign text) then
    skip
    return true
  else return false

def takeWord (text : String) : Reader Bool := do
  if (← peek) == some (.name text.toList) then
    skip
    return true
  else return false

def expectSign (text : String) : Reader Unit := do
  if !(← takeSign text) then throw .unreadable

/-- Tries to read; after a breach of the grammar nothing has been read. -/
def attempt {α : Type} (reader : Reader α) : Reader (Option α) := fun reading =>
  match reader reading with
  | .ok (a, after) => .ok (some a, after)
  | .error .unreadable => .ok (none, reading)
  | .error fault => .error fault

/-- The lexemes that come next, without looking at the end. -/
def upcoming (count : Nat) : Reader (List Lexeme) := do
  return ((← get).rest.take count).map (·.lexeme)

end Reader

open Reader

/-- Words that cannot be names. -/
def reserved : List String :=
  ["False", "None", "True", "and", "as", "assert", "async", "await", "break", "class", "continue",
    "def", "del", "elif", "else", "except", "finally", "for", "from", "global", "if", "import",
    "in", "is", "lambda", "nonlocal", "not", "or", "pass", "raise", "return", "try", "while",
    "with", "yield"]

def isReserved (name : List Char) : Bool := reserved.contains (String.ofList name)

def arithmeticSigns : List String :=
  ["|", "^", "&", "<<", ">>", "+", "-", "*", "/", "//", "%", "@", "**"]

def comparisonSigns : List String := ["==", "!=", "<", ">", "<=", ">="]

def arithmeticOperator : Reader (Option String) := do
  match ← peek with
  | some (.sign text) =>
      if arithmeticSigns.contains text then
        skip
        return some text
      else return none
  | _ => return none

def comparisonOperator : Reader (Option String) := do
  match ← peek with
  | some (.sign text) =>
      if comparisonSigns.contains text then
        skip
        return some text
      else return none
  | some (.name word) =>
      if word == "in".toList then
        skip
        return some "in"
      else if word == "is".toList then
        skip
        let _ ← takeWord "not"
        return some "is"
      else if word == "not".toList then
        attempt do
          skip
          if ← takeWord "in" then return "in" else throw .unreadable
      else return none
  | _ => return none

def truthOperator : Reader (Option String) := do
  if ← takeWord "and" then return some "and"
  else if ← takeWord "or" then return some "or"
  else return none

/-- Reads further operands as long as operators come with them. -/
def chain (operator : Reader (Option String)) (operand : Reader Shape)
    (join : String → Shape → Shape → Shape) : Nat → Shape → Reader Shape
  | 0, first => return first
  | fuel + 1, first => do
      let more ← attempt do
        match ← operator with
        | some sign => return (sign, ← operand)
        | none => throw .unreadable
      match more with
      | some (sign, second) => chain operator operand join fuel (join sign first second)
      | none => return first

/-- The texts that come next, with the letters in front of them. -/
def takeTexts : Nat → Reader (List (List Char × List Char))
  | 0 => return []
  | fuel + 1 => do
      match ← peek with
      | some (.text letters body) =>
          skip
          return (letters, body) :: (← takeTexts fuel)
      | _ => return []

def skipLineEnds : Nat → Reader Unit
  | 0 => return ()
  | fuel + 1 => do
      if (← peek) == some .lineEnd then
        skip
        skipLineEnds fuel

/-- The beginning of an expression after which no comma is missed: a name and a text, or a word that
is sometimes reserved. -/
def forbidsComma : List Lexeme → Bool
  | .name word :: next =>
      ["_", "case", "match"].contains (String.ofList word) ||
        (!isReserved word && match next with
          | .text .. :: _ => true
          | _ => false)
  | _ => false

/-- Kinds of expressions that an equals sign cannot follow as a slip for another sign. -/
def isCompound (shape : Shape) : Bool :=
  ["comparison", "truth value", "conditional expression", "lambda", "tuple"].contains shape.kind

def isConstant (word : List Char) : Bool :=
  ["True", "False", "None"].contains (String.ofList word)

def startsWithConstant : List Lexeme → Bool
  | .name word :: _ => isConstant word
  | _ => false

/-- Names after which parentheses are easily forgotten. -/
def Shape.isCommand : Shape → Bool
  | .name word => word == "print".toList || word == "exec".toList
  | _ => false

/-- Kinds of expressions that values can be given to. -/
def isTarget (shape : Shape) : Bool := ["name", "attribute", "tuple"].contains shape.kind

/-- Arguments are plain, have names, or stand for those of a mapping. -/
inductive ArgumentKind where
  | plain
  | named
  | unpacked
deriving DecidableEq

mutual

/-- Reads an expression.  With `hints`, it says what is missing where another one follows. -/
def expression : Nat → Bool → Reader Shape
  | 0, _ => throw .unreadable
  | fuel + 1, hints => do
      let begin ← get
      if ← takeWord "lambda" then
        if !(← takeSign ":") then parameters fuel hints
        let _ ← expression fuel hints
        return .other "lambda"
      let first ← disjunction fuel hints
      let _ ← peek
      let start := (begin.rest.take 2).map (·.lexeme)
      if hints && !forbidsComma start && !first.isCommand then checkComma fuel
      let more ← attempt (conditional fuel hints)
      if hints then checkCommand fuel begin
      return more.getD first

def parameters : Nat → Bool → Reader Unit
  | 0, _ => throw .unreadable
  | fuel + 1, hints => do
      let isSign ← if ← takeSign "/" then pure true
        else if ← takeSign "*" then pure ((← peek) == some (.sign ","))
        else do
          let _ ← takeSign "**"
          pure false
      if !isSign then
        match ← peek with
        | some (.name word) =>
            if isReserved word then throw .unreadable
            skip
        | _ => throw .unreadable
        if ← takeSign "=" then
          let _ ← expression fuel hints
      if ← takeSign ":" then return ()
      expectSign ","
      if ← takeSign ":" then return ()
      parameters fuel hints

def conditional : Nat → Bool → Reader Shape
  | 0, _ => throw .unreadable
  | fuel + 1, hints => do
      if !(← takeWord "if") then throw .unreadable
      let _ ← disjunction fuel hints
      if ← takeWord "else" then
        let _ ← expression fuel hints
        return .other "conditional expression"
      else if (← peek) == some (.sign ":") || !hints then throw .unreadable
      else throw .missingElse

/-- Between brackets a comma is missing where an expression follows another.  What looks like a set
and cannot be read may have faults of its own. -/
def checkComma : Nat → Reader Unit
  | 0 => return ()
  | fuel + 1 => do
      let here ← get
      if (← attempt (expression fuel false)).isSome then
        if (← get).level != 0 then throw .missingComma
      else if ← takeSign "\x7b" then
        let _ ← attempt do
          let first ← firstMember fuel true
          expectSign ","
          members fuel true "\x7d" [first]
      set here

/-- Looks at what follows a name at the beginning of an expression; after some names parentheses are
missing. -/
def checkCommand : Nat → Reading → Reader Unit
  | 0, _ => return ()
  | fuel + 1, begin => do
      let start : List Lexeme := (begin.rest.take 2).map (·.lexeme)
      match start with
      | [.name word, next] =>
          if !isReserved word && next != .sign "(" then
            let here ← get
            set begin
            skip
            let follows ← attempt (expressionList fuel)
            if follows.isSome && (Shape.name word).isCommand then
              throw (.missingParentheses word)
            set here
      | _ => return ()

def expressionList : Nat → Reader Unit
  | 0 => return ()
  | fuel + 1 => do
      let _ ← expression fuel true
      let _ ← attempt do
        expectSign ","
        expressionList fuel

/-- Checks texts that follow one another: either all or none of them are bytes. -/
def checkTexts : Nat → Option Bool → List (List Char × List Char) → Except Fault Unit
  | 0, _, _ => .ok ()
  | _, _, [] => .ok ()
  | fuel + 1, bytes, (letters, body) :: rest => do
      checkText letters body
      let isBytes := letters.contains 'b'
      if bytes.any (· != isBytes) then throw .mixedTexts
      if letters.contains 'f' then
        checkPieces fuel (letters.contains 'r') (formattedPieces (letters.contains 'r') body)
      checkTexts fuel (some isBytes) rest

def checkPieces : Nat → Bool → List Piece → Except Fault Unit
  | 0, _, _ => .ok ()
  | _, _, [] => .ok ()
  | _, _, .fault fault :: _ => .error (.braces fault)
  | fuel + 1, raw, .plain text :: rest => do
      checkText (if raw then ['r'] else []) text
      checkPieces fuel raw rest
  | fuel + 1, raw, .expression text :: rest => do
      let tokens ← tokens ('(' :: text ++ [')'])
      let reading : Reading := ⟨tokens.all, tokens.ending, 0⟩
      match (whole fuel false).run reading, (whole fuel true).run reading with
      | .ok _, _ => checkPieces fuel raw rest
      | .error .unreadable, .ok _ => throw .unreadable
      | .error .unreadable, .error fault => throw fault.between
      | .error fault, _ => throw fault.between

def disjunction : Nat → Bool → Reader Shape
  | 0, _ => throw .unreadable
  | fuel + 1, hints => do
      let first ← inversion fuel hints
      chain truthOperator (inversion fuel hints) (fun _ _ _ => .other "truth value") fuel first

def inversion : Nat → Bool → Reader Shape
  | 0, _ => throw .unreadable
  | fuel + 1, hints => do
      if ← takeWord "not" then
        let _ ← inversion fuel hints
        return .other "truth value"
      else
        let first ← arithmetic fuel hints
        chain comparisonOperator (arithmetic fuel hints) (fun _ _ _ => .other "comparison") fuel
          first

def arithmetic : Nat → Bool → Reader Shape
  | 0, _ => throw .unreadable
  | fuel + 1, hints => do
      let first ← factor fuel hints
      chain arithmeticOperator (factor fuel hints) Shape.joined fuel first

def factor : Nat → Bool → Reader Shape
  | 0, _ => throw .unreadable
  | fuel + 1, hints => do
      if (← takeSign "+") || (← takeSign "-") then return (← factor fuel hints).withSign
      else if ← takeSign "~" then
        let _ ← factor fuel hints
        return .other "expression"
      else if ← takeWord "await" then
        let _ ← trailers fuel hints (← atom fuel hints)
        return .other "await expression"
      else trailers fuel hints (← atom fuel hints)

def trailers : Nat → Bool → Shape → Reader Shape
  | 0, _, _ => throw .unreadable
  | fuel + 1, hints, first => do
      match ← attempt (trailer fuel hints first) with
      | some next => trailers fuel hints next
      | none => return first

def trailer : Nat → Bool → Shape → Reader Shape
  | 0, _, _ => throw .unreadable
  | fuel + 1, hints, first => do
      if ← takeSign "." then
        match ← peek with
        | some (.name word) =>
            if isReserved word then throw .unreadable
            skip
            return .other "attribute"
        | _ => throw .unreadable
      else
        expectSign "("
        let hasArguments ← arguments fuel hints .plain
        return match first, hasArguments with
          | .name word, false => if word == "set".toList then .emptySet else .other "function call"
          | _, _ => .other "function call"

def atom : Nat → Bool → Reader Shape
  | 0, _ => throw .unreadable
  | fuel + 1, hints => do
      match ← peek with
      | some (.name word) =>
          if isConstant word then
            skip
            return .constant (String.ofList word)
          else if isReserved word then throw .unreadable
          else
            skip
            return .name word
      | some (.number imaginary) =>
          skip
          return .number imaginary false
      | some (.text ..) =>
          let texts ← takeTexts fuel
          match checkTexts fuel none texts with
          | .error fault => throw fault
          | .ok () =>
              return if texts.any fun (letters, _) => letters.contains 'f' then
                .other "f-string expression"
              else .text
      | some (.sign "...") =>
          skip
          return .ellipsis
      | some (.sign "(") =>
          skip
          group fuel hints
      | some (.sign "\x7b") =>
          skip
          braces fuel hints
      | _ => throw .unreadable

/-- Reads a member of a group or set: an expression, perhaps with a star or a name in front. -/
def member : Nat → Bool → Reader Shape
  | 0, _ => throw .unreadable
  | fuel + 1, hints => do
      let start ← upcoming 2
      match start with
      | .sign "*" :: _ =>
          skip
          let _ ← arithmetic fuel hints
          return .other "starred"
      | _ =>
          if let [.name word, .sign ":="] := start then
            if !isReserved word then
              skip
              skip
              let _ ← expression fuel hints
              return .other "named expression"
          let shape ← expression fuel hints
          if ← takeSign ":=" then
            let _ ← expression fuel hints
            throw (if hints then .assigned shape.kind else .unreadable)
          else if (← peek) == some (.sign "=") && hints &&
              !isCompound shape && !startsWithConstant start then
            skip
            let _ ← arithmetic fuel hints
            let next ← peek
            if next == some (.sign "=") || next == some (.sign ":=") then throw .unreadable
            match start with
            | [.name _, .sign "="] => throw .equalsSign
            | _ => throw (.equalsSignAfter shape.kind)
          else return shape

/-- Reads the first member after a bracket, where a star must not stand alone. -/
def firstMember : Nat → Bool → Reader Shape
  | 0, _ => throw .unreadable
  | fuel + 1, hints => do
      if hints && (← peek) == some (.sign "*") then
        let here ← get
        skip
        if (← attempt (expression fuel true)).isNone then throw .starAlone
        set here
      member fuel hints

/-- Reads the clauses after a member that is made for each item of another value. -/
def clauses : Nat → Bool → Reader Unit
  | 0, _ => throw .unreadable
  | fuel + 1, hints => do
      if !(← takeWord "for") then throw .unreadable
      let here ← get
      let named ← attempt do
        targets fuel
        if !(← takeWord "in") then throw .unreadable
      if named.isNone then
        if hints then
          expressionList fuel
          set here
          let shape ← factor fuel true
          if !isTarget shape then throw (.assignedTarget shape.kind)
        throw .unreadable
      let _ ← disjunction fuel hints
      let _ ← chain (do return if ← takeWord "if" then some "if" else none)
        (disjunction fuel hints) (fun _ first _ => first) fuel .text
      let _ ← attempt (clauses fuel hints)

def targets : Nat → Reader Unit
  | 0 => throw .unreadable
  | fuel + 1 => do
      let _ ← takeSign "*"
      let shape ← factor fuel false
      if !isTarget shape then throw .unreadable
      let _ ← attempt do
        expectSign ","
        targets fuel

/-- Reads members up to a closing bracket, after some that have been read. -/
def members : Nat → Bool → String → List Shape → Reader (List Shape)
  | 0, _, _, _ => throw .unreadable
  | fuel + 1, hints, closing, before => do
      if ← takeSign closing then return before.reverse
      let shape ← member fuel hints
      if ← takeSign closing then return (shape :: before).reverse
      expectSign ","
      members fuel hints closing (shape :: before)

def group : Nat → Bool → Reader Shape
  | 0, _ => throw .unreadable
  | fuel + 1, hints => do
      if ← takeSign ")" then return .tuple []
      if ← takeWord "yield" then
        let _ ← takeWord "from"
        let _ ← attempt (expressionList fuel)
        expectSign ")"
        return .other "yield expression"
      if ← takeSign "**" then
        let _ ← expression fuel hints
        expectSign ")"
        throw (if hints then .doubleStarredGroup else .unreadable)
      let shape ← firstMember fuel hints
      if ← takeSign ")" then
        match shape with
        | .other "starred" => throw (if hints then .starredGroup else .unreadable)
        | _ => return shape
      if (← peek) == some (.name "for".toList) then
        clauses fuel hints
        expectSign ")"
        return .other "generator expression"
      expectSign ","
      return .tuple (← members fuel hints ")" [shape])

def braces : Nat → Bool → Reader Shape
  | 0, _ => throw .unreadable
  | fuel + 1, hints => do
      if ← takeSign "\x7d" then return .map []
      if (← peek) == some (.sign "**") then return .map (← entries fuel hints [])
      let shape ← firstMember fuel hints
      if (← peek) == some (.sign ":") && shape.kind != "starred" then
        let value ← entryValue fuel hints
        if (← peek) == some (.name "for".toList) then
          clauses fuel hints
          expectSign "\x7d"
          return .other "dict comprehension"
        return .map (← entriesAfter fuel hints [(some shape, value)])
      if (← peek) == some (.name "for".toList) then
        clauses fuel hints
        expectSign "\x7d"
        return .other "set comprehension"
      if ← takeSign "\x7d" then return .set [shape]
      expectSign ","
      return .set (← members fuel hints "\x7d" [shape])

def entryValue : Nat → Bool → Reader Shape
  | 0, _ => throw .unreadable
  | fuel + 1, hints => do
      expectSign ":"
      let next ← peek
      if next == some (.sign "*") then
        skip
        let _ ← arithmetic fuel hints
        throw .starredValue
      if next == some (.sign "\x7d") || next == some (.sign ",") then throw .missingValue
      expression fuel hints

def entriesAfter : Nat → Bool → List (Option Shape × Shape) →
    Reader (List (Option Shape × Shape))
  | 0, _, _ => throw .unreadable
  | fuel + 1, hints, before => do
      if ← takeSign "\x7d" then return before.reverse
      expectSign ","
      if ← takeSign "\x7d" then return before.reverse
      entries fuel hints before

def entries : Nat → Bool → List (Option Shape × Shape) → Reader (List (Option Shape × Shape))
  | 0, _, _ => throw .unreadable
  | fuel + 1, hints, before => do
      if ← takeSign "**" then
        let value ← arithmetic fuel hints
        entriesAfter fuel hints ((none, value) :: before)
      else
        let key ← expression fuel hints
        if (← peek) != some (.sign ":") then throw .missingColon
        let value ← entryValue fuel hints
        entriesAfter fuel hints ((some key, value) :: before)

/-- Reads the arguments of a call and says whether there are any; `last` is the kind of the latest
one that was not plain. -/
def arguments : Nat → Bool → ArgumentKind → Reader Bool
  | 0, _, _ => throw .unreadable
  | fuel + 1, hints, last => do
      if ← takeSign ")" then return false
      let start ← upcoming 2
      let kind ← match start with
        | [.name word, .sign "="] => do
            if isReserved word then throw .unreadable
            skip
            skip
            let _ ← expression fuel hints
            pure (if last == .unpacked then ArgumentKind.unpacked else .named)
        | .sign "*" :: _ => do
            if last == .unpacked then throw (if hints then .lateUnpacking else .unreadable)
            skip
            if (← attempt (expression fuel hints)).isNone then
              throw (if hints then .starAlone else .unreadable)
            pure last
        | .sign "**" :: _ => do
            skip
            let _ ← expression fuel hints
            pure .unpacked
        | _ => do
            let _ ← expression fuel hints
            if (← peek) == some (.sign "=") then
              throw (if hints then .assignedArgument else .unreadable)
            if last != .plain then
              throw (if hints then .lateArgument (last == .unpacked) else .unreadable)
            if (← peek) == some (.name "for".toList) then
              clauses fuel hints
              if (← peek) == some (.sign ",") then
                throw (if hints then .bareGenerator else .unreadable)
            pure .plain
      if ← takeSign ")" then return true
      expectSign ","
      let _ ← arguments fuel hints kind
      return true

/-- Reads expressions between commas, after some that have been read. -/
def expressionsAfter : Nat → Bool → List Shape → Reader (List Shape)
  | 0, _, _ => throw .unreadable
  | fuel + 1, hints, before => do
      let next ← peek
      if next == none || next == some .lineEnd then return before.reverse
      let shape ← expression fuel hints
      if ← takeSign "," then expressionsAfter fuel hints (shape :: before)
      else return (shape :: before).reverse

/-- Reads an expression, or a tuple without parentheses, up to the end. -/
def whole : Nat → Bool → Reader Shape
  | 0, _ => throw .unreadable
  | fuel + 1, hints => do
      let first ← expression fuel hints
      let shape ←
        if ← takeSign "," then pure (Shape.tuple (← expressionsAfter fuel hints [first]))
        else pure first
      skipLineEnds fuel
      match ← peek with
      | none => return shape
      | some _ => throw .unreadable

end

/-- Reads a text; only if that fails, it is looked at for what may be missing.  Its length bounds
how deep expressions nest. -/
def read (text : List Char) : Except Fault Shape := do
  let tokens ← tokens (text.dropWhile fun c => c == ' ' || c == '\t')
  let fuel := 16 * (text.length + 1)
  let reading : Reading := ⟨tokens.all, tokens.ending, 0⟩
  match (whole fuel false).run reading with
  | .ok (shape, _) => return shape
  | .error .unreadable => return (← (whole fuel true).run reading).1
  | .error fault => throw fault

end MobileAudit.Literal
