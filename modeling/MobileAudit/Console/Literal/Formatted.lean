import MobileAudit.Text.Class

namespace MobileAudit.Literal

/-! Texts with expressions between braces. -/

inductive BraceFault where
  | single
  | missing
  | nestedTooDeep
  | backslash
  | comment
  | unmatched (c : Char)
  | mismatched (closing opening : Char)
  | unendedText
  | badConversion
  | empty
  | emptyBefore (c : Char)
deriving DecidableEq

def BraceFault.message : BraceFault → String
  | single => "f-string: single '\x7d' is not allowed"
  | missing => "f-string: expecting '\x7d'"
  | nestedTooDeep => "f-string: expressions nested too deeply"
  | backslash => "f-string expression part cannot include a backslash"
  | comment => "f-string expression part cannot include '#'"
  | unmatched c => "f-string: unmatched '" ++ String.singleton c ++ "'"
  | mismatched closing opening =>
      "f-string: closing parenthesis '" ++ String.singleton closing ++
        "' does not match opening parenthesis '" ++ String.singleton opening ++ "'"
  | unendedText => "f-string: unterminated string"
  | badConversion => "f-string: invalid conversion character: expected 's', 'r', or 'a'"
  | empty => "f-string: empty expression not allowed"
  | emptyBefore c => "f-string: expression required before '" ++ String.singleton c ++ "'"

/-- What a text is made of; a fault comes last. -/
inductive Piece where
  | plain (text : List Char)
  | expression (text : List Char)
  | fault (fault : BraceFault)

/-- Plain text up to a brace, with the text from there on.  Of doubled braces one is plain, but only
outside of expressions; the name of a character has braces of its own. -/
def plainUpTo (raw outside : Bool) : Nat → List Char → List Char → List Char × List Char
  | 0, text, rest => (text.reverse, rest)
  | _, text, [] => (text.reverse, [])
  | fuel + 1, text, c :: rest =>
      if !raw && c == '\\' then
        match rest with
        | 'N' :: '\x7b' :: name =>
            let inner := name.takeWhile (· != '\x7d')
            let taken := inner ++ (name.drop inner.length).take 1
            plainUpTo raw outside fuel (taken.reverse ++ ('\x7b' :: 'N' :: c :: text))
              (name.drop taken.length)
        | 'N' :: rest => plainUpTo raw outside fuel ('N' :: c :: text) rest
        | d :: after =>
            if d == '\x7b' || d == '\x7d' then plainUpTo raw outside fuel (c :: text) rest
            else plainUpTo raw outside fuel (d :: c :: text) after
        | [] => ((c :: text).reverse, [])
      else if c == '\x7b' || c == '\x7d' then
        if outside && rest.head? == some c then
          plainUpTo raw outside fuel (c :: text) (rest.drop 1)
        else (text.reverse, c :: rest)
      else plainUpTo raw outside fuel (c :: text) rest

/-- The text of an expression up to what ends it, with the text from there on.  `quote` is what ends
a text inside of the expression, and `opened` are the open brackets. -/
def expressionUpTo : Nat → List Char → List Char → List Char → List Char →
    Except BraceFault (List Char × List Char)
  | 0, _, _, text, rest => .ok (text.reverse, rest)
  | _, quote, opened, text, [] =>
      if !quote.isEmpty then .error .unendedText
      else match opened with
        | c :: _ => .error (.unmatched c)
        | [] => .ok (text.reverse, [])
  | fuel + 1, quote, opened, text, c :: rest =>
      if c == '\\' then .error .backslash
      else if !quote.isEmpty then
        if quote.isPrefixOf (c :: rest) then
          expressionUpTo fuel [] opened (quote.reverse ++ text) ((c :: rest).drop quote.length)
        else expressionUpTo fuel quote opened (c :: text) rest
      else if c == '\'' || c == '"' then
        let mark := if rest.take 2 == [c, c] then [c, c, c] else [c]
        expressionUpTo fuel mark opened (mark ++ text) ((c :: rest).drop mark.length)
      else if c == '(' || c == '[' || c == '\x7b' then
        expressionUpTo fuel [] (c :: opened) (c :: text) rest
      else if c == '#' then .error .comment
      else if opened.isEmpty && "!:\x7d=><".toList.contains c then
        if rest.head? == some '=' && "!=<>".toList.contains c then
          expressionUpTo fuel [] opened ('=' :: c :: text) (rest.drop 1)
        else if c == '>' || c == '<' then expressionUpTo fuel [] opened (c :: text) rest
        else .ok (text.reverse, c :: rest)
      else if c == ')' || c == ']' || c == '\x7d' then
        match opened with
        | [] => .error (.unmatched c)
        | opening :: outer =>
            let fits := (opening, c) == ('(', ')') || (opening, c) == ('[', ']') ||
              (opening, c) == ('\x7b', '\x7d')
            if fits then expressionUpTo fuel [] outer (c :: text) rest
            else .error (.mismatched c opening)
      else expressionUpTo fuel [] opened (c :: text) rest

/-- Skips the sign that shows the text of an expression, and its conversion. -/
def afterExpression (rest : List Char) : Except BraceFault (List Char) := do
  let rest ← match rest with
    | '=' :: rest => pure (rest.dropWhile Text.isSpace)
    | _ => pure rest
  match rest with
  | '!' :: c :: after =>
      if c == 's' || c == 'r' || c == 'a' then return after else throw .badConversion
  | ['!'] => throw .missing
  | _ => return rest

/-- Cuts a text into pieces, after some that have been cut; the last one comes first.  Expressions
may stand in the format of another one, but not deeper.  A format ends at a brace. -/
def cut (raw : Bool) : Nat → Nat → List Piece → List Char → List Piece × List Char
  | 0, _, before, rest => (before, rest)
  | fuel + 1, level, before, text =>
      let (plain, rest) := plainUpTo raw (level == 0) (text.length + 1) [] text
      let failed := fun (fault : BraceFault) before => (Piece.fault fault :: before, [])
      if level == 0 && rest.head? == some '\x7d' then failed .single before
      else
      let before := if plain.isEmpty then before else .plain plain :: before
      match rest with
      | [] => (before, [])
      | c :: inner =>
          if c == '\x7d' then (before, rest)
          else if 2 ≤ level then failed .nestedTooDeep before
          else
            match expressionUpTo (inner.length + 1) [] [] [] inner with
            | .error fault => failed fault before
            | .ok (_, []) => failed .missing before
            | .ok (expression, mark :: after) =>
                if expression.all Text.isSpace then
                  failed (if mark == '\x7d' then .empty else .emptyBefore mark) before
                else
                  let before := .expression expression :: before
                  match afterExpression (mark :: after) with
                  | .error fault => failed fault before
                  | .ok (':' :: format) =>
                      match format, cut raw fuel (level + 1) before format with
                      | [], _ => failed .missing before
                      | _, (.fault fault :: before, _) => failed fault before
                      | _, (before, '\x7d' :: rest) => cut raw fuel level before rest
                      | _, (before, _) => failed .missing before
                  | .ok ('\x7d' :: rest) => cut raw fuel level before rest
                  | .ok _ => failed .missing before

def formattedPieces (raw : Bool) (body : List Char) : List Piece :=
  (cut raw (2 * body.length + 2) 0 [] body).1.reverse

end MobileAudit.Literal
