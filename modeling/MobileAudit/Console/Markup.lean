import MobileAudit.Console.Action
import MobileAudit.Console.Emoji
import MobileAudit.Console.Style

namespace MobileAudit.Markup

/-! Text with style tags in square brackets, such as `[bold]` and `[/bold]`, and with codes of
pictographs.  A backslash in front of a tag makes it plain text. -/

/-- A tag in a text: how many backslashes stand in front of it, what stands between its brackets,
and the text after it. -/
structure Found where
  slashes : Nat
  inner : List Char
  rest : List Char

def startsTag (c : Char) : Bool :=
  ('a' ≤ c && c ≤ 'z') || c == '#' || c == '/' || c == '@'

/-- The text up to a closing bracket, with what follows it; an opening bracket may not come
first. -/
def upToBracket? : List Char → Option (List Char × List Char)
  | [] => none
  | ']' :: rest => some ([], rest)
  | '[' :: _ => none
  | c :: rest => (upToBracket? rest).map fun (inner, rest) => (c :: inner, rest)

/-- The tag that a text begins with, after `slashes` backslashes. -/
def tagAt? (slashes : Nat) : List Char → Option Found
  | '\\' :: rest => tagAt? (slashes + 1) rest
  | '[' :: c :: rest =>
      if startsTag c then
        (upToBracket? rest).map fun (inner, rest) => ⟨slashes, c :: inner, rest⟩
      else none
  | _ => none

/-- A text is a sequence of plain pieces and tags, the latter with their backslashes. -/
inductive Piece where
  | plain (text : List Char)
  | tag (slashes : Nat) (inner : List Char)
deriving DecidableEq

namespace Piece

def source : Piece → List Char
  | plain text => text
  | tag slashes inner => List.replicate slashes '\\' ++ '[' :: inner ++ [']']

def push (c : Char) : List Piece → List Piece
  | plain text :: rest => plain (c :: text) :: rest
  | rest => plain [c] :: rest

end Piece

private theorem upToBracket?_length {text inner rest : List Char}
    (h : upToBracket? text = some (inner, rest)) : rest.length < text.length := by
  induction text generalizing inner with
  | nil => simp [upToBracket?] at h
  | cons c text ih =>
      unfold upToBracket? at h
      split at h
      · simp at h
      · simp_all
      · simp at h
      · rename_i heq
        obtain ⟨⟨i, r⟩, hi, hr⟩ := Option.map_eq_some_iff.1 h
        simp at hr heq
        obtain ⟨rfl, rfl⟩ := heq
        obtain ⟨rfl, rfl⟩ := hr
        have := ih hi
        simp only [List.length_cons]
        omega

private theorem tagAt?_length {slashes : Nat} {text : List Char} {found : Found}
    (h : tagAt? slashes text = some found) : found.rest.length < text.length := by
  induction text generalizing slashes with
  | nil => simp [tagAt?] at h
  | cons c text ih =>
      unfold tagAt? at h
      split at h
      · rename_i heq
        simp at heq
        obtain ⟨rfl, rfl⟩ := heq
        have := ih h
        simp only [List.length_cons]
        omega
      · rename_i heq
        simp at heq
        obtain ⟨rfl, rfl⟩ := heq
        split at h
        · obtain ⟨⟨i, r⟩, hi, rfl⟩ := Option.map_eq_some_iff.1 h
          have := upToBracket?_length hi
          simp only [List.length_cons]
          omega
        · simp at h
      · simp at h

def pieces : List Char → List Piece
  | [] => []
  | c :: text =>
      match _h : tagAt? 0 (c :: text) with
      | some found => .tag found.slashes found.inner :: pieces found.rest
      | none => Piece.push c (pieces text)
termination_by text => text.length
decreasing_by
  · exact tagAt?_length _h
  · simp

/-- Makes a text plain: every tag gets a backslash more than twice those it has, and a single
backslash at the end is doubled. -/
def escape (text : List Char) : List Char :=
  let escaped := (pieces text).flatMap fun
    | .plain text => text
    | .tag slashes inner => (Piece.tag (2 * slashes + 1) inner).source
  match escaped.reverse with
  | '\\' :: '\\' :: _ => escaped
  | '\\' :: _ => escaped ++ ['\\']
  | _ => escaped

inductive Error where
  | unmatched (tag : List Char) (position : Nat)
  | nothingToClose (position : Nat)
  /-- A mixed colour lacks a part. -/
  | emptyPart
  | action (fault : Console.ActionFault)

def Error.message : Error → String
  | unmatched tag position =>
      "closing tag '[" ++ String.ofList tag ++ "]' at position " ++ toString position ++
        " doesn't match any open tag"
  | nothingToClose position =>
      "closing tag '[/]' at position " ++ toString position ++ " has nothing to close"
  | emptyPart => "invalid literal for int() with base 10: ''"
  | action fault => fault.message

/-- A tag that has been opened: the normal form of its name, and its parameters. -/
structure OpenTag where
  name : List Char
  parameters : List Char

/-- The name of a tag: what stands before its parameters. -/
def nameOf (inner : List Char) : List Char := inner.takeWhile (· != '=')

/-- The parameters of a tag: what stands after the first equals sign. -/
def parametersOf (inner : List Char) : List Char := (inner.dropWhile (· != '=')).drop 1

/-- Characters that move the cursor or ring the bell. -/
def cursorMoves : List Char := ['\x07', '\x08', '\x0b', '\x0c', '\r']

/-- Characters that move the cursor are not shown. -/
def isShown (c : Char) : Bool :=
  !(cursorMoves.contains c)

/-- Plain text loses the backslash in front of an opening bracket. -/
def unescape : List Char → List Char
  | '\\' :: '[' :: rest => '[' :: unescape rest
  | c :: rest => c :: unescape rest
  | [] => []

def normalForm (name : List Char) : Except Error (List Char) :=
  match Console.normalForm? name with
  | some form => .ok form
  | none => .error .emptyPart

/-- Closes a tag; the parameters of an action are looked at now. -/
def OpenTag.close (tag : OpenTag) : Except Error Unit :=
  if tag.name.head? == some '@' then
    match Console.checkAction tag.parameters with
    | .ok () => .ok ()
    | .error fault => .error (.action fault)
  else .ok ()

/-- The open tags after one more tag, the latest first. -/
def stepTag (opened : List OpenTag) (inner : List Char) (position : Nat) :
    Except Error (List OpenTag) :=
  match inner with
  | '/' :: name =>
      let name := Text.trim (nameOf name)
      if name.isEmpty then
        match opened with
        | tag :: rest => do
            tag.close
            return rest
        | [] => .error (.nothingToClose position)
      else do
        let form ← normalForm name
        match opened.find? (·.name == form) with
        | some tag =>
            tag.close
            return opened.eraseP (·.name == form)
        | none => throw (.unmatched inner position)
  | _ => return ⟨← normalForm (nameOf inner), parametersOf inner⟩ :: opened

/-- What the pieces of a text show, from a position on and with some tags open. -/
def renderFrom (position : Nat) (opened : List OpenTag) :
    List Piece → Except Error (List Char)
  | [] => .ok []
  | piece :: rest =>
      let after := position + piece.source.length
      match piece with
      | .plain text =>
          (renderFrom after opened rest).map (Console.withEmoji (unescape text) ++ ·)
      | .tag slashes inner =>
          let kept := List.replicate (slashes / 2) '\\'
          if slashes % 2 == 1 then
            let shown := Console.withEmoji ('[' :: inner ++ [']'])
            (renderFrom after opened rest).map (kept ++ shown ++ ·)
          else do
            let opened ← stepTag opened inner (position + slashes)
            let shown ← renderFrom after opened rest
            return kept ++ shown

def render (text : List Char) : Except Error (List Char) :=
  (renderFrom 0 [] (pieces text)).map (·.filter isShown)

def styled (style text : String) : List Char :=
  ("[" ++ style ++ "]" ++ text ++ "[/" ++ style ++ "]").toList

end MobileAudit.Markup
