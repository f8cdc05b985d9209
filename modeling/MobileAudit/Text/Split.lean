import MobileAudit.Text.Class

namespace MobileAudit.Text

/-! Cutting texts apart and putting them together. -/

/-- Cuts at every character that satisfies the test and drops those characters. -/
def splitWhere (cut : Char → Bool) : List Char → List (List Char)
  | [] => [[]]
  | c :: rest =>
      if cut c then [] :: splitWhere cut rest
      else match splitWhere cut rest with
        | piece :: more => (c :: piece) :: more
        | [] => [[c]]

def splitOn (separator : Char) (text : List Char) : List (List Char) :=
  splitWhere (· == separator) text

def joinWith (separator : List Char) (pieces : List (List Char)) : List Char :=
  separator.intercalate pieces

def lines (text : List Char) : List (List Char) :=
  splitOn '\n' text

/-- The items of a table, which semicolons and line breaks divide. -/
def tableItems (table : String) : List String :=
  (splitWhere (fun c => c == ';' || c == '\n') table.toList).map String.ofList

/-- The non-empty pieces between blanks. -/
def fields (text : List Char) : List (List Char) :=
  (splitWhere isSpace text).filter (!·.isEmpty)

def dropRightWhile (test : Char → Bool) (text : List Char) : List Char :=
  (text.reverse.dropWhile test).reverse

def trimWhere (test : Char → Bool) (text : List Char) : List Char :=
  dropRightWhile test (text.dropWhile test)

def trim (text : List Char) : List Char :=
  trimWhere isSpace text

def trimText (text : String) : String :=
  String.ofList (trim text.toList)

/-- The offset of the first occurrence of a piece. -/
def findOnto (piece : List Char) (offset : Nat) : List Char → Option Nat
  | [] => if piece.isEmpty then some offset else none
  | c :: rest =>
      if piece.isPrefixOf (c :: rest) then some offset
      else findOnto piece (offset + 1) rest

def find? (piece text : List Char) : Option Nat :=
  findOnto piece 0 text

def hasPiece (piece text : List Char) : Bool :=
  (find? piece text).isSome

def replaceChar (old new : Char) (text : List Char) : List Char :=
  text.map fun c => if c == old then new else c

/-- The items between commas, trimmed, without the empty ones. -/
def commaItems (text : String) : List String :=
  ((splitOn ',' text.toList).map trim).filter (!·.isEmpty) |>.map String.ofList

def joinTexts (separator : String) (texts : List String) : String :=
  separator.intercalate texts

@[simp] theorem splitWhere_nil (cut : Char → Bool) : splitWhere cut [] = [[]] := rfl

theorem splitWhere_ne_nil (cut : Char → Bool) (text : List Char) :
    splitWhere cut text ≠ [] := by
  cases text with
  | nil => simp
  | cons c rest =>
      unfold splitWhere
      split
      · simp
      · split <;> simp

end MobileAudit.Text
