import MobileAudit.Text.Case

namespace MobileAudit.Pattern

/-! Sets of characters as patterns name them: single characters, ranges and named classes, possibly
complemented, and compared with or without regard to case. -/

inductive CharItem where
  | one (c : Char)
  | range (first last : Char)
  | word
  | notWord
  | digit
  | notDigit
  | space
  | notSpace
deriving DecidableEq

namespace CharItem

def contains : CharItem → Char → Bool
  | one x, c => x == c
  | range first last, c => first ≤ c && c ≤ last
  | word, c => Text.isWord c
  | notWord, c => !Text.isWord c
  | digit, c => Text.isDecimal c
  | notDigit, c => !Text.isDecimal c
  | space, c => Text.isSpace c
  | notSpace, c => !Text.isSpace c

/-- Membership once case is disregarded: some character that differs from `c` in case alone is a
member.  A named class is asked about the lower-case form. -/
def containsFolded : CharItem → Char → Bool
  | one x, c => (Text.caseVariants c).contains x.toNat
  | range first last, c =>
      (Text.caseVariants c).any fun code => first.toNat ≤ code && code ≤ last.toNat
  | item, c => item.contains (Text.lowerChar c)

end CharItem

structure CharSet where
  items : List CharItem
  complement : Bool := false
  anyCase : Bool := false
deriving DecidableEq

namespace CharSet

def contains (set : CharSet) (c : Char) : Bool :=
  let found :=
    if set.anyCase then set.items.any (·.containsFolded c)
    else set.items.any (·.contains c)
  found != set.complement

def one (c : Char) : CharSet := { items := [.one c] }

def ofChars (text : String) : CharSet := { items := text.toList.map .one }

def range (first last : Char) : CharSet := { items := [.range first last] }

def word : CharSet := { items := [.word] }

def digit : CharSet := { items := [.digit] }

def space : CharSet := { items := [.space] }

def notSpace : CharSet := { items := [.notSpace] }

def lower : CharSet := range 'a' 'z'

def upper : CharSet := range 'A' 'Z'

def union (left right : CharSet) : CharSet :=
  { left with items := left.items ++ right.items }

instance : Union CharSet := ⟨union⟩

def except (set : CharSet) : CharSet :=
  { set with complement := !set.complement }

/-- Everything but a line break. -/
def notNewline : CharSet := (one '\n').except

def ignoringCase (set : CharSet) : CharSet :=
  { set with anyCase := true }

@[simp] theorem contains_one (x c : Char) : (one x).contains c = (x == c) := by
  simp [contains, one, CharItem.contains]

@[simp] theorem contains_range (first last c : Char) :
    (range first last).contains c = (first ≤ c && c ≤ last) := by
  simp [contains, range, CharItem.contains]

end CharSet

end MobileAudit.Pattern
