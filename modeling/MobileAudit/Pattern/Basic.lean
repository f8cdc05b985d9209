import MobileAudit.Pattern.CharSet

namespace MobileAudit

/-! Text patterns.  A pattern is tried at one place of a text and prefers its choices from left to
right, longer repetitions first unless they are marked short. -/

inductive Pattern where
  | empty
  | set (chars : Pattern.CharSet)
  | seq (first second : Pattern)
  | alt (first second : Pattern)
  /-- Between `least` and `most` characters of one set. -/
  | run (chars : Pattern.CharSet) (least : Nat) (most : Option Nat) (short : Bool)
  /-- Any number of repetitions, as many as possible first. -/
  | star (body : Pattern)
  /-- Between `least` and `most` repetitions. -/
  | times (body : Pattern) (least : Nat) (most : Option Nat) (short : Bool)
  /-- Remembers the text that the body takes under a number. -/
  | group (index : Nat) (body : Pattern)
  /-- The text remembered under a number, once more, possibly in another case. -/
  | again (index : Nat) (anyCase : Bool := false)
  /-- The first pattern if a number remembers a text, else the second. -/
  | ifGroup (index : Nat) (present absent : Pattern)
  | textStart
  /-- The end of the text, or the place before a line break that ends it. -/
  | textEnd
  | wordEdge
  /-- The preceding character, if there is one, is not of the set. -/
  | notAfter (chars : Pattern.CharSet)
  | notBefore (body : Pattern)
  /-- The body matches here, and nothing is taken. -/
  | ahead (body : Pattern)
  /-- The body matches the `width` preceding characters. -/
  | behind (width : Nat) (body : Pattern)
  /-- The preferred match of the body, and no other one. -/
  | settled (body : Pattern)

namespace Pattern

instance : Append Pattern := ⟨seq⟩

instance : OrElse Pattern := ⟨fun first second => alt first (second ())⟩

def ofChars : List Char → Pattern
  | [] => empty
  | [c] => set (.one c)
  | c :: rest => set (.one c) ++ ofChars rest

def lit (text : String) : Pattern := ofChars text.toList

def oneOf : List Pattern → Pattern
  | [] => empty
  | [only] => only
  | first :: rest => alt first (oneOf rest)

def words (texts : List String) : Pattern := oneOf (texts.map lit)

def optional (body : Pattern) : Pattern := alt body empty

def plus (body : Pattern) : Pattern := body ++ star body

namespace CharSet

def many (chars : CharSet) : Pattern := run chars 0 none false

def some (chars : CharSet) : Pattern := run chars 1 none false

def atLeast (chars : CharSet) (least : Nat) : Pattern := run chars least none false

def exactly (chars : CharSet) (count : Nat) : Pattern := run chars count (Option.some count) false

def atMost (chars : CharSet) (most : Nat) : Pattern := run chars 0 (Option.some most) false

def manyShort (chars : CharSet) : Pattern := run chars 0 none true

end CharSet

/-- The same pattern with every set compared without regard to case. -/
def ignoringCase : Pattern → Pattern
  | set chars => set chars.ignoringCase
  | seq first second => seq first.ignoringCase second.ignoringCase
  | alt first second => alt first.ignoringCase second.ignoringCase
  | run chars least most short => run chars.ignoringCase least most short
  | star body => star body.ignoringCase
  | times body least most short => times body.ignoringCase least most short
  | group index body => group index body.ignoringCase
  | again index _ => again index true
  | ifGroup index present absent => ifGroup index present.ignoringCase absent.ignoringCase
  | notAfter chars => notAfter chars.ignoringCase
  | notBefore body => notBefore body.ignoringCase
  | ahead body => ahead body.ignoringCase
  | behind width body => behind width body.ignoringCase
  | settled body => settled body.ignoringCase
  | other => other

end Pattern

end MobileAudit
