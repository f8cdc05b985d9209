import MobileAudit.Pattern.Basic

namespace MobileAudit.Pattern

/-! Matching.  A point is a place in a text together with what groups remember; a pattern is run
against a point with a continuation that says whether the rest succeeds, so the first success in
order of preference is the answer. -/

/-- A part of a text: where it starts, how long it is, and the text from there on. -/
structure Capture where
  start : Nat
  length : Nat
  source : List Char
deriving DecidableEq

def Capture.text (c : Capture) : List Char := c.source.take c.length

structure Point where
  offset : Nat
  /-- What precedes the place, nearest character first. -/
  before : List Char
  after : List Char
  groups : List (Nat × Capture)
deriving DecidableEq

namespace Point

def ofText (text : List Char) : Point := ⟨0, [], text, []⟩

def step (p : Point) (c : Char) (rest : List Char) : Point :=
  { p with offset := p.offset + 1, before := c :: p.before, after := rest }

/-- The point one character on, or the point itself at the end. -/
def next (p : Point) : Point :=
  match p.after with
  | [] => p
  | c :: rest => p.step c rest

def skip : Nat → Point → Point
  | 0, p => p
  | n + 1, p => skip n p.next

/-- The points reached over characters of one set, farthest first, on top of `reached`. -/
def reachOnto (chars : CharSet) (offset : Nat) (before : List Char) (most : Option Nat)
    (groups : List (Nat × Capture)) (reached : List Point) : List Char → List Point
  | [] => ⟨offset, before, [], groups⟩ :: reached
  | c :: rest =>
      let here : Point := ⟨offset, before, c :: rest, groups⟩
      if most == some 0 || !chars.contains c then here :: reached
      else reachOnto chars (offset + 1) (c :: before) (most.map (· - 1)) groups
        (here :: reached) rest

def reach (p : Point) (chars : CharSet) (most : Option Nat) : List Point :=
  reachOnto chars p.offset p.before most p.groups [] p.after

def atWordEdge (p : Point) : Bool :=
  p.before.head?.any Text.isWord != p.after.head?.any Text.isWord

def atTextEnd (p : Point) : Bool :=
  p.after == [] || p.after == ['\n']

/-- Passes over a remembered text, where characters are the same if `form` makes them so. -/
def across (form : Char → Char) : List Char → Point → Option Point
  | [], p => some p
  | x :: xs, p =>
      match p.after with
      | c :: rest => if form c == form x then across form xs (p.step c rest) else none
      | [] => none

/-- The point a number of characters earlier. -/
def earlier? : Nat → Point → Option Point
  | 0, p => some p
  | n + 1, p =>
      match p.before with
      | c :: before => earlier? n ⟨p.offset - 1, before, c :: p.after, p.groups⟩
      | [] => none

def remember (p : Point) (index : Nat) (start : Point) : Point :=
  { p with
    groups := (index, ⟨start.offset, p.offset - start.offset, start.after⟩) :: p.groups }

end Point

abbrev Continuation := Point → Option Point

/-- Repeats a body; every repetition has to move on, so `fuel` characters bound them. -/
def runStar (body : Continuation → Point → Option Point) (k : Continuation) :
    Nat → Point → Option Point
  | 0, p => k p
  | fuel + 1, p =>
      (body (fun q => if p.offset < q.offset then runStar body k fuel q else none) p).orElse
        fun _ => k p

/-- Repeats a body between `least` and `most` times.  Once a repetition does not move on, the
others need not either. -/
def runTimes (body : Continuation → Point → Option Point) (short : Bool) (k : Continuation) :
    Nat → Nat → Option Nat → Point → Option Point
  | 0, _, _, _ => none
  | fuel + 1, least, most, p =>
      let more := fun _ : Unit =>
        if most == some 0 then none
        else body (fun q =>
          if p.offset < q.offset then
            runTimes body short k fuel (least - 1) (most.map (· - 1)) q
          else k q) p
      if 0 < least then more ()
      else if short then (k p).orElse more
      else (more ()).orElse fun _ => k p

def runAt : Pattern → Continuation → Point → Option Point
  | empty, k, p => k p
  | set chars, k, p =>
      match p.after with
      | c :: rest => if chars.contains c then k (p.step c rest) else none
      | [] => none
  | seq first second, k, p => first.runAt (fun q => second.runAt k q) p
  | alt first second, k, p => (first.runAt k p).orElse fun _ => second.runAt k p
  | run chars least most short, k, p =>
      let reached := p.reach chars most
      let enough := reached.take (reached.length - least)
      (if short then enough.reverse else enough).findSome? k
  | star body, k, p => runStar (fun k' q => body.runAt k' q) k p.after.length p
  | times body least most short, k, p =>
      runTimes (fun k' q => body.runAt k' q) short k (p.after.length + 1) least most p
  | group index body, k, p => body.runAt (fun q => k (q.remember index p)) p
  | again index anyCase, k, p =>
      match p.groups.lookup index with
      | some capture => (p.across (if anyCase then Text.lowerChar else id) capture.text).bind k
      | none => none
  | ifGroup index present absent, k, p =>
      if (p.groups.lookup index).isSome then present.runAt k p else absent.runAt k p
  | textStart, k, p => if p.before.isEmpty then k p else none
  | textEnd, k, p => if p.atTextEnd then k p else none
  | wordEdge, k, p => if p.atWordEdge then k p else none
  | notAfter chars, k, p => if p.before.head?.any chars.contains then none else k p
  | notBefore body, k, p => if (body.runAt some p).isSome then none else k p
  | ahead body, k, p =>
      match body.runAt some p with
      | some q => k { p with groups := q.groups }
      | none => none
  | behind width body, k, p =>
      match (p.earlier? width).bind fun q => body.runAt some q with
      | some q => k { p with groups := q.groups }
      | none => none
  | settled body, k, p =>
      match body.runAt some p with
      | some q => k q
      | none => none

structure Match where
  start : Nat
  stop : Nat
  text : List Char
  groups : List (Nat × Capture)
deriving DecidableEq

def Match.group? (m : Match) (index : Nat) : Option Capture :=
  m.groups.lookup index

/-- The text of a group, empty if the group took no part. -/
def Match.groupText (m : Match) (index : Nat) : List Char :=
  ((m.group? index).map (·.text)).getD []

def Match.ofPoints (start stop : Point) : Match :=
  ⟨start.offset, stop.offset, start.after.take (stop.offset - start.offset), stop.groups⟩

/-- The preferred match that starts at the given point. -/
def matchAt (pattern : Pattern) (p : Point) : Option Point :=
  pattern.runAt some p

def matchesStart (pattern : Pattern) (text : List Char) : Bool :=
  (pattern.matchAt (.ofText text)).isSome

def matchHere? (pattern : Pattern) (text : List Char) : Option Match :=
  (pattern.matchAt (.ofText text)).map (Match.ofPoints (.ofText text))

def searchOnto (pattern : Pattern) (offset : Nat) (before : List Char) :
    List Char → Option Match
  | [] =>
      let p : Point := ⟨offset, before, [], []⟩
      (pattern.matchAt p).map (.ofPoints p)
  | c :: rest =>
      let p : Point := ⟨offset, before, c :: rest, []⟩
      match pattern.matchAt p with
      | some q => some (.ofPoints p q)
      | none => searchOnto pattern (offset + 1) (c :: before) rest

def search (pattern : Pattern) (text : List Char) : Option Match :=
  pattern.searchOnto 0 [] text

def occursIn (pattern : Pattern) (text : List Char) : Bool :=
  (pattern.search text).isSome

/-- Matches from the given point on that do not overlap; each starts where the previous ended, or
later. -/
def scanFrom (pattern : Pattern) : Nat → Point → List Match
  | 0, _ => []
  | fuel + 1, p =>
      let onward := fun _ : Unit =>
        match p.after with
        | [] => []
        | c :: rest => scanFrom pattern fuel (p.step c rest)
      match pattern.matchAt p with
      | some q =>
          if p.offset < q.offset then
            Match.ofPoints p q :: scanFrom pattern fuel { q with groups := [] }
          else Match.ofPoints p q :: onward ()
      | none => onward ()

def findAll (pattern : Pattern) (text : List Char) : List Match :=
  pattern.scanFrom (text.length + 1) (.ofText text)

/-- Writes `matches` of a text, whose part from `offset` on is given, with new text. -/
def replaceMatches (write : Match → List Char) (offset : Nat) :
    List Match → List Char → List Char
  | [], rest => rest
  | m :: more, rest =>
      rest.take (m.start - offset) ++ write m ++
        replaceMatches write m.stop more (rest.drop (m.stop - offset))

def replaceAll (pattern : Pattern) (write : Match → List Char) (text : List Char) :
    List Char :=
  replaceMatches write 0 (pattern.findAll text) text

def piecesBetween (offset : Nat) : List Match → List Char → List (List Char)
  | [], rest => [rest]
  | m :: more, rest =>
      rest.take (m.start - offset) :: piecesBetween m.stop more (rest.drop (m.stop - offset))

def splitBy (pattern : Pattern) (text : List Char) : List (List Char) :=
  piecesBetween 0 (pattern.findAll text) text

end MobileAudit.Pattern
