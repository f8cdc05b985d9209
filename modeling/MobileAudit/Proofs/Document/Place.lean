import MobileAudit.Document.Show

namespace MobileAudit

/-! Places in nested mappings and lists, and the ways that lead to them. -/

/-- A step from a mapping or a list to a value in it. -/
inductive Value.Step where
  | key (name : String)
  | item (index : Nat)
deriving DecidableEq

namespace Value

def children : Value → List (Step × Value)
  | map entries => entries.map fun (key, value) => (.key key.plain, value)
  | list items => items.zipIdx.map fun (item, index) => (.item index, item)
  | _ => []

/-- What lies at a place, which is given by positions among children, and the way there. -/
def at? : Value → List Nat → Option (List Step × Value)
  | v, [] => some ([], v)
  | v, n :: place => do
      let (step, child) ← v.children[n]?
      let (way, found) ← child.at? place
      return (step :: way, found)

theorem length_of_at? {v found : Value} {place : List Nat} {way : List Step}
    (isAt : v.at? place = some (way, found)) : way.length = place.length := by
  induction place generalizing v way with
  | nil =>
      cases isAt
      rfl
  | cons n place ih =>
      rw [at?] at isAt
      obtain ⟨⟨step, child⟩, _, isAt⟩ := Option.bind_eq_some_iff.mp isAt
      obtain ⟨⟨onward, last⟩, isBelow, same⟩ := Option.bind_eq_some_iff.mp isAt
      cases same
      rw [List.length_cons, List.length_cons, ih isBelow]

theorem sizeOf_of_mem_children {v child : Value} {step : Step}
    (member : (step, child) ∈ v.children) : sizeOf child < sizeOf v := by
  cases v with
  | map entries =>
      obtain ⟨⟨key, value⟩, inside, same⟩ := List.mem_map.mp member
      cases same
      have smaller := List.sizeOf_lt_of_mem inside
      simp only [Prod.mk.sizeOf_spec] at smaller
      simp only [map.sizeOf_spec]
      omega
  | list items =>
      obtain ⟨⟨item, index⟩, inside, same⟩ := List.mem_map.mp member
      cases same
      have smaller : sizeOf child < sizeOf items :=
        List.sizeOf_lt_of_mem (List.fst_mem_of_mem_zipIdx inside)
      simp only [list.sizeOf_spec]
      omega
  | _ => cases member

/-- How a step is written behind others. -/
def Step.suffix : Step → String
  | key name => "." ++ name
  | item index => "[" ++ toString index ++ "]"

/-- The keys of a way, with points between them, and its indices in brackets. -/
def dotted : List Step → String
  | .key name :: way => name ++ String.join (way.map Step.suffix)
  | way => String.join (way.map Step.suffix)

end Value

/-! Places in document order. -/

/-- What is found at places, in their order, where a place comes before what lies beneath it and
behind it. -/
def Enumerates {α : Type} (find : List Nat → Option α) (found : List α) : Prop :=
  ∃ places : List (List Nat), places.Pairwise (List.Lex (· < ·)) ∧
    (∀ place, place ∈ places ↔ (find place).isSome = true) ∧ places.filterMap find = found

section

variable {α ι : Type}

private theorem enumerates_nothing {find : List Nat → Option α}
    (nowhere : ∀ place, find place = none) :
    Enumerates find [] :=
  ⟨[], .nil, fun place => by simp [nowhere], rfl⟩

theorem enumerates_here {find : List Nat → Option α} {a : α} (here : find [] = some a)
    (nowhere : ∀ n place, find (n :: place) = none) : Enumerates find [a] := by
  refine ⟨[[]], List.pairwise_singleton _ _, fun place => ?_, by simp [here]⟩
  cases place with
  | nil => simp [here]
  | cons n place => simp [nowhere]

/-- Looks for what is beneath one of several items, at its position among them. -/
def descend (find : ι → List Nat → Option α) (items : List ι) : List Nat → Option α
  | [] => none
  | n :: place => items[n]?.bind fun item => find item place

/-- The place when an item is put in front of the others. -/
def moveOn : List Nat → List Nat
  | [] => []
  | n :: place => (n + 1) :: place

private theorem descend_moveOn (find : ι → List Nat → Option α) (first : ι) (items : List ι)
    (place : List Nat) :
    descend find (first :: items) (moveOn place) = descend find items place := by
  cases place <;> rfl

private theorem lex_moveOn {place other : List Nat} (some : place ≠ [])
    (before : List.Lex (· < ·) place other) : List.Lex (· < ·) (moveOn place) (moveOn other) := by
  cases before with
  | nil => exact absurd rfl some
  | cons later => exact .cons later
  | rel less => exact .rel (Nat.succ_lt_succ less)

theorem enumerates_descend {find : ι → List Nat → Option α} {found : ι → List α} {items : List ι}
    (each : ∀ item ∈ items, Enumerates (find item) (found item)) :
    Enumerates (descend find items) (items.flatMap found) := by
  induction items with
  | nil =>
      refine enumerates_nothing fun place => ?_
      cases place <;> rfl
  | cons first items ih =>
      rw [List.forall_mem_cons] at each
      obtain ⟨here, sortedHere, inHere, isHere⟩ := each.1
      obtain ⟨later, sortedLater, inLater, isLater⟩ := ih each.2
      have below : ∀ place ∈ later, place ≠ [] := by
        rintro _ member rfl
        exact absurd ((inLater []).mp member) (by simp [descend])
      refine ⟨here.map (0 :: ·) ++ later.map moveOn, ?_, fun place => ?_, ?_⟩
      · refine List.pairwise_append.mpr ⟨?_, ?_, ?_⟩
        · exact List.pairwise_map.mpr (sortedHere.imp .cons)
        · exact List.pairwise_map.mpr
            (sortedLater.imp_of_mem fun member _ before => lex_moveOn (below _ member) before)
        · intro _ inFirst _ inRest
          obtain ⟨place, _, rfl⟩ := List.mem_map.mp inFirst
          obtain ⟨other, member, rfl⟩ := List.mem_map.mp inRest
          obtain ⟨n, rest, rfl⟩ := List.exists_cons_of_ne_nil (below other member)
          exact .rel (Nat.succ_pos n)
      · rw [List.mem_append, List.mem_map, List.mem_map]
        constructor
        · rintro (⟨place, member, rfl⟩ | ⟨place, member, rfl⟩)
          · exact (inHere place).mp member
          · rw [descend_moveOn]
            exact (inLater place).mp member
        · intro isFound
          match place, isFound with
          | 0 :: place, isFound => exact .inl ⟨place, (inHere place).mpr isFound, rfl⟩
          | (n + 1) :: place, isFound => exact .inr ⟨n :: place, (inLater _).mpr isFound, rfl⟩
      · rw [List.filterMap_append, List.filterMap_map, List.filterMap_map, List.flatMap_cons,
          ← isHere, ← isLater]
        exact congrArg _ (congrArg (List.filterMap · later)
          (funext (descend_moveOn find first items)))

end

end MobileAudit
