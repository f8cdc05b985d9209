import Mathlib.Logic.Relation
import MobileAudit.Proofs.Pattern.Language

namespace MobileAudit.Pattern

/-! The points at which a match may end, the preferred one first.  A continuation only chooses among
these points, so that what a match takes and remembers can be read off them. -/

def starEnds (body : Point → List Point) : Nat → Point → List Point
  | 0, p => [p]
  | fuel + 1, p =>
      ((body p).flatMap fun q => if p.offset < q.offset then starEnds body fuel q else []) ++ [p]

def timesEnds (body : Point → List Point) (short : Bool) :
    Nat → Nat → Option Nat → Point → List Point
  | 0, _, _, _ => []
  | fuel + 1, least, most, p =>
      let more :=
        if most == some 0 then []
        else (body p).flatMap fun q =>
          if p.offset < q.offset then
            timesEnds body short fuel (least - 1) (most.map (· - 1)) q
          else [q]
      if 0 < least then more else if short then p :: more else more ++ [p]

def ends : Pattern → Point → List Point
  | empty, p => [p]
  | set chars, p =>
      match p.after with
      | c :: rest => if chars.contains c then [p.step c rest] else []
      | [] => []
  | seq first second, p => (first.ends p).flatMap fun q => second.ends q
  | alt first second, p => first.ends p ++ second.ends p
  | run chars least most short, p =>
      let reached := p.reach chars most
      let enough := reached.take (reached.length - least)
      if short then enough.reverse else enough
  | star body, p => starEnds (fun q => body.ends q) p.after.length p
  | times body least most short, p =>
      timesEnds (fun q => body.ends q) short (p.after.length + 1) least most p
  | group index body, p => (body.ends p).map fun q => q.remember index p
  | again index anyCase, p =>
      ((p.groups.lookup index).bind fun capture =>
        p.across (if anyCase then Text.lowerChar else id) capture.text).toList
  | ifGroup index present absent, p =>
      if (p.groups.lookup index).isSome then present.ends p else absent.ends p
  | textStart, p => if p.before.isEmpty then [p] else []
  | textEnd, p => if p.atTextEnd then [p] else []
  | wordEdge, p => if p.atWordEdge then [p] else []
  | notAfter chars, p => if p.before.head?.any chars.contains then [] else [p]
  | notBefore body, p => if (body.ends p).isEmpty then [p] else []
  | ahead body, p => ((body.ends p).head?.map fun q => { p with groups := q.groups }).toList
  | behind width body, p =>
      (((p.earlier? width).bind fun q => (body.ends q).head?).map fun q =>
        { p with groups := q.groups }).toList
  | settled body, p => (body.ends p).head?.toList

/-! The matcher tries the ends one after the other. -/

theorem findSome?_flatMap {α β γ : Type} (list : List α) (f : α → List β) (k : β → Option γ) :
    (list.flatMap f).findSome? k = list.findSome? fun a => (f a).findSome? k := by
  induction list with
  | nil => rfl
  | cons a rest ih =>
      rw [List.flatMap_cons, List.findSome?_append, ih, List.findSome?_cons]
      cases (f a).findSome? k <;> rfl

theorem findSome?_cons_or {α β : Type} (a : α) (rest : List α) (k : α → Option β) :
    (a :: rest).findSome? k = (k a).or (rest.findSome? k) := by
  rw [List.findSome?_cons]
  cases k a <;> rfl

private theorem findSome?_singleton {α β : Type} (a : α) (k : α → Option β) :
    [a].findSome? k = k a := by
  rw [findSome?_cons_or, List.findSome?_nil, Option.or_none]

theorem findSome?_some {α : Type} (list : List α) : list.findSome? some = list.head? := by
  cases list <;> rfl

private theorem findSome?_toList {α β : Type} (found : Option α) (k : α → Option β) :
    found.toList.findSome? k = found.bind k := by
  cases found with
  | none => rfl
  | some a => simp

section

variable {body : Continuation → Point → Option Point} {bodyEnds : Point → List Point}

theorem runStar_eq (opened : ∀ k p, body k p = (bodyEnds p).findSome? k) (k : Continuation)
    (fuel : Nat) (p : Point) :
    runStar body k fuel p = (starEnds bodyEnds fuel p).findSome? k := by
  induction fuel generalizing p with
  | zero => simp [runStar, starEnds]
  | succ fuel ih =>
      have onward : (bodyEnds p).findSome?
            (fun q => if p.offset < q.offset then runStar body k fuel q else none) =
          ((bodyEnds p).flatMap fun q =>
            if p.offset < q.offset then starEnds bodyEnds fuel q else []).findSome? k := by
        rw [findSome?_flatMap]
        congr 1
        funext q
        by_cases further : p.offset < q.offset <;> simp [further, ih]
      rw [runStar, opened, onward, starEnds, List.findSome?_append]
      cases ((bodyEnds p).flatMap fun q =>
        if p.offset < q.offset then starEnds bodyEnds fuel q else []).findSome? k <;> simp

theorem runTimes_eq (opened : ∀ k p, body k p = (bodyEnds p).findSome? k) (short : Bool)
    (k : Continuation) (fuel least : Nat) (most : Option Nat) (p : Point) :
    runTimes body short k fuel least most p =
      (timesEnds bodyEnds short fuel least most p).findSome? k := by
  induction fuel generalizing least most p with
  | zero => rfl
  | succ fuel ih =>
      have onward : (bodyEnds p).findSome? (fun q =>
            if p.offset < q.offset then
              runTimes body short k fuel (least - 1) (most.map (· - 1)) q
            else k q) =
          ((bodyEnds p).flatMap fun q =>
            if p.offset < q.offset then
              timesEnds bodyEnds short fuel (least - 1) (most.map (· - 1)) q
            else [q]).findSome? k := by
        rw [findSome?_flatMap]
        congr 1
        funext q
        by_cases further : p.offset < q.offset <;> simp [further, ih]
      have more : (if most == some 0 then none else body (fun q =>
            if p.offset < q.offset then
              runTimes body short k fuel (least - 1) (most.map (· - 1)) q
            else k q) p) =
          (if most == some 0 then [] else (bodyEnds p).flatMap fun q =>
            if p.offset < q.offset then
              timesEnds bodyEnds short fuel (least - 1) (most.map (· - 1)) q
            else [q]).findSome? k := by
        split
        · rfl
        · rw [opened, onward]
      simp only [runTimes, timesEnds, more]
      split
      · rfl
      · cases short
        · rw [if_neg Bool.false_ne_true, if_neg Bool.false_ne_true, List.findSome?_append,
            findSome?_singleton, Option.orElse_eq_or]
        · rw [if_pos rfl, if_pos rfl, findSome?_cons_or, Option.orElse_eq_or]

end

theorem runAt_eq (pattern : Pattern) (k : Continuation) (p : Point) :
    pattern.runAt k p = (pattern.ends p).findSome? k := by
  induction pattern generalizing k p with
  | empty => simp [runAt, ends]
  | set chars =>
      rw [runAt, ends]
      cases p.after with
      | nil => rfl
      | cons c rest => cases member : chars.contains c <;> simp [member]
  | seq first second ihFirst ihSecond =>
      rw [runAt, ends, findSome?_flatMap, ihFirst]
      simp only [ihSecond]
  | alt first second ihFirst ihSecond =>
      rw [runAt, ends, List.findSome?_append, ihFirst, ihSecond]
      cases (first.ends p).findSome? k <;> rfl
  | run chars least most short => rfl
  | star body ih => exact runStar_eq ih k _ p
  | times body least most short ih => exact runTimes_eq ih short k _ least most p
  | group index body ih => rw [runAt, ends, ih, List.findSome?_map]; rfl
  | again index anyCase =>
      rw [runAt, ends, findSome?_toList]
      cases p.groups.lookup index <;> rfl
  | ifGroup index present absent ihPresent ihAbsent =>
      rw [runAt, ends]
      split
      · exact ihPresent k p
      · exact ihAbsent k p
  | textStart => rw [runAt, ends]; split <;> simp
  | textEnd => rw [runAt, ends]; split <;> simp
  | wordEdge => rw [runAt, ends]; split <;> simp
  | notAfter chars => rw [runAt, ends]; split <;> simp
  | notBefore body ih =>
      rw [runAt, ends, ih, findSome?_some]
      cases body.ends p <;> simp
  | ahead body ih =>
      rw [runAt, ends, ih, findSome?_some, findSome?_toList]
      cases body.ends p <;> rfl
  | behind width body ih =>
      simp only [runAt, ends, ih, findSome?_some, findSome?_toList]
      cases (p.earlier? width).bind fun q => (body.ends q).head? <;> rfl
  | settled body ih =>
      rw [runAt, ends, ih, findSome?_some, findSome?_toList]
      cases body.ends p <;> rfl

theorem matchAt_eq (pattern : Pattern) (p : Point) :
    pattern.matchAt p = (pattern.ends p).head? := by
  rw [matchAt, runAt_eq, findSome?_some]

/-! An end lies further on in the same text. -/

def Point.LeadsTo (p q : Point) : Prop :=
  ∃ taken rest groups, p.after = taken ++ rest ∧ q = { p.past taken rest with groups }

private theorem Point.leadsTo_past {p : Point} {taken rest : List Char}
    (ahead : p.after = taken ++ rest) :
    p.LeadsTo (p.past taken rest) :=
  ⟨taken, rest, p.groups, ahead, rfl⟩

theorem Point.leadsTo_step {p : Point} {c : Char} {rest : List Char} (ahead : p.after = c :: rest) :
    p.LeadsTo (p.step c rest) :=
  ⟨[c], rest, p.groups, ahead, rfl⟩

theorem Point.leadsTo_regrouped (p : Point) (groups : List (Nat × Capture)) :
    p.LeadsTo { p with groups } :=
  ⟨[], p.after, groups, rfl, rfl⟩

theorem Point.LeadsTo.refl (p : Point) : p.LeadsTo p := p.leadsTo_regrouped p.groups

theorem Point.LeadsTo.trans {p q r : Point} (first : p.LeadsTo q) (second : q.LeadsTo r) :
    p.LeadsTo r := by
  obtain ⟨taken, middle, groups, ahead, rfl⟩ := first
  obtain ⟨more, rest, others, further, rfl⟩ := second
  refine ⟨taken ++ more, rest, others, ?_, ?_⟩
  · rw [List.append_assoc, ahead]
    exact congrArg (taken ++ ·) further
  · simp [past, Nat.add_assoc]

theorem Point.LeadsTo.length {p q : Point} (leads : p.LeadsTo q) :
    q.offset + q.after.length = p.offset + p.after.length := by
  obtain ⟨taken, rest, groups, ahead, rfl⟩ := leads
  simp [past, ahead, Nat.add_assoc]

theorem Point.LeadsTo.offset_le {p q : Point} (leads : p.LeadsTo q) : p.offset ≤ q.offset := by
  obtain ⟨taken, rest, groups, ahead, rfl⟩ := leads
  exact Nat.le_add_right _ _

theorem Point.LeadsTo.after_eq {p q : Point} (leads : p.LeadsTo q) :
    q.after = p.after.drop (q.offset - p.offset) := by
  obtain ⟨taken, rest, groups, ahead, rfl⟩ := leads
  simp [past, ahead]

private theorem leadsTo_of_across {form : Char → Char} {text : List Char} {p q : Point}
    (crossed : p.across form text = some q) : p.LeadsTo q := by
  induction text generalizing p with
  | nil =>
      rw [Point.across, Option.some.injEq] at crossed
      exact crossed ▸ .refl p
  | cons x text ih =>
      rw [Point.across] at crossed
      split at crossed
      · rename_i c rest ahead
        split at crossed
        · exact .trans (Point.leadsTo_step ahead) (ih crossed)
        · cases crossed
      · cases crossed

section

variable {body : Point → List Point}

private theorem leadsTo_of_mem_starEnds (leads : ∀ p, ∀ q ∈ body p, p.LeadsTo q) {fuel : Nat}
    {p q : Point}
    (member : q ∈ starEnds body fuel p) : p.LeadsTo q := by
  induction fuel generalizing p with
  | zero =>
      rw [starEnds, List.mem_singleton] at member
      exact member ▸ .refl p
  | succ fuel ih =>
      rw [starEnds, List.mem_append, List.mem_flatMap, List.mem_singleton] at member
      rcases member with ⟨m, first, later⟩ | rfl
      · split at later
        · exact .trans (leads p m first) (ih later)
        · cases later
      · exact .refl q

private theorem leadsTo_of_mem_timesEnds (leads : ∀ p, ∀ q ∈ body p, p.LeadsTo q) {short : Bool}
    {fuel least : Nat} {most : Option Nat} {p q : Point}
    (member : q ∈ timesEnds body short fuel least most p) : p.LeadsTo q := by
  induction fuel generalizing least most p q with
  | zero => cases member
  | succ fuel ih =>
      have onward : ∀ r ∈ (if most == some 0 then [] else (body p).flatMap fun q =>
          if p.offset < q.offset then timesEnds body short fuel (least - 1) (most.map (· - 1)) q
          else [q]), p.LeadsTo r := by
        intro r inMore
        split at inMore
        · cases inMore
        · obtain ⟨m, first, later⟩ := List.mem_flatMap.mp inMore
          split at later
          · exact .trans (leads p m first) (ih later)
          · exact List.mem_singleton.mp later ▸ leads p m first
      simp only [timesEnds] at member
      split at member
      · exact onward q member
      · split at member
        · cases List.mem_cons.mp member with
          | inl here => exact here ▸ .refl p
          | inr later => exact onward q later
        · cases List.mem_append.mp member with
          | inl later => exact onward q later
          | inr here => exact List.mem_singleton.mp here ▸ .refl p

end

private theorem leadsTo_of_mem_stay {stays : Prop} [Decidable stays] {p q : Point}
    (member : q ∈ if stays then [p] else []) : p.LeadsTo q := by
  split at member
  · exact List.mem_singleton.mp member ▸ .refl p
  · cases member

theorem leadsTo_of_mem_ends {pattern : Pattern} {p q : Point} (member : q ∈ pattern.ends p) :
    p.LeadsTo q := by
  induction pattern generalizing p q with
  | empty => exact List.mem_singleton.mp member ▸ .refl p
  | set chars =>
      rw [ends] at member
      split at member
      · rename_i c rest ahead
        split at member
        · exact List.mem_singleton.mp member ▸ Point.leadsTo_step ahead
        · cases member
      · cases member
  | seq first second ihFirst ihSecond =>
      obtain ⟨m, inFirst, inSecond⟩ := List.mem_flatMap.mp member
      exact (ihFirst inFirst).trans (ihSecond inSecond)
  | alt first second ihFirst ihSecond =>
      cases List.mem_append.mp member with
      | inl inFirst => exact ihFirst inFirst
      | inr inSecond => exact ihSecond inSecond
  | run chars least most short =>
      have inReach : q ∈ p.reach chars most := by
        simp only [ends] at member
        split at member
        · exact List.mem_of_mem_take (List.mem_reverse.mp member)
        · exact List.mem_of_mem_take member
      rw [Point.reach, reachOnto_eq, List.append_nil, List.mem_map] at inReach
      obtain ⟨n, _, rfl⟩ := inReach
      exact Point.leadsTo_past (List.take_append_drop n _).symm
  | star body ih => exact leadsTo_of_mem_starEnds (fun _ _ inBody => ih inBody) member
  | times body least most short ih =>
      exact leadsTo_of_mem_timesEnds (fun _ _ inBody => ih inBody) member
  | group index body ih =>
      obtain ⟨m, inBody, rfl⟩ := List.mem_map.mp member
      exact (ih inBody).trans (m.leadsTo_regrouped _)
  | again index anyCase =>
      rw [ends, Option.mem_toList, Option.bind_eq_some_iff] at member
      obtain ⟨capture, _, crossed⟩ := member
      exact leadsTo_of_across crossed
  | ifGroup index present absent ihPresent ihAbsent =>
      rw [ends] at member
      split at member
      · exact ihPresent member
      · exact ihAbsent member
  | textStart => exact leadsTo_of_mem_stay member
  | textEnd => exact leadsTo_of_mem_stay member
  | wordEdge => exact leadsTo_of_mem_stay member
  | notAfter chars =>
      rw [ends] at member
      split at member
      · cases member
      · exact List.mem_singleton.mp member ▸ .refl p
  | notBefore body ih => exact leadsTo_of_mem_stay member
  | ahead body ih =>
      rw [ends, Option.mem_toList, Option.map_eq_some_iff] at member
      obtain ⟨m, _, rfl⟩ := member
      exact p.leadsTo_regrouped _
  | behind width body ih =>
      rw [ends, Option.mem_toList, Option.map_eq_some_iff] at member
      obtain ⟨m, _, rfl⟩ := member
      exact p.leadsTo_regrouped _
  | settled body ih =>
      rw [ends, Option.mem_toList] at member
      exact ih (List.mem_of_head? member)

/-! The ends of single patterns. -/

theorem Reads.mem_ends {pattern : Pattern} {reading : List Char → List Char → List Char → Prop}
    (reads : Reads pattern reading) {p q : Point} :
    q ∈ pattern.ends p ↔
      ∃ taken rest, p.after = taken ++ rest ∧ reading p.before taken rest ∧
        q = p.past taken rest := by
  -- a continuation that accepts `q` alone finds it exactly if it is an end
  have accepted := reads p fun r => if r = q then some r else none
  rw [runAt_eq, List.findSome?_isSome_iff] at accepted
  simpa [apply_ite Option.isSome, eq_comm] using accepted

@[simp] theorem mem_ends_seq {first second : Pattern} {p q : Point} :
    q ∈ (first ++ second).ends p ↔ ∃ m ∈ first.ends p, q ∈ second.ends m :=
  List.mem_flatMap

@[simp] theorem mem_ends_alt {first second : Pattern} {p q : Point} :
    q ∈ (alt first second).ends p ↔ q ∈ first.ends p ∨ q ∈ second.ends p :=
  List.mem_append

@[simp] theorem mem_ends_group {index : Nat} {body : Pattern} {p q : Point} :
    q ∈ (group index body).ends p ↔ ∃ m ∈ body.ends p, m.remember index p = q :=
  List.mem_map

@[simp] theorem mem_ends_notBefore {body : Pattern} {p q : Point} :
    q ∈ (notBefore body).ends p ↔ body.ends p = [] ∧ q = p := by
  rw [ends]
  cases body.ends p <;> simp

private theorem across_eq_some {text : List Char} {p q : Point} :
    p.across id text = some q ↔ ∃ rest, p.after = text ++ rest ∧ q = p.past text rest := by
  induction text generalizing p with
  | nil => simp [Point.across, Point.past_nil rfl, eq_comm]
  | cons x text ih =>
      rw [Point.across]
      cases ahead : p.after with
      | nil => simp
      | cons c rest =>
          by_cases same : c = x
          · subst same
            have stepped (more : List Char) :
                (p.step c rest).past text more = p.past (c :: text) more :=
              p.past_past [c] text rest more
            simp only [id, beq_self_eq_true, if_true, ih, stepped, List.cons_append,
              List.cons.injEq, true_and]
            rfl
          · simp [same]

theorem mem_ends_again {index : Nat} {p q : Point} {capture : Capture}
    (held : p.groups.lookup index = some capture) :
    q ∈ (again index).ends p ↔
      ∃ rest, p.after = capture.text ++ rest ∧ q = p.past capture.text rest := by
  rw [← across_eq_some, ends, held]
  simp

/-- A repetition ends where some number of rounds, each of which moves on, has led. -/
theorem mem_ends_star {body : Pattern} {p q : Point} :
    q ∈ (star body).ends p ↔
      Relation.ReflTransGen (fun a b => b ∈ body.ends a ∧ a.offset < b.offset) p q := by
  have inStar (fuel : Nat) (p : Point) : q ∈ starEnds (fun m => body.ends m) (fuel + 1) p ↔
      (∃ m ∈ body.ends p, p.offset < m.offset ∧ q ∈ starEnds (fun m => body.ends m) fuel m) ∨
        q = p := by
    simp [starEnds, apply_ite (q ∈ ·)]
  constructor
  · intro member
    rw [ends] at member
    generalize p.after.length = fuel at member
    induction fuel generalizing p with
    | zero => exact List.mem_singleton.mp member ▸ .refl
    | succ fuel ih =>
        rcases (inStar fuel p).mp member with ⟨m, inBody, further, later⟩ | rfl
        · exact .head ⟨inBody, further⟩ (ih later)
        · exact .refl
  · intro rounds
    suffices reached : ∀ fuel, p.after.length ≤ fuel →
        q ∈ starEnds (fun m => body.ends m) fuel p from reached _ (Nat.le_refl _)
    induction rounds using Relation.ReflTransGen.head_induction_on with
    | refl =>
        intro fuel _
        cases fuel <;> simp [starEnds]
    | @head a b round _ ih =>
        intro fuel enough
        obtain ⟨inBody, further⟩ := round
        have length := (leadsTo_of_mem_ends inBody).length
        cases fuel with
        | zero => omega
        | succ fuel => exact (inStar fuel a).mpr (.inl ⟨b, inBody, further, ih fuel (by omega)⟩)

private theorem reads_of_mem_ends {pattern : Pattern}
    {reading : List Char → List Char → List Char → Prop}
    (ends : ∀ p q, q ∈ pattern.ends p ↔ ∃ taken rest, p.after = taken ++ rest ∧
      reading p.before taken rest ∧ q = p.past taken rest) : Reads pattern reading := by
  intro p k
  rw [runAt_eq, List.findSome?_isSome_iff]
  constructor
  · rintro ⟨q, isEnd, success⟩
    obtain ⟨taken, rest, ahead, isRead, rfl⟩ := (ends p q).mp isEnd
    exact ⟨taken, rest, ahead, isRead, success⟩
  · rintro ⟨taken, rest, ahead, isRead, success⟩
    exact ⟨_, (ends p _).mpr ⟨taken, rest, ahead, isRead, rfl⟩, success⟩

theorem reads_star {body : Pattern} {language : List Char → Prop}
    (reads : Reads body fun _ taken _ => language taken) :
    Reads (star body) fun _ taken _ =>
      ∃ parts : List (List Char), taken = parts.flatten ∧
        ∀ part ∈ parts, part ≠ [] ∧ language part := by
  have round (a b : Point) : (b ∈ body.ends a ∧ a.offset < b.offset) ↔ ∃ part rest,
      a.after = part ++ rest ∧ (part ≠ [] ∧ language part) ∧ b = a.past part rest := by
    rw [reads.mem_ends]
    constructor
    · rintro ⟨⟨part, rest, ahead, isIn, rfl⟩, further⟩
      refine ⟨part, rest, ahead, ⟨?_, isIn⟩, rfl⟩
      rintro rfl
      exact absurd further (Nat.lt_irrefl _)
    · rintro ⟨part, rest, ahead, ⟨some, isIn⟩, rfl⟩
      exact ⟨⟨part, rest, ahead, isIn, rfl⟩,
        Nat.lt_add_of_pos_right (List.length_pos_iff.mpr some)⟩
  refine reads_of_mem_ends fun p q => ?_
  rw [mem_ends_star]
  simp only [round]
  constructor
  · intro rounds
    induction rounds using Relation.ReflTransGen.head_induction_on with
    | refl => exact ⟨[], q.after, rfl, ⟨[], rfl, nofun⟩, (Point.past_nil rfl).symm⟩
    | @head a b first _ ih =>
        obtain ⟨part, rest, ahead, isPart, rfl⟩ := first
        obtain ⟨_, rest', ahead', ⟨parts, rfl, each⟩, rfl⟩ := ih
        rw [Point.after_past] at ahead'
        refine ⟨(part :: parts).flatten, rest', ?_, ⟨_, rfl, ?_⟩, ?_⟩
        · rw [ahead, ahead', List.flatten_cons, List.append_assoc]
        · exact List.forall_mem_cons.mpr ⟨isPart, each⟩
        · rw [Point.past_past, List.flatten_cons]
  · rintro ⟨_, rest, ahead, ⟨parts, rfl, each⟩, rfl⟩
    induction parts generalizing p with
    | nil =>
        have here : p.past [] rest = p := Point.past_nil ahead
        rw [List.flatten_nil, here]
    | cons part parts ih =>
        rw [List.forall_mem_cons] at each
        rw [List.flatten_cons, List.append_assoc] at ahead
        have later := ih (p := p.past part (parts.flatten ++ rest)) each.2 rfl
        rw [Point.past_past] at later
        exact .head ⟨part, _, ahead, each.1, rfl⟩ later

theorem reads_plus {body : Pattern} {language : List Char → Prop}
    (reads : Reads body fun _ taken _ => language taken) :
    Reads (plus body) fun _ taken _ => ∃ part parts, taken = part ++ List.flatten parts ∧
      language part ∧ ∀ part ∈ parts, part ≠ [] ∧ language part :=
  (reads_seq reads (reads_star reads)).congr fun _ taken _ => by
    constructor
    · rintro ⟨part, _, rfl, isIn, parts, rfl, each⟩
      exact ⟨part, parts, rfl, isIn, each⟩
    · rintro ⟨part, parts, rfl, isIn, each⟩
      exact ⟨part, _, rfl, isIn, parts, rfl, each⟩

end MobileAudit.Pattern
