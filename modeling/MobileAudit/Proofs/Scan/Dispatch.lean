import MobileAudit.Proofs.Discovery.Exactness
import MobileAudit.Proofs.Exclusion.Selection
import MobileAudit.Rule.Catalog
import MobileAudit.Scan.Task

namespace MobileAudit

open Disk Discovery Scan

/-! Three ways to tell the kind of a file: by its name when it is found, by its path when it is made
ready for the rules, and by the endings that a rule is for.  The first two agree on every file of a
project.  The third agrees with them exactly if the extension of the file is in lower case. -/

/-! Endings of names. -/

namespace Path

theorem takeWhile_last_point (before rest : List Char) (noPoint : '.' ∉ rest) :
    (before ++ '.' :: rest).reverse.takeWhile (· != '.') = rest.reverse := by
  have whole : ∀ c ∈ rest.reverse, (c != '.') = true := by
    intro c member
    rw [bne_iff_ne]
    rintro rfl
    exact noPoint (List.mem_reverse.mp member)
  rw [List.reverse_append, List.reverse_cons, List.append_assoc, List.takeWhile_append_of_pos whole]
  simp

theorem cutAtLastPoint_append (before rest : List Char) (noPoint : '.' ∉ rest) :
    cutAtLastPoint (before ++ '.' :: rest) = some (before, '.' :: rest) := by
  unfold cutAtLastPoint
  simp only [takeWhile_last_point before rest noPoint, List.length_reverse, List.length_append,
    List.length_cons, List.reverse_reverse]
  have shorter : rest.length < before.length + (rest.length + 1) := by omega
  have front : before.length + (rest.length + 1) - rest.length - 1 = before.length := by omega
  rw [if_pos shorter, front, List.take_left]

private theorem cutAtLastPoint_eq_none {name : List Char} (noPoint : '.' ∉ name) :
    cutAtLastPoint name = none := by
  have each : ∀ c ∈ name.reverse, (c != '.') = true := by
    intro c member
    rw [bne_iff_ne]
    rintro rfl
    exact noPoint (List.mem_reverse.mp member)
  have whole : name.reverse.takeWhile (· != '.') = name.reverse := by
    have taken : (name.reverse ++ []).takeWhile (· != '.') = _ :=
      List.takeWhile_append_of_pos each
    simpa using taken
  unfold cutAtLastPoint
  simp [whole]

/-- A name with an extension has a last point; the suffix is the same text, unless it is a bare
point. -/
theorem exists_last_point {name : String} (some : extensionOf name ≠ "") :
    ∃ before rest, name.toList = before ++ '.' :: rest ∧ '.' ∉ rest ∧
      extensionOf name = String.ofList ('.' :: rest) ∧
      (rest ≠ [] → suffixOf name = extensionOf name) := by
  by_cases point : '.' ∈ name.toList
  · obtain ⟨rest, before, reversed, noPoint⟩ :=
      List.eq_append_cons_of_mem (List.mem_reverse.mpr point)
    have split : name.toList = before.reverse ++ '.' :: rest.reverse := by
      rw [← List.reverse_reverse name.toList, reversed]
      simp
    have noPoint' : '.' ∉ rest.reverse := fun member => noPoint (List.mem_reverse.mp member)
    have cut := cutAtLastPoint_append before.reverse rest.reverse noPoint'
    rw [← split] at cut
    unfold extensionOf at some ⊢
    unfold suffixOf
    simp only [cut] at some ⊢
    split at some
    · exact absurd rfl some
    · rename_i letters
      have nonempty : before.reverse.isEmpty = false := by
        cases empty : before.reverse with
        | nil => simp [empty] at letters
        | cons c more => rfl
      refine ⟨before.reverse, rest.reverse, split, noPoint', if_neg letters, ?_⟩
      intro more
      have long : rest ≠ [] := fun none => more (by rw [none]; rfl)
      simp [letters, nonempty, long]
  · rw [extensionOf, cutAtLastPoint_eq_none point] at some
    exact absurd rfl some

end Path

namespace FileKind

theorem extensions_form {kind : FileKind} {ending : String} (member : ending ∈ kind.extensions) :
    Text.lower ending = ending ∧ ending ≠ "" ∧ ending ≠ "." ∧
      ∃ rest, ending = String.ofList ('.' :: rest) ∧ '.' ∉ rest := by
  have forms : ∀ kind ∈ all, ∀ ending ∈ kind.extensions, Text.lower ending = ending ∧
      ending ≠ "" ∧ ending ≠ "." ∧ ending = String.ofList ('.' :: ending.toList.tail) ∧
        '.' ∉ ending.toList.tail := by
    decide
  have isKind : kind ∈ all := by cases kind <;> decide
  obtain ⟨lower, some, long, pointed, noPoint⟩ := forms kind isKind ending member
  exact ⟨lower, some, long, _, pointed, noPoint⟩

private theorem extensions_disjoint {one other : FileKind} {ending : String}
    (inOne : ending ∈ one.extensions) (inOther : ending ∈ other.extensions) : one = other := by
  have lower := (extensions_form inOne).1
  rw [← lower, ← ofExtension?_eq_some] at inOne
  rw [← lower, ← ofExtension?_eq_some, inOne, Option.some.injEq] at inOther
  exact inOther

variable {kind : FileKind} {name : String}
  (known : Text.lower (Path.extensionOf name) ∈ kind.extensions)

include known

theorem exists_extension : ∃ before rest, name.toList = before ++ '.' :: rest ∧ '.' ∉ rest ∧
    Path.extensionOf name = String.ofList ('.' :: rest) ∧
    Path.suffixOf name = Path.extensionOf name := by
  obtain ⟨_, someLower, longLower, _⟩ := extensions_form known
  have some : Path.extensionOf name ≠ "" := by
    intro empty
    rw [empty] at someLower
    exact someLower (by decide)
  obtain ⟨before, rest, split, noPoint, ending, suffix⟩ := Path.exists_last_point some
  refine ⟨before, rest, split, noPoint, ending, suffix ?_⟩
  rintro rfl
  rw [ending] at longLower
  exact longLower (by decide)

theorem mem_extensions_iff :
    Path.extensionOf name ∈ kind.extensions ↔
      Text.lower (Path.extensionOf name) = Path.extensionOf name := by
  constructor
  · intro member
    exact (extensions_form member).1
  · intro lower
    rwa [lower] at known

end FileKind

/-! Rules and the files that they are for. -/

namespace Rule

private theorem builtIn_kinds :
    ∀ rule ∈ builtIn, ∃ kind : FileKind, rule.fileTypes = kind.extensions := by
  intro rule member
  simp only [builtIn, catalog, List.flatMap_cons, List.flatMap_nil, List.cons_append,
    List.nil_append, List.mem_cons, List.not_mem_nil, or_false] at member
  rcases member with rfl | rfl | rfl | rfl | rfl | rfl
  · exact ⟨.source, rfl⟩
  · exact ⟨.config, rfl⟩
  · exact ⟨.source, rfl⟩
  · exact ⟨.manifest, rfl⟩
  · exact ⟨.manifest, rfl⟩
  · exact ⟨.propertyList, rfl⟩

private theorem exists_builtIn (kind : FileKind) :
    ∃ rule ∈ builtIn, rule.fileTypes = kind.extensions := by
  cases kind with
  | source => exact ⟨sourceSecret, by simp [builtIn, catalog], rfl⟩
  | config => exact ⟨configSecret, by simp [builtIn, catalog], rfl⟩
  | manifest => exact ⟨debuggable, by simp [builtIn, catalog], rfl⟩
  | propertyList => exact ⟨arbitraryLoads, by simp [builtIn, catalog], rfl⟩

theorem appliesTo_iff {rule : Rule} {kind : FileKind} (isFor : rule.fileTypes = kind.extensions)
    {path : String} {before rest : List Char} (split : path.toList = before ++ '.' :: rest)
    (noPoint : '.' ∉ rest) :
    rule.appliesTo path = true ↔ String.ofList ('.' :: rest) ∈ kind.extensions := by
  rw [appliesTo, isFor, List.any_eq_true]
  constructor
  · rintro ⟨ending, member, isSuffix⟩
    obtain ⟨_, _, _, letters, rfl, noPoint'⟩ := FileKind.extensions_form member
    obtain ⟨front, whole⟩ := List.isSuffixOf_iff_suffix.mp isSuffix
    rw [String.toList_ofList, split] at whole
    have sameEnd := congrArg (fun text => (List.reverse text).takeWhile (· != '.')) whole
    simp only [Path.takeWhile_last_point _ _ noPoint, Path.takeWhile_last_point _ _ noPoint',
      List.reverse_inj] at sameEnd
    rw [← sameEnd]
    exact member
  · intro member
    refine ⟨_, member, List.isSuffixOf_iff_suffix.mpr ?_⟩
    rw [String.toList_ofList, split]
    exact List.suffix_append before _

end Rule

@[simp] theorem Path.name_fromRoot (parts : List String) (name : String) :
    (fromRoot (parts ++ [name])).name = name := by
  simp [Path.name, fromRoot]

private theorem Path.text_suffix (parts : List String) (name : String) :
    name.toList <:+ (fromRoot (parts ++ [name])).text.toList := by
  cases parts with
  | nil =>
      rw [List.nil_append, text_toList]
      simp
  | cons first parts =>
      rw [List.cons_append, text_toList, List.map_append, ← List.cons_append]
      have joined := Text.joinWith_append ['/'] (List.cons_ne_nil first.toList
        (parts.map String.toList)) (List.cons_ne_nil name.toList [])
      rw [Text.joinWith, Text.joinWith_singleton] at joined
      rw [List.map_singleton, joined, ← List.append_assoc, ← List.cons_append]
      exact List.suffix_append _ _

/-! The three answers for a file of a known kind. -/

section

variable (parts : List String) {kind : FileKind} {name : String}
  (known : Text.lower (Path.extensionOf name) ∈ kind.extensions)

include known

theorem Rule.appliesTo_known (rule : Rule) (inBuiltIn : rule ∈ Rule.builtIn) :
    rule.appliesTo (Path.fromRoot (parts ++ [name])).text = true ↔
      rule.fileTypes = kind.extensions ∧
        Text.lower (Path.extensionOf name) = Path.extensionOf name := by
  obtain ⟨other, isFor⟩ := Rule.builtIn_kinds rule inBuiltIn
  obtain ⟨before, rest, split, noPoint, ending, _⟩ := FileKind.exists_extension known
  obtain ⟨front, whole⟩ := Path.text_suffix parts name
  rw [split, ← List.append_assoc] at whole
  have lower := FileKind.mem_extensions_iff known
  rw [Rule.appliesTo_iff isFor whole.symm noPoint, ← ending, isFor, ← lower]
  constructor
  · intro inOther
    have same : other = kind := by
      have low := (FileKind.extensions_form inOther).1
      rw [low] at known
      exact FileKind.extensions_disjoint inOther known
    rw [same] at inOther ⊢
    exact ⟨rfl, inOther⟩
  · rintro ⟨same, inKind⟩
    rw [same]
    exact inKind

theorem FileKind.ofPath?_known (proper : ∀ n ∈ parts ++ [name], ProperName n) :
    FileKind.ofPath? (Path.fromRoot (parts ++ [name])).text = some kind := by
  obtain ⟨_, _, _, _, _, suffix⟩ := FileKind.exists_extension known
  rw [FileKind.ofPath?, Path.ofText_text _ proper, Path.suffix, Path.name_fromRoot, suffix,
    FileKind.ofExtension?_eq_some]
  exact known

end

theorem Scan.contextOf_kind {path : String} {kind : FileKind}
    (isKind : FileKind.ofPath? path = some kind) (parser : SourceParser) (content : String) :
    let context := (contextOf parser path content).value
    context.tree = (if kind = .source then (treeOf parser path content).value else none) ∧
    context.config = (if kind = .config then (Json.read? content).getD .null else .null) ∧
    context.manifest = (if kind = .manifest then some content else none) ∧
    context.propertyList = (if kind = .propertyList then some content else none) := by
  unfold contextOf
  rw [isKind]
  cases kind <;> exact ⟨rfl, rfl, rfl, rfl⟩

/-- A file of a project is made ready for the rules as what it was found as: of the contents that
rules look at, the one of its kind is filled.  But a built-in rule for its kind applies to it only if
its extension is in lower case, so that the rules of its kind examine it exactly in this case. -/
theorem examined_iff_lower_case (fs : FileSystem) (excludes : List String) (project : String)
    (root : Path) (entries : List (String × Node)) (group : FileGroup) (regular : fs.Regular)
    (resolved : fs.resolve (.ofText project) = .ok root)
    (looked : fs.look root = .ok (some (.folder entries)))
    (walked : (walk fs excludes (.ofText project)).value = .ok group) (kind : FileKind)
    (path : String) (member : path ∈ group.ofKind kind) :
    let ending := Path.extensionOf (Path.ofText path).name
    (∀ parser content,
      let context := (contextOf parser path content).value
      context.tree = (if kind = .source then (treeOf parser path content).value else none) ∧
      context.config =
        (if kind = .config then (Json.read? content).getD .null else .null) ∧
      context.manifest = (if kind = .manifest then some content else none) ∧
      context.propertyList = (if kind = .propertyList then some content else none)) ∧
    (∀ rule ∈ Rule.builtIn, rule.appliesTo path = true ↔
      rule.fileTypes = kind.extensions ∧ Text.lower ending = ending) ∧
    ((∀ rule ∈ Rule.builtIn,
        (rule.appliesTo path = true ↔ rule.fileTypes = kind.extensions)) ↔
      Text.lower ending = ending) := by
  obtain ⟨parts, rfl, isProject⟩ := isProject_of_look regular resolved looked
  rw [walk_resolved resolved looked (whole_of_walk walked), Except.ok.injEq] at walked
  subst walked
  obtain ⟨directories, name, content, isThere, rfl, known, _⟩ := (mem_ofKind isProject).mp member
  have proper := isProject.place isThere
  rw [← List.append_assoc] at proper ⊢
  have applies := Rule.appliesTo_known (parts ++ directories) known
  rw [Path.ofText_text _ proper, Path.name_fromRoot]
  refine ⟨contextOf_kind (FileKind.ofPath?_known _ known proper), applies, ?_, ?_⟩
  · intro agree
    obtain ⟨rule, inBuiltIn, isFor⟩ := Rule.exists_builtIn kind
    exact ((applies rule inBuiltIn).mp ((agree rule inBuiltIn).mpr isFor)).2
  · intro isLower rule inBuiltIn
    rw [applies rule inBuiltIn]
    exact and_iff_left isLower

/-- A manifest in capitals is found and read as a manifest, and no rule looks at it. -/
theorem capitals_unexamined :
    let entries := [("App.XML", Node.file .empty)]
    let fs : FileSystem := { disk := .folder [("p", .folder entries)] }
    fs.Regular ∧ fs.resolve (.ofText "/p") = .ok (.fromRoot ["p"]) ∧
      fs.look (.fromRoot ["p"]) = .ok (some (.folder entries)) ∧
      ∃ group, (walk fs [] (.ofText "/p")).value = .ok group ∧
        "/p/App.XML" ∈ group.ofKind .manifest ∧
        (∀ parser content,
          (contextOf parser "/p/App.XML" content).value.manifest = some content) ∧
        ∀ rule ∈ Rule.builtIn, rule.appliesTo "/p/App.XML" = false := by
  intro entries fs
  have regular : fs.Regular := .of_check (by decide) (by simp [fs])
  have resolved : fs.resolve (.ofText "/p") = .ok (.fromRoot ["p"]) := by rfl
  have looked : fs.look (.fromRoot ["p"]) = .ok (some (.folder entries)) := by rfl
  obtain ⟨parts, isRoot, isProject⟩ := isProject_of_look regular resolved looked
  obtain rfl : ["p"] = parts := congrArg Path.parts isRoot
  have whole : Exclusion.firstBreakdown? [] = none := rfl
  have walked := walk_resolved resolved looked whole
  have found : "/p/App.XML" ∈
      (filesIn (filterFor []) ["p"] entries).ofKind .manifest := by
    rw [mem_ofKind isProject]
    refine ⟨[], "App.XML", .empty, rfl, by decide, by decide, by decide +kernel, ?_⟩
    intro above some isBegin
    exact absurd (List.prefix_nil.mp isBegin) some
  obtain ⟨filled, applies, _⟩ := examined_iff_lower_case fs [] "/p" (.fromRoot ["p"]) entries _
    regular resolved looked walked .manifest "/p/App.XML" found
  refine ⟨regular, resolved, looked, _, walked, found, ?_, ?_⟩
  · intro parser content
    exact (filled parser content).2.2.1
  · intro rule inBuiltIn
    rw [← Bool.not_eq_true, applies rule inBuiltIn]
    rintro ⟨_, lower⟩
    exact absurd lower (by decide)

end MobileAudit
