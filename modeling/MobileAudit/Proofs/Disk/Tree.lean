import MobileAudit.Disk.Node

namespace MobileAudit.Disk

/-! What changes at one place of a tree leaves at other places. -/

namespace Node

@[simp] theorem lookup_putEntry (name other : String) (node : Node)
    (entries : List (String × Node)) :
    (putEntry name node entries).lookup other =
      if other = name then some node else entries.lookup other := by
  induction entries with
  | nil =>
      rw [putEntry, List.lookup_cons, List.lookup_nil]
      by_cases same : other = name
      · rw [if_pos same, beq_iff_eq.mpr same]
      · rw [if_neg same, beq_eq_false_iff_ne.mpr same]
  | cons entry entries ih =>
      obtain ⟨n, old⟩ := entry
      rw [putEntry]
      split
      · rename_i here
        rw [beq_iff_eq] at here
        subst here
        rw [List.lookup_cons, List.lookup_cons]
        by_cases same : other = n
        · rw [if_pos same, beq_iff_eq.mpr same]
        · rw [if_neg same, beq_eq_false_iff_ne.mpr same]
      · rename_i elsewhere
        rw [beq_iff_eq] at elsewhere
        rw [List.lookup_cons, List.lookup_cons, ih]
        by_cases first : other = n
        · subst first
          simp only [beq_self_eq_true, if_neg elsewhere]
        · rw [beq_eq_false_iff_ne.mpr first]

private theorem mem_putEntry {name : String} {node : Node} {entries : List (String × Node)}
    {entry : String × Node} (member : entry ∈ putEntry name node entries) :
    entry = (name, node) ∨ entry ∈ entries := by
  induction entries with
  | nil =>
      rw [putEntry, List.mem_singleton] at member
      exact .inl member
  | cons first entries ih =>
      obtain ⟨n, old⟩ := first
      rw [putEntry] at member
      split at member
      · rename_i here
        rw [beq_iff_eq] at here
        subst here
        rw [List.mem_cons] at member
        obtain rfl | inside := member
        · exact .inl rfl
        · exact .inr (List.mem_cons_of_mem _ inside)
      · rw [List.mem_cons] at member
        obtain rfl | inside := member
        · exact .inr List.mem_cons_self
        · obtain new | inOld := ih inside
          · exact .inl new
          · exact .inr (List.mem_cons_of_mem _ inOld)

theorem find?_folder_cons (entries : List (String × Node)) (name : String) (rest : List String) :
    (folder entries).find? (name :: rest) =
      match entries.lookup name with
      | some child => child.find? rest
      | none => none := rfl

theorem find?_single {name first : String} {child node : Node} {rest : List String} :
    (folder [(name, child)]).find? (first :: rest) = some node ↔
      first = name ∧ child.find? rest = some node := by
  rw [find?_folder_cons, List.lookup_cons]
  cases same : first == name with
  | true => simp [beq_iff_eq.mp same]
  | false => simp [beq_eq_false_iff_ne.mp same]

theorem mem_of_lookup {entries : List (String × Node)} {name : String} {node : Node}
    (found : entries.lookup name = some node) : (name, node) ∈ entries := by
  obtain ⟨before, after, rfl, _⟩ := List.lookup_eq_some_iff.mp found
  exact List.mem_append_right before List.mem_cons_self

theorem find?_cons_eq_some {node child : Node} {name : String} {rest : List String} :
    node.find? (name :: rest) = some child ↔
      ∃ entries next, node = folder entries ∧ entries.lookup name = some next ∧
        next.find? rest = some child := by
  constructor
  · intro found
    cases node with
    | file content => cases found
    | folder entries =>
        rw [find?_folder_cons] at found
        split at found
        · rename_i next looked
          exact ⟨entries, next, rfl, looked, found⟩
        · cases found
  · rintro ⟨entries, next, rfl, looked, found⟩
    rw [find?_folder_cons, looked]
    exact found

theorem exists_entry {entries : List (String × Node)} {name : String} {rest : List String}
    {node : Node} (found : (folder entries).find? (name :: rest) = some node) :
    ∃ child, (name, child) ∈ entries ∧ child.find? rest = some node := by
  obtain ⟨_, child, ⟨⟩, looked, inside⟩ := find?_cons_eq_some.mp found
  exact ⟨child, mem_of_lookup looked, inside⟩

theorem find?_append (node : Node) (first second : List String) :
    node.find? (first ++ second) = (node.find? first).bind (·.find? second) := by
  induction first generalizing node with
  | nil => simp
  | cons name first ih =>
      cases node with
      | file content => rfl
      | folder entries =>
          rw [List.cons_append, find?_folder_cons, find?_folder_cons]
          cases entries.lookup name with
          | none => rfl
          | some child => exact ih child

/-- What is seen of a node without looking into directories: the content of a file. -/
def surface : Node → Option ByteArray
  | file content => some content
  | folder _ => none

def see (node : Node) (place : List String) : Option (Option ByteArray) :=
  (node.find? place).map surface

theorem see_eq_file {node : Node} {place : List String} {content : ByteArray} :
    node.see place = some (some content) ↔ node.find? place = some (file content) := by
  unfold see
  cases node.find? place with
  | none => simp
  | some found => cases found <;> simp [surface]

theorem see_eq_folder {node : Node} {place : List String} :
    node.see place = some none ↔ ∃ entries, node.find? place = some (folder entries) := by
  unfold see
  cases node.find? place with
  | none => simp
  | some found => cases found <;> simp [surface]

theorem see_cons (entries : List (String × Node)) (name : String) (rest : List String) :
    (folder entries).see (name :: rest) =
      match entries.lookup name with
      | some child => child.see rest
      | none => none := by
  unfold see
  rw [find?_folder_cons]
  cases entries.lookup name <;> rfl

theorem put_cons (node : Node) (name : String) (rest : List String) (new : Node) :
    node.put (name :: rest) new = node ∨
      ∃ entries, node = folder entries ∧
        (rest = [] ∧ node.put (name :: rest) new = folder (putEntry name new entries) ∨
          ∃ child, rest ≠ [] ∧ entries.lookup name = some child ∧
            node.put (name :: rest) new = folder (putEntry name (child.put rest new) entries)) := by
  cases node with
  | file content => exact .inl rfl
  | folder entries =>
      cases rest with
      | nil => exact .inr ⟨entries, rfl, .inl ⟨rfl, rfl⟩⟩
      | cons next rest =>
          cases found : entries.lookup name with
          | none => exact .inl (by simp [put, found])
          | some child =>
              exact .inr ⟨entries, rfl, .inr ⟨child, by simp, found, by simp [put, found]⟩⟩

/-- Setting a node changes nothing that is neither there nor beneath it. -/
theorem see_put (way : List String) (new : Node) :
    ∀ (node : Node) (place : List String), ¬ way <+: place →
      (node.put way new).see place = node.see place := by
  induction way with
  | nil =>
      intro node place apart
      exact absurd (List.nil_prefix) apart
  | cons name rest ih =>
      intro node place apart
      obtain same | ⟨entries, rfl, outcome⟩ := put_cons node name rest new
      · rw [same]
      cases place with
      | nil => obtain ⟨_, put⟩ | ⟨child, _, _, put⟩ := outcome <;> rw [put] <;> rfl
      | cons first place =>
          rw [List.cons_prefix_cons, not_and] at apart
          obtain ⟨rfl, put⟩ | ⟨child, _, found, put⟩ := outcome
          · have other : first ≠ name := fun same => apart same.symm List.nil_prefix
            rw [put, see_cons, see_cons, lookup_putEntry, if_neg other]
          · rw [put, see_cons, see_cons, lookup_putEntry]
            by_cases same : first = name
            · subst same
              rw [if_pos rfl, found]
              exact ih child place (apart rfl)
            · rw [if_neg same]

/-- At a place that was set, and beneath it, lies what was set, unless the way was blocked. -/
theorem find?_put_beneath (way : List String) (new : Node) :
    ∀ (node : Node) (below : List String),
      (node.put way new).find? (way ++ below) = new.find? below ∨
        (node.put way new).find? (way ++ below) = node.find? (way ++ below) := by
  induction way with
  | nil =>
      intro node below
      exact .inl rfl
  | cons name rest ih =>
      intro node below
      obtain same | ⟨entries, rfl, outcome⟩ := put_cons node name rest new
      · exact .inr (by rw [same])
      rw [List.cons_append]
      obtain ⟨rfl, put⟩ | ⟨child, _, found, put⟩ := outcome
      · left
        rw [put, find?_folder_cons, lookup_putEntry, if_pos rfl]
        rfl
      · rw [put, find?_folder_cons, find?_folder_cons, lookup_putEntry, if_pos rfl, found]
        exact ih child below

theorem find?_put_entry (above : List String) (name : String) (new : Node) :
    ∀ {node : Node} {entries : List (String × Node)},
      node.find? above = some (folder entries) →
        (node.put (above ++ [name]) new).find? above =
          some (folder (putEntry name new entries)) := by
  induction above with
  | nil =>
      intro node entries found
      rw [find?_nil] at found
      cases found
      rw [List.nil_append, find?_nil]
      rfl
  | cons first above ih =>
      intro node entries found
      obtain ⟨siblings, child, rfl, inside, found⟩ := find?_cons_eq_some.mp found
      have step : (folder siblings).put (first :: above ++ [name]) new =
          folder (putEntry first (child.put (above ++ [name]) new) siblings) := by
        cases above <;> simp [put, inside]
      rw [step, find?_folder_cons, lookup_putEntry, if_pos rfl]
      exact ih found

theorem file_of_put_node {way place : List String} {node new : Node} {content : ByteArray}
    (found : (node.put way new).find? place = some (file content)) :
    (∃ below, place = way ++ below ∧ new.find? below = some (file content)) ∨
      node.find? place = some (file content) := by
  by_cases beneath : way <+: place
  · obtain ⟨below, rfl⟩ := beneath
    obtain here | before := find?_put_beneath way new node below
    · exact .inl ⟨below, rfl, here.symm.trans found⟩
    · exact .inr (before.symm.trans found)
  · have same := see_put way new node place beneath
    rw [see_eq_file.mpr found] at same
    exact .inr (see_eq_file.mp same.symm)

theorem file_of_put {way place : List String} {node : Node} {new content : ByteArray}
    (found : (node.put way (file new)).find? place = some (file content)) :
    place = way ∧ content = new ∨ node.find? place = some (file content) := by
  obtain ⟨below, rfl, isNew⟩ | before := file_of_put_node found
  · cases below with
    | nil =>
        rw [find?_nil] at isNew
        cases isNew
        exact .inl ⟨List.append_nil way, rfl⟩
    | cons name below => cases isNew
  · exact .inr before

theorem file_of_put_empty {way place : List String} {node : Node} {content : ByteArray}
    (found : (node.put way empty).find? place = some (file content)) :
    node.find? place = some (file content) := by
  obtain ⟨below, rfl, isNew⟩ | before := file_of_put_node found
  · cases below <;> cases isNew
  · exact before

theorem erase_cons (node : Node) (name : String) (rest : List String) :
    node.erase (name :: rest) = node ∨
      ∃ entries, node = folder entries ∧
        (rest = [] ∧ node.erase (name :: rest) =
            folder (entries.filter fun entry => entry.1 != name) ∨
          ∃ child, entries.lookup name = some child ∧
            node.erase (name :: rest) = folder (putEntry name (child.erase rest) entries)) := by
  cases node with
  | file content => exact .inl rfl
  | folder entries =>
      cases rest with
      | nil => exact .inr ⟨entries, rfl, .inl ⟨rfl, rfl⟩⟩
      | cons next rest =>
          cases found : entries.lookup name with
          | none => exact .inl (by simp [erase, found])
          | some child => exact .inr ⟨entries, rfl, .inr ⟨child, found, by simp [erase, found]⟩⟩

@[simp] theorem lookup_filter_ne (name other : String) (entries : List (String × Node)) :
    (entries.filter fun entry => entry.1 != name).lookup other =
      if other = name then none else entries.lookup other := by
  induction entries with
  | nil => simp
  | cons entry entries ih =>
      rw [List.filter_cons]
      split
      · rename_i kept
        rw [bne_iff_ne] at kept
        rw [List.lookup_cons, List.lookup_cons, ih]
        by_cases here : other = entry.1
        · have away : other ≠ name := fun same => kept (here.symm.trans same)
          simp only [if_neg away]
        · simp only [beq_eq_false_iff_ne.mpr here]
      · rename_i dropped
        simp only [bne_iff_ne, ne_eq, Decidable.not_not] at dropped
        rw [ih, List.lookup_cons]
        by_cases same : other = name
        · rw [if_pos same, if_pos same]
        · have here : other ≠ entry.1 := fun here => same (here.trans dropped)
          simp only [beq_eq_false_iff_ne.mpr here, if_neg same]

theorem file_of_erase (way : List String) :
    ∀ {node : Node} {place : List String} {content : ByteArray},
      (node.erase way).find? place = some (file content) →
        node.find? place = some (file content) := by
  induction way with
  | nil =>
      intro node place content found
      exact found
  | cons name rest ih =>
      intro node place content found
      obtain same | ⟨entries, rfl, outcome⟩ := erase_cons node name rest
      · rw [same] at found
        exact found
      cases place with
      | nil => obtain ⟨_, erased⟩ | ⟨child, _, erased⟩ := outcome <;> rw [erased] at found <;>
          cases found
      | cons first place =>
          rw [find?_folder_cons]
          obtain ⟨_, erased⟩ | ⟨child, here, erased⟩ := outcome
          · rw [erased, find?_folder_cons, lookup_filter_ne] at found
            by_cases same : first = name
            · rw [if_pos same] at found
              cases found
            · rw [if_neg same] at found
              exact found
          · rw [erased, find?_folder_cons, lookup_putEntry] at found
            by_cases same : first = name
            · subst same
              rw [if_pos rfl] at found
              rw [here]
              exact ih found
            · rw [if_neg same] at found
              exact found

end Node

/-- A name that a path can lead to. -/
def ProperName (name : String) : Prop :=
  name ≠ "" ∧ name ≠ "." ∧ name ≠ ".." ∧ '/' ∉ name.toList

instance (name : String) : Decidable (ProperName name) :=
  inferInstanceAs (Decidable (_ ∧ _ ∧ _ ∧ _))

namespace Node

inductive Proper : Node → Prop
  | file (content : ByteArray) : Proper (.file content)
  | folder (entries : List (String × Node)) (names : ∀ entry ∈ entries, ProperName entry.1)
      (nodes : ∀ entry ∈ entries, Proper entry.2) : Proper (.folder entries)

namespace Proper

theorem empty : Proper Node.empty :=
  .folder [] (by simp) (by simp)

theorem lookup {entries : List (String × Node)} {name : String} {child : Node}
    (proper : Proper (.folder entries)) (found : entries.lookup name = some child) :
    Proper child := by
  cases proper with
  | folder _ names nodes =>
      exact nodes (name, child) (mem_of_lookup found)

theorem putEntry {entries : List (String × Node)} {name : String} {node : Node}
    (proper : Proper (.folder entries)) (named : ProperName name) (child : Proper node) :
    Proper (.folder (Node.putEntry name node entries)) := by
  cases proper with
  | folder _ names nodes =>
      refine .folder _ ?_ ?_
      · intro entry member
        obtain rfl | old := mem_putEntry member
        · exact named
        · exact names entry old
      · intro entry member
        obtain rfl | old := mem_putEntry member
        · exact child
        · exact nodes entry old

theorem find? {node child : Node} {place : List String} (proper : Proper node)
    (found : node.find? place = some child) : Proper child := by
  induction place generalizing node with
  | nil =>
      rw [find?_nil] at found
      cases found
      exact proper
  | cons name place ih =>
      obtain ⟨entries, next, rfl, inside, found⟩ := find?_cons_eq_some.mp found
      exact ih (proper.lookup inside) found

theorem name_of_lookup {entries : List (String × Node)} (proper : Proper (.folder entries))
    {name : String} {child : Node} (found : entries.lookup name = some child) :
    ProperName name := by
  cases proper with
  | folder _ names nodes => exact names (name, child) (mem_of_lookup found)

theorem names {node child : Node} {place : List String} (proper : Proper node)
    (found : node.find? place = some child) : ∀ name ∈ place, ProperName name := by
  induction place generalizing node with
  | nil => exact List.forall_mem_nil _
  | cons name place ih =>
      obtain ⟨entries, next, rfl, inside, found⟩ := find?_cons_eq_some.mp found
      exact List.forall_mem_cons.mpr ⟨proper.name_of_lookup inside, ih (proper.lookup inside) found⟩

theorem put {way : List String} {node new : Node} (proper : Proper node)
    (named : ∀ name ∈ way, ProperName name) (isProper : Proper new) :
    Proper (node.put way new) := by
  induction way generalizing node with
  | nil => exact isProper
  | cons name rest ih =>
      obtain same | ⟨entries, rfl, outcome⟩ := put_cons node name rest new
      · rw [same]
        exact proper
      obtain ⟨_, put⟩ | ⟨child, _, found, put⟩ := outcome
      · rw [put]
        exact proper.putEntry (named name (by simp)) isProper
      · rw [put]
        exact proper.putEntry (named name (by simp))
          (ih (proper.lookup found) fun name member => named name (by simp [member]))

theorem erase {way : List String} {node : Node} (proper : Proper node) :
    Proper (node.erase way) := by
  induction way generalizing node with
  | nil => exact proper
  | cons name rest ih =>
      obtain same | ⟨entries, rfl, outcome⟩ := erase_cons node name rest
      · rw [same]
        exact proper
      obtain ⟨_, erased⟩ | ⟨child, found, erased⟩ := outcome
      · rw [erased]
        cases proper with
        | folder _ names nodes =>
            exact .folder _ (fun entry member => names entry ((List.mem_filter.mp member).1))
              fun entry member => nodes entry ((List.mem_filter.mp member).1)
      · rw [erased]
        exact proper.putEntry (proper.name_of_lookup found) (ih (proper.lookup found))

end Proper

/-- A tree in which no directory lists a name twice. -/
inductive Distinct : Node → Prop
  | file (content : ByteArray) : Distinct (.file content)
  | folder (entries : List (String × Node))
      (names : entries.Pairwise fun one other => one.1 ≠ other.1)
      (nodes : ∀ entry ∈ entries, Distinct entry.2) : Distinct (.folder entries)

namespace Distinct

theorem lookup {entries : List (String × Node)} {entry : String × Node}
    (distinct : Distinct (.folder entries)) (member : entry ∈ entries) :
    entries.lookup entry.1 = some entry.2 := by
  cases distinct with
  | folder _ names nodes =>
      rw [List.lookup_eq_some_iff]
      obtain ⟨before, after, split⟩ := List.append_of_mem member
      refine ⟨before, after, split, ?_⟩
      intro earlier inBefore
      rw [split, List.pairwise_append] at names
      rw [bne_iff_ne]
      exact (names.2.2 earlier inBefore entry (by simp)).symm

theorem find? {node child : Node} {place : List String} (distinct : Distinct node)
    (found : node.find? place = some child) : Distinct child := by
  induction place generalizing node with
  | nil =>
      rw [find?_nil] at found
      cases found
      exact distinct
  | cons name place ih =>
      obtain ⟨entries, next, rfl, inside, found⟩ := find?_cons_eq_some.mp found
      cases distinct with
      | folder _ names nodes => exact ih (nodes (name, next) (mem_of_lookup inside)) found

end Distinct

/-! A check for trees of proper names, none of which a directory lists twice. -/

mutual

def isRegular : Node → Bool
  | .file _ => true
  | .folder entries =>
      decide (entries.Pairwise fun one other => one.1 ≠ other.1) && areRegular entries

def areRegular : List (String × Node) → Bool
  | [] => true
  | (name, node) :: rest => decide (ProperName name) && (node.isRegular && areRegular rest)

end

theorem areRegular_iff {entries : List (String × Node)} :
    areRegular entries = true ↔
      ∀ entry ∈ entries, ProperName entry.1 ∧ entry.2.isRegular = true := by
  induction entries with
  | nil => simp [areRegular]
  | cons entry entries ih =>
      rw [areRegular, Bool.and_eq_true, Bool.and_eq_true, decide_eq_true_eq, ih,
        List.forall_mem_cons, and_assoc]

theorem regular_of_isRegular : (node : Node) → node.isRegular = true → node.Proper ∧ node.Distinct
  | .file content, _ => ⟨.file content, .file content⟩
  | .folder entries, checked => by
      rw [isRegular, Bool.and_eq_true, decide_eq_true_eq, areRegular_iff] at checked
      have nodes : ∀ entry ∈ entries, entry.2.Proper ∧ entry.2.Distinct := by
        intro entry member
        have smaller := List.sizeOf_lt_of_mem member
        obtain ⟨name, node⟩ := entry
        exact regular_of_isRegular node (checked.2 (name, node) member).2
      exact ⟨.folder entries (fun entry member => (checked.2 entry member).1)
          fun entry member => (nodes entry member).1,
        .folder entries checked.1 fun entry member => (nodes entry member).2⟩
termination_by node => sizeOf node
decreasing_by
  simp only [Node.folder.sizeOf_spec, Prod.mk.sizeOf_spec] at smaller ⊢
  omega

/-- The same tree, with the entries of its directories in another order. -/
inductive Relisted : Node → Node → Prop
  | refl (node : Node) : Relisted node node
  | entries {entries entries' : List (String × Node)} (reordered : entries.Perm entries') :
      Relisted (.folder entries) (.folder entries')
  | inside (before : List (String × Node)) (name : String) {child child' : Node}
      (after : List (String × Node)) (relisted : Relisted child child') :
      Relisted (.folder (before ++ (name, child) :: after))
        (.folder (before ++ (name, child') :: after))
  | trans {first second third : Node} (once : Relisted first second)
      (again : Relisted second third) : Relisted first third

end Node

end MobileAudit.Disk
