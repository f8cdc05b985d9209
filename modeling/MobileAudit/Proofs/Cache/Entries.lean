import MobileAudit.Cache.Store

namespace MobileAudit.Cache

/-! What the operations of a cache do to its entries. -/

namespace Files

theorem find?_cons (file : String × Entry) (files : Files) (path : String) :
    find? (file :: files) path = if path = file.1 then some file.2 else find? files path := by
  unfold find?
  rw [List.lookup_cons]
  by_cases same : path = file.1
  · rw [if_pos same, beq_iff_eq.mpr same]
  · rw [if_neg same, beq_eq_false_iff_ne.mpr same]

@[simp] theorem find?_nil (path : String) : find? [] path = none := rfl

@[simp] theorem find?_put (path other : String) (entry : Entry) (files : Files) :
    (files.put path entry).find? other =
      if other = path then some entry else files.find? other := by
  induction files with
  | nil => rw [put, find?_cons]
  | cons file files ih =>
      obtain ⟨p, e⟩ := file
      rw [put]
      split
      · rename_i same
        rw [beq_iff_eq] at same
        subst same
        rw [find?_cons, find?_cons]
        split <;> rfl
      · rename_i different
        rw [beq_iff_eq] at different
        rw [find?_cons, find?_cons, ih]
        by_cases here : other = p
        · subst here
          rw [if_pos rfl, if_neg different, if_pos rfl]
        · rw [if_neg here, if_neg here]

theorem mem_of_find? {files : Files} {path : String} {entry : Entry}
    (found : files.find? path = some entry) : (path, entry) ∈ files := by
  induction files with
  | nil => cases found
  | cons file files ih =>
      rw [find?_cons] at found
      split at found
      · rename_i same
        cases found
        subst same
        exact List.mem_cons_self
      · exact List.mem_cons_of_mem file (ih found)

theorem mem_put {path : String} {entry : Entry} {files : Files} {file : String × Entry}
    (member : file ∈ files.put path entry) : file = (path, entry) ∨ file ∈ files := by
  induction files with
  | nil =>
      rw [put, List.mem_singleton] at member
      exact .inl member
  | cons first files ih =>
      obtain ⟨p, e⟩ := first
      rw [put] at member
      split at member
      · rename_i same
        rw [beq_iff_eq] at same
        subst same
        rw [List.mem_cons] at member
        obtain rfl | inside := member
        · exact .inl rfl
        · exact .inr (List.mem_cons_of_mem _ inside)
      · rw [List.mem_cons] at member
        obtain rfl | inside := member
        · exact .inr List.mem_cons_self
        · obtain new | old := ih inside
          · exact .inl new
          · exact .inr (List.mem_cons_of_mem _ old)

theorem nodup_put (path : String) (entry : Entry) (files : Files)
    (distinct : (files.map (·.1)).Nodup) : ((files.put path entry).map (·.1)).Nodup := by
  induction files with
  | nil => simp [put]
  | cons first files ih =>
      obtain ⟨p, e⟩ := first
      rw [List.map_cons, List.nodup_cons] at distinct
      rw [put]
      split
      · rw [List.map_cons, List.nodup_cons]
        exact distinct
      · rename_i different
        rw [beq_iff_eq] at different
        rw [List.map_cons, List.nodup_cons]
        refine ⟨?_, ih distinct.2⟩
        intro member
        obtain ⟨file, inside, same⟩ := List.mem_map.mp member
        obtain rfl | old := mem_put inside
        · exact different same.symm
        · exact distinct.1 (List.mem_map.mpr ⟨file, old, same⟩)

end Files

namespace Store

theorem set_disabled (store : Store) (now : Int) (path hash : String) (findings : List Finding)
    (disabled : store.enabled = false) : store.set now path hash findings = store := by
  rw [set, if_pos (by simp [disabled])]

theorem set_enabled (store : Store) (now : Int) (path hash : String) (findings : List Finding)
    (enabled : store.enabled = true) :
    store.set now path hash findings =
      store.replaceFiles (store.ledger.files.put path
        { hash, findings, timestamp := now, version := store.version }) := by
  rw [set, if_neg (by simp [enabled])]

theorem find?_enabled (store : Store) (path : String) (enabled : store.enabled = true) :
    store.find? path = store.ledger.files.find? path := by
  rw [find?, if_pos enabled]

end Store

end MobileAudit.Cache
