import MobileAudit.Proofs.Cache.Loading

namespace MobileAudit.Cache

open Disk

/-! A cache that is not marked as changed holds what its file holds.  Every operation keeps this, on
a file that nobody else touches and that may hold anything before. -/

/-- A cache at work, with its disk and the clock. -/
structure Session where
  store : Store
  fs : FileSystem
  now : Int

/-- What is done with a cache.  The fates of a save are those of its write to the disk. -/
inductive Operation where
  | set (path hash : String) (findings : List Finding)
  | remove (path : String)
  | clear
  | prune (existing : List String) (maxAgeMs : Int)
  | save (fates : List WriteFate)
  | load
  | enable
  | disable
  | clock (now : Int)

/-- Whether the integers that an operation brings in are small enough to be read again. -/
def Operation.fits : Operation → Bool
  | set _ _ findings => findings.all Finding.fits
  | clock now => Number.fitsDecimal now
  | _ => true

namespace Session

/-- A load that fails leaves the cache as it was. -/
def apply (session : Session) : Operation → Session
  | .set path hash findings =>
      { session with store := session.store.set session.now path hash findings }
  | .remove path => { session with store := session.store.remove path }
  | .clear => { session with store := session.store.clear session.now }
  | .prune existing maxAgeMs =>
      { session with store := (session.store.prune session.now existing maxAgeMs).value.1 }
  | .save fates =>
      let saved := session.store.save { session.fs with fates } session.now
      { session with store := saved.store, fs := saved.fs }
  | .load =>
      match session.store.load session.fs session.now with
      | .ok loaded => { session with store := loaded.value }
      | .error _ => session
  | .enable => { session with store := session.store.enable }
  | .disable => { session with store := session.store.disable }
  | .clock now => { session with now }

def run (session : Session) (operations : List Operation) : Session :=
  operations.foldl apply session

end Session

/-! Changes in memory. -/

theorem Ledger.Sound.of_sublist {ledger other : Ledger} (sound : ledger.Sound)
    (files : other.files.Sublist ledger.files) (createdAt : other.createdAt = ledger.createdAt) :
    other.Sound :=
  ⟨sound.keeps.sublist files, by rw [createdAt]; exact sound.createdAt⟩

namespace Store

/-- What a change in memory does to a cache: nothing, or another ledger that can be written, which
is marked as changed. -/
def Changes (store changed : Store) : Prop :=
  changed = store ∨
    changed.dirty = true ∧ (store.ledger.Sound → changed.ledger.Sound)

theorem set_changes (store : Store) {now : Int} (path hash : String) {findings : List Finding}
    (fitsNow : Number.fitsDecimal now = true) (fits : findings.all Finding.fits = true) :
    store.Changes (store.set now path hash findings) := by
  cases enabled : store.enabled with
  | false => exact .inl (store.set_disabled now path hash findings enabled)
  | true =>
      have new : Entry.fits { hash, findings, timestamp := now, version := store.version } =
          true := by
        rw [Entry.fits, fits, fitsNow]
        rfl
      refine .inr ⟨by rw [set_enabled _ _ _ _ _ enabled]; rfl, fun sound => ⟨?_, ?_⟩⟩
      · exact keeps_set sound.keeps now path hash findings new
      · rw [set_enabled _ _ _ _ _ enabled]
        exact sound.createdAt

private theorem remove_changes (store : Store) (path : String) :
    store.Changes (store.remove path) := by
  unfold remove
  split
  · exact .inl rfl
  · exact .inr ⟨rfl, fun sound => sound.of_sublist List.filter_sublist rfl⟩

private theorem clear_changes (store : Store) {now : Int}
    (fitsNow : Number.fitsDecimal now = true) :
    store.Changes (store.clear now) := by
  unfold clear
  split
  · exact .inl rfl
  · exact .inr ⟨rfl, fun _ => Ledger.sound_fresh fitsNow⟩

private theorem prune_changes (store : Store) (now : Int) (existing : List String)
    (maxAgeMs : Int) :
    store.Changes (store.prune now existing maxAgeMs).value.1 := by
  unfold prune
  split
  · exact .inl rfl
  · simp only [List.partition_eq_filter_filter]
    split
    · exact .inl rfl
    · exact .inr ⟨rfl, fun sound => sound.of_sublist List.filter_sublist rfl⟩

theorem save_ledger (store : Store) (fs : FileSystem) (now : Int) :
    (store.save fs now).store.ledger.files = store.ledger.files ∧
      (store.save fs now).store.ledger.createdAt = store.ledger.createdAt := by
  unfold save
  split
  · exact ⟨rfl, rfl⟩
  · simp only
    split <;> exact ⟨rfl, rfl⟩

end Store

namespace Session

variable {session : Session}

/-- What holds of a cache at work: it can be written, and if it is not marked as changed, what it
holds would be read from its file at any time. -/
structure Synced (session : Session) : Prop where
  sound : session.store.ledger.Sound
  clock : Number.fitsDecimal session.now = true
  clean : session.store.dirty = false → ∀ later, ∃ read,
    Store.readLedger session.fs later session.store.file = .ok read ∧
      read.value.files = session.store.ledger.files

namespace Synced

theorem changed {store : Store} (synced : session.Synced) (changes : session.store.Changes store) :
    Synced { session with store } := by
  obtain rfl | ⟨dirty, sound⟩ := changes
  · exact synced
  · refine ⟨sound synced.sound, synced.clock, ?_⟩
    intro clean
    simp only [dirty] at clean
    cases clean

private theorem save (synced : session.Synced) (fates : List WriteFate) :
    (session.apply (.save fates)).Synced := by
  have ledger := session.store.save_ledger { session.fs with fates } session.now
  have fixed := session.store.save_fixed { session.fs with fates } session.now
  have createdAt : Number.fitsDecimal (session.apply (.save fates)).store.ledger.createdAt =
      true := by
    rw [apply, ledger.2]
    exact synced.sound.createdAt
  refine ⟨⟨synced.sound.keeps.of_files ledger.1, createdAt⟩, synced.clock, ?_⟩
  intro clean later
  simp only [apply] at clean ⊢
  rw [fixed.1, ledger.1]
  by_cases idle : (!session.store.enabled || !session.store.dirty) = true
  -- The cache is left alone, so it was clean before, and the disk is the same.
  · rw [Store.save, if_pos idle] at clean ⊢
    exact synced.clean clean later
  · simp only [Bool.or_eq_true, Bool.not_eq_true', not_or, Bool.not_eq_false] at idle
    exact ⟨_, Store.readLedger_save later synced.sound synced.clock idle.1 idle.2 clean, rfl⟩

private theorem load (synced : session.Synced) : (session.apply .load).Synced := by
  rw [apply]
  unfold Store.load
  split
  · rename_i loaded isLoaded
    split at isLoaded
    · cases isLoaded
      exact synced
    · obtain ⟨read, isRead, rfl⟩ := map_eq_ok.mp isLoaded
      exact ⟨Store.sound_of_readLedger synced.clock isRead, synced.clock,
        fun _ later => Store.readLedger_later isRead later⟩
  · exact synced

theorem apply (synced : session.Synced) (operation : Operation)
    (fits : operation.fits = true) : (session.apply operation).Synced := by
  cases operation with
  | set path hash findings =>
      exact synced.changed (session.store.set_changes path hash synced.clock fits)
  | remove path => exact synced.changed (session.store.remove_changes path)
  | clear => exact synced.changed (session.store.clear_changes synced.clock)
  | prune existing maxAgeMs =>
      exact synced.changed (session.store.prune_changes session.now existing maxAgeMs)
  | save fates => exact synced.save fates
  | load => exact synced.load
  | enable => exact ⟨synced.sound, synced.clock, synced.clean⟩
  | disable => exact ⟨synced.sound, synced.clock, synced.clean⟩
  | clock now => exact ⟨synced.sound, fits, synced.clean⟩

private theorem run (synced : session.Synced) {operations : List Operation}
    (fits : ∀ operation ∈ operations, operation.fits = true) :
    (session.run operations).Synced := by
  unfold Session.run
  induction operations generalizing session with
  | nil => exact synced
  | cons operation operations ih =>
      rw [List.foldl_cons]
      exact ih (synced.apply operation (fits operation (by simp)))
        fun other member => fits other (by simp [member])

end Synced

private theorem synced_of_load {store : Store} {fs : FileSystem} {now : Int} {loaded : Logged Store}
    (fitsNow : Number.fitsDecimal now = true) (enabled : store.enabled = true)
    (isLoaded : store.load fs now = .ok loaded) : Synced ⟨loaded.value, fs, now⟩ := by
  rw [Store.load, enabled] at isLoaded
  obtain ⟨read, isRead, rfl⟩ := map_eq_ok.mp isLoaded
  exact ⟨Store.sound_of_readLedger fitsNow isRead, fitsNow,
    fun _ later => Store.readLedger_later isRead later⟩

/-- What is done with a disabled cache changes neither what it holds nor its disk. -/
theorem apply_disabled (disabled : session.store.enabled = false) (operation : Operation) :
    (session.apply operation).store.ledger = session.store.ledger ∧
      (session.apply operation).store.dirty = session.store.dirty ∧
      (session.apply operation).fs.disk = session.fs.disk := by
  cases operation with
  | set path hash findings =>
      rw [apply, Store.set_disabled _ _ _ _ _ disabled]
      exact ⟨rfl, rfl, rfl⟩
  | remove path => simp [apply, Store.remove, disabled]
  | clear => simp [apply, Store.clear, disabled]
  | prune existing maxAgeMs => simp [apply, Store.prune, disabled]
  | save fates => simp [apply, Store.save, disabled]
  | load => simp [apply, Store.load, disabled]
  | enable => exact ⟨rfl, rfl, rfl⟩
  | disable => exact ⟨rfl, rfl, rfl⟩
  | clock now => exact ⟨rfl, rfl, rfl⟩

/-- Whatever is done with a cache after it has been loaded while it was enabled: if it is not marked
as changed, every cache that is loaded from its file then has the same entries, and while it is
disabled nothing changes its entries, its mark or the disk. -/
theorem clean_is_stored (store : Store) (fs : FileSystem) (now : Int) (loaded : Logged Store)
    (operations : List Operation) (enabled : store.enabled = true)
    (isLoaded : store.load fs now = .ok loaded) (fitsNow : Number.fitsDecimal now = true)
    (fits : ∀ operation ∈ operations, operation.fits = true) :
    let session := run ⟨loaded.value, fs, now⟩ operations
    (session.store.dirty = false →
      ∀ (other : Store) (later : Int), other.file = session.store.file → other.enabled = true →
        ∃ again, other.load session.fs later = .ok again ∧
          again.value.ledger.files = session.store.ledger.files) ∧
    (session.store.enabled = false → ∀ operation,
      (session.apply operation).store.ledger = session.store.ledger ∧
        (session.apply operation).store.dirty = session.store.dirty ∧
        (session.apply operation).fs.disk = session.fs.disk) := by
  intro session
  have synced : session.Synced := (synced_of_load fitsNow enabled isLoaded).run fits
  refine ⟨?_, apply_disabled⟩
  intro clean other later sameFile otherEnabled
  obtain ⟨read, isRead, files⟩ := synced.clean clean later
  refine ⟨⟨{ other with ledger := read.value, dirty := false }, read.logs⟩, ?_, files⟩
  rw [Store.load, otherEnabled, sameFile, isRead]
  rfl

/-- A broken file, a refused and a torn write, and work on the cache while it is disabled. -/
theorem clean_is_stored_after_failures :
    let finding : Finding := {
      ruleId := "R", description := "\"", severity := .low, path := "a", line := some 7 }
    let fs : FileSystem := { disk := .folder [("c.json", .file ⟨#[0xff]⟩)] }
    let store := Store.create (.ofText "/") "1" "c.json" 3
    let operations : List Operation := [
      .set "a" "h" [finding], .save [.refused .missing], .clock 9, .set "b" "k" [],
      .save [.torn 4 .missing], .disable, .clear, .load, .enable, .remove "c", .prune ["a"] 9,
      .save []]
    ∃ loaded, store.load fs 3 = .ok loaded ∧
      let session := run ⟨loaded.value, fs, 3⟩ operations
      session.store.ledger.files = [("a", ⟨"h", [finding], 3, "1"⟩)] ∧
        ∃ again, (Store.create (.ofText "/") "1" "c.json" 20).load session.fs 20 = .ok again ∧
          again.value.ledger.files = session.store.ledger.files := by
  intro finding fs store operations
  let loaded : Logged Store := ⟨store, [.cacheIgnored "/c.json"]⟩
  have isLoaded : store.load fs 3 = .ok loaded := by rfl
  have clean : (run ⟨loaded.value, fs, 3⟩ operations).store.dirty = false := by
    decide +kernel
  have settled := clean_is_stored store fs 3 loaded operations rfl isLoaded (by decide +kernel)
    (by decide +kernel)
  have files : (run ⟨loaded.value, fs, 3⟩ operations).store.ledger.files =
      [("a", ⟨"h", [finding], 3, "1"⟩)] := by decide +kernel
  exact ⟨loaded, isLoaded, files, settled.1 clean (.create (.ofText "/") "1" "c.json" 20) 20
    (by decide +kernel) rfl⟩

/-- A cache that is disabled when it is first loaded does not read its file: it is not marked as
changed, and it holds nothing of what is stored. -/
theorem unread_while_disabled :
    let stored : Store := {
      file := .ofText "/c.json", version := "1", dirty := true
      ledger := ⟨[("a", ⟨"h", [], 5, "1"⟩)], 5, 5⟩ }
    let fs := (stored.save {} 5).fs
    let store := Store.create (.ofText "/") "1" "c.json" 6
    ∃ loaded fresh, store.disable.load fs 6 = .ok loaded ∧ store.load fs 6 = .ok fresh ∧
      loaded.value.dirty = false ∧
      loaded.value.ledger.files ≠ fresh.value.ledger.files := by
  intro stored fs store
  have sound : stored.ledger.Sound := ⟨⟨by decide, by decide +kernel⟩, by decide +kernel⟩
  have isRead : Store.readLedger fs 6 store.file =
      .ok ⟨{ stored.ledger with updatedAt := 5 }, []⟩ :=
    Store.readLedger_save 6 sound (by decide +kernel) rfl rfl rfl
  refine ⟨⟨store.disable, []⟩, ⟨{ store with ledger := { stored.ledger with updatedAt := 5 } }, []⟩,
    rfl, ?_, rfl, by decide⟩
  rw [Store.load, isRead]
  rfl

end Session

end MobileAudit.Cache
