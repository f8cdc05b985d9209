import MobileAudit.Proofs.Document.DistinctKeys
import MobileAudit.Settings.Resolve

namespace MobileAudit.Settings

open Check

/-! Layers of settings.  What merging a layer gives is described apart from whether it succeeds: the
entries, the sources that are recorded, and whether a value would be set under a key without a
text. -/

mutual

/-- The entries after an entry of a layer was merged over them. -/
def overlayEntry (base : Value.Entries) (key whole : Value) : Value → Value.Entries
  | .null => base
  | .loop _ v => overlayEntry base key whole v
  | .map inner =>
      match (base.find? key).map Value.bare with
      | some (.map old) => base.put key (.map (overlay old inner))
      | _ => base.put key whole
  | _ => base.put key whole

def overlay (base : Value.Entries) : List (Value × Value) → Value.Entries
  | [] => base
  | (key, v) :: rest => overlay (overlayEntry base key v v) rest

end

mutual

/-- Whether merging an entry comes to set a value under a key that has no text. -/
def namelessEntry (base : Value.Entries) (key : Value) : Value → Bool
  | .null => false
  | .loop _ v => namelessEntry base key v
  | .map inner =>
      !key.isWritable ||
        match (base.find? key).map Value.bare with
        | some (.map old) => nameless old inner
        | _ => false
  | _ => !key.isWritable

def nameless (base : Value.Entries) : List (Value × Value) → Bool
  | [] => false
  | (key, v) :: rest => namelessEntry base key v || nameless (overlayEntry base key v v) rest

end

mutual

/-- The sources after an entry of a layer was merged over the entries `base`. -/
def noteEntry (source : Source) (above : String) (base : Value.Entries) (sources : Sources)
    (key : Value) : Value → Sources
  | .null => sources
  | .loop _ v => noteEntry source above base sources key v
  | .map inner =>
      match (base.find? key).map Value.bare with
      | some (.map old) => note source (above ++ key.plain ++ ".") old sources inner
      | _ => sources.put (above ++ key.plain) source
  | _ => sources.put (above ++ key.plain) source

def note (source : Source) (above : String) (base : Value.Entries) (sources : Sources) :
    List (Value × Value) → Sources
  | [] => sources
  | (key, v) :: rest =>
      note source above (overlayEntry base key v v)
        (noteEntry source above base sources key v) rest

end

theorem overlayEntry_bare (base : Value.Entries) (key whole v : Value) :
    overlayEntry base key whole v = overlayEntry base key whole v.bare := by
  induction v using Value.bare.induct with
  | case1 _ v ih => exact ih
  | case2 v noLoop =>
      cases v with
      | loop label inner => exact absurd rfl (noLoop label inner)
      | _ => rfl

theorem namelessEntry_bare (base : Value.Entries) (key v : Value) :
    namelessEntry base key v = namelessEntry base key v.bare := by
  induction v using Value.bare.induct with
  | case1 _ v ih => exact ih
  | case2 v noLoop =>
      cases v with
      | loop label inner => exact absurd rfl (noLoop label inner)
      | _ => rfl

/-- What merging gives: it fails at a nameless setting, and otherwise ends with a draft. -/
def Merges (isNameless : Bool) (draft : Draft) (merged : Except Breakdown Draft) : Prop :=
  merged = if isNameless then .error .unwritten else .ok draft

theorem settingName_eq (above : String) (key : Value) :
    settingName above key =
      if key.isWritable then .ok (above ++ key.plain) else .error .unwritten := by
  unfold settingName Value.plain?
  cases key.isWritable <;> rfl

private theorem merges_plain (source : Source) (above : String) (draft : Draft)
    (key whole : Value) :
    Merges (!key.isWritable)
      ⟨draft.entries.put key whole, draft.sources.put (above ++ key.plain) source⟩ (do
        let name ← settingName above key
        return ⟨draft.entries.put key whole, draft.sources.put name source⟩) := by
  rw [settingName_eq]
  cases key.isWritable <;> exact rfl

mutual

theorem applyEntry_merges (source : Source) (above : String) (draft : Draft) (key whole : Value) :
    ∀ v, Merges (namelessEntry draft.entries key v)
      ⟨overlayEntry draft.entries key whole v,
        noteEntry source above draft.entries draft.sources key v⟩
      (applyEntry source above draft key whole v)
  | .null => rfl
  | .loop _ v => by
      rw [applyEntry, namelessEntry, overlayEntry, noteEntry]
      exact applyEntry_merges source above draft key whole v
  | .map inner => by
      rw [applyEntry, namelessEntry, overlayEntry, noteEntry, settingName_eq]
      cases key.isWritable with
      | false => exact rfl
      | true =>
          simp only [Bool.not_true, Bool.false_or, if_true, Bind.bind, Except.bind]
          cases (draft.entries.find? key).map Value.bare with
          | none => exact rfl
          | some found =>
              cases found with
              | map old =>
                  have merges := applyEntries_merges source (above ++ key.plain ++ ".")
                    ⟨old, draft.sources⟩ inner
                  rw [Merges] at merges ⊢
                  simp only [merges]
                  cases nameless old inner <;> rfl
              | _ => exact rfl
  | .bool _ | .int _ | .float _ | .text _ | .list _ | .tuple _ | .set _ | .date _ | .time _
  | .moment _ | .bytes _ | .back _ => merges_plain source above draft key whole

private theorem applyEntries_merges (source : Source) (above : String) (draft : Draft) :
    ∀ layer, Merges (nameless draft.entries layer)
      ⟨overlay draft.entries layer, note source above draft.entries draft.sources layer⟩
      (applyEntries source above draft layer)
  | [] => rfl
  | (key, v) :: rest => by
      have first := applyEntry_merges source above draft key v v
      have later := applyEntries_merges source above
        ⟨overlayEntry draft.entries key v v,
          noteEntry source above draft.entries draft.sources key v⟩ rest
      rw [Merges] at first later ⊢
      rw [applyEntries, first, nameless, overlay, note]
      cases namelessEntry draft.entries key v with
      | true => rfl
      | false => exact later

end

def Draft.overlaid (draft : Draft) (source : Source) (layer : Value.Entries) : Draft :=
  ⟨overlay draft.entries layer, note source "" draft.entries draft.sources layer⟩

theorem withLayer_eq (draft : Draft) (source : Source) (layer : Value.Entries) :
    withLayer draft source layer =
      if nameless draft.entries layer then .error (.breakdown .unwritten)
      else .ok (draft.overlaid source layer) := by
  have merges := applyEntries_merges source "" draft layer
  rw [Merges] at merges
  rw [withLayer, Draft.apply, merges]
  cases nameless draft.entries layer <;> rfl

/-! Whole resolutions. -/

/-- The draft of the settings before the arguments: the defaults, the file and the environment. -/
def draftOf (origin : Origin) (query : Query) (defaults : Settings) (layer : Value.Entries) :
    Draft :=
  (Draft.overlaid ⟨defaults.entries, []⟩ .configFile layer).overlaid .environment
    (environmentLayer origin query)

/-- What a resolution that succeeds consists of. -/
structure Resolution (origin : Origin) (query : Query) (resolved : Resolved) (defaults : Settings)
    (layer arguments : Value.Entries) : Prop where
  isDefault : check origin.environment (.map []) = .valid defaults
  chosen : chooseFile origin query = .ok resolved.file
  read : fileLayer origin resolved.file = .ok layer
  named : nameless defaults.entries layer = false
  namedEnvironment :
    nameless (overlay defaults.entries layer) (environmentLayer origin query) = false
  given : argumentLayer query.arguments = .ok arguments
  namedArguments : nameless (draftOf origin query defaults layer).entries arguments = false
  valid : check origin.environment
    (.map ((draftOf origin query defaults layer).overlaid .commandLine arguments).entries) =
      .valid resolved.settings
  sources : resolved.sources =
    ((draftOf origin query defaults layer).overlaid .commandLine arguments).sources

theorem checked_eq_ok {environment : Environment} {data : Value.Entries} {settings : Settings} :
    checked environment data = .ok settings ↔
      check environment (.map data) = .valid settings := by
  unfold checked
  cases check environment (.map data) with
  | valid found => simp
  | invalid problems => simp
  | broken cause => simp

theorem withLayer_eq_ok {draft merged : Draft} {source : Source} {layer : Value.Entries} :
    withLayer draft source layer = .ok merged ↔
      nameless draft.entries layer = false ∧ draft.overlaid source layer = merged := by
  rw [withLayer_eq]
  cases nameless draft.entries layer <;> simp

theorem resolve_eq_ok {origin : Origin} {query : Query} {resolved : Resolved} :
    resolve origin query = .ok resolved ↔
      ∃ defaults layer arguments, Resolution origin query resolved defaults layer arguments := by
  unfold resolve
  simp only [bind_eq_ok, checked_eq_ok, withLayer_eq_ok]
  constructor
  · rintro ⟨defaults, isDefault, file, chosen, layer, read, _, ⟨named, rfl⟩, _,
      ⟨namedEnvironment, rfl⟩, arguments, isArguments, _, ⟨namedArguments, rfl⟩, settings, valid,
      done⟩
    cases done
    have isArguments : argumentLayer query.arguments = .ok arguments := by
      cases given : argumentLayer query.arguments with
      | error e =>
          rw [given] at isArguments
          cases isArguments
      | ok found =>
          rw [given] at isArguments
          cases isArguments
          rfl
    exact ⟨defaults, layer, arguments,
      ⟨isDefault, chosen, read, named, namedEnvironment, isArguments, namedArguments, valid, rfl⟩⟩
  · rintro ⟨defaults, layer, arguments, resolution⟩
    refine ⟨defaults, resolution.isDefault, resolved.file, resolution.chosen, layer,
      resolution.read, _, ⟨resolution.named, rfl⟩, _, ⟨resolution.namedEnvironment, rfl⟩,
      arguments, ?_, _, ⟨resolution.namedArguments, rfl⟩, resolved.settings, resolution.valid, ?_⟩
    · rw [resolution.given]
      rfl
    · have sources := resolution.sources
      obtain ⟨settings, file, recorded⟩ := resolved
      subst sources
      rfl

theorem Resolution.layer_eq {origin : Origin} {query : Query} {resolved : Resolved}
    {defaults : Settings} {layer arguments found : Value.Entries} {file : Option Path}
    (resolution : Resolution origin query resolved defaults layer arguments)
    (chosen : chooseFile origin query = .ok file) (read : fileLayer origin file = .ok found) :
    layer = found := by
  have isFile := Except.ok.inj (chosen.symm.trans resolution.chosen)
  rw [isFile] at read
  exact Except.ok.inj (resolution.read.symm.trans read)

end MobileAudit.Settings
