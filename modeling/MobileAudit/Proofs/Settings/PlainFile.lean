import MobileAudit.Proofs.Cache.Codec
import MobileAudit.Proofs.Json.Range
import MobileAudit.Settings.Resolve

namespace MobileAudit

/-! Settings files: those that have been written as documents, and the one whose name says nothing
about its format.  There a text that begins with a brace is taken for JSON, and any other text is
tried as YAML and then as TOML. -/

/-! Objects of JSON. -/

namespace Json

private theorem isSpace_of_isBlank {c : Char} (blank : isBlank c = true) :
    Text.isSpace c = true := by
  simp only [isBlank, Bool.or_eq_true, beq_iff_eq] at blank
  obtain ((rfl | rfl) | rfl) | rfl := blank <;> decide

theorem head?_of_readValue_map {fuel depth : Nat} {text rest : List Char} {entries : Value.Entries}
    (read : readValue fuel depth text = .ok (.map entries, rest)) :
    text.head? = some '\x7b' := by
  cases fuel with
  | zero =>
      rw [readValue] at read
      cases read
  | succ fuel =>
      obtain isLeaf | ⟨inner, tail, _, isList⟩ | ⟨inner, tail, rfl, _⟩ := readValue_eq_ok read
      · cases isLeaf_of_readLeaf isLeaf
      · obtain same | ⟨_, _, _, same⟩ := readEnclosed_eq_ok isList <;> cases same
      · rfl

end Json

namespace Settings

open Disk

/-! Files that have been written as documents. -/

private theorem fileEntries_written {fs : FileSystem} {path : Path} (style : Json.Style)
    {entries : Value.Entries} (document : Json.Document Json.maxDepth (.map entries))
    (writable : (Value.map entries).isWritable = true)
    (isJson : Format.ofSuffix? (Text.lower path.suffix) = some .json)
    (present : fs.look path =
      .ok (some (.file (Text.encode (Json.write style (.map entries)))))) :
    fileEntries fs path = .ok entries := by
  have noReturn : '\r' ∉ (Json.write style (.map entries)).toList := by
    rw [Json.write, String.toList_ofList]
    exact Json.return_not_mem_writeValue style document 0
  have parsed : Json.read (Json.write style (.map entries)) = .ok (.map entries) :=
    (Json.read_write style document).1 writable
  have decoded := Text.decodeFile?_encode _ noReturn
  have inFormat : decodeAs .json path.text (Json.write style (.map entries)) = .ok entries := by
    rw [decodeAs, Format.read, parsed]
    rfl
  rw [fileEntries, present]
  simp only [decoded]
  unfold decodeFile
  rewrite [isJson]
  exact inFormat

def diskWith (entries : Value.Entries) : FileSystem where
  disk := .folder [("c.json", .file (Text.encode (Json.write .oneLine (.map entries))))]

theorem fileEntries_diskWith {entries : Value.Entries}
    (document : Json.Document Json.maxDepth (.map entries))
    (writable : (Value.map entries).isWritable = true) :
    fileEntries (diskWith entries) (.ofText "/c.json") = .ok entries := by
  refine fileEntries_written .oneLine document writable (by decide +kernel) ?_
  unfold diskWith
  generalize Text.encode (Json.write .oneLine (.map entries)) = content
  rfl

/-! Texts that are taken for JSON. -/

/-- Whether a text begins with a brace, blanks aside. -/
def beginsWithBrace (text : String) : Bool :=
  (text.toList.dropWhile Text.isSpace).head? == some '\x7b'

/-- Only blanks stand before the brace of an object. -/
theorem beginsWithBrace_of_object {text : String} {entries : Value.Entries}
    (read : Json.read text = .ok (.map entries)) : beginsWithBrace text = true := by
  unfold Json.read Json.readChars at read
  split at read
  · cases read
  · split at read
    · cases read
    · rename_i value rest isValue
      split at read
      · cases read
        have head := Json.head?_of_readValue_map isValue
        have blanks : ∀ c ∈ text.toList.takeWhile Json.isBlank, Text.isSpace c = true :=
          fun c member => Json.isSpace_of_isBlank (List.all_eq_true.mp List.all_takeWhile c member)
        have whole := List.takeWhile_append_dropWhile (p := Json.isBlank) (l := text.toList)
        rw [beginsWithBrace, ← whole, List.dropWhile_append_of_pos blanks, ← Json.skipBlanks]
        obtain ⟨tail, isText⟩ := List.head?_eq_some_iff.mp head
        rw [isText]
        rfl
      · cases read

/-! Texts in a format. -/

namespace Format

/-- A format has a mapping for a text. -/
def Gives (format : Format) (text : String) (entries : Value.Entries) : Prop :=
  ∃ v, format.read text = .ok v ∧ v.bare = .map entries

/-- Whether a format has a mapping for a text. -/
def accepts (format : Format) (text : String) : Bool :=
  match format.read text with
  | .ok v =>
      match v.bare with
      | .map _ => true
      | _ => false
  | .error _ => false

theorem accepts_iff {format : Format} {text : String} :
    format.accepts text = true ↔ ∃ entries, format.Gives text entries := by
  unfold accepts Gives
  cases format.read text with
  | error refusal => simp
  | ok v => cases bare : v.bare <;> simp [bare]

/-- A tagged scalar of the text ends the reading in its own way. -/
def breaks (format : Format) (text : String) : Bool :=
  match format.read text with
  | .error (.yaml _) => true
  | _ => false

private theorem Gives.not_breaks {format : Format} {text : String} {entries : Value.Entries}
    (gives : format.Gives text entries) : format.breaks text = false := by
  obtain ⟨v, isRead, _⟩ := gives
  rw [breaks, isRead]

private theorem json_gives {text : String} {entries : Value.Entries}
    (gives : json.Gives text entries) :
    Json.read text = .ok (.map entries) := by
  obtain ⟨v, isRead, isMap⟩ := gives
  rw [read] at isRead
  cases isJson : Json.read text with
  | error failure =>
      rw [isJson] at isRead
      cases isRead
  | ok w =>
      rw [isJson] at isRead
      cases isRead
      have found : Json.read? text = some v := by
        rw [Json.read?, isJson]
        rfl
      rw [← Json.read?_bare found, isMap]

end Format

theorem decodeAs_eq_ok {format : Format} (path : String) {text : String}
    {entries : Value.Entries} :
    decodeAs format path text = .ok entries ↔ format.Gives text entries := by
  unfold decodeAs Format.Gives
  cases format.read text with
  | error refusal => cases refusal <;> simp
  | ok v => cases bare : v.bare <;> simp [bare]

/-- Where a format has no mapping for a text and does not break down, the text is refused by an
error of the configuration. -/
theorem decodeAs_cases (format : Format) (path text : String) :
    (∃ entries, decodeAs format path text = .ok entries ∧ format.Gives text entries) ∨
    (format.accepts text = false ∧ format.breaks text = false ∧
      ∃ error, decodeAs format path text = .error (.config error)) ∨
    (format.breaks text = true ∧
      ∃ failure, decodeAs format path text = .error (.yaml failure)) := by
  unfold decodeAs Format.accepts Format.breaks Format.Gives
  cases format.read text with
  | error refusal => cases refusal <;> simp
  | ok v => cases bare : v.bare <;> simp [bare]

/-! Files. -/

/-- A path leads to a file with a text. -/
def HoldsText (fs : FileSystem) (path : Path) (text : String) : Prop :=
  ∃ bytes, fs.look path = .ok (some (.file bytes)) ∧ Text.decodeFile? bytes = some text

section Files

variable {fs : FileSystem} {path : Path} {text : String}

theorem fileEntries_of_text (holds : HoldsText fs path text) :
    fileEntries fs path = decodeFile path text := by
  obtain ⟨bytes, present, decoded⟩ := holds
  rw [fileEntries, present]
  simp only [decoded]

theorem fileEntries_announced {format : Format}
    (announced : Format.ofSuffix? (Text.lower path.suffix) = some format)
    (holds : HoldsText fs path text) : fileEntries fs path = decodeAs format path.text text := by
  rw [fileEntries_of_text holds]
  unfold decodeFile
  rewrite [announced]
  rfl

private theorem fileEntries_plain (plain : path.name = plainFileName)
    (holds : HoldsText fs path text) :
    fileEntries fs path = decodeDetected path.text text := by
  have noFormat : Format.ofSuffix? (Text.lower (Path.suffixOf plainFileName)) = none := by
    decide +kernel
  rw [fileEntries_of_text holds]
  unfold decodeFile
  rewrite [Path.suffix, plain, noFormat]
  rfl

end Files

section Detected

variable {path text : String}

private theorem decodeDetected_brace (brace : beginsWithBrace text = true) :
    decodeDetected path text = decodeAs .json path text := if_pos brace

private theorem decodeDetected_no_brace (noBrace : beginsWithBrace text = false)
    {entries : Value.Entries} :
    decodeDetected path text = .ok entries ↔
      Format.yaml.Gives text entries ∨
        (Format.yaml.accepts text = false ∧ Format.yaml.breaks text = false ∧
          Format.toml.Gives text entries) := by
  unfold beginsWithBrace at noBrace
  unfold decodeDetected
  rw [noBrace, if_neg Bool.false_ne_true, ← decodeAs_eq_ok path, ← decodeAs_eq_ok path]
  obtain ⟨found, isYaml, gives⟩ | ⟨refused, whole, error, isYaml⟩ | ⟨broken, failure, isYaml⟩ :=
    decodeAs_cases .yaml path text
  · have accepts := Format.accepts_iff.mpr ⟨found, gives⟩
    simp [isYaml, accepts]
  · simp only [isYaml, refused, whole]
    cases decodeAs .toml path text with
    | ok found => simp
    | error error => cases error <;> simp
  · simp [isYaml, broken]

end Detected

/-- Of the texts that a file of some format is read from, the file whose name announces none takes
those that are objects of JSON, and those that begin with no brace and do not break down as YAML.
What it holds is what one of the formats gives, and for an object of JSON what JSON gives. -/
theorem plain_file_accepted_iff {fs otherFs : FileSystem} {path other : Path} {text : String}
    {format : Format} {found : Value.Entries} (plain : path.name = plainFileName)
    (holds : HoldsText fs path text)
    (announced : Format.ofSuffix? (Text.lower other.suffix) = some format)
    (otherHolds : HoldsText otherFs other text) (accepted : fileEntries otherFs other = .ok found) :
    ((∃ entries, fileEntries fs path = .ok entries) ↔
      Format.json.accepts text = true ∨
        (beginsWithBrace text = false ∧ Format.yaml.breaks text = false)) ∧
    (∀ entries, fileEntries fs path = .ok entries → ∃ format, Format.Gives format text entries) ∧
    ∀ entries, Format.json.Gives text entries → fileEntries fs path = .ok entries := by
  rw [fileEntries_announced announced otherHolds, decodeAs_eq_ok] at accepted
  rw [fileEntries_plain plain holds]
  cases brace : beginsWithBrace text with
  | true =>
      simp only [decodeDetected_brace brace, decodeAs_eq_ok, Format.accepts_iff, Bool.true_eq_false,
        false_and, or_false, true_and]
      exact ⟨fun entries gives => ⟨_, gives⟩, fun _ gives => gives⟩
  | false =>
      have noJson : ∀ entries, ¬ Format.json.Gives text entries := by
        intro entries gives
        rw [beginsWithBrace_of_object (Format.json_gives gives)] at brace
        cases brace
      simp only [decodeDetected_no_brace brace]
      refine ⟨⟨?_, ?_⟩, ?_, fun entries gives => absurd gives (noJson entries)⟩
      · rintro ⟨entries, gives | ⟨_, whole, _⟩⟩
        · exact .inr ⟨trivial, gives.not_breaks⟩
        · exact .inr ⟨trivial, whole⟩
      · rintro (isJson | ⟨_, whole⟩)
        · obtain ⟨entries, gives⟩ := Format.accepts_iff.mp isJson
          exact absurd gives (noJson entries)
        · cases isYaml : Format.yaml.accepts text with
          | true =>
              obtain ⟨entries, gives⟩ := Format.accepts_iff.mp isYaml
              exact ⟨entries, .inl gives⟩
          | false =>
              cases format with
              | yaml =>
                  rw [Format.accepts_iff.mpr ⟨found, accepted⟩] at isYaml
                  cases isYaml
              | toml => exact ⟨found, .inr ⟨rfl, whole, accepted⟩⟩
              | json => exact absurd accepted (noJson found)
      · rintro entries (gives | ⟨_, _, gives⟩)
        · exact ⟨.yaml, gives⟩
        · exact ⟨.toml, gives⟩

/-- A disk with one text under a name for YAML and under the name that announces no format. -/
def diskWithText (text : String) : FileSystem where
  disk := .folder [("x.yaml", .file (Text.encode text)), (plainFileName, .file (Text.encode text))]

private theorem holdsText_diskWithText {text : String} (noReturn : '\r' ∉ text.toList) :
    HoldsText (diskWithText text) (.ofText "/x.yaml") text ∧
      HoldsText (diskWithText text) (.ofText "/.mobsentryrc") text := by
  have decoded := Text.decodeFile?_encode text noReturn
  unfold HoldsText diskWithText
  generalize Text.encode text = content at decoded
  exact ⟨⟨content, rfl, decoded⟩, content, rfl, decoded⟩

/-- A mapping that YAML reads in braces is refused in the file whose name announces no format. -/
theorem braced_yaml_refused :
    let text := "\x7bscan: \x7bconcurrency: 5\x7d\x7d"
    let fs := diskWithText text
    (∃ entries, fileEntries fs (.ofText "/x.yaml") = .ok entries) ∧
      ¬ ∃ entries, fileEntries fs (.ofText "/.mobsentryrc") = .ok entries := by
  intro text fs
  have noReturn : '\r' ∉ text.toList := by decide +kernel
  obtain ⟨otherHolds, holds⟩ := holdsText_diskWithText noReturn
  have announced : Format.ofSuffix? (Text.lower (Path.ofText "/x.yaml").suffix) = some .yaml := by
    decide +kernel
  have isYaml : Format.yaml.accepts text = true := by decide +kernel
  have noJson : Format.json.accepts text = false := by decide +kernel
  have brace : beginsWithBrace text = true := by decide +kernel
  obtain ⟨found, gives⟩ := Format.accepts_iff.mp isYaml
  have accepted := (fileEntries_announced announced otherHolds).trans ((decodeAs_eq_ok _).mpr gives)
  have plain : (Path.ofText "/.mobsentryrc").name = plainFileName := rfl
  have refused := (plain_file_accepted_iff plain holds announced otherHolds accepted).1
  refine ⟨⟨found, accepted⟩, fun taken => ?_⟩
  obtain isJson | ⟨noBrace, _⟩ := refused.mp taken
  · cases noJson.symm.trans isJson
  · cases brace.symm.trans noBrace

end Settings

end MobileAudit
