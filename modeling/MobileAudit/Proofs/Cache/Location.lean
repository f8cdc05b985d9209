import MobileAudit.Proofs.Cache.Persistence
import MobileAudit.Proofs.Discovery.CacheFile
import MobileAudit.Proofs.Disk.ReadBack
import MobileAudit.Proofs.Exclusion.Selection
import MobileAudit.Proofs.Settings.Background

namespace MobileAudit

open Disk

/-! Where the cache file of a project lies.  Settings accept every plain name, so that the path of
the cache file may be that of the project or lead back from it.  The project stays a directory when
its cache is saved, and only an entry of this name may change. -/

namespace Settings

open Check Checked

/-- A name that settings accept for the cache file. -/
structure IsFileName (name : String) : Prop where
  nonempty : name ≠ ""
  trimmed : Text.trim name.toList = name.toList
  noSlash : '/' ∉ name.toList
  noBackslash : '\\' ∉ name.toList

theorem isFileName_of_check {v : Value} {name : String}
    (passed : checkFileName v = .valid name) : IsFileName name := by
  have isText := checkFileName_text passed
  rw [checkFileName, convertText_text, Checked.bind] at isText
  · simp only at isText
    split at isText
    · rename_i isPlain
      rw [Checked.valid.injEq] at isText
      simp only [isPlainName, Bool.and_eq_true, Bool.not_eq_true', ← Bool.not_eq_true,
        List.contains_iff_mem, List.isEmpty_iff] at isPlain
      have trimmed : Text.trim name.toList = name.toList := by
        rw [← isText, String.toList_ofList, trim_trim]
      rw [trimmed] at isPlain
      refine ⟨?_, trimmed, isPlain.1.2, isPlain.2⟩
      intro none
      exact isPlain.1.1 (String.toList_eq_nil_iff.mpr none)
    · cases isText
  · exact Value.noConfusion

theorem isFileName_default : IsFileName defaultCacheFile :=
  isFileName_of_check (v := .null) rfl

/-- Whatever the environment and the data, a setting is as it is by itself, or it is what its check
makes of a value. -/
theorem setting_of_valid {environment : Environment} {v : Value} {settings : Settings}
    (valid : check environment v = .valid settings) (setting : Setting) :
    setting.of settings = setting.fallback ∨
      ∃ w, setting.check w = .valid (setting.of settings) := by
  obtain rfl | ⟨entries, valid⟩ := default_or_fields_of_check valid
  · exact .inl rfl
  have passed := (fields_eq_valid.mp valid).2 setting
  rw [Setting.outcome] at passed
  cases found : valueIn entries setting with
  | none =>
      rw [found, Option.elim_none, Checked.valid.injEq] at passed
      exact .inl passed.symm
  | some w =>
      rw [found, Option.elim_some] at passed
      exact .inr ⟨w, passed⟩

theorem isFileName_of_valid {environment : Environment} {v : Value} {settings : Settings}
    (valid : check environment v = .valid settings) : IsFileName settings.cache.fileName := by
  obtain usual | ⟨w, passed⟩ := setting_of_valid valid .cacheFileName
  · have same : settings.cache.fileName = defaultCacheFile := usual
    rw [same]
    exact isFileName_default
  · exact isFileName_of_check passed

theorem maxAgeMs_nonneg_of_valid {environment : Environment} {v : Value} {settings : Settings}
    (valid : check environment v = .valid settings) : 0 ≤ settings.cache.maxAgeMs := by
  have days : 0 ≤ settings.cache.maxAgeDays := by
    obtain usual | ⟨w, passed⟩ := setting_of_valid valid .cacheMaxAgeDays
    · have same : settings.cache.maxAgeDays = 7 := usual
      omega
    · obtain ⟨n, _, atLeast⟩ := bind_eq_valid.mp passed
      split at atLeast
      · cases atLeast
      · rename_i enough
        cases atLeast
        exact Int.not_lt.mp enough
  unfold CacheSettings.maxAgeMs
  omega

end Settings

namespace Path

private theorem ofText_fileName {name : String} (isName : Settings.IsFileName name) :
    ofText name = ⟨.relative, if name = "." then [] else [name]⟩ := by
  have whole : Text.splitOn '/' name.toList = [name.toList] := by
    refine Text.splitWhere_piece _ name.toList ?_
    intro c member
    rw [beq_eq_false_iff_ne]
    rintro rfl
    exact isName.noSlash member
  have relative : anchorOf name.toList = .relative := by
    have noSlash := isName.noSlash
    cases letters : name.toList with
    | nil => rfl
    | cons c rest =>
        rw [letters] at noSlash
        rw [anchorOf.eq_def]
        split <;> simp_all
  have some : name.toList ≠ [] := fun none =>
    isName.nonempty (String.toList_eq_nil_iff.mp none)
  have point : name.toList = ['.'] ↔ name = "." := by
    rw [← String.toList_inj]
    exact Iff.rfl
  rw [ofText, relative, partsOf, whole]
  by_cases isPoint : name = "."
  · simp [isPoint]
  · have noPoint : name.toList ≠ ['.'] := fun same => isPoint (point.mp same)
    simp [isPoint, some, noPoint]

theorem child_fileName {name : String} (isName : Settings.IsFileName name) (parts : List String) :
    (fromRoot parts).child name = .fromRoot (if name = "." then parts else parts ++ [name]) := by
  rw [child, ofText_fileName isName]
  by_cases isPoint : name = "." <;> simp [isPoint, join, isAbsolute, fromRoot]

private theorem text_prefix (parts : List String) (name : String) :
    (fromRoot parts).text.toList <+: (fromRoot (parts ++ [name])).text.toList := by
  cases parts with
  | nil =>
      rw [List.nil_append, text_toList]
      exact List.prefix_append ['/'] _
  | cons first parts =>
      rw [List.cons_append, text_toList, text_toList, List.map_append, ← List.cons_append]
      have joined := Text.joinWith_append ['/'] (List.cons_ne_nil first.toList
        (parts.map String.toList)) (List.cons_ne_nil name.toList [])
      rw [Text.joinWith, Text.joinWith] at joined
      rw [List.map_singleton, joined]
      exact (List.prefix_cons_inj '/').mpr (List.prefix_append _ _)

end Path

private theorem Settings.IsFileName.proper {name : String} (isName : Settings.IsFileName name)
    (noPoint : name ≠ ".") (forward : name ≠ "..") : ProperName name :=
  ⟨isName.nonempty, noPoint, forward, isName.noSlash⟩

namespace FileSystem

private theorem DirectoryAt.above {fs : FileSystem} {parts : List String} {name : String}
    {entries : List (String × Node)}
    (directory : fs.DirectoryAt (.fromRoot (parts ++ [name])) entries) :
    ∃ siblings, fs.DirectoryAt (.fromRoot parts) siblings := by
  have noNull := Discovery.hasNull_of_admissible directory.admitted
  have forward : Forward parts := fun n member => directory.forward n (List.mem_append_left _ member)
  have short : ¬ maxPathBytes < (Path.fromRoot parts).text.utf8ByteSize := by
    intro long
    obtain ⟨rest, whole⟩ := Path.text_prefix parts name
    have longer : (Path.fromRoot (parts ++ [name])).text =
        (Path.fromRoot parts).text ++ String.ofList rest := by
      rw [← String.toList_inj, String.toList_append, String.toList_ofList, whole]
    have admitted := directory.admitted
    rw [admissible, if_neg (by simp [noNull]), longer, String.utf8ByteSize_append,
      if_pos (by omega)] at admitted
    cases admitted
  have found := directory.found
  simp only [Path.fromRoot, Node.find?_append] at found
  obtain ⟨node, there, inside⟩ := Option.bind_eq_some_iff.mp found
  have followed := follow_prefix parts [name] forward directory.followed
  cases node with
  | file content => cases inside
  | folder siblings =>
      refine ⟨siblings, rfl, forward, ?_, followed, there⟩
      have noNull' : (Path.fromRoot parts).hasNull = false := by
        simp only [Path.hasNull, Path.fromRoot, List.any_append, Bool.or_eq_false_iff] at noNull
        exact noNull.1
      rw [admissible, if_neg (by simp [noNull']), if_neg short]

/-! Writes that cannot be done. -/

private theorem write_directory {fs : FileSystem} {path : Path} {entries : List (String × Node)}
    (directory : fs.DirectoryAt path entries) (content : ByteArray) :
    ∃ error, fs.write path content = .error error := by
  cases written : fs.write path content with
  | error e => exact ⟨e, rfl⟩
  | ok fs' =>
      obtain ⟨place, name, there, found, noFolder, _⟩ := write_eq_ok written
      obtain ⟨siblings, site, isThere⟩ := site_eq_some found
      have parts := site_ok directory.absolute directory.forward found
      have isFolder := directory.found
      rw [← parts, find?_child name site.folder, ← isThere] at isFolder
      exact absurd isFolder (noFolder entries)

private theorem write_back (fs : FileSystem) (parts : List String) (content : ByteArray) :
    ∃ error, fs.write (.fromRoot (parts ++ [".."])) content = .error error := by
  cases written : fs.write (.fromRoot (parts ++ [".."])) content with
  | error e => exact ⟨e, rfl⟩
  | ok fs' =>
      obtain ⟨place, name, there, found, _, _⟩ := write_eq_ok written
      obtain ⟨siblings, site, _⟩ := site_eq_some found
      have last := congrArg List.getLast? site.parts
      simp only [Path.fromRoot, List.getLast?_concat, Option.some.injEq] at last
      exact absurd last.symm site.forward

private theorem tryWrite_refused {fs : FileSystem} {path : Path} {content : ByteArray}
    (refused : ∃ error, { fs with fates := fs.fates.tail }.write path content = .error error) :
    (fs.tryWrite path content).1 = { fs with fates := fs.fates.tail } := by
  obtain ⟨error, failed⟩ := refused
  unfold tryWrite
  simp only [failed]

end FileSystem

namespace Cache.Store

/-- What saving the cache of a project does to the disk: nothing, or it writes the cache file, which
has a proper name then. -/
theorem save_beside {fs : FileSystem} {store : Store} {parts : List String}
    {entries : List (String × Node)} {name : String} (now : Int)
    (directory : fs.DirectoryAt (.fromRoot parts) entries) (isName : Settings.IsFileName name)
    (file : store.file = (Path.fromRoot parts).child name) :
    (store.save fs now).fs.disk = fs.disk ∨ ProperName name ∧ ∃ content,
      (store.save fs now).fs.disk = fs.disk.put (parts ++ [name]) (.file content) := by
  obtain same | ⟨ledger, _, put⟩ := store.save_fs fs now
  · rw [same]
    exact .inl rfl
  rw [put, file, Path.child_fileName isName]
  unfold putFile
  -- The names that are not proper lead to directories, which no write replaces.
  by_cases isPoint : name = "."
  · rw [if_pos isPoint]
    left
    have onPath : ∃ siblings, fs.DirectoryAt (Path.fromRoot parts).parent siblings := by
      obtain rfl | ⟨front, last, rfl⟩ := List.eq_nil_or_concat parts
      · exact ⟨entries, directory⟩
      · rw [List.concat_eq_append] at directory
        obtain ⟨siblings, above⟩ := directory.above
        refine ⟨siblings, ?_⟩
        rw [Path.parent, Path.fromRoot, List.concat_eq_append, List.dropLast_concat]
        exact above
    obtain ⟨siblings, above⟩ := onPath
    rw [above.makeDirectories]
    have same : { fs with fates := fs.fates.tail }.DirectoryAt (.fromRoot parts) entries :=
      ⟨directory.absolute, directory.forward, directory.admitted, directory.followed,
        directory.found⟩
    simp only [FileSystem.tryWrite_refused (FileSystem.write_directory same _)]
  · rw [if_neg isPoint]
    have parent : (Path.fromRoot (parts ++ [name])).parent = .fromRoot parts := by
      simp [Path.parent, Path.fromRoot]
    rw [parent, directory.makeDirectories]
    by_cases back : name = ".."
    · left
      subst back
      simp only [FileSystem.tryWrite_refused (FileSystem.write_back _ parts _)]
    · have forward : FileSystem.Forward (parts ++ [name]) := by
        intro n member
        obtain inParts | isLast := List.mem_append.mp member
        · exact directory.forward n inParts
        · rw [List.mem_singleton.mp isLast]
          exact back
      have absolute : (Path.fromRoot (parts ++ [name])).isAbsolute = true := rfl
      obtain ⟨_, same | ⟨kept, written⟩⟩ :=
        fs.tryWrite_disk (Text.encode ledger.toJson) absolute forward
      · exact .inl same
      · exact .inr ⟨isName.proper isPoint back, _, written⟩

theorem directoryAt_save {fs : FileSystem} {store : Store} {parts : List String}
    {entries : List (String × Node)} {name : String} (now : Int)
    (directory : fs.DirectoryAt (.fromRoot parts) entries) (isName : Settings.IsFileName name)
    (file : store.file = (Path.fromRoot parts).child name) :
    ∃ entries', (store.save fs now).fs.DirectoryAt (.fromRoot parts) entries' ∧
      (entries' = entries ∨ ProperName name ∧ ∃ content,
        entries' = Node.putEntry name (.file content) entries) := by
  obtain same | ⟨proper, content, written⟩ := store.save_beside now directory isName file
  · refine ⟨entries, ⟨rfl, directory.forward, directory.admitted, ?_, ?_⟩, .inl rfl⟩
    · rw [same]
      exact directory.followed
    · rw [same]
      exact directory.found
  · exact ⟨_, Discovery.directoryAt_put directory written, .inr ⟨proper, content, rfl⟩⟩

end Cache.Store

end MobileAudit
