import ImagePreload.Proofs.Loading

/-!
# The place that a configuration comes from

Of several places the first that holds a file decides (`FirstFile`). What is in that
file is all that matters then, whatever the other places are and hold
(`ofPlaces_of_firstFile`, `ofFile_congr`), and paths in the configuration are relative
to the directory of that file (`baseDirectory_of_ofFile`).

There is one exception. A document that is not null but counts as false, such as an
empty mapping or a zero, is taken for no document at all (`Hollow`): the failure is that
no place holds a file, and it names all of them. So that failure does not mean what it
says (`ofPlaces_first_file`).
-/

namespace ImagePreload

/-! ## The directory of a path -/

namespace Text

variable {c : Char} {text before after : List Char}

theorem breakAt?_singleton_cons (c d : Char) (text : List Char) :
    breakAt? [c] (d :: text) =
      if c == d then some ([], text)
      else (breakAt? [c] text).map fun (before, after) => (d :: before, after) := by
  cases hsame : c == d <;> simp [breakAt?, dropPart?, hsame]

theorem breakAt?_singleton_eq_some (h : breakAt? [c] text = some (before, after)) :
    text = before ++ c :: after ∧ c ∉ before := by
  induction text generalizing before with
  | nil => cases h
  | cons d text ih =>
      rw [breakAt?_singleton_cons] at h
      split at h
      · next hsame =>
          cases h
          rw [eq_of_beq hsame]
          exact ⟨rfl, List.not_mem_nil⟩
      · next hdiffers =>
          obtain ⟨⟨front, rest⟩, hbreak, hpair⟩ := Option.map_eq_some_iff.1 h
          cases hpair
          obtain ⟨rfl, hfront⟩ := ih hbreak
          exact ⟨rfl, List.not_mem_cons_of_ne_of_not_mem (by simpa using hdiffers) hfront⟩

theorem breakAt?_singleton_eq_none (h : breakAt? [c] text = none) : c ∉ text := by
  induction text with
  | nil => exact List.not_mem_nil
  | cons d text ih =>
      rw [breakAt?_singleton_cons] at h
      split at h
      · cases h
      · next hdiffers =>
          exact List.not_mem_cons_of_ne_of_not_mem (by simpa using hdiffers)
            (ih (Option.map_eq_none_iff.1 h))

theorem breakAtLast?_singleton_eq_some (h : breakAtLast? [c] text = some (before, after)) :
    text = before ++ c :: after ∧ c ∉ after := by
  obtain ⟨⟨back, front⟩, hbreak, hpair⟩ := Option.map_eq_some_iff.1 h
  cases hpair
  obtain ⟨hreverse, hback⟩ := breakAt?_singleton_eq_some hbreak
  refine ⟨?_, fun hmem => hback (List.mem_reverse.1 hmem)⟩
  rw [← List.reverse_reverse text, hreverse]
  simp

theorem breakAtLast?_singleton_eq_none (h : breakAtLast? [c] text = none) : c ∉ text :=
  fun hmem => breakAt?_singleton_eq_none (Option.map_eq_none_iff.1 h) (List.mem_reverse.2 hmem)

end Text

namespace Files

/-- A path is its directory and a name behind it. A slash divides them, unless the directory
is made of slashes alone. -/
theorem parent_append {path : String} (h : '/' ∈ path.toList) :
    ∃ name, '/' ∉ name ∧
      (((∃ c ∈ (parent path).toList, c ≠ '/') ∧
          path.toList = (parent path).toList ++ '/' :: name) ∨
        (∀ c ∈ (parent path).toList, c = '/') ∧ path.toList = (parent path).toList ++ name) := by
  cases hbreak : Text.breakAtLast? ['/'] path.toList with
  | none => exact absurd h (Text.breakAtLast?_singleton_eq_none hbreak)
  | some parts =>
      obtain ⟨front, name⟩ := parts
      obtain ⟨hpath, hname⟩ := Text.breakAtLast?_singleton_eq_some hbreak
      refine ⟨name, hname, ?_⟩
      rw [parent, hbreak]
      dsimp only
      split
      · next hslashes =>
          rw [String.toList_ofList]
          refine Or.inr ⟨by simpa [or_imp, forall_and] using hslashes, ?_⟩
          rw [hpath, List.append_assoc]
          rfl
      · next hother =>
          rw [String.toList_ofList]
          exact Or.inl ⟨by simpa using hother, hpath⟩

theorem isAbsolute_iff {path : String} :
    isAbsolute path = true ↔ ∃ rest, path.toList = '/' :: rest := by
  rw [isAbsolute, String.startsWith_string_iff]
  exact ⟨fun ⟨rest, h⟩ => ⟨rest, h.symm⟩, fun ⟨rest, h⟩ => ⟨rest, h.symm⟩⟩

theorem isAbsolute_absolutePath (files : Files) (path : String) :
    isAbsolute (files.absolutePath path) = true := by
  rw [isAbsolute_iff, absolutePath]
  split
  · exact ⟨_, String.toList_append⟩
  · exact ⟨_, String.toList_append⟩

theorem isAbsolute_parent {path : String} (h : isAbsolute path = true) :
    isAbsolute (parent path) = true := by
  obtain ⟨rest, hpath⟩ := isAbsolute_iff.1 h
  have hslash : '/' ∈ path.toList := hpath ▸ List.mem_cons_self
  obtain ⟨name, hname, hparts⟩ := parent_append hslash
  rw [isAbsolute_iff]
  rw [hpath] at hparts
  -- The directory is what the path begins with, so only an empty one could lack the slash. Then
  -- the name behind it would have it.
  cases hparent : (parent path).toList with
  | nil =>
      rw [hparent] at hparts
      rcases hparts with ⟨⟨c, hc, -⟩, -⟩ | ⟨-, rfl⟩
      · cases hc
      · exact absurd List.mem_cons_self hname
  | cons c cs =>
      rw [hparent] at hparts
      rcases hparts with ⟨-, hfront⟩ | ⟨-, hfront⟩
      · cases hfront
        exact ⟨cs, rfl⟩
      · cases hfront
        exact ⟨cs, rfl⟩

end Files

/-! ## The first file -/

namespace Config

variable {files files' : Files} {places : List String} {path : String}

/-- The first place that holds a file. -/
def FirstFile (files : Files) (places : List String) (path : String) : Prop :=
  ∃ earlier later, places = earlier ++ path :: later ∧
    (∀ place ∈ earlier, files.isFile place = false) ∧ files.isFile path = true

/-- A file with a document that is not null but counts as false. -/
def Hollow (files : Files) (path : String) : Prop :=
  ∃ text document, files.readText path = .ok text ∧ Yaml.load text = .ok document ∧
    document ≠ .null ∧ document.truthy = false

/-- The configuration in a file. -/
def ofFile (files : Files) (path : String) : Except ConfigFailure Config := do
  ofDocument (Files.parent (files.absolutePath path)) (← readDocument files path)

theorem find?_eq_some_iff_firstFile :
    places.find? files.isFile = some path ↔ FirstFile files places path := by
  rw [List.find?_eq_some_iff_append]
  constructor
  · rintro ⟨hfile, earlier, later, hplaces, hearlier⟩
    exact ⟨earlier, later, hplaces, fun place hplace => by simpa using hearlier place hplace,
      hfile⟩
  · rintro ⟨earlier, later, hplaces, hearlier, hfile⟩
    exact ⟨hfile, earlier, later, hplaces, fun place hplace => by simp [hearlier place hplace]⟩

theorem ofPlaces_of_none (h : ∀ place ∈ places, files.isFile place = false) :
    ofPlaces files places = .error (.notFound places) := by
  have hfind : places.find? files.isFile = none :=
    List.find?_eq_none.2 fun place hplace => by simp [h place hplace]
  rw [ofPlaces, hfind]

theorem ofPlaces_of_hollow (first : FirstFile files places path) (hollow : Hollow files path) :
    ofPlaces files places = .error (.notFound places) := by
  obtain ⟨text, document, htext, hload, hnull, hfalse⟩ := hollow
  rw [ofPlaces, find?_eq_some_iff_firstFile.2 first]
  show (readDocument files path >>= _) = _
  rw [readDocument_eq_ok.2 ⟨hnull, text, htext, hload⟩]
  exact if_neg (by simp [hfalse])

theorem ofPlaces_of_firstFile (first : FirstFile files places path) (solid : ¬ Hollow files path) :
    ofPlaces files places = ofFile files path := by
  rw [ofPlaces, find?_eq_some_iff_firstFile.2 first, ofFile]
  show (readDocument files path >>= _) = _
  cases hread : readDocument files path with
  | error e => rfl
  | ok document =>
      obtain ⟨hnull, text, htext, hload⟩ := readDocument_eq_ok.1 hread
      have htrue : document.truthy = true :=
        Bool.of_not_eq_false fun hfalse => solid ⟨text, document, htext, hload, hnull, hfalse⟩
      exact if_pos htrue

theorem ofFile_congr (sameDirectory : files'.workDirectory = files.workDirectory)
    (sameContents : files'.read path = files.read path) :
    ofFile files' path = ofFile files path := by
  have hread : readDocument files' path = readDocument files path := by
    rw [readDocument, readDocument, Files.readText, Files.readText, sameContents]
  have habsolute : files'.absolutePath path = files.absolutePath path := by
    rw [Files.absolutePath, Files.absolutePath, Files.fullPath, Files.fullPath, sameDirectory]
  rw [ofFile, ofFile, hread, habsolute]

/-! That no place holds a file is never said of a file: not when it is read, and not of what
is in it. -/

theorem checkVersion_ne_notFound (document : Value) :
    checkVersion document ≠ .error (.notFound places) := by
  intro h
  unfold checkVersion at h
  split at h
  · split at h
    · cases h
    · split at h
      · cases h
      · rcases bind_eq_error h with h | ⟨version, -, h⟩
        · unfold readVersion at h
          split at h
          · split at h <;> cases h
          · cases h
        · split at h <;> cases h
  · cases h

theorem complete_ne_notFound (entries : Entries) :
    complete entries ≠ .error (.notFound places) := by
  intro h
  unfold complete at h
  split at h
  · cases h
  · split at h
    · cases h
    · split at h <;> cases h

theorem readDocument_ne_notFound (files : Files) (path : String) :
    readDocument files path ≠ .error (.notFound places) := by
  intro h
  rcases bind_eq_error h with h | ⟨text, -, h⟩
  · obtain ⟨_, -, h⟩ := mapError_eq_error h
    cases h
  · rcases bind_eq_error h with h | ⟨document, -, h⟩
    · obtain ⟨_, -, h⟩ := mapError_eq_error h
      cases h
    · cases someDocument_error h

theorem ofFile_ne_notFound (files : Files) (path : String) :
    ofFile files path ≠ .error (.notFound places) := by
  intro h
  rcases bind_eq_error h with h | ⟨document, -, h⟩
  · exact readDocument_ne_notFound files path h
  rcases bind_eq_error h with h | ⟨entries, -, h⟩
  · exact checkVersion_ne_notFound document h
  rcases bind_eq_error h with h | ⟨options, -, h⟩
  · exact complete_ne_notFound entries h
  · dsimp only at h
    split at h <;> cases h

theorem baseDirectory_of_ofFile {config : Config} (h : ofFile files path = .ok config) :
    config.baseDirectory = Files.parent (files.absolutePath path) := by
  obtain ⟨document, -, h⟩ := bind_eq_ok.1 h
  obtain ⟨entries, -, h⟩ := bind_eq_ok.1 h
  obtain ⟨options, -, h⟩ := bind_eq_ok.1 h
  dsimp only at h
  split at h
  · cases h
  · cases h
    rfl

theorem none_or_firstFile (files : Files) (places : List String) :
    (∀ place ∈ places, files.isFile place = false) ∨ ∃ path, FirstFile files places path := by
  cases hfind : places.find? files.isFile with
  | none =>
      exact Or.inl fun place hplace => by simpa using List.find?_eq_none.1 hfind place hplace
  | some path => exact Or.inr ⟨path, find?_eq_some_iff_firstFile.1 hfind⟩

/-- The place that a configuration comes from. The failure that no place holds a file is
that, or the first file is hollow. Otherwise the outcome is that of the first file, the
same for all places and all trees with the same first file in the same working
directory. A configuration has the directory of that file, in full, for its own. -/
theorem ofPlaces_first_file (files : Files) (places : List String) :
    (∀ others, ofPlaces files places = .error (.notFound others) ↔
      others = places ∧ ((∀ place ∈ places, files.isFile place = false) ∨
        ∃ path, FirstFile files places path ∧ Hollow files path)) ∧
    (∀ path, FirstFile files places path → ¬ Hollow files path →
      ofPlaces files places = ofFile files path ∧
        ∀ files' places', files'.workDirectory = files.workDirectory →
          FirstFile files' places' path → files'.read path = files.read path →
          ofPlaces files' places' = ofPlaces files places) ∧
    ∀ config, ofPlaces files places = .ok config → ∃ path, FirstFile files places path ∧
      config.baseDirectory = Files.parent (files.absolutePath path) ∧
      Files.isAbsolute config.baseDirectory = true := by
  refine ⟨fun others => ⟨fun h => ?_, ?_⟩, fun path first solid => ?_, fun config h => ?_⟩
  · rcases none_or_firstFile files places with hnone | ⟨path, first⟩
    · cases (ofPlaces_of_none hnone).symm.trans h
      exact ⟨rfl, Or.inl hnone⟩
    · by_cases hollow : Hollow files path
      · cases (ofPlaces_of_hollow first hollow).symm.trans h
        exact ⟨rfl, Or.inr ⟨path, first, hollow⟩⟩
      · exact absurd ((ofPlaces_of_firstFile first hollow).symm.trans h)
          (ofFile_ne_notFound files path)
  · rintro ⟨rfl, hnone | ⟨path, first, hollow⟩⟩
    · exact ofPlaces_of_none hnone
    · exact ofPlaces_of_hollow first hollow
  · refine ⟨ofPlaces_of_firstFile first solid, fun files' places' sameDirectory first' same => ?_⟩
    have solid' : ¬ Hollow files' path := by
      rintro ⟨text, document, htext, hdocument⟩
      rw [Files.readText, same] at htext
      exact solid ⟨text, document, htext, hdocument⟩
    rw [ofPlaces_of_firstFile first solid, ofPlaces_of_firstFile first' solid',
      ofFile_congr sameDirectory same]
  · rcases none_or_firstFile files places with hnone | ⟨path, first⟩
    · cases (ofPlaces_of_none hnone).symm.trans h
    · by_cases hollow : Hollow files path
      · cases (ofPlaces_of_hollow first hollow).symm.trans h
      · have hdirectory :=
          baseDirectory_of_ofFile ((ofPlaces_of_firstFile first hollow).symm.trans h)
        refine ⟨path, first, hdirectory, ?_⟩
        rw [hdirectory]
        exact Files.isAbsolute_parent (files.isAbsolute_absolutePath path)

/-- A file with one job. -/
def jobsFile : FileNode := .file "configurationVersion: 1\njobs: [name: a]".toUTF8.toList

/-- A file with one job, and one with an empty mapping. -/
def hollowFiles : Files :=
  Files.ofList "/work"
    [("/work/jobs", jobsFile), ("/work/hollow", .file "\x7b\x7d".toUTF8.toList)]

theorem ofPlaces_first_file_jobs :
    let files := Files.ofList "/work" [("/work/jobs", jobsFile)]
    FirstFile hollowFiles ["missing", "jobs", "hollow"] "jobs" ∧ ¬ Hollow hollowFiles "jobs" ∧
      FirstFile files ["jobs"] "jobs" ∧ files.read "jobs" = hollowFiles.read "jobs" ∧
      ofPlaces files ["jobs"] = ofPlaces hollowFiles ["missing", "jobs", "hollow"] := by
  intro files
  have first : FirstFile hollowFiles ["missing", "jobs", "hollow"] "jobs" :=
    ⟨["missing"], ["hollow"], rfl, by decide +kernel, by decide +kernel⟩
  have first' : FirstFile files ["jobs"] "jobs" := ⟨[], [], rfl, nofun, by decide +kernel⟩
  have same : files.read "jobs" = hollowFiles.read "jobs" := by decide +kernel
  have solid : ¬ Hollow hollowFiles "jobs" := by
    rintro ⟨text, document, htext, hload, hnull, hfalse⟩
    have htrue : (readDocument hollowFiles "jobs").toOption.map Value.truthy = some true := by
      decide +kernel
    rw [readDocument_eq_ok.2 ⟨hnull, text, htext, hload⟩] at htrue
    exact absurd (Option.some.inj htrue) (by simp [hfalse])
  exact ⟨first, solid, first', same,
    ((ofPlaces_first_file hollowFiles _).2.1 "jobs" first solid).2 files ["jobs"] rfl first' same⟩

/-- Two places hold files, and yet none is said to. -/
theorem ofPlaces_hollow :
    FirstFile hollowFiles ["hollow", "jobs"] "hollow" ∧
      ofPlaces hollowFiles ["hollow", "jobs"] = .error (.notFound ["hollow", "jobs"]) := by
  have first : FirstFile hollowFiles ["hollow", "jobs"] "hollow" :=
    ⟨[], ["jobs"], rfl, nofun, by decide +kernel⟩
  have hfalse : (readDocument hollowFiles "hollow").toOption.map Value.truthy = some false := by
    decide +kernel
  refine ⟨first, ofPlaces_of_hollow first ?_⟩
  cases hread : readDocument hollowFiles "hollow" with
  | error e =>
      rw [hread] at hfalse
      cases hfalse
  | ok document =>
      obtain ⟨hnull, text, htext, hload⟩ := readDocument_eq_ok.1 hread
      rw [hread] at hfalse
      exact ⟨text, document, htext, hload, hnull, Option.some.inj hfalse⟩

end Config

end ImagePreload
