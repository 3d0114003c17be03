import ImagePreload.Proofs.Acceptance
import ImagePreload.Proofs.ConfigForm

/-!
# What keeps the jobs of an accepted configuration from being read

The rules of a configuration have it that every option which a job is read from is
there and, with one exception, of the type that is asked for; so it is never an
option that is missing, a text that is no duration or variables that are no mapping
which keeps a job from being read (`Job.ofSection_error`). The exception are
sequences: the rules take bytes and tuples for lists, the reader of a job does not.

What is left are names that no job has and files that cannot be read. A file that
the system does not give counts as a fault of the configuration. A file with bytes
that are no text does not, and neither does a path with a null character in it. So
selecting jobs fails otherwise than with a fault of usage or of the configuration
exactly if one of these is met (`selectJobs_outcome`). That is said of texts made of
characters: a path with half of a surrogate pair in it, which only an escape can
write (`Yaml.codePoint`), is not among them.
-/

namespace ImagePreload

open Config

/-! ## First failures -/

theorem error_of_mapM {ε α β : Type} {f : α → Except ε β} {xs : List α} {e : ε}
    (h : xs.mapM f = .error e) : ∃ x ∈ xs, f x = .error e := by
  induction xs with
  | nil => cases h
  | cons x xs ih =>
      rw [List.mapM_cons] at h
      rcases bind_eq_error h with hx | ⟨y, -, h⟩
      · exact ⟨x, List.mem_cons_self, hx⟩
      · rcases bind_eq_error h with hxs | ⟨ys, -, h⟩
        · obtain ⟨x', hmem, hx'⟩ := ih hxs
          exact ⟨x', List.mem_cons_of_mem _ hmem, hx'⟩
        · cases h

/-! ## Looking up what is there -/

/-- The names of options are keys, and no ways through several mappings. -/
theorem dotted_optionName : ∀ name ∈ ["name", "objects", "functionTemplates", "namespace",
    "preLoadImages", "preLoadPeriod", "namespaceLabels", "namespaceAnnotations",
    "preLoadNodeLabels", "objectTemplate", "jobs", "cleanupTimeout", "logFile", "kubeconfig"],
    dotted name = [name] := by
  decide +kernel

namespace Config

theorem HasFields.field? {forms : List (String × (Value → Prop))} {v : Value}
    (h : HasFields forms v) (name : String) (form : Value → Prop) (mem : (name, form) ∈ forms) :
    ∃ w, v.field? name = some w ∧ form w := by
  obtain ⟨entries, rfl, hfields⟩ := h
  exact hfields (name, form) mem

end Config

namespace Job

variable {files : Files} {baseDirectory name : String} {options : Section} {inquiry : Inquiry}
  {v : Value} {e : JobFailure}

theorem follow_of_field? (hname : dotted name = [name]) (hv : options.value.field? name = some v)
    (fullName : String) : Section.follow fullName options.value (dotted name) = .ok v := by
  rw [Section.follow_eq_ok, hname, Value.at?, hv]
  rfl

/-- An option that is there is found if it is of a type that is wanted. -/
theorem option_of_holds (hname : dotted name = [name]) (hv : options.value.field? name = some v)
    (hholds : ∀ wanted, inquiry.wanted = some wanted → wanted.holds v = true) :
    option options name inquiry = .ok v := by
  have hvalue (fullName : String) : (Section.ofFound fullName v).value = v := by cases v <;> rfl
  simp only [option, Section.get, follow_of_field? hname hv]
  cases hwanted : inquiry.wanted with
  | none => simp [Except.mapError, bind, Except.bind, pure, Except.pure, hvalue]
  | some wanted =>
      simp [hholds wanted hwanted, Except.mapError, bind, Except.bind, pure, Except.pure, hvalue]

theorem option_of_not_holds {wanted : Wanted} (hname : dotted name = [name])
    (hv : options.value.field? name = some v) (hwanted : inquiry.wanted = some wanted)
    (hholds : wanted.holds v = false) :
    option options name inquiry =
      .error (.option (.wrongType (options.nameOf name inquiry) v.typeName wanted)) := by
  simp [option, Section.get, follow_of_field? hname hv, hwanted, hholds, Except.mapError, bind,
    Except.bind]

/-- What comes of a sequence that is no list where a list is wanted. -/
def notList (options : Section) (name : String) (v : Value) : JobFailure :=
  .option (.wrongType (options.nameOf name {}) v.typeName (.one .list))

theorem listOption_cases (hname : dotted name = [name])
    (hv : options.value.field? name = some v) :
    (∃ items, v = .list items ∧ listOption options name = .ok items) ∨
      (∀ items, v ≠ .list items) ∧ listOption options name = .error (notList options name v) := by
  unfold listOption
  cases v with
  | list items =>
      left
      rw [option_of_holds hname hv (by rintro wanted ⟨⟩; rfl)]
      exact ⟨items, rfl, rfl⟩
  | _ =>
      right
      rw [option_of_not_holds hname hv rfl rfl]
      exact ⟨nofun, rfl⟩

theorem eq_list_of_listOption {items : List Value} (hname : dotted name = [name])
    (hv : options.value.field? name = some v) (h : listOption options name = .ok items) :
    v = .list items := by
  rcases listOption_cases hname hv with ⟨items, rfl, hok⟩ | ⟨-, herror⟩
  · cases hok.symm.trans h
    rfl
  · cases herror.symm.trans h

theorem listAt_of_field? {root : Value} {items : List Value} (hname : dotted name = [name])
    (h : root.field? name = some (.list items)) : root.listAt name = items := by
  rw [Value.listAt, Value.lookup?, hname, Value.at?, h]
  rfl

theorem labelsOption_of_isLabels (hname : dotted name = [name])
    (hv : options.value.field? name = some v) (h : IsLabels v) :
    ∃ entries, labelsOption options name = .ok entries := by
  obtain ⟨labels, rfl⟩ := h
  unfold labelsOption
  rw [option_of_holds hname hv (by rintro wanted ⟨⟩; rfl)]
  exact ⟨_, rfl⟩

theorem durationOption_of_isDuration {default : String} (hname : dotted name = [name])
    (hv : options.value.field? name = some v) (h : IsDuration v) :
    ∃ seconds, durationOption options name default = .ok seconds := by
  obtain ⟨s, seconds, rfl, hs⟩ := h
  unfold durationOption
  rw [option_of_holds hname hv (by rintro wanted ⟨⟩; rfl)]
  refine ⟨seconds, ?_⟩
  show (parseDuration s).mapError _ = _
  rw [hs]
  rfl

/-! ### Templates -/

theorem readTemplate_error {path : String} (h : readTemplate files baseDirectory path = .error e) :
    ∃ cause, files.readText (Files.join baseDirectory path) = .error cause ∧
      e = .template (Files.join baseDirectory path) cause := by
  obtain ⟨cause, hcause, he⟩ := mapError_eq_error h
  exact ⟨cause, hcause, he.symm⟩

theorem readObject_error {objectsName : String} {index : Nat} {object : Value}
    (isObject : IsObject object)
    (h : readObject files baseDirectory objectsName index object = .error e) :
    ∃ path cause, object.field? "objectTemplate" = some (.text path) ∧
      files.readText (Files.join baseDirectory path) = .error cause ∧
      e = .template (Files.join baseDirectory path) cause := by
  obtain ⟨-, htemplate, path, rfl, -⟩ := isObject.field? "objectTemplate" IsName (by simp)
  obtain ⟨-, hinputs, inputs, rfl⟩ := isObject.field? "inputVars" IsMapping (by simp)
  unfold readObject at h
  rw [option_of_holds (dotted_optionName _ (by simp)) htemplate (by rintro wanted ⟨⟩; rfl)] at h
  rcases bind_eq_error h with h | ⟨template, htext, h⟩
  · cases h
  · cases htext
    rcases bind_eq_error h with h | ⟨source, -, h⟩
    · obtain ⟨cause, hcause, he⟩ := readTemplate_error h
      exact ⟨path, cause, htemplate, hcause, he⟩
    · rw [hinputs] at h
      cases h

theorem readFunction_error (isName : IsName v)
    (h : readFunction files baseDirectory v = .error e) :
    ∃ path cause, v = .text path ∧
      files.readText (Files.join baseDirectory path) = .error cause ∧
      e = .template (Files.join baseDirectory path) cause := by
  obtain ⟨path, rfl, -⟩ := isName
  rcases bind_eq_error h with h | ⟨text, -, h⟩
  · obtain ⟨cause, hcause, he⟩ := readTemplate_error h
    exact ⟨path, cause, rfl, hcause, he⟩
  · cases h

/-! ### A job -/

/-- What may keep a job of an accepted configuration from being read. -/
inductive Fault (files : Files) (baseDirectory : String) (options : Section) :
    JobFailure → Prop
  | notList {name : String} {v : Value} (asked : name = "objects" ∨ name = "functionTemplates")
    (found : options.value.field? name = some v) (other : ∀ items, v ≠ .list items) :
    Fault files baseDirectory options (notList options name v)
  | template {path : String} {cause : ReadError}
    (named : path ∈ pathsIn baseDirectory options.value)
    (unread : files.readText path = .error cause) :
    Fault files baseDirectory options (.template path cause)

theorem mem_pathsIn_of_object {items : List Value} {object : Value} {path : String}
    (hobjects : options.value.field? "objects" = some (.list items)) (mem : object ∈ items)
    (htemplate : object.field? "objectTemplate" = some (.text path)) :
    Files.join baseDirectory path ∈ pathsIn baseDirectory options.value := by
  have hlist := listAt_of_field? (dotted_optionName _ (by simp)) hobjects
  refine List.mem_filterMap.2 ⟨.text path, List.mem_append_left _ ?_, rfl⟩
  exact List.mem_filterMap.2 ⟨object, hlist ▸ mem, htemplate⟩

theorem mem_pathsIn_of_function {items : List Value} {path : String}
    (hfunctions : options.value.field? "functionTemplates" = some (.list items))
    (mem : .text path ∈ items) :
    Files.join baseDirectory path ∈ pathsIn baseDirectory options.value := by
  have hlist := listAt_of_field? (dotted_optionName _ (by simp)) hfunctions
  exact List.mem_filterMap.2 ⟨.text path, List.mem_append_right _ (hlist ▸ mem), rfl⟩

/-- Only its sequences and its templates can keep such a job from being read. -/
theorem ofSection_error (isJob : IsJob options.value)
    (h : ofSection files baseDirectory options = .error e) :
    Fault files baseDirectory options e := by
  obtain ⟨-, hname, name, rfl, -⟩ := isJob.field? "name" IsName (by simp)
  obtain ⟨objects, hobjects, eachObject⟩ := isJob.field? "objects" (Each IsObject) (by simp)
  obtain ⟨functions, hfunctions, eachFunction⟩ :=
    isJob.field? "functionTemplates" (Each IsName) (by simp)
  obtain ⟨targetNamespace, hnamespace, -⟩ := isJob.field? "namespace" IsOptionalName (by simp)
  obtain ⟨-, hpreloads, preloads, rfl⟩ := isJob.field? "preLoadImages" IsFlag (by simp)
  obtain ⟨period, hperiod, isDuration⟩ := isJob.field? "preLoadPeriod" IsDuration (by simp)
  obtain ⟨labels, hlabels, isLabels⟩ := isJob.field? "namespaceLabels" IsLabels (by simp)
  obtain ⟨annotations, hannotations, areAnnotations⟩ :=
    isJob.field? "namespaceAnnotations" IsLabels (by simp)
  obtain ⟨nodeLabels, hnodeLabels, areNodeLabels⟩ :=
    isJob.field? "preLoadNodeLabels" IsLabels (by simp)
  unfold ofSection at h
  -- the options in the order they are read in, each with what is known of its value
  rcases bind_eq_error h with h | ⟨_, -, h⟩
  · rw [option_of_holds (dotted_optionName _ (by simp)) hname (by rintro wanted ⟨⟩; rfl)] at h
    cases h
  rcases bind_eq_error h with h | ⟨items, hitems, h⟩
  · rcases listOption_cases (dotted_optionName _ (by simp)) hobjects with
      ⟨items, -, hok⟩ | ⟨hother, herror⟩
    · cases hok.symm.trans h
    · cases herror.symm.trans h
      exact .notList (Or.inl rfl) hobjects hother
  rcases bind_eq_error h with h | ⟨_, -, h⟩
  · obtain ⟨⟨object, index⟩, hmem, h⟩ := error_of_mapM h
    cases eq_list_of_listOption (dotted_optionName _ (by simp)) hobjects hitems
    have mem : object ∈ items := List.fst_mem_of_mem_zipIdx hmem
    cases eachObject with
    | list all =>
        obtain ⟨path, cause, hpath, hcause, rfl⟩ := readObject_error (all object mem) h
        exact .template (mem_pathsIn_of_object hobjects mem hpath) hcause
  rcases bind_eq_error h with h | ⟨texts, htexts, h⟩
  · rcases listOption_cases (dotted_optionName _ (by simp)) hfunctions with
      ⟨items, -, hok⟩ | ⟨hother, herror⟩
    · cases hok.symm.trans h
    · cases herror.symm.trans h
      exact .notList (Or.inr rfl) hfunctions hother
  rcases bind_eq_error h with h | ⟨_, -, h⟩
  · obtain ⟨function, mem, h⟩ := error_of_mapM h
    cases eq_list_of_listOption (dotted_optionName _ (by simp)) hfunctions htexts
    cases eachFunction with
    | list all =>
        obtain ⟨path, cause, rfl, hcause, rfl⟩ := readFunction_error (all function mem) h
        exact .template (mem_pathsIn_of_function hfunctions mem) hcause
  rcases bind_eq_error h with h | ⟨_, -, h⟩
  · rw [option_of_holds (dotted_optionName _ (by simp)) hnamespace (by rintro wanted ⟨⟩)] at h
    cases h
  rcases bind_eq_error h with h | ⟨_, -, h⟩
  · rw [option_of_holds (dotted_optionName _ (by simp)) hpreloads (by rintro wanted ⟨⟩; rfl)] at h
    cases h
  rcases bind_eq_error h with h | ⟨_, -, h⟩
  · obtain ⟨seconds, hok⟩ :=
      durationOption_of_isDuration (dotted_optionName _ (by simp)) hperiod isDuration
    cases hok.symm.trans h
  rcases bind_eq_error h with h | ⟨_, -, h⟩
  · obtain ⟨entries, hok⟩ :=
      labelsOption_of_isLabels (dotted_optionName _ (by simp)) hlabels isLabels
    cases hok.symm.trans h
  rcases bind_eq_error h with h | ⟨_, -, h⟩
  · obtain ⟨entries, hok⟩ :=
      labelsOption_of_isLabels (dotted_optionName _ (by simp)) hannotations areAnnotations
    cases hok.symm.trans h
  rcases bind_eq_error h with h | ⟨_, -, h⟩
  · obtain ⟨entries, hok⟩ :=
      labelsOption_of_isLabels (dotted_optionName _ (by simp)) hnodeLabels areNodeLabels
    cases hok.symm.trans h
  cases h

end Job

/-! ## A configuration -/

theorem Files.readText_file_error {files : Files} {path source : String} {e : FileError}
    (h : files.readText path = .error (.file source e)) : source = path := by
  rcases bind_eq_error h with h | ⟨data, -, h⟩
  · obtain ⟨_, -, he⟩ := mapError_eq_error h
    cases he
    rfl
  · rcases bind_eq_error h with h | ⟨text, -, h⟩
    · obtain ⟨_, -, he⟩ := mapError_eq_error h
      cases he
    · cases h

variable {config : Config}

theorem Config.ofDocument_accepts {directory : String} {document : Value}
    (h : Config.ofDocument directory document = .ok config) :
    IsConfiguration config.options ∧ config.options.isTooLong = false := by
  obtain ⟨entries, -, h⟩ := bind_eq_ok.1 h
  obtain ⟨options, hcomplete, h⟩ := bind_eq_ok.1 h
  have haccepts := (complete_eq_ok_iff.1 hcomplete).2
  cases hlong : options.isTooLong with
  | true =>
      rw [hlong] at h
      cases h
  | false =>
      rw [hlong] at h
      cases h
      exact ⟨schema_isConfiguration haccepts, hlong⟩

/-- How long a sweep waits is known for every accepted configuration. -/
theorem cleanupTimeout_of_isConfiguration (isConfiguration : IsConfiguration config.options) :
    ∃ timeout, CommandLine.cleanupTimeout config = .ok timeout := by
  obtain ⟨-, htimeout, s, timeout, rfl, hs⟩ :=
    isConfiguration.field? "cleanupTimeout" IsDuration (by simp)
  have hfollow (fullName : String) :
      Section.follow fullName config.root.value (dotted "cleanupTimeout") = .ok (.text s) :=
    Job.follow_of_field? (dotted_optionName _ (by simp)) htimeout fullName
  refine ⟨timeout, ?_⟩
  unfold CommandLine.cleanupTimeout
  simp only [Section.get, hfollow]
  show (parseDuration s).mapError _ = _
  rw [hs]
  rfl

theorem jobSections_cases (isConfiguration : IsConfiguration config.options) :
    (∃ sections, config.jobSections = .ok sections ∧
      ∀ options ∈ sections, IsJob options.value) ∨
    ∃ v, config.options.field? "jobs" = some v ∧ (∀ items, v ≠ .list items) ∧
      config.jobSections = .error (Job.notList config.root "jobs" v) := by
  obtain ⟨v, hv, eachJob⟩ := isConfiguration.field? "jobs" (Each IsJob) (by simp)
  unfold jobSections
  cases eachJob with
  | list all =>
      left
      rw [Job.option_of_holds (dotted_optionName _ (by simp)) hv (by rintro wanted ⟨⟩; rfl)]
      refine ⟨_, rfl, fun options mem => ?_⟩
      obtain ⟨⟨job, index⟩, hmem, rfl⟩ := List.mem_map.1 mem
      exact all job (List.fst_mem_of_mem_zipIdx hmem)
  | tuple all =>
      right
      rw [Job.option_of_not_holds (dotted_optionName _ (by simp)) hv rfl rfl]
      exact ⟨_, hv, nofun, rfl⟩
  | noBytes =>
      right
      rw [Job.option_of_not_holds (dotted_optionName _ (by simp)) hv rfl rfl]
      exact ⟨_, hv, nofun, rfl⟩

theorem jobName_of_field? {options : Section} {name : Value}
    (h : options.value.field? "name" = some name) : options.jobName = .ok name := by
  have hfollow : Section.follow "name" options.value ["name"] = .ok name := by
    rw [Section.follow_eq_ok, Value.at?, h]
    rfl
  rw [Section.jobName, hfollow]
  rfl

theorem jobName_of_isJob {options : Section} (isJob : IsJob options.value) :
    ∃ name, options.jobName = .ok name := by
  obtain ⟨name, hname, -⟩ := isJob.field? "name" IsName (by simp)
  exact ⟨name, jobName_of_field? hname⟩

theorem selectSections_ok {sections selected : List Section} {names : List String}
    (hsections : config.jobSections = .ok sections)
    (h : selectSections config names = .ok selected) :
    ∀ options ∈ selected, options ∈ sections := by
  unfold selectSections at h
  rw [hsections] at h
  obtain ⟨_, hsame, h⟩ := bind_eq_ok.1 h
  cases hsame
  obtain ⟨known, -, h⟩ := bind_eq_ok.1 h
  dsimp only at h
  split at h
  · cases h
  · cases h
    intro options mem
    split at mem
    · exact mem
    · obtain ⟨⟨_, name⟩, hmem, rfl⟩ := List.mem_map.1 mem
      exact (List.of_mem_zip (List.mem_filter.1 hmem).1).1

theorem selectSections_error {names : List String} {e : JobFailure}
    (isConfiguration : IsConfiguration config.options)
    (h : selectSections config names = .error e) :
    e.kind = .own .usage ∨
      ∃ v, config.options.field? "jobs" = some v ∧ (∀ items, v ≠ .list items) ∧
        e = Job.notList config.root "jobs" v := by
  unfold selectSections at h
  rcases jobSections_cases isConfiguration with
    ⟨sections, hsections, isJob⟩ | ⟨v, hv, hother, herror⟩
  · rw [hsections] at h
    left
    rcases bind_eq_error h with h | ⟨_, hsame, h⟩
    · cases h
    cases hsame
    rcases bind_eq_error h with h | ⟨known, -, h⟩
    · obtain ⟨options, mem, h⟩ := error_of_mapM h
      obtain ⟨name, hname⟩ := jobName_of_isJob (isJob options mem)
      cases hname.symm.trans h
    · dsimp only at h
      split at h
      · cases h
        rfl
      · cases h
  · rw [herror] at h
    cases h
    exact Or.inr ⟨v, hv, hother, rfl⟩

/-! ## Failures of another kind -/

/-- What keeps the selected jobs from being read without being a fault of usage or of the
configuration. -/
inductive Leak (files : Files) (config : Config) (names : List String) : JobFailure → Prop
  /-- Jobs in a sequence that is no list. -/
  | jobs {v : Value} (found : config.options.field? "jobs" = some v)
    (other : ∀ items, v ≠ .list items) :
    Leak files config names (Job.notList config.root "jobs" v)
  /-- Objects or functions in a sequence that is no list. -/
  | items {sections : List Section} {options : Section} {name : String} {v : Value}
    (selected : selectSections config names = .ok sections) (mem : options ∈ sections)
    (asked : name = "objects" ∨ name = "functionTemplates")
    (found : options.value.field? name = some v) (other : ∀ items, v ≠ .list items) :
    Leak files config names (Job.notList options name v)
  /-- A template of bytes that are no text. -/
  | encoding {sections : List Section} {options : Section} {path : String} {e : Text.Utf8Error}
    (selected : selectSections config names = .ok sections) (mem : options ∈ sections)
    (named : path ∈ Job.pathsIn config.baseDirectory options.value)
    (unread : files.readText path = .error (.encoding e)) :
    Leak files config names (.template path (.encoding e))
  /-- A template at a path with a null character in it. -/
  | nullCharacter {sections : List Section} {options : Section} {path : String}
    (selected : selectSections config names = .ok sections) (mem : options ∈ sections)
    (named : path ∈ Job.pathsIn config.baseDirectory options.value)
    (unread : files.readText path = .error (.file path .nullCharacter)) :
    Leak files config names (.template path (.file path .nullCharacter))

theorem Leak.kind_ne {files : Files} {names : List String} {e : JobFailure}
    (h : Leak files config names e) (kind : OwnKind) : e.kind ≠ .own kind := by
  cases h <;> exact nofun

theorem selectedJobs_error {files : Files} {names : List String} {e : JobFailure}
    (isConfiguration : IsConfiguration config.options)
    (h : selectedJobs files config names = .error e) :
    (e.kind = .own .usage ∨ e.kind = .own .configuration) ∨ Leak files config names e := by
  rcases bind_eq_error h with h | ⟨selected, hselected, h⟩
  · rcases selectSections_error isConfiguration h with hkind | ⟨v, hv, hother, rfl⟩
    · exact Or.inl (Or.inl hkind)
    · exact Or.inr (.jobs hv hother)
  · obtain ⟨options, mem, h⟩ := error_of_mapM h
    have isJob : IsJob options.value := by
      rcases jobSections_cases isConfiguration with ⟨sections, hsections, isJob⟩ | ⟨v, -, -, herror⟩
      · exact isJob options (selectSections_ok hsections hselected options mem)
      · rw [selectSections, herror] at hselected
        cases hselected
    cases Job.ofSection_error isJob h with
    | notList asked found other => exact Or.inr (.items hselected mem asked found other)
    | @template path cause named unread =>
        cases cause with
        | encoding e => exact Or.inr (.encoding hselected mem named unread)
        | file source e =>
            obtain rfl := Files.readText_file_error unread
            cases e with
            | nullCharacter => exact Or.inr (.nullCharacter hselected mem named unread)
            | _ => exact Or.inl (Or.inr rfl)

/-- For every accepted configuration it is known how long a sweep waits. Its jobs are read,
or that fails with a fault of usage or of the configuration, unless a selected job keeps
something in a sequence that is no list or names a template that is no text or whose path has
a null character. -/
theorem selectJobs_outcome {directory : String} {document : Value} {τ : Type}
    (accepted : Config.ofDocument directory document = .ok config) :
    (∃ timeout, CommandLine.cleanupTimeout config = .ok timeout) ∧
      ∀ files names, ∃ r,
        (selectJobs files config names : Program JobFailure τ (List (Job Number))).Yields r ∧
        ∀ e, r = .error e →
          ((e.kind = .own .usage ∨ e.kind = .own .configuration) ↔ ¬ Leak files config names e) := by
  obtain ⟨isConfiguration, -⟩ := Config.ofDocument_accepts accepted
  refine ⟨cleanupTimeout_of_isConfiguration isConfiguration, fun files names => ?_⟩
  refine ⟨selectedJobs files config names, selectJobs_yields files config names, fun e he => ?_⟩
  constructor
  · rintro (hkind | hkind) hleak
    · exact hleak.kind_ne _ hkind
    · exact hleak.kind_ne _ hkind
  · exact (selectedJobs_error isConfiguration he).resolve_right

/-- A configuration with one job, whose only template does not hold a text. -/
def undecodableDocument : Value :=
  .map
    [(.text versionKey, .text "1"),
      (.text "jobs", .list
        [.map
          [(.text "name", .text "a"),
            (.text "objects", .list [.map [(.text "objectTemplate", .text "t.yml")]])]])]

def undecodableFiles : Files :=
  Files.ofList "/work" [("/work/t.yml", .file [0x6f, 0x6b, 0xff])]

/-- Whether a document is accepted and the jobs in it cannot be read for a failure of some
kind. -/
def failsReading (files : Files) (document : Value) (kind : ErrorKind) : Bool :=
  match Config.ofDocument files.workDirectory document with
  | .ok config =>
    match selectedJobs files config [] with
    | .error e => e.kind == kind
    | .ok _ => false
  | .error _ => false

theorem exists_of_failsReading {files : Files} {document : Value} {kind : ErrorKind}
    (h : failsReading files document kind = true) :
    ∃ config e, Config.ofDocument files.workDirectory document = .ok config ∧
      selectedJobs files config [] = .error e ∧ e.kind = kind := by
  unfold failsReading at h
  split at h
  · next config hconfig =>
      split at h
      · next e he => exact ⟨config, e, hconfig, he, by simpa using h⟩
      · cases h
  · cases h

theorem selectJobs_undecodable :
    ∃ config e, Config.ofDocument "/work" undecodableDocument = .ok config ∧
      (selectJobs undecodableFiles config [] : Program JobFailure Number _).Yields (.error e) ∧
      e.kind = .unicodeDecode := by
  obtain ⟨config, e, hconfig, he, hkind⟩ := exists_of_failsReading
    (by decide +kernel : failsReading undecodableFiles undecodableDocument .unicodeDecode = true)
  exact ⟨config, e, hconfig, he ▸ selectJobs_yields undecodableFiles config [], hkind⟩

theorem selectJobs_outcome_undecodable :
    ∃ config, Config.ofDocument "/work" undecodableDocument = .ok config ∧
      (∃ timeout, CommandLine.cleanupTimeout config = .ok timeout) ∧
      ∃ r, (selectJobs undecodableFiles config [] :
          Program JobFailure Number (List (Job Number))).Yields r ∧
        ∀ e, r = .error e → ((e.kind = .own .usage ∨ e.kind = .own .configuration) ↔
          ¬ Leak undecodableFiles config [] e) := by
  obtain ⟨config, -, hconfig, -, -⟩ := exists_of_failsReading
    (by decide +kernel : failsReading undecodableFiles undecodableDocument .unicodeDecode = true)
  obtain ⟨htimeout, houtcome⟩ := selectJobs_outcome hconfig
  exact ⟨config, hconfig, htimeout, houtcome undecodableFiles []⟩

end ImagePreload
