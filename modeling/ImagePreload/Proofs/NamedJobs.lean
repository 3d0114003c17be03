import ImagePreload.Proofs.DocumentForm
import ImagePreload.Proofs.Loading

/-!
# Jobs by their names

A configuration that was loaded has its jobs in a list (`Config.Loaded.jobs`), each of
them with a name. Names that are asked for are looked at first, so that a name which no
job has ends it before any file is read (`selectSections_eq`). Then the jobs are gone
through in their own order, and whether one is taken depends on nothing but its name:
order and number of the names play no part, and what is wrong with the others is never
seen (`selectJobs_by_name`). The position that a job is called by when it fails is that
in the configuration.
-/

namespace ImagePreload

open Config

/-! ## Loaded configurations -/

/-- A configuration that came from a text, or from one of some places. -/
def Config.Loaded (config : Config) : Prop :=
  ∃ files, (∃ text, ofText files text = .ok config) ∨
    ∃ places, ofPlaces files places = .ok config

namespace Config

variable {config : Config}

theorem Loaded.document (loaded : config.Loaded) :
    ∃ text directory document, Yaml.load text = .ok document ∧
      ofDocument directory document = .ok config := by
  obtain ⟨files, ⟨text, h⟩ | ⟨places, h⟩⟩ := loaded
  · obtain ⟨document, hload, h⟩ := bind_eq_ok.1 h
    obtain ⟨document', hsome, h⟩ := bind_eq_ok.1 h
    have hne : document ≠ .null := by
      rintro rfl
      cases hsome
    cases (someDocument_of_ne_null .text hne).symm.trans hsome
    exact ⟨text, _, document, mapError_eq_ok.1 hload, h⟩
  · unfold ofPlaces at h
    split at h
    · cases h
    · obtain ⟨document, hread, h⟩ := bind_eq_ok.1 h
      obtain ⟨-, text, -, hload⟩ := readDocument_eq_ok.1 hread
      split at h
      · exact ⟨text, _, document, hload, h⟩
      · cases h

/-- The jobs of an accepted document are a sequence as which they were given. -/
theorem jobs_given {entries : Entries} {options : Value} (h : complete entries = .ok options) :
    ∃ v w, entries.get? (.text "jobs") = some v ∧ options.field? "jobs" = some w ∧
      KeptInOrder jobRule.Accepts v w ∧ isEmptyValue w = false := by
  obtain ⟨-, haccepts⟩ := complete_eq_ok_iff.1 h
  obtain ⟨_, completed, hentries, rfl, hfields, hfound⟩ :=
    Rule.IsRecord.entries schema_record haccepts
  cases hentries
  have hrule : ("jobs", jobsRule) ∈ configurationFields := by simp [configurationFields]
  rcases accepts_of_field schema_record.distinct hfields hfound hrule with
    ⟨-, hnone⟩ | ⟨v, w, hgiven, hget, hjobs⟩
  · cases (findings_of_fieldFindings hfound hrule).2 hnone
  · have hv : v ≠ .null := hjobs.given_ne_null rfl rfl rfl
    obtain ⟨u, hu, hkept⟩ := jobs_items hjobs
    rw [hu hv] at hkept
    rw [Rule.given, Option.or_none] at hgiven
    exact ⟨v, w, hgiven, hget, hkept,
      not_empty_of_flaws (hjobs.of_ne_null (hjobs.ne_null rfl)).2.1 rfl⟩

/-- The jobs of a loaded configuration are a list. -/
theorem Loaded.jobs (loaded : config.Loaded) :
    ∃ jobs, config.options.field? "jobs" = some (.list jobs) ∧ ∀ job ∈ jobs, IsJob job := by
  obtain ⟨text, directory, document, hload, hdocument⟩ := loaded.document
  obtain ⟨entries, hversion, h⟩ := bind_eq_ok.1 hdocument
  obtain ⟨options, hcomplete, hkept⟩ := bind_eq_ok.1 h
  obtain ⟨rfl, -⟩ := checkVersion_eq_ok_iff.1 hversion
  have hoptions : config.options = options := by
    dsimp only at hkept
    split at hkept
    · cases hkept
    · cases hkept
      rfl
  obtain ⟨v, w, hgiven, hget, hkept, hempty⟩ := jobs_given hcomplete
  -- The rules alone would let jobs be kept in a tuple, but no text gives one.
  have htuple : v.isTuple = false := Yaml.load_under_key hload hgiven
  rw [hoptions]
  cases hkept with
  | list all =>
      refine ⟨_, hget, fun job hmem => ?_⟩
      obtain ⟨given, -, haccepts⟩ := exists_left_of_mem all hmem
      exact jobRule_isJob haccepts
  | tuple all => cases htuple
  | noBytes => cases hempty

end Config

/-! ## Names -/

/-- The name of a job, if it is a text. -/
def nameOfJob (job : Value) : Option String :=
  match job.field? "name" with
  | some (.text name) => some name
  | _ => none

/-- The names of the configured jobs, in their order. -/
def Config.jobNames (c : Config) : List String := (c.options.listAt "jobs").filterMap nameOfJob

/-- Whether a job is asked for: by its name, or since no name is given. -/
def isAskedFor (names : List String) (job : Value) : Bool :=
  names.isEmpty || (nameOfJob job).any names.contains

/-- The section of a job at some position. -/
def jobSection : Value × Nat → Section
  | (job, index) => ⟨job, some ("jobs." ++ toString index)⟩

theorem nameOfJob_eq_some {job : Value} {name : String} :
    nameOfJob job = some name ↔ job.field? "name" = some (.text name) := by
  unfold nameOfJob
  split
  · next hname => rw [hname, Option.some.injEq, Option.some.injEq, Value.text.injEq]
  · next hother => exact iff_of_false nofun fun h => hother name h

theorem nameOfJob_of_isJob {job : Value} (isJob : IsJob job) :
    ∃ name, nameOfJob job = some name := by
  obtain ⟨-, hname, name, rfl, -⟩ := isJob.field? "name" IsName (by simp)
  exact ⟨name, nameOfJob_eq_some.2 hname⟩

theorem isOneOf_eq_any {names : List String} {job : Value} :
    isOneOf names ((job.field? "name").getD .null) = (nameOfJob job).any names.contains := by
  unfold nameOfJob isOneOf
  split
  · next name hname =>
      cases hfield : job.field? "name" with
      | none => simp [hfield] at hname
      | some v =>
          rw [hfield, Option.getD_some] at hname
          rw [hname]
          rfl
  · next hother =>
      split
      · next name hname =>
          rw [hname, Option.getD_some] at hother
          exact absurd rfl (hother name)
      · rfl

section

variable {config : Config} {jobs : List Value} {names : List String}

theorem jobNames_eq (hjobs : config.options.field? "jobs" = some (.list jobs)) :
    config.jobNames = jobs.filterMap nameOfJob := by
  rw [Config.jobNames, Job.listAt_of_field? (dotted_optionName _ (by simp)) hjobs]

theorem jobSections_eq (hjobs : config.options.field? "jobs" = some (.list jobs)) :
    config.jobSections = .ok (jobs.zipIdx.map jobSection) := by
  rw [Config.jobSections,
    Job.option_of_holds (dotted_optionName _ (by simp)) hjobs (by rintro wanted ⟨⟩; rfl)]
  rfl

theorem jobNames_of_sections (isJob : ∀ job ∈ jobs, IsJob job) :
    (jobs.zipIdx.map jobSection).mapM Section.jobName =
      .ok (jobs.zipIdx.map fun (job, _) => (job.field? "name").getD .null) := by
  rw [List.mapM_map]
  refine mapM_eq_map fun (job, index) hmem => ?_
  obtain ⟨name, hname⟩ := nameOfJob_of_isJob (isJob job (List.fst_mem_of_mem_zipIdx hmem))
  have hfield := nameOfJob_eq_some.1 hname
  show (jobSection (job, index)).jobName = .ok ((job.field? "name").getD .null)
  rw [hfield, Option.getD_some]
  exact jobName_of_field? hfield

theorem any_isOneOf_iff {name : String} :
    (jobs.zipIdx.map fun (job, _) => (job.field? "name").getD .null).any (isOneOf [name]) =
      decide (name ∈ jobs.filterMap nameOfJob) := by
  have hany : (jobs.zipIdx.map fun (job, _) => (job.field? "name").getD .null) =
      jobs.map fun job => (job.field? "name").getD .null := by
    conv => rhs; rw [← List.zipIdx_map_fst 0 jobs, List.map_map]
    rfl
  rw [hany, List.any_map, Bool.eq_iff_iff, List.any_eq_true, decide_eq_true_iff,
    List.mem_filterMap]
  simp only [Function.comp_apply, isOneOf_eq_any]
  constructor
  · rintro ⟨job, hmem, h⟩
    cases hname : nameOfJob job with
    | none => simp [hname] at h
    | some other => exact ⟨job, hmem, by simpa [hname] using h⟩
  · rintro ⟨job, hmem, hname⟩
    exact ⟨job, hmem, by simp [hname]⟩

/-- Names are looked at before anything else, and then every job by itself. -/
theorem selectSections_eq (hjobs : config.options.field? "jobs" = some (.list jobs))
    (isJob : ∀ job ∈ jobs, IsJob job) (names : List String) :
    selectSections config names =
      let unknown := names.filter fun name => decide (name ∉ config.jobNames)
      if unknown = [] then
        .ok ((jobs.zipIdx.filter fun (job, _) => isAskedFor names job).map jobSection)
      else .error (.unknown unknown) := by
  have hunknown : (names.filter fun name =>
      !(jobs.zipIdx.map fun (job, _) => (job.field? "name").getD .null).any (isOneOf [name])) =
        names.filter fun name => decide (name ∉ config.jobNames) := by
    simp only [any_isOneOf_iff, jobNames_eq hjobs, decide_not]
  unfold selectSections
  rw [jobSections_eq hjobs]
  show ((jobs.zipIdx.map jobSection).mapM Section.jobName >>= _) = _
  rw [jobNames_of_sections isJob]
  dsimp only [bind, Except.bind]
  rw [hunknown]
  by_cases hknown : (names.filter fun name => decide (name ∉ config.jobNames)) = []
  · simp only [hknown, if_true]
    rw [List.zip_map', List.filter_map, List.map_map]
    cases hnames : names.isEmpty with
    | true =>
        have hall : (jobs.zipIdx.filter fun (job, _) => isAskedFor names job) = jobs.zipIdx :=
          List.filter_eq_self.2 fun indexed _ => by simp [isAskedFor, hnames]
        rw [hall]
        rfl
    | false =>
        have hasked : (fun (indexed : Value × Nat) =>
            isOneOf names ((indexed.1.field? "name").getD .null)) =
              fun (job, _) => isAskedFor names job := by
          funext ⟨job, index⟩
          show isOneOf names ((job.field? "name").getD .null) = isAskedFor names job
          rw [isOneOf_eq_any, isAskedFor, hnames, Bool.false_or]
        rw [← hasked]
        rfl
  · rw [if_neg hknown]
    have hnonempty :
        (names.filter fun name => decide (name ∉ config.jobNames)).isEmpty = false := by
      simpa using hknown
    rw [hnonempty]
    rfl

theorem isAskedFor_congr {names' : List String} (same : ∀ name, name ∈ names' ↔ name ∈ names) :
    isAskedFor names' = isAskedFor names := by
  funext job
  have hempty : names'.isEmpty = names.isEmpty := by
    rw [Bool.eq_iff_iff, List.isEmpty_iff, List.isEmpty_iff, List.eq_nil_iff_forall_not_mem,
      List.eq_nil_iff_forall_not_mem]
    exact forall_congr' fun name => not_congr (same name)
  have hcontains : names'.contains = names.contains := by
    funext name
    rw [Bool.eq_iff_iff, List.contains_iff_mem, List.contains_iff_mem, same]
  rw [isAskedFor, isAskedFor, hempty, hcontains]

end

/-! ## What a job is read from -/

namespace Job

variable {files files' : Files} {baseDirectory : String} {options : Section}

theorem name_of_ofSection {job : Job Number} (isJob : IsJob options.value)
    (h : ofSection files baseDirectory options = .ok job) :
    job.name = (options.value.field? "name").getD .null := by
  obtain ⟨v, hv, -⟩ := isJob.field? "name" IsName (by simp)
  obtain ⟨name, hname, h⟩ := bind_eq_ok.1 h
  have hname : name = v := by
    refine (option_eq_ok hname ?_).1
    rw [Value.lookup?, dotted_optionName _ (by simp), Value.at?, hv]
    rfl
  rw [hv, Option.getD_some, ← hname]
  -- the ten other parts, in the order they are read in
  iterate 10 obtain ⟨_, -, h⟩ := bind_eq_ok.1 h
  cases h
  rfl

theorem readObject_congr {objectsName : String} {index : Nat} {object : Value}
    (isObject : IsObject object)
    (same : ∀ path, object.field? "objectTemplate" = some (.text path) →
      files.readText (Files.join baseDirectory path) =
        files'.readText (Files.join baseDirectory path)) :
    readObject files baseDirectory objectsName index object =
      readObject files' baseDirectory objectsName index object := by
  obtain ⟨-, htemplate, path, rfl, -⟩ := isObject.field? "objectTemplate" IsName (by simp)
  have hread : readTemplate files baseDirectory path = readTemplate files' baseDirectory path := by
    rw [readTemplate, readTemplate, same path htemplate]
  unfold readObject
  rw [option_of_holds (dotted_optionName _ (by simp)) htemplate (by rintro wanted ⟨⟩; rfl)]
  show (readTemplate files baseDirectory path >>= _) =
    (readTemplate files' baseDirectory path >>= _)
  rw [hread]

theorem readFunction_congr {v : Value}
    (same : ∀ path, v = .text path → files.readText (Files.join baseDirectory path) =
      files'.readText (Files.join baseDirectory path)) :
    readFunction files baseDirectory v = readFunction files' baseDirectory v := by
  cases v with
  | text path => rw [readFunction, readFunction, readTemplate, readTemplate, same path rfl]
  | _ => rfl

/-- A job is read from no other files than those that its section names. -/
theorem ofSection_congr (isJob : IsJob options.value)
    (same : ∀ path ∈ pathsIn baseDirectory options.value,
      files.readText path = files'.readText path) :
    ofSection files baseDirectory options = ofSection files' baseDirectory options := by
  obtain ⟨objects, hobjects, eachObject⟩ := isJob.field? "objects" (Each IsObject) (by simp)
  obtain ⟨functions, hfunctions, -⟩ := isJob.field? "functionTemplates" (Each IsName) (by simp)
  unfold ofSection
  refine bind_congr_ok fun name _ => bind_congr_ok fun items hitems => ?_
  cases eq_list_of_listOption (dotted_optionName _ (by simp)) hobjects hitems
  have isObject : ∀ object ∈ items, IsObject object := by
    cases eachObject with
    | list all => exact all
  have hread : items.zipIdx.mapM (fun (object, index) =>
        readObject files baseDirectory (sectionName options ++ ".objects") index object) =
      items.zipIdx.mapM fun (object, index) =>
        readObject files' baseDirectory (sectionName options ++ ".objects") index object := by
    refine mapM_congr fun (object, index) hmem => ?_
    have mem : object ∈ items := List.fst_mem_of_mem_zipIdx hmem
    exact readObject_congr (isObject object mem) fun path htemplate =>
      same _ (mem_pathsIn_of_object hobjects mem htemplate)
  rw [hread]
  refine bind_congr_ok fun definitions _ => bind_congr_ok fun texts htexts => ?_
  cases eq_list_of_listOption (dotted_optionName _ (by simp)) hfunctions htexts
  have hfunction : texts.mapM (readFunction files baseDirectory) =
      texts.mapM (readFunction files' baseDirectory) := by
    refine mapM_congr fun function mem => readFunction_congr ?_
    rintro path rfl
    exact same _ (mem_pathsIn_of_function hfunctions mem)
  rw [hfunction]

theorem kind_of_ofSection_error {e : JobFailure} (isJob : IsJob options.value)
    (h : ofSection files baseDirectory options = .error e) : e.kind ≠ .own .usage := by
  cases ofSection_error isJob h with
  | notList => exact nofun
  | @template path cause _ unread =>
      cases cause with
      | encoding => exact nofun
      | file source cause => cases cause <;> exact nofun

end Job

theorem readJobs_congr {files files' : Files} {baseDirectory : String} {sections : List Section}
    {τ : Type} (same : ∀ options ∈ sections,
      Job.ofSection files baseDirectory options = Job.ofSection files' baseDirectory options) :
    (readJobs files baseDirectory sections : Program JobFailure τ (List (Job Number))) =
      readJobs files' baseDirectory sections := by
  induction sections with
  | nil => rfl
  | cons options rest ih =>
      obtain ⟨hfirst, hrest⟩ := List.forall_mem_cons.1 same
      rw [readJobs, readJobs, hfirst, ih hrest]

/-! ## Selections -/

section

variable {config : Config} {jobs : List Value} {names : List String}

theorem selectSections_known (hjobs : config.options.field? "jobs" = some (.list jobs))
    (isJob : ∀ job ∈ jobs, IsJob job) (known : ∀ name ∈ names, name ∈ config.jobNames) :
    selectSections config names =
      .ok ((jobs.zipIdx.filter fun (job, _) => isAskedFor names job).map jobSection) := by
  have hunknown : (names.filter fun name => decide (name ∉ config.jobNames)) = [] :=
    List.filter_eq_nil_iff.2 fun name mem => by simpa using known name mem
  rw [selectSections_eq hjobs isJob]
  dsimp only
  rw [if_pos hunknown]

theorem selectedJobs_known (hjobs : config.options.field? "jobs" = some (.list jobs))
    (isJob : ∀ job ∈ jobs, IsJob job) (known : ∀ name ∈ names, name ∈ config.jobNames)
    (files : Files) :
    selectedJobs files config names =
      (jobs.zipIdx.filter fun (job, _) => isAskedFor names job).mapM fun indexed =>
        Job.ofSection files config.baseDirectory (jobSection indexed) := by
  rw [selectedJobs, selectSections_known hjobs isJob known]
  exact List.mapM_map

theorem selectJobs_unknown (hjobs : config.options.field? "jobs" = some (.list jobs))
    (isJob : ∀ job ∈ jobs, IsJob job)
    (unknown : (names.filter fun name => decide (name ∉ config.jobNames)) ≠ [])
    (files : Files) {τ : Type} :
    (selectJobs files config names : Program JobFailure τ (List (Job Number))) =
      .fail (.unknown (names.filter fun name => decide (name ∉ config.jobNames))) := by
  rw [selectJobs, selectSections_eq hjobs isJob]
  dsimp only
  rw [if_neg unknown]

theorem selectedJobs_error_of_known {files : Files} {e : JobFailure}
    (isJob : ∀ job ∈ jobs, IsJob job) (hjobs : config.options.field? "jobs" = some (.list jobs))
    (known : ∀ name ∈ names, name ∈ config.jobNames)
    (h : selectedJobs files config names = .error e) :
    ∃ (index : Nat) (job : Value), jobs[index]? = some job ∧ isAskedFor names job = true ∧
      Job.ofSection files config.baseDirectory (jobSection (job, index)) = .error e := by
  rw [selectedJobs_known hjobs isJob known] at h
  obtain ⟨⟨job, index⟩, hmem, h⟩ := error_of_mapM h
  obtain ⟨hmem, hasked⟩ := List.mem_filter.1 hmem
  exact ⟨index, job, List.mem_zipIdx_iff_getElem?.1 hmem, hasked, h⟩

theorem selectedJobs_of_known {files : Files} {all : List (Job Number)}
    (hjobs : config.options.field? "jobs" = some (.list jobs)) (isJob : ∀ job ∈ jobs, IsJob job)
    (known : ∀ name ∈ names, name ∈ config.jobNames)
    (h : selectedJobs files config [] = .ok all) :
    selectedJobs files config names =
      .ok (if names = [] then all else all.filter fun job => isOneOf names job.name) := by
  by_cases hnames : names = []
  · rw [if_pos hnames, hnames, h]
  rw [selectedJobs_known hjobs isJob (List.forall_mem_nil _)] at h
  have hall : (jobs.zipIdx.filter fun (job, _) => isAskedFor [] job) = jobs.zipIdx :=
    List.filter_eq_self.2 fun _ _ => rfl
  rw [hall] at h
  rw [if_neg hnames, selectedJobs_known hjobs isJob known]
  refine mapM_filter (fun indexed hmem job hjob => ?_) h
  rw [Job.name_of_ofSection (isJob _ (List.fst_mem_of_mem_zipIdx hmem)) hjob]
  have hempty : names.isEmpty = false := by simpa using hnames
  show isOneOf names ((indexed.1.field? "name").getD .null) = isAskedFor names indexed.1
  rw [isOneOf_eq_any, isAskedFor, hempty, Bool.false_or]

/-- A fault of usage is one of the names. -/
theorem selectJobs_usage_iff (hjobs : config.options.field? "jobs" = some (.list jobs))
    (isJob : ∀ job ∈ jobs, IsJob job) (files : Files) {τ : Type} :
    (∃ e, (selectJobs files config names : Program JobFailure τ (List (Job Number))).Yields
        (.error e) ∧ e.kind = .own .usage) ↔
      ∃ name ∈ names, name ∉ config.jobNames := by
  constructor
  · rintro ⟨e, he, hkind⟩
    by_contra hall
    have known : ∀ name ∈ names, name ∈ config.jobNames := by simpa using hall
    have he := (selectJobs_yields files config names).unique he
    obtain ⟨index, job, hjob, -, he⟩ := selectedJobs_error_of_known isJob hjobs known he
    exact Job.kind_of_ofSection_error (isJob job (List.mem_of_getElem? hjob)) he hkind
  · rintro ⟨name, hmem, hname⟩
    have hunknown : (names.filter fun name => decide (name ∉ config.jobNames)) ≠ [] :=
      List.ne_nil_of_mem (List.mem_filter.2 ⟨hmem, by simpa using hname⟩)
    refine ⟨.unknown (names.filter fun name => decide (name ∉ config.jobNames)), ?_, rfl⟩
    rw [selectJobs_unknown hjobs isJob hunknown]
    exact .done _

/-- Order and number of the names play no part. -/
theorem selectJobs_congr_names (hjobs : config.options.field? "jobs" = some (.list jobs))
    (isJob : ∀ job ∈ jobs, IsJob job) (known : ∀ name ∈ names, name ∈ config.jobNames)
    {names' : List String} (same : ∀ name, name ∈ names' ↔ name ∈ names) (files : Files)
    {τ : Type} :
    (selectJobs files config names' : Program JobFailure τ (List (Job Number))) =
      selectJobs files config names := by
  have known' : ∀ name ∈ names', name ∈ config.jobNames :=
    fun name mem => known name ((same name).1 mem)
  rw [selectJobs, selectJobs, selectSections_known hjobs isJob known',
    selectSections_known hjobs isJob known, isAskedFor_congr same]

/-- Only the files of the jobs that are asked for are read. -/
theorem selectJobs_congr_files (hjobs : config.options.field? "jobs" = some (.list jobs))
    (isJob : ∀ job ∈ jobs, IsJob job) (known : ∀ name ∈ names, name ∈ config.jobNames)
    {files files' : Files}
    (same : ∀ job ∈ jobs, isAskedFor names job = true →
      ∀ path ∈ Job.pathsIn config.baseDirectory job, files.readText path = files'.readText path)
    {τ : Type} :
    (selectJobs files config names : Program JobFailure τ (List (Job Number))) =
      selectJobs files' config names := by
  rw [selectJobs, selectJobs, selectSections_known hjobs isJob known]
  refine readJobs_congr fun options mem => ?_
  obtain ⟨⟨job, index⟩, hmem, rfl⟩ := List.mem_map.1 mem
  obtain ⟨hmem, hasked⟩ := List.mem_filter.1 hmem
  have hjob : job ∈ jobs := List.fst_mem_of_mem_zipIdx hmem
  exact Job.ofSection_congr (isJob job hjob) (same job hjob hasked)

end

/-- Names that no job has end a selection at once. Otherwise the jobs that are asked for are read
in the order of the configuration, each at its own position there, and they are those which have
one of the names among all jobs. Neither order and number of the names nor the other jobs have a
part in it. -/
theorem selectJobs_by_name {config : Config} (loaded : config.Loaded) (names : List String)
    {τ : Type} :
    let unknown := names.filter fun name => decide (name ∉ config.jobNames)
    let run files names : Program JobFailure τ (List (Job Number)) := selectJobs files config names
    (∀ files, (∃ e, (run files names).Yields (.error e) ∧ e.kind = .own .usage) ↔
      ∃ name ∈ names, name ∉ config.jobNames) ∧
    (unknown ≠ [] → ∃ e : JobFailure, e.kind = .own .usage ∧
      e.message = "Unknown job(s): " ++ ", ".intercalate unknown ++ "." ∧
      ∀ files, run files names = .fail e) ∧
    (unknown = [] →
      (∀ files, (run files names).Yields
        (((config.options.listAt "jobs").zipIdx.filter fun (job, _) => isAskedFor names job).mapM
          fun indexed => Job.ofSection files config.baseDirectory
            ⟨indexed.1, some ("jobs." ++ toString indexed.2)⟩)) ∧
      (∀ files jobs, (run files []).Yields (.ok jobs) →
        (run files names).Yields
          (.ok (if names = [] then jobs else jobs.filter fun job => isOneOf names job.name))) ∧
      (∀ names', (∀ name, name ∈ names' ↔ name ∈ names) →
        ∀ files, run files names' = run files names) ∧
      (∀ files files',
        (∀ job ∈ config.options.listAt "jobs", isAskedFor names job = true →
          ∀ path ∈ Job.pathsIn config.baseDirectory job,
            files.readText path = files'.readText path) →
        run files names = run files' names) ∧
      ∀ files e, (run files names).Yields (.error e) →
        ∃ (index : Nat) (job : Value), (config.options.listAt "jobs")[index]? = some job ∧
          isAskedFor names job = true ∧
          Job.ofSection files config.baseDirectory
            ⟨job, some ("jobs." ++ toString index)⟩ = .error e) := by
  obtain ⟨jobs, hjobs, isJob⟩ := loaded.jobs
  have hlist : config.options.listAt "jobs" = jobs :=
    Job.listAt_of_field? (dotted_optionName _ (by simp)) hjobs
  intro unknown run
  have hyields (files : Files) (names : List String) :
      (run files names).Yields (selectedJobs files config names) := selectJobs_yields ..
  refine ⟨fun files => selectJobs_usage_iff hjobs isJob files, fun hunknown => ?_,
    fun hnone => ?_⟩
  · exact ⟨.unknown unknown, rfl, rfl, fun files => selectJobs_unknown hjobs isJob hunknown files⟩
  have known : ∀ name ∈ names, name ∈ config.jobNames := by
    simpa [unknown, List.filter_eq_nil_iff] using hnone
  rw [hlist]
  refine ⟨fun files => ?_, fun files all hall => ?_, fun names' same files => ?_,
    fun files files' same => ?_, fun files e he => ?_⟩
  · exact selectedJobs_known hjobs isJob known files ▸ hyields files names
  · rw [← selectedJobs_of_known hjobs isJob known ((hyields files []).unique hall)]
    exact hyields files names
  · exact selectJobs_congr_names hjobs isJob known same files
  · exact selectJobs_congr_files hjobs isJob known same
  · exact selectedJobs_error_of_known isJob hjobs known ((hyields files names).unique he)

/-- Three jobs, two of the same name; the template of the other one cannot be read. -/
def sharedNameText : String :=
  "configurationVersion: '1'\njobs:\n"
    ++ "- name: a\n  objects:\n  - objectTemplate: t.yml\n"
    ++ "- name: b\n  objects:\n  - objectTemplate: missing.yml\n"
    ++ "- name: a\n  objects:\n  - objectTemplate: t.yml\n"

def sharedNameFiles : Files := Files.ofList "/work" [("/work/t.yml", .file [0x6f, 0x6b])]

/-- Whether a text is a configuration whose jobs have some names, and that many of them are
read under some of the names. -/
def readsUnder (files : Files) (text : String) (jobNames names : List String) (count : Nat) :
    Bool :=
  match Config.ofText files text with
  | .ok config =>
    match selectedJobs files config names with
    | .ok jobs => config.jobNames == jobNames && jobs.length == count
    | .error _ => false
  | .error _ => false

theorem exists_of_readsUnder {files : Files} {text : String} {jobNames names : List String}
    {count : Nat} (h : readsUnder files text jobNames names count = true) :
    ∃ config jobs, Config.ofText files text = .ok config ∧ config.jobNames = jobNames ∧
      selectedJobs files config names = .ok jobs ∧ jobs.length = count := by
  unfold readsUnder at h
  split at h
  · next config hconfig =>
      split at h
      · next jobs hjobs =>
          rw [Bool.and_eq_true, beq_iff_eq, beq_iff_eq] at h
          exact ⟨config, jobs, hconfig, h.1, hjobs, h.2⟩
      · cases h
  · cases h

theorem selectJobs_by_name_shared :
    ∃ config jobs, Config.ofText sharedNameFiles sharedNameText = .ok config ∧
      (selectJobs sharedNameFiles config ["a", "a"] :
        Program JobFailure Number (List (Job Number))).Yields (.ok jobs) ∧ jobs.length = 2 ∧
      ∃ e : JobFailure, e.kind = .own .usage ∧ e.message = "Unknown job(s): c, d, c." ∧
        ∀ files, (selectJobs files config ["c", "a", "d", "c"] :
          Program JobFailure Number (List (Job Number))) = .fail e := by
  obtain ⟨config, jobs, hconfig, hnames, hjobs, hcount⟩ := exists_of_readsUnder
    (by decide +kernel :
      readsUnder sharedNameFiles sharedNameText ["a", "b", "a"] ["a"] 2 = true)
  have loaded : config.Loaded := ⟨sharedNameFiles, .inl ⟨sharedNameText, hconfig⟩⟩
  obtain ⟨-, -, known⟩ := @selectJobs_by_name config loaded ["a"] Number
  obtain ⟨-, refused, -⟩ := @selectJobs_by_name config loaded ["c", "a", "d", "c"] Number
  rw [hnames] at known refused
  refine ⟨config, jobs, hconfig, ?_, hcount, refused (by decide)⟩
  have hsame : (selectJobs sharedNameFiles config ["a", "a"] :
      Program JobFailure Number (List (Job Number))) = selectJobs sharedNameFiles config ["a"] :=
    (known (by decide)).2.2.1 ["a", "a"] (by simp) sharedNameFiles
  rw [hsame]
  exact hjobs ▸ selectJobs_yields ..

end ImagePreload
