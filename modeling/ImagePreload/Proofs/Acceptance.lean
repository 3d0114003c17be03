import ImagePreload.CommandLine.Execution
import ImagePreload.Proofs.Orchestration

/-!
# What is refused before anything is asked

A command first takes in all that it needs: its configuration, every job that is
selected with all templates of it, and a client for the cluster. Until then a
program only takes notes, so what it comes to depends on nothing but what it was
given (`Program.Yields`). When any of that cannot be had, notes are all there is
(`Refused.launch_yields`), whatever else might be fine and however far behind the
part that is wrong may stand.

What a job needs is known from its section. That it was read means that every
file which the section names could be (`Job.readable_of_ofSection`), and not only
those that would have been looked at before something else went wrong.
-/

namespace ImagePreload

/-! ## Results in sequence -/

section

variable {ε ε' α β : Type}

theorem bind_eq_ok {x : Except ε α} {f : α → Except ε β} {b : β} :
    (x >>= f) = .ok b ↔ ∃ a, x = .ok a ∧ f a = .ok b := by
  constructor
  · intro h
    cases x with
    | error e => cases h
    | ok a => exact ⟨a, rfl, h⟩
  · rintro ⟨a, rfl, h⟩
    exact h

theorem bind_eq_error {x : Except ε α} {f : α → Except ε β} {e : ε} (h : (x >>= f) = .error e) :
    x = .error e ∨ ∃ a, x = .ok a ∧ f a = .error e := by
  cases x with
  | error e' => exact Or.inl (by cases h; rfl)
  | ok a => exact Or.inr ⟨a, rfl, h⟩

theorem mapError_eq_ok {x : Except ε α} {f : ε → ε'} {a : α} :
    x.mapError f = .ok a ↔ x = .ok a := by
  cases x with
  | error e => exact iff_of_false (nomatch ·) (nomatch ·)
  | ok a' => rw [Except.mapError, Except.ok.injEq, Except.ok.injEq]

theorem mapError_eq_error {x : Except ε α} {f : ε → ε'} {e : ε'} (h : x.mapError f = .error e) :
    ∃ cause, x = .error cause ∧ f cause = e := by
  cases x with
  | error cause =>
      cases h
      exact ⟨cause, rfl, rfl⟩
  | ok a => cases h

theorem exists_error_of_ne_ok {x : Except ε α} (h : ∀ a, x ≠ .ok a) : ∃ e, x = .error e := by
  cases x with
  | error e => exact ⟨e, rfl⟩
  | ok a => exact absurd rfl (h a)

theorem ok_of_mem_of_mapM {f : α → Except ε β} {xs : List α} {ys : List β}
    (h : xs.mapM f = .ok ys) {x : α} (hx : x ∈ xs) : ∃ y, f x = .ok y := by
  induction xs generalizing ys with
  | nil => cases hx
  | cons head rest ih =>
      rw [List.mapM_cons, bind_eq_ok] at h
      obtain ⟨y, hhead, hrest⟩ := h
      obtain ⟨ys, hrest, -⟩ := bind_eq_ok.1 hrest
      rcases List.mem_cons.1 hx with rfl | hx
      · exact ⟨y, hhead⟩
      · exact ih hrest hx

theorem mapM_congr {f g : α → Except ε β} {xs : List α} (h : ∀ x ∈ xs, f x = g x) :
    xs.mapM f = xs.mapM g := by
  induction xs with
  | nil => rfl
  | cons x xs ih =>
      obtain ⟨hx, hxs⟩ := List.forall_mem_cons.1 h
      rw [List.mapM_cons, List.mapM_cons, hx, ih hxs]

theorem bind_congr_ok {x : Except ε α} {f g : α → Except ε β} (h : ∀ a, x = .ok a → f a = g a) :
    x >>= f = x >>= g := by
  cases x with
  | error e => rfl
  | ok a => exact h a rfl

theorem mapM_eq_map {f : α → Except ε β} {g : α → β} {xs : List α}
    (h : ∀ x ∈ xs, f x = .ok (g x)) : xs.mapM f = .ok (xs.map g) := by
  induction xs with
  | nil => rfl
  | cons x xs ih =>
      obtain ⟨hx, hxs⟩ := List.forall_mem_cons.1 h
      rw [List.mapM_cons, hx, ih hxs]
      rfl

/-- What can be done for all elements can be done for some of them, with the same results. -/
theorem mapM_filter {f : α → Except ε β} {p : α → Bool} {q : β → Bool} {xs : List α} {ys : List β}
    (agree : ∀ x ∈ xs, ∀ y, f x = .ok y → q y = p x) (h : xs.mapM f = .ok ys) :
    (xs.filter p).mapM f = .ok (ys.filter q) := by
  induction xs generalizing ys with
  | nil =>
      cases h
      rfl
  | cons x xs ih =>
      obtain ⟨hx, hxs⟩ := List.forall_mem_cons.1 agree
      rw [List.mapM_cons] at h
      obtain ⟨y, hy, h⟩ := bind_eq_ok.1 h
      obtain ⟨rest, hrest, h⟩ := bind_eq_ok.1 h
      cases h
      have hq : q y = p x := hx y hy
      cases hp : p x with
      | true =>
          rw [List.filter_cons_of_pos hp, List.filter_cons_of_pos (hq.trans hp), List.mapM_cons, hy,
            ih hxs hrest]
          rfl
      | false =>
          rw [List.filter_cons_of_neg (by simp [hp]), List.filter_cons_of_neg (by simp [hq, hp])]
          exact ih hxs hrest

end

/-! ## What a job's section names -/

namespace Config.Section

theorem follow_eq_ok {fullName : String} {v w : Value} {keys : List String} :
    follow fullName v keys = .ok w ↔ v.at? keys = some w := by
  induction keys generalizing v with
  | nil =>
      rw [follow, Value.at?, Except.ok.injEq, Option.some.injEq]
  | cons key keys ih =>
      rw [Value.at?]
      cases v with
      | map entries =>
          rw [follow, Value.field?]
          cases Entries.get? (.text key) entries with
          | none => simp only [Option.bind_none, reduceCtorEq]
          | some inner => simp only [Option.bind_some, ih]
      | _ =>
          constructor
          · intro h
            cases h
          · intro h
            cases h

/-- An option that is there is what is found, and of a type that is wanted. -/
theorem get_eq_ok {options : Section} {name : String} {inquiry : Inquiry} {found : Section}
    {v : Value} (h : options.get name inquiry = .ok found)
    (hv : options.value.lookup? name = some v) :
    found.value = v ∧ ∀ wanted, inquiry.wanted = some wanted → wanted.holds v = true := by
  have hfollow : follow (options.nameOf name inquiry) options.value (dotted name) = .ok v :=
    follow_eq_ok.2 hv
  have hvalue : (ofFound (options.nameOf name inquiry) v).value = v := by
    cases v <;> rfl
  simp only [get, hfollow] at h
  split at h
  · next hnone =>
      cases h
      exact ⟨hvalue, fun wanted hwanted => nomatch hnone.symm.trans hwanted⟩
  · next wanted hsome =>
      split at h
      · next hholds =>
          cases h
          refine ⟨hvalue, fun wanted' hwanted => ?_⟩
          cases hsome.symm.trans hwanted
          exact hholds
      · cases h

end Config.Section

namespace Job

variable {files : Files} {baseDirectory : String} {options : Config.Section}

theorem option_eq_ok {name : String} {inquiry : Config.Inquiry} {found v : Value}
    (h : option options name inquiry = .ok found) (hv : options.value.lookup? name = some v) :
    found = v ∧ ∀ wanted, inquiry.wanted = some wanted → wanted.holds v = true := by
  obtain ⟨inner, hinner, hfound⟩ := bind_eq_ok.1 h
  cases hfound
  exact Config.Section.get_eq_ok (mapError_eq_ok.1 hinner) hv

theorem listOption_eq_ok {name : String} {items : List Value}
    (h : listOption options name = .ok items) {item : Value}
    (hitem : item ∈ options.value.listAt name) : item ∈ items := by
  obtain ⟨found, hfound, hitems⟩ := bind_eq_ok.1 h
  cases hitems
  unfold Value.listAt at hitem
  split at hitem
  · next hv =>
      rw [(option_eq_ok hfound hv).1]
      exact hitem
  · cases hitem

theorem readable_of_readObject {objectsName : String} {index : Nat} {object : Value}
    {o : ObjectDefinition} (h : readObject files baseDirectory objectsName index object = .ok o)
    {path : String} (hpath : object.field? "objectTemplate" = some (.text path)) :
    ∃ text, files.readText (Files.join baseDirectory path) = .ok text := by
  obtain ⟨template, htemplate, h⟩ := bind_eq_ok.1 h
  obtain ⟨source, hsource, -⟩ := bind_eq_ok.1 h
  have hlookup : object.lookup? "objectTemplate" = some (.text path) := by
    have hdotted : dotted "objectTemplate" = ["objectTemplate"] := by decide +kernel
    rw [Value.lookup?, hdotted, Value.at?, hpath]
    rfl
  have hpath' : template = .text path := (option_eq_ok htemplate hlookup).1
  subst hpath'
  exact ⟨source, mapError_eq_ok.1 hsource⟩

theorem readable_of_readFunction {path : String} {v : Value}
    (h : readFunction files baseDirectory (.text path) = .ok v) :
    ∃ text, files.readText (Files.join baseDirectory path) = .ok text := by
  obtain ⟨text, htext, -⟩ := bind_eq_ok.1 h
  exact ⟨text, mapError_eq_ok.1 htext⟩

/-- A job that was read has no template that cannot be read. -/
theorem readable_of_ofSection {job : Job Number}
    (h : ofSection files baseDirectory options = .ok job) {path : String}
    (hpath : path ∈ pathsIn baseDirectory options.value) :
    ∃ text, files.readText path = .ok text := by
  obtain ⟨name, -, h⟩ := bind_eq_ok.1 h
  obtain ⟨objects, hobjects, h⟩ := bind_eq_ok.1 h
  obtain ⟨definitions, hdefinitions, h⟩ := bind_eq_ok.1 h
  obtain ⟨texts, htexts, h⟩ := bind_eq_ok.1 h
  obtain ⟨functions, hfunctions, -⟩ := bind_eq_ok.1 h
  obtain ⟨v, hv, hpath⟩ := List.mem_filterMap.1 hpath
  split at hpath
  · next path' =>
      cases hpath
      rcases List.mem_append.1 hv with hv | hv
      · obtain ⟨object, hobject, htemplate⟩ := List.mem_filterMap.1 hv
        have hmem := listOption_eq_ok hobjects hobject
        rw [← List.zipIdx_map_fst 0 objects] at hmem
        obtain ⟨⟨object, index⟩, hindexed, rfl⟩ := List.mem_map.1 hmem
        obtain ⟨o, ho⟩ := ok_of_mem_of_mapM hdefinitions hindexed
        exact readable_of_readObject ho htemplate
      · obtain ⟨text, htext⟩ := ok_of_mem_of_mapM hfunctions (listOption_eq_ok htexts hv)
        exact readable_of_readFunction htext
  · cases hpath

/-- A job that was read has a settle period. -/
theorem period_of_ofSection {job : Job Number}
    (h : ofSection files baseDirectory options = .ok job) :
    ∃ period, durationOption options "preLoadPeriod" "1m" = .ok period := by
  simp only [ofSection, bind_eq_ok] at h
  obtain ⟨-, -, -, -, -, -, -, -, -, -, -, -, -, -, period, hperiod, -⟩ := h
  exact ⟨period, hperiod⟩

end Job

/-! ## What is taken in -/

variable {σ τ : Type}

/-- The jobs of given names, or all jobs, nothing said about them. -/
def selectedJobs (files : Files) (c : Config) (names : List String) :
    Except JobFailure (List (Job Number)) := do
  (← selectSections c names).mapM (Job.ofSection files c.baseDirectory)

theorem readJobs_yields (files : Files) (baseDirectory : String)
    (sections : List Config.Section) :
    (readJobs files baseDirectory sections : Program JobFailure τ (List (Job Number))).Yields
      (sections.mapM (Job.ofSection files baseDirectory)) := by
  induction sections with
  | nil => exact .done _
  | cons options rest ih =>
      rw [readJobs, List.mapM_cons]
      cases Job.ofSection files baseDirectory options with
      | error e => exact .done _
      | ok job =>
          exact .note (by decide) _ (ih.bind fun jobs => .done _)

theorem selectJobs_yields (files : Files) (c : Config) (names : List String) :
    (selectJobs files c names : Program JobFailure τ (List (Job Number))).Yields
      (selectedJobs files c names) := by
  rw [selectJobs, selectedJobs]
  cases selectSections c names with
  | error e => exact .done _
  | ok sections => exact readJobs_yields ..

namespace CommandLine

/-- The images of jobs, each with the name of its job, nothing said about them. -/
def listedImages (s : Surroundings) (jobs : List (Job τ)) :
    Except PreloadFailure (List (String × List String)) :=
  jobs.mapM fun job => do return (job.name.display, ← job.images s.renderer)

theorem imagesOfJobs_yields (s : Surroundings) (jobs : List (Job τ)) :
    (imagesOfJobs s jobs).Yields (listedImages s jobs) := by
  induction jobs with
  | nil => exact .done _
  | cons job jobs ih =>
      rw [imagesOfJobs, listedImages, List.mapM_cons, bind_assoc]
      exact (job.extractImages_yields s.renderer).bind fun images => ih.bind fun rest => .done _

/-- What loads images, nothing said about it. -/
def readyLoader (seconds : Number → τ) (library : ClientLibrary) (s : Surroundings)
    (options : Options) (config : Config) : Except CommandFailure (PreLoader τ) := do
  let kubeconfig ← kubeconfigOf options config
  let _ ← (library.client kubeconfig).mapError .client
  let timeout ← cleanupTimeout config
  return ⟨s.renderer, stagingName, (markerSweep (.float timeout)).onClock seconds⟩

theorem preLoader_yields (seconds : Number → τ) (library : ClientLibrary) (s : Surroundings)
    (options : Options) (config : Config) :
    (preLoader seconds library s options config).Yields
      (readyLoader seconds library s options config) := by
  rw [preLoader, readyLoader]
  refine .bind (.done _) fun kubeconfig => ?_
  have hrest : Program.Yields
      (Program.ofExcept ((library.client kubeconfig).mapError .client) >>=
        fun _ => Program.ofExcept (cleanupTimeout config) >>= fun timeout =>
          pure ⟨s.renderer, stagingName, (markerSweep (.float timeout)).onClock seconds⟩ :
        Program CommandFailure τ (PreLoader τ)) _ :=
    .bind (.done _) fun _ => .bind (.done _) fun timeout => .done _
  cases kubeconfig with
  | none => exact .bind_ok (.done (.ok ())) hrest
  | some name => exact .bind_ok (.note (by decide) _ (.done (.ok ()))) hrest

/-- The jobs that a command selects, by name. -/
def Command.jobNames? : Command → Option (List String)
  | .images names | .preload names => some names
  | .cleanup | .versionInfo => none

/-- Whether a command has anything to ask of a cluster. -/
def Command.reachesCluster : Command → Bool
  | .cleanup | .preload _ => true
  | .images _ | .versionInfo => false

theorem selectJobs_failed (s : Surroundings) (config : Config) {names : List String}
    {e : JobFailure} (h : selectedJobs s.files config names = .error e) :
    Program.Yields ((selectJobs s.files config names).mapFailure CommandFailure.job :
      Program CommandFailure τ (List (Job Number))) (.error (.job e)) := by
  have hselect : (selectJobs s.files config names : Program JobFailure τ
      (List (Job Number))).Yields (.error e) := h ▸ selectJobs_yields ..
  exact hselect.mapFailure CommandFailure.job

/-- How a program ends that has come to a result. -/
def Conclusion.of : Except CommandFailure String → Conclusion
  | .ok output => { code := successCode, output }
  | .error e => .ofFailure e

theorem conclude_yields {p : Program CommandFailure τ String} {r : Except CommandFailure String}
    (h : p.Yields r) : (conclude p).Yields (.ok (.of r)) :=
  h.andThen (match r with
    | .ok _ => .done _
    | .error _ => .done _)

section

variable [Clock τ] (seconds : Number → τ) (library : ClientLibrary) (s : Surroundings)
  (options : Options) (config : Config)

/-- A command goes no further than its jobs when they cannot be had. -/
theorem execute_unselected {command : Command} {names : List String}
    (selects : command.jobNames? = some names) {e : JobFailure}
    (h : selectedJobs s.files config names = .error e) :
    (execute seconds library s options config command).Yields (.error (.job e)) := by
  cases command with
  | images names' | preload names' =>
      cases selects
      exact (selectJobs_failed s config h).bind_error _
  | cleanup | versionInfo => cases selects

/-- A command that is about the cluster goes no further than to what would load
images when that cannot be had. -/
theorem execute_unreached {command : Command} (reaches : command.reachesCluster = true)
    {e : CommandFailure} (h : readyLoader seconds library s options config = .error e) :
    ∃ e', (execute seconds library s options config command).Yields (.error e') := by
  have hloader : (preLoader seconds library s options config).Yields (.error e) :=
    h ▸ preLoader_yields ..
  cases command with
  | preload names =>
      cases hjobs : selectedJobs s.files config names with
      | error e' => exact ⟨_, execute_unselected seconds library s options config rfl hjobs⟩
      | ok jobs =>
          have hselect : (selectJobs s.files config names : Program JobFailure τ
              (List (Job Number))).Yields (.ok jobs) := hjobs ▸ selectJobs_yields ..
          exact ⟨e, (hselect.mapFailure CommandFailure.job).bind_ok (hloader.bind_error _)⟩
  | cleanup => exact ⟨e, hloader.bind_error _⟩
  | images names | versionInfo => cases reaches

/-- A command that is not about the cluster only takes notes. -/
theorem execute_local {command : Command} (stays : command.reachesCluster = false) :
    ∃ r, (execute seconds library s options config command).Yields r := by
  cases command with
  | images names =>
      exact ⟨_, ((selectJobs_yields ..).mapFailure _).bind fun jobs =>
        ((imagesOfJobs_yields ..).mapFailure _).bind fun images => .done _⟩
  | versionInfo =>
      rw [execute]
      split
      · exact ⟨_, .done _⟩
      · exact ⟨_, .note (by decide) _ (.note (by decide) _ (.done _))⟩
  | cleanup | preload names => cases stays

/-- Whatever a command fails with before it asks for anything ends the program. -/
theorem launch_yields {command : Command}
    (h : ∀ config logging, loadConfig s options = .ok config →
      commandLogging s options config = .ok logging →
      ∃ e, (execute seconds library s options config command).Yields (.error e)) :
    ∃ e, (launch seconds library s options command).program.Yields (.ok (.ofFailure e)) := by
  rw [launch]
  cases hconfig : loadConfig s options with
  | error e => exact ⟨_, .done _⟩
  | ok config =>
      dsimp only
      cases hlogging : commandLogging s options config with
      | error e => exact ⟨_, .done _⟩
      | ok logging =>
          obtain ⟨e, he⟩ := h config logging hconfig hlogging
          exact ⟨e, conclude_yields (.note (by decide) _ he)⟩

theorem launch_local {command : Command} (stays : command.reachesCluster = false) :
    ∃ conclusion, (launch seconds library s options command).program.Yields (.ok conclusion) := by
  rw [launch]
  cases loadConfig s options with
  | error e => exact ⟨_, .done _⟩
  | ok config =>
      dsimp only
      cases commandLogging s options config with
      | error e => exact ⟨_, .done _⟩
      | ok logging =>
          obtain ⟨r, hr⟩ := execute_local seconds library s options config stays
          exact ⟨_, conclude_yields (.note (by decide) _ hr)⟩

end

/-- What keeps a command from being carried out. -/
inductive Refused (library : ClientLibrary) (s : Surroundings) (options : Options)
    (command : Command) : Prop where
  | config {e : ConfigFailure} (unloaded : loadConfig s options = .error e)
  | logging {config : Config} {e : CommandFailure} (loaded : loadConfig s options = .ok config)
    (unlogged : commandLogging s options config = .error e)
  | selection {config : Config} {names : List String} {e : JobFailure}
    (loaded : loadConfig s options = .ok config) (selects : command.jobNames? = some names)
    (unselected : selectSections config names = .error e)
  | template {config : Config} {names : List String} {sections : List Config.Section}
    {job : Config.Section} {path : String} {e : ReadError}
    (loaded : loadConfig s options = .ok config) (selects : command.jobNames? = some names)
    (selected : selectSections config names = .ok sections) (mem : job ∈ sections)
    (named : path ∈ Job.pathsIn config.baseDirectory job.value)
    (unread : s.files.readText path = .error e)
  | period {config : Config} {names : List String} {sections : List Config.Section}
    {job : Config.Section} {e : JobFailure}
    (loaded : loadConfig s options = .ok config) (selects : command.jobNames? = some names)
    (selected : selectSections config names = .ok sections) (mem : job ∈ sections)
    (untimed : Job.durationOption job "preLoadPeriod" "1m" = .error e)
  | job {config : Config} {names : List String} {sections : List Config.Section}
    {job : Config.Section} {e : JobFailure}
    (loaded : loadConfig s options = .ok config) (selects : command.jobNames? = some names)
    (selected : selectSections config names = .ok sections) (mem : job ∈ sections)
    (unbuilt : Job.ofSection s.files config.baseDirectory job = .error e)
  | kubeconfig {config : Config} {e : CommandFailure} (loaded : loadConfig s options = .ok config)
    (reaches : command.reachesCluster = true) (unnamed : kubeconfigOf options config = .error e)
  | client {config : Config} {kubeconfig : Option String} {e : ClientFailure}
    (loaded : loadConfig s options = .ok config) (reaches : command.reachesCluster = true)
    (named : kubeconfigOf options config = .ok kubeconfig)
    (unreached : library.client kubeconfig = .error e)
  | timeout {config : Config} {e : CommandFailure} (loaded : loadConfig s options = .ok config)
    (reaches : command.reachesCluster = true) (untimed : cleanupTimeout config = .error e)

theorem readyLoader_eq_ok {seconds : Number → τ} {library : ClientLibrary} {s : Surroundings}
    {options : Options} {config : Config} {loader : PreLoader τ}
    (h : readyLoader seconds library s options config = .ok loader) :
    ∃ kubeconfig address timeout, kubeconfigOf options config = .ok kubeconfig ∧
      library.client kubeconfig = .ok address ∧ cleanupTimeout config = .ok timeout ∧
      loader = ⟨s.renderer, stagingName, (markerSweep (.float timeout)).onClock seconds⟩ := by
  obtain ⟨kubeconfig, hkubeconfig, h⟩ := bind_eq_ok.1 h
  obtain ⟨address, haddress, h⟩ := bind_eq_ok.1 h
  obtain ⟨timeout, htimeout, h⟩ := bind_eq_ok.1 h
  cases h
  exact ⟨kubeconfig, address, timeout, hkubeconfig, mapError_eq_ok.1 haddress, htimeout, rfl⟩

/-- What is refused, is refused with notes only, wherever it goes wrong. -/
theorem Refused.launch_yields [Clock τ] (seconds : Number → τ) {library : ClientLibrary}
    {s : Surroundings} {options : Options} {command : Command}
    (h : Refused library s options command) :
    ∃ e, (launch seconds library s options command).program.Yields (.ok (.ofFailure e)) := by
  refine CommandLine.launch_yields seconds library s options ?_
  intro config logging hconfig hlogging
  have unselected {names : List String} (selects : command.jobNames? = some names)
      (hjobs : ∀ jobs, selectedJobs s.files config names ≠ .ok jobs) :
      ∃ e, (execute seconds library s options config command).Yields (.error e) := by
    obtain ⟨e, he⟩ := exists_error_of_ne_ok hjobs
    exact ⟨_, execute_unselected seconds library s options config selects he⟩
  have unread {names : List String} {sections : List Config.Section} {job : Config.Section}
      (selects : command.jobNames? = some names)
      (selected : selectSections config names = .ok sections) (mem : job ∈ sections)
      (hjob : ∀ read, Job.ofSection s.files config.baseDirectory job ≠ .ok read) :
      ∃ e, (execute seconds library s options config command).Yields (.error e) := by
    refine unselected selects fun jobs hjobs => ?_
    rw [selectedJobs, selected] at hjobs
    obtain ⟨read, hread⟩ := ok_of_mem_of_mapM hjobs mem
    exact hjob read hread
  have unreached (reaches : command.reachesCluster = true)
      (hloader : ∀ loader, readyLoader seconds library s options config ≠ .ok loader) :
      ∃ e, (execute seconds library s options config command).Yields (.error e) := by
    obtain ⟨e, he⟩ := exists_error_of_ne_ok hloader
    exact execute_unreached seconds library s options config reaches he
  cases h with
  | config unloaded => cases hconfig.symm.trans unloaded
  | logging loaded unlogged =>
      cases hconfig.symm.trans loaded
      cases hlogging.symm.trans unlogged
  | selection loaded selects hselect =>
      cases hconfig.symm.trans loaded
      refine unselected selects fun jobs hjobs => ?_
      rw [selectedJobs, hselect] at hjobs
      cases hjobs
  | template loaded selects selected mem named hread =>
      cases hconfig.symm.trans loaded
      refine unread selects selected mem fun read hjob => ?_
      obtain ⟨text, htext⟩ := Job.readable_of_ofSection hjob named
      cases hread.symm.trans htext
  | period loaded selects selected mem untimed =>
      cases hconfig.symm.trans loaded
      refine unread selects selected mem fun read hjob => ?_
      obtain ⟨period, hperiod⟩ := Job.period_of_ofSection hjob
      cases untimed.symm.trans hperiod
  | job loaded selects selected mem unbuilt =>
      cases hconfig.symm.trans loaded
      exact unread selects selected mem fun read hjob => nomatch unbuilt.symm.trans hjob
  | kubeconfig loaded reaches unnamed =>
      cases hconfig.symm.trans loaded
      refine unreached reaches fun loader hloader => ?_
      obtain ⟨_, _, _, hnamed, -⟩ := readyLoader_eq_ok hloader
      cases unnamed.symm.trans hnamed
  | client loaded reaches named hreach =>
      cases hconfig.symm.trans loaded
      refine unreached reaches fun loader hloader => ?_
      obtain ⟨_, _, _, hnamed, haccess, -⟩ := readyLoader_eq_ok hloader
      cases named.symm.trans hnamed
      cases hreach.symm.trans haccess
  | timeout loaded reaches untimed =>
      cases hconfig.symm.trans loaded
      refine unreached reaches fun loader hloader => ?_
      obtain ⟨_, _, _, -, -, htimeout, -⟩ := readyLoader_eq_ok hloader
      cases untimed.symm.trans htimeout

/-- No failure ends the program as a success does. -/
theorem endingOf_code_ne (kind : ErrorKind) : (endingOf kind).code ≠ successCode := by
  cases kind with
  | own kind => cases kind <;> decide
  | _ => exact of_decide_eq_true rfl

/-- Nothing is asked of a cluster, and nobody sleeps, before everything that a
command needs was accepted, whatever library makes the client. A command line that
asks for no such command is dealt with at once. A command that is refused ends with
the code of its failure, and one that is not about the cluster asks for nothing
however it ends. -/
theorem nothing_before_acceptance [Clock τ] (seconds : Number → τ) (library : ClientLibrary)
    (s : Surroundings) (arguments : List String) (answer : Answerer σ τ) (state : σ) (now : τ) :
    ((∀ options command, read arguments ≠ .ok (.run options command)) →
      ∃ conclusion, startOn seconds library s arguments = .inl conclusion) ∧
    ∀ options command, read arguments = .ok (.run options command) →
      ∃ launch, startOn seconds library s arguments = .inr launch ∧
        let c := launch.program.course answer state now
        (Refused library s options command → calls c.steps = [] ∧
          ∃ conclusion, c.outcome = some (.ok conclusion) ∧ conclusion.code ≠ successCode) ∧
        (command.reachesCluster = false → calls c.steps = [] ∧
          ∃ conclusion, c.outcome = some (.ok conclusion)) := by
  constructor
  · intro hread
    unfold startOn
    split
    · next options command hrun => exact absurd hrun (hread options command)
    all_goals exact ⟨_, rfl⟩
  · intro options command hread
    refine ⟨launch seconds library s options command, by rw [startOn, hread], ?_, ?_⟩
    · intro hrefused
      obtain ⟨e, he⟩ := hrefused.launch_yields seconds
      obtain ⟨notes, hcourse, hplain⟩ := he.course answer state now
      rw [hcourse]
      exact ⟨hplain.calls_eq, _, rfl, endingOf_code_ne e.kind⟩
    · intro stays
      obtain ⟨conclusion, hconclusion⟩ := launch_local seconds library s options stays
      obtain ⟨notes, hcourse, hplain⟩ := hconclusion.course answer state now
      rw [hcourse]
      exact ⟨hplain.calls_eq, _, rfl⟩

/-- Whether a selected job names a template that cannot be read. -/
def missesTemplate (s : Surroundings) (options : Options) (command : Command) : Bool :=
  match loadConfig s options, command.jobNames? with
  | .ok config, some names =>
    match selectSections config names with
    | .ok sections => sections.any fun job =>
      (Job.pathsIn config.baseDirectory job.value).any fun path =>
        (s.files.readText path).toOption.isNone
    | .error _ => false
  | _, _ => false

theorem Refused.of_missesTemplate (library : ClientLibrary) {s : Surroundings} {options : Options}
    {command : Command} (h : missesTemplate s options command = true) :
    Refused library s options command := by
  unfold missesTemplate at h
  split at h
  · next config names loaded selects =>
      split at h
      · next sections selected =>
          obtain ⟨job, mem, hjob⟩ := List.any_eq_true.1 h
          obtain ⟨path, named, hpath⟩ := List.any_eq_true.1 hjob
          cases hread : s.files.readText path with
          | error e => exact .template loaded selects selected mem named hread
          | ok text =>
              rw [hread] at hpath
              cases hpath
      · cases h
  · cases h

/-- The last of two jobs, which loads no images, names a template that is not there. -/
def unreadSurroundings : Surroundings where
  files := Files.ofList "/work" [("/work/jobs.yaml", .file
    ("configurationVersion: '1'\njobs:\n- name: first\n  objects: []\n- name: last\n  objects:\n"
      ++ "  - objectTemplate: missing.yml\n").toUTF8.toList)]
  environment := []
  entropy := ⟨1⟩

/-- Whether a command line asks for something that a template is missing for. -/
def asksForMissing (s : Surroundings) (arguments : List String) : Bool :=
  match read arguments with
  | .ok (.run options command) => missesTemplate s options command
  | _ => false

theorem nothing_before_acceptance_unread :
    ∃ options command launch, read ["-c", "jobs.yaml", "preload"] = .ok (.run options command) ∧
      Refused unreadSurroundings.library unreadSurroundings options command ∧
      start unreadSurroundings ["-c", "jobs.yaml", "preload"] = .inr launch ∧
      let c := launch.program.course Script.answer (Script.empty (.int 1)) (.int 0)
      calls c.steps = [] ∧
        ∃ conclusion, c.outcome = some (.ok conclusion) ∧ conclusion.code ≠ successCode := by
  have hmisses : asksForMissing unreadSurroundings ["-c", "jobs.yaml", "preload"] = true := by
    decide +kernel
  unfold asksForMissing at hmisses
  split at hmisses
  · next options command hread =>
      obtain ⟨launch, hlaunch, hnothing, -⟩ :=
        (nothing_before_acceptance id unreadSurroundings.library unreadSurroundings _ Script.answer
          (Script.empty (.int 1)) (.int 0)).2 options command hread
      have hrefused := Refused.of_missesTemplate unreadSurroundings.library hmisses
      exact ⟨options, command, launch, hread, hrefused, hlaunch, hnothing hrefused⟩
  · cases hmisses

end CommandLine

end ImagePreload
