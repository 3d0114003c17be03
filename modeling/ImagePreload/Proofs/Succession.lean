import ImagePreload.Proofs.Extraction

/-!
# Jobs one after the other

Preloading some jobs and then others is one program after another
(`PreLoader.preloadJobs_append`): the others begin where the first ended, with what
is left of the cluster and of the time, and only if the first ended well. That is all
there is to say about order, for it holds of every division of the jobs.

A single job that wants its images loaded is no more than the loading of them
(`PreLoader.preloadJobs_singleton`), and one that does not want it leaves a note and
nothing else. Apart from notes, a run is therefore that of the jobs which do want it
(`PreLoader.preloadJobs_unwanted`), and only their objects are ever rendered
(`PreLoader.preloadJobs_congr`). The first of them that fails ends the run
(`PreLoader.preloadJobs_failed`), and no run fails in another way
(`PreLoader.preloadJobs_error_iff`).
-/

namespace ImagePreload

variable {σ τ : Type}

/-! ## Programs in sequence -/

namespace Program

variable {ε ε' ε'' α β γ : Type}

theorem andThen_andThen (p : Program ε τ α) (f : Except ε α → Program ε' τ β)
    (g : Except ε' β → Program ε'' τ γ) :
    (p.andThen f).andThen g = p.andThen fun r => (f r).andThen g := by
  induction p with
  | done r => rfl
  | unfinished => rfl
  | note level message next ih => rw [andThen, andThen, andThen, ih]
  | ask request next ih =>
      rw [andThen, andThen, andThen]
      exact congrArg (ask request) (funext ih)
  | sleep duration next ih => rw [andThen, andThen, andThen, ih]
  | clock next ih =>
      rw [andThen, andThen, andThen]
      exact congrArg clock (funext ih)

theorem bind_bind (p : Program ε τ α) (f : α → Program ε τ β) (g : β → Program ε τ γ) :
    (p.bind f).bind g = p.bind fun a => (f a).bind g := by
  rw [Program.bind, Program.bind, andThen_andThen]
  refine congrArg p.andThen (funext fun r => ?_)
  cases r with
  | ok a => rfl
  | error e => rfl

theorem bind_succeed (p : Program ε τ α) : p.bind succeed = p := by
  rw [Program.bind]
  induction p with
  | done r => cases r <;> rfl
  | unfinished => rfl
  | note level message next ih => rw [andThen, ih]
  | ask request next ih =>
      rw [andThen]
      exact congrArg (ask request) (funext ih)
  | sleep duration next ih => rw [andThen, ih]
  | clock next ih =>
      rw [andThen]
      exact congrArg clock (funext ih)

theorem note_bind (level : Level) (message : String) (next : Program ε τ α)
    (f : α → Program ε τ β) : (note level message next).bind f = note level message (next.bind f) :=
  rfl

end Program

namespace Course

variable {ε α β : Type}

/-- A course without its notes. -/
def silent (c : Course ε τ α σ) : Course ε τ α σ := { c with steps := calls c.steps }

@[simp] theorem silent_precede (steps : List (Step σ τ)) (c : Course ε τ α σ) :
    (c.precede steps).silent = c.silent.precede (calls steps) := by
  rw [silent, precede, precede, silent, calls_append]

@[simp] theorem precede_nil (c : Course ε τ α σ) : c.precede [] = c := rfl

theorem silent_bind (c : Course ε τ α σ) (f : α → σ → τ → Course ε τ β σ) :
    (c.bind f).silent = c.silent.bind fun a s now => (f a s now).silent := by
  obtain ⟨steps, r, s, now⟩ := c
  match r with
  | none => rfl
  | some (.error e) => rw [bind_error, silent, silent, bind_error]
  | some (.ok a) => rw [bind_ok, silent_precede]; rfl

end Course

variable [Clock τ]

namespace PreLoader

/-- Jobs before others are one program before another. -/
theorem preloadJobs_append (p : PreLoader τ) (jobs others : List (Job τ)) :
    p.preloadJobs (jobs ++ others) = (p.preloadJobs jobs).bind fun _ => p.preloadJobs others := by
  induction jobs with
  | nil => rfl
  | cons job jobs ih =>
      rw [List.cons_append, preloadJobs, preloadJobs]
      split
      · simp only [ih, Program.bind_bind]
      · rw [ih, Program.note_bind]

/-- A single job that wants its images loaded is the loading of them. -/
theorem preloadJobs_singleton (p : PreLoader τ) {job : Job τ} (wanted : job.preloads = true) :
    p.preloadJobs [job] = p.preloadImages job := by
  rw [preloadJobs, if_pos wanted]
  exact Program.bind_succeed _

/-- Only the objects of jobs that want their images loaded are rendered. -/
theorem preloadJobs_congr (p : PreLoader τ) {render' : Renderer} {jobs : List (Job τ)}
    (alike : ∀ job ∈ jobs, job.preloads = true → ∀ o ∈ job.objects,
      render' o.source o.inputs job.functions = p.render o.source o.inputs job.functions) :
    { p with render := render' }.preloadJobs jobs = p.preloadJobs jobs := by
  induction jobs with
  | nil => rfl
  | cons job jobs ih =>
      obtain ⟨hjob, hjobs⟩ := List.forall_mem_cons.1 alike
      rw [preloadJobs, preloadJobs, ih hjobs]
      split
      · next wanted =>
          have himages : { p with render := render' }.preloadImages job = p.preloadImages job := by
            rw [preloadImages, preloadImages, Job.extractImages, Job.extractImages,
              extractFrom_congr (hjob wanted)]
            rfl
          rw [himages]
      · rfl

variable (p : PreLoader τ) (answer : Answerer σ τ)

/-- Apart from notes, a run is that of the jobs that want their images loaded. -/
theorem preloadJobs_unwanted (jobs : List (Job τ)) (s : σ) (now : τ) :
    ((p.preloadJobs jobs).course answer s now).silent =
      ((p.preloadJobs (jobs.filter (·.preloads))).course answer s now).silent := by
  induction jobs generalizing s now with
  | nil => rfl
  | cons job jobs ih =>
      cases hpreloads : job.preloads with
      | false =>
          rw [List.filter_cons_of_neg (by simp [hpreloads]), ← ih, preloadJobs, hpreloads,
            if_neg Bool.false_ne_true, Program.course, Course.silent_precede, calls_noted,
            calls_nil, Course.precede_nil]
      | true =>
          rw [List.filter_cons_of_pos hpreloads, preloadJobs, preloadJobs, hpreloads, if_pos rfl,
            if_pos rfl, Program.course_bind, Program.course_bind, Course.silent_bind,
            Course.silent_bind]
          simp only [ih]

/-- What others find that come after jobs which ended well. -/
theorem preloadJobs_append_course {jobs : List (Job τ)} {s : σ} {now : τ}
    (well : ((p.preloadJobs jobs).course answer s now).outcome = some (.ok ()))
    (others : List (Job τ)) :
    (p.preloadJobs (jobs ++ others)).course answer s now =
      ((p.preloadJobs others).course answer ((p.preloadJobs jobs).course answer s now).state
        ((p.preloadJobs jobs).course answer s now).now).precede
          ((p.preloadJobs jobs).course answer s now).steps := by
  rw [preloadJobs_append, Program.course_bind, Course.bind_of_ok well]

/-- Nothing comes after jobs that did not end well. -/
theorem preloadJobs_append_failed {jobs : List (Job τ)} {s : σ} {now : τ}
    (failed : ((p.preloadJobs jobs).course answer s now).outcome ≠ some (.ok ()))
    (others : List (Job τ)) :
    (p.preloadJobs (jobs ++ others)).course answer s now =
      (p.preloadJobs jobs).course answer s now := by
  rw [preloadJobs_append, Program.course_bind, Course.bind_of_ne_ok failed]

/-- Behind jobs that ended well, a job that fails ends the run, whatever comes later. -/
theorem preloadJobs_failed {earlier : List (Job τ)} {job : Job τ} {s : σ} {now : τ}
    (well : ((p.preloadJobs earlier).course answer s now).outcome = some (.ok ()))
    (wanted : job.preloads = true)
    (failed : ((p.preloadImages job).course answer
      ((p.preloadJobs earlier).course answer s now).state
      ((p.preloadJobs earlier).course answer s now).now).outcome ≠ some (.ok ()))
    (later : List (Job τ)) :
    (p.preloadJobs (earlier ++ job :: later)).course answer s now =
      ((p.preloadImages job).course answer ((p.preloadJobs earlier).course answer s now).state
        ((p.preloadJobs earlier).course answer s now).now).precede
          ((p.preloadJobs earlier).course answer s now).steps := by
  rw [p.preloadJobs_append_course answer well, preloadJobs_stop wanted failed later]

/-- A run fails exactly if there is a first job that fails, and then it ends with that job. -/
theorem preloadJobs_error_iff {jobs : List (Job τ)} {s : σ} {now : τ} {e : PreloadFailure} :
    ((p.preloadJobs jobs).course answer s now).outcome = some (.error e) ↔
      ∃ earlier job later, jobs = earlier ++ job :: later ∧ job.preloads = true ∧
        let before := (p.preloadJobs earlier).course answer s now
        let own := (p.preloadImages job).course answer before.state before.now
        before.outcome = some (.ok ()) ∧ own.outcome = some (.error e) ∧
          (p.preloadJobs jobs).course answer s now = own.precede before.steps := by
  constructor
  · intro h
    rcases p.loaded_or_stopped answer jobs s now with ⟨made, s', now', hall⟩ |
      ⟨earlier, job, later, made, s', now', rfl, hearlier, hwanted, hfailed⟩
    · rw [hall.all.2] at h
      cases h
    · -- The jobs before the one that failed, taken as a run of their own, end well.
      obtain ⟨steps, -, hbefore⟩ := hearlier.preloadJobs_append []
      rw [List.append_nil, preloadJobs, Program.course_succeed, Course.precede_mk] at hbefore
      have hwhole := p.preloadJobs_failed answer hearlier.all.2 hwanted
        (by rw [hbefore]; exact hfailed) later
      rw [hbefore] at hwhole
      refine ⟨earlier, job, later, rfl, hwanted, hearlier.all.2, ?_, ?_⟩
      · rw [hwhole] at h
        rwa [hbefore]
      · rw [hbefore, hwhole]
  · rintro ⟨earlier, job, later, rfl, -, -, hfailed, hwhole⟩
    rw [hwhole]
    exact hfailed

/-- Jobs in succession. No jobs are no steps, and a job that wants its images loaded is the
loading of them. Jobs and then others are taken as the jobs are, and then, if that ended
well, the others from where it ended. A job that does not want its images loaded leaves one
note; runs over lists that differ in such jobs differ in notes alone, and how their objects
would be rendered does not matter. The first job that fails ends the run with its failure,
and a run that fails has such a job. -/
theorem preloadJobs_in_succession (s : σ) (now : τ) :
    (p.preloadJobs []).course answer s now = ⟨[], some (.ok ()), s, now⟩ ∧
    (∀ job, job.preloads = true →
      (p.preloadJobs [job]).course answer s now = (p.preloadImages job).course answer s now) ∧
    (∀ jobs others,
      let first := (p.preloadJobs jobs).course answer s now
      let whole := (p.preloadJobs (jobs ++ others)).course answer s now
      (first.outcome = some (.ok ()) →
        whole =
          ((p.preloadJobs others).course answer first.state first.now).precede first.steps) ∧
        (first.outcome ≠ some (.ok ()) → whole = first)) ∧
    (∀ job, job.preloads = false →
      ∃ message, (p.preloadJobs [job]).course answer s now =
        ⟨[.noted .debug message], some (.ok ()), s, now⟩) ∧
    (∀ jobs others, jobs.filter Job.preloads = others.filter Job.preloads →
      ((p.preloadJobs jobs).course answer s now).silent =
        ((p.preloadJobs others).course answer s now).silent) ∧
    (∀ jobs (render' : Renderer),
      (∀ job ∈ jobs, job.preloads = true → ∀ o ∈ job.objects,
        render' o.source o.inputs job.functions = p.render o.source o.inputs job.functions) →
      { p with render := render' }.preloadJobs jobs = p.preloadJobs jobs) ∧
    (∀ earlier job later e,
      let before := (p.preloadJobs earlier).course answer s now
      let own := (p.preloadImages job).course answer before.state before.now
      let whole := (p.preloadJobs (earlier ++ job :: later)).course answer s now
      before.outcome = some (.ok ()) → job.preloads = true → own.outcome = some (.error e) →
        whole = own.precede before.steps ∧ whole.outcome = some (.error e)) ∧
    ∀ jobs e, ((p.preloadJobs jobs).course answer s now).outcome = some (.error e) ↔
      ∃ earlier job later, jobs = earlier ++ job :: later ∧ job.preloads = true ∧
        let before := (p.preloadJobs earlier).course answer s now
        let own := (p.preloadImages job).course answer before.state before.now
        before.outcome = some (.ok ()) ∧ own.outcome = some (.error e) ∧
          (p.preloadJobs jobs).course answer s now = own.precede before.steps := by
  refine ⟨rfl, ?_, fun jobs others => ⟨?_, ?_⟩, ?_, ?_, ?_, ?_, ?_⟩
  · intro job wanted
    rw [p.preloadJobs_singleton wanted]
  · intro well
    exact p.preloadJobs_append_course answer well others
  · intro failed
    exact p.preloadJobs_append_failed answer failed others
  · intro job unwanted
    rw [preloadJobs, unwanted, if_neg Bool.false_ne_true]
    exact ⟨_, rfl⟩
  · intro jobs others alike
    rw [p.preloadJobs_unwanted answer jobs, p.preloadJobs_unwanted answer others]
    exact congrArg (fun wanted => ((p.preloadJobs wanted).course answer s now).silent) alike
  · intro jobs render' alike
    exact p.preloadJobs_congr alike
  · intro earlier job later e before own whole well wanted failed
    have hfailed : own.outcome ≠ some (.ok ()) := by
      rw [failed]
      simp
    have hwhole : whole = own.precede before.steps :=
      p.preloadJobs_failed answer well wanted hfailed later
    rw [hwhole]
    exact ⟨rfl, failed⟩
  · intro jobs e
    exact p.preloadJobs_error_iff answer

end PreLoader

/-- A job with an image that is not to be loaded. -/
def idleJob : Job ℚ := { podJob with preloads := false }

/-- The second workload is not allowed. -/
def refusingScript : Script ℚ :=
  { Script.empty 1 with createWorkload := [none, some ⟨.httpStatus, some 403, "forbidden"⟩] }

theorem preloadJobs_in_succession_idle :
    let first := (podLoader.preloadJobs [podJob, idleJob]).course Script.answer refusingScript 0
    let rest := (podLoader.preloadJobs [podJob, podJob]).course Script.answer first.state first.now
    let own := (podLoader.preloadImages podJob).course Script.answer first.state first.now
    let whole := (podLoader.preloadJobs [podJob, idleJob, podJob, podJob]).course Script.answer
      refusingScript 0
    first.outcome = some (.ok ()) ∧ rest.outcome.map Except.toOption = some none ∧
      whole = rest.precede first.steps ∧
      [podJob, idleJob].filter Job.preloads = [podJob].filter Job.preloads ∧
      first.silent =
        ((podLoader.preloadJobs [podJob]).course Script.answer refusingScript 0).silent ∧
      (podLoader.preloadJobs [podJob]).course Script.answer refusingScript 0 =
        (podLoader.preloadImages podJob).course Script.answer refusingScript 0 ∧
      (∃ e, own.outcome = some (.error e) ∧ whole = own.precede first.steps ∧
        whole.outcome = some (.error e)) ∧
      (∃ message, (podLoader.preloadJobs [idleJob]).course Script.answer refusingScript 0 =
        ⟨[.noted .debug message], some (.ok ()), refusingScript, 0⟩) ∧
      { podLoader with render := fun _ _ _ => .ok "" }.preloadJobs [idleJob] =
        podLoader.preloadJobs [idleJob] := by
  intro first rest own whole
  have hall := podLoader.preloadJobs_in_succession Script.answer refusingScript 0
  have well : first.outcome = some (.ok ()) := eq_ok_of_toOption (by decide +kernel)
  obtain ⟨-, hwanted, happend, hunwanted, hsilent, hrender, hfirst, -⟩ := hall
  have unwanted : ∀ job ∈ [idleJob], ¬ job.preloads = true := by decide
  obtain ⟨e, failed⟩ : ∃ e, own.outcome = some (.error e) :=
    exists_error_of_toOption (by decide +kernel)
  exact ⟨well, by decide +kernel, (happend [podJob, idleJob] [podJob, podJob]).1 well, rfl,
    hsilent _ _ rfl, hwanted podJob rfl,
    ⟨e, failed, hfirst [podJob, idleJob] podJob [podJob] e well rfl failed⟩, hunwanted idleJob rfl,
    hrender [idleJob] _ fun job hjob wanted => absurd wanted (unwanted job hjob)⟩

end ImagePreload
