import ImagePreload.Preload
import ImagePreload.Proofs.Sweep

/-!
# What preloading the images of a job does

The images are found without asking for anything (`Job.extractImages_yields`). From
there on a job goes one of four ways (`PreLoader.preloadImages_went`): its images
cannot be found, there are none, the namespace is refused, or it is created and
filled. Filling it is described by itself. When the workload is created, the job
sleeps and sweeps (`fill_loaded`). When it is refused, a sweep follows if that was
an answer of the cluster (`fill_failed`), and nothing at all if it was not: that
is the one way to leave a namespace behind (`fill_sweeps_iff`).
-/

namespace ImagePreload

variable {σ τ : Type}

theorem eq_ok_of_toOption {ε α : Type} {o : Option (Except ε α)} {a : α}
    (h : o.map Except.toOption = some (some a)) : o = some (.ok a) := by
  match o with
  | none => cases h
  | some (.error e) => cases h
  | some (.ok a') => cases h; rfl

theorem exists_error_of_toOption {ε α : Type} {o : Option (Except ε α)}
    (h : o.map Except.toOption = some none) : ∃ e, o = some (.error e) := by
  match o with
  | none => cases h
  | some (.error e) => exact ⟨e, rfl⟩
  | some (.ok a) => cases h

/-- Steps that are some calls, and notes of which none is of an error. -/
structure Plain (steps made : List (Step σ τ)) : Prop where
  calls_eq : calls steps = made
  no_error : ∀ message, .noted .error message ∉ steps

namespace Plain

variable {steps more made others : List (Step σ τ)}

theorem nil : Plain ([] : List (Step σ τ)) [] := ⟨rfl, fun _ => List.not_mem_nil⟩

theorem append (h : Plain steps made) (h' : Plain more others) :
    Plain (steps ++ more) (made ++ others) := by
  constructor
  · rw [calls_append, h.calls_eq, h'.calls_eq]
  · intro message hmem
    rcases List.mem_append.1 hmem with hmem | hmem
    · exact h.no_error message hmem
    · exact h'.no_error message hmem

theorem note {level : Level} (hlevel : level ≠ .error) (message : String) :
    Plain [(.noted level message : Step σ τ)] [] := by
  refine ⟨rfl, fun other hmem => ?_⟩
  rw [List.mem_singleton] at hmem
  injection hmem with hlevel'
  exact hlevel hlevel'.symm

theorem call {step : Step σ τ} (h : step.isCall = true) : Plain [step] [step] := by
  refine ⟨List.filter_cons_of_pos h, fun message hmem => ?_⟩
  rw [List.mem_singleton] at hmem
  rw [← hmem] at h
  cases h

theorem answered (h : Plain steps made) (hsteps : ∀ step ∈ steps, step.Answered) :
    ∀ step ∈ made, step.Answered :=
  fun step hmem => hsteps step (mem_of_mem_calls (h.calls_eq ▸ hmem))

theorem calls_precede {ε α : Type} {step : Step σ τ} (h : Plain steps [step])
    (c : Course ε τ α σ) : calls (c.precede steps).steps = step :: calls c.steps := by
  rw [Course.precede_steps, calls_append, h.calls_eq]
  rfl

/-- A note and a call after it. -/
theorem noted_call {level : Level} (hlevel : level ≠ .error) (message : String)
    {step : Step σ τ} (h : step.isCall = true) : Plain [.noted level message, step] [step] :=
  (note hlevel message).append (call h)

end Plain

/-- What a quiet sweep notes at its end. -/
def complaint {α : Type} : Option (Except PreloadFailure α) → List (Step σ τ)
  | some (.error e) => [.noted .error e.message]
  | _ => []

/-- A course that makes some calls, then is a whole sweep up to some last notes,
and makes its outcome from that of the sweep. The sweep fails in no other way
than by being unable to clean up. -/
structure EndsInSweep (made : List (Step σ τ))
    (sweep : Course PreloadFailure τ (List String) σ) (coda : List (Step σ τ))
    (finish : Except PreloadFailure (List String) → Except PreloadFailure Unit)
    (c : Course PreloadFailure τ Unit σ) : Prop where
  steps : ∃ before, Plain before made ∧ c.steps = before ++ (sweep.steps ++ coda)
  outcome : c.outcome = sweep.outcome.map finish
  kind : ∀ e, sweep.outcome = some (.error e) → e.kind = .own .cleanup

theorem EndsInSweep.precede {steps more made coda : List (Step σ τ)}
    {sweep : Course PreloadFailure τ (List String) σ}
    {finish : Except PreloadFailure (List String) → Except PreloadFailure Unit}
    {c : Course PreloadFailure τ Unit σ} (h : EndsInSweep made sweep coda finish c)
    (hplain : Plain steps more) :
    EndsInSweep (more ++ made) sweep coda finish (c.precede steps) := by
  obtain ⟨before, hbefore, hsteps⟩ := h.steps
  refine ⟨⟨steps ++ before, hplain.append hbefore, ?_⟩, h.outcome, h.kind⟩
  rw [Course.precede_steps, hsteps, List.append_assoc]

theorem EndsInSweep.ends {made coda : List (Step σ τ)}
    {sweep : Course PreloadFailure τ (List String) σ}
    {finish : Except PreloadFailure (List String) → Except PreloadFailure Unit}
    {c : Course PreloadFailure τ Unit σ} (h : EndsInSweep made sweep coda finish c)
    (hsweep : sweep.outcome ≠ none) : c.outcome ≠ none := by
  rw [h.outcome]
  exact fun hnone => hsweep (Option.map_eq_none_iff.1 hnone)

/-- A program that takes some notes, none of an error, and has a result. -/
inductive Program.Yields {ε α : Type} : Program ε τ α → Except ε α → Prop where
  | done (r : Except ε α) : Yields (.done r) r
  | note {level : Level} {next : Program ε τ α} {r : Except ε α} (harmless : level ≠ .error)
    (message : String) (h : Yields next r) : Yields (.note level message next) r

namespace Program.Yields

variable {ε ε' α β : Type} {p : Program ε τ α} {r : Except ε α}

theorem andThen (h : p.Yields r) {f : Except ε α → Program ε' τ β} {r' : Except ε' β}
    (h' : (f r).Yields r') : (p.andThen f).Yields r' := by
  induction h with
  | done r => exact h'
  | note harmless message _ ih => exact .note harmless message (ih h')

theorem bind (h : p.Yields r) {f : α → Program ε τ β} {g : α → Except ε β}
    (h' : ∀ a, (f a).Yields (g a)) : (p.bind f).Yields (r >>= g) :=
  h.andThen (match r with
    | .ok a => h' a
    | .error e => .done (.error e))

theorem bind_ok {a : α} (h : p.Yields (.ok a)) {f : α → Program ε τ β} {r' : Except ε β}
    (h' : (f a).Yields r') : (p.bind f).Yields r' :=
  h.andThen h'

theorem bind_error {e : ε} (h : p.Yields (.error e)) (f : α → Program ε τ β) :
    (p.bind f).Yields (.error e) :=
  h.andThen (.done _)

theorem mapFailure (h : p.Yields r) (f : ε → ε') : (p.mapFailure f).Yields (r.mapError f) :=
  h.andThen (.done _)

theorem unique {r' : Except ε α} (h : p.Yields r) (h' : p.Yields r') : r = r' := by
  induction h with
  | done r =>
      cases h'
      rfl
  | note _ _ _ ih =>
      cases h' with
      | note _ _ h' => exact ih h'

theorem course (h : p.Yields r) [Clock τ] (answer : Answerer σ τ) (s : σ) (now : τ) :
    ∃ notes, p.course answer s now = ⟨notes, some r, s, now⟩ ∧ Plain notes [] := by
  induction h with
  | done r => exact ⟨[], rfl, .nil⟩
  | note harmless message _ ih =>
      obtain ⟨notes, hnext, hplain⟩ := ih
      rw [Program.course, hnext, Course.precede_mk]
      exact ⟨_, rfl, (Plain.note harmless message).append hplain⟩

theorem course_bind {a : α} (h : p.Yields (.ok a)) (f : α → Program ε τ β) [Clock τ]
    (answer : Answerer σ τ) (s : σ) (now : τ) :
    ∃ notes, Plain notes [] ∧
      (p.bind f).course answer s now = ((f a).course answer s now).precede notes := by
  obtain ⟨notes, hcourse, hplain⟩ := h.course answer s now
  refine ⟨notes, hplain, ?_⟩
  rw [Program.course_bind, hcourse, Course.bind_ok]

end Program.Yields

/-- The images of objects in order, nothing said about them. -/
def imagesFrom (render : Renderer) (functions : Value) :
    List ObjectDefinition → Except PreloadFailure (List String)
  | [] => .ok []
  | o :: rest => do
    match ← o.images? render functions with
    | none => imagesFrom render functions rest
    | some (_, images) => return images ++ (← imagesFrom render functions rest)

/-- The images of a job, nothing said about them. -/
def Job.images (render : Renderer) (job : Job τ) : Except PreloadFailure (List String) :=
  imagesFrom render job.functions job.objects

theorem extractFrom_yields (render : Renderer) (functions : Value)
    (objects : List ObjectDefinition) :
    (extractFrom render functions objects : Program PreloadFailure τ (List String)).Yields
      (imagesFrom render functions objects) := by
  induction objects with
  | nil => exact .done _
  | cons o rest ih =>
      rw [extractFrom, imagesFrom]
      cases o.images? render functions with
      | error e => exact .done _
      | ok found =>
          cases found with
          | none => exact .note (by decide) _ ih
          | some found => exact .note (by decide) _ (ih.bind fun more => .done _)

theorem Job.extractImages_yields (render : Renderer) (job : Job τ) :
    (job.extractImages render).Yields (job.images render) :=
  extractFrom_yields render job.functions job.objects

variable [Clock τ]

namespace PreLoader

/-- The request for the staging namespace of a job. -/
def creation (p : PreLoader τ) (job : Job τ) : Request :=
  .createNamespace (stagingManifest (.text p.staging) job.labels job.annotations)

/-- The request for the workload that loads some images. -/
def loading (p : PreLoader τ) (job : Job τ) (images : List String) : Request :=
  .createWorkload (workloadManifest (images.map .text) job.nodeLabels (some (.text p.staging)))

/-- What becomes of a job once its workload was refused. -/
def setback (p : PreLoader τ) (e : PreloadFailure) : Program PreloadFailure τ Unit :=
  if e.kind == .own .workloadCreate then p.cleanupQuietly.bind fun _ => .fail e else .fail e

theorem createStaging_course (p : PreLoader τ) (job : Job τ) (answer : Answerer σ τ) (s : σ)
    (now : τ) :
    ∃ steps, Plain steps [.asked s now (p.creation job) (answer.reply (p.creation job) s)] ∧
      (createStaging p.staging job.labels job.annotations).course answer s now =
        ⟨steps, some (match answer.reply (p.creation job) s with
          | .ok _ => .ok ()
          | .error f => .error (f.as (.namespaceCreate p.staging))),
          answer.after (p.creation job) s, answer.done (p.creation job) s now⟩ := by
  rw [createStaging, Program.course, Program.course, Course.precede_precede, creation]
  cases answer.reply (.createNamespace _) s with
  | ok names => exact ⟨_, .noted_call (by decide) _ rfl, rfl⟩
  | error f => exact ⟨_, .noted_call (by decide) _ rfl, rfl⟩

theorem createWorkload_course (p : PreLoader τ) (job : Job τ) (images : List String)
    (answer : Answerer σ τ) (s : σ) (now : τ) :
    (p.createWorkload images job.nodeLabels).course answer s now =
      ⟨[.asked s now (p.loading job images) (answer.reply (p.loading job images) s)],
        some (match answer.reply (p.loading job images) s with
          | .ok _ => .ok ()
          | .error f => .error (f.as (.workloadCreate p.staging))),
        answer.after (p.loading job images) s, answer.done (p.loading job images) s now⟩ := by
  rw [createWorkload, Program.course, loading]
  cases answer.reply (.createWorkload _) s with
  | ok names => rfl
  | error f => rfl

theorem startWorkload_course (p : PreLoader τ) (job : Job τ) (images : List String)
    (answer : Answerer σ τ) (s : σ) (now : τ) :
    ∃ steps, Plain steps
        [.asked s now (p.loading job images) (answer.reply (p.loading job images) s)] ∧
      (p.startWorkload images job.nodeLabels).course answer s now =
        Course.precede steps
          (Program.course answer
            (match answer.reply (p.loading job images) s with
              | .ok _ => .succeed ()
              | .error f => p.setback (f.as (.workloadCreate p.staging)))
            (answer.after (p.loading job images) s)
            (answer.done (p.loading job images) s now)) := by
  rw [startWorkload, Program.course, Program.course_andThen, p.createWorkload_course job]
  cases answer.reply (p.loading job images) s with
  | ok names => exact ⟨_, .noted_call (by decide) _ rfl, rfl⟩
  | error f => exact ⟨_, .noted_call (by decide) _ rfl, rfl⟩

/-- What follows upon the creation of the workload does not follow upon a setback. -/
theorem setback_bind (p : PreLoader τ) (e : PreloadFailure) (answer : Answerer σ τ) (s : σ)
    (now : τ) (f : Unit → σ → τ → Course PreloadFailure τ Unit σ) :
    ((p.setback e).course answer s now).bind f = (p.setback e).course answer s now := by
  unfold setback
  split
  · rw [Program.course_bind]
    generalize p.cleanupQuietly.course answer s now = c
    obtain ⟨steps, r, s, now⟩ := c
    match r with
    | none => rfl
    | some (.error e) => simp only [Course.bind_error]
    | some (.ok ()) => exact Course.bind_error ..
  · exact Course.bind_error ..

theorem setback_ne_ok (p : PreLoader τ) (e : PreloadFailure) (answer : Answerer σ τ) (s : σ)
    (now : τ) : ((p.setback e).course answer s now).outcome ≠ some (.ok ()) := by
  intro hok
  have hbind := p.setback_bind e answer s now fun _ s now => ⟨[], none, s, now⟩
  rw [Course.bind_of_ok hok] at hbind
  have houtcome := congrArg Course.outcome hbind
  rw [hok] at houtcome
  cases houtcome

/-- What is left to do for a job once its namespace exists. -/
def fill (p : PreLoader τ) (job : Job τ) (images : List String) :
    Program PreloadFailure τ Unit :=
  (p.startWorkload images job.nodeLabels).bind fun _ =>
    .note .info ("Pre-load: Sleeping for " ++ Clock.text job.settlePeriod ++ "s")
      (.sleep job.settlePeriod (p.cleanup.bind fun _ => .succeed ()))

theorem fill_failed (p : PreLoader τ) (job : Job τ) (images : List String)
    {answer : Answerer σ τ} {s : σ} {f : ClusterFailure}
    (h : answer.reply (p.loading job images) s = .error f) (now : τ) :
    ∃ steps, Plain steps [.asked s now (p.loading job images) (.error f)] ∧
      (p.fill job images).course answer s now =
        ((p.setback (f.as (.workloadCreate p.staging))).course answer
          (answer.after (p.loading job images) s)
          (answer.done (p.loading job images) s now)).precede steps := by
  obtain ⟨steps, hplain, hcourse⟩ := p.startWorkload_course job images answer s now
  rw [h] at hplain hcourse
  refine ⟨steps, hplain, ?_⟩
  rw [fill, Program.course_bind, hcourse, Course.precede_bind, setback_bind]

theorem fill_loaded (p : PreLoader τ) (job : Job τ) (images : List String)
    {answer : Answerer σ τ} {s : σ} {names : List String}
    (h : answer.reply (p.loading job images) s = .ok names) (now : τ) :
    ∃ steps, Plain steps
        [.asked s now (p.loading job images) (.ok names),
          .slept (answer.done (p.loading job images) s now) job.settlePeriod] ∧
      (p.fill job images).course answer s now =
        ((p.cleanup.bind fun _ => .succeed ()).course answer
          (answer.after (p.loading job images) s)
          (Clock.after (answer.done (p.loading job images) s now) job.settlePeriod)).precede
            steps := by
  obtain ⟨steps, hplain, hcourse⟩ := p.startWorkload_course job images answer s now
  rw [h] at hplain hcourse
  rw [fill, Program.course_bind, hcourse, Course.precede_bind]
  simp only [Program.succeed, Program.course, Course.bind_ok, Course.precede_precede]
  exact ⟨_, hplain.append (.noted_call (by decide) _ rfl), rfl⟩

/-- The ways a job can go: nothing can be found or is found, its namespace is
refused, or is created and filled. -/
inductive Went (p : PreLoader τ) (job : Job τ) (answer : Answerer σ τ) (s : σ) (now : τ)
    (c : Course PreloadFailure τ Unit σ) : Prop where
  | unread {e : PreloadFailure} {steps : List (Step σ τ)}
    (extracted : ((job.extractImages p.render).course answer s now).outcome = some (.error e))
    (plain : Plain steps []) (course : c = ⟨steps, some (.error e), s, now⟩)
  | nothing {steps : List (Step σ τ)}
    (extracted : ((job.extractImages p.render).course answer s now).outcome = some (.ok []))
    (plain : Plain steps []) (course : c = ⟨steps, some (.ok ()), s, now⟩)
  | refused {images : List String} {f : ClusterFailure} {steps : List (Step σ τ)}
    (extracted : ((job.extractImages p.render).course answer s now).outcome = some (.ok images))
    (foundSome : images ≠ []) (answered : answer.reply (p.creation job) s = .error f)
    (plain : Plain steps [.asked s now (p.creation job) (.error f)])
    (course : c = ⟨steps, some (.error (f.as (.namespaceCreate p.staging))),
      answer.after (p.creation job) s, answer.done (p.creation job) s now⟩)
  | created {images names : List String} {steps : List (Step σ τ)}
    (extracted : ((job.extractImages p.render).course answer s now).outcome = some (.ok images))
    (foundSome : images ≠ []) (answered : answer.reply (p.creation job) s = .ok names)
    (plain : Plain steps [.asked s now (p.creation job) (.ok names)])
    (course : c = ((p.fill job images).course answer (answer.after (p.creation job) s)
      (answer.done (p.creation job) s now)).precede steps)

theorem preloadImages_went (p : PreLoader τ) (job : Job τ) (answer : Answerer σ τ) (s : σ)
    (now : τ) : p.Went job answer s now ((p.preloadImages job).course answer s now) := by
  obtain ⟨notes, hextract, hnotes⟩ := (job.extractImages_yields p.render).course answer s now
  have hextracted := congrArg Course.outcome hextract
  have hstart {steps made : List (Step σ τ)} (h : Plain steps made) :
      Plain (.noted .info ("Pre-load: images from job " ++ job.name.display) :: notes ++ steps)
        made :=
    ((Plain.note (by decide) _).append hnotes).append h
  rw [preloadImages, Program.course, Program.course_bind, hextract]
  generalize job.images p.render = r at hextracted
  cases r with
  | error e =>
      rw [Course.bind_error, Course.precede_mk]
      exact .unread hextracted ((Plain.note (by decide) _).append hnotes) rfl
  | ok images =>
      rw [Course.bind_ok, Course.precede_precede]
      by_cases himages : images = []
      · subst himages
        exact .nothing hextracted (hstart (.note (by decide) _)) rfl
      · obtain ⟨opening, hopening, hcreate⟩ := p.createStaging_course job answer s now
        rw [if_neg (by simpa using himages), Program.course_bind, hcreate]
        cases hcreated : answer.reply (p.creation job) s with
        | error f =>
            rw [hcreated] at hopening
            rw [Course.bind_error, Course.precede_mk]
            exact .refused hextracted himages hcreated (hstart hopening) rfl
        | ok names =>
            rw [hcreated] at hopening
            rw [Course.bind_ok, Course.precede_precede]
            -- what is left of the program is `fill`
            exact .created hextracted himages hcreated (hstart hopening) rfl

/-! ## Jobs whose failing requests are answers

A sweep then fails only with a failure to clean up, which is what a setback takes
note of and passes over. Without that assumption a sweep within a setback could
raise anything, and the failure of the workload would be lost behind it. -/

/-- A setback sweeps, then notes a failure of that and fails itself. -/
theorem setback_answered (p : PreLoader τ) {f : ClusterFailure} (hf : f.isAnswer = true)
    {answer : Answerer σ τ} {s : σ} {now : τ}
    (answered : ∀ step ∈ ((p.setback (f.as (.workloadCreate p.staging))).course answer s
      now).steps, step.Answered) :
    EndsInSweep [] (p.cleanup.course answer s now)
      (complaint (p.cleanup.course answer s now).outcome)
      (fun _ => .error (.workloadCreate p.staging f))
      ((p.setback (f.as (.workloadCreate p.staging))).course answer s now) := by
  rw [ClusterFailure.as_of_isAnswer hf, setback, if_pos (by rfl), Program.course_bind,
    cleanupQuietly, Program.course_andThen] at answered ⊢
  have hkind : ∀ e, (p.cleanup.course answer s now).outcome = some (.error e) →
      e.kind = .own .cleanup := fun e =>
    p.sweep.run_kind fun step hmem =>
      answered step (Course.mem_bind (Course.mem_andThen hmem _) _)
  generalize p.cleanup.course answer s now = sweep at hkind ⊢
  obtain ⟨steps, r, s, now⟩ := sweep
  match r with
  | none => exact ⟨⟨[], .nil, (List.append_nil _).symm⟩, rfl, hkind⟩
  | some (.ok names) =>
      refine ⟨⟨[], .nil, ?_⟩, rfl, hkind⟩
      simp only [Course.andThen, Program.course_succeed, Program.course_fail, Course.precede_mk,
        Course.bind_ok, complaint, List.append_nil, List.nil_append]
  | some (.error e) =>
      have hcleanup : (e.kind == .own .cleanup) = true := beq_iff_eq.2 (hkind e rfl)
      simp only [Course.andThen, hcleanup, if_true, Program.course, Program.course_succeed,
        Program.course_fail, Course.precede_mk, Course.bind_ok, List.append_nil]
      exact ⟨⟨[], .nil, rfl⟩, rfl, hkind⟩

theorem fill_failed_answered (p : PreLoader τ) (job : Job τ) (images : List String)
    {answer : Answerer σ τ} {s : σ} {now : τ} {f : ClusterFailure}
    (h : answer.reply (p.loading job images) s = .error f)
    (answered : ∀ step ∈ ((p.fill job images).course answer s now).steps, step.Answered) :
    let sweep := p.cleanup.course answer (answer.after (p.loading job images) s)
      (answer.done (p.loading job images) s now)
    EndsInSweep [.asked s now (p.loading job images) (.error f)] sweep (complaint sweep.outcome)
      (fun _ => .error (.workloadCreate p.staging f))
      ((p.fill job images).course answer s now) := by
  obtain ⟨steps, hplain, hcourse⟩ := p.fill_failed job images h now
  rw [hcourse] at answered ⊢
  have hf : f.isAnswer = true := hplain.answered
    (fun step hmem => answered step (List.mem_append_left _ hmem)) _ List.mem_cons_self
  exact (p.setback_answered hf fun step hmem =>
    answered step (List.mem_append_right _ hmem)).precede hplain

theorem fill_loaded_answered (p : PreLoader τ) (job : Job τ) (images : List String)
    {answer : Answerer σ τ} {s : σ} {now : τ} {names : List String}
    (h : answer.reply (p.loading job images) s = .ok names)
    (answered : ∀ step ∈ ((p.fill job images).course answer s now).steps, step.Answered) :
    EndsInSweep
      [.asked s now (p.loading job images) (.ok names),
        .slept (answer.done (p.loading job images) s now) job.settlePeriod]
      (p.cleanup.course answer (answer.after (p.loading job images) s)
        (Clock.after (answer.done (p.loading job images) s now) job.settlePeriod)) []
      (Except.map fun _ => ()) ((p.fill job images).course answer s now) := by
  obtain ⟨steps, hplain, hcourse⟩ := p.fill_loaded job images h now
  simp only [Program.course_bind, Program.course_succeed, Course.bind_result] at hcourse
  rw [hcourse] at answered ⊢
  -- the sweep's requests are among those of the job, so its failures are answers too
  refine ⟨⟨steps, hplain, ?_⟩, rfl, fun e => p.sweep.run_kind fun step hmem =>
    answered step (List.mem_append_right _ hmem)⟩
  rw [Course.precede_mk, List.append_nil]

/-- A job whose failing requests are answers of the cluster. Until its images are
known, and when there are none, nothing is asked for. Then its namespace is
created, and a failure of that ends it. Then its workload is created. A failure
of that is its failure after one whole sweep, whatever comes of the sweep, and
nobody sleeps; a failure of the sweep is noted, once and at the end. Else it
sleeps once and ends as one whole sweep ends. On an exact clock it ends. -/
theorem preloadImages_trace (p : PreLoader τ) (job : Job τ) (answer : Answerer σ τ) (s : σ)
    (now : τ)
    (answered : ∀ step ∈ ((p.preloadImages job).course answer s now).steps, step.Answered) :
    let c := (p.preloadImages job).course answer s now
    (match ((job.extractImages p.render).course answer s now).outcome with
      | none => False
      | some (.error e) => calls c.steps = [] ∧ c.outcome = some (.error e)
      | some (.ok []) => calls c.steps = [] ∧ c.outcome = some (.ok ())
      | some (.ok images) =>
        let created := answer.reply (p.creation job) s
        let s₁ := answer.after (p.creation job) s
        let t₁ := answer.done (p.creation job) s now
        let loaded := answer.reply (p.loading job images) s₁
        let s₂ := answer.after (p.loading job images) s₁
        let t₂ := answer.done (p.loading job images) s₁ t₁
        match created, loaded with
        | .error f, _ =>
          calls c.steps = [.asked s now (p.creation job) created] ∧
            c.outcome = some (.error (.namespaceCreate p.staging f))
        | .ok _, .error f =>
          let sweep := p.cleanup.course answer s₂ t₂
          EndsInSweep
            [.asked s now (p.creation job) created, .asked s₁ t₁ (p.loading job images) loaded]
            sweep (complaint sweep.outcome) (fun _ => .error (.workloadCreate p.staging f)) c
        | .ok _, .ok _ =>
          EndsInSweep
            [.asked s now (p.creation job) created, .asked s₁ t₁ (p.loading job images) loaded,
              .slept t₂ job.settlePeriod]
            (p.cleanup.course answer s₂ (Clock.after t₂ job.settlePeriod)) []
            (Except.map fun _ => ()) c) ∧
    ∀ seconds : τ → ℚ, Clock.Exact seconds → answer.Forward seconds s →
      0 < seconds p.sweep.interval → c.outcome ≠ none := by
  intro c
  cases p.preloadImages_went job answer s now with
  | unread extracted plain hc =>
      rw [extracted, show c = _ from hc]
      exact ⟨⟨plain.calls_eq, rfl⟩, fun _ _ _ _ => Option.some_ne_none _⟩
  | nothing extracted plain hc =>
      rw [extracted, show c = _ from hc]
      exact ⟨⟨plain.calls_eq, rfl⟩, fun _ _ _ _ => Option.some_ne_none _⟩
  | @refused images f steps extracted foundSome hcreated plain hc =>
      obtain ⟨image, rest, rfl⟩ := List.exists_cons_of_ne_nil foundSome
      rw [hc] at answered
      have hf : f.isAnswer = true := plain.answered answered _ List.mem_cons_self
      rw [extracted, show c = _ from hc]
      simp only [hcreated]
      exact ⟨⟨plain.calls_eq, by rw [ClusterFailure.as_of_isAnswer hf]⟩,
        fun _ _ _ _ => Option.some_ne_none _⟩
  | @created images names steps extracted foundSome hcreated plain hc =>
      obtain ⟨image, rest, rfl⟩ := List.exists_cons_of_ne_nil foundSome
      rw [hc] at answered
      rw [extracted, show c = _ from hc]
      have hfilled : ∀ step ∈ ((p.fill job (image :: rest)).course answer
          (answer.after (p.creation job) s) (answer.done (p.creation job) s now)).steps,
          step.Answered := fun step hmem => answered step (List.mem_append_right _ hmem)
      simp only [hcreated]
      cases hloaded : answer.reply (p.loading job (image :: rest))
          (answer.after (p.creation job) s) with
      | error f =>
          have hends := (p.fill_failed_answered job _ hloaded hfilled).precede plain
          exact ⟨hends, fun seconds exact forward hpos => hends.ends
            (p.sweep.run_ends exact hpos ((forward.after _).after _) _)⟩
      | ok more =>
          have hends := (p.fill_loaded_answered job _ hloaded hfilled).precede plain
          exact ⟨hends, fun seconds exact forward hpos => hends.ends
            (p.sweep.run_ends exact hpos ((forward.after _).after _) _)⟩

end PreLoader

/-- A job with one image. -/
def podJob : Job ℚ where
  name := .text "pods"
  objects := [⟨"pod.yml", .text "kind: Pod\nspec:\n  containers:\n  - image: a\n", .null, .int 1⟩]
  targetNamespace := .null
  preloads := true
  settlePeriod := 60
  labels := []
  annotations := []
  nodeLabels := []
  functions := .null

def podLoader : PreLoader ℚ :=
  ⟨Template.render ⟨.zero, [], ⟨1⟩⟩, stagingName, ⟨some markerSelector, 10, 2⟩⟩

/-- The workload is not allowed, and then nobody answers any more. -/
def lostScript : Script ℚ :=
  { Script.empty 1 with
    createWorkload := [some ⟨.httpStatus, some 403, "forbidden"⟩]
    list := [.error ⟨.transport "ConnectionError", none, "down"⟩] }

theorem preloadImages_lost :
    let c := (podLoader.preloadImages podJob).course Script.answer lostScript 0
    (∀ step ∈ c.steps, step.Answered) ∧
      (∃ s₁ t₁ sweep,
        EndsInSweep
          [.asked lostScript 0 (podLoader.creation podJob) (.ok []),
            .asked s₁ t₁ (podLoader.loading podJob ["a"])
              (.error ⟨.httpStatus, some 403, "forbidden"⟩)]
          sweep (complaint sweep.outcome)
          (fun _ => .error (.workloadCreate podLoader.staging
            ⟨.httpStatus, some 403, "forbidden"⟩)) c) ∧
      Answerer.Forward Script.answer id lostScript ∧ c.outcome ≠ none := by
  have answered : ∀ step ∈ ((podLoader.preloadImages podJob).course Script.answer lostScript
      0).steps, step.Answered := by decide +kernel
  have forward : Answerer.Forward Script.answer id lostScript :=
    Script.forward (show (0 : ℚ) ≤ 1 by decide)
  have extracted : ((podJob.extractImages podLoader.render).course Script.answer lostScript
      0).outcome = some (.ok ["a"]) := eq_ok_of_toOption (by decide +kernel)
  have hcreated : Answerer.reply Script.answer (podLoader.creation podJob) lostScript = .ok [] :=
    rfl
  have hloaded : Answerer.reply Script.answer (podLoader.loading podJob ["a"])
      (Answerer.after Script.answer (podLoader.creation podJob) lostScript) =
        .error ⟨.httpStatus, some 403, "forbidden"⟩ := rfl
  have htrace := PreLoader.preloadImages_trace podLoader podJob Script.answer lostScript 0 answered
  -- the run itself must not be evaluated here, which rw would do
  simp only [extracted, hcreated, hloaded] at htrace
  exact ⟨answered, ⟨_, _, _, htrace.1⟩, forward,
    htrace.2 id Clock.exact_rat forward (by decide)⟩

/-! ## Namespaces left behind

A setback sweeps by the kind of the failure that it is given, and only an answer
of the cluster is turned into a failure of that kind. -/

theorem as_kind_eq_iff (f : ClusterFailure) (name : String) :
    (f.as (.workloadCreate name)).kind = .own .workloadCreate ↔
      f.isAnswer = true ∨ f.kind = .own .workloadCreate := by
  cases hf : f.isAnswer with
  | true =>
      rw [ClusterFailure.as_of_isAnswer hf]
      exact ⟨fun _ => Or.inl rfl, fun _ => rfl⟩
  | false =>
      rw [ClusterFailure.as_of_not_isAnswer hf]
      exact ⟨Or.inr, fun h => h.resolve_left Bool.false_ne_true⟩

namespace PreLoader

theorem setback_calls (p : PreLoader τ) (e : PreloadFailure) (answer : Answerer σ τ) (s : σ)
    (now : τ) :
    calls ((p.setback e).course answer s now).steps =
      if e.kind = .own .workloadCreate then calls (p.cleanup.course answer s now).steps
      else [] := by
  unfold setback
  by_cases he : e.kind = .own .workloadCreate
  · rw [if_pos (beq_iff_eq.2 he), if_pos he, Program.course_bind, cleanupQuietly,
      Program.course_andThen]
    generalize p.cleanup.course answer s now = sweep
    obtain ⟨steps, r, s, now⟩ := sweep
    match r with
    | none => rfl
    | some (.ok names) => simp [Course.andThen]
    | some (.error e') =>
        cases hcleanup : e'.kind == .own .cleanup with
        | true => simp [Course.andThen, hcleanup, Program.course]
        | false => simp [Course.andThen, hcleanup]
  · rw [if_neg (fun h => he (beq_iff_eq.1 h)), if_neg he]
    rfl

theorem fill_calls (p : PreLoader τ) (job : Job τ) (images : List String)
    (answer : Answerer σ τ) (s : σ) (now : τ) :
    let s' := answer.after (p.loading job images) s
    let now' := answer.done (p.loading job images) s now
    calls ((p.fill job images).course answer s now).steps =
      .asked s now (p.loading job images) (answer.reply (p.loading job images) s) ::
        match answer.reply (p.loading job images) s with
        | .ok _ =>
          .slept now' job.settlePeriod ::
            calls (p.cleanup.course answer s' (Clock.after now' job.settlePeriod)).steps
        | .error f =>
          if f.isAnswer = true ∨ f.kind = .own .workloadCreate then
            calls (p.cleanup.course answer s' now').steps
          else [] := by
  cases hloaded : answer.reply (p.loading job images) s with
  | ok names =>
      obtain ⟨steps, hplain, hcourse⟩ := p.fill_loaded job images hloaded now
      simp only [Program.course_bind, Program.course_succeed, Course.bind_result] at hcourse
      rw [hcourse, Course.precede_mk, calls_append, hplain.calls_eq]
      rfl
  | error f =>
      obtain ⟨steps, hplain, hcourse⟩ := p.fill_failed job images hloaded now
      rw [hcourse, hplain.calls_precede, setback_calls]
      simp only [as_kind_eq_iff]

/-- Filling a namespace creates no other. -/
theorem fill_creates_none {p : PreLoader τ} {job : Job τ} {images : List String}
    {answer : Answerer σ τ} {s found : σ} {now t : τ} {manifest : Value} {reply : Reply} :
    .asked found t (.createNamespace manifest) reply ∉
      calls ((p.fill job images).course answer s now).steps := by
  intro h
  rw [fill_calls, List.mem_cons] at h
  rcases h with heq | h
  · injection heq with _ _ hrequest
    cases hrequest
  · split at h
    · rw [List.mem_cons] at h
      rcases h with heq | h
      · cases heq
      · exact (Sweep.run_creates_none (mem_of_mem_calls h) manifest).1 rfl
    · split at h
      · exact (Sweep.run_creates_none (mem_of_mem_calls h) manifest).1 rfl
      · cases h

/-- Filling a namespace sweeps exactly when its workload is created or is refused
by an answer. -/
theorem fill_sweeps_iff (p : PreLoader τ) (job : Job τ) (images : List String)
    (answer : Answerer σ τ) (s : σ) (now : τ) :
    (∃ found t reply, .asked found t (.list p.sweep.selector) reply ∈
        calls ((p.fill job images).course answer s now).steps) ↔
      ∀ found t manifest f, .asked found t (.createWorkload manifest) (.error f) ∈
          calls ((p.fill job images).course answer s now).steps →
        f.isAnswer = true ∨ f.kind = .own .workloadCreate := by
  have hlists (s' : σ) (now' : τ) :=
    asked_mem_calls.2 (p.sweep.run_lists answer s' now')
  simp only [fill_calls, List.mem_cons]
  cases hloaded : answer.reply (p.loading job images) s with
  | ok names =>
      refine iff_of_true ⟨_, _, _, Or.inr (List.mem_cons_of_mem _ (hlists _ _))⟩ ?_
      rintro found t manifest f (heq | hmem)
      · injection heq with _ _ _ hreply
        cases hreply
      · rcases List.mem_cons.1 hmem with heq | hmem
        · cases heq
        · exact absurd rfl (Sweep.run_creates_none (mem_of_mem_calls hmem) manifest).2
  | error f =>
      by_cases hf : f.isAnswer = true ∨ f.kind = .own .workloadCreate
      · simp only [if_pos hf]
        refine iff_of_true ⟨_, _, _, Or.inr (hlists _ _)⟩ ?_
        rintro found t manifest f' (heq | hmem)
        · injection heq with _ _ _ hreply
          injection hreply with hfailure
          rw [hfailure]
          exact hf
        · exact absurd rfl (Sweep.run_creates_none (mem_of_mem_calls hmem) manifest).2
      · simp only [if_neg hf]
        refine iff_of_false ?_ fun h => hf (h _ _ _ f (Or.inl rfl))
        rintro ⟨found, t, reply, heq | hmem⟩
        · injection heq with _ _ hrequest
          cases hrequest
        · cases hmem

/-- What is done for a job after its namespace was created. -/
theorem calls_after_creation {p : PreLoader τ} {job : Job τ} {answer : Answerer σ τ} {s : σ}
    {now : τ} {before after : List (Step σ τ)} {found : σ} {t : τ} {manifest : Value}
    {names : List String}
    (h : ((p.preloadImages job).course answer s now).steps =
      before ++ .asked found t (.createNamespace manifest) (.ok names) :: after) :
    ∃ images, calls after = calls ((p.fill job images).course answer
      (answer.after (p.creation job) s) (answer.done (p.creation job) s now)).steps := by
  have hcalls := congrArg calls h.symm
  rw [calls_append, calls_asked] at hcalls
  cases p.preloadImages_went job answer s now with
  | unread extracted plain hc | nothing extracted plain hc =>
      rw [hc, plain.calls_eq] at hcalls
      exact absurd hcalls (List.append_ne_nil_of_right_ne_nil _ (List.cons_ne_nil _ _))
  | refused extracted foundSome hcreated plain hc =>
      rw [hc, plain.calls_eq, List.append_eq_cons_iff] at hcalls
      rcases hcalls with ⟨-, heq⟩ | ⟨others, -, heq⟩
      · injection heq with heq
        injection heq with _ _ _ hreply
        cases hreply
      · exact absurd heq.symm (List.append_ne_nil_of_right_ne_nil _ (List.cons_ne_nil _ _))
  | @created images _ steps extracted foundSome hcreated plain hc =>
      refine ⟨images, ?_⟩
      rw [hc, plain.calls_precede, List.append_eq_cons_iff] at hcalls
      rcases hcalls with ⟨-, heq⟩ | ⟨others, -, heq⟩
      · injection heq
      · have hmem : Step.asked found t (.createNamespace manifest) (.ok names) ∈
            others ++ Step.asked found t (.createNamespace manifest) (.ok names) :: calls after :=
          List.mem_append_right _ List.mem_cons_self
        rw [← heq] at hmem
        exact absurd hmem fill_creates_none

/-- Once its namespace is created, a job begins a sweep of the marked namespaces
exactly when its workload is created or is refused by an answer of the cluster.
Any other failure of the workload ends it at once, and leaves the namespace
behind. -/
theorem sweep_begun_iff (p : PreLoader τ) (hp : p.sweep.selector = some markerSelector)
    (job : Job τ) (answer : Answerer σ τ) (s : σ) (now : τ) {before after : List (Step σ τ)}
    {found : σ} {t : τ} {manifest : Value} {names : List String}
    (h : ((p.preloadImages job).course answer s now).steps =
      before ++ .asked found t (.createNamespace manifest) (.ok names) :: after) :
    (∃ found t reply, .asked found t (.list (some markerSelector)) reply ∈ after) ↔
      ∀ found t manifest f, .asked found t (.createWorkload manifest) (.error f) ∈ after →
        f.isAnswer = true ∨ f.kind = .own .workloadCreate := by
  obtain ⟨images, hafter⟩ := calls_after_creation h
  have hiff := p.fill_sweeps_iff job images answer (answer.after (p.creation job) s)
    (answer.done (p.creation job) s now)
  rw [← hafter, hp] at hiff
  simpa only [asked_mem_calls] using hiff

end PreLoader

def Step.isListing : Step σ τ → Bool
  | .asked _ _ (.list _) _ => true
  | _ => false

/-- Whether a namespace was created. -/
def Step.isCreation : Step σ τ → Bool
  | .asked _ _ (.createNamespace _) (.ok _) => true
  | _ => false

omit [Clock τ] in
theorem exists_creation {steps : List (Step σ τ)} (h : steps.any Step.isCreation = true) :
    ∃ found t manifest names,
      .asked found t (.createNamespace manifest) (.ok names) ∈ steps := by
  obtain ⟨step, hmem, hstep⟩ := List.any_eq_true.1 h
  unfold Step.isCreation at hstep
  split at hstep
  · exact ⟨_, _, _, _, hmem⟩
  · cases hstep

theorem sweep_begun_lost :
    podLoader.sweep.selector = some markerSelector ∧
      ∃ before found t manifest names after,
        ((podLoader.preloadImages podJob).course Script.answer lostScript 0).steps =
          before ++ .asked found t (.createNamespace manifest) (.ok names) :: after ∧
        ∃ found t reply, .asked found t (.list (some markerSelector)) reply ∈ after := by
  have answered : ∀ step ∈ ((podLoader.preloadImages podJob).course Script.answer lostScript
      0).steps, step.Answered := by decide +kernel
  obtain ⟨found, t, manifest, names, hmem⟩ :=
    exists_creation (show ((podLoader.preloadImages podJob).course Script.answer lostScript
      0).steps.any Step.isCreation = true by decide +kernel)
  obtain ⟨before, after, h⟩ := List.append_of_mem hmem
  refine ⟨rfl, before, found, t, manifest, names, after, h, ?_⟩
  refine (PreLoader.sweep_begun_iff podLoader rfl podJob Script.answer lostScript 0 h).2 ?_
  intro found t manifest f hmem
  rw [h] at answered
  exact Or.inl (answered _ (List.mem_append_right _ (List.mem_cons_of_mem _ hmem)))

/-- The workload fails in a way that is no answer of the cluster. -/
def unhandledScript : Script ℚ :=
  { Script.empty 1 with createWorkload := [some ⟨.clusterBase, none, "boom"⟩] }

/-- Such a failure leaves a namespace behind that nobody looks for. -/
theorem sweep_not_begun :
    let steps := ((podLoader.preloadImages podJob).course Script.answer unhandledScript 0).steps
    (∃ found t manifest names,
        .asked found t (.createNamespace manifest) (.ok names) ∈ steps) ∧
      ∀ found t selector reply, .asked found t (.list selector) reply ∉ steps := by
  refine ⟨exists_creation (by decide +kernel), fun found t selector reply hmem => ?_⟩
  have hnone : ((podLoader.preloadImages podJob).course Script.answer unhandledScript
      0).steps.any Step.isListing = false := by decide +kernel
  exact absurd rfl (List.any_eq_false.1 hnone _ hmem)

end ImagePreload
