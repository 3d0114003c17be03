import ImagePreload.Proofs.Acceptance

/-!
# What the exit code of preloading tells

The jobs of a run are taken one after the other, each from where the one before
left the cluster. A run either gets through all jobs or stops at the first that
fails (`PreLoader.loaded_or_stopped`), and nothing is done for those behind it.
How a job fails decides the code, and it can fail in five ways
(`PreLoader.Fails`), each with requests of its own that tell it from the others.

Sweeps do not hide a failure: one within a setback leaves the code as it is, and
one at the end of a job gives it. Whatever happens, a namespace that was created
is followed by a listing (`PreLoader.preloadJobs_swept`).
-/

namespace ImagePreload

variable {σ τ : Type}

/-! ## Images that cannot be had -/

section

variable {render : Renderer} {functions : Value}

/-- An object one of whose images cannot be written. -/
def ObjectDefinition.Unwritten (render : Renderer) (functions : Value) (o : ObjectDefinition) :
    Prop :=
  ∃ document kind, o.document render functions = .ok document ∧
    WorkloadKind.ofDocument? document = some kind ∧ kind.hasLongImage document = true

theorem ObjectDefinition.images?_eq_error {o : ObjectDefinition} {e : PreloadFailure}
    (h : o.images? render functions = .error e) :
    (∃ cause, o.document render functions = .error cause ∧ e = .render o.template cause) ∨
      o.Unwritten render functions ∧ e = .longImage := by
  rcases bind_eq_error h with h | ⟨document, hdocument, h⟩
  · obtain ⟨cause, hcause, rfl⟩ := mapError_eq_error h
    exact Or.inl ⟨cause, hcause, rfl⟩
  · have hdocument := mapError_eq_ok.1 hdocument
    split at h
    · cases h
    · next kind hkind =>
        split at h
        · next hlong =>
            cases h
            exact Or.inr ⟨⟨document, kind, hdocument, hkind, hlong⟩, rfl⟩
        · cases h

theorem imagesFrom_eq_ok {objects : List ObjectDefinition} {images : List String}
    (h : imagesFrom render functions objects = .ok images) {o : ObjectDefinition}
    (ho : o ∈ objects) : ∃ document, o.document render functions = .ok document := by
  induction objects generalizing images with
  | nil => cases ho
  | cons first rest ih =>
      obtain ⟨found, hfound, hrest⟩ := bind_eq_ok.1 h
      rcases List.mem_cons.1 ho with rfl | ho
      · obtain ⟨document, hdocument, -⟩ := bind_eq_ok.1 hfound
        exact ⟨document, mapError_eq_ok.1 hdocument⟩
      · cases found with
        | none => exact ih hrest ho
        | some found =>
            obtain ⟨more, hmore, -⟩ := bind_eq_ok.1 hrest
            exact ih hmore ho

theorem imagesFrom_eq_error {objects : List ObjectDefinition} {e : PreloadFailure}
    (h : imagesFrom render functions objects = .error e) :
    ∃ o ∈ objects, o.images? render functions = .error e := by
  induction objects with
  | nil => cases h
  | cons o rest ih =>
      have hrest (h : imagesFrom render functions rest = .error e) :
          ∃ o' ∈ o :: rest, o'.images? render functions = .error e := by
        obtain ⟨o', ho', herror⟩ := ih h
        exact ⟨o', List.mem_cons_of_mem _ ho', herror⟩
      rcases bind_eq_error h with h | ⟨found, -, h⟩
      · exact ⟨o, List.mem_cons_self, h⟩
      · cases found with
        | none => exact hrest h
        | some found =>
            rcases bind_eq_error h with h | ⟨more, -, h⟩
            · exact hrest h
            · cases h

end

/-! ## Namespaces that were created -/

/-- Every namespace that was created is followed by a listing. -/
def Swept (selector : Selector) (steps : List (Step σ τ)) : Prop :=
  ∀ before found t manifest names after,
    steps = before ++ .asked found t (.createNamespace manifest) (.ok names) :: after →
    ∃ found' t' reply, .asked found' t' (.list selector) reply ∈ after

namespace Swept

variable {selector : Selector} {steps others : List (Step σ τ)}

theorem nil : Swept selector ([] : List (Step σ τ)) := by
  intro before found t manifest names after h
  exact absurd h.symm (List.append_ne_nil_of_right_ne_nil _ (List.cons_ne_nil _ _))

theorem append (h : Swept selector steps) (h' : Swept selector others) :
    Swept selector (steps ++ others) := by
  intro before found t manifest names after heq
  rcases List.append_eq_append_iff.1 heq with ⟨more, -, hothers⟩ | ⟨more, hsteps, hmore⟩
  · exact h' _ _ _ _ _ _ hothers
  · cases more with
    | nil => exact h' [] _ _ _ _ _ hmore.symm
    | cons step more =>
        injection hmore with hstep hafter
        subst hstep hafter
        obtain ⟨found', t', reply, hmem⟩ := h _ _ _ _ _ _ hsteps
        exact ⟨found', t', reply, List.mem_append_left _ hmem⟩

theorem calls_iff : Swept selector (calls steps) ↔ Swept selector steps := by
  constructor
  · intro h before found t manifest names after heq
    have hcalls := congrArg calls heq
    rw [calls_append, calls_asked] at hcalls
    obtain ⟨found', t', reply, hmem⟩ := h _ _ _ _ _ _ hcalls
    exact ⟨found', t', reply, mem_of_mem_calls hmem⟩
  · intro h before found t manifest names after heq
    obtain ⟨front, back, hsteps, -, hback⟩ := List.filter_eq_append_iff.1 heq
    obtain ⟨middle, rest, rfl, -, -, rfl⟩ := List.filter_eq_cons_iff.1 hback
    rw [← List.append_assoc] at hsteps
    obtain ⟨found', t', reply, hmem⟩ := h _ _ _ _ _ _ hsteps
    exact ⟨found', t', reply, asked_mem_calls.2 hmem⟩

end Swept

theorem answered_of_calls {steps : List (Step σ τ)} (h : ∀ step ∈ calls steps, step.Answered) :
    ∀ step ∈ steps, step.Answered := by
  intro step hmem
  cases step with
  | noted level message => exact trivial
  | slept t duration => exact trivial
  | asked found t request reply => exact h _ (asked_mem_calls.2 hmem)

/-! ## How a job fails -/

theorem calls_complaint {α : Type} (r : Option (Except PreloadFailure α)) :
    calls (complaint r : List (Step σ τ)) = [] := by
  unfold complaint
  split <;> rfl

theorem EndsInSweep.calls_eq {made coda : List (Step σ τ)}
    {sweep : Course PreloadFailure τ (List String) σ}
    {finish : Except PreloadFailure (List String) → Except PreloadFailure Unit}
    {c : Course PreloadFailure τ Unit σ} (h : EndsInSweep made sweep coda finish c)
    (hcoda : calls coda = []) : calls c.steps = made ++ calls sweep.steps := by
  obtain ⟨before, hbefore, hsteps⟩ := h.steps
  rw [hsteps, calls_append, calls_append, hbefore.calls_eq, hcoda, List.append_nil]

theorem EndsInSweep.sweep_subset {made coda : List (Step σ τ)}
    {sweep : Course PreloadFailure τ (List String) σ}
    {finish : Except PreloadFailure (List String) → Except PreloadFailure Unit}
    {c : Course PreloadFailure τ Unit σ} (h : EndsInSweep made sweep coda finish c) :
    sweep.steps ⊆ c.steps := by
  obtain ⟨before, -, hsteps⟩ := h.steps
  rw [hsteps]
  exact fun step hmem => List.mem_append_right _ (List.mem_append_left _ hmem)

theorem append_ne_empty {a : String} (h : a ≠ "") (b : String) : a ++ b ≠ "" :=
  fun hempty => h (String.append_eq_empty_iff.1 hempty).1

/-- Only a failure that goes through as it is may have nothing to say. -/
theorem PreloadFailure.message_ne_empty {e : PreloadFailure} (h : ∀ f, e ≠ .raised f) :
    e.message ≠ "" := by
  cases e with
  | raised f => exact absurd rfl (h f)
  | longImage => exact append_ne_empty (by decide) _
  | timeout remaining => exact append_ne_empty (append_ne_empty (by decide) _) _
  | render template cause =>
      exact append_ne_empty (append_ne_empty (append_ne_empty (by decide) _) _) _
  | namespaceCreate name cause | workloadCreate name cause =>
      exact append_ne_empty (append_ne_empty (append_ne_empty (by decide) _) _) _
  | listing selector cause | waiting selector cause =>
      exact append_ne_empty (append_ne_empty (append_ne_empty (by decide) _) _) _
  | deletion selector failed =>
      exact append_ne_empty (append_ne_empty (append_ne_empty (by decide) _) _) _

theorem PreloadFailure.kind_ne_key {e : PreloadFailure} (h : ∀ f, e ≠ .raised f) :
    e.kind ≠ .key := by
  cases e with
  | raised f => exact absurd rfl (h f)
  | longImage => exact ErrorKind.noConfusion
  | render | namespaceCreate | workloadCreate => exact ErrorKind.noConfusion
  | listing | deletion | timeout | waiting => exact ErrorKind.noConfusion

variable [Clock τ]

namespace PreLoader

/-- How a job fails with a course, the failure, and the exit code that it gives. A
template of it cannot be rendered or read, or an image cannot be written; its
namespace is refused; its workload is refused, whatever comes of the sweep that
follows; or the sweep at its end fails. -/
inductive Fails (p : PreLoader τ) (job : Job τ) (answer : Answerer σ τ) (s : σ) (now : τ)
    (c : Course PreloadFailure τ Unit σ) : PreloadFailure → Nat → Prop where
  | unread {o : ObjectDefinition} {cause : RenderCause} (mem : o ∈ job.objects)
    (failed : o.document p.render job.functions = .error cause) (quiet : calls c.steps = []) :
    Fails p job answer s now c (.render o.template cause) 65
  | unwritten {o : ObjectDefinition} (mem : o ∈ job.objects)
    (failed : o.Unwritten p.render job.functions) (quiet : calls c.steps = []) :
    Fails p job answer s now c .longImage 70
  | refused {f : ClusterFailure}
    (rendered : ∀ o ∈ job.objects, ∃ document, o.document p.render job.functions = .ok document)
    (made : calls c.steps = [.asked s now (p.creation job) (.error f)]) :
    Fails p job answer s now c (.namespaceCreate p.staging f) 69
  | unloaded {images names : List String} {f : ClusterFailure} {s₁ s₂ : σ} {t₁ t₂ : τ}
    (rendered : ∀ o ∈ job.objects, ∃ document, o.document p.render job.functions = .ok document)
    (made : calls c.steps = .asked s now (p.creation job) (.ok names) ::
      .asked s₁ t₁ (p.loading job images) (.error f) ::
      calls (p.cleanup.course answer s₂ t₂).steps) :
    Fails p job answer s now c (.workloadCreate p.staging f) 75
  | unswept {images names names' : List String} {e : PreloadFailure} {s₁ s₂ : σ}
    {t₁ t₂ t₃ : τ}
    (rendered : ∀ o ∈ job.objects, ∃ document, o.document p.render job.functions = .ok document)
    (made : calls c.steps = .asked s now (p.creation job) (.ok names) ::
      .asked s₁ t₁ (p.loading job images) (.ok names') :: .slept t₂ job.settlePeriod ::
      calls (p.cleanup.course answer s₂ t₃).steps)
    (failed : (p.cleanup.course answer s₂ t₃).outcome = some (.error e))
    (cleaning : e.isCleanup = true) :
    Fails p job answer s now c e 75

variable {p : PreLoader τ} {job : Job τ} {answer : Answerer σ τ} {s : σ} {now : τ}

theorem images_of_extracted {r : Except PreloadFailure (List String)}
    (h : ((job.extractImages p.render).course answer s now).outcome = some r) :
    job.images p.render = r := by
  obtain ⟨notes, hcourse, -⟩ := (job.extractImages_yields p.render).course answer s now
  rw [hcourse] at h
  exact Option.some.inj h

/-- A job that fails does so in one of the five ways. -/
theorem preloadImages_fails
    (answered : ∀ step ∈ ((p.preloadImages job).course answer s now).steps, step.Answered)
    {e : PreloadFailure}
    (h : ((p.preloadImages job).course answer s now).outcome = some (.error e)) :
    ∃ code, p.Fails job answer s now ((p.preloadImages job).course answer s now) e code := by
  cases p.preloadImages_went job answer s now with
  | unread extracted plain hc =>
      rw [hc] at h ⊢
      cases h
      obtain ⟨o, ho, herror⟩ := imagesFrom_eq_error (images_of_extracted extracted)
      rcases o.images?_eq_error herror with ⟨cause, hcause, rfl⟩ | ⟨hunwritten, rfl⟩
      · exact ⟨65, .unread ho hcause plain.calls_eq⟩
      · exact ⟨70, .unwritten ho hunwritten plain.calls_eq⟩
  | nothing extracted plain hc =>
      rw [hc] at h
      cases h
  | refused extracted foundSome hcreated plain hc =>
      rw [hc] at h answered ⊢
      have hf : ClusterFailure.isAnswer _ = true := plain.answered answered _ List.mem_cons_self
      rw [ClusterFailure.as_of_isAnswer hf] at h
      cases h
      exact ⟨69, .refused (fun _ => imagesFrom_eq_ok (images_of_extracted extracted))
        plain.calls_eq⟩
  | @created images names steps extracted foundSome hcreated plain hc =>
      have rendered (o : ObjectDefinition) (ho : o ∈ job.objects) :=
        imagesFrom_eq_ok (images_of_extracted extracted) ho
      rw [hc] at h answered ⊢
      have hfilled := Course.answered_of_precede answered
      cases hloaded : answer.reply (p.loading job images) (answer.after (p.creation job) s) with
      | error f =>
          have hends := (p.fill_failed_answered job _ hloaded hfilled).precede plain
          rw [hends.outcome, Option.map_eq_some_iff] at h
          obtain ⟨r, -, hr⟩ := h
          cases hr
          exact ⟨75, .unloaded rendered (hends.calls_eq (calls_complaint _))⟩
      | ok more =>
          have hends := (p.fill_loaded_answered job _ hloaded hfilled).precede plain
          rw [hends.outcome] at h
          have hswept := Course.eq_error_of_map h
          exact ⟨75, .unswept rendered (hends.calls_eq rfl) hswept (p.sweep.run_isCleanup
            (fun step hmem => answered step (hends.sweep_subset hmem)) hswept)⟩

theorem Fails.code_eq {c : Course PreloadFailure τ Unit σ} {e : PreloadFailure} {code : Nat}
    (h : p.Fails job answer s now c e code) :
    (CommandLine.endingOf e.kind).code = code := by
  cases h with
  | unread | unwritten | refused | unloaded => rfl
  | unswept rendered made failed cleaning =>
      rw [PreloadFailure.kind_of_isCleanup cleaning]
      rfl

theorem Fails.ne_raised {c : Course PreloadFailure τ Unit σ} {e : PreloadFailure} {code : Nat}
    (h : p.Fails job answer s now c e code) (f : ClusterFailure) : e ≠ .raised f := by
  rintro rfl
  cases h with
  | unswept rendered made failed cleaning => cases cleaning

/-! ## Job after job -/

/-- Jobs that were gone through one after the other, with the requests and sleeps
that this took. A job that does not want its images loaded is passed over; of any
other one they were. -/
inductive Loaded (p : PreLoader τ) (answer : Answerer σ τ) :
    List (Job τ) → σ → τ → List (Step σ τ) → σ → τ → Prop where
  | nil (s : σ) (now : τ) : Loaded p answer [] s now [] s now
  | passed {job : Job τ} {jobs : List (Job τ)} {s s' : σ} {now now' : τ} {made : List (Step σ τ)}
    (unwanted : job.preloads = false) (rest : Loaded p answer jobs s now made s' now') :
    Loaded p answer (job :: jobs) s now made s' now'
  | loaded {job : Job τ} {jobs : List (Job τ)} {s s' : σ} {now now' : τ} {made : List (Step σ τ)}
    (wanted : job.preloads = true)
    (well : ((p.preloadImages job).course answer s now).outcome = some (.ok ()))
    (rest : Loaded p answer jobs ((p.preloadImages job).course answer s now).state
      ((p.preloadImages job).course answer s now).now made s' now') :
    Loaded p answer (job :: jobs) s now
      (calls ((p.preloadImages job).course answer s now).steps ++ made) s' now'

/-- What follows upon jobs that were loaded begins where they end. -/
theorem Loaded.preloadJobs_append {jobs : List (Job τ)} {s' : σ} {now' : τ}
    {made : List (Step σ τ)} (h : p.Loaded answer jobs s now made s' now')
    (others : List (Job τ)) :
    ∃ steps, calls steps = made ∧ (p.preloadJobs (jobs ++ others)).course answer s now =
      ((p.preloadJobs others).course answer s' now').precede steps := by
  induction h with
  | nil s now => exact ⟨[], rfl, rfl⟩
  | passed unwanted _ ih =>
      obtain ⟨steps, rfl, hcourse⟩ := ih
      rw [List.cons_append, preloadJobs, unwanted, if_neg Bool.false_ne_true, Program.course,
        hcourse, Course.precede_precede]
      refine ⟨_, ?_, rfl⟩
      rfl
  | loaded wanted well _ ih =>
      obtain ⟨steps, rfl, hcourse⟩ := ih
      rw [List.cons_append, preloadJobs, wanted, if_pos rfl, Program.course_bind,
        Course.bind_of_ok well, hcourse, Course.precede_precede]
      exact ⟨_, calls_append .., rfl⟩

/-- Nothing follows upon a job that was not loaded. -/
theorem preloadJobs_stop (wanted : job.preloads = true)
    (failed : ((p.preloadImages job).course answer s now).outcome ≠ some (.ok ()))
    (others : List (Job τ)) :
    (p.preloadJobs (job :: others)).course answer s now =
      (p.preloadImages job).course answer s now := by
  rw [preloadJobs, wanted, if_pos rfl, Program.course_bind, Course.bind_of_ne_ok failed]

theorem Loaded.all {jobs : List (Job τ)} {s' : σ} {now' : τ} {made : List (Step σ τ)}
    (h : p.Loaded answer jobs s now made s' now') :
    calls ((p.preloadJobs jobs).course answer s now).steps = made ∧
      ((p.preloadJobs jobs).course answer s now).outcome = some (.ok ()) := by
  obtain ⟨steps, hcalls, hcourse⟩ := h.preloadJobs_append []
  rw [List.append_nil] at hcourse
  rw [hcourse]
  exact ⟨by rw [Course.precede_steps, calls_append, hcalls]; exact List.append_nil _, rfl⟩

theorem Loaded.stopped {earlier : List (Job τ)} {s' : σ} {now' : τ} {made : List (Step σ τ)}
    (h : p.Loaded answer earlier s now made s' now') (wanted : job.preloads = true)
    (failed : ((p.preloadImages job).course answer s' now').outcome ≠ some (.ok ()))
    (later : List (Job τ)) :
    calls ((p.preloadJobs (earlier ++ job :: later)).course answer s now).steps =
        made ++ calls ((p.preloadImages job).course answer s' now').steps ∧
      ((p.preloadJobs (earlier ++ job :: later)).course answer s now).outcome =
        ((p.preloadImages job).course answer s' now').outcome := by
  obtain ⟨steps, hcalls, hcourse⟩ := h.preloadJobs_append (job :: later)
  rw [hcourse, preloadJobs_stop wanted failed]
  exact ⟨by rw [Course.precede_steps, calls_append, hcalls], rfl⟩

/-- Of some jobs all are loaded, or there is a first that is not. -/
theorem loaded_or_stopped (p : PreLoader τ) (answer : Answerer σ τ) (jobs : List (Job τ)) (s : σ)
    (now : τ) :
    (∃ made s' now', p.Loaded answer jobs s now made s' now') ∨
      ∃ earlier job later made s' now', jobs = earlier ++ job :: later ∧
        p.Loaded answer earlier s now made s' now' ∧ job.preloads = true ∧
        ((p.preloadImages job).course answer s' now').outcome ≠ some (.ok ()) := by
  induction jobs generalizing s now with
  | nil => exact Or.inl ⟨_, _, _, .nil s now⟩
  | cons job jobs ih =>
      cases hpreloads : job.preloads with
      | false =>
          rcases ih s now with ⟨made, s', now', hall⟩ |
            ⟨earlier, failing, later, made, s', now', rfl, hearlier, hwanted, hfailed⟩
          · exact Or.inl ⟨_, _, _, .passed hpreloads hall⟩
          · exact Or.inr ⟨job :: earlier, failing, later, _, _, _, rfl,
              .passed hpreloads hearlier, hwanted, hfailed⟩
      | true =>
          by_cases hwell : ((p.preloadImages job).course answer s now).outcome = some (.ok ())
          · rcases ih ((p.preloadImages job).course answer s now).state
              ((p.preloadImages job).course answer s now).now with ⟨made, s', now', hall⟩ |
              ⟨earlier, failing, later, made, s', now', rfl, hearlier, hwanted, hfailed⟩
            · exact Or.inl ⟨_, _, _, .loaded hpreloads hwell hall⟩
            · exact Or.inr ⟨job :: earlier, failing, later, _, _, _, rfl,
                .loaded hpreloads hwell hearlier, hwanted, hfailed⟩
          · exact Or.inr ⟨[], job, jobs, _, _, _, rfl, .nil s now, hpreloads, hwell⟩

theorem preloadImages_swept
    (answered : ∀ step ∈ ((p.preloadImages job).course answer s now).steps, step.Answered) :
    Swept p.sweep.selector ((p.preloadImages job).course answer s now).steps := by
  intro before found t manifest names after h
  obtain ⟨images, hafter⟩ := calls_after_creation h
  have hiff := p.fill_sweeps_iff job images answer (answer.after (p.creation job) s)
    (answer.done (p.creation job) s now)
  rw [← hafter] at hiff
  simp only [asked_mem_calls] at hiff
  refine hiff.2 fun found' t' manifest' f hmem => ?_
  rw [h] at answered
  exact Or.inl (answered _ (List.mem_append_right _ (List.mem_cons_of_mem _ hmem)))

theorem Loaded.swept {jobs : List (Job τ)} {s' : σ} {now' : τ} {made : List (Step σ τ)}
    (h : p.Loaded answer jobs s now made s' now') (answered : ∀ step ∈ made, step.Answered) :
    Swept p.sweep.selector made := by
  induction h with
  | nil s now => exact .nil
  | passed unwanted _ ih => exact ih answered
  | loaded wanted well _ ih =>
      have hjob := answered_of_calls fun step hmem => answered step (List.mem_append_left _ hmem)
      exact (Swept.calls_iff.2 (preloadImages_swept hjob)).append
        (ih fun step hmem => answered step (List.mem_append_right _ hmem))

theorem preloadImages_ends {seconds : τ → ℚ} (exact : Clock.Exact seconds)
    (hpos : 0 < seconds p.sweep.interval) (forward : answer.Forward seconds s)
    (answered : ∀ step ∈ ((p.preloadImages job).course answer s now).steps, step.Answered) :
    ((p.preloadImages job).course answer s now).outcome ≠ none := by
  cases p.preloadImages_went job answer s now with
  | unread extracted plain hc | nothing extracted plain hc | refused extracted _ _ plain hc =>
      rw [hc]
      exact Option.some_ne_none _
  | @created images names steps extracted foundSome hcreated plain hc =>
      rw [hc] at answered ⊢
      have hfilled := Course.answered_of_precede answered
      have hsweep (now' : τ) := p.sweep.run_ends exact hpos
        ((forward.after (p.creation job)).after (p.loading job images)) now'
      cases hloaded : answer.reply (p.loading job images) (answer.after (p.creation job) s) with
      | error f => exact (p.fill_failed_answered job _ hloaded hfilled).ends (hsweep _)
      | ok more => exact (p.fill_loaded_answered job _ hloaded hfilled).ends (hsweep _)

theorem Loaded.reaches {jobs : List (Job τ)} {s' : σ} {now' : τ} {made : List (Step σ τ)}
    (h : p.Loaded answer jobs s now made s' now') : answer.Reaches s s' := by
  obtain ⟨steps, -, hcourse⟩ := h.preloadJobs_append []
  have hreaches := (p.preloadJobs (jobs ++ [])).course_reaches answer s now
  rw [hcourse] at hreaches
  exact hreaches

/-! ## The run of all jobs -/

section

variable {jobs : List (Job τ)}

/-- A run is through exactly when every job that wants it was loaded. -/
theorem preloadJobs_ok_iff :
    ((p.preloadJobs jobs).course answer s now).outcome = some (.ok ()) ↔
      ∃ made s' now', p.Loaded answer jobs s now made s' now' := by
  constructor
  · intro h
    rcases p.loaded_or_stopped answer jobs s now with hall |
      ⟨earlier, job, later, made, s', now', rfl, hearlier, hwanted, hfailed⟩
    · exact hall
    · exact absurd ((hearlier.stopped hwanted hfailed later).2.symm.trans h) hfailed
  · rintro ⟨made, s', now', hall⟩
    exact hall.all.2

/-- A run that fails is over with the first job that fails. -/
theorem preloadJobs_fails
    (answered : ∀ step ∈ ((p.preloadJobs jobs).course answer s now).steps, step.Answered)
    {e : PreloadFailure}
    (h : ((p.preloadJobs jobs).course answer s now).outcome = some (.error e)) :
    ∃ earlier job later made s' now' code, jobs = earlier ++ job :: later ∧
      p.Loaded answer earlier s now made s' now' ∧ job.preloads = true ∧
      let own := (p.preloadImages job).course answer s' now'
      own.outcome = some (.error e) ∧ p.Fails job answer s' now' own e code ∧
      calls ((p.preloadJobs jobs).course answer s now).steps = made ++ calls own.steps := by
  rcases p.loaded_or_stopped answer jobs s now with ⟨made, s', now', hall⟩ |
    ⟨earlier, job, later, made, s', now', rfl, hearlier, hwanted, hfailed⟩
  · cases hall.all.2.symm.trans h
  · obtain ⟨hcalls, houtcome⟩ := hearlier.stopped hwanted hfailed later
    have hown := answered_of_calls fun step hmem =>
      answered step (mem_of_mem_calls (hcalls ▸ List.mem_append_right _ hmem))
    have herror := houtcome.symm.trans h
    obtain ⟨code, hfails⟩ := preloadImages_fails hown herror
    exact ⟨earlier, job, later, made, s', now', code, rfl, hearlier, hwanted, herror, hfails,
      hcalls⟩

theorem preloadJobs_swept
    (answered : ∀ step ∈ ((p.preloadJobs jobs).course answer s now).steps, step.Answered) :
    Swept p.sweep.selector ((p.preloadJobs jobs).course answer s now).steps := by
  rw [← Swept.calls_iff]
  rcases p.loaded_or_stopped answer jobs s now with ⟨made, s', now', hall⟩ |
    ⟨earlier, job, later, made, s', now', rfl, hearlier, hwanted, hfailed⟩
  · have hcalls := hall.all.1
    rw [hcalls]
    exact hall.swept fun step hmem => answered step (mem_of_mem_calls (hcalls ▸ hmem))
  · have hcalls := (hearlier.stopped hwanted hfailed later).1
    rw [hcalls]
    have hmade := hearlier.swept fun step hmem =>
      answered step (mem_of_mem_calls (hcalls ▸ List.mem_append_left _ hmem))
    have hown := answered_of_calls fun step hmem =>
      answered step (mem_of_mem_calls (hcalls ▸ List.mem_append_right _ hmem))
    exact hmade.append (Swept.calls_iff.2 (preloadImages_swept hown))

theorem preloadJobs_ends {seconds : τ → ℚ} (exact : Clock.Exact seconds)
    (hpos : 0 < seconds p.sweep.interval) (forward : answer.Forward seconds s)
    (answered : ∀ step ∈ ((p.preloadJobs jobs).course answer s now).steps, step.Answered) :
    ((p.preloadJobs jobs).course answer s now).outcome ≠ none := by
  rcases p.loaded_or_stopped answer jobs s now with ⟨made, s', now', hall⟩ |
    ⟨earlier, job, later, made, s', now', rfl, hearlier, hwanted, hfailed⟩
  · rw [hall.all.2]
    exact Option.some_ne_none _
  · obtain ⟨hcalls, houtcome⟩ := hearlier.stopped hwanted hfailed later
    have hown := answered_of_calls fun step hmem =>
      answered step (mem_of_mem_calls (hcalls ▸ List.mem_append_right _ hmem))
    rw [houtcome]
    exact preloadImages_ends exact hpos (forward.of_reaches hearlier.reaches) hown

end

end PreLoader

namespace CommandLine

/-- What is logged last of a failure. -/
theorem failureRecords_getLast? (kind : ErrorKind) (message : String) :
    (failureRecords kind message).getLast? =
      some ⟨.error, failureText kind message, (endingOf kind).traced⟩ := by
  rw [failureRecords]
  cases (endingOf kind).traced with
  | true => rfl
  | false => rfl

theorem failureText_eq {kind : ErrorKind} (hkind : kind ≠ .key) {message : String}
    (hmessage : message ≠ "") : failureText kind message = kind.name ++ ": " ++ message := by
  have htold : kind.toldMessage message = message := if_neg (by simpa using hkind)
  rw [failureText, htold, if_neg (by simpa using hmessage)]

theorem conclude_course (p : Program CommandFailure τ String) (answer : Answerer σ τ) (state : σ)
    (now : τ) :
    (conclude p).course answer state now =
      ⟨(p.course answer state now).steps,
        (p.course answer state now).outcome.map fun r => .ok (.of r),
        (p.course answer state now).state, (p.course answer state now).now⟩ := by
  have hconclude : conclude p = p.andThen fun r => .done (.ok (.of r)) := by
    rw [conclude]
    congr 1
    funext r
    cases r with
    | ok output => rfl
    | error e => rfl
  rw [hconclude, Program.course_andThen_done]

/-- What is left to do once everything was accepted. -/
def preloadAll (seconds : Number → τ) (jobs : List (Job Number)) (loader : PreLoader τ) :
    Program CommandFailure τ String :=
  ((loader.preloadJobs (jobs.map (Job.onClock seconds))).mapFailure .preload).bind
    fun _ => .succeed ""

theorem preloadAll_course (seconds : Number → τ) (jobs : List (Job Number))
    (loader : PreLoader τ) (answer : Answerer σ τ) (state : σ) (now : τ) :
    let run := (loader.preloadJobs (jobs.map (Job.onClock seconds))).course answer state now
    (preloadAll seconds jobs loader).course answer state now =
      ⟨run.steps, run.outcome.map fun r => (r.mapError .preload).map fun _ => "", run.state,
        run.now⟩ := by
  intro run
  have hmap := Program.course_andThen_done answer
    (loader.preloadJobs (jobs.map (Job.onClock seconds)))
    (Except.mapError CommandFailure.preload) state now
  rw [preloadAll, Program.course_bind, Program.mapFailure, hmap]
  simp only [Program.course_succeed, Course.bind_result, Option.map_map]
  rfl

/-- With everything accepted, preloading only takes notes before it goes from job
to job. -/
theorem execute_preload (seconds : Number → τ) {library : ClientLibrary} {s : Surroundings}
    {options : Options} {names : List String} {config : Config} {jobs : List (Job Number)}
    {loader : PreLoader τ} (hjobs : selectedJobs s.files config names = .ok jobs)
    (hloader : readyLoader seconds library s options config = .ok loader) (answer : Answerer σ τ)
    (state : σ) (now : τ) :
    ∃ notes, Plain notes [] ∧
      (execute seconds library s options config (.preload names)).course answer state now =
        ((preloadAll seconds jobs loader).course answer state now).precede notes := by
  have hselect : (selectJobs s.files config names : Program JobFailure τ
      (List (Job Number))).Yields (.ok jobs) := hjobs ▸ selectJobs_yields ..
  have hready : (preLoader seconds library s options config).Yields (.ok loader) :=
    hloader ▸ preLoader_yields ..
  obtain ⟨notes, hnotes, hselected⟩ := (hselect.mapFailure CommandFailure.job).course_bind
    (fun jobs => (preLoader seconds library s options config).bind (preloadAll seconds jobs)) answer
    state now
  obtain ⟨more, hmore, hready⟩ := hready.course_bind (preloadAll seconds jobs) answer state now
  rw [hready, Course.precede_precede] at hselected
  exact ⟨_, hnotes.append hmore, hselected⟩

/-- How a program ends that has preloaded. -/
def preloadConclusion : Except PreloadFailure Unit → Conclusion
  | .ok () => { code := successCode }
  | .error e => .ofFailure (.preload e)

theorem launch_preload (seconds : Number → τ) {library : ClientLibrary} {s : Surroundings}
    {options : Options} {names : List String} {config : Config} {logging : Log.Setup}
    {jobs : List (Job Number)} {loader : PreLoader τ} (hconfig : loadConfig s options = .ok config)
    (hlogging : commandLogging s options config = .ok logging)
    (hjobs : selectedJobs s.files config names = .ok jobs)
    (hloader : readyLoader seconds library s options config = .ok loader) (answer : Answerer σ τ)
    (state : σ) (now : τ) :
    let run := (loader.preloadJobs (jobs.map (Job.onClock seconds))).course answer state now
    let c := (launch seconds library s options (.preload names)).program.course answer state now
    calls c.steps = calls run.steps ∧
      c.outcome = run.outcome.map fun r => .ok (preloadConclusion r) := by
  intro run c
  obtain ⟨notes, hnotes, hexecute⟩ := execute_preload seconds hjobs hloader answer state now
  rw [preloadAll_course, Course.precede_mk] at hexecute
  have hlaunch : (launch seconds library s options (.preload names)).program =
      conclude (.note .debug (Command.preload names).text
        (execute seconds library s options config (.preload names))) := by
    rw [launch, hconfig]
    dsimp only
    rw [hlogging]
  rw [show c = (launch seconds library s options (.preload names)).program.course answer state now
    from rfl, hlaunch, conclude_course, Program.course, hexecute, Course.precede_mk]
  constructor
  · rw [List.singleton_append, calls_noted, calls_append, hnotes.calls_eq, List.nil_append]
  · dsimp only
    rw [Option.map_map]
    congr 1
    funext r
    cases r with
    | ok a => rfl
    | error e => rfl

theorem ofFailure_getLast? {e : PreloadFailure} (h : ∀ f, e ≠ .raised f) :
    (Conclusion.ofFailure (.preload e)).records.getLast? =
      some ⟨.error, e.kind.name ++ ": " ++ e.message, (endingOf e.kind).traced⟩ := by
  rw [← failureText_eq (e.kind_ne_key h) (e.message_ne_empty h)]
  exact failureRecords_getLast? e.kind e.message

/-- The exit code of preloading tells the truth when everything was accepted, with
any library that could make a client, and the cluster's failures are answers. It is
that of success exactly when the images of every job that wants it were loaded, one
job after the other. Any other code is that of the first job that fails. It says in
which way that job failed, the last record says why, and of the jobs behind it
nothing was done. Every namespace that was created is followed by a listing. On an
exact clock there is an exit code.

The run is one in which every sleep is performed: a step that sleeps has no way to
fail, however long it is to last. -/
theorem preload_exit_code (seconds : Number → τ) {library : ClientLibrary} {s : Surroundings}
    {arguments : List String} {options : Options} {names : List String} {config : Config}
    {logging : Log.Setup} {jobs : List (Job Number)} {loader : PreLoader τ}
    (hread : read arguments = .ok (.run options (.preload names)))
    (hconfig : loadConfig s options = .ok config)
    (hlogging : commandLogging s options config = .ok logging)
    (hjobs : selectedJobs s.files config names = .ok jobs)
    (hloader : readyLoader seconds library s options config = .ok loader) (answer : Answerer σ τ)
    (state : σ) (now : τ) :
    ∃ launch, startOn seconds library s arguments = .inr launch ∧
      let c := launch.program.course answer state now
      let timed := jobs.map (Job.onClock seconds)
      (∀ step ∈ c.steps, step.Answered) →
        (∀ conclusion, c.outcome = some (.ok conclusion) →
          (conclusion.code = successCode ↔
            ∃ made s' now', loader.Loaded answer timed state now made s' now') ∧
          (conclusion.code ≠ successCode →
            ∃ earlier job later made s' now' e, timed = earlier ++ job :: later ∧
              loader.Loaded answer earlier state now made s' now' ∧ job.preloads = true ∧
              let own := (loader.preloadImages job).course answer s' now'
              own.outcome = some (.error e) ∧
              loader.Fails job answer s' now' own e conclusion.code ∧
              calls c.steps = made ++ calls own.steps ∧
              conclusion.records.getLast? =
                some ⟨.error, e.kind.name ++ ": " ++ e.message, (endingOf e.kind).traced⟩)) ∧
        Swept (some markerSelector) c.steps ∧
        ∀ exactly : τ → ℚ, Clock.Exact exactly → answer.Forward exactly state →
          0 < exactly (seconds defaultInterval) → c.outcome ≠ none := by
  refine ⟨launch seconds library s options (.preload names), by rw [startOn, hread], ?_⟩
  intro c timed answered
  obtain ⟨hcalls, houtcome⟩ :=
    launch_preload seconds hconfig hlogging hjobs hloader answer state now
  have hsweep : loader.sweep.selector = some markerSelector ∧
      loader.sweep.interval = seconds defaultInterval := by
    obtain ⟨_, _, _, -, -, -, rfl⟩ := readyLoader_eq_ok hloader
    exact ⟨rfl, rfl⟩
  have hrun : ∀ step ∈ ((loader.preloadJobs timed).course answer state now).steps,
      step.Answered := answered_of_calls fun step hmem =>
    answered step (mem_of_mem_calls (hcalls ▸ hmem))
  refine ⟨fun conclusion hconclusion => ?_, ?_, fun exactly exact forward hpos => ?_⟩
  · rw [houtcome] at hconclusion
    cases hr : ((loader.preloadJobs timed).course answer state now).outcome with
    | none =>
        rw [hr] at hconclusion
        cases hconclusion
    | some ended =>
        rw [hr] at hconclusion
        cases ended with
        | ok _ =>
            cases hconclusion
            exact ⟨iff_of_true rfl (PreLoader.preloadJobs_ok_iff.1 hr), absurd rfl⟩
        | error e =>
            cases hconclusion
            obtain ⟨earlier, job, later, made, s', now', code, htimed, hearlier, hwanted, hfailed,
              hfails, hmade⟩ := PreLoader.preloadJobs_fails hrun hr
            have hcode : (Conclusion.ofFailure (.preload e)).code = code := hfails.code_eq
            refine ⟨iff_of_false (endingOf_code_ne e.kind) fun hall => ?_, fun _ => ?_⟩
            · cases hr.symm.trans (PreLoader.preloadJobs_ok_iff.2 hall)
            · exact ⟨earlier, job, later, made, s', now', e, htimed, hearlier, hwanted, hfailed,
                hcode.symm ▸ hfails, hcalls.trans hmade, ofFailure_getLast? hfails.ne_raised⟩
  · rw [← hsweep.1, ← Swept.calls_iff, hcalls, Swept.calls_iff]
    exact PreLoader.preloadJobs_swept hrun
  · rw [← hsweep.2] at hpos
    rw [houtcome, ne_eq, Option.map_eq_none_iff]
    exact PreLoader.preloadJobs_ends exact hpos forward hrun

/-- Whether everything can be had that preloading needs outside of a cluster. -/
def acceptsPreload (s : Surroundings) (arguments : List String) : Bool :=
  match read arguments with
  | .ok (.run options (.preload names)) =>
    match loadConfig s options with
    | .ok config =>
      (commandLogging s options config).toOption.isSome &&
        ((selectedJobs s.files config names).toOption.isSome &&
          (readyLoader (id : Number → Number) s.library s options config).toOption.isSome)
    | .error _ => false
  | _ => false

theorem exists_ok_of_isSome {ε α : Type} {x : Except ε α} (h : x.toOption.isSome = true) :
    ∃ a, x = .ok a := by
  cases x with
  | error e => cases h
  | ok a => exact ⟨a, rfl⟩

theorem exists_of_acceptsPreload {s : Surroundings} {arguments : List String}
    (h : acceptsPreload s arguments = true) :
    ∃ options names config logging jobs, ∃ loader : PreLoader Number,
      read arguments = .ok (.run options (.preload names)) ∧
      loadConfig s options = .ok config ∧ commandLogging s options config = .ok logging ∧
      selectedJobs s.files config names = .ok jobs ∧
      readyLoader id s.library s options config = .ok loader := by
  unfold acceptsPreload at h
  split at h
  · next options names hread =>
      split at h
      · next config hconfig =>
          rw [Bool.and_eq_true, Bool.and_eq_true] at h
          obtain ⟨logging, hlogging⟩ := exists_ok_of_isSome h.1
          obtain ⟨jobs, hjobs⟩ := exists_ok_of_isSome h.2.1
          obtain ⟨loader, hloader⟩ := exists_ok_of_isSome h.2.2
          exact ⟨options, names, config, logging, jobs, loader, hread, hconfig, hlogging, hjobs,
            hloader⟩
      · cases h
  · cases h

/-- Whether all failures of a run are answers and it ends with a code. -/
def endsWith (s : Surroundings) (arguments : List String) (script : Script Number) (code : Nat) :
    Bool :=
  match start s arguments with
  | .inl _ => false
  | .inr launch =>
    let c := launch.program.course Script.answer script (.int 0)
    decide (∀ step ∈ c.steps, step.Answered) &&
      match c.outcome with
      | some (.ok conclusion) => conclusion.code == code
      | _ => false

theorem answered_of_endsWith {s : Surroundings} {arguments : List String} {script : Script Number}
    {code : Nat} (h : endsWith s arguments script code = true) {launch : Launch Number}
    (hlaunch : start s arguments = .inr launch) :
    (∀ step ∈ (launch.program.course Script.answer script (.int 0)).steps, step.Answered) ∧
      ∃ conclusion, (launch.program.course Script.answer script (.int 0)).outcome =
        some (.ok conclusion) ∧ conclusion.code = code := by
  rw [endsWith, hlaunch] at h
  obtain ⟨hanswered, hcode⟩ := Bool.and_eq_true_iff.1 h
  refine ⟨of_decide_eq_true hanswered, ?_⟩
  split at hcode
  · next conclusion hout => exact ⟨conclusion, hout, beq_iff_eq.1 hcode⟩
  · cases hcode

/-- A job twice, and a way to the cluster. -/
def twiceSurroundings : Surroundings where
  files := Files.ofList "/work"
    [("/work/jobs", .file ("configurationVersion: 1\njobs:\n"
        ++ "- &j \x7bname: a, preLoadImages: true, objects: [objectTemplate: pod]\x7d\n- *j"
        ).toUTF8.toList),
      ("/work/pod", .file "kind: Pod\nspec: \x7bcontainers: [image: a]\x7d".toUTF8.toList),
      ("/work/kube", .file ("clusters: [\x7bname: c, cluster: \x7b\x7d\x7d]\n"
        ++ "contexts: [\x7bname: x, context: \x7bcluster: c\x7d\x7d]\ncurrent-context: x"
        ).toUTF8.toList)]
  environment := []
  entropy := ⟨1⟩

def twiceArguments : List String := ["-c", "jobs", "--kubeconfig", "kube", "preload"]

/-- The second workload is not allowed, and then nobody answers any more. -/
def secondScript : Script Number :=
  { Script.empty (.int 1) with
    createWorkload := [none, some ⟨.httpStatus, some 403, "forbidden"⟩]
    list := [.ok [], .error ⟨.transport "ConnectionError", none, "down"⟩] }

theorem preload_exit_code_second :
    ∃ options names config logging jobs, ∃ loader : PreLoader Number, ∃ launch,
      read twiceArguments = .ok (.run options (.preload names)) ∧
      loadConfig twiceSurroundings options = .ok config ∧
      commandLogging twiceSurroundings options config = .ok logging ∧
      selectedJobs twiceSurroundings.files config names = .ok jobs ∧
      readyLoader id twiceSurroundings.library twiceSurroundings options config = .ok loader ∧
      start twiceSurroundings twiceArguments = .inr launch ∧
      let c := launch.program.course Script.answer secondScript (.int 0)
      (∀ step ∈ c.steps, step.Answered) ∧ Swept (some markerSelector) c.steps ∧
        ∃ conclusion earlier job later s' now' e, c.outcome = some (.ok conclusion) ∧
          conclusion.code = 75 ∧ jobs.map (Job.onClock id) = earlier ++ job :: later ∧
          loader.Fails job Script.answer s' now'
            ((loader.preloadImages job).course Script.answer s' now') e 75 := by
  have hrun : (acceptsPreload twiceSurroundings twiceArguments &&
      endsWith twiceSurroundings twiceArguments secondScript 75) = true := by decide +kernel
  obtain ⟨haccepts, hends⟩ := Bool.and_eq_true_iff.1 hrun
  obtain ⟨options, names, config, logging, jobs, loader, hread, hconfig, hlogging, hjobs,
    hloader⟩ := exists_of_acceptsPreload haccepts
  obtain ⟨launch, hlaunch, htruth⟩ := preload_exit_code id hread hconfig hlogging hjobs hloader
    Script.answer secondScript (.int 0)
  obtain ⟨answered, conclusion, hout, hcode⟩ := answered_of_endsWith hends hlaunch
  obtain ⟨hconclusion, hswept, -⟩ := htruth answered
  have hfailed : conclusion.code ≠ successCode := by
    rw [hcode]
    decide
  obtain ⟨earlier, job, later, made, s', now', e, htimed, -, -, -, hfails, -⟩ :=
    (hconclusion conclusion hout).2 hfailed
  rw [hcode] at hfails
  exact ⟨options, names, config, logging, jobs, loader, launch, hread, hconfig, hlogging, hjobs,
    hloader, hlaunch, answered, hswept, conclusion, earlier, job, later, s', now', e, hout, hcode,
    htimed, hfails⟩

end CommandLine

end ImagePreload
