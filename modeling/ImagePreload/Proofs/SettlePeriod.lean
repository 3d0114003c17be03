import ImagePreload.Proofs.Alongside
import ImagePreload.Proofs.Deadline
import ImagePreload.Proofs.Succession

/-!
# What the settle period has an influence on

Two jobs that are the same but for their settle periods set out in the same way, for
nothing that comes before the settle sleep knows of its length
(`PreLoader.outset_later`). Without a workload there is no sleep, and then nothing at all
is different. With one they sleep, each for its own period, and sweep afterwards. These
sweeps are beside each other again, only with other seconds between them, since no sweep
takes its deadline before it begins. So what the one sleeps longer is all that it takes
longer, and it is the one thing that is different (`PreLoader.preloadImages_settlePeriod`).
-/

namespace ImagePreload

variable {ε τ α β σ : Type} {seconds : τ → ℚ} {δ : ℚ}

/-- A course that does not end well has nothing behind it. -/
theorem Course.bind_of_not_ok {c : Course ε τ α σ} (h : ∀ a, c.outcome ≠ some (.ok a))
    (f : α → σ → τ → Course ε τ β σ) :
    (c.bind f).steps = c.steps ∧ ∀ b, (c.bind f).outcome ≠ some (.ok b) := by
  cases houtcome : c.outcome with
  | none =>
      rw [Course.bind_of_none houtcome]
      exact ⟨rfl, fun b => nofun⟩
  | some r =>
      cases r with
      | error e =>
          rw [Course.bind_of_error houtcome]
          exact ⟨rfl, fun b => nofun⟩
      | ok a => exact absurd houtcome (h a)

/-- Whether a workload was created. -/
def Loads (steps : List (Step σ τ)) : Prop :=
  ∃ found t manifest names, .asked found t (.createWorkload manifest) (.ok names) ∈ steps

theorem loads_append {steps more : List (Step σ τ)} :
    Loads (steps ++ more) ↔ Loads steps ∨ Loads more := by
  simp only [Loads, List.mem_append, exists_or]

theorem not_loads_nil : ¬ Loads ([] : List (Step σ τ)) := by
  rintro ⟨found, t, manifest, names, mem⟩
  cases mem

theorem Plain.loads {steps made : List (Step σ τ)} (h : Plain steps made) :
    Loads steps ↔ Loads made := by
  simp only [Loads, ← h.calls_eq, asked_mem_calls]

variable [Clock τ]

namespace PreLoader

/-- What is done for a job until the nodes are given their while. The result is whether they are
given it. -/
def outset (p : PreLoader τ) (job : Job τ) : Program PreloadFailure τ Bool :=
  .note .info ("Pre-load: images from job " ++ job.name.display)
    ((job.extractImages p.render).bind fun images =>
      if images.isEmpty then
        .note .info "No images found to pre-load, continuing" (.succeed false)
      else
        (createStaging p.staging job.labels job.annotations).bind fun _ =>
          (p.startWorkload images job.nodeLabels).bind fun _ => .succeed true)

def settleMessage (period : τ) : String := "Pre-load: Sleeping for " ++ Clock.text period ++ "s"

/-- The while that the nodes are given, and the sweep behind it. -/
def settle (p : PreLoader τ) (period : τ) : Program PreloadFailure τ Unit :=
  .note .info (settleMessage period) (.sleep period (p.cleanup.bind fun _ => .succeed ()))

theorem preloadImages_eq (p : PreLoader τ) (job : Job τ) :
    p.preloadImages job = (p.outset job).bind fun settles =>
      if settles then p.settle job.settlePeriod else .succeed () := by
  rw [outset, Program.note_bind, Program.bind_bind, preloadImages]
  refine congrArg (Program.note _ _) (congrArg (Program.bind _) (funext fun images => ?_))
  split
  · rfl
  · rw [Program.bind_bind]
    refine congrArg (Program.bind _) (funext fun _ => ?_)
    rw [Program.bind_bind]
    rfl

theorem outset_alongside (exact : Clock.Exact seconds) (p : PreLoader τ) (job : Job τ) :
    (p.outset job).Alongside seconds δ (p.outset job) := by
  refine .note _ _ (Program.Alongside.bind (.of_yields (job.extractImages_yields p.render))
    fun images => ?_)
  split
  · exact .note _ _ (.done _)
  · exact (createStaging_alongside ..).bind fun _ =>
      (p.startWorkload_alongside exact images job.nodeLabels).bind fun _ => .done _

theorem setback_not_loads (p : PreLoader τ) (e : PreloadFailure) (answer : Answerer σ τ) (s : σ)
    (now : τ) : ¬ Loads ((p.setback e).course answer s now).steps := by
  rintro ⟨found, t, manifest, names, mem⟩
  rw [← asked_mem_calls, setback_calls] at mem
  split at mem
  · exact (Sweep.run_creates_none (mem_of_mem_calls mem) manifest).2 rfl
  · cases mem

theorem startWorkload_loads (p : PreLoader τ) (job : Job τ) (images : List String)
    (answer : Answerer σ τ) (s : σ) (now : τ) :
    ((p.startWorkload images job.nodeLabels).course answer s now).outcome = some (.ok ()) ↔
      Loads ((p.startWorkload images job.nodeLabels).course answer s now).steps := by
  obtain ⟨steps, hsteps, hload⟩ := p.startWorkload_course job images answer s now
  rw [hload, Course.precede_outcome, Course.precede_steps, loads_append]
  cases hloaded : answer.reply (p.loading job images) s with
  | ok names =>
      rw [hloaded] at hsteps
      refine iff_of_true rfl (Or.inl (hsteps.loads.2 ?_))
      exact ⟨_, _, _, _, List.mem_singleton_self _⟩
  | error f =>
      rw [hloaded] at hsteps
      have hrefused : ¬ Loads steps := by
        rw [hsteps.loads]
        rintro ⟨found, t, manifest, names, mem⟩
        cases List.mem_singleton.1 mem
      exact iff_of_false (p.setback_ne_ok _ answer _ _)
        (not_or_intro hrefused (p.setback_not_loads _ answer _ _))

/-- The nodes are given their while exactly if their workload was created. -/
theorem outset_loads (p : PreLoader τ) (job : Job τ) (answer : Answerer σ τ) (s : σ) (now : τ) :
    ((p.outset job).course answer s now).outcome = some (.ok true) ↔
      Loads ((p.outset job).course answer s now).steps := by
  obtain ⟨notes, hextract, hnotes⟩ := (job.extractImages_yields p.render).course answer s now
  have hstart {steps made : List (Step σ τ)} (h : Plain steps made) :
      Plain (.noted .info ("Pre-load: images from job " ++ job.name.display) :: notes ++ steps)
        made :=
    ((Plain.note (by decide) _).append hnotes).append h
  rw [outset, Program.course, Program.course_bind, hextract]
  cases job.images p.render with
  | error e =>
      have hplain : Plain (.noted .info ("Pre-load: images from job " ++ job.name.display) :: notes)
          ([] : List (Step σ τ)) := (Plain.note (by decide) _).append hnotes
      rw [Course.bind_error, Course.precede_mk]
      exact iff_of_false (by simp) (hplain.loads.not.2 not_loads_nil)
  | ok images =>
      rw [Course.bind_ok, Course.precede_precede]
      by_cases himages : images = []
      · rw [if_pos (by simpa using himages)]
        refine iff_of_false ?_ ((hstart (.note (by decide) _)).loads.not.2 not_loads_nil)
        rintro ⟨⟩
      obtain ⟨opening, hopening, hcreate⟩ := p.createStaging_course job answer s now
      rw [if_neg (by simpa using himages), Program.course_bind, hcreate]
      have hopened : ¬ Loads (.noted .info ("Pre-load: images from job " ++ job.name.display) ::
          notes ++ opening) := by
        rw [(hstart hopening).loads]
        rintro ⟨found, t, manifest, names, mem⟩
        cases List.mem_singleton.1 mem
      cases answer.reply (p.creation job) s with
      | error f =>
          rw [Course.bind_error, Course.precede_mk]
          exact iff_of_false (by simp) hopened
      | ok names =>
          rw [Course.bind_ok, Course.precede_precede, Program.course_bind]
          have hloads := p.startWorkload_loads job images answer (answer.after (p.creation job) s)
            (answer.done (p.creation job) s now)
          generalize (p.startWorkload images job.nodeLabels).course answer
            (answer.after (p.creation job) s) (answer.done (p.creation job) s now) = started
            at hloads
          by_cases hstarted : started.outcome = some (.ok ())
          · rw [Course.bind_of_ok hstarted, Course.precede_precede]
            refine iff_of_true rfl ?_
            rw [Course.precede_steps, loads_append, loads_append]
            exact Or.inl (Or.inr (hloads.1 hstarted))
          · obtain ⟨hsame, hfails⟩ := Course.bind_of_not_ok (fun _ => hstarted)
              fun _ s now =>
                (Program.succeed true : Program PreloadFailure τ Bool).course answer s now
            refine iff_of_false (hfails true) ?_
            rw [Course.precede_steps, hsame, loads_append]
            exact not_or_intro hopened (fun h => hstarted (hloads.2 h))

theorem settle_course (p : PreLoader τ) (period : τ) (answer : Answerer σ τ) (s : σ) (now : τ) :
    (p.settle period).course answer s now =
      ((p.cleanup.bind fun _ => .succeed ()).course answer s (Clock.after now period)).precede
        [.noted .info (settleMessage period), .slept now period] := rfl

/-- What follows upon an outset without a workload. -/
theorem preloadImages_unsettled (p : PreLoader τ) (job : Job τ) {answer : Answerer σ τ} {s : σ}
    {now : τ} (h : ((p.outset job).course answer s now).outcome ≠ some (.ok true)) :
    (p.preloadImages job).course answer s now =
      ⟨((p.outset job).course answer s now).steps,
        ((p.outset job).course answer s now).outcome.map (Except.map fun _ => ()),
        ((p.outset job).course answer s now).state, ((p.outset job).course answer s now).now⟩ := by
  rw [preloadImages_eq, Program.course_bind]
  generalize (p.outset job).course answer s now = c at h
  obtain ⟨steps, r, s, now⟩ := c
  match r with
  | none => rfl
  | some (.error e) => exact Course.bind_error ..
  | some (.ok false) => exact congrArg (Course.mk · _ _ _) (List.append_nil _)
  | some (.ok true) => exact absurd rfl h

theorem preloadImages_settled (p : PreLoader τ) (job : Job τ) {answer : Answerer σ τ} {s : σ}
    {now : τ} (h : ((p.outset job).course answer s now).outcome = some (.ok true)) :
    (p.preloadImages job).course answer s now =
      ((p.settle job.settlePeriod).course answer ((p.outset job).course answer s now).state
        ((p.outset job).course answer s now).now).precede
          ((p.outset job).course answer s now).steps := by
  rw [preloadImages_eq, Program.course_bind, Course.bind_of_ok h]
  rfl

theorem setback_finishes (exact : Clock.Exact seconds) (p : PreLoader τ)
    (hpos : 0 < seconds p.sweep.interval) (e : PreloadFailure) {answer : Answerer σ τ} {s : σ}
    (forward : answer.Forward seconds s) (now : τ) :
    ((p.setback e).course answer s now).outcome ≠ none := by
  have hsweep := p.sweep.run_ends exact hpos forward now
  unfold setback
  split
  · rw [Program.course_bind, cleanupQuietly, Program.course_andThen, cleanup]
    generalize p.sweep.run.course answer s now = c at hsweep
    obtain ⟨steps, _ | r, s, now⟩ := c
    · exact absurd rfl hsweep
    · cases r with
      | ok names => exact Option.some_ne_none _
      | error e' =>
          simp only [Course.andThen]
          split <;> exact Option.some_ne_none _
  · exact Option.some_ne_none _

theorem preloadImages_finishes (exact : Clock.Exact seconds) (p : PreLoader τ) (job : Job τ)
    (hpos : 0 < seconds p.sweep.interval) {answer : Answerer σ τ} {s : σ}
    (forward : answer.Forward seconds s) (now : τ) :
    ((p.preloadImages job).course answer s now).outcome ≠ none := by
  cases p.preloadImages_went job answer s now with
  | unread _ _ hc | nothing _ _ hc | refused _ _ _ _ hc =>
      rw [hc]
      exact Option.some_ne_none _
  | @created images _ _ _ _ _ _ hc =>
      rw [hc]
      have hafter := (forward.after (p.creation job)).after (p.loading job images)
      cases hloaded : answer.reply (p.loading job images) (answer.after (p.creation job) s) with
      | error f =>
          obtain ⟨steps, -, hfill⟩ := p.fill_failed job images hloaded
            (answer.done (p.creation job) s now)
          rw [hfill]
          exact p.setback_finishes exact hpos _ hafter _
      | ok more =>
          obtain ⟨steps, -, hfill⟩ := p.fill_loaded job images hloaded
            (answer.done (p.creation job) s now)
          simp only [Program.course_bind, Program.course_succeed, Course.bind_result] at hfill
          rw [hfill]
          exact fun h => p.sweep.run_ends exact hpos hafter _ (Option.map_eq_none_iff.1 h)

section

variable (exact : Clock.Exact seconds) (p : PreLoader τ) (job : Job τ) (period : τ)
  (answer : Answerer σ τ) (s : σ) {now now' : τ} (apart : seconds now' = seconds now + δ)

include exact apart

/-- The first job sets out as the second one does, for its period has no part in that. -/
theorem outset_later :
    ((p.outset job).course answer s now).Later seconds δ
      ((p.outset { job with settlePeriod := period }).course answer s now') :=
  (p.outset_alongside exact job).course exact answer s apart

theorem preloadImages_unsettled_later
    (h : ((p.outset job).course answer s now).outcome ≠ some (.ok true)) :
    ((p.preloadImages job).course answer s now).Later seconds δ
      ((p.preloadImages { job with settlePeriod := period }).course answer s now') := by
  have houtset := p.outset_later exact job period answer s apart
  have h' : ((p.outset { job with settlePeriod := period }).course answer s now').outcome ≠
      some (.ok true) := houtset.outcome ▸ h
  rw [p.preloadImages_unsettled job h, p.preloadImages_unsettled _ h']
  exact ⟨houtset.events, congrArg (Option.map _) houtset.outcome, houtset.state, houtset.now⟩

/-- Jobs that sleep do the same before and afterwards, with other seconds between them. -/
theorem preloadImages_settled_later
    (h : ((p.outset job).course answer s now).outcome = some (.ok true)) :
    let c := (p.preloadImages job).course answer s now
    let c' := (p.preloadImages { job with settlePeriod := period }).course answer s now'
    c'.outcome = c.outcome ∧ c'.state = c.state ∧
      (∃ before after,
        c.steps.map Step.event = before ++ .log .info (settleMessage job.settlePeriod) ::
          .sleep job.settlePeriod :: after ∧
        c'.steps.map Step.event =
          before ++ .log .info (settleMessage period) :: .sleep period :: after) ∧
      seconds c'.now = seconds c.now + (δ + (seconds period - seconds job.settlePeriod)) := by
  intro c c'
  have houtset := p.outset_later exact job period answer s apart
  have h' : ((p.outset { job with settlePeriod := period }).course answer s now').outcome =
      some (.ok true) := houtset.outcome.trans h
  have hc : c = _ := p.preloadImages_settled job h
  have hc' : c' = _ := p.preloadImages_settled _ h'
  generalize (p.outset job).course answer s now = first at houtset hc
  generalize (p.outset { job with settlePeriod := period }).course answer s now' = first'
    at houtset hc'
  have hslept : seconds (Clock.after first'.now period) =
      seconds (Clock.after first.now job.settlePeriod) +
        (δ + (seconds period - seconds job.settlePeriod)) := by
    rw [exact.after, exact.after, houtset.now]
    ring
  -- from here on the sweeps are beside each other, with the sleeps' difference between them
  let sweep : Program PreloadFailure τ Unit := p.cleanup.bind fun _ => .succeed ()
  have hsweep : sweep.Alongside seconds (δ + (seconds period - seconds job.settlePeriod)) sweep :=
    (p.sweep.run_alongside exact).bind fun _ => .done _
  have hrest := hsweep.course exact answer first.state hslept
  rw [settle_course, Course.precede_precede] at hc hc'
  rw [houtset.state] at hc'
  rw [hc, hc']
  refine ⟨hrest.outcome, hrest.state, ⟨first.steps.map Step.event,
    (sweep.course answer first.state (Clock.after first.now job.settlePeriod)).steps.map Step.event,
    ?_, ?_⟩, hrest.now⟩
  · rw [Course.precede_steps, List.map_append, List.map_append, List.append_assoc]
    rfl
  · rw [Course.precede_steps, List.map_append, List.map_append, List.append_assoc, hrest.events,
      houtset.events]
    rfl

end

/-- The nodes of a job are given their while exactly if a workload was created for it. -/
theorem preloadImages_loads (p : PreLoader τ) (job : Job τ) (answer : Answerer σ τ) (s : σ)
    (now : τ) :
    ((p.outset job).course answer s now).outcome = some (.ok true) ↔
      Loads ((p.preloadImages job).course answer s now).steps := by
  have hloads := p.outset_loads job answer s now
  by_cases h : ((p.outset job).course answer s now).outcome = some (.ok true)
  · refine iff_of_true h ?_
    rw [p.preloadImages_settled job h, Course.precede_steps, loads_append]
    exact Or.inl (hloads.1 h)
  · refine iff_of_false h ?_
    rw [p.preloadImages_unsettled job h]
    exact fun hcreated => h (hloads.2 hcreated)

/-- Two jobs that are the same but for their settle periods, at any two readings of the clock.
They have the same outcome and leave the same state behind. Unless a workload is created all that
happens is the same and takes as long; if one is, the settle sleep is all that is not the same, and
what it takes longer is all that the one takes longer than the other. -/
theorem preloadImages_settlePeriod (exact : Clock.Exact seconds) (p : PreLoader τ) (job : Job τ)
    (period : τ) (answer : Answerer σ τ) (s : σ) (now now' : τ) :
    let r := (p.preloadImages job).run answer s now
    let r' := (p.preloadImages { job with settlePeriod := period }).run answer s now'
    let created := Loads ((p.preloadImages job).course answer s now).steps
    r'.outcome = r.outcome ∧ r'.state = r.state ∧
    (¬ created → r'.events = r.events ∧
      seconds r'.now - seconds now' = seconds r.now - seconds now) ∧
    (created →
      (∃ before after,
        r.events = before ++ .log .info (settleMessage job.settlePeriod) ::
          .sleep job.settlePeriod :: after ∧
        r'.events = before ++ .log .info (settleMessage period) :: .sleep period :: after) ∧
      seconds r'.now - seconds now' =
        seconds r.now - seconds now + (seconds period - seconds job.settlePeriod)) ∧
    (0 < seconds p.sweep.interval → answer.Forward seconds s → r.outcome ≠ none) := by
  intro r r' created
  have hfinishes (hpos : 0 < seconds p.sweep.interval) (forward : answer.Forward seconds s) :=
    p.preloadImages_finishes exact job hpos forward now
  have hcreated := p.preloadImages_loads job answer s now
  have apart : seconds now' = seconds now + (seconds now' - seconds now) := by ring
  simp only [r, r', created, Program.run_eq_course]
  by_cases h : ((p.outset job).course answer s now).outcome = some (.ok true)
  · obtain ⟨houtcome, hstate, hevents, hnow⟩ :=
      p.preloadImages_settled_later exact job period answer s apart h
    refine ⟨houtcome, hstate, fun hnot => absurd (hcreated.1 h) hnot, fun _ => ⟨hevents, ?_⟩,
      hfinishes⟩
    rw [Course.toRun, Course.toRun, hnow]
    ring
  · have hlater := p.preloadImages_unsettled_later exact job period answer s apart h
    refine ⟨hlater.outcome, hlater.state, fun _ => ⟨hlater.events, ?_⟩,
      fun hyes => absurd (hcreated.2 hyes) h, hfinishes⟩
    rw [Course.toRun, Course.toRun, hlater.now]
    ring

end PreLoader

/-- Nodes that are given less time, a long while afterwards, and a namespace that does not go. -/
theorem preloadImages_settlePeriod_stuck :
    let r := (podLoader.preloadImages podJob).run Script.answer stuckScript 0
    let r' := (podLoader.preloadImages { podJob with settlePeriod := 5 }).run Script.answer
      stuckScript 1000
    Clock.Exact (id : ℚ → ℚ) ∧ r'.outcome = r.outcome ∧ r.outcome ≠ none ∧
      (∃ before after,
        r.events = before ++ .log .info (PreLoader.settleMessage (60 : ℚ)) :: .sleep 60 :: after ∧
        r'.events = before ++ .log .info (PreLoader.settleMessage (5 : ℚ)) :: .sleep 5 :: after) ∧
      r'.now - 1000 = r.now - 55 := by
  have created :
      Loads ((podLoader.preloadImages podJob).course Script.answer stuckScript 0).steps :=
    (podLoader.preloadImages_loads podJob Script.answer stuckScript 0).1
      (eq_ok_of_toOption (by decide +kernel))
  obtain ⟨houtcome, -, -, hsettled, hends⟩ := podLoader.preloadImages_settlePeriod
    Clock.exact_rat podJob 5 Script.answer stuckScript 0 1000
  have forward : Answerer.Forward Script.answer id stuckScript :=
    Script.forward (show (0 : ℚ) ≤ 0 by decide)
  obtain ⟨hevents, htime⟩ := hsettled created
  refine ⟨Clock.exact_rat, houtcome, hends (by decide) forward, hevents, ?_⟩
  have hperiod : podJob.settlePeriod = 60 := rfl
  simp only [id, hperiod] at htime
  linarith

end ImagePreload
