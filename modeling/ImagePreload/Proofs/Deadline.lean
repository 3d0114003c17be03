import ImagePreload.Proofs.Sweep

/-!
# How long a sweep waits

A sweep asks the clock once before everything else and fixes its deadline by
that, however long the listing and the deletions take. From then on it sleeps
only before the deadline. Each sleep moves an exact clock by a whole interval, so
that the sleeps are no more than the intervals that make up the timeout; this is
a matter of the clock and not of the rounds that the wait is allowed
(`Sweep.remaining_sleeps`). With the deadline past, one more look is taken, and
what it finds decides: a sweep times out by what its last listing found
(`Polled.last_step`), never by the clock alone.
-/

namespace ImagePreload

namespace Step

variable {σ τ : Type}

def isSleep : Step σ τ → Bool
  | .slept .. => true
  | _ => false

@[simp] theorem isSleep_noted (level : Level) (message : String) :
    (noted level message : Step σ τ).isSleep = false := rfl

@[simp] theorem isSleep_asked (found : σ) (now : τ) (request : Request) (reply : Reply) :
    (asked found now request reply).isSleep = false := rfl

@[simp] theorem isSleep_slept (now duration : τ) :
    (slept now duration : Step σ τ).isSleep = true := rfl

theorem eq_slept {step : Step σ τ} (h : step.isSleep = true) :
    ∃ t duration, step = slept t duration := by
  cases step with
  | noted level message => cases h
  | asked found t request reply => cases h
  | slept t duration => exact ⟨t, duration, rfl⟩

theorem event_eq_ask {step : Step σ τ} {request : Request} (h : step.event = .ask request) :
    ∃ found t reply, step = .asked found t request reply := by
  cases step with
  | noted level message => cases h
  | slept now duration => cases h
  | asked found t request' reply =>
      injection h with h
      exact ⟨found, t, reply, by rw [h]⟩

end Step

variable {σ τ : Type}

theorem Sweep.polls_eq_append (sw : Sweep τ) (rounds : Nat) :
    ∃ before, sw.polls rounds = before ++ [.ask (.list sw.selector)] := by
  cases rounds with
  | zero => exact ⟨[], rfl⟩
  | succ rounds =>
      refine ⟨.ask (.list sw.selector) :: (List.replicate rounds
        [.sleep sw.interval, .ask (.list sw.selector)]).flatten ++ [.sleep sw.interval], ?_⟩
      rw [Sweep.polls, List.replicate_succ', List.flatten_concat]
      simp

theorem Sweep.sleep_mem_polls {sw : Sweep τ} {rounds : Nat} {duration : τ}
    (h : .sleep duration ∈ sw.polls rounds) : duration = sw.interval := by
  rw [Sweep.polls, List.mem_cons] at h
  rcases h with heq | hmem
  · cases heq
  · obtain ⟨round, hround, hmem⟩ := List.mem_flatten.1 hmem
    rw [List.eq_of_mem_replicate hround] at hmem
    simpa using hmem

section

variable {sw : Sweep τ} {names : List String} {seen : List (List String)} {last : Reply}
  {steps : List (Step σ τ)} [Clock τ] {deadline : τ}

/-- The last thing that a wait does is a poll; what was seen before was seen by
the others. -/
theorem Polled.last_step (h : Polled sw names deadline seen last steps) :
    ∃ before found t, steps = before ++ [.asked found t (.list sw.selector) last] ∧
      before.filterMap Step.reply? = seen.map .ok := by
  obtain ⟨polled, hpolled⟩ := sw.polls_eq_append seen.length
  have hevents := h.events
  rw [hpolled, List.map_eq_append_iff] at hevents
  obtain ⟨before, final, rfl, -, hfinal⟩ := hevents
  obtain ⟨step, rfl, hstep⟩ := List.map_eq_singleton_iff.1 hfinal
  obtain ⟨found, t, reply, rfl⟩ := Step.event_eq_ask hstep
  have hreplies := h.replies
  rw [List.filterMap_append, List.filterMap_cons_some (Step.reply?_asked ..)] at hreplies
  obtain ⟨hseen, hlast⟩ := List.append_inj' hreplies rfl
  injection hlast with hlast
  exact ⟨before, found, t, by rw [hlast], hseen⟩

theorem Polled.slept_interval (h : Polled sw names deadline seen last steps) {t duration : τ}
    (hmem : .slept t duration ∈ steps) : duration = sw.interval := by
  have hpoll : .sleep duration ∈ sw.polls seen.length := by
    rw [← h.events]
    exact List.mem_map.2 ⟨_, hmem, rfl⟩
  exact Sweep.sleep_mem_polls hpoll

/-- A poll that finds none of the names is the last. -/
theorem Polled.gone_last (h : Polled sw names deadline seen last steps)
    {before after : List (Step σ τ)} {found : σ} {t : τ} {listed : List String}
    (hsteps : steps = before ++ .asked found t (.list sw.selector) (.ok listed) :: after)
    (hgone : ∀ name ∈ names, name ∉ listed) : after = [] ∧ last = .ok listed := by
  obtain ⟨others, found', t', hlast, hseen⟩ := h.last_step
  rcases List.eq_nil_or_concat after with rfl | ⟨more, final, rfl⟩
  · rw [hsteps] at hlast
    obtain ⟨-, heq⟩ := List.append_inj' hlast rfl
    injection heq with heq
    injection heq with _ _ _ hreply
    exact ⟨rfl, hreply.symm⟩
  · -- what every earlier poll saw has one of the names in it
    rw [hsteps, List.concat_eq_append, ← List.cons_append, ← List.append_assoc] at hlast
    obtain ⟨rfl, -⟩ := List.append_inj' hlast rfl
    have hreply : (.ok listed : Reply) ∈ seen.map Except.ok := by
      rw [← hseen]
      exact List.mem_filterMap.2
        ⟨_, List.mem_append_right _ List.mem_cons_self, Step.reply?_asked ..⟩
    obtain ⟨_, hmem, ⟨⟩⟩ := List.mem_map.1 hreply
    obtain ⟨name, hname, hlisted⟩ := h.present listed hmem
    exact absurd hlisted (hgone name hname)

end

variable [Clock τ] {answer : Answerer σ τ} {seconds : τ → ℚ}

/-- The sleeps of a wait are no more than the intervals that are left until the
deadline, however many rounds it is allowed. -/
theorem Sweep.remaining_sleeps (exact : Clock.Exact seconds) (sw : Sweep τ)
    (hpos : 0 < seconds sw.interval) (names : List String) (deadline : τ) (rounds n : Nat)
    {s : σ} (forward : answer.Forward seconds s) (now : τ)
    (h : seconds deadline ≤ seconds now + n * seconds sw.interval) :
    ((sw.remaining names (sw.wait names deadline rounds)).course answer s now).steps.countP
      Step.isSleep ≤ n := by
  rw [Sweep.poll_course]
  cases hreply : answer.reply (.list sw.selector) s with
  | error f => exact Nat.zero_le _
  | ok found =>
      have hnow := Answerer.done_ge exact forward (.list sw.selector) now
      simp only [Sweep.wait_course]
      split
      · exact Nat.zero_le _
      · split
        · exact Nat.zero_le _
        · next hlate =>
            match rounds with
            | 0 => exact Nat.zero_le _
            | rounds + 1 =>
                -- a sleep begins before the deadline, so at least one interval is left
                have hearly : seconds (answer.done (.list sw.selector) s now) <
                    seconds deadline := not_le.1 fun hle => hlate ((exact.reached _ _).2 hle)
                obtain ⟨m, rfl⟩ : ∃ m, n = m + 1 := by
                  refine Nat.exists_eq_succ_of_ne_zero fun hzero => ?_
                  rw [hzero, Nat.cast_zero, zero_mul, add_zero] at h
                  linarith
                have hrest := Sweep.remaining_sleeps exact sw hpos names deadline rounds m
                  (forward.after (.list sw.selector))
                  (Clock.after (answer.done (.list sw.selector) s now) sw.interval) (by
                    rw [exact.after]
                    push_cast at h
                    linarith)
                simpa [List.countP_cons] using hrest
termination_by rounds

theorem Sweep.deletions_sleeps (sw : Sweep τ) (answer : Answerer σ τ) (s : σ) (now : τ)
    (names : List String) :
    (sw.deletions answer s now names).steps.countP Step.isSleep = 0 := by
  rw [List.countP_eq_zero]
  intro step hmem hsleep
  obtain ⟨t, duration, rfl⟩ := Step.eq_slept hsleep
  exact Sweep.deletions_sleepless hmem

theorem Sweep.run_sleeps (exact : Clock.Exact seconds) (sw : Sweep τ)
    (hpos : 0 < seconds sw.interval) {s : σ} (forward : answer.Forward seconds s) (now : τ) :
    (sw.run.course answer s now).steps.countP Step.isSleep ≤
      ⌈seconds sw.timeout / seconds sw.interval⌉₊ := by
  cases sw.run_went answer s now with
  | refused hlisted hc | empty hlisted hc =>
      rw [hc]
      exact Nat.zero_le _
  | @cut names _ hlisted hcut hc | @failed names hlisted hdeleted hfailed hc =>
      rw [hc, List.countP_cons, Sweep.deletions_sleeps]
      exact Nat.zero_le _
  | @waited names hlisted hnames hdeleted hfailed hc =>
      have hreaches : answer.Reaches s (sw.deletions answer s now names).state :=
        (Answerer.Reaches.after _ .start).trans (Program.course_reaches ..)
      have hbegun := sw.deletions_now_ge exact forward now names
      have htimeout : seconds sw.timeout ≤
          ⌈seconds sw.timeout / seconds sw.interval⌉₊ * seconds sw.interval :=
        (div_le_iff₀ hpos).1 (Nat.le_ceil _)
      have hwaiting : (sw.waiting answer s now names).steps.countP Step.isSleep ≤
          ⌈seconds sw.timeout / seconds sw.interval⌉₊ := by
        refine sw.remaining_sleeps exact hpos names _ _ _ (forward.of_reaches hreaches) _ ?_
        rw [exact.after]
        linarith
      rw [hc, List.countP_cons, List.countP_append, Sweep.deletions_sleeps]
      simpa using hwaiting

/-- A sweep sleeps its interval, and only before its deadline. -/
theorem Sweep.run_slept {sw : Sweep τ} {s : σ} {now t duration : τ}
    (h : .slept t duration ∈ (sw.run.course answer s now).steps) :
    duration = sw.interval ∧ Clock.reached t (Clock.after now sw.timeout) = false := by
  cases sw.run_went answer s now with
  | refused hlisted hc | empty hlisted hc =>
      rw [hc] at h
      cases List.mem_singleton.1 h
  | cut hlisted hcut hc | failed hlisted hdeleted hfailed hc =>
      rw [hc, List.mem_cons] at h
      rcases h with heq | hmem
      · cases heq
      · exact absurd hmem Sweep.deletions_sleepless
  | @waited names hlisted hnames hdeleted hfailed hc =>
      rw [hc, List.mem_cons, List.mem_append] at h
      rcases h with heq | hmem | hmem
      · cases heq
      · exact absurd hmem Sweep.deletions_sleepless
      · obtain ⟨seen, last, hpolled, -, -⟩ := sw.waiting_course answer s now names
        have hcall : .slept t duration ∈ calls (sw.waiting answer s now names).steps :=
          List.mem_filter.2 ⟨hmem, rfl⟩
        exact ⟨hpolled.slept_interval hcall, hpolled.early _ _ hcall⟩

theorem ClusterFailure.as_ne_timeout {f : ClusterFailure} {step : ClusterFailure → PreloadFailure}
    {remaining : List String} (h : step f ≠ .timeout remaining) :
    f.as step ≠ .timeout remaining := by
  unfold ClusterFailure.as
  split
  · exact h
  · exact PreloadFailure.noConfusion

/-- A wait that times out does so past its deadline, with some of the names in
what the last poll found. -/
theorem Sweep.verdict_timeout {sw : Sweep τ} {names remaining : List String} {deadline now : τ}
    {last : Reply} (h : sw.verdict names deadline last now = some (.error (.timeout remaining))) :
    ∃ listed, last = .ok listed ∧ remaining = listed.filter names.contains ∧
      remaining ≠ [] ∧ Clock.reached now deadline = true := by
  cases last with
  | error f =>
      rw [Sweep.verdict, Option.some.injEq, Except.error.injEq] at h
      exact absurd h (ClusterFailure.as_ne_timeout PreloadFailure.noConfusion)
  | ok listed =>
      simp only [Sweep.verdict] at h
      split at h
      · cases h
      · next hsome =>
          split at h
          · next hlate =>
              cases h
              exact ⟨listed, rfl, rfl, hsome, hlate⟩
          · cases h

/-- A sweep that times out has just listed, and found some of the names that its
first listing had found. -/
theorem Sweep.run_timeout {sw : Sweep τ} {s : σ} {now : τ} {remaining : List String}
    (h : (sw.run.course answer s now).outcome = some (.error (.timeout remaining))) :
    Clock.reached (sw.run.course answer s now).now (Clock.after now sw.timeout) = true ∧
      ∃ names before found t listed, answer.reply (.list sw.selector) s = .ok names ∧
        calls (sw.run.course answer s now).steps =
          before ++ [.asked found t (.list sw.selector) (.ok listed)] ∧
        remaining = listed.filter names.contains ∧ remaining ≠ [] := by
  cases sw.run_went answer s now with
  | refused hlisted hc =>
      rw [hc, Option.some.injEq, Except.error.injEq] at h
      exact absurd h (ClusterFailure.as_ne_timeout PreloadFailure.noConfusion)
  | cut hlisted hcut hc | failed hlisted hdeleted hfailed hc | empty hlisted hc =>
      rw [hc] at h
      cases h
  | @waited names hlisted hnames hdeleted hfailed hc =>
      rw [hc] at h ⊢
      obtain ⟨seen, last, hpolled, hout, -⟩ := sw.waiting_course answer s now names
      obtain ⟨listed, rfl, hremaining, hsome, hlate⟩ :=
        Sweep.verdict_timeout (hout.symm.trans (Course.eq_error_of_map h))
      obtain ⟨before, found, t, hlast, -⟩ := hpolled.last_step
      refine ⟨hlate, names, .asked s now (.list sw.selector) (.ok names) ::
        (calls (sw.deletions answer s now names).steps ++ before), found, t, listed, hlisted, ?_,
        hremaining, hsome⟩
      rw [calls_asked, calls_append, hlast, List.cons_append, List.append_assoc]

/-- A poll that finds none of the names that the first listing found ends a sweep
well. -/
theorem Sweep.run_gone {sw : Sweep τ} {s found : σ} {now t : τ} {names listed : List String}
    {before after : List (Step σ τ)}
    (h : calls (sw.run.course answer s now).steps =
      .asked s now (.list sw.selector) (.ok names) ::
        (before ++ .asked found t (.list sw.selector) (.ok listed) :: after))
    (hgone : ∀ name ∈ names, name ∉ listed) :
    after = [] ∧ (sw.run.course answer s now).outcome = some (.ok names) := by
  have hdeletes {names' : List String} (hpoll : .asked found t (.list sw.selector) (.ok listed) ∈
      calls (sw.deletions answer s now names').steps) : False := by
    obtain ⟨_, _, ⟨⟩⟩ := Sweep.deletions_requests (mem_of_mem_calls hpoll)
  cases sw.run_went answer s now with
  | refused hlisted hc =>
      rw [hc] at h
      injection h with heq
      injection heq with _ _ _ hreply
      cases hreply
  | cut hlisted hcut hc | failed hlisted hdeleted hfailed hc =>
      rw [hc, calls_asked] at h
      injection h with _ hrest
      exact (hdeletes (hrest ▸ List.mem_append_right _ List.mem_cons_self)).elim
  | empty hlisted hc =>
      rw [hc] at h
      injection h with _ hrest
      exact absurd hrest.symm (List.append_ne_nil_of_right_ne_nil _ (List.cons_ne_nil _ _))
  | waited hlisted hnames hdeleted hfailed hc =>
      rw [hc, calls_asked, calls_append] at h
      injection h with heq hrest
      injection heq with _ _ _ hreply
      injection hreply with hreply
      subst hreply
      obtain ⟨more, hpolls⟩ : ∃ more, calls (sw.waiting answer s now _).steps =
          more ++ .asked found t (.list sw.selector) (.ok listed) :: after := by
        rcases List.append_eq_append_iff.1 hrest with ⟨more, -, hpolls⟩ | ⟨more, hmore, hpolls⟩
        · exact ⟨more, hpolls⟩
        · cases more with
          | nil => exact ⟨[], hpolls.symm⟩
          | cons step more =>
              injection hpolls with hstep
              rw [← hstep] at hmore
              exact (hdeletes (hmore ▸ List.mem_append_right _ List.mem_cons_self)).elim
      obtain ⟨seen, last, hpolled, hout, -⟩ := sw.waiting_course answer s now _
      obtain ⟨hafter, rfl⟩ := hpolled.gone_last hpolls hgone
      have hnone : listed.filter (List.contains _) = [] :=
        List.filter_eq_nil_iff.2 fun name hname hcontains =>
          hgone name (List.contains_iff_mem.1 hcontains) hname
      rw [hc, hout, Sweep.verdict, if_pos hnone]
      exact ⟨hafter, rfl⟩

/-- On an exact clock, against whoever answers in no negative time, a sweep comes
to an end. It sleeps no more often than its interval goes into its timeout, and
every sleep begins before the deadline that its first reading of the clock sets.
It times out only past that deadline, when the last thing it did was to list and
find some of the names that it had found at first. A poll that finds none of them
ends it well, however late. -/
theorem sweep_deadline (exact : Clock.Exact seconds) (sw : Sweep τ)
    (hpos : 0 < seconds sw.interval) (answer : Answerer σ τ) (s : σ)
    (forward : answer.Forward seconds s) (now : τ) :
    let c := sw.run.course answer s now
    let deadline := seconds now + seconds sw.timeout
    c.outcome ≠ none ∧
      (c.steps.countP Step.isSleep : ℤ) ≤ max 0 ⌈seconds sw.timeout / seconds sw.interval⌉ ∧
      (∀ t duration, .slept t duration ∈ c.steps →
        duration = sw.interval ∧ seconds t < deadline) ∧
      (∀ remaining, c.outcome = some (.error (.timeout remaining)) →
        deadline ≤ seconds c.now ∧
          ∃ names before found t listed, answer.reply (.list sw.selector) s = .ok names ∧
            calls c.steps = before ++ [.asked found t (.list sw.selector) (.ok listed)] ∧
            remaining = listed.filter names.contains ∧ ∃ name ∈ names, name ∈ listed) ∧
      ∀ names before found t listed after,
        calls c.steps = .asked s now (.list sw.selector) (.ok names) ::
          (before ++ .asked found t (.list sw.selector) (.ok listed) :: after) →
        (∀ name ∈ names, name ∉ listed) → after = [] ∧ c.outcome = some (.ok names) := by
  intro c deadline
  have hdeadline : seconds (Clock.after now sw.timeout) = deadline := exact.after now sw.timeout
  refine ⟨sw.run_ends exact hpos forward now, ?_, fun t duration hslept => ?_,
    fun remaining htimeout => ?_, fun names before found t listed after => Sweep.run_gone⟩
  · have hsleeps := sw.run_sleeps exact hpos forward now
    rw [max_comm, ← Int.toNat_eq_max, Int.ceil_toNat]
    exact_mod_cast hsleeps
  · obtain ⟨hinterval, hearly⟩ := Sweep.run_slept hslept
    refine ⟨hinterval, not_le.1 fun hle => ?_⟩
    rw [← hdeadline, ← exact.reached, hearly] at hle
    cases hle
  · obtain ⟨hlate, names, before, found, t, listed, hlisted, hlast, rfl, hsome⟩ :=
      Sweep.run_timeout htimeout
    rw [exact.reached, hdeadline] at hlate
    exact ⟨hlate, names, before, found, t, listed, hlisted, hlast, rfl,
      exists_mem_of_filter_ne_nil hsome⟩

/-- A namespace that never goes. -/
def stuckScript : Script ℚ := { Script.empty 0 with list := [.ok ["stuck"]] }

/-- Whether a sweep ended because its time was over. -/
def isTimeout (outcome : Option (Except PreloadFailure (List String))) : Bool :=
  match outcome with
  | some (.error (.timeout _)) => true
  | _ => false

theorem sweep_deadline_stuck :
    let sw : Sweep ℚ := ⟨some markerSelector, 5, 2⟩
    let c := sw.run.course Script.answer stuckScript 0
    0 < sw.interval ∧ Answerer.Forward Script.answer id stuckScript ∧ c.outcome ≠ none ∧
      c.steps.countP Step.isSleep = 3 ∧ (3 : ℤ) ≤ max 0 ⌈(5 : ℚ) / 2⌉ ∧
      (∀ t duration, .slept t duration ∈ c.steps → duration = 2 ∧ t < 0 + 5) ∧
      ∃ remaining, c.outcome = some (.error (.timeout remaining)) ∧ 0 + 5 ≤ c.now := by
  intro sw c
  have forward : Answerer.Forward Script.answer id stuckScript :=
    Script.forward (show (0 : ℚ) ≤ 0 by decide)
  obtain ⟨hends, hsleeps, hslept, htimeout, -⟩ :=
    sweep_deadline Clock.exact_rat sw (by decide) Script.answer stuckScript forward 0
  have hthree : c.steps.countP Step.isSleep = 3 := by decide +kernel
  have hlate : isTimeout c.outcome = true := by decide +kernel
  unfold isTimeout at hlate
  split at hlate
  · next remaining hout =>
      refine ⟨by decide, forward, hends, hthree, ?_, hslept, remaining, hout, ?_⟩
      · have hbound : (c.steps.countP Step.isSleep : ℤ) ≤ max 0 ⌈(5 : ℚ) / 2⌉ := hsleeps
        rw [hthree] at hbound
        exact hbound
      · exact (htimeout remaining hout).1
  · cases hlate

end ImagePreload
