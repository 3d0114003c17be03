import ImagePreload.Preload.Staging
import ImagePreload.Proofs.ExactClock

/-!
# What a sweep does

A sweep has three parts: the first listing, the deletions and the wait. The
deletions are either all asked for or cut short by a failure that is no answer of
the cluster (`deleteAll_course`). The wait is a row of polls with a sleep between
any two, and what comes of it depends on the last poll alone
(`Sweep.remaining_course`). From these the ways are read off that a whole sweep
can go (`Sweep.run_went`), and everything else about sweeps follows from the ways.

A wait is allowed a number of rounds. They are no bound on an exact clock, where
the deadline passes before they are used up (`Sweep.run_ends`).
-/

namespace ImagePreload

/-- Whether a failure is one of cleaning up. -/
def PreloadFailure.isCleanup : PreloadFailure → Bool
  | .listing .. | .deletion .. | .timeout _ | .waiting .. => true
  | .render .. | .longImage | .namespaceCreate .. | .workloadCreate .. | .raised _ => false

theorem PreloadFailure.kind_of_isCleanup {e : PreloadFailure} (h : e.isCleanup = true) :
    e.kind = .own .cleanup := by
  cases e with
  | listing | deletion | timeout | waiting => rfl
  | render | longImage | namespaceCreate | workloadCreate | raised => cases h

theorem ClusterFailure.as_of_isAnswer {f : ClusterFailure} (h : f.isAnswer = true)
    (step : ClusterFailure → PreloadFailure) : f.as step = step f := if_pos h

theorem ClusterFailure.as_of_not_isAnswer {f : ClusterFailure} (h : f.isAnswer = false)
    (step : ClusterFailure → PreloadFailure) : f.as step = .raised f := by
  rw [ClusterFailure.as, h]
  rfl

namespace Step

variable {σ τ : Type}

/-- A deletion that failed for another reason than that the namespace was gone. -/
def failedDeletion? : Step σ τ → Option (String × ClusterFailure)
  | .asked _ _ (.delete name) (.error f) => if f.isNotFound then none else some (name, f)
  | _ => none

theorem failedDeletion?_ok (found : σ) (now : τ) (request : Request) (names : List String) :
    (asked found now request (.ok names)).failedDeletion? = none := by
  cases request <;> rfl

theorem failedDeletion?_gone {f : ClusterFailure} (h : f.isNotFound = true) (found : σ)
    (now : τ) (name : String) :
    (asked found now (.delete name) (.error f)).failedDeletion? = none := if_pos h

theorem failedDeletion?_failed {f : ClusterFailure} (h : f.isNotFound = false) (found : σ)
    (now : τ) (name : String) :
    (asked found now (.delete name) (.error f)).failedDeletion? = some (name, f) := by
  rw [failedDeletion?, h]
  rfl

end Step

variable {σ τ : Type}

/-! ## Deletions -/

/-- The course of deletions of which each was made: once for every namespace and
in order, with those that failed as the result. -/
structure Deleted (names : List String)
    (c : Course PreloadFailure τ (List (String × ClusterFailure)) σ) : Prop where
  events : (calls c.steps).map Step.event = names.map (fun name => .ask (.delete name))
  outcome : c.outcome = some (.ok ((calls c.steps).filterMap Step.failedDeletion?))

/-- The course of deletions that were cut short by a failure that is no answer. -/
structure CutShort (names : List String)
    (c : Course PreloadFailure τ (List (String × ClusterFailure)) σ) : Prop where
  events : ∃ asked, asked <+: names ∧
    (calls c.steps).map Step.event = asked.map (fun name => .ask (.delete name))
  outcome : ∃ f found t name, .asked found t (.delete name) (.error f) ∈ c.steps ∧
    f.isAnswer = false ∧ c.outcome = some (.error (.raised f))

theorem CutShort.cons {names : List String} (name : String) {steps : List (Step σ τ)}
    {found : σ} {t : τ} {reply : Reply}
    {c c' : Course PreloadFailure τ (List (String × ClusterFailure)) σ} (h : CutShort names c)
    (hsteps : c'.steps = steps ++ c.steps)
    (hcalls : calls steps = [.asked found t (.delete name) reply])
    (houtcome : ∀ e, c.outcome = some (.error e) → c'.outcome = some (.error e)) :
    CutShort (name :: names) c' := by
  obtain ⟨⟨asked, hprefix, hevents⟩, f, found', t', name', hmem, hf, hout⟩ := h
  constructor
  · refine ⟨name :: asked, (List.prefix_cons_inj name).2 hprefix, ?_⟩
    rw [hsteps, calls_append, hcalls, List.map_append, hevents]
    rfl
  · refine ⟨f, found', t', name', ?_, hf, houtcome _ hout⟩
    rw [hsteps]
    exact List.mem_append_right _ hmem

/-- Deletions all of whose failures are answers are not cut short. -/
theorem CutShort.not_answered {names : List String}
    {c : Course PreloadFailure τ (List (String × ClusterFailure)) σ} (h : CutShort names c) :
    ¬ ∀ step ∈ c.steps, step.Answered := by
  intro answered
  obtain ⟨f, found, t, name, hmem, hf, -⟩ := h.outcome
  have hanswer : f.isAnswer = true := answered _ hmem
  rw [hf] at hanswer
  cases hanswer

/-- A deletion in front: its failure, if it is one, joins the others. -/
theorem Deleted.cons {names : List String} (name : String) {steps : List (Step σ τ)}
    {found : σ} {t : τ} {reply : Reply} {failure : Option (String × ClusterFailure)}
    {c c' : Course PreloadFailure τ (List (String × ClusterFailure)) σ} (h : Deleted names c)
    (hsteps : c'.steps = steps ++ c.steps)
    (hcalls : calls steps = [.asked found t (.delete name) reply])
    (hfailure : (Step.asked found t (.delete name) reply).failedDeletion? = failure)
    (houtcome : ∀ more, c.outcome = some (.ok more) →
      c'.outcome = some (.ok (failure.toList ++ more))) :
    Deleted (name :: names) c' := by
  constructor
  · rw [hsteps, calls_append, hcalls, List.map_append, h.events]
    rfl
  · rw [houtcome _ h.outcome, hsteps, calls_append, hcalls, List.filterMap_append, ← hfailure]
    cases hstep : (Step.asked found t (.delete name) reply).failedDeletion? with
    | none => rw [List.filterMap_cons_none hstep]; rfl
    | some failure => rw [List.filterMap_cons_some hstep]; rfl

variable [Clock τ] {answer : Answerer σ τ}

theorem deleteAll_course (names : List String) (s : σ) (now : τ) :
    Deleted names ((deleteAll names).course answer s now) ∨
      CutShort names ((deleteAll names).course answer s now) := by
  induction names generalizing s now with
  | nil => exact Or.inl ⟨rfl, rfl⟩
  | cons name names ih =>
      have hrest := ih (answer.after (.delete name) s) (answer.done (.delete name) s now)
      rw [deleteAll]
      simp only [Program.course, Course.precede_precede]
      cases hreply : answer.reply (.delete name) s with
      | ok found =>
          simp only []
          rcases hrest with hall | hcut
          · exact Or.inl (hall.cons name rfl rfl (Step.failedDeletion?_ok ..) fun _ h => h)
          · exact Or.inr (hcut.cons name rfl rfl fun _ h => h)
      | error f =>
          simp only []
          cases hanswer : f.isAnswer with
          | false =>
              right
              simp only [Bool.not_false, if_true]
              refine ⟨⟨[name], List.prefix_append [name] names, rfl⟩,
                f, s, now, name, ?_, hanswer, rfl⟩
              exact List.mem_cons_of_mem _ List.mem_cons_self
          | true =>
              simp only [Bool.not_true, Bool.false_eq_true, if_false]
              cases hgone : f.isNotFound with
              | true =>
                  simp only [if_true, Program.course, Course.precede_precede]
                  rcases hrest with hall | hcut
                  · exact Or.inl
                      (hall.cons name rfl rfl (Step.failedDeletion?_gone hgone ..) fun _ h => h)
                  · exact Or.inr (hcut.cons name rfl rfl fun _ h => h)
              | false =>
                  simp only [Bool.false_eq_true, if_false, Program.course, Program.succeed,
                    Program.course_bind, Course.bind_result, Course.precede_precede]
                  rcases hrest with hall | hcut
                  · refine Or.inl (hall.cons name rfl rfl
                      (Step.failedDeletion?_failed hgone ..) fun more h => ?_)
                    simp only [Course.precede_outcome, h]
                    rfl
                  · refine Or.inr (hcut.cons name rfl rfl fun e h => ?_)
                    simp only [Course.precede_outcome, h]
                    rfl

/-! ## The wait -/

/-- The requests and sleeps of a wait with some number of sleeps. -/
def Sweep.polls (sw : Sweep τ) (rounds : Nat) : List (Event τ) :=
  .ask (.list sw.selector) ::
    (List.replicate rounds [.sleep sw.interval, .ask (.list sw.selector)]).flatten

omit [Clock τ] in
theorem Sweep.mem_polls {sw : Sweep τ} {rounds : Nat} {request : Request}
    (h : .ask request ∈ sw.polls rounds) : request = .list sw.selector := by
  rw [Sweep.polls, List.mem_cons] at h
  rcases h with heq | hmem
  · injection heq
  · obtain ⟨round, hround, hmem⟩ := List.mem_flatten.1 hmem
    rw [List.eq_of_mem_replicate hround] at hmem
    simpa using hmem

/-- What comes of a wait by the reply to its last poll, nothing if it would have
to go on. -/
def Sweep.verdict (sw : Sweep τ) (names : List String) (deadline : τ) (last : Reply) (now : τ) :
    Option (Except PreloadFailure Unit) :=
  match last with
  | .error f => some (.error (f.as (.waiting sw.selector)))
  | .ok found =>
    if found.filter names.contains = [] then some (.ok ())
    else if Clock.reached now deadline then
      some (.error (.timeout (found.filter names.contains)))
    else none

/-- The polls of a wait: listings with a sleep between any two. What the last of
them got is kept apart from what was seen before, which always had one of the
names in it; and no sleep began past the deadline. -/
structure Polled (sw : Sweep τ) (names : List String) (deadline : τ)
    (seen : List (List String)) (last : Reply) (steps : List (Step σ τ)) : Prop where
  events : steps.map Step.event = sw.polls seen.length
  replies : steps.filterMap Step.reply? = seen.map .ok ++ [last]
  present : ∀ found ∈ seen, ∃ name ∈ names, name ∈ found
  early : ∀ t duration, .slept t duration ∈ steps → Clock.reached t deadline = false

theorem Polled.single (sw : Sweep τ) (names : List String) (deadline : τ) (last : Reply)
    (found : σ) (now : τ) :
    Polled sw names deadline [] last [.asked found now (.list sw.selector) last] where
  events := rfl
  replies := rfl
  present := by simp
  early := by simp

theorem Polled.cons {sw : Sweep τ} {names : List String} {deadline : τ}
    {seen : List (List String)} {last : Reply} {steps : List (Step σ τ)} {found : List String}
    (state : σ) (now later : τ) (h : Polled sw names deadline seen last steps)
    (hfound : ∃ name ∈ names, name ∈ found) (hearly : Clock.reached later deadline = false) :
    Polled sw names deadline (found :: seen) last
      (.asked state now (.list sw.selector) (.ok found) :: .slept later sw.interval :: steps) where
  events := by
    rw [List.map_cons, List.map_cons, h.events]
    rfl
  replies := by
    rw [List.filterMap_cons_some (Step.reply?_asked ..),
      List.filterMap_cons_none (Step.reply?_slept ..), h.replies]
    rfl
  present := by
    intro other hmem
    rcases List.mem_cons.1 hmem with rfl | hmem
    · exact hfound
    · exact h.present other hmem
  early := by
    intro t duration hmem
    simp only [List.mem_cons, reduceCtorEq, false_or, Step.slept.injEq] at hmem
    rcases hmem with ⟨rfl, -⟩ | hmem
    · exact hearly
    · exact h.early t duration hmem

/-- A failure of the last poll is an answer when those of all requests are. -/
theorem Polled.last_isAnswer {sw : Sweep τ} {names : List String} {deadline : τ}
    {seen : List (List String)} {f : ClusterFailure} {steps : List (Step σ τ)}
    (h : Polled sw names deadline seen (.error f) steps)
    (answered : ∀ step ∈ steps, step.Answered) : f.isAnswer = true := by
  have hlast : .error f ∈ steps.filterMap Step.reply? := by
    rw [h.replies]
    exact List.mem_append_right _ List.mem_cons_self
  obtain ⟨step, hmem, hreply⟩ := List.mem_filterMap.1 hlast
  exact Step.isAnswer_of_reply? hreply (answered step hmem)

theorem exists_mem_of_filter_ne_nil {found names : List String}
    (h : found.filter names.contains ≠ []) : ∃ name ∈ names, name ∈ found := by
  obtain ⟨name, hname⟩ := List.exists_mem_of_ne_nil _ h
  obtain ⟨hfound, hnames⟩ := List.mem_filter.1 hname
  exact ⟨name, List.contains_iff_mem.1 hnames, hfound⟩

theorem Sweep.wait_course (sw : Sweep τ) (names : List String) (deadline : τ) (rounds : Nat)
    (remaining : List String) (s : σ) (now : τ) :
    (sw.wait names deadline rounds remaining).course answer s now =
      if remaining = [] then ⟨[], some (.ok ()), s, now⟩
      else if Clock.reached now deadline then ⟨[], some (.error (.timeout remaining)), s, now⟩
      else
        match rounds with
        | 0 => ⟨[], none, s, now⟩
        | rounds + 1 =>
          ((sw.remaining names (sw.wait names deadline rounds)).course answer s
            (Clock.after now sw.interval)).precede
              [.noted .debug
                ("Waiting for namespace(s) " ++ joinNames remaining ++ " to be deleted."),
                .slept now sw.interval] := by
  cases remaining with
  | nil => cases rounds <;> rfl
  | cons name others =>
      rw [if_neg (List.cons_ne_nil _ _)]
      cases rounds with
      | zero =>
          simp only [Sweep.wait, Program.course]
          split <;> rfl
      | succ rounds =>
          simp only [Sweep.wait, Program.course]
          split
          · rfl
          · simp [Program.course]

/-- A poll: what it finds of the names is handed on. -/
theorem Sweep.poll_course (sw : Sweep τ) (names : List String)
    (next : List String → Program PreloadFailure τ Unit) (s : σ) (now : τ) :
    (sw.remaining names next).course answer s now =
      match answer.reply (.list sw.selector) s with
      | .error f =>
        ⟨[.asked s now (.list sw.selector) (.error f)],
          some (.error (f.as (.waiting sw.selector))), answer.after (.list sw.selector) s,
          answer.done (.list sw.selector) s now⟩
      | .ok found =>
        ((next (found.filter names.contains)).course answer (answer.after (.list sw.selector) s)
          (answer.done (.list sw.selector) s now)).precede
            [.asked s now (.list sw.selector) (.ok found)] := by
  rw [Sweep.remaining, Program.course]
  cases answer.reply (.list sw.selector) s with
  | error f => rfl
  | ok found => rfl

/-- A wait polls until what it is about is gone, a poll fails or the deadline has
passed; it is left unfinished only after as many sleeps as it was allowed. -/
theorem Sweep.remaining_course (sw : Sweep τ) (names : List String) (deadline : τ)
    (rounds : Nat) (s : σ) (now : τ) :
    let c := (sw.remaining names (sw.wait names deadline rounds)).course answer s now
    ∃ seen last, Polled sw names deadline seen last (calls c.steps) ∧
      c.outcome = sw.verdict names deadline last c.now ∧
      (c.outcome = none → seen.length = rounds) := by
  rw [Sweep.poll_course]
  cases hreply : answer.reply (.list sw.selector) s with
  | error f => exact ⟨[], .error f, .single .., rfl, fun h => by cases h⟩
  | ok found =>
      simp only [Sweep.wait_course]
      by_cases hgone : found.filter names.contains = []
      · rw [if_pos hgone]
        exact ⟨[], .ok found, .single .., (if_pos hgone).symm, fun h => by cases h⟩
      · rw [if_neg hgone]
        cases hlate : Clock.reached (answer.done (.list sw.selector) s now) deadline with
        | true =>
            refine ⟨[], .ok found, .single .., ?_, fun h => by cases h⟩
            rw [Sweep.verdict, if_neg hgone]
            exact (if_pos hlate).symm
        | false =>
            rw [if_neg (by simp)]
            match rounds with
            | 0 =>
                refine ⟨[], .ok found, .single .., ?_, fun _ => rfl⟩
                rw [Sweep.verdict, if_neg hgone]
                exact (if_neg (by simp [hlate])).symm
            | rounds + 1 =>
                -- what this poll found joins what was seen by the rest of the wait
                obtain ⟨seen, last, hpolled, hout, hnone⟩ :=
                  Sweep.remaining_course sw names deadline rounds
                    (answer.after (.list sw.selector) s)
                    (Clock.after (answer.done (.list sw.selector) s now) sw.interval)
                exact ⟨found :: seen, last,
                  hpolled.cons s now _ (exists_mem_of_filter_ne_nil hgone) hlate, hout,
                  fun h => congrArg Nat.succ (hnone h)⟩
termination_by rounds

/-- A wait comes to an end when the sleeps that it is allowed cover what is left
until the deadline. -/
theorem Sweep.remaining_ends {seconds : τ → ℚ} (exact : Clock.Exact seconds) (sw : Sweep τ)
    (names : List String) (deadline : τ) (rounds : Nat) {s : σ} {now : τ}
    (forward : answer.Forward seconds s)
    (h : seconds deadline ≤ seconds now + rounds * seconds sw.interval) :
    ((sw.remaining names (sw.wait names deadline rounds)).course answer s now).outcome ≠
      none := by
  rw [Sweep.poll_course]
  cases hreply : answer.reply (.list sw.selector) s with
  | error f => simp
  | ok found =>
      have hnow := Answerer.done_ge exact forward (.list sw.selector) now
      simp only [Sweep.wait_course]
      split
      · simp
      · split
        · simp
        · next hlate =>
            match rounds with
            | 0 =>
                -- with no round left the deadline has passed
                refine absurd ((exact.reached _ _).2 ?_) hlate
                rw [Nat.cast_zero, zero_mul, add_zero] at h
                exact le_trans h hnow
            | rounds + 1 =>
                refine Sweep.remaining_ends exact sw names deadline rounds (forward.after _) ?_
                rw [exact.after]
                push_cast at h
                linarith
termination_by rounds

/-! ## The whole sweep -/

/-- The deletions of a sweep that found some names. -/
def Sweep.deletions (sw : Sweep τ) (answer : Answerer σ τ) (s : σ) (now : τ)
    (names : List String) : Course PreloadFailure τ (List (String × ClusterFailure)) σ :=
  (deleteAll names).course answer (answer.after (.list sw.selector) s)
    (answer.done (.list sw.selector) s now)

/-- The wait of a sweep that found some names, once it has asked for their
deletion. -/
def Sweep.waiting (sw : Sweep τ) (answer : Answerer σ τ) (s : σ) (now : τ)
    (names : List String) : Course PreloadFailure τ Unit σ :=
  (sw.remaining names (sw.wait names (Clock.after now sw.timeout)
    (Clock.rounds sw.timeout sw.interval))).course answer
      (sw.deletions answer s now names).state (sw.deletions answer s now names).now

theorem Sweep.waiting_course (sw : Sweep τ) (answer : Answerer σ τ) (s : σ) (now : τ)
    (names : List String) :
    let w := sw.waiting answer s now names
    ∃ seen last, Polled sw names (Clock.after now sw.timeout) seen last (calls w.steps) ∧
      w.outcome = sw.verdict names (Clock.after now sw.timeout) last w.now ∧
      (w.outcome = none → seen.length = Clock.rounds sw.timeout sw.interval) :=
  sw.remaining_course names _ _ _ _

/-- Deletions do not sleep. -/
theorem Sweep.deletions_sleepless {sw : Sweep τ} {s : σ} {now t duration : τ}
    {names : List String} : .slept t duration ∉ (sw.deletions answer s now names).steps := by
  intro hmem
  have hslept : Event.sleep duration ∈
      (calls (sw.deletions answer s now names).steps).map Step.event :=
    List.mem_map.2 ⟨_, List.mem_filter.2 ⟨hmem, rfl⟩, rfl⟩
  have hdeletions : Deleted names (sw.deletions answer s now names) ∨
      CutShort names (sw.deletions answer s now names) := deleteAll_course names _ _
  rcases hdeletions with hall | hcut
  · rw [hall.events] at hslept
    obtain ⟨_, _, ⟨⟩⟩ := List.mem_map.1 hslept
  · obtain ⟨asked, -, hevents⟩ := hcut.events
    rw [hevents] at hslept
    obtain ⟨_, _, ⟨⟩⟩ := List.mem_map.1 hslept

/-- The wait of a sweep does not begin before the sweep. -/
theorem Sweep.deletions_now_ge {seconds : τ → ℚ} (exact : Clock.Exact seconds) (sw : Sweep τ)
    {s : σ} (forward : answer.Forward seconds s) (now : τ) (names : List String) :
    seconds now ≤ seconds (sw.deletions answer s now names).now :=
  le_trans (Answerer.done_ge exact forward (.list sw.selector) now)
    (Program.course_now_ge exact _ (forward.after _) fun _ _ hmem =>
      absurd hmem Sweep.deletions_sleepless)

/-- On an exact clock the wait of a sweep ends. -/
theorem Sweep.waiting_ends {seconds : τ → ℚ} (exact : Clock.Exact seconds) (sw : Sweep τ)
    (hpos : 0 < seconds sw.interval) {s : σ} (forward : answer.Forward seconds s) (now : τ)
    (names : List String) : (sw.waiting answer s now names).outcome ≠ none := by
  have hreaches : answer.Reaches s (sw.deletions answer s now names).state :=
    (Answerer.Reaches.after _ .start).trans (Program.course_reaches ..)
  refine Sweep.remaining_ends exact sw names _ _ (forward.of_reaches hreaches) ?_
  have hbegun := sw.deletions_now_ge exact forward now names
  have htimeout := exact.timeout_le sw.timeout sw.interval hpos
  rw [exact.after]
  linarith

theorem Sweep.verdict_isCleanup {sw : Sweep τ} {names : List String} {deadline now : τ}
    {last : Reply} {e : PreloadFailure} (hlast : ∀ f, last = .error f → f.isAnswer = true)
    (h : sw.verdict names deadline last now = some (.error e)) : e.isCleanup = true := by
  cases last with
  | error f =>
      rw [Sweep.verdict, ClusterFailure.as_of_isAnswer (hlast f rfl)] at h
      cases h
      rfl
  | ok found =>
      simp only [Sweep.verdict] at h
      split at h
      · cases h
      · split at h
        · cases h
          rfl
        · cases h

/-- The ways a sweep can go: its listing is refused, its deletions are cut short,
some of them fail, there are none, or it waits. -/
inductive Sweep.Went (sw : Sweep τ) (answer : Answerer σ τ) (s : σ) (now : τ)
    (c : Course PreloadFailure τ (List String) σ) : Prop where
  | refused {f : ClusterFailure} (listed : answer.reply (.list sw.selector) s = .error f)
    (course : c = ⟨[.asked s now (.list sw.selector) (.error f)],
      some (.error (f.as (.listing sw.selector))), answer.after (.list sw.selector) s,
      answer.done (.list sw.selector) s now⟩)
  | cut {names : List String} {f : ClusterFailure}
    (listed : answer.reply (.list sw.selector) s = .ok names)
    (short : CutShort names (sw.deletions answer s now names))
    (course : c = ⟨.asked s now (.list sw.selector) (.ok names) ::
      (sw.deletions answer s now names).steps, some (.error (.raised f)),
      (sw.deletions answer s now names).state, (sw.deletions answer s now names).now⟩)
  | failed {names : List String} (listed : answer.reply (.list sw.selector) s = .ok names)
    (deleted : Deleted names (sw.deletions answer s now names))
    (someFailed : (calls (sw.deletions answer s now names).steps).filterMap
      Step.failedDeletion? ≠ [])
    (course : c = ⟨.asked s now (.list sw.selector) (.ok names) ::
      (sw.deletions answer s now names).steps,
      some (.error (.deletion sw.selector
        ((calls (sw.deletions answer s now names).steps).filterMap Step.failedDeletion?))),
      (sw.deletions answer s now names).state, (sw.deletions answer s now names).now⟩)
  | empty (listed : answer.reply (.list sw.selector) s = .ok [])
    (course : c = ⟨[.asked s now (.list sw.selector) (.ok [])], some (.ok []),
      answer.after (.list sw.selector) s, answer.done (.list sw.selector) s now⟩)
  | waited {names : List String} (listed : answer.reply (.list sw.selector) s = .ok names)
    (foundSome : names ≠ [])
    (deleted : Deleted names (sw.deletions answer s now names))
    (noneFailed : (calls (sw.deletions answer s now names).steps).filterMap
      Step.failedDeletion? = [])
    (course : c = ⟨.asked s now (.list sw.selector) (.ok names) ::
      ((sw.deletions answer s now names).steps ++ (sw.waiting answer s now names).steps),
      (sw.waiting answer s now names).outcome.map (Except.map fun _ => names),
      (sw.waiting answer s now names).state, (sw.waiting answer s now names).now⟩)

theorem Sweep.run_course_listed (sw : Sweep τ) {s : σ} {names : List String}
    (hlisted : answer.reply (.list sw.selector) s = .ok names) (now : τ) :
    sw.run.course answer s now =
      ((sw.deletions answer s now names).bind fun failed s t =>
        (if !failed.isEmpty then Program.fail (.deletion sw.selector failed)
          else if names.isEmpty then Program.succeed names
          else
            (sw.remaining names (sw.wait names (Clock.after now sw.timeout)
              (Clock.rounds sw.timeout sw.interval))).bind
                fun _ => Program.succeed names).course answer s t).precede
        [.asked s now (.list sw.selector) (.ok names)] := by
  rw [Sweep.run, Program.course, Program.course, hlisted]
  simp only [Program.course_bind]
  rfl

theorem Sweep.run_went (sw : Sweep τ) (answer : Answerer σ τ) (s : σ) (now : τ) :
    sw.Went answer s now (sw.run.course answer s now) := by
  cases hlisted : answer.reply (.list sw.selector) s with
  | error f =>
      refine .refused hlisted ?_
      rw [Sweep.run, Program.course, Program.course, hlisted]
      rfl
  | ok names =>
      have hcourse := sw.run_course_listed hlisted now
      have hdeletions : Deleted names (sw.deletions answer s now names) ∨
          CutShort names (sw.deletions answer s now names) := deleteAll_course names _ _
      rcases hdeletions with hdeleted | hcut
      · rw [Course.bind_of_ok hdeleted.outcome] at hcourse
        by_cases hfailed : (calls (sw.deletions answer s now names).steps).filterMap
            Step.failedDeletion? = []
        · rw [hfailed, if_neg (by simp)] at hcourse
          by_cases hnames : names = []
          · subst hnames
            exact .empty hlisted hcourse
          · rw [if_neg (by simpa using hnames), Program.course_bind] at hcourse
            simp only [Program.succeed, Program.course, Course.bind_result] at hcourse
            exact .waited hlisted hnames hdeleted hfailed hcourse
        · rw [if_pos (by simpa using hfailed)] at hcourse
          simp only [Program.fail, Program.course, Course.precede_mk, List.append_nil] at hcourse
          exact .failed hlisted hdeleted hfailed hcourse
      · obtain ⟨f, -, -, -, -, -, hout⟩ := hcut.outcome
        rw [Course.bind_of_error hout] at hcourse
        exact .cut hlisted hcut hcourse

/-- A sweep begins with a listing. -/
theorem Sweep.run_lists (sw : Sweep τ) (answer : Answerer σ τ) (s : σ) (now : τ) :
    .asked s now (.list sw.selector) (answer.reply (.list sw.selector) s) ∈
      (sw.run.course answer s now).steps := by
  rw [Sweep.run, Program.course, Program.course]
  exact List.mem_cons_self

theorem Sweep.deletions_requests {sw : Sweep τ} {s found : σ} {now t : τ} {names : List String}
    {request : Request} {reply : Reply}
    (h : .asked found t request reply ∈ (sw.deletions answer s now names).steps) :
    ∃ name ∈ names, request = .delete name := by
  have hask := ask_mem_of_asked_mem h
  have hdeletions : Deleted names (sw.deletions answer s now names) ∨
      CutShort names (sw.deletions answer s now names) := deleteAll_course names _ _
  rcases hdeletions with hall | hcut
  · rw [hall.events] at hask
    obtain ⟨name, hname, heq⟩ := List.mem_map.1 hask
    injection heq with heq
    exact ⟨name, hname, heq.symm⟩
  · obtain ⟨asked, hprefix, hevents⟩ := hcut.events
    rw [hevents] at hask
    obtain ⟨name, hname, heq⟩ := List.mem_map.1 hask
    injection heq with heq
    exact ⟨name, hprefix.subset hname, heq.symm⟩

theorem Sweep.waiting_requests {sw : Sweep τ} {s found : σ} {now t : τ} {names : List String}
    {request : Request} {reply : Reply}
    (h : .asked found t request reply ∈ (sw.waiting answer s now names).steps) :
    request = .list sw.selector := by
  obtain ⟨seen, last, hpolled, -, -⟩ := sw.waiting_course answer s now names
  have hask := ask_mem_of_asked_mem h
  rw [hpolled.events] at hask
  exact Sweep.mem_polls hask

/-- A sweep asks for listings, and for the deletion of what its first one found. -/
theorem Sweep.run_requests {sw : Sweep τ} {s found : σ} {now t : τ} {request : Request}
    {reply : Reply} (h : .asked found t request reply ∈ (sw.run.course answer s now).steps) :
    request = .list sw.selector ∨
      ∃ names, answer.reply (.list sw.selector) s = .ok names ∧
        ∃ name ∈ names, request = .delete name := by
  cases sw.run_went answer s now with
  | refused hlisted hc | empty hlisted hc =>
      rw [hc, List.mem_singleton] at h
      injection h with _ _ hrequest
      exact Or.inl hrequest
  | cut hlisted hcut hc | failed hlisted hdeleted hfailed hc =>
      rw [hc, List.mem_cons] at h
      rcases h with heq | hmem
      · injection heq with _ _ hrequest
        exact Or.inl hrequest
      · exact Or.inr ⟨_, hlisted, Sweep.deletions_requests hmem⟩
  | waited hlisted hnames hdeleted hfailed hc =>
      rw [hc, List.mem_cons, List.mem_append] at h
      rcases h with heq | hmem | hmem
      · injection heq with _ _ hrequest
        exact Or.inl hrequest
      · exact Or.inr ⟨_, hlisted, Sweep.deletions_requests hmem⟩
      · exact Or.inl (Sweep.waiting_requests hmem)

theorem Sweep.run_creates_none {sw : Sweep τ} {s found : σ} {now t : τ} {request : Request}
    {reply : Reply} (h : .asked found t request reply ∈ (sw.run.course answer s now).steps)
    (manifest : Value) :
    request ≠ .createNamespace manifest ∧ request ≠ .createWorkload manifest := by
  rcases Sweep.run_requests h with hlist | ⟨_, -, name, -, hdelete⟩
  · rw [hlist]
    exact ⟨Request.noConfusion, Request.noConfusion⟩
  · rw [hdelete]
    exact ⟨Request.noConfusion, Request.noConfusion⟩

/-- The failure of a sweep is one of cleaning up when those of its requests are
answers. -/
theorem Sweep.run_isCleanup (sw : Sweep τ) {s : σ} {now : τ}
    (answered : ∀ step ∈ (sw.run.course answer s now).steps, step.Answered) {e : PreloadFailure}
    (h : (sw.run.course answer s now).outcome = some (.error e)) : e.isCleanup = true := by
  cases sw.run_went answer s now with
  | refused hlisted hc =>
      rw [hc] at h answered
      have hf : ClusterFailure.isAnswer _ = true := answered _ List.mem_cons_self
      cases h
      rw [ClusterFailure.as_of_isAnswer hf]
      rfl
  | cut hlisted hcut hc =>
      rw [hc] at answered
      exact absurd (fun _ hmem => answered _ (List.mem_cons_of_mem _ hmem)) hcut.not_answered
  | failed hlisted hdeleted hfailed hc =>
      rw [hc] at h
      cases h
      rfl
  | empty hlisted hc =>
      rw [hc] at h
      cases h
  | @waited names hlisted hnames hdeleted hfailed hc =>
      obtain ⟨seen, last, hpolled, hout, -⟩ := sw.waiting_course answer s now names
      rw [hc] at h answered
      refine Sweep.verdict_isCleanup ?_ (hout.symm.trans (Course.eq_error_of_map h))
      rintro f rfl
      exact hpolled.last_isAnswer fun step hmem => answered step
        (List.mem_cons_of_mem _ (List.mem_append_right _ (mem_of_mem_calls hmem)))

theorem Sweep.run_kind (sw : Sweep τ) {s : σ} {now : τ}
    (answered : ∀ step ∈ (sw.run.course answer s now).steps, step.Answered) {e : PreloadFailure}
    (h : (sw.run.course answer s now).outcome = some (.error e)) : e.kind = .own .cleanup :=
  PreloadFailure.kind_of_isCleanup (sw.run_isCleanup answered h)

/-- On an exact clock a sweep comes to an end. -/
theorem Sweep.run_ends {seconds : τ → ℚ} (exact : Clock.Exact seconds) (sw : Sweep τ)
    (hpos : 0 < seconds sw.interval) {s : σ} (forward : answer.Forward seconds s) (now : τ) :
    (sw.run.course answer s now).outcome ≠ none := by
  cases sw.run_went answer s now with
  | refused _ hc | cut _ _ hc | failed _ _ _ hc | empty _ hc =>
      rw [hc]
      exact Option.some_ne_none _
  | @waited names _ _ _ _ hc =>
      rw [hc]
      have hends := sw.waiting_ends exact hpos forward now names
      exact fun h => hends (Option.map_eq_none_iff.1 h)

/-- A wait whose failing polls are answers, by what its last poll got. -/
theorem Sweep.waiting_answered (sw : Sweep τ) (answer : Answerer σ τ) (s : σ) (now : τ)
    (names : List String)
    (answered : ∀ step ∈ (sw.waiting answer s now names).steps, step.Answered) :
    let w := sw.waiting answer s now names
    let deadline := Clock.after now sw.timeout
    ∃ seen last, Polled sw names deadline seen last (calls w.steps) ∧
      match last with
      | .error f => w.outcome = some (.error (.waiting sw.selector f))
      | .ok found =>
        if found.filter names.contains = [] then w.outcome = some (.ok ())
        else if Clock.reached w.now deadline then
          w.outcome = some (.error (.timeout (found.filter names.contains)))
        else w.outcome = none ∧ seen.length = Clock.rounds sw.timeout sw.interval := by
  intro w deadline
  obtain ⟨seen, last, hpolled, hout, hnone⟩ := sw.waiting_course answer s now names
  refine ⟨seen, last, hpolled, ?_⟩
  cases last with
  | error f =>
      have hf : f.isAnswer = true := hpolled.last_isAnswer fun step hmem =>
        answered step (mem_of_mem_calls hmem)
      rw [Sweep.verdict, ClusterFailure.as_of_isAnswer hf] at hout
      exact hout
  | ok found =>
      simp only [Sweep.verdict] at hout ⊢
      split
      · next hgone =>
          rw [if_pos hgone] at hout
          exact hout
      · next hsome =>
          rw [if_neg hsome] at hout
          split
          · next hlate =>
              rw [if_pos hlate] at hout
              exact hout
          · next hearly =>
              rw [if_neg hearly] at hout
              exact ⟨hout, hnone hout⟩

/-- A sweep whose failing requests are answers of the cluster. It lists first,
and a failure of that ends it. Then it asks for the deletion of each namespace it
found, once and in order, and for no other ever. Deletions that failed, other
than because the namespace was gone, end it with all of them in the message. With
nothing found it is done at once. Else it polls with the same selector, sleeping
the interval between polls, until none of those namespaces is found, a poll fails
or the deadline has passed; on an exact clock one of these happens. -/
theorem sweep_run_complete (sw : Sweep τ) (answer : Answerer σ τ) (s : σ) (now : τ)
    (answered : ∀ step ∈ (sw.run.course answer s now).steps, step.Answered) :
    let c := sw.run.course answer s now
    let deadline := Clock.after now sw.timeout
    (∃ deletions polls,
      calls c.steps = .asked s now (.list sw.selector) (answer.reply (.list sw.selector) s) ::
        (deletions ++ polls) ∧
      match answer.reply (.list sw.selector) s with
      | .error f =>
        deletions = [] ∧ polls = [] ∧ c.outcome = some (.error (.listing sw.selector f))
      | .ok names =>
        deletions.map Step.event = names.map (fun name => .ask (.delete name)) ∧
        let failed := deletions.filterMap Step.failedDeletion?
        if failed ≠ [] then
          polls = [] ∧ ∃ e, c.outcome = some (.error e) ∧
            e.message = "Pre-load: Deletion of namespaces with selector " ++ sw.selector.text ++
              " failed: " ++
              "; ".intercalate (failed.map fun (name, f) => name ++ ": " ++ f.message)
        else if names = [] then polls = [] ∧ c.outcome = some (.ok [])
        else
          ∃ seen last, Polled sw names deadline seen last polls ∧
            match last with
            | .error f => c.outcome = some (.error (.waiting sw.selector f))
            | .ok found =>
              if found.filter names.contains = [] then c.outcome = some (.ok names)
              else if Clock.reached c.now deadline then
                c.outcome = some (.error (.timeout (found.filter names.contains)))
              else c.outcome = none ∧ seen.length = Clock.rounds sw.timeout sw.interval) ∧
    (∀ e, c.outcome = some (.error e) → e.kind = .own .cleanup) ∧
    ∀ seconds : τ → ℚ, Clock.Exact seconds → answer.Forward seconds s →
      0 < seconds sw.interval → c.outcome ≠ none := by
  intro c deadline
  refine ⟨?_, fun _ => sw.run_kind answered, fun seconds exact forward hpos =>
    sw.run_ends exact hpos forward now⟩
  cases sw.run_went answer s now with
  | @refused f hlisted hc =>
      rw [hlisted]
      refine ⟨[], [], ?_, rfl, rfl, ?_⟩
      · rw [show c = _ from hc]
        rfl
      · have hf : f.isAnswer = true := by
          refine answered (.asked s now (.list sw.selector) (.error f)) ?_
          rw [hc]
          exact List.mem_cons_self
        rw [show c = _ from hc, ClusterFailure.as_of_isAnswer hf]
  | cut hlisted hcut hc =>
      rw [hc] at answered
      exact absurd (fun _ hmem => answered _ (List.mem_cons_of_mem _ hmem)) hcut.not_answered
  | @failed names hlisted hdeleted hfailed hc =>
      rw [hlisted]
      refine ⟨calls (sw.deletions answer s now names).steps, [], ?_, hdeleted.events, ?_⟩
      · rw [show c = _ from hc, calls_asked, List.append_nil]
      · rw [if_pos hfailed]
        exact ⟨rfl, _, congrArg Course.outcome hc, rfl⟩
  | empty hlisted hc =>
      rw [hlisted]
      refine ⟨[], [], ?_, rfl, ?_⟩
      · rw [show c = _ from hc]
        rfl
      · exact ⟨rfl, congrArg Course.outcome hc⟩
  | @waited names hlisted hnames hdeleted hfailed hc =>
      have hwaiting : ∀ step ∈ (sw.waiting answer s now names).steps, step.Answered := by
        rw [hc] at answered
        exact fun step hmem =>
          answered step (List.mem_cons_of_mem _ (List.mem_append_right _ hmem))
      obtain ⟨seen, last, hpolled, hlast⟩ := sw.waiting_answered answer s now names hwaiting
      rw [hlisted]
      refine ⟨calls (sw.deletions answer s now names).steps,
        calls (sw.waiting answer s now names).steps, ?_, hdeleted.events, ?_⟩
      · rw [show c = _ from hc, calls_asked, calls_append]
      · rw [if_neg (not_not.2 hfailed), if_neg hnames]
        refine ⟨seen, last, hpolled, ?_⟩
        have houtcome : c.outcome = _ := congrArg Course.outcome hc
        have hnow : c.now = _ := congrArg Course.now hc
        rw [houtcome, hnow]
        cases last with
        | error f =>
            rw [hlast]
            rfl
        | ok found =>
            simp only at hlast ⊢
            split at hlast
            · next hgone =>
                rw [if_pos hgone, hlast]
                rfl
            · next hsome =>
                rw [if_neg hsome]
                split at hlast
                · next hlate =>
                    rw [if_pos hlate, hlast]
                    rfl
                · next hearly =>
                    rw [if_neg hearly, hlast.1]
                    exact ⟨rfl, hlast.2⟩

/-- One namespace is gone before its turn, one may not be deleted. -/
def reluctantScript : Script ℚ :=
  { Script.empty 1 with
    list := [.ok ["gone", "kept", "left"]]
    delete := [("gone", [some ⟨.transport "HTTPError", some 404, "not found"⟩]),
      ("kept", [some ⟨.httpStatus, some 403, "forbidden"⟩])] }

theorem sweep_run_reluctant :
    let sw : Sweep ℚ := ⟨some markerSelector, 10, 2⟩
    let c := sw.run.course Script.answer reluctantScript 0
    (∀ step ∈ c.steps, step.Answered) ∧ 0 < sw.interval ∧
      Answerer.Forward Script.answer id reluctantScript ∧
      (∃ deletions polls, calls c.steps = .asked reluctantScript 0 (.list sw.selector)
          (.ok ["gone", "kept", "left"]) :: (deletions ++ polls) ∧
        deletions.map Step.event =
          [.ask (.delete "gone"), .ask (.delete "kept"), .ask (.delete "left")]) ∧
      c.outcome ≠ none := by
  intro sw c
  have answered : ∀ step ∈ c.steps, step.Answered := by decide +kernel
  have forward : Answerer.Forward Script.answer id reluctantScript :=
    Script.forward (show (0 : ℚ) ≤ 1 by decide)
  obtain ⟨⟨deletions, polls, hsteps, hevents, -⟩, -, hends⟩ :=
    sweep_run_complete sw Script.answer reluctantScript 0 answered
  exact ⟨answered, by decide, forward, ⟨deletions, polls, hsteps, hevents⟩,
    hends id Clock.exact_rat forward (by decide)⟩

end ImagePreload
