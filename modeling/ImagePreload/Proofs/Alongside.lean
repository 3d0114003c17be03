import ImagePreload.Proofs.ExactClock
import ImagePreload.Proofs.Orchestration

/-!
# Programs beside each other

A sweep reads the clock, but only to compare it with a deadline that it has taken from
the same clock. So two sweeps of which the second one is begun some seconds after the
first stay beside each other: whatever the one finds when it reads the clock, the other
finds that many seconds later, which is as long before a deadline of its own
(`Sweep.wait_alongside`). Two programs of that sort ask, sleep and note the same
(`Program.Alongside`), and their runs are the same but for the seconds between them
(`Program.Alongside.course`).
-/

namespace ImagePreload

variable {ε ε' τ α β σ : Type} {seconds : τ → ℚ} {δ : ℚ}

/-- Programs that do the same, the second one some seconds after the first. -/
inductive Program.Alongside (seconds : τ → ℚ) (δ : ℚ) :
    Program ε τ α → Program ε τ α → Prop where
  | done (r : Except ε α) : Alongside seconds δ (.done r) (.done r)
  | unfinished : Alongside seconds δ .unfinished .unfinished
  | note (level : Level) (message : String) {p q : Program ε τ α}
    (next : Alongside seconds δ p q) :
    Alongside seconds δ (.note level message p) (.note level message q)
  | ask (request : Request) {p q : Reply → Program ε τ α}
    (next : ∀ reply, Alongside seconds δ (p reply) (q reply)) :
    Alongside seconds δ (.ask request p) (.ask request q)
  | sleep (duration : τ) {p q : Program ε τ α} (next : Alongside seconds δ p q) :
    Alongside seconds δ (.sleep duration p) (.sleep duration q)
  | clock {p q : τ → Program ε τ α}
    (next : ∀ now now', seconds now' = seconds now + δ → Alongside seconds δ (p now) (q now')) :
    Alongside seconds δ (.clock p) (.clock q)

/-- Runs that are the same but for the seconds between them. -/
structure Course.Later (seconds : τ → ℚ) (δ : ℚ) (c c' : Course ε τ α σ) : Prop where
  events : c'.steps.map Step.event = c.steps.map Step.event
  outcome : c'.outcome = c.outcome
  state : c'.state = c.state
  now : seconds c'.now = seconds c.now + δ

namespace Course.Later

variable {c c' : Course ε τ α σ}

theorem precede {steps steps' : List (Step σ τ)} (h : c.Later seconds δ c')
    (same : steps'.map Step.event = steps.map Step.event) :
    (c.precede steps).Later seconds δ (c'.precede steps') where
  events := by
    rw [precede_steps, precede_steps, List.map_append, List.map_append, same, h.events]
  outcome := h.outcome
  state := h.state
  now := h.now

end Course.Later

namespace Program.Alongside

variable {p q : Program ε τ α}

theorem andThen (h : p.Alongside seconds δ q) {f g : Except ε α → Program ε' τ β}
    (h' : ∀ r, (f r).Alongside seconds δ (g r)) :
    (p.andThen f).Alongside seconds δ (q.andThen g) := by
  induction h with
  | done r => exact h' r
  | unfinished => exact .unfinished
  | note level message _ ih => exact .note level message ih
  | ask request _ ih => exact .ask request ih
  | sleep duration _ ih => exact .sleep duration ih
  | clock _ ih => exact .clock ih

theorem bind (h : p.Alongside seconds δ q) {f g : α → Program ε τ β}
    (h' : ∀ a, (f a).Alongside seconds δ (g a)) :
    (p.bind f).Alongside seconds δ (q.bind g) :=
  h.andThen fun
    | .ok a => h' a
    | .error e => .done (.error e)

theorem of_yields {r : Except ε α} (h : p.Yields r) : p.Alongside seconds δ p := by
  induction h with
  | done r => exact .done r
  | note _ message _ ih => exact .note _ message ih

variable [Clock τ]

/-- Programs beside each other have the same runs, as long after each other as they are begun. -/
theorem course (exact : Clock.Exact seconds) (h : p.Alongside seconds δ q)
    (answer : Answerer σ τ) (s : σ) {now now' : τ} (apart : seconds now' = seconds now + δ) :
    (p.course answer s now).Later seconds δ (q.course answer s now') := by
  induction h generalizing s now now' with
  | done r => exact ⟨rfl, rfl, rfl, apart⟩
  | unfinished => exact ⟨rfl, rfl, rfl, apart⟩
  | note level message _ ih => exact (ih s apart).precede rfl
  | ask request _ ih =>
      have hdone : seconds (answer.done request s now') =
          seconds (answer.done request s now) + δ := by
        unfold Answerer.done
        cases (answer request s).1 with
        | none => exact apart
        | some duration =>
            rw [Clock.afterWhile, Clock.afterWhile, exact.after, exact.after, apart]
            ring
      exact (ih _ _ hdone).precede rfl
  | sleep duration _ ih =>
      have hafter : seconds (Clock.after now' duration) =
          seconds (Clock.after now duration) + δ := by
        rw [exact.after, exact.after, apart]
        ring
      exact (ih s hafter).precede rfl
  | clock _ ih => exact ih now now' apart s apart

end Program.Alongside

/-! ## Sweeps -/

theorem deleteAll_alongside (names : List String) :
    (deleteAll names).Alongside seconds δ (deleteAll names) := by
  induction names with
  | nil => exact .done _
  | cons name names ih =>
      rw [deleteAll]
      refine .note _ _ (.ask _ fun reply => ?_)
      cases reply with
      | ok found => exact ih
      | error f =>
          dsimp only
          split
          · exact .done _
          · split
            · exact .note _ _ ih
            · exact .note _ _ (ih.bind fun failed => .done _)

theorem Sweep.remaining_alongside (sw : Sweep τ) (names : List String)
    {next next' : List String → Program PreloadFailure τ Unit}
    (h : ∀ remaining, (next remaining).Alongside seconds δ (next' remaining)) :
    (sw.remaining names next).Alongside seconds δ (sw.remaining names next') := by
  refine .ask _ fun reply => ?_
  cases reply with
  | ok found => exact h _
  | error f => exact .done _

theorem createStaging_alongside (name : String) (labels annotations : Entries) :
    (createStaging name labels annotations).Alongside seconds δ
      (createStaging name labels annotations) := by
  refine .note _ _ (.ask _ fun reply => ?_)
  cases reply with
  | ok names => exact .done _
  | error f => exact .done _

variable [Clock τ]

/-- Two waits whose deadlines are as far apart as their readings take the same rounds. -/
theorem Sweep.wait_alongside (exact : Clock.Exact seconds) (sw : Sweep τ) (names : List String)
    {deadline deadline' : τ} (apart : seconds deadline' = seconds deadline + δ) (rounds : Nat)
    (remaining : List String) :
    (sw.wait names deadline rounds remaining).Alongside seconds δ
      (sw.wait names deadline' rounds remaining) := by
  -- a reading is past its deadline exactly when the other one is past the other deadline
  have hreached {now now' : τ} (hnow : seconds now' = seconds now + δ) :
      Clock.reached now' deadline' = Clock.reached now deadline := by
    rw [Bool.eq_iff_iff, exact.reached, exact.reached, hnow, apart, add_le_add_iff_right]
  induction rounds generalizing remaining with
  | zero =>
      cases remaining with
      | nil => exact .done _
      | cons name others =>
          refine .clock fun now now' hnow => ?_
          rw [hreached hnow]
          split
          · exact .done _
          · exact .unfinished
  | succ rounds ih =>
      cases remaining with
      | nil => exact .done _
      | cons name others =>
          refine .clock fun now now' hnow => ?_
          rw [hreached hnow]
          split
          · exact .done _
          · exact .note _ _ (.sleep _ (sw.remaining_alongside names ih))

theorem Sweep.run_alongside (exact : Clock.Exact seconds) (sw : Sweep τ) :
    sw.run.Alongside seconds δ sw.run := by
  refine .clock fun start start' hstart => .ask _ fun reply => ?_
  have hdeadline : seconds (Clock.after start' sw.timeout) =
      seconds (Clock.after start sw.timeout) + δ := by
    rw [exact.after, exact.after, hstart]
    ring
  cases reply with
  | error f => exact .done _
  | ok names =>
      refine (deleteAll_alongside names).bind fun failed => ?_
      split
      · exact .done _
      · split
        · exact .done _
        · refine Program.Alongside.bind ?_ fun _ => .done _
          exact sw.remaining_alongside names (sw.wait_alongside exact names hdeadline _)

/-! ## Jobs -/

namespace PreLoader

theorem cleanupQuietly_alongside (exact : Clock.Exact seconds) (p : PreLoader τ) :
    p.cleanupQuietly.Alongside seconds δ p.cleanupQuietly := by
  refine (p.sweep.run_alongside exact).andThen fun r => ?_
  cases r with
  | ok names => exact .done _
  | error e =>
      dsimp only
      split
      · exact .note _ _ (.done _)
      · exact .done _

theorem startWorkload_alongside (exact : Clock.Exact seconds) (p : PreLoader τ)
    (images : List String) (nodeLabels : Entries) :
    (p.startWorkload images nodeLabels).Alongside seconds δ
      (p.startWorkload images nodeLabels) := by
  have hcreate : (p.createWorkload images nodeLabels).Alongside seconds δ
      (p.createWorkload images nodeLabels) := by
    refine .ask _ fun reply => ?_
    cases reply with
    | ok names => exact .done _
    | error f => exact .done _
  refine .note _ _ (hcreate.andThen fun r => ?_)
  cases r with
  | ok names => exact .done _
  | error e =>
      dsimp only
      split
      · exact (p.cleanupQuietly_alongside exact).bind fun _ => .done _
      · exact .done _

end PreLoader

end ImagePreload
