import ImagePreload.Cluster.Script
import ImagePreload.Proofs.Course
import Mathlib.Data.Rat.Floor

/-!
# Clocks with exact readings

A clock may round, and then adding a duration need not move it. On a clock whose
readings are exact numbers every sleep counts in full, time never runs back, and
the rounds that are allowed to a wait are enough for it.
-/

namespace ImagePreload

/-- Readings and durations of a clock are exact numbers of seconds, and a wait
is allowed as many intervals as its timeout takes. -/
structure Clock.Exact {τ : Type} [Clock τ] (seconds : τ → ℚ) : Prop where
  after : ∀ now duration, seconds (Clock.after now duration) = seconds now + seconds duration
  reached : ∀ now deadline, Clock.reached now deadline = true ↔ seconds deadline ≤ seconds now
  rounds : ∀ timeout interval, 0 < seconds interval →
    ⌈seconds timeout / seconds interval⌉₊ ≤ Clock.rounds timeout interval

/-- Whoever answers never takes negative time over it, from some state on. -/
def Answerer.Forward {σ τ : Type} (answer : Answerer σ τ) (seconds : τ → ℚ) (s : σ) : Prop :=
  ∀ s', answer.Reaches s s' →
    ∀ request duration, (answer request s').1 = some duration → 0 ≤ seconds duration

instance : Clock ℚ where
  after now duration := now + duration
  reached now deadline := decide (deadline ≤ now)
  rounds timeout interval := ⌈timeout / interval⌉₊
  text := toString

theorem Clock.exact_rat : Clock.Exact (id : ℚ → ℚ) where
  after _ _ := rfl
  reached _ _ := decide_eq_true_iff
  rounds _ _ _ := Nat.le_refl _

variable {ε τ α σ : Type} {answer : Answerer σ τ} {seconds : τ → ℚ}

theorem Answerer.Forward.of_reaches {s s' : σ} (forward : answer.Forward seconds s)
    (h : answer.Reaches s s') : answer.Forward seconds s' :=
  fun _ h' => forward _ (h.trans h')

theorem Answerer.Forward.after {s : σ} (forward : answer.Forward seconds s)
    (request : Request) : answer.Forward seconds (answer.after request s) :=
  forward.of_reaches (.after request .start)

theorem Script.answer_callTime (request : Request) (s : Script τ) :
    (Answerer.after Script.answer request s).callTime = s.callTime := by
  unfold Answerer.after Script.answer
  cases request with
  | createNamespace manifest => rfl
  | createWorkload manifest => rfl
  | delete name => rfl
  | list selector =>
      dsimp only
      split <;> rfl

theorem Script.answer_duration {request : Request} {s : Script τ} {duration : τ}
    (h : (Script.answer request s).1 = some duration) : duration = s.callTime := by
  unfold Script.answer at h
  cases request with
  | createNamespace manifest => exact (Option.some.inj h).symm
  | createWorkload manifest => exact (Option.some.inj h).symm
  | delete name => exact (Option.some.inj h).symm
  | list selector =>
      dsimp only at h
      split at h
      · cases h
      · exact (Option.some.inj h).symm
      · exact (Option.some.inj h).symm

/-- A script whose requests take no negative time. -/
theorem Script.forward {s : Script τ} (h : 0 ≤ seconds s.callTime) :
    Answerer.Forward Script.answer seconds s := by
  intro s' hreaches request duration hduration
  have hkept : s'.callTime = s.callTime := by
    clear hduration
    induction hreaches with
    | start => rfl
    | after request _ ih => rw [Script.answer_callTime, ih]
  rw [Script.answer_duration hduration, hkept]
  exact h

variable [Clock τ]

theorem Answerer.done_ge (exact : Clock.Exact seconds) {s : σ}
    (forward : answer.Forward seconds s) (request : Request) (now : τ) :
    seconds now ≤ seconds (answer.done request s now) := by
  unfold Answerer.done
  cases h : (answer request s).1 with
  | none => exact le_refl _
  | some duration =>
      have hd := forward s .start request duration h
      rw [Clock.afterWhile, exact.after]
      linarith

/-- The rounds that are allowed to a wait take it past its timeout. -/
theorem Clock.Exact.timeout_le (exact : Clock.Exact seconds) (timeout interval : τ)
    (hpos : 0 < seconds interval) :
    seconds timeout ≤ Clock.rounds timeout interval * seconds interval := by
  have hceil := Nat.le_ceil (seconds timeout / seconds interval)
  have hrounds : (⌈seconds timeout / seconds interval⌉₊ : ℚ) ≤ Clock.rounds timeout interval :=
    Nat.cast_le.2 (exact.rounds timeout interval hpos)
  exact (div_le_iff₀ hpos).1 (le_trans hceil hrounds)

/-- Time does not run back in a run whose sleeps are no negative durations. -/
theorem Program.course_now_ge (exact : Clock.Exact seconds) (p : Program ε τ α) {s : σ}
    {now : τ} (forward : answer.Forward seconds s)
    (hsleep : ∀ t duration, .slept t duration ∈ (p.course answer s now).steps →
      0 ≤ seconds duration) :
    seconds now ≤ seconds (p.course answer s now).now := by
  induction p generalizing s now with
  | done r => exact le_refl _
  | unfinished => exact le_refl _
  | note level message next ih =>
      exact ih forward fun t d h => hsleep t d (List.mem_cons_of_mem _ h)
  | ask request next ih =>
      exact le_trans (Answerer.done_ge exact forward request now)
        (ih _ (forward.after request) fun t d h => hsleep t d (List.mem_cons_of_mem _ h))
  | sleep duration next ih =>
      have hd := hsleep now duration List.mem_cons_self
      have hnext : seconds (Clock.after now duration) ≤ _ :=
        ih forward fun t d h => hsleep t d (List.mem_cons_of_mem _ h)
      rw [exact.after] at hnext
      exact le_trans (by linarith) hnext
  | clock next ih => exact ih now forward hsleep

end ImagePreload
