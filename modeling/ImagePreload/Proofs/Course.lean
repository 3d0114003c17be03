import ImagePreload.Program.Run

/-!
# What a run goes through

The events of a run say what was done, but not what came back. Most properties
are about just that: what a program does after a refusal, what the cluster
looked like when a deletion was asked for, what the clock said when a sleep
began. The course of a run has its events together with what each of them
found and got. It is the run with nothing changed but that: forgetting the
additions gives the run back (`run_eq_course`).

Courses compose. What a program goes through that is built with `andThen` or
`bind` is what its parts go through, one after the other (`course_andThen`,
`course_bind`), so that the course of a large program is computed from those of
its parts. What every permitted request keeps is kept throughout
(`course_keeps`).
-/

namespace ImagePreload

namespace Answerer

variable {σ τ : Type}

/-- What a request gets in a state. -/
def reply (answer : Answerer σ τ) (request : Request) (s : σ) : Reply :=
  (answer request s).2.1

/-- The state that a request leaves behind. -/
def after (answer : Answerer σ τ) (request : Request) (s : σ) : σ :=
  (answer request s).2.2

/-- What the clock says once a request has been answered. -/
def done [Clock τ] (answer : Answerer σ τ) (request : Request) (s : σ) (now : τ) : τ :=
  Clock.afterWhile now (answer request s).1

/-- The states that requests can lead to. -/
inductive Reaches (answer : Answerer σ τ) (s : σ) : σ → Prop where
  | start : Reaches answer s s
  | after {s' : σ} (request : Request) (h : Reaches answer s s') :
    Reaches answer s (answer.after request s')

theorem Reaches.trans {answer : Answerer σ τ} {s₁ s₂ s₃ : σ} (h₁ : answer.Reaches s₁ s₂)
    (h₂ : answer.Reaches s₂ s₃) : answer.Reaches s₁ s₃ := by
  induction h₂ with
  | start => exact h₁
  | after request _ ih => exact .after request ih

end Answerer

/-- An event of a run with what it found and what it got. -/
inductive Step (σ τ : Type) where
  | noted (level : Level) (message : String)
  | asked (found : σ) (now : τ) (request : Request) (reply : Reply)
  | slept (now : τ) (duration : τ)

namespace Step

variable {σ τ : Type}

def event : Step σ τ → Event τ
  | .noted level message => .log level message
  | .asked _ _ request _ => .ask request
  | .slept _ duration => .sleep duration

/-- Whether a step reaches beyond the program's own log. -/
def isCall : Step σ τ → Bool
  | .noted .. => false
  | _ => true

def reply? : Step σ τ → Option Reply
  | .asked _ _ _ reply => some reply
  | _ => none

@[simp] theorem reply?_asked (found : σ) (now : τ) (request : Request) (reply : Reply) :
    (asked found now request reply).reply? = some reply := rfl

@[simp] theorem reply?_slept (now duration : τ) :
    (slept now duration : Step σ τ).reply? = none := rfl

/-- A request that did not fail, or that failed with an answer. -/
def Answered : Step σ τ → Prop
  | .asked _ _ _ (.error f) => f.isAnswer = true
  | _ => True

instance (step : Step σ τ) : Decidable step.Answered :=
  match step with
  | .asked _ _ _ (.error f) => inferInstanceAs (Decidable (f.isAnswer = true))
  | .asked _ _ _ (.ok _) | .noted .. | .slept .. => isTrue trivial

theorem isAnswer_of_reply? {step : Step σ τ} {f : ClusterFailure}
    (hreply : step.reply? = some (.error f)) (h : step.Answered) : f.isAnswer = true := by
  cases step with
  | noted level message => cases hreply
  | slept now duration => cases hreply
  | asked found now request reply =>
      rw [Step.reply?_asked, Option.some.injEq] at hreply
      subst hreply
      exact h

end Step

/-- The requests and sleeps among steps. -/
def calls {σ τ : Type} (steps : List (Step σ τ)) : List (Step σ τ) := steps.filter Step.isCall

@[simp] theorem calls_nil {σ τ : Type} : calls ([] : List (Step σ τ)) = [] := rfl

@[simp] theorem calls_noted {σ τ : Type} (level : Level) (message : String)
    (steps : List (Step σ τ)) : calls (.noted level message :: steps) = calls steps := rfl

@[simp] theorem calls_append {σ τ : Type} (xs ys : List (Step σ τ)) :
    calls (xs ++ ys) = calls xs ++ calls ys :=
  List.filter_append xs ys

@[simp] theorem calls_asked {σ τ : Type} (found : σ) (now : τ) (request : Request)
    (reply : Reply) (steps : List (Step σ τ)) :
    calls (.asked found now request reply :: steps) =
      .asked found now request reply :: calls steps := rfl

theorem mem_of_mem_calls {σ τ : Type} {step : Step σ τ} {steps : List (Step σ τ)}
    (h : step ∈ calls steps) : step ∈ steps := (List.mem_filter.1 h).1

theorem asked_mem_calls {σ τ : Type} {found : σ} {t : τ} {request : Request} {reply : Reply}
    {steps : List (Step σ τ)} :
    .asked found t request reply ∈ calls steps ↔ .asked found t request reply ∈ steps :=
  ⟨mem_of_mem_calls, fun h => List.mem_filter.2 ⟨h, rfl⟩⟩

theorem ask_mem_of_asked_mem {σ τ : Type} {found : σ} {t : τ} {request : Request} {reply : Reply}
    {steps : List (Step σ τ)} (h : .asked found t request reply ∈ steps) :
    .ask request ∈ (calls steps).map Step.event :=
  List.mem_map.2 ⟨_, List.mem_filter.2 ⟨h, rfl⟩, rfl⟩

/-- A run with everything it goes through. -/
structure Course (ε τ α σ : Type) where
  steps : List (Step σ τ)
  /-- What came of the program, nothing if it is unfinished. -/
  outcome : Option (Except ε α)
  state : σ
  now : τ

namespace Course

variable {ε ε' τ α β σ : Type}

/-- A course that comes after some steps. -/
def precede (steps : List (Step σ τ)) (c : Course ε τ α σ) : Course ε τ α σ :=
  { c with steps := steps ++ c.steps }

/-- A course and what follows from its outcome. -/
def andThen (c : Course ε τ α σ) (f : Except ε α → σ → τ → Course ε' τ β σ) :
    Course ε' τ β σ :=
  match c.outcome with
  | none => ⟨c.steps, none, c.state, c.now⟩
  | some r => (f r c.state c.now).precede c.steps

/-- A course and what follows from its result. -/
def bind (c : Course ε τ α σ) (f : α → σ → τ → Course ε τ β σ) : Course ε τ β σ :=
  c.andThen fun
    | .ok a => f a
    | .error e => fun s now => ⟨[], some (.error e), s, now⟩

/-- What remains of a course when what was found and got is forgotten. -/
def toRun (c : Course ε τ α σ) : Run ε τ α σ :=
  ⟨c.steps.map Step.event, c.outcome, c.state, c.now⟩

@[simp] theorem precede_precede (xs ys : List (Step σ τ)) (c : Course ε τ α σ) :
    (c.precede ys).precede xs = c.precede (xs ++ ys) := by
  simp [precede, List.append_assoc]

@[simp] theorem precede_steps (xs : List (Step σ τ)) (c : Course ε τ α σ) :
    (c.precede xs).steps = xs ++ c.steps := rfl

@[simp] theorem precede_outcome (xs : List (Step σ τ)) (c : Course ε τ α σ) :
    (c.precede xs).outcome = c.outcome := rfl

@[simp] theorem precede_state (xs : List (Step σ τ)) (c : Course ε τ α σ) :
    (c.precede xs).state = c.state := rfl

@[simp] theorem precede_mk (xs ys : List (Step σ τ)) (r : Option (Except ε α)) (s : σ)
    (now : τ) :
    (Course.mk ys r s now).precede xs = ⟨xs ++ ys, r, s, now⟩ := rfl

theorem answered_of_precede {xs : List (Step σ τ)} {c : Course ε τ α σ}
    (h : ∀ step ∈ (c.precede xs).steps, step.Answered) : ∀ step ∈ c.steps, step.Answered :=
  fun step hmem => h step (List.mem_append_right _ hmem)

theorem precede_andThen (xs : List (Step σ τ)) (c : Course ε τ α σ)
    (f : Except ε α → σ → τ → Course ε' τ β σ) :
    (c.precede xs).andThen f = (c.andThen f).precede xs := by
  obtain ⟨ys, r, s, now⟩ := c
  cases r with
  | none => rfl
  | some r => simp [andThen, precede, List.append_assoc]

theorem precede_bind (xs : List (Step σ τ)) (c : Course ε τ α σ)
    (f : α → σ → τ → Course ε τ β σ) :
    (c.precede xs).bind f = (c.bind f).precede xs :=
  precede_andThen xs c _

@[simp] theorem bind_ok (xs : List (Step σ τ)) (a : α) (s : σ) (now : τ)
    (f : α → σ → τ → Course ε τ β σ) :
    (Course.mk xs (some (.ok a)) s now).bind f = (f a s now).precede xs := rfl

@[simp] theorem bind_error (xs : List (Step σ τ)) (e : ε) (s : σ) (now : τ)
    (f : α → σ → τ → Course ε τ β σ) :
    (Course.mk xs (some (.error e)) s now).bind f = ⟨xs, some (.error e), s, now⟩ := by
  simp [bind, andThen]

theorem bind_of_ok {c : Course ε τ α σ} {a : α} (h : c.outcome = some (.ok a))
    (f : α → σ → τ → Course ε τ β σ) : c.bind f = (f a c.state c.now).precede c.steps := by
  rw [bind, andThen, h]

theorem bind_of_error {c : Course ε τ α σ} {e : ε} (h : c.outcome = some (.error e))
    (f : α → σ → τ → Course ε τ β σ) :
    c.bind f = ⟨c.steps, some (.error e), c.state, c.now⟩ := by
  rw [bind, andThen, h]
  exact congrArg (Course.mk · _ _ _) (List.append_nil _)

theorem bind_of_none {c : Course ε τ α σ} (h : c.outcome = none)
    (f : α → σ → τ → Course ε τ β σ) : c.bind f = ⟨c.steps, none, c.state, c.now⟩ := by
  rw [bind, andThen, h]

/-- Nothing follows upon a course that did not end well. -/
theorem bind_of_ne_ok {c : Course ε τ Unit σ} (h : c.outcome ≠ some (.ok ()))
    (f : Unit → σ → τ → Course ε τ Unit σ) : c.bind f = c := by
  obtain ⟨steps, r, s, now⟩ := c
  match r with
  | none => rfl
  | some (.error e) => exact bind_error ..
  | some (.ok ()) => exact absurd rfl h

theorem mem_andThen {step : Step σ τ} {c : Course ε τ α σ} (h : step ∈ c.steps)
    (f : Except ε α → σ → τ → Course ε' τ β σ) : step ∈ (c.andThen f).steps := by
  unfold andThen
  cases c.outcome with
  | none => exact h
  | some r => exact List.mem_append_left _ h

theorem mem_bind {step : Step σ τ} {c : Course ε τ α σ} (h : step ∈ c.steps)
    (f : α → σ → τ → Course ε τ β σ) : step ∈ (c.bind f).steps :=
  mem_andThen h _

/-- Seeing the result in another way leaves a failure as it is. -/
theorem eq_error_of_map {o : Option (Except ε α)} {g : α → β} {e : ε}
    (h : o.map (Except.map g) = some (.error e)) : o = some (.error e) := by
  match o with
  | none => cases h
  | some (.ok a) => cases h
  | some (.error e') => cases h; rfl

theorem eq_ok_of_map {o : Option (Except ε α)} {g : α → β} {b : β}
    (h : o.map (Except.map g) = some (.ok b)) : ∃ a, o = some (.ok a) := by
  match o with
  | none => cases h
  | some (.ok a) => exact ⟨a, rfl⟩
  | some (.error e) => cases h

/-- A course whose result is seen in another way. -/
theorem bind_result (c : Course ε τ α σ) (g : α → β) :
    c.bind (fun a s now => ⟨[], some (.ok (g a)), s, now⟩) =
      ⟨c.steps, c.outcome.map (Except.map g), c.state, c.now⟩ := by
  obtain ⟨steps, r, s, now⟩ := c
  match r with
  | none => rfl
  | some (.error e) => rw [bind_error]; rfl
  | some (.ok a) => rw [bind_ok, precede_mk, List.append_nil]; rfl

end Course

namespace Program

variable {ε ε' τ α β σ : Type} [Clock τ] (answer : Answerer σ τ)

/-- The course of a program that is run alone. -/
def course : Program ε τ α → σ → τ → Course ε τ α σ
  | .done r, s, now => ⟨[], some r, s, now⟩
  | .unfinished, s, now => ⟨[], none, s, now⟩
  | .note level message next, s, now => (course next s now).precede [.noted level message]
  | .ask request next, s, now =>
    (course (next (answer.reply request s)) (answer.after request s)
      (answer.done request s now)).precede [.asked s now request (answer.reply request s)]
  | .sleep duration next, s, now =>
    (course next s (Clock.after now duration)).precede [.slept now duration]
  | .clock next, s, now => course (next now) s now

@[simp] theorem course_succeed (a : α) (s : σ) (now : τ) :
    (succeed a : Program ε τ α).course answer s now = ⟨[], some (.ok a), s, now⟩ := rfl

@[simp] theorem course_fail (e : ε) (s : σ) (now : τ) :
    (fail e : Program ε τ α).course answer s now = ⟨[], some (.error e), s, now⟩ := rfl

theorem run_eq_course (p : Program ε τ α) (s : σ) (now : τ) :
    p.run answer s now = (p.course answer s now).toRun := by
  induction p generalizing s now with
  | done r => rfl
  | unfinished => rfl
  | note level message next ih =>
      rw [run, ih s now]
      rfl
  | ask request next ih =>
      rw [run]
      simp only [ih]
      rfl
  | sleep duration next ih =>
      rw [run, ih s _]
      rfl
  | clock next ih =>
      rw [run, ih now s now]
      rfl

theorem course_andThen (p : Program ε τ α) (f : Except ε α → Program ε' τ β) (s : σ)
    (now : τ) :
    (p.andThen f).course answer s now =
      (p.course answer s now).andThen fun r s now => (f r).course answer s now := by
  induction p generalizing s now with
  | done r => rfl
  | unfinished => rfl
  | note level message next ih => rw [andThen, course, ih, course, Course.precede_andThen]
  | ask request next ih => rw [andThen, course, ih, course, Course.precede_andThen]
  | sleep duration next ih => rw [andThen, course, ih, course, Course.precede_andThen]
  | clock next ih => rw [andThen, course, ih, course]

/-- A program whose result or failure is seen in another way. -/
theorem course_andThen_done (p : Program ε τ α) (g : Except ε α → Except ε' β) (s : σ) (now : τ) :
    (p.andThen fun r => .done (g r)).course answer s now =
      ⟨(p.course answer s now).steps, (p.course answer s now).outcome.map g,
        (p.course answer s now).state, (p.course answer s now).now⟩ := by
  rw [course_andThen]
  obtain ⟨steps, r, s', now'⟩ := p.course answer s now
  cases r with
  | none => rfl
  | some r => exact congrArg (Course.mk · _ _ _) (List.append_nil _)

theorem course_bind (p : Program ε τ α) (f : α → Program ε τ β) (s : σ) (now : τ) :
    (p.bind f).course answer s now =
      (p.course answer s now).bind fun a s now => (f a).course answer s now := by
  rw [Program.bind, course_andThen, Course.bind]
  congr 1
  funext r s now
  cases r with
  | ok a => rfl
  | error e => rfl

theorem course_reaches (p : Program ε τ α) (s : σ) (now : τ) :
    answer.Reaches s (p.course answer s now).state := by
  induction p generalizing s now with
  | done r => exact .start
  | unfinished => exact .start
  | note level message next ih => exact ih s now
  | ask request next ih => exact (Answerer.Reaches.after request .start).trans (ih _ _ _)
  | sleep duration next ih => exact ih s _
  | clock next ih => exact ih now s now

/-- What every request that is made keeps holds in every state that is found,
and at the end. -/
theorem course_keeps {I : σ → Prop} {allowed : Request → Prop}
    (keep : ∀ request s, allowed request → I s → I (answer.after request s))
    (p : Program ε τ α) {s : σ} {now : τ}
    (made : ∀ found t request reply,
      .asked found t request reply ∈ (p.course answer s now).steps → allowed request)
    (hs : I s) :
    I (p.course answer s now).state ∧
      ∀ found t request reply,
        .asked found t request reply ∈ (p.course answer s now).steps → I found := by
  induction p generalizing s now with
  | done r => exact ⟨hs, fun _ _ _ _ h => absurd h List.not_mem_nil⟩
  | unfinished => exact ⟨hs, fun _ _ _ _ h => absurd h List.not_mem_nil⟩
  | note level message next ih =>
      simp only [course, Course.precede, List.singleton_append, List.mem_cons, reduceCtorEq,
        false_or] at made ⊢
      exact ih made hs
  | ask request next ih =>
      simp only [course, Course.precede, List.singleton_append, List.mem_cons] at made ⊢
      have hnext := keep request s (made s now request _ (Or.inl rfl)) hs
      obtain ⟨hend, hall⟩ := ih _ (fun _ _ _ _ h => made _ _ _ _ (Or.inr h)) hnext
      refine ⟨hend, fun found t request' reply h => ?_⟩
      rcases h with heq | h
      · injection heq with hfound
        rw [hfound]
        exact hs
      · exact hall _ _ _ _ h
  | sleep duration next ih =>
      simp only [course, Course.precede, List.singleton_append, List.mem_cons, reduceCtorEq,
        false_or] at made ⊢
      exact ih made hs
  | clock next ih => exact ih now made hs

end Program

end ImagePreload
