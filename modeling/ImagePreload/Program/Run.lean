import ImagePreload.Clock
import ImagePreload.Program

/-!
# Runs of programs

A program is run alone against something that answers its requests. The run records everything that
happens in order; a sleep and every request let the clock go on.
-/

namespace ImagePreload

/-- What happens in a run. -/
inductive Event (τ : Type) where
  | log (level : Level) (message : String)
  | ask (request : Request)
  | sleep (duration : τ)

/-- Something in a state `σ` that answers a request, at once or after a while. -/
abbrev Answerer (σ τ : Type) := Request → σ → Option τ × Reply × σ

/-- The reading of a clock after a while, if there was one. -/
def Clock.afterWhile {τ : Type} [Clock τ] (now : τ) : Option τ → τ
  | none => now
  | some duration => Clock.after now duration

structure Run (ε τ α σ : Type) where
  events : List (Event τ)
  /-- What came of the program, nothing if it is unfinished. -/
  outcome : Option (Except ε α)
  state : σ
  now : τ

namespace Run

variable {ε τ α σ : Type}

def record (event : Event τ) (r : Run ε τ α σ) : Run ε τ α σ :=
  { r with events := event :: r.events }

end Run

namespace Program

variable {ε τ α σ : Type}

def run [Clock τ] (answer : Answerer σ τ) : Program ε τ α → σ → τ → Run ε τ α σ
  | .done r, s, now => ⟨[], some r, s, now⟩
  | .unfinished, s, now => ⟨[], none, s, now⟩
  | .note level message next, s, now => (next.run answer s now).record (.log level message)
  | .ask request next, s, now =>
    let (duration, reply, s) := answer request s
    ((next reply).run answer s (Clock.afterWhile now duration)).record (.ask request)
  | .sleep duration next, s, now =>
    (next.run answer s (Clock.after now duration)).record (.sleep duration)
  | .clock next, s, now => (next now).run answer s now

end Program

end ImagePreload
