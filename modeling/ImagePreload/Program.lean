import ImagePreload.Cluster
import ImagePreload.Log.Level

/-!
# Programs that talk to a cluster

A program asks a cluster, sleeps, reads the clock and takes notes, until it is done or fails. It
says nothing about who answers: the same program runs against any cluster, step by step, alone or
along with others.

A program that goes on waiting for longer than it was allowed to is unfinished, which is neither a
result nor a failure.
-/

namespace ImagePreload

/-- A program with failures `ε`, instants and durations `τ` and results `α`. -/
inductive Program (ε τ α : Type) where
  | done (result : Except ε α)
  | unfinished
  | note (level : Level) (message : String) (next : Program ε τ α)
  | ask (request : Request) (next : Reply → Program ε τ α)
  | sleep (duration : τ) (next : Program ε τ α)
  | clock (next : τ → Program ε τ α)

namespace Program

variable {ε ε' τ α β : Type}

/-- Goes on with whatever came of a program. -/
def andThen (p : Program ε τ α) (f : Except ε α → Program ε' τ β) : Program ε' τ β :=
  match p with
  | .done r => f r
  | .unfinished => .unfinished
  | .note level message next => .note level message (next.andThen f)
  | .ask request next => .ask request fun reply => (next reply).andThen f
  | .sleep duration next => .sleep duration (next.andThen f)
  | .clock next => .clock fun now => (next now).andThen f

def succeed (a : α) : Program ε τ α := .done (.ok a)

def fail (e : ε) : Program ε τ α := .done (.error e)

/-- Goes on with the result of a program. -/
def bind (p : Program ε τ α) (f : α → Program ε τ β) : Program ε τ β :=
  p.andThen fun
    | .ok a => f a
    | .error e => fail e

instance : Monad (Program ε τ) where
  pure := succeed
  bind := bind

/-- A program whose failures are seen in another way. -/
def mapFailure (f : ε → ε') (p : Program ε τ α) : Program ε' τ α :=
  p.andThen fun r => .done (r.mapError f)

def ofExcept (r : Except ε α) : Program ε τ α := .done r

def log (level : Level) (message : String) : Program ε τ Unit := .note level message (succeed ())

def request (r : Request) : Program ε τ Reply := .ask r succeed

def pause (duration : τ) : Program ε τ Unit := .sleep duration (succeed ())

def now : Program ε τ τ := .clock succeed

end Program

end ImagePreload
