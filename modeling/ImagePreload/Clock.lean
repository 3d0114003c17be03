import ImagePreload.Number

/-!
# Clocks

Instants and durations are numbers of some sort. A wait ends with the first reading at or past its
deadline; how many rounds of it there can be at most follows from how long it may take and how long
a round takes.
-/

namespace ImagePreload

class Clock (τ : Type) where
  /-- The instant a duration after another one. -/
  after : τ → τ → τ
  /-- Whether a reading is at or past an instant. -/
  reached : τ → τ → Bool
  /-- How many rounds a wait may take. -/
  rounds (timeout interval : τ) : Nat
  text : τ → String

namespace Clock

/-- The least natural number of intervals that make up a timeout. -/
def roundsOfRatio (timeout interval : Int × Nat) : Nat :=
  let num := timeout.1 * interval.2
  let den := interval.1 * timeout.2
  ((num + den - 1) / den).toNat

/-- More rounds than any wait takes whose own length cannot be told. -/
def manyRounds : Nat := 1000000

/-- Rounds beyond the expected ones, for clocks whose readings are rounded. -/
def spareRounds : Nat := 1000

instance : Clock Number where
  after a d := (a.add d).toOption.getD a
  reached now deadline :=
    match now.compare? deadline with
    | some .lt | none => false
    | some _ => true
  rounds timeout interval :=
    match timeout.ratio?, interval.ratio? with
    | some t, some i =>
      if i.1 > 0 then 2 * roundsOfRatio t i + spareRounds else manyRounds
    | _, _ => manyRounds
  text := Number.text

end Clock

end ImagePreload
