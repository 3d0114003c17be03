/-!
# Random choice

Randomness is a seed that is used up: a draw returns a number and the next seed. Equal seeds draw
equal numbers, so whoever wants fresh ones brings a fresh seed.
-/

namespace ImagePreload

structure Entropy where
  seed : Nat

namespace Entropy

/-- A number below the bound, and the next seed. -/
def draw (e : Entropy) (bound : Nat) : Nat × Entropy :=
  let next := (e.seed * 6364136223846793005 + 1442695040888963407) % Nat.pow 2 64
  (next / Nat.pow 2 32 % bound, ⟨next⟩)

/-- A seed for one of several independent uses. -/
def fork (e : Entropy) (index : Nat) : Entropy :=
  ⟨((e.seed + index + 1) * 2862933555777941757 + 3037000493) % Nat.pow 2 64⟩

/-- A text of the given length over an alphabet, if there is anything to choose from. -/
def text? (alphabet : List Char) : Nat → Entropy → Option (List Char × Entropy)
  | 0, e => some ([], e)
  | n + 1, e =>
    let (i, e) := e.draw alphabet.length
    match alphabet[i]? with
    | none => none
    | some c => (text? alphabet n e).map fun (cs, e) => (c :: cs, e)

end Entropy

/-- Lower-case letters and digits. -/
def defaultAlphabet : List Char := "abcdefghijklmnopqrstuvwxyz0123456789".toList

end ImagePreload
