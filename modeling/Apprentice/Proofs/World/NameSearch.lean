import Apprentice.Proofs.Loop
import Apprentice.Proofs.World.Naming
import Mathlib.Data.Nat.SuccPred

/-!
# Searching for a name

A name that is made up is looked for among candidates, one after the other, until no object answers
to one. Nothing bounds the search: it ends because different candidates have different keys, so that
each one in use takes an object of its own, and the objects run out. There are two such searches.
One counts up a number behind the words of a description, the other one puts underscores behind the
name of an object that is given none.
-/

namespace Apprentice.World

variable {σ : Type} {w : World} {candidate : σ → String} {next : σ → σ} {s : σ}

end Apprentice.World
