/-!
Choices left to chance. A supply of numbers is given from outside, so that a choice is a function
of it; each choice uses up one of them.
-/
namespace HttpContract

abbrev Draws := Nat → Nat

namespace Draws

def below (d : Draws) (i n : Nat) : Nat := d i % n

theorem below_lt (d : Draws) (i : Nat) {n : Nat} (h : 0 < n) : d.below i n < n :=
  Nat.mod_lt _ h

def among {α : Type} (d : Draws) (i : Nat) (choices : List α) (default : α) : α :=
  choices.getD (d.below i choices.length) default

def after (d : Draws) (n : Nat) : Draws := fun i => d (n + i)

end Draws

end HttpContract
