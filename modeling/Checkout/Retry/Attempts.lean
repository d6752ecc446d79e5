/-!
# Numbers of attempts

Everything is tried at least once, so a number of attempts is never zero.
-/

namespace Checkout

/-- A number of attempts. -/
structure Attempts where
  count : Nat
  one_le_count : 1 ≤ count
  deriving DecidableEq, Repr

namespace Attempts

theorem one_le_max_one (n : Nat) : 1 ≤ max n 1 := Nat.le_max_right n 1

/-- So many attempts, but at least one. -/
def ofNat (n : Nat) : Attempts := ⟨max n 1, one_le_max_one n⟩

theorem count_ofNat (n : Nat) : (ofNat n).count = max n 1 := rfl

end Attempts

end Checkout
