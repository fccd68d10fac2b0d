/-!
Powers of the three bases that number formats count in.
-/

namespace CatalogRules

def pow2 (k : Nat) : Nat := Nat.pow 2 k

def pow5 (k : Nat) : Nat := Nat.pow 5 k

def pow10 (k : Nat) : Nat := Nat.pow 10 k

@[simp] theorem pow2_zero : pow2 0 = 1 := rfl

@[simp] theorem pow10_zero : pow10 0 = 1 := rfl

theorem pow2_succ (k : Nat) : pow2 (k + 1) = pow2 k * 2 := rfl

theorem pow2_pos (k : Nat) : 0 < pow2 k := Nat.pow_pos (by decide)

theorem pow5_pos (k : Nat) : 0 < pow5 k := Nat.pow_pos (by decide)

theorem pow10_pos (k : Nat) : 0 < pow10 k := Nat.pow_pos (by decide)

theorem pow2_add (j k : Nat) : pow2 (j + k) = pow2 j * pow2 k := Nat.pow_add 2 j k

theorem pow10_add (j k : Nat) : pow10 (j + k) = pow10 j * pow10 k := Nat.pow_add 10 j k

theorem pow10_eq (k : Nat) : pow10 k = pow2 k * pow5 k := Nat.mul_pow 2 5 k

end CatalogRules
