/-!
# Powers of the bases

Powers of two measure binary words and significands, powers of ten place decimal digits.
-/

namespace TypedQuery.Power

abbrev two (n : Nat) : Nat := Nat.pow 2 n

abbrev five (n : Nat) : Nat := Nat.pow 5 n

abbrev ten (n : Nat) : Nat := Nat.pow 10 n

end TypedQuery.Power
