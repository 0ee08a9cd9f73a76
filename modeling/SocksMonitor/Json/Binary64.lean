/-!
# Large binary64 numbers

As much of binary64 arithmetic as it takes to tell whether a product of two natural numbers stays
finite: each factor is rounded to 53 significant bits first, and the product is finite as long as
it does not round beyond the largest number of the format.
-/

namespace SocksMonitor.Json.Binary64

/-- The nearest number with 53 significant bits. A tie goes to the even neighbour. -/
def nearest (n : Nat) : Nat :=
  let unit := 1 <<< (n.log2 - 52)
  let twice := 2 * (n % unit)
  let up := unit < twice ∨ (twice = unit ∧ n / unit % 2 = 1)
  (n / unit + if up then 1 else 0) * unit

example : nearest (1 <<< 53 + 1) = 1 <<< 53 ∧ nearest (1 <<< 53 + 3) = 1 <<< 53 + 4 := by decide

/-- Half a unit above the largest finite number; from there on a number rounds to infinity. -/
def overflow : Nat := 1 <<< 1024 - 1 <<< 970

/-- Whether the product of the numbers nearest to `m` and `n` is finite. -/
def isFiniteMul (m n : Nat) : Bool := nearest m * nearest n < overflow

end SocksMonitor.Json.Binary64
