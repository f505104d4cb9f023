/-!
Whole numbers in decimal digits.
-/

namespace SingleFlight
namespace Text

/-- A whole number below `2 ^ 64` in decimal digits. -/
def digits64? (cs : List Char) : Option Nat :=
  if !cs.isEmpty && cs.all Char.isDigit then
    let n := cs.foldl (fun n c => 10 * n + (c.toNat - 48)) 0
    if n ≤ 18446744073709551615 then some n else none
  else none

/-- A whole number below `2 ^ 64` in decimal digits, perhaps with a plus before them. -/
def natural64? : List Char → Option Nat
  | '+' :: rest => digits64? rest
  | cs => digits64? cs

end Text
end SingleFlight
