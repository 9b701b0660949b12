import Diagnostics.Text.Basic

/-!
# Integers in decimal digits
-/

namespace Diagnostics

/-- The integer in decimal digits, without leading zeros, with a minus sign if it is negative. -/
def decimal : Int → Text
  | .ofNat n => Nat.toDigits 10 n
  | .negSucc n => '-' :: Nat.toDigits 10 (n + 1)

end Diagnostics
