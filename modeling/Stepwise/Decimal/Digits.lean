/-!
Runs of decimal digits and the numbers they write.
-/

namespace Stepwise.Decimal

def digitsOf (cs : List Char) : List Char × List Char :=
  (cs.takeWhile Char.isDigit, cs.dropWhile Char.isDigit)

def natOf (ds : List Char) : Nat := ds.foldl (fun n c => 10 * n + (c.toNat - 48)) 0

end Stepwise.Decimal
