/-
Decimal digits and the numbers that they spell.
-/
namespace CloudSweep.Text

/-- The value of a decimal digit. -/
def digitValue (c : Char) : Nat := c.toNat - 48

/-- The number that decimal digits spell, zero for none. -/
def numeral (ds : List Char) : Nat := ds.foldl (fun n d => 10 * n + digitValue d) 0

end CloudSweep.Text
