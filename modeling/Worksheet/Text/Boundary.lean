/-!
# Character classes as boundary lists

A class of characters is written as the increasing list of code points at which membership
changes: outside before the first entry, inside from the first to the second, and so on.  Each
table module of this folder states one class that way.
-/

namespace Worksheet.Text

/-- Membership in the class whose boundaries are `bounds`: an odd number of boundaries lies at or
below the code point. -/
def withinBoundaries (bounds : List Nat) (code : Nat) : Bool :=
  (bounds.takeWhile (· ≤ code)).length % 2 == 1

end Worksheet.Text
