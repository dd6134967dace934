/-!
# StyleScan.Text.Ranges

Sets of code points and of bytes as lists of closed ranges.

* `Text.inRanges` — whether one of the ranges holds a number.
-/

namespace StyleScan
namespace Text

/-- Whether a number lies in one of the closed ranges. -/
def inRanges (table : List (Nat × Nat)) (n : Nat) : Bool :=
  table.any fun range => range.1 ≤ n && n ≤ range.2

end Text
end StyleScan
