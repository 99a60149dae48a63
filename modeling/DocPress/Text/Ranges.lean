/-!
# Membership in code point ranges

Character properties of the Unicode standard are kept as lists of closed ranges of code points.

* `inRanges` — whether a character lies in one of them.
-/

namespace DocPress.Text

/-- Whether the character's code point lies in one of the closed ranges. -/
def inRanges (ranges : List (Nat × Nat)) (c : Char) : Bool :=
  ranges.any fun r => decide (r.1 ≤ c.toNat) && decide (c.toNat ≤ r.2)

end DocPress.Text
