/-
# Shortened texts

A text that is too long is cut and ends in three points.
-/

namespace Placard.Text

/-- The text, or its first `limit` characters and three points; no limit is written as zero. -/
def ellipsis (s : String) (limit : Nat) : String :=
  if limit = 0 ∨ s.length ≤ limit then s else String.ofList (s.toList.take limit) ++ "..."

end Placard.Text
