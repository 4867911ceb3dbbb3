/-! # Ranges of code points

Classes of characters are tables of closed ranges of code points.
-/
namespace TypeAnnotation.Text

def inRanges (ranges : List (Nat × Nat)) (n : Nat) : Bool :=
  ranges.any fun (first, last) => first ≤ n && n ≤ last

end TypeAnnotation.Text
