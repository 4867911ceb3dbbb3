/-! # Similar words

Two words are as similar as the share of their characters that lie in common blocks: the longest
one first, then those on either side of it.
-/
namespace TypeAnnotation.Text

def commonPrefix : List Char → List Char → Nat
  | c :: rest, d :: rest' => if c = d then commonPrefix rest rest' + 1 else 0
  | _, _ => 0

def longestBlock (a b : List Char) : Nat × Nat × Nat :=
  (List.range a.length).foldl (fun best i =>
    (List.range b.length).foldl (fun best j =>
      let size := commonPrefix (a.drop i) (b.drop j)
      if best.2.2 < size then (i, j, size) else best) best) (0, 0, 0)

def matching : Nat → List Char → List Char → Nat
  | 0, _, _ => 0
  | fuel + 1, a, b =>
    let (i, j, size) := longestBlock a b
    if size = 0 then 0
    else size + matching fuel (a.take i) (b.take j) +
      matching fuel (a.drop (i + size)) (b.drop (j + size))

def similarWords (word : String) (known : List String) : List String :=
  known.filter fun candidate =>
    let a := candidate.toList
    let b := word.toList
    6 * (a.length + b.length) ≤ 20 * matching (a.length + 1) a b

end TypeAnnotation.Text
