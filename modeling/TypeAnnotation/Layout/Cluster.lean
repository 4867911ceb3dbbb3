import TypeAnnotation.Layout.Cell

/-! # Clusters

A character that takes room and the ones without room that join it are shown as one. A text is
never cut inside such a cluster.
-/
namespace TypeAnnotation.Layout

structure Cluster where
  chars : List Char
  size : Nat
deriving DecidableEq, Repr

/-- The clusters behind the beginning of one, of which the characters in reverse, the size and the
character that a picture sign would widen are given. -/
def clustersAfter (begun : List Char) (size : Nat) (before : Option Char) :
    List Char → List Cluster
  | [] => [⟨begun.reverse, size⟩]
  | '\u200d' :: rest =>
    match rest with
    | [] => [⟨('\u200d' :: begun).reverse, size⟩]
    | c :: rest => clustersAfter (c :: '\u200d' :: begun) size before rest
  | '\ufe0f' :: rest =>
    clustersAfter ('\ufe0f' :: begun) (size + if before.any widens then 1 else 0) none rest
  | c :: rest =>
    if charWidth c = 0 then clustersAfter (c :: begun) size before rest
    else ⟨begun.reverse, size⟩ :: clustersAfter [c] (charWidth c) (some c) rest

/-- The clusters of a text. Characters without room at its beginning are one of their own. -/
def clusters : List Char → List Cluster
  | [] => []
  | c :: rest =>
    clustersAfter [c] (charWidth c) (if charWidth c = 0 then none else some c) rest

/-- The clusters that fit in a number of cells. A space stands for one that would fit in part. -/
def cutClusters : Nat → List Cluster → List Char
  | 0, _ => []
  | _, [] => []
  | room + 1, c :: rest =>
    if c.size ≤ room + 1 then c.chars ++ cutClusters (room + 1 - c.size) rest
    else [' ']

def cut (room : Nat) (text : List Char) : List Char := cutClusters room (clusters text)

def chopClusters (room used : Nat) (piece : List Char) : List Cluster → List (List Char)
  | [] => [piece]
  | c :: rest =>
    if room < used + c.size then piece :: chopClusters room c.size c.chars rest
    else chopClusters room (used + c.size) (piece ++ c.chars) rest

def chop (room : Nat) (word : List Char) : List (List Char) :=
  chopClusters room 0 [] (clusters word)

end TypeAnnotation.Layout
