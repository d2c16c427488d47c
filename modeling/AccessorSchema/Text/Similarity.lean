/-! # Similar words

The Jaro-Winkler similarity of two words, between 0 and 1.  Characters match if they are equal
and not further apart than about half the longer word; the share of matches, less half of those
that come in another order, makes the similarity, and a common beginning raises it. -/

namespace AccessorSchema.Text

/-- How far apart two characters may be to match. -/
def matchRange (a b : List Char) : Nat := max a.length b.length / 2 - 1

/-- The first free position from `low` up to `high` that holds `c`. -/
def matchAt? (b : List Char) (used : List Nat) (low high : Nat) (c : Char) : Option Nat :=
  (List.range b.length).find? fun j => low ≤ j && j < high && b[j]? == some c && !used.contains j

/-- Pairs of matched positions, those of `a` ascending. -/
def matchesFrom (range : Nat) (b : List Char) (i : Nat) (used : List Nat) :
    List Char → List (Nat × Nat)
  | [] => []
  | c :: rest =>
    match matchAt? b used (i - range) (i + range + 1) c with
    | some j => (i, j) :: matchesFrom range b (i + 1) (j :: used) rest
    | none => matchesFrom range b (i + 1) used rest

/-- Matches whose characters differ when both sides are read in order. -/
def outOfOrder (a b : List Char) (pairs : List (Nat × Nat)) : Nat :=
  let left := pairs.map fun p => a[p.1]?
  let right := ((pairs.map (·.2)).mergeSort fun i j => i ≤ j).map (b[·]?)
  ((left.zip right).filter fun p => p.1 != p.2).length

def jaro (a b : List Char) : Float :=
  if a.isEmpty && b.isEmpty then 1
  else
    let pairs := matchesFrom (matchRange a b) b 0 [] a
    let m := pairs.length
    if m == 0 then 0
    else
      let inOrder := m - outOfOrder a b pairs / 2
      let share (part whole : Nat) : Float := part.toFloat / whole.toFloat
      (share m a.length + share m b.length + share inOrder m) / 3

/-- Length of the common beginning, four at most. -/
def commonStart (a b : List Char) : Nat :=
  (((a.take 4).zip b).takeWhile fun p => p.1 == p.2).length

def similarity (a b : List Char) : Float :=
  let s := jaro a b
  if s > 0.7 then s + 0.1 * (commonStart a b).toFloat * (1 - s) else s

/-- The candidate most similar to a word, the first of equals, if it is similar enough. -/
def suggest? (word : String) (candidates : List String) : Option String :=
  let scored := candidates.map fun c => (similarity word.toList c.toList, c)
  let better (best : Option (Float × String)) (x : Float × String) : Option (Float × String) :=
    match best with
    | none => if x.1 > 0.8 then some x else none
    | some b => if x.1 > 0.8 && b.1 < x.1 then some x else some b
  (scored.foldl better none).map (·.2)

end AccessorSchema.Text
