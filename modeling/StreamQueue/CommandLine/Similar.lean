/-!
# Similar words

How alike two words are, for suggesting what a mistyped one may have meant: the
similarity of Jaro. Two equal characters match if they stand at about the same place
in their words; the more match, and the fewer of them in another order, the more
alike the words are.
-/

namespace StreamQueue.CommandLine

/-- The first place from `i` on, below `stop`, at which a word has a character that is
not taken yet. -/
def matchFrom (c : Char) (word : List Char) (taken : List Nat) (first stop : Nat) : Option Nat :=
  (List.range stop).find? fun j => first ≤ j && word[j]? == some c && !taken.contains j

/-- The places of the second word that match characters of the first, with these. -/
def matching (reach : Nat) (a b : List Char) : List (Char × Nat) :=
  let step (found : List (Char × Nat)) (p : Char × Nat) : List (Char × Nat) :=
    let (c, i) := p
    match matchFrom c b (found.map (·.2)) (i - reach) (min b.length (i + reach + 1)) with
    | some j => found ++ [(c, j)]
    | none => found
  a.zipIdx.foldl step []

/-- How alike two words are, from zero to one. -/
def similarity (a b : String) : Float :=
  let as := a.toList
  let bs := b.toList
  if as.isEmpty && bs.isEmpty then 1.0
  else
    let found := matching (max as.length bs.length / 2 - 1) as bs
    let m := found.length
    if m = 0 then 0.0
    else
      let inOrder := (found.mergeSort fun p q => p.2 ≤ q.2).map (·.1)
      let moved := ((found.map (·.1)).zip inOrder).countP fun (c, d) => c != d
      let part (n d : Nat) : Float := n.toFloat / d.toFloat
      (part m as.length + part m bs.length + part (m - moved / 2) m) / 3.0

/-- Put a word with its likeness behind all that are no more alike. -/
def insertByLikeness (p : Float × String) : List (Float × String) → List (Float × String)
  | [] => [p]
  | q :: qs => if p.1 < q.1 then p :: q :: qs else q :: insertByLikeness p qs

/-- The words that are alike enough, the most alike last. -/
def alike (word : String) (known : List String) : List String :=
  let rated := (known.map fun k => (similarity word k, k)).filter fun p => 0.7 < p.1
  (rated.foldl (fun sorted p => insertByLikeness p sorted) []).map (·.2)

end StreamQueue.CommandLine
