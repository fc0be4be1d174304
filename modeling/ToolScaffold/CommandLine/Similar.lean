/-!
# Similar words

How much a word is like another: the share of its letters that stand in the other near the same
place, the share of the other's letters that they are, and the share of those that stand in the same
order, on average. Words that are alike for more than seven tenths are worth proposing.
-/

namespace ToolScaffold.Similar

/-- Marks the first unmarked letter equal to `c` among those from `low` up to `high`. -/
def mark (c : Char) (low high : Nat) : Nat → List (Char × Bool) → Option (List (Char × Bool))
  | _, [] => none
  | n, (d, marked) :: rest =>
    if high ≤ n then none
    else if low ≤ n ∧ c = d ∧ !marked then some ((d, true) :: rest)
    else (mark c low high (n + 1) rest).map ((d, marked) :: ·)

/-- The letters of the word that are matched, each with one of the letters of the other. -/
def matching (range : Nat) : Nat → List Char → List (Char × Bool) → List Char × List (Char × Bool)
  | _, [], letters => ([], letters)
  | n, c :: rest, letters =>
    match mark c (n - range) (n + range + 1) 0 letters with
    | some letters =>
      let (matched, letters) := matching range (n + 1) rest letters
      (c :: matched, letters)
    | none => matching range (n + 1) rest letters

/-- A share, as a numerator and a denominator that is not zero. -/
structure Share where
  part : Nat
  whole : Nat

/-- How much the words are alike, as a share of three. -/
def similarity (a b : List Char) : Share :=
  let range := max a.length b.length / 2 - 1
  let (matched, letters) := matching range 0 a (b.map fun c => (c, false))
  let inOrder := (letters.filter Prod.snd).map Prod.fst
  let swapped := ((matched.zip inOrder).filter fun pair => pair.1 ≠ pair.2).length / 2
  let n := matched.length
  if n = 0 then ⟨0, 1⟩
  else
    ⟨n * n * b.length + n * n * a.length + (n - swapped) * a.length * b.length,
      a.length * b.length * n⟩

/-- Whether the share of three is more than seven tenths of it. -/
def Share.isLarge (s : Share) : Bool := 21 * s.whole < 10 * s.part

def Share.le (s t : Share) : Bool := s.part * t.whole ≤ t.part * s.whole

/-- The words that are like the given one, the most similar last. -/
def among (words : List String) (word : String) : List String :=
  let shares := words.map fun w => (similarity word.toList w.toList, w)
  ((shares.filter fun s => s.1.isLarge).mergeSort fun a b => a.1.le b.1).map Prod.snd

end ToolScaffold.Similar
