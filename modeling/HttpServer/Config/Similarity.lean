/-!
The Jaro similarity of two words, and the word of a list that a mistyped one most resembles.
-/

namespace HttpServer.Similarity

/-- Looks for `c` among the characters of a word that are not yet matched, at positions from `low`
up to `high`, and matches the first. -/
def matchOne (c : Char) (low high index : Nat) : List (Char × Bool) → Option (List (Char × Bool))
  | [] => none
  | (other, matched) :: rest =>
    if high < index then none
    else if low ≤ index && other = c && !matched then some ((other, true) :: rest)
    else (matchOne c low high (index + 1) rest).map ((other, matched) :: ·)

def matchAll (range index : Nat) (second : List (Char × Bool)) :
    List Char → List Char × List (Char × Bool)
  | [] => ([], second)
  | c :: rest =>
    match matchOne c (index - range) (index + range) 0 second with
    | some second =>
      let (found, second) := matchAll range (index + 1) second rest
      (c :: found, second)
    | none => matchAll range (index + 1) second rest

structure Score where
  numerator : Nat
  denominator : Nat
deriving DecidableEq, Repr

def Score.lt (left right : Score) : Bool :=
  left.numerator * right.denominator < right.numerator * left.denominator

/-- With `m` matches of which `t` pairs are out of order, the mean of `m / |a|`, `m / |b|` and
`(m - t) / m`. -/
def jaro (first second : List Char) : Score :=
  if first.isEmpty && second.isEmpty then ⟨1, 1⟩
  else
    let range := max first.length second.length / 2 - 1
    let (left, marked) := matchAll range 0 (second.map (·, false)) first
    let right := (marked.filter Prod.snd).map Prod.fst
    let count := left.length
    let misplaced := ((left.zip right).countP fun pair => pair.1 ≠ pair.2) / 2
    if count = 0 then ⟨0, 1⟩
    else
      ⟨count * count * (first.length + second.length) +
          (count - misplaced) * first.length * second.length,
        3 * count * first.length * second.length⟩

def threshold : Score := ⟨7, 10⟩

/-- The most similar of the words, the last one among equals; `none` if none is similar. -/
def nearest? (word : String) (words : List String) : Option String :=
  let step (best : Score × Option String) (candidate : String) : Score × Option String :=
    let score := jaro word.toList candidate.toList
    if threshold.lt score && !score.lt best.1 then (score, some candidate) else best
  (words.foldl step (⟨0, 1⟩, none)).2

end HttpServer.Similarity
