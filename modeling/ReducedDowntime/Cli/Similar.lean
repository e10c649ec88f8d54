/-!
# Similar words

When a word on the command line names nothing, the nearest known word is offered instead.
Nearness is the Jaro similarity of the two words, taken over their characters:

* two characters match when they are equal, not yet matched, and no further apart than
  half the longer word's length, less one; each character of the first word takes the
  first such partner;
* `t` is half the number of positions where the matched characters, read in order in
  both words, differ;
* with `m` matches, the similarity of words of lengths `a` and `b` is
  `(m/a + m/b + (m - t)/m) / 3`, zero without a match, and one for two empty words.

A known word is offered when its similarity is above 0.7; of several, the most similar
one, and of equally similar ones the last. Similarities are kept as exact fractions.
-/

namespace ReducedDowntime.Cli

/-- A similarity as the fraction `numerator / denominator`. -/
structure Likeness where
  numerator : Nat
  denominator : Nat
  deriving DecidableEq, Repr, Inhabited

namespace Likeness

/-- Whether `x` is at most `y`. -/
def le (x y : Likeness) : Bool := x.numerator * y.denominator ≤ y.numerator * x.denominator

/-- Whether the similarity is above seven tenths. -/
def close (x : Likeness) : Bool := 7 * x.denominator < 10 * x.numerator

end Likeness

/-- The characters of `xs` whose flag is set, in order. -/
def flagged (xs : List Char) (flags : List Bool) : List Char :=
  (xs.zip flags).filterMap fun (c, f) => if f then some c else none

/-- Marks the first unmatched position of `b` in `[lo, hi)` that holds `c`. -/
def claim (b : Array Char) (c : Char) (lo hi : Nat) (taken : Array Bool) : Option (Array Bool) :=
  match (List.range' lo (hi - lo)).find? (fun j => taken[j]? == some false && b[j]? == some c) with
  | some j => some (taken.set! j true)
  | none => none

/-- The match flags of both words. -/
def matchFlags (a b : Array Char) : List Bool × List Bool :=
  let range := max a.size b.size / 2 - 1
  let step := fun (acc : List Bool × Array Bool) (i : Nat) =>
    let c := a[i]?.getD ' '
    match claim b c (i - range) (min b.size (i + range + 1)) acc.2 with
    | some taken => (acc.1 ++ [true], taken)
    | none => (acc.1 ++ [false], acc.2)
  let (fa, fb) := (List.range a.size).foldl step ([], Array.replicate b.size false)
  (fa, fb.toList)

/-- The Jaro similarity of two words. -/
def likeness (x y : String) : Likeness :=
  let a := x.toList.toArray
  let b := y.toList.toArray
  if a.size = 0 && b.size = 0 then ⟨1, 1⟩
  else if a.size = 0 || b.size = 0 then ⟨0, 1⟩
  else
    let (fa, fb) := matchFlags a b
    let ma := flagged a.toList fa
    let mb := flagged b.toList fb
    let m := ma.length
    let t := ((ma.zip mb).filter fun (p, q) => p != q).length / 2
    if m = 0 then ⟨0, 1⟩
    else ⟨m * b.size * m + m * a.size * m + (m - t) * a.size * b.size, 3 * a.size * b.size * m⟩

/-- The known words close to `given`, least similar first; equally similar ones keep
their order. -/
def closeWords (given : String) (known : List String) : List String :=
  let scored := (known.map fun w => (likeness given w, w)).filter (·.1.close)
  (scored.mergeSort fun p q => p.1.le q.1).map (·.2)

/-- The known word most similar to `given`, if one is close enough. -/
def nearest? (given : String) (known : List String) : Option String :=
  (closeWords given known).getLast?

end ReducedDowntime.Cli
