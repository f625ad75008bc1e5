namespace Bookend

/-- Puts `a` behind everything that may stand before it, up to the first that may not. -/
def insertBehind (before : α → α → Bool) (a : α) : List α → List α
  | [] => [a]
  | b :: bs => if before b a then b :: insertBehind before a bs else a :: b :: bs

/-- The same things in order; those that may stand either way stay as they came. -/
def arrange (before : α → α → Bool) (as : List α) : List α :=
  as.foldl (fun sorted a => insertBehind before a sorted) []

/-- The first place from `lo` on that lacks `p`, found by halving what is left up to `hi`. -/
def searchBetween (p : α → Bool) (as : List α) (lo hi : Nat) : Nat :=
  if lo < hi then
    let mid := lo + (hi - lo) / 2
    if as[mid]?.any p then searchBetween p as (mid + 1) hi else searchBetween p as lo mid
  else lo
termination_by hi - lo

/-- Where the things with `p` end, in a list that has them all in front. -/
def partitionPoint (p : α → Bool) (as : List α) : Nat := searchBetween p as 0 as.length

end Bookend
