/-!
# Sorting where a comparison can fail

Values of different types cannot always be compared.  `sort` sorts with a comparison that may fail,
and fails at the first comparison that does, so the order of its comparisons is part of what it
does.  It looks for runs that are in order already and merges them.
-/

namespace TargetAssembly.Sorting

/-!
## Searching a sorted list

A sorted list is cut at a place: the elements on one side of it are `before` it, the others are
not.  `search` finds the place by halving.  `gallop` starts at a hint and doubles its strides until
the place lies between two of them, which asks fewer questions when the place is near.  The
question can fail, and then so does the search.
-/

variable {ε α : Type} (before : α → Except ε Bool)

/-- Whether the element at an index is before the place; no element is not. -/
def beforeAt (xs : List α) (i : Nat) : Except ε Bool :=
  match xs[i]? with
  | some x => before x
  | none => .ok false

/-- The place between two indices, found by halving. -/
def search (xs : List α) (low high : Nat) : Except ε Nat :=
  if low < high then do
    let middle := low + (high - low) / 2
    if ← beforeAt before xs middle then search xs (middle + 1) high
    else search xs low middle
  else .ok low
termination_by high - low

/-- Double a distance as long as what is asked at that distance holds.  The result holds the last
distance at which it held and the first at which it did not, or the limit. -/
def stride (holds : Nat → Except ε Bool) (limit last next : Nat) : Except ε (Nat × Nat) :=
  if next < limit then do
    if ← holds next then stride holds limit next (2 * next + 1) else return (last, next)
  else .ok (last, limit)
termination_by limit - next

/-- The place, looked for from a hint on. -/
def gallop (xs : List α) (hint : Nat) : Except ε Nat := do
  if ← beforeAt before xs hint then
    let (last, next) ← stride (fun d => beforeAt before xs (hint + d)) (xs.length - hint) 0 1
    search before xs (hint + last + 1) (hint + next)
  else
    let holds (d : Nat) : Except ε Bool := do return !(← beforeAt before xs (hint - d))
    let (last, next) ← stride holds (hint + 1) 0 1
    search before xs (hint + 1 - next) (hint - last)

end TargetAssembly.Sorting

namespace TargetAssembly.Sorting

/-!
## Runs

A run is a stretch of a list that is in order already.  `nextRun` takes the longest run off the
front, turned round if it falls throughout, and makes it up to a least length by putting the
elements behind it in their places.  Every comparison asks whether an element is less than one
that stands before it.
-/

variable {ε α : Type} (less : α → α → Except ε Bool)

/-- Whether an element does not come after another. -/
def notAfter (a b : α) : Except ε Bool := do return !(← less b a)

/-- Take elements off the front as long as comparing each with the one before it gives `falling`.
The result holds those that were taken, the last one first, and the others. -/
def takeRun (falling : Bool) (taken : List α) (last : α) :
    List α → Except ε (List α × List α)
  | [] => .ok (taken, [])
  | a :: rest => do
    if (← less a last) == falling then takeRun falling (a :: taken) a rest
    else return (taken, a :: rest)

/-- Put an element into a sorted list, behind those that are not greater. -/
def insert (sorted : List α) (a : α) : Except ε (List α) := do
  let i ← search (notAfter less · a) sorted 0 sorted.length
  return sorted.take i ++ a :: sorted.drop i

/-- The run at the front of a list, made up to a least length, and the rest of the list. -/
def nextRun (least : Nat) : List α → Except ε (List α × List α)
  | a :: b :: rest => do
    let falling ← less b a
    let (taken, others) ← takeRun less falling [b, a] b rest
    let missing := least - taken.length
    let sorted ← (others.take missing).foldlM (insert less)
      (if falling then taken else taken.reverse)
    return (sorted, others.drop missing)
  | l => .ok (l, [])

end TargetAssembly.Sorting

namespace TargetAssembly.Sorting

/-!
## Merging two runs

Two runs that follow each other are merged without what is in its place already: the front of the
first and the back of the second.  What is left is merged from the end at which the shorter one
lies.  Elements are compared one by one until one run has won as often in a row as `patience`
asks; then whole stretches are found by galloping, for as long as that pays.  Patience grows
where galloping does not pay and falls where it does, and goes on from one merge to the next.
-/

/-- An end of a list. -/
inductive End where
  /-- The end with the least elements. -/
  | front
  /-- The end with the greatest elements. -/
  | back
deriving DecidableEq, Repr

namespace End

variable {α : Type}

/-- The element at an end. -/
def tip? : End → List α → Option α
  | front, xs => xs.head?
  | back, xs => xs.getLast?

/-- Some elements from an end, and the others. -/
def cut (k : Nat) : End → List α → List α × List α
  | front, xs => (xs.take k, xs.drop k)
  | back, xs => (xs.drop (xs.length - k), xs.take (xs.length - k))

/-- Put elements to those that were merged from an end. -/
def put (merged more : List α) : End → List α
  | front => merged ++ more
  | back => more ++ merged

/-- How many elements from an end are on its side of a place, by galloping from there. -/
def gallop {ε : Type} (before : α → Except ε Bool) : End → List α → Except ε Nat
  | front, xs => Sorting.gallop before xs 0
  | back, xs => (xs.length - ·) <$> Sorting.gallop before xs (xs.length - 1)

end End

/-- How often a run has to win in a row before galloping starts, at first; and how long a stretch
has to be for galloping to go on. -/
def leastGallop : Nat := 7

/-- Two runs while they are merged. -/
structure Merging (α : Type) where
  /-- What is left of the first run. -/
  first : List α
  /-- What is left of the second run. -/
  second : List α
  /-- What is merged. -/
  merged : List α := []
  /-- How often a run has to win in a row before galloping starts. -/
  patience : Nat

namespace Merging

variable {ε α : Type} (less : α → α → Except ε Bool) (e : End)

/-- Merge elements of the first run. -/
def takeFirst (k : Nat) (m : Merging α) : Merging α :=
  let (taken, rest) := e.cut k m.first
  { m with first := rest, merged := e.put m.merged taken }

/-- Merge elements of the second run. -/
def takeSecond (k : Nat) (m : Merging α) : Merging α :=
  let (taken, rest) := e.cut k m.second
  { m with second := rest, merged := e.put m.merged taken }

/-- Whether nothing is left to compare: the run that lies at the end of the merge is used up, or
the other one has a single element, which comes last. -/
def isDone (m : Merging α) : Bool :=
  match e with
  | .front => m.second.isEmpty || m.first.length ≤ 1
  | .back => m.first.isEmpty || m.second.length ≤ 1

/-- What is merged and what is left; of what is left, the second run comes first. -/
def result (m : Merging α) : List α := e.put m.merged (m.second ++ m.first)

/-- Compare the tips of both runs, and merge the one that comes next.  The result says whether it
came from the second run. -/
def step (m : Merging α) : Except ε (Bool × Merging α) := do
  match e.tip? m.first, e.tip? m.second with
  | some x, some y =>
    let fromSecond := (← less y x) == (e = .front)
    return (fromSecond, if fromSecond then m.takeSecond e 1 else m.takeFirst e 1)
  | _, _ => return (false, m)

/-- Merge a stretch of the first run and the tip of the second, then a stretch of the second and
the tip of the first.  The result says whether it paid. -/
def gallop (m : Merging α) : Except ε (Bool × Merging α) := do
  let m := { m with patience := if 1 < m.patience then m.patience - 1 else m.patience }
  let some y := e.tip? m.second | return (false, m)
  let k ← e.gallop (notAfter less · y) m.first
  let m := m.takeFirst e k
  if m.isDone e then return (false, m)
  let m := m.takeSecond e 1
  if m.isDone e then return (false, m)
  let some x := e.tip? m.first | return (false, m)
  let l ← e.gallop (less · x) m.second
  let m := m.takeSecond e l
  if m.isDone e then return (false, m)
  return (leastGallop ≤ k || leastGallop ≤ l, m.takeFirst e 1)

/-- How many times in a row each of two runs has won, if they are compared one by one; nothing
while they gallop. -/
abbrev Streak := Option (Nat × Nat)

/-- Go on with a merge to its end.  `fuel` bounds the steps; twice the number of elements is
enough. -/
def finish : (fuel : Nat) → Streak → Merging α → Except ε (List α × Nat)
  | 0, _, m => .ok (m.result e, m.patience)
  | fuel + 1, streak, m =>
    if m.isDone e then .ok (m.result e, m.patience)
    else match streak with
      | some (won, lost) => do
        let (fromSecond, m) ← m.step less e
        let won := if fromSecond then 0 else won + 1
        let lost := if fromSecond then lost + 1 else 0
        if !m.isDone e && m.patience ≤ max won lost then
          finish fuel none { m with patience := m.patience + 1 }
        else finish fuel (some (won, lost)) m
      | none => do
        let (paid, m) ← m.gallop less e
        if paid || m.isDone e then finish fuel none m
        else finish fuel (some (0, 0)) { m with patience := m.patience + 1 }

end Merging

variable {ε α : Type} (less : α → α → Except ε Bool)

/-- Merge two runs that follow each other. -/
def mergeRuns (first second : List α) (patience : Nat) : Except ε (List α × Nat) := do
  let some y := second.head? | return (first, patience)
  let k ← gallop (notAfter less · y) first 0
  let some x := first.getLast? | return (second, patience)
  if k = first.length then return (first ++ second, patience)
  let l ← gallop (less · x) second (second.length - 1)
  if l = 0 then return (first ++ second, patience)
  let m : Merging α := { first := first.drop k, second := second.take l, patience }
  let fuel := 2 * (first.length + second.length)
  let (merged, patience) ←
    if m.first.length ≤ m.second.length then
      (m.takeSecond .front 1).finish less .front fuel (some (0, 0))
    else (m.takeFirst .back 1).finish less .back fuel (some (0, 0))
  return (first.take k ++ merged ++ second.drop l, patience)

end TargetAssembly.Sorting

namespace TargetAssembly.Sorting

/-!
## Sorting by runs

Values of different types cannot always be compared.  `sort` sorts with a comparison that may
fail, and fails at the first comparison that does, so the order of its comparisons is part of what
it does.  A list is taken as runs from front to back, which wait on a pile.  Before a run is put on
it, the runs there are merged until no border is left whose power is greater than that of the new
border; borders near the middle of the list have a low power and wait longest.
-/

/-- A run on the pile. -/
structure Run (α : Type) where
  /-- Its elements. -/
  items : List α
  /-- Where it starts in the list. -/
  start : Nat
  /-- The power of the border between it and the run above it. -/
  power : Nat := 0

/-- Twice the place of the middle of a run. -/
def Run.middle {α : Type} (r : Run α) : Nat := 2 * r.start + r.items.length

/-- The least length of a run in a list: all of a short list; a long one is halved until it is
short, and one is added if a half was cut off on the way. -/
def leastRun (length : Nat) (cut : Nat := 0) : Nat :=
  if length < 64 then length + cut else leastRun (length / 2) (max cut (length % 2))
termination_by length

/-- The power of a border in a list of a given length: after how many binary digits the middles of
its two runs, as fractions of the list, differ. -/
def borderPower {α : Type} (length : Nat) (below above : Run α) : Nat :=
  let digits (r : Run α) (n : Nat) : Nat := r.middle * Nat.pow 2 n / length
  ((List.range length).find? fun n => digits below n ≠ digits above n).getD length

variable {ε α : Type} (less : α → α → Except ε Bool)

/-- The pile, the last run first, and the patience of the merges. -/
structure Pile (α : Type) where
  /-- The runs. -/
  runs : List (Run α) := []
  /-- How often a run has to win in a row before a merge gallops. -/
  patience : Nat := leastGallop

/-- Merge a run with the one above it. -/
def mergeUp (below above : Run α) (patience : Nat) : Except ε (Run α × Nat) := do
  let (items, patience) ← mergeRuns less below.items above.items patience
  return ({ items, start := below.start, power := above.power }, patience)

/-- Merge the last run downwards over all borders of a power that is too great. -/
def settle (power : Nat) (top : Run α) (patience : Nat) : List (Run α) → Except ε (Pile α)
  | [] => .ok ⟨[top], patience⟩
  | below :: rest =>
    if power < below.power then do
      let (merged, patience) ← mergeUp less below top patience
      settle power merged patience rest
    else .ok ⟨top :: below :: rest, patience⟩

/-- Put a run on the pile. -/
def Pile.push (length : Nat) (run : Run α) (p : Pile α) : Except ε (Pile α) := do
  match p.runs with
  | [] => return { p with runs := [run] }
  | top :: rest =>
    let power := borderPower length top run
    let settled ← settle less power top p.patience rest
    match settled.runs with
    | [] => return { settled with runs := [run] }
    | top :: rest => return { settled with runs := run :: { top with power } :: rest }

/-- Merge all runs.  The last one waits while the two below it are merged, if it is the longer of
its neighbours. -/
def mergeAll (top : Run α) (patience : Nat) : List (Run α) → Except ε (List α)
  | [] => .ok top.items
  | [below] => do return (← mergeUp less below top patience).1.items
  | middle :: below :: rest =>
    if below.items.length < top.items.length then do
      let (merged, patience) ← mergeUp less below middle patience
      mergeAll top patience (merged :: rest)
    else do
      let (merged, patience) ← mergeUp less middle top patience
      mergeAll merged patience (below :: rest)
termination_by runs => runs.length

/-- Take the rest of a list as runs, and put them on the pile.  `fuel` bounds the runs; the length
of the list is enough. -/
def pileUp (length : Nat) : (fuel start : Nat) → Pile α → List α → Except ε (Pile α)
  | 0, _, p, _ => .ok p
  | _, _, p, [] => .ok p
  | fuel + 1, start, p, items => do
    let (run, rest) ← nextRun less (leastRun length) items
    let p ← p.push less length { items := run, start }
    pileUp length fuel (start + run.length) p rest

/-- Sort a list. -/
def sort (items : List α) : Except ε (List α) := do
  let pile ← pileUp less items.length items.length 0 {} items
  match pile.runs with
  | [] => return []
  | top :: rest => mergeAll less top pile.patience rest

end TargetAssembly.Sorting
