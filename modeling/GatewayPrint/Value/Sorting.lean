import GatewayPrint.Value.Basic

/-!
# Sorting values

A list is sorted by bisection: the longest run at its start that is in order, or strictly in reverse
order, is taken first, and each further element is put behind all that do not come after it, where
halves of the sorted list are ruled out by one comparison each. Comparisons may fail, and where the
order is not total the result depends on which elements meet.
-/

namespace GatewayPrint

namespace Sorting

variable {α ε : Type}

/-- The longest run at the start of a list in which each element comes before the last one, put in
front of the run `done` in order. -/
def descend (less : α → α → Except ε Bool) (last : α) (done : List α) :
    List α → Except ε (List α × List α)
  | [] => .ok (last :: done, [])
  | x :: rest => do
    if ← less x last then descend less x (last :: done) rest
    else .ok (last :: done, x :: rest)

/-- The longest run at the start of a list in which no element comes before the last one. -/
def ascend (less : α → α → Except ε Bool) (last : α) : List α → Except ε (List α × List α)
  | [] => .ok ([last], [])
  | x :: rest => do
    if ← less x last then .ok ([last], x :: rest)
    else
      let (run, others) ← ascend less x rest
      .ok (last :: run, others)

/-- The first run of a list, in order, and the rest. -/
def firstRun (less : α → α → Except ε Bool) : List α → Except ε (List α × List α)
  | [] => .ok ([], [])
  | [x] => .ok ([x], [])
  | x :: y :: rest => do
    if ← less y x then descend less y [x] rest
    else
      let (run, others) ← ascend less y rest
      .ok (x :: run, others)

/-- An element in its place in a sorted list: the middle of the list tells in which half that is. -/
def insert (less : α → α → Except ε Bool) (x : α) (sorted : List α) : Except ε (List α) :=
  match _h : sorted.drop (sorted.length / 2) with
  | [] => .ok [x]
  | middle :: after => do
    let before := sorted.take (sorted.length / 2)
    if ← less x middle then
      let front ← insert less x before
      .ok (front ++ middle :: after)
    else
      let back ← insert less x after
      .ok (before ++ middle :: back)
termination_by sorted.length
decreasing_by
  · have := congrArg List.length _h
    simp only [List.length_drop, List.length_cons] at this
    simp only [List.length_take]
    omega
  · have := congrArg List.length _h
    simp only [List.length_drop, List.length_cons] at this
    omega

/-- A list in order. -/
def sort (less : α → α → Except ε Bool) (xs : List α) : Except ε (List α) := do
  let (run, rest) ← firstRun less xs
  rest.foldlM (fun done x ↦ insert less x done) run

end Sorting

namespace Value

/-- Entries in the order of their keys. -/
def sortByKey {α : Type} (entries : List (Value × α)) : Except OrderFault (List (Value × α)) :=
  Sorting.sort (fun e f ↦ e.1.less f.1) entries

end Value

end GatewayPrint
