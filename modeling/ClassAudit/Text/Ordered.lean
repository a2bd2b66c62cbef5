/-!
# Ordered sets and counts of names

Reports list names without repetition and in one fixed order, that of their code points.  An ordered
set is kept as the list that is printed, and an ordered map from names to counts as the list of its
entries.
-/

namespace ClassAudit.Text

/-- The first value with each key, in order. -/
def distinctBy {α β : Type} [DecidableEq β] (key : α → β) : List α → List α
  | [] => []
  | a :: rest => a :: (distinctBy key rest).filter (key · ≠ key a)

/-- The first occurrence of each value, in order. -/
def distinct {α : Type} [DecidableEq α] (values : List α) : List α :=
  distinctBy id values

/-- The names without repetitions, in byte order. -/
def ordered (names : List String) : List String :=
  (distinct names).mergeSort (fun a b => decide (a ≤ b))

/-- Adds one to the count of `name` in an association list sorted by key, with a new entry if it has
none. -/
def increment (name : String) : List (String × Nat) → List (String × Nat)
  | [] => [(name, 1)]
  | (key, count) :: rest =>
    if name = key then (key, count + 1) :: rest
    else if name < key then (name, 1) :: (key, count) :: rest
    else (key, count) :: increment name rest

end ClassAudit.Text
