import ReverseComm.Fitness.Check

/-!
# Ranking

Rows of fitness values are ranked from best to worst.  The ranking is stable: rows neither of which
is better keep their order.  Shapes that do not fit are found by the first comparison, so fewer than
two rows are always ranked.
-/

namespace ReverseComm.Fitness

/-- Is row `i` strictly better than row `j`?  Rows that cannot be compared are not better. -/
def rowBetter (rows : List (List Float)) (equalities : Int) (tolerances : Offer) (i j : Nat) :
    Bool :=
  match better (.vector (rows[i]?.getD [])) (.vector (rows[j]?.getD [])) equalities tolerances with
  | .ok b => b
  | .error _ => false

/-- The row indices from best to worst.  Where being better is an order, this is what every stable
sort makes of them.  An objective that is no number breaks the order, and then it is what this merge
sort makes of them: of feasible rows with the objectives 2, NaN and 1 it makes 2, 0, 1, where sorting
by insertion leaves 0, 1, 2. -/
def order (rows : List (List Float)) (equalities : Int) (tolerances : Offer) : List Nat :=
  (List.range rows.length).mergeSort fun i j => !rowBetter rows equalities tolerances j i

/-- The row indices from best to worst, if the rows can be compared. -/
def ranking (rows : List (List Float)) (equalities : Int) (tolerances : Offer) :
    Except Fault (List Nat) :=
  match rows with
  | f :: g :: _ => do
    let _ ← better (.vector g) (.vector f) equalities tolerances
    return order rows equalities tolerances
  | _ => .ok (List.range rows.length)

end ReverseComm.Fitness
