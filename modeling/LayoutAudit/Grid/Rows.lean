import LayoutAudit.Element

/-!
# Grid.Rows — elements arranged in rows

Elements are taken from top to bottom, and from left to right at equal height.  A row is begun by
the first element that is left, and holds those behind it whose top is near the top of the first.

* `Grid.before` — the order of elements;
* `Grid.sameRow` — is an element in the row of another?
* `Grid.rows` — the rows from top to bottom;
* `Grid.neighbours` — the pairs of items that stand next to each other.
-/

namespace LayoutAudit
namespace Grid

/-- Tops that differ by no more than this are in one row. -/
def rowTolerance : Float := 5.0

/-- The order of elements: by top, then by left. -/
def before (a b : Element) : Bool :=
  let s := Coordinate.rank a.top
  let t := Coordinate.rank b.top
  s < t || (s == t && Coordinate.rank a.left ≤ Coordinate.rank b.left)

/-- Is `e` in the row that `first` begins? -/
def sameRow (first e : Element) : Bool := (e.top - first.top).abs ≤ rowTolerance

/-- Splits the elements behind the first of a row: the rest of that row, and the rows after it. -/
def splitAfter (first : Element) : List Element → List Element × List (List Element)
  | [] => ([], [])
  | e :: rest =>
      if sameRow first e then
        let (row, rows) := splitAfter first rest
        (e :: row, rows)
      else
        let (row, rows) := splitAfter e rest
        ([], (e :: row) :: rows)

def splitRows : List Element → List (List Element)
  | [] => []
  | first :: rest =>
      let (row, rows) := splitAfter first rest
      (first :: row) :: rows

/-- The rows of elements, from top to bottom. -/
def rows (es : List Element) : List (List Element) := splitRows (es.mergeSort before)

/-- The pairs of items that stand next to each other. -/
def neighbours {α : Type} (as : List α) : List (α × α) := as.zip as.tail

end Grid
end LayoutAudit
