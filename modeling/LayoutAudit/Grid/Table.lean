import LayoutAudit.Grid.Rows
import LayoutAudit.Range
import LayoutAudit.Relation.Presence

/-!
# Grid.Table — elements that form a table

* `Table` — the greatest number of columns, and tests for the margins between columns and rows;
* `Relation.tabular` — the elements of a group form such a table.
-/

namespace LayoutAudit

open Json (Value)

structure Table where
  columns : Nat
  horizontal : Option Range
  vertical : Option Range
  deriving BEq, Inhabited

namespace Grid

def leftOf (a b : Element) : Bool := Coordinate.rank a.left ≤ Coordinate.rank b.left

def topOf (a b : Element) : Bool := Coordinate.rank a.top ≤ Coordinate.rank b.top

def lowestBottom (row : List Element) : Float :=
  row.foldl (fun acc e => Coordinate.greatest acc e.bottom) Coordinate.lowest

def highestTop (row : List Element) : Float :=
  row.foldl (fun acc e => Coordinate.least acc e.top) Coordinate.highest

end Grid

namespace Relation

open Grid

/-- A number in brackets behind a name. -/
def indexed (name : String) (i : Nat) : String := name ++ "[" ++ toString i ++ "]"

/-- A row has no more elements than there are columns. -/
def rowWidth (selector : String) (columns r : Nat) (row : List Element) : List Violation :=
  require (row.length ≤ columns) <|
    .detailed (indexed "table_layout.row" r ++ ".columns")
      ("row " ++ toString r ++ " of " ++ quote selector ++ " has " ++ toString row.length ++
        " items, at most " ++ toString columns ++ " allowed")
      [("row", .nat r), ("count", .nat row.length), ("columns", .nat columns)]

/-- The gaps between the elements of a row, from left to right, pass the test. -/
def rowGaps (selector : String) (margin : Range) (r : Nat) (row : List Element) :
    List Violation :=
  (neighbours (row.mergeSort leftOf)).zipIdx.flatMap fun ((a, b), i) =>
    let gap := b.left - a.right
    require (margin.admits gap) <|
      .detailed (indexed (indexed "table_layout.row" r ++ ".gap") i)
        ("horizontal gap " ++ toString i ++ " in row " ++ toString r ++ " of " ++ quote selector ++
          " is " ++ numberText gap ++ ", expected " ++ margin.text)
        [("row", .nat r), ("diff", .float gap), ("expected", margin.encode)]

/-- The gap between two rows passes the test. -/
def betweenRows (selector : String) (margin : Range) (r : Nat) (upper lower : List Element) :
    List Violation :=
  let gap := highestTop lower - lowestBottom upper
  require (margin.admits gap) <|
    .detailed (indexed "table_layout.row_gap" r)
      ("vertical gap between rows " ++ toString r ++ " and " ++ toString (r + 1) ++ " of " ++
        quote selector ++ " is " ++ numberText gap ++ ", expected " ++ margin.text)
      [("row", .nat r), ("diff", .float gap), ("expected", margin.encode)]

def withinRow (selector : String) (table : Table) (r : Nat) (row : List Element) :
    List Violation :=
  rowWidth selector table.columns r row ++
    match table.horizontal with
    | some margin => rowGaps selector margin r row
    | none => []

def allBetweenRows (selector : String) (table : Table) (rows : List (List Element)) :
    List Violation :=
  match table.vertical with
  | some margin =>
      (neighbours rows).zipIdx.flatMap fun ((upper, lower), r) =>
        betweenRows selector margin r upper lower
  | none => []

/-- The elements form a table. -/
def tabular (table : Table) (g : Group) : List Violation :=
  let rows := Grid.rows g.items
  (rows.zipIdx.flatMap fun (row, r) => withinRow g.selector table r row) ++
    allBetweenRows g.selector table rows

end Relation
end LayoutAudit
