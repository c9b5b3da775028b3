import LayoutAudit.Json.Printer
import LayoutAudit.Plan.Entry
import LayoutAudit.Text.Width

/-!
# Listing — what there is, as a table or as data

* `Listing` — headings and rows, and the same as data;
* `Listing.ofViewports`, `ofEntries`, `ofGroups`, `ofSpecs` — the listings that there are;
* `Listing.table`, `Listing.render` — as text.
-/

namespace LayoutAudit

open Json (Value)

structure Listing where
  headings : List String
  rows : List (List String)
  data : Value
  deriving Inhabited

namespace Listing

inductive Format where
  | table
  | json
  deriving DecidableEq, Repr, Inhabited

def Format.name : Format → String
  | table => "table"
  | json => "json"

def Format.all : List Format := [table, json]

def ofViewports (viewports : List Viewport) : Listing where
  headings := ["Name", "Width", "Height", "Class"]
  rows := viewports.map fun v =>
    [v.name, toString v.width, toString v.height, v.viewportClass.name]
  data := .array (viewports.map Viewport.encode)

def ofEntries (entries : List Plan.Entry) : Listing where
  headings := ["#", "Scenario", "Viewport", "Size", "Class"]
  rows := entries.map fun e =>
    [toString e.index, e.scenario, e.viewport.name, e.viewport.sizeText,
      e.viewport.viewportClass.name]
  data := .array (entries.map Plan.Entry.encode)

def ofGroups (groups : List (String × List String)) : Listing where
  headings := ["Group", "Members"]
  rows := groups.map fun (name, members) => [name, ", ".intercalate members]
  data := .array (groups.map fun (name, members) =>
    .object [("name", .string name), ("members", .strings members)])

def ofSpecs (specs : List (String × String)) : Listing where
  headings := ["Name", "Description"]
  rows := specs.map fun (name, description) => [name, description]
  data := .array (specs.map fun (name, description) =>
    .object [("name", .string name), ("description", .string description)])

def cellLines (cell : String) : List String := cell.splitOn "\n"

/-- The columns that the lines of a cell take. -/
def cellWidth (cell : String) : Nat := ((cellLines cell).map Text.width).foldl max 0

/-- For each place the greater one; the longer list goes on alone. -/
def widest : List Nat → List Nat → List Nat
  | a :: as, b :: bs => max a b :: widest as bs
  | [], bs => bs
  | as, [] => as

def columnWidths (l : Listing) : List Nat :=
  ((l.headings :: l.rows).map (·.map cellWidth)).foldl widest []

def rule (left dash cross right : String) (widths : List Nat) : String :=
  let piece (w : Nat) : String := String.join (List.replicate (w + 2) dash)
  left ++ cross.intercalate (widths.map piece) ++ right

/-- A line of a cell, filled up to the width of its column. -/
def padded (width : Nat) (line : String) : String :=
  " " ++ line ++ String.ofList (List.replicate (width - Text.width line + 1) ' ')

def rowLines (widths : List Nat) (cells : List String) : List String :=
  let cells := cells.map cellLines
  let height := (cells.map List.length).foldl max 0
  (List.range height).map fun i =>
    let pieces := (widths.zip cells).map fun (w, lines) => padded w (lines.getD i "")
    "│" ++ "┆".intercalate pieces ++ "│"

/-- The lines of rows, with a line between two of them. -/
def bodyLines (widths : List Nat) (rows : List (List String)) : List String :=
  [rule "├" "╌" "┼" "┤" widths].intercalate (rows.map (rowLines widths))

def table (l : Listing) : String :=
  let widths := l.columnWidths
  "\n".intercalate
    ([rule "┌" "─" "┬" "┐" widths] ++ rowLines widths l.headings ++
      [rule "╞" "═" "╪" "╡" widths] ++ bodyLines widths l.rows ++ [rule "└" "─" "┴" "┘" widths])

def render (l : Listing) : Format → String
  | .table => if l.rows.isEmpty then "No items found." else l.table
  | .json => l.data.pretty

end Listing
end LayoutAudit
