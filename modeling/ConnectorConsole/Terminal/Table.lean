import ConnectorConsole.Text.Blank

/-!
# Tables of text

Columns are as wide as their widest cell, counted in characters, and two spaces
stand between them. Blanks at the end of a line are dropped.
-/

namespace ConnectorConsole

namespace Table

def pad (width : Nat) (text : String) : String :=
  String.ofList (text.toList ++ List.replicate (width - text.length) ' ')

def widen (widths : List Nat) (cells : List String) : List Nat :=
  match widths, cells with
  | width :: widths, cell :: cells => max width cell.length :: widen widths cells
  | widths, _ => widths

def widths (header : List String) (rows : List (List String)) : List Nat :=
  rows.foldl widen (header.map String.length)

def line (widths : List Nat) (cells : List String) : String :=
  Text.trimEnd (Text.join "  " (List.zipWith pad widths cells)) ++ "\n"

/-- A table with a header line. A table without rows says so. -/
def render (header : List String) (rows : List (List String)) : String :=
  let widths := widths header rows
  let body := match rows with
    | [] => "(none)\n"
    | rows => String.join (rows.map (line widths))
  line widths header ++ body

def keyValues (pairs : List (String × String)) : String :=
  let width := (pairs.map fun (name, _) => name.length).foldl max 0 + 1
  Text.join "\n" (pairs.map fun (name, value) => pad width (name ++ ":") ++ " " ++ value)

end Table

end ConnectorConsole
