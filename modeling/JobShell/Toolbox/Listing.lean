import JobShell.Toolbox.Call

/-!
Listings of a directory in columns.

The names are put into as many columns as fit into a line, each column as wide as its longest name
and two blanks, filled from above.
-/

namespace JobShell.Toolbox.Listing

open Machine

/-- The characters of a line, of which the last stays free. -/
def lineWidth : Nat := 80

def tabWidth : Nat := 8

def leastColumn : Nat := 3

/-- A character as it is shown in a name. -/
def shownChar (c : Char) : Text :=
  if c == ' ' || c == '\\' then ['\\', c]
  else if c.toNat = 8 then ['\\', 'b']
  else if Text.isPrintable c then [c]
  else Text.escaped c

/-- The names that do not begin with a point, in ascending order. -/
def visible (names : List Text) : List Text :=
  (names.filter (·.head? != some '.')).mergeSort fun a b =>
    decide (String.ofList a ≤ String.ofList b)

/-- The number of rows that so many columns need. -/
def rows (count columns : Nat) : Nat := (count + columns - 1) / columns

/-- The widths of the columns. -/
def widths (lengths : List Nat) (columns : Nat) : List Nat :=
  let height := rows lengths.length columns
  (List.range columns).map fun k =>
    let gap := if k + 1 = columns then 0 else 2
    (((lengths.drop (k * height)).take height).map (· + gap)).foldl max leastColumn

def fits (lengths : List Nat) (columns : Nat) : Bool :=
  (widths lengths columns).foldl (· + ·) 0 < lineWidth

/-- The greatest number of columns that fit. -/
def columns (lengths : List Nat) : Nat :=
  let most := min (lineWidth / leastColumn) lengths.length
  (((List.range' 2 (most - 1)).reverse).find? (fits lengths)).getD 1

/-- Fills a line up to a place with tabs where they fit and blanks elsewhere. -/
def fill : Nat → Nat → Nat → Text
  | 0, _, _ => []
  | fuel + 1, at_, stop =>
    if stop ≤ at_ then []
    else if (at_ + 1) / tabWidth < stop / tabWidth then
      '\t' :: fill fuel (at_ + tabWidth - at_ % tabWidth) stop
    else ' ' :: fill fuel (at_ + 1) stop

/-- A row of names over their columns, beginning at a place in the line. -/
def row (at_ : Nat) : List (Text × Nat) → Text
  | [] => ['\n']
  | [(name, _)] => name ++ ['\n']
  | (name, width) :: rest =>
    name ++ fill lineWidth (at_ + name.length) (at_ + width) ++ row (at_ + width) rest

def table (names : List Text) : Text :=
  let lengths := names.map List.length
  let wide := widths lengths (columns lengths)
  let height := rows names.length (columns lengths)
  (List.range height).flatMap fun r =>
    let cells := wide.zipIdx.filterMap fun (width, k) =>
      (names[k * height + r]?).map fun name => (name, width)
    row 0 cells

/-- Lists the working directory. -/
def run (call : Call) : Doing Nat := do
  match ← Doing.ask (.list (path ['.'])) with
  | .error e => do
    complain (call.message (Call.because "cannot open directory '.'".toList e))
    pure 2
  | .ok names =>
    let shown := (visible (names.map Bytes.toLatin)).map fun name => name.flatMap shownChar
    call.finish (if shown.isEmpty then [] else table shown) 0 2

end JobShell.Toolbox.Listing
