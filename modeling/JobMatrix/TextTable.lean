import JobMatrix.Markup.Basic
import JobMatrix.Text.Blank
import JobMatrix.Text.Width

/-! Tables in boxes of line characters: a heavy head, light rows, a blank on either side of a cell,
and a title above the middle. Titles and cells are texts with marks. -/

namespace JobMatrix

structure TextTable.Column where
  name : String
  right : Bool := false

/-- A title, columns and rows of cells. -/
structure TextTable where
  title : String
  columns : List TextTable.Column
  rows : List (List String)

namespace TextTable

def blanks (n : Nat) : String := String.ofList (List.replicate n ' ')

def rule (n : Nat) (c : Char) : String := String.ofList (List.replicate n c)

def fill (right : Bool) (width : Nat) (line : String) : String :=
  let gap := blanks (width - Text.width line)
  if right then gap ++ line else line ++ gap

/-- A line in the middle of a width; an odd blank goes to the right. -/
def centre (width : Nat) (line : String) : String :=
  let excess := width - Text.width line
  blanks (excess / 2) ++ line ++ blanks (excess - excess / 2)

def linesOf (cell : String) : List String := cell.splitOn "\n"

def endsLine (c : Char) : Bool := [10, 28, 29, 30, 0x85, 0x2028, 0x2029].contains c.toNat

def cellWidth (cell : String) : Nat :=
  (cell.toList.splitOnP endsLine).foldl (fun w l => max w (Text.width (String.ofList l))) 0

def widths (t : TextTable) : List Nat :=
  t.columns.zipIdx.map fun (c, i) =>
    t.rows.foldl (fun w row => max w (cellWidth (row[i]?.getD ""))) (cellWidth c.name)

def total (t : TextTable) : Nat := t.widths.foldl (fun n w => n + w + 3) 1

def border (ws : List Nat) (left fill cross right : Char) : String :=
  String.singleton left ++
    (String.singleton cross).intercalate (ws.map fun w => rule (w + 2) fill) ++
    String.singleton right

def words (acc word : List Char) : List Char → List (List Char)
  | [] => if acc.isEmpty && word.isEmpty then [] else [(acc ++ word)]
  | c :: rest =>
    let trailing := word.getLast?.elim false Text.isBlank
    if Text.isBlank c then words acc (word ++ [c]) rest
    else if trailing && word.any (fun c => !Text.isBlank c) then
      (acc ++ word) :: words [] [c] rest
    else words acc (word ++ [c]) rest

def chop (width used : Nat) (piece : List Char) : List Char → List (List Char)
  | [] => [piece]
  | c :: rest =>
    let n := Text.columns c
    if width < used + n && !piece.isEmpty then piece :: chop width n [c] rest
    else chop width (used + n) (piece ++ [c]) rest

def textWidth (s : List Char) : Nat := (s.map Text.columns).foldl (· + ·) 0

/-- Breaks words into lines of a width; a word that is too long for any line is cut. -/
def flow (width : Nat) (line : List Char) : List (List Char) → List (List Char)
  | [] => [line]
  | word :: rest =>
    let bare := textWidth (Text.dropEndWhile Text.isBlank word)
    if bare ≤ width - textWidth line && textWidth line ≤ width then flow width (line ++ word) rest
    else if width < bare then
      let pieces := chop width 0 [] word
      let before := if line.isEmpty then [] else [line]
      before ++ pieces.dropLast ++ flow width (pieces.getLast?.getD []) rest
    else if line.isEmpty then flow width word rest
    else line :: flow width word rest

/-- Blanks in place of tabs, up to the next of the columns that are a multiple of eight. -/
def withoutTabs (used : Nat) : List Char → List Char
  | [] => []
  | '\t' :: rest =>
    let gap := 8 - used % 8
    List.replicate gap ' ' ++ withoutTabs (used + gap) rest
  | c :: rest => c :: withoutTabs (used + Text.columns c) rest

def cropped (width : Nat) (line : List Char) : List Char :=
  let spare := line.length - (Text.dropEndWhile Text.isBlank line).length
  line.take (line.length - min spare (line.length - width))

def wrapped (width : Nat) (line : String) : List String :=
  (flow width [] (words [] [] (withoutTabs 0 line.toList))).map fun l =>
    String.ofList (cropped width l)

def rowLines (t : TextTable) (bar : String) (cells : List String) : List String :=
  let lines := (cells.zip t.widths).map fun (cell, w) => (linesOf cell).flatMap (wrapped w)
  let height := lines.foldl (fun h ls => max h ls.length) 1
  let shape := (t.columns.zip t.widths).zip lines
  (List.range height).map fun i =>
    bar ++ String.join (shape.map fun ((c, w), ls) =>
      " " ++ fill c.right w (ls[i]?.getD "") ++ " " ++ bar)

def titleLines (t : TextTable) : List String :=
  (linesOf t.title).flatMap fun l =>
    (wrapped t.total l).map fun line =>
      centre t.total (String.ofList (Text.dropEndWhile Text.isBlank line.toList))

def plainLines (t : TextTable) : List String :=
  let ws := t.widths
  t.titleLines ++ [border ws '┏' '━' '┳' '┓'] ++ t.rowLines "┃" (t.columns.map Column.name) ++
    [border ws '┡' '━' '╇' '┩'] ++ t.rows.flatMap (t.rowLines "│") ++
    [border ws '└' '─' '┴' '┘']

def misplaced? (t : TextTable) : Option Markup.Misplaced :=
  (List.range t.columns.length).findSome? fun i =>
    t.rows.findSome? fun row =>
      match Markup.shown (row[i]?.getD "") with
      | .error e => some e
      | .ok _ => none

def lines (t : TextTable) : Except Markup.Misplaced (List String) := do
  match t.misplaced? with
  | some e => throw e
  | none =>
    let rows ← t.rows.mapM fun row => row.mapM Markup.shown
    let title ← Markup.shown t.title
    return plainLines { t with rows, title }

end TextTable

def TextTable.screen : Nat := 200

def TextTable.paragraph (s : String) : Except Markup.Misplaced (List String) := do
  let text ← Markup.shown s
  return (linesOf text).flatMap fun l => (wrapped screen l).map fun line =>
    String.ofList (Text.dropEndWhile Text.isBlank line.toList)

end JobMatrix
