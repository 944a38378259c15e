import TableSelection.Table.Basic
import TableSelection.Text.Joining

/-!
# Drawing a table

`cellWidth` counts the cells that a line takes in a terminal. Wide characters take two, marks none,
and nearly everything else one; a sequence that joins takes fewer. A line is read from its end,
since what a character takes depends on what follows it.

A table is drawn as a box: the column names between two rules, then the rows, then a third rule.
Every column is as wide as its widest line and has a blank on both sides; a cell with line breaks
takes several lines. Row names are not shown.
-/

namespace TableSelection.Text

/-! ## The width of a line -/

/-- What a character finds behind it: a follower to join, and the variation selectors that wait for
a character. Several selectors can wait only before letters of a script. -/
structure Behind where
  follower : Follower
  /-- A selector asks for a picture. -/
  picture : Bool := false
  /-- A selector asks for text. -/
  text : Bool := false
  /-- A selector asks for a wide quotation mark. -/
  wideQuotation : Bool := false
  deriving DecidableEq, Repr

namespace Behind

def nothing : Behind := { follower := .other }

/-- What is seen past a selector: letters of a script, and no picture. -/
def scripts (behind : Behind) : Behind := if behind.follower.isScript then behind else nothing

/-- A selector for a picture in front. A joiner that waits for a picture is seen past it. -/
def selectPicture (behind : Behind) : Behind :=
  { (if behind.follower.isJoined then behind else behind.scripts) with picture := true }

/-- A selector for text in front. -/
def selectText (behind : Behind) : Behind := { behind.scripts with text := true }

/-- A selector for a wide quotation mark in front. -/
def selectWideQuotation (behind : Behind) : Behind := { behind.scripts with wideQuotation := true }

/-- A selector for a picture that finds none. The joiner behind it does not wait any longer. -/
def dropPicture (behind : Behind) : Behind :=
  if behind.picture then { behind.scripts with picture := false } else behind

/-- A selector for text, or else for a wide quotation mark, that finds neither. -/
def dropSelector (behind : Behind) : Behind :=
  if behind.text then { behind with text := false } else { behind with wideQuotation := false }

end Behind

/-- The cells of a character on its own. The Khmer sign for `and so on` takes three. -/
def charWidth (c : Char) : Nat :=
  if c.toNat ≤ 0xA0 then 1
  else if c.toNat = 0x17D8 then 3
  else if inRuns transparentRuns c || inRuns partingRuns c then 0
  else if inRuns wideRuns c then 2
  else 1

/-- A character that no selector changes, before what is behind it: it joins or stands alone. -/
def Behind.pushPlain (behind : Behind) (c : Char) : Int × Behind :=
  let f := behind.follower
  if f.passesMarks && isJoiner c then (0, { behind with follower := f.behindJoiner })
  else if f.passesMarks && isUnseenMark c then (0, behind)
  else
    match if behind.wideQuotation then none else f.join? c with
    | some (cells, joint) => (cells, { follower := joint })
    | none => (charWidth c, { follower := .ofChar c })

/-- A character before what is behind it: the cells that it adds, and what the next character before
it finds behind it. -/
def Behind.push (behind : Behind) (c : Char) : Int × Behind :=
  if behind.picture && inRuns selectableRuns c then
    (if behind.follower.isJoined then 0 else 2, { follower := .picture })
  else
    let behind := behind.dropPicture
    if c.toNat ≤ 0xA0 then (1, .nothing)
    else if c.toNat = 0xFE0F then (0, behind.selectPicture)
    else if c.toNat = 0xFE0E then (0, behind.selectText)
    else if c.toNat = 0xFE01 then (0, behind.selectWideQuotation)
    else if behind.text && isTextual c then (1, .nothing)
    else if !behind.text && behind.wideQuotation && isQuotation c then (2, .nothing)
    else behind.dropSelector.pushPlain c

/-- The cells of a line, and what stands at its beginning for characters before it. -/
def cells : List Char → Int × Behind
  | [] => (0, .nothing)
  | c :: cs =>
      let (n, behind) := cells cs
      let (m, before) := behind.push c
      (m + n, before)

/-- The cells of a line. -/
def cellWidth (line : List Char) : Nat := (cells line).1.toNat

end TableSelection.Text

namespace TableSelection.Table

open Text

/-! ## Boxes -/

def textLines : List Char → List (List Char)
  | [] => [[]]
  | c :: cs =>
      match textLines cs with
      | [] => [[c]]
      | line :: lines => if c = '\n' then [] :: line :: lines else (c :: line) :: lines

/-- The greatest of some numbers, zero if there are none. -/
def greatest (ns : List Nat) : Nat := ns.foldl max 0

/-- A rule above, between or below the rows of a box. -/
def rule (widths : List Nat) : String :=
  "+" ++ "+".intercalate (widths.map fun width => String.ofList (List.replicate (width + 2) '-')) ++
    "+"

/-- A line of a cell, with blanks up to the width of its column and one on both sides. -/
def padCell (width : Nat) (line : List Char) : String :=
  " " ++ String.ofList (line ++ List.replicate (width - cellWidth line) ' ') ++ " "

/-- The lines of a row of cells, each given as its own lines. -/
def rowLines (widths : List Nat) (cells : List (List (List Char))) : List String :=
  (List.range (greatest (cells.map List.length))).map fun i =>
    "|" ++ "|".intercalate (widths.zipWith (fun width lines => padCell width (lines[i]?.getD []))
      cells) ++ "|"

/-- The lines of the box that shows a table. -/
def box (t : Table) : List String :=
  let header := t.columns.map fun c => textLines c.name.toList
  let body := (List.range t.rowCount).map fun row =>
    t.columns.map fun c => textLines (c.text row).toList
  let widths := (List.range t.columnCount).map fun i =>
    max 1 (greatest ((header :: body).map fun cells =>
      greatest ((cells[i]?.getD []).map cellWidth)))
  rule widths :: rowLines widths header ++ rule widths :: body.flatMap (rowLines widths) ++
    [rule widths]

end TableSelection.Table
