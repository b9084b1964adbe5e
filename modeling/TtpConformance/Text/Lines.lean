import TtpConformance.Text.Blank

/-!
# Lines and fields

Cutting a text into lines, and a field into what stands before and after a separator.

A line ends at a line feed, and one carriage return right before that line feed belongs to the
ending. A last line without a line feed is kept as it is, and an empty last line is no line.

## Main definitions

* `lines` — the lines of a text.
* `cutAt`, `cutAtText` — a text around the first occurrence of a character or of a text.
-/

namespace TtpConformance.Text

/-- A line without the carriage return that precedes its line feed. -/
def dropCarriageReturn (line : List Char) : List Char :=
  if line.getLast? = some '\r' then line.dropLast else line

/-- From the pieces between line feeds to lines: only the last piece had no line feed after it. -/
def endLines : List (List Char) → List (List Char)
  | [] => []
  | [last] => if last.isEmpty then [] else [last]
  | piece :: pieces => dropCarriageReturn piece :: endLines pieces

/-- The lines of a text. -/
def lines (cs : List Char) : List (List Char) :=
  endLines (splitBy (· == '\n') cs)

/-- The text before and after the first occurrence of `c`, if there is one. -/
def cutAt (c : Char) : List Char → Option (List Char × List Char)
  | [] => none
  | d :: ds =>
    if d = c then some ([], ds)
    else (cutAt c ds).map fun (before, after) => (d :: before, after)

/-- The rest of a text after a given beginning. -/
def afterStart : List Char → List Char → Option (List Char)
  | [], cs => some cs
  | _ :: _, [] => none
  | d :: ds, c :: cs => if d = c then afterStart ds cs else none

/-- The text before and after the first occurrence of `sep`, if there is one. -/
def cutAtText (sep : List Char) : List Char → Option (List Char × List Char)
  | [] => if sep.isEmpty then some ([], []) else none
  | c :: cs =>
    match afterStart sep (c :: cs) with
    | some rest => some ([], rest)
    | none => (cutAtText sep cs).map fun (before, after) => (c :: before, after)

end TtpConformance.Text
