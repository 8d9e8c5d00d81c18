import OperatorDaemon.Text.Blank

/-!
# Lines

A line ends at a line feed, and a carriage return in front of it belongs to the line break. The text
behind the last break is a line only if it is not empty.
-/

namespace OperatorDaemon

/-- A line without the carriage return at its end. -/
def dropReturn (line : List Char) : List Char :=
  match line.reverse with
  | '\r' :: rest => rest.reverse
  | _ => line

/-- The lines of a text; `line` holds the characters of the current one, the last of them first. -/
def linesFrom (line : List Char) : List Char → List (List Char)
  | [] => if line.isEmpty then [] else [line.reverse]
  | c :: rest =>
    if c = '\n' then dropReturn line.reverse :: linesFrom [] rest
    else linesFrom (c :: line) rest

/-- The lines of a text. -/
def lines (cs : List Char) : List (List Char) :=
  linesFrom [] cs

end OperatorDaemon
