/-!
# Lines of a text

A line break is a line feed, together with one carriage return right before it if there is one; any
other carriage return belongs to its line.  A text with `n` line feeds has `n + 1` lines, so the
empty text has one line, and so does what follows a final line feed.

Where two texts are joined by a line feed the lines of the one are followed by those of the other,
except that the last line of the first then gives up a final carriage return.
-/

set_option autoImplicit false
namespace ContentBlocker.Text

/-- A line without the carriage return at its end, if it has one. -/
def dropFinalReturn (s : List Char) : List Char :=
  if s.getLast? = some '\r' then s.dropLast else s

/-- The lines of a text.  All but the last end at a line break. -/
def lineChars (s : List Char) : List (List Char) :=
  let pieces := s.splitOn '\n'
  pieces.dropLast.map dropFinalReturn ++ pieces.getLast?.toList

/-- The lines of a text. -/
def lines (s : String) : List String :=
  (lineChars s.toList).map String.ofList

/-- The texts joined by line feeds, which is how a list of lines becomes one text. -/
def unlines (ls : List String) : String :=
  "\n".intercalate ls

end ContentBlocker.Text
