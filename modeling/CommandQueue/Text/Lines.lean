/-!
# Lines

A newline ends a line, and a carriage return just before it belongs to the end.
-/

namespace CommandQueue.Text

def withoutReturn (line : String) : String :=
  if line.toList.getLast? = some '\r' then String.ofList line.toList.dropLast else line

/-- The lines of a text that is written with a newline behind it. -/
def writtenLines (text : String) : List String :=
  (text.splitOn "\n").map withoutReturn

/-- The lines of a text.  What follows the last newline is a line if there is anything, and then
nothing ends it. -/
def linesOf (text : String) : List String :=
  let parts := text.splitOn "\n"
  let unended := parts.getLastD ""
  parts.dropLast.map withoutReturn ++ if unended.isEmpty then [] else [unended]

example : linesOf "\r\n" = [""] := by cbv
example : linesOf "a\r" = ["a\r"] := by cbv

end CommandQueue.Text
