import CommandQueue.Text.CharacterSet

/-!
# Blanks

The characters that separate words: the plain blank, the controls that move to
another place of the line or page, and the spaces and separators of every width.
-/

namespace CommandQueue.Text

def blanks : CharacterSet :=
  ⟨[0x9, 0xe, 0x20, 0x21, 0x85, 0x86, 0xa0, 0xa1, 0x1680, 0x1681, 0x2000, 0x200b, 0x2028, 0x202a,
    0x202f, 0x2030, 0x205f, 0x2060, 0x3000, 0x3001]⟩

def blank (character : Char) : Bool := blanks.contains character

/-- A text without the blanks around it. -/
def trimmed (text : String) : String :=
  let fromFirst := text.toList.dropWhile blank
  String.ofList ((fromFirst.reverse.dropWhile blank).reverse)

example : blank ' ' = true := by decide +kernel
example : blank '\u3000' = true := by decide +kernel
example : blank '\u200b' = false := by decide +kernel

end CommandQueue.Text
