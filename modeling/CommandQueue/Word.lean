/-!
# Words

Indices and sizes are kept in words of 32 or 64 bits.  A number is such a word
when it stays below the bound of its width.
-/

namespace CommandQueue

/-- The first number that is no word of 32 bits. -/
def wordBound : Nat := 0x100000000

/-- The first number that is no word of 64 bits. -/
def longBound : Nat := 0x10000000000000000

end CommandQueue
