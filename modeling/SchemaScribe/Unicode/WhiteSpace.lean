import SchemaScribe.Unicode.Ranges

/-!
# White space

The characters with the White_Space property. No word character is among them, so a run of words
and blanks splits in one way only.
-/
namespace SchemaScribe.Unicode

def spaceRanges : Ranges :=
  [(0x9, 0xD), (0x20, 0x20), (0x85, 0x85), (0xA0, 0xA0), (0x1680, 0x1680), (0x2000, 0x200A),
   (0x2028, 0x2029), (0x202F, 0x202F), (0x205F, 0x205F), (0x3000, 0x3000)]

/-- Whether a character is white space. -/
def isSpace (c : Char) : Bool := spaceRanges.covers c.toNat

/-- A text without the white space at its two ends. -/
def trim (cs : List Char) : List Char :=
  ((cs.dropWhile isSpace).reverse.dropWhile isSpace).reverse

end SchemaScribe.Unicode
