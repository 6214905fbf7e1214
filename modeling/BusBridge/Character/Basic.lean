/-
This file describes sets of characters by ranges of code points, and lists the white space of text,
the Unicode property White_Space.
-/

namespace BusBridge.Character

/-- Each pair holds the first and the last code point of a range. -/
abbrev Ranges := List (Nat × Nat)

def Ranges.covers (ranges : Ranges) (point : Nat) : Bool :=
  ranges.any fun range => range.1 ≤ point && point ≤ range.2


def blankRanges : Ranges := [
  (0x9, 0xD), (0x20, 0x20), (0x85, 0x85), (0xA0, 0xA0), (0x1680, 0x1680),
  (0x2000, 0x200A), (0x2028, 0x2029), (0x202F, 0x202F), (0x205F, 0x205F), (0x3000, 0x3000)]

/-- White space separates words in type references and is trimmed at their ends. -/
def isBlank (character : Char) : Bool :=
  blankRanges.covers character.toNat

end BusBridge.Character
