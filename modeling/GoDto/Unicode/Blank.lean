import GoDto.Unicode.Ranges

/-!
White space: the characters with the property White_Space.
-/

set_option maxRecDepth 8000

namespace GoDto.Unicode

/-- Line breaks, tabs and spaces of every width. -/
def blanks : Ranges :=
  [(0x9, 0xd), (0x20, 0x20), (0x85, 0x85), (0xa0, 0xa0), (0x1680, 0x1680), (0x2000, 0x200a),
    (0x2028, 0x2029), (0x202f, 0x202f), (0x205f, 0x205f), (0x3000, 0x3000)]

def isBlank (c : Char) : Bool := blanks.has c.toNat

end GoDto.Unicode
