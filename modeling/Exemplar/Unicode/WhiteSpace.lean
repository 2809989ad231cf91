import Exemplar.Unicode.Boundaries

/-! The characters that count as blank when a text is trimmed. -/
namespace Exemplar.Unicode

/-- The property `White_Space`. -/
def whiteSpace : Boundaries :=
  ⟨[
    0x9, 0xE, 0x20, 0x21, 0x85, 0x86, 0xA0, 0xA1, 0x1680, 0x1681, 0x2000, 0x200B, 0x2028, 0x202A,
    0x202F, 0x2030, 0x205F, 0x2060, 0x3000, 0x3001
  ]⟩

/-- A blank character: a space, a line or paragraph end, or one of the other spaces of the standard. -/
def isBlank (c : Char) : Bool :=
  whiteSpace.covers c.toNat

end Exemplar.Unicode
