import Stencil.Unicode.CharRange

/-! The Unicode property Default_Ignorable_Code_Point: fillers, joiners, selectors and other
characters that leave no trace when they are drawn. -/
namespace Stencil.Unicode

/-- The code points with the property Default_Ignorable_Code_Point, in ascending order. -/
def defaultIgnorable : List CharRange :=
  [⟨0x00ad, 0x00ad, 1⟩, ⟨0x034f, 0x034f, 1⟩, ⟨0x061c, 0x061c, 1⟩, ⟨0x115f, 0x1160, 1⟩,
   ⟨0x17b4, 0x17b5, 1⟩, ⟨0x180b, 0x180f, 1⟩, ⟨0x200b, 0x200f, 1⟩, ⟨0x202a, 0x202e, 1⟩,
   ⟨0x2060, 0x206f, 1⟩, ⟨0x3164, 0x3164, 1⟩, ⟨0xfe00, 0xfe0f, 1⟩, ⟨0xfeff, 0xfeff, 1⟩,
   ⟨0xffa0, 0xffa0, 1⟩, ⟨0xfff0, 0xfff8, 1⟩, ⟨0x1bca0, 0x1bca3, 1⟩, ⟨0x1d173, 0x1d17a, 1⟩,
   ⟨0xe0000, 0xe0fff, 1⟩]

/-- Characters that are not drawn though some of them are letters. -/
def isDefaultIgnorable (c : Char) : Bool := defaultIgnorable.any (·.contains c.toNat)

end Stencil.Unicode
