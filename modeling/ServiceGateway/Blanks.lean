import ServiceGateway.CodeRanges

/-!
# Blanks

The blank characters of Unicode 14.0, with the separators among the control characters, the six
blanks of ASCII, and texts without the blanks at their two ends. The NUL is no blank; some texts end
in front of it.
-/
namespace ServiceGateway

def blankRanges : CodeRanges := [
  ⟨0x09, 0x0D⟩, ⟨0x1C, 0x20⟩, ⟨0x85, 0x85⟩, ⟨0xA0, 0xA0⟩, ⟨0x1680, 0x1680⟩, ⟨0x2000, 0x200A⟩,
  ⟨0x2028, 0x2029⟩, ⟨0x202F, 0x202F⟩, ⟨0x205F, 0x205F⟩, ⟨0x3000, 0x3000⟩]

def isBlank (c : Char) : Bool := blankRanges.covers c

/-- The blanks of ASCII, without the separators. -/
def isAsciiBlank (c : Char) : Bool := c.isWhitespace || c = '\x0b' || c = '\x0c'

/-- The text between two runs of characters of a class. -/
def trimmed (drop : Char → Bool) (t : Text) : Text :=
  ((t.dropWhile drop).reverse.dropWhile drop).reverse

/-- The text in front of its first NUL. -/
def beforeNul (t : Text) : Text := t.takeWhile (· ≠ '\x00')

end ServiceGateway
