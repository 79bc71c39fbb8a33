import ServiceGateway.Text

/-!
# Lines of a text

A line ends at a line feed, a carriage return, both together, a vertical tab, a form feed, one of
three separators among the control characters, the next-line character, or the line or paragraph
separator of Unicode. Nothing stands behind the last end of a line.
-/
namespace ServiceGateway

def isLineEnd (c : Char) : Bool :=
  c ∈ ['\n', '\r', '\x0b', '\x0c', '\x1c', '\x1d', '\x1e', '\u0085', '\u2028', '\u2029']

def textLines : Text → List Text
  | [] => []
  | '\r' :: '\n' :: rest => [] :: textLines rest
  | c :: rest =>
    if isLineEnd c then [] :: textLines rest
    else match textLines rest with
      | [] => [[c]]
      | line :: lines => (c :: line) :: lines

/-- A text without ends of lines is one line. -/
theorem textLines_append_lineFeed {t : Text} (h : t.any isLineEnd = false) :
    textLines (t ++ ['\n']) = [t] := by
  induction t with
  | nil => rfl
  | cons c t ih =>
    obtain ⟨hc, ht⟩ := Bool.or_eq_false_iff.1 h
    rw [List.cons_append, textLines, if_neg (Bool.eq_false_iff.1 hc), ih ht]
    -- A carriage return before the line feed would be part of the same end.
    intro rest hreturn
    subst hreturn
    exact absurd hc (by decide)

end ServiceGateway
