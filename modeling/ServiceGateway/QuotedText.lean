import ServiceGateway.Hexadecimal
import ServiceGateway.Printable

/-!
# Quoted text

The form in which texts appear inside messages: between single quotes, or between double quotes
when the text holds a single quote and no double one. The backslash, the quote in use, line feed,
carriage return and tab are escaped by a letter, other unprintable characters by their code point.
-/
namespace ServiceGateway

def quoteFor (t : Text) : Char := if '\'' ∈ t ∧ '"' ∉ t then '"' else '\''

/-- A code point in the shortest of the widths two, four and eight that holds it. -/
def escapedCode (n : Nat) : Text :=
  if n < 0x100 then '\\' :: 'x' :: hexDigits 'a' 2 n
  else if n < 0x10000 then '\\' :: 'u' :: hexDigits 'a' 4 n
  else '\\' :: 'U' :: hexDigits 'a' 8 n

def escapedChar (quote c : Char) : Text :=
  if c = quote ∨ c = '\\' then ['\\', c]
  else if c = '\n' then ['\\', 'n']
  else if c = '\r' then ['\\', 'r']
  else if c = '\t' then ['\\', 't']
  else if isPrintable c then [c]
  else escapedCode c.toNat

def quoted (t : Text) : Text :=
  let quote := quoteFor t
  quote :: t.flatMap (escapedChar quote) ++ [quote]

/-- A sequence of items in parentheses; a sequence of one keeps a comma behind its item. -/
def parenthesized : List Text → Text
  | [t] => '(' :: t ++ ",)"
  | ts => '(' :: joinWith ", " ts ++ [')']

def quotedList (ts : List Text) : Text := parenthesized (ts.map quoted)

end ServiceGateway
