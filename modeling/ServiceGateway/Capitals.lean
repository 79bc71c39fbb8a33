import ServiceGateway.Text

/-!
# Capitals

Upper case as far as it leads to ASCII letters, which is what it takes to recognise a word written
in ASCII capitals. Outside ASCII, these are the characters of Unicode 14.0 whose capitals are ASCII
letters only: the dotless i, the long s, the sharp s and seven ligatures. Every other character
outside ASCII stays, and so does not turn into one of ASCII.
-/
namespace ServiceGateway

def ligatures : List (Char × Text) :=
  [('\u00df', "SS"), ('\u0131', "I"), ('\u017f', "S"), ('\ufb00', "FF"), ('\ufb01', "FI"),
    ('\ufb02', "FL"), ('\ufb03', "FFI"), ('\ufb04', "FFL"), ('\ufb05', "ST"), ('\ufb06', "ST")]

def capital (c : Char) : Text := (ligatures.lookup c).getD [c.toUpper]

def capitals (t : Text) : Text := t.flatMap capital

end ServiceGateway
