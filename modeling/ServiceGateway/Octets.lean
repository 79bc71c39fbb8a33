import ServiceGateway.Blanks
import ServiceGateway.Hexadecimal

/-!
# Octets

The UTF-8 form of a text, reading it back, and two ways of writing octets as text: in hexadecimal,
and percent-encoded for a header field.
-/
namespace ServiceGateway

abbrev Octets := List UInt8

def utf8 (t : Text) : Octets := t.flatMap String.utf8EncodeChar

/-- The text whose UTF-8 form the octets are, if there is one. -/
def ofUtf8? (b : Octets) : Option Text :=
  (String.fromUTF8? ⟨b.toArray⟩).map String.toList

/-- A text is read from its own octets and from no others. -/
theorem ofUtf8?_eq_some_iff {b : Octets} {t : Text} : ofUtf8? b = some t ↔ utf8 t = b := by
  have packed : (⟨b.toArray⟩ : ByteArray) = b.toByteArray :=
    ByteArray.ext List.data_toByteArray.symm
  have bytes (t : Text) : (String.ofList t).toByteArray = (utf8 t).toByteArray :=
    String.toByteArray_ofList
  rw [ofUtf8?, String.fromUTF8?, packed]
  constructor
  · intro h
    obtain ⟨s, hs, rfl⟩ := Option.map_eq_some_iff.1 h
    obtain ⟨valid, hs⟩ := Option.dite_none_right_eq_some.1 hs
    obtain rfl := Option.some.inj hs
    have read := bytes (String.fromUTF8 b.toByteArray valid).toList
    rw [String.ofList_toList] at read
    exact (List.toByteArray_inj.1 read).symm
  · rintro rfl
    have read : String.fromUTF8 (utf8 t).toByteArray ⟨t, rfl⟩ = String.ofList t :=
      String.toByteArray_inj.1 (bytes t).symm
    rw [dif_pos ⟨t, rfl⟩, read, Option.map_some, String.toList_ofList]

def hexText (b : Octets) : Text := b.flatMap fun x => hexDigits 'a' 2 x.toNat

/-- Reads pairs of hexadecimal digits, with blanks between the pairs. The position of the first
character that does not fit is counted from the given one. -/
def octetsFrom (position : Nat) : Text → Except Nat Octets
  | [] => .ok []
  | [c] =>
    if isAsciiBlank c then .ok []
    else .error (if (hexValue? c).isSome then position + 1 else position)
  | h :: l :: rest =>
    if isAsciiBlank h then octetsFrom (position + 1) (l :: rest)
    else match hexValue? h, hexValue? l with
      | some high, some low => do
        let octets ← octetsFrom (position + 2) rest
        .ok ((16 * high + low).toUInt8 :: octets)
      | none, _ => .error position
      | some _, none => .error (position + 1)

/-- A character outside ASCII is found before any other. -/
def octetsOfHex (t : Text) : Except Nat Octets :=
  let ascii := t.takeWhile fun c => c.toNat < 0x80
  if ascii = t then octetsFrom 0 t else .error ascii.length

/-- Characters that an address in a header field keeps as they are. -/
def keptInAddress (c : Char) : Bool :=
  c.isAlphanum || c ∈ "_.-~:/%#?=@[]!$&'()*+,;".toList

/-- Percent-encodes the UTF-8 form of every character that an address does not keep. -/
def percentEncoded (t : Text) : Text :=
  t.flatMap fun c =>
    if keptInAddress c then [c]
    else (String.utf8EncodeChar c).flatMap fun b => '%' :: hexDigits 'A' 2 b.toNat

end ServiceGateway
