import ServiceGateway.Json

/-!
# Reading JSON

Reads one document with blanks between its tokens. Members keep their order and may repeat a name.
An integer is a numeral without point and exponent; every other numeral is read as the nearest
binary64 number. The words for infinity and for no number are read for numbers, too. Escaped
surrogates count only in pairs. Each call on a nested part gives up one unit of fuel, and every part
takes at least one character, so the length of the text is enough.
-/
namespace ServiceGateway.Json

def isBlank (c : Char) : Bool := c = ' ' || c = '\t' || c = '\n' || c = '\r'

def skipBlanks (t : Text) : Text := t.dropWhile isBlank

def escapedUnit? (c : Char) : Option Nat :=
  if c = '"' ∨ c = '\\' ∨ c = '/' then some c.toNat
  else if c = 'n' then some 0x0a
  else if c = 'r' then some 0x0d
  else if c = 't' then some 0x09
  else if c = 'f' then some 0x0c
  else if c = 'b' then some 0x08
  else none

/-- The code units of a string behind its opening quote, and what follows the closing one. -/
def readUnits : Text → Option (List Nat × Text)
  | [] => none
  | '"' :: rest => some ([], rest)
  | '\\' :: 'u' :: a :: b :: c :: d :: rest => do
    let n ← readHex? [a, b, c, d]
    let (units, rest) ← readUnits rest
    some (n :: units, rest)
  | '\\' :: e :: rest => do
    let n ← escapedUnit? e
    let (units, rest) ← readUnits rest
    some (n :: units, rest)
  | c :: rest =>
    if c.toNat < 0x20 then none
    else do
      let (units, rest) ← readUnits rest
      some (c.toNat :: units, rest)

def isHighSurrogate (n : Nat) : Bool := 0xd800 ≤ n && n < 0xdc00

def isLowSurrogate (n : Nat) : Bool := 0xdc00 ≤ n && n < 0xe000

/-- The characters of code units, with pairs of surrogates put together. -/
def ofUnits? : List Nat → Option Text
  | [] => some []
  | [n] =>
    if isHighSurrogate n || isLowSurrogate n then none else some [Char.ofNat n]
  | n :: m :: rest =>
    if isHighSurrogate n && isLowSurrogate m then
      (ofUnits? rest).map (Char.ofNat (0x10000 + (n - 0xd800) * 0x400 + (m - 0xdc00)) :: ·)
    else if isHighSurrogate n || isLowSurrogate n then none
    else (ofUnits? (m :: rest)).map (Char.ofNat n :: ·)

def readString (t : Text) : Option (Text × Text) := do
  let (units, rest) ← readUnits t
  some (← ofUnits? units, rest)

def isNumeralChar (c : Char) : Bool := c.isDigit || c ∈ ['-', '+', '.', 'e', 'E']

def isIntegerText : Text → Bool
  | '-' :: digits => !digits.isEmpty && digits.all (·.isDigit)
  | digits => !digits.isEmpty && digits.all (·.isDigit)

def readNumeral (t : Text) : Option (Scalar × Text) := do
  let numeral := t.takeWhile isNumeralChar
  let n ← DecimalNumeral.read? numeral
  let rest := t.dropWhile isNumeralChar
  if isIntegerText numeral then
    some (.integer (if n.negative then -(n.coefficient : Int) else n.coefficient), rest)
  else some (.double (Binary64.ofNumeral n), rest)

/-- The words for numbers that have no numeral. -/
def numberWords : List (Text × Binary64) :=
  [("NaN", .nan), ("Infinity", .infinite false), ("-Infinity", .infinite true)]

def readNumber (t : Text) : Option (Scalar × Text) :=
  (numberWords.findSome? fun w => (below? w.1 t).map (.double w.2, ·)).or (readNumeral t)

mutual
def readValue : Nat → Text → Option (Json × Text)
  | 0, _ => none
  | fuel + 1, t =>
    match skipBlanks t with
    | '"' :: rest => (readString rest).map fun (s, rest) => (scalar (.text s), rest)
    | '[' :: rest =>
      match skipBlanks rest with
      | ']' :: rest => some (array [], rest)
      | rest => (readItems fuel rest).map fun (items, rest) => (array items, rest)
    | '{' :: rest =>
      match skipBlanks rest with
      | '}' :: rest => some (object [], rest)
      | rest => (readMembers fuel rest).map fun (members, rest) => (object members, rest)
    | 'n' :: 'u' :: 'l' :: 'l' :: rest => some (scalar .null, rest)
    | 't' :: 'r' :: 'u' :: 'e' :: rest => some (scalar (.boolean true), rest)
    | 'f' :: 'a' :: 'l' :: 's' :: 'e' :: rest => some (scalar (.boolean false), rest)
    | rest => (readNumber rest).map fun (n, rest) => (scalar n, rest)
/-- The items of an array up to its closing bracket; there is at least one. -/
def readItems : Nat → Text → Option (List Json × Text)
  | 0, _ => none
  | fuel + 1, t => do
    let (item, rest) ← readValue fuel t
    match skipBlanks rest with
    | ']' :: rest => some ([item], rest)
    | ',' :: rest =>
      let (items, rest) ← readItems fuel rest
      some (item :: items, rest)
    | _ => none
/-- The members of an object up to its closing brace; there is at least one. -/
def readMembers : Nat → Text → Option (List (Scalar × Json) × Text)
  | 0, _ => none
  | fuel + 1, t =>
    match skipBlanks t with
    | '"' :: rest => do
      let (name, rest) ← readString rest
      match skipBlanks rest with
      | ':' :: rest =>
        let (value, rest) ← readValue fuel rest
        match skipBlanks rest with
        | '}' :: rest => some ([(.text name, value)], rest)
        | ',' :: rest =>
          let (members, rest) ← readMembers fuel rest
          some ((.text name, value) :: members, rest)
        | _ => none
      | _ => none
    | _ => none
end

/-- The document that the whole text is, if it is one. -/
def read? (t : Text) : Option Json :=
  match readValue (t.length + 1) t with
  | some (j, rest) => if skipBlanks rest = [] then some j else none
  | none => none

end ServiceGateway.Json
