import AccelForm.Text.Numeral
/-
  Percent-encoding

  A text is spelled byte by byte: a byte that may stand for itself does, any
  other is a percent sign with two hexadecimal digits in upper case. Decoding
  reads such triples and leaves everything else as it is. Which bytes stand
  for themselves depends on the part of an address.
-/

namespace AccelForm.Url

def bytesOf (s : String) : List UInt8 := s.toUTF8.data.toList

def upperDigit (n : Nat) : Char :=
  if n < 10 then Char.ofNat (n + '0'.toNat) else Char.ofNat (n - 10 + 'A'.toNat)

/-- A byte as a percent sign and two digits. -/
def escapeByte (b : UInt8) : List Char :=
  ['%', upperDigit (b.toNat / 16), upperDigit (b.toNat % 16)]

/-- The character with the code of a byte. -/
def byteChar (b : UInt8) : Char := Char.ofNat b.toNat

/-- Spells bytes; `escaped` says which ones may not stand for themselves. -/
def encodeBytes (escaped : UInt8 → Bool) (bytes : List UInt8) : List Char :=
  bytes.flatMap fun b => if escaped b then escapeByte b else [byteChar b]

def encode (escaped : UInt8 → Bool) (s : String) : String :=
  String.ofList (encodeBytes escaped (bytesOf s))

/-- The bytes that a spelling stands for. -/
def decodeChars : List Char → List UInt8
  | [] => []
  | '%' :: a :: b :: rest =>
    match Text.hexValue? a, Text.hexValue? b with
    | some x, some y => UInt8.ofNat (16 * x + y) :: decodeChars rest
    | _, _ => String.utf8EncodeChar '%' ++ decodeChars (a :: b :: rest)
  | c :: rest => String.utf8EncodeChar c ++ decodeChars rest

/-- Whether a byte is a control character or not ASCII. -/
def isControl (b : UInt8) : Bool := b < 0x20 || 0x7f ≤ b

/-- Whether a byte is one of the given characters. -/
def isOneOf (chars : List Char) (b : UInt8) : Bool := chars.contains (byteChar b)

/-- The characters that may not stand for themselves in a name that is one segment of a path. -/
def segmentReserved : List Char :=
  [' ', '"', '<', '>', '\x60', '\x7b', '\x7d', '|', '\\', '^', '~', '%', '/', '?', '#', '+', ',',
    ';', '[', ']']

/-- Whether a byte is spelled with a percent sign in a segment. -/
def segmentEscaped (b : UInt8) : Bool := isControl b || isOneOf segmentReserved b

/-- A name as one segment of a path. -/
def encodeSegment (s : String) : String := encode segmentEscaped s

/-- Whether a byte is spelled with a percent sign in a fragment. -/
def fragmentEscaped (b : UInt8) : Bool := isControl b || isOneOf [' ', '"', '<', '>', '\x60'] b

/-- Whether a byte is spelled with a percent sign in a path. -/
def pathEscaped (b : UInt8) : Bool := fragmentEscaped b || isOneOf ['#', '?', '\x7b', '\x7d'] b

/-- Whether a byte is spelled with a percent sign in a user name or a password. -/
def userEscaped (b : UInt8) : Bool :=
  pathEscaped b || isOneOf ['/', ':', ';', '=', '@', '[', '\\', ']', '^', '|'] b

/-- Whether a byte is spelled with a percent sign in a query. -/
def queryEscaped (b : UInt8) : Bool := isControl b || isOneOf [' ', '"', '#', '<', '>', '\''] b

def formPlain (b : UInt8) : Bool := (byteChar b).isAlphanum || isOneOf ['*', '-', '.', '_'] b

/-- A text as a key or a value of a form: a blank is a plus sign. -/
def encodeFormText (s : String) : String :=
  String.ofList ((bytesOf s).flatMap fun b =>
    if b = 0x20 then ['+'] else if formPlain b then [byteChar b] else escapeByte b)

def encodeForm (pairs : List (String × String)) : String :=
  "&".intercalate (pairs.map fun (k, v) => encodeFormText k ++ "=" ++ encodeFormText v)

end AccelForm.Url
