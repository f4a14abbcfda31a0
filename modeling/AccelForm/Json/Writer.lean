import AccelForm.Json.Value
import AccelForm.Binary64.Shortest
import AccelForm.Text.Numeral
/-
  Writing JSON

  The compact form has no spaces. The indented form puts every item and every
  member on a line of its own, two blanks further in than what holds it; an
  empty array or object stays on one line in both. In a string only the quote,
  the backslash and the control characters below the blank are escaped.
-/

namespace AccelForm.Json

/-- One character inside a string. -/
def escapedChar (c : Char) : List Char :=
  if c = '"' then ['\\', '"']
  else if c = '\\' then ['\\', '\\']
  else if c = '\n' then ['\\', 'n']
  else if c = '\t' then ['\\', 't']
  else if c = '\r' then ['\\', 'r']
  else if c.toNat = 8 then ['\\', 'b']
  else if c.toNat = 12 then ['\\', 'f']
  else if c.toNat < 32 then '\\' :: 'u' :: Text.hexDigits 4 c.toNat
  else [c]

def quotedChars (s : String) : List Char :=
  '"' :: s.toList.flatMap escapedChar ++ ['"']

def numberChars : Number → List Char
  | .int i => if i < 0 then '-' :: Nat.toDigits 10 i.natAbs else Nat.toDigits 10 i.natAbs
  | .real x => x.chars

mutual

def compactChars : Json → List Char
  | .null => ['n', 'u', 'l', 'l']
  | .bool true => ['t', 'r', 'u', 'e']
  | .bool false => ['f', 'a', 'l', 's', 'e']
  | .number n => numberChars n
  | .string s => quotedChars s
  | .array items => '[' :: compactItems items ++ [']']
  | .object members => '\x7b' :: compactMembers members ++ ['\x7d']

def compactItems : List Json → List Char
  | [] => []
  | [x] => compactChars x
  | x :: rest => compactChars x ++ ',' :: compactItems rest

/-- Members with commas between them. -/
def compactMembers : List (String × Json) → List Char
  | [] => []
  | [(k, v)] => quotedChars k ++ ':' :: compactChars v
  | (k, v) :: rest => quotedChars k ++ ':' :: compactChars v ++ ',' :: compactMembers rest

end

def compact (v : Json) : String := String.ofList v.compactChars

/-- The start of a line that is `depth` levels in. -/
def lineStart (depth : Nat) : List Char := '\n' :: List.replicate (2 * depth) ' '

mutual

/-- A value in the indented form, its first character standing `depth` levels in. -/
def indentedChars (depth : Nat) : Json → List Char
  | .null => ['n', 'u', 'l', 'l']
  | .bool true => ['t', 'r', 'u', 'e']
  | .bool false => ['f', 'a', 'l', 's', 'e']
  | .number n => numberChars n
  | .string s => quotedChars s
  | .array [] => ['[', ']']
  | .array (x :: rest) =>
    '[' :: lineStart (depth + 1) ++ indentedChars (depth + 1) x ++
      indentedItems (depth + 1) rest ++ lineStart depth ++ [']']
  | .object [] => ['\x7b', '\x7d']
  | .object ((k, v) :: rest) =>
    '\x7b' :: lineStart (depth + 1) ++ quotedChars k ++ ':' :: ' ' ::
      indentedChars (depth + 1) v ++ indentedMembers (depth + 1) rest ++ lineStart depth ++ ['\x7d']

/-- The items after the first, each after a comma on a line of its own. -/
def indentedItems (depth : Nat) : List Json → List Char
  | [] => []
  | x :: rest => ',' :: lineStart depth ++ indentedChars depth x ++ indentedItems depth rest

/-- The members after the first, each after a comma on a line of its own. -/
def indentedMembers (depth : Nat) : List (String × Json) → List Char
  | [] => []
  | (k, v) :: rest =>
    ',' :: lineStart depth ++ quotedChars k ++ ':' :: ' ' :: indentedChars depth v ++
      indentedMembers depth rest

end

def indented (v : Json) : String := String.ofList (v.indentedChars 0)

end AccelForm.Json
