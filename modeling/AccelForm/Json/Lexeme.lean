import AccelForm.Json.Numeral
/-
  Lexemes of a JSON text

  The text is cut into lexemes by one pass over its characters. A string is
  kept as the text it denotes, if it denotes one: an escaped surrogate that
  has no partner denotes nothing. A numeral is kept as its value, if it has
  one. So a text can be cut although some lexemes in it have no value.
-/

namespace AccelForm.Json

inductive Lexeme where
  | openArray
  | closeArray
  | openObject
  | closeObject
  | colon
  | comma
  | null
  | bool (value : Bool)
  | number (value : Option Number)
  | string (value : Option String)
  deriving DecidableEq, Repr

/-- A part of a string as spelled: a character, or an escaped unit of 16 bits. -/
inductive Piece where
  | char (c : Char)
  | unit (n : Nat)
  deriving DecidableEq, Repr

/-- Whether a unit of 16 bits is the first of a pair. -/
def isHighUnit (n : Nat) : Bool := 0xd800 ≤ n && n < 0xdc00

/-- Whether a unit of 16 bits is the second of a pair. -/
def isLowUnit (n : Nat) : Bool := 0xdc00 ≤ n && n < 0xe000

/-- The characters that the pieces of a string denote. -/
def denoted : List Piece → Option (List Char)
  | [] => some []
  | .char c :: rest => (denoted rest).map (c :: ·)
  | [.unit n] => if isHighUnit n || isLowUnit n then none else some [Char.ofNat n]
  | .unit n :: .char c :: rest =>
    if isHighUnit n || isLowUnit n then none
    else (denoted rest).map fun cs => Char.ofNat n :: c :: cs
  | .unit n :: .unit m :: rest =>
    if isHighUnit n then
      if isLowUnit m then
        (denoted rest).map (Char.ofNat (0x10000 + (n - 0xd800) * 0x400 + (m - 0xdc00)) :: ·)
      else none
    else if isLowUnit n then none
    else (denoted (.unit m :: rest)).map (Char.ofNat n :: ·)

/-- What the pass over the characters is in the middle of; characters and pieces are kept in
reverse. -/
inductive LexMode where
  | between
  | word (letters : List Char)
  | numeral (chars : List Char)
  | quoted (pieces : List Piece)
  | escape (pieces : List Piece)
  | unit (pieces : List Piece) (missing : Nat) (value : Nat)
  deriving DecidableEq, Repr

def ofWord? (letters : List Char) : Option Lexeme :=
  let w := String.ofList letters.reverse
  if w = "null" then some .null
  else if w = "true" then some (.bool true)
  else if w = "false" then some (.bool false)
  else none

def ofNumeral? (chars : List Char) : Option Lexeme :=
  (Numeral.read? chars.reverse).map fun n => .number n.value?

/-- The lexeme that the pieces between two quotes are. -/
def ofPieces (pieces : List Piece) : Lexeme :=
  .string ((denoted pieces.reverse).map String.ofList)

def isJsonBlank (c : Char) : Bool := c == ' ' || c == '\n' || c == '\t' || c == '\r'

/-- What a character outside of all lexemes completes and begins. -/
def begin? (c : Char) : Option (List Lexeme × LexMode) :=
  if isJsonBlank c then some ([], .between)
  else if c = '"' then some ([], .quoted [])
  else if c = '-' || c.isDigit then some ([], .numeral [c])
  else if c.isAlpha then some ([], .word [c])
  else if c = '[' then some ([.openArray], .between)
  else if c = ']' then some ([.closeArray], .between)
  else if c = '\x7b' then some ([.openObject], .between)
  else if c = '\x7d' then some ([.closeObject], .between)
  else if c = ':' then some ([.colon], .between)
  else if c = ',' then some ([.comma], .between)
  else none

/-- The character that an escape of one letter stands for. -/
def escaped? (c : Char) : Option Char :=
  if c = '"' || c = '\\' || c = '/' then some c
  else if c = 'b' then some (Char.ofNat 8)
  else if c = 'f' then some (Char.ofNat 12)
  else if c = 'n' then some '\n'
  else if c = 'r' then some '\r'
  else if c = 't' then some '\t'
  else none

/-- Whether a numeral can go on with a character. -/
def inNumeral (c : Char) : Bool :=
  c.isDigit || c == '.' || c == '+' || c == '-' || c == 'e' || c == 'E'

/-- What the next character completes, and what the pass is in the middle of after it. -/
def lexStep : LexMode → Char → Option (List Lexeme × LexMode)
  | .between, c => begin? c
  | .word w, c =>
    if c.isAlpha then some ([], .word (c :: w))
    else (ofWord? w).bind fun l => (begin? c).map fun (ls, m) => (l :: ls, m)
  | .numeral w, c =>
    if inNumeral c then some ([], .numeral (c :: w))
    else (ofNumeral? w).bind fun l => (begin? c).map fun (ls, m) => (l :: ls, m)
  | .quoted ps, c =>
    if c = '"' then some ([ofPieces ps], .between)
    else if c = '\\' then some ([], .escape ps)
    else if c.toNat < 32 then none
    else some ([], .quoted (.char c :: ps))
  | .escape ps, c =>
    if c = 'u' then some ([], .unit ps 4 0)
    else (escaped? c).map fun d => ([], .quoted (.char d :: ps))
  | .unit ps missing value, c =>
    (Text.hexValue? c).map fun h =>
      let value := 16 * value + h
      ([], if missing ≤ 1 then .quoted (.unit value :: ps) else .unit ps (missing - 1) value)

/-- What the end of the text completes. -/
def lexEnd : LexMode → Option (List Lexeme)
  | .between => some []
  | .word w => (ofWord? w).map ([·])
  | .numeral w => (ofNumeral? w).map ([·])
  | _ => none

/-- The lexemes of the rest of a text, after those already found, which are in reverse. -/
def lexFrom (mode : LexMode) (found : List Lexeme) : List Char → Option (List Lexeme)
  | [] => (lexEnd mode).map fun ls => found.reverse ++ ls
  | c :: rest =>
    match lexStep mode c with
    | none => none
    | some (ls, next) => lexFrom next (ls.reverse ++ found) rest

def lexemes? (s : String) : Option (List Lexeme) := lexFrom .between [] s.toList

end AccelForm.Json
