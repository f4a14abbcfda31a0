import AccelForm.Binary64.Reading
import AccelForm.Json.Writer
/-
  Writing YAML

  A value is written in block style; the items of a sequence stand no further
  in than the key that they belong to. A string is plain where it cannot be
  taken for anything else, else in single quotes. A string with line breaks is
  a literal block. What neither form can hold is written in double quotes with
  escapes.
-/

namespace AccelForm.Yaml

/-- Whether a character breaks a line. -/
def isBreak (c : Char) : Bool :=
  c == '\n' || c == '\r' || c.toNat == 0x85 || c.toNat == 0x2028 || c.toNat == 0x2029

/-- Whether a character can be written as it is. -/
def isPrintable (c : Char) : Bool :=
  let n := c.toNat
  n == 10 || (0x20 ≤ n && n ≤ 0x7e) ||
    (0xa0 ≤ n && n != 0xfeff && n != 0xfffe && n != 0xffff)

/-- Whether a character parts words. -/
def isSpacing (c : Char) : Bool := c == ' ' || c == '\t' || c == Char.ofNat 0 || isBreak c

/-- Whether two characters that follow each other satisfy a condition. -/
def anyPair (p : Char → Char → Bool) : List Char → Bool
  | c :: d :: rest => p c d || anyPair p (d :: rest)
  | _ => false

/-! ## Words that stand for other values -/

/-- The words for the missing value and for the truth values, and the names of special numbers. -/
def reservedWords : List String :=
  ["null", "Null", "NULL", "~", "true", "True", "TRUE", "false", "False", "FALSE",
    ".inf", ".Inf", ".INF", "+.inf", "+.Inf", "+.INF", "-.inf", "-.Inf", "-.INF",
    ".nan", ".NaN", ".NAN"]

def digitsValue? (base : Nat) (digits : List Char) : Option Nat :=
  if digits.isEmpty then none
  else digits.foldlM (fun n c =>
    (Text.hexValue? c).bind fun d => if d < base then some (base * n + d) else none) 0

/-- The value of digits after a mark of their base. -/
def markedValue? : List Char → Option Nat
  | '0' :: 'x' :: digits => digitsValue? 16 digits
  | '0' :: 'o' :: digits => digitsValue? 8 digits
  | '0' :: 'b' :: digits => digitsValue? 2 digits
  | _ => none

/-- Whether a text is a whole number with a mark of its base. -/
def isMarkedNumber : List Char → Bool
  | '-' :: cs => (markedValue? cs).any (· ≤ Nat.pow 2 127)
  | '+' :: cs => (markedValue? cs).any (· < Nat.pow 2 128)
  | cs => (markedValue? cs).any (· < Nat.pow 2 128)

/-- A text without one sign in front. -/
def dropSign : List Char → List Char
  | '-' :: rest => rest
  | '+' :: rest => rest
  | cs => cs

/-- Whether a text is a zero with more digits after it. -/
def hasLeadingZero (cs : List Char) : Bool :=
  match dropSign cs with
  | '0' :: d :: rest => (d :: rest).all Char.isDigit
  | _ => false

/-- Whether a text is a finite number; after a plus sign there must be no other sign. -/
def isFiniteNumber (cs : List Char) : Bool :=
  let unsigned := match cs with
    | '+' :: '+' :: _ => []
    | '+' :: '-' :: _ => []
    | '+' :: rest => rest
    | _ => cs
  ((Binary64.read? unsigned).bind Binary64.finite?).isSome

/-- Whether a plain text would be taken for something other than a string. -/
def isAmbiguous (s : String) : Bool :=
  s = "" || reservedWords.contains s || isMarkedNumber s.toList || hasLeadingZero s.toList ||
    isFiniteNumber s.toList

/-! ## Where plain text and blocks are possible -/

/-- The characters that no plain text begins with. -/
def indicators : List Char :=
  ['#', ',', '[', ']', '\x7b', '\x7d', '&', '*', '!', '|', '>', '\'', '"', '%', '@', '\x60']

/-- Whether the beginning of a text has a meaning of its own. -/
def beginsSpecially : List Char → Bool
  | [] => false
  | c :: rest =>
    indicators.contains c ||
      (['?', ':', '-'].contains c && (rest.head?).all isSpacing) ||
      (c :: rest).take 3 == ['-', '-', '-'] || (c :: rest).take 3 == ['.', '.', '.']

/-- Whether a text holds a mark that ends a key or begins a comment. -/
def holdsMark (cs : List Char) : Bool :=
  anyPair (fun c d => (c == ':' && isSpacing d) || (isSpacing c && d == '#')) cs ||
    (1 < cs.length && cs.getLast? == some ':')

/-- Whether a text begins or ends with a blank or a break. -/
def hasLooseEnd (cs : List Char) : Bool :=
  let loose (c : Char) := c == ' ' || isBreak c
  cs.head?.any loose || cs.getLast?.any loose

def needsEscapes (cs : List Char) : Bool :=
  cs.any (!isPrintable ·) || anyPair (fun c d => c == ' ' && isBreak d) cs

def isPlain (cs : List Char) : Bool :=
  !beginsSpecially cs && !holdsMark cs && !hasLooseEnd cs && !cs.any isBreak

def isSingle (cs : List Char) : Bool :=
  !needsEscapes cs && !anyPair (fun c d => isBreak c && d == ' ') cs

def isBlock (cs : List Char) : Bool := !needsEscapes cs && cs.getLast? != some ' '

/-! ## The forms of a string -/

def blanks (n : Nat) : List Char := List.replicate n ' '

/-- Hexadecimal digits in upper case. -/
def upperHex (width n : Nat) : List Char := (Text.hexDigits width n).map Char.toUpper

/-- The letters that escape single characters. -/
def escapeLetters : List (Nat × Char) :=
  [(0, '0'), (7, 'a'), (8, 'b'), (9, 't'), (10, 'n'), (11, 'v'), (12, 'f'), (13, 'r'),
    (27, 'e'), (0x22, '"'), (0x5c, '\\'), (0x85, 'N'), (0xa0, '_'), (0x2028, 'L'),
    (0x2029, 'P')]

/-- A character in double quotes. -/
def escaped (c : Char) : List Char :=
  if isPrintable c && !isBreak c && c ≠ '"' && c ≠ '\\' then [c]
  else
    let n := c.toNat
    match escapeLetters.lookup n with
    | some letter => ['\\', letter]
    | none =>
      if n ≤ 0xff then '\\' :: 'x' :: upperHex 2 n
      else if n ≤ 0xffff then '\\' :: 'u' :: upperHex 4 n
      else '\\' :: 'U' :: upperHex 8 n

def doubleQuoted (cs : List Char) : List Char := '"' :: cs.flatMap escaped ++ ['"']

/-- The characters of a text in single quotes; the text goes on at `column` after a break. -/
def singleChars (column : Nat) (broken : Bool) : List Char → List Char
  | [] => if broken then blanks column else []
  | c :: rest =>
    if isBreak c then c :: singleChars column true rest
    else if c = ' ' then c :: singleChars column broken rest
    else (if broken then blanks column else []) ++ (if c = '\'' then ['\'', '\''] else [c]) ++
      singleChars column false rest

def singleQuoted (column : Nat) (cs : List Char) : List Char :=
  '\'' :: singleChars column false cs ++ ['\'']

/-- The lines of a block, each beginning at `column`, with the break at the end. -/
def blockLines (column : Nat) (broken : Bool) : List Char → List Char
  | [] => if broken then [] else ['\n']
  | c :: rest =>
    if isBreak c then c :: blockLines column true rest
    else (if broken then blanks column else []) ++ c :: blockLines column false rest

/-- The mark that says how the breaks at the end of a block are meant. -/
def chomping (cs : List Char) : List Char :=
  match cs.reverse with
  | [] => ['-']
  | c :: rest =>
    if !isBreak c then ['-'] else if (rest.head?).all isBreak then ['+'] else []

def literal (column : Nat) (cs : List Char) : List Char :=
  let hint := if cs.head?.any fun c => c == ' ' || isBreak c then ['2'] else []
  '|' :: hint ++ chomping cs ++ '\n' :: blockLines column true cs

/-- A string with the break at its end; what goes on after a break begins at `column`. -/
def stringChars (column : Nat) (s : String) : List Char :=
  let cs := s.toList
  if cs.contains '\n' then
    if isBlock cs then literal column cs else doubleQuoted cs ++ ['\n']
  else if !isAmbiguous s && !needsEscapes cs && isPlain cs then cs ++ ['\n']
  else if isSingle cs then singleQuoted column cs ++ ['\n']
  else doubleQuoted cs ++ ['\n']

/-! ## Values -/

mutual

/-- A value after its key; the key begins at `column`. -/
def afterKey (column : Nat) : Json → List Char
  | .null => " null\n".toList
  | .bool b => if b then " true\n".toList else " false\n".toList
  | .number n => ' ' :: Json.numberChars n ++ ['\n']
  | .string s => ' ' :: stringChars (column + 2) s
  | .array [] => " []\n".toList
  | .array (v :: rest) => '\n' :: blanks column ++ '-' :: afterDash column v ++ items column rest
  | .object [] => ' ' :: '\x7b' :: '\x7d' :: ['\n']
  | .object ((k, v) :: rest) =>
    '\n' :: blanks (column + 2) ++ k.toList ++ ':' :: afterKey (column + 2) v ++
      members (column + 2) rest

/-- An item after its dash; the dash stands at `column`. -/
def afterDash (column : Nat) : Json → List Char
  | .null => " null\n".toList
  | .bool b => if b then " true\n".toList else " false\n".toList
  | .number n => ' ' :: Json.numberChars n ++ ['\n']
  | .string s => ' ' :: stringChars (column + 2) s
  | .array [] => " []\n".toList
  | .array (v :: rest) =>
    ' ' :: '-' :: afterDash (column + 2) v ++ items (column + 2) rest
  | .object [] => ' ' :: '\x7b' :: '\x7d' :: ['\n']
  | .object ((k, v) :: rest) =>
    ' ' :: k.toList ++ ':' :: afterKey (column + 2) v ++ members (column + 2) rest

/-- Items on lines of their own, the dashes at `column`. -/
def items (column : Nat) : List Json → List Char
  | [] => []
  | v :: rest => blanks column ++ '-' :: afterDash column v ++ items column rest

/-- Members on lines of their own, the keys at `column`. -/
def members (column : Nat) : List (String × Json) → List Char
  | [] => []
  | (k, v) :: rest =>
    blanks column ++ k.toList ++ ':' :: afterKey column v ++ members column rest

end

def document (fields : List (String × Json)) : String := String.ofList (members 0 fields)

end AccelForm.Yaml
