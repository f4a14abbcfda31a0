import AccelForm.Url.Domain
import AccelForm.Url.Percent
/-
  Hosts

  A host is a domain name, an address of four bytes, or an address of eight
  pieces in brackets. A name whose last label is a number is an address of
  four bytes; its parts may be decimal, octal or hexadecimal, and the last one
  fills the bytes that are left.
-/

namespace AccelForm.Url

inductive UrlError where
  | relative
  | emptyHost
  | invalidPort
  | invalidFourByteAddress
  | invalidEightPieceAddress
  | invalidDomain
  | invalidDomainCharacter
  deriving DecidableEq, Repr

def UrlError.message : UrlError → String
  | .relative => "relative URL without a base"
  | .emptyHost => "empty host"
  | .invalidPort => "invalid port number"
  | .invalidFourByteAddress => "invalid IPv4 address"
  | .invalidEightPieceAddress => "invalid IPv6 address"
  | .invalidDomain => "invalid international domain name"
  | .invalidDomainCharacter => "invalid domain character"

inductive Host where
  | domain (name : String)
  | fourBytes (address : Nat)
  | eightPieces (pieces : List Nat)
  deriving DecidableEq, Repr

namespace Host

def numberOf? (base : Nat) (digits : List Char) : Option Nat :=
  digits.foldlM (fun n c =>
    (Text.hexValue? c).bind fun d => if d < base then some (base * n + d) else none) 0

/-- Reads a part of an address of four bytes. -/
def part? : List Char → Option Nat
  | [] => none
  | '0' :: 'x' :: digits => numberOf? 16 digits
  | '0' :: 'X' :: digits => numberOf? 16 digits
  | '0' :: c :: digits => numberOf? 8 (c :: digits)
  | digits => numberOf? 10 digits

/-- The labels of a name without the empty one after a point at the end. -/
def labels (name : List Char) : List (List Char) :=
  let ls := name.splitOn '.'
  if 1 < ls.length && ls.getLast? == some [] then ls.dropLast else ls

def endsInNumber (name : List Char) : Bool :=
  match (labels name).getLast? with
  | none => false
  | some last => (!last.isEmpty && last.all Char.isDigit) || (part? last).isSome

def fourBytes? (name : List Char) : Option Nat := do
  let numbers ← (labels name).mapM part?
  let last ← numbers.getLast?
  let firsts := numbers.dropLast
  if 3 < firsts.length || firsts.any (255 < ·) || Nat.pow 256 (4 - firsts.length) ≤ last then none
  else some (firsts.foldl (fun n p => 256 * n + p) 0 * Nat.pow 256 (4 - firsts.length) + last)

/-- Reads the decimal parts at the end of an address of eight pieces, as two pieces. -/
def embedded? (chars : List Char) : Option (List Nat) := do
  let numbers ← (chars.splitOn '.').mapM fun p =>
    if p.length ≤ 3 && (p.length ≤ 1 || p.head? ≠ some '0') then
      (Text.natural? p).filter (· ≤ 255)
    else none
  match numbers with
  | [a, b, c, d] => some [256 * a + b, 256 * c + d]
  | _ => none

/-- Reads pieces with colons between them; the last may be four decimal parts. -/
def pieces? : List (List Char) → Option (List Nat)
  | [] => some []
  | [p] =>
    if p.contains '.' then embedded? p
    else if p.isEmpty || 4 < p.length then none
    else (numberOf? 16 p).map ([·])
  | p :: rest =>
    if p.isEmpty || 4 < p.length then none
    else (numberOf? 16 p).bind fun n => (pieces? rest).map (n :: ·)

/-- Splits a text at the first pair of colons. -/
def splitGap : List Char → Option (List Char × List Char)
  | ':' :: ':' :: rest => some ([], rest)
  | c :: rest => (splitGap rest).map fun (a, b) => (c :: a, b)
  | [] => none

def side? (chars : List Char) : Option (List Nat) :=
  if chars.isEmpty then some [] else pieces? (chars.splitOn ':')

/-- Reads an address of eight pieces; a pair of colons stands for one or more zeros. -/
def eightPieces? (chars : List Char) : Option (List Nat) :=
  match splitGap chars with
  | none => (side? chars).filter (·.length = 8)
  | some (before, after) => do
    if before.contains '.' then none
    let front ← side? before
    let back ← side? after
    if 7 < front.length + back.length then none
    else some (front ++ List.replicate (8 - front.length - back.length) 0 ++ back)

def read (chars : List Char) : Except UrlError Host :=
  match chars with
  | '[' :: inner =>
    match inner.getLast?, eightPieces? inner.dropLast with
    | some ']', some pieces => .ok (.eightPieces pieces)
    | _, _ => .error .invalidEightPieceAddress
  | _ =>
    match (String.fromUTF8? ⟨(decodeChars chars).toArray⟩).bind (asciiDomain? ·.toList) with
    | none => .error .invalidDomain
    | some name =>
      if name.isEmpty then .error .emptyHost
      else if endsInNumber name then
        match fourBytes? name with
        | some address => .ok (.fourBytes address)
        | none => .error .invalidFourByteAddress
      else .ok (.domain (String.ofList name))

/-- The length of the run of zeros that a list begins with. -/
def zeroRun (pieces : List Nat) : Nat := (pieces.takeWhile (· == 0)).length

/-- Where the first longest run of zeros begins and how long it is. -/
def longestRun (start : Nat) : List Nat → Nat × Nat
  | [] => (start, 0)
  | p :: rest =>
    let here := zeroRun (p :: rest)
    let later := longestRun (start + 1) rest
    if later.2 ≤ here then (start, here) else later

/-- A piece in hexadecimal without zeros in front. -/
def pieceText (n : Nat) : String := String.ofList (Nat.toDigits 16 n)

/-- The text of eight pieces: the first longest run of two or more zeros is a pair of colons. -/
def piecesText (pieces : List Nat) : String :=
  let (start, length) := longestRun 0 pieces
  let joined (ps : List Nat) := ":".intercalate (ps.map pieceText)
  if length < 2 then joined pieces
  else joined (pieces.take start) ++ "::" ++ joined (pieces.drop (start + length))

def text : Host → String
  | .domain name => name
  | .fourBytes n =>
    ".".intercalate ([n / 16777216, n / 65536 % 256, n / 256 % 256, n % 256].map toString)
  | .eightPieces pieces => "[" ++ piecesText pieces ++ "]"

end Host

end AccelForm.Url
