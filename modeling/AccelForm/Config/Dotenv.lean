import AccelForm.Config.Environment
import AccelForm.Text.Word
/-
  Variable files

  A variable file sets variables line by line: a name, an equals sign and a
  value, in front of which the word "export" may stand. A value may be quoted
  in part, also across lines; outside of single quotes a backslash escapes and
  a dollar sign inserts a variable. A number sign after a blank begins a
  comment. A variable that has a value keeps it.
-/

namespace AccelForm.Config

namespace Dotenv

/-- What the end of a line is in the middle of. -/
inductive Inside where
  | text
  | blank
  | escape
  | single
  | singleEscape
  | double
  | doubleEscape
  | comment
  deriving DecidableEq, Repr

/-- What a character outside of quotes begins. -/
def begin (c : Char) : Inside :=
  if c = '\\' then .escape
  else if c = '"' then .double
  else if c = '\'' then .single
  else .text

def after : Inside → Char → Inside
  | .blank, c => if c = '#' then .comment else begin c
  | .text, c => if Text.isBlank c && c ≠ '\n' && c ≠ '\r' then .blank else begin c
  | .escape, _ => .text
  | .single, c => if c = '\\' then .singleEscape else if c = '\'' then .text else .single
  | .singleEscape, _ => .single
  | .double, c => if c = '\\' then .doubleEscape else if c = '"' then .text else .double
  | .doubleEscape, _ => .double
  | .comment, _ => .comment

/-- The characters of a line before a comment, and what its end is in the middle of. -/
def scan (inside : Inside) : List Char → List Char × Inside
  | [] => ([], inside)
  | c :: rest =>
    match after inside c with
    | .comment => ([], .comment)
    | next => let (kept, last) := scan next rest; (c :: kept, last)

/-- The physical lines of a text, each with the line break at its end. -/
def physicalLines (current : List Char) : List Char → List (List Char)
  | [] => if current.isEmpty then [] else [current.reverse]
  | c :: rest =>
    if c = '\n' then (c :: current).reverse :: physicalLines [] rest
    else physicalLines (c :: current) rest

/-- A line without the line break at its end. -/
def dropBreak (cs : List Char) : List Char :=
  match cs.reverse with
  | '\n' :: '\r' :: rest => rest.reverse
  | '\n' :: rest => rest.reverse
  | _ => cs

def byteCount : List Char → Nat
  | [] => 0
  | c :: rest => c.utf8Size + byteCount rest

/-- Joins physical lines until quotes are closed. A line that begins with a number sign is left
out. Where the text ends inside of something, the last item is its length in bytes. -/
def logicalLines (held : List Char) (inside : Inside) :
    List (List Char) → List (Except Nat (List Char))
  | [] => if inside = .text then [] else [.error (byteCount held)]
  | line :: rest =>
    let all := held ++ line
    if (all.dropWhile Text.isBlank).head? = some '#' then logicalLines [] .text rest
    else
      let (kept, last) := scan inside line
      match last with
      | .text => .ok (dropBreak all) :: logicalLines [] .text rest
      | .comment => .ok (held ++ kept) :: logicalLines [] .text rest
      | _ => logicalLines all last rest

inductive Part where
  | bare
  | escape (quoted : Bool)
  | single
  | double
  | name (quoted : Bool) (letters : List Char)
  | braced (quoted : Bool) (letters : List Char)
  | done
  deriving DecidableEq, Repr

/-- Whether the name of an inserted variable can go on with a character. -/
def isNameChar (c : Char) : Bool := Text.isWord c && c ≠ '_'

/-- The part in which reading goes on after an insertion or an escape. -/
def resume (quoted : Bool) : Part := if quoted then .double else .bare

/-- What a character adds to a value and the part after it; none if it may not stand there. -/
def valueStep (lookup : String → String) : Part → Char → Option (List Char × Part)
  | .done, c =>
    if c = ' ' || c = '\t' then some ([], .done) else none
  | .escape quoted, c =>
    if ['\\', '\'', '"', '$', ' '].contains c then some ([c], resume quoted)
    else if c = 'n' then some (['\n'], resume quoted)
    else none
  | .single, c => if c = '\'' then some ([], .bare) else some ([c], .single)
  | .name quoted letters, c =>
    if isNameChar c then some ([], .name quoted (letters ++ [c]))
    else if c = '\x7b' && letters.isEmpty then some ([], .braced quoted [])
    else
      let inserted := (lookup (String.ofList letters)).toList
      if c = '$' then some (inserted, .name quoted [])
      else some (inserted ++ [c], resume quoted)
  | .braced quoted letters, c =>
    if c = '\x7d' then some ((lookup (String.ofList letters)).toList, resume quoted)
    else some ([], .braced quoted (letters ++ [c]))
  | .double, c =>
    if c = '$' then some ([], .name true [])
    else if c = '"' then some ([], .bare)
    else if c = '\\' then some ([], .escape true)
    else some ([c], .double)
  | .bare, c =>
    if c = '$' then some ([], .name false [])
    else if c = '\'' then some ([], .single)
    else if c = '"' then some ([], .double)
    else if c = '\\' then some ([], .escape false)
    else if c = ' ' || c = '\t' then some ([], .done)
    else some ([c], .bare)

/-- What the end of a value adds to it; `size` is the number of bytes of the value. -/
def valueEnd (lookup : String → String) (size : Nat) : Part → Except Nat (List Char)
  | .single | .double | .braced _ _ | .escape true | .name true _ => .error (size - 1)
  | .name false letters => .ok (lookup (String.ofList letters)).toList
  | .bare | .escape false | .done => .ok []

/-- Reads a value from the character at `index` on; an error is the index of the character that
may not stand where it stands. -/
def readValue (lookup : String → String) (size index : Nat) (part : Part) :
    List Char → Except Nat (List Char)
  | [] => valueEnd lookup size part
  | c :: rest =>
    if part = .done && c = '#' then .ok [] else
    match valueStep lookup part c with
    | none => .error index
    | some (added, next) => (readValue lookup size (index + 1) next rest).map (added ++ ·)

/-- Whether the name of a variable can begin with a character. -/
def beginsKey (c : Char) : Bool := c.isAlpha || c == '_'

/-- Whether the name of a variable can go on with a character. -/
def inKey (c : Char) : Bool := c.isAlphanum || c == '_' || c == '.'

/-- A place in a line: the bytes before it and the characters after it. -/
structure Place where
  position : Nat
  rest : List Char

def Place.skipBlanks (p : Place) : Place :=
  ⟨p.position + byteCount (p.rest.takeWhile Text.isBlank), p.rest.dropWhile Text.isBlank⟩

def Place.key (p : Place) : Except Nat (String × Place) :=
  match p.rest with
  | c :: _ =>
    if beginsKey c then
      let key := p.rest.takeWhile inKey
      .ok (String.ofList key, skipBlanks ⟨p.position + key.length, p.rest.dropWhile inKey⟩)
    else .error p.position
  | [] => .error p.position

def Place.equals (p : Place) : Except Nat Place :=
  match p.rest with
  | '=' :: rest => .ok ⟨p.position + 1, rest⟩
  | _ => .error p.position

/-- Reads a name and an equals sign, in front of which "export" may stand. -/
def Place.assignment (p : Place) : Except Nat (String × Place) := do
  let (key, q) ← p.key
  match q.equals with
  | .ok r => .ok (key, r)
  | .error position =>
    if key = "export" then
      let (key, q) ← q.key
      (q.equals).map (key, ·)
    else .error position

/-- Whether a line holds nothing but a comment from here on. -/
def isVoid (cs : List Char) : Bool := cs.isEmpty || cs.head? == some '#'

/-- Reads a line: the variable that it sets, if it sets one. -/
def readLine (lookup : String → String) (line : List Char) :
    Except Nat (Option (String × String)) := do
  let start := Place.skipBlanks ⟨0, Text.dropEnd Text.isBlank line⟩
  if isVoid start.rest then return none
  let (key, afterEquals) ← start.assignment
  let value := afterEquals.skipBlanks.rest
  if isVoid value then return some (key, "")
  let chars ← readValue lookup (byteCount value) 0 .bare value
  return some (key, String.ofList chars)

/-- Sets the variables of lines one after the other; `seen` are the values that the lines so far
gave. -/
def setAll (e : Environment) (seen : Environment) :
    List (Except Nat (List Char)) → Except Nat Environment
  | [] => .ok e
  | .error position :: _ => .error position
  | .ok line :: rest => do
    let lookup (name : String) := ((e.raw? name).or (seen.raw? name)).getD ""
    match ← readLine lookup line with
    | none => setAll e seen rest
    | some (key, value) => setAll (e.setIfUnset key value) (seen.set key value) rest

/-- A text without the mark of byte order that it may begin with. -/
def dropMark : List Char → List Char
  | '\ufeff' :: rest => rest
  | cs => cs

/-- The environment after the variables of a file are set, or the position of the error. -/
def apply (e : Environment) (contents : String) : Except Nat Environment :=
  setAll e .empty (logicalLines [] .text (physicalLines [] (dropMark contents.toList)))

end Dotenv

end AccelForm.Config
