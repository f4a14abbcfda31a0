import AccelForm.Json.Lexeme
import AccelForm.Json.Entries
/-
  JSON documents

  A document is a JSON text read as a tree, with each repeated member still in
  it and with the leaves that have no value marked as such. It becomes a value
  when every leaf has one and arrays and objects are nested no deeper than 127
  levels; of members with one key the last value counts, in the first place.
  Readers of typed records look at the document, because they must tell a
  repeated member from a single one and may skip over what has no value.
-/

namespace AccelForm.Json

inductive Document where
  | null
  | bool (value : Bool)
  | number (value : Option Number)
  | string (value : Option String)
  | array (items : List Document)
  | object (members : List (Option String × Document))
  deriving Repr, Inhabited

/-- An array or object that is still open; its parts are kept in reverse. -/
inductive Frame where
  | array (items : List Document)
  | object (members : List (Option String × Document))
  | member (members : List (Option String × Document)) (key : Option String)

inductive Expecting where
  | value
  | itemOrClose
  | keyOrClose
  | key
  | colon
  | commaOrClose

/-- How far a text has been read: what is open, and what may come next; or all of it. -/
inductive Progress where
  | within (stack : List Frame) (next : Expecting)
  | complete (document : Document)

/-- Puts a document that has ended where it belongs. -/
def place (d : Document) : List Frame → Progress
  | [] => .complete d
  | .array items :: outer => .within (.array (d :: items) :: outer) .commaOrClose
  | .member members key :: outer => .within (.object ((key, d) :: members) :: outer) .commaOrClose
  | .object members :: outer => .within (.object members :: outer) .commaOrClose

def beginValue? (stack : List Frame) : Lexeme → Option Progress
  | .null => some (place .null stack)
  | .bool b => some (place (.bool b) stack)
  | .number n => some (place (.number n) stack)
  | .string s => some (place (.string s) stack)
  | .openArray => some (.within (.array [] :: stack) .itemOrClose)
  | .openObject => some (.within (.object [] :: stack) .keyOrClose)
  | _ => none

def beginMember? : List Frame → Lexeme → Option Progress
  | .object members :: outer, .string key => some (.within (.member members key :: outer) .colon)
  | _, _ => none

def close? : List Frame → Lexeme → Option Progress
  | .array items :: outer, .closeArray => some (place (.array items.reverse) outer)
  | .object members :: outer, .closeObject => some (place (.object members.reverse) outer)
  | _, _ => none

def advance? : Progress → Lexeme → Option Progress
  | .complete _, _ => none
  | .within stack .value, l => beginValue? stack l
  | .within stack .itemOrClose, l => (close? stack l).or (beginValue? stack l)
  | .within stack .keyOrClose, l => (close? stack l).or (beginMember? stack l)
  | .within stack .key, l => beginMember? stack l
  | .within stack .colon, .colon => some (.within stack .value)
  | .within _ .colon, _ => none
  | .within (.array items :: outer) .commaOrClose, .comma =>
    some (.within (.array items :: outer) .value)
  | .within (.object members :: outer) .commaOrClose, .comma =>
    some (.within (.object members :: outer) .key)
  | .within stack .commaOrClose, l => close? stack l

/-- The document that a list of lexemes spells. -/
def assemble? (progress : Progress) : List Lexeme → Option Document
  | [] => match progress with
    | .complete d => some d
    | .within _ _ => none
  | l :: rest =>
    match advance? progress l with
    | none => none
    | some next => assemble? next rest

def Document.read? (s : String) : Option Document :=
  (lexemes? s).bind (assemble? (.within [] .value))

mutual

/-- The value of a document, `room` being one more than the levels it may be nested. -/
def Document.value? (room : Nat) : Document → Option Json
  | .null => some .null
  | .bool b => some (.bool b)
  | .number n => n.map .number
  | .string s => s.map .string
  | .array items =>
    if room ≤ 1 then none else (valueItems? (room - 1) items).map .array
  | .object members =>
    if room ≤ 1 then none
    else (valueMembers? (room - 1) members).map fun es => .object (settleEntries es)

def valueItems? (room : Nat) : List Document → Option (List Json)
  | [] => some []
  | d :: rest => (d.value? room).bind fun v => (valueItems? room rest).map (v :: ·)

def valueMembers? (room : Nat) : List (Option String × Document) → Option (List (String × Json))
  | [] => some []
  | (key, d) :: rest =>
    key.bind fun k => (d.value? room).bind fun v => (valueMembers? room rest).map ((k, v) :: ·)

end

/-- The room of a document that nothing encloses. -/
def fullRoom : Nat := 128

def read? (s : String) : Option Json :=
  (Document.read? s).bind (Document.value? fullRoom)

end AccelForm.Json
