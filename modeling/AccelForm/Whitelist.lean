import AccelForm.Text.Blank
import AccelForm.Text.Word
/-
  Index whitelists

  The indexes that a data model may search are kept in a search macro named
  after the model. Its definition joins one term per index name; the form
  shows the same names joined by commas. A definition is read by looking for
  terms anywhere in it: a name is a run of word characters, hyphens and
  asterisks, bare or between double quotes, and whatever is no term is passed
  over.
-/

namespace AccelForm.Whitelist

def macroHead : String := "cim_"

def macroTail : String := "_indexes"

/-- The search clause that selects the whitelist macros. -/
def searchFilter : String := "name=cim_*_indexes"

def macroName (model : String) : String := macroHead ++ model ++ macroTail

def modelName? (name : String) : Option String :=
  (macroHead.toList.isPrefixOf? name.toList).bind fun rest =>
    (macroTail.toList.isSuffixOf? rest).bind fun model =>
      if model.isEmpty then none else some (String.ofList model)

/-- The name of a data model as shown to people, with blanks for underscores. -/
def label (model : String) : String :=
  String.ofList (model.toList.map fun c => if c = '_' then ' ' else c)

def term (name : String) : String := "index=" ++ name

/-- The definition that allows the given indexes; empty names are left out. -/
def encode (names : List String) : String :=
  "(" ++ " OR ".intercalate ((names.filter (· ≠ "")).map term) ++ ")"

def isNameChar (c : Char) : Bool := Text.isWord c || c == '-' || c == '*'

/-- Reads an index name, bare or quoted, at the front of a text. -/
def nameAt? (cs : List Char) : Option (List Char × List Char) :=
  let bare := cs.takeWhile isNameChar
  if bare.isEmpty then
    match cs with
    | '"' :: quoted =>
      let name := quoted.takeWhile isNameChar
      match quoted.dropWhile isNameChar with
      | '"' :: rest => if name.isEmpty then none else some (name, rest)
      | _ => none
    | _ => none
  else some (bare, cs.dropWhile isNameChar)

/-- Reads a term at the front of a text: the name in it, and what follows it. -/
def termAt? (cs : List Char) : Option (List Char × List Char) :=
  ("index".toList.isPrefixOf? cs).bind fun rest =>
    match rest.dropWhile Text.isBlank with
    | '=' :: value => nameAt? (value.dropWhile Text.isBlank)
    | _ => none

/-- The names of the terms in a text, from the first character on that is not to be skipped. -/
def namesFrom : Nat → List Char → List (List Char)
  | _, [] => []
  | skip + 1, _ :: rest => namesFrom skip rest
  | 0, c :: rest =>
    match termAt? (c :: rest) with
    | some (name, after) => name :: namesFrom (rest.length - after.length) rest
    | none => namesFrom 0 rest

def decodeNames (definition : String) : List String :=
  (namesFrom 0 definition.toList).map String.ofList

/-- Names joined by commas. -/
def display (names : List String) : String := ",".intercalate names

/-- The index names of a definition, joined by commas. -/
def decode (definition : String) : String := display (decodeNames definition)

/-- The names in a list with commas; blanks around them and empty ones are left out. -/
def split (shown : String) : List String :=
  (((shown.toList.splitOn ',').map Text.trimChars).filter (!·.isEmpty)).map String.ofList

/-- A list with commas in its normal spelling. -/
def tidy (shown : String) : String := display (split shown)

/-- A whitelist in one line, and whether it was cut short. -/
structure Restriction where
  text : String
  hasMore : Bool
  deriving DecidableEq, Repr

/-- Says in at most `limit` characters which indexes a whitelist allows. -/
def restriction (shown : String) (limit : Nat) : Restriction :=
  if shown = "" then ⟨"No restriction", false⟩
  else
    ⟨"Restricted to: " ++ String.ofList (shown.toList.take limit),
      decide (limit < shown.toList.length)⟩

end AccelForm.Whitelist
