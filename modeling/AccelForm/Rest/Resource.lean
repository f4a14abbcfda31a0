import AccelForm.Attribute.Bag
import AccelForm.Json.Record
/-
  Resources of the server

  What the server says of search macros, indexes, tags, data models, stored
  passwords, the caller and itself, each reduced to what the form needs. A
  list comes as entries; the name of an entry stands beside its content.
  Messages come in an envelope of their own.
-/

namespace AccelForm.Rest

open Json (Reader Fields)

structure SearchMacro where
  name : String
  definition : String
  description : Option String
  disabled : Bool
  deriving DecidableEq, Repr

structure Index where
  name : String
  datatype : Option String
  disabled : Bool
  totalEventCount : Option Nat
  deriving DecidableEq, Repr

structure Tag where
  name : String
  deriving DecidableEq, Repr

structure DataModel where
  name : String
  content : Bag
  deriving DecidableEq

structure StoredPassword where
  name : String
  realm : Option String
  username : String
  clearPassword : String
  deriving DecidableEq, Repr

/-- The caller as the server knows them. -/
structure Caller where
  username : String
  roles : List String
  capabilities : List String
  deriving DecidableEq, Repr

def Caller.hasCapability (c : Caller) (capability : String) : Bool :=
  c.capabilities.contains capability

structure ServerInfo where
  serverName : String
  version : String
  build : Option String
  deriving DecidableEq, Repr

structure Ownership where
  app : String
  owner : String
  deriving DecidableEq, Repr

structure Entry (α : Type) where
  name : String
  content : α
  ownership : Option Ownership
  deriving Repr

namespace Read

def searchMacro : Reader SearchMacro := fun room d => do
  let fs ← Fields.read? ["name", "definition", "description", "disabled"] room d
  return {
    name := ← fs.getD "name" "" Reader.text
    definition := ← fs.getD "definition" "" Reader.text
    description := ← fs.getD "description" none (Reader.optional Reader.text)
    disabled := ← fs.getD "disabled" false Reader.looseSwitch }

def index : Reader Index := fun room d => do
  let fs ← Fields.read? ["name", "datatype", "disabled", "totalEventCount"] room d
  return {
    name := ← fs.getD "name" "" Reader.text
    datatype := ← fs.getD "datatype" none (Reader.optional Reader.text)
    disabled := ← fs.getD "disabled" false Reader.looseSwitch
    totalEventCount := ← fs.getD "totalEventCount" none Reader.looseWord }

def tag : Reader Tag := fun room d => do
  let fs ← Fields.read? ["name"] room d
  return { name := ← fs.getD "name" "" Reader.text }

/-- Reads a data model: the name, if it has one, and all other attributes. -/
def dataModel : Reader DataModel := fun room d => do
  let fs ← Fields.ofObject? ["name"] room d
  let entries ← Reader.members Reader.value room d
  return {
    name := ← fs.getD "name" "" Reader.text
    content := Bag.ofList (entries.filter (·.1 ≠ "name")) }

def storedPassword : Reader StoredPassword := fun room d => do
  let fs ← Fields.read? ["name", "realm", "username", "clear_password"] room d
  let password ← fs.getD "clear_password" none (Reader.optional Reader.text)
  return {
    name := ← fs.getD "name" "" Reader.text
    realm := ← fs.getD "realm" none (Reader.optional Reader.text)
    username := ← fs.getD "username" "" Reader.text
    clearPassword := password.getD "" }

def caller : Reader Caller := fun room d => do
  let fs ← Fields.read? ["username", "roles", "capabilities"] room d
  return {
    username := ← fs.getD "username" "" Reader.text
    roles := ← fs.getD "roles" [] (Reader.list Reader.text)
    capabilities := ← fs.getD "capabilities" [] (Reader.list Reader.text) }

def serverInfo : Reader ServerInfo := fun room d => do
  let fs ← Fields.read? ["serverName", "version", "build"] room d
  return {
    serverName := ← fs.getD "serverName" "" Reader.text
    version := ← fs.getD "version" "" Reader.text
    build := ← fs.getD "build" none (Reader.optional Reader.text) }

def ownership : Reader Ownership := fun room d => do
  let fs ← Fields.read? ["app", "owner"] room d
  return {
    app := ← fs.getD "app" "" Reader.text
    owner := ← fs.getD "owner" "" Reader.text }

def entry (content : Reader α) : Reader (Entry α) := fun room d => do
  let fs ← Fields.read? ["name", "content", "acl"] room d
  return {
    name := ← fs.required "name" Reader.text
    content := ← fs.required "content" content
    ownership := ← fs.getD "acl" none (Reader.optional ownership) }

def entries (content : Reader α) : Reader (List (Entry α)) := fun room d => do
  let fs ← Fields.read? ["entry"] room d
  fs.getD "entry" [] (Reader.list (entry content))

end Read

/-- The search macros of a list, under the names of their entries. -/
def namedMacros (es : List (Entry SearchMacro)) : List SearchMacro :=
  es.map fun e => { e.content with name := e.name }

def namedIndexes (es : List (Entry Index)) : List Index :=
  es.map fun e => { e.content with name := e.name }

def namedTags (es : List (Entry Tag)) : List Tag :=
  es.map fun e => { e.content with name := e.name }

def namedDataModels (es : List (Entry DataModel)) : List DataModel :=
  es.map fun e => { e.content with name := e.name }

def namedPasswords (es : List (Entry StoredPassword)) : List StoredPassword :=
  es.map fun e => { e.content with name := e.name }

end AccelForm.Rest
