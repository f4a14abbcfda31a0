import AccelForm.Url.Host
/-
  Addresses of the web

  An address has a scheme, perhaps a user, a host, perhaps a port, a path and
  perhaps a query and a fragment. Reading brings each part into its normal
  spelling: letters of the scheme and the host are small, the usual port of a
  scheme is left out, backslashes are slashes, and the segments "." and ".."
  of the path are resolved. An address with any other scheme is known by its
  scheme alone, but its host and its port are checked all the same.
-/

namespace AccelForm

/-- An address of the web; user, path, query and fragment are percent-encoded. -/
structure Url where
  scheme : String
  user : Option String
  host : Url.Host
  port : Option Nat
  path : String
  query : Option String
  fragment : Option String
  deriving DecidableEq, Repr

namespace Url

/-- An address, in full if it is one of the web. -/
inductive Address where
  | web (url : Url)
  | other (scheme : String)
  deriving Repr

/-- The schemes of the web with their usual ports. -/
def webSchemes : List (String × Nat) := [("http", 80), ("https", 443), ("ws", 80), ("wss", 443),
  ("ftp", 21)]

/-- Whether a scheme may hold a character after its first letter. -/
def isSchemeChar (c : Char) : Bool := c.isAlphanum || c == '+' || c == '-' || c == '.'

/-- Takes a scheme and its colon off the front. -/
def takeScheme? (cs : List Char) : Option (String × List Char) :=
  let scheme := cs.takeWhile isSchemeChar
  match scheme, cs.dropWhile isSchemeChar with
  | c :: _, ':' :: rest =>
    if c.isAlpha then some (Text.lower (String.ofList scheme), rest) else none
  | _, _ => none

def slashes : List Char := ['/', '\\']

/-- Whether a character ends the part of an address that names the host; `ends` are the slashes
that do. -/
def endsAuthority (ends : List Char) (c : Char) : Bool :=
  ends.contains c || c == '?' || c == '#'

/-- A user name and a password, percent-encoded; empty ones are left out. -/
def userText (cs : List Char) : Option String :=
  let name := cs.takeWhile (· ≠ ':')
  let password := (cs.dropWhile (· ≠ ':')).drop 1
  let spell (part : List Char) := encode userEscaped (String.ofList part)
  if name.isEmpty && password.isEmpty then none
  else if password.isEmpty then some (spell name)
  else some (spell name ++ ":" ++ spell password)

/-- Splits what names the host at the last at sign into user and host. -/
def splitUser (cs : List Char) : Option (List Char) × List Char :=
  if cs.contains '@' then
    let host := (cs.reverse.takeWhile (· ≠ '@')).reverse
    (some (cs.take (cs.length - host.length - 1)), host)
  else (none, cs)

/-- Splits a host from its port at the first colon outside of brackets. -/
def splitPort (inside : Bool) : List Char → List Char × Option (List Char)
  | [] => ([], none)
  | c :: rest =>
    if c = ':' && !inside then ([], some rest)
    else
      let next := if c = '[' then true else if c = ']' then false else inside
      let (host, port) := splitPort next rest
      (c :: host, port)

/-- Reads a port; none is written where there are no digits, or where it is the usual one. -/
def readPort (usual : Option Nat) : Option (List Char) → Except UrlError (Option Nat)
  | none => .ok none
  | some [] => .ok none
  | some digits =>
    match Text.natural? digits with
    | none => .error .invalidPort
    | some n =>
      if 65535 < n then .error .invalidPort else .ok (if some n = usual then none else some n)

/-- Whether a segment stands for the place where it is. -/
def isHere (segment : String) : Bool := ["." , "%2e"].contains (Text.lower segment)

/-- Whether a segment stands for the place above. -/
def isAbove (segment : String) : Bool :=
  ["..", ".%2e", "%2e.", "%2e%2e"].contains (Text.lower segment)

/-- Resolves segments; those that are done are in reverse. -/
def resolve (done : List String) : List String → List String
  | [] => done.reverse
  | [s] =>
    if isAbove s then ("" :: done.drop 1).reverse
    else if isHere s then ("" :: done).reverse
    else (s :: done).reverse
  | s :: rest =>
    if isAbove s then resolve (done.drop 1) rest
    else if isHere s then resolve done rest
    else resolve (s :: done) rest

/-- A path in its normal spelling. -/
def pathText (cs : List Char) : String :=
  let slashed := cs.map fun c => if c = '\\' then '/' else c
  let relative := match slashed with
    | '/' :: rest => rest
    | _ => slashed
  let segments := (relative.splitOn '/').map fun s => encode pathEscaped (String.ofList s)
  "/" ++ "/".intercalate (resolve [] segments)

/-- Takes the part up to a mark and, where the mark is there, the part after it. -/
def cutAt (mark : Char) (cs : List Char) : List Char × Option (List Char) :=
  match cs.dropWhile (· ≠ mark) with
  | [] => (cs, none)
  | _ :: rest => (cs.takeWhile (· ≠ mark), some rest)

/-- The part of an address that names user, host and port, and the rest. -/
def takeAuthority (ends cs : List Char) : List Char × List Char :=
  (cs.takeWhile (!endsAuthority ends ·), cs.dropWhile (!endsAuthority ends ·))

/-- Reads an address of the web after its scheme. -/
def readWeb (scheme : String) (usual : Nat) (cs : List Char) : Except UrlError Url := do
  let (authority, rest) := takeAuthority slashes (cs.dropWhile slashes.contains)
  let (user, hostAndPort) := splitUser authority
  let (hostChars, portChars) := splitPort false hostAndPort
  if hostChars.isEmpty then .error .emptyHost
  let host ← Host.read hostChars
  let port ← readPort (some usual) portChars
  let (beforeFragment, fragment) := cutAt '#' rest
  let (path, query) := cutAt '?' beforeFragment
  return {
    scheme, host, port
    user := user.bind userText
    path := pathText path
    query := query.map fun q => encode queryEscaped (String.ofList q)
    fragment := fragment.map fun f => encode fragmentEscaped (String.ofList f) }

/-- The characters that no host of an address with another scheme holds. -/
def otherForbidden : List Char :=
  ['\x00', ' ', '#', '/', ':', '<', '>', '?', '@', '[', '\\', ']', '^', '|']

/-- Checks the host of an address with another scheme, which is not empty. -/
def checkOtherHost (host : List Char) : Except UrlError Unit :=
  if host.head? = some '[' then discard (Host.read host)
  else if host.any otherForbidden.contains then .error .invalidDomainCharacter
  else .ok ()

/-- Checks the host and the port of an address with another scheme. There may be no host where
there is neither a user nor a port. -/
def checkOther (cs : List Char) : Except UrlError Unit :=
  match cs with
  | '/' :: '/' :: rest => do
    let (authority, path) := takeAuthority ['/'] rest
    let (user, hostAndPort) := splitUser authority
    let (host, port) := splitPort false hostAndPort
    if user = some [] && hostAndPort.isEmpty && !path.isEmpty then .error .emptyHost
    if !host.isEmpty then checkOtherHost host
    else if (user.bind userText).isSome || port.isSome then .error .emptyHost
    discard (readPort none (port.map (·.takeWhile (· ≠ '\\'))))
  | _ => .ok ()

def isDrive (host : List Char) : Bool :=
  match host with
  | [letter, mark] => letter.isAlpha && (mark = ':' || mark = '|')
  | _ => false

def checkFile (cs : List Char) : Except UrlError Unit :=
  match cs with
  | a :: b :: rest =>
    let host := (takeAuthority slashes rest).1
    if slashes.contains a && slashes.contains b && !host.isEmpty && !isDrive host then
      discard (Host.read host)
    else .ok ()
  | _ => .ok ()

/-- Whether a character is dropped wherever it stands in an address. -/
def isDropped (c : Char) : Bool := c == '\t' || c == '\n' || c == '\r'

/-- Whether a character is dropped at the ends of an address. -/
def isEdge (c : Char) : Bool := c.toNat ≤ 32

def Address.read (s : String) : Except UrlError Address :=
  let inner := ((s.toList.dropWhile isEdge).reverse.dropWhile isEdge).reverse
  match takeScheme? (inner.filter (!isDropped ·)) with
  | none => .error .relative
  | some (scheme, rest) =>
    match webSchemes.lookup scheme with
    | some usual => (readWeb scheme usual rest).map .web
    | none =>
      (if scheme = "file" then checkFile rest else checkOther rest).map fun _ => .other scheme

/-- The text of an address without its fragment. -/
def base (u : Url) : String :=
  u.scheme ++ "://" ++ u.user.elim "" (· ++ "@") ++ u.host.text ++
    u.port.elim "" (":" ++ toString ·) ++ u.path ++ u.query.elim "" ("?" ++ ·)

def text (u : Url) : String := u.base ++ u.fragment.elim "" ("#" ++ ·)

def addQuery (u : Url) (pairs : List (String × String)) : Url :=
  let added := encodeForm pairs
  let query := match u.query with
    | none => added
    | some "" => added
    | some q => if pairs.isEmpty then q else q ++ "&" ++ added
  { u with query := if query = "" then none else some query }

def withoutUser (u : Url) : Url := { u with user := none }

end Url

end AccelForm
