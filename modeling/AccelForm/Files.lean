/-
  Files

  What a path leads to. Only what can be read as text counts as a file with
  contents; a path that goes on below a file leads nowhere.
-/

namespace AccelForm

/-- What a path leads to. -/
inductive FileNode where
  | absent
  | blocked
  | directory
  | unreadable (reason : String)
  | file (contents : String)
  deriving DecidableEq, Repr

namespace FileNode

/-- Whether there is something. -/
def isThere : FileNode → Bool
  | .absent | .blocked => false
  | _ => true

/-- The contents, or why there are none. -/
def read : FileNode → Except String String
  | .absent => .error "No such file or directory (os error 2)"
  | .blocked => .error "Not a directory (os error 20)"
  | .directory => .error "Is a directory (os error 21)"
  | .unreadable reason => .error reason
  | .file contents => .ok contents

end FileNode

abbrev Files := String → FileNode

def joinPath (directory rest : String) : String :=
  if directory.toList.getLast? = some '/' then directory ++ rest else directory ++ "/" ++ rest

/-- Whether a path begins at the root. -/
def isAbsolutePath (path : String) : Bool := path.toList.head? == some '/'

end AccelForm
