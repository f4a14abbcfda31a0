import AccelForm.Binary64.Basic
/-
  JSON values

  Whole numbers and binary64 numbers are different values, also where they
  are equal as numbers. An object is the list of its members in the order in
  which they came; two values are the same when they differ only in that
  order, or in the sign of a zero. Sameness is equality of normal forms: the
  members of a normal form stand in the order of their keys, and a zero has no
  sign. It is therefore an equivalence by construction.
-/

namespace AccelForm

inductive Number where
  | int (value : Int)
  | real (value : Finite64)
  deriving DecidableEq, Repr

inductive Json where
  | null
  | bool (value : Bool)
  | number (value : Number)
  | string (value : String)
  | array (items : List Json)
  | object (members : List (String × Json))
  deriving Repr, Inhabited

namespace Json

mutual

/-- Decides whether two values are equal, the order of members included. -/
def decEq : (a b : Json) → Decidable (a = b)
  | .null, .null => isTrue rfl
  | .bool a, .bool b => decidable_of_iff (a = b) (by simp)
  | .number a, .number b => decidable_of_iff (a = b) (by simp)
  | .string a, .string b => decidable_of_iff (a = b) (by simp)
  | .array a, .array b => @decidable_of_iff _ (a = b) (by simp) (decEqItems a b)
  | .object a, .object b => @decidable_of_iff _ (a = b) (by simp) (decEqMembers a b)
  | .null, .bool _ | .null, .number _ | .null, .string _ | .null, .array _
  | .null, .object _ | .bool _, .null | .bool _, .number _ | .bool _, .string _
  | .bool _, .array _ | .bool _, .object _ | .number _, .null | .number _, .bool _
  | .number _, .string _ | .number _, .array _ | .number _, .object _
  | .string _, .null | .string _, .bool _ | .string _, .number _ | .string _, .array _
  | .string _, .object _ | .array _, .null | .array _, .bool _ | .array _, .number _
  | .array _, .string _ | .array _, .object _ | .object _, .null | .object _, .bool _
  | .object _, .number _ | .object _, .string _ | .object _, .array _ =>
    isFalse (by simp)

/-- Decides whether two arrays hold equal items. -/
def decEqItems : (a b : List Json) → Decidable (a = b)
  | [], [] => isTrue rfl
  | [], _ :: _ | _ :: _, [] => isFalse (by simp)
  | x :: xs, y :: ys =>
    @decidable_of_iff _ (x = y ∧ xs = ys) (by simp)
      (@instDecidableAnd _ _ (decEq x y) (decEqItems xs ys))

/-- Decides whether two objects hold equal members in the same order. -/
def decEqMembers : (a b : List (String × Json)) → Decidable (a = b)
  | [], [] => isTrue rfl
  | [], _ :: _ | _ :: _, [] => isFalse (by simp)
  | (k, x) :: xs, (l, y) :: ys =>
    @decidable_of_iff _ (k = l ∧ x = y ∧ xs = ys) (by simp [and_assoc])
      (@instDecidableAnd _ _ inferInstance
        (@instDecidableAnd _ _ (decEq x y) (decEqMembers xs ys)))

end

instance : DecidableEq Json := decEq

/-- Puts a member among members in the order of their keys, over one with the same key. -/
def insertSorted (key : String) (value : Json) : List (String × Json) → List (String × Json)
  | [] => [(key, value)]
  | (k, v) :: rest =>
    if key = k then (key, value) :: rest
    else if key < k then (key, value) :: (k, v) :: rest
    else (k, v) :: insertSorted key value rest

/-- A number with the sign of a zero removed. -/
def normalNumber : Number → Number
  | .int i => .int i
  | .real x => .real (if x.code = 0 then Finite64.zero else x)

mutual

def normal : Json → Json
  | .number n => .number (normalNumber n)
  | .array items => .array (normalItems items)
  | .object members => .object (normalMembers members)
  | value => value

def normalItems : List Json → List Json
  | [] => []
  | x :: rest => x.normal :: normalItems rest

/-- The members in normal form, in the order of their keys. -/
def normalMembers : List (String × Json) → List (String × Json)
  | [] => []
  | (k, v) :: rest => insertSorted k v.normal (normalMembers rest)

end

/-- Whether two values are the same up to the order of members and the sign of zeros. -/
def same (a b : Json) : Bool := decide (a.normal = b.normal)

theorem same_refl (a : Json) : a.same a = true := by simp [same]

theorem same_iff {a b : Json} : a.same b = true ↔ a.normal = b.normal := by simp [same]

def text (s : String) : Json := .string s

def nat (n : Nat) : Json := .number (.int n)

/-- A value that may be missing, null standing for none. -/
def ofOption (f : α → Json) : Option α → Json
  | none => .null
  | some a => f a

def texts (ss : List String) : Json := .array (ss.map .string)

/-- The value of the first member with the given key. -/
def member? (key : String) : Json → Option Json
  | .object members => members.lookup key
  | _ => none

end Json

end AccelForm
