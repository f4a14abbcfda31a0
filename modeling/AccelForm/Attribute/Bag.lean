import AccelForm.Json.Entries
/-
  Attribute bags

  A bag holds the attributes of one data model in the order in which they
  came. Setting an attribute keeps its place, or puts a new one at the end.
  Removing one moves the last attribute into the hole. Each name occurs once,
  so a bag is seen in full through `get?`.
-/

namespace AccelForm

structure Bag where
  entries : List (String × Json)
  nodup : (entries.map Prod.fst).Nodup
  deriving DecidableEq

namespace Bag

def empty : Bag := ⟨[], by simp⟩

instance : Inhabited Bag := ⟨empty⟩

def keys (b : Bag) : List String := b.entries.map Prod.fst

def get? (b : Bag) (key : String) : Option Json := findEntry key b.entries

def contains (b : Bag) (key : String) : Bool := (b.get? key).isSome

def insert (b : Bag) (key : String) (value : Json) : Bag :=
  ⟨setEntry key value b.entries, nodup_keys_setEntry key value b.nodup⟩

def erase (b : Bag) (key : String) : Bag :=
  ⟨dropEntry key b.entries, nodup_keys_dropEntry key b.nodup⟩

/-- The bag that a list of attributes builds: a repeated name keeps its first place and its
last value. -/
def ofList (entries : List (String × Json)) : Bag :=
  entries.foldl (fun b e => b.insert e.1 e.2) empty

def toJson (b : Bag) : Json := .object b.entries

def same (a b : Bag) : Bool := a.toJson.same b.toJson

theorem same_refl (b : Bag) : b.same b = true := Json.same_refl _

theorem get?_insert (b : Bag) (key k : String) (value : Json) :
    (b.insert key value).get? k = if k = key then some value else b.get? k := by
  show findEntry k (setEntry key value b.entries) = if k = key then _ else findEntry k b.entries
  induction b.entries with
  | nil => simp [setEntry, findEntry, eq_comm]
  | cons e rest ih =>
    unfold setEntry
    by_cases he : e.1 = key
    · subst he
      by_cases hk : e.1 = k
      · simp [findEntry, hk]
      · simp [findEntry, hk, Ne.symm hk]
    · rw [if_neg he, findEntry, findEntry, ih]
      by_cases hk : e.1 = k
      · subst hk; simp [he]
      · simp [hk]

end Bag

end AccelForm
