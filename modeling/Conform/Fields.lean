/-!
# Ordered fields

A list of named entries in insertion order, the shape of a JSON object.  Where a name occurs
more than once, the first entry counts and the later ones are never seen: `get?`, `keys` and
`distinct` all read the list that way.
-/

namespace Conform

/-- Named entries in insertion order. -/
abbrev Fields (α : Type) := List (String × α)

namespace Fields

variable {α : Type}

/-- The entry under a name. -/
def get? (fs : Fields α) (name : String) : Option α :=
  List.lookup name fs

/-- Whether there is an entry under a name. -/
def contains (fs : Fields α) (name : String) : Bool :=
  (fs.get? name).isSome

/-- The entries that `get?` can reach and whose names are not in `seen`, in order. -/
def distinctFrom (seen : List String) : Fields α → Fields α
  | [] => []
  | (name, a) :: rest =>
    if seen.contains name then distinctFrom seen rest
    else (name, a) :: distinctFrom (name :: seen) rest

/-- The entries that `get?` can reach, in order. -/
def distinct (fs : Fields α) : Fields α :=
  distinctFrom [] fs

/-- The names, each once, in order. -/
def keys (fs : Fields α) : List String :=
  fs.distinct.map Prod.fst

/-- Puts a value under a name: a name that is present keeps its place, a new one comes last. -/
def insert : Fields α → String → α → Fields α
  | [], name, a => [(name, a)]
  | (n, b) :: rest, name, a =>
    if n == name then (name, a) :: rest else (n, b) :: insert rest name a

/-- The fields of a sequence of entries, where a repeated name keeps its first place and takes
its last value. -/
def ofEntries (entries : List (String × α)) : Fields α :=
  entries.foldl (fun fs e => fs.insert e.1 e.2) []

@[simp] theorem get?_nil (name : String) : get? ([] : Fields α) name = none := rfl

theorem get?_cons (n : String) (a : α) (fs : Fields α) (name : String) :
    get? ((n, a) :: fs) name = if name == n then some a else get? fs name := by
  change (match name == n with | true => some a | false => List.lookup name fs) = _
  cases name == n <;> rfl

/-- A value is found where it was put, and every other name keeps its value. -/
theorem get?_insert (fs : Fields α) (name : String) (a : α) (other : String) :
    (fs.insert name a).get? other = if other == name then some a else fs.get? other := by
  induction fs with
  | nil => simp [insert, get?_cons]
  | cons e rest ih =>
    obtain ⟨n, b⟩ := e
    by_cases h : n = name
    · subst h
      by_cases ho : other = n <;> simp [insert, get?_cons, ho]
    · by_cases ho : other = n
      · subst ho
        simp [insert, get?_cons, h]
      · simp [insert, get?_cons, h, ho, ih]

end Fields

end Conform
