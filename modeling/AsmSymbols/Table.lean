/-!
# Tables in first-seen order

A table pairs keys with values and keeps its entries in the order in which the keys were first
seen.  `upsert` is the only way a table grows: it changes the value of a key in place, or puts a new
key behind all others.
-/

set_option autoImplicit false

namespace AsmSymbols

structure Table (Key : Type) (Value : Type) where
  entries : List (Key × Value) := []
  deriving DecidableEq

namespace Table

variable {Key Value : Type}

def keys (table : Table Key Value) : List Key := table.entries.map Prod.fst

def values (table : Table Key Value) : List Value := table.entries.map Prod.snd

def size (table : Table Key Value) : Nat := table.entries.length

def isEmpty (table : Table Key Value) : Bool := table.entries.isEmpty

variable [DecidableEq Key]

/-- `find?` on the entries themselves. -/
def findIn? (key : Key) : List (Key × Value) → Option Value
  | [] => none
  | (other, value) :: rest => if other = key then some value else findIn? key rest

def find? (table : Table Key Value) (key : Key) : Option Value := findIn? key table.entries

def contains (table : Table Key Value) (key : Key) : Bool := (table.find? key).isSome

/-- `upsert` on the entries themselves. -/
def upsertEntries (key : Key) (update : Option Value → Value) :
    List (Key × Value) → List (Key × Value)
  | [] => [(key, update none)]
  | (other, value) :: rest =>
    if other = key then (other, update (some value)) :: rest
    else (other, value) :: upsertEntries key update rest

/-- Store under `key` what `update` makes of the value held there, if any. -/
def upsert (table : Table Key Value) (key : Key) (update : Option Value → Value) :
    Table Key Value :=
  ⟨upsertEntries key update table.entries⟩

/-- Store a value, which replaces the one held under the same key. -/
def insert (table : Table Key Value) (key : Key) (value : Value) : Table Key Value :=
  table.upsert key fun _ => value

/-- Store a value unless the key has one already. -/
def insertIfNew (table : Table Key Value) (key : Key) (value : Value) : Table Key Value :=
  table.upsert key fun held => held.getD value

def ofList (pairs : List (Key × Value)) : Table Key Value :=
  pairs.foldl (fun table pair => table.insert pair.1 pair.2) {}

theorem map_fst_upsertEntries (key : Key) (update : Option Value → Value)
    (entries : List (Key × Value)) :
    (upsertEntries key update entries).map Prod.fst =
      if key ∈ entries.map Prod.fst then entries.map Prod.fst
      else entries.map Prod.fst ++ [key] := by
  induction entries with
  | nil => simp [upsertEntries]
  | cons entry rest inductionHypothesis =>
    obtain ⟨other, value⟩ := entry
    by_cases same : other = key
    · simp [upsertEntries, same]
    · have differs : key ≠ other := fun equality => same equality.symm
      simp only [upsertEntries, same, ↓reduceIte, List.map_cons, inductionHypothesis,
        List.mem_cons, differs, false_or]
      split <;> rfl

/-- Updating a key leaves the order of the keys, and a new key comes last. -/
@[simp] theorem keys_upsert (table : Table Key Value) (key : Key) (update : Option Value → Value) :
    (table.upsert key update).keys =
      if key ∈ table.keys then table.keys else table.keys ++ [key] :=
  map_fst_upsertEntries key update table.entries

theorem findIn?_upsertEntries (key wanted : Key) (update : Option Value → Value)
    (entries : List (Key × Value)) :
    findIn? wanted (upsertEntries key update entries) =
      if wanted = key then some (update (findIn? key entries))
      else findIn? wanted entries := by
  induction entries with
  | nil =>
    by_cases same : key = wanted
    · simp [upsertEntries, findIn?, same]
    · simp [upsertEntries, findIn?, same, Ne.symm same]
  | cons entry rest inductionHypothesis =>
    obtain ⟨held, value⟩ := entry
    by_cases same : held = key
    · subst same
      by_cases found : held = wanted
      · simp [upsertEntries, findIn?, found]
      · simp [upsertEntries, findIn?, found, Ne.symm found]
    · by_cases found : held = wanted
      · subst found
        simp [upsertEntries, findIn?, same]
      · simp [upsertEntries, findIn?, same, found, inductionHypothesis]

/-- Updating a key changes what is found under it and nothing else. -/
@[simp] theorem find?_upsert (table : Table Key Value) (key wanted : Key)
    (update : Option Value → Value) :
    (table.upsert key update).find? wanted =
      if wanted = key then some (update (table.find? key)) else table.find? wanted :=
  findIn?_upsertEntries key wanted update table.entries

/-- Two tables are alike when they hold the same values under the same keys, in whatever order. -/
def alike [DecidableEq Value] (left right : Table Key Value) : Bool :=
  left.size == right.size &&
    left.entries.all fun (key, value) => decide (right.find? key = some value)

end Table

end AsmSymbols
