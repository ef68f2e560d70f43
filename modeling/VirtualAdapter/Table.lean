/-!
# Tables

A table is a finite map that keeps its entries in the order in which their
keys were first put in.
-/

namespace VirtualAdapter

/-- A finite map from keys to values. -/
structure Table (Key Value : Type) where
  /-- The entries, each key at most once. -/
  entries : List (Key × Value)

namespace Table

variable {Key Value : Type}

/-- No entries. -/
def empty : Table Key Value := ⟨[]⟩

instance : EmptyCollection (Table Key Value) := ⟨empty⟩

instance : Inhabited (Table Key Value) := ⟨empty⟩

/-- The keys in order. -/
def keys (table : Table Key Value) : List Key := table.entries.map (·.1)

/-- The values in order of their keys. -/
def values (table : Table Key Value) : List Value := table.entries.map (·.2)

/-- The number of entries. -/
def size (table : Table Key Value) : Nat := table.entries.length

/-- The table has no entries. -/
def isEmpty (table : Table Key Value) : Bool := table.entries.isEmpty

variable [DecidableEq Key]

/-- The value of a key in a list of entries. -/
def lookup (key : Key) : List (Key × Value) → Option Value
  | [] => none
  | (other, value) :: rest => if key = other then some value else lookup key rest

/-- The value of a key. -/
def get? (table : Table Key Value) (key : Key) : Option Value :=
  lookup key table.entries

/-- The key has an entry. -/
def contains (table : Table Key Value) (key : Key) : Bool :=
  (table.get? key).isSome

/-- Replace the value of a key, or add it behind all others. -/
def put (key : Key) (value : Value) : List (Key × Value) → List (Key × Value)
  | [] => [(key, value)]
  | (other, old) :: rest =>
      if key = other then (key, value) :: rest
      else (other, old) :: put key value rest

/-- Give a key a value. -/
def insert (table : Table Key Value) (key : Key) (value : Value) :
    Table Key Value :=
  ⟨put key value table.entries⟩

/-- Take a key out. -/
def erase (table : Table Key Value) (key : Key) : Table Key Value :=
  ⟨table.entries.filter fun entry => entry.1 ≠ key⟩

/-- Change the value of a key that has one. -/
def update
    (table : Table Key Value)
    (key : Key)
    (change : Value → Value) : Table Key Value :=
  match table.get? key with
  | none => table
  | some value => table.insert key (change value)

/-- An empty table gives nothing. -/
@[simp]
theorem get?_empty (key : Key) :
    (∅ : Table Key Value).get? key = none := rfl

theorem lookup_put
    (entries : List (Key × Value))
    (key other : Key)
    (value : Value) :
    lookup other (put key value entries) =
      if other = key then some value else lookup other entries := by
  induction entries with
  | nil => simp [put, lookup]
  | cons entry rest hypothesis =>
      obtain ⟨first, old⟩ := entry
      by_cases same : key = first
      · subst same
        by_cases found : other = key <;> simp [put, lookup, found]
      · by_cases found : other = first
        · subst found
          simp [put, lookup, same, Ne.symm same]
        · simp [put, lookup, same, found, hypothesis]

/-- A key gives the value that was last put in for it. -/
@[simp]
theorem get?_insert
    (table : Table Key Value)
    (key other : Key)
    (value : Value) :
    (table.insert key value).get? other =
      if other = key then some value else table.get? other :=
  lookup_put table.entries key other value

theorem lookup_filter_ne
    (entries : List (Key × Value))
    (key other : Key) :
    lookup other (entries.filter fun entry => entry.1 ≠ key) =
      if other = key then none else lookup other entries := by
  induction entries with
  | nil => simp [lookup]
  | cons entry rest hypothesis =>
      obtain ⟨first, old⟩ := entry
      by_cases same : first = key
      · subst same
        by_cases found : other = first <;>
          simp_all [lookup]
      · by_cases found : other = first
        · subst found
          simp [lookup, same]
        · simp_all [lookup]

/-- A key that was taken out gives nothing, every other one what it gave. -/
@[simp]
theorem get?_erase
    (table : Table Key Value)
    (key other : Key) :
    (table.erase key).get? other =
      if other = key then none else table.get? other :=
  lookup_filter_ne table.entries key other

/-- A change shows at its own key only. -/
@[simp]
theorem get?_update
    (table : Table Key Value)
    (key other : Key)
    (change : Value → Value) :
    (table.update key change).get? other =
      if other = key then (table.get? key).map change
      else table.get? other := by
  unfold update
  cases present : table.get? key with
  | none =>
      by_cases same : other = key
      · subst same
        simp [present]
      · simp [same]
  | some value => simp

end Table
end VirtualAdapter
