-- SUMMARY: Finite tables from text to values, in the order of first insertion.
/-!
# Tables

A table maps texts to values. Inserting under a key that is there replaces its value and keeps
its place; a new key goes to the end.
-/

namespace KeyBridge

/-- A finite map from text, as its entries in the order in which their keys first appeared. -/
structure Table (α : Type) where
  entries : List (String × α)

namespace Table

variable {α : Type}

protected def empty : Table α := ⟨[]⟩

def get? (t : Table α) (key : String) : Option α := t.entries.lookup key

def contains (t : Table α) (key : String) : Bool := (t.get? key).isSome

/-- Entries with the value under a key replaced, or the key put at the end. -/
def insertEntry (key : String) (value : α) : List (String × α) → List (String × α)
  | [] => [(key, value)]
  | (k, v) :: rest =>
    if k = key then (key, value) :: rest else (k, v) :: insertEntry key value rest

def insert (t : Table α) (key : String) (value : α) : Table α :=
  ⟨insertEntry key value t.entries⟩

/-- The keys, in the order in which they first appeared. -/
def keys (t : Table α) : List String := t.entries.map Prod.fst

/-- The keys in increasing order of their code points, which is that of their UTF-8 bytes. -/
def sortedKeys (t : Table α) : List String := t.keys.mergeSort fun a b => decide (a ≤ b)

def size (t : Table α) : Nat := t.entries.length

@[simp] theorem get?_empty (key : String) : (Table.empty : Table α).get? key = none := rfl

@[simp] theorem size_empty : (Table.empty : Table α).size = 0 := rfl

theorem lookup_insertEntry (entries : List (String × α)) (key k : String) (value : α) :
    (insertEntry key value entries).lookup k
      = if k = key then some value else entries.lookup k := by
  induction entries with
  | nil =>
    by_cases h : k = key
    · subst h; simp [insertEntry]
    · simp [insertEntry, h]
  | cons e rest ih =>
    obtain ⟨e, v⟩ := e
    by_cases he : e = key
    · subst he
      by_cases hk : k = e
      · subst hk; simp [insertEntry]
      · have : (k == e) = false := by simpa using hk
        simp [insertEntry, hk, List.lookup_cons, this]
    · by_cases hk : k = e
      · subst hk; simp [insertEntry, he]
      · have : (k == e) = false := by simpa using hk
        simp [insertEntry, he, List.lookup_cons, this, ih]

theorem get?_insert (t : Table α) (key k : String) (value : α) :
    (t.insert key value).get? k = if k = key then some value else t.get? k :=
  lookup_insertEntry t.entries key k value

@[simp] theorem get?_insert_self (t : Table α) (key : String) (value : α) :
    (t.insert key value).get? key = some value := by
  simp [get?_insert]

end Table

end KeyBridge
