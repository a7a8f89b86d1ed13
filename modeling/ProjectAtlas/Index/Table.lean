/-!
Items by key. A later item with the same key replaces an earlier one and takes its place.
-/

namespace ProjectAtlas

/-- Items by key, in the order in which the keys first appeared. -/
structure Table (κ α : Type) where
  entries : List (κ × α) := []
deriving DecidableEq, Repr

namespace Table

variable {κ α : Type} [DecidableEq κ]

def putEntry (key : κ) (item : α) : List (κ × α) → List (κ × α)
  | [] => [(key, item)]
  | (k, a) :: es => if k = key then (k, item) :: es else (k, a) :: putEntry key item es

def put (t : Table κ α) (key : κ) (item : α) : Table κ α :=
  ⟨putEntry key item t.entries⟩

def get? (t : Table κ α) (key : κ) : Option α :=
  (t.entries.find? fun e => e.1 = key).map (·.2)

def ofList (key : α → κ) (items : List α) : Table κ α :=
  items.foldl (fun t a => t.put (key a) a) ⟨[]⟩

/-- The items of a list in groups by key, each group in the order of the list. -/
def group (key : α → κ) (items : List α) : Table κ (List α) :=
  items.foldl (fun t a => t.put (key a) ((t.get? (key a)).getD [] ++ [a])) ⟨[]⟩

def items (t : Table κ α) : List α :=
  t.entries.map (·.2)

def keys (t : Table κ α) : List κ :=
  t.entries.map (·.1)

def size (t : Table κ α) : Nat :=
  t.entries.length

end Table

/-- The items that are in the list a second time or more often, in their order; `seen` holds those in
front of the list. -/
def repeatedAfter {κ : Type} [DecidableEq κ] (seen : List κ) : List κ → List κ
  | [] => []
  | k :: ks => if seen.contains k then k :: repeatedAfter seen ks else repeatedAfter (k :: seen) ks

/-- The keys of items that replace others when a table is made of a list. -/
def repeated {κ : Type} [DecidableEq κ] (ks : List κ) : List κ :=
  repeatedAfter [] ks

/-- The items of a list without repetitions, in the order in which they first appear. -/
def firsts {κ : Type} [DecidableEq κ] (ks : List κ) : List κ :=
  (Table.ofList id ks).keys

/-- How often each item is in a list, in the order in which they first appear. -/
def tally {κ : Type} [DecidableEq κ] (ks : List κ) : List (κ × Nat) :=
  (firsts ks).map fun k => (k, ks.count k)

end ProjectAtlas
