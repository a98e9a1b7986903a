/-! Finite maps from names, kept in the order of the names. -/

namespace MarketFeed

abbrev Table (α : Type) := List (String × α)

namespace Table

variable {α : Type}

def contains (t : Table α) (name : String) : Bool := (t.lookup name).isSome

def insert (t : Table α) (name : String) (v : α) : Table α :=
  match t with
  | [] => [(name, v)]
  | (n, w) :: r =>
    if name < n then (name, v) :: (n, w) :: r
    else if name = n then (name, v) :: r
    else (n, w) :: insert r name v

def erase (t : Table α) (name : String) : Table α := t.filter (·.1 != name)

def names (t : Table α) : List String := t.map (·.1)

def ofList (entries : List (String × α)) : Table α :=
  entries.foldl (fun t (n, v) => t.insert n v) []

@[simp] theorem lookup_insert (t : Table α) (k : String) (v : α) (n : String) :
    (t.insert k v).lookup n = if n = k then some v else t.lookup n := by
  induction t with
  | nil => grind [insert]
  | cons e r ih => grind [insert]

@[simp] theorem lookup_erase (t : Table α) (k n : String) :
    (t.erase k).lookup n = if n = k then none else t.lookup n := by
  induction t with
  | nil => simp [erase]
  | cons e r ih => grind [erase]

def sortNames (names : List String) : List String := (ofList (names.map (·, ()))).names

end Table

end MarketFeed
