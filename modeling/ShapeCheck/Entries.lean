namespace ShapeCheck

abbrev Entries (α : Type) := List (String × α)

namespace Entries

variable {α β : Type}

/-- Puts `value` under `key`: in the place of an earlier value, else at the end. -/
def insert (key : String) (value : α) : Entries α → Entries α
  | [] => [(key, value)]
  | (k, v) :: rest => if k = key then (k, value) :: rest else (k, v) :: insert key value rest

def insertAll (entries : Entries α) (pairs : List (String × α)) : Entries α :=
  pairs.foldl (fun es p => insert p.1 p.2 es) entries

def ofList (pairs : List (String × α)) : Entries α :=
  insertAll [] pairs

def keys (entries : Entries α) : List String :=
  entries.map Prod.fst

def find? (key : String) (entries : Entries α) : Option α :=
  entries.lookup key

end Entries
end ShapeCheck
