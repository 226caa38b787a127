import ShapeCheck.WrittenNumber

namespace ShapeCheck

inductive Yaml
  | null
  | bool (b : Bool)
  | number (n : WrittenNumber)
  | string (s : String)
  | sequence (items : List Yaml)
  | mapping (entries : List (Yaml × Yaml))
  | tagged (tag : String) (content : Yaml)
  deriving Inhabited

namespace Yaml

def bareTag (tag : String) : String :=
  match tag.toList with
  | '!' :: c :: rest => String.ofList (c :: rest)
  | _ => tag

mutual

/-- Whether two values are equal. The order of the entries of a mapping is of no account. -/
def same : Yaml → Yaml → Bool
  | null, null => true
  | bool a, bool b => a == b
  | number m, number n => m.same n
  | string s, string t => s == t
  | sequence xs, sequence ys => sameItems xs ys
  | mapping es, mapping fs => es.length == fs.length && sameEntries es fs
  | tagged s x, tagged t y => bareTag s == bareTag t && same x y
  | _, _ => false

def sameItems : List Yaml → List Yaml → Bool
  | [], [] => true
  | x :: xs, y :: ys => same x y && sameItems xs ys
  | _, _ => false

def sameEntries : List (Yaml × Yaml) → List (Yaml × Yaml) → Bool
  | [], _ => true
  | (k, v) :: rest, others =>
    others.any (fun e => same k e.1 && same v e.2) && sameEntries rest others

end

/-- Puts a value under a key: in the place of the value of an equal key, else at the end. -/
def put (key value : Yaml) : List (Yaml × Yaml) → List (Yaml × Yaml)
  | [] => [(key, value)]
  | (k, v) :: rest => if same k key then (k, value) :: rest else (k, v) :: put key value rest

def hasKey (key : Yaml) (entries : List (Yaml × Yaml)) : Bool :=
  entries.any fun e => same e.1 key

def ofPairs (pairs : List (Yaml × Yaml)) : Yaml :=
  mapping (pairs.foldl (fun entries p => put p.1 p.2 entries) [])

end Yaml
end ShapeCheck
