import ShapeCheck.Yaml.Resolution

namespace ShapeCheck.Yaml

structure Properties where
  anchor : Option Nat := none
  tag : Option String := none

inductive Node
  | scalar (properties : Properties) (text : String) (plain : Bool)
  | sequence (properties : Properties) (items : List Node)
  | mapping (properties : Properties) (entries : List (Node × Node))
  | aliasOf (target : Nat)
  deriving Inhabited

namespace Node

def empty : Node :=
  scalar {} "" true

mutual

/-- The number of scalars, of aliases and of starts and ends of collections. -/
def weight : Node → Nat
  | scalar _ _ _ => 1
  | sequence _ items => itemsWeight items + 2
  | mapping _ entries => entriesWeight entries + 2
  | aliasOf _ => 1

def itemsWeight : List Node → Nat
  | [] => 0
  | n :: rest => n.weight + itemsWeight rest

def entriesWeight : List (Node × Node) → Nat
  | [] => 0
  | (k, v) :: rest => k.weight + v.weight + entriesWeight rest

end

def ownAnchor (p : Properties) (n : Node) : List (Nat × Node) :=
  match p.anchor with
  | some target => [(target, n)]
  | none => []

mutual

def anchored : Node → List (Nat × Node)
  | scalar p text plain => ownAnchor p (scalar p text plain)
  | sequence p items => ownAnchor p (sequence p items) ++ itemsAnchored items
  | mapping p entries => ownAnchor p (mapping p entries) ++ entriesAnchored entries
  | aliasOf _ => []

def itemsAnchored : List Node → List (Nat × Node)
  | [] => []
  | n :: rest => n.anchored ++ itemsAnchored rest

def entriesAnchored : List (Node × Node) → List (Nat × Node)
  | [] => []
  | (k, v) :: rest => k.anchored ++ v.anchored ++ entriesAnchored rest

end

abbrev Expansion := StateT Nat Option

/-- The node that a node stands for. Of anchored nodes with the same number the last one counts. -/
def follow (targets : List (Nat × Node)) : Node → Expansion Node
  | aliasOf target => do
    let left ← get
    if left = 0 then failure
    set (left - 1)
    targets.lookup target
  | n => return n

/-- The value of a node whose content is valued by `content`, which gets the tag unless it is a
local one. A local tag stays on the value, and may not be empty. -/
def withTag (tag : Option String) (content : Option String → Expansion Yaml) : Expansion Yaml :=
  match tag with
  | none => content none
  | some name =>
    match name.toList with
    | '!' :: [] => failure
    | '!' :: bare => do return .tagged (String.ofList bare) (← content none)
    | _ => content (some name)

def distinct? (entries : List (Yaml × Yaml)) : List (Yaml × Yaml) → Option Yaml
  | [] => some (.mapping entries)
  | (k, v) :: rest =>
    if Yaml.hasKey k entries then none else distinct? (entries ++ [(k, v)]) rest

/-- The value of a node that holds at most `depth` collections within each other. -/
def expand (targets : List (Nat × Node)) : Nat → Node → Expansion Yaml
  | depth, n => do
    match ← follow targets n with
    | scalar p text plain => withTag p.tag fun tag => Yaml.ofScalar? tag text plain
    | sequence p items =>
      match depth with
      | 0 => failure
      | depth + 1 => withTag p.tag fun _ => do
        return .sequence (← items.mapM (expand targets depth))
    | mapping p entries =>
      match depth with
      | 0 => failure
      | depth + 1 => withTag p.tag fun _ => do
        let pairs ← entries.mapM fun (k, v) => do
          return (← expand targets depth k, ← expand targets depth v)
        distinct? [] pairs
    | aliasOf _ => failure

def depthLimit : Nat := 128

def aliasLimit : Nat := 100

def value? (n : Node) : Option Yaml :=
  -- Of nodes with one anchor the last is the one that aliases stand for.
  (n.expand n.anchored.reverse depthLimit).run' (n.weight * aliasLimit)

end Node
end ShapeCheck.Yaml
