import ShapeCheck.Unicode.CharSet

namespace ShapeCheck.Pattern

open Unicode

/-- What can be asked of a place between two characters. A word character is an ASCII one unless
`unicode` is set. -/
inductive Place
  | textStart
  | textEnd
  | lineStart
  | lineEnd
  | lineStartCrlf
  | lineEndCrlf
  | wordBoundary (unicode : Bool)
  | insideOrOutsideWord (unicode : Bool)
  | wordStart (unicode : Bool)
  | wordEnd (unicode : Bool)
  deriving DecidableEq, Repr

/-- A pattern tree: `take` consumes one character, `ask` consumes none. -/
inductive Node (τ α : Type)
  | empty
  | take (characters : τ)
  | ask (place : α)
  | seq (first second : Node τ α)
  | alt (first second : Node τ α)
  | times (body : Node τ α) (least : Nat) (most : Option Nat)

namespace Node

variable {τ α τ' α' : Type}

def map (f : τ → τ') (g : α → α') : Node τ α → Node τ' α'
  | empty => empty
  | take s => take (f s)
  | ask p => ask (g p)
  | seq a b => seq (a.map f g) (b.map f g)
  | alt a b => alt (a.map f g) (b.map f g)
  | times a least most => times (a.map f g) least most

def seqAll : List (Node τ α) → Node τ α
  | [] => empty
  | [a] => a
  | a :: rest => seq a (seqAll rest)

def altAll : List (Node τ α) → Node τ α
  | [] => empty
  | [a] => a
  | a :: rest => alt a (altAll rest)

end Node

abbrev Tree := Node CharSet Place

end ShapeCheck.Pattern
