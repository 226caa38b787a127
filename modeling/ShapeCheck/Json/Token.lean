import ShapeCheck.Json.Numeral
import ShapeCheck.Text.Hex

namespace ShapeCheck.Json

inductive Token
  | mark (c : Char)
  | text (s : String)
  | word (value : Json)

def shortEscape? (c : Char) : Option Char :=
  match c with
  | '"' => some '"'
  | '\\' => some '\\'
  | '/' => some '/'
  | 'b' => some '\x08'
  | 'f' => some '\x0c'
  | 'n' => some '\n'
  | 'r' => some '\r'
  | 't' => some '\t'
  | _ => none

def codes? : List Char → Option (List Nat)
  | [] => some []
  | '\\' :: 'u' :: a :: b :: c :: d :: rest => do
    let code ← Text.ofHex? [a, b, c, d]
    let codes ← codes? rest
    return code :: codes
  | '\\' :: c :: rest => do
    let escaped ← shortEscape? c
    let codes ← codes? rest
    return escaped.toNat :: codes
  | c :: rest =>
    if c = '\\' ∨ c.toNat < 0x20 then none
    else do
      let codes ← codes? rest
      return c.toNat :: codes

def isHighHalf (code : Nat) : Bool := 0xD800 ≤ code && code < 0xDC00
def isLowHalf (code : Nat) : Bool := 0xDC00 ≤ code && code < 0xE000

def joinHalves? : List Nat → Option (List Char)
  | [] => some []
  | [code] => if isHighHalf code || isLowHalf code then none else some [Char.ofNat code]
  | code :: next :: rest => do
    if isLowHalf code then none
    else if isHighHalf code then
      if isLowHalf next then
        let chars ← joinHalves? rest
        return Char.ofNat (0x10000 + (code - 0xD800) * 0x400 + (next - 0xDC00)) :: chars
      else none
    else
      let chars ← joinHalves? (next :: rest)
      return Char.ofNat code :: chars

def unquote? (written : List Char) : Option String := do
  let codes ← codes? written
  let chars ← joinHalves? codes
  return String.ofList chars

def ofWord? (word : List Char) : Option Json :=
  match String.ofList word with
  | "null" => some null
  | "true" => some (bool true)
  | "false" => some (bool false)
  | _ => (WrittenNumber.readJson? word).map number

def isMark (c : Char) : Bool :=
  c == '[' || c == ']' || c == '\x7b' || c == '\x7d' || c == ':' || c == ','

def isBlank (c : Char) : Bool :=
  c == ' ' || c == '\n' || c == '\r' || c == '\t'

/-- Where in a text the splitting stands; what was read of a word or text is held in reverse. -/
inductive Place
  | between
  | inWord (read : List Char)
  | inText (read : List Char)
  | escaped (read : List Char)

/-- The tokens that end where a word or the space between tokens ends: a word, if there is one. -/
def Place.close? : Place → Option (List Token)
  | between => some []
  | inWord read => do
    let value ← ofWord? read.reverse
    return [.word value]
  | inText _ => none
  | escaped _ => none

def Place.next? (place : Place) (c : Char) : Option (Place × List Token) :=
  match place with
  | inText read =>
    if c = '"' then do
      let s ← unquote? read.reverse
      return (between, [.text s])
    else if c = '\\' then some (escaped (c :: read), [])
    else some (inText (c :: read), [])
  | escaped read => some (inText (c :: read), [])
  | between =>
    if isBlank c then some (between, [])
    else if isMark c then some (between, [.mark c])
    else if c = '"' then some (inText [], [])
    else some (inWord [c], [])
  | inWord read =>
    if isBlank c then do
      let ended ← close? (inWord read)
      return (between, ended)
    else if isMark c then do
      let ended ← close? (inWord read)
      return (between, ended ++ [.mark c])
    else if c = '"' then none
    else some (inWord (c :: read), [])

def tokensFrom? (place : Place) : List Char → Option (List Token)
  | [] => place.close?
  | c :: rest => do
    let (after, ended) ← place.next? c
    let tokens ← tokensFrom? after rest
    return ended ++ tokens

def tokens? (text : String) : Option (List Token) :=
  tokensFrom? .between text.toList

end ShapeCheck.Json
