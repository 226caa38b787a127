import ShapeCheck.Text.Hex
import ShapeCheck.Text.Index
import ShapeCheck.Yaml.Spot
import ShapeCheck.Yaml.Token

namespace ShapeCheck.Yaml

def endsName (c : Char) : Bool :=
  isGap c || "?:,]\x7d%@\x60".toList.contains c

def readName? (spots : Spots) : Option (String × Spots) :=
  let (name, rest) := spots.takeWhile isNameChar
  if name.isEmpty || !endsName rest.next then none else some (String.ofList name, rest)

def isTagMark (c : Char) : Bool :=
  ";/?:@&=+$.%!~*'()".toList.contains c

def isTagChar (bracketed : Bool) (c : Char) : Bool :=
  isNameChar c || isTagMark c || (bracketed && (c == ',' || c == '[' || c == ']'))

def leadOctet? (octet : Nat) : Option (Nat × Nat) :=
  if octet < 0x80 then some (1, octet)
  else if 0xC0 ≤ octet ∧ octet < 0xE0 then some (2, octet - 0xC0)
  else if 0xE0 ≤ octet ∧ octet < 0xF0 then some (3, octet - 0xE0)
  else if 0xF0 ≤ octet ∧ octet < 0xF8 then some (4, octet - 0xF0)
  else none

def leastCode : Nat → Nat
  | 2 => 0x80
  | 3 => 0x800
  | 4 => 0x10000
  | _ => 0

def charOfCode? (width code : Nat) : Option Char :=
  if leastCode width ≤ code ∧ code.isValidChar then some (Char.ofNat code) else none

/-- Reads the escapes in the text of a tag. Of the character that escapes are in the middle of,
`owed` octets are to come; `width` is their number and `code` their bits so far. -/
def unescapeTag? (owed width code : Nat) : List Char → Option TagText
  | [] => if owed = 0 then some [] else none
  | '%' :: high :: low :: rest => do
    let octet ← Text.ofHex? [high, low]
    if owed = 0 then
      let (width, bits) ← leadOctet? octet
      if width = 1 then
        let more ← unescapeTag? 0 0 0 rest
        return charOfCode? 1 bits :: more
      else unescapeTag? (width - 1) width bits rest
    else if octet < 0x80 ∨ 0xC0 ≤ octet then none
    else
      let code := code * 0x40 + (octet - 0x80)
      if owed = 1 then
        let more ← unescapeTag? 0 0 0 rest
        return charOfCode? width code :: more
      else unescapeTag? (owed - 1) width code rest
  | c :: rest => do
    if owed ≠ 0 ∨ c = '%' then none
    else
      let more ← unescapeTag? 0 0 0 rest
      return some c :: more

def readTagText? (bracketed : Bool) (spots : Spots) : Option (TagText × Spots) := do
  let (written, rest) := spots.takeWhile (isTagChar bracketed)
  let text ← unescapeTag? 0 0 0 written
  return (text, rest)

def readSomeTagText? (bracketed : Bool) (spots : Spots) : Option (TagText × Spots) := do
  let (text, rest) ← readTagText? bracketed spots
  if text.isEmpty then none else return (text, rest)

def readBracketedTag? (spots : Spots) : Option (Token × Spots) := do
  let (text, rest) ← readSomeTagText? true spots
  match rest with
  | s :: after => if s.char = '>' then return (.tag "" text, after) else none
  | [] => none

def readShortTag? (spots : Spots) : Option (Token × Spots) := do
  let (name, rest) := spots.takeWhile isNameChar
  if rest.next = '!' then
    let (suffix, after) ← readSomeTagText? false rest.skip
    return (.tag (String.ofList ('!' :: name ++ ['!'])) suffix, after)
  else
    let (text, after) ← readTagText? false rest
    match name.map some ++ text with
    | [] => return (.tag "" [some '!'], after)
    | suffix => return (.tag "!" suffix, after)

def readTag? (inFlow : Bool) (spots : Spots) : Option (Token × Spots) := do
  let (tag, rest) ←
    if spots.next = '<' then readBracketedTag? spots.skip else readShortTag? spots
  if isGap rest.next || (inFlow && rest.next = ',') then return (tag, rest) else none

def readVersionPart? (spots : Spots) : Option (Nat × Spots) :=
  let (digits, rest) := spots.takeWhile Char.isDigit
  if digits.isEmpty || 9 < digits.length then none
  else (Text.readDigits? 0 digits).map (·, rest)

def readVersion? (spots : Spots) : Option (Token × Spots) := do
  let (_, rest) := spots.takeWhile isBlank
  let (major, rest) ← readVersionPart? rest
  if rest.next ≠ '.' then none
  let (minor, rest) ← readVersionPart? rest.skip
  return (.version major minor, rest)

def readHandleName? (spots : Spots) : Option (String × Spots) :=
  if spots.next ≠ '!' then none
  else
    let (name, rest) := spots.skip.takeWhile isNameChar
    if rest.next = '!' then some (String.ofList ('!' :: name ++ ['!']), rest.skip)
    else if name.isEmpty then some ("!", rest)
    else none

def readHandle? (spots : Spots) : Option (Token × Spots) := do
  let (_, rest) := spots.takeWhile isBlank
  let (name, rest) ← readHandleName? rest
  if !isBlank rest.next then none
  let (_, rest) := rest.takeWhile isBlank
  let (meaning, rest) ← readSomeTagText? true rest
  if isGap rest.next then return (.handle name meaning, rest) else none

def readDirective? (spots : Spots) : Option (Token × Spots) := do
  let (name, rest) := spots.takeWhile isNameChar
  if !isGap rest.next then none
  let (token, rest) ←
    match String.ofList name with
    | "YAML" => readVersion? rest
    | "TAG" => readHandle? rest
    | _ => none
  let after ← rest.afterLine?
  return (token, after)

end ShapeCheck.Yaml
