import ShapeCheck.Instant
import ShapeCheck.Text.Escaped

namespace ShapeCheck.Instant

inductive Fault
  | tooShort
  | invalid
  | outOfRange
  | tooLong
  deriving DecidableEq, Repr

def Fault.reason : Fault → String
  | .tooShort => "premature end of input"
  | .invalid => "input contains invalid characters"
  | .outOfRange => "input is out of range"
  | .tooLong => "trailing input"

abbrev Bytes := List Nat

def bytesOf (s : String) : Bytes :=
  s.toList.flatMap fun c => (String.utf8EncodeChar c).map UInt8.toNat

def digit (byte : Nat) : Except Fault Nat :=
  if 48 ≤ byte ∧ byte ≤ 57 then .ok (byte - 48) else .error .invalid

def pair (tens ones : Nat) : Except Fault Nat := do
  let t ← digit tens
  let o ← digit ones
  return t * 10 + o

def expect (allowed : List Nat) (byte : Nat) : Except Fault Unit :=
  if allowed.contains byte then .ok () else .error .invalid

structure Clock where
  date : CalendarDate
  hour : Nat
  minute : Nat
  second : Nat

def readClock : Bytes → Except Fault (Clock × Bytes)
  | y₁ :: y₂ :: y₃ :: y₄ :: d₁ :: m₁ :: m₂ :: d₂ :: a₁ :: a₂ :: t :: h₁ :: h₂ :: c₁ :: n₁ :: n₂ ::
      c₂ :: s₁ :: s₂ :: rest => do
    let century ← pair y₁ y₂
    let year ← pair y₃ y₄
    expect ['-'.toNat] d₁
    let month ← pair m₁ m₂
    expect ['-'.toNat] d₂
    let day ← pair a₁ a₂
    let date : CalendarDate := ⟨(century * 100 + year : Nat), month, day⟩
    if !Calendar.isDate date then throw .outOfRange
    expect ['t'.toNat, 'T'.toNat, ' '.toNat] t
    let hour ← pair h₁ h₂
    expect [':'.toNat] c₁
    let minute ← pair n₁ n₂
    expect [':'.toNat] c₂
    let second ← pair s₁ s₂
    return (⟨date, hour, minute, second⟩, rest)
  | _ => .error .tooShort

def spanDigits (bytes : Bytes) : List Nat × Bytes :=
  bytes.span fun b => 48 ≤ b && b ≤ 57

def readFraction : Bytes → Except Fault (Nat × Bytes)
  | 46 :: rest =>
    match rest with
    | [] => .error .tooShort
    | b :: _ =>
      if 48 ≤ b ∧ b ≤ 57 then
        let (digits, rest') := spanDigits rest
        let kept := digits.take 9
        let value := kept.foldl (fun n d => n * 10 + (d - 48)) 0
        .ok (value * Nat.pow 10 (9 - kept.length), rest')
      else .error .invalid
  | bytes => .ok (0, bytes)

def readSign : Bytes → Except Fault (Bool × Bytes)
  | 43 :: rest => .ok (false, rest)
  | 45 :: rest => .ok (true, rest)
  | 0xE2 :: 0x88 :: 0x92 :: rest => .ok (true, rest)
  | [] => .error .tooShort
  | _ => .error .invalid

def readOffsetMinutes : Bytes → Except Fault (Nat × Bytes)
  | tens :: ones :: rest => do
    let minutes ← pair tens ones
    if 60 ≤ minutes then throw .outOfRange
    return (minutes, rest)
  | _ => .error .tooShort

def readOffset : Bytes → Except Fault (Int × Bytes)
  | 90 :: rest => .ok (0, rest)
  | 122 :: rest => .ok (0, rest)
  | bytes => do
    let (negative, rest) ← readSign bytes
    match rest with
    | tens :: ones :: rest => do
      let hours ← pair tens ones
      match rest with
      | [] => throw .tooShort
      | colon :: rest => do
        expect [':'.toNat] colon
        let (minutes, rest) ← readOffsetMinutes rest
        let offset : Int := (hours * 60 + minutes : Nat)
        return (if negative then -offset else offset, rest)
    | _ => throw .tooShort

/-- Reads an instant. A sixtieth second is the leap second after the one before it. -/
def readIso (s : String) : Except Fault Instant := do
  let (clock, rest) ← readClock (bytesOf s)
  let (nanos, rest) ← readFraction rest
  if 23 < clock.hour ∨ 59 < clock.minute ∨ 60 < clock.second then throw .outOfRange
  let (offset, rest) ← readOffset rest
  if !rest.isEmpty then throw .tooLong
  if 1440 ≤ offset.natAbs then throw .outOfRange
  let seconds := Calendar.dayNumber clock.date * 86400 +
    (clock.hour * 3600 + clock.minute * 60 + clock.second : Nat) - offset * 60
  return ofNanos seconds nanos

inductive Error
  | outOfRange (millis : Int)
  | unreadable (text : String) (fault : Fault)
  deriving DecidableEq, Repr

def Error.message : Error → String
  | .outOfRange millis =>
    "invalid date: " ++ toString millis ++ " ms since epoch is out of range"
  | .unreadable text fault => "invalid date string " ++ Text.quoted text ++ ": " ++ fault.reason

def ofMillis (millis : Int) : Except Error Instant :=
  match ofMillis? millis with
  | some i => .ok i
  | none => .error (.outOfRange millis)

def parse (text : String) : Except Error Instant :=
  match readIso text with
  | .ok i => .ok i
  | .error fault => .error (.unreadable text fault)

end ShapeCheck.Instant
