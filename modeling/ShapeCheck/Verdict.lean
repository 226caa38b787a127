namespace ShapeCheck

structure Mismatch where
  path : List String
  reason : String
  deriving DecidableEq, Repr

namespace Mismatch

def undescribed : String := "value did not conform"

def ofReason (reason : String) : Mismatch :=
  ⟨[], if reason.isEmpty then undescribed else reason⟩

def under (step : String) (m : Mismatch) : Mismatch :=
  { m with path := step :: m.path }

def message (m : Mismatch) : String :=
  m.path.foldr (fun step rest => "[" ++ step ++ "] " ++ rest) m.reason

end Mismatch

/-- What a predicate leaves behind when it breaks down: a text, or something else. -/
abbrev Payload := Option String

inductive Verdict
  | conforms
  | fails (mismatch : Mismatch)
  | breaks (payload : Payload)
  deriving DecidableEq, Repr

namespace Verdict

def failing (reason : String) : Verdict :=
  fails (.ofReason reason)

def require (condition : Bool) (reason : String) : Verdict :=
  if condition then conforms else failing reason

def under (step : String) : Verdict → Verdict
  | fails m => fails (m.under step)
  | v => v

def andThen (first second : Verdict) : Verdict :=
  match first with
  | conforms => second
  | v => v

def all : List Verdict → Verdict
  | [] => conforms
  | v :: rest => v.andThen (all rest)

/-- The value conforms to some rule; `reasons` are the messages of those it failed, in reverse. -/
def anyAfter (reasons : List String) : List Verdict → Verdict
  | [] => failing (",".intercalate reasons.reverse)
  | conforms :: _ => conforms
  | fails m :: rest => anyAfter (m.message :: reasons) rest
  | breaks p :: _ => breaks p

def any (verdicts : List Verdict) : Verdict :=
  anyAfter [] verdicts

def noneFrom (total index : Nat) : List Verdict → Verdict
  | [] => conforms
  | conforms :: _ =>
    failing ("expected none of " ++ toString total ++ " rules, got a match at index " ++
      toString index)
  | fails _ :: rest => noneFrom total (index + 1) rest
  | breaks p :: _ => breaks p

def none (verdicts : List Verdict) : Verdict :=
  noneFrom verdicts.length 0 verdicts

/-- The value conforms to exactly one of `total` rules, of which those before `index` are done;
`matched` tells whether it conformed to one of these. -/
def oneFrom (total index : Nat) (matched : Bool) : List Verdict → Verdict
  | [] =>
    require matched ("expected one of " ++ toString total ++ " rules, got 0 matches")
  | conforms :: rest =>
    if matched then
      failing ("expected one of " ++ toString total ++ " rules, got multiple matches at index " ++
        toString index)
    else oneFrom total (index + 1) true rest
  | fails _ :: rest => oneFrom total (index + 1) matched rest
  | breaks p :: _ => breaks p

def one (verdicts : List Verdict) : Verdict :=
  oneFrom verdicts.length 0 false verdicts

def not : Verdict → Verdict
  | conforms => failing "expected not to match, but got a match"
  | fails _ => conforms
  | breaks p => breaks p

end Verdict
end ShapeCheck
