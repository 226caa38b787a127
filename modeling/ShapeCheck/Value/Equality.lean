import ShapeCheck.Value

namespace ShapeCheck.Value

def identical : Value → Value → Bool
  | undefined, undefined => true
  | null, null => true
  | bool a, bool b => a == b
  | number a, number b => a.equals b
  | bigint a, bigint b => a == b
  | string a, string b => a == b
  | symbol a _, symbol b _ => a == b
  | date a _, date b _ => a == b
  | regexp a _, regexp b _ => a == b
  | array a _, array b _ => a == b
  | object a _ _, object b _ _ => a == b
  | error a _ _ _, error b _ _ _ => a == b
  | function a _, function b _ => a == b
  | _, _ => false

def sameLiteral (v w : Value) : Bool :=
  v.identical w ||
    match v, w with
    | number a, number b => a.isNaN && b.isNaN
    | date _ a, date _ b => a == b
    | regexp _ a, regexp _ b => a.sameText b
    | _, _ => false

end ShapeCheck.Value
