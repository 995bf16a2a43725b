import SelectorRouter.Number.Binary64

/-!
# JSON values

The values found in deployment files and ABI fragments. Integers have any size
and stay apart from floating-point numbers; an object keeps the order of its
members. The rules of this module say which values count as false, which values
can be listed, and which values are the same key: `true`, `1` and `1.0` are one.
-/

namespace SelectorRouter

inductive Json where
  | null
  | bool (b : Bool)
  | int (n : Int)
  | float (x : Number.Binary64)
  | str (s : String)
  | arr (items : List Json)
  | obj (members : List (String × Json))
  deriving Repr, Inhabited

namespace Json

/-- The member of an object with the given name. -/
def get? (name : String) : Json → Option Json
  | obj members => members.lookup name
  | _ => none

/-- A missing value counts as `null`. -/
def getD (name : String) (v : Json) : Json :=
  (v.get? name).getD .null

/-- Empty values, zeros and `null` count as false. -/
def truthy : Json → Bool
  | null => false
  | bool b => b
  | int n => n != 0
  | float x => !x.isZero
  | str s => !s.isEmpty
  | arr items => !items.isEmpty
  | obj members => !members.isEmpty

/-- The items a value is made of: those of a list, the characters of a string, the
names of an object. The other values have none. -/
def items? : Json → Option (List Json)
  | arr items => some items
  | str s => some (s.toList.map fun c => .str (String.singleton c))
  | obj members => some (members.map fun m => .str m.1)
  | _ => none

/-- What a value is when it serves as a key. -/
inductive Key where
  | null
  | integer (n : Int)
  | fraction (x : Number.Binary64)
  | text (s : String)
  deriving Repr, DecidableEq

/-- Lists and objects are no keys. -/
def key? : Json → Option Key
  | null => some .null
  | bool b => some (.integer (if b then 1 else 0))
  | int n => some (.integer n)
  | float x => some <| match x.toInt? with
    | some n => .integer n
    | none => .fraction x
  | str s => some (.text s)
  | arr _ => none
  | obj _ => none

/-- Replaces the member with that name where it stands, or adds one at the end. -/
def setMember (members : List (String × Json)) (name : String) (v : Json) :
    List (String × Json) :=
  match members with
  | [] => [(name, v)]
  | m :: rest => if m.1 = name then (name, v) :: rest else m :: setMember rest name v

/-- The word for the kind of a value in messages about deployment files. -/
def kindName : Json → String
  | null => "NoneType"
  | bool _ => "bool"
  | int _ => "int"
  | float _ => "float"
  | str _ => "str"
  | arr _ => "list"
  | obj _ => "dict"

end Json

end SelectorRouter
