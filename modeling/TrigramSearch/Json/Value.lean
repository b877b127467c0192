import TrigramSearch.Number.Binary64

/-!
# JSON values

A document is any JSON value. Numbers are integers where they fit 64 bits (signed or unsigned)
and binary64 numbers otherwise. An object that is read, or built by `Value.ofMembers`, has its
members in the order of their names, each name once.
-/

namespace TrigramSearch.Json

/-- A JSON number: an integer from `-2^63` to `2^64 - 1`, or a finite binary64 number. -/
inductive Number where
  | integer (i : Int)
  | float (x : Binary64)
deriving DecidableEq, Inhabited

/-- A JSON value. -/
inductive Value where
  | null
  | bool (b : Bool)
  | number (n : Number)
  | string (s : String)
  | array (items : List Value)
  | object (members : List (String × Value))
deriving Inhabited

namespace Value

/-- The value of a member. -/
def member? (name : String) : List (String × Value) → Option Value
  | [] => none
  | (k, v) :: rest => if k = name then some v else member? name rest

/-- Puts a member in its place among members sorted by name; a value of the same name gives
way. -/
def insertMember (name : String) (v : Value) : List (String × Value) → List (String × Value)
  | [] => [(name, v)]
  | (k, w) :: rest =>
    if name < k then (name, v) :: (k, w) :: rest
    else if k = name then (name, v) :: rest
    else (k, w) :: insertMember name v rest

/-- An object from members in any order; of two members of one name the later counts. -/
def ofMembers (members : List (String × Value)) : Value :=
  .object (members.foldl (fun acc m => insertMember m.1 m.2 acc) [])

def ofNat (n : Nat) : Value := .number (.integer n)

/-- What a value is called in messages. -/
def kindName : Value → String
  | .null => "null"
  | .bool _ => "a boolean"
  | .number _ => "a number"
  | .string _ => "a string"
  | .array _ => "an array"
  | .object _ => "an object"

end Value
end TrigramSearch.Json
