import Wayfinder.Number.Double
import Wayfinder.Text.Bytes
/-!
# JSON values

Integers and floating-point numbers are kept apart. The members of an object stand in the order of their keys,
each key once.
-/

namespace Wayfinder.Json

inductive Numeral
  | integer (n : Int)
  | real (x : Number.Double)
  deriving Repr, DecidableEq

inductive Value
  | null
  | bool (b : Bool)
  | number (n : Numeral)
  | string (s : String)
  | array (elements : List Value)
  | object (members : List (String × Value))
  deriving Repr

/-- Sets a member, keeping the order of the keys. -/
def insertMember (key : String) (value : Value) :
    List (String × Value) → List (String × Value)
  | [] => [(key, value)]
  | (k, v) :: rest =>
    if key < k then (key, value) :: (k, v) :: rest
    else if key = k then (key, value) :: rest
    else (k, v) :: insertMember key value rest

namespace Value

def ofInt (n : Int) : Value := number (.integer n)

def ofNat (n : Nat) : Value := number (.integer n)

/-- The object with some members; of two with one key the later one counts. -/
def ofMembers (members : List (String × Value)) : Value :=
  object (members.foldl (fun ms m => insertMember m.1 m.2 ms) [])

/-- The member of an object under a key. -/
def get? (key : String) : Value → Option Value
  | object members => members.lookup key
  | _ => none

end Value

end Wayfinder.Json
