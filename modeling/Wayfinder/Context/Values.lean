import Wayfinder.RequestId
import Wayfinder.Text.Quoted
/-!
# User values

Values of several kinds that the stages of a request share under names. To read a value as another kind than its own is
to find nothing.
-/

namespace Wayfinder.Context

inductive Kind
  | word32
  | int64
  | text
  | integers
  | requestId
  | principal
  deriving Repr, DecidableEq

def Kind.describe : Kind → String
  | word32 => "u32"
  | int64 => "i64"
  | text => "alloc::string::String"
  | integers => "alloc::vec::Vec<i64>"
  | requestId => "RequestId"
  | principal => "Principal"

inductive Datum
  | word32 (n : UInt32)
  | int64 (n : Int64)
  | text (s : String)
  | integers (ns : List Int64)
  | requestId (id : RequestId)
  /-- Who made the request, once that is known. -/
  | principal (name : String)
  deriving DecidableEq

def Datum.kind : Datum → Kind
  | word32 _ => .word32
  | int64 _ => .int64
  | text _ => .text
  | integers _ => .integers
  | requestId _ => .requestId
  | principal _ => .principal

/-- A name for values of one kind. -/
structure TypedKey where
  name : String
  kind : Kind
  deriving DecidableEq

def TypedKey.describe (k : TypedKey) : String := "TypedKey(" ++ k.name ++ ": " ++ k.kind.describe ++ ")"

/-- Values by name, in the order of their names. -/
structure Values where
  entries : List (String × Datum) := []

namespace Values

def insertInto (key : String) (d : Datum) : List (String × Datum) → List (String × Datum)
  | [] => [(key, d)]
  | e :: rest =>
    if key < e.1 then (key, d) :: e :: rest
    else if key = e.1 then (key, d) :: rest
    else e :: insertInto key d rest

/-- Stores a value, in place of any other of that name. -/
def insert (vs : Values) (key : String) (d : Datum) : Values := ⟨insertInto key d vs.entries⟩

/-- The value of a name, whatever its kind. -/
def find? (vs : Values) (key : String) : Option Datum := vs.entries.lookup key

/-- The value of a name if it is of a kind. -/
def get? (vs : Values) (key : String) (kind : Kind) : Option Datum :=
  (vs.find? key).filter fun d => d.kind = kind

theorem lookup_insertInto (key : String) (d : Datum) (entries : List (String × Datum)) :
    (insertInto key d entries).lookup key = some d := by
  induction entries with
  | nil => simp [insertInto]
  | cons e rest ih =>
    unfold insertInto
    split
    · simp
    · split
      · simp
      · next hne =>
        have hbeq : (key == e.1) = false := by simpa using hne
        rw [List.lookup_cons, hbeq]
        exact ih

theorem get?_insert (vs : Values) (key : String) (d : Datum) :
    (vs.insert key d).get? key d.kind = some d := by
  have hfind : (vs.insert key d).find? key = some d := lookup_insertInto key d vs.entries
  simp [get?, hfind]

def contains (vs : Values) (key : String) : Bool := (vs.find? key).isSome

/-- Removes the value of a name if it is of a kind. -/
def remove (vs : Values) (key : String) (kind : Kind) : Values :=
  if (vs.get? key kind).isSome then ⟨vs.entries.filter fun e => e.1 ≠ key⟩ else vs

/-- Adds a number to the list of a name, if there is one. -/
def push (vs : Values) (key : String) (n : Int64) : Values :=
  match vs.find? key with
  | some (.integers ns) => vs.insert key (.integers (ns ++ [n]))
  | _ => vs

def keys (vs : Values) : List String := vs.entries.map Prod.fst

def size (vs : Values) : Nat := vs.entries.length

/-- The names as a term. -/
def describe (vs : Values) : String := "UserValues \x7b keys: " ++ Text.quoteList vs.keys ++ " \x7d"

end Values

end Wayfinder.Context
