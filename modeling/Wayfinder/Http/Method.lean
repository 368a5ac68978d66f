/-!
# Request methods

A method is a token of HTTP. Seven of them can have routes.
-/

namespace Wayfinder.Http

/-- The characters of tokens: ASCII letters and digits and a few marks. -/
def isTokenChar (c : Char) : Bool :=
  c.isAlphanum || ['!', '#', '$', '%', '&', '\x27', '*', '+', '-', '.', '^', '_', '\x60', '|', '~'].contains c

/-- The methods that can have routes. -/
inductive Verb
  | get | post | put | delete | patch | head | options
  deriving Repr, DecidableEq

namespace Verb

/-- All methods in the order in which they are listed. -/
def all : List Verb := [get, post, put, delete, patch, head, options]

def token : Verb → String
  | get => "GET"
  | post => "POST"
  | put => "PUT"
  | delete => "DELETE"
  | patch => "PATCH"
  | head => "HEAD"
  | options => "OPTIONS"

@[simp] theorem mem_all (v : Verb) : v ∈ all := by cases v <;> decide

theorem token_injective : Function.Injective token := by
  intro v w h
  cases v <;> cases w <;> first | rfl | simp [token] at h

end Verb

/-- Any method of a request, by its token. -/
structure Method where
  token : String
  valid : (token ≠ "" ∧ token.toList.all isTokenChar = true)
  deriving DecidableEq

namespace Method

theorem token_injective : Function.Injective token := by
  intro m n h
  cases m
  cases n
  cases h
  rfl

def ofToken? (token : String) : Option Method :=
  if h : token ≠ "" ∧ token.toList.all isTokenChar = true then some ⟨token, h⟩ else none

/-- The routable method that this is. -/
def verb? (m : Method) : Option Verb := Verb.all.find? fun v => v.token == m.token

theorem verb?_eq_some_iff {m : Method} {v : Verb} : m.verb? = some v ↔ v.token = m.token := by
  constructor
  · intro h
    simpa using List.find?_some h
  · intro h
    cases hfind : m.verb? with
    | none =>
      have hno := List.find?_eq_none.1 hfind v v.mem_all
      exact (hno (by simpa using h)).elim
    | some w =>
      have hw : w.token = m.token := by simpa using List.find?_some hfind
      rw [Verb.token_injective (hw.trans h.symm)]

end Method

namespace Verb

theorem token_valid (v : Verb) : v.token ≠ "" ∧ v.token.toList.all isTokenChar = true := by
  cases v <;> decide

def toMethod (v : Verb) : Method := ⟨v.token, v.token_valid⟩

@[simp] theorem verb?_toMethod (v : Verb) : v.toMethod.verb? = some v :=
  Method.verb?_eq_some_iff.2 rfl

end Verb

end Wayfinder.Http
