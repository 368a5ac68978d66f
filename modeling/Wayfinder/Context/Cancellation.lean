/-!
# Cancellation

A token holds a flag of its own and the flags of those it descends from. It is cancelled when any of these is raised,
and to cancel it is to raise its own. Flags are never lowered.
-/

namespace Wayfinder.Context

/-- The flags that exist and those that are raised. -/
structure Flags where
  count : Nat := 0
  raised : List Nat := []

structure Token where
  flag : Nat
  ancestors : List Nat := []
  deriving DecidableEq, Repr

namespace Flags

/-- A token without ancestors. -/
def newToken (fs : Flags) : Token × Flags := (⟨fs.count, []⟩, { fs with count := fs.count + 1 })

/-- A token that is cancelled with another one. -/
def childToken (fs : Flags) (parent : Token) : Token × Flags :=
  (⟨fs.count, parent.flag :: parent.ancestors⟩, { fs with count := fs.count + 1 })

def cancel (fs : Flags) (t : Token) : Flags := { fs with raised := t.flag :: fs.raised }

def isCancelled (fs : Flags) (t : Token) : Bool := (t.flag :: t.ancestors).any (· ∈ fs.raised)

end Flags

end Wayfinder.Context
