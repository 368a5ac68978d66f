import Wayfinder.Stage.Basic
/-!
# Chains

A chain runs a handler inside stages, the first of them outermost.
-/

namespace Wayfinder.Stage

open Context (Exchange)

/-- What a stage makes of the rest of its chain. -/
def wrap (s : Stage) (inner : Exchange → Outcome) : Exchange → Outcome := s.program.run inner

/-- Puts stages around the end of a chain, beginning with the last one. -/
def build (stages : List Stage) (terminal : Exchange → Outcome) : Exchange → Outcome :=
  stages.reverse.foldl (fun next s => s.wrap next) terminal

@[simp] theorem build_cons (s : Stage) (rest : List Stage) (terminal : Exchange → Outcome) :
    build (s :: rest) terminal = s.program.run (build rest terminal) := by
  simp [build, wrap]

/-- Runs a handler inside stages. -/
def runChain (stages : List Stage) (handler : Program) : Exchange → Outcome :=
  build stages handler.runAlone

end Wayfinder.Stage
