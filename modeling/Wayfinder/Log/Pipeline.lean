import Wayfinder.Log.Config
/-!
# The way of an event

An event passes if both the sampler and the filter let it. The places of a program where events arise are asked about
once: what was decided for the first event of a place holds for all later ones, unless the filter has directives that
depend on spans. The sampler is asked before the filter, and about places whose level no directive admits neither is.
-/

namespace Wayfinder.Log

/-- What events say about where they arise: their target and level. -/
structure Callsite where
  target : String
  level : Level
  deriving DecidableEq, Repr

/-- Where events arise. Places that share a target and a level are told apart by a number. -/
structure Place where
  site : Callsite
  number : Nat := 0
  deriving DecidableEq, Repr

/-- What is known about the events of a place. -/
inductive Interest
  | always
  | sometimes
  | never
  deriving DecidableEq, Repr

structure Pipeline where
  filter : Filter
  sampler : Sampler
  interests : List (Place × Interest) := []

namespace Pipeline

def ofConfig (c : Config) (env : Environment) : Pipeline where
  filter := c.filter env
  sampler := .ofRate c.samplingMode c.samplingRate

/-- What is decided when a place is first seen. -/
def register (p : Pipeline) (place : Place) : Interest × Pipeline :=
  let (sampled, sampler) := p.sampler.offer place.site.level
  let interest : Interest :=
    if !sampled then .never
    else if p.filter.admits place.site.target place.site.level then .always
    else if p.filter.hasDynamic then .sometimes
    else .never
  (interest, { p with sampler, interests := (place, interest) :: p.interests })

/-- Whether an event of a place passes, and the pipeline after it. -/
def offer (p : Pipeline) (place : Place) : Bool × Pipeline :=
  if p.filter.maxVerbosity < place.site.level.verbosity then (false, p)
  else
    let (interest, p) := match p.interests.lookup place with
      | some interest => (interest, p)
      | none => p.register place
    match interest with
    | .always => (true, p)
    | .never => (false, p)
    | .sometimes =>
      let (sampled, sampler) := p.sampler.offer place.site.level
      (sampled && p.filter.admits place.site.target place.site.level, { p with sampler })

/-- Which of some events pass. -/
def passes (p : Pipeline) : List Place → List Bool
  | [] => []
  | place :: rest =>
    let (kept, p) := p.offer place
    kept :: passes p rest

/-- Which of some events pass that arise at one place for each target and level. -/
def run (p : Pipeline) (sites : List Callsite) : List Bool :=
  p.passes (sites.map fun site => { site })

end Pipeline

/-- Only one pipeline is ever installed. -/
inductive InstallError
  | alreadyInstalled
  deriving DecidableEq, Repr

def InstallError.message : InstallError → String
  | alreadyInstalled => "a global tracing subscriber is already installed"

/-- Installs a pipeline unless there is one. -/
def install (installed : Option Pipeline) (c : Config) (env : Environment) :
    Except InstallError Pipeline :=
  match installed with
  | some _ => .error .alreadyInstalled
  | none => .ok (.ofConfig c env)

end Wayfinder.Log
