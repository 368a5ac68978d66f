import Wayfinder.Log.Event
import Wayfinder.Number.Decimal
import Wayfinder.Number.Double
import Wayfinder.Regex.Compile
import Wayfinder.Text.Bytes
import Wayfinder.Text.Trim
import Wayfinder.Unicode.Character
/-!
# Filter directives

A directive sets up to which level events pass: `level`, `target`, `target=level`, or `target[span]=level` with names of
fields in braces behind the span. Of the directives that care about an event the most specific one decides.
-/

namespace Wayfinder.Log

/-- The greatest verbosity that passes, from 0 for nothing to 5 for everything. -/
abbrev Threshold := Nat

namespace Threshold

def everything : Threshold := 5

/-- A digit, or the name of a level in any case; the empty text stands for errors. -/
def parse? (s : String) : Option Threshold :=
  match (Number.bounded? Number.natural? 6 s.toList) with
  | some n => some n
  | none => match Text.asciiLower s with
    | "" | "error" => some 1
    | "warn" => some 2
    | "info" => some 3
    | "debug" => some 4
    | "trace" => some 5
    | "off" => some 0
    | _ => none

end Threshold

structure Directive where
  threshold : Threshold := .everything
  target : Option String := none
  span : Option String := none
  /-- Names of fields, and whether a value is asked for. -/
  fields : List (String × Bool) := []
  deriving Repr, DecidableEq

namespace Directive

/-- Characters that may begin a target. -/
def isTargetStart (c : Char) : Bool := c == '-' || c == ':' || c == '_' || Unicode.isAlphanumeric c

/-- Whether a value of a field can be asked for: a truth value, a number, or a regular expression whose
word boundaries are those of ASCII. -/
def isValuePattern (text : String) : Bool :=
  text == "true" || text == "false" || (Number.Double.read? text).isSome ||
    (Regex.read? text).any fun e => !e.shape.anyLook fun
      | .word _ unicode => unicode
      | _ => false

/-- A field, and behind an equals sign the value asked for. What follows a second equals sign does not
count. -/
def readField (text : String) : Option (String × Bool) :=
  match text.toList.splitOn '=' with
  | name :: value :: _ =>
    if isValuePattern (String.ofList value) then some (String.ofList name, true) else none
  | _ => if text = "" then none else some (text, false)

/-- The threshold behind an equals sign; nothing there stands for everything. -/
def readThreshold (text : String) : Option Threshold :=
  if text = "" then some .everything else Threshold.parse? text

/-- What has been read of a directive, with the place where its current part begins. -/
inductive Reading
  | start
  | name
  | span (start : Nat)
  | field (start : Nat)
  | fields
  | spanEnd
  | level (start : Nat)
  deriving Repr, DecidableEq

/-- Reads one character. Places are counted in bytes from the first character that is no blank, but parts
are cut out of the text as it stands, blanks in front included. -/
def step (text : List UInt8) (d : Directive) (place : Nat) (c : Char) :
    Reading → Option (Directive × Reading)
  | .start =>
    if c == '[' then some (d, .span (place + 1))
    else if isTargetStart c then some (d, .name)
    else none
  | .name => do
    if c == '=' then
      return ({ d with target := some (← cut 0) }, .level (place + 1))
    else if c == '[' then
      return ({ d with target := some (← cut 0) }, .span (place + 1))
    else return (d, .name)
  | .span start => do
    if c == ']' then return ({ d with span := some (← cut start) }, .spanEnd)
    else if c == '\x7b' then
      let name ← cut start
      return ({ d with span := if name = "" then none else some name }, .field (place + 1))
    else return (d, .span start)
  | .field start => do
    if c == '\x7d' then return ({ d with fields := d.fields ++ [← field start] }, .fields)
    else if c == ',' then
      return ({ d with fields := d.fields ++ [← field start] }, .field (place + 1))
    else return (d, .field start)
  | .fields => if c == ']' then some (d, .spanEnd) else none
  | .spanEnd => if c == '=' then some (d, .level (place + 1)) else none
  | .level start => some (d, .level start)
where
  cut (start : Nat) : Option String := Text.decode? ((text.drop start).take (place - start))
  field (start : Nat) : Option (String × Bool) := do
    let part ← cut start
    if part = "" then none else readField part

/-- Reads characters one by one. -/
def steps (text : List UInt8) : Directive × Reading → Nat → List Char → Option (Directive × Reading)
  | now, _, [] => some now
  | (d, r), place, c :: cs => do
    steps text (← step text d place c r) (place + c.utf8Size) cs

/-- What a directive amounts to where its text ends. A lone name is a level or a target. -/
def finish (s : String) (d : Directive) : Reading → Option Directive
  | .name =>
    match Threshold.parse? s with
    | some t => some { d with threshold := t }
    | none => some { d with target := some s }
  | .level start => do
    let text ← Text.decode? ((Text.encode s).drop start)
    return { d with threshold := ← readThreshold text }
  | .spanEnd => some d
  | .start | .span _ | .field _ | .fields => none

def parse? (s : String) : Option Directive := do
  let (d, r) ← steps (Text.encode s) ({}, .start) 0 (Text.trim s).toList
  finish s d r

/-- Whether the directive asks for values of fields, which only spans have. -/
def asksValues (d : Directive) : Bool := d.fields.any Prod.snd

/-- Whether the directive can decide about events by itself. -/
def isStatic (d : Directive) : Bool := d.span.isNone && !d.asksValues

/-- Whether the directive needs to know the spans that are entered. -/
def isDynamic (d : Directive) : Bool := d.span.isSome || !d.fields.isEmpty

/-- Whether the directive cares about events of a target that have some fields. -/
def caresAbout (d : Directive) (target : String) (fields : List String) : Bool :=
  (match d.target with
    | some start => start.toList.isPrefixOf target.toList
    | none => true) && d.fields.all fun f => fields.contains f.1

/-- Whether two directives are about the same events. -/
def sameKey (a b : Directive) : Bool :=
  a.target == b.target && a.fields.map Prod.fst == b.fields.map Prod.fst

/-- The order of two lists of names. -/
def namesBefore : List String → List String → Bool
  | [], _ :: _ => true
  | _, [] => false
  | a :: as, b :: bs => a < b || (a == b && namesBefore as bs)

/-- Whether a directive is asked before another: longer targets first, then more fields, then the later text. -/
def precedes (a b : Directive) : Bool :=
  let size (d : Directive) := match d.target with
    | some t => t.utf8ByteSize + 1
    | none => 0
  let target (d : Directive) := d.target.getD ""
  size b < size a || (size a == size b && (b.fields.length < a.fields.length ||
    (a.fields.length == b.fields.length && (target b < target a ||
      (target a == target b && namesBefore (b.fields.map Prod.fst) (a.fields.map Prod.fst))))))

end Directive

/-- The directives of a filter. -/
structure Filter where
  /-- Those that decide about events, the most specific first. -/
  statics : List Directive := []
  /-- The greatest threshold that one of these ever had. -/
  staticMax : Threshold := 0
  dynamicMax : Threshold := 0
  /-- Whether some directive depends on spans. -/
  hasDynamic : Bool := false
  /-- Whether some directive depends on values of fields of spans. -/
  asksValues : Bool := false

namespace Filter

/-- Puts a directive in its place, in place of one about the same events. -/
def insertStatic (d : Directive) : List Directive → List Directive
  | [] => [d]
  | e :: rest =>
    if d.sameKey e then d :: rest
    else if d.precedes e then d :: e :: rest
    else e :: insertStatic d rest

def addStatic (f : Filter) (d : Directive) : Filter :=
  { f with statics := insertStatic d f.statics, staticMax := max f.staticMax d.threshold }

def addDynamic (f : Filter) (d : Directive) : Filter :=
  { f with
    dynamicMax := max f.dynamicMax d.threshold
    hasDynamic := true
    asksValues := f.asksValues || d.asksValues }

def add (f : Filter) (d : Directive) : Filter :=
  if d.isStatic then f.addStatic d else f.addDynamic d

def ofDirectives (ds : List Directive) : Filter :=
  let dynamics := ds.filter Directive.isDynamic
  let statics := ds.filter (fun d => !d.isDynamic) ++ dynamics.filter Directive.isStatic
  statics.foldl addStatic (dynamics.foldl addDynamic {})

/-- Errors pass a filter that has no directives of its own. -/
def orErrors (f : Filter) : Filter :=
  if f.statics.isEmpty && !f.hasDynamic then f.addStatic { threshold := 1 } else f

/-- The parts of a list of directives. -/
def parts (s : String) : List String :=
  ((s.toList.splitOn ',').map String.ofList).filter (· ≠ "")

/-- The filter of a list of directives; those that cannot be read do not count. Without any, errors
pass. -/
def ofText (s : String) : Filter := (ofDirectives ((parts s).filterMap Directive.parse?)).orErrors

/-- The filter of a list of directives all of which can be read. Without any, nothing passes. -/
def ofText? (s : String) : Option Filter := ((parts s).mapM Directive.parse?).map ofDirectives

/-- The names of the fields that every event has. -/
def eventFields : List String := ["message"]

/-- Whether events of a target and a level pass. -/
def admits (f : Filter) (target : String) (level : Level) : Bool :=
  match f.statics.find? fun d => d.caresAbout target eventFields with
  | some d => level.verbosity ≤ d.threshold
  | none => false

/-- The greatest verbosity of events that are looked at at all. -/
def maxVerbosity (f : Filter) : Threshold :=
  if f.asksValues then .everything else max f.staticMax f.dynamicMax

end Filter

end Wayfinder.Log
