import Wayfinder.Regex.Term
import Wayfinder.Unicode.Character
/-!
# Reading regular expressions

A recursive descent over the characters of an expression. Reading fails as a whole: a faulty
expression has no term. The depth of the descent is bounded by the length of the text, which is the
fuel that `Term.read?` supplies.
-/

namespace Wayfinder.Regex

open Unicode (isBlank)

/-- What is left to read, with the state that the reading so far has left behind: whether blanks and
comments are skipped, and the group names taken. -/
structure Cursor where
  rest : List Char
  skipsBlanks : Bool := false
  groupNames : List (List Char) := []

namespace Cursor

/-- Drops blanks and `#` comments. -/
def dropBlanks : List Char → Bool → List Char
  | [], _ => []
  | c :: cs, true => dropBlanks cs (c != '\n')
  | c :: cs, false => if isBlank c then dropBlanks cs false
      else if c == '#' then dropBlanks cs true else c :: cs

/-- Skips blanks and comments where the flag for it is on. -/
def skip (k : Cursor) : Cursor :=
  if k.skipsBlanks then { k with rest := dropBlanks k.rest false } else k

/-- Moves to `rest` and skips there. -/
def after (k : Cursor) (rest : List Char) : Cursor := { k with rest }.skip

def goto (k : Cursor) (rest : List Char) : Cursor := { k with rest }

end Cursor

namespace Reader

/-! ## Escapes -/

def isMeta (c : Char) : Bool := "\\.+*?()|[]\x7b\x7d^$#&-~".contains c

/-- ASCII characters other than letters, digits and angle brackets may be escaped needlessly. -/
def isEscapable (c : Char) : Bool :=
  isMeta c || (c.toNat < 0x80 && !c.isAlphanum && c != '<' && c != '>')

def hexValue? (c : Char) : Option Nat :=
  if '0' ≤ c ∧ c ≤ '9' then some (c.toNat - '0'.toNat)
  else if 'a' ≤ c ∧ c ≤ 'f' then some (c.toNat - 'a'.toNat + 10)
  else if 'A' ≤ c ∧ c ≤ 'F' then some (c.toNat - 'A'.toNat + 10)
  else none

def charOfNat? (n : Nat) : Option Char := if h : n.isValidChar then some (Char.ofNatAux n h) else none

/-- Exactly `count` hexadecimal digits. -/
def hexDigits : Nat → Nat → Cursor → Option (Nat × Cursor)
  | 0, value, k => some (value, k)
  | count + 1, value, k =>
    match k.rest with
    | c :: cs => do hexDigits count (value * 16 + (← hexValue? c)) (k.after cs)
    | [] => none

/-- Hexadecimal digits up to a closing brace. -/
def bracedHex (k : Cursor) : Nat → Option Nat → List Char → Option (Nat × Cursor)
  | 0, _, _ => none
  | fuel + 1, value, cs =>
    match (k.after cs).rest with
    | '}' :: cs => value.map (·, k.after cs)
    | c :: cs => do bracedHex k fuel (some (value.getD 0 * 16 + (← hexValue? c))) cs
    | [] => none

/-- The code point after `\x`, `\u` or `\U`. -/
def hexEscape (digits : Nat) (k : Cursor) : Option (Literal × Cursor) := do
  match k.rest with
  | '{' :: cs =>
    let (n, k) ← bracedHex k (cs.length + 1) none cs
    return (⟨← charOfNat? n, false⟩, k)
  | _ =>
    let (n, k) ← hexDigits digits 0 k
    return (⟨← charOfNat? n, digits == 2⟩, k)

/-- The characters up to a closing brace, blanks skipped. -/
def bracedName (k : Cursor) : Nat → List Char → List Char → Option (List Char × List Char)
  | 0, _, _ => none
  | fuel + 1, taken, cs =>
    match (k.after cs).rest with
    | '}' :: cs => some (taken.reverse, cs)
    | c :: cs => bracedName k fuel (c :: taken) cs
    | [] => none

/-- Splits at the first place where one of the separators begins. -/
def splitAtFirst (sep : List Char) : List Char → List Char → Option (List Char × List Char)
  | _, [] => none
  | before, c :: cs =>
    if sep.isPrefixOf (c :: cs) then some (before.reverse, (c :: cs).drop sep.length)
    else splitAtFirst sep (c :: before) cs

/-- The query of a braced name, and whether it asks for the characters without the property. -/
def queryOfName (name : List Char) : PropertyQuery × Bool :=
  let valued (parts : List Char × List Char) : PropertyQuery :=
    .valued (String.ofList parts.1) (String.ofList parts.2)
  match splitAtFirst ['!', '='] [] name with
  | some parts => (valued parts, true)
  | none =>
    match splitAtFirst [':'] [] name <|> splitAtFirst ['='] [] name with
    | some parts => (valued parts, false)
    | none => (.named (String.ofList name), false)

/-- The query after `\p`, and whether it asks for the characters without the property. -/
def propertyEscape (k : Cursor) : Option ((PropertyQuery × Bool) × Cursor) :=
  match k.rest with
  | '{' :: cs => (bracedName k (cs.length + 1) [] cs).map fun (name, cs) =>
      (queryOfName name, k.goto cs)
  | '\\' :: _ => none
  | c :: cs => some ((.named (String.singleton c), false), k.after cs)
  | [] => none

/-- The letters of `\b{…}` up to the closing brace. -/
def boundaryName (k : Cursor) : Nat → List Char → List Char → Option (String × List Char)
  | 0, _, _ => none
  | fuel + 1, taken, cs =>
    match cs with
    | '}' :: cs => some (String.ofList taken.reverse, cs)
    | c :: cs =>
      if c.isAlpha || c == '-' then boundaryName k fuel (c :: taken) (k.after cs).rest else none
    | [] => none

def boundaryOfName? : String → Option Anchor
  | "start" => some .wordStart
  | "end" => some .wordEnd
  | "start-half" => some .wordStartHalf
  | "end-half" => some .wordEndHalf
  | _ => none

/-- What follows `\b`: a named boundary in braces, or else the plain boundary. Braces that hold no
name are left for a repetition. -/
def boundaryEscape (k : Cursor) : Option (Anchor × Cursor) :=
  match k.rest with
  | '{' :: cs =>
    match (k.after cs).rest with
    | [] => none
    | c :: cs' =>
      if c.isAlpha || c == '-' then do
        let (name, cs) ← boundaryName k (cs'.length + 2) [] (c :: cs')
        return (← boundaryOfName? name, k.goto cs)
      else some (.wordBoundary, k)
  | _ => some (.wordBoundary, k)

/-- The unit that a backslash begins; the cursor stands behind the backslash. -/
def escape (k : Cursor) : Option (Term × Cursor) :=
  match k.rest with
  | [] => none
  | c :: cs =>
    let here := k.goto cs
    let hex (digits : Nat) := (hexEscape digits (k.after cs)).map fun (l, k) => (Term.literal l, k)
    let property (negated : Bool) :=
      (propertyEscape (k.after cs)).map fun ((q, differs), k) => (Term.property q (negated != differs), k)
    let char (c : Char) := some (Term.literal ⟨c, false⟩, here)
    match c with
    | 'x' => hex 2
    | 'u' => hex 4
    | 'U' => hex 8
    | 'p' => property false
    | 'P' => property true
    | 'd' => some (.short .digit false, here)
    | 'D' => some (.short .digit true, here)
    | 's' => some (.short .space false, here)
    | 'S' => some (.short .space true, here)
    | 'w' => some (.short .word false, here)
    | 'W' => some (.short .word true, here)
    | 'a' => char '\x07'
    | 'f' => char '\x0c'
    | 't' => char '\t'
    | 'n' => char '\n'
    | 'r' => char '\r'
    | 'v' => char '\x0b'
    | 'A' => some (.anchor .textStart, here)
    | 'z' => some (.anchor .textEnd, here)
    | 'b' => (boundaryEscape here).map fun (a, k) => (.anchor a, k)
    | 'B' => some (.anchor .notWordBoundary, here)
    | '<' => some (.anchor .wordStart, here)
    | '>' => some (.anchor .wordEnd, here)
    | c => if isEscapable c then char c else none

/-! ## Bracketed classes -/

def asciiClassNames : List String :=
  ["alnum", "alpha", "ascii", "blank", "cntrl", "digit", "graph", "lower", "print", "punct", "space",
    "upper", "word", "xdigit"]

/-- The name of an ASCII class and its closing `:]`. -/
def asciiName? (negated : Bool) (cs : List Char) : Option (SetTerm × List Char) :=
  let name := String.ofList (cs.takeWhile (· != ':'))
  match cs.dropWhile (· != ':') with
  | ':' :: ']' :: rest =>
    if asciiClassNames.contains name then some (.ascii name negated, rest) else none
  | _ => none

/-- A named class such as `[:alpha:]`; the text stands behind its bracket. -/
def asciiClass? : List Char → Option (SetTerm × List Char)
  | ':' :: '^' :: cs => asciiName? true cs
  | ':' :: cs => asciiName? false cs
  | _ => none

/-- A single unit of a class, with what is left. -/
def setUnit (k : Cursor) : Option (Term × Cursor) :=
  match k.rest with
  | '\\' :: cs => escape (k.goto cs)
  | c :: cs => some (.literal ⟨c, false⟩, k.goto cs)
  | [] => none

def setTermOfUnit? : Term → Option SetTerm
  | .literal l => some (.literal l)
  | .short kind negated => some (.short kind negated)
  | .property query negated => some (.property query negated)
  | _ => none

/-- A unit of a class, or a range of two literals. -/
def setItem (k : Cursor) : Option (SetTerm × Cursor) := do
  let (low, k) ← setUnit k
  let k := k.skip
  match k.rest with
  | [] => none
  | '-' :: cs =>
    let k' := k.after cs
    match k'.rest with
    | [] | ']' :: _ | '-' :: _ => return (← setTermOfUnit? low, k)
    | _ =>
      let (high, k) ← setUnit k'
      match low, high with
      | .literal low, .literal high =>
        if low.char ≤ high.char then some (.range low high, k) else none
      | _, _ => none
  | _ => return (← setTermOfUnit? low, k)

/-- The hyphens that may open a class as literals. -/
def leadingHyphens (k : Cursor) : Nat → List SetTerm → List Char → List SetTerm × List Char
  | 0, items, cs => (items, cs)
  | fuel + 1, items, cs =>
    match cs with
    | '-' :: cs => leadingHyphens k fuel (.literal ⟨'-', false⟩ :: items) (k.after cs).rest
    | cs => (items, cs)

/-- The literals that only stand at the opening of a class: hyphens, or else a closing bracket. -/
def openingLiterals (k : Cursor) : List SetTerm × Cursor :=
  match leadingHyphens k (k.rest.length + 1) [] k.rest with
  | ([], ']' :: cs) => ([.literal ⟨']', false⟩], k.after cs)
  | (items, cs) => (items, k.goto cs)

/-- The opening of a class: its negation, and the literals that only stand there. -/
def setOpening (k : Cursor) : Bool × List SetTerm × Cursor :=
  let k := k.skip
  match k.rest with
  | '^' :: cs => (true, openingLiterals (k.after cs))
  | _ => (false, openingLiterals k)

/-- The operator that a text begins with. -/
def setOperator? : List Char → Option (SetOperator × List Char)
  | '&' :: '&' :: cs => some (.intersection, cs)
  | '-' :: '-' :: cs => some (.difference, cs)
  | '~' :: '~' :: cs => some (.symmetricDifference, cs)
  | _ => none

def combineWith (pending : Option (SetOperator × SetTerm)) (right : SetTerm) : SetTerm :=
  match pending with
  | some (op, left) => .combine op left right
  | none => right

/-- The inside of a class up to its closing bracket, given the items read since the last operator in
reverse, and the operator that waits for its right side. -/
def setBody : Nat → Option (SetOperator × SetTerm) → List SetTerm → Cursor → Option (SetTerm × Cursor)
  | 0, _, _, _ => none
  | fuel + 1, pending, items, k =>
    let k := k.skip
    let side := combineWith pending (SetTerm.ofItems items.reverse)
    match k.rest with
    | [] => none
    | '[' :: cs =>
      match asciiClass? cs with
      | some (item, cs) => setBody fuel pending (item :: items) (k.goto cs)
      | none => do
        let (negated, first, k) := setOpening (k.goto cs)
        let (inside, k) ← setBody fuel none first k
        setBody fuel pending (.bracket negated inside :: items) k
    | ']' :: cs => some (side, k.goto cs)
    | cs =>
      match setOperator? cs with
      | some (op, cs) => setBody fuel (some (op, side)) [] (k.goto cs)
      | none => do
        let (item, k) ← setItem k
        setBody fuel pending (item :: items) k

/-- A bracketed class; the cursor stands behind its bracket. -/
def bracket (k : Cursor) : Option (Term × Cursor) := do
  let (negated, first, k) := setOpening k
  let (inside, k) ← setBody (k.rest.length + 1) none first k
  return (.bracket negated inside, k)

/-! ## Groups -/

def flagOfLetter? : Char → Option Flag
  | 'i' => some .caseInsensitive
  | 'm' => some .multiLine
  | 's' => some .dotAll
  | 'U' => some .swapGreed
  | 'u' => some .unicode
  | 'R' => some .crlf
  | 'x' => some .ignoreBlanks
  | _ => none

/-- The letters of a flag group up to its `:` or `)`. No letter occurs twice, and a `-` occurs at most
once and before a letter. -/
def flagLetters : List FlagSetting → (negating dangling : Bool) → List Char →
    Option (List FlagSetting × List Char)
  | _, _, _, [] => none
  | taken, negating, dangling, c :: cs =>
    if c == ':' || c == ')' then if dangling then none else some (taken.reverse, c :: cs)
    else if c == '-' then if negating then none else flagLetters taken true true cs
    else match flagOfLetter? c with
      | none => none
      | some flag =>
        if taken.any (·.flag = flag) then none
        else flagLetters (⟨flag, !negating⟩ :: taken) negating false cs

def isNameStart (c : Char) : Bool := c == '_' || Unicode.isAlphabetic c

def isNameCharacter (c : Char) : Bool :=
  c == '_' || c == '.' || c == '[' || c == ']' || Unicode.isAlphanumeric c

/-- A group name up to its `>`. -/
def groupName? (cs : List Char) : Option (List Char × List Char) :=
  let name := cs.takeWhile (· != '>')
  match name, cs.dropWhile (· != '>') with
  | first :: more, _ :: rest =>
    if isNameStart first && more.all isNameCharacter then some (name, rest) else none
  | _, _ => none

/-- What an opening parenthesis begins. -/
inductive Opening
  | settings (settings : List FlagSetting)
  | group (captures : Bool) (settings : List FlagSetting)

/-- A named group; the text begins with the name, which must be new. -/
def namedGroup (k : Cursor) (cs : List Char) : Option (Opening × Cursor) := do
  let (name, rest) ← groupName? cs
  if k.groupNames.contains name then none
  else some (.group true [], { k with rest, groupNames := name :: k.groupNames })

/-- A group with flags, or flags for what follows; the text begins with the flags. -/
def flagGroup (k : Cursor) (cs : List Char) : Option (Opening × Cursor) := do
  match ← flagLetters [] false false cs with
  | ([], ')' :: _) => none
  | (settings, ')' :: rest) => some (.settings settings, k.goto rest)
  | (settings, rest) => some (.group false settings, k.goto (rest.drop 1))

/-- Reads on from an opening parenthesis. Look-around is refused. -/
def opening (k : Cursor) : Option (Opening × Cursor) :=
  let k := k.skip
  match k.rest with
  | '?' :: '=' :: _ | '?' :: '!' :: _ | '?' :: '<' :: '=' :: _ | '?' :: '<' :: '!' :: _ => none
  | '?' :: 'P' :: '<' :: cs => namedGroup k cs
  | '?' :: '<' :: cs => namedGroup k cs
  | '?' :: cs => flagGroup k cs
  | _ => some (.group true [], k)

/-- What stands behind a closing parenthesis. -/
def closing : List Char → Option (List Char)
  | ')' :: cs => some cs
  | _ => none

/-- Whether blanks are skipped after the settings, given whether they were before. -/
def skipsAfter (settings : List FlagSetting) (before : Bool) : Bool :=
  ((settings.find? fun s => s.flag = .ignoreBlanks).map (·.value)).getD before

/-! ## Repetitions -/

/-- A decimal count below 2^32, blanks around it and, where they are skipped, between its digits. -/
def count? (k : Cursor) : Option (Nat × Cursor) :=
  let rec digits : Nat → Option Nat → Cursor → Option Nat × Cursor
    | 0, value, k => (value, k)
    | fuel + 1, value, k =>
      match k.rest with
      | c :: cs =>
        if c.isDigit then
          digits fuel (some (value.getD 0 * 10 + (c.toNat - '0'.toNat))) (k.after cs)
        else (value, k)
      | [] => (value, k)
  let start := k.goto (k.rest.dropWhile isBlank)
  match digits (start.rest.length + 1) none start with
  | (some n, k) =>
    let cs := k.rest.dropWhile isBlank
    if n < Nat.pow 2 32 then some (n, if cs.length < k.rest.length then k.after cs else k) else none
  | (none, _) => none

/-- Whether a repetition prefers more: a `?` behind its operator makes it prefer less. -/
def greed (k : Cursor) : Bool × Cursor :=
  match k.rest with
  | '?' :: cs => (false, k.goto cs)
  | _ => (true, k)

/-- The upper bound of a counted repetition: none behind a comma alone, the lower one without a comma. -/
def upperBound? (min : Nat) (k : Cursor) : Option (Option Nat × Cursor) :=
  match k.rest with
  | ',' :: cs =>
    let k := k.after cs
    match k.rest with
    | '}' :: _ => some (none, k)
    | _ => (count? k).map fun (max, k) => (some max, k)
  | _ => some (some min, k)

/-- The bounds of a counted repetition; the cursor stands behind the brace. -/
def bounds? (k : Cursor) : Option ((Nat × Option Nat) × Cursor) := do
  let (min, k) ← count? k.skip
  let (max, k) ← upperBound? min k
  match k.rest with
  | '}' :: cs => if max.all (min ≤ ·) then some ((min, max), k.after cs) else none
  | _ => none

/-! ## Expressions -/

def pushRepeated (min : Nat) (max : Option Nat) (greedy : Bool) : List Term → Option (List Term)
  | t :: ts => if t.repeatable then some (.repeated t min max greedy :: ts) else none
  | [] => none

/-- A sequence with its alternatives up to a closing parenthesis or the end, given the items of the
current branch and the finished branches, both in reverse. -/
def alternatives : Nat → List Term → List Term → Cursor → Option (Term × Cursor)
  | 0, _, _, _ => none
  | fuel + 1, items, branches, k =>
    let k := k.skip
    let branch := Term.ofItems items.reverse
    let push (t : Term) (k : Cursor) := alternatives fuel (t :: items) branches k
    let repeated (min : Nat) (max : Option Nat) (k : Cursor) := do
      let (greedy, k) := greed k
      alternatives fuel (← pushRepeated min max greedy items) branches k
    match k.rest with
    | [] | ')' :: _ => some (Term.ofBranches (branch :: branches).reverse, k)
    | '|' :: cs => alternatives fuel [] (branch :: branches) (k.goto cs)
    | '?' :: cs => repeated 0 (some 1) (k.goto cs)
    | '*' :: cs => repeated 0 none (k.goto cs)
    | '+' :: cs => repeated 1 none (k.goto cs)
    | '{' :: cs => do
      let ((min, max), k) ← bounds? (k.goto cs)
      repeated min max k
    | '(' :: cs => do
      match ← opening (k.goto cs) with
      | (.settings settings, k) =>
        push (.flags settings) { k with skipsBlanks := skipsAfter settings k.skipsBlanks }
      | (.group captures settings, k) =>
        let outside := k.skipsBlanks
        let (inner, k) ← alternatives fuel [] []
          { k with skipsBlanks := skipsAfter settings outside }
        let behind ← closing k.rest
        push (.group captures settings inner) { k with rest := behind, skipsBlanks := outside }
    | '[' :: cs => do
      let (t, k) ← bracket (k.goto cs)
      push t k
    | '\\' :: cs => do
      let (t, k) ← escape (k.goto cs)
      push t k
    | '.' :: cs => push .dot (k.goto cs)
    | '^' :: cs => push (.anchor .lineStart) (k.goto cs)
    | '$' :: cs => push (.anchor .lineEnd) (k.goto cs)
    | c :: cs => push (.literal ⟨c, false⟩) (k.goto cs)

end Reader

namespace Term

/-- The deepest nesting that an expression may have. -/
def heightLimit : Nat := 250

/-- The term of an expression, if the expression is well formed and not nested too deeply. -/
def read? (cs : List Char) : Option Term :=
  match Reader.alternatives (cs.length + 1) [] [] { rest := cs } with
  | some (t, k) => if k.rest.isEmpty && t.height ≤ heightLimit then some t else none
  | none => none

end Term

end Wayfinder.Regex
