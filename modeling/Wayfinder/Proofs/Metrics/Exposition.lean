import Mathlib.Data.List.Basic
import Wayfinder.Metrics.Page
import Wayfinder.Number.Decimal
import Wayfinder.Proofs.Metrics.Tally
import Wayfinder.Proofs.Text.Trim
/-!
# Pages read back

The lines of a metrics page are comments and samples. Reading the samples line by line gives back
every counter with its label, whatever text the label is.
-/

namespace Wayfinder.Metrics

/-! ## Labels -/

/-- The written form of one character of a label. -/
def escapeChar (c : Char) : List Char :=
  if c = '\\' then ['\\', '\\'] else if c = '"' then ['\\', '"']
  else if c = '\n' then ['\\', 'n'] else [c]

/-- The three replacements come to one that goes character by character. -/
theorem toList_escapeLabel (label : String) :
    (escapeLabel label).toList = label.toList.flatMap escapeChar := by
  simp only [escapeLabel, replaceChar, String.toList_ofList, List.flatMap_assoc]
  refine List.flatMap_congr fun c _ => ?_
  by_cases hslash : c = '\\'
  · subst hslash
    rfl
  · by_cases hquote : c = '"'
    · subst hquote
      rfl
    · simp [escapeChar, hslash, hquote]

theorem newline_notMem_escapeLabel (label : String) : '\n' ∉ (escapeLabel label).toList := by
  rw [toList_escapeLabel]
  intro hmem
  obtain ⟨c, -, hc⟩ := List.mem_flatMap.1 hmem
  by_cases hline : c = '\n'
  · subst hline
    simp [escapeChar] at hc
  · unfold escapeChar at hc
    split_ifs at hc <;> simp [Ne.symm hline] at hc

/-- The character that stands behind a backslash. -/
def unescape? (c : Char) : Option Char :=
  if c = '\\' ∨ c = '"' then some c else if c = 'n' then some '\n' else none

/-- Undoes the escapes of a quoted text up to the closing quote. What follows it is left. -/
def unquote? : List Char → Option (List Char × List Char)
  | [] => none
  | '"' :: rest => some ([], rest)
  | '\\' :: c :: rest => do
    let c ← unescape? c
    let (text, rest) ← unquote? rest
    return (c :: text, rest)
  | c :: rest => do
    let (text, rest) ← unquote? rest
    return (c :: text, rest)

theorem unquote?_escapeLabel (label : String) (rest : List Char) :
    unquote? ((escapeLabel label).toList ++ '"' :: rest) = some (label.toList, rest) := by
  rw [toList_escapeLabel]
  induction label.toList with
  | nil => rfl
  | cons c text ih =>
    rw [List.flatMap_cons, List.append_assoc]
    by_cases hslash : c = '\\'
    · subst hslash
      simp [escapeChar, unquote?, unescape?, ih]
    · by_cases hquote : c = '"'
      · subst hquote
        simp [escapeChar, unquote?, unescape?, ih]
      · by_cases hline : c = '\n'
        · subst hline
          simp [escapeChar, unquote?, unescape?, ih]
        · simp [escapeChar, hslash, hquote, hline, unquote?, ih]

/-! ## Samples -/

/-- What a line says: the value of a counter, which may have a label. -/
structure Sample where
  name : String
  label : Option (String × String) := none
  value : String
  deriving DecidableEq

namespace Sample

def write (s : Sample) : String :=
  s.name ++ (match s.label with
    | some (key, label) => labelled key (escapeLabel label)
    | none => "") ++ " " ++ s.value

def read? (line : List Char) : Option Sample :=
  match line.span fun c => c != '\x7b' && c != ' ' with
  | (name, ' ' :: value) => some { name := .ofList name, value := .ofList value }
  | (name, '\x7b' :: rest) =>
    match rest.span (· != '=') with
    | (key, '=' :: '"' :: rest) =>
      match unquote? rest with
      | some (label, '\x7d' :: ' ' :: value) =>
        some { name := .ofList name, label := some (.ofList key, .ofList label), value := .ofList value }
      | _ => none
    | _ => none
  | _ => none

def IsName (name : String) : Prop :=
  "trellis_".toList <+: name.toList ∧ ∀ c ∈ name.toList, c ≠ '\x7b' ∧ c ≠ ' ' ∧ c ≠ '\n'

-- A literal is checked as the list of its characters: to take it apart is slower.
theorem isName_ofList {text : List Char} (hfront : "trellis_".toList.isPrefixOf text = true)
    (hall : text.all (fun c => c != '\x7b' && c != ' ' && c != '\n') = true) :
    IsName (.ofList text) := by
  refine ⟨by simpa using hfront, fun c hc => ?_⟩
  simpa [and_assoc] using List.all_eq_true.1 hall c (by simpa using hc)

def IsKey (key : String) : Prop := ∀ c ∈ key.toList, c ≠ '=' ∧ c ≠ '\n'

/-- Whether name and key stand apart from what is written behind them, and the value fits on the
line. -/
structure Formed (s : Sample) : Prop where
  name : IsName s.name
  key : ∀ pair ∈ s.label, IsKey pair.1
  value : '\n' ∉ s.value.toList

variable {s : Sample} (h : s.Formed)

include h

theorem Formed.isPrefix_write : "trellis_".toList <+: s.write.toList := by
  have hname : s.name.toList <+: s.write.toList := by simp [write]
  exact h.name.1.trans hname

theorem Formed.read?_write : read? s.write.toList = some s := by
  obtain ⟨name, label, value⟩ := s
  have hname : ∀ c ∈ name.toList, (c != '\x7b' && c != ' ') = true := by
    intro c hc
    obtain ⟨hbrace, hblank, -⟩ := h.name.2 c hc
    simp [hbrace, hblank]
  cases label with
  | none =>
    have htext : (write { name, value }).toList = name.toList ++ ' ' :: value.toList := by
      simp [write]
    rw [read?, htext, Text.span_append_cons hname (by decide)]
    simp
  | some pair =>
    obtain ⟨key, label⟩ := pair
    have hkey : ∀ c ∈ key.toList, (c != '=') = true := by
      intro c hc
      simpa using (h.key (key, label) rfl c hc).1
    have htext : (write { name, label := some (key, label), value }).toList =
        name.toList ++ '\x7b' :: (key.toList ++ '=' :: '"' ::
          ((escapeLabel label).toList ++ '"' :: '\x7d' :: ' ' :: value.toList)) := by
      simp [write, labelled]
    rw [read?, htext, Text.span_append_cons hname (by decide)]
    simp only [Text.span_append_cons hkey (c := '=') (by decide), unquote?_escapeLabel]
    simp

theorem Formed.newline_notMem_write : '\n' ∉ s.write.toList := by
  obtain ⟨name, label, value⟩ := s
  have hname : '\n' ∉ name.toList := fun hmem => (h.name.2 _ hmem).2.2 rfl
  have hvalue : '\n' ∉ value.toList := h.value
  cases label with
  | none => simp [write, hname, hvalue]
  | some pair =>
    obtain ⟨key, label⟩ := pair
    have hkey : '\n' ∉ key.toList := fun hmem => (h.key (key, label) rfl _ hmem).2 rfl
    simp [write, labelled, hname, hkey, hvalue, newline_notMem_escapeLabel]

end Sample

/-! ## Numbers -/

@[simp] theorem natural?_toDigits (n : Nat) : Number.natural? (Nat.toDigits 10 n) = some n := by
  have hall : (Nat.toDigits 10 n).all Char.isDigit = true :=
    List.all_eq_true.2 fun c hc => Nat.isDigit_of_mem_toDigits (by decide) (by decide) hc
  have hvalue : Number.digitsValue (Nat.toDigits 10 n) = n := by
    rw [Number.digitsValue, ← Nat.ofDigitChars_eq_foldl, Nat.ofDigitChars_ten_toDigits]
  rw [Number.natural?, if_pos ⟨Nat.toDigits_ne_nil, hall⟩, hvalue]

theorem newline_notMem_toDigits (n : Nat) : '\n' ∉ Nat.toDigits 10 n := by
  intro hmem
  have hdigit := Nat.isDigit_of_mem_toDigits (by decide) (by decide) hmem
  revert hdigit
  decide

theorem newline_notMem_toString (n : Nat) : '\n' ∉ (toString n).toList := by
  have hdigits : (toString n).toList = Nat.toDigits 10 n := Nat.toList_repr
  rw [hdigits]
  exact newline_notMem_toDigits n

theorem newline_notMem_positional (d : Number.Decimal) : '\n' ∉ d.positional.toList := by
  have hdigits := newline_notMem_toDigits d.coefficient
  unfold Number.Decimal.positional
  dsimp only
  split_ifs
  · simp [hdigits]
  · have htake := fun n => mt (List.mem_of_mem_take (i := n)) hdigits
    have hdrop := fun n => mt (List.mem_of_mem_drop (i := n)) hdigits
    simp [htake, hdrop]
  · simp [hdigits]

theorem newline_notMem_toText (x : Number.Double) : '\n' ∉ x.toText.toList := by
  cases x with
  | nan negative => simp [Number.Double.toText]
  | infinite negative => cases negative <;> simp [Number.Double.toText]
  | finite negative m e =>
    have hmagnitude : '\n' ∉
        (if m = 0 then "0" else (Number.Decimal.shortest .upward m e).positional).toList := by
      split_ifs
      · decide
      · exact newline_notMem_positional _
    cases negative with
    | false => exact hmagnitude
    | true =>
      rw [Number.Double.toText, if_pos rfl, String.toList_append, List.mem_append, not_or]
      exact ⟨by decide, hmagnitude⟩

/-! ## Pages -/

/-- The samples of a page of which each line has its end. A line that is no comment is a sample. -/
def samples? (page : String) : Option (List Sample) :=
  let pieces := page.toList.splitOn '\n'
  if pieces.getLast? = some [] then
    (pieces.dropLast.filter fun line => line.head? != some '#').mapM Sample.read?
  else none

theorem splitOn_join {lines : List String} (h : ∀ line ∈ lines, '\n' ∉ line.toList) :
    (String.join (lines.map (· ++ "\n"))).toList.splitOn '\n' = lines.map String.toList ++ [[]] := by
  induction lines with
  | nil => simp
  | cons line rest ih =>
    obtain ⟨hline, hrest⟩ := List.forall_mem_cons.1 h
    have htext : (String.join ((line :: rest).map (· ++ "\n"))).toList =
        line.toList ++ '\n' :: (String.join (rest.map (· ++ "\n"))).toList := by
      simp
    rw [htext, List.splitOn_append_cons_self_of_not_mem hline, ih hrest, List.map_cons,
      List.cons_append]

/-- The labels and numbers that samples of a name give. -/
def countsOf (name : String) (samples : List Sample) : List (Option (String × String) × Option Nat) :=
  (samples.filter (·.name = name)).map fun s => (s.label, Number.natural? s.value.toList)

theorem countsOf_append (name : String) (samples samples' : List Sample) :
    countsOf name (samples ++ samples') = countsOf name samples ++ countsOf name samples' := by
  simp [countsOf]

theorem countsOf_map {α : Type} {s : α → Sample} {own : String} (h : ∀ x, (s x).name = own)
    (name : String) (xs : List α) : countsOf name (xs.map s) =
      if own = name then xs.map fun x => ((s x).label, Number.natural? (s x).value.toList) else [] := by
  by_cases hname : own = name <;> simp [countsOf, List.filter_map, Function.comp_def, h, hname]

def IsComment (line : String) : Prop := ['#'] <+: line.toList ∧ '\n' ∉ line.toList

theorem isComment_ofList {text : List Char} (h : text.all (· != '\n') = true) :
    IsComment (.ofList ('#' :: text)) := by
  refine ⟨⟨text, by simp⟩, ?_⟩
  intro hmem
  have hne := List.all_eq_true.1 h '\n' (by simpa using hmem)
  simp at hne

/-- Lines and the samples among them. The other lines are comments. -/
inductive Exposes : List String → List Sample → Prop
  | nil : Exposes [] []
  | comment {line : String} {lines : List String} {samples : List Sample}
      (hcomment : IsComment line) :
      Exposes lines samples → Exposes (line :: lines) samples
  | sample {s : Sample} {line : String} {lines : List String} {samples : List Sample}
      (hwrite : line = s.write) (hs : s.Formed) :
      Exposes lines samples → Exposes (line :: lines) (s :: samples)

namespace Exposes

theorem append {lines lines' : List String} {samples samples' : List Sample} (h : Exposes lines samples)
    (h' : Exposes lines' samples') : Exposes (lines ++ lines') (samples ++ samples') := by
  induction h with
  | nil => exact h'
  | comment hcomment _ ih => exact .comment hcomment ih
  | sample hwrite hs _ ih => exact .sample hwrite hs ih

theorem map {α : Type} {line : α → String} {s : α → Sample} {xs : List α}
    (h : ∀ x ∈ xs, line x = (s x).write ∧ (s x).Formed) : Exposes (xs.map line) (xs.map s) := by
  induction xs with
  | nil => exact .nil
  | cons x xs ih =>
    obtain ⟨⟨hwrite, hs⟩, hrest⟩ := List.forall_mem_cons.1 h
    exact .sample hwrite hs (ih hrest)

variable {lines : List String} {samples : List Sample} (h : Exposes lines samples)

include h

theorem newline_notMem : ∀ line ∈ lines, '\n' ∉ line.toList := by
  induction h with
  | nil => simp
  | comment hcomment _ ih => exact List.forall_mem_cons.2 ⟨hcomment.2, ih⟩
  | sample hwrite hs _ ih => exact List.forall_mem_cons.2 ⟨hwrite ▸ hs.newline_notMem_write, ih⟩

theorem start : ∀ line ∈ lines,
    ['#'] <+: line.toList ∨ "trellis_".toList <+: line.toList := by
  induction h with
  | nil => simp
  | comment hcomment _ ih => exact List.forall_mem_cons.2 ⟨.inl hcomment.1, ih⟩
  | sample hwrite hs _ ih => exact List.forall_mem_cons.2 ⟨.inr (hwrite ▸ hs.isPrefix_write), ih⟩

theorem read : ((lines.map String.toList).filter fun line => line.head? != some '#').mapM
    Sample.read? = some samples := by
  induction h with
  | nil => rfl
  | @comment line _ _ hcomment _ ih =>
    have hhead : line.toList.head? = some '#' := by
      obtain ⟨rest, hrest⟩ := hcomment.1
      rw [← hrest]
      rfl
    simp [hhead, ih]
  | @sample s line lines samples hwrite hs _ ih =>
    have hhead : s.write.toList.head? = some 't' := by
      obtain ⟨rest, hrest⟩ := hs.isPrefix_write
      rw [← hrest]
      rfl
    simp [hwrite, hhead, hs.read?_write, ih]

theorem samples?_page : samples? (String.join (lines.map (· ++ "\n"))) = some samples := by
  rw [samples?, splitOn_join h.newline_notMem]
  simp [h.read]

end Exposes

namespace Meter

def patternSample (e : String × Nat) : Sample :=
  { name := "trellis_route_requests_total", label := some ("pattern", e.1), value := toString e.2 }

variable (m : Meter)

def classSample (digit : Nat) : Sample :=
  { name := "trellis_responses_total", label := some ("class", toString digit ++ "xx")
    value := toString (m.classCount digit) }

/-- What the page of a meter says. -/
def samples : List Sample :=
  [{ name := "trellis_requests_total", value := toString m.requests },
    { name := "trellis_request_latency_seconds", value := m.meanLatency.seconds.toText }] ++
  [1, 2, 3, 4, 5].map m.classSample ++ m.patterns.map patternSample ++
  [{ name := "trellis_coroutine_stack_bytes", value := toString m.stackSize }]

theorem exposes_patterns : Exposes (m.patterns.map patternLine) (m.patterns.map patternSample) := by
  have hname : Sample.IsName "trellis_route_requests_total" := Sample.isName_ofList rfl rfl
  have hkey : Sample.IsKey "pattern" := by simp [Sample.IsKey]
  refine .map fun e _ => ⟨rfl, hname, ?_, newline_notMem_toString e.2⟩
  rintro _ ⟨⟩
  exact hkey

theorem classLine_eq {digit : Nat} (hdigit : digit ∈ [1, 2, 3, 4, 5]) :
    m.classLine digit = (m.classSample digit).write := by
  have hescape : escapeLabel (toString digit ++ "xx") = toString digit ++ "xx" := by
    revert digit
    decide
  have hwrite : (m.classSample digit).write = "trellis_responses_total" ++
      labelled "class" (escapeLabel (toString digit ++ "xx")) ++ " " ++
        toString (m.classCount digit) := rfl
  rw [hwrite, hescape]
  rfl

theorem exposes_classes :
    Exposes ([1, 2, 3, 4, 5].map m.classLine) ([1, 2, 3, 4, 5].map m.classSample) := by
  have hname : Sample.IsName "trellis_responses_total" := Sample.isName_ofList rfl rfl
  have hkey : Sample.IsKey "class" := by simp [Sample.IsKey]
  refine .map fun digit hdigit => ⟨m.classLine_eq hdigit, hname, ?_, newline_notMem_toString _⟩
  rintro _ ⟨⟩
  exact hkey

theorem exposes_lines : Exposes m.lines m.samples := by
  have hplain {name front value : String} {lines : List String} {samples : List Sample}
      (hfront : front = name ++ " ") (hname : Sample.IsName name) (hvalue : '\n' ∉ value.toList)
      (hrest : Exposes lines samples) :
      Exposes ((front ++ value) :: lines) (({ name, value } : Sample) :: samples) :=
    .sample (by simp [Sample.write, hfront]) ⟨hname, by simp, hvalue⟩ hrest
  unfold lines samples
  refine .append (.append ?_ m.exposes_patterns) ?_
  · rw [← List.append_nil (_ ++ List.map m.classSample _)]
    refine .append (.append ?_ m.exposes_classes) ?_
    · refine .comment (isComment_ofList rfl) (.comment (isComment_ofList rfl) ?_)
      refine hplain (by simp) (Sample.isName_ofList rfl rfl) (newline_notMem_toString _) ?_
      refine .comment (isComment_ofList rfl) (.comment (isComment_ofList rfl) ?_)
      refine hplain (by simp) (Sample.isName_ofList rfl rfl) (newline_notMem_toText _) ?_
      exact .comment (isComment_ofList rfl) (.comment (isComment_ofList rfl) .nil)
    · exact .comment (isComment_ofList rfl) (.comment (isComment_ofList rfl) .nil)
  · refine .comment (isComment_ofList rfl) (.comment (isComment_ofList rfl) ?_)
    exact hplain (by simp) (Sample.isName_ofList rfl rfl) (newline_notMem_toString _) .nil

theorem length_lines : m.lines.length = 18 + m.patterns.length := by
  simp only [lines, List.length_append, List.length_map, List.length_cons, List.length_nil]
  omega

theorem countsOf_samples (name : String) : countsOf name m.samples =
    countsOf name [{ name := "trellis_requests_total", value := toString m.requests },
      { name := "trellis_request_latency_seconds", value := m.meanLatency.seconds.toText }] ++
    (if "trellis_responses_total" = name then [1, 2, 3, 4, 5].map fun digit =>
      (some ("class", toString digit ++ "xx"), some (m.classCount digit)) else []) ++
    (if "trellis_route_requests_total" = name then
      m.patterns.map fun e => (some ("pattern", e.1), some e.2) else []) ++
    countsOf name [{ name := "trellis_coroutine_stack_bytes", value := toString m.stackSize }] := by
  have hclass : ∀ digit, (m.classSample digit).name = "trellis_responses_total" := fun _ => rfl
  have hpattern : ∀ e, (patternSample e).name = "trellis_route_requests_total" := fun _ => rfl
  rw [samples, countsOf_append, countsOf_append, countsOf_append, countsOf_map hclass,
    countsOf_map hpattern]
  simp [classSample, patternSample]

/-- Whatever the labels are, the pieces between line breaks are comments and samples, and their
number depends on the number of labels only. The samples give back every counter, those by label in
the order of the labels and each label once. -/
theorem page_reads_back (h : m.patterns.Sorted) :
    (∃ lines, m.page.toList.splitOn '\n' = lines ++ [[]] ∧
      lines.length = 18 + m.patterns.length ∧
      ∀ line ∈ lines, line ≠ [] ∧ (['#'] <+: line ∨ "trellis_".toList <+: line)) ∧
    ∃ samples, samples? m.page = some samples ∧
      countsOf "trellis_requests_total" samples = [(none, some m.requests)] ∧
      countsOf "trellis_responses_total" samples =
        [1, 2, 3, 4, 5].map (fun digit =>
          (some ("class", toString digit ++ "xx"), some (m.classCount digit))) ∧
      countsOf "trellis_coroutine_stack_bytes" samples = [(none, some m.stackSize)] ∧
      countsOf "trellis_route_requests_total" samples =
        m.patterns.map (fun e => (some ("pattern", e.1), some e.2)) ∧
      ∀ label ∈ m.patterns.map Prod.fst,
        (countsOf "trellis_route_requests_total" samples).filter
          (fun count => count.1 = some ("pattern", label)) =
            [(some ("pattern", label), some (m.patternCount label))] := by
  have hexposes := m.exposes_lines
  have hroutes : countsOf "trellis_route_requests_total" m.samples =
      m.patterns.map fun e => (some ("pattern", e.1), some e.2) := by
    rw [countsOf_samples]
    simp [countsOf]
  refine ⟨⟨m.lines.map String.toList, splitOn_join hexposes.newline_notMem, ?_, ?_⟩, m.samples,
    hexposes.samples?_page, ?_, ?_, ?_, hroutes, ?_⟩
  · rw [List.length_map, m.length_lines]
  · intro text htext
    obtain ⟨line, hline, rfl⟩ := List.mem_map.1 htext
    have hstart := hexposes.start line hline
    refine ⟨?_, hstart⟩
    intro hempty
    simp [hempty] at hstart
  · rw [countsOf_samples]
    simp [countsOf]
  · rw [countsOf_samples]
    simp [countsOf]
  · rw [countsOf_samples]
    simp [countsOf]
  · intro label hlabel
    obtain ⟨e, he, rfl⟩ := List.mem_map.1 hlabel
    rw [hroutes, List.filter_map]
    have hone := h.filter_eq he
    simp [Function.comp_def, hone, patternCount, h.get_of_mem he]

/-- Labels that hold all that is escaped, and a line of their own. -/
theorem page_reads_back_past_quotes :
    let m : Meter :=
      { requests := 6, classes := #v[0, 3, 1, 2, 0], stackSize := 4096
        patterns := [("", 1), ("/a\"\x7d 9\n# x\ntrellis_requests_total 7", 3), ("/a\\n", 2)] }
    m.patterns.Sorted ∧ ∃ samples, samples? m.page = some samples ∧
      countsOf "trellis_requests_total" samples = [(none, some 6)] ∧
      countsOf "trellis_route_requests_total" samples =
        [(some ("pattern", ""), some 1),
          (some ("pattern", "/a\"\x7d 9\n# x\ntrellis_requests_total 7"), some 3),
          (some ("pattern", "/a\\n"), some 2)] := by
  intro m
  have hsorted : m.patterns.Sorted := by
    unfold Counts.Sorted
    decide
  obtain ⟨-, samples, hread, htotal, -, -, hroutes, -⟩ := m.page_reads_back hsorted
  exact ⟨hsorted, samples, hread, htotal, hroutes⟩

end Meter

end Wayfinder.Metrics
