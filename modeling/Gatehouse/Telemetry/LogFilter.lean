import Gatehouse.Text.Pieces
import Gatehouse.Text.Blank

/-!
# Log filters

Which log lines are written is decided by a filter, a list of *directives* separated by commas.  A
directive is a level (`info`), a target (`portico_gateway`), a target with a level
(`portico_gateway=debug`), or any of these restricted to a span and its fields
(`[request{id}]=trace`).  The most specific directive that speaks about a line decides: the one with
the longest target that the line's target starts with.  A filter without directives lets errors
through and nothing else.

Directives that name a span, or a field with a value, wait for such a span to be entered.  The lines
of this program that stand outside every span are decided by the other directives alone.
-/

set_option autoImplicit false

namespace Gatehouse

/-- How urgent a log line is. -/
inductive LogLevel where
  | error
  | warn
  | info
  | debug
  | trace
deriving Repr, DecidableEq

namespace LogLevel

/-- The position of a level, counted from the most urgent. -/
def rank : LogLevel → Nat
  | .error => 1
  | .warn => 2
  | .info => 3
  | .debug => 4
  | .trace => 5

/-- The word for a level in a log line. -/
def word : LogLevel → String
  | .error => "ERROR"
  | .warn => "WARN"
  | .info => "INFO"
  | .debug => "DEBUG"
  | .trace => "TRACE"

end LogLevel

namespace LogFilter

/-- The greatest rank that a directive lets through; zero lets nothing through. -/
abbrev Threshold := Nat

/-- The value of a list of decimal digits, which may have a plus sign in front. -/
def number? (cs : List Char) : Option Nat :=
  let ds := match cs with
    | '+' :: rest => rest
    | cs => cs
  if ds.isEmpty || !ds.all Char.isDigit then none
  else some (ds.foldl (fun n d => n * 10 + (d.toNat - '0'.toNat)) 0)

/-- The threshold that a word or a number stands for. -/
def threshold? (cs : List Char) : Option Threshold :=
  match number? cs with
  | some n => if n ≤ 5 then some n else none
  | none =>
    match String.ofList (cs.map Char.toLower) with
    | "" | "error" => some 1
    | "warn" => some 2
    | "info" => some 3
    | "debug" => some 4
    | "trace" => some 5
    | "off" => some 0
    | _ => none

/-- A condition on a field of a span: its name, and its value if one is required. -/
structure FieldCondition where
  name : String
  value : Option String
deriving Repr, DecidableEq

/-- One directive of a filter. -/
structure Directive where
  target : Option String
  span : Option String
  fields : List FieldCondition
  threshold : Threshold
deriving Repr, DecidableEq

/-- How far the reading of a directive has come, with the positions at which its parts began. -/
inductive Stage where
  | start
  | levelOrTarget (from_ : Nat)
  | span (from_ : Nat)
  | field (from_ : Nat)
  | fields
  | target
  | level (from_ : Nat)
deriving Repr, DecidableEq

/-- The characters of a text from one position to another. -/
def slice (cs : List Char) (i j : Nat) : List Char :=
  (cs.drop i).take (j - i)

/-- The pieces of a text in front of and behind its first `=`. -/
def condition (cs : List Char) : FieldCondition :=
  let name := cs.takeWhile (· != '=')
  match cs.dropWhile (· != '=') with
  | [] => ⟨String.ofList name, none⟩
  | _ :: rest => ⟨String.ofList name, some (String.ofList (rest.takeWhile (· != '=')))⟩

/-- A reading in progress. -/
abbrev Reading := Stage × Directive

/-- The directive after a condition on a field, which may not be empty. -/
def addField (d : Directive) (cs : List Char) : Option Directive :=
  if cs.isEmpty then none else some { d with fields := d.fields ++ [condition cs] }

/-- One character of a directive at position `i` of the text `cs`. -/
def step (cs : List Char) (i : Nat) (c : Char) : Reading → Option Reading
  | (.start, d) =>
    if c = '[' then some (.span (i + 1), d)
    else if c = '-' ∨ c = ':' ∨ c = '_' ∨ c.isAlphanum ∨ 0x80 ≤ c.toNat then
      some (.levelOrTarget i, d)
    else none
  | (.levelOrTarget s, d) =>
    if c = '=' then some (.level (i + 1), { d with target := some (String.ofList (slice cs s i)) })
    else if c = '[' then
      some (.span (i + 1), { d with target := some (String.ofList (slice cs s i)) })
    else some (.levelOrTarget s, d)
  | (.target, d) => if c = '=' then some (.level (i + 1), d) else none
  | (.span s, d) =>
    if c = ']' then some (.target, { d with span := some (String.ofList (slice cs s i)) })
    else if c = '\x7b' then
      let name := slice cs s i
      some (.field (i + 1),
        { d with span := if name.isEmpty then none else some (String.ofList name) })
    else some (.span s, d)
  | (.field s, d) =>
    if c = '\x7d' then (addField d (slice cs s i)).map fun d => (.fields, d)
    else some (.field s, d)
  | (.fields, d) => if c = ']' then some (.target, d) else none
  | (.level s, d) => some (.level s, d)

/-- The characters of a directive, one after the other. -/
def steps (cs : List Char) : Nat → List Char → Reading → Option Reading
  | _, [], r => some r
  | i, c :: rest, r => (step cs i c r).bind (steps cs (i + 1) rest)

/-- The directive of a finished reading. -/
def finish (cs : List Char) : Reading → Option Directive
  | (.levelOrTarget s, d) =>
    let w := cs.drop s
    match threshold? w with
    | some t => some { d with threshold := t, target := none }
    | none => some { d with threshold := 5, target := some (String.ofList w) }
  | (.level s, d) =>
    let w := cs.drop s
    if w.isEmpty then some { d with threshold := 5 }
    else (threshold? w).map fun t => { d with threshold := t }
  | (.target, d) => some d
  | _ => none

/-- The directive that a text spells. -/
def directive? (cs : List Char) : Option Directive :=
  (steps cs 0 (Text.trim cs) (.start, ⟨none, none, [], 5⟩)).bind (finish cs)

end LogFilter

/-- Which log lines are written. -/
structure LogFilter where
  directives : List LogFilter.Directive
deriving Repr, DecidableEq

namespace LogFilter

/-- The filter that a text spells. -/
def parse? (s : String) : Option LogFilter :=
  (((Text.pieces (· == ',') s.toList).filter fun p => !p.isEmpty).mapM directive?).map LogFilter.mk

/-- Whether a directive speaks about lines outside every span. -/
def Directive.isStatic (d : Directive) : Bool :=
  d.span.isNone && d.fields.all fun f => f.value.isNone

/-- Whether a line's target starts with the target of a directive. -/
def Directive.covers (d : Directive) (target : String) : Bool :=
  match d.target with
  | none => true
  | some t => t.toList.isPrefixOf target.toList

/-- How specific a directive is. -/
def Directive.weight (d : Directive) : Nat :=
  match d.target with
  | none => 0
  | some t => t.length + 1

/-- The directives outside spans, or the one that stands in for an empty filter. -/
def statics (f : LogFilter) : List Directive :=
  if f.directives.isEmpty then [⟨none, none, [], 1⟩] else f.directives.filter Directive.isStatic

/-- The more specific of two directives; of two that are equally specific, the later. -/
def prefer (best : Option Directive) (d : Directive) : Option Directive :=
  match best with
  | none => some d
  | some b => if b.weight ≤ d.weight then some d else some b

/-- Whether a line of a level and a target, outside every span, is written. -/
def allows (f : LogFilter) (level : LogLevel) (target : String) : Bool :=
  match (f.statics.filter fun d => d.covers target).foldl prefer none with
  | none => false
  | some d => level.rank ≤ d.threshold

end LogFilter
end Gatehouse
