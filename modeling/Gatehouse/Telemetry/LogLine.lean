import Gatehouse.Json.Basic
import Gatehouse.Telemetry.LogFilter

/-!
# Log lines

A log line says what happened in a few words (its *message*) and with what (its *fields*), how
urgent that is, and which part of the program says so (its *target*).  A line that is written while
a request is handled stands inside a *span*, which has a name and fields of its own.

`LogFilter.show?` is what becomes of a line under a filter: nothing, or the object that is printed.
A span is printed with its lines only if the filter lets the span itself through.
-/

set_option autoImplicit false

namespace Gatehouse

/-- A stretch of work that lines can belong to. -/
structure LogSpan where
  level : LogLevel
  target : String
  name : String
  fields : List (String × Json)

/-- One line of the log. -/
structure LogLine where
  level : LogLevel
  target : String
  message : String
  fields : List (String × Json)
  spans : List LogSpan := []

namespace LogSpan

/-- The span as an object. -/
def toJson (span : LogSpan) : Json :=
  Json.obj (span.fields ++ [("name", Json.str span.name)])

end LogSpan

namespace LogLine

/-- The line inside one more span. -/
def within (span : LogSpan) (line : LogLine) : LogLine :=
  { line with spans := span :: line.spans }

/-- The line as an object, with the spans that are shown, outermost first. -/
def toJson (line : LogLine) (spans : List LogSpan) : Json :=
  Json.obj ([("level", Json.str line.level.word),
    ("fields", Json.obj (("message", Json.str line.message) :: line.fields)),
    ("target", Json.str line.target)] ++
    match spans.getLast? with
    | none => []
    | some span => [("span", span.toJson), ("spans", .array (spans.map LogSpan.toJson))])

end LogLine

/-- What a filter lets through of a line. -/
def LogFilter.show? (filter : LogFilter) (line : LogLine) : Option Json :=
  if filter.allows line.level line.target then
    some (line.toJson (line.spans.filter fun span => filter.allows span.level span.target))
  else none

end Gatehouse
