import Gatehouse.Decimal.Shortest
import Gatehouse.Telemetry.Measurement

/-!
# The registry of measurements

A registry keeps every measurement from the moment it is installed.  What it shows is derived from
the list: counters are counts, the gauge is the number of requests that entered less the number that
left, and a histogram has, for each of its bounds, the number of fetches that took no longer.

`Registry.lines` is the text in which metrics are published, line by line: for each metric that has
a value its description, its type, and its values, one for each combination of labels.
-/

set_option autoImplicit false

namespace Gatehouse

/-- The measurements since the registry was installed. -/
structure Registry where
  /-- The upper bounds of the histogram's buckets, in seconds. -/
  bounds : List Float
  measurements : List Measurement := []

namespace Registry

/-- The bounds of the buckets unless others are configured. -/
def defaultBounds : List Float :=
  [0.005, 0.01, 0.025, 0.05, 0.1, 0.25, 0.5, 1.0, 2.5, 5.0]

/-- The registry after some more measurements. -/
def record (r : Registry) (ms : List Measurement) : Registry :=
  { r with measurements := r.measurements ++ ms }

/-! ## Values -/

/-- The members of a list, each once, in the order of their first occurrence. -/
def distinct {α : Type} [BEq α] (l : List α) : List α :=
  l.foldl (fun seen a => if seen.contains a then seen else seen ++ [a]) []

/-- The application and the kind of every decision. -/
def decisions (r : Registry) : List (String × String) :=
  r.measurements.filterMap fun
    | .decision app kind => some (app, kind)
    | _ => none

/-- The application and the reason of every fail-safe redirect. -/
def failSafes (r : Registry) : List (String × String) :=
  r.measurements.filterMap fun
    | .failSafe app reason => some (app, reason)
    | _ => none

/-- The endpoint and the outcome of every fetch, with the milliseconds it took. -/
def fetches (r : Registry) : List ((String × String) × Nat) :=
  r.measurements.filterMap fun
    | .fetch endpoint succeeded ms => some ((endpoint, if succeeded then "ok" else "error"), ms)
    | _ => none

/-- How many requests are in the chain. -/
def inFlight (r : Registry) : Int :=
  r.measurements.foldl (fun n m =>
    match m with
    | .entered => n + 1
    | .left => n - 1
    | _ => n) 0

/-- Whether a request has ever been in the chain. -/
def hasSeenRequests (r : Registry) : Bool :=
  r.measurements.any fun m => m == .entered || m == .left

/-- The milliseconds of the fetches of an endpoint with an outcome, in order. -/
def durations (r : Registry) (key : String × String) : List Nat :=
  r.fetches.filterMap fun f => if f.1 = key then some f.2 else none

/-! ## Text -/

/-- A number of milliseconds in seconds. -/
def seconds (ms : Nat) : Float :=
  Float.ofNat (ms / 1000) + Float.ofNat (ms % 1000 * 1000000) / 1000000000.0

/-- The sum of some spans of time, in seconds. -/
def total (ms : List Nat) : Float :=
  ms.foldl (fun sum t => sum + seconds t) 0.0

/-- The value of a label as it is written.  A backslash in front of a second one, or of a quote, is
taken for an escape that is there already; whether one is held back for this is given. -/
def escaped (isHeld : Bool) : List Char → List Char
  | [] => if isHeld then ['\\', '\\'] else []
  | '\n' :: cs => '\\' :: 'n' :: escaped isHeld cs
  | '"' :: cs => '\\' :: '"' :: escaped false cs
  | '\\' :: cs => if isHeld then '\\' :: '\\' :: escaped false cs else escaped true cs
  | c :: cs => (if isHeld then ['\\', '\\'] else []) ++ c :: escaped false cs

/-- A label with its value. -/
def label (name value : String) : String :=
  name ++ "=\"" ++ String.ofList (escaped false value.toList) ++ "\""

/-- A value of a metric under its labels. -/
def sample (metric : String) (labels : List String) (value : String) : String :=
  let shown := if labels.isEmpty then "" else "\x7b" ++ ",".intercalate labels ++ "\x7d"
  metric ++ shown ++ " " ++ value

/-- The lines of a metric, unless it has no values. -/
def family (metric type description : String) (samples : List String) : List String :=
  if samples.isEmpty then []
  else
    ("# HELP " ++ metric ++ " " ++ description) :: ("# TYPE " ++ metric ++ " " ++ type) :: samples

/-- The lines of a counter with two labels. -/
def counter (metric description first second : String) (keys : List (String × String)) :
    List String :=
  family metric "counter" description ((distinct keys).map fun key =>
    sample metric [label first key.1, label second key.2] (toString (keys.count key)))

/-- The lines of the histogram for one endpoint and outcome. -/
def histogram (r : Registry) (metric : String) (key : String × String) : List String :=
  let labels := [label "endpoint" key.1, label "outcome" key.2]
  let ms := r.durations key
  let bucket (bound : String) (count : Nat) : String :=
    sample (metric ++ "_bucket") (labels ++ [label "le" bound]) (toString count)
  (r.bounds.map fun bound =>
    bucket (Decimal.ofFloat bound) (ms.countP fun t => seconds t ≤ bound)) ++
    [bucket "+Inf" ms.length, sample (metric ++ "_sum") labels (Decimal.ofFloat (total ms)),
      sample (metric ++ "_count") labels (toString ms.length)]

/-- Everything that is published, line by line. -/
def lines (r : Registry) : List String :=
  let fetch := "portico_backend_fetch_duration_seconds"
  counter "portico_route_decisions_total" "Terminal routing decisions by application and kind"
      "app" "decision" r.decisions ++
    counter "portico_fail_safe_redirects_total"
      "Redirects issued because business rules could not be evaluated" "app" "reason"
      r.failSafes ++
    family fetch "histogram" "Registration backend fetch duration in seconds"
      ((distinct (r.fetches.map Prod.fst)).flatMap (r.histogram fetch)) ++
    family "portico_in_flight_requests" "gauge" "Requests currently being routed"
      (if r.hasSeenRequests then [sample "portico_in_flight_requests" [] (toString r.inFlight)]
      else [])

/-- Everything that is published. -/
def render (r : Registry) : String :=
  "".intercalate (r.lines.map (· ++ "\n"))

end Registry
end Gatehouse
