import SingleFlight.Decimal.Shortest
import SingleFlight.Log
import SingleFlight.Metrics

/-!
The text in which a registry is read by a monitoring system.

Families come in the order of their names, the series of a family in the order of their labels, and
a family without series is left out.
-/

namespace SingleFlight
namespace Metrics

/-- The upper bounds of the buckets in hundredths of a second. -/
def bucketBounds : List Nat := [1, 5, 10, 25, 50, 100, 250, 500]

/-- Nanoseconds as a floating-point number of seconds: the whole seconds and the rest are converted
apart. -/
def secondsOf (d : Nat) : Float :=
  (d / 1000000000).toUInt64.toFloat + (d % 1000000000).toUInt64.toFloat / 1e9

def boundOf (hundredths : Nat) : Float := hundredths.toUInt64.toFloat / 100

/-- Whether a span falls into the bucket up to the bound. -/
def within (hundredths d : Nat) : Bool := secondsOf d ≤ boundOf hundredths

/-- A label's value with its escapes: backslash, quote and line end. -/
def escapeLabel (s : String) : String :=
  String.ofList (s.toList.flatMap fun c =>
    match c with
    | '\\' => ['\\', '\\']
    | '\n' => ['\\', 'n']
    | '"' => ['\\', '"']
    | c => [c])

def labelsText (labels : List (String × String)) : String :=
  "\x7b" ++ ",".intercalate (labels.map fun (name, v) => name ++ "=\"" ++ escapeLabel v ++ "\"") ++
    "\x7d"

def line (name : String) (labels : List (String × String)) (value : Float) : String :=
  name ++ labelsText labels ++ " " ++ Decimal.text value ++ "\n"

def countOf (n : Nat) : Float := n.toUInt64.toFloat

/-- The lines of one series. -/
structure Series where
  /-- The label values, by which series are sorted. -/
  labels : List String
  text : String

/-- One measurement with all its series. -/
structure Family where
  name : String
  help : String
  type : String
  series : List Series

/-- Label values are compared one after another. -/
def labelsBefore : List String → List String → Bool
  | [], _ => true
  | _ :: _, [] => false
  | a :: as, b :: bs => a < b || a == b && labelsBefore as bs

def Family.text (f : Family) : String :=
  if f.series.isEmpty then ""
  else
    let series := f.series.mergeSort fun a b => labelsBefore a.labels b.labels
    "# HELP " ++ f.name ++ " " ++ f.help ++ "\n# TYPE " ++ f.name ++ " " ++ f.type ++ "\n" ++
      String.join (series.map Series.text)

/-- A counter or gauge with one label for the cache and perhaps another. -/
def countSeries (name second : String) (t : Table (String × String) Nat) : List Series :=
  t.rows.map fun ((cache, other), n) =>
    { labels := [cache, other], text := line name [("cache", cache), (second, other)] (countOf n) }

def cacheSeries (name : String) (t : Table String Nat) : List Series :=
  t.rows.map fun (cache, n) =>
    { labels := [cache], text := line name [("cache", cache)] (countOf n) }

def gaugeOf (n : Int) : Float :=
  if 0 ≤ n then countOf n.toNat else -(countOf (-n).toNat)

def histogramText (name cache : String) (spans : List Nat) : String :=
  let bucket (le : String) (n : Nat) :=
    line (name ++ "_bucket") [("cache", cache), ("le", le)] (countOf n)
  let bounded := bucketBounds.map fun b =>
    bucket (Decimal.text (boundOf b)) (spans.filter (within b)).length
  let sum := spans.foldl (fun total d => total + secondsOf d) 0.0
  String.join bounded ++ bucket "+Inf" spans.length ++
    line (name ++ "_sum") [("cache", cache)] sum ++
    line (name ++ "_count") [("cache", cache)] (countOf spans.length)

namespace Registry

/-- The families of a registry whose names start with the namespace, by name. -/
def families (r : Registry) (space : String) : List Family :=
  let named (name : String) := space ++ "_" ++ name
  let durations := named "resource_fetch_duration_seconds"
  let failures := named "resource_fetch_failures_total"
  let fetches := named "resource_fetches_total"
  let requests := named "resource_requests_total"
  let consecutive := named "token_refresh_consecutive_failures"
  let refreshFailures := named "token_refresh_failures_total"
  let refreshes := named "token_refreshes_total"
  [{ name := durations, help := "Fetch duration seconds", type := "histogram"
     series := r.durations.rows.map fun (cache, spans) =>
       { labels := [cache], text := histogramText durations cache spans } },
    { name := failures, help := "Fetch failures by kind", type := "counter"
      series := countSeries failures "kind" r.failures },
    { name := fetches, help := "Underlying fetch invocations", type := "counter"
      series := cacheSeries fetches r.fetches },
    { name := requests, help := "Resource requests by outcome", type := "counter"
      series := countSeries requests "outcome" r.requests },
    { name := consecutive, help := "Background refresh failures since the last success"
      type := "gauge"
      series := r.consecutiveFailures.rows.map fun (cache, n) =>
        { labels := [cache], text := line consecutive [("cache", cache)] (gaugeOf n) } },
    { name := refreshFailures, help := "Background token refresh failures", type := "counter"
      series := cacheSeries refreshFailures r.refreshFailures },
    { name := refreshes, help := "Background token refresh attempts", type := "counter"
      series := cacheSeries refreshes r.refreshes }]

def text (r : Registry) (space : String) : String :=
  String.join ((r.families space).map Family.text)

/-- The same text line by line. -/
def lines (r : Registry) (space : String) : List String :=
  ((r.text space).splitOn "\n").filter (· ≠ "")

end Registry

/-- A registry whose names start with the namespace.  The namespace must not be empty. -/
def open? (space : String) : Except String Registry :=
  if space.isEmpty then .error "failed to create metrics registry" else .ok {}

/-- What is logged when a registry has been made. -/
def openedRecord (space : String) : Log.Record :=
  { level := .info, target := "resource_cache::observability::metrics"
    message := "metrics registry initialized", fields := [("namespace", .text space)] }

end Metrics
end SingleFlight
