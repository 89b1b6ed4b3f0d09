import Observation.Filter.Diagnostics
import Observation.Filter.Record

/-!
# Filters by identifier

* `Registry` - filters under identifiers, which increase.
* `Registry.insert`, `Registry.remove`, `Registry.find?` - changing and asking.
* `Registry.relay` - sends a filter through its JSON form to another identifier.
* `Registry.dispatch` - shows an event to every filter.
-/

namespace Observation

/-- Filters under identifiers; the identifiers increase. -/
structure Registry where
  entries : List (String × EventFilter) := []
  deriving DecidableEq, Repr

namespace Registry

/-- The identifiers, in order. -/
def ids (r : Registry) : List String :=
  r.entries.map (·.1)

/-- The filter under an identifier. -/
def find? (r : Registry) (id : String) : Option EventFilter :=
  (r.entries.find? fun e => e.1 == id).map (·.2)

/-- Puts a filter into a list of entries, in place of the one under the same identifier. -/
def insertEntry (id : String) (f : EventFilter) :
    List (String × EventFilter) → List (String × EventFilter)
  | [] => [(id, f)]
  | e :: es =>
    match compare id e.1 with
    | .lt => (id, f) :: e :: es
    | .eq => (id, f) :: es
    | .gt => e :: insertEntry id f es

/-- The registry with a filter under an identifier. -/
def insert (r : Registry) (id : String) (f : EventFilter) : Registry :=
  ⟨insertEntry id f r.entries⟩

/-- The registry without a filter under an identifier. -/
def remove (r : Registry) (id : String) : Registry :=
  ⟨r.entries.filter fun e => e.1 != id⟩

/-- Whether two identifiers stand for equal filters, or both for none. -/
def agree (r : Registry) (a b : String) : Bool :=
  r.find? a == r.find? b

/-- What became of a filter on its way through JSON. -/
structure Relayed where
  registry : Registry
  json : String
  isEqual : Bool

/-- Sends the filter under `id` through JSON to the identifier `target`; nothing if there is no
filter to send. -/
def relay (r : Registry) (id target : String) : Option (Except Failure Relayed) :=
  (r.find? id).map fun f => do
    let json := f.toJson
    let received ← EventFilter.ofJson json
    return ⟨r.insert target received, json, received == f⟩

/-- What the filters said about an event. -/
structure Delivery where
  delivered : List String
  malformed : List (String × PathError)
  log : Log.Buffer

/-- Shows an event to every filter in the order of the identifiers. -/
def dispatch (r : Registry) (e : Event) (isLocal : Bool) (log : Log.Buffer) : Delivery where
  delivered := (r.entries.filter fun x => (x.2.verdict e isLocal).isAccepted).map (·.1)
  malformed := r.entries.filterMap fun x => (x.2.verdict e isLocal).error?.map (x.1, ·)
  log := r.entries.foldl (fun log x => (x.2.accept e isLocal log).2) log

end Registry

end Observation
