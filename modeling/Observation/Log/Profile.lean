import Observation.Log.Selection

/-!
# How the log is shown

* `Profile` - lines for people, JSON objects, or nothing.
* `Profile.selection` - the records that a profile shows of itself.
* `Profile.shows` - whether a record is shown.
-/

namespace Observation.Log

/-- How the log is shown. -/
inductive Profile where
  | development
  | production
  | test
  deriving DecidableEq, Repr

namespace Profile

/-- The name of a profile. -/
def label : Profile → String
  | development => "Development"
  | production => "Production"
  | test => "Test"

/-- Reads the name under which a profile is asked for. -/
def parse (s : String) : Except String Profile :=
  if s = "dev" ∨ s = "development" then .ok development
  else if s = "prod" ∨ s = "production" ∨ s = "json" then .ok production
  else if s = "test" then .ok test
  else .error ("unknown log format '" ++ s ++ "' (expected dev, prod, json or test)")

/-- The selection of a profile, where no other one is asked for. -/
def selection : Profile → Selection
  | development => [{ origin := some "obsfilter", limit := Level.debug.rank }]
  | production => [{ origin := some "obsfilter", limit := Level.info.rank }]
  | test => []

/-- Whether a record is shown under a profile, when `wish` may ask for another selection.  A wish
that cannot be read counts for nothing. -/
def shows (profile : Profile) (wish : Option String) (r : LogRecord) : Bool :=
  match profile with
  | test => false
  | _ => ((wish.bind Selection.parse).getD profile.selection).shows r

end Profile

end Observation.Log
