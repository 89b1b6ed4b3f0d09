import Observation.Log.Record
import Observation.Text.Alphanumeric
import Observation.Text.Blank
import Observation.Text.Pattern

/-!
# Which records are shown

A selection is a list of directives between commas.  A directive is a level, or has parts of which
all but one may be missing:

    ORIGIN[SPAN{FIELD=VALUE}]=LEVEL

* `Scope`, `Directive`, `Selection` - what is written.
* `Directive.parse`, `Selection.parse` - reading it; one unreadable directive spoils the selection.
* `Directive.fits` - whether a directive speaks of a record.
* `Selection.shows` - whether a record is shown, as the most specific directive that fits it says.

Spans, and values of fields in spans, belong to the notation.  Records here are never inside a
span, so a directive that asks for one fits no record.
-/

namespace Observation.Log

/-- What a directive asks for between its brackets. -/
structure Scope where
  span : Option String := none
  field : Option String := none
  value : Option String := none
  deriving DecidableEq, Repr

/-- Records whose origin starts with `origin`, and which have what `scope` asks for, are shown up
to a level of rank `limit`; rank 0 shows none. -/
structure Directive where
  origin : Option String := none
  scope : Scope := {}
  limit : Nat
  deriving DecidableEq, Repr

/-- Directives in the order in which they are written. -/
abbrev Selection : Type := List Directive

/-! ## Reading -/

/-- The names of the limits by rank. -/
def limitNames : List String :=
  ["off", "error", "warn", "info", "debug", "trace"]

/-- The rank that shows everything. -/
def everything : Nat := 5

/-- The rank that a text stands for, as a number or by its name in any case. -/
def rankOf? (text : List Char) : Option Nat :=
  match Text.readUnsigned text with
  | some n => if n ≤ everything then some n else none
  | none => limitNames.findIdx? (· == (String.ofList text).toLower)

/-- The limit that stands after an equals sign; nothing there shows everything. -/
def limitOf? (text : List Char) : Option Nat :=
  if text = [] then some everything else rankOf? text

/-- Reads a field and the value it must have, if one is given.  A value is a number or a pattern. -/
def fieldOf? (text : List Char) : Option (String × Option String) :=
  let name := String.ofList (text.takeWhile (· != '='))
  match text.dropWhile (· != '=') with
  | [] => if text = [] then none else some (name, none)
  | _ :: rest =>
    let value := rest.takeWhile (· != '=')
    if Text.isNumber value || Text.isPattern value then some (name, some (String.ofList value))
    else none

/-- A text as it is read: `seen`, without blanks at its ends, is where signs are looked for, and
`whole` is what parts are cut from.  Positions count from the first character seen, so that blanks
at the start of a text displace every part but a bare word. -/
structure Source where
  whole : List Char
  seen : List Char
  deriving DecidableEq, Repr

namespace Source

/-- The source for a text. -/
def ofText (text : List Char) : Source :=
  ⟨text, Text.trim text⟩

/-- The first position, from `start` on, of a character that is one of `signs`. -/
def find (s : Source) (start : Nat) (signs : List Char) : Nat :=
  start + ((s.seen.drop start).takeWhile (! signs.contains ·)).length

/-- The part between two positions. -/
def part (s : Source) (start stop : Nat) : List Char :=
  (s.whole.drop start).take (stop - start)

end Source

/-- Reads what a bracket holds, from the position after it, and gives the position after the
closing bracket.  A span without a name counts if no field follows it. -/
def Scope.read (s : Source) (start : Nat) : Option (Scope × Nat) := do
  let stop := s.find start [']', '{']
  let span := String.ofList (s.part start stop)
  match s.seen.drop stop with
  | ']' :: _ => some ({ span := some span }, stop + 1)
  | '{' :: _ =>
    let fieldStop := s.find (stop + 1) ['}']
    let (field, value) ← fieldOf? (s.part (stop + 1) fieldStop)
    match s.seen.drop fieldStop with
    | '}' :: ']' :: _ =>
      some ({ span := if span = "" then none else some span, field, value }, fieldStop + 2)
    | _ => none
  | _ => none

namespace Directive

/-- Whether a directive may start with a character. -/
def canStart (c : Char) : Bool :=
  ['[', '-', ':', '_'].contains c || Text.isAlphanumeric c

/-- Reads what may follow a closing bracket: the end, or an equals sign and a limit. -/
def limitAfter? (s : Source) (position : Nat) : Option Nat :=
  match s.seen.drop position with
  | [] => some everything
  | '=' :: _ => limitOf? (s.whole.drop (position + 1))
  | _ => none

/-- Reads one directive: a level for every origin, an origin alone, or an origin with a scope, a
limit or both. -/
def parse (text : List Char) : Option Directive := do
  let s := Source.ofText text
  if ! s.seen.head?.any canStart then none
  let stop := s.find 0 ['=', '[']
  let origin := if stop = 0 then none else some (String.ofList (s.part 0 stop))
  match s.seen.drop stop with
  | [] =>
    match rankOf? text with
    | some limit => some { limit }
    | none => some { origin := some (String.ofList text), limit := everything }
  | '[' :: _ =>
    let (scope, position) ← Scope.read s (stop + 1)
    let limit ← limitAfter? s position
    some { origin, scope, limit }
  | _ =>
    let limit ← limitAfter? s stop
    some { origin, limit }

end Directive

/-- Reads directives between commas; nothing between two commas counts for nothing. -/
def Selection.parse (s : String) : Option Selection :=
  ((s.splitOn ",").filter (· ≠ "")).mapM fun piece => Directive.parse piece.toList

/-! ## Selecting -/

namespace Directive

/-- Whether a directive speaks of a record. -/
def fits (d : Directive) (r : LogRecord) : Bool :=
  d.scope.span.isNone && d.scope.value.isNone
    && d.origin.all (fun origin => origin.toList.isPrefixOf r.target.toList)
    && d.scope.field.all r.hasField

/-- The length of the origin, where no origin comes before all others. -/
def originRank (d : Directive) : Nat :=
  match d.origin with
  | some origin => origin.length + 1
  | none => 0

/-- Whether one field comes before another, where no field comes before all others. -/
def fieldPrecedes : Option String → Option String → Bool
  | none, some _ => true
  | some a, some b => decide (a < b)
  | _, none => false

/-- Whether a directive decides rather than one that is written before it: its origin is longer,
or as long while its field does not come before the other one's. -/
def prevails (d earlier : Directive) : Bool :=
  decide (earlier.originRank < d.originRank)
    || (earlier.originRank == d.originRank && ! fieldPrecedes d.scope.field earlier.scope.field)

end Directive

namespace Selection

/-- The directive that decides on a record. -/
def decisive? (selection : Selection) (r : LogRecord) : Option Directive :=
  (selection.filter (·.fits r)).foldl (fun best d =>
    match best with
    | some b => if d.prevails b then some d else best
    | none => some d) none

/-- Whether a record is shown; one that no directive fits is not. -/
def shows (selection : Selection) (r : LogRecord) : Bool :=
  (selection.decisive? r).any fun d => r.level.rank ≤ d.limit

end Selection

end Observation.Log
