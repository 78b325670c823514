import Schemata.Event
import Schemata.Text.Alphanumeric
import Schemata.Text.Blank
import Schemata.Text.Numeral

/-!
# Logs

How events are shown as lines, and which of them are shown.  A filter is a list of
directives, each of which sets how much is shown of one part of the program; of the
directives that cover an event, the one with the longest target decides.
-/

namespace Schemata

/-- The part of the program that logs an event. -/
def Event.target : Event → String
  | .schemaCreated _ => "pgschema::reconcile"
  | .schemaRenamed .. => "pgschema::reconcile"
  | .ownerChanged .. => "pgschema::reconcile"
  | .schemaDropped _ => "pgschema::reconcile"
  | .schemaMissing _ => "pgschema::reconcile"
  | .sessionOpened => "pgschema::provider"
  | .connectionLost _ => "pgschema::provider"
  | .statementRun .. => "pgschema::traced"
  | .lookupRun .. => "pgschema::traced"
  | .settingsLoaded _ => "pgschema"
  | .databaseUrlUsed _ => "pgschema"

namespace Log

def fieldText : FieldValue → String
  | .text value => value
  | .count value => toString value

/-- The line that shows an event.  Spans are not shown. -/
def line? (event : Event) : Option String :=
  let entry := event.entry
  if entry.isSpan then none
  else
    some <| event.level.name ++ " " ++ event.target ++ ": " ++ entry.title ++
      String.join (entry.fields.map fun (name, value) => " " ++ name ++ "=" ++ fieldText value)

/-- How much is shown. -/
inductive Verbosity where
  | off
  | error
  | warn
  | info
  | debug
  | trace
deriving DecidableEq, Repr

namespace Verbosity

/-- The rank of the least grave level that is shown. -/
def threshold : Verbosity → Nat
  | .off => Level.error.rank + 1
  | .error => Level.error.rank
  | .warn => Level.warn.rank
  | .info => Level.info.rank
  | .debug => Level.debug.rank
  | .trace => 0

def shows (verbosity : Verbosity) (level : Level) : Bool :=
  verbosity.threshold ≤ level.rank

def name : Verbosity → String
  | .off => "off"
  | .error => "error"
  | .warn => "warn"
  | .info => "info"
  | .debug => "debug"
  | .trace => "trace"

/-- All of them, in the order of the numbers that stand for them. -/
def all : List Verbosity := [.off, .error, .warn, .info, .debug, .trace]

/-- A verbosity is written by its name, in any case, or by its number. -/
def ofText? (text : String) : Option Verbosity :=
  match Text.Numeral.unsigned? Text.Numeral.max64 text.toList with
  | some number => all[number]?
  | none => all.find? fun verbosity => verbosity.name = text.map Char.toLower

end Verbosity

/-- How much is shown of the parts whose name starts with the target. -/
structure Directive where
  target : String := ""
  verbosity : Verbosity
deriving DecidableEq, Repr

namespace Directive

def covers (directive : Directive) (target : String) : Bool :=
  directive.target.toList.isPrefixOf target.toList

/-- A directive starts with a letter, a digit, or one of a few marks. -/
def isStart (c : Char) : Bool :=
  Text.isAlphanumeric c || c ∈ ['-', ':', '_']

/-- Reads a verbosity, a target, or a target with its verbosity after an equals sign. A
target alone is shown in full. -/
def ofChars? (text : List Char) : Option Directive :=
  let target := String.ofList (text.takeWhile (· ≠ '='))
  if text.head?.all fun c => !isStart c then none
  else
    match text.dropWhile (· ≠ '=') with
    | [] =>
      match Verbosity.ofText? target with
      | some verbosity => some { verbosity }
      | none => some { target, verbosity := .trace }
    | [_] => some { target, verbosity := .trace }
    | _ :: verbosity =>
      (Verbosity.ofText? (String.ofList verbosity)).map fun verbosity => { target, verbosity }

end Directive

/-- The directives of a filter; of two with the same target the last counts. -/
abbrev Filter := List Directive

namespace Filter

/-- The program's own messages from `info` on. -/
def default : Filter := [{ target := "pgschema", verbosity := .info }]

/-- What holds where no directive is given. -/
def empty : Filter := [{ verbosity := .error }]

/-- Reads directives that are separated by commas; all must be well-formed. -/
def ofText? (text : String) : Option Filter :=
  let parts := (text.splitOn ",").filter (· ≠ "")
  if parts = [] then some empty
  else
    parts.mapM fun part => Directive.ofChars? (Text.trimStart (Text.trimEnd part.toList))

/-- The filter that a setting asks for.  Without one, or with one that is malformed, the
default holds. -/
def ofSetting (setting : Option String) : Filter :=
  (setting.bind ofText?).getD default

/-- The directive that decides about a target. -/
def deciding? (filter : Filter) (target : String) : Option Directive :=
  filter.foldl
    (fun best directive =>
      if !directive.covers target then best
      else match best with
        | none => some directive
        | some other =>
          if directive.target.length < other.target.length then best else some directive)
    none

def shows (filter : Filter) (event : Event) : Bool :=
  (filter.deciding? event.target).any fun directive => directive.verbosity.shows event.level

end Filter

/-- The lines that a filter leaves of a log. -/
def lines (filter : Filter) (events : List Event) : List String :=
  (events.filter filter.shows).filterMap line?

end Log

end Schemata
