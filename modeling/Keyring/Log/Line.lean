import Keyring.Log.Filter

/-!
# Log lines

A line shows the level at a width of five, the target, the message and each
field as a name and a value.
-/

namespace Keyring
namespace Log

def storeTarget : String := "credcache_core::cache::store"

def defaultFilter : String := "credcache_core=info"

def levelColumn (level : Level) : String :=
  String.ofList (List.replicate (5 - level.name.length) ' ') ++ level.name

def fieldText : FieldValue → String
  | .text value => value
  | .count value => toString value
  | .flag value => if value then "true" else "false"

def line (target : String) (event : Event) : String :=
  levelColumn event.level ++ " " ++ target ++ ": " ++ event.message ++
    String.join (event.fields.map fun field => " " ++ field.1 ++ "=" ++ fieldText field.2)

/-- The lines of the events that a filter lets pass. -/
def lines (filter : Filter) (target : String) (events : List Event) : List String :=
  (events.filter (filter.allows target)).map (line target)

/-- The process has one log.  Only the first to install a filter succeeds. -/
structure Sink where
  installed : Option Filter := none

namespace Sink

def install (sink : Sink) (filter : Filter) : Sink × Bool :=
  match sink.installed with
  | none => (⟨some filter⟩, true)
  | some _ => (sink, false)

def lines (sink : Sink) (target : String) (events : List Event) : List String :=
  match sink.installed with
  | none => []
  | some filter => Log.lines filter target events

end Sink
end Log
end Keyring
