import DocMarkup.Log.Record

/-!
Link resolvers answer where a name is documented. What is asked of a resolver, and what it reports
while answering, is kept as a list of events in the order in which they happen.
-/

namespace DocMarkup

/-- Where a name is looked up: among the documented names or among external references. -/
inductive Scope where
  | documented
  | external
  deriving DecidableEq

inductive Event where
  | asked (scope : Scope) (name : String)
  | logged (record : LogRecord)
  deriving DecidableEq

structure LinkResolver where
  /-- The page of a documented name. -/
  resolve : String → Option String
  /-- The page of an external name. -/
  resolveExternal : String → Option String
  /-- What is reported while a documented name is looked up. -/
  remarks : String → List LogRecord := fun _ => []

namespace LinkResolver

/-- The resolver given by two lists of names and pages. -/
def ofLists (links externs : List (String × String)) : LinkResolver where
  resolve name := links.lookup name
  resolveExternal name := externs.lookup name

/-- The events of looking a documented name up. -/
def resolveEvents (r : LinkResolver) (name : String) : List Event :=
  .asked .documented name :: (r.remarks name).map .logged

/-- The events of looking an external name up. -/
def externalEvents (name : String) : List Event :=
  [.asked .external name]

end LinkResolver

namespace Event

/-- The records among the events. -/
def records (events : List Event) : List LogRecord :=
  events.filterMap fun
    | .logged record => some record
    | .asked _ _ => none

/-- The lookups among the events. -/
def lookups (events : List Event) : List (Scope × String) :=
  events.filterMap fun
    | .asked scope name => some (scope, name)
    | .logged _ => none

end Event

end DocMarkup
