import DocMarkup.Session.Demo

/-!
The steps of a session and what they give.
-/

namespace DocMarkup

inductive SessionStep where
  | configure (level : String) (file : Option String)
  /-- Set the log up from settings: given ones, or the shared ones. -/
  | configureFrom (given : Option (List (String × Json)))
  | log (logger : String) (level : Level) (message : String)
  | setVariable (name value : String)
  | unsetVariable (name : String)
  | writeEnvFile (text : String)
  | forgetSettings
  | sharedSettings
  | newSettings (given : List (String × Json))
  | read (text : String) (given : List (String × Json))
  | summary (text : String)
  | format {size : Nat} (mode : Mode) (graph : TypeGraph (Fin size)) (type : Option (Fin size))
  | lookUp (kinds : List (String × Option String)) (name : String)
  | demo

inductive SessionResult where
  | nothing
  | settings (settings : Settings)
  | comment (comment : Comment)
  /-- The link to a documented name, and the page of it as an external name. -/
  | links (documented external : Option String)

namespace SessionStep

/-- Take a step, with a resolver for the session. -/
def run (r : LinkResolver) : SessionStep → Use SessionResult
  | .configure level file => do
    Use.configure level file
    return .nothing
  | .configureFrom given => do
    let settings ← match given with
      | some given => Use.loadWithoutFile given
      | none => Use.sharedSettings
    Use.configureFrom settings
    return .nothing
  | .log logger level message => do
    Use.report [⟨level, if logger.isEmpty then "root" else logger, message⟩]
    return .nothing
  | .setVariable name value => do
    Use.setVariable name value
    return .nothing
  | .unsetVariable name => do
    Use.modify fun s => { s with environment := s.environment.unset name }
    return .nothing
  | .writeEnvFile text => do
    Use.modify fun s => { s with envFile := some text }
    return .nothing
  | .forgetSettings => do
    Use.modify fun s => { s with shared := none }
    return .nothing
  | .sharedSettings => .settings <$> Use.sharedSettings
  | .newSettings given => .settings <$> Use.loadSettings given
  | .read text given => do
    let settings ← Use.loadWithoutFile given
    .comment <$> Use.readComment r settings text
  | .summary text => do
    let settings ← Use.loadWithoutFile []
    .comment <$> Use.readComment r settings (firstSentence text)
  | .format mode graph type => .comment <$> Use.formatType r mode graph type
  | .lookUp kinds name => do
    let registry ← Use.registry kinds
    Use.report (registry.remarks name)
    return .links (registry.resolve name) (registry.resolveExternal name)
  | .demo => do
    Demo.run
    return .nothing

end SessionStep

end DocMarkup
