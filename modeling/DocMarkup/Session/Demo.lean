import DocMarkup.Comment.Record
import DocMarkup.Json.Printer
import DocMarkup.Session.Basic
import DocMarkup.TypeExpr.Table

/-!
A short demonstration: read a comment, summarize another, and format a function type.
-/

namespace DocMarkup.Demo

/-- A method that takes a text and an optional text and gives a truth value. -/
def signature : Vector (Shape (Fin 7)) 7 := #v[
  .function {
    parameters := [{ type := 1 }, { type := 2, optional := true }]
    result := some 5
    context := some 6 },
  .primitive .string,
  .union [3, 4],
  .primitive .string,
  .primitive .void,
  .primitive .boolean,
  .instanceOf "goog.ui.Widget"]

def graph : TypeGraph (Fin 7) := .ofVector signature

def text : String :=
  "Renders a \x7b@link goog.ui.Widget widget\x7d into \x7b@code element\x7d. " ++
  "See \x7b@link goog.ui.Menu\x7d for menus."

/-- Run the demonstration with the shared settings. -/
def run : Use Unit := do
  Use.configureFrom (← Use.sharedSettings)
  let resolver := (← Use.registry [("goog.ui.Widget", some "class")]).resolver
  let settings ← Use.loadWithoutFile []
  let comment ← Use.readComment resolver settings text
  Use.printLine ((CommentRecord.ofComment comment).toJson true).indented
  let summary ← Use.readComment resolver settings (firstSentence "Configures the widget. See docs.")
  Use.printLine summary.text
  let resolved ← Use.formatType resolver .resolved graph (some 0)
  Use.printLine resolved.text
  let declared ← Use.formatType resolver .declared graph (some 0)
  Use.printLine declared.text

end DocMarkup.Demo
