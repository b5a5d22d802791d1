import DocMarkup.Proofs.TypeExpr.Piece
import DocMarkup.Proofs.TypeExpr.Walk
import DocMarkup.TypeExpr.Render

/-!
The layouts of types, and that rendering a type writes its layout (`TypeGraph.renderAt_eq_write`).
The lookups that a rendering makes between its pieces never decide what is written next.
-/

namespace DocMarkup

variable {ι : Type}

namespace TypeGraph

/-! ## Layouts of types -/

def layoutRecord (sub : ι → Layout) (fieldName : String → String) (fields : List (Field ι)) :
    Layout :=
  .enclosed "\x7b" ", " "\x7d" <| fields.map fun f =>
    .text (fieldName f.name ++ ": ") ::
      match f.type with
      | some type => sub type
      | none => [.text "?"]

def layoutTemplatized (sub : ι → Layout) (base : ι) (arguments : List ι) : Layout :=
  sub base ++ .enclosed "<" ", " ">" (arguments.map sub)

def layoutAlternates (sub : ι → Layout) (alternates : List ι) : Layout :=
  .enclosed "(" "|" ")" (alternates.map sub)

def layoutShown (sub : ι → Layout) : List ι → Layout
  | [x] => sub x
  | alternates => layoutAlternates sub alternates

def layoutParameter (type : Layout) (p : Parameter ι) : Layout :=
  (if p.variadic then [.text "..."] else []) ++ type ++ (if p.optional then [.text "="] else [])

def layoutContext (sub : ι → Layout) (s : Signature ι) (context : ι) : Layout :=
  .text s.contextLabel :: sub context

/-- A function: its context, if it has one, stands before its parameters like a parameter. -/
def layoutFunction (sub : ι → Layout) (s : Signature ι) (context : Option ι)
    (parameters : List Layout) : Layout :=
  .enclosed "function(" ", " ")" ((context.map (layoutContext sub s)).toList ++ parameters) ++
    match s.result with
    | some type => .text ": " :: sub type
    | none => []

variable [DecidableEq ι]

def layoutDeclared (g : TypeGraph ι) (sub : ι → Layout) (x : ι) : Layout :=
  match g.shape x with
  | .primitive .void => [.text "void"]
  | .primitive kind => [if kind.isNative then .name .anywhere kind.name else .text kind.name]
  | .named name => [.name .anywhere name]
  | .instanceOf name => [.name .anywhere name]
  | .enumElement name _ => [.name .anywhere name]
  | .template name => [.name .anywhere name]
  | .nullable operand => .text "?" :: sub operand
  | .nonNullable operand => .text "!" :: sub operand
  | .union alternates => layoutAlternates sub alternates
  | .record fields => layoutRecord sub unquotedName fields
  | .templatized base arguments => layoutTemplatized sub base arguments
  | .function f =>
    if f.isBare then [.name .anywhere "Function"]
    else layoutFunction sub f f.context (f.parameters.map fun p => layoutParameter (sub p.type) p)
  | .noType => [.fail (.placeholder (g.shape x).className)]
  | .noObject => [.fail (.placeholder (g.shape x).className)]
  | .stray _ => [.fail (.stray (g.display x))]

def layoutUnion (g : TypeGraph ι) (path : List ι) (sub : ι → Layout) (withoutVoid : Bool) (u : ι) :
    Layout :=
  let flat := g.flatten (u :: path) u
  let kept := g.keptAlternates withoutVoid flat.alternates
  (if kept.length ≠ flat.alternates.length then
      [.note (.simplified flat.alternates.length kept.length)]
    else []) ++
  (if flat.nullable then [.text "?"] else []) ++
  layoutShown sub (if kept.isEmpty then flat.alternates else kept)

def layoutParameterType (g : TypeGraph ι) (path : List ι) (sub : ι → Layout) (p : Parameter ι) :
    Layout :=
  if g.isUnion p.type then g.layoutUnion path sub p.optional p.type else sub p.type

def layoutResolved (g : TypeGraph ι) (path : List ι) (sub : ι → Layout) (x : ι) : Layout :=
  match g.shape x with
  | .primitive kind => [if kind.isNative then .name .required kind.name else .text kind.name]
  | .named name => [.name .documented name]
  | .instanceOf name => [.name .anywhere name]
  | .enumElement _ underlying => sub underlying
  | .template name => [.text name]
  | .nullable operand => (if g.isNullable operand then [] else [.text "?"]) ++ sub operand
  | .nonNullable operand => sub operand
  | .union _ => g.layoutUnion path sub false x
  | .record fields => layoutRecord sub id fields
  | .templatized base arguments => layoutTemplatized sub base arguments
  | .function f =>
    if f.isBare then [.text "Function"]
    else
      layoutFunction sub f (g.shownContext f)
        (f.parameters.map fun p => layoutParameter (g.layoutParameterType path sub p) p)
  | .noType => [.fail (.placeholder (g.shape x).className)]
  | .noObject => [.fail (.placeholder (g.shape x).className)]
  | .stray _ => [.fail (.stray (g.display x))]

def layoutAgain (g : TypeGraph ι) (x : ι) : Layout :=
  [.note (.recursion (g.shape x).className), .text "?"]

def layoutNode (g : TypeGraph ι) (mode : Mode) (path : List ι) (sub : ι → Layout) (x : ι) :
    Layout :=
  match mode with
  | .resolved => g.layoutResolved path sub x
  | .declared => g.layoutDeclared sub x

def layoutVia (g : TypeGraph ι) (mode : Mode) (visit : ι → Layout) (x : ι) : Layout :=
  match g.standIn? mode x with
  | some y => visit y
  | none => [.fail .endless]

/-- The layout of a node that is entered from a path. -/
def layoutFrom (g : TypeGraph ι) (mode : Mode) : List ι → ι → Layout :=
  g.walk g.layoutAgain fun path visit => g.layoutNode mode path (g.layoutVia mode visit)

/-- The layout of a type that is met on a path. -/
def layoutAt (g : TypeGraph ι) (mode : Mode) (path : List ι) : ι → Layout :=
  g.layoutVia mode (g.layoutFrom mode path)

def layout (g : TypeGraph ι) (mode : Mode) (x : ι) : Layout := g.layoutAt mode [] x

theorem layoutFrom_of_mem (g : TypeGraph ι) {mode : Mode} {path : List ι} {x : ι} (hx : x ∈ path) :
    g.layoutFrom mode path x = g.layoutAgain x :=
  g.walk_of_mem hx

theorem layoutFrom_of_not_mem (g : TypeGraph ι) {mode : Mode} {path : List ι} {x : ι}
    (hx : x ∉ path) :
    g.layoutFrom mode path x = g.layoutNode mode (x :: path) (g.layoutAt mode (x :: path)) x :=
  g.walk_of_not_mem hx

theorem layoutAt_of_standIn (g : TypeGraph ι) {mode : Mode} {path : List ι} {x y : ι}
    (hy : g.standIn? mode x = some y) : g.layoutAt mode path x = g.layoutFrom mode path y := by
  simp [layoutAt, layoutVia, hy]

/-! ## Rendering writes the layout -/

open Rendering Layout

omit [DecidableEq ι]

theorem write_layoutRecord (sub : ι → Layout) (fieldName : String → String)
    (fields : List (Field ι)) :
    write (layoutRecord sub fieldName fields) =
      renderRecord (fun x => write (sub x)) fieldName fields := by
  rw [layoutRecord, write_enclosed, renderRecord, List.map_map]
  refine congrArg (fun parts => do
    Rendering.text "\x7b"
    Rendering.separated ", " true parts
    Rendering.text "\x7d") (List.map_congr_left ?_)
  intro f _
  cases hf : f.type with
  | some type => simp [hf, Piece.write]
  | none => simp [hf, Piece.write]

theorem write_layoutTemplatized (sub : ι → Layout) (base : ι) (arguments : List ι) :
    write (layoutTemplatized sub base arguments) =
      renderTemplatized (fun x => write (sub x)) base arguments := by
  rw [layoutTemplatized, write_append, write_enclosed, renderTemplatized, List.map_map,
    Function.comp_def]

theorem write_layoutAlternates (sub : ι → Layout) (alternates : List ι) :
    write (layoutAlternates sub alternates) =
      renderAlternates (fun x => write (sub x)) alternates := by
  rw [layoutAlternates, write_enclosed, renderAlternates, List.map_map, Function.comp_def]

theorem write_layoutShown (sub : ι → Layout) (alternates : List ι) :
    write (layoutShown sub alternates) = renderShown (fun x => write (sub x)) alternates := by
  match alternates with
  | [] => exact write_layoutAlternates sub []
  | [x] => rfl
  | x :: y :: alternates => exact write_layoutAlternates sub (x :: y :: alternates)

theorem write_layoutParameter (type : Layout) (p : Parameter ι) :
    write (layoutParameter type p) = renderParameter (write type) p := by
  cases hv : p.variadic <;> cases ho : p.optional <;>
    simp [layoutParameter, renderParameter, hv, ho, Piece.write]

theorem write_result (sub : ι → Layout) (result : Option ι) :
    write (match result with
      | some type => .text ": " :: sub type
      | none => []) = renderResult (fun x => write (sub x)) result := by
  cases result <;> simp [renderResult, Piece.write]

theorem write_layoutContext (sub : ι → Layout) (f : Signature ι) (context : ι) :
    write (layoutContext sub f context) = (do
      Rendering.text f.contextLabel
      write (sub context)) := by
  simp [layoutContext, Piece.write]

theorem write_layoutFunction_declared (sub : ι → Layout) (f : Signature ι) :
    write
      (layoutFunction sub f f.context (f.parameters.map fun p => layoutParameter (sub p.type) p)) =
      renderDeclaredFunction (fun x => write (sub x)) f := by
  rw [layoutFunction, write_append, write_enclosed, write_result, renderDeclaredFunction]
  cases f.context with
  | none => simp [Function.comp_def, write_layoutParameter]
  | some context =>
      simp [Function.comp_def, write_layoutParameter, write_layoutContext, Rendering.separated]

variable [DecidableEq ι]

theorem write_layoutDeclared (g : TypeGraph ι) (sub : ι → Layout) (x : ι) :
    write (g.layoutDeclared sub x) = g.renderDeclared (fun y => write (sub y)) x := by
  unfold layoutDeclared renderDeclared
  cases hx : g.shape x with
  | primitive kind => cases kind <;> simp [Piece.write, PrimitiveKind.isNative]
  | named name => simp [Piece.write]
  | instanceOf name => simp [Piece.write]
  | enumElement name underlying => simp [Piece.write]
  | template name => simp [Piece.write]
  | nullable operand => simp [Piece.write]
  | nonNullable operand => simp [Piece.write]
  | union alternates => exact write_layoutAlternates sub alternates
  | record fields => exact write_layoutRecord sub unquotedName fields
  | templatized base arguments => exact write_layoutTemplatized sub base arguments
  | function f =>
      by_cases hbare : f.isBare
      · simp [hbare, Piece.write]
      · simp only [hbare]
        exact write_layoutFunction_declared sub f
  | noType => simp [Piece.write]
  | noObject => simp [Piece.write]
  | stray s => simp [Piece.write]

theorem write_layoutUnion (g : TypeGraph ι) (path : List ι) (sub : ι → Layout) (withoutVoid : Bool)
    (u : ι) :
    write (g.layoutUnion path sub withoutVoid u) =
      g.renderUnion path (fun y => write (sub y)) withoutVoid u := by
  simp only [layoutUnion, renderUnion, write_append, write_layoutShown, bind_assoc]
  split <;> split <;> simp [Piece.write]

theorem write_layoutParameterType (g : TypeGraph ι) (path : List ι) (sub : ι → Layout)
    (p : Parameter ι) :
    write (g.layoutParameterType path sub p) =
      g.renderParameterType path (fun y => write (sub y)) p := by
  unfold layoutParameterType renderParameterType
  split
  · exact g.write_layoutUnion path sub p.optional p.type
  · rfl

theorem write_layoutFunction_resolved (g : TypeGraph ι) (path : List ι) (sub : ι → Layout)
    (f : Signature ι) :
    write (layoutFunction sub f (g.shownContext f)
      (f.parameters.map fun p => layoutParameter (g.layoutParameterType path sub p) p)) =
      g.renderResolvedFunction path (fun x => write (sub x)) f := by
  rw [layoutFunction, write_append, write_enclosed, write_result, renderResolvedFunction]
  cases g.shownContext f with
  | none => simp [Function.comp_def, write_layoutParameter, write_layoutParameterType]
  | some context =>
      -- the separator after the context is written with the context, and not with the first
      -- parameter
      cases f.parameters with
      | nil => simp [write_layoutContext, Rendering.separated]
      | cons p parameters =>
          simp [Function.comp_def, write_layoutParameter, write_layoutParameterType,
            write_layoutContext, Rendering.separated]

theorem write_layoutResolved (g : TypeGraph ι) (path : List ι) (sub : ι → Layout) (x : ι) :
    write (g.layoutResolved path sub x) = g.renderResolved path (fun y => write (sub y)) x := by
  unfold layoutResolved renderResolved
  cases hx : g.shape x with
  | primitive kind => cases kind <;> simp [Piece.write, PrimitiveKind.isNative]
  | named name => simp [Piece.write]
  | instanceOf name => simp [Piece.write]
  | enumElement name underlying => rfl
  | template name => simp [Piece.write]
  | nullable operand => cases hn : g.isNullable operand <;> simp [Piece.write, hn]
  | nonNullable operand => rfl
  | union alternates => exact g.write_layoutUnion path sub false x
  | record fields => exact write_layoutRecord sub id fields
  | templatized base arguments => exact write_layoutTemplatized sub base arguments
  | function f =>
      by_cases hbare : f.isBare
      · simp [hbare, Piece.write]
      · simp only [hbare]
        exact g.write_layoutFunction_resolved path sub f
  | noType => simp [Piece.write]
  | noObject => simp [Piece.write]
  | stray s => simp [Piece.write]

theorem write_layoutNode (g : TypeGraph ι) (mode : Mode) (path : List ι) (sub : ι → Layout)
    (x : ι) :
    write (g.layoutNode mode path sub x) = g.renderNode mode path (fun y => write (sub y)) x := by
  cases mode with
  | resolved => exact g.write_layoutResolved path sub x
  | declared => exact g.write_layoutDeclared sub x

theorem write_layoutVia (g : TypeGraph ι) (mode : Mode) (visit : ι → Layout) (x : ι) :
    write (g.layoutVia mode visit x) = g.renderVia mode (fun y => write (visit y)) x := by
  unfold layoutVia renderVia
  cases g.standIn? mode x with
  | some y => rfl
  | none => simp [Piece.write]

/-- Rendering a type writes its layout. -/
theorem renderAt_eq_write (g : TypeGraph ι) (mode : Mode) (path : List ι) (x : ι) :
    g.renderAt mode path x = write (g.layoutAt mode path x) := by
  rw [renderAt, layoutAt, write_layoutVia]
  congr 1
  funext y
  refine (g.map_walk write ?_ ?_ path y).symm
  · intro z
    simp [layoutAgain, renderAgain, Piece.write]
  · intro path visit z
    rw [write_layoutNode]
    congr 1
    funext w
    exact g.write_layoutVia mode visit w

end TypeGraph

end DocMarkup
