import DocMarkup.Proofs.TypeExpr.Wording
import Mathlib.Data.List.Basic

/-!
Brackets in what is shown of types. A text is read with the brackets that are still to be closed,
the innermost first (`Brackets.closes`). A part of a text that leaves these as they are is neutral,
whatever stands around it; layouts are made of neutral parts, since every bracket is written with
its partner. Main statement: if the names in a graph have no brackets, the brackets of every
formatted type are balanced and properly nested (`TypeGraph.isNested_of_format`).
-/

namespace DocMarkup

/-! ## Reading brackets -/

namespace Brackets

/-- The bracket that closes an opening one. -/
def partner? : Char → Option Char
  | '(' => some ')'
  | '\x7b' => some '\x7d'
  | '<' => some '>'
  | _ => none

def isClosing (c : Char) : Bool := c == ')' || c == '\x7d' || c == '>'

/-- Whether the rest of a text closes the brackets that are due, the innermost first, and all those
that it opens. A closing bracket has to be the one that is due next. -/
def closes (due : List Char) : List Char → Bool
  | [] => due.isEmpty
  | c :: rest =>
    match partner? c with
    | some d => closes (d :: due) rest
    | none => if isClosing c then due.head? == some c && closes due.tail rest else closes due rest

/-- The brackets of a text are balanced and properly nested. -/
def isNested (text : String) : Bool := closes [] text.toList

def isBracket (c : Char) : Bool := (partner? c).isSome || isClosing c

/-- A text without brackets. -/
def isPlain (text : String) : Bool := text.toList.all fun c => !isBracket c

theorem isPlain_iff {text : String} :
    isPlain text = true ↔ ∀ c ∈ text.toList, isBracket c = false := by
  simp [isPlain]

theorem isPlain_append (s t : String) : isPlain (s ++ t) = (isPlain s && isPlain t) := by
  rw [isPlain, String.toList_append, List.all_append, isPlain, isPlain]

example : isNested "(a<b)>" = false := by decide

/-! ## Neutral texts -/

/-- A text that closes all brackets it opens and no others, so that the same are due after it as
before it. -/
def Neutral (text : List Char) : Prop := ∀ due rest, closes due (text ++ rest) = closes due rest

theorem Neutral.nil : Neutral [] := fun _ _ => rfl

theorem Neutral.append {s t : List Char} (hs : Neutral s) (ht : Neutral t) : Neutral (s ++ t) := by
  intro due rest
  rw [List.append_assoc, hs, ht]

theorem Neutral.of_plain {text : List Char} (h : ∀ c ∈ text, isBracket c = false) :
    Neutral text := by
  induction text with
  | nil => exact .nil
  | cons c text ih =>
      obtain ⟨hc, htext⟩ := List.forall_mem_cons.1 h
      simp only [isBracket, Bool.or_eq_false_iff, Option.isSome_eq_false_iff,
        Option.isNone_iff_eq_none] at hc
      intro due rest
      rw [List.cons_append, closes, hc.1, hc.2]
      exact ih htext due rest

theorem of_partner? {c d : Char} (h : partner? c = some d) :
    partner? d = none ∧ isClosing d = true := by
  unfold partner? at h
  split at h
  · cases h
    decide
  · cases h
    decide
  · cases h
    decide
  · cases h

/-- A bracket, a neutral text and the partner of the bracket are neutral together. -/
theorem Neutral.pair {c d : Char} {text : List Char} (hcd : partner? c = some d)
    (h : Neutral text) :
    Neutral (c :: text ++ [d]) := by
  obtain ⟨hnone, hclosing⟩ := of_partner? hcd
  intro due rest
  calc closes due ((c :: text ++ [d]) ++ rest)
      = closes (d :: due) (text ++ d :: rest) := by simp [closes, hcd]
    _ = closes (d :: due) (d :: rest) := h _ _
    _ = closes due rest := by simp [closes, hnone, hclosing]

theorem Neutral.isNested {text : String} (h : Neutral text.toList) : isNested text = true := by
  have hclosed := h [] []
  rw [List.append_nil] at hclosed
  exact hclosed

end Brackets

/-! ## Neutral layouts -/

namespace Layout

open Brackets

/-- What a layout shows is neutral. -/
def IsNeutral (l : Layout) : Prop := Neutral l.wording.toList

namespace IsNeutral

variable {l l' : Layout} {parts : List Layout}

theorem nil : IsNeutral [] := Neutral.nil

theorem append (h : IsNeutral l) (h' : IsNeutral l') : IsNeutral (l ++ l') := by
  rw [IsNeutral, wording_append, String.toList_append]
  exact Neutral.append h h'

theorem cons {p : Piece} (hp : isPlain p.wording = true) (h : IsNeutral l) :
    IsNeutral (p :: l) := by
  rw [IsNeutral, wording_cons, String.toList_append]
  exact Neutral.append (.of_plain (isPlain_iff.1 hp)) h

theorem single {p : Piece} (hp : isPlain p.wording = true) : IsNeutral [p] := cons hp nil

theorem ite {p : Prop} [Decidable p] (h : IsNeutral l) (h' : IsNeutral l') :
    IsNeutral (if p then l else l') := by
  split
  · exact h
  · exact h'

theorem separated {separator : String} (hseparator : isPlain separator = true)
    (h : ∀ part ∈ parts, IsNeutral part) :
    IsNeutral (separated separator parts) := by
  cases parts with
  | nil => exact nil
  | cons part parts =>
      obtain ⟨hpart, hparts⟩ := List.forall_mem_cons.1 h
      rw [separated_cons]
      refine hpart.append ?_
      clear hpart h
      induction parts with
      | nil => exact nil
      | cons next parts ih =>
          obtain ⟨hnext, hparts⟩ := List.forall_mem_cons.1 hparts
          rw [List.flatMap_cons]
          exact (cons (p := .text separator) hseparator hnext).append (ih hparts)

/-- Parts between brackets are neutral; a word may stand before the first bracket. -/
theorem enclosed {left separator right : String} (word : String) {c d : Char}
    (hleft : left.toList = word.toList ++ [c]) (hright : right.toList = [d])
    (hcd : partner? c = some d) (hword : isPlain word = true)
    (hseparator : isPlain separator = true) (h : ∀ part ∈ parts, IsNeutral part) :
    IsNeutral (enclosed left separator right parts) := by
  have hinner : Neutral (Layout.separated separator parts).wording.toList := separated hseparator h
  have hwording : (Layout.enclosed left separator right parts).wording.toList =
      word.toList ++ (c :: (Layout.separated separator parts).wording.toList ++ [d]) := by
    rw [Layout.enclosed, List.cons_append, wording_cons, wording_append, wording_cons,
      Piece.wording, Piece.wording]
    simp [wording, hleft, hright]
  rw [IsNeutral, hwording]
  exact (Neutral.of_plain (isPlain_iff.1 hword)).append (hinner.pair hcd)

end IsNeutral

end Layout

/-! ## Types -/

/-- The names that can be shown of a type. -/
def Shape.names {ι : Type} : Shape ι → List String
  | .named name => [name]
  | .instanceOf name => [name]
  | .enumElement name _ => [name]
  | .template name => [name]
  | .record fields => fields.map (·.name)
  | _ => []

namespace TypeGraph

open Brackets Layout

variable {ι : Type} {g : TypeGraph ι} {sub : ι → Layout} {x : ι}

/-- No name has a bracket in it. -/
def HasPlainNames (g : TypeGraph ι) : Prop := ∀ x, ∀ name ∈ (g.shape x).names, isPlain name = true

theorem isPlain_unquotedName {name : String} (h : isPlain name = true) :
    isPlain (unquotedName name) = true := by
  unfold unquotedName
  split
  · rename_i first c cs hname
    split
    · rw [isPlain_iff, hname] at h
      rw [isPlain_iff, String.toList_ofList]
      exact fun a ha => h a (List.mem_cons_of_mem first (List.dropLast_subset _ ha))
    · exact h
  · exact h

section Parts

variable (hsub : ∀ y, IsNeutral (sub y))

include hsub

theorem isNeutral_layoutRecord {fieldName : String → String} {fields : List (Field ι)}
    (hfields : ∀ f ∈ fields, isPlain (fieldName f.name) = true) :
    IsNeutral (layoutRecord sub fieldName fields) := by
  refine .enclosed "" rfl rfl rfl rfl rfl fun part hpart => ?_
  obtain ⟨f, hf, rfl⟩ := List.mem_map.1 hpart
  have hname : isPlain (fieldName f.name ++ ": ") = true := by
    rw [isPlain_append, hfields f hf]
    rfl
  refine .cons hname ?_
  cases f.type with
  | some type => exact hsub type
  | none => exact .single rfl

theorem isNeutral_layoutAlternates (alternates : List ι) :
    IsNeutral (layoutAlternates sub alternates) := by
  refine .enclosed "" rfl rfl rfl rfl rfl fun part hpart => ?_
  obtain ⟨y, _, rfl⟩ := List.mem_map.1 hpart
  exact hsub y

theorem isNeutral_layoutTemplatized (base : ι) (arguments : List ι) :
    IsNeutral (layoutTemplatized sub base arguments) := by
  refine (hsub base).append (.enclosed "" rfl rfl rfl rfl rfl fun part hpart => ?_)
  obtain ⟨y, _, rfl⟩ := List.mem_map.1 hpart
  exact hsub y

theorem isNeutral_layoutShown (alternates : List ι) : IsNeutral (layoutShown sub alternates) := by
  match alternates with
  | [] => exact isNeutral_layoutAlternates hsub []
  | [y] => exact hsub y
  | y :: z :: alternates => exact isNeutral_layoutAlternates hsub (y :: z :: alternates)

omit hsub in
theorem isNeutral_layoutParameter {type : Layout} (htype : IsNeutral type) (p : Parameter ι) :
    IsNeutral (layoutParameter type p) := by
  exact .append (.append (.ite (.single rfl) .nil) htype) (.ite (.single rfl) .nil)

theorem isNeutral_layoutFunction (s : Signature ι) (context : Option ι) {parameters : List Layout}
    (hparameters : ∀ part ∈ parameters, IsNeutral part) :
    IsNeutral (layoutFunction sub s context parameters) := by
  have hlabel : isPlain s.contextLabel = true := by
    unfold Signature.contextLabel
    split <;> rfl
  refine .append (.enclosed "function" rfl rfl rfl rfl rfl fun part hpart => ?_) ?_
  · rcases List.mem_append.1 hpart with hpart | hpart
    · cases context with
      | none => simp at hpart
      | some y =>
          obtain rfl := List.mem_singleton.1 hpart
          exact .cons hlabel (hsub y)
    · exact hparameters part hpart
  · cases s.result with
    | some y => exact .cons rfl (hsub y)
    | none => exact .nil

variable [DecidableEq ι]

theorem isNeutral_layoutUnion (path : List ι) (withoutVoid : Bool) (u : ι) :
    IsNeutral (g.layoutUnion path sub withoutVoid u) := by
  exact .append (.append (.ite (.single rfl) .nil) (.ite (.single rfl) .nil))
    (isNeutral_layoutShown hsub _)

theorem isNeutral_layoutParameterType (path : List ι) (p : Parameter ι) :
    IsNeutral (g.layoutParameterType path sub p) := by
  unfold layoutParameterType
  split
  · exact isNeutral_layoutUnion hsub path _ _
  · exact hsub _

theorem isNeutral_layoutDeclared (hnames : g.HasPlainNames) (x : ι) :
    IsNeutral (g.layoutDeclared sub x) := by
  have hname := hnames x
  unfold layoutDeclared
  cases hx : g.shape x with
  | primitive kind => cases kind <;> exact .single rfl
  | named name => exact .single (hname name (by simp [hx, Shape.names]))
  | instanceOf name => exact .single (hname name (by simp [hx, Shape.names]))
  | enumElement name underlying => exact .single (hname name (by simp [hx, Shape.names]))
  | template name => exact .single (hname name (by simp [hx, Shape.names]))
  | nullable operand => exact .cons rfl (hsub operand)
  | nonNullable operand => exact .cons rfl (hsub operand)
  | union alternates => exact isNeutral_layoutAlternates hsub alternates
  | record fields =>
      refine isNeutral_layoutRecord hsub fun f hf => isPlain_unquotedName (hname f.name ?_)
      simpa [hx, Shape.names] using ⟨f, hf, rfl⟩
  | templatized base arguments => exact isNeutral_layoutTemplatized hsub base arguments
  | function f =>
      dsimp only
      split
      · exact .single rfl
      · refine isNeutral_layoutFunction hsub f _ fun part hpart => ?_
        obtain ⟨p, _, rfl⟩ := List.mem_map.1 hpart
        exact isNeutral_layoutParameter (hsub p.type) p
  | noType => exact .single rfl
  | noObject => exact .single rfl
  | stray s => exact .single rfl

theorem isNeutral_layoutResolved (hnames : g.HasPlainNames) (path : List ι) (x : ι) :
    IsNeutral (g.layoutResolved path sub x) := by
  have hname := hnames x
  unfold layoutResolved
  cases hx : g.shape x with
  | primitive kind => cases kind <;> exact .single rfl
  | named name => exact .single (hname name (by simp [hx, Shape.names]))
  | instanceOf name => exact .single (hname name (by simp [hx, Shape.names]))
  | enumElement name underlying => exact hsub underlying
  | template name => exact .single (hname name (by simp [hx, Shape.names]))
  | nullable operand => exact .append (.ite .nil (.single rfl)) (hsub operand)
  | nonNullable operand => exact hsub operand
  | union alternates => exact isNeutral_layoutUnion hsub path false x
  | record fields =>
      refine isNeutral_layoutRecord hsub fun f hf => hname f.name ?_
      simpa [hx, Shape.names] using ⟨f, hf, rfl⟩
  | templatized base arguments => exact isNeutral_layoutTemplatized hsub base arguments
  | function f =>
      dsimp only
      split
      · exact .single rfl
      · refine isNeutral_layoutFunction hsub f _ fun part hpart => ?_
        obtain ⟨p, _, rfl⟩ := List.mem_map.1 hpart
        exact isNeutral_layoutParameter (isNeutral_layoutParameterType hsub path p) p
  | noType => exact .single rfl
  | noObject => exact .single rfl
  | stray s => exact .single rfl

end Parts

variable [DecidableEq ι]

theorem isNeutral_layoutVia (mode : Mode) {visit : ι → Layout} (hvisit : ∀ y, IsNeutral (visit y))
    (x : ι) :
    IsNeutral (g.layoutVia mode visit x) := by
  unfold layoutVia
  split
  · exact hvisit _
  · exact .single rfl

/-- What is shown of a type is neutral, also where a type that contains itself is cut short. -/
theorem isNeutral_layoutAt (hnames : g.HasPlainNames) (mode : Mode) (path : List ι) (x : ι) :
    IsNeutral (g.layoutAt mode path x) := by
  refine isNeutral_layoutVia mode (fun y => ?_) x
  induction path, y using g.path_induction with
  | again path y hmem =>
      rw [g.layoutFrom_of_mem hmem]
      exact .cons rfl (.single rfl)
  | enter path y hmem ih =>
      rw [g.layoutFrom_of_not_mem hmem]
      have hsub : ∀ z, IsNeutral (g.layoutAt mode (y :: path) z) := isNeutral_layoutVia mode ih
      cases mode with
      | resolved => exact isNeutral_layoutResolved hsub hnames _ y
      | declared => exact isNeutral_layoutDeclared hsub hnames y

/-- If no name has a bracket in it, the brackets of a formatted type are balanced and properly
nested. -/
theorem isNested_of_format (g : TypeGraph ι) (hnames : g.HasPlainNames) {mode : Mode}
    {r : LinkResolver} {root : Option ι} {c : Comment} (h : g.format mode r root = .ok c) :
    isNested c.text = true := by
  cases root with
  | none =>
      cases h
      rfl
  | some x =>
      rw [format_eq_comment] at h
      rw [(text_of_comment h).1]
      exact (isNeutral_layoutAt hnames mode [] x).isNested

/-- A record that contains itself, beside a function with a union and an applied type as parameters;
the function takes itself inside the union. -/
def callbacks : TypeGraph (Fin 12) where
  shape
    | 0 => .record [{ name := "'next'", type := some 0 }, { name := "call", type := some 1 },
        { name := "rest" }]
    | 1 =>
        .function
          { parameters := [{ type := 2, optional := true }, { type := 3, variadic := true }],
                       result := some 4, context := some 5 }
    | 2 => .union [6, 1, 7]
    | 3 => .templatized 8 [9, 2]
    | 4 => .nullable 10
    | 5 => .instanceOf "app.Target"
    | 6 => .nonNullable 5
    | 7 => .primitive .null
    | 8 => .named "Map"
    | 9 => .enumElement "app.Color" 11
    | 10 => .template "T"
    | 11 => .primitive .string
  nodes := List.finRange 12
  mem_nodes := List.mem_finRange

def callbackPages : LinkResolver := .ofLists [("Map", "map.html")] [("string", "string.html")]

theorem isNested_of_format_callbacks :
    callbacks.HasPlainNames ∧ ∃ c c', callbacks.format .resolved callbackPages (some 0) = .ok c ∧
      callbacks.format .declared callbackPages (some 0) = .ok c' ∧ isNested c.text = true ∧
      isNested c'.text = true := by
  have hnames : callbacks.HasPlainNames := by
    unfold HasPlainNames
    decide +kernel
  have hc : callbacks.format .resolved callbackPages (some 0) = .ok ⟨[
      { text := "\x7b'next': ?, call: function(this: app.Target, ?(app.Target|?)=, ...",
        style := .literal },
      { text := "Map", href := some "map.html" }, { text := "<", style := .literal },
      { text := "string", href := some "string.html" },
      { text := ", ?(app.Target|?)>): ?T, rest: ?\x7d", style := .literal }]⟩ := by decide +kernel
  have hc' : callbacks.format .declared callbackPages (some 0) = .ok ⟨[
      { text := "\x7bnext: ?, call: function(this: app.Target, (!app.Target|?|null)=, ...",
        style := .literal },
      { text := "Map", href := some "map.html" },
      { text := "<app.Color, (!app.Target|?|null)>): ?T, rest: ?\x7d",
        style := .literal }]⟩ := by decide +kernel
  exact ⟨hnames, _, _, hc, hc', isNested_of_format callbacks hnames hc,
    isNested_of_format callbacks hnames hc'⟩

end TypeGraph

end DocMarkup
