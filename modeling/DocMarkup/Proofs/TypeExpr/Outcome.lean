import DocMarkup.Proofs.TypeExpr.Layout

/-!
What comes of a rendering. Writing a layout into a draft adds the tokens and the events of the
layout, whatever is in the draft (`Layout.outcome_write`); so formatting a type is turning its
layout into a comment (`TypeGraph.format_eq_comment`), with the events of the layout
(`TypeGraph.formatEvents_eq_events`).
-/

namespace DocMarkup

/-! ## Renderings from a draft on -/

namespace Rendering

/-- The tokens that a rendering gives when it goes on from a draft, and all that has happened
then. -/
def outcome (rendering : Rendering Unit) (r : LinkResolver) (d : Draft) :
    Except FormatError (List Token) × List Event :=
  ((rendering r d).1.map fun _ => (rendering r d).2.flush.tokens, (rendering r d).2.events)

theorem finish_eq_outcome (rendering : Rendering Unit) (r : LinkResolver) :
    rendering.finish r =
      ((outcome rendering r {}).1.map Comment.mk, (outcome rendering r {}).2) := by
  unfold finish outcome
  cases rendering r {} with
  | mk result draft => cases result <;> rfl

variable {first next : Rendering Unit} {r : LinkResolver} {d d' : Draft}

theorem outcome_bind_ok (h : first r d = (.ok (), d')) :
    outcome (do first; next) r d = outcome next r d' := by
  have hrun : (do first; next : Rendering Unit) r d = next r d' := by
    simp [bind, ReaderT.bind, ExceptT.bind, ExceptT.mk, StateT.bind, ExceptT.bindCont, h]
  rw [outcome, outcome, hrun]

theorem outcome_bind_error {e : FormatError} (h : first r d = (.error e, d')) :
    outcome (do first; next) r d = (.error e, d'.events) := by
  have hrun : (do first; next : Rendering Unit) r d = (.error e, d') := by
    simp [bind, ReaderT.bind, ExceptT.bind, ExceptT.mk, StateT.bind, ExceptT.bindCont, h]
    rfl
  rw [outcome, hrun]
  rfl

end Rendering

/-! ## Drafts -/

@[simp] theorem Draft.addEvents_pending (es : List Event) (d : Draft) :
    (d.addEvents es).pending = d.pending := rfl

@[simp] theorem Draft.addEvents_tokens (es : List Event) (d : Draft) :
    (d.addEvents es).tokens = d.tokens := rfl

@[simp] theorem Draft.addEvents_events (es : List Event) (d : Draft) :
    (d.addEvents es).events = d.events ++ es := rfl

theorem Draft.flush_tokens (d : Draft) :
    d.flush.tokens = d.tokens ++ Layout.runTokens d.pending := by
  unfold Draft.flush Layout.runTokens
  split <;> simp

@[simp] theorem Draft.addLink_tokens (n href : String) (d : Draft) :
    (d.addLink n href).tokens =
      d.tokens ++ Layout.runTokens d.pending ++ [{ text := n, href := some href }] := by
  rw [Draft.addLink, Draft.flush_tokens]

@[simp] theorem Draft.addLink_pending (n href : String) (d : Draft) :
    (d.addLink n href).pending = "" := by
  unfold Draft.addLink Draft.flush
  split <;> simp_all

@[simp] theorem Draft.addLink_events (n href : String) (d : Draft) :
    (d.addLink n href).events = d.events := by
  unfold Draft.addLink Draft.flush
  split <;> rfl

theorem Draft.addEvents_addEvents (es es' : List Event) (d : Draft) :
    (d.addEvents es).addEvents es' = d.addEvents (es ++ es') := by
  simp [Draft.addEvents]

/-! ## Pieces -/

theorem Rendering.linked_eq (n : String) (href : Option String) (r : LinkResolver) (d : Draft) :
    linked n href r d =
      match Policy.nonEmpty href with
      | some page => (.ok (), d.addLink n page)
      | none => (.ok (), d.addText n) := by
  rw [linked, Policy.usable_eq_nonEmpty]
  cases Policy.nonEmpty href <;> rfl

/-- What writing a name does to a draft. -/
theorem Piece.write_name (policy : Policy) (n : String) (r : LinkResolver) (d : Draft) :
    (Piece.name policy n).write r d =
      match policy.page? r n with
      | some href => (.ok (), (d.addEvents (policy.events r n)).addLink n href)
      | none =>
        if policy = .required then (.error (.missingExtern n), d.addEvents (policy.events r n))
        else (.ok (), (d.addEvents (policy.events r n)).addText n) := by
  cases policy with
  | documented =>
      have hrun : (Piece.name .documented n).write r d =
          Rendering.linked n (r.resolve n) r (d.addEvents (r.resolveEvents n)) := rfl
      rw [hrun, Rendering.linked_eq]
      rfl
  | anywhere =>
      have hrun : (Piece.name .anywhere n).write r d =
          (match Rendering.usable (r.resolve n) with
            | some href => Rendering.link n href
            | none => do Rendering.linked n (← Rendering.findExternal n)) r
            (d.addEvents (r.resolveEvents n)) := rfl
      rw [hrun, Policy.usable_eq_nonEmpty]
      cases hpage : Policy.nonEmpty (r.resolve n) with
      | some href =>
          simp only [Policy.page?, Policy.events, hpage, Option.some_or, Option.isSome_some,
            if_true, List.append_nil]
          rfl
      | none =>
          refine (Rendering.linked_eq n (r.resolveExternal n) r
            ((d.addEvents (r.resolveEvents n)).addEvents (LinkResolver.externalEvents n))).trans ?_
          rw [Draft.addEvents_addEvents]
          simp [Policy.page?, Policy.events, hpage]
  | required =>
      have hrun : (Piece.name .required n).write r d =
          (match r.resolveExternal n with
            | some href => Rendering.link n href
            | none => throw (FormatError.missingExtern n)) r
                (d.addEvents (LinkResolver.externalEvents n)) := rfl
      rw [hrun, Policy.page?, Policy.events]
      cases r.resolveExternal n with
      | some href => rfl
      | none => rfl

/-! ## Layouts -/

namespace Layout

open Rendering

/-- Writing a layout after what is in a draft adds the tokens and the events of the layout. -/
theorem outcome_write (l : Layout) (r : LinkResolver) (d : Draft) :
    outcome (write l) r d =
      ((tokens r d.pending l).map (d.tokens ++ ·), d.events ++ events r l) := by
  induction l generalizing d with
  | nil =>
      have hrun : (write [] : Rendering Unit) r d = (.ok (), d) := rfl
      simp [outcome, hrun, tokens, events, Except.map, Draft.flush_tokens]
  | cons p l ih =>
      rw [write_cons]
      cases p with
      | text t =>
          have hrun : (Piece.text t).write r d = (.ok (), d.addText t) := rfl
          rw [outcome_bind_ok hrun, ih]
          rfl
      | note n =>
          have hrun : (Piece.note n).write r d = (.ok (), d.addEvents [.logged n.record]) := rfl
          rw [outcome_bind_ok hrun, ih]
          simp [tokens, events]
      | fail cause =>
          have hrun : (Piece.fail cause).write r d = (.error (.unsupported cause), d) := rfl
          rw [outcome_bind_error hrun]
          simp [tokens, events, Except.map]
      | name policy n =>
          have hrun := Piece.write_name policy n r d
          cases hpage : policy.page? r n with
          | some href =>
              rw [hpage] at hrun
              rw [outcome_bind_ok hrun, ih]
              cases htokens : tokens r "" l with
              | ok ts => simp [tokens, events, hpage, htokens, Except.map]
              | error e => simp [tokens, events, hpage, htokens, Except.map]
          | none =>
              rw [hpage] at hrun
              by_cases hreq : policy = .required
              · subst hreq
                rw [outcome_bind_error hrun]
                simp [tokens, events, hpage, Except.map]
              · simp only [hreq, if_false] at hrun
                rw [outcome_bind_ok hrun, ih]
                simp [tokens, events, hpage, hreq, Draft.addText]

theorem finish_write (l : Layout) (r : LinkResolver) :
    (write l).finish r = (l.comment r, events r l) := by
  rw [finish_eq_outcome, outcome_write, comment]
  cases tokens r "" l with
  | ok ts => simp [Except.map]
  | error e => simp [Except.map]

end Layout

/-! ## Types -/

namespace TypeGraph

variable {ι : Type} [DecidableEq ι]

theorem format_eq_comment (g : TypeGraph ι) (mode : Mode) (r : LinkResolver) (x : ι) :
    g.format mode r (some x) = (g.layout mode x).comment r := by
  rw [format, render, renderAt_eq_write, Layout.finish_write]
  rfl

theorem formatEvents_eq_events (g : TypeGraph ι) (mode : Mode) (r : LinkResolver) (x : ι) :
    g.formatEvents mode r (some x) = (g.layout mode x).events r := by
  rw [formatEvents, render, renderAt_eq_write, Layout.finish_write]
  rfl

end TypeGraph

end DocMarkup
