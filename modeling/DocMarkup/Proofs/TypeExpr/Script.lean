import DocMarkup.Proofs.TypeExpr.Outcome
import DocMarkup.Proofs.TypeExpr.Risk
import Mathlib.Data.List.SplitBy

/-!
Scripts: what is left of a layout when the notes are taken out and nothing stands after the first
failure. Formatting a type is carrying out its script (`TypeGraph.format_eq_script`), which is found
before any name is looked up.
-/

namespace DocMarkup

/-! ## Scripts -/

inductive Part where
  | text (text : String)
  | name (policy : Policy) (name : String)
  deriving DecidableEq

structure Script where
  parts : List Part
  /-- The failure that the parts lead to. -/
  ending : Option Unsupported
  deriving DecidableEq

/-- A text, or a name with the page that it links to. -/
structure Shown where
  text : String
  href : Option String := none
  deriving DecidableEq

namespace Part

/-- What a resolver makes of a part: a name without a page is a text. -/
def shown (r : LinkResolver) : Part → Shown
  | .text t => { text := t }
  | .name policy n => { text := n, href := policy.page? r n }

/-- The name that a part fails for. -/
def missing? (r : LinkResolver) : Part → Option String
  | .name .required n => if (r.resolveExternal n).isNone then some n else none
  | _ => none

end Part

namespace Shown

/-- Whether two neighbours are part of one run of text. -/
def joins (s t : Shown) : Bool := s.href.isNone && t.href.isNone

/-- The token of a single link or of a run of text. -/
def runTokens : List Shown → List Token
  | [{ text, href := some href }] => [{ text, href := some href }]
  | run => Layout.runTokens (String.join (run.map text))

/-- The tokens of all links and of the longest runs of text between them. -/
def tokens (shown : List Shown) : List Token := (shown.splitBy joins).flatMap runTokens

end Shown

/-- The comment that comes of a script: the names that have to be found are all looked for before
its ending. -/
def Script.comment (s : Script) (r : LinkResolver) : Except FormatError Comment :=
  match s.parts.findSome? (Part.missing? r) with
  | some n => .error (.missingExtern n)
  | none =>
    match s.ending with
    | some cause => .error (.unsupported cause)
    | none => .ok ⟨Shown.tokens (s.parts.map (Part.shown r))⟩

/-! ## Runs of text -/

namespace Shown

theorem tokens_append {l m : List Shown} (h : ∀ x ∈ l.getLast?, ∀ y ∈ m.head?, joins x y = false) :
    tokens (l ++ m) = tokens l ++ tokens m := by
  rw [tokens, List.splitBy_append h, List.flatMap_append]
  rfl

theorem tokens_texts (texts : List String) :
    tokens (texts.map fun t => { text := t }) = Layout.runTokens (String.join texts) := by
  cases texts with
  | nil => rfl
  | cons t texts =>
      have hchain :
          ((t :: texts).map fun t => ({ text := t } : Shown)).IsChain fun x y => joins x y := by
        rw [List.isChain_map]
        exact (List.pairwise_of_forall fun _ _ => rfl).isChain
      rw [tokens, List.splitBy_of_isChain (by simp) hchain]
      simp [runTokens, Function.comp_def]

theorem tokens_link (texts : List String) (n href : String) (rest : List Shown) :
    tokens (texts.map (fun t => { text := t }) ++ { text := n, href := some href } :: rest) =
      Layout.runTokens (String.join texts) ++ { text := n, href := some href } :: tokens rest := by
  have hlink : tokens ({ text := n, href := some href } :: rest) =
      { text := n, href := some href } :: tokens rest :=
    tokens_append (l := [{ text := n, href := some href }]) (by simp [joins])
  rw [tokens_append (by simp [joins]), tokens_texts, hlink]

end Shown

/-! ## Scripts after texts -/

namespace Script

def cons (p : Part) (s : Script) : Script := { s with parts := p :: s.parts }

def after (texts : List String) (s : Script) : Script :=
  { s with parts := texts.map .text ++ s.parts }

variable {r : LinkResolver} {policy : Policy} {n : String}

theorem findSome?_after (texts : List String) (s : Script) :
    (s.after texts).parts.findSome? (Part.missing? r) = s.parts.findSome? (Part.missing? r) := by
  have htexts : (texts.map Part.text).findSome? (Part.missing? r) = none := by
    simp [Part.missing?]
  rw [after, List.findSome?_append, htexts, Option.none_or]

theorem cons_text_after (texts : List String) (t : String) (s : Script) :
    (s.cons (.text t)).after texts = s.after (texts ++ [t]) := by
  simp [cons, after]

theorem missing?_eq_none {href : String} (hpage : policy.page? r n = some href) :
    (Part.name policy n).missing? r = none := by
  cases policy with
  | required => simp_all [Part.missing?, Policy.page?]
  | _ => rfl

/-- A name that is found ends the run of text before it. -/
theorem comment_after_link {href : String} (hpage : policy.page? r n = some href)
    (texts : List String) (s : Script) :
    ((s.cons (.name policy n)).after texts).comment r =
      (s.comment r).map fun c =>
        ⟨Layout.runTokens (String.join texts) ++ { text := n, href := some href } :: c.tokens⟩ := by
  unfold comment
  rw [findSome?_after]
  simp only [cons, after, List.findSome?_cons, missing?_eq_none hpage]
  cases s.parts.findSome? (Part.missing? r) with
  | some n => rfl
  | none =>
      cases s.ending with
      | some cause => rfl
      | none =>
          simp [Part.shown, hpage, Function.comp_def, Shown.tokens_link, Except.map]

/-- A name that need not be found and is not found is a text. -/
theorem comment_after_name (hpage : policy.page? r n = none) (hpolicy : policy ≠ .required)
    (texts : List String) (s : Script) :
    ((s.cons (.name policy n)).after texts).comment r =
      ((s.cons (.text n)).after texts).comment r := by
  have hmissing : (Part.name policy n).missing? r = (Part.text n).missing? r := by
    cases policy with
    | required => exact absurd rfl hpolicy
    | _ => rfl
  have hshown : (Part.name policy n).shown r = (Part.text n).shown r := by
    simp [Part.shown, hpage]
  unfold comment
  rw [findSome?_after, findSome?_after]
  simp [cons, after, List.findSome?_cons, hmissing, hshown]

theorem comment_after_missing (hpage : Policy.page? r n .required = none) (texts : List String)
    (s : Script) :
    ((s.cons (.name .required n)).after texts).comment r = .error (.missingExtern n) := by
  have hmissing : (Part.name .required n).missing? r = some n := by
    simp_all [Part.missing?, Policy.page?]
  unfold comment
  rw [findSome?_after]
  simp [cons, hmissing]

end Script

/-! ## Layouts as scripts -/

namespace Layout

def script : Layout → Script
  | [] => { parts := [], ending := none }
  | .text t :: l => (script l).cons (.text t)
  | .name policy n :: l => (script l).cons (.name policy n)
  | .note _ :: l => script l
  | .fail cause :: _ => { parts := [], ending := some cause }

theorem fail_mem_of_ending {l : Layout} {cause : Unsupported} (h : (script l).ending = some cause) :
    Piece.fail cause ∈ l := by
  induction l with
  | nil => cases h
  | cons p l ih =>
      cases p with
      | fail cause' =>
          cases h
          exact List.mem_cons_self
      | _ => exact List.mem_cons_of_mem _ (ih h)

/-- The tokens of a layout that follows some texts are those of its script after these texts. -/
theorem tokens_eq_script (r : LinkResolver) (l : Layout) (texts : List String) :
    (tokens r (String.join texts) l).map Comment.mk = ((script l).after texts).comment r := by
  have hjoin : ∀ (texts : List String) t, String.join texts ++ t = String.join (texts ++ [t]) := by
    intro texts t
    simp
  induction l generalizing texts with
  | nil =>
      rw [Script.comment, Script.findSome?_after]
      simp [tokens, script, Script.after, Except.map, Part.shown, Function.comp_def,
        Shown.tokens_texts]
  | cons p l ih =>
      cases p with
      | text t => rw [tokens, hjoin, ih, script, Script.cons_text_after]
      | note n => rw [tokens, ih, script]
      | fail cause =>
          rw [Script.comment, Script.findSome?_after]
          rfl
      | name policy n =>
          cases hpage : policy.page? r n with
          | some href =>
              have hrest : (tokens r "" l).map Comment.mk = (script l).comment r := ih []
              rw [script, Script.comment_after_link hpage, ← hrest, tokens, hpage]
              cases tokens r "" l with
              | ok ts => rfl
              | error e => rfl
          | none =>
              by_cases hpolicy : policy = .required
              · subst hpolicy
                rw [script, Script.comment_after_missing hpage, tokens, hpage]
                rfl
              · rw [script, Script.comment_after_name hpage hpolicy, Script.cons_text_after, ← ih,
                  tokens, hpage, ← hjoin]
                simp [hpolicy]

theorem comment_eq_script (r : LinkResolver) (l : Layout) : l.comment r = (script l).comment r :=
  tokens_eq_script r l []

end Layout

/-! ## Types -/

namespace TypeGraph

variable {ι : Type} [DecidableEq ι]

/-- The script of a type expression; the absent type has the empty script. -/
def script (g : TypeGraph ι) (mode : Mode) : Option ι → Script
  | some x => (g.layout mode x).script
  | none => { parts := [], ending := none }

/-- Formatting a type expression is carrying out its script, which no resolver has a part in. -/
theorem format_eq_script (g : TypeGraph ι) (mode : Mode) (root : Option ι)
    (hends : mode = .resolved → g.EnumsEnd) :
    (g.script mode root).ending ≠ some .endless ∧
    ∀ r, g.format mode r root = (g.script mode root).comment r := by
  cases root with
  | none => exact ⟨by simp [script], fun _ => rfl⟩
  | some x =>
      constructor
      · intro hending
        have hrisk : Piece.fail .endless ∈ (g.layoutAt mode [] x).risks :=
          Layout.mem_risks.2 ⟨Layout.fail_mem_of_ending hending, rfl⟩
        obtain ⟨y, _, hy⟩ := exists_ownRisks hends hrisk
        exact (isInvalid_of_fail hy).2 rfl
      · intro r
        rw [format_eq_comment, Layout.comment_eq_script]
        rfl

theorem selfUnion_enumsEnd : selfUnion.EnumsEnd := by
  refine .of_rank (fun x => if x = 2 then 1 else 0) ?_
  intro x name y h
  match x with
  | 0 => cases h
  | 1 => cases h
  | 2 =>
      cases h
      decide
  | 3 => cases h

theorem format_eq_script_selfUnion :
    selfUnion.EnumsEnd ∧ (selfUnion.script .resolved (some 0)).ending ≠ some .endless ∧
      ∀ r, selfUnion.format .resolved r (some 0) =
        (selfUnion.script .resolved (some 0)).comment r :=
  ⟨selfUnion_enumsEnd, format_eq_script selfUnion .resolved (some 0) fun _ => selfUnion_enumsEnd⟩

end TypeGraph

end DocMarkup
