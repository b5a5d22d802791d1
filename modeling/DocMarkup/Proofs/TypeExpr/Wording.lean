import DocMarkup.Proofs.TypeExpr.Outcome

/-!
What a layout says, whatever its names link to. Main statement: a layout that gives a comment gives
one with its own wording, and has no failure in it (`Layout.text_of_comment`). Two layouts that are
the same without their links (`Layout.unlinked`) have the same wording and the same failures;
layouts of different widths never give the same tokens (`Layout.width_eq_of_outcome`).
-/

namespace DocMarkup

/-! ## Wording -/

/-- The text that a piece shows. -/
def Piece.wording : Piece → String
  | .text t => t
  | .name _ n => n
  | .note _ => ""
  | .fail _ => ""

/-- The piece as text, if it is a name. -/
def Piece.unlinked : Piece → Piece
  | .name _ n => .text n
  | p => p

namespace Layout

def wording (l : Layout) : String := String.join (l.map Piece.wording)

def unlinked (l : Layout) : Layout := l.map Piece.unlinked

theorem wording_cons (p : Piece) (l : Layout) : wording (p :: l) = p.wording ++ wording l := by
  simp [wording]

theorem wording_append (l l' : Layout) : wording (l ++ l') = wording l ++ wording l' := by
  simp [wording, String.join_append]

theorem join_runTokens (run : String) : String.join ((runTokens run).map Token.text) = run := by
  unfold runTokens
  by_cases hrun : run = ""
  · simp [hrun]
  · simp [hrun]

/-- Tokens show the wording of their layout, after the run of text that it follows. -/
theorem text_of_tokens {r : LinkResolver} {l : Layout} {run : String} {ts : List Token}
    (h : tokens r run l = .ok ts) :
    String.join (ts.map Token.text) = run ++ l.wording ∧ ∀ cause, Piece.fail cause ∉ l := by
  induction l generalizing run ts with
  | nil =>
      cases h
      simp [join_runTokens, wording]
  | cons p l ih =>
      rw [wording_cons]
      cases p with
      | text t =>
          obtain ⟨htext, hno⟩ := ih h
          exact ⟨by rw [htext, Piece.wording, String.append_assoc], by simpa using hno⟩
      | note n =>
          obtain ⟨htext, hno⟩ := ih h
          exact ⟨by rw [htext, Piece.wording, String.empty_append], by simpa using hno⟩
      | fail cause => cases h
      | name policy n =>
          rw [tokens] at h
          split at h
          · cases hrest : tokens r "" l with
            | error e =>
                rw [hrest] at h
                cases h
            | ok ts' =>
                rw [hrest] at h
                cases h
                obtain ⟨htext, hno⟩ := ih hrest
                refine ⟨?_, by simpa using hno⟩
                simp [String.join_append, join_runTokens, htext, Piece.wording]
          · split at h
            · cases h
            · obtain ⟨htext, hno⟩ := ih h
              exact ⟨by rw [htext, Piece.wording, String.append_assoc], by simpa using hno⟩

theorem text_of_comment {r : LinkResolver} {l : Layout} {c : Comment} (h : l.comment r = .ok c) :
    c.text = l.wording ∧ ∀ cause, Piece.fail cause ∉ l := by
  unfold comment at h
  cases htokens : tokens r "" l with
  | error e =>
      rw [htokens] at h
      cases h
  | ok ts =>
      rw [htokens] at h
      cases h
      simpa [Comment.text] using text_of_tokens htokens

/-! ## Widths -/

/-- How many characters a layout shows. -/
def width (l : Layout) : Nat := l.wording.length

theorem width_cons (p : Piece) (l : Layout) : width (p :: l) = p.wording.length + width l := by
  rw [width, wording_cons, String.length_append, width]

@[simp] theorem width_nil : width [] = 0 := rfl

@[simp] theorem width_text (t : String) (l : Layout) : width (.text t :: l) = t.length + width l :=
  width_cons _ l

@[simp] theorem width_note (n : Note) (l : Layout) : width (.note n :: l) = width l := by
  rw [width_cons, Piece.wording, String.length_empty, Nat.zero_add]

@[simp] theorem width_append (l l' : Layout) : width (l ++ l') = width l + width l' := by
  simp [width, wording, String.join_append]

/-- The width of parts with a bar after each of them. -/
def barredWidth : List Layout → Nat
  | [] => 0
  | part :: parts => part.width + 1 + barredWidth parts

theorem barredWidth_append (parts parts' : List Layout) :
    barredWidth (parts ++ parts') = barredWidth parts + barredWidth parts' := by
  induction parts with
  | nil => simp [barredWidth]
  | cons part parts ih => simp [barredWidth, ih, Nat.add_assoc]

theorem width_separated (part : Layout) (parts : List Layout) :
    width (separated "|" (part :: parts)) + 1 = barredWidth (part :: parts) := by
  have hrest : width (parts.flatMap fun part => .text "|" :: part) = barredWidth parts := by
    induction parts with
    | nil => rfl
    | cons part parts ih =>
        rw [List.flatMap_cons, width_append, width_text, ih, barredWidth, Nat.add_comm part.width]
        rfl
  rw [separated_cons, width_append, hrest, barredWidth]
  omega

theorem width_of_comment {r : LinkResolver} {l : Layout} {c : Comment} (h : l.comment r = .ok c) :
    c.text.length = l.width := by
  rw [(text_of_comment h).1, width]

/-- Layouts that add the same tokens to a draft are equally wide. -/
theorem width_eq_of_outcome {r : LinkResolver} {d : Draft} {l l' : Layout} {ts : List Token}
    (h : (Rendering.outcome (write l) r d).1 = .ok ts)
    (h' : (Rendering.outcome (write l') r d).1 = .ok ts) :
    l.width = l'.width := by
  have hlength : ∀ l : Layout, (Rendering.outcome (write l) r d).1 = .ok ts →
      (String.join (ts.map Token.text)).length =
        (String.join (d.tokens.map Token.text)).length + d.pending.length + l.width := by
    intro l h
    rw [outcome_write] at h
    cases htokens : tokens r d.pending l with
    | error e =>
        rw [htokens] at h
        cases h
    | ok ts' =>
        rw [htokens] at h
        cases h
        rw [List.map_append, String.join_append, (text_of_tokens htokens).1, String.length_append,
          String.length_append, width, Nat.add_assoc]
  have := hlength l h
  have := hlength l' h'
  omega

/-! ## Layouts without links -/

@[simp] theorem unlinked_nil : unlinked [] = [] := rfl

@[simp] theorem unlinked_text (t : String) (l : Layout) :
    unlinked (.text t :: l) = .text t :: unlinked l := rfl

@[simp] theorem unlinked_append (l l' : Layout) : unlinked (l ++ l') = unlinked l ++ unlinked l' :=
  List.map_append

theorem wording_unlinked (l : Layout) : wording (unlinked l) = wording l := by
  have hpiece : ∀ p : Piece, p.unlinked.wording = p.wording := by
    intro p
    cases p <;> rfl
  rw [wording, unlinked, List.map_map]
  exact congrArg (fun f => String.join (l.map f)) (funext hpiece)

theorem fail_mem_unlinked {cause : Unsupported} {l : Layout} :
    Piece.fail cause ∈ unlinked l ↔ Piece.fail cause ∈ l := by
  have hpiece : ∀ p : Piece, p.unlinked = .fail cause ↔ p = .fail cause := by
    intro p
    cases p <;> simp [Piece.unlinked]
  simp [unlinked, hpiece]

theorem unlinked_separated (separator : String) (parts : List Layout) :
    unlinked (separated separator parts) = separated separator (parts.map unlinked) := by
  cases parts with
  | nil => rfl
  | cons part parts =>
      rw [separated_cons, List.map_cons, separated_cons, unlinked_append]
      simp [unlinked, List.map_flatMap, List.flatMap_map, Piece.unlinked]

@[simp] theorem unlinked_enclosed (left separator right : String) (parts : List Layout) :
    unlinked (enclosed left separator right parts) =
      enclosed left separator right (parts.map unlinked) := by
  simp [enclosed, unlinked_separated]

end Layout

namespace TypeGraph

open Layout

variable {ι : Type} (sub : ι → Layout)

theorem width_layoutShown {alternates : List ι} (h : 1 < alternates.length) :
    width (layoutShown sub alternates) = barredWidth (alternates.map sub) + 1 := by
  match alternates with
  | x :: y :: alternates =>
      have hshown : layoutShown sub (x :: y :: alternates) =
          enclosed "(" "|" ")" ((x :: y :: alternates).map sub) := rfl
      have hseparated := width_separated (sub x) ((y :: alternates).map sub)
      have hleft : "(".length = 1 := rfl
      have hright : ")".length = 1 := rfl
      rw [hshown, enclosed, width_append, width_text, width_text, width_nil, List.map_cons, hleft,
        hright]
      omega

/-- Alternates in parentheses are wider than a single character. -/
theorem one_lt_width_layoutShown {alternates : List ι} (h : alternates.length ≠ 1) :
    1 < width (layoutShown sub alternates) := by
  match alternates with
  | [] =>
      have hparentheses : 1 < width [.text "(", .text ")"] := by decide
      exact hparentheses
  | [x] => simp at h
  | x :: y :: alternates =>
      rw [width_layoutShown sub (by simp), List.map_cons, barredWidth]
      omega

theorem unlinked_layoutRecord (fieldName : String → String) (fields : List (Field ι)) :
    unlinked (layoutRecord sub fieldName fields) =
      layoutRecord (fun y => unlinked (sub y)) fieldName fields := by
  rw [layoutRecord, unlinked_enclosed, List.map_map, layoutRecord]
  refine congrArg (enclosed _ _ _) (List.map_congr_left fun f _ => ?_)
  cases hf : f.type <;> simp [hf]

theorem unlinked_layoutTemplatized (base : ι) (arguments : List ι) :
    unlinked (layoutTemplatized sub base arguments) =
      layoutTemplatized (fun y => unlinked (sub y)) base arguments := by
  simp [layoutTemplatized, Function.comp_def]

theorem unlinked_layoutAlternates (alternates : List ι) :
    unlinked (layoutAlternates sub alternates) =
      layoutAlternates (fun y => unlinked (sub y)) alternates := by
  simp [layoutAlternates, Function.comp_def]

theorem unlinked_layoutParameter (type : Layout) (p : Parameter ι) :
    unlinked (layoutParameter type p) = layoutParameter (unlinked type) p := by
  cases hv : p.variadic <;> cases ho : p.optional <;> simp [layoutParameter, hv, ho]

theorem unlinked_layoutFunction (s : Signature ι) (context : Option ι) (parameters : List Layout) :
    unlinked (layoutFunction sub s context parameters) =
      layoutFunction (fun y => unlinked (sub y)) s context (parameters.map unlinked) := by
  cases context <;> cases hresult : s.result <;> simp [layoutFunction, layoutContext, hresult]

end TypeGraph

end DocMarkup
