import DocMarkup.Proofs.TypeExpr.Simplified
import DocMarkup.Proofs.TypeExpr.Visits

/-!
The names of fields in declared records. A name is shown without the quotes around it; what is taken
for quotes are the first and the last character of a name that begins with a quote, whatever its
last character is. Main statement: a declared record shows its fields in order, and shows them under
their names exactly if every name that begins with a quote ends with it
(`TypeGraph.declared_record_iff`).
-/

namespace DocMarkup

/-! ## Names and quotes -/

namespace Field

variable {ι : Type} {f : Field ι}

/-- A name between two quotes that are the same. -/
def isEnclosed (f : Field ι) : Bool := f.isQuoted && f.name.toList.getLast? == f.name.toList.head?

/-- The name without the pair of quotes around it, if there is one. -/
def bareName (f : Field ι) : String :=
  if f.isEnclosed then String.ofList f.name.toList.tail.dropLast else f.name

theorem exists_of_isQuoted (h : f.isQuoted = true) :
    ∃ first c cs, f.name.toList = first :: c :: cs ∧ (first == '\'' || first == '"') = true := by
  simp only [isQuoted, Bool.and_eq_true, decide_eq_true_eq, ← String.length_toList] at h
  obtain ⟨hlength, hfirst⟩ := h
  cases hname : f.name.toList with
  | nil => simp [hname] at hlength
  | cons first rest =>
      cases rest with
      | nil => simp [hname] at hlength
      | cons c cs => exact ⟨first, c, cs, rfl, by simpa [hname] using hfirst⟩

theorem unquotedName_of_isQuoted (h : f.isQuoted = true) :
    unquotedName f.name = String.ofList f.name.toList.tail.dropLast := by
  obtain ⟨first, c, cs, hname, hfirst⟩ := exists_of_isQuoted h
  simp only [unquotedName, hname, hfirst]
  rfl

theorem unquotedName_eq_bareName (h : f.isQuoted = true → f.isEnclosed = true) :
    unquotedName f.name = f.bareName := by
  unfold bareName
  cases hquoted : f.isQuoted with
  | true => rw [if_pos (h hquoted), unquotedName_of_isQuoted hquoted]
  | false => rw [if_neg (by simp [isEnclosed, hquoted]), unquotedName_eq_self hquoted]

/-- A name that begins with a quote and does not end with it is shown too short. -/
theorem length_unquotedName_lt (hquoted : f.isQuoted = true) (henclosed : f.isEnclosed = false) :
    (unquotedName f.name).length < f.bareName.length := by
  obtain ⟨first, c, cs, hname, -⟩ := exists_of_isQuoted hquoted
  rw [unquotedName_of_isQuoted hquoted, bareName, henclosed, if_neg (by simp),
    ← String.length_toList, ← String.length_toList, String.toList_ofList, hname, List.tail_cons,
    List.length_dropLast]
  simp only [List.length_cons]
  omega

theorem length_unquotedName_le : (unquotedName f.name).length ≤ f.bareName.length := by
  by_cases h : f.isQuoted = true → f.isEnclosed = true
  · exact Nat.le_of_eq (congrArg String.length (unquotedName_eq_bareName h))
  · simp only [Classical.not_imp, Bool.not_eq_true] at h
    exact Nat.le_of_lt (length_unquotedName_lt h.1 h.2)

end Field

/-! ## Texts with a separator between them -/

section Intercalate

variable {α : Type} (separator : String) {a b : α → String} {l : List α}

theorem length_intercalate_le (h : ∀ x ∈ l, (a x).length ≤ (b x).length) :
    (separator.intercalate (l.map a)).length ≤ (separator.intercalate (l.map b)).length := by
  induction l with
  | nil => simp
  | cons x l ih =>
      obtain ⟨hx, hl⟩ := List.forall_mem_cons.1 h
      cases l with
      | nil => simpa using hx
      | cons y l =>
          have hrest := ih hl
          simp only [List.map_cons, String.intercalate_cons_cons, String.length_append] at hrest ⊢
          omega

theorem length_intercalate_lt (h : ∀ x ∈ l, (a x).length ≤ (b x).length)
    (hlt : ∃ x ∈ l, (a x).length < (b x).length) :
    (separator.intercalate (l.map a)).length < (separator.intercalate (l.map b)).length := by
  induction l with
  | nil => simp at hlt
  | cons x l ih =>
      obtain ⟨hx, hl⟩ := List.forall_mem_cons.1 h
      cases l with
      | nil => simpa using hlt
      | cons y l =>
          have hle := length_intercalate_le separator hl
          simp only [List.map_cons, String.intercalate_cons_cons, String.length_append] at ih hle ⊢
          obtain ⟨z, hz, hlt⟩ := hlt
          rcases List.mem_cons.1 hz with rfl | hz
          · omega
          · have := ih hl ⟨z, hz, hlt⟩
            omega

end Intercalate

namespace Layout

theorem wording_separated (separator : String) (parts : List Layout) :
    wording (separated separator parts) = separator.intercalate (parts.map wording) := by
  induction parts with
  | nil => rfl
  | cons part parts ih =>
      cases parts with
      | nil => simp [separated]
      | cons next parts =>
          have hcons : separated separator (part :: next :: parts) =
              part ++ .text separator :: separated separator (next :: parts) := by
            simp [separated, List.intercalate_cons_cons]
          rw [hcons, wording_append, wording_cons, ih, Piece.wording]
          simp [String.append_assoc]

theorem wording_enclosed (left separator right : String) (parts : List Layout) :
    wording (enclosed left separator right parts) =
      left ++ separator.intercalate (parts.map wording) ++ right := by
  rw [enclosed, List.cons_append, wording_cons, wording_append, wording_separated, wording_cons,
    String.append_assoc]
  simp [Piece.wording, wording]

end Layout

/-! ## Records -/

namespace TypeGraph

open Layout

variable {ι : Type} [DecidableEq ι] {g : TypeGraph ι} {x y : ι} {fields : List (Field ι)}
    {r : LinkResolver} {c : Comment}

/-- The parts of a declared type are formatted if the type is. -/
theorem exists_format_of_part (hy : y ∈ g.parts .declared x)
    (h : g.format .declared r (some x) = .ok c) :
    ∃ c', g.format .declared r (some y) = .ok c' ∧ c'.text = (g.layout .declared y).wording := by
  rw [format_eq_comment] at h ⊢
  have hfound : ∀ n, Piece.name .required n ∈ g.layout .declared y → (r.resolveExternal n).isSome :=
    fun n hn => absurd hn (g.required_not_mem_declared y n)
  rcases comment_cases hfound with ⟨c', hc', -⟩ | ⟨cause, -, hmem⟩
  · exact ⟨c', hc', (text_of_comment hc').1⟩
  · -- what cannot be shown in the part can be reached from the whole type
    have hends : Mode.declared = .resolved → g.EnumsEnd := fun hmode => by cases hmode
    obtain ⟨z, hz, hinvalid⟩ := (fail_mem_layout_iff hends).1 ⟨cause, hmem⟩
    obtain ⟨cause', hmem'⟩ :=
      (fail_mem_layout_iff hends).2 ⟨z, (Reaches.of_mem_parts hy).trans hz, hinvalid⟩
    exact absurd hmem' ((text_of_comment h).2 cause')

theorem layout_declared_record (hshape : g.shape x = .record fields)
    (hself : ¬ g.Contains .declared x x) :
    g.layout .declared x = layoutRecord (g.layout .declared) unquotedName fields := by
  have hstandIn : g.standIn? .declared x = some x := rfl
  rw [layout, g.layoutAt_of_standIn hstandIn, g.layoutFrom_of_not_mem (by simp), layoutNode,
    layoutDeclared, hshape]
  refine layoutRecord_congr unquotedName fun y hy => layoutAt_congr fun z hz => ?_
  have hpart : y ∈ g.parts .declared x := by simpa only [parts, hshape] using hy
  have hne : z ≠ x := by
    rintro rfl
    exact hself (.of_part hpart hz)
  simp [hne]

omit [DecidableEq ι] in
/-- The text of a record whose fields have certain names and whose types have certain texts. -/
def recordText (name : Field ι → String) (text : ι → String) (fields : List (Field ι)) : String :=
  "\x7b" ++ ", ".intercalate (fields.map fun f => name f ++ ": " ++ f.type.elim "?" text) ++ "\x7d"

omit [DecidableEq ι] in
theorem wording_layoutRecord (sub : ι → Layout) (fieldName : String → String) :
    wording (layoutRecord sub fieldName fields) =
      recordText (fun f => fieldName f.name) (fun y => wording (sub y)) fields := by
  rw [layoutRecord, wording_enclosed, List.map_map, recordText]
  refine congrArg (fun parts => "\x7b" ++ ", ".intercalate parts ++ "\x7d")
    (List.map_congr_left fun f _ => ?_)
  cases hf : f.type <;> simp [hf, wording, Piece.wording]

omit [DecidableEq ι] in
/-- Names that are shown too short make the text of a record too short. -/
theorem recordText_unquoted_iff (text : ι → String) :
    recordText (fun f => unquotedName f.name) text fields = recordText Field.bareName text fields ↔
      ∀ f ∈ fields, f.isQuoted = true → f.isEnclosed = true := by
  constructor
  · intro heq f hf hquoted
    by_contra henclosed
    have hle : ∀ f ∈ fields, (unquotedName f.name ++ ": " ++ f.type.elim "?" text).length ≤
        (f.bareName ++ ": " ++ f.type.elim "?" text).length := by
      intro f _
      have hname := f.length_unquotedName_le
      simp only [String.length_append]
      omega
    have hlt : (unquotedName f.name ++ ": " ++ f.type.elim "?" text).length <
        (f.bareName ++ ": " ++ f.type.elim "?" text).length := by
      have hname := Field.length_unquotedName_lt hquoted (by simpa using henclosed)
      simp only [String.length_append]
      omega
    have hparts := length_intercalate_lt ", " hle ⟨f, hf, hlt⟩
    have hlength := congrArg String.length heq
    simp only [recordText, String.length_append] at hlength
    omega
  · intro h
    refine congrArg (fun parts => "\x7b" ++ ", ".intercalate parts ++ "\x7d")
      (List.map_congr_left fun f hf => ?_)
    simp only [Field.unquotedName_eq_bareName (h f hf)]

/-- A declared record that does not contain itself shows its fields in order, with the texts of
their types; it shows them under their names exactly if every name that begins with a quote ends
with it. -/
theorem declared_record_iff (g : TypeGraph ι) {x : ι} {fields : List (Field ι)}
    (hshape : g.shape x = .record fields) (hself : ¬ g.Contains .declared x x) {r : LinkResolver}
    {c : Comment} (h : g.format .declared r (some x) = .ok c) :
    ∃ text : ι → String,
      (∀ f ∈ fields, ∀ y, f.type = some y → ∃ c', g.format .declared r (some y) = .ok c' ∧
        c'.text = text y) ∧
      c.text = recordText (fun f => unquotedName f.name) text fields ∧
      (c.text = recordText Field.bareName text fields ↔
        ∀ f ∈ fields, f.isQuoted = true → f.isEnclosed = true) := by
  have htext : c.text =
      recordText (fun f => unquotedName f.name) (fun y => (g.layout .declared y).wording)
      fields := by
    have hcomment := h
    rw [format_eq_comment] at hcomment
    rw [(text_of_comment hcomment).1, layout_declared_record hshape hself, wording_layoutRecord]
  refine ⟨fun y => (g.layout .declared y).wording, fun f hf y hy => ?_, htext, ?_⟩
  · refine exists_format_of_part ?_ h
    simp only [parts, hshape, List.mem_filterMap]
    exact ⟨f, hf, hy⟩
  · rw [htext]
    exact recordText_unquoted_iff _

/-- Records with all kinds of quotes in their names. -/
def quotes : TypeGraph (Fin 3) where
  shape
    | 0 => .record [{ name := "'a'", type := some 2 }, { name := "\"\"" }, { name := "'" },
        { name := "b'", type := some 2 }]
    | 1 => .record [{ name := "'ab" }]
    | 2 => .named "c.D"
  nodes := List.finRange 3
  mem_nodes := List.mem_finRange

def quotesPages : LinkResolver := .ofLists [("c.D", "d.html")] []

/-- A name in quotes, quotes without a name, a quote that is a name, and a name that ends with a
quote. -/
theorem declared_record_iff_quotes :
    ¬ quotes.Contains .declared 0 0 ∧ ∃ c, quotes.format .declared quotesPages (some 0) = .ok c ∧
      ∃ text : Fin 3 → String,
        (∃ c', quotes.format .declared quotesPages (some 2) = .ok c' ∧ c'.text = text 2) ∧
        c.text = recordText Field.bareName text
          [{ name := "'a'", type := some 2 }, { name := "\"\"" }, { name := "'" },
            { name := "b'", type := some 2 }] ∧
        c.text = "\x7ba: c.D, : ?, ': ?, b': c.D\x7d" := by
  have hself : ¬ quotes.Contains .declared 0 0 := by decide +kernel
  have hc : quotes.format .declared quotesPages (some 0) = .ok ⟨[
      { text := "\x7ba: ", style := .literal }, { text := "c.D", href := some "d.html" },
      { text := ", : ?, ': ?, b': ", style := .literal }, { text := "c.D", href := some "d.html" },
      { text := "\x7d", style := .literal }]⟩ := by decide +kernel
  obtain ⟨text, htypes, -, hnames⟩ := declared_record_iff quotes rfl hself hc
  refine ⟨hself, _, hc, text, ?_, hnames.2 (by decide), by decide⟩
  exact htypes { name := "'a'", type := some 2 } List.mem_cons_self 2 rfl

/-- A name that begins with a quote and does not end with it loses its last character. -/
theorem declared_record_cut :
    ¬ quotes.Contains .declared 1 1 ∧ quotes.format .declared quotesPages (some 1) = .ok ⟨[
      { text := "\x7ba: ?\x7d", style := .literal }]⟩ ∧
    recordText Field.bareName (fun _ : Fin 3 => "") [{ name := "'ab" }] = "\x7b'ab: ?\x7d" := by
  refine ⟨by decide +kernel, by decide +kernel, by decide +kernel⟩

end TypeGraph

end DocMarkup
