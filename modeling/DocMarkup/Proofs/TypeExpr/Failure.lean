import DocMarkup.Link.Registry
import DocMarkup.Proofs.TypeExpr.Outcome
import DocMarkup.Proofs.TypeExpr.Risk

/-!
When types cannot be formatted. With a resolver that knows the native names, formatting a type fails
exactly where an invalid type can be reached from it (`TypeGraph.format_fails_iff`).
-/

namespace DocMarkup

/-! ## Native names -/

def nativeNames : List String := ["boolean", "number", "string", "null", "undefined"]

def LinkResolver.LinksNatives (r : LinkResolver) : Prop :=
  ∀ n ∈ nativeNames, (r.resolveExternal n).isSome

theorem PrimitiveKind.name_mem_nativeNames {kind : PrimitiveKind} (h : kind.isNative = true) :
    kind.name ∈ nativeNames := by
  cases kind with
  | all => cases h
  | unknown => cases h
  | _ => decide

theorem isSome_lookup_join {entries : List (String × Option String)}
    (hsome : ∀ e ∈ entries, e.2.isSome) {n : String} (hn : n ∈ entries.map Prod.fst) :
    (entries.lookup n).join.isSome := by
  induction entries with
  | nil => cases hn
  | cons e entries ih =>
      obtain ⟨name, page⟩ := e
      by_cases hname : n = name
      · subst hname
        simpa using hsome _ List.mem_cons_self
      · have hrest : n ∈ entries.map Prod.fst := by simpa [hname] using hn
        have hbeq : (n == name) = false := by simpa using hname
        rw [List.lookup_cons, hbeq]
        exact ih (fun e he => hsome e (List.mem_cons_of_mem _ he)) hrest

theorem Registry.linksNatives_ofTypes (kinds : List (String × Option String))
    {extra : List (String × Option String)} (hextra : ∀ e ∈ extra, e.2.isSome)
    (filePrefix docsUrl : String) :
    (Registry.ofTypes kinds extra filePrefix docsUrl).resolver.LinksNatives := by
  intro n hn
  refine isSome_lookup_join ?_ ?_
  · intro e he
    rcases List.mem_append.1 he with he | he
    · exact hextra e he
    · obtain ⟨native, _, rfl⟩ := List.mem_map.1 he
      rfl
  · have hnative : n ∈ nativePages.map Prod.fst := by
      revert n
      decide
    simp [Registry.ofTypes, Function.comp_def, hnative]

/-! ## Layouts -/

/-- If all names that have to be found are found, a layout gives a comment unless it has a
failure. -/
theorem Layout.comment_cases {r : LinkResolver} {l : Layout}
    (hfound : ∀ n, Piece.name .required n ∈ l → (r.resolveExternal n).isSome) :
    (∃ c, l.comment r = .ok c ∧ ∀ cause, Piece.fail cause ∉ l) ∨
      ∃ cause, l.comment r = .error (.unsupported cause) ∧ Piece.fail cause ∈ l := by
  suffices key : ∀ run, (∃ ts, tokens r run l = .ok ts ∧ ∀ cause, Piece.fail cause ∉ l) ∨
      ∃ cause, tokens r run l = .error (.unsupported cause) ∧ Piece.fail cause ∈ l by
    rcases key "" with ⟨ts, hts, hno⟩ | ⟨cause, herror, hmem⟩
    · exact .inl ⟨⟨ts⟩, by simp [comment, hts, Except.map], hno⟩
    · exact .inr ⟨cause, by simp [comment, herror, Except.map], hmem⟩
  induction l with
  | nil => exact fun run => .inl ⟨_, rfl, by simp⟩
  | cons p l ih =>
      intro run
      have hrest := ih fun n hn => hfound n (List.mem_cons_of_mem _ hn)
      cases p with
      | text t => simpa [tokens] using hrest (run ++ t)
      | note n => simpa [tokens] using hrest run
      | fail cause => exact .inr ⟨cause, rfl, List.mem_cons_self⟩
      | name policy n =>
          cases hpage : policy.page? r n with
          | some href =>
              rcases hrest "" with ⟨ts, hts, hno⟩ | ⟨cause, herror, hmem⟩
              · refine .inl ⟨runTokens run ++ { text := n, href := some href } :: ts,
                  ?_, by simpa using hno⟩
                simp [tokens, hpage, hts, Except.map]
              · exact .inr ⟨cause, by simp [tokens, hpage, herror, Except.map],
                  List.mem_cons_of_mem _ hmem⟩
          | none =>
              have hpolicy : policy ≠ .required := by
                rintro rfl
                have hsome := hfound n List.mem_cons_self
                simp_all [Policy.page?]
              simpa [tokens, hpage, hpolicy] using hrest (run ++ n)

/-! ## Types -/

namespace TypeGraph

variable {ι : Type} [DecidableEq ι]

theorem found_of_linksNatives {g : TypeGraph ι} {mode : Mode}
    (hends : mode = .resolved → g.EnumsEnd) {r : LinkResolver} (hr : r.LinksNatives) {x : ι}
    (n : String) (hn : Piece.name .required n ∈ g.layout mode x) :
    (r.resolveExternal n).isSome := by
  obtain ⟨y, _, hy⟩ := exists_ownRisks hends (Layout.mem_risks.2 ⟨hn, rfl⟩)
  obtain ⟨kind, hnative, rfl⟩ := exists_native_of_required hy
  exact hr _ (PrimitiveKind.name_mem_nativeNames hnative)

theorem fail_mem_layout_iff {g : TypeGraph ι} {mode : Mode} (hends : mode = .resolved → g.EnumsEnd)
    {x : ι} :
    (∃ cause, Piece.fail cause ∈ g.layout mode x) ↔
      ∃ y, g.Reaches mode x y ∧ g.isInvalid y = true := by
  constructor
  · rintro ⟨cause, hcause⟩
    obtain ⟨y, hreach, hy⟩ := exists_ownRisks hends (Layout.mem_risks.2 ⟨hcause, rfl⟩)
    exact ⟨y, hreach, (isInvalid_of_fail hy).1⟩
  · intro h
    obtain ⟨cause, hcause⟩ := exists_fail hends (InvalidOff.iff_reaches.2 h)
    exact ⟨cause, (Layout.mem_risks.1 hcause).1⟩

/-- With a resolver that knows the native names, as that of a registry does, formatting a type gives
a comment or says that the type is not supported, and it says so exactly if an invalid type can be
reached. -/
theorem format_fails_iff (g : TypeGraph ι) (mode : Mode) (hends : mode = .resolved → g.EnumsEnd) :
    (∀ (r : LinkResolver), r.LinksNatives → ∀ x,
      ((∃ c, g.format mode r (some x) = .ok c) ∨
        ∃ cause, cause ≠ .endless ∧ g.format mode r (some x) = .error (.unsupported cause)) ∧
      ((∃ cause, g.format mode r (some x) = .error (.unsupported cause)) ↔
        ∃ y, g.Reaches mode x y ∧ g.isInvalid y = true)) ∧
    ∀ kinds extra filePrefix docsUrl, (∀ e ∈ extra, e.2.isSome) →
      (Registry.ofTypes kinds extra filePrefix docsUrl).resolver.LinksNatives := by
  refine ⟨?_, fun kinds extra filePrefix docsUrl hextra =>
    Registry.linksNatives_ofTypes kinds hextra filePrefix docsUrl⟩
  intro r hr x
  rw [format_eq_comment, ← fail_mem_layout_iff hends]
  rcases Layout.comment_cases (found_of_linksNatives hends hr) with
    ⟨c, hc, hno⟩ | ⟨cause, herror, hmem⟩
  · refine ⟨.inl ⟨c, hc⟩, ?_⟩
    simp [hc, hno]
  · obtain ⟨y, _, hy⟩ := exists_ownRisks hends (Layout.mem_risks.2 ⟨hmem, rfl⟩)
    refine ⟨.inr ⟨cause, (isInvalid_of_fail hy).2, herror⟩, ?_⟩
    exact ⟨fun _ => ⟨cause, hmem⟩, fun _ => ⟨cause, herror⟩⟩

theorem hiddenPlaceholder_enumsEnd : hiddenPlaceholder.EnumsEnd := by
  refine .of_rank (fun _ => 0) ?_
  intro x name y h
  match x with
  | 0 => cases h
  | 1 => cases h
  | 2 => cases h
  | 3 => cases h

theorem hiddenPlaceholder_reaches : hiddenPlaceholder.Reaches .resolved 0 3 := by
  have h01 : hiddenPlaceholder.Reaches .resolved 0 1 := .of_mem_parts (by decide)
  have h12 : hiddenPlaceholder.Reaches .resolved 1 2 := .of_mem_parts (by decide)
  have h23 : hiddenPlaceholder.Reaches .resolved 2 3 := .of_mem_parts (by decide)
  exact (h01.trans h12).trans h23

theorem format_fails_hiddenPlaceholder :
    hiddenPlaceholder.EnumsEnd ∧
    (Registry.ofTypes [] [("null", some "null.html")] "" "docs/").resolver.LinksNatives ∧
      (∃ y, hiddenPlaceholder.Reaches .resolved 0 y ∧ hiddenPlaceholder.isInvalid y = true) ∧
      ∃ cause, hiddenPlaceholder.format .resolved
        (Registry.ofTypes [] [("null", some "null.html")] "" "docs/").resolver (some 0) =
          .error (.unsupported cause) := by
  have hends : Mode.resolved = .resolved → hiddenPlaceholder.EnumsEnd :=
    fun _ => hiddenPlaceholder_enumsEnd
  obtain ⟨hfails, hregistry⟩ := format_fails_iff hiddenPlaceholder .resolved hends
  have hlinks := hregistry [] [("null", some "null.html")] "" "docs/" (by simp)
  have hinvalid : ∃ y, hiddenPlaceholder.Reaches .resolved 0 y ∧
      hiddenPlaceholder.isInvalid y = true :=
    ⟨3, hiddenPlaceholder_reaches, rfl⟩
  exact ⟨hiddenPlaceholder_enumsEnd, hlinks, hinvalid, (hfails _ hlinks 0).2.2 hinvalid⟩

end TypeGraph

end DocMarkup
