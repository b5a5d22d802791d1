import DocMarkup.Comment.Record

/-!
Comments that are exchanged as records. Every record is the record of a comment, or has a token that
contradicts itself (`CommentRecord.isContradictory_or_exists`). A serialisation is assumed to write
the declared fields of records (`CommentRecord.Writes`) and to read them (`CommentRecord.Reads`),
as the one in use does. Main statement: nothing is lost in either direction
(`CommentRecord.exchange`).
-/

namespace DocMarkup

/-! ## Tokens -/

namespace TokenRecord

/-- Marked both as code and as literal. -/
def IsContradictory (r : TokenRecord) : Prop := r.isCode = true ∧ r.isLiteral = true

theorem style_ofToken (t : Token) : (ofToken t).style = .ok t.style := by
  unfold style ofToken
  cases t.style with
  | plain => rfl
  | code => rfl
  | literal => rfl

theorem toToken_ofToken (t : Token) : (ofToken t).toToken = .ok t := by
  rw [toToken, style_ofToken]
  rfl

theorem IsContradictory.toToken {r : TokenRecord} (h : r.IsContradictory) :
    r.toToken = .error .codeAndLiteral := by
  have hstyle : r.style = .error .codeAndLiteral := by
    unfold style
    rw [h.1, h.2]
  rw [TokenRecord.toToken, hstyle]
  rfl

theorem isContradictory_or_exists (r : TokenRecord) : r.IsContradictory ∨ ∃ t, ofToken t = r := by
  obtain ⟨text, isCode, isLiteral, href, unresolved⟩ := r
  cases isCode with
  | true =>
      cases isLiteral with
      | true => exact .inl ⟨rfl, rfl⟩
      | false => exact .inr ⟨⟨text, .code, href, unresolved⟩, rfl⟩
  | false =>
      cases isLiteral with
      | true => exact .inr ⟨⟨text, .literal, href, unresolved⟩, rfl⟩
      | false => exact .inr ⟨⟨text, .plain, href, unresolved⟩, rfl⟩

end TokenRecord

/-! ## Comments -/

namespace CommentRecord

open TokenRecord

theorem mapM_toToken_ofToken (ts : List Token) : (ts.map ofToken).mapM toToken = .ok ts := by
  induction ts with
  | nil => rfl
  | cons t ts ih =>
      rw [List.map_cons, List.mapM_cons, toToken_ofToken, ih]
      rfl

theorem toComment_ofComment (c : Comment) : (ofComment c).toComment = .ok c := by
  rw [toComment, ofComment, mapM_toToken_ofToken]
  rfl

/-- The tokens before the one that contradicts itself are converted in vain. -/
theorem mapM_toToken_of_contradictory {rs : List TokenRecord} (h : ∃ r ∈ rs, r.IsContradictory) :
    rs.mapM toToken = .error .codeAndLiteral := by
  induction rs with
  | nil => simp at h
  | cons r rs ih =>
      rw [List.mapM_cons]
      rcases r.isContradictory_or_exists with hr | ⟨t, rfl⟩
      · rw [hr.toToken]
        rfl
      · have hrest : ∃ r ∈ rs, r.IsContradictory := by
          obtain ⟨r, hmem, hr⟩ := h
          rcases List.mem_cons.1 hmem with rfl | hmem
          · cases (toToken_ofToken t).symm.trans hr.toToken
          · exact ⟨r, hmem, hr⟩
        rw [toToken_ofToken, ih hrest]
        rfl

theorem toComment_of_contradictory {r : CommentRecord} (h : ∃ t ∈ r.tokens, t.IsContradictory) :
    r.toComment = .error .codeAndLiteral := by
  rw [toComment, mapM_toToken_of_contradictory h]
  rfl

theorem isContradictory_or_exists (r : CommentRecord) :
    (∃ t ∈ r.tokens, t.IsContradictory) ∨ ∃ c, ofComment c = r := by
  obtain ⟨rs⟩ := r
  induction rs with
  | nil => exact .inr ⟨⟨[]⟩, rfl⟩
  | cons r rs ih =>
      rcases r.isContradictory_or_exists with hr | ⟨t, rfl⟩
      · exact .inl ⟨r, List.mem_cons_self, hr⟩
      · rcases ih with ⟨r, hmem, hr⟩ | ⟨c, hc⟩
        · exact .inl ⟨r, List.mem_cons_of_mem _ hmem, hr⟩
        · cases hc
          exact .inr ⟨⟨t :: c.tokens⟩, rfl⟩

theorem toComment_eq_error_iff {r : CommentRecord} :
    r.toComment = .error .codeAndLiteral ↔ ∃ t ∈ r.tokens, t.IsContradictory := by
  refine ⟨fun herror => ?_, toComment_of_contradictory⟩
  rcases r.isContradictory_or_exists with h | ⟨c, rfl⟩
  · exact h
  · cases (toComment_ofComment c).symm.trans herror

end CommentRecord

/-! ## Serialisations -/

/-- A truth value under a key stands for itself; an absent one is not set. -/
inductive Json.HasFlag (v : Json) (key : String) : Bool → Prop where
  | given {flag : Bool} (h : v.member? key = some (.bool flag)) : HasFlag v key flag
  | absent (h : v.member? key = none) : HasFlag v key false

/-- A text under a key stands for itself; there is none where it is null or absent. -/
inductive Json.HasText (v : Json) (key : String) : Option String → Prop where
  | given {text : String} (h : v.member? key = some (.str text)) : HasText v key (some text)
  | null (h : v.member? key = some .null) : HasText v key none
  | absent (h : v.member? key = none) : HasText v key none

namespace CommentRecord

/-- What is assumed of a serialisation that writes records: the members of an object are the
declared fields, texts and truth values are written as they are, and an absent address is null or
left out. -/
structure Writes (dumpToken : Bool → TokenRecord → Json) (dump : Bool → CommentRecord → Json) :
    Prop where
  tokens : ∀ withAbsent r,
    (dump withAbsent r).member? "tokens" = some (.arr (r.tokens.map (dumpToken withAbsent)))
  text : ∀ withAbsent r, (dumpToken withAbsent r).member? "text" = some (.str r.text)
  isCode : ∀ withAbsent r, (dumpToken withAbsent r).member? "is_code" = some (.bool r.isCode)
  isLiteral : ∀ withAbsent r,
    (dumpToken withAbsent r).member? "is_literal" = some (.bool r.isLiteral)
  href : ∀ withAbsent r address, r.href = some address →
    (dumpToken withAbsent r).member? "href" = some (.str address)
  noHref : ∀ withAbsent r, r.href = none →
    (dumpToken withAbsent r).member? "href" = if withAbsent then some .null else none
  unresolved : ∀ withAbsent r,
    (dumpToken withAbsent r).member? "unresolved_link" = some (.bool r.unresolved)

/-- What is assumed of a serialisation that reads records: the declared fields are looked up under
their names, those that are absent have their defaults, and texts and truth values are read as they
are. -/
structure Reads (validateToken : Json → Checked TokenRecord)
    (validate : Json → Checked CommentRecord) : Prop where
  tokens : ∀ v items rs, v.member? "tokens" = some (.arr items) →
    items.map validateToken = rs.map .valid → validate v = .valid ⟨rs⟩
  token : ∀ (v : Json) (r : TokenRecord), v.member? "text" = some (.str r.text) →
    v.HasFlag "is_code" r.isCode → v.HasFlag "is_literal" r.isLiteral → v.HasText "href" r.href →
    v.HasFlag "unresolved_link" r.unresolved → validateToken v = .valid r

section

variable {dumpToken : Bool → TokenRecord → Json} {dump : Bool → CommentRecord → Json}
  {validateToken : Json → Checked TokenRecord} {validate : Json → Checked CommentRecord}

theorem Writes.hasText (h : Writes dumpToken dump) (withAbsent : Bool) (r : TokenRecord) :
    (dumpToken withAbsent r).HasText "href" r.href := by
  cases hhref : r.href with
  | some address => exact .given (h.href withAbsent r address hhref)
  | none =>
      have habsent := h.noHref withAbsent r hhref
      cases withAbsent with
      | true => exact .null habsent
      | false => exact .absent habsent

theorem validateToken_dumpToken (hwrites : Writes dumpToken dump)
    (hreads : Reads validateToken validate) (withAbsent : Bool) (r : TokenRecord) :
    validateToken (dumpToken withAbsent r) = .valid r :=
  hreads.token _ r (hwrites.text withAbsent r) (.given (hwrites.isCode withAbsent r))
    (.given (hwrites.isLiteral withAbsent r)) (hwrites.hasText withAbsent r)
    (.given (hwrites.unresolved withAbsent r))

/-- What is written of a record is read as that record, whether or not absent addresses are left
out. -/
theorem validate_dump (hwrites : Writes dumpToken dump) (hreads : Reads validateToken validate)
    (withAbsent : Bool) (r : CommentRecord) : validate (dump withAbsent r) = .valid r := by
  refine hreads.tokens _ _ r.tokens (hwrites.tokens withAbsent r) ?_
  rw [List.map_map]
  exact List.map_congr_left fun t _ => validateToken_dumpToken hwrites hreads withAbsent t

end

end CommentRecord

/-! ## The serialisation in use -/

namespace Json

variable {α : Type} {v w : Json} {key : String}

theorem member?_nil (key : String) : (obj []).member? key = none := rfl

theorem member?_cons (key k : String) (v : Json) (members : List (String × Json)) :
    (obj ((k, v) :: members)).member? key =
      if key == k then some v else (obj members).member? key := by
  rw [member?, List.lookup_cons]
  cases key == k <;> rfl

theorem exists_obj_of_member (h : v.member? key = some w) : ∃ members, v = .obj members := by
  cases v with
  | obj members => exact ⟨members, rfl⟩
  | _ => cases h

theorem required_of_member {check : Json → Checked α} {a : α} (hw : v.member? key = some w)
    (ha : check w = .valid a) : v.required key check = .valid a := by
  rw [required, hw]
  exact congrArg (Checked.within (.key key)) ha

theorem optional_of_member {default a : α} {check : Json → Checked α}
    (hw : v.member? key = some w) (ha : check w = .valid a) :
    v.optional key default check = .valid a := by
  rw [optional, hw]
  exact congrArg (Checked.within (.key key)) ha

theorem optional_of_absent {default : α} {check : Json → Checked α} (h : v.member? key = none) :
    v.optional key default check = .valid default := by
  rw [optional, h]

theorem HasFlag.optional {flag : Bool} (h : v.HasFlag key flag) :
    v.optional key false checkBool = .valid flag := by
  cases h with
  | given h => exact optional_of_member h rfl
  | absent h => exact optional_of_absent h

theorem HasText.optional {text : Option String} (h : v.HasText key text) :
    v.optional key none checkOptionalString = .valid text := by
  cases h with
  | given h => exact optional_of_member h rfl
  | null h => exact optional_of_member h rfl
  | absent h => exact optional_of_absent h

end Json

namespace CommentRecord

open Json

theorem writes_toJson : Writes TokenRecord.toJson toJson where
  tokens withAbsent r := by rw [toJson, member?_cons]; rfl
  text withAbsent r := by simp [TokenRecord.toJson, member?_cons]
  isCode withAbsent r := by simp [TokenRecord.toJson, member?_cons]
  isLiteral withAbsent r := by simp [TokenRecord.toJson, member?_cons]
  href withAbsent r address hhref := by simp [TokenRecord.toJson, hhref, member?_cons]
  noHref withAbsent r hhref := by
    cases withAbsent <;> simp [TokenRecord.toJson, hhref, member?_cons, member?_nil]
  unresolved withAbsent r := by
    cases hhref : r.href <;> cases withAbsent <;> simp [TokenRecord.toJson, hhref, member?_cons]

theorem items_valid {check : Json → Checked TokenRecord} {items : List Json}
    {rs : List TokenRecord} (h : items.map check = rs.map .valid) (n : Nat) :
    Checked.items check n items = .valid rs := by
  induction items generalizing rs n with
  | nil =>
      obtain rfl : rs = [] := by simpa using h.symm
      rfl
  | cons item items ih =>
      cases rs with
      | nil => cases h
      | cons r rs =>
          obtain ⟨hitem, hitems⟩ := List.cons.inj h
          rw [Checked.items, hitem, ih hitems]
          rfl

theorem reads_ofJson : Reads TokenRecord.ofJson ofJson where
  tokens v items rs hmember hitems := by
    obtain ⟨members, rfl⟩ := exists_obj_of_member hmember
    rw [ofJson, optional_of_member hmember (items_valid hitems 0)]
    rfl
  token v r htext hcode hliteral hhref hunresolved := by
    obtain ⟨members, rfl⟩ := exists_obj_of_member htext
    have htext' : (obj members).required "text" checkString = .valid r.text :=
      required_of_member htext rfl
    rw [TokenRecord.ofJson, htext', hcode.optional, hliteral.optional, hhref.optional,
      hunresolved.optional]
    rfl

/-! ## The main statement -/

/-- A comment is got back from its record and from what is written of it; a record is got back from
its comment, and has one unless it contradicts itself. -/
theorem exchange {dumpToken : Bool → TokenRecord → Json} {dump : Bool → CommentRecord → Json}
    {validateToken : Json → Checked TokenRecord} {validate : Json → Checked CommentRecord}
    (hwrites : Writes dumpToken dump) (hreads : Reads validateToken validate) :
    (∀ c : Comment, (ofComment c).toComment = .ok c ∧
      ∀ withAbsent, ∃ r, validate (dump withAbsent (ofComment c)) = .valid r ∧
        r.toComment = .ok c) ∧
    ∀ r : CommentRecord,
      (r.toComment = .error .codeAndLiteral ↔
        ∃ t ∈ r.tokens, t.isCode = true ∧ t.isLiteral = true) ∧
      ((∃ t ∈ r.tokens, t.isCode = true ∧ t.isLiteral = true) ∨
        ∃ c, r.toComment = .ok c ∧ ofComment c = r) := by
  refine ⟨fun c => ⟨toComment_ofComment c, fun withAbsent => ?_⟩,
    fun r => ⟨toComment_eq_error_iff, ?_⟩⟩
  · exact ⟨ofComment c, validate_dump hwrites hreads withAbsent (ofComment c),
      toComment_ofComment c⟩
  · rcases r.isContradictory_or_exists with h | ⟨c, rfl⟩
    · exact .inl h
    · exact .inr ⟨c, toComment_ofComment c, rfl⟩

/-- The serialisation in use does what is assumed. -/
theorem exchange_toJson :
    Writes TokenRecord.toJson toJson ∧ Reads TokenRecord.ofJson ofJson ∧
    (∀ c : Comment, (ofComment c).toComment = .ok c ∧
      ∀ withAbsent, ∃ r, ofJson ((ofComment c).toJson withAbsent) = .valid r ∧
        r.toComment = .ok c) ∧
    ∀ r : CommentRecord,
      (r.toComment = .error .codeAndLiteral ↔
        ∃ t ∈ r.tokens, t.isCode = true ∧ t.isLiteral = true) ∧
      ((∃ t ∈ r.tokens, t.isCode = true ∧ t.isLiteral = true) ∨
        ∃ c, r.toComment = .ok c ∧ ofComment c = r) :=
  ⟨writes_toJson, reads_ofJson, exchange writes_toJson reads_ofJson⟩

end CommentRecord

end DocMarkup
