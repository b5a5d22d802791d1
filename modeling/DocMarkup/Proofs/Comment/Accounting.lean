import DocMarkup.Session.Basic
import DocMarkup.Proofs.Tag.Tiling

/-!
A comment against its text. Every token shows a part of the text, and the parts follow each other as
the tokens do: a `Cut` holds a token, the segment that it was made from and the part that it shows.
Main statement: the tokens of a comment are accounted for by cuts, and nothing about what they show
depends on links (`reading_accounts`).
-/

namespace DocMarkup

/-! ## What a link shows -/

namespace LinkBody

/-- A link with this body shows the part of it from one offset to another: what follows the first
blank or, where nothing follows it or there is none, what stands before it. -/
inductive Shows (body : List Char) : Nat → Nat → Prop where
  | caption {target caption : List Char} {gap : Char} (hbody : body = target ++ gap :: caption)
      (htarget : ∀ c ∈ target, Text.isBlank c = false) (hgap : Text.isBlank gap = true)
      (hcaption : caption ≠ []) :
      Shows body (target.length + 1) body.length
  | target {target rest : List Char} (hbody : body = target ++ rest)
      (htarget : ∀ c ∈ target, Text.isBlank c = false)
      (hrest : rest = [] ∨ ∃ gap, Text.isBlank gap = true ∧ rest = [gap]) :
      Shows body 0 target.length

theorem exists_shows (body : List Char) : ∃ lo hi, Shows body lo hi := by
  have hbody : body =
      body.takeWhile (fun c => !Text.isBlank c) ++ body.dropWhile (fun c => !Text.isBlank c) :=
    List.takeWhile_append_dropWhile.symm
  have htarget : ∀ c ∈ body.takeWhile (fun c => !Text.isBlank c), Text.isBlank c = false := by
    intro c hc
    simpa using List.mem_takeWhile_imp hc
  cases hrest : body.dropWhile (fun c => !Text.isBlank c) with
  | nil => exact ⟨_, _, .target hbody htarget (.inl hrest)⟩
  | cons gap caption =>
      have hgap : Text.isBlank gap = true := by
        have hne : body.dropWhile (fun c => !Text.isBlank c) ≠ [] := by simp [hrest]
        simpa [hrest] using List.head_dropWhile_not (fun c => !Text.isBlank c) hne
      cases caption with
      | nil => exact ⟨_, _, .target hbody htarget (.inr ⟨gap, hgap, hrest⟩)⟩
      | cons c caption => exact ⟨_, _, .caption (hrest ▸ hbody) htarget hgap (by simp)⟩

theorem Shows.bounds {body : List Char} {lo hi : Nat} (h : Shows body lo hi) :
    lo ≤ hi ∧ hi ≤ body.length := by
  cases h with
  | caption hbody _ _ _ => simp [hbody]
  | target hbody _ _ => simp [hbody]

theorem split_target {target rest : List Char} (htarget : ∀ c ∈ target, Text.isBlank c = false)
    (hrest : ∀ gap ∈ rest.head?, Text.isBlank gap = true) :
    (target ++ rest).takeWhile (fun c => !Text.isBlank c) = target ∧
      (target ++ rest).dropWhile (fun c => !Text.isBlank c) = rest := by
  have hword : ∀ c ∈ target, (!Text.isBlank c) = true := fun c hc => by simp [htarget c hc]
  rw [List.takeWhile_append_of_pos hword, List.dropWhile_append_of_pos hword]
  cases rest with
  | nil => simp
  | cons gap caption => simp [hrest gap rfl]

theorem Shows.caption_eq {body : String} {lo hi : Nat} (h : Shows body.toList lo hi) :
    (LinkBody.ofText body).caption.toList = body.toList.extract lo hi := by
  cases h with
  | @caption target caption gap hbody htarget hgap hcaption =>
      have hrest : ∀ c ∈ (gap :: caption).head?, Text.isBlank c = true := by simpa using hgap
      obtain ⟨htake, hdrop⟩ := split_target htarget hrest
      have hlength : target.length + (caption.length + 1) - (target.length + 1) =
          caption.length := by omega
      simp [LinkBody.ofText, hbody, htake, hdrop, hcaption, List.extract_eq_take_drop, hlength]
  | @target target rest hbody htarget hrest =>
      have hempty : rest.drop 1 = [] ∧ ∀ gap ∈ rest.head?, Text.isBlank gap = true := by
        rcases hrest with rfl | ⟨gap, hgap, rfl⟩
        · simp
        · simpa using hgap
      obtain ⟨htake, hdrop⟩ := split_target htarget hempty.2
      simp [LinkBody.ofText, hbody, htake, hdrop, hempty.1, List.extract_eq_take_drop]

end LinkBody

/-! ## What a tag shows -/

namespace InlineTag

def IsLink (t : InlineTag) : Prop := t.name = "link" ∨ t.name = "linkplain"

def IsUnknown (t : InlineTag) : Prop := t.name ∉ ["code", "literal", "link", "linkplain"]

/-- A tag with nothing to show: an unknown tag without a body, or a link that shows an empty part of
its body. -/
def IsSilent (t : InlineTag) : Prop :=
  (t.IsUnknown ∧ t.body = "") ∨ (t.IsLink ∧ ∃ i, LinkBody.Shows t.body.toList i i)

/-- A tag gives a token that shows the part of its body from one offset to another. -/
inductive ShownAs (t : InlineTag) : Nat → Nat → Token → Prop where
  | code (hname : t.name = "code") : ShownAs t 0 t.body.length { text := t.body, style := .code }
  | literal (hname : t.name = "literal") :
      ShownAs t 0 t.body.length { text := t.body, style := .literal }
  | unknown (hname : t.IsUnknown) (hbody : t.body ≠ "") :
      ShownAs t 0 t.body.length { text := t.body }
  | link {lo hi : Nat} {text : String} {style : Style} (href : Option String)
      (hname : t.name = "link" ∧ style = .code ∨ t.name = "linkplain" ∧ style = .plain)
      (hshows : LinkBody.Shows t.body.toList lo hi)
      (htext : text.toList = t.body.toList.extract lo hi)
      (hlt : lo < hi) : ShownAs t lo hi { text, style, href, unresolved := href.isNone }

theorem kind_cases (t : InlineTag) :
    (t.name = "code" ∧ t.kind = .code) ∨ (t.name = "literal" ∧ t.kind = .literal) ∨
      (∃ style, (t.name = "link" ∧ style = .code ∨ t.name = "linkplain" ∧ style = .plain) ∧
        t.kind = .link style) ∨
      (t.IsUnknown ∧ t.kind = .unknown) := by
  unfold kind TagKind.ofName
  split
  · exact .inl ⟨by assumption, rfl⟩
  · exact .inr (.inl ⟨by assumption, rfl⟩)
  · exact .inr (.inr (.inl ⟨_, .inl ⟨by assumption, rfl⟩, rfl⟩))
  · exact .inr (.inr (.inl ⟨_, .inr ⟨by assumption, rfl⟩, rfl⟩))
  · exact .inr (.inr (.inr ⟨by simp_all [IsUnknown], rfl⟩))

variable {t : InlineTag} {r : LinkResolver} {lo hi : Nat} {token : Token}

theorem length_of_text_eq {shown body : String} (htext : shown.toList = body.toList.extract lo hi)
    (hhi : hi ≤ body.length) : shown.length = hi - lo := by
  rw [← String.length_toList, htext, List.extract_eq_take_drop, List.length_take, List.length_drop,
    String.length_toList]
  omega

theorem ShownAs.bounds (h : t.ShownAs lo hi token) : lo ≤ hi ∧ hi ≤ t.body.length := by
  cases h with
  | link _ _ hshows _ _ => simpa [String.length_toList] using hshows.bounds
  | _ => exact ⟨Nat.zero_le _, Nat.le_refl _⟩

theorem ShownAs.text_eq (h : t.ShownAs lo hi token) :
    token.text.toList = t.body.toList.extract lo hi := by
  cases h with
  | link _ _ _ htext _ => exact htext
  | _ => simp [List.extract_eq_take_drop, ← String.length_toList]

theorem ShownAs.unresolved_iff (h : t.ShownAs lo hi token) :
    token.unresolved = true ↔ t.IsLink ∧ token.href = none := by
  cases h with
  | link href hname _ _ _ =>
      have hlink : t.IsLink := hname.imp And.left And.left
      simp [hlink]
  | code hname => simp [IsLink, hname]
  | literal hname => simp [IsLink, hname]
  | unknown hname _ => simp_all [IsLink, IsUnknown]

theorem ShownAs.of_empty (h : t.ShownAs lo hi token) (hempty : token.text = "") :
    token.style ≠ .plain ∧ token.href = none ∧ token.unresolved = false := by
  have htext := h.text_eq
  obtain ⟨hle, hhi⟩ := h.bounds
  cases h with
  | code _ => simp
  | literal _ => simp
  | unknown _ hbody => exact absurd hempty hbody
  | link _ _ _ _ hlt =>
      have hlength := length_of_text_eq htext hhi
      rw [String.length_eq_zero_iff.2 hempty] at hlength
      omega

/-- A link gives a token unless it shows nothing. -/
theorem token?_of_link {style : Style} (hkind : t.kind = .link style)
    (hshows : LinkBody.Shows t.body.toList lo hi) :
    (lo = hi ∧ t.token? r = none) ∨
      (lo < hi ∧ t.token? r = some
        { text := (LinkBody.ofText t.body).caption, style,
          href := r.resolve (LinkBody.ofText t.body).target,
          unresolved := (r.resolve (LinkBody.ofText t.body).target).isNone }) := by
  obtain ⟨hle, hhi⟩ := hshows.bounds
  have hlength := length_of_text_eq hshows.caption_eq (by rwa [← String.length_toList])
  rcases Nat.eq_or_lt_of_le hle with heq | hlt
  · have hempty : (LinkBody.ofText t.body).caption.isEmpty = true := by
      rw [String.isEmpty_iff, ← String.length_eq_zero_iff]
      omega
    exact .inl ⟨heq, by simp [token?, hkind, hempty]⟩
  · have hne : (LinkBody.ofText t.body).caption.isEmpty = false := by
      rw [← Bool.not_eq_true, String.isEmpty_iff, ← String.length_eq_zero_iff]
      omega
    exact .inr ⟨hlt, by simp [token?, hkind, hne]⟩

theorem shownAs_of_token? (h : t.token? r = some token) : ∃ lo hi, t.ShownAs lo hi token := by
  rcases t.kind_cases with ⟨hname, hkind⟩ | ⟨hname, hkind⟩ | ⟨style, hname, hkind⟩ | ⟨hname, hkind⟩
  · simp only [token?, hkind, Option.some.injEq] at h
    exact ⟨_, _, h ▸ ShownAs.code hname⟩
  · simp only [token?, hkind, Option.some.injEq] at h
    exact ⟨_, _, h ▸ ShownAs.literal hname⟩
  · obtain ⟨lo, hi, hshows⟩ := LinkBody.exists_shows t.body.toList
    rcases token?_of_link (r := r) hkind hshows with ⟨_, hnone⟩ | ⟨hlt, hsome⟩
    · rw [hnone] at h
      cases h
    · rw [hsome, Option.some.injEq] at h
      exact ⟨lo, hi, h ▸ ShownAs.link _ hname hshows hshows.caption_eq hlt⟩
  · simp only [token?, hkind, Option.ite_none_left_eq_some, Option.some.injEq] at h
    exact ⟨_, _, h.2 ▸ ShownAs.unknown hname (by simpa using h.1)⟩

theorem token?_eq_none_iff : t.token? r = none ↔ t.IsSilent := by
  rcases t.kind_cases with ⟨hname, hkind⟩ | ⟨hname, hkind⟩ | ⟨style, hname, hkind⟩ | ⟨hname, hkind⟩
  · simp [token?, hkind, IsSilent, IsUnknown, IsLink, hname]
  · simp [token?, hkind, IsSilent, IsUnknown, IsLink, hname]
  · have hlink : t.IsLink := hname.imp And.left And.left
    have hknown : ¬ t.IsUnknown := by
      rcases hlink with hlink | hlink <;> simp [IsUnknown, hlink]
    simp only [IsSilent, hknown, hlink, false_and, true_and, false_or]
    constructor
    · intro hnone
      obtain ⟨lo, hi, hshows⟩ := LinkBody.exists_shows t.body.toList
      rcases token?_of_link (r := r) hkind hshows with ⟨rfl, _⟩ | ⟨_, hsome⟩
      · exact ⟨lo, hshows⟩
      · rw [hnone] at hsome
        cases hsome
    · rintro ⟨i, hshows⟩
      rcases token?_of_link (r := r) hkind hshows with ⟨_, hnone⟩ | ⟨hlt, _⟩
      · exact hnone
      · exact absurd hlt (Nat.lt_irrefl i)
  · have hlink : ¬ t.IsLink := by
      intro hlink
      rcases hlink with hlink | hlink <;> simp [IsUnknown, hlink] at hname
    simp [token?, hkind, IsSilent, hname, hlink]

end InlineTag

/-- What a token shows does not depend on the resolver. -/
theorem Segment.token?_map_eq (r r' : LinkResolver) (x : Segment) :
    (x.token? r).map (fun token => (token.text, token.style)) =
      (x.token? r').map fun token => (token.text, token.style) := by
  cases x with
  | plain s => rfl
  | tag t =>
      simp only [Segment.token?, InlineTag.token?]
      cases t.kind with
      | link style =>
          by_cases hempty : (LinkBody.ofText t.body).caption.isEmpty = true
          · simp [hempty]
          · simp [hempty]
      | _ => rfl

/-! ## Cuts -/

/-- The offset at which the body of a tag begins. -/
def InlineTag.bodyStart (t : InlineTag) : Nat := t.start + t.name.length + 3

/-- A token, the segment that it was made from, and the part of the text that it shows. -/
structure Cut where
  segment : Segment
  token : Token
  start : Nat
  stop : Nat

namespace Cut

/-- Where a token comes from: it shows all of a plain segment, or a part of the body of a tag. -/
def HasSource (c : Cut) (text : List Char) : Prop :=
  match c.segment with
  | .plain s => c.token = { text := s }
  | .tag t => text.extract t.bodyStart t.stop = t.body.toList ∧ c.stop ≤ t.stop ∧
      ∃ lo hi, t.ShownAs lo hi c.token ∧ c.start = t.bodyStart + lo ∧ c.stop = t.bodyStart + hi

structure Fits (c : Cut) (text : List Char) : Prop where
  text_eq : c.token.text.toList = text.extract c.start c.stop
  start_le : c.start ≤ c.stop
  stop_le : c.stop ≤ text.length
  source : c.HasSource text

variable {c : Cut} {text : List Char}

theorem Fits.unresolved_iff (h : c.Fits text) :
    c.token.unresolved = true ↔ (∃ t, c.segment = .tag t ∧ t.IsLink) ∧ c.token.href = none := by
  have hsource := h.source
  unfold HasSource at hsource
  split at hsource
  · rename_i s hs
    simp [hsource, hs]
  · rename_i t ht
    obtain ⟨_, _, lo, hi, hshown, _, _⟩ := hsource
    simp [ht, hshown.unresolved_iff]

end Cut

/-- Cuts for the tokens of some segments, from an offset of the text on. -/
structure CutsFrom (r : LinkResolver) (text : List Char) (offset : Nat) (segments : List Segment)
    (cuts : List Cut) : Prop where
  tokens_eq : cuts.map Cut.token = segments.filterMap (Segment.token? r)
  segments_eq : cuts.map Cut.segment = segments.filter fun x => (x.token? r).isSome
  fits : ∀ c ∈ cuts, c.Fits text
  offset_le : ∀ c ∈ cuts, offset ≤ c.start
  ordered : cuts.Pairwise fun c d => c.stop ≤ d.start

namespace CutsFrom

variable {r : LinkResolver} {text : List Char} {offset next : Nat} {segments : List Segment}
    {cuts : List Cut}

theorem nil : CutsFrom r text offset [] [] := ⟨rfl, rfl, by simp, by simp, .nil⟩

theorem cons {c : Cut} (hc : c.segment.token? r = some c.token) (hfits : c.Fits text)
    (hstart : offset ≤ c.start) (hstop : c.stop ≤ next) (h : CutsFrom r text next segments cuts) :
    CutsFrom r text offset (c.segment :: segments) (c :: cuts) where
  tokens_eq := by simp [hc, h.tokens_eq]
  segments_eq := by simp [hc, h.segments_eq]
  fits := List.forall_mem_cons.2 ⟨hfits, h.fits⟩
  offset_le := by
    refine List.forall_mem_cons.2 ⟨hstart, fun d hd => ?_⟩
    have := h.offset_le d hd
    have := hfits.start_le
    omega
  ordered := List.pairwise_cons.2 ⟨fun d hd => hstop.trans (h.offset_le d hd), h.ordered⟩

theorem cons_plain {s : String} (hsource : text.extract offset (offset + s.length) = s.toList)
    (hle : offset + s.length ≤ text.length)
    (h : CutsFrom r text (offset + s.length) segments cuts) :
    CutsFrom r text offset (.plain s :: segments)
      (⟨.plain s, { text := s }, offset, offset + s.length⟩ :: cuts) := by
  have hfits : Cut.Fits ⟨.plain s, { text := s }, offset, offset + s.length⟩ text :=
    ⟨hsource.symm, Nat.le_add_right _ _, hle, rfl⟩
  exact cons rfl hfits (Nat.le_refl _) (Nat.le_refl _) h

theorem cons_none {x : Segment} (hx : x.token? r = none) (hle : offset ≤ next)
    (h : CutsFrom r text next segments cuts) : CutsFrom r text offset (x :: segments) cuts where
  tokens_eq := by simp [hx, h.tokens_eq]
  segments_eq := by simp [hx, h.segments_eq]
  fits := h.fits
  offset_le := fun c hc => hle.trans (h.offset_le c hc)
  ordered := h.ordered

end CutsFrom

/-! ## Cuts of a scan -/

namespace InlineTag.WrittenIn

variable {t : InlineTag} {text : List Char} {gap : Char}

theorem bodyStart_add_length (h : t.WrittenIn text gap) : t.bodyStart + t.body.length = t.stop := by
  have hlength := congrArg List.length h.source_eq
  have := h.start_le
  have := h.stop_lt
  simp only [List.extract_eq_take_drop, List.length_take, List.length_drop, List.length_append,
    List.length_cons, List.length_nil, String.length_toList] at hlength
  unfold bodyStart
  omega

theorem drop_bodyStart (h : t.WrittenIn text gap) :
    text.drop t.bodyStart = t.body.toList ++ '\x7d' :: text.drop (t.stop + 1) := by
  have hstart : text.extract t.start (t.stop + 1) ++ text.drop (t.stop + 1) = text.drop t.start :=
    extract_append_drop (Nat.le_succ_of_le h.start_le)
  rw [bodyStart, Nat.add_assoc, ← List.drop_drop, ← hstart, h.source_eq]
  simp [← String.length_toList]

theorem extract_body (h : t.WrittenIn text gap) {lo hi : Nat} (hle : lo ≤ hi)
    (hhi : hi ≤ t.body.length) :
    text.extract (t.bodyStart + lo) (t.bodyStart + hi) = t.body.toList.extract lo hi := by
  have hlo : lo ≤ t.body.toList.length := by
    rw [String.length_toList]
    omega
  have htake : hi - lo ≤ (t.body.toList.drop lo).length := by
    rw [List.length_drop, String.length_toList]
    omega
  rw [List.extract_eq_take_drop, List.extract_eq_take_drop, Nat.add_sub_add_left, ← List.drop_drop,
    h.drop_bodyStart, List.drop_append_of_le_length hlo, List.take_append_of_le_length htake]

end InlineTag.WrittenIn

theorem cut_of_tag {t : InlineTag} {text : List Char} {gap : Char} (ht : t.WrittenIn text gap)
    {r : LinkResolver} {token : Token} (htoken : t.token? r = some token) :
    ∃ c : Cut, c.segment = .tag t ∧ c.token = token ∧ c.Fits text ∧ t.start ≤ c.start ∧
      c.stop ≤ t.stop := by
  obtain ⟨lo, hi, hshown⟩ := InlineTag.shownAs_of_token? htoken
  obtain ⟨hle, hhi⟩ := hshown.bounds
  have hstop := ht.bodyStart_add_length
  have hlt := ht.stop_lt
  refine ⟨⟨.tag t, token, t.bodyStart + lo, t.bodyStart + hi⟩, rfl, rfl, ⟨?_, ?_, ?_, ?_⟩, ?_, ?_⟩
  · exact hshown.text_eq.trans (ht.extract_body hle hhi).symm
  · exact Nat.add_le_add_left hle _
  · show t.bodyStart + hi ≤ text.length
    omega
  · have hbody : text.extract t.bodyStart t.stop = t.body.toList := by
      have hextract := ht.extract_body (Nat.zero_le _) (Nat.le_refl t.body.length)
      rw [hstop] at hextract
      simpa [List.extract_eq_take_drop, ← String.length_toList] using hextract
    exact ⟨hbody, show t.bodyStart + hi ≤ t.stop by omega, lo, hi, hshown, rfl, rfl⟩
  · show t.start ≤ t.bodyStart + lo
    unfold InlineTag.bodyStart
    omega
  · show t.bodyStart + hi ≤ t.stop
    omega

theorem TilesFrom.exists_cuts {text : List Char} {offset : Nat} {segments : List Segment}
    (h : TilesFrom text offset segments) (r : LinkResolver) :
    ∃ cuts, CutsFrom r text offset segments cuts := by
  induction h with
  | done => exact ⟨[], .nil⟩
  | @rest offset hlt _ =>
      have hend : offset + (String.ofList (text.drop offset)).length = text.length := by
        simp
        omega
      refine ⟨_, .cons_plain ?_ (Nat.le_of_eq hend) .nil⟩
      rw [hend, String.toList_ofList, List.extract_eq_take_drop]
      exact List.take_of_length_le (by simp)
  | @tag offset t gap tail hstart ht _ ih =>
      obtain ⟨cuts, hcuts⟩ := ih
      have hle := ht.start_le
      cases htoken : t.token? r with
      | none => exact ⟨cuts, hcuts.cons_none htoken (by omega)⟩
      | some token =>
          obtain ⟨c, hsegment, rfl, hfits, hcstart, hcstop⟩ := cut_of_tag ht htoken
          refine ⟨c :: cuts, ?_⟩
          rw [← hsegment]
          exact hcuts.cons (by rw [hsegment]; exact htoken) hfits (by omega) (by omega)
  | @plain offset s t tail _ hsource _ htail ih =>
      obtain ⟨cuts, hcuts⟩ := ih
      obtain ⟨hstart, gap, ht⟩ := htail.tag_inv
      have := ht.start_le
      have := ht.stop_lt
      exact ⟨_, hcuts.cons_plain hsource (by omega)⟩

/-! ## The main statement -/

/-- How the comment that is read from a text accounts for its tokens. -/
structure Accounting (r : LinkResolver) (text : String) : Prop where
  /-- The tokens are parts of the text, in order, from all segments that are not silent. -/
  cuts : ∃ cuts : List Cut, cuts.map Cut.token = (Comment.ofText r text).tokens ∧
    cuts.map Cut.segment = (Scan.ofText text).segments.filter (fun x => (x.token? r).isSome) ∧
    (∀ c ∈ cuts, c.Fits text.toList) ∧ cuts.Pairwise (fun c d => c.stop ≤ d.start) ∧
    ∀ c ∈ cuts, c.token.unresolved = true ↔ (∃ t, c.segment = .tag t ∧ t.IsLink) ∧
      c.token.href = none
  silent : ∀ x ∈ (Scan.ofText text).segments, x.token? r = none ↔ ∃ t, x = .tag t ∧ t.IsSilent
  empty : ∀ token ∈ (Comment.ofText r text).tokens, token.text = "" →
    token.style ≠ .plain ∧ token.href = none ∧ token.unresolved = false
  resolver : ∀ r' : LinkResolver,
    (Comment.ofText r' text).tokens.map (fun token => (token.text, token.style)) =
    (Comment.ofText r text).tokens.map fun token => (token.text, token.style)
  settings : ∀ (settings : Settings) (session : Session),
    (Use.readComment r settings text session).2 = .ok (Comment.ofText r text)

/-- Reading a comment invents, reorders and duplicates nothing. -/
theorem reading_accounts (r : LinkResolver) (text : String) : Accounting r text := by
  have htiles : TilesFrom text.toList 0 (Scan.ofText text).segments := tiles_ofChars [] text.toList
  obtain ⟨cuts, hcuts⟩ := htiles.exists_cuts r
  constructor
  case cuts =>
    exact ⟨cuts, hcuts.tokens_eq, hcuts.segments_eq, hcuts.fits, hcuts.ordered,
      fun c hc => (hcuts.fits c hc).unresolved_iff⟩
  case silent =>
    intro x _
    cases x with
    | plain s => simp [Segment.token?]
    | tag t => simp [Segment.token?, InlineTag.token?_eq_none_iff]
  case empty =>
    intro token htoken hempty
    obtain ⟨x, hx, hxtoken⟩ := List.mem_filterMap.1 htoken
    cases x with
    | plain s =>
        obtain ⟨before, after, he⟩ := List.append_of_mem hx
        rw [he] at htiles
        cases hxtoken
        exact absurd hempty htiles.append_right.plain_inv
    | tag t =>
        obtain ⟨lo, hi, hshown⟩ := InlineTag.shownAs_of_token? hxtoken
        exact hshown.of_empty hempty
  case resolver =>
    intro r'
    simp only [Comment.ofText, List.map_filterMap, Segment.token?_map_eq r' r]
  case settings => exact fun _ _ => rfl

end DocMarkup
