import DocMarkup.Proofs.Tag.FirstTag

/-!
Scanning undoes writing: a text that is written from plain runs and tags is scanned into those runs
and tags, each tag where it was written (`scan_written_items`). A run may end in the beginning of a
marker, because what follows it is a brace; a body may hold tags of its own, because its braces
balance.
-/

namespace DocMarkup

/-- What a text is written from. -/
inductive Item where
  | plain (text : String)
  | tag (name : String) (gap : Char) (body : String)
  deriving DecidableEq

namespace Item

def isPlain : Item → Bool
  | .plain _ => true
  | .tag _ _ _ => false

def written : Item → List Char
  | .plain s => s.toList
  | .tag name gap body => '\x7b' :: '@' :: name.toList ++ gap :: body.toList ++ ['\x7d']

def WellFormed : Item → Prop
  | .plain s => s ≠ "" ∧ TagMarker.Unmarked s.toList
  | .tag name gap body =>
    name ≠ "" ∧ (∀ c ∈ name.toList, Text.isWord c = true) ∧ Text.isBlank gap = true ∧
      Brace.Balanced (gap == '\\') body.toList

/-- The segment of an item that is written at an offset. -/
def segment (offset : Nat) : Item → Segment
  | .plain s => .plain s
  | .tag name gap body =>
    .tag
      { name, body, start := offset,
        stop := offset + (Item.tag name gap body).written.length - 1 }

/-- The segments of items that are written one after the other from an offset on. -/
def segmentsFrom (offset : Nat) : List Item → List Segment
  | [] => []
  | item :: items => item.segment offset :: segmentsFrom (offset + item.written.length) items

end Item

/-! ## No marker reaches over a brace -/

theorem TagMarker.Begins.brace_not_mem {m : TagMarker} {text : List Char} (h : m.Begins text) :
    '\x7b' ∉ '@' :: m.name ++ [m.gap] := by
  intro hmem
  simp only [List.cons_append, List.mem_cons, List.mem_append, List.not_mem_nil, or_false] at hmem
  rcases hmem with hat | hname | hgap
  · exact absurd hat (by decide)
  · exact absurd (h.isWord_name _ hname) (by decide)
  · exact absurd (hgap ▸ h.isBlank_gap) (by decide)

theorem TagMarker.Begins.of_append_brace {m : TagMarker} {plain rest : List Char} (hne : plain ≠ [])
    (h : m.Begins (plain ++ '\x7b' :: rest)) : ∃ m' : TagMarker, m'.Begins plain := by
  have hfront : plain ++ '\x7b' :: rest = ('\x7b' :: '@' :: m.name ++ [m.gap]) ++ m.rest := by
    rw [h.text_eq]
    simp
  rcases List.append_eq_append_iff.1 hfront with ⟨surplus, hsurplus, hrest⟩ | ⟨rest', hplain, _⟩
  · cases surplus with
    | nil =>
        exact ⟨⟨m.name, m.gap, []⟩, by simpa using hsurplus.symm, h.name_ne_nil, h.isWord_name,
          h.isBlank_gap⟩
    | cons c surplus =>
        -- the brace would stand inside the marker, and not at its beginning
        obtain ⟨rfl, _⟩ := List.cons.inj hrest
        obtain ⟨p, plain, rfl⟩ := List.exists_cons_of_ne_nil hne
        have htail : '@' :: m.name ++ [m.gap] = plain ++ '\x7b' :: surplus :=
          (List.cons.inj hsurplus).2
        exact absurd (show '\x7b' ∈ '@' :: m.name ++ [m.gap] by rw [htail]; simp) h.brace_not_mem
  · exact ⟨⟨m.name, m.gap, rest'⟩, by rw [hplain]; simp, h.name_ne_nil, h.isWord_name,
      h.isBlank_gap⟩

theorem TagMarker.first?_append_brace {m : TagMarker} {plain rest : List Char}
    (hplain : Unmarked plain) (hm : m.Begins ('\x7b' :: rest)) :
    first? (plain ++ '\x7b' :: rest) = some (plain, m) := by
  rw [first?_eq_some_iff]
  refine ⟨List.prefix_append _ _, by simpa using hm, ?_⟩
  intro i hi m' hm'
  rw [List.drop_append_of_le_length (Nat.le_of_lt hi)] at hm'
  obtain ⟨m'', hm''⟩ := hm'.of_append_brace (by simpa using hi)
  exact hplain i m'' hm''

/-! ## The first tag that was written -/

theorem isFirst_of_written {plain after : List Char} {name : String} {gap : Char} {body : String}
    (hplain : TagMarker.Unmarked plain) (htag : (Item.tag name gap body).WellFormed) :
    TagSplit.IsFirst ⟨plain, name.toList, gap, body.toList, after⟩
      (plain ++ (Item.tag name gap body).written ++ after) := by
  obtain ⟨hname, hword, hblank, hbody⟩ := htag
  have hgap : (gap == '\\') = false := beq_eq_false_iff_ne.2 (Text.ne_of_isBlank hblank (by decide))
  constructor
  · have hmarker : (TagSplit.marker ⟨plain, name.toList, gap, body.toList, after⟩).Begins
        ((Item.tag name gap body).written ++ after) :=
      ⟨by simp [Item.written, TagSplit.marker], by simpa [TagSplit.marker] using hname, hword,
        hblank⟩
    rw [List.append_assoc]
    exact TagMarker.first?_append_brace hplain hmarker
  · rw [hgap] at hbody
    exact Brace.close?_balanced hbody after

/-- A run and the tag after it are found, and the scan goes on behind them. -/
theorem segments_written_tag {plain : List Char} {name : String} {gap : Char} {body : String}
    (hplain : TagMarker.Unmarked plain) (htag : (Item.tag name gap body).WellFormed)
    (offset : Nat) (after : List Char) :
    (Scan.ofChars offset (plain ++ (Item.tag name gap body).written ++ after)).segments =
      Scan.run plain ++ (Item.tag name gap body).segment (offset + plain.length) ::
        (Scan.ofChars (offset + plain.length + (Item.tag name gap body).written.length)
          after).segments := by
  rw [Scan.segments_of_isFirst (isFirst_of_written hplain htag)]
  simp [TagSplit.tag, TagSplit.length, TagSplit.written, Item.segment, Item.written, Nat.add_assoc]

theorem segments_written_items {items : List Item} (hitems : ∀ item ∈ items, item.WellFormed)
    (halt : items.IsChain fun a b => ¬ (a.isPlain ∧ b.isPlain)) (offset : Nat) :
    (Scan.ofChars offset (items.flatMap Item.written)).segments =
      Item.segmentsFrom offset items := by
  match items with
  | [] => exact Scan.segments_of_unclosed (Unclosed.of_unmarked TagMarker.unmarked_nil) offset
  | .tag name gap body :: items =>
      have hrest :=
        segments_written_items (fun item hmem => hitems item (List.mem_cons_of_mem _ hmem))
        halt.of_cons (offset + (Item.tag name gap body).written.length)
      have htag := segments_written_tag TagMarker.unmarked_nil (hitems _ List.mem_cons_self) offset
        (items.flatMap Item.written)
      simp only [List.nil_append, List.length_nil, Nat.add_zero] at htag
      rw [List.flatMap_cons, htag, hrest]
      rfl
  | [.plain s] =>
      obtain ⟨hne, hplain⟩ := hitems _ List.mem_cons_self
      rw [List.flatMap_cons, List.flatMap_nil, List.append_nil, Item.written,
        Scan.segments_of_unclosed (Unclosed.of_unmarked hplain) offset]
      simp [Scan.run, Item.segmentsFrom, Item.segment, hne]
  | .plain s :: .plain s' :: items => exact absurd halt (by simp [Item.isPlain])
  | .plain s :: .tag name gap body :: items =>
      obtain ⟨hne, hplain⟩ := hitems _ List.mem_cons_self
      have hrest := segments_written_items
        (fun item hmem => hitems item (List.mem_cons_of_mem _ (List.mem_cons_of_mem _ hmem)))
        halt.of_cons.of_cons (offset + s.toList.length + (Item.tag name gap body).written.length)
      have htag :=
        segments_written_tag hplain (hitems _ (List.mem_cons_of_mem _ List.mem_cons_self)) offset
        (items.flatMap Item.written)
      rw [List.flatMap_cons, List.flatMap_cons, ← List.append_assoc, Item.written, htag, hrest]
      simp [Scan.run, hne, Item.segmentsFrom, Item.segment, Item.written]

/-- Scanning undoes writing. -/
theorem scan_written_items (items : List Item) (hitems : ∀ item ∈ items, item.WellFormed)
    (halt : items.IsChain fun a b => ¬ (a.isPlain ∧ b.isPlain)) :
    (Scan.ofText (String.ofList (items.flatMap Item.written))).segments =
      Item.segmentsFrom 0 items := by
  rw [Scan.ofText, String.toList_ofList]
  exact segments_written_items hitems halt 0

/-- A run that ends like a marker, a tag with a tag and an escaped brace in it, and a brace. -/
theorem scan_written_items_nested :
    (Scan.ofText (String.ofList
        ([.plain "a \x7b@x", .tag "link" ' ' "b\x7b@c d\x7d\\\x7b", .plain "\x7b"].flatMap
          Item.written))).segments =
      [.plain "a \x7b@x", .tag ⟨"link", "b\x7b@c d\x7d\\\x7b", 5, 21⟩, .plain "\x7b"] := by
  refine (scan_written_items _ ?_ ?_).trans (by decide)
  · simp only [List.mem_cons, List.not_mem_nil, or_false, forall_eq_or_imp, forall_eq]
    refine ⟨⟨by decide, ?_⟩, ⟨by decide, List.all_eq_true.1 (by decide), by decide, ?_, ?_⟩,
      by decide, ?_⟩
    · exact TagMarker.first?_eq_none_iff.1 (by decide)
    · decide
    · decide
    · exact TagMarker.first?_eq_none_iff.1 (by decide)
  · decide

end DocMarkup
