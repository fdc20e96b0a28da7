import TaintGrep.Proofs.Scanning
import TaintGrep.Proofs.ScriptTags

/-! The script regions of a page by the positions of its tags. Which regions a page has is said without
the scan, by conditions that determine them, and the scan finds exactly these. -/

namespace TaintGrep.Script

open TaintGrep.Text

lemma block?_spec {cs : List Char} {b : Block} (h : block? cs = some b) :
    IsOpeningTag b.opening ∧ IsClosingTag b.closing ∧ ∃ rest, cs = b.chars ++ rest ∧
      ∀ g, g ≠ [] → g <:+ b.text → closingTag? (g ++ (b.closing ++ rest)) = none := by
  simp only [block?, Option.bind_eq_bind, Option.bind_eq_some_iff, Option.pure_def,
    Option.some.injEq, Prod.exists] at h
  obtain ⟨t, r, ht, n, hn, u, q, hu, rfl⟩ := h
  obtain ⟨rfl, hopening⟩ := openingTag?_eq_some_iff.mp ht
  obtain ⟨hq, hclosing⟩ := closingTag?_eq_some_iff.mp hu
  obtain ⟨hle, -, hfirst⟩ := firstIndex?_eq_some_iff.mp hn
  refine ⟨hopening, hclosing, q, ?_, ?_⟩
  · simp only [Block.chars, List.append_assoc, ← hq, List.take_append_drop]
  · rintro g hg ⟨v, hv⟩
    have hr : r = v ++ (g ++ (u ++ q)) := by
      rw [← hq, ← List.append_assoc, hv, List.take_append_drop]
    have hl := congrArg List.length hv
    have hpos := List.length_pos_iff.mpr hg
    simp only [List.length_append, List.length_take] at hl
    have hnone := hfirst v.length (by omega)
    rw [hr, List.drop_left] at hnone
    simpa using hnone

lemma reads_block? : Reads block? Block.chars where
  begins h := block?_eq_some h
  nonempty h := by
    obtain ⟨u, hu, -⟩ := (block?_spec h).1.angled
    simp [Block.chars, hu]

lemma block?_ne_none {t u : List Char} (m r : List Char) (ht : IsOpeningTag t)
    (hu : IsClosingTag u) : block? (t ++ (m ++ (u ++ r))) ≠ none := by
  have ho : openingTag? (t ++ (m ++ (u ++ r))) = some (t, m ++ (u ++ r)) :=
    openingTag?_eq_some_iff.mpr ⟨rfl, ht⟩
  have hc : closingTag? (u ++ r) = some (u, r) := closingTag?_eq_some_iff.mpr ⟨rfl, hu⟩
  cases hn : firstIndex? (fun r => (closingTag? r).isSome) (m ++ (u ++ r)) with
  | none =>
    have hf := firstIndex?_eq_none_iff.mp hn m.length (by simp)
    simp [hc] at hf
  | some n =>
    obtain ⟨-, hs, -⟩ := firstIndex?_eq_some_iff.mp hn
    obtain ⟨⟨w, q⟩, hw⟩ := Option.isSome_iff_exists.mp hs
    simp [block?, ho, hn, hw]

lemma Block.chars_append (b : Block) (rest : List Char) :
    b.chars ++ rest = b.opening ++ (b.text ++ (b.closing ++ rest)) := by
  simp [Block.chars]

/-- An opening tag before a block ends before it, and the closing tag of the block closes it. -/
lemma block?_ne_none_before {t r g rest : List Char} {b : Block} (ht : IsOpeningTag t)
    (ho : IsOpeningTag b.opening) (hc : IsClosingTag b.closing) (hg : g ≠ [])
    (he : g ++ (b.chars ++ rest) = t ++ r) : block? (g ++ (b.chars ++ rest)) ≠ none := by
  obtain ⟨u, hu, -⟩ := ho.angled
  have hlt : t ++ r = g ++ '<' :: (u ++ ['>'] ++ (b.text ++ (b.closing ++ rest))) := by
    rw [← he, b.chars_append, hu, List.cons_append]
  obtain ⟨y, rfl⟩ := ht.angled.append_of_append_eq hg hlt
  have hsome := block?_ne_none (y ++ (b.opening ++ b.text)) rest ht hc
  rw [b.chars_append]
  simpa only [List.append_assoc] using hsome

def TagAt (IsTag : List Char → Prop) (body : String) (start stop : Nat) : Prop :=
  ∃ t rest, IsTag t ∧ ContinuesAt body.toList start (t ++ rest) ∧ stop = start + byteLength t

def OpeningTagAt (body : String) (start stop : Nat) : Prop := TagAt IsOpeningTag body start stop

def ClosingTagAt (body : String) (start stop : Nat) : Prop := TagAt IsClosingTag body start stop

/-- `text` stands at byte `offset` between an opening tag that starts at `opens` and a closing tag that
stops at `closes`, both the first there can be from `start` on. -/
structure Delimits (body : String) (start : Nat) (text : String) (offset opens closes : Nat) : Prop where
  slice : ∃ rest, ContinuesAt body.toList offset (text.toList ++ rest)
  start_le : start ≤ opens
  opening : OpeningTagAt body opens offset
  closing : ClosingTagAt body (offset + byteLength text.toList) closes
  no_closing : ∀ s e, ClosingTagAt body s e → offset ≤ s → offset + byteLength text.toList ≤ s
  no_opening : ∀ s e, OpeningTagAt body s e → start ≤ s → opens ≤ s

/-- The texts and offsets of the regions from byte `start` on: each is delimited from the end of the
closing tag before it, and after the last no opening tag is closed. -/
def Delimited (body : String) : Nat → List (String × Nat) → Prop
  | start, [] => ∀ s e s' e', OpeningTagAt body s e → start ≤ s → ClosingTagAt body s' e' → s' < e
  | start, (text, offset) :: rest =>
    ∃ opens closes, Delimits body start text offset opens closes ∧ Delimited body closes rest

variable {body : String} {start : Nat}

lemma TagAt.stop_unique {IsTag : List Char → Prop} (ha : ∀ t, IsTag t → Angled t) {s e e' : Nat}
    (h : TagAt IsTag body s e) (h' : TagAt IsTag body s e') : e = e' := by
  obtain ⟨t, r, ht, hc, rfl⟩ := h
  obtain ⟨t', r', ht', hc', rfl⟩ := h'
  rw [(ha t ht).eq_of_append_eq (ha t' ht') (hc.unique hc')]

lemma Delimits.unique {text text' : String} {offset offset' opens opens' closes closes' : Nat}
    (h : Delimits body start text offset opens closes)
    (h' : Delimits body start text' offset' opens' closes') :
    text = text' ∧ offset = offset' ∧ closes = closes' := by
  obtain rfl : opens = opens' := Nat.le_antisymm (h.no_opening _ _ h'.opening h'.start_le)
    (h'.no_opening _ _ h.opening h.start_le)
  obtain rfl : offset = offset' := h.opening.stop_unique (fun _ => IsOpeningTag.angled) h'.opening
  have hl := Nat.le_antisymm (h.no_closing _ _ h'.closing (Nat.le_add_right _ _))
    (h'.no_closing _ _ h.closing (Nat.le_add_right _ _))
  obtain ⟨r, hr⟩ := h.slice
  obtain ⟨r', hr'⟩ := h'.slice
  have ht := (append_inj_of_byteLength (hr.unique hr') (Nat.add_left_cancel hl)).1
  obtain rfl : text = text' := String.toList_inj.mp ht
  exact ⟨rfl, rfl, h.closing.stop_unique (fun _ => IsClosingTag.angled) h'.closing⟩

lemma Delimits.not_delimited_nil {text : String} {offset opens closes : Nat}
    (h : Delimits body start text offset opens closes) : ¬ Delimited body start [] := by
  intro hn
  have hlt := hn _ _ _ _ h.opening h.start_le h.closing
  omega

lemma Delimited.unique {rs rs' : List (String × Nat)} (h : Delimited body start rs)
    (h' : Delimited body start rs') : rs = rs' := by
  induction rs generalizing rs' start with
  | nil =>
    cases rs' with
    | nil => rfl
    | cons r' rs' =>
      obtain ⟨o', c', hd', -⟩ := h'
      exact absurd h hd'.not_delimited_nil
  | cons r rs ih =>
    obtain ⟨o, c, hd, ht⟩ := h
    cases rs' with
    | nil => exact absurd h' hd.not_delimited_nil
    | cons r' rs' =>
      obtain ⟨o', c', hd', ht'⟩ := h'
      obtain ⟨htext, hoffset, rfl⟩ := hd.unique hd'
      rw [Prod.ext htext hoffset, ih ht ht']

lemma exists_block {s e s' e' : Nat} (ho : OpeningTagAt body s e) (hc : ClosingTagAt body s' e')
    (he : e ≤ s') : ∃ x, ContinuesAt body.toList s x ∧ x ≠ [] ∧ block? x ≠ none := by
  obtain ⟨t, r, ht, hs, rfl⟩ := ho
  obtain ⟨u, q, hu, hs', -⟩ := hc
  obtain ⟨m, rfl, -⟩ := hs.skip.exists_between hs' he
  refine ⟨_, hs, ?_, block?_ne_none m q ht hu⟩
  obtain ⟨v, rfl, -⟩ := ht.angled
  simp

lemma delimits_block {gap rest : List Char} {b : Block}
    (hp : ContinuesAt body.toList start (gap ++ (b.chars ++ rest)))
    (hgap : ∀ g, g ≠ [] → g <:+ gap → block? (g ++ (b.chars ++ rest)) = none)
    (hfind : block? (b.chars ++ rest) = some b) :
    Delimits body start (String.ofList b.text) (start + byteLength gap + byteLength b.opening)
      (start + byteLength gap) (start + byteLength gap + byteLength b.chars) := by
  obtain ⟨hopening, hclosing, rest', hr, hfirst⟩ := block?_spec hfind
  obtain rfl := List.append_cancel_left hr
  have ho := hp.skip
  rw [b.chars_append] at ho
  refine ⟨⟨b.closing ++ rest, ?_⟩, Nat.le_add_right _ _, ⟨b.opening, _, hopening, ho, rfl⟩,
    ⟨b.closing, rest, hclosing, ?_, ?_⟩, ?_, ?_⟩
  · simpa using ho.skip
  · simpa using ho.skip.skip
  · simp [Block.chars]
    omega
  · rintro s e ⟨t, r, ht, hs, -⟩ hle
    apply Nat.le_of_not_lt
    intro hlt
    obtain ⟨g, hg, hsuf, hx⟩ := ho.skip.within hs hle (by simpa using hlt)
    have hnone := hfirst g hg hsuf
    rw [← hx, closingTag?_eq_some_iff.mpr ⟨rfl, ht⟩] at hnone
    cases hnone
  · rintro s e ⟨t, r, ht, hs, -⟩ hle
    apply Nat.le_of_not_lt
    intro hlt
    obtain ⟨g, hg, hsuf, hx⟩ := hp.within hs hle hlt
    exact block?_ne_none_before ht hopening hclosing hg hx.symm (hgap g hg hsuf)

lemma delimited_of_scanned {p : Place} {cs : List Char} {ms : List (Place × Block)}
    (h : Scanned block? Block.chars p cs ms) (hp : ContinuesAt body.toList p.offset cs) :
    Delimited body p.offset
      (ms.map fun m => (String.ofList m.2.text, (m.1.advance m.2.opening).offset)) := by
  induction h with
  | @done p cs hnone =>
    intro s e s' e' ho hs hc
    apply Nat.lt_of_not_le
    intro he
    obtain ⟨x, hx, hne, hsome⟩ := exists_block ho hc he
    obtain ⟨u, hu, -⟩ := hp.exists_between hx hs
    exact hsome (hnone x hne ⟨u, hu.symm⟩)
  | @found p gap b rest ms hgap hfind htail ih =>
    refine ⟨p.offset + byteLength gap, p.offset + byteLength gap + byteLength b.chars, ?_, ?_⟩
    · simpa only [Place.advance_offset] using delimits_block hp hgap hfind
    · have ht := ih (by simpa only [Place.advance_offset] using hp.skip.skip)
      simpa only [Place.advance_offset] using ht

lemma scanned_regions (body : String) :
    ∃ ms, Scanned block? Block.chars Place.start body.toList ms ∧
      regions .all body = ms.map fun m => Region.ofBlock m.1 m.2 :=
  ⟨_, scanned_scan reads_block? body.toList, rfl⟩

lemma mem_regions {mode : ScanMode} {r : Region} (h : r ∈ regions mode body) :
    ∃ passed rest, body.toList = passed ++ (r.text.toList ++ rest) ∧ r.offset = byteLength passed ∧
      r.line = 1 + newlines passed := by
  obtain ⟨ms, hs, hr⟩ := scanned_regions body
  have hall : r ∈ regions .all body := (ScanMode.keep_sublist mode _).subset h
  rw [hr] at hall
  obtain ⟨m, hm, rfl⟩ := List.mem_map.mp hall
  obtain ⟨passed, rest, hbody, hp, -⟩ := hs.sound hm
  have hplace : m.1.advance m.2.opening = Place.start.advance (passed ++ m.2.opening) := by
    rw [hp, Place.advance_append]
  refine ⟨passed ++ m.2.opening, m.2.closing ++ rest, ?_, ?_⟩
  · simp [hbody, Block.chars, Region.ofBlock]
  · simp only [Region.ofBlock, hplace, Place.start_advance, and_self]

lemma delimited_regions (body : String) :
    Delimited body 0 ((regions .all body).map fun r => (r.text, r.offset)) := by
  obtain ⟨ms, hs, hr⟩ := scanned_regions body
  rw [hr, List.map_map]
  exact delimited_of_scanned hs (ContinuesAt.start body.toList)

lemma regions_increasing (body : String) :
    (regions .all body).Pairwise fun r r' => r.offset < r'.offset := by
  obtain ⟨ms, hs, hr⟩ := scanned_regions body
  rw [hr, List.pairwise_map]
  refine hs.disjoint.imp_of_mem fun {m n} _ hn h => ?_
  obtain ⟨passed, rest, -, -, hfind⟩ := hs.sound hn
  obtain ⟨u, hu, -⟩ := (block?_spec hfind).1.angled
  have hpos : 0 < byteLength n.2.opening := byteLength_pos (by simp [hu])
  simp only [Block.chars, byteLength_append] at h
  simp only [Region.ofBlock, Place.advance_offset]
  omega

theorem delimited_iff_eq_regions (body : String) :
    (∀ rs, Delimited body 0 rs ↔ rs = (regions .all body).map fun r => (r.text, r.offset)) ∧
      regions .first body = (regions .all body).head?.toList := by
  refine ⟨fun rs => ⟨fun h => h.unique (delimited_regions body), ?_⟩, ?_⟩
  · rintro rfl
    exact delimited_regions body
  · simp only [regions, ScanMode.keep_first, ScanMode.keep_all]
    exact List.take_one

end TaintGrep.Script
