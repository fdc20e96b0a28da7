import Mathlib.Data.List.Infix
import TaintGrep.Proofs.Decoding
import TaintGrep.Report.Readable

/-! Where the carets of a report for people stand: under the first occurrence of the first snippet that the
line holds. The search goes over bytes and comes to the same place, since the bytes of a text never occur
across the characters of another. -/

namespace TaintGrep

namespace Text.Utf8

variable {cs ls : List Char} {u v : List UInt8} {b : UInt8}

lemma isUTF8FirstByte_iff {c : Char} (h : String.utf8EncodeChar c = u ++ b :: v) :
    b.IsUTF8FirstByte ↔ u = [] := by
  have hlength : u.length < (String.utf8EncodeChar c).length := by simp [h]
  have hbyte := @UInt8.isUTF8FirstByte_getElem_utf8EncodeChar c u.length hlength
  simpa [h] using hbyte

lemma exists_firstByte (h : cs ≠ []) : ∃ b bs, encodeChars cs = b :: bs ∧ b.IsUTF8FirstByte := by
  obtain ⟨c, cs, rfl⟩ := List.exists_cons_of_ne_nil h
  have hne : String.utf8EncodeChar c ≠ [] := by
    intro he
    have hsize := String.length_utf8EncodeChar c
    rw [he] at hsize
    exact Nat.ne_of_lt c.utf8Size_pos hsize
  obtain ⟨b, bs, hbs⟩ := List.exists_cons_of_ne_nil hne
  refine ⟨b, bs ++ encodeChars cs, ?_, (isUTF8FirstByte_iff (u := []) hbs).mpr rfl⟩
  rw [encodeChars_cons, hbs, List.cons_append]

lemma exists_cut_of_firstByte (hb : b.IsUTF8FirstByte) (h : encodeChars ls = u ++ b :: v) :
    ∃ l r, ls = l ++ r ∧ u = encodeChars l := by
  induction ls generalizing u with
  | nil => simp [encodeChars] at h
  | cons d ds ih =>
    rw [encodeChars_cons, List.append_eq_append_iff] at h
    rcases h with ⟨u', rfl, hrest⟩ | ⟨u', hd, hrest⟩
    · obtain ⟨l, r, rfl, rfl⟩ := ih hrest
      exact ⟨d :: l, r, rfl, (encodeChars_cons d l).symm⟩
    · -- of the bytes of `d` only the first is a first byte
      cases u' with
      | nil => exact ⟨[d], ds, rfl, by simpa [encodeChars] using hd.symm⟩
      | cons b' u' =>
        obtain ⟨rfl, -⟩ := List.cons.inj hrest
        exact ⟨[], d :: ds, rfl, (isUTF8FirstByte_iff hd).mp hb⟩

lemma exists_of_encodeChars_append (h : encodeChars ls = encodeChars cs ++ v) : ∃ r, ls = cs ++ r := by
  have hdecoded := decodeFrom_encodeChars cs 0 [] v
  rw [← h] at hdecoded
  have hls := decodeFrom_encodeChars ls 0 [] []
  rw [List.append_nil, decodeFrom, List.append_nil, List.reverse_reverse, hdecoded] at hls
  have hnone : Begun none [] := rfl
  obtain ⟨r, hr, -⟩ := decodeFrom_eq_ok hnone hls
  exact ⟨r, by simpa using hr⟩

lemma exists_of_encodeChars_within (hne : cs ≠ []) (h : encodeChars ls = u ++ (encodeChars cs ++ v)) :
    ∃ l r, ls = l ++ (cs ++ r) ∧ u = encodeChars l := by
  obtain ⟨b, bs, hbs, hb⟩ := exists_firstByte hne
  obtain ⟨l, r, rfl, rfl⟩ := exists_cut_of_firstByte (v := bs ++ v) hb (by rw [h, hbs, List.cons_append])
  rw [encodeChars_append, List.append_cancel_left_eq] at h
  obtain ⟨r, rfl⟩ := exists_of_encodeChars_append h
  exact ⟨l, r, rfl, rfl⟩

end Text.Utf8

namespace Report

open TaintGrep.Text

lemma indexOf?_eq_some_iff {α : Type} [BEq α] [LawfulBEq α] {s cs : List α} {n : Nat} :
    indexOf? s cs = some n ↔ n ≤ cs.length ∧ s <+: cs.drop n ∧ ∀ m < n, ¬ s <+: cs.drop m := by
  simp [indexOf?, firstIndex?_eq_some_iff, ← List.isPrefixOf_iff_prefix]

lemma indexOf?_eq_none_iff {α : Type} [BEq α] [LawfulBEq α] {s cs : List α} :
    indexOf? s cs = none ↔ ¬ s <:+: cs := by
  rw [← indexOf?_isSome_iff, Bool.not_eq_true, Option.isSome_eq_false_iff, Option.isNone_iff_eq_none]

variable {s line : String}

lemma encode_infix_iff : Utf8.encode s <:+: Utf8.encode line ↔ s.toList <:+: line.toList := by
  rw [Utf8.encode_eq, Utf8.encode_eq]
  constructor
  · rintro ⟨u, v, huv⟩
    by_cases hs : s.toList = []
    · exact hs ▸ List.nil_infix
    · obtain ⟨l, r, hline, -⟩ := Utf8.exists_of_encodeChars_within hs
        (huv.symm.trans (List.append_assoc u _ v))
      exact ⟨l, r, by rw [hline, List.append_assoc]⟩
  · rintro ⟨l, r, hline⟩
    rw [← hline, Utf8.encodeChars_append, Utf8.encodeChars_append]
    exact List.infix_append _ _ _

lemma exists_of_encode_isPrefix_drop {n : Nat} (hs : s.toList ≠ []) (hn : n ≤ (Utf8.encode line).length)
    (h : Utf8.encode s <+: (Utf8.encode line).drop n) :
    ∃ l r, line.toList = l ++ (s.toList ++ r) ∧ n = byteLength l := by
  obtain ⟨v, hv⟩ := h
  have hsplit := List.take_append_drop n (Utf8.encode line)
  rw [← hv, Utf8.encode_eq, Utf8.encode_eq] at hsplit
  obtain ⟨l, r, hline, htake⟩ := Utf8.exists_of_encodeChars_within hs hsplit.symm
  refine ⟨l, r, hline, ?_⟩
  rw [← Utf8.length_encodeChars, ← htake, List.length_take, ← Utf8.encode_eq, Nat.min_eq_left hn]

lemma indexOf?_nil (cs : List Char) : indexOf? [] cs = some 0 :=
  indexOf?_eq_some_iff.mpr ⟨Nat.zero_le _, List.nil_prefix, fun m hm => absurd hm (Nat.not_lt_zero m)⟩

lemma indexOf?_encode_of_indexOf? {column : Nat} (h : indexOf? s.toList line.toList = some column) :
    indexOf? (Utf8.encode s) (Utf8.encode line) = some (byteLength (line.toList.take column)) := by
  obtain ⟨-, ⟨r, hr⟩, hfirst⟩ := indexOf?_eq_some_iff.mp h
  have hbytes : Utf8.encode line = Utf8.encodeChars (line.toList.take column) ++
      (Utf8.encode s ++ Utf8.encodeChars r) := by
    rw [Utf8.encode_eq s, ← Utf8.encodeChars_append, hr, ← Utf8.encodeChars_append,
      List.take_append_drop, Utf8.encode_eq]
  have hwithin : byteLength (line.toList.take column) ≤ (Utf8.encode line).length := by
    simp [hbytes]
  refine indexOf?_eq_some_iff.mpr ⟨hwithin, ?_, fun n hn hoccurs => ?_⟩
  · rw [hbytes, ← Utf8.length_encodeChars, List.drop_left]
    exact List.prefix_append _ _
  · have hs : s.toList ≠ [] := by
      intro hs
      rw [hs, indexOf?_nil] at h
      cases h
      exact Nat.not_lt_zero n hn
    obtain ⟨l, r', hline, rfl⟩ := exists_of_encode_isPrefix_drop hs
      (Nat.le_of_lt (Nat.lt_of_lt_of_le hn hwithin)) hoccurs
    have hcolumn : column ≤ l.length := by
      by_contra hlt
      exact hfirst l.length (Nat.lt_of_not_le hlt) ⟨r', by rw [hline, List.drop_left]⟩
    have hsizes := congrArg byteLength (List.take_append_drop column l)
    rw [byteLength_append] at hsizes
    rw [hline, List.take_append_of_le_length hcolumn] at hn
    omega

lemma indexOf?_encode (s line : String) : indexOf? (Utf8.encode s) (Utf8.encode line) =
    (indexOf? s.toList line.toList).map fun column => byteLength (line.toList.take column) := by
  cases h : indexOf? s.toList line.toList with
  | none =>
    rw [Option.map_none, indexOf?_eq_none_iff, encode_infix_iff]
    exact indexOf?_eq_none_iff.mp h
  | some column => exact indexOf?_encode_of_indexOf? h

lemma decode_take_encode (line : String) (column : Nat) :
    Utf8.decode ((Utf8.encode line).take (byteLength (line.toList.take column))) =
      .ok (line.toList.take column) := by
  have hdecode := Utf8.decode_encode (String.ofList (line.toList.take column))
  rw [Utf8.encode_eq, String.toList_ofList] at hdecode
  rw [Utf8.take_encode (List.take_append_drop column line.toList).symm, hdecode]

lemma byteSpan?_eq_findSome? (line : String) (snippets : List String) :
    byteSpan? line snippets = (snippets.findSome? fun s =>
      (indexOf? s.toList line.toList).map fun column => (column, s.length)).map .ok := by
  rw [byteSpan?, List.map_findSome?]
  congr 1
  funext s
  rw [indexOf?_encode, Function.comp_apply, Option.map_map, Option.map_map]
  cases h : indexOf? s.toList line.toList with
  | none => rfl
  | some column =>
    have hcolumn : column ≤ line.toList.length := (indexOf?_eq_some_iff.mp h).1
    simp only [Option.map_some, Function.comp_apply, decode_take_encode, Except.map, List.length_take,
      Nat.min_eq_left hcolumn]

lemma highlightSpan?_eq_findSome? (line : String) (snippets : List String) :
    highlightSpan? line snippets = snippets.findSome? fun s =>
      (indexOf? s.toList line.toList).map fun column => (column, s.length) := by
  rw [highlightSpan?, byteSpan?_eq_findSome?, Option.bind_map]
  exact Option.bind_fun_some _

def SpelledFirst (line snippet : String) (column : Nat) : Prop :=
  (line.toList.drop column).take snippet.length = snippet.toList ∧
    ∀ n < column, (line.toList.drop n).take snippet.length ≠ snippet.toList

lemma spelled_iff {n : Nat} :
    (line.toList.drop n).take s.length = s.toList ↔ s.toList <+: line.toList.drop n := by
  rw [List.prefix_iff_eq_take, String.length_toList, eq_comm]

lemma spelledFirst_iff {column : Nat} :
    SpelledFirst line s column ↔ indexOf? s.toList line.toList = some column := by
  simp only [SpelledFirst, ne_eq, spelled_iff, indexOf?_eq_some_iff]
  refine ⟨fun ⟨hspelled, hfirst⟩ => ⟨?_, hspelled, hfirst⟩, fun h => h.2⟩
  by_contra hbeyond
  -- past the end only the empty snippet is spelled, and that one already at the start
  rw [List.drop_eq_nil_of_le (by omega), List.prefix_nil] at hspelled
  exact hfirst 0 (by omega) (hspelled ▸ List.nil_prefix)

lemma highlightSpan?_eq_some_iff {snippets : List String} {column width : Nat} :
    highlightSpan? line snippets = some (column, width) ↔
      ∃ before s after, snippets = before ++ s :: after ∧
        (∀ t ∈ before, ¬ t.toList <:+: line.toList) ∧ SpelledFirst line s column ∧ width = s.length := by
  rw [highlightSpan?_eq_findSome?, List.findSome?_eq_some_iff]
  simp only [Option.map_eq_some_iff, Option.map_eq_none_iff, indexOf?_eq_none_iff, ← spelledFirst_iff,
    Prod.mk.injEq]
  constructor
  · rintro ⟨before, s, after, hsnippets, ⟨_, hspelled, rfl, rfl⟩, hbefore⟩
    exact ⟨before, s, after, hsnippets, hbefore, hspelled, rfl⟩
  · rintro ⟨before, s, after, hsnippets, hbefore, hspelled, rfl⟩
    exact ⟨before, s, after, hsnippets, ⟨column, hspelled, rfl, rfl⟩, hbefore⟩

theorem highlightSpan?_exact (line : String) (snippets : List String) :
    (highlightSpan? line snippets = none ↔ ∀ s ∈ snippets, ¬ s.toList <:+: line.toList) ∧
    (∀ column width, highlightSpan? line snippets = some (column, width) ↔
      ∃ before s after, snippets = before ++ s :: after ∧
        (∀ t ∈ before, ¬ t.toList <:+: line.toList) ∧ SpelledFirst line s column ∧ width = s.length) ∧
    byteSpan? line snippets = (highlightSpan? line snippets).map .ok ∧
    ∀ before after, snippets = before ++ "" :: after → (∀ t ∈ before, ¬ t.toList <:+: line.toList) →
      highlightSpan? line snippets = some (0, 0) := by
  refine ⟨?_, fun column width => highlightSpan?_eq_some_iff, ?_, ?_⟩
  · simp only [highlightSpan?_eq_findSome?, List.findSome?_eq_none_iff, Option.map_eq_none_iff,
      indexOf?_eq_none_iff]
  · rw [byteSpan?_eq_findSome?, highlightSpan?_eq_findSome?]
  · intro before after hsnippets hbefore
    have hempty : SpelledFirst line "" 0 := spelledFirst_iff.mpr (indexOf?_nil line.toList)
    exact highlightSpan?_eq_some_iff.mpr ⟨before, "", after, hsnippets, hbefore, hempty, rfl⟩

theorem highlightSpan?_exact_overlapping :
    let line := "€ aßaßa"
    (∀ t ∈ ["ẞa"], ¬ t.toList <:+: line.toList) ∧
      highlightSpan? line ["ẞa", "aßa", "€"] = some (2, 3) ∧
      byteSpan? line ["ẞa", "aßa", "€"] = some (.ok (2, 3)) ∧
      highlightSpan? line ["ẞa", "", "€"] = some (0, 0) := by
  intro line
  have hbefore : ∀ t ∈ ["ẞa"], ¬ t.toList <:+: line.toList := by
    intro t ht
    obtain rfl := List.mem_singleton.mp ht
    rw [← occursIn_iff]
    decide +kernel
  have hspelled : SpelledFirst line "aßa" 2 := by
    unfold SpelledFirst
    decide +kernel
  obtain ⟨-, hspan, hbytes, -⟩ := highlightSpan?_exact line ["ẞa", "aßa", "€"]
  have hfound := (hspan 2 3).mpr ⟨["ẞa"], "aßa", ["€"], rfl, hbefore, hspelled, rfl⟩
  obtain ⟨-, -, -, hempty⟩ := highlightSpan?_exact line ["ẞa", "", "€"]
  exact ⟨hbefore, hfound, by rw [hbytes, hfound]; rfl, hempty ["ẞa"] ["€"] rfl hbefore⟩

end Report

end TaintGrep
