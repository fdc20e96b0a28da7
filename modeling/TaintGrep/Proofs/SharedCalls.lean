import TaintGrep.Proofs.Folding
import TaintGrep.Proofs.Registration
import TaintGrep.Proofs.SinkCalls

/-! Calls that are reported under two sinks. Names are trimmed, so the text and the arguments of a call
leave no doubt where its name ends, and two sinks share a call exactly if their names are equal up to case
folding. Registries compare names up to ASCII case: that keeps ASCII names apart, but not all others. -/

namespace TaintGrep

open TaintGrep.Text

lemma Text.isBlank_eq_false_of_getLast?_trimChars {cs : List Char} {c : Char}
    (h : (trimChars cs).getLast? = some c) : isBlank c = false := by
  have hhead := List.head?_dropWhile_not isBlank (cs.dropWhile isBlank).reverse
  rw [trimChars, List.getLast?_reverse] at h
  rwa [h] at hhead

namespace Call

def Shared (n m script : String) : Prop :=
  ∃ c ∈ find .all n script, ∃ c' ∈ find .all m script,
    c.offset = c'.offset ∧ c.text = c'.text ∧ c.arguments = c'.arguments

variable {n m script : String} {s : Spelling}

lemma Spelling.Spells.getLast?_ne {pattern : String} (h : s.Spells (trim pattern)) :
    s.name.getLast? ≠ some ' ' := by
  intro hlast
  have hfold := congrArg List.getLast? h.1
  rw [List.getLast?_map, hlast, List.getLast?_map, toList_trim, eq_comm, Option.map_some,
    Option.map_eq_some_iff] at hfold
  obtain ⟨w, hw, hf⟩ := hfold
  obtain rfl := eq_of_fold_eq_of_isBlank hf (by decide)
  exact absurd (isBlank_eq_false_of_getLast?_trimChars hw) (by decide)

lemma eq_of_append_spaces {a b g g' : List Char} (h : a ++ g = b ++ g') (hg : ∀ c ∈ g, c = ' ')
    (hg' : ∀ c ∈ g', c = ' ') (ha : a.getLast? ≠ some ' ') (hb : b.getLast? ≠ some ' ') : a = b := by
  have key : ∀ {x u v : List Char}, (∀ c ∈ u ++ v, c = ' ') → (x ++ u).getLast? ≠ some ' ' → u = [] := by
    intro x u v hu hx
    rcases List.eq_nil_or_concat u with rfl | ⟨u, c, rfl⟩
    · rfl
    · exact absurd (by simp [hu c (by simp)]) hx
  rcases List.append_eq_append_iff.mp h with ⟨u, rfl, rfl⟩ | ⟨u, rfl, rfl⟩
  · rw [key hg hb, List.append_nil]
  · rw [key hg' ha, List.append_nil]

lemma fold_eq_of_shared {p q : String} (h : Shared (trim p) (trim q) script) :
    (trim p).toList.map fold = (trim q).toList.map fold := by
  obtain ⟨c, hc, c', hc', -, htext, harguments⟩ := h
  obtain ⟨s, ⟨hs, -⟩, hst, hsa⟩ := startsAt_of_mem_find hc
  obtain ⟨s', ⟨hs', -⟩, hst', hsa'⟩ := startsAt_of_mem_find hc'
  rw [hst, hst', String.ofList_inj] at htext
  rw [hsa, hsa', String.ofList_inj] at harguments
  have hname : s.name ++ s.gap = s'.name ++ s'.gap := by
    rw [Spelling.chars, Spelling.chars, harguments] at htext
    exact List.append_cancel_right htext
  rw [← hs.1, ← hs'.1,
    eq_of_append_spaces hname hs.2.1 hs'.2.1 hs.getLast?_ne hs'.getLast?_ne]

lemma mem_find_of_startsAt_zero (h : StartsAt n script 0 s) :
    ofSpelling n Place.start s ∈ find .all n script := by
  obtain ⟨c, hc, hle, -⟩ := exists_mem_find h
  obtain ⟨s', hs', htext, harguments⟩ := startsAt_of_mem_find hc
  rw [Nat.le_zero.mp hle] at hs'
  obtain rfl := h.unique hs'
  have heq : c = ofSpelling n Place.start s := by
    obtain ⟨sink, arguments, text, offset⟩ := c
    simp only at hle htext harguments
    rw [ofSpelling, Call.mk.injEq]
    exact ⟨sink_of_mem_find hc, harguments, htext, Nat.le_zero.mp hle⟩
  rwa [← heq]

lemma shared_of_fold_eq (h : n.toList.map fold = m.toList.map fold) : ∃ script, Shared n m script := by
  have hstarts : ∀ name : String, n.toList.map fold = name.toList.map fold →
      StartsAt name (n ++ "()") 0 ⟨n.toList, [], []⟩ := by
    intro name hname
    refine ⟨⟨hname, by simp, by simp⟩, [], [], ?_, rfl⟩
    simp [Spelling.chars]
  exact ⟨_, _, mem_find_of_startsAt_zero (hstarts n rfl), _, mem_find_of_startsAt_zero (hstarts m h),
    rfl, rfl, rfl⟩

end Call

namespace Registry

variable {compiles : String → Bool} {r : Registry .sink} {n m : String}

lemma Trimmed.shared_iff (h : r.Trimmed) (hn : n ∈ r.names) (hm : m ∈ r.names) :
    (∃ script, Call.Shared n m script) ↔ n.toList.map fold = m.toList.map fold := by
  obtain ⟨p, rfl, -⟩ := h n hn
  obtain ⟨q, rfl, -⟩ := h m hm
  exact ⟨fun ⟨_, h⟩ => Call.fold_eq_of_shared h, Call.shared_of_fold_eq⟩

theorem calls_unshared_iff (h : Built compiles defaultSinks r) :
    ((∀ script, r.names.Pairwise fun n m => ¬ Call.Shared n m script) ↔
      r.names.Pairwise fun n m => n.toList.map fold ≠ m.toList.map fold) ∧
    ((∀ n ∈ r.names, IsAscii n) →
      ∀ script, r.names.Pairwise fun n m => ¬ Call.Shared n m script) := by
  have htrimmed := h.trimmed trimmed_defaultSinks
  have hiff : (∀ script, r.names.Pairwise fun n m => ¬ Call.Shared n m script) ↔
      r.names.Pairwise fun n m => n.toList.map fold ≠ m.toList.map fold := by
    constructor
    · intro hnone
      refine List.pairwise_iff_forall_sublist.mpr fun {n m} hsub hfold => ?_
      have hn : n ∈ r.names := hsub.subset List.mem_cons_self
      have hm : m ∈ r.names := hsub.subset (List.mem_cons_of_mem n List.mem_cons_self)
      obtain ⟨script, hs⟩ := (htrimmed.shared_iff hn hm).mpr hfold
      exact List.pairwise_iff_forall_sublist.mp (hnone script) hsub hs
    · intro hfold script
      exact hfold.imp_of_mem fun hn hm hne hs => hne ((htrimmed.shared_iff hn hm).mp ⟨script, hs⟩)
  refine ⟨hiff, fun hascii => hiff.mpr ?_⟩
  refine (h.distinct distinct_defaultSinks).imp_of_mem fun {n m} hn hm hne hfold => ?_
  have hsame := sameAscii_of_fold_eq (hascii n hn) (hascii m hm) hfold
  rw [PatternKind.same, hsame] at hne
  cases hne

theorem calls_unshared_iff_extended :
    let r := defaultSinks.attempt (fun _ => true) " setTimeout"
    Built (fun _ => true) defaultSinks r ∧ r.names.length = 8 ∧
      ∀ script, r.names.Pairwise fun n m => ¬ Call.Shared n m script := by
  intro r
  have hbuilt : Built (fun _ => true) defaultSinks r := ⟨defaultSinks, [" setTimeout"], Or.inr rfl, rfl⟩
  have hall : (r.names.all fun n => n.toList.all fun c => c.toNat < 128) = true := by decide +kernel
  have hascii : ∀ n ∈ r.names, IsAscii n :=
    fun n hn c hc => of_decide_eq_true (List.all_eq_true.mp (List.all_eq_true.mp hall n hn) c hc)
  exact ⟨hbuilt, by decide +kernel, (calls_unshared_iff hbuilt).2 hascii⟩

theorem shared_of_accented : ∃ r script, Built (fun _ => true) defaultSinks r ∧
    r.names = ["évaluer", "ÉVALUER"] ∧ ¬ r.names.Pairwise fun n m => ¬ Call.Shared n m script := by
  have hnames : (["évaluer", "ÉVALUER"].foldl (attempt fun _ => true) (empty : Registry .sink)).names =
      ["évaluer", "ÉVALUER"] := by decide +kernel
  have hshared : Call.Shared "évaluer" "ÉVALUER" "évaluer(x)" :=
    ⟨⟨"évaluer", "x", "évaluer(x)", 0⟩, by decide +kernel, ⟨"ÉVALUER", "x", "évaluer(x)", 0⟩,
      by decide +kernel, rfl, rfl, rfl⟩
  refine ⟨_, "évaluer(x)", ⟨empty, _, Or.inl rfl, rfl⟩, hnames, ?_⟩
  rw [hnames]
  simpa using hshared

end Registry

end TaintGrep
