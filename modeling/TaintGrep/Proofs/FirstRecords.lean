import Mathlib.Data.List.Induction
import TaintGrep.Proofs.UniqueViews
import TaintGrep.Report.Machine

/-! A collapsed view holds the first record of each key and nothing else. Where nothing is collapsed, the
key of a record is its place in the list. -/

namespace TaintGrep

inductive Key where
  | place (i : Nat)
  | page (url : String)
  | snippets (url : String) (highlight : List String)
  deriving DecidableEq

def Uniqueness.keyAt (u : Uniqueness) (x : Record × Nat) : Key :=
  match u with
  | .none => .place x.2
  | .url => .page x.1.url
  | .var => .snippets x.1.url x.1.highlight

lemma Uniqueness.keyAt_eq_iff {u : Uniqueness} {x y : Record × Nat} (h : x.2 ≠ y.2) :
    u.keyAt x = u.keyAt y ↔ ∃ k, u.key? x.1 = some k ∧ u.key? y.1 = some k := by
  cases u <;> simp [keyAt, key?, h, eq_comm]

namespace Record

def IsFirst (u : Uniqueness) (rs : List Record) (x : Record × Nat) : Prop :=
  ∀ y ∈ rs.zipIdx, y.2 < x.2 → u.keyAt y ≠ u.keyAt x

instance (u : Uniqueness) (rs : List Record) : DecidablePred (IsFirst u rs) :=
  fun x => inferInstanceAs (Decidable (∀ y ∈ rs.zipIdx, y.2 < x.2 → u.keyAt y ≠ u.keyAt x))

def firsts (u : Uniqueness) (rs : List Record) : List (Record × Nat) := rs.zipIdx.filter (IsFirst u rs)

variable {u : Uniqueness} {rs : List Record} {r : Record} {x : Record × Nat}

lemma uniqueFrom_concat (u : Uniqueness) (seen : List (String × List String)) (rs : List Record)
    (r : Record) : uniqueFrom u seen (rs ++ [r]) =
      uniqueFrom u seen rs ++ if repeats u (rs.filterMap u.key? ++ seen) r then [] else [r] := by
  induction rs generalizing seen with
  | nil =>
    rw [List.nil_append, uniqueFrom_cons]
    rfl
  | cons a rs ih =>
    have hkeys : (a :: rs).filterMap u.key? = (u.key? a).toList ++ rs.filterMap u.key? := by
      cases hk : u.key? a <;> simp [hk]
    rw [List.cons_append, uniqueFrom_cons, uniqueFrom_cons, ih, ih, hkeys]
    simp only [repeats_append]
    split
    · rename_i ha
      -- `a` is dropped because its key is in `seen`
      have hseen : repeats u (u.key? a).toList r = true → repeats u seen r = true := by
        intro hr
        rwa [repeats, ← key?_eq_of_repeats_key hr, ← repeats]
      grind
    · grind

lemma unique_concat (u : Uniqueness) (rs : List Record) (r : Record) :
    unique u (rs ++ [r]) = unique u rs ++ if repeats u (rs.filterMap u.key?) r then [] else [r] := by
  rw [unique, unique, uniqueFrom_concat, List.append_nil]

lemma repeats_iff {seen : List (String × List String)} :
    repeats u seen r = true ↔ ∃ k ∈ seen, u.key? r = some k := by
  cases hk : u.key? r <;> simp [repeats, hk]

lemma repeats_keys_iff : repeats u (rs.filterMap u.key?) r = true ↔
    ∃ a ∈ rs, ∃ k, u.key? a = some k ∧ u.key? r = some k := by
  rw [repeats_iff]
  constructor
  · rintro ⟨k, hk, hr⟩
    obtain ⟨a, ha, hak⟩ := List.mem_filterMap.mp hk
    exact ⟨a, ha, k, hak, hr⟩
  · rintro ⟨a, ha, k, hak, hr⟩
    exact ⟨k, List.mem_filterMap.mpr ⟨a, ha, hak⟩, hr⟩

lemma repeats_filterMap_iff : repeats u (rs.filterMap u.key?) r = true ↔
    ∃ y ∈ rs.zipIdx, u.keyAt y = u.keyAt (r, rs.length) := by
  have hplace : ∀ y ∈ rs.zipIdx, y.2 ≠ rs.length :=
    fun y hy => Nat.ne_of_lt (List.snd_lt_of_mem_zipIdx hy)
  rw [repeats_keys_iff]
  constructor
  · rintro ⟨a, ha, hkey⟩
    obtain ⟨i, hi⟩ := List.mem_iff_getElem?.mp ha
    have hy : (a, i) ∈ rs.zipIdx := List.mem_zipIdx_iff_getElem?.mpr hi
    exact ⟨(a, i), hy, (Uniqueness.keyAt_eq_iff (hplace _ hy)).mpr hkey⟩
  · rintro ⟨y, hy, hkey⟩
    exact ⟨y.1, List.fst_mem_of_mem_zipIdx hy, (Uniqueness.keyAt_eq_iff (hplace y hy)).mp hkey⟩

lemma firsts_concat (u : Uniqueness) (rs : List Record) (r : Record) :
    firsts u (rs ++ [r]) =
      firsts u rs ++ if repeats u (rs.filterMap u.key?) r then [] else [(r, rs.length)] := by
  have hzip : (rs ++ [r]).zipIdx = rs.zipIdx ++ [(r, rs.length)] := by simp [List.zipIdx_append]
  have hfirst : ∀ x, x.2 ≤ rs.length → (IsFirst u (rs ++ [r]) x ↔ IsFirst u rs x) := by
    intro x hx
    rw [IsFirst, hzip, List.forall_mem_append, ← IsFirst]
    simp [Nat.not_lt.mpr hx]
  have hnew : IsFirst u (rs ++ [r]) (r, rs.length) ↔ ¬ repeats u (rs.filterMap u.key?) r = true := by
    rw [hfirst _ (Nat.le_refl _), repeats_filterMap_iff]
    simp only [not_exists, not_and]
    exact ⟨fun h y hy => h y hy (List.snd_lt_of_mem_zipIdx hy), fun h y hy _ => h y hy⟩
  have hold : rs.zipIdx.filter (IsFirst u (rs ++ [r])) = firsts u rs :=
    List.filter_congr fun x hx =>
      decide_eq_decide.mpr (hfirst x (Nat.le_of_lt (List.snd_lt_of_mem_zipIdx hx)))
  rw [firsts, hzip, List.filter_append, hold]
  by_cases hr : repeats u (rs.filterMap u.key?) r = true
  · rw [if_pos hr, List.filter_cons_of_neg (by simpa [hnew] using hr), List.filter_nil]
  · rw [if_neg hr, List.filter_cons_of_pos (by simpa [hnew] using hr), List.filter_nil]

lemma unique_eq_map_firsts (u : Uniqueness) (rs : List Record) :
    unique u rs = (firsts u rs).map Prod.fst := by
  induction rs using List.reverseRecOn with
  | nil => rfl
  | append_singleton rs r ih =>
    rw [unique_concat, firsts_concat, List.map_append, ih]
    split <;> rfl

lemma nodup_keys_firsts (u : Uniqueness) (rs : List Record) : ((firsts u rs).map u.keyAt).Nodup := by
  rw [List.Nodup, List.pairwise_map]
  refine ((pairwise_zipIdx rs).filter _).imp_of_mem fun {x y} hx hy hlt => ?_
  exact of_decide_eq_true (List.mem_filter.mp hy).2 x (List.mem_filter.mp hx).1 hlt

lemma exists_mem_firsts (hx : x ∈ rs.zipIdx) :
    ∃ y ∈ firsts u rs, y.2 ≤ x.2 ∧ u.keyAt y = u.keyAt x := by
  induction hi : x.2 using Nat.strongRecOn generalizing x with
  | ind i ih =>
    by_cases hfirst : IsFirst u rs x
    · exact ⟨x, List.mem_filter.mpr ⟨hx, decide_eq_true hfirst⟩, Nat.le_of_eq hi, rfl⟩
    · simp only [IsFirst, not_forall, not_not] at hfirst
      obtain ⟨y, hy, hlt, hkey⟩ := hfirst
      obtain ⟨z, hz, hle, hzkey⟩ := ih y.2 (hi ▸ hlt) hy rfl
      exact ⟨z, hz, hi ▸ Nat.le_of_lt (Nat.lt_of_le_of_lt hle hlt), hzkey.trans hkey⟩

lemma urls_concat (rs : List Record) (r : Record) :
    urls (rs ++ [r]) = if r.url ∈ urls rs then urls rs else urls rs ++ [r.url] := by
  rw [urls, List.map_append, List.foldl_append]
  rfl

lemma map_url_unique (rs : List Record) : (unique .url rs).map Record.url = urls rs := by
  induction rs using List.reverseRecOn with
  | nil => rfl
  | append_singleton rs r ih =>
    have hseen : repeats .url (rs.filterMap (Uniqueness.key? .url)) r = true ↔ r.url ∈ urls rs := by
      rw [← ih, repeats_keys_iff]
      constructor
      · rintro ⟨a, ha, k, hak, hr⟩
        obtain ⟨b, hb, hkey⟩ := exists_mem_unique .url ha
        rw [hak, ← hr] at hkey
        exact List.mem_map.mpr ⟨b, hb, by simpa [Uniqueness.key?] using hkey⟩
      · intro hmem
        obtain ⟨b, hb, hurl⟩ := List.mem_map.mp hmem
        have hrs : b ∈ rs := (unique_sublist .url rs).subset hb
        exact ⟨b, hrs, (r.url, []), by rw [Uniqueness.key?, hurl], rfl⟩
    rw [unique_concat, urls_concat, List.map_append, ih]
    by_cases h : r.url ∈ urls rs <;> simp [hseen, h]

theorem unique_keeps_firsts (u : Uniqueness) (rs : List Record) :
    unique u rs = (firsts u rs).map Prod.fst ∧ (unique u rs).Sublist rs ∧
    ((firsts u rs).map u.keyAt).Nodup ∧
    (∀ x ∈ rs.zipIdx, ∃ y ∈ firsts u rs, y.2 ≤ x.2 ∧ u.keyAt y = u.keyAt x) ∧
    ∀ totalPages, (unique .url rs).length = (Report.summarize rs totalPages).pagesWithFindings := by
  refine ⟨unique_eq_map_firsts u rs, unique_sublist u rs, nodup_keys_firsts u rs,
    fun x hx => exists_mem_firsts hx, fun totalPages => ?_⟩
  rw [Report.summarize, ← map_url_unique, List.length_map]

theorem unique_keeps_firsts_bare :
    let bare := Record.new "dom_xss" "call" "a" 0
    let rs := [bare.addHighlight "eval(x)", bare, bare.addHighlight "eval(x)", bare]
    unique .var rs = [bare.addHighlight "eval(x)", bare] ∧ (bare, 3) ∈ rs.zipIdx ∧
      (∃ y ∈ firsts .var rs, y.2 ≤ 3 ∧ Uniqueness.var.keyAt y = Uniqueness.var.keyAt (bare, 3)) ∧
      (unique .url rs).length = (Report.summarize rs 1).pagesWithFindings := by
  intro bare rs
  have hmem : (bare, 3) ∈ rs.zipIdx := by decide
  obtain ⟨-, -, -, hkeys, hpages⟩ := unique_keeps_firsts .var rs
  exact ⟨by decide, hmem, hkeys _ hmem, hpages 1⟩

end Record

end TaintGrep
