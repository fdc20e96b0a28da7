import Mathlib.Order.Lattice
import TaintGrep.Proofs.FirstRecords

/-! Views of views. Records with the same page and snippets have the same page, so the modes form a chain,
and of two views taken one after the other only the coarser is seen. -/

namespace TaintGrep

namespace Uniqueness

def rank : Uniqueness → Nat
  | .none => 0
  | .var => 1
  | .url => 2

lemma rank_injective : Function.Injective rank := by
  intro u v h
  cases u <;> cases v <;> simp_all [rank]

/-- A mode is below those that collapse more. -/
instance : LinearOrder Uniqueness := LinearOrder.lift' rank rank_injective

lemma le_iff {u v : Uniqueness} : u ≤ v ↔ u.rank ≤ v.rank := Iff.rfl

lemma key?_of_le {u v : Uniqueness} {r r' : Record} {k : String × List String} (h : u ≤ v)
    (hr : u.key? r = some k) (hr' : u.key? r' = some k) :
    ∃ k', v.key? r = some k' ∧ v.key? r' = some k' := by
  rw [le_iff] at h
  cases u with
  | none => cases hr
  | url =>
    cases v with
    | none | var => simp [rank] at h
    | url => exact ⟨k, hr, hr'⟩
  | var =>
    cases v with
    | none => simp [rank] at h
    | var => exact ⟨k, hr, hr'⟩
    | url =>
      have hurl : r'.url = r.url := congrArg Prod.fst (Option.some.inj (hr'.trans hr.symm))
      exact ⟨(r.url, []), rfl, by rw [key?, hurl]⟩

end Uniqueness

namespace Record

variable {u v : Uniqueness} {rs : List Record} {r : Record}

lemma repeats_of_le (h : u ≤ v) (hr : repeats u (rs.filterMap u.key?) r = true) :
    repeats v (rs.filterMap v.key?) r = true := by
  obtain ⟨a, ha, k, hak, hrk⟩ := repeats_keys_iff.mp hr
  obtain ⟨k', hak', hrk'⟩ := Uniqueness.key?_of_le h hak hrk
  exact repeats_keys_iff.mpr ⟨a, ha, k', hak', hrk'⟩

lemma exists_mem_unique_of_le (h : u ≤ v) {a : Record} (ha : a ∈ rs) {k : String × List String}
    (hk : v.key? a = some k) : ∃ b ∈ unique u rs, v.key? b = some k := by
  -- from the last record, as a view grows at its end
  induction rs using List.reverseRecOn generalizing a with
  | nil => cases ha
  | append_singleton rs r ih =>
    have hold : ∀ {c}, c ∈ rs → v.key? c = some k → ∃ b ∈ unique u (rs ++ [r]), v.key? b = some k := by
      intro c hc hck
      obtain ⟨b, hb, hbk⟩ := ih hc hck
      exact ⟨b, by rw [unique_concat]; exact List.mem_append_left _ hb, hbk⟩
    rcases List.mem_append.mp ha with ha | ha
    · exact hold ha hk
    · obtain rfl := List.mem_singleton.mp ha
      by_cases hr : repeats u (rs.filterMap u.key?) a = true
      · obtain ⟨c, hc, k', hck, hak⟩ := repeats_keys_iff.mp (repeats_of_le h hr)
        exact hold hc (by rw [hck, ← hak, hk])
      · exact ⟨a, by simp [unique_concat, hr], hk⟩

lemma repeats_unique (h : u ≤ v) (rs : List Record) (r : Record) :
    repeats v ((unique u rs).filterMap v.key?) r = repeats v (rs.filterMap v.key?) r := by
  rw [Bool.eq_iff_iff, repeats_keys_iff, repeats_keys_iff]
  constructor
  · rintro ⟨a, ha, k, hak, hrk⟩
    exact ⟨a, (unique_sublist u rs).subset ha, k, hak, hrk⟩
  · rintro ⟨a, ha, k, hak, hrk⟩
    obtain ⟨b, hb, hbk⟩ := exists_mem_unique_of_le h ha hak
    exact ⟨b, hb, k, hbk, hrk⟩

lemma unique_of_le (h : u ≤ v) (rs : List Record) : unique v (unique u rs) = unique v rs := by
  induction rs using List.reverseRecOn with
  | nil => rfl
  | append_singleton rs r ih =>
    rw [unique_concat u, unique_concat v]
    by_cases hr : repeats u (rs.filterMap u.key?) r = true
    · rw [if_pos hr, if_pos (repeats_of_le h hr), List.append_nil, List.append_nil, ih]
    · rw [if_neg hr, unique_concat, ih, repeats_unique h]

lemma unique_of_ge (h : u ≤ v) (rs : List Record) : unique u (unique v rs) = unique v rs := by
  induction rs using List.reverseRecOn with
  | nil => rfl
  | append_singleton rs r ih =>
    rw [unique_concat v]
    by_cases hr : repeats v (rs.filterMap v.key?) r = true
    · rw [if_pos hr, List.append_nil, ih]
    · -- a kept record with the finer key of `r` would have its coarser key as well
      have hnew : ¬ repeats u ((unique v rs).filterMap u.key?) r = true := by
        intro hrep
        rw [← repeats_unique (le_refl v)] at hr
        exact hr (repeats_of_le h hrep)
      rw [if_neg hr, unique_concat, if_neg hnew, ih]

theorem unique_unique (u v : Uniqueness) (rs : List Record) :
    unique v (unique u rs) = unique (max u v) rs ∧
    unique u (unique u rs) = unique u rs ∧
    (unique .url rs).Sublist (unique .var rs) ∧
    unique .url (unique .var rs) = unique .url rs ∧ unique .var (unique .url rs) = unique .url rs := by
  have hchain : Uniqueness.var ≤ Uniqueness.url := by decide
  have hurl : unique .url (unique .var rs) = unique .url rs := unique_of_le hchain rs
  refine ⟨?_, unique_of_le (le_refl u) rs, ?_, hurl, unique_of_ge hchain rs⟩
  · rcases le_total u v with h | h
    · rw [max_eq_right h, unique_of_le h]
    · rw [max_eq_left h, unique_of_ge h]
  · rw [← hurl]
    exact unique_sublist .url (unique .var rs)

end Record

end TaintGrep
