import Mathlib.Data.List.Perm.Subperm
import TaintGrep.Record.Unique

/-! Collapsed views record by record: a record is kept unless its key was seen before. A key holds the
address of its page, so the view of several pages is made of the views of each page. -/

namespace TaintGrep

lemma pairwise_zipIdx {α : Type} (l : List α) : l.zipIdx.Pairwise fun x y => x.2 < y.2 := by
  apply List.pairwise_map.mp
  rw [List.zipIdx_map_snd]
  exact List.pairwise_lt_range'

namespace Record

def onPage (url : String) (rs : List Record) : List Record := rs.filter fun r => r.url = url

lemma onPage_append (url : String) (rs rs' : List Record) :
    onPage url (rs ++ rs') = onPage url rs ++ onPage url rs' := List.filter_append rs rs'

def repeats (u : Uniqueness) (seen : List (String × List String)) (r : Record) : Bool :=
  (u.key? r).any seen.contains

variable {u : Uniqueness} {seen seen' : List (String × List String)} {r r' : Record} {rs : List Record}

lemma uniqueFrom_cons (u : Uniqueness) (seen : List (String × List String)) (r : Record)
    (rs : List Record) : uniqueFrom u seen (r :: rs) =
      if repeats u seen r then uniqueFrom u seen rs
      else r :: uniqueFrom u ((u.key? r).toList ++ seen) rs := by
  rw [uniqueFrom, repeats]
  cases u.key? r with
  | none => simp
  | some k => simp

lemma repeats_append (u : Uniqueness) (seen seen' : List (String × List String)) (r : Record) :
    repeats u (seen ++ seen') r = (repeats u seen r || repeats u seen' r) := by
  cases h : u.key? r <;> simp [repeats, h]

lemma repeats_key_of_url_ne (u : Uniqueness) (h : r'.url ≠ r.url) :
    repeats u (u.key? r).toList r' = false := by
  cases u <;> simp [repeats, Uniqueness.key?, h]

lemma key?_eq_of_repeats_key (h : repeats u (u.key? r).toList r' = true) : u.key? r = u.key? r' := by
  cases hk : u.key? r <;> cases hk' : u.key? r' <;> simp_all [repeats]

lemma uniqueFrom_congr (h : ∀ r ∈ rs, repeats u seen r = repeats u seen' r) :
    uniqueFrom u seen rs = uniqueFrom u seen' rs := by
  induction rs generalizing seen seen' with
  | nil => rfl
  | cons r rs ih =>
    have hrest : ∀ a ∈ rs, repeats u seen a = repeats u seen' a :=
      fun a ha => h a (List.mem_cons_of_mem r ha)
    have hgrown : ∀ a ∈ rs, repeats u ((u.key? r).toList ++ seen) a =
        repeats u ((u.key? r).toList ++ seen') a :=
      fun a ha => by rw [repeats_append, repeats_append, hrest a ha]
    rw [uniqueFrom_cons, uniqueFrom_cons, h r List.mem_cons_self, ih hrest, ih hgrown]

/-- A kept record stands for each record: one of the same key, if that was not seen before. -/
lemma exists_mem_uniqueFrom (h : r ∈ rs) (hr : repeats u seen r = false) :
    ∃ r' ∈ uniqueFrom u seen rs, u.key? r' = u.key? r := by
  induction rs generalizing seen with
  | nil => cases h
  | cons a rs ih =>
    rw [uniqueFrom_cons]
    by_cases ha : repeats u seen a = true
    · rw [if_pos ha]
      rcases List.mem_cons.mp h with rfl | h
      · rw [ha] at hr
        cases hr
      · exact ih h hr
    · rw [if_neg ha]
      rcases List.mem_cons.mp h with rfl | h
      · exact ⟨r, List.mem_cons_self, rfl⟩
      · by_cases hk : repeats u (u.key? a).toList r = true
        · exact ⟨a, List.mem_cons_self, key?_eq_of_repeats_key hk⟩
        · have hnew : repeats u ((u.key? a).toList ++ seen) r = false := by
            rw [repeats_append, hr, Bool.or_false]
            exact Bool.eq_false_iff.mpr hk
          obtain ⟨r', hr', hkey⟩ := ih h hnew
          exact ⟨r', List.mem_cons_of_mem a hr', hkey⟩

lemma exists_mem_unique (u : Uniqueness) (h : r ∈ rs) : ∃ r' ∈ unique u rs, u.key? r' = u.key? r :=
  exists_mem_uniqueFrom h (by cases hk : u.key? r <;> simp [repeats, hk])

lemma onPage_uniqueFrom (u : Uniqueness) (seen : List (String × List String)) (url : String)
    (rs : List Record) : onPage url (uniqueFrom u seen rs) = uniqueFrom u seen (onPage url rs) := by
  induction rs generalizing seen with
  | nil => rfl
  | cons r rs ih =>
    by_cases hu : r.url = url
    · rw [onPage, onPage, List.filter_cons_of_pos (by simpa using hu), ← onPage, ← onPage,
        uniqueFrom_cons, uniqueFrom_cons, ← ih, ← ih]
      split
      · rfl
      · rw [onPage, List.filter_cons_of_pos (by simpa using hu), ← onPage]
    · -- a record of another page is not kept here, and its key is no key of this page
      have hkey : ∀ a ∈ onPage url rs,
          repeats u ((u.key? r).toList ++ seen) a = repeats u seen a := by
        intro a ha
        have haurl : a.url = url := by simpa using (List.mem_filter.mp ha).2
        rw [repeats_append, repeats_key_of_url_ne u (by rw [haurl]; exact Ne.symm hu), Bool.false_or]
      have hdrop : ∀ l, onPage url (r :: l) = onPage url l :=
        fun l => List.filter_cons_of_neg (by simpa using hu)
      rw [uniqueFrom_cons, hdrop]
      split
      · exact ih seen
      · rw [hdrop, ih, uniqueFrom_congr hkey]

lemma onPage_unique (u : Uniqueness) (url : String) (rs : List Record) :
    onPage url (unique u rs) = unique u (onPage url rs) :=
  onPage_uniqueFrom u [] url rs

lemma unique_url_cons (h : ∀ a ∈ rs, a.url = r.url) : unique .url (r :: rs) = [r] := by
  have hseen : ∀ a ∈ rs, repeats .url [(r.url, [])] a = true :=
    fun a ha => by simp [repeats, Uniqueness.key?, h a ha]
  have hnone : uniqueFrom .url [(r.url, [])] rs = [] := by
    clear h
    induction rs with
    | nil => rfl
    | cons a rs ih =>
      rw [uniqueFrom_cons, if_pos (hseen a List.mem_cons_self)]
      exact ih fun b hb => hseen b (List.mem_cons_of_mem a hb)
  rw [unique, uniqueFrom_cons]
  simpa [repeats, Uniqueness.key?] using hnone

lemma perm_of_onPage_eq {rs' : List Record} (h : ∀ url, onPage url rs = onPage url rs') :
    rs.Perm rs' := by
  rw [List.perm_iff_count]
  intro r
  have hc := congrArg (List.count r) (h r.url)
  rwa [onPage, onPage, List.count_filter (by simp), List.count_filter (by simp)] at hc

lemma foldl_urls (l acc : List String) (hacc : acc.Nodup) :
    let us := l.foldl (fun us u => if u ∈ us then us else us ++ [u]) acc
    us.Nodup ∧ ∀ u ∈ us, u ∈ acc ∨ u ∈ l := by
  induction l generalizing acc with
  | nil => exact ⟨hacc, fun u hu => Or.inl hu⟩
  | cons v l ih =>
    rw [List.foldl_cons]
    split
    · obtain ⟨hnodup, hmem⟩ := ih acc hacc
      exact ⟨hnodup, fun u hu => (hmem u hu).imp_right (List.mem_cons_of_mem v)⟩
    · rename_i hv
      have hgrown : (acc ++ [v]).Nodup :=
        List.nodup_append.mpr ⟨hacc, by simp, fun a ha b hb => by
          obtain rfl := List.mem_singleton.mp hb
          exact fun hab => hv (hab ▸ ha)⟩
      obtain ⟨hnodup, hmem⟩ := ih (acc ++ [v]) hgrown
      refine ⟨hnodup, fun u hu => ?_⟩
      rcases hmem u hu with hu | hu
      · rcases List.mem_append.mp hu with hu | hu
        · exact Or.inl hu
        · exact Or.inr (List.mem_singleton.mp hu ▸ List.mem_cons_self)
      · exact Or.inr (List.mem_cons_of_mem v hu)

lemma length_urls_le {us : List String} (h : ∀ r ∈ rs, r.url ∈ us) : (urls rs).length ≤ us.length := by
  obtain ⟨hnodup, hmem⟩ := foldl_urls (rs.map Record.url) [] List.nodup_nil
  refine (hnodup.subperm fun u hu => ?_).length_le
  rcases hmem u hu with hu | hu
  · cases hu
  · obtain ⟨r, hr, rfl⟩ := List.mem_map.mp hu
    exact h r hr

end Record

end TaintGrep
