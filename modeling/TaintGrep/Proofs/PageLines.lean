import Mathlib.Data.List.Basic
import TaintGrep.Proofs.Position
import TaintGrep.Text.Basic

/-! Lines and counts of newlines: a text that holds no newline stands on the line whose number is that of
the newlines before it. The carriage return that a line loses is never part of the text, unless the text
ends with it. -/

namespace TaintGrep.Text

lemma linesFrom_append {t : List Char} (h : '\n' ∉ t) (acc rest : List Char) :
    linesFrom acc (t ++ rest) = linesFrom (t.reverse ++ acc) rest := by
  induction t generalizing acc with
  | nil => rfl
  | cons c t ih =>
    obtain ⟨hc, ht⟩ := List.ne_and_not_mem_of_not_mem_cons h
    rw [List.cons_append, linesFrom, if_neg (Ne.symm hc), ih ht]
    simp

lemma newline_notMem_dropReturn {cs : List Char} (h : '\n' ∉ cs) : '\n' ∉ dropReturn cs := by
  rw [dropReturn]
  split
  · exact fun hmem => h (List.dropLast_subset cs hmem)
  · exact h

lemma infix_dropReturn {t cs : List Char} (h : t <:+: cs) (hne : t ≠ [])
    (hreturn : t.getLast? ≠ some '\r') : t <:+: dropReturn cs := by
  rw [dropReturn]
  split
  · rename_i hlast
    obtain ⟨l, r, rfl⟩ := h
    rcases List.eq_nil_or_concat r with rfl | ⟨r, c, rfl⟩
    · rw [List.append_nil, List.getLast?_append_of_ne_nil _ hne] at hlast
      exact absurd hlast hreturn
    · exact ⟨l, r, by simp⟩
  · exact h

lemma exists_head_linesFrom {acc : List Char} (hacc : '\n' ∉ acc) (hne : acc ≠ []) (rest : List Char) :
    ∃ u ls, linesFrom acc rest = u :: ls ∧ '\n' ∉ u ∧
      ∃ v, u = acc.reverse ++ v ∨ u = dropReturn (acc.reverse ++ v) := by
  induction rest generalizing acc with
  | nil =>
    obtain ⟨c, acc, rfl⟩ := List.exists_cons_of_ne_nil hne
    exact ⟨_, [], rfl, by rwa [List.mem_reverse], [], Or.inl (List.append_nil _).symm⟩
  | cons c rest ih =>
    rw [linesFrom]
    split
    · refine ⟨_, _, rfl, newline_notMem_dropReturn (by simpa using hacc), [], Or.inr ?_⟩
      rw [List.append_nil]
    · rename_i hc
      have hgrown : '\n' ∉ c :: acc := List.not_mem_cons_of_ne_of_not_mem (Ne.symm hc) hacc
      obtain ⟨u, ls, hls, hu, v, hv⟩ := ih hgrown (List.cons_ne_nil c acc)
      refine ⟨u, ls, hls, hu, c :: v, ?_⟩
      simpa using hv

lemma exists_getElem?_linesFrom {acc t : List Char} (passed rest : List Char) (hacc : '\n' ∉ acc)
    (ht : '\n' ∉ t) (hne : t ≠ []) (hreturn : t.getLast? ≠ some '\r') :
    ∃ line, (linesFrom acc (passed ++ (t ++ rest)))[newlines passed]? = some line ∧
      t <:+: line ∧ '\n' ∉ line := by
  induction passed generalizing acc with
  | nil =>
    have hgrown : '\n' ∉ t.reverse ++ acc := by simp [ht, hacc]
    obtain ⟨line, ls, hls, hline, v, hv⟩ := exists_head_linesFrom hgrown (by simp [hne]) rest
    rw [List.nil_append, linesFrom_append ht, hls]
    refine ⟨line, rfl, ?_, hline⟩
    have hpart : t <:+: (t.reverse ++ acc).reverse ++ v := ⟨acc.reverse, v, by simp⟩
    rcases hv with rfl | rfl
    · exact hpart
    · exact infix_dropReturn hpart hne hreturn
  | cons c passed ih =>
    rw [List.cons_append, linesFrom, newlines_cons]
    split
    · obtain ⟨line, hline⟩ := ih List.not_mem_nil
      refine ⟨line, ?_⟩
      rwa [Nat.add_comm, List.getElem?_cons_succ]
    · rename_i hc
      rw [Nat.zero_add]
      exact ih (List.not_mem_cons_of_ne_of_not_mem (Ne.symm hc) hacc)

lemma exists_getElem?_lines {s : String} {passed t rest : List Char}
    (hs : s.toList = passed ++ (t ++ rest)) (ht : '\n' ∉ t) (hne : t ≠ [])
    (hreturn : t.getLast? ≠ some '\r') :
    ∃ line, (lines s)[newlines passed]? = some line ∧ t <:+: line.toList ∧ '\n' ∉ line.toList := by
  obtain ⟨line, hline, hpart, hnew⟩ :=
    exists_getElem?_linesFrom passed rest List.not_mem_nil ht hne hreturn
  refine ⟨String.ofList line, ?_, ?_⟩
  · rw [lines, List.getElem?_map, hs, hline, Option.map_some]
  · simpa using ⟨hpart, hnew⟩

end TaintGrep.Text
