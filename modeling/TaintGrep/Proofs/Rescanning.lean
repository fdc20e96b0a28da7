import TaintGrep.Proofs.CoarserViews
import TaintGrep.Proofs.SessionLog

/-! A page that is scanned again. Its records are logged a second time, but each finds its key taken by
the first scan, whatever happened in between short of a clear. -/

namespace TaintGrep

namespace Record

variable {u : Uniqueness} {rs rs' : List Record}

lemma repeats_of_mem (hu : u ≠ .none) {r : Record} (hr : r ∈ rs) :
    repeats u (rs.filterMap u.key?) r = true := by
  obtain ⟨k, hk⟩ : ∃ k, u.key? r = some k := by
    cases u with
    | none => exact absurd rfl hu
    | url => exact ⟨_, rfl⟩
    | var => exact ⟨_, rfl⟩
  exact repeats_keys_iff.mpr ⟨r, hr, k, hk, hk⟩

lemma unique_append_of_subset (hu : u ≠ .none) (h : rs' ⊆ rs) :
    unique u (rs ++ rs') = unique u rs := by
  induction rs' using List.reverseRecOn with
  | nil => rw [List.append_nil]
  | append_singleton rs' r ih =>
    obtain ⟨hrs', hr⟩ := List.append_subset.mp h
    have hmem : r ∈ rs ++ rs' := List.mem_append_left rs' (hr List.mem_cons_self)
    rw [← List.append_assoc, unique_concat, if_pos (repeats_of_mem hu hmem), List.append_nil, ih hrs']

end Record

namespace Session

def view (σ : Session) (steps : List Step) (u : Uniqueness) : List Record :=
  (σ.run steps).base.unique Detector.category u

lemma view_start (d : Detector) (steps : List Step) (u : Uniqueness) :
    view (start d) steps u = Record.unique u (log d steps Detector.category) := by
  rw [view, KnowledgeBase.unique, get_run]

lemma log_grep (d : Detector) (steps : List Step) (r : Response) :
    log d (steps ++ [.grep r]) Detector.category = log d steps Detector.category ++ d.records r := by
  have hseen : "seen" ≠ Detector.category := by decide
  rw [log_append_singleton, adds_grep, if_pos rfl, if_neg hseen, List.append_nil]
  rfl

lemma log_prefix_append (d : Detector) (steps : List Step) {after : List Step} (category : String)
    (h : ∀ t ∈ after, t.isClear = false) : log d steps category <+: log d (steps ++ after) category := by
  induction after using List.reverseRecOn with
  | nil => simp
  | append_singleton after t ih =>
    obtain ⟨hafter, ht⟩ := List.forall_mem_append.mp h
    have hkeep : ¬ t.isClear = true := by simp [ht t List.mem_cons_self]
    rw [← List.append_assoc, log_append_singleton, if_neg hkeep]
    exact (ih hafter).trans (List.prefix_append _ _)

lemma records_subset_log (d : Detector) (before : List Step) {after : List Step} (r : Response)
    (h : ∀ t ∈ after, t.isClear = false) :
    d.records r ⊆ log d (before ++ .grep r :: after) Detector.category := by
  have hprefix := log_prefix_append d (before ++ [.grep r]) Detector.category h
  rw [log_grep, List.append_assoc, List.singleton_append] at hprefix
  exact fun a ha => hprefix.subset (List.mem_append_right _ ha)

theorem rescan_unseen {compiles : String → Bool} {s : Settings} {σ : Session}
    (h : ofSettings compiles s = .ok σ)
    (before after : List Step) (r : Response) (hclear : ∀ t ∈ after, t.isClear = false) :
    let steps := before ++ .grep r :: after
    σ.view (steps ++ [.grep r]) .url = σ.view steps .url ∧
    σ.view (steps ++ [.grep r]) .var = σ.view steps .var ∧
    ∃ added, σ.view (before ++ [.grep r]) .none = σ.view before .none ++ added ∧
      σ.view (steps ++ [.grep r]) .none = σ.view steps .none ++ added := by
  intro steps
  obtain ⟨d, -, rfl⟩ := ofSettings_eq_ok h
  have hlogged : d.records r ⊆ log d steps Detector.category := records_subset_log d before r hclear
  simp only [view_start, log_grep, Record.unique_none]
  exact ⟨Record.unique_append_of_subset (by decide) hlogged,
    Record.unique_append_of_subset (by decide) hlogged, d.records r, rfl, rfl⟩

theorem rescan_unseen_mixed_log :
    let s : Settings := { patterns := { sinks := some ["f"], sources := some ["x", "y"] } }
    let r := Response.html "a" 1 "<script>f(x)</script>"
    let after := [.registerCounting, .append "dom_xss" (.new "" "" "a" 0),
      .grep (.html "a" 2 "<script>f(y)</script>")]
    let steps := [.append "dom_xss" (.new "" "" "b" 0), .clear] ++ .grep r :: after
    ∃ σ, ofSettings (fun _ => true) s = .ok σ ∧ (∀ t ∈ after, t.isClear = false) ∧
      (σ.view (steps ++ [.grep r]) .none).length = 4 ∧ (σ.view steps .var).length = 3 ∧
      σ.view (steps ++ [.grep r]) .var = σ.view steps .var ∧
      σ.view (steps ++ [.grep r]) .url = σ.view steps .url := by
  intro s r after steps
  have hclear : ∀ t ∈ after, t.isClear = false := by simp [after, Step.isClear]
  have hs : ofSettings (fun _ => true) s = _ := rfl
  obtain ⟨hurl, hvar, -⟩ := rescan_unseen hs _ after r hclear
  exact ⟨_, hs, hclear, by decide +kernel, by decide +kernel, hvar, hurl⟩

end Session

end TaintGrep
