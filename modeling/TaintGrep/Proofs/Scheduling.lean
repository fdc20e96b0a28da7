import Mathlib.Logic.Relation
import TaintGrep.Proofs.PageRecords
import TaintGrep.Proofs.UniqueViews
import TaintGrep.Report.Machine

/-! Pages grepped by workers that share a knowledge base. The workers append one record at a time, in any
order between them. Each page keeps its own records in order, so schedules differ only in how the
records of different pages are mixed. -/

namespace TaintGrep

def Engine.appends (e : Engine) (r : Response) : List (String × Record) :=
  e.plugins.flatMap fun p => p.grep r

/-- What each worker has still to append, and the base they share. -/
structure Scan where
  pending : List (List (String × Record))
  base : KnowledgeBase

namespace Scan

def start (e : Engine) (rs : List Response) : Scan := ⟨rs.map e.appends, KnowledgeBase.empty⟩

inductive Step : Scan → Scan → Prop
  | append (before after : List (List (String × Record))) (category : String) (r : Record)
      (rest : List (String × Record)) (kb : KnowledgeBase) :
      Step ⟨before ++ ((category, r) :: rest) :: after, kb⟩
        ⟨before ++ rest :: after, kb.append category r⟩

def Run : Scan → Scan → Prop := Relation.ReflTransGen Step

def Finished (σ : Scan) : Prop := ∀ l ∈ σ.pending, l = []

def Apart (σ : Scan) : Prop :=
  σ.pending.Pairwise fun l l' => ∀ a ∈ l, ∀ b ∈ l', a.2.url ≠ b.2.url

def recordsOf (category url : String) (l : List (String × Record)) : List Record :=
  Record.onPage url ((l.filter fun e => e.1 = category).map Prod.snd)

def stream (σ : Scan) (category url : String) : List Record :=
  Record.onPage url (σ.base.get category) ++ recordsOf category url σ.pending.flatten

lemma recordsOf_append (category url : String) (l l' : List (String × Record)) :
    recordsOf category url (l ++ l') = recordsOf category url l ++ recordsOf category url l' := by
  simp [recordsOf, Record.onPage_append]

lemma recordsOf_eq_nil (category : String) {url : String} {l : List (String × Record)}
    (h : ∀ e ∈ l, e.2.url ≠ url) : recordsOf category url l = [] := by
  simp only [recordsOf, Record.onPage, List.filter_eq_nil_iff, List.mem_map, List.mem_filter]
  rintro _ ⟨e, ⟨he, -⟩, rfl⟩
  simpa using h e he

lemma recordsOf_append_comm (category url : String) {l : List (String × Record)} {e : String × Record}
    (h : ∀ a ∈ l, a.2.url ≠ e.2.url) :
    recordsOf category url l ++ recordsOf category url [e] =
      recordsOf category url [e] ++ recordsOf category url l := by
  by_cases hu : e.2.url = url
  · rw [recordsOf_eq_nil category fun a ha => hu ▸ h a ha, List.nil_append, List.append_nil]
  · rw [recordsOf_eq_nil category (l := [e]) (by simpa using hu), List.nil_append, List.append_nil]

lemma onPage_get_append (kb : KnowledgeBase) (category url : String) (e : String × Record) :
    Record.onPage url ((kb.append e.1 e.2).get category) =
      Record.onPage url (kb.get category) ++ recordsOf category url [e] := by
  have hget := kb.get_appendAll [e] category
  rw [recordsOf, ← Record.onPage_append, ← hget]
  rfl

variable {σ τ : Scan}

lemma Step.apart (h : Step σ τ) (hσ : σ.Apart) : τ.Apart := by
  obtain ⟨before, after, category, r, rest, kb⟩ := h
  obtain ⟨hbefore, hmine, hcross⟩ := List.pairwise_append.mp hσ
  obtain ⟨hafter, hrest⟩ := List.pairwise_cons.mp hmine
  refine List.pairwise_append.mpr ⟨hbefore, List.pairwise_cons.mpr ⟨?_, hrest⟩, ?_⟩
  · intro l hl a ha
    exact hafter l hl a (List.mem_cons_of_mem _ ha)
  · intro l hl l' hl' a ha b hb
    rcases List.mem_cons.mp hl' with rfl | hl'
    · exact hcross l hl _ List.mem_cons_self a ha b (List.mem_cons_of_mem _ hb)
    · exact hcross l hl l' (List.mem_cons_of_mem _ hl') a ha b hb

lemma Step.stream_eq (h : Step σ τ) (hσ : σ.Apart) (category url : String) :
    τ.stream category url = σ.stream category url := by
  obtain ⟨before, after, c, r, rest, kb⟩ := h
  -- the append overtakes what the workers before it have still to do, all on other pages
  have hfront : ∀ a ∈ before.flatten, a.2.url ≠ r.url := by
    intro a ha
    obtain ⟨l, hl, hal⟩ := List.mem_flatten.mp ha
    exact (List.pairwise_append.mp hσ).2.2 l hl _ List.mem_cons_self a hal (c, r) List.mem_cons_self
  have hmove := recordsOf_append_comm category url (e := (c, r)) hfront
  have hflat : (before ++ ((c, r) :: rest) :: after).flatten =
      before.flatten ++ [(c, r)] ++ (rest ++ after.flatten) := by simp
  have hflat' : (before ++ rest :: after).flatten = before.flatten ++ (rest ++ after.flatten) := by
    simp
  rw [stream, stream, onPage_get_append kb category url (c, r), hflat, hflat',
    recordsOf_append _ _ (before.flatten ++ _), recordsOf_append _ _ before.flatten,
    recordsOf_append _ _ before.flatten, hmove]
  simp only [List.append_assoc]

lemma Run.stream_eq (h : Run σ τ) (hσ : σ.Apart) (category url : String) :
    τ.stream category url = σ.stream category url := by
  have hboth : τ.Apart ∧ τ.stream category url = σ.stream category url := by
    induction h with
    | refl => exact ⟨hσ, rfl⟩
    | tail _ hstep ih => exact ⟨hstep.apart ih.1, (hstep.stream_eq ih.1 category url).trans ih.2⟩
  exact hboth.2

lemma Finished.stream_eq (h : σ.Finished) (category url : String) :
    σ.stream category url = Record.onPage url (σ.base.get category) := by
  rw [stream, List.flatten_eq_nil_iff.mpr h]
  simp [recordsOf, Record.onPage]

lemma run_worker (before after : List (List (String × Record))) (l : List (String × Record))
    (kb : KnowledgeBase) : Run ⟨before ++ l :: after, kb⟩ ⟨before ++ [] :: after, kb.appendAll l⟩ := by
  induction l generalizing kb with
  | nil => exact .refl
  | cons e l ih => exact .head (.append before after e.1 e.2 l kb) (ih (kb.append e.1 e.2))

lemma run_workers (e : Engine) (before : List (List (String × Record))) (rs : List Response)
    (kb : KnowledgeBase) :
    Run ⟨before ++ rs.map e.appends, kb⟩ ⟨before ++ rs.map fun _ => [], rs.foldl e.grep kb⟩ := by
  induction rs generalizing before kb with
  | nil => exact .refl
  | cons r rs ih =>
    have hfirst := run_worker before (rs.map e.appends) (e.appends r) kb
    have hrest := ih (before ++ [[]]) (kb.appendAll (e.appends r))
    simp only [List.append_assoc, List.singleton_append] at hrest
    exact hfirst.trans hrest

lemma run_sequential (e : Engine) (rs : List Response) :
    ∃ τ, Run (start e rs) τ ∧ τ.Finished ∧ τ.base = rs.foldl e.grep KnowledgeBase.empty :=
  ⟨_, run_workers e [] rs KnowledgeBase.empty, by simp [Finished], rfl⟩

lemma onPage_get_eq {e : Engine} {rs : List Response} (hstart : (start e rs).Apart)
    (hrun : Run (start e rs) σ) (hdone : σ.Finished) (category url : String) :
    Record.onPage url (σ.base.get category) =
      Record.onPage url ((rs.foldl e.grep KnowledgeBase.empty).get category) := by
  obtain ⟨τ, hτ, hτdone, hbase⟩ := run_sequential e rs
  rw [← hbase, ← hdone.stream_eq, ← hτdone.stream_eq, hrun.stream_eq hstart, hτ.stream_eq hstart]

lemma start_apart (d : Detector) {rs : List Response}
    (hrs : rs.Pairwise fun r r' => r.url ≠ r'.url) : (start ⟨[Plugin.ofDetector d]⟩ rs).Apart := by
  have hurl : ∀ r, ∀ a ∈ Engine.appends ⟨[Plugin.ofDetector d]⟩ r, a.2.url = r.url := by
    intro r a ha
    simp only [Engine.appends, Plugin.ofDetector, List.flatMap_singleton] at ha
    obtain ⟨record, hrecord, rfl⟩ := List.mem_map.mp ha
    exact Detector.url_of_mem_records hrecord
  refine List.pairwise_map.mpr (hrs.imp fun {r r'} hne a ha b hb => ?_)
  rwa [hurl r a ha, hurl r' b hb]

theorem finish_schedule_independent {compiles : String → Bool} {s : Settings} {e : Engine}
    (he : Engine.ofSettings compiles s = .ok e)
    {rs : List Response} (hrs : rs.Pairwise fun r r' => r.url ≠ r'.url)
    (hrun : Run (start e rs) σ) (hdone : σ.Finished) :
    let reported := e.finish σ.base
    let sequential := e.finish (rs.foldl e.grep KnowledgeBase.empty)
    reported.Perm sequential ∧
      (∀ url, Record.onPage url reported = Record.onPage url sequential) ∧
      reported.length = sequential.length ∧
      (∀ v, Report.countOf v reported = Report.countOf v sequential) ∧
      ∀ r, r ∈ reported ↔ r ∈ sequential := by
  intro reported sequential
  obtain ⟨d, -, rfl⟩ := Engine.ofSettings_eq_ok he
  have hpage : ∀ url, Record.onPage url reported = Record.onPage url sequential := by
    intro url
    have hget := onPage_get_eq (start_apart d hrs) hrun hdone Detector.category url
    simp only [reported, sequential, Engine.finish_detector, KnowledgeBase.unique,
      Record.onPage_unique, hget]
  have hperm : reported.Perm sequential := Record.perm_of_onPage_eq hpage
  exact ⟨hperm, hpage, hperm.length_eq, fun v => hperm.countP_eq _, fun r => hperm.mem_iff⟩

lemma run_swapped {e : Engine} {p q : Response} {a b : String × Record} (hp : e.appends p = [a])
    (hq : e.appends q = [b]) :
    Run (start e [p, q]) ⟨[[], []], (KnowledgeBase.empty.append b.1 b.2).append a.1 a.2⟩ := by
  have hstart : start e [p, q] = ⟨[[a], [b]], KnowledgeBase.empty⟩ := by simp [start, hp, hq]
  rw [hstart]
  exact .head (.append [[a]] [] b.1 b.2 [] _) (.head (.append [] [[]] a.1 a.2 [] _) .refl)

theorem finish_schedule_independent_swapped :
    ∃ e rs σ, Engine.ofSettings (fun _ => true) { uniqueness := .url } = .ok e ∧
      (rs.Pairwise fun r r' => r.url ≠ r'.url) ∧ Run (start e rs) σ ∧ σ.Finished ∧
      e.finish σ.base ≠ e.finish (rs.foldl e.grep KnowledgeBase.empty) ∧
      (e.finish σ.base).Perm (e.finish (rs.foldl e.grep KnowledgeBase.empty)) := by
  have he : Engine.ofSettings (fun _ => true) { uniqueness := .url } =
      .ok ⟨[Plugin.ofDetector { uniqueness := .url }]⟩ := rfl
  have hrun := run_swapped (e := ⟨[Plugin.ofDetector { uniqueness := .url }]⟩)
    (p := .html "a" 0 "<script>eval(document.URL)</script>")
    (q := .html "b" 1 "<script>eval(window.location)</script>")
    (a := ("dom_xss", .ofFinding "a" 0
      (.tainted "eval" "document.URL" "document.URL" "eval(document.URL)" 1)))
    (b := ("dom_xss", .ofFinding "b" 1
      (.tainted "eval" "window.location" "window.location" "eval(window.location)" 1)))
    (by decide +kernel) (by decide +kernel)
  have hdone : ∀ kb, Finished ⟨[[], []], kb⟩ := by simp [Finished]
  exact ⟨_, _, _, he, by decide, hrun, hdone _, by decide +kernel,
    (finish_schedule_independent he (by decide) hrun (hdone _)).1⟩

end Scan

end TaintGrep
