import Mathlib.Data.List.Basic
import Mathlib.Data.List.Induction
import TaintGrep.Engine.Session
import TaintGrep.Proofs.PageRecords

/-! A session keeps one log for each category. The log is a function of the steps alone: what each step
after the last clear adds to the category, in the order of the steps. -/

namespace TaintGrep

lemma KnowledgeBase.mem_categories_iff (kb : KnowledgeBase) (category : String) :
    category ∈ kb.categories ↔ kb.get category ≠ [] := by
  rw [categories, get]
  cases h : kb.entries.lookup category with
  | none =>
    have hne := List.lookup_eq_none_iff.mp h
    simpa using fun rs hmem => by simpa using hne _ hmem
  | some rs =>
    obtain ⟨before, after, hes, -⟩ := List.lookup_eq_some_iff.mp h
    have hmem : (category, rs) ∈ kb.entries := by simp [hes]
    simpa [kb.filled _ hmem] using ⟨rs, hmem⟩

namespace Session

namespace Step

def isClear : Step → Bool
  | .clear => true
  | _ => false

def isRegistration : Step → Bool
  | .registerCounting => true
  | _ => false

def isQuestion : Step → Bool
  | .finish | .get _ | .unique _ _ | .size _ | .plugins | .plugin _ => true
  | .grep _ | .append _ _ | .clear | .registerCounting => false

def adds (d : Detector) (n : Nat) (category : String) : Step → List Record
  | .append c r => if c = category then [r] else []
  | .grep r =>
    if category = Detector.category then
      match r.isTextual, r.text with
      | true, .ok body => (d.findings body).map (Record.ofFinding r.url r.id)
      | _, _ => []
    else if category = "seen" then List.replicate n (Plugin.seenRecord r)
    else []
  | _ => []

end Step

def counters (steps : List Step) : Nat := steps.countP Step.isRegistration

/-- What a step at an index leaves in the log: nothing if a clear follows. -/
def share (d : Detector) (steps : List Step) (category : String) (p : Step × Nat) : List Record :=
  if (steps.drop p.2).any Step.isClear then []
  else p.1.adds d (counters (steps.take p.2)) category

def log (d : Detector) (steps : List Step) (category : String) : List Record :=
  steps.zipIdx.flatMap (share d steps category)

lemma share_append_singleton (d : Detector) {steps : List Step} (t : Step) (category : String)
    {p : Step × Nat} (hp : p ∈ steps.zipIdx) : share d (steps ++ [t]) category p =
      if t.isClear then [] else share d steps category p := by
  have hle : p.2 ≤ steps.length := Nat.le_of_lt (List.snd_lt_of_mem_zipIdx hp)
  rw [share, List.drop_append_of_le_length hle, List.take_append_of_le_length hle, List.any_append]
  cases ht : t.isClear with
  | true => simp [ht]
  | false => simp [ht, share]

lemma share_last (d : Detector) (steps : List Step) (t : Step) (category : String) :
    share d (steps ++ [t]) category (t, steps.length) =
      if t.isClear then [] else t.adds d (counters steps) category := by
  simp [share]

lemma log_append_singleton (d : Detector) (steps : List Step) (t : Step) (category : String) :
    log d (steps ++ [t]) category =
      if t.isClear then [] else log d steps category ++ t.adds d (counters steps) category := by
  have hlast : [t].zipIdx (0 + steps.length) = [(t, steps.length)] := by simp
  rw [log, List.zipIdx_append, List.flatMap_append, hlast, List.flatMap_singleton, share_last,
    List.flatMap_congr fun p hp => share_append_singleton d t category hp]
  cases t.isClear with
  | true => simp
  | false => simp [log]

def start (d : Detector) : Session := ⟨⟨[Plugin.ofDetector d]⟩, KnowledgeBase.empty⟩

lemma ofSettings_eq_ok {compiles : String → Bool} {s : Settings} {σ : Session}
    (h : ofSettings compiles s = .ok σ) :
    ∃ d, Detector.ofSettings compiles s = .ok d ∧ σ = start d := by
  unfold ofSettings at h
  split at h
  · cases h
  · rename_i e he
    obtain ⟨d, hd, rfl⟩ := Engine.ofSettings_eq_ok he
    exact ⟨d, hd, (Except.ok.inj h).symm⟩

lemma run_append_singleton (σ : Session) (steps : List Step) (t : Step) :
    σ.run (steps ++ [t]) = (σ.run steps).step t := by
  simp [run, List.foldl_append]

lemma step_of_isQuestion (σ : Session) {t : Step} (h : t.isQuestion = true) : σ.step t = σ := by
  cases t with
  | grep _ | append _ _ | clear | registerCounting => cases h
  | _ => rfl

lemma plugins_run (d : Detector) (steps : List Step) :
    ((start d).run steps).engine.plugins =
      Plugin.ofDetector d :: List.replicate (counters steps) Plugin.counting := by
  induction steps using List.reverseRecOn with
  | nil => rfl
  | append_singleton steps t ih =>
    rw [run_append_singleton]
    cases t with
    | registerCounting =>
      simp [step, Engine.register, ih, counters, Step.isRegistration, List.replicate_succ']
    | _ => simpa [step, counters, Step.isRegistration] using ih

lemma adds_grep (d : Detector) (n : Nat) (category : String) (r : Response) :
    (Step.grep r).adds d n category = (if Detector.category = category then d.records r else []) ++
      if "seen" = category then List.replicate n (Plugin.seenRecord r) else [] := by
  have hne : Detector.category ≠ "seen" := by decide
  have hr : d.records r = match r.isTextual, r.text with
      | true, .ok body => (d.findings body).map (Record.ofFinding r.url r.id)
      | _, _ => [] := by
    rw [Detector.records]
    cases r.isTextual <;> cases r.text <;> rfl
  rw [Step.adds, ← hr]
  by_cases hd : category = Detector.category
  · simp [hd, hne.symm]
  · simp [hd, Ne.symm hd, eq_comm]

lemma get_step {σ : Session} {d : Detector} {n : Nat}
    (hσ : σ.engine.plugins = Plugin.ofDetector d :: List.replicate n Plugin.counting)
    (t : Step) (category : String) :
    (σ.step t).base.get category =
      if t.isClear then [] else σ.base.get category ++ t.adds d n category := by
  cases t with
  | grep r => exact (Engine.get_grep hσ σ.base r category).trans (by rw [adds_grep]; rfl)
  | append c r => simp [step, Step.isClear, Step.adds, KnowledgeBase.get_append, eq_comm]
  | clear => rfl
  | _ => simp [step, Step.isClear, Step.adds]

lemma get_run (d : Detector) (steps : List Step) (category : String) :
    ((start d).run steps).base.get category = log d steps category := by
  -- from the last step, as a clear drops what was logged before it
  induction steps using List.reverseRecOn with
  | nil => rfl
  | append_singleton steps t ih =>
    rw [run_append_singleton, get_step (plugins_run d steps), ih, log_append_singleton]

lemma finish_run (d : Detector) (steps : List Step) :
    ((start d).run steps).engine.finish ((start d).run steps).base =
      Record.unique d.uniqueness (log d steps Detector.category) ++
        (List.replicate (counters steps) (log d steps "seen")).flatten := by
  rw [Engine.finish, plugins_run, List.flatMap_cons, List.flatMap_replicate]
  simp [Plugin.ofDetector, Plugin.counting, KnowledgeBase.unique, get_run]

theorem run_refines_log {compiles : String → Bool} {s : Settings} {σ : Session}
    (h : ofSettings compiles s = .ok σ) :
    ∃ d, Detector.ofSettings compiles s = .ok d ∧ ∀ steps,
      (∀ c, (σ.run steps).answer (.get c) = .records (log d steps c)) ∧
      (∀ c u, (σ.run steps).answer (.unique c u) = .records (Record.unique u (log d steps c))) ∧
      (∀ c, (σ.run steps).answer (.size c) = .size (log d steps c).length) ∧
      (σ.run steps).answer .finish =
        .records (Record.unique s.uniqueness (log d steps Detector.category) ++
          (List.replicate (counters steps) (log d steps "seen")).flatten) ∧
      (σ.run steps).base.categories.Pairwise (· < ·) ∧
      (∀ c, c ∈ (σ.run steps).base.categories ↔ log d steps c ≠ []) ∧
      ((σ.run steps).base.isEmpty = true ↔ (σ.run steps).base.categories = []) ∧
      ∀ t : Step, t.isQuestion = true → (σ.run steps).step t = σ.run steps := by
  obtain ⟨d, hd, rfl⟩ := ofSettings_eq_ok h
  refine ⟨d, hd, fun steps => ⟨fun c => ?_, fun c u => ?_, fun c => ?_, ?_,
    KnowledgeBase.categories_increase _, fun c => ?_, KnowledgeBase.isEmpty_iff _,
    fun t ht => step_of_isQuestion _ ht⟩⟩
  · rw [answer, get_run]
  · rw [answer, KnowledgeBase.unique, get_run]
  · rw [answer, KnowledgeBase.size, get_run]
  · rw [answer, finish_run, (Detector.ofSettings_eq_ok hd).2.2]
  · rw [KnowledgeBase.mem_categories_iff, get_run]

theorem run_refines_log_across_clear :
    ∃ σ d steps, ofSettings (fun _ => true) {} = .ok σ ∧ Detector.ofSettings (fun _ => true) {} = .ok d ∧
      (log d steps "dom_xss").length = 2 ∧ (log d steps "seen").length = 3 ∧
      ∀ c, (σ.run steps).answer (.get c) = .records (log d steps c) := by
  refine ⟨_, _, [.registerCounting, .append "seen" (.new "" "" "" 0), .clear,
    .grep (.html "a" 1 "<script>eval(document.URL)</script>"), .append "dom_xss" (.new "" "" "" 0),
    .registerCounting, .size "seen", .grep ⟨"b", 2, some "image/png", [255]⟩], rfl, rfl,
    by decide +kernel, by decide +kernel, ?_⟩
  obtain ⟨d, hd, h⟩ := run_refines_log (show ofSettings (fun _ => true) {} = _ from rfl)
  cases hd
  exact (h _).1

end Session

end TaintGrep
