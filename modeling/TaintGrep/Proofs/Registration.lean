import Mathlib.Tactic.Lemma
import Mathlib.Tactic.SplitIfs
import TaintGrep.Taint.Analyzer

/-! What a registration can do, and what registries made by registrations are like: no two of their patterns
count as the same, and each of them passed its check. -/

namespace TaintGrep

open TaintGrep.Text

lemma bind_eq_ok_iff {ε α β : Type} {x : Except ε α} {f : α → Except ε β} {b : β} :
    x >>= f = .ok b ↔ ∃ a, x = .ok a ∧ f a = .ok b := by
  cases x with
  | error e => simp [bind, Except.bind]
  | ok a => simp [bind, Except.bind]

variable {compiles : String → Bool} {k : PatternKind}

namespace PatternKind

variable {s name : String}

lemma same_self (k : PatternKind) (s : String) : k.same s s = true := by
  cases k with
  | sink => exact sameAscii_refl s
  | source => exact beq_self_eq_true s

def Compiles (compiles : String → Bool) (k : PatternKind) (s : String) : Prop :=
  trim s ≠ "" ∧ k.isMatchable compiles (trim s) = true

instance : DecidablePred (k.Compiles compiles) :=
  fun s => inferInstanceAs (Decidable (trim s ≠ "" ∧ k.isMatchable compiles (trim s) = true))

lemma check_eq_ok_iff : k.check compiles s = .ok name ↔ k.Compiles compiles s ∧ name = trim s := by
  rw [check, Compiles]
  split_ifs with hempty hmatchable
  · simp [hempty]
  · simp [hempty, hmatchable, eq_comm]
  · simp [hmatchable]

/-- The fault of a pattern that comes after these names. -/
inductive Refuses (compiles : String → Bool) (k : PatternKind) (names : List String) (s : String) :
    PatternFault → Prop
  | empty (h : trim s = "") : Refuses compiles k names s .empty
  | notCompiled (hne : trim s ≠ "") (h : k.isMatchable compiles (trim s) = false) :
      Refuses compiles k names s .notCompiled
  | listedTwice {n : String} (hs : k.Compiles compiles s) (hn : n ∈ names)
      (h : k.same n (trim s) = true) : Refuses compiles k names s .listedTwice

lemma refuses_of_check (names : List String) {e : PatternError} (h : k.check compiles s = .error e) :
    ∃ fault, k.Refuses compiles names s fault ∧ e = ⟨k, trim s, fault⟩ := by
  rw [check] at h
  split_ifs at h with hempty hmatchable
  · exact ⟨.empty, .empty hempty, (Except.error.inj h).symm⟩
  · exact ⟨.notCompiled, .notCompiled hempty (by simpa using hmatchable), (Except.error.inj h).symm⟩

lemma Refuses.not_new {names : List String} {fault : PatternFault} (h : k.Refuses compiles names s fault) :
    ¬ (k.Compiles compiles s ∧ ∀ n ∈ names, k.same n (trim s) = false) := by
  rintro ⟨hs, hnew⟩
  cases h with
  | empty h => exact hs.1 h
  | notCompiled _ h => exact Bool.false_ne_true (h.symm.trans hs.2)
  | listedTwice _ hn h => exact Bool.false_ne_true ((hnew _ hn).symm.trans h)

lemma Refuses.unique {names : List String} {fault fault' : PatternFault}
    (h : k.Refuses compiles names s fault) (h' : k.Refuses compiles names s fault') : fault = fault' := by
  cases h with
  | empty he =>
    cases h' with
    | empty _ => rfl
    | notCompiled hne _ => exact absurd he hne
    | listedTwice hs _ _ => exact absurd he hs.1
  | notCompiled hne hn =>
    cases h' with
    | empty he => exact absurd he hne
    | notCompiled _ _ => rfl
    | listedTwice hs _ _ => exact absurd (hn.symm.trans hs.2) Bool.false_ne_true
  | listedTwice hs _ _ =>
    cases h' with
    | empty he => exact absurd he hs.1
    | notCompiled _ hn => exact absurd (hn.symm.trans hs.2) Bool.false_ne_true
    | listedTwice _ _ _ => rfl

end PatternKind

namespace Registry

variable {r r' : Registry k} {s : String}

/-- A registration adds the trimmed pattern, or is refused and changes nothing. -/
lemma register_cases (compiles : String → Bool) (r : Registry k) (s : String) :
    (k.Compiles compiles s ∧ (∀ n ∈ r.names, k.same n (trim s) = false)) ∧
        r.register compiles s = (.ok (), ⟨r.names ++ [trim s]⟩) ∨
      ∃ fault, k.Refuses compiles r.names s fault ∧
        r.register compiles s = (.error ⟨k, trim s, fault⟩, r) := by
  rw [register]
  split
  · rename_i e he
    obtain ⟨fault, hfault, rfl⟩ := PatternKind.refuses_of_check r.names he
    exact Or.inr ⟨fault, hfault, rfl⟩
  · rename_i name hname
    obtain ⟨hs, rfl⟩ := PatternKind.check_eq_ok_iff.mp hname
    split
    · rename_i hlisted
      obtain ⟨n, hn, hsame⟩ := List.any_eq_true.mp hlisted
      exact Or.inr ⟨.listedTwice, .listedTwice hs hn hsame, rfl⟩
    · rename_i hlisted
      rw [Bool.not_eq_true, List.any_eq_false] at hlisted
      exact Or.inl ⟨⟨hs, fun n hn => by simpa using hlisted n hn⟩, rfl⟩

lemma register_eq_ok_iff : r.register compiles s = (.ok (), r') ↔
    (k.Compiles compiles s ∧ ∀ n ∈ r.names, k.same n (trim s) = false) ∧ r' = ⟨r.names ++ [trim s]⟩ := by
  rcases register_cases compiles r s with ⟨hnew, heq⟩ | ⟨fault, hfault, heq⟩
  · rw [heq, Prod.mk.injEq, and_iff_right rfl, and_iff_right hnew, eq_comm]
  · rw [heq]
    exact iff_of_false (by simp) fun h => hfault.not_new h.1

lemma register_eq_error_iff {e : PatternError} : (r.register compiles s).1 = .error e ↔
    ∃ fault, k.Refuses compiles r.names s fault ∧ e = ⟨k, trim s, fault⟩ := by
  rcases register_cases compiles r s with ⟨hnew, heq⟩ | ⟨fault, hfault, heq⟩
  · rw [heq]
    refine iff_of_false (by simp) ?_
    rintro ⟨_, h, -⟩
    exact h.not_new hnew
  · rw [heq]
    constructor
    · intro h
      exact ⟨fault, hfault, (Except.error.inj h).symm⟩
    · rintro ⟨fault', hfault', rfl⟩
      rw [hfault.unique hfault']

def attempt (compiles : String → Bool) (r : Registry k) (s : String) : Registry k :=
  (r.register compiles s).2

/-- The registry comes from the empty one or from the built-in one by registrations. -/
def Built (compiles : String → Bool) (builtIn r : Registry k) : Prop :=
  ∃ start ss, (start = empty ∨ start = builtIn) ∧ r = List.foldl (attempt compiles) start ss

lemma registerAll_cons_eq_ok_iff {ss : List String} : r.registerAll compiles (s :: ss) = .ok r' ↔
    ∃ r₁, r.register compiles s = (.ok (), r₁) ∧ r₁.registerAll compiles ss = .ok r' := by
  rw [registerAll]
  rcases hr : r.register compiles s with ⟨result, r₁⟩
  cases result with
  | error e => simp
  | ok u => simp

lemma registerAll_eq_foldl {ss : List String} (h : r.registerAll compiles ss = .ok r') :
    r' = ss.foldl (attempt compiles) r := by
  induction ss generalizing r with
  | nil => exact (Except.ok.inj h).symm
  | cons s ss ih =>
    obtain ⟨r₁, h₁, h⟩ := registerAll_cons_eq_ok_iff.mp h
    rw [ih h, List.foldl_cons, attempt, h₁]

lemma Built.of_given {given : Option (List String)} {extra : List String} {builtIn base : Registry k}
    (hbase : ofGiven compiles given builtIn = .ok base) (hr : base.registerAll compiles extra = .ok r) :
    Built compiles builtIn r := by
  cases given with
  | none =>
    cases hbase
    exact ⟨builtIn, extra, Or.inr rfl, registerAll_eq_foldl hr⟩
  | some names =>
    refine ⟨empty, names ++ extra, Or.inl rfl, ?_⟩
    rw [List.foldl_append, ← registerAll_eq_foldl hbase]
    exact registerAll_eq_foldl hr

lemma Built.preserves {P : Registry k → Prop} {builtIn : Registry k} (h : Built compiles builtIn r)
    (hempty : P empty) (hbuiltIn : P builtIn)
    (hstep : ∀ (r : Registry k) (s : String), P r → k.Compiles compiles s →
      (∀ n ∈ r.names, k.same n (trim s) = false) → P ⟨r.names ++ [trim s]⟩) : P r := by
  obtain ⟨start, ss, hstart, rfl⟩ := h
  have hP : P start := by
    rcases hstart with rfl | rfl
    · exact hempty
    · exact hbuiltIn
  clear hstart
  induction ss generalizing start with
  | nil => exact hP
  | cons s ss ih =>
    apply ih
    rw [attempt]
    rcases register_cases compiles start s with ⟨⟨hs, hnew⟩, heq⟩ | ⟨fault, -, heq⟩
    · rw [heq]
      exact hstep start s hP hs hnew
    · rw [heq]
      exact hP

lemma names_of_registerAll {ss : List String} (h : r.registerAll compiles ss = .ok r') :
    r'.names = r.names ++ ss.map trim := by
  induction ss generalizing r with
  | nil =>
    cases h
    simp
  | cons s ss ih =>
    obtain ⟨r₁, h₁, h⟩ := registerAll_cons_eq_ok_iff.mp h
    obtain ⟨-, rfl⟩ := register_eq_ok_iff.mp h₁
    rw [ih h]
    simp

lemma names_of_given {given : Option (List String)} {extra : List String} {builtIn base : Registry k}
    (hbase : ofGiven compiles given builtIn = .ok base) (hr : base.registerAll compiles extra = .ok r) :
    r.names = (given.map (List.map trim)).getD builtIn.names ++ extra.map trim := by
  rw [names_of_registerAll hr]
  cases given with
  | none =>
    cases hbase
    rfl
  | some names =>
    rw [names_of_registerAll hbase]
    rfl

def Distinct (r : Registry k) : Prop :=
  r.names.Pairwise fun n m => k.same n m = false

lemma Distinct.concat {r : Registry k} {name : String} (hr : r.Distinct)
    (hnew : ∀ n ∈ r.names, k.same n name = false) : Distinct (⟨r.names ++ [name]⟩ : Registry k) := by
  rw [Distinct, List.pairwise_append]
  refine ⟨hr, List.pairwise_singleton _ _, fun n hn m hm => ?_⟩
  rw [List.mem_singleton.mp hm]
  exact hnew n hn

lemma Distinct.nodup (hr : r.Distinct) : r.names.Nodup := by
  refine hr.imp fun {n m} h => ?_
  rintro rfl
  rw [k.same_self] at h
  cases h

lemma Built.distinct {builtIn : Registry k} (h : Built compiles builtIn r) (hb : builtIn.Distinct) :
    r.Distinct :=
  h.preserves List.Pairwise.nil hb fun _ _ hr _ hnew => hr.concat hnew

lemma distinct_defaultSinks : defaultSinks.Distinct := by
  unfold Distinct
  decide +kernel

lemma distinct_defaultSources : defaultSources.Distinct := by
  unfold Distinct
  decide +kernel

def Trimmed (r : Registry k) : Prop :=
  ∀ name ∈ r.names, ∃ s, name = trim s ∧ name ≠ ""

lemma Built.trimmed {builtIn : Registry k} (h : Built compiles builtIn r) (hb : builtIn.Trimmed) :
    r.Trimmed := by
  refine h.preserves (by simp [Trimmed, empty]) hb fun r s hr hs _ name hname => ?_
  rcases List.mem_append.mp hname with hname | hname
  · exact hr name hname
  · rw [List.mem_singleton.mp hname]
    exact ⟨s, rfl, hs.1⟩

lemma trimmed_defaultSinks : defaultSinks.Trimmed := by
  have h : ∀ name ∈ defaultSinks.names, name = trim name ∧ name ≠ "" := by decide +kernel
  exact fun name hname => ⟨name, h name hname⟩

lemma trimmed_defaultSources : defaultSources.Trimmed := by
  have h : ∀ name ∈ defaultSources.names, name = trim name ∧ name ≠ "" := by decide +kernel
  exact fun name hname => ⟨name, h name hname⟩

end Registry

namespace Analyzer

variable {p : Patterns} {m : ScanMode} {a : Analyzer}

lemma built_of_ofPatterns (h : ofPatterns compiles p m = .ok a) :
    Registry.Built compiles Registry.defaultSinks a.sinks ∧
      Registry.Built compiles Registry.defaultSources a.sources ∧ a.calls = m := by
  simp only [ofPatterns, bind_eq_ok_iff] at h
  obtain ⟨base, hbase, sinks, hsinks, base', hbase', sources, hsources, ha⟩ := h
  cases ha
  exact ⟨.of_given hbase hsinks, .of_given hbase' hsources, rfl⟩

lemma distinct_of_ofPatterns (h : ofPatterns compiles p m = .ok a) :
    a.sinks.Distinct ∧ a.sources.Distinct ∧ a.calls = m := by
  obtain ⟨hsinks, hsources, hm⟩ := built_of_ofPatterns h
  exact ⟨hsinks.distinct Registry.distinct_defaultSinks,
    hsources.distinct Registry.distinct_defaultSources, hm⟩

end Analyzer

end TaintGrep
