import Mathlib.Data.List.Induction
import TaintGrep.Proofs.Registration

/-! When patterns make an analyzer, and what is said when they do not. The sinks are those that are given
or the built-in ones, then the extra ones, and so are the sources; the first pattern with a fault decides,
and sinks come before sources. -/

namespace TaintGrep

open TaintGrep.Text

lemma bind_eq_error_iff {ε α β : Type} {x : Except ε α} {f : α → Except ε β} {e : ε} :
    x >>= f = .error e ↔ x = .error e ∨ ∃ a, x = .ok a ∧ f a = .error e := by
  cases x with
  | error e' => simp [bind, Except.bind]
  | ok a => simp [bind, Except.bind]

variable {compiles : String → Bool} {k : PatternKind}

namespace PatternKind

structure Accepts (compiles : String → Bool) (k : PatternKind) (ss : List String) : Prop where
  nonempty : ∀ s ∈ ss, trim s ≠ ""
  matchable : ∀ s ∈ ss, k.isMatchable compiles (trim s) = true
  apart : (ss.map trim).Pairwise fun n m => k.same n m = false

def FirstFault (compiles : String → Bool) (k : PatternKind) (ss : List String) (e : PatternError) : Prop :=
  ∃ before s after, ss = before ++ s :: after ∧ k.Accepts compiles before ∧
    ∃ fault, k.Refuses compiles (before.map trim) s fault ∧ e = ⟨k, trim s, fault⟩

variable {ss : List String} {s : String} {e : PatternError}

lemma accepts_concat_iff : k.Accepts compiles (ss ++ [s]) ↔ k.Accepts compiles ss ∧
    k.Compiles compiles s ∧ ∀ n ∈ ss.map trim, k.same n (trim s) = false := by
  constructor
  · rintro ⟨hne, hmatchable, hapart⟩
    rw [List.forall_mem_append, List.forall_mem_singleton] at hne hmatchable
    rw [List.map_append, List.pairwise_append] at hapart
    exact ⟨⟨hne.1, hmatchable.1, hapart.1⟩, ⟨hne.2, hmatchable.2⟩,
      fun n hn => hapart.2.2 n hn _ (by simp)⟩
  · rintro ⟨⟨hne, hmatchable, hapart⟩, ⟨hne', hmatchable'⟩, hnew⟩
    refine ⟨?_, ?_, ?_⟩
    · exact List.forall_mem_append.mpr ⟨hne, by simpa using hne'⟩
    · exact List.forall_mem_append.mpr ⟨hmatchable, by simpa using hmatchable'⟩
    · rw [List.map_append, List.pairwise_append]
      refine ⟨hapart, List.pairwise_singleton _ _, fun n hn m hm => ?_⟩
      rw [List.mem_singleton.mp hm]
      exact hnew n hn

lemma firstFault_concat_iff : k.FirstFault compiles (ss ++ [s]) e ↔ k.FirstFault compiles ss e ∨
    k.Accepts compiles ss ∧ ∃ fault, k.Refuses compiles (ss.map trim) s fault ∧ e = ⟨k, trim s, fault⟩ := by
  constructor
  · rintro ⟨before, t, after, hss, h⟩
    -- the last pattern is the first at fault, or comes after it
    rcases List.eq_nil_or_concat after with rfl | ⟨after, u, rfl⟩
    · obtain ⟨rfl, hs⟩ := List.append_inj' hss rfl
      obtain rfl := List.singleton_inj.mp hs
      exact Or.inr h
    · have hss' : ss ++ [s] = (before ++ t :: after) ++ [u] := by simpa using hss
      obtain ⟨rfl, -⟩ := List.append_inj' hss' rfl
      exact Or.inl ⟨before, t, after, rfl, h⟩
  · rintro (⟨before, t, after, rfl, h⟩ | h)
    · exact ⟨before, t, after ++ [s], by simp, h⟩
    · exact ⟨ss, s, [], rfl, h⟩

lemma not_firstFault_nil : ¬ k.FirstFault compiles [] e := by
  rintro ⟨before, s, after, h, -⟩
  simp at h

end PatternKind

namespace Registry

variable {r : Registry k} {ss : List String} {s : String} {e : PatternError}

lemma registerAll_append (r : Registry k) (ss ss' : List String) :
    r.registerAll compiles (ss ++ ss') =
      r.registerAll compiles ss >>= fun r' => r'.registerAll compiles ss' := by
  induction ss generalizing r with
  | nil => rfl
  | cons s ss ih =>
    rw [List.cons_append, registerAll, registerAll]
    rcases r.register compiles s with ⟨result, r'⟩
    cases result with
    | error e => rfl
    | ok u => exact ih r'

lemma registerAll_singleton_eq_ok_iff {r' : Registry k} :
    r.registerAll compiles [s] = .ok r' ↔ r.register compiles s = (.ok (), r') := by
  rw [registerAll_cons_eq_ok_iff]
  simp [registerAll]

lemma registerAll_singleton_eq_error_iff : r.registerAll compiles [s] = .error e ↔
    ∃ fault, k.Refuses compiles r.names s fault ∧ e = ⟨k, trim s, fault⟩ := by
  rw [← register_eq_error_iff, registerAll]
  rcases r.register compiles s with ⟨result, r'⟩
  cases result with
  | error e' => simp
  | ok u => simp [registerAll]

lemma ofNames_concat (ss : List String) (s : String) :
    (ofNames compiles (ss ++ [s]) : Except PatternError (Registry k)) =
      ofNames compiles ss >>= fun r => r.registerAll compiles [s] := by
  rw [ofNames, registerAll_append, ← ofNames]

lemma ofNames_eq_ok_iff : ofNames compiles ss = .ok r ↔ k.Accepts compiles ss ∧ r = ⟨ss.map trim⟩ := by
  induction ss using List.reverseRecOn generalizing r with
  | nil =>
    have hnil : k.Accepts compiles [] := ⟨by simp, by simp, List.Pairwise.nil⟩
    simp [ofNames, registerAll, empty, hnil, eq_comm]
  | append_singleton ss s ih =>
    rw [ofNames_concat, bind_eq_ok_iff, PatternKind.accepts_concat_iff]
    simp only [ih, registerAll_singleton_eq_ok_iff, register_eq_ok_iff]
    constructor
    · rintro ⟨_, ⟨haccepts, rfl⟩, hnew, rfl⟩
      exact ⟨⟨haccepts, hnew⟩, by simp⟩
    · rintro ⟨⟨haccepts, hnew⟩, rfl⟩
      exact ⟨_, ⟨haccepts, rfl⟩, hnew, by simp⟩

lemma ofNames_eq_error_iff :
    (ofNames compiles ss : Except PatternError (Registry k)) = .error e ↔ k.FirstFault compiles ss e := by
  induction ss using List.reverseRecOn with
  | nil =>
    have hnil : (ofNames compiles [] : Except PatternError (Registry k)) ≠ .error e := by rintro ⟨⟩
    exact iff_of_false hnil PatternKind.not_firstFault_nil
  | append_singleton ss s ih =>
    rw [ofNames_concat, bind_eq_error_iff, ih, PatternKind.firstFault_concat_iff]
    refine or_congr_right ?_
    simp only [ofNames_eq_ok_iff, registerAll_singleton_eq_error_iff]
    constructor
    · rintro ⟨_, ⟨haccepts, rfl⟩, hfault⟩
      exact ⟨haccepts, hfault⟩
    · rintro ⟨haccepts, hfault⟩
      exact ⟨_, ⟨haccepts, rfl⟩, hfault⟩

lemma ofGiven_registerAll (given : Option (List String)) (extra : List String) {builtIn : Registry k}
    (h : given = none → ofNames compiles builtIn.names = .ok builtIn) :
    (ofGiven compiles given builtIn >>= fun r => r.registerAll compiles extra) =
      ofNames compiles (given.getD builtIn.names ++ extra) := by
  rw [ofNames, registerAll_append, ← ofNames]
  cases given with
  | none => rw [Option.getD_none, h rfl, ofGiven]
  | some names => rfl

lemma ofNames_names (htrimmed : ∀ name ∈ r.names, trim name = name ∧ name ≠ "")
    (hmatchable : ∀ name ∈ r.names, k.isMatchable compiles name = true) (hdistinct : r.Distinct) :
    ofNames compiles r.names = .ok r := by
  have hmap : r.names.map trim = r.names :=
    (List.map_congr_left fun name hname => (htrimmed name hname).1).trans (List.map_id _)
  refine ofNames_eq_ok_iff.mpr ⟨⟨fun name hname => ?_, fun name hname => ?_, ?_⟩, ?_⟩
  · rw [(htrimmed name hname).1]
    exact (htrimmed name hname).2
  · rw [(htrimmed name hname).1]
    exact hmatchable name hname
  · rw [hmap]
    exact hdistinct
  · rw [hmap]

lemma ofNames_defaultSinks (h : ∀ name ∈ defaultSinks.names, compiles name = true) :
    ofNames compiles defaultSinks.names = .ok defaultSinks :=
  ofNames_names (by decide +kernel) h distinct_defaultSinks

lemma ofNames_defaultSources : ofNames compiles defaultSources.names = .ok defaultSources :=
  ofNames_names (by decide +kernel) (fun _ _ => rfl) distinct_defaultSources

end Registry

def Patterns.allSinks (p : Patterns) : List String :=
  p.sinks.getD Registry.defaultSinks.names ++ p.extraSinks

def Patterns.allSources (p : Patterns) : List String :=
  p.sources.getD Registry.defaultSources.names ++ p.extraSources

namespace Analyzer

lemma ofPatterns_eq {p : Patterns} (m : ScanMode)
    (hdefaults : p.sinks = none → ∀ name ∈ Registry.defaultSinks.names, compiles name = true) :
    ofPatterns compiles p m = (do
      let sinks ← Registry.ofNames compiles p.allSinks
      let sources ← Registry.ofNames compiles p.allSources
      return ⟨sinks, sources, m⟩) := by
  rw [Patterns.allSinks, Patterns.allSources,
    ← Registry.ofGiven_registerAll _ _ fun h => Registry.ofNames_defaultSinks (hdefaults h),
    ← Registry.ofGiven_registerAll _ _ fun _ => Registry.ofNames_defaultSources]
  simp only [ofPatterns, bind_assoc]

theorem ofPatterns_exact (p : Patterns) (m : ScanMode)
    (hdefaults : p.sinks = none → ∀ name ∈ Registry.defaultSinks.names, compiles name = true) :
    (∀ a, ofPatterns compiles p m = .ok a ↔
      PatternKind.sink.Accepts compiles p.allSinks ∧ PatternKind.source.Accepts compiles p.allSources ∧
        a = ⟨⟨p.allSinks.map trim⟩, ⟨p.allSources.map trim⟩, m⟩) ∧
    (∀ e, ofPatterns compiles p m = .error e ↔ PatternKind.sink.FirstFault compiles p.allSinks e ∨
      PatternKind.sink.Accepts compiles p.allSinks ∧
        PatternKind.source.FirstFault compiles p.allSources e) ∧
    (∀ names moved extra,
      ofPatterns compiles { p with sinks := some (names ++ moved), extraSinks := extra } m =
        ofPatterns compiles { p with sinks := some names, extraSinks := moved ++ extra } m) ∧
    ∀ names moved extra,
      ofPatterns compiles { p with sources := some (names ++ moved), extraSources := extra } m =
        ofPatterns compiles { p with sources := some names, extraSources := moved ++ extra } m := by
  refine ⟨fun a => ?_, fun e => ?_, fun names moved extra => ?_, fun names moved extra => ?_⟩
  · rw [ofPatterns_eq m hdefaults]
    simp only [bind_eq_ok_iff, Registry.ofNames_eq_ok_iff]
    constructor
    · rintro ⟨_, ⟨hsinks, rfl⟩, _, ⟨hsources, rfl⟩, h⟩
      exact ⟨hsinks, hsources, (Except.ok.inj h).symm⟩
    · rintro ⟨hsinks, hsources, rfl⟩
      exact ⟨_, ⟨hsinks, rfl⟩, _, ⟨hsources, rfl⟩, rfl⟩
  · rw [ofPatterns_eq m hdefaults]
    simp only [bind_eq_error_iff, Registry.ofNames_eq_ok_iff, Registry.ofNames_eq_error_iff]
    refine or_congr_right ⟨?_, ?_⟩
    · rintro ⟨_, ⟨hsinks, rfl⟩, hsources | ⟨_, -, h⟩⟩
      · exact ⟨hsinks, hsources⟩
      · cases h
    · rintro ⟨hsinks, hsources⟩
      exact ⟨_, ⟨hsinks, rfl⟩, Or.inl hsources⟩
  · rw [ofPatterns_eq m (by simp), ofPatterns_eq m (by simp)]
    simp only [Patterns.allSinks, Patterns.allSources, Option.getD_some, List.append_assoc]
  · rw [ofPatterns_eq m, ofPatterns_eq m]
    · simp only [Patterns.allSinks, Patterns.allSources, Option.getD_some, List.append_assoc]
    · exact hdefaults
    · exact hdefaults

theorem ofPatterns_exact_late_sink :
    let compiles : String → Bool := fun _ => true
    let p : Patterns := { extraSinks := ["setTimeout", " EVAL "], sources := some [" "] }
    (∀ name ∈ Registry.defaultSinks.names, compiles name = true) ∧
      PatternKind.sink.FirstFault compiles p.allSinks ⟨.sink, "EVAL", .listedTwice⟩ ∧
      ofPatterns compiles p .first = .error ⟨.sink, "EVAL", .listedTwice⟩ := by
  intro compiles p
  have hdefaults : ∀ name ∈ Registry.defaultSinks.names, compiles name = true := fun _ _ => rfl
  have hfault : PatternKind.sink.FirstFault compiles p.allSinks ⟨.sink, "EVAL", .listedTwice⟩ := by
    refine ⟨Registry.defaultSinks.names ++ ["setTimeout"], " EVAL ", [], rfl, ⟨?_, ?_, ?_⟩, .listedTwice,
      .listedTwice (n := "eval") ⟨?_, rfl⟩ ?_ ?_, ?_⟩ <;> decide +kernel
  exact ⟨hdefaults, hfault,
    ((ofPatterns_exact p .first fun _ => hdefaults).2.1 _).mpr (Or.inl hfault)⟩

end Analyzer

end TaintGrep
