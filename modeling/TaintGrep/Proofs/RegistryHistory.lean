import Mathlib.Data.List.Induction
import TaintGrep.Proofs.PatternFaults
import TaintGrep.Taint.Request

/-! What a registry holds after requests, by the history of its registrations. A pattern is added if it
compiles and is neither among the names at the start nor equal to a pattern that was tried before, whether
that one was added or not. A refused registration cannot be seen in any later answer. -/

namespace TaintGrep

open TaintGrep.Text

namespace PatternKind

structure Admits (compiles : String → Bool) (k : PatternKind) (names earlier : List String) (s : String) :
    Prop where
  matchable : k.Compiles compiles s
  unlisted : ∀ n ∈ names, k.same n (trim s) = false
  untried : ∀ t ∈ earlier, k.Compiles compiles t → k.same (trim t) (trim s) = false

variable (compiles : String → Bool) (k : PatternKind)

instance (names earlier : List String) : DecidablePred (k.Admits compiles names earlier) :=
  fun s => decidable_of_iff (k.Compiles compiles s ∧ (∀ n ∈ names, k.same n (trim s) = false) ∧
      ∀ t ∈ earlier, k.Compiles compiles t → k.same (trim t) (trim s) = false)
    ⟨fun ⟨h, h', h''⟩ => ⟨h, h', h''⟩, fun ⟨h, h', h''⟩ => ⟨h, h', h''⟩⟩

/-- Of the attempts those that are admitted after the ones before them, in their order. -/
def admitted (names ss : List String) : List String :=
  (ss.zipIdx.filter fun x => k.Admits compiles names (ss.take x.2) x.1).map fun x => trim x.1

lemma admitted_concat (names ss : List String) (s : String) :
    k.admitted compiles names (ss ++ [s]) =
      k.admitted compiles names ss ++ if k.Admits compiles names ss s then [trim s] else [] := by
  have hold : (ss.zipIdx.filter fun x => k.Admits compiles names ((ss ++ [s]).take x.2) x.1) =
      ss.zipIdx.filter fun x => k.Admits compiles names (ss.take x.2) x.1 := by
    apply List.filter_congr
    intro x hx
    rw [List.take_append_of_le_length (Nat.le_of_lt (List.snd_lt_of_mem_zipIdx hx))]
  rw [admitted, List.zipIdx_append, List.filter_append, List.map_append, hold, ← admitted]
  by_cases h : k.Admits compiles names ss s <;> simp [h]

variable {k}

lemma same_trans {a b c : String} (hab : k.same a b = true) (hbc : k.same b c = true) :
    k.same a c = true := by
  cases k with
  | sink => exact sameAscii_trans hab hbc
  | source =>
    obtain rfl := eq_of_beq hab
    exact hbc

end PatternKind

namespace Request

variable {k : PatternKind}

def pattern? : Request k → Option String
  | .register s => some s
  | _ => none

def attempts (qs : List (Request k)) : List String := qs.filterMap pattern?

@[simp] lemma attempts_register (s : String) (qs : List (Request k)) :
    attempts (.register s :: qs) = s :: attempts qs := rfl

@[simp] lemma attempts_find (mode : ScanMode) (script : String) (qs : List (Request .sink)) :
    attempts (.find mode script :: qs) = attempts qs := rfl

@[simp] lemma attempts_sourcesIn (arguments : String) (qs : List (Request .source)) :
    attempts (.sourcesIn arguments :: qs) = attempts qs := rfl

end Request

namespace Registry

variable {compiles : String → Bool} {k : PatternKind} {r : Registry k} {s : String} {e : PatternError}

lemma refused_iff : r.answer compiles (.register s) = .refused e ↔
    ∃ fault, k.Refuses compiles r.names s fault ∧ e = ⟨k, trim s, fault⟩ := by
  rw [← register_eq_error_iff, answer]
  cases (r.register compiles s).1 with
  | error e' => simp
  | ok u => simp

lemma attempt_eq_self {fault : PatternFault} (h : k.Refuses compiles r.names s fault) :
    r.attempt compiles s = r := by
  rw [attempt]
  rcases register_cases compiles r s with ⟨hnew, -⟩ | ⟨_, -, heq⟩
  · exact absurd hnew h.not_new
  · rw [heq]

/-- An attempt that compiles is listed from then on: if it is refused, it equals a name that is there. -/
lemma listed_foldl_iff (compiles : String → Bool) (r : Registry k) (ss : List String) (m : String) :
    (∃ n ∈ (ss.foldl (attempt compiles) r).names, k.same n m = true) ↔
      (∃ n ∈ r.names, k.same n m = true) ∨ ∃ t ∈ ss, k.Compiles compiles t ∧ k.same (trim t) m = true := by
  induction ss using List.reverseRecOn with
  | nil => simp
  | append_singleton ss s ih =>
    simp only [List.foldl_append, List.foldl_cons, List.foldl_nil, List.mem_append,
      List.mem_singleton, or_and_right, exists_or, exists_eq_left, ← or_assoc, ← ih, attempt]
    rcases register_cases compiles (ss.foldl (attempt compiles) r) s with
      ⟨⟨hs, -⟩, heq⟩ | ⟨fault, hfault, heq⟩
    · simp [heq, hs, or_and_right, exists_or]
    · rw [heq]
      refine ⟨Or.inl, ?_⟩
      rintro (h | ⟨hs, hm⟩)
      · exact h
      · cases hfault with
        | empty h => exact absurd h hs.1
        | notCompiled _ h => exact absurd (h.symm.trans hs.2) Bool.false_ne_true
        | listedTwice _ hn hsame => exact ⟨_, hn, PatternKind.same_trans hsame hm⟩

lemma admits_iff (r : Registry k) (ss : List String) (s : String) : k.Admits compiles r.names ss s ↔
    k.Compiles compiles s ∧ ∀ n ∈ (ss.foldl (attempt compiles) r).names, k.same n (trim s) = false := by
  have hlisted := not_congr (listed_foldl_iff compiles r ss (trim s))
  simp only [not_or, not_exists, not_and, Bool.not_eq_true] at hlisted
  rw [hlisted]
  exact ⟨fun ⟨h, h', h''⟩ => ⟨h, h', h''⟩, fun ⟨h, h', h''⟩ => ⟨h, h', h''⟩⟩

lemma names_foldl_attempt (r : Registry k) (ss : List String) :
    (ss.foldl (attempt compiles) r).names = r.names ++ k.admitted compiles r.names ss := by
  induction ss using List.reverseRecOn with
  | nil => simp [PatternKind.admitted]
  | append_singleton ss s ih =>
    rw [List.foldl_append, List.foldl_cons, List.foldl_nil, PatternKind.admitted_concat,
      ← List.append_assoc, ← ih, attempt]
    rcases register_cases compiles (ss.foldl (attempt compiles) r) s with ⟨hnew, heq⟩ | ⟨fault, hfault, heq⟩
    · rw [heq, if_pos ((admits_iff r ss s).mpr hnew)]
    · rw [heq, if_neg fun h => hfault.not_new ((admits_iff r ss s).mp h), List.append_nil]

lemma run_eq_foldl_attempt (r : Registry k) (qs : List (Request k)) :
    r.run compiles qs = (Request.attempts qs).foldl (attempt compiles) r := by
  induction qs generalizing r with
  | nil => rfl
  | cons q qs ih =>
    have hrun : r.run compiles (q :: qs) = (r.step compiles q).run compiles qs := rfl
    rw [hrun, ih]
    cases q <;> simp [attempt]

lemma trace_append (r : Registry k) (qs qs' : List (Request k)) :
    r.trace compiles (qs ++ qs') = r.trace compiles qs ++ (r.run compiles qs).trace compiles qs' := by
  induction qs generalizing r with
  | nil => rfl
  | cons q qs ih =>
    rw [List.cons_append, trace, trace, ih]
    rfl

theorem run_names_admitted (compiles : String → Bool) (r : Registry k) :
    (∀ qs, (r.run compiles qs).names = r.names ++ k.admitted compiles r.names (Request.attempts qs)) ∧
    ∀ before s,
      ((∃ e, (r.run compiles before).answer compiles (.register s) = .refused e) ↔
        ¬ k.Admits compiles r.names (Request.attempts before) s) ∧
      ∀ e after, (r.run compiles before).answer compiles (.register s) = .refused e →
        r.trace compiles (before ++ .register s :: after) =
            r.trace compiles before ++
              (.refused e, r.run compiles before) :: (r.run compiles before).trace compiles after ∧
          r.trace compiles (before ++ after) =
            r.trace compiles before ++ (r.run compiles before).trace compiles after := by
  refine ⟨fun qs => ?_, fun before s => ⟨?_, fun e after he => ⟨?_, trace_append r before after⟩⟩⟩
  · rw [run_eq_foldl_attempt, names_foldl_attempt]
  · simp only [refused_iff]
    rw [admits_iff, ← run_eq_foldl_attempt]
    rcases register_cases compiles (r.run compiles before) s with ⟨hnew, -⟩ | ⟨fault, hfault, -⟩
    · exact iff_of_false (fun ⟨_, _, h, _⟩ => h.not_new hnew) (not_not_intro hnew)
    · exact iff_of_true ⟨_, fault, hfault, rfl⟩ hfault.not_new
  · obtain ⟨fault, hfault, -⟩ := refused_iff.mp he
    rw [trace_append, trace, he, step_register, ← attempt, attempt_eq_self hfault]

/-- A name in another case is refused, and so is one of which no matcher can be made; the calls of the sink
that the first of them repeats are found all the same. -/
theorem run_names_admitted_other_case :
    let compiles : String → Bool := fun name => name.length ≤ 12
    let before : List (Request .sink) :=
      [.register " setTimeout", .register " ", .register "EVAL", .register "globalThis.eval"]
    let after : List (Request .sink) := [.find .first "settimeout (x)", .register "open"]
    let e : PatternError := ⟨.sink, "SETTIMEOUT", .listedTwice⟩
    (defaultSinks.run compiles before).answer compiles (.register "SETTIMEOUT\n") = .refused e ∧
      ¬ PatternKind.sink.Admits compiles defaultSinks.names (Request.attempts before) "SETTIMEOUT\n" ∧
      (defaultSinks.run compiles (before ++ .register "SETTIMEOUT\n" :: after)).names =
        defaultSinks.names ++ ["setTimeout", "open"] ∧
      defaultSinks.trace compiles (before ++ .register "SETTIMEOUT\n" :: after) =
        defaultSinks.trace compiles before ++ (.refused e, defaultSinks.run compiles before) ::
          (defaultSinks.run compiles before).trace compiles after ∧
      defaultSinks.trace compiles (before ++ after) =
        defaultSinks.trace compiles before ++ (defaultSinks.run compiles before).trace compiles after := by
  intro compiles before after e
  obtain ⟨hnames, hrefused⟩ := run_names_admitted compiles defaultSinks
  obtain ⟨hiff, htrace⟩ := hrefused before "SETTIMEOUT\n"
  have he : (defaultSinks.run compiles before).answer compiles (.register "SETTIMEOUT\n") = .refused e := by
    decide +kernel
  have hadmitted : PatternKind.sink.admitted compiles defaultSinks.names
      (Request.attempts (before ++ .register "SETTIMEOUT\n" :: after)) = ["setTimeout", "open"] := by
    decide +kernel
  exact ⟨he, hiff.mp ⟨e, he⟩, hadmitted ▸ hnames _, htrace e after he⟩

end Registry

end TaintGrep
