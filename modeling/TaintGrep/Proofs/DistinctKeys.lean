import Mathlib.Data.List.Nodup
import Mathlib.Tactic.Lemma
import TaintGrep.Toml.Document

/-! The tables of a TOML document hold each key once, at every depth. A draft keeps this while statements
are put into it, and a reader gives only values that were read with it. -/

namespace TaintGrep

lemma lookup_eq_some_iff_mem {α β : Type} [BEq α] [LawfulBEq α] {es : List (α × β)}
    (h : (es.map Prod.fst).Nodup) {k : α} {v : β} : es.lookup k = some v ↔ (k, v) ∈ es := by
  induction es with
  | nil => simp
  | cons e es ih =>
    obtain ⟨a, b⟩ := e
    obtain ⟨hnew, hrest⟩ := List.nodup_cons.mp h
    rw [List.lookup_cons, List.mem_cons, Prod.mk.injEq]
    by_cases hk : k = a
    · subst hk
      have hother : (k, v) ∉ es := fun hmem => hnew (List.mem_map.mpr ⟨_, hmem, rfl⟩)
      simp [hother, eq_comm]
    · rw [beq_false_of_ne hk]
      simpa [hk] using ih hrest

namespace Toml

inductive Value.Distinct : Value → Prop
  | string (s : String) : Distinct (.string s)
  | integer (n : Int) : Distinct (.integer n)
  | float (x : Number.Double) : Distinct (.float x)
  | boolean (b : Bool) : Distinct (.boolean b)
  | datetime (text : String) : Distinct (.datetime text)
  | array {vs : List Value} (h : ∀ v ∈ vs, v.Distinct) : Distinct (.array vs)
  | table {es : Table} (hkeys : (es.map Prod.fst).Nodup) (h : ∀ e ∈ es, e.2.Distinct) :
      Distinct (.table es)

lemma Value.distinct_table_iff {es : Table} :
    (Value.table es).Distinct ↔ (es.map Prod.fst).Nodup ∧ ∀ e ∈ es, e.2.Distinct := by
  constructor
  · intro h
    cases h with
    | table hkeys h => exact ⟨hkeys, h⟩
  · rintro ⟨hkeys, h⟩
    exact .table hkeys h

inductive Draft.Distinct : Draft → Prop
  | leaf {v : Value} (h : v.Distinct) : Distinct (.leaf v)
  | table {origin : Origin} {es : List (String × Draft)} (hkeys : (es.map Prod.fst).Nodup)
      (h : ∀ e ∈ es, e.2.Distinct) : Distinct (.table origin es)
  | tables {ds : List Draft} (h : ∀ d ∈ ds, d.Distinct) : Distinct (.tables ds)

namespace Draft

variable {d d' : Draft} {origin origin' : Origin} {es : List (String × Draft)} {k : String}

lemma toEntries_eq_map (es : List (String × Draft)) :
    toEntries es = es.map fun e => (e.1, e.2.toValue) := by
  induction es with
  | nil => rfl
  | cons e es ih => rw [toEntries, ih, List.map_cons]

lemma toValues_eq_map (ds : List Draft) : toValues ds = ds.map toValue := by
  induction ds with
  | nil => rfl
  | cons d ds ih => rw [toValues, ih, List.map_cons]

lemma Distinct.toValue (h : d.Distinct) : d.toValue.Distinct := by
  induction h with
  | leaf h => exact h
  | table hkeys _ ih =>
    rw [Draft.toValue, toEntries_eq_map]
    refine .table (by simpa [Function.comp_def] using hkeys) fun e he => ?_
    obtain ⟨x, hx, rfl⟩ := List.mem_map.mp he
    exact ih x hx
  | tables _ ih =>
    rw [Draft.toValue, toValues_eq_map]
    refine .array fun v hv => ?_
    obtain ⟨x, hx, rfl⟩ := List.mem_map.mp hv
    exact ih x hx

lemma Distinct.of_lookup (h : (Draft.table origin es).Distinct) (hk : es.lookup k = some d) :
    d.Distinct := by
  cases h with
  | table hkeys hes => exact hes _ ((lookup_eq_some_iff_mem hkeys).mp hk)

lemma Distinct.concat (h : (Draft.table origin es).Distinct) (hk : es.lookup k = none) (hd : d.Distinct) :
    (Draft.table origin' (es ++ [(k, d)])).Distinct := by
  cases h with
  | table hkeys hes =>
    have hnew : k ∉ es.map Prod.fst := by
      intro hmem
      obtain ⟨e, he, rfl⟩ := List.mem_map.mp hmem
      simpa using List.lookup_eq_none_iff.mp hk e he
    refine .table ?_ fun e he => ?_
    · rw [List.map_append]
      exact hkeys.append (List.nodup_singleton k) (by simpa using hnew)
    · rcases List.mem_append.mp he with he | he
      · exact hes e he
      · rwa [List.mem_singleton.mp he]

lemma Distinct.replace (h : (Draft.table origin es).Distinct) (hd : d.Distinct) :
    (Draft.table origin' (Draft.replace k d es)).Distinct := by
  cases h with
  | table hkeys hes =>
    have hsame : (Draft.replace k d es).map Prod.fst = es.map Prod.fst := by
      rw [Draft.replace, List.map_map]
      refine List.map_congr_left fun e _ => ?_
      by_cases he : e.1 = k <;> simp [he]
    refine .table (hsame ▸ hkeys) fun e he => ?_
    obtain ⟨x, hx, rfl⟩ := List.mem_map.mp he
    by_cases hk : x.1 = k
    · simpa [hk] using hd
    · simpa [hk] using hes x hx

lemma Distinct.remove (h : (Draft.table origin es).Distinct) :
    (Draft.table origin' (Draft.remove k es)).Distinct := by
  cases h with
  | table hkeys hes =>
    refine .table (hkeys.sublist (List.filter_sublist.map _)) fun e he => ?_
    exact hes e (List.mem_of_mem_filter he)

lemma lookup_remove (k : String) (es : List (String × Draft)) :
    (Draft.remove k es).lookup k = none := by
  refine List.lookup_eq_none_iff.mpr fun e he => ?_
  have hne : e.1 ≠ k := by simpa using (List.mem_filter.mp he).2
  simpa using hne.symm

lemma distinct_nil (origin : Origin) : (Draft.table origin []).Distinct := .table List.nodup_nil (by simp)

lemma Distinct.update {dotted : Bool} {f : Draft → Option Draft}
    (hf : ∀ d d', d.Distinct → f d = some d' → d'.Distinct) {path : List String} (h : d.Distinct)
    (hu : Draft.update dotted f path d = some d') : d'.Distinct := by
  induction path generalizing d d' with
  | nil => exact hf d d' h hu
  | cons k ks ih =>
    cases d with
    | leaf v => cases hu
    | tables ds => cases hu
    | table origin es =>
      rw [Draft.update] at hu
      split at hu
      · rename_i hk
        obtain ⟨x, hx, rfl⟩ := Option.map_eq_some_iff.mp hu
        exact h.concat hk (ih (distinct_nil _) hx)
      · cases hu
      · rename_i ds hk
        split at hu
        · cases hu
        · rename_i last hlast
          obtain ⟨x, hx, rfl⟩ := Option.map_eq_some_iff.mp hu
          have hds : ∀ d ∈ ds, d.Distinct := by
            cases h.of_lookup hk with
            | tables hds => exact hds
          refine h.replace (.tables fun d hd => ?_)
          rcases List.mem_append.mp hd with hd | hd
          · exact hds d ((List.dropLast_sublist ds).subset hd)
          · rw [List.mem_singleton.mp hd]
            exact ih (hds last (List.mem_of_getLast? hlast)) hx
      · rename_i o fs hk
        split_ifs at hu
        obtain ⟨x, hx, rfl⟩ := Option.map_eq_some_iff.mp hu
        exact h.replace (ih (h.of_lookup hk) hx)

lemma Distinct.openTable {path : List String} (h : d.Distinct)
    (ho : d.openTable path k = some d') : d'.Distinct := by
  refine Distinct.update (fun d d' hd hf => ?_) h ho
  cases d with
  | leaf v => cases hf
  | tables ds => cases hf
  | table origin es =>
    dsimp only at hf
    split at hf
    · rename_i hk
      cases hf
      exact hd.concat hk (distinct_nil _)
    · rename_i fs hk
      cases hf
      have hfs : (Draft.table .header fs).Distinct := by
        cases hd.of_lookup hk with
        | table hkeys hes => exact .table hkeys hes
      have hrest : (Draft.table origin (Draft.remove k es)).Distinct := hd.remove
      exact hrest.concat (lookup_remove k es) hfs
    · cases hf

lemma Distinct.openElement {path : List String} (h : d.Distinct)
    (ho : d.openElement path k = some d') : d'.Distinct := by
  refine Distinct.update (fun d d' hd hf => ?_) h ho
  cases d with
  | leaf v => cases hf
  | tables ds => cases hf
  | table origin es =>
    dsimp only at hf
    split at hf
    · rename_i hk
      cases hf
      refine hd.concat hk (.tables fun d hd => ?_)
      rw [List.mem_singleton.mp hd]
      exact distinct_nil _
    · rename_i ds hk
      cases hf
      refine hd.replace (.tables fun d hmem => ?_)
      rcases List.mem_append.mp hmem with hmem | hmem
      · cases hd.of_lookup hk with
        | tables hds => exact hds d hmem
      · rw [List.mem_singleton.mp hmem]
        exact distinct_nil _
    · cases hf

lemma Distinct.assign {path : List String} {v : Value} (h : d.Distinct) (hv : v.Distinct)
    (ha : d.assign path k v = some d') : d'.Distinct := by
  refine Distinct.update (fun d d' hd hf => ?_) h ha
  cases d with
  | leaf v => cases hf
  | tables ds => cases hf
  | table origin es =>
    dsimp only at hf
    split_ifs at hf with hrefused
    cases hf
    have hk : es.lookup k = none := by
      rw [not_or] at hrefused
      exact Option.not_isSome_iff_eq_none.mp hrefused.2
    exact hd.concat hk (.leaf hv)

lemma Distinct.apply {ss : List Statement} {current : List String}
    (hss : ∀ path k v, Statement.assign path k v ∈ ss → v.Distinct) (h : d.Distinct)
    (ha : d.apply current ss = some d') : d'.Distinct := by
  induction ss generalizing d current with
  | nil =>
    cases ha
    exact h
  | cons s ss ih =>
    have hrest : ∀ path k v, Statement.assign path k v ∈ ss → v.Distinct :=
      fun path k v hv => hss path k v (List.mem_cons_of_mem s hv)
    cases s with
    | table path k =>
      obtain ⟨x, hx, ha⟩ := Option.bind_eq_some_iff.mp ha
      exact ih hrest (h.openTable hx) ha
    | element path k =>
      obtain ⟨x, hx, ha⟩ := Option.bind_eq_some_iff.mp ha
      exact ih hrest (h.openElement hx) ha
    | assign path k v =>
      obtain ⟨x, hx, ha⟩ := Option.bind_eq_some_iff.mp ha
      have hv := hss path k v List.mem_cons_self
      exact ih hrest (h.update (fun d d' hd hf => hd.assign hv hf) hx) ha

end Draft

namespace Reader

variable {α β : Type} {r r' : Reader α} {f : α → Reader β} {P : α → Prop} {Q : β → Prop}

def Yields (r : Reader α) (P : α → Prop) : Prop := ∀ cs a rest, r cs = some (a, rest) → P a

lemma Yields.pure {a : α} (h : P a) : Yields (Pure.pure a) P := by
  intro cs b rest hb
  cases hb
  exact h

lemma Yields.bind (hr : Yields r P) (hf : ∀ a, P a → Yields (f a) Q) : Yields (r >>= f) Q := by
  intro cs b rest hb
  obtain ⟨⟨a, left⟩, ha, hb⟩ := Option.bind_eq_some_iff.mp hb
  exact hf a (hr cs a left ha) left b rest hb

lemma Yields.after (hf : ∀ a, Yields (f a) Q) : Yields (r >>= f) Q :=
  Yields.bind (P := fun _ => True) (fun _ _ _ _ => trivial) fun a _ => hf a

lemma Yields.orElse (h : Yields r P) (h' : Yields r' P) : Yields (r <|> r') P := by
  intro cs a rest ha
  cases hr : r cs with
  | none =>
    apply h' cs a rest
    simpa [HOrElse.hOrElse, OrElse.orElse, Alternative.orElse, StateT.orElse, hr] using ha
  | some x =>
    apply h cs a rest
    rw [hr]
    simpa [HOrElse.hOrElse, OrElse.orElse, Alternative.orElse, StateT.orElse, hr] using ha

lemma Yields.failure : Yields (failure : Reader α) P := by
  intro cs a rest ha
  cases ha

end Reader

open Reader

lemma yields_within64 (n : Int) : Yields (within64 n) Value.Distinct := by
  rw [within64]
  split_ifs
  · exact .pure (.integer n)
  · exact .failure

lemma yields_based (mark : Char) (base : Nat) (p : Char → Bool) :
    Yields (based mark base p) Value.Distinct :=
  .after fun _ => .after fun _ => yields_within64 _

lemma yields_integer : Yields integer Value.Distinct :=
  .orElse (yields_based _ _ _) (.orElse (yields_based _ _ _) (.orElse (yields_based _ _ _)
    (.after fun _ => .after fun _ => yields_within64 _)))

lemma yields_finiteFloat : Yields finiteFloat Value.Distinct := by
  have hend : ∀ x : Number.Double,
      Yields (if x = .infinity false then failure else pure (.float x)) Value.Distinct := by
    intro x
    split_ifs
    · exact .failure
    · exact .pure (.float x)
  refine .after fun _ => .after fun _ => .after fun part => ?_
  dsimp only
  split_ifs
  · exact .after fun _ => hend _
  · exact .after fun _ => hend _

lemma yields_float : Yields float Value.Distinct :=
  .orElse yields_finiteFloat (.after fun _ => .orElse (.after fun _ => .pure (.float _))
    (.after fun _ => .pure (.float _)))

lemma yields_scalar : Yields scalar Value.Distinct := by
  refine .after fun c => ?_
  split
  · exact .after fun _ => .pure (.string _)
  · exact .after fun _ => .pure (.string _)
  · exact .after fun _ => .pure (.boolean _)
  · exact .after fun _ => .pure (.boolean _)
  · exact .orElse (.after fun _ => .pure (.datetime _)) (.orElse yields_float yields_integer)

section

variable {v : Reader Value} (hv : Yields v Value.Distinct)

include hv

lemma yields_elements (n : Nat) : Yields (elements v n) fun vs => ∀ x ∈ vs, x.Distinct := by
  induction n with
  | zero => exact .failure
  | succ n ih =>
    refine .after fun _ => .orElse (.after fun _ => .pure (by simp)) ?_
    refine .bind hv fun x hx => .after fun _ => .orElse (.after fun _ => .pure (by simpa using hx)) ?_
    refine .after fun _ => .bind ih fun xs hxs => .pure ?_
    exact List.forall_mem_cons.mpr ⟨hx, hxs⟩

lemma yields_assignment : Yields (assignment v) fun a => a.2.2.Distinct :=
  .after fun _ => .after fun _ => .after fun _ => .bind hv fun _ hx => .after fun _ => .pure hx

lemma yields_assignments {d : Draft} (hd : d.Distinct) (n : Nat) :
    Yields (assignments v d n) Draft.Distinct := by
  induction n generalizing d with
  | zero => exact .failure
  | succ n ih =>
    refine .bind (yields_assignment hv) fun a ha => ?_
    obtain ⟨path, k, x⟩ := a
    dsimp only
    split
    · exact .failure
    · rename_i d' hassign
      have hd' : d'.Distinct := hd.assign ha hassign
      exact .orElse (.after fun _ => .pure hd') (.after fun _ => ih hd')

lemma yields_inlineTable : Yields (inlineTable v) Value.Distinct := by
  refine .after fun _ => .after fun _ => .orElse (.after fun _ => .pure ?_) ?_
  · exact .table List.nodup_nil (by simp)
  · exact .after fun n => .bind (yields_assignments hv (Draft.distinct_nil _) n)
      fun _ hd => .pure hd.toValue

lemma yields_array : Yields (array v) Value.Distinct :=
  .after fun _ => .after fun n => .bind (yields_elements hv n) fun _ hvs => .pure (.array hvs)

end

lemma yields_value (depth : Nat) : Yields (value depth) Value.Distinct := by
  induction depth with
  | zero => exact yields_scalar
  | succ depth ih =>
    refine .after fun c => ?_
    split
    · exact yields_array ih
    · exact yields_inlineTable ih
    · exact yields_scalar

def Statement.Distinct : Statement → Prop
  | .assign _ _ v => v.Distinct
  | .table _ _ | .element _ _ => True

lemma yields_line : Yields line fun ss => ∀ s ∈ ss, s.Distinct := by
  have hheader : Yields header Statement.Distinct :=
    .orElse (.after fun _ => .after fun _ => .after fun _ => .pure trivial)
      (.after fun _ => .after fun _ => .after fun _ => .pure trivial)
  refine .after fun _ => .after fun c => ?_
  split
  · exact .bind hheader fun s hs => .after fun _ => .pure (by simpa using hs)
  · exact .after fun _ => .pure (by simp)
  · exact .after fun _ => .pure (by simp)
  · exact .after fun _ => .pure (by simp)
  · refine .bind (yields_assignment (yields_value nesting)) fun a ha => .after fun _ => .pure ?_
    simpa [Statement.Distinct] using ha

lemma yields_statementsWithin (n : Nat) :
    Yields (statementsWithin n) fun ss => ∀ s ∈ ss, s.Distinct := by
  induction n with
  | zero => exact .after fun _ => .pure (by simp)
  | succ n ih =>
    refine .orElse (.after fun _ => .pure (by simp)) ?_
    refine .bind yields_line fun ss hss => .bind ih fun ss' hss' => .pure ?_
    exact List.forall_mem_append.mpr ⟨hss, hss'⟩

lemma distinct_of_statements {cs : List Char} {ss : List Statement} (h : statements cs = some ss) :
    ∀ s ∈ ss, s.Distinct := by
  obtain ⟨⟨ss', rest⟩, hss, rfl⟩ := Option.map_eq_some_iff.mp h
  exact yields_statementsWithin _ _ _ _ hss

lemma distinct_of_parse? {text : String} {t : Table} (h : parse? text = some t) :
    (Value.table t).Distinct := by
  obtain ⟨ss, hss, h⟩ := Option.bind_eq_some_iff.mp h
  obtain ⟨d, hd, ht⟩ := Option.bind_eq_some_iff.mp h
  have hstatements : ∀ path k v, Statement.assign path k v ∈ ss → v.Distinct :=
    fun path k v hv => distinct_of_statements hss _ hv
  have hdistinct : d.Distinct := (Draft.distinct_nil .header).apply hstatements hd
  cases ht
  cases hdistinct with
  | leaf _ => exact .table List.nodup_nil (by simp [Draft.toTable])
  | tables _ => exact .table List.nodup_nil (by simp [Draft.toTable])
  | @table origin es hkeys hes =>
    have htable : (Draft.table origin es).Distinct := .table hkeys hes
    exact htable.toValue

end Toml

end TaintGrep
