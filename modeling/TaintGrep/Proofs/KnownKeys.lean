import Mathlib.Data.String.Basic
import Mathlib.Logic.Relation
import TaintGrep.Proofs.DistinctKeys
import TaintGrep.Settings.Load

/-! Keys that settings do not have change no setting and never keep a table from loading. Each is listed
once, those at the top before those of the sections. What is reported can be less: the keys are looked up
in a second reading of the table, where a table may stand for a date. -/

namespace TaintGrep

namespace Toml

/-- The second reading of the value meets a table that stands for a date and has no date for its text. -/
inductive Value.Misdated : Value → Prop
  | date {es : Table} {v : Value} (hdate : dateOf? es = some v) (hv : dateOfText? v = none) :
      Misdated (.table es)
  | entry {es : Table} {e : String × Value} (hdate : dateOf? es = none) (he : e ∈ es)
      (h : e.2.Misdated) : Misdated (.table es)
  | element {vs : List Value} {v : Value} (hv : v ∈ vs) (h : v.Misdated) : Misdated (.array vs)

def Value.isDate : Value → Bool
  | .table es => (dateOf? es).isSome
  | _ => false

mutual

lemma withDates?_eq_none_iff : ∀ v : Value, v.withDates? = none ↔ v.Misdated
  | .string _ | .integer _ | .float _ | .boolean _ | .datetime _ => by
    simp only [Value.withDates?, reduceCtorEq, false_iff]
    rintro ⟨⟩
  | .array vs => by
    rw [Value.withDates?, Option.map_eq_none_iff, elementsWithDates?_eq_none_iff vs]
    constructor
    · rintro ⟨v, hv, h⟩
      exact .element hv h
    · rintro (_ | _ | ⟨hv, h⟩)
      exact ⟨_, hv, h⟩
  | .table es => by
    rw [Value.withDates?]
    cases hdate : dateOf? es with
    | some v =>
      constructor
      · exact .date hdate
      · rintro (⟨hdate', hv⟩ | ⟨hdate', -, -⟩)
        · rw [hdate] at hdate'
          obtain rfl := Option.some.inj hdate'
          exact hv
        · rw [hdate] at hdate'
          cases hdate'
    | none =>
      rw [Option.map_eq_none_iff, entriesWithDates?_eq_none_iff es]
      constructor
      · rintro ⟨e, he, h⟩
        exact .entry hdate he h
      · rintro (⟨hdate', -⟩ | ⟨-, he, h⟩)
        · rw [hdate] at hdate'
          cases hdate'
        · exact ⟨_, he, h⟩

lemma elementsWithDates?_eq_none_iff :
    ∀ vs : List Value, elementsWithDates? vs = none ↔ ∃ v ∈ vs, v.Misdated
  | [] => by simp [elementsWithDates?]
  | v :: vs => by
    rw [elementsWithDates?, List.exists_mem_cons_iff, ← withDates?_eq_none_iff v,
      ← elementsWithDates?_eq_none_iff vs]
    cases v.withDates? <;> cases elementsWithDates? vs <;> simp

lemma entriesWithDates?_eq_none_iff :
    ∀ es : Table, entriesWithDates? es = none ↔ ∃ e ∈ es, e.2.Misdated
  | [] => by simp [entriesWithDates?]
  | (k, v) :: es => by
    rw [entriesWithDates?, List.exists_mem_cons_iff, ← withDates?_eq_none_iff v,
      ← entriesWithDates?_eq_none_iff es]
    cases v.withDates? <;> cases entriesWithDates? es <;> simp

end

lemma entriesWithDates?_cons_eq_some {k : String} {v : Value} {es es' : Table}
    (h : entriesWithDates? ((k, v) :: es) = some es') : ∃ v' es'', v.withDates? = some v' ∧
      entriesWithDates? es = some es'' ∧ es' = (k, v') :: es'' := by
  rw [entriesWithDates?] at h
  cases hv : v.withDates? with
  | none => simp [hv] at h
  | some v' =>
    cases hes : entriesWithDates? es with
    | none => simp [hv, hes] at h
    | some es'' => exact ⟨v', es'', rfl, rfl, by simpa [hv, hes] using h.symm⟩

lemma map_fst_of_entriesWithDates? {es es' : Table} (h : entriesWithDates? es = some es') :
    es'.map Prod.fst = es.map Prod.fst := by
  induction es generalizing es' with
  | nil =>
    cases h
    rfl
  | cons e es ih =>
    obtain ⟨v', es'', -, hes, rfl⟩ := entriesWithDates?_cons_eq_some h
    rw [List.map_cons, List.map_cons, ih hes]

lemma lookup_of_entriesWithDates? {es es' : Table} (h : entriesWithDates? es = some es') (k : String) :
    es'.lookup k = (es.lookup k).bind Value.withDates? := by
  induction es generalizing es' with
  | nil =>
    cases h
    rfl
  | cons e es ih =>
    obtain ⟨v', es'', hv, hes, rfl⟩ := entriesWithDates?_cons_eq_some h
    rw [List.lookup_cons, List.lookup_cons, ih hes]
    cases k == e.1 with
    | true => exact hv.symm
    | false => rfl

end Toml

namespace Settings

open TaintGrep.Toml

inductive Inserts (P : String × Value → Prop) : Table → Table → Prop
  | here {e : String × Value} {es : Table} (h : P e) : Inserts P es (e :: es)
  | later {e : String × Value} {es es' : Table} (h : Inserts P es es') : Inserts P (e :: es) (e :: es')

/-- The table with one unknown key more, at the top or in a section, or with an empty section more. -/
inductive Adds : Table → Table → Prop
  | top {t t' : Table} (h : Inserts (fun e => e.1 ∉ topKeys) t t') : Adds t t'
  | opens {t t' : Table} {g : Group} (hg : g ∈ groups) (h : Inserts (· = (g.name, .table [])) t t') :
      Adds t t'
  | inside {g : Group} (hg : g ∈ groups) (as bs : Table) {es es' : Table}
      (h : Inserts (fun e => e.1 ∉ g.keys) es es') :
      Adds (as ++ (g.name, .table es) :: bs) (as ++ (g.name, .table es') :: bs)

variable {g : Group} {k : String} {v : Value} {s : Settings} {t t' : Table} {u : UnknownKey}

lemma mem_groups : g ∈ groups ↔ g = patternsGroup ∨ g = scanGroup ∨ g = reportGroup := by
  simp [groups]

lemma set_of_notMem (hk : k ∉ topKeys) : set k v s = .ok s := by
  obtain ⟨hinclude, hgroups⟩ : k ≠ "include" ∧ k ∉ groups.map Group.name := by
    simpa [topKeys] using hk
  have hfind : groups.find? (fun g => g.name == k) = none := by
    rw [List.find?_eq_none]
    intro g hg hname
    exact hgroups (List.mem_map.mpr ⟨g, hg, by simpa using hname⟩)
  rw [set, if_neg hinclude, hfind]

lemma set_group (hg : g ∈ groups) : set g.name v s = g.read v s := by
  rcases mem_groups.mp hg with rfl | rfl | rfl <;> rfl

lemma Group.set_of_notMem (hg : g ∈ groups) (hk : k ∉ g.keys) : g.set k v s = .ok s := by
  rcases mem_groups.mp hg with rfl | rfl | rfl
  · simp only [patternsGroup, List.mem_cons, not_or] at hk
    simp [patternsGroup, setPattern, hk]
    rfl
  · simp only [scanGroup, List.mem_cons, not_or] at hk
    simp [scanGroup, setScan, hk]
    rfl
  · simp only [reportGroup, List.mem_cons, not_or] at hk
    simp [reportGroup, setReport, hk]
    rfl

lemma Group.setAll_of_inserts (hg : g ∈ groups) {es es' : Table}
    (h : Inserts (fun e => e.1 ∉ g.keys) es es') (s : Settings) : g.setAll s es' = g.setAll s es := by
  induction h generalizing s with
  | here hk => rw [setAll, set_of_notMem hg hk]
  | later _ ih =>
    rw [setAll, setAll]
    split
    · rfl
    · exact ih _

lemma ofEntries_of_inserts {P : String × Value → Prop} (hP : ∀ e s, P e → set e.1 e.2 s = .ok s)
    (h : Inserts P t t') (s : Settings) : ofEntries s t' = ofEntries s t := by
  induction h generalizing s with
  | here he => rw [ofEntries, hP _ s he]
  | later _ ih =>
    rw [ofEntries, ofEntries]
    split
    · rfl
    · exact ih _

lemma ofEntries_congr {v' : Value} (h : ∀ s, set k v s = set k v' s) (as bs : Table) (s : Settings) :
    ofEntries s (as ++ (k, v) :: bs) = ofEntries s (as ++ (k, v') :: bs) := by
  induction as generalizing s with
  | nil => rw [List.nil_append, List.nil_append, ofEntries, ofEntries, h]
  | cons a as ih =>
    rw [List.cons_append, List.cons_append, ofEntries, ofEntries]
    split
    · rfl
    · exact ih _

lemma ofTable_of_adds (h : Adds t t') : ofTable t' = ofTable t := by
  cases h with
  | top h => exact ofEntries_of_inserts (fun e s he => set_of_notMem he) h {}
  | opens hg h =>
    refine ofEntries_of_inserts ?_ h {}
    rintro e s rfl
    exact set_group hg
  | inside hg as bs h =>
    refine ofEntries_congr (fun s => ?_) as bs {}
    rw [set_group hg, set_group hg]
    exact Group.setAll_of_inserts hg h s

lemma ofTable_of_reachable (h : Relation.ReflTransGen Adds t t') : ofTable t' = ofTable t := by
  induction h with
  | refl => rfl
  | tail _ hadds ih => rw [ofTable_of_adds hadds, ih]

def Group.pruned (g : Group) : Value → Value
  | .table es => .table (es.filter fun e => e.1 ∈ g.keys)
  | v => v

def prunedEntry (e : String × Value) : String × Value :=
  match groups.find? fun g => g.name == e.1 with
  | some g => (e.1, g.pruned e.2)
  | none => e

def pruned (t : Table) : Table := (t.filter fun e => e.1 ∈ topKeys).map prunedEntry

lemma Adds.cons (e : String × Value) (h : Adds t t') : Adds (e :: t) (e :: t') := by
  cases h with
  | top h => exact .top (.later h)
  | opens hg h => exact .opens hg (.later h)
  | inside hg as bs h => exact .inside hg (e :: as) bs h

lemma reachable_of_filter (hg : g ∈ groups) (es bs : Table) :
    Relation.ReflTransGen Adds ((g.name, .table (es.filter fun e => e.1 ∈ g.keys)) :: bs)
      ((g.name, .table es) :: bs) := by
  suffices ∀ as : Table, Relation.ReflTransGen Adds
      ((g.name, .table (as ++ es.filter fun e => e.1 ∈ g.keys)) :: bs)
      ((g.name, .table (as ++ es)) :: bs) from this []
  have hinsert : ∀ (as : Table) {e : String × Value} {es : Table}, e.1 ∉ g.keys →
      Inserts (fun e => e.1 ∉ g.keys) (as ++ es) (as ++ e :: es) := by
    intro as e es he
    induction as with
    | nil => exact .here he
    | cons a as ih => exact .later ih
  induction es with
  | nil => exact fun as => .refl
  | cons e es ih =>
    intro as
    by_cases he : e.1 ∈ g.keys
    · rw [List.filter_cons_of_pos (by simpa using he)]
      have hrest := ih (as ++ [e])
      rwa [List.append_assoc, List.append_assoc] at hrest
    · rw [List.filter_cons_of_neg (by simpa using he)]
      exact (ih as).tail (.inside hg [] bs (hinsert as he))

lemma reachable_prunedEntry (e : String × Value) (t : Table) :
    Relation.ReflTransGen Adds (prunedEntry e :: t) (e :: t) := by
  obtain ⟨k, v⟩ := e
  rw [prunedEntry]
  split
  · rename_i g hfind
    have hname : g.name = k := by simpa using List.find?_some hfind
    subst hname
    cases v with
    | table es => exact reachable_of_filter (List.mem_of_find?_eq_some hfind) es t
    | _ => exact .refl
  · exact .refl

lemma reachable_pruned (t : Table) : Relation.ReflTransGen Adds (pruned t) t := by
  induction t with
  | nil => exact .refl
  | cons e t ih =>
    have hrest : ∀ e, Relation.ReflTransGen Adds (e :: pruned t) (e :: t) :=
      fun e => ih.lift (e :: ·) fun _ _ => Adds.cons e
    by_cases he : e.1 ∈ topKeys
    · rw [pruned, List.filter_cons_of_pos (by simpa using he), List.map_cons]
      exact (hrest (prunedEntry e)).trans (reachable_prunedEntry e t)
    · rw [pruned, List.filter_cons_of_neg (by simpa using he)]
      exact ih.tail (.top (.here he))

inductive Foreign (t : Table) : UnknownKey → Prop
  | top {k : String} {v : Value} (h : (k, v) ∈ t) (hk : k ∉ topKeys) : Foreign t ⟨none, k⟩
  | inside {g : Group} {es : Table} {k : String} {v : Value} (hg : g ∈ groups)
      (hes : (g.name, .table es) ∈ t) (h : (k, v) ∈ es) (hk : k ∉ g.keys) :
      Foreign t ⟨some g.name, k⟩

def UnknownKey.place (u : UnknownKey) : Nat := (u.group.map topKeys.idxOf).getD 0

def UnknownKey.Before (u u' : UnknownKey) : Prop :=
  u.place < u'.place ∨ u.place = u'.place ∧ u.key < u'.key

def UnknownKey.NamedIn (u : UnknownKey) (text : String) : Prop :=
  (∃ before, text = before ++ "'" ++ u.key ++ "'") ∧
    ∀ g ∈ u.group, ∃ before after, text = before ++ "[" ++ g ++ "]" ++ after

def Group.unknown (g : Group) (w : Option Value) : List UnknownKey :=
  match w with
  | some (.table es) => (unknownIn g.keys es).map (⟨some g.name, ·⟩)
  | _ => []

lemma unknownKeys_eq (t : Table) : unknownKeys t = (unknownIn topKeys t).map (⟨none, ·⟩) ++
    groups.flatMap fun g => g.unknown (t.lookup g.name) := rfl

lemma mem_unknownIn {known : List String} : k ∈ unknownIn known t ↔ (∃ v, (k, v) ∈ t) ∧ k ∉ known := by
  simp [unknownIn]

lemma unknownIn_congr (known : List String) (h : t'.map Prod.fst = t.map Prod.fst) :
    unknownIn known t' = unknownIn known t := by
  rw [unknownIn, h, ← unknownIn]

lemma Group.mem_unknown {w : Option Value} : u ∈ g.unknown w ↔
    ∃ es, w = some (.table es) ∧ ∃ k, k ∈ unknownIn g.keys es ∧ u = ⟨some g.name, k⟩ := by
  unfold unknown
  split
  · simp [eq_comm]
  · rename_i hother
    simp only [List.not_mem_nil, false_iff]
    rintro ⟨es, rfl, -⟩
    exact hother es rfl

lemma mem_unknownKeys (h : (t.map Prod.fst).Nodup) : u ∈ unknownKeys t ↔ Foreign t u := by
  rw [unknownKeys_eq, List.mem_append, List.mem_map, List.mem_flatMap]
  constructor
  · rintro (⟨k, hk, rfl⟩ | ⟨g, hg, hu⟩)
    · obtain ⟨⟨v, hv⟩, hk⟩ := mem_unknownIn.mp hk
      exact .top hv hk
    · obtain ⟨es, hes, k, hk, rfl⟩ := Group.mem_unknown.mp hu
      obtain ⟨⟨v, hv⟩, hk⟩ := mem_unknownIn.mp hk
      exact .inside hg ((lookup_eq_some_iff_mem h).mp hes) hv hk
  · rintro (⟨hv, hk⟩ | ⟨hg, hes, hv, hk⟩)
    · exact Or.inl ⟨_, mem_unknownIn.mpr ⟨⟨_, hv⟩, hk⟩, rfl⟩
    · refine Or.inr ⟨_, hg, Group.mem_unknown.mpr ⟨_, (lookup_eq_some_iff_mem h).mpr hes, _, ?_, rfl⟩⟩
      exact mem_unknownIn.mpr ⟨⟨_, hv⟩, hk⟩

lemma unknownIn_increases (known : List String) (h : (t.map Prod.fst).Nodup) :
    (unknownIn known t).Pairwise (· < ·) := by
  have hsorted : (unknownIn known t).Pairwise fun a b => decide (a ≤ b) = true :=
    List.pairwise_mergeSort (by simpa using fun a b c => le_trans) (by simpa using le_total) _
  have hnodup : (unknownIn known t).Nodup := by
    rw [unknownIn, (List.mergeSort_perm _ _).nodup_iff]
    exact h.filter _
  refine (hsorted.and hnodup).imp ?_
  rintro a b ⟨hle, hne⟩
  exact lt_of_le_of_ne (of_decide_eq_true hle) hne

lemma unknownKeys_increase (h : (Value.table t).Distinct) :
    (unknownKeys t).Pairwise UnknownKey.Before := by
  obtain ⟨hkeys, hvalues⟩ := Value.distinct_table_iff.mp h
  have hplaces : groups.Pairwise fun g g' => topKeys.idxOf g.name < topKeys.idxOf g'.name := by
    decide
  have hpositive : ∀ g ∈ groups, 0 < topKeys.idxOf g.name := by decide
  rw [unknownKeys_eq, List.pairwise_append, List.pairwise_map, List.pairwise_flatMap]
  refine ⟨?_, ⟨?_, ?_⟩, ?_⟩
  · exact (unknownIn_increases topKeys hkeys).imp fun h => Or.inr ⟨rfl, h⟩
  · intro g hg
    unfold Group.unknown
    split
    · rename_i es hes
      have hsection := hvalues _ ((lookup_eq_some_iff_mem hkeys).mp hes)
      rw [List.pairwise_map]
      exact (unknownIn_increases g.keys (Value.distinct_table_iff.mp hsection).1).imp
        fun h => Or.inr ⟨rfl, h⟩
    · exact .nil
  · refine hplaces.imp fun hlt u hu u' hu' => ?_
    obtain ⟨-, -, -, -, rfl⟩ := Group.mem_unknown.mp hu
    obtain ⟨-, -, -, -, rfl⟩ := Group.mem_unknown.mp hu'
    exact Or.inl hlt
  · intro u hu u' hu'
    obtain ⟨k, -, rfl⟩ := List.mem_map.mp hu
    obtain ⟨g, hg, hu'⟩ := List.mem_flatMap.mp hu'
    obtain ⟨-, -, -, -, rfl⟩ := Group.mem_unknown.mp hu'
    exact Or.inl (hpositive g hg)

lemma UnknownKey.message_top (k : String) :
    message ⟨none, k⟩ = "Unknown config option" ++ (": " ++ "'" ++ k ++ "'") := by
  have hopening : "Unknown config option: '" = "Unknown config option" ++ ": " ++ "'" := rfl
  -- `rw [message]` compares the literals character by character, which takes too long
  change "Unknown config option: '" ++ k ++ "'" = _
  simp only [hopening, String.append_assoc]

lemma UnknownKey.message_inside (g k : String) : message ⟨some g, k⟩ =
    "Unknown config option" ++ (" in " ++ "[" ++ g ++ "]" ++ ": " ++ "'" ++ k ++ "'") := by
  have hopening : "Unknown config option in [" = "Unknown config option" ++ " in " ++ "[" := rfl
  have hclosing : "]: '" = "]" ++ ": " ++ "'" := rfl
  change "Unknown config option in [" ++ g ++ "]: '" ++ k ++ "'" = _
  simp only [hopening, hclosing, String.append_assoc]

lemma UnknownKey.namedIn_message (u : UnknownKey) : u.NamedIn u.message := by
  obtain ⟨group, k⟩ := u
  cases group with
  | none =>
    refine ⟨⟨"Unknown config option" ++ ": ", ?_⟩, by simp⟩
    simp only [message_top, String.append_assoc]
  | some g =>
    refine ⟨⟨"Unknown config option" ++ " in " ++ "[" ++ g ++ "]" ++ ": ", ?_⟩, ?_⟩
    · simp only [message_inside, String.append_assoc]
    · rintro g' ⟨⟩
      refine ⟨"Unknown config option" ++ " in ", ": " ++ "'" ++ k ++ "'", ?_⟩
      simp only [message_inside, String.append_assoc]

lemma Foreign.group_mem (h : Foreign t u) : u.group = none ∨ ∃ g ∈ groups, u.group = some g.name := by
  cases h with
  | top _ _ => exact Or.inl rfl
  | inside hg _ _ _ => exact Or.inr ⟨_, hg, rfl⟩

lemma message_top_ne_inside (k g k' : String) :
    UnknownKey.message ⟨none, k⟩ ≠ UnknownKey.message ⟨some g, k'⟩ := by
  rw [UnknownKey.message_top, UnknownKey.message_inside, Ne, String.append_right_inj]
  intro h
  have hhead := congrArg (fun m => m.toList.head?) h
  simp at hhead

lemma name_eq_of_head?_eq : ∀ g ∈ groups, ∀ g' ∈ groups,
    g.name.toList.head? = g'.name.toList.head? → g.name = g'.name := by
  decide

lemma eq_of_message_eq {u' : UnknownKey} (hu : Foreign t u) (hu' : Foreign t u')
    (h : u.message = u'.message) : u = u' := by
  obtain ⟨group, k⟩ := u
  obtain ⟨group', k'⟩ := u'
  rcases hu.group_mem with rfl | ⟨g, hg, rfl⟩ <;> rcases hu'.group_mem with rfl | ⟨g', hg', rfl⟩
  · simpa [UnknownKey.message_top] using h
  · exact absurd h (message_top_ne_inside k g'.name k')
  · exact absurd h.symm (message_top_ne_inside k' g.name k)
  · rw [UnknownKey.message_inside, UnknownKey.message_inside] at h
    have hnames : g.name = g'.name := by
      apply name_eq_of_head?_eq g hg g' hg'
      have hne : ∀ g ∈ groups, g.name.toList ≠ [] := by decide
      simp only [String.append_assoc, String.append_right_inj] at h
      have hhead := congrArg (fun m => m.toList.head?) h
      simpa [List.head?_append, List.head?_eq_some_head (hne g hg),
        List.head?_eq_some_head (hne g' hg')] using hhead
    rw [hnames] at h ⊢
    simpa using h

def UnknownKey.inDate (t : Table) (u : UnknownKey) : Bool :=
  (u.group.bind fun g => t.lookup g).any Value.isDate

lemma Group.unknown_withDates {w : Option Value} (h : ∀ v ∈ w, ¬ v.Misdated) :
    g.unknown (w.bind Value.withDates?) = if w.any Value.isDate then [] else g.unknown w := by
  cases w with
  | none => rfl
  | some v =>
    have hdates : v.withDates? ≠ none := fun hnone => h v rfl ((withDates?_eq_none_iff v).mp hnone)
    rw [Option.bind_some, Option.any_some]
    cases v with
    | table es =>
      rw [Value.withDates?] at hdates ⊢
      rw [Value.isDate]
      cases hdate : dateOf? es with
      | some d =>
        rw [hdate] at hdates
        cases d with
        | string text =>
          simp only [dateOfText?] at hdates ⊢
          split at hdates
          · rename_i htext
            simp [htext, unknown]
          · exact absurd rfl hdates
        | _ => exact absurd rfl hdates
      | none =>
        rw [hdate] at hdates
        cases hes : entriesWithDates? es with
        | none => simp [hes] at hdates
        | some es' =>
          simp [unknown, unknownIn_congr g.keys (map_fst_of_entriesWithDates? hes)]
    | array vs =>
      rw [Value.withDates?] at hdates ⊢
      cases hvs : elementsWithDates? vs with
      | none => simp [hvs] at hdates
      | some vs' => rfl
    | _ => rfl

lemma reportedKeys_of_misdated (h : ∃ e ∈ t, e.2.Misdated) : reportedKeys t = [] := by
  rw [reportedKeys, (entriesWithDates?_eq_none_iff t).mpr h]

lemma reportedKeys_eq_filter (hkeys : (t.map Prod.fst).Nodup) (h : ∀ e ∈ t, ¬ e.2.Misdated) :
    reportedKeys t = (unknownKeys t).filter fun u => !u.inDate t := by
  have hsome : entriesWithDates? t ≠ none := by
    rw [Ne, entriesWithDates?_eq_none_iff]
    rintro ⟨e, he, hmisdated⟩
    exact h e he hmisdated
  obtain ⟨t', ht'⟩ := Option.ne_none_iff_exists'.mp hsome
  have htop : ((unknownIn topKeys t).map fun k => (⟨none, k⟩ : UnknownKey)).filter
      (fun u => !u.inDate t) = (unknownIn topKeys t).map fun k => ⟨none, k⟩ := by
    rw [List.filter_eq_self]
    rintro u hu
    obtain ⟨k, -, rfl⟩ := List.mem_map.mp hu
    rfl
  have hgroup : ∀ g : Group, (g.unknown (t.lookup g.name)).filter (fun u => !u.inDate t) =
      g.unknown (t'.lookup g.name) := by
    intro g
    have hvalue : ∀ v ∈ t.lookup g.name, ¬ v.Misdated :=
      fun v hv => h _ ((lookup_eq_some_iff_mem hkeys).mp hv)
    have hconstant : ∀ u ∈ g.unknown (t.lookup g.name),
        (!u.inDate t) = !(t.lookup g.name).any Value.isDate := by
      intro u hu
      obtain ⟨-, -, -, -, rfl⟩ := Group.mem_unknown.mp hu
      rfl
    rw [List.filter_congr hconstant, lookup_of_entriesWithDates? ht', Group.unknown_withDates hvalue]
    cases (t.lookup g.name).any Value.isDate <;> simp
  have hreported : reportedKeys t = unknownKeys t' := by rw [reportedKeys, ht']
  rw [hreported, unknownKeys_eq, unknownKeys_eq, List.filter_append, htop,
    unknownIn_congr topKeys (map_fst_of_entriesWithDates? ht'), List.filter_flatMap]
  simp only [hgroup]

lemma reportedKeys_subset (hkeys : (t.map Prod.fst).Nodup) : reportedKeys t ⊆ unknownKeys t := by
  by_cases h : ∃ e ∈ t, e.2.Misdated
  · rw [reportedKeys_of_misdated h]
    exact List.nil_subset _
  · rw [reportedKeys_eq_filter hkeys (by simpa using h)]
    exact List.filter_sublist.subset

lemma reportedKeys_eq_iff (hkeys : (t.map Prod.fst).Nodup) : reportedKeys t = unknownKeys t ↔
    unknownKeys t = [] ∨
      (∀ e ∈ t, ¬ e.2.Misdated) ∧ ∀ u ∈ unknownKeys t, u.inDate t = false := by
  by_cases h : ∃ e ∈ t, e.2.Misdated
  · have hnot : ¬ ∀ e ∈ t, ¬ e.2.Misdated := by simpa using h
    rw [reportedKeys_of_misdated h, eq_comm, or_iff_left fun hnone => hnot hnone.1]
  · have hnone : ∀ e ∈ t, ¬ e.2.Misdated := by simpa using h
    rw [reportedKeys_eq_filter hkeys hnone, List.filter_eq_self]
    constructor
    · intro hshown
      exact Or.inr ⟨hnone, by simpa using hshown⟩
    · rintro (hnil | ⟨-, hshown⟩)
      · simp [hnil]
      · simpa using hshown

def loadTable (t : Table) : Except Fault Loaded :=
  (ofTable t).map fun s => ⟨s, (reportedKeys t).map .unknownKey⟩

lemma loadTable_eq_ok_iff {l : Loaded} : loadTable t = .ok l ↔
    ofTable t = .ok l.settings ∧ l.warnings = (reportedKeys t).map .unknownKey := by
  obtain ⟨settings, warnings⟩ := l
  rw [loadTable]
  cases ofTable t with
  | error f => simp [Except.map]
  | ok s => simp [Except.map, eq_comm]

lemma load_eq_ok_iff {files : Files.Tree} {p : Files.Path} {l : Loaded} :
    load files p = .ok l ↔ ∃ text t, readText files p = .ok text ∧ parse? text = some t ∧
      (Value.table t).Distinct ∧ loadTable t = .ok l := by
  rw [load]
  constructor
  · intro h
    split at h
    · cases h
    · rename_i text hread
      split at h
      · cases h
      · rename_i t hparse
        split at h
        · cases h
        · rename_i s hs
          cases h
          exact ⟨text, t, hread, hparse, distinct_of_parse? hparse, loadTable_eq_ok_iff.mpr ⟨hs, rfl⟩⟩
  · rintro ⟨text, t, hread, hparse, -, h⟩
    obtain ⟨hs, hwarnings⟩ := loadTable_eq_ok_iff.mp h
    simp [hread, hparse, hs, ← hwarnings]

lemma fst_prunedEntry (e : String × Value) : (prunedEntry e).1 = e.1 := by
  rw [prunedEntry]
  split <;> rfl

lemma map_fst_pruned (t : Table) : (pruned t).map Prod.fst = (t.map Prod.fst).filter (· ∈ topKeys) := by
  rw [pruned, List.map_map, List.filter_map]
  exact List.map_congr_left fun e _ => fst_prunedEntry e

lemma not_foreign_pruned : ¬ Foreign (pruned t) u := by
  rintro (⟨h, hk⟩ | ⟨hg, hes, h, hk⟩)
  · have hmem := List.mem_map_of_mem (f := Prod.fst) h
    rw [map_fst_pruned] at hmem
    exact hk (by simpa using (List.mem_filter.mp hmem).2)
  · rename_i g es k v
    obtain ⟨e, -, he⟩ := List.mem_map.mp hes
    have hname : e.1 = g.name := by rw [← fst_prunedEntry, he]
    have hfind : groups.find? (fun g' => g'.name == e.1) = some g := by
      rw [hname]
      rcases mem_groups.mp hg with rfl | rfl | rfl <;> rfl
    rw [prunedEntry, hfind] at he
    have hvalue := congrArg Prod.snd he
    cases hv : e.2 with
    | table fs =>
      rw [hv] at hvalue
      obtain rfl := Value.table.inj hvalue
      exact hk (by simpa using (List.mem_filter.mp h).2)
    | _ =>
      rw [hv] at hvalue
      cases hvalue

lemma reportedKeys_pruned (h : (t.map Prod.fst).Nodup) : reportedKeys (pruned t) = [] := by
  have hkeys : ((pruned t).map Prod.fst).Nodup := by
    rw [map_fst_pruned]
    exact h.filter _
  rw [List.eq_nil_iff_forall_not_mem]
  intro u hu
  exact not_foreign_pruned ((mem_unknownKeys hkeys).mp (reportedKeys_subset hkeys hu))

/-- The list has each unknown key of the table once, in order, and their messages tell them apart. -/
structure Lists (t : Table) (us : List UnknownKey) : Prop where
  mem : ∀ u, u ∈ us ↔ Foreign t u
  ordered : us.Pairwise UnknownKey.Before
  apart : (us.map UnknownKey.message).Nodup
  named : ∀ u ∈ us, u.NamedIn u.message

lemma lists_unknownKeys (h : (Value.table t).Distinct) : Lists t (unknownKeys t) := by
  have hmem : ∀ u, u ∈ unknownKeys t ↔ Foreign t u :=
    fun u => mem_unknownKeys (Value.distinct_table_iff.mp h).1
  have hordered := unknownKeys_increase h
  refine ⟨hmem, hordered, ?_, fun u _ => u.namedIn_message⟩
  rw [List.Nodup, List.pairwise_map]
  refine hordered.imp_of_mem fun hu hu' hbefore hmessage => ?_
  obtain rfl := eq_of_message_eq ((hmem _).mp hu) ((hmem _).mp hu') hmessage
  rcases hbefore with hlt | ⟨-, hlt⟩
  · exact lt_irrefl _ hlt
  · exact lt_irrefl _ hlt

theorem loadTable_keeps_known (t : Table) (l : Loaded) :
    (∀ files p, load files p = .ok l ↔ ∃ text t', readText files p = .ok text ∧ parse? text = some t' ∧
      (Value.table t').Distinct ∧ loadTable t' = .ok l) ∧
    ((Value.table t).Distinct → loadTable t = .ok l →
      Relation.ReflTransGen Adds (pruned t) t ∧ loadTable (pruned t) = .ok ⟨l.settings, []⟩ ∧
      (∀ t', Relation.ReflTransGen Adds t t' →
        ∃ l', loadTable t' = .ok l' ∧ l'.settings = l.settings) ∧
      ∃ us reported, Lists t us ∧ l.warnings = reported.map .unknownKey ∧
        ((∃ e ∈ t, e.2.Misdated) → reported = []) ∧
        ((∀ e ∈ t, ¬ e.2.Misdated) → reported = us.filter fun u => !u.inDate t) ∧
        (reported = us ↔
          us = [] ∨ (∀ e ∈ t, ¬ e.2.Misdated) ∧ ∀ u ∈ us, u.inDate t = false)) := by
  refine ⟨fun files p => load_eq_ok_iff, fun hdistinct hload => ?_⟩
  obtain ⟨hs, hwarnings⟩ := loadTable_eq_ok_iff.mp hload
  have hkeys := (Value.distinct_table_iff.mp hdistinct).1
  refine ⟨reachable_pruned t, ?_, ?_, unknownKeys t, reportedKeys t, lists_unknownKeys hdistinct,
    hwarnings, reportedKeys_of_misdated, reportedKeys_eq_filter hkeys, ?_⟩
  · refine loadTable_eq_ok_iff.mpr ⟨?_, ?_⟩
    · rw [← ofTable_of_reachable (reachable_pruned t), hs]
    · rw [reportedKeys_pruned hkeys]
      rfl
  · intro t' hadds
    exact ⟨⟨l.settings, _⟩, loadTable_eq_ok_iff.mpr ⟨by rw [ofTable_of_reachable hadds, hs], rfl⟩, rfl⟩
  · exact reportedKeys_eq_iff hkeys

theorem loadTable_keeps_known_dated :
    let t : Table := [("zz", .boolean true), ("scan", .table [("q", .table [(dateKey, .string "07:32:00")]),
      ("calls", .string "all")]), ("aa", .array [])]
    (Value.table t).Distinct ∧ ∃ l, loadTable t = .ok l ∧ l.settings = { calls := .all } ∧
      pruned t = [("scan", .table [("calls", .string "all")])] ∧
      loadTable (pruned t) = .ok ⟨l.settings, []⟩ ∧
      ∃ us, Lists t us ∧ ⟨some "scan", "q"⟩ ∈ us ∧ ⟨none, "aa"⟩ ∈ us ∧
        l.warnings = us.map .unknownKey := by
  intro t
  have hdistinct : (Value.table t).Distinct := by
    refine .table (by decide) ?_
    simp only [t, List.forall_mem_cons]
    refine ⟨.boolean true, .table (by decide) ?_, .array (by simp), by simp⟩
    simp only [List.forall_mem_cons]
    refine ⟨.table (by decide) ?_, .string "all", by simp⟩
    simpa using Value.Distinct.string "07:32:00"
  have hs : ofTable t = .ok { calls := .all } := by rfl
  obtain ⟨l, hload, hl⟩ : ∃ l, loadTable t = .ok l ∧ l.settings = { calls := .all } :=
    ⟨_, by rw [loadTable, hs, Except.map], by rfl⟩
  have hleft : pruned t = [("scan", .table [("calls", .string "all")])] := by rfl
  obtain ⟨-, hpruned, -, us, reported, hus, hwarnings, -, -, hiff⟩ :=
    (loadTable_keeps_known t l).2 hdistinct hload
  have hdated : ∀ e ∈ t, ¬ e.2.Misdated := by
    have hsome : (entriesWithDates? t).isSome = true := by decide +kernel
    intro e he hmisdated
    rw [(entriesWithDates?_eq_none_iff t).mpr ⟨e, he, hmisdated⟩] at hsome
    cases hsome
  have hshown : ∀ u ∈ us, u.inDate t = false := by
    rintro ⟨group, k⟩ hu
    rcases ((hus.mem _).mp hu).group_mem with rfl | ⟨g, hg, rfl⟩
    · rfl
    · rcases mem_groups.mp hg with rfl | rfl | rfl <;> rfl
  refine ⟨hdistinct, l, hload, hl, hleft, hpruned, us, hus, (hus.mem _).mpr ?_, (hus.mem _).mpr ?_, ?_⟩
  · exact .inside (mem_groups.mpr (Or.inr (Or.inl rfl))) (List.mem_cons_of_mem _ List.mem_cons_self)
      List.mem_cons_self (by decide)
  · exact .top (v := .array []) (by simp [t]) (by decide)
  · rw [hwarnings, hiff.mpr (Or.inr ⟨hdated, hshown⟩)]

theorem loadTable_silent :
    ∃ t l, parse? "typo = 1\nx = \x7b\"$__toml_private_datetime\" = 1\x7d\n" = some t ∧
      loadTable t = .ok l ∧ Foreign t ⟨none, "typo"⟩ ∧ Foreign t ⟨none, "x"⟩ ∧ l.warnings = [] := by
  have hparse : ((parse? "typo = 1\nx = \x7b\"$__toml_private_datetime\" = 1\x7d\n").map fun t =>
      (t.map Prod.fst, (entriesWithDates? t).isNone, (ofTable t).isOk)) =
        some (["typo", "x"], true, true) := by
    decide +kernel
  obtain ⟨t, ht, hfacts⟩ := Option.map_eq_some_iff.mp hparse
  obtain ⟨hkeys, hdates, hok⟩ := by simpa using hfacts
  have hforeign : ∀ k ∈ ["typo", "x"], Foreign t ⟨none, k⟩ := by
    intro k hk
    obtain ⟨e, he, rfl⟩ := List.mem_map.mp (hkeys ▸ hk)
    have hunknown : ∀ k ∈ ["typo", "x"], k ∉ topKeys := by decide
    exact .top he (hunknown e.1 hk)
  have hsilent : reportedKeys t = [] := by rw [reportedKeys, hdates]
  cases hs : ofTable t with
  | error f => simp [hs, Except.isOk, Except.toBool] at hok
  | ok s =>
    refine ⟨t, ⟨s, []⟩, ht, loadTable_eq_ok_iff.mpr ⟨hs, ?_⟩, hforeign _ (by decide),
      hforeign _ (by decide), rfl⟩
    rw [hsilent]
    rfl

end Settings

end TaintGrep
