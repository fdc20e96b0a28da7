import TaintGrep.Record.Unique

/-!
Records by category. Each category keeps its records in the order they were appended, and categories
are kept in the order of their names; a category is there once it has a record.
-/

namespace TaintGrep

namespace KnowledgeBase

abbrev Entries := List (String × List Record)

def Ordered (es : Entries) : Prop :=
  es.Pairwise fun a b => a.1 < b.1

def insert (category : String) (r : Record) : Entries → Entries
  | [] => [(category, [r])]
  | (c, rs) :: es =>
    if category = c then (c, rs ++ [r]) :: es
    else if category < c then (category, [r]) :: (c, rs) :: es
    else (c, rs) :: insert category r es

theorem mem_insert {category : String} {r : Record} {es : Entries} {e : String × List Record}
    (h : e ∈ insert category r es) : e.2 ≠ [] ∧ e.1 = category ∨ e ∈ es := by
  induction es with
  | nil =>
    obtain rfl := List.mem_singleton.mp h
    exact Or.inl ⟨by simp, rfl⟩
  | cons a es ih =>
    obtain ⟨c, rs⟩ := a
    rw [insert] at h
    split at h
    · rename_i hc
      rcases List.mem_cons.mp h with rfl | h
      · exact Or.inl ⟨by simp, hc.symm⟩
      · exact Or.inr (List.mem_cons_of_mem _ h)
    · split at h
      · rcases List.mem_cons.mp h with rfl | h
        · exact Or.inl ⟨by simp, rfl⟩
        · exact Or.inr h
      · rcases List.mem_cons.mp h with rfl | h
        · exact Or.inr List.mem_cons_self
        · exact (ih h).imp_right (List.mem_cons_of_mem _)

theorem lt_of_ne_of_not_lt {s t : String} (hne : s ≠ t) (h : ¬ s < t) : t < s :=
  Std.lt_of_le_of_ne (String.not_lt.mp h) hne.symm

theorem ordered_insert {es : Entries} (category : String) (r : Record) (h : Ordered es) :
    Ordered (insert category r es) := by
  induction es with
  | nil => exact List.pairwise_singleton _ _
  | cons a es ih =>
    obtain ⟨c, rs⟩ := a
    obtain ⟨ha, hs⟩ := List.pairwise_cons.mp h
    rw [insert]
    split
    · exact List.pairwise_cons.mpr ⟨ha, hs⟩
    · rename_i hne
      split
      · rename_i hlt
        refine List.pairwise_cons.mpr ⟨fun e he => ?_, h⟩
        rcases List.mem_cons.mp he with rfl | he
        · exact hlt
        · exact String.lt_trans hlt (ha e he)
      · rename_i hlt
        refine List.pairwise_cons.mpr ⟨fun e he => ?_, ih hs⟩
        rcases mem_insert he with ⟨-, rfl⟩ | he
        · exact lt_of_ne_of_not_lt hne hlt
        · exact ha e he

theorem lookup_eq_none_of_lt {es : Entries} {category : String}
    (h : ∀ e ∈ es, category < e.1) : es.lookup category = none := by
  induction es with
  | nil => rfl
  | cons a es ih =>
    have hne : category ≠ a.1 := fun he => String.lt_irrefl _ (he ▸ h a List.mem_cons_self)
    rw [List.lookup_cons, beq_false_of_ne hne]
    exact ih fun e he => h e (List.mem_cons_of_mem _ he)

theorem lookup_insert_self {es : Entries} (category : String) (r : Record) (h : Ordered es) :
    (insert category r es).lookup category = some ((es.lookup category).getD [] ++ [r]) := by
  induction es with
  | nil => simp [insert]
  | cons a es ih =>
    obtain ⟨c, rs⟩ := a
    obtain ⟨ha, hs⟩ := List.pairwise_cons.mp h
    rw [insert]
    split
    · rename_i hc
      subst hc
      simp
    · rename_i hne
      split
      · rename_i hlt
        have hn : es.lookup category = none :=
          lookup_eq_none_of_lt fun e he => String.lt_trans hlt (ha e he)
        simp [List.lookup_cons, beq_false_of_ne hne, hn]
      · simp [List.lookup_cons, beq_false_of_ne hne, ih hs]

theorem lookup_insert_of_ne {es : Entries} {category other : String} (r : Record)
    (hne : other ≠ category) : (insert category r es).lookup other = es.lookup other := by
  induction es with
  | nil => simp [insert, List.lookup_cons, beq_false_of_ne hne]
  | cons a es ih =>
    obtain ⟨c, rs⟩ := a
    rw [insert]
    split
    · rename_i hc
      subst hc
      simp [List.lookup_cons, beq_false_of_ne hne]
    · split
      · simp [List.lookup_cons, beq_false_of_ne hne]
      · simp [List.lookup_cons, ih]

end KnowledgeBase

structure KnowledgeBase where
  entries : KnowledgeBase.Entries
  ordered : KnowledgeBase.Ordered entries
  filled : ∀ e ∈ entries, e.2 ≠ []

namespace KnowledgeBase

def empty : KnowledgeBase where
  entries := []
  ordered := List.Pairwise.nil
  filled := by simp

def append (kb : KnowledgeBase) (category : String) (r : Record) : KnowledgeBase where
  entries := insert category r kb.entries
  ordered := ordered_insert category r kb.ordered
  filled e he := (mem_insert he).elim And.left (kb.filled e)

def appendAll (kb : KnowledgeBase) (l : List (String × Record)) : KnowledgeBase :=
  l.foldl (fun kb (category, r) => kb.append category r) kb

def get (kb : KnowledgeBase) (category : String) : List Record :=
  (kb.entries.lookup category).getD []

def unique (kb : KnowledgeBase) (category : String) (u : Uniqueness) : List Record :=
  Record.unique u (kb.get category)

def size (kb : KnowledgeBase) (category : String) : Nat :=
  (kb.get category).length

def categories (kb : KnowledgeBase) : List String :=
  kb.entries.map Prod.fst

def isEmpty (kb : KnowledgeBase) : Bool :=
  kb.entries.all fun e => e.2.isEmpty

theorem categories_increase (kb : KnowledgeBase) : kb.categories.Pairwise (· < ·) :=
  List.pairwise_map.mpr kb.ordered

theorem isEmpty_iff (kb : KnowledgeBase) : kb.isEmpty = true ↔ kb.categories = [] := by
  rw [isEmpty, categories, List.all_eq_true, List.map_eq_nil_iff]
  constructor
  · intro h
    exact List.eq_nil_iff_forall_not_mem.mpr fun e he => kb.filled e he (List.isEmpty_iff.mp (h e he))
  · intro h
    simp [h]

@[simp] theorem get_empty (category : String) : empty.get category = [] := rfl

theorem get_append_self (kb : KnowledgeBase) (category : String) (r : Record) :
    (kb.append category r).get category = kb.get category ++ [r] := by
  simp [get, append, lookup_insert_self category r kb.ordered]

theorem get_append_of_ne (kb : KnowledgeBase) {category other : String} (r : Record)
    (h : other ≠ category) : (kb.append category r).get other = kb.get other := by
  simp [get, append, lookup_insert_of_ne r h]

theorem get_append (kb : KnowledgeBase) (category other : String) (r : Record) :
    (kb.append category r).get other =
      kb.get other ++ if other = category then [r] else [] := by
  by_cases h : other = category
  · subst h
    simp [get_append_self]
  · simp [get_append_of_ne kb r h, h]

theorem get_appendAll (kb : KnowledgeBase) (l : List (String × Record)) (category : String) :
    (kb.appendAll l).get category =
      kb.get category ++ (l.filter fun e => e.1 = category).map Prod.snd := by
  induction l generalizing kb with
  | nil => simp [appendAll]
  | cons e l ih =>
    have h := ih (kb.append e.1 e.2)
    rw [get_append] at h
    rw [appendAll, List.foldl_cons]
    refine h.trans ?_
    by_cases hc : e.1 = category
    · simp [hc]
    · simp [hc, Ne.symm hc]

end KnowledgeBase

end TaintGrep
