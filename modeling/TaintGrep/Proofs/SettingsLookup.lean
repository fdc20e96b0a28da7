import Mathlib.Data.List.Infix
import Mathlib.Tactic.Lemma
import TaintGrep.Settings.Load

/-! The settings file that is found for a directory is the first one that is present, from the directory
up. Going up takes one component off a path at a time and ends at the root or at the empty path, so there
are at most as many steps as components. -/

namespace TaintGrep

namespace Files.Path

inductive Ascends : Path → List Path → Prop
  | stop {p : Path} (h : p.parent? = none) : Ascends p [p]
  | up {p q : Path} {above : List Path} (h : p.parent? = some q) (habove : Ascends q above) :
      Ascends p (p :: above)

def topComponents (rooted : Bool) : List Component := if rooted then [.root] else []

variable {rooted : Bool} {ps rest : List Name} {a : Name} {p q : Path}

lemma components_nil (rooted : Bool) : components ⟨rooted, []⟩ = topComponents rooted := by
  cases rooted <;> rfl

/-- A piece `.` counts where it stands first in a path that does not begin at the root. -/
lemma components_concat (h : ps ≠ [] ∨ rooted = true ∨ a ≠ ".") :
    components ⟨rooted, ps ++ [a]⟩ = components ⟨rooted, ps⟩ ++ (component? a).toList := by
  have hlast : [a].filterMap component? = (component? a).toList := by
    cases ha : component? a <;> simp [ha]
  have hhead : (if rooted = true then [Component.root]
      else if (ps ++ [a]).head? = some (Name.ofString ".") then [.here] else []) =
      if rooted = true then [.root] else if ps.head? = some (Name.ofString ".") then [.here] else [] := by
    cases ps with
    | nil => cases rooted <;> simp_all
    | cons b ps => rfl
  simp only [components, List.filterMap_append, hlast, hhead, List.append_assoc]

lemma component?_eq_none_iff : component? a = none ↔ a = "" ∨ a = "." := by
  rw [component?]
  split_ifs with h <;> simp [h]

lemma components_concat_void (h : ps ≠ [] ∨ rooted = true ∨ a ≠ ".") (ha : a = "" ∨ a = ".") :
    components ⟨rooted, ps ++ [a]⟩ = components ⟨rooted, ps⟩ := by
  rw [components_concat h, component?_eq_none_iff.mpr ha, Option.toList_none, List.append_nil]

lemma components_dropVoid (rooted : Bool) (ps : List Name) :
    components ⟨rooted, (dropVoid rooted ps).reverse⟩ = components ⟨rooted, ps.reverse⟩ := by
  fun_induction dropVoid rooted ps with
  | case1 => rfl
  | case2 a h =>
    have hvoid : components ⟨rooted, [] ++ [a]⟩ = components ⟨rooted, []⟩ := by
      apply components_concat_void
      · rcases h with rfl | ⟨hr, -⟩
        · exact Or.inr (Or.inr (by decide))
        · exact Or.inr (Or.inl hr)
      · exact h.imp_right And.right
    exact hvoid.symm
  | case3 a h => rfl
  | case4 a ps hne h ih =>
    rw [ih, List.reverse_cons]
    symm
    exact components_concat_void (Or.inl (by simpa using hne)) h
  | case5 a ps hne h => rfl

lemma dropVoid_suffix (rooted : Bool) (ps : List Name) : dropVoid rooted ps <:+ ps := by
  fun_induction dropVoid rooted ps with
  | case1 => exact List.suffix_rfl
  | case2 a h => exact List.nil_suffix
  | case3 a h => exact List.suffix_rfl
  | case4 a ps hne h ih => exact ih.trans (List.suffix_cons a ps)
  | case5 a ps hne h => exact List.suffix_rfl

lemma exists_components_of_dropVoid (h : dropVoid rooted ps = a :: rest) :
    ∃ c, components ⟨rooted, ps.reverse⟩ = components ⟨rooted, rest.reverse⟩ ++ [c] := by
  rw [← components_dropVoid, h, List.reverse_cons]
  have hkept : component? a ≠ none ∨ rooted = false ∧ a = "." ∧ rest = [] := by
    simp only [ne_eq, component?_eq_none_iff]
    fun_induction dropVoid rooted ps with
    | case1 => cases h
    | case2 a' h' => cases h
    | case3 a' h' =>
      cases h
      by_cases hdot : a = "."
      · have hrooted : rooted = false := Bool.eq_false_iff.mpr fun hr => h' (Or.inr ⟨hr, hdot⟩)
        exact Or.inr ⟨hrooted, hdot, rfl⟩
      · exact Or.inl fun hvoid => h' (Or.inl (hvoid.resolve_right hdot))
    | case4 a' ps hne h' ih => exact ih h
    | case5 a' ps hne h' =>
      cases h
      exact Or.inl h'
  rcases hkept with ha | ⟨rfl, rfl, rfl⟩
  · obtain ⟨c, hc⟩ := Option.ne_none_iff_exists'.mp ha
    refine ⟨c, ?_⟩
    rw [components_concat (Or.inr (Or.inr ?_)), hc, Option.toList_some]
    rintro rfl
    exact ha rfl
  · exact ⟨.here, rfl⟩

lemma rooted_of_parent? (h : p.parent? = some q) : q.rooted = p.rooted := by
  rw [parent?] at h
  split at h
  · cases h
  · cases h
    rfl

lemma pieces_of_parent? (h : p.parent? = some q) : q.pieces <+: p.pieces := by
  rw [parent?] at h
  split at h
  · cases h
  · rename_i a rest hdrop
    cases h
    have hsuffix : dropVoid p.rooted rest <:+ p.pieces.reverse :=
      (dropVoid_suffix _ _).trans ((List.suffix_cons a rest).trans (hdrop ▸ dropVoid_suffix _ _))
    rwa [← List.reverse_prefix, List.reverse_reverse] at hsuffix

lemma components_of_parent? (h : p.parent? = some q) : ∃ c, p.components = q.components ++ [c] := by
  rw [parent?] at h
  split at h
  · cases h
  · rename_i a rest hdrop
    cases h
    obtain ⟨c, hc⟩ := exists_components_of_dropVoid hdrop
    rw [List.reverse_reverse] at hc
    exact ⟨c, by rw [components_dropVoid, ← hc]⟩

lemma topComponents_isPrefix (p : Path) : topComponents p.rooted <+: p.components := by
  rw [components, topComponents]
  cases p.rooted <;> simp

lemma parent?_eq_none_iff : p.parent? = none ↔ p.components = topComponents p.rooted := by
  constructor
  · intro h
    rw [parent?] at h
    split at h
    · rename_i hdrop
      have hcomponents := components_dropVoid p.rooted p.pieces.reverse
      rw [hdrop, List.reverse_reverse] at hcomponents
      exact hcomponents.symm.trans (components_nil p.rooted)
    · cases h
  · intro h
    cases hq : p.parent? with
    | none => rfl
    | some q =>
      obtain ⟨c, hc⟩ := components_of_parent? hq
      have hle := (topComponents_isPrefix q).length_le
      rw [rooted_of_parent? hq, ← h, hc, List.length_append, List.length_singleton] at hle
      omega

lemma ascends_ancestors (p : Path) : p.Ascends p.ancestors := by
  induction hn : p.pieces.length using Nat.strongRecOn generalizing p with
  | ind n ih =>
    rw [ancestors_eq_cons]
    cases hq : p.parent? with
    | none => exact .stop hq
    | some q => exact .up hq (ih _ (hn ▸ length_parent?_lt hq) q rfl)

lemma Ascends.eq_ancestors {chain : List Path} (h : p.Ascends chain) : chain = p.ancestors := by
  induction h with
  | stop h => rw [ancestors_eq_cons, h, Option.map_none, Option.getD_none]
  | up h _ ih => rw [ancestors_eq_cons, h, ih, Option.map_some, Option.getD_some]

lemma Ascends.length_eq {chain : List Path} (h : p.Ascends chain) :
    chain.length + (topComponents p.rooted).length = p.components.length + 1 := by
  induction h with
  | stop h =>
    rw [parent?_eq_none_iff.mp h, List.length_singleton, Nat.add_comm]
  | up h _ ih =>
    obtain ⟨c, hc⟩ := components_of_parent? h
    rw [hc, ← rooted_of_parent? h, List.length_cons, List.length_append, List.length_singleton]
    omega

lemma Ascends.components_getElem? {chain : List Path} (h : p.Ascends chain) {n : Nat}
    (hn : chain[n]? = some q) : q.components = p.components.take (p.components.length - n) := by
  induction h generalizing n with
  | stop h =>
    cases n with
    | zero =>
      cases hn
      simp
    | succ n => simp at hn
  | up h _ ih =>
    cases n with
    | zero =>
      cases hn
      simp
    | succ n =>
      obtain ⟨c, hc⟩ := components_of_parent? h
      rw [ih hn, hc, List.length_append, List.length_singleton, Nat.add_sub_add_right,
        List.take_append_of_le_length (Nat.sub_le _ _)]

end Files.Path

namespace Settings

open TaintGrep.Files

lemma findFrom?_eq (present : Path → Bool) (p : Path) : findFrom? present p =
    if present (p.join fileName) then some (p.join fileName)
    else p.parent?.bind (findFrom? present) := by
  rw [findFrom?]
  split
  · rfl
  · split
    · rename_i h
      rw [h, Option.bind_none]
    · rename_i q h
      show findFrom? present q = _
      rw [h, Option.bind_some]

lemma findFrom?_of_ascends (present : Path → Bool) {p : Path} {chain : List Path}
    (h : p.Ascends chain) : findFrom? present p =
      (chain.find? fun q => present (q.join fileName)).map fun q => q.join fileName := by
  induction h with
  | @stop p h =>
    rw [findFrom?_eq, h, Option.bind_none]
    cases hp : present (p.join fileName) <;> simp [hp]
  | @up p q above h _ ih =>
    rw [findFrom?_eq, h, Option.bind_some, ih]
    cases hp : present (p.join fileName) <;> simp [hp]

theorem findFrom?_nearest (present : Path → Bool) (start : Path) :
    ∃ chain, (∀ ps, start.Ascends ps ↔ ps = chain) ∧
      (∀ f, findFrom? present start = some f ↔ ∃ below p above, chain = below ++ p :: above ∧
        f = p.join fileName ∧ present f = true ∧ ∀ q ∈ below, present (q.join fileName) = false) ∧
      (findFrom? present start = none ↔ ∀ p ∈ chain, present (p.join fileName) = false) ∧
      (∀ n p, chain[n]? = some p →
        p.components = start.components.take (start.components.length - n)) ∧
      chain.length + (Path.topComponents start.rooted).length = start.components.length + 1 := by
  have hchain := start.ascends_ancestors
  have hfind := findFrom?_of_ascends present hchain
  refine ⟨start.ancestors, fun ps => ⟨Path.Ascends.eq_ancestors, fun h => h ▸ hchain⟩, fun f => ?_, ?_,
    fun n p => hchain.components_getElem?, hchain.length_eq⟩
  · rw [hfind, Option.map_eq_some_iff]
    constructor
    · rintro ⟨p, hp, rfl⟩
      obtain ⟨hpresent, below, above, hsplit, hbelow⟩ := List.find?_eq_some_iff_append.mp hp
      exact ⟨below, p, above, hsplit, rfl, hpresent, fun q hq => by simpa using hbelow q hq⟩
    · rintro ⟨below, p, above, hsplit, rfl, hpresent, hbelow⟩
      refine ⟨p, List.find?_eq_some_iff_append.mpr ⟨hpresent, below, above, hsplit, ?_⟩, rfl⟩
      exact fun q hq => by simpa using hbelow q hq
  · simp [hfind]

/-- Above `./a//../b/.` are `./a//..`, `./a`, `.` and the empty path. -/
theorem findFrom?_nearest_irregular :
    let start := Path.ofString "./a//../b/."
    let present : Path → Bool := fun f => f.text = "domxss.toml" || f.text = "./a/domxss.toml"
    ∃ chain p, start.Ascends chain ∧ chain.length = 5 ∧ chain[2]? = some p ∧ p.text = "./a" ∧
      p.components = start.components.take 2 ∧ findFrom? present start = some (p.join fileName) := by
  intro start present
  obtain ⟨chain, hchain, hsome, -, hcomponents, -⟩ := findFrom?_nearest present start
  obtain rfl := (hchain _).mp start.ascends_ancestors
  have hp : start.ancestors[2]? = some (Path.ofString "./a") := by decide +kernel
  refine ⟨start.ancestors, Path.ofString "./a", start.ascends_ancestors, by decide +kernel, hp,
    by decide +kernel, hcomponents 2 _ hp, (hsome _).mpr ?_⟩
  refine ⟨[start, Path.ofString "./a//.."], Path.ofString "./a", [Path.ofString ".", Path.ofString ""],
    by decide +kernel, rfl, by decide +kernel, by decide +kernel⟩

end Settings

end TaintGrep
