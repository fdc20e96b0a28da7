import TaintGrep.Text.Place

/-!
Matches in a text from left to right. A matcher looks at what begins at a position; `scan` keeps the
first match and goes on after its last character, so matches never overlap. `firstIndex?` is the
first position from which on a list has a property.
-/

namespace TaintGrep

inductive ScanMode where
  | first
  | all
  deriving DecidableEq, Repr, Inhabited

namespace ScanMode

def label : ScanMode → String
  | .first => "first"
  | .all => "all"

def keep {α : Type} : ScanMode → List α → List α
  | .first, l => l.take 1
  | .all, l => l

@[simp] theorem keep_first {α : Type} (l : List α) : keep .first l = l.take 1 := rfl

@[simp] theorem keep_all {α : Type} (l : List α) : keep .all l = l := rfl

theorem keep_sublist {α : Type} (m : ScanMode) (l : List α) : (m.keep l).Sublist l := by
  cases m with
  | first => exact List.take_sublist 1 l
  | all => exact List.Sublist.refl l

end ScanMode

end TaintGrep

namespace TaintGrep.Text

/-- The matches of `find?` and the places where they start. `size` is the number of characters a
match covers, and `skip` the number still covered by the match before. -/
def scanFrom {α : Type} (find? : List Char → Option α) (size : α → Nat) :
    Place → Nat → List Char → List (Place × α)
  | _, _, [] => []
  | p, skip + 1, c :: cs => scanFrom find? size (p.next c) skip cs
  | p, 0, c :: cs =>
    match find? (c :: cs) with
    | some a => (p, a) :: scanFrom find? size (p.next c) (size a - 1) cs
    | none => scanFrom find? size (p.next c) 0 cs

def scan {α : Type} (find? : List Char → Option α) (size : α → Nat) (cs : List Char) :
    List (Place × α) :=
  scanFrom find? size Place.start 0 cs

section FirstIndex

variable {α : Type}

/-- The least number of elements after whose removal `p` holds of the rest, counted from `i`. -/
def firstIndexFrom? (p : List α → Bool) : Nat → List α → Option Nat
  | i, [] => if p [] then some i else none
  | i, c :: cs => if p (c :: cs) then some i else firstIndexFrom? p (i + 1) cs

def firstIndex? (p : List α → Bool) (cs : List α) : Option Nat :=
  firstIndexFrom? p 0 cs

theorem firstIndexFrom?_eq_map (p : List α → Bool) (i : Nat) (cs : List α) :
    firstIndexFrom? p i cs = (firstIndex? p cs).map (i + ·) := by
  induction cs generalizing i with
  | nil => by_cases h : p [] <;> simp [firstIndex?, firstIndexFrom?, h]
  | cons c cs ih =>
    by_cases h : p (c :: cs)
    · simp [firstIndex?, firstIndexFrom?, h]
    · have hc : firstIndex? p (c :: cs) = firstIndexFrom? p 1 cs := by
        rw [firstIndex?, firstIndexFrom?, if_neg h]
      rw [hc, firstIndexFrom?, if_neg h, ih, ih, Option.map_map]
      congr 1
      funext n
      simp only [Function.comp_apply]
      omega

theorem firstIndex?_nil (p : List α → Bool) :
    firstIndex? p [] = if p [] then some 0 else none := rfl

theorem firstIndex?_cons (p : List α → Bool) (c : α) (cs : List α) :
    firstIndex? p (c :: cs) = if p (c :: cs) then some 0 else (firstIndex? p cs).map (· + 1) := by
  rw [firstIndex?, firstIndexFrom?, firstIndexFrom?_eq_map]
  simp [Nat.add_comm]

theorem firstIndex?_eq_none_iff {p : List α → Bool} {cs : List α} :
    firstIndex? p cs = none ↔ ∀ n, n ≤ cs.length → p (cs.drop n) = false := by
  induction cs with
  | nil => simp [firstIndex?_nil]
  | cons c cs ih =>
    rw [firstIndex?_cons]
    constructor
    · intro h n hn
      split at h
      · simp at h
      · rename_i hp
        cases n with
        | zero => simpa using hp
        | succ n => exact ih.mp (by simpa using h) n (by simpa using hn)
    · intro h
      have h₀ := h 0 (Nat.zero_le _)
      rw [List.drop_zero] at h₀
      rw [h₀]
      simp only [Bool.false_eq_true, if_false, Option.map_eq_none_iff]
      exact ih.mpr fun n hn => h (n + 1) (by simpa using hn)

theorem firstIndex?_eq_some_iff {p : List α → Bool} {cs : List α} {n : Nat} :
    firstIndex? p cs = some n ↔
      n ≤ cs.length ∧ p (cs.drop n) = true ∧ ∀ m, m < n → p (cs.drop m) = false := by
  induction cs generalizing n with
  | nil =>
    rw [firstIndex?_nil]
    constructor
    · intro h
      split at h
      · obtain rfl := Option.some.inj h
        simp_all
      · simp at h
    · rintro ⟨hn, hp, -⟩
      obtain rfl := Nat.le_zero.mp hn
      rw [List.drop_zero] at hp
      simp [hp]
  | cons c cs ih =>
    rw [firstIndex?_cons]
    by_cases hp : p (c :: cs) = true
    · rw [if_pos hp]
      constructor
      · intro h
        obtain rfl := Option.some.inj h
        exact ⟨Nat.zero_le _, hp, fun m hm => absurd hm (Nat.not_lt_zero m)⟩
      · rintro ⟨-, -, h⟩
        cases n with
        | zero => rfl
        | succ n => exact absurd (h 0 (Nat.succ_pos n)) (by simp [hp])
    · rw [if_neg hp]
      cases n with
      | zero => simp [hp]
      | succ n =>
        simp only [Option.map_eq_some_iff, Nat.add_right_cancel_iff, exists_eq_right, ih,
          List.length_cons, Nat.add_le_add_iff_right, List.drop_succ_cons]
        constructor
        · rintro ⟨hn, hq, h⟩
          refine ⟨hn, hq, fun m hm => ?_⟩
          cases m with
          | zero => simpa using hp
          | succ m => exact h m (Nat.lt_of_succ_lt_succ hm)
        · rintro ⟨hn, hq, h⟩
          exact ⟨hn, hq, fun m hm => h (m + 1) (Nat.succ_lt_succ hm)⟩

def indexOf? [BEq α] (s cs : List α) : Option Nat :=
  firstIndex? s.isPrefixOf cs

theorem indexOf?_isSome_iff [BEq α] [LawfulBEq α] {s cs : List α} :
    (indexOf? s cs).isSome = true ↔ s <:+: cs := by
  rw [indexOf?, Option.isSome_iff_exists]
  constructor
  · rintro ⟨n, h⟩
    obtain ⟨-, hp, -⟩ := firstIndex?_eq_some_iff.mp h
    obtain ⟨r, hr⟩ := List.isPrefixOf_iff_prefix.mp hp
    exact ⟨cs.take n, r, by rw [List.append_assoc, hr, List.take_append_drop]⟩
  · rintro ⟨l, r, h⟩
    cases hf : firstIndex? s.isPrefixOf cs with
    | some n => exact ⟨n, rfl⟩
    | none =>
      have hn := firstIndex?_eq_none_iff.mp hf l.length (by rw [← h]; simp)
      rw [← h, List.append_assoc, List.drop_left, Bool.eq_false_iff] at hn
      exact absurd (List.isPrefixOf_iff_prefix.mpr ⟨r, rfl⟩) hn

end FirstIndex

def occursIn (s t : String) : Bool :=
  (indexOf? s.toList t.toList).isSome

theorem occursIn_iff {s t : String} : occursIn s t = true ↔ s.toList <:+: t.toList :=
  indexOf?_isSome_iff

end TaintGrep.Text
