import TaintGrep.Proofs.Position
import TaintGrep.Text.Scan

/-! What `scan` finds: the leftmost match, then the leftmost match after its last character, and so
on. Hence matches are in order, do not overlap, and cover every position where one could start. -/

namespace TaintGrep.Text

variable {α : Type} {find? : List Char → Option α} {chars : α → List Char}

/-- A match is the beginning of the text it was looked for in, and is not empty. -/
structure Reads (find? : List Char → Option α) (chars : α → List Char) : Prop where
  begins {cs : List Char} {a : α} : find? cs = some a → ∃ rest, cs = chars a ++ rest
  nonempty {cs : List Char} {a : α} : find? cs = some a → chars a ≠ []

/-- The matches in a text that starts at a place. No match starts in the text passed before a match,
nor in the text after the last. -/
inductive Scanned (find? : List Char → Option α) (chars : α → List Char) :
    Place → List Char → List (Place × α) → Prop
  | done {p cs} (hnone : ∀ r, r ≠ [] → r <:+ cs → find? r = none) : Scanned find? chars p cs []
  | found {p gap a rest ms} (hgap : ∀ g, g ≠ [] → g <:+ gap → find? (g ++ (chars a ++ rest)) = none)
      (hfind : find? (chars a ++ rest) = some a)
      (htail : Scanned find? chars ((p.advance gap).advance (chars a)) rest ms) :
      Scanned find? chars p (gap ++ (chars a ++ rest)) ((p.advance gap, a) :: ms)

lemma Scanned.cons_of_none {p : Place} {c : Char} {cs : List Char} {ms : List (Place × α)}
    (hc : find? (c :: cs) = none) (h : Scanned find? chars (p.next c) cs ms) :
    Scanned find? chars p (c :: cs) ms := by
  cases h with
  | done hnone =>
    refine .done fun r hr hs => ?_
    rcases List.suffix_cons_iff.mp hs with rfl | hs
    · exact hc
    · exact hnone r hr hs
  | @found _ gap a rest ms hgap hfind htail =>
    refine @Scanned.found α find? chars p (c :: gap) a rest ms (fun g hg hs => ?_) hfind htail
    rcases List.suffix_cons_iff.mp hs with rfl | hs
    · exact hc
    · exact hgap g hg hs

lemma scanned_scanFrom (h : Reads find? chars) (p : Place) (n : Nat) (cs : List Char) :
    Scanned find? chars (p.advance (cs.take n)) (cs.drop n)
      (scanFrom find? (fun a => (chars a).length) p n cs) := by
  induction cs generalizing p n with
  | nil =>
    rw [List.drop_nil, scanFrom]
    exact .done fun r hr hs => absurd (List.suffix_nil.mp hs) hr
  | cons c cs ih =>
    cases n with
    | succ n => exact ih (p.next c) n
    | zero =>
      rw [scanFrom]
      cases hf : find? (c :: cs) with
      | none => exact .cons_of_none hf (ih (p.next c) 0)
      | some a =>
        obtain ⟨rest, hr⟩ := h.begins hf
        obtain ⟨d, ds, hd⟩ := List.exists_cons_of_ne_nil (h.nonempty hf)
        have ht := ih (p.next c) ds.length
        rw [hd, List.cons_append, List.cons.injEq] at hr
        obtain ⟨rfl, rfl⟩ := hr
        rw [List.take_left, List.drop_left] at ht
        have hm := @Scanned.found α find? chars p [] a rest _
          (fun g hg hs => absurd (List.suffix_nil.mp hs) hg) (by rw [hd]; exact hf) (by rw [hd]; exact ht)
        simpa [hd] using hm

lemma scanned_scan (h : Reads find? chars) (cs : List Char) :
    Scanned find? chars Place.start cs (scan find? (fun a => (chars a).length) cs) :=
  scanned_scanFrom h Place.start 0 cs

lemma scanFrom_skip (find? : List Char → Option α) (size : α → Nat) (p : Place) (t rest : List Char) :
    scanFrom find? size p t.length (t ++ rest) = scanFrom find? size (p.advance t) 0 rest := by
  induction t generalizing p with
  | nil => rfl
  | cons c t ih => exact ih (p.next c)

lemma scanFrom_gap {size : α → Nat} {p : Place} {gap rest : List Char}
    (h : ∀ g, g ≠ [] → g <:+ gap → find? (g ++ rest) = none) :
    scanFrom find? size p 0 (gap ++ rest) = scanFrom find? size (p.advance gap) 0 rest := by
  induction gap generalizing p with
  | nil => rfl
  | cons c gap ih =>
    have hc := h (c :: gap) (List.cons_ne_nil c gap) List.suffix_rfl
    rw [List.cons_append] at hc ⊢
    rw [scanFrom, hc]
    exact ih fun g hg hs => h g hg (hs.trans (List.suffix_cons c gap))

namespace Scanned

variable {p : Place} {cs : List Char} {ms : List (Place × α)}

lemma scanFrom_eq (hreads : Reads find? chars) (h : Scanned find? chars p cs ms) :
    scanFrom find? (fun a => (chars a).length) p 0 cs = ms := by
  induction h with
  | @done p cs hnone =>
    have hgap : ∀ g, g ≠ [] → g <:+ cs → find? (g ++ []) = none := by simpa using hnone
    rw [← List.append_nil cs, scanFrom_gap hgap, scanFrom]
  | @found p gap a rest ms hgap hfind htail ih =>
    obtain ⟨c, t, ht⟩ := List.exists_cons_of_ne_nil (hreads.nonempty hfind)
    rw [scanFrom_gap hgap]
    rw [ht, List.cons_append] at hfind ⊢
    rw [scanFrom, hfind]
    dsimp only
    rw [ht, List.length_cons, Nat.add_sub_cancel, scanFrom_skip]
    rw [ht] at ih
    exact congrArg _ ih

lemma sound (h : Scanned find? chars p cs ms) {m : Place × α} (hm : m ∈ ms) :
    ∃ passed rest, cs = passed ++ (chars m.2 ++ rest) ∧ m.1 = p.advance passed ∧
      find? (chars m.2 ++ rest) = some m.2 := by
  induction h with
  | done => simp at hm
  | @found p gap a rest ms hgap hfind htail ih =>
    rcases List.mem_cons.mp hm with rfl | hm
    · exact ⟨gap, rest, rfl, rfl, hfind⟩
    · obtain ⟨passed, after, hr, hp, hf⟩ := ih hm
      refine ⟨gap ++ (chars a ++ passed), after, ?_, ?_, hf⟩
      · simp only [hr, List.append_assoc]
      · simp only [hp, Place.advance_append]

lemma disjoint (h : Scanned find? chars p cs ms) :
    ms.Pairwise fun m n => m.1.offset + byteLength (chars m.2) ≤ n.1.offset := by
  induction h with
  | done => exact .nil
  | @found p gap a rest ms hgap hfind htail ih =>
    refine .cons (fun m hm => ?_) ih
    obtain ⟨passed, after, -, hp, -⟩ := htail.sound hm
    simp only [hp, Place.advance_offset]
    omega

lemma complete (h : Scanned find? chars p cs ms) {q : Nat} {rest : List Char} {a : α}
    (hq : ContinuesAt cs q rest) (hr : rest ≠ []) (ha : find? rest = some a) :
    ∃ m ∈ ms, m.1.offset ≤ p.offset + q ∧
      p.offset + q < m.1.offset + byteLength (chars m.2) := by
  induction h generalizing q with
  | done hnone =>
    obtain ⟨passed, rfl, -⟩ := hq
    have hn := hnone rest hr (List.suffix_append passed rest)
    simp [ha] at hn
  | @found p gap b after ms hgap hfind htail ih =>
    have hs := ContinuesAt.start (gap ++ (chars b ++ after))
    by_cases hg : q < byteLength gap
    · obtain ⟨g, hne, hsuf, rfl⟩ := hs.within hq (Nat.zero_le q) (by omega)
      have hn := hgap g hne hsuf
      simp [ha] at hn
    · by_cases hb : q < byteLength gap + byteLength (chars b)
      · refine ⟨_, List.mem_cons_self, ?_⟩
        simp only [Place.advance_offset]
        omega
      · obtain ⟨u, hu, hqu⟩ := hs.skip.skip.exists_between hq (by omega)
        obtain ⟨m, hm, hle, hlt⟩ := ih ⟨u, hu, rfl⟩
        refine ⟨m, List.mem_cons_of_mem _ hm, ?_⟩
        simp only [Place.advance_offset] at hle hlt
        omega

end Scanned

/-- The place `q` of a text, once the text starts at `p'` and not at `p`. -/
def Place.moved (p p' q : Place) : Place :=
  ⟨q.offset + p'.offset - p.offset, q.line + p'.line - p.line⟩

lemma Place.moved_advance (p p' : Place) (t : List Char) : moved p p' (p.advance t) = p'.advance t := by
  rw [moved, advance_eq, advance_eq, Place.mk.injEq]
  dsimp only
  omega

lemma Place.moved_advance_advance (p p' : Place) (t : List Char) :
    moved (p.advance t) (p'.advance t) = moved p p' := by
  funext q
  rw [moved, moved, advance_eq, advance_eq, Place.mk.injEq]
  dsimp only
  omega

lemma Scanned.moved {p : Place} {cs : List Char} {ms : List (Place × α)}
    (h : Scanned find? chars p cs ms) (p' : Place) :
    Scanned find? chars p' cs (ms.map fun m => (Place.moved p p' m.1, m.2)) := by
  induction h generalizing p' with
  | done hnone => exact .done hnone
  | @found p gap a rest ms hgap hfind htail ih =>
    have htail' := ih ((p'.advance gap).advance (chars a))
    rw [Place.moved_advance_advance, Place.moved_advance_advance] at htail'
    rw [List.map_cons, Place.moved_advance]
    exact .found hgap hfind htail'

end TaintGrep.Text
