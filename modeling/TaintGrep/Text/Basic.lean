/-!
Classes of characters and what is done with them: runs of a class, blanks and trimming, ASCII case, and
lines.
-/

namespace TaintGrep.Text

section

variable {α : Type} {p : α → Bool}

theorem of_mem_takeWhile {l : List α} {a : α} (h : a ∈ l.takeWhile p) : p a = true :=
  List.all_eq_true.mp List.all_takeWhile a h

theorem takeWhile_append_cons {l : List α} {a : α} (r : List α) (hl : ∀ b ∈ l, p b = true)
    (ha : p a = false) : (l ++ a :: r).takeWhile p = l := by
  rw [List.takeWhile_append_of_pos hl]
  simp [ha]

theorem dropWhile_append_cons {l : List α} {a : α} (r : List α) (hl : ∀ b ∈ l, p b = true)
    (ha : p a = false) : (l ++ a :: r).dropWhile p = a :: r := by
  rw [List.dropWhile_append_of_pos hl]
  simp [ha]

theorem eq_append_cons_of_dropWhile {l : List α} {a : α} {r : List α}
    (h : l.dropWhile p = a :: r) : l = l.takeWhile p ++ a :: r := by
  rw [← h, List.takeWhile_append_dropWhile]

end

/-- A character with the Unicode property `White_Space`. -/
def isBlank (c : Char) : Bool :=
  (0x09 ≤ c.toNat && c.toNat ≤ 0x0D) || c.toNat == 0x20 || c.toNat == 0x85 || c.toNat == 0xA0 ||
    c.toNat == 0x1680 || (0x2000 ≤ c.toNat && c.toNat ≤ 0x200A) || c.toNat == 0x2028 ||
    c.toNat == 0x2029 || c.toNat == 0x202F || c.toNat == 0x205F || c.toNat == 0x3000

def trimChars (cs : List Char) : List Char :=
  ((cs.dropWhile isBlank).reverse.dropWhile isBlank).reverse

def trim (s : String) : String :=
  String.ofList (trimChars s.toList)

@[simp] theorem toList_trim (s : String) : (trim s).toList = trimChars s.toList := by
  simp [trim]

theorem forall_toLower {P : Char → Char → Prop}
    (hascii : ∀ n < 128, P (Char.ofNat n) (Char.ofNat n).toLower)
    (hother : ∀ c, c.toLower = c → P c c) (c : Char) : P c c.toLower := by
  by_cases h : c.toNat < 128
  · have hp := hascii c.toNat h
    rwa [Char.ofNat_toNat] at hp
  · have hself : c.toLower = c := by
      refine dif_neg ?_
      rintro ⟨-, hle⟩
      exact h (Nat.lt_of_le_of_lt hle (by decide))
    rw [hself]
    exact hother c hself

def asciiLower (s : String) : String :=
  String.ofList (s.toList.map Char.toLower)

@[simp] theorem toList_asciiLower (s : String) :
    (asciiLower s).toList = s.toList.map Char.toLower := by
  simp [asciiLower]

def sameAscii (s t : String) : Bool :=
  asciiLower s == asciiLower t

theorem sameAscii_iff {s t : String} : sameAscii s t = true ↔ asciiLower s = asciiLower t := by
  simp [sameAscii]

theorem sameAscii_refl (s : String) : sameAscii s s = true :=
  sameAscii_iff.mpr rfl

theorem sameAscii_trans {s t u : String} (h : sameAscii s t = true) (k : sameAscii t u = true) :
    sameAscii s u = true :=
  sameAscii_iff.mpr ((sameAscii_iff.mp h).trans (sameAscii_iff.mp k))

def dropReturn (cs : List Char) : List Char :=
  if cs.getLast? = some '\r' then cs.dropLast else cs

/-- The lines, given the characters of the first so far in reverse. -/
def linesFrom : List Char → List Char → List (List Char)
  | [], [] => []
  | line, [] => [line.reverse]
  | line, c :: cs =>
    if c = '\n' then dropReturn line.reverse :: linesFrom [] cs else linesFrom (c :: line) cs

def lines (s : String) : List String :=
  (linesFrom [] s.toList).map String.ofList

end TaintGrep.Text
