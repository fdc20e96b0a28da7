import Mathlib.Data.List.Basic
import TaintGrep.Proofs.JsonGrammar
import TaintGrep.Report.Json

/-! Both written forms of a JSON value are in the grammar and denote it, whatever text follows. The form
on one line is indeed on one line. -/

namespace TaintGrep.Report.Json

open TaintGrep.JsonText

mutual

def toValue : Json → Value
  | .string s => .string s
  | .number n => .number n
  | .array vs => .array (toValues vs)
  | .object fs => .object (toFields fs)

def toValues : List Json → List Value
  | [] => []
  | v :: vs => v.toValue :: toValues vs

def toFields : List (String × Json) → List (String × Value)
  | [] => []
  | (k, v) :: fs => (k, v.toValue) :: toFields fs

end

lemma codeUnit?_control {n : Nat} (h : n < 0x20) :
    codeUnit? '0' '0' (hexDigit (n / 16)) (hexDigit (n % 16)) = some n := by
  revert n
  decide

lemma isCharacter_escape (c : Char) (rest : List Char) : IsCharacter c (escape c ++ rest) rest := by
  unfold escape
  split_ifs with hquote hback hn hr ht hb hf hcontrol
  · exact .escape (by simp [escapes, hquote])
  · exact .escape (by simp [escapes, hback])
  · exact .escape (by simp [escapes, hn])
  · exact .escape (by simp [escapes, hr])
  · exact .escape (by simp [escapes, ht])
  · obtain rfl : c = '\x08' := Char.toNat_inj.mp hb
    exact .escape (by simp [escapes])
  · obtain rfl : c = '\x0c' := Char.toNat_inj.mp hf
    exact .escape (by simp [escapes])
  · exact .code (codeUnit?_control hcontrol)
  · exact .plain (by omega) hquote hback

lemma isText_escape (s rest : List Char) : IsText s (s.flatMap escape ++ '"' :: rest) rest := by
  induction s with
  | nil => exact .close
  | cons c s ih =>
    rw [List.flatMap_cons, List.append_assoc]
    exact .next (isCharacter_escape c _) ih

lemma isText_quoted (s : String) (rest : List Char) :
    ∃ cs, quoted s ++ rest = '"' :: cs ∧ IsText s.toList cs rest :=
  ⟨_, by simp [quoted], isText_escape s.toList rest⟩

lemma isValue_quoted (s : String) (rest : List Char) :
    IsValue (.string s) (quoted s ++ rest) rest := by
  obtain ⟨cs, hcs, htext⟩ := isText_quoted s rest
  simpa only [hcs, String.ofList_toList] using IsValue.string htext

lemma isWhole_digits (n : Nat) : IsWhole (digits n) := by
  refine ⟨⟨Nat.toDigits_ne_nil, fun c hc => Nat.isDigit_of_mem_toDigits (by decide) (by decide) hc⟩, ?_⟩
  -- a zero in front would be the whole of the digits but the last, so of a number below ten
  induction n using Nat.strongRecOn with
  | ind n ih =>
    intro hhead
    rw [digits, Nat.toDigits_eq_if (by decide)] at hhead ⊢
    split_ifs at hhead ⊢ with hn
    · simpa using hhead
    · have hzero : digits (n / 10) = ['0'] := ih (n / 10) (by omega) (by
        rwa [List.head?_append_of_ne_nil _ Nat.toDigits_ne_nil] at hhead)
      have hdiv : n / 10 = 0 := by
        rw [← Nat.ofDigitChars_ten_toDigits (n := n / 10), ← digits, hzero]
        rfl
      omega

lemma isNumber_digits (n : Nat) : IsNumber n (digits n) := by
  have h : IsNumber _ (digits n ++ ([] ++ [])) := .plus (isWhole_digits n) .none .none
  simpa [decimal, digits, Nat.ofDigitChars_ten_toDigits] using h

lemma isMember_quoted (k : String) {v : Value} {cs cs' rest : List Char} (hb : Blanks cs cs')
    (hv : IsValue v cs' rest) : IsMember (k, v) (quoted k ++ ':' :: cs) rest := by
  obtain ⟨ks, hks, htext⟩ := isText_quoted k (':' :: cs)
  simpa only [hks, String.ofList_toList] using IsMember.mk htext (.refl _) hb hv

mutual

lemma isValue_compact (v : Json) (rest : List Char) :
    IsValue v.toValue (v.compact ++ rest) rest := by
  match v with
  | .string s => exact isValue_quoted s rest
  | .number n => exact .number (isNumber_digits n)
  | .array [] => exact .emptyArray (.refl _)
  | .array (v :: vs) =>
    rw [compact, List.append_assoc]
    exact .array (.refl _) (isValue_compact v _) (isElements_compact vs rest)
  | .object [] => exact .emptyObject (.refl _)
  | .object ((k, v) :: fs) =>
    rw [compact, List.append_assoc, List.append_assoc]
    exact .object (.refl _) (isMember_quoted k (.refl _) (isValue_compact v _))
      (isMembers_compact fs rest)

lemma isElements_compact (vs : List Json) (rest : List Char) :
    IsElements (toValues vs) (compactElements vs ++ rest) rest := by
  match vs with
  | [] => exact .close (.refl _)
  | v :: vs =>
    rw [compactElements, List.append_assoc]
    exact .next (.refl _) (.refl _) (isValue_compact v _) (isElements_compact vs rest)

lemma isMembers_compact (fs : List (String × Json)) (rest : List Char) :
    IsMembers (toFields fs) (compactFields fs ++ rest) rest := by
  match fs with
  | [] => exact .close (.refl _)
  | (k, v) :: fs =>
    rw [compactFields, List.append_assoc, List.append_assoc]
    exact .next (.refl _) (.refl _) (isMember_quoted k (.refl _) (isValue_compact v _))
      (isMembers_compact fs rest)

end

lemma newline_notMem_control {n : Nat} (h : n < 0x20) :
    '\n' ∉ ['\\', 'u', '0', '0', hexDigit (n / 16), hexDigit (n % 16)] := by
  revert n
  decide

lemma newline_notMem_escape (c : Char) : '\n' ∉ escape c := by
  unfold escape
  split_ifs with hquote hback hn hr ht hb hf hcontrol
  iterate 7 decide
  · exact newline_notMem_control hcontrol
  · simpa using Ne.symm hn

lemma newline_notMem_quoted (s : String) : '\n' ∉ quoted s := by
  simp [quoted, newline_notMem_escape]

lemma newline_notMem_digits (n : Nat) : '\n' ∉ digits n := by
  intro h
  cases (isWhole_digits n).1.2 _ h

mutual

lemma newline_notMem_compact (v : Json) : '\n' ∉ v.compact := by
  match v with
  | .string s => exact newline_notMem_quoted s
  | .number n => exact newline_notMem_digits n
  | .array [] => simp [compact]
  | .array (v :: vs) =>
    simp [compact, newline_notMem_compact v, newline_notMem_compactElements vs]
  | .object [] => simp [compact]
  | .object ((k, v) :: fs) =>
    simp [compact, newline_notMem_quoted, newline_notMem_compact v, newline_notMem_compactFields fs]

lemma newline_notMem_compactElements (vs : List Json) : '\n' ∉ compactElements vs := by
  match vs with
  | [] => simp [compactElements]
  | v :: vs =>
    simp [compactElements, newline_notMem_compact v, newline_notMem_compactElements vs]

lemma newline_notMem_compactFields (fs : List (String × Json)) : '\n' ∉ compactFields fs := by
  match fs with
  | [] => simp [compactFields]
  | (k, v) :: fs =>
    simp [compactFields, newline_notMem_quoted, newline_notMem_compact v,
      newline_notMem_compactFields fs]

end

lemma blanks_newline (depth : Nat) (rest : List Char) : Blanks (newline depth ++ rest) rest :=
  ⟨newline depth, by simp [newline, isBlank], rfl⟩

mutual

lemma isValue_pretty (depth : Nat) (v : Json) (rest : List Char) :
    IsValue v.toValue (v.pretty depth ++ rest) rest := by
  match v with
  | .string s => exact isValue_quoted s rest
  | .number n => exact .number (isNumber_digits n)
  | .array [] => exact .emptyArray (.refl _)
  | .array (v :: vs) =>
    rw [pretty, List.append_assoc, List.append_assoc]
    exact .array (blanks_newline _ _) (isValue_pretty (depth + 1) v _)
      (isElements_pretty depth vs rest)
  | .object [] => exact .emptyObject (.refl _)
  | .object ((k, v) :: fs) =>
    simp only [pretty, List.append_assoc]
    exact .object (blanks_newline _ _) (isMember_quoted k ⟨[' '], by simp [isBlank], rfl⟩
      (isValue_pretty (depth + 1) v _)) (isMembers_pretty depth fs rest)

lemma isElements_pretty (depth : Nat) (vs : List Json) (rest : List Char) :
    IsElements (toValues vs) (prettyElements depth vs ++ rest) rest := by
  match vs with
  | [] =>
    rw [prettyElements, List.append_assoc]
    exact .close (blanks_newline depth _)
  | v :: vs =>
    rw [prettyElements, List.append_assoc, List.append_assoc]
    exact .next (.refl _) (blanks_newline _ _) (isValue_pretty (depth + 1) v _)
      (isElements_pretty depth vs rest)

lemma isMembers_pretty (depth : Nat) (fs : List (String × Json)) (rest : List Char) :
    IsMembers (toFields fs) (prettyFields depth fs ++ rest) rest := by
  match fs with
  | [] =>
    rw [prettyFields, List.append_assoc]
    exact .close (blanks_newline depth _)
  | (k, v) :: fs =>
    simp only [prettyFields, List.append_assoc]
    exact .next (.refl _) (blanks_newline _ _) (isMember_quoted k ⟨[' '], by simp [isBlank], rfl⟩
      (isValue_pretty (depth + 1) v _)) (isMembers_pretty depth fs rest)

end

lemma document_compact (v : Json) : Document v.toValue v.compact :=
  ⟨v.compact, [], .refl _, by simpa using isValue_compact v [], .refl _⟩

lemma document_pretty (depth : Nat) (v : Json) : Document v.toValue (v.pretty depth) :=
  ⟨v.pretty depth, [], .refl _, by simpa using isValue_pretty depth v [], .refl _⟩

end TaintGrep.Report.Json
