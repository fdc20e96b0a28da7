import TaintGrep.Proofs.Position
import TaintGrep.Text.Utf8

/-! The bytes of a text, character by character: as many as its byte length, with a line feed byte for
each newline and no other. -/

namespace TaintGrep.Text.Utf8

def encodeChars (cs : List Char) : List UInt8 := cs.flatMap String.utf8EncodeChar

lemma encode_eq (s : String) : encode s = encodeChars s.toList := by
  rw [encode, String.toUTF8_eq_toByteArray, ← String.utf8Encode_toList]
  exact List.toList_data_toByteArray

lemma encodeChars_cons (c : Char) (cs : List Char) :
    encodeChars (c :: cs) = String.utf8EncodeChar c ++ encodeChars cs := List.flatMap_cons

@[simp] lemma encodeChars_append (cs ds : List Char) :
    encodeChars (cs ++ ds) = encodeChars cs ++ encodeChars ds := List.flatMap_append

@[simp] lemma length_encodeChars (cs : List Char) : (encodeChars cs).length = byteLength cs := by
  induction cs with
  | nil => rfl
  | cons c cs ih =>
    rw [encodeChars, List.flatMap_cons, List.length_append, String.length_utf8EncodeChar]
    exact congrArg (c.utf8Size + ·) ih

lemma eq_ofNat_iff {b : UInt8} {n : Nat} : b = UInt8.ofNat n ↔ n % 256 = b.toNat := by
  rw [← UInt8.toNat_inj, eq_comm]
  simp

lemma ascii_notMem {c : Char} {b : UInt8} (hb : b.toNat < 128) (h : c.val.toNat ≠ b.toNat) :
    b ∉ String.utf8EncodeChar c := by
  fun_cases String.utf8EncodeChar c with
  | case1 v h₁ =>
    simp only [List.mem_singleton, eq_ofNat_iff]
    omega
  | case2 v h₁ h₂ =>
    simp only [List.mem_cons, List.not_mem_nil, or_false, eq_ofNat_iff]
    omega
  | case3 v h₁ h₂ h₃ =>
    simp only [List.mem_cons, List.not_mem_nil, or_false, eq_ofNat_iff]
    omega
  | case4 v h₁ h₂ h₃ =>
    simp only [List.mem_cons, List.not_mem_nil, or_false, eq_ofNat_iff]
    omega

lemma count_encodeChars (cs : List Char) : (encodeChars cs).count 10 = newlines cs := by
  induction cs with
  | nil => rfl
  | cons c cs ih =>
    rw [encodeChars, List.flatMap_cons, List.count_append, newlines_cons]
    by_cases hc : c = '\n'
    · subst hc
      exact congrArg (1 + ·) ih
    · have hv : c.val.toNat ≠ 10 := fun hv => hc (Char.ext (UInt32.toNat_inj.mp hv))
      rw [List.count_eq_zero.mpr (ascii_notMem (by decide) hv), if_neg hc]
      exact congrArg (0 + ·) ih

lemma take_encode {s : String} {passed rest : List Char} (h : s.toList = passed ++ rest) :
    (encode s).take (byteLength passed) = encodeChars passed := by
  rw [encode_eq, h, encodeChars_append, ← length_encodeChars, List.take_left]

end TaintGrep.Text.Utf8
