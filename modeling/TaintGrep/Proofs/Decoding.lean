import Mathlib.Algebra.Group.Nat.Defs
import TaintGrep.Proofs.Encoding

/-! Bytes can be decoded exactly if they are the bytes of a text, which is then the decoded one. A character
that has begun is known by what its bytes will be: those read, and then six bits of its code in each byte
still owed. -/

namespace TaintGrep.Text.Utf8

def tailBytes : Nat → Nat → List UInt8
  | 0, _ => []
  | k + 1, v => UInt8.ofNat (v / 64 ^ k % 64 + 0x80) :: tailBytes k v

/-- Every code that continues the bits read, with the next six in the range, is that of a character
whose bytes begin with those read. -/
structure Pending.Begins (p : Pending) (read : List UInt8) : Prop where
  low : 0x80 ≤ p.low.toNat
  high : p.high.toNat ≤ 0xBF
  bytes : ∀ v, v / 64 ^ (p.owed + 1) = p.value → p.low.toNat ≤ v / 64 ^ p.owed % 64 + 0x80 →
    v / 64 ^ p.owed % 64 + 0x80 ≤ p.high.toNat →
      v.isValidChar ∧ String.utf8EncodeChar (Char.ofNat v) = read ++ tailBytes (p.owed + 1) v

lemma toNat_ofNat {v : Nat} (h : v.isValidChar) : (Char.ofNat v).val.toNat = v := by
  rw [Char.ofNat, dif_pos h]
  rfl

lemma ofNat_eq_of_toNat {n : Nat} {b : UInt8} (h : n = b.toNat) : UInt8.ofNat n = b := by
  rw [h, UInt8.ofNat_toNat]

lemma encode_of_lead_char {b : UInt8} {c : Char} (h : lead b = .char c) :
    String.utf8EncodeChar c = [b] := by
  rw [lead] at h
  split at h
  · rename_i hb
    cases h
    have hlt : b.toNat < 128 := hb
    have hv : (Char.ofNat b.toNat).val.toNat = b.toNat := toNat_ofNat (Or.inl (by omega))
    rw [String.utf8EncodeChar, hv, if_pos (by omega), UInt8.ofNat_toNat]
  · repeat' split at h
    all_goals cases h

lemma lead_eq_pending {b : UInt8} {p : Pending} (h : lead b = .pending p) :
    0x80 ≤ p.low.toNat ∧ p.high.toNat ≤ 0xBF ∧
    ((0xC2 ≤ b.toNat ∧ b.toNat < 0xE0 ∧ p.value = b.toNat - 0xC0 ∧ p.owed = 0) ∨
    (0xE0 ≤ b.toNat ∧ b.toNat < 0xF0 ∧ p.value = b.toNat - 0xE0 ∧ p.owed = 1 ∧
      (b.toNat = 0xE0 → 0xA0 ≤ p.low.toNat) ∧ (b.toNat = 0xED → p.high.toNat ≤ 0x9F)) ∨
    (0xF0 ≤ b.toNat ∧ b.toNat < 0xF5 ∧ p.value = b.toNat - 0xF0 ∧ p.owed = 2 ∧
      (b.toNat = 0xF0 → 0x90 ≤ p.low.toNat) ∧ (b.toNat = 0xF4 → p.high.toNat ≤ 0x8F))) := by
  simp only [lead, UInt8.lt_iff_toNat_lt, ← UInt8.toNat_inj, UInt8.reduceToNat] at h
  split at h
  · cases h
  split at h
  · cases h
  split at h
  · cases h
    exact ⟨Nat.le_refl _, Nat.le_refl _, Or.inl ⟨by omega, by omega, rfl, rfl⟩⟩
  split at h
  · cases h
    refine ⟨?_, ?_, Or.inr (Or.inl ⟨by omega, by omega, rfl, rfl, ?_, ?_⟩)⟩ <;>
      simp only [apply_ite UInt8.toNat, UInt8.reduceToNat] <;> split <;> omega
  split at h
  · cases h
    refine ⟨?_, ?_, Or.inr (Or.inr ⟨by omega, by omega, rfl, rfl, ?_, ?_⟩)⟩ <;>
      simp only [apply_ite UInt8.toNat, UInt8.reduceToNat] <;> split <;> omega
  · cases h

lemma begins_of_lead {b : UInt8} {p : Pending} (h : lead b = .pending p) : p.Begins [b] := by
  obtain ⟨hlow, hhigh, hcases⟩ := lead_eq_pending h
  refine ⟨hlow, hhigh, fun v hv hge hle => ?_⟩
  rcases hcases with ⟨hb, hb', hvalue, howed⟩ | ⟨hb, hb', hvalue, howed, hmin, hmax⟩ |
    ⟨hb, hb', hvalue, howed, hmin, hmax⟩
  · simp only [hvalue, howed, Nat.zero_add, Nat.pow_one] at hv
    have hvalid : v.isValidChar := Or.inl (by omega)
    refine ⟨hvalid, ?_⟩
    rw [String.utf8EncodeChar, toNat_ofNat hvalid, if_neg (by omega), if_pos (by omega),
      ofNat_eq_of_toNat (b := b) (by omega), howed]
    simp [tailBytes]
  · simp only [hvalue, howed, Nat.reduceAdd, Nat.reducePow] at hv hge hle
    have hvalid : v.isValidChar := by
      unfold Nat.isValidChar
      omega
    refine ⟨hvalid, ?_⟩
    rw [String.utf8EncodeChar, toNat_ofNat hvalid, if_neg (by omega), if_neg (by omega),
      if_pos (by omega), ofNat_eq_of_toNat (b := b) (by omega), howed]
    simp [tailBytes]
  · simp only [hvalue, howed, Nat.reduceAdd, Nat.reducePow] at hv hge hle
    have hvalid : v.isValidChar := by
      unfold Nat.isValidChar
      omega
    refine ⟨hvalid, ?_⟩
    rw [String.utf8EncodeChar, toNat_ofNat hvalid, if_neg (by omega), if_neg (by omega),
      if_neg (by omega), ofNat_eq_of_toNat (b := b) (by omega), howed]
    simp [tailBytes]

variable {p q : Pending} {read : List UInt8} {b : UInt8} {c : Char}

lemma step_cases (h : p.step b ≠ .broken) : p.low.toNat ≤ b.toNat ∧ b.toNat ≤ p.high.toNat ∧
    p.step b = match p.owed with
      | 0 => .char (Char.ofNat (p.value * 64 + (b.toNat - 0x80)))
      | owed + 1 => .pending
        { read := p.read + 1, value := p.value * 64 + (b.toNat - 0x80), owed } := by
  rw [Pending.step] at h ⊢
  split at h
  · rename_i hb
    rw [if_pos hb]
    exact ⟨UInt8.le_iff_toNat_le.mp hb.1, UInt8.le_iff_toNat_le.mp hb.2, rfl⟩
  · exact absurd rfl h

lemma encode_of_step_char (hp : p.Begins read) (h : p.step b = .char c) :
    String.utf8EncodeChar c = read ++ [b] := by
  obtain ⟨hge, hle, hstep⟩ := step_cases (p := p) (b := b) (by simp [h])
  have hlow := hp.low
  have hhigh := hp.high
  cases howed : p.owed with
  | zero =>
    simp only [h, howed, Step.char.injEq] at hstep
    have hbytes := hp.bytes (p.value * 64 + (b.toNat - 0x80))
    simp only [howed, Nat.zero_add, Nat.pow_one, Nat.pow_zero, Nat.div_one] at hbytes
    obtain ⟨-, hencode⟩ := hbytes (by omega) (by omega) (by omega)
    rw [hstep, hencode, tailBytes, tailBytes, ofNat_eq_of_toNat (b := b) (by omega)]
  | succ owed => simp [h, howed] at hstep

lemma begins_of_step (hp : p.Begins read) (h : p.step b = .pending q) : q.Begins (read ++ [b]) := by
  obtain ⟨hge, hle, hstep⟩ := step_cases (p := p) (b := b) (by simp [h])
  have hlow := hp.low
  have hhigh := hp.high
  cases howed : p.owed with
  | zero => simp [h, howed] at hstep
  | succ owed =>
    simp only [h, howed, Step.pending.injEq] at hstep
    subst hstep
    refine ⟨Nat.le_refl _, Nat.le_refl _, fun v hv _ _ => ?_⟩
    dsimp only at hv
    have hquotient : v / 64 ^ (owed + 1 + 1) = v / 64 ^ (owed + 1) / 64 := by
      rw [Nat.div_div_eq_div_mul, Nat.pow_succ]
    have hbytes := hp.bytes v
    simp only [howed, hquotient, hv] at hbytes
    obtain ⟨hvalid, hencode⟩ := hbytes (by omega) (by omega) (by omega)
    refine ⟨hvalid, ?_⟩
    rw [hencode, tailBytes, hv, ofNat_eq_of_toNat (b := b) (by omega), List.append_assoc]
    rfl

def Begun : Option Pending → List UInt8 → Prop
  | none, read => read = []
  | some p, read => p.Begins read

lemma decodeFrom_eq_ok {index : Nat} {done cs : List Char} {pending : Option Pending}
    {bs read : List UInt8} (hread : Begun pending read)
    (h : decodeFrom index done pending bs = .ok cs) :
    ∃ ds, cs = done.reverse ++ ds ∧ read ++ bs = encodeChars ds := by
  fun_induction decodeFrom index done pending bs generalizing read with
  | case1 index done =>
    obtain rfl : read = [] := hread
    exact ⟨[], by simpa using (Except.ok.inj h).symm, rfl⟩
  | case2 index done p => cases h
  | case3 index done b bs c hlead ih =>
    obtain rfl : read = [] := hread
    obtain ⟨ds, hcs, hbs⟩ := ih rfl h
    refine ⟨c :: ds, by simpa using hcs, ?_⟩
    rw [List.nil_append] at hbs
    rw [hbs, encodeChars, encodeChars, List.flatMap_cons, encode_of_lead_char hlead]
    rfl
  | case4 index done b bs p hlead ih =>
    obtain rfl : read = [] := hread
    exact ih (begins_of_lead hlead) h
  | case5 index done b bs hlead => cases h
  | case6 index done p b bs c hstep ih =>
    obtain ⟨ds, hcs, hbs⟩ := ih rfl h
    refine ⟨c :: ds, by simpa using hcs, ?_⟩
    rw [List.nil_append] at hbs
    rw [hbs, encodeChars, encodeChars, List.flatMap_cons, encode_of_step_char hread hstep]
    simp
  | case7 index done p b bs q hstep ih =>
    obtain ⟨ds, hcs, hbs⟩ := ih (begins_of_step hread hstep) h
    exact ⟨ds, hcs, by simpa using hbs⟩
  | case8 index done p b bs hstep => cases h

lemma eq_encode_of_decode {bs : List UInt8} {cs : List Char} (h : decode bs = .ok cs) :
    bs = encode (String.ofList cs) := by
  have hnone : Begun none [] := rfl
  obtain ⟨ds, rfl, hbs⟩ := decodeFrom_eq_ok hnone h
  simpa [encode_eq] using hbs

/-- A code goes on from the bits read, with its next six in the range. -/
structure Pending.Admits (p : Pending) (v : Nat) : Prop where
  value : v / 64 ^ (p.owed + 1) = p.value
  low : p.low.toNat ≤ v / 64 ^ p.owed % 64 + 0x80
  high : v / 64 ^ p.owed % 64 + 0x80 ≤ p.high.toNat

@[simp] lemma length_tailBytes (k v : Nat) : (tailBytes k v).length = k := by
  induction k with
  | zero => rfl
  | succ k ih => rw [tailBytes, List.length_cons, ih]

lemma toNat_tailByte (n : Nat) : (UInt8.ofNat (n % 64 + 0x80)).toNat = n % 64 + 0x80 := by
  rw [UInt8.toNat_ofNat']
  omega

section

variable {p : Pending} {v owed : Nat}

namespace Pending.Admits

lemma bits (h : p.Admits v) : p.value * 64 + v / 64 ^ p.owed % 64 = v / 64 ^ p.owed := by
  rw [← h.value, Nat.pow_succ, ← Nat.div_div_eq_div_mul]
  omega

lemma in_range (h : p.Admits v) : p.low ≤ UInt8.ofNat (v / 64 ^ p.owed % 64 + 0x80) ∧
    UInt8.ofNat (v / 64 ^ p.owed % 64 + 0x80) ≤ p.high := by
  rw [UInt8.le_iff_toNat_le, UInt8.le_iff_toNat_le, toNat_tailByte]
  exact ⟨h.low, h.high⟩

lemma step_char (h : p.Admits v) (howed : p.owed = 0) :
    p.step (UInt8.ofNat (v / 64 ^ 0 % 64 + 0x80)) = .char (Char.ofNat v) := by
  have hbits := h.bits
  have hrange := h.in_range
  simp only [howed, Nat.pow_zero, Nat.div_one] at hbits hrange ⊢
  simp only [Pending.step, if_pos hrange, toNat_tailByte, Nat.add_sub_cancel, hbits, howed]

lemma step_pending (h : p.Admits v) (howed : p.owed = owed + 1) :
    p.step (UInt8.ofNat (v / 64 ^ (owed + 1) % 64 + 0x80)) =
      .pending { read := p.read + 1, value := v / 64 ^ (owed + 1), owed } := by
  have hbits := h.bits
  have hrange := h.in_range
  rw [howed] at hbits hrange
  simp only [Pending.step, if_pos hrange, toNat_tailByte, Nat.add_sub_cancel, hbits, howed]

lemma next (v read owed : Nat) : Admits { read, value := v / 64 ^ (owed + 1), owed } v :=
  ⟨rfl, by simp, by simp; omega⟩

end Pending.Admits

lemma decodeFrom_tailBytes (h : p.Admits v) (index : Nat) (done : List Char) (bs : List UInt8) :
    decodeFrom index done (some p) (tailBytes (p.owed + 1) v ++ bs) =
      decodeFrom (index + p.read + p.owed + 1) (Char.ofNat v :: done) none bs := by
  induction howed : p.owed generalizing p with
  | zero =>
    rw [tailBytes, List.cons_append, decodeFrom, h.step_char howed]
    rfl
  | succ owed ih =>
    have hrest := ih (Pending.Admits.next v (p.read + 1) owed) rfl
    rw [tailBytes, List.cons_append, decodeFrom, h.step_pending howed]
    refine hrest.trans (congrArg (decodeFrom · _ _ _) ?_)
    dsimp only
    omega

end

lemma lead_two {b : UInt8} (h : 0xC2 ≤ b.toNat) (h' : b.toNat < 0xE0) :
    lead b = .pending { read := 1, value := b.toNat - 0xC0, owed := 0 } := by
  simp only [lead, UInt8.lt_iff_toNat_lt, UInt8.reduceToNat]
  rw [if_neg (by omega), if_neg (by omega), if_pos h']

lemma lead_three {b : UInt8} (h : 0xE0 ≤ b.toNat) (h' : b.toNat < 0xF0) :
    lead b = .pending
      { read := 1, value := b.toNat - 0xE0, owed := 1
        low := if b = 0xE0 then 0xA0 else 0x80, high := if b = 0xED then 0x9F else 0xBF } := by
  simp only [lead, UInt8.lt_iff_toNat_lt, UInt8.reduceToNat]
  rw [if_neg (by omega), if_neg (by omega), if_neg (by omega), if_pos h']

lemma lead_four {b : UInt8} (h : 0xF0 ≤ b.toNat) (h' : b.toNat < 0xF5) :
    lead b = .pending
      { read := 1, value := b.toNat - 0xF0, owed := 2
        low := if b = 0xF0 then 0x90 else 0x80, high := if b = 0xF4 then 0x8F else 0xBF } := by
  simp only [lead, UInt8.lt_iff_toNat_lt, UInt8.reduceToNat]
  rw [if_neg (by omega), if_neg (by omega), if_neg (by omega), if_neg (by omega), if_pos h']

lemma exists_lead {c : Char} (h : 0x7F < c.val.toNat) : ∃ b p, lead b = .pending p ∧ p.read = 1 ∧
    p.Admits c.val.toNat ∧ String.utf8EncodeChar c = b :: tailBytes (p.owed + 1) c.val.toNat := by
  have hvalid : c.val.toNat < 0xD800 ∨ 0xDFFF < c.val.toNat ∧ c.val.toNat < 0x110000 := c.valid
  have hbyte : ∀ {n}, n < 256 → (UInt8.ofNat n).toNat = n := fun hn => by
    rw [UInt8.toNat_ofNat', Nat.mod_eq_of_lt hn]
  -- the shorter forms do not hold the code, and surrogates are no characters: hence the ranges
  fun_cases String.utf8EncodeChar c with
  | case1 v h₁ => omega
  | case2 v h₁ h₂ =>
    have hb : (UInt8.ofNat (v / 64 % 32 + 0xC0)).toNat = v / 64 % 32 + 0xC0 := hbyte (by omega)
    refine ⟨UInt8.ofNat (v / 64 % 32 + 0xC0), _, lead_two (by omega) (by omega), rfl,
      ⟨?_, ?_, ?_⟩, ?_⟩
    · simp only [hb, Nat.reduceAdd, Nat.pow_one]
      omega
    · simp
    · simp
      omega
    · simp only [tailBytes, Nat.reducePow, Nat.div_one]
      rfl
  | case3 v h₁ h₂ h₃ =>
    have hb : (UInt8.ofNat (v / 4096 % 16 + 0xE0)).toNat = v / 4096 % 16 + 0xE0 := hbyte (by omega)
    refine ⟨UInt8.ofNat (v / 4096 % 16 + 0xE0), _, lead_three (by omega) (by omega), rfl,
      ⟨?_, ?_, ?_⟩, ?_⟩
    · simp only [hb, Nat.reduceAdd, Nat.reducePow]
      omega
    · simp only [apply_ite UInt8.toNat, ← UInt8.toNat_inj, hb, UInt8.reduceToNat, Nat.reducePow]
      split <;> omega
    · simp only [apply_ite UInt8.toNat, ← UInt8.toNat_inj, hb, UInt8.reduceToNat, Nat.reducePow]
      split <;> omega
    · simp only [tailBytes, Nat.reducePow, Nat.div_one]
      rfl
  | case4 v h₁ h₂ h₃ =>
    have hb : (UInt8.ofNat (v / 262144 % 8 + 0xF0)).toNat = v / 262144 % 8 + 0xF0 := hbyte (by omega)
    refine ⟨UInt8.ofNat (v / 262144 % 8 + 0xF0), _, lead_four (by omega) (by omega), rfl,
      ⟨?_, ?_, ?_⟩, ?_⟩
    · simp only [hb, Nat.reduceAdd, Nat.reducePow]
      omega
    · simp only [apply_ite UInt8.toNat, ← UInt8.toNat_inj, hb, UInt8.reduceToNat, Nat.reducePow]
      split <;> omega
    · simp only [apply_ite UInt8.toNat, ← UInt8.toNat_inj, hb, UInt8.reduceToNat, Nat.reducePow]
      split <;> omega
    · simp only [tailBytes, Nat.reducePow, Nat.div_one]
      rfl

lemma decodeFrom_char (c : Char) (index : Nat) (done : List Char) (bs : List UInt8) :
    decodeFrom index done none (String.utf8EncodeChar c ++ bs) =
      decodeFrom (index + c.utf8Size) (c :: done) none bs := by
  have hsize := String.length_utf8EncodeChar c
  have hchar : Char.ofNat c.val.toNat = c := Char.ofNat_toNat c
  by_cases h : 0x7F < c.val.toNat
  · obtain ⟨b, p, hlead, hread, hadmits, hbytes⟩ := exists_lead h
    rw [hbytes, List.length_cons, length_tailBytes] at hsize
    rw [hbytes, List.cons_append, decodeFrom, hlead]
    dsimp only
    rw [decodeFrom_tailBytes hadmits, hread, hchar, ← hsize]
    congr 1
    omega
  · have hbytes : String.utf8EncodeChar c = [UInt8.ofNat c.val.toNat] := by
      rw [String.utf8EncodeChar, if_pos (by omega)]
    have hbyte : (UInt8.ofNat c.val.toNat).toNat = c.val.toNat := by
      rw [UInt8.toNat_ofNat']
      omega
    have hascii : UInt8.ofNat c.val.toNat < 0x80 := by
      rw [UInt8.lt_iff_toNat_lt, hbyte, show (0x80 : UInt8).toNat = 0x80 from rfl]
      omega
    have hlead : lead (UInt8.ofNat c.val.toNat) = .char c := by rw [lead, if_pos hascii, hbyte, hchar]
    rw [hbytes, List.length_singleton] at hsize
    rw [hbytes, List.singleton_append, decodeFrom, hlead, ← hsize]

lemma decodeFrom_encodeChars (cs : List Char) (index : Nat) (done : List Char) (bs : List UInt8) :
    decodeFrom index done none (encodeChars cs ++ bs) =
      decodeFrom (index + byteLength cs) (cs.reverse ++ done) none bs := by
  induction cs generalizing index done with
  | nil => rfl
  | cons c cs ih =>
    rw [encodeChars_cons, List.append_assoc, decodeFrom_char, ih, byteLength_cons,
      Nat.add_assoc, List.reverse_cons, List.append_assoc]
    rfl

lemma decode_encode (t : String) : decode (encode t) = .ok t.toList := by
  have h := decodeFrom_encodeChars t.toList 0 [] []
  rw [List.append_nil, List.append_nil, ← encode_eq] at h
  rw [decode, h, decodeFrom, List.reverse_reverse]

lemma encode_injective : Function.Injective encode := by
  intro t t' h
  have hdecode := decode_encode t
  rw [h, decode_encode t'] at hdecode
  exact (String.toList_inj.mp (Except.ok.inj hdecode)).symm

lemma foldl_lossyStep_of_decodeFrom {index : Nat} {done cs : List Char} {pending : Option Pending}
    {bs : List UInt8} (h : decodeFrom index done pending bs = .ok cs) :
    bs.foldl (fun (done, pending) b => lossyStep done pending b) (done, pending) = (cs.reverse, none) := by
  fun_induction decodeFrom index done pending bs with
  | case1 index done =>
    cases h
    simp
  | case2 => cases h
  | case3 index done b bs c hlead ih => simpa [lossyStep, lossyLead, hlead] using ih h
  | case4 index done b bs p hlead ih => simpa [lossyStep, lossyLead, hlead] using ih h
  | case5 => cases h
  | case6 index done p b bs c hstep ih => simpa [lossyStep, hstep] using ih h
  | case7 index done p b bs q hstep ih => simpa [lossyStep, hstep] using ih h
  | case8 => cases h

lemma decodeLossy_encode (t : String) : decodeLossy (encode t) = t.toList := by
  rw [decodeLossy, foldl_lossyStep_of_decodeFrom (decode_encode t)]
  exact List.reverse_reverse _

end TaintGrep.Text.Utf8
