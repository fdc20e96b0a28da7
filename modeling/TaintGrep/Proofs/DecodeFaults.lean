import Mathlib.Order.Bounds.Basic
import TaintGrep.Proofs.Decoding
import TaintGrep.Proofs.PageRecords

/-! Of bytes that are not those of a text, decoding tells how far they are, and whether more bytes could make
them so. A response with such a body leaves the knowledge base alone. -/

namespace TaintGrep

namespace Text.Utf8

def IsUtf8 (bs : List UInt8) : Prop := ∃ t, encode t = bs

lemma isUtf8_iff {bs : List UInt8} : IsUtf8 bs ↔ ∃ cs, decode bs = .ok cs := by
  constructor
  · rintro ⟨t, rfl⟩
    exact ⟨t.toList, decode_encode t⟩
  · rintro ⟨cs, h⟩
    exact ⟨String.ofList cs, (eq_encode_of_decode h).symm⟩

structure Pending.Holds (p : Pending) (read : List UInt8) : Prop where
  begins : p.Begins read
  length : read.length = p.read
  pos : 0 < p.read
  short : p.read + p.owed ≤ 3
  range : p.low.toNat ≤ p.high.toNat

lemma holds_of_lead {b : UInt8} {p : Pending} (h : lead b = .pending p) : p.Holds [b] := by
  have hbegins := begins_of_lead h
  obtain ⟨-, -, hcases⟩ := lead_eq_pending h
  rcases hcases with ⟨hb, hb', -⟩ | ⟨hb, hb', -⟩ | ⟨hb, hb', -⟩
  · rw [lead_two hb hb'] at h
    cases h
    exact ⟨hbegins, rfl, Nat.one_pos, by simp, by simp⟩
  · rw [lead_three hb hb'] at h
    cases h
    refine ⟨hbegins, rfl, Nat.one_pos, by simp, ?_⟩
    simp only [apply_ite UInt8.toNat, UInt8.reduceToNat]
    grind
  · rw [lead_four hb hb'] at h
    cases h
    refine ⟨hbegins, rfl, Nat.one_pos, by simp, ?_⟩
    simp only [apply_ite UInt8.toNat, UInt8.reduceToNat]
    grind

namespace Pending.Holds

variable {p q : Pending} {read : List UInt8} {b : UInt8}

lemma step (hp : p.Holds read) (h : p.step b = .pending q) : q.Holds (read ++ [b]) := by
  have hbegins := begins_of_step hp.begins h
  have hlength := hp.length
  have hshort := hp.short
  obtain ⟨-, -, hstep⟩ := step_cases (p := p) (b := b) (by simp [h])
  cases howed : p.owed with
  | zero => simp [h, howed] at hstep
  | succ owed =>
    simp only [h, howed, Step.pending.injEq] at hstep
    subst hstep
    exact ⟨hbegins, by simp [hlength], Nat.succ_pos _, by dsimp only; omega, by simp⟩

lemma exists_completion (h : p.Holds read) : ∃ more c, read ++ more = String.utf8EncodeChar c := by
  have hlow := h.begins.low
  have hhigh := h.begins.high
  have hrange := h.range
  -- the least code that goes on from the bits read
  have hpos : 0 < 64 ^ p.owed := Nat.pow_pos (by decide)
  have hbits : (p.value * 64 + (p.low.toNat - 0x80)) * 64 ^ p.owed / 64 ^ p.owed =
      p.value * 64 + (p.low.toNat - 0x80) := Nat.mul_div_cancel _ hpos
  obtain ⟨-, hbytes⟩ := h.begins.bytes ((p.value * 64 + (p.low.toNat - 0x80)) * 64 ^ p.owed)
    (by rw [Nat.pow_succ, ← Nat.div_div_eq_div_mul, hbits]; omega)
    (by rw [hbits]; omega) (by rw [hbits]; omega)
  exact ⟨_, _, hbytes.symm⟩

end Pending.Holds

def Fault.index : Fault → Nat
  | .invalid _ index => index
  | .incomplete index => index

/-- At these bytes the decoder, between two characters, comes to a fault. -/
inductive Stops : List UInt8 → Fault → Prop
  | lead {b bs index} (h : lead b = .broken) : Stops (b :: bs) (.invalid 1 index)
  | step {p : Pending} {read b bs index} (hread : p.Holds read) (h : p.step b = .broken) :
      Stops (read ++ b :: bs) (.invalid p.read index)
  | finish {p : Pending} {read index} (hread : p.Holds read) : Stops read (.incomplete index)

/-- After whole characters the decoder comes to a fault, whose index counts on from the one given. -/
def StopsAfter (index : Nat) (bs : List UInt8) (fault : Fault) : Prop :=
  ∃ cs rest, bs = encodeChars cs ++ rest ∧ fault.index = index + byteLength cs ∧ Stops rest fault

lemma StopsAfter.cons {index : Nat} {bs : List UInt8} {fault : Fault} {c : Char}
    (h : StopsAfter (index + c.utf8Size) bs fault) :
    StopsAfter index (String.utf8EncodeChar c ++ bs) fault := by
  obtain ⟨cs, rest, rfl, hindex, hstops⟩ := h
  refine ⟨c :: cs, rest, ?_, ?_, hstops⟩
  · rw [encodeChars_cons, List.append_assoc]
  · rw [hindex, byteLength_cons, Nat.add_assoc]

def Held : Option Pending → List UInt8 → Prop
  | none, read => read = []
  | some p, read => p.Holds read

lemma stopsAfter_of_decodeFrom {index : Nat} {done : List Char} {pending : Option Pending}
    {bs read : List UInt8} {fault : Fault} (hread : Held pending read)
    (h : decodeFrom index done pending bs = .error fault) : StopsAfter index (read ++ bs) fault := by
  fun_induction decodeFrom index done pending bs generalizing read with
  | case1 index done => cases h
  | case2 index done p =>
    cases h
    exact ⟨[], read, List.append_nil read, rfl, .finish hread⟩
  | case3 index done b bs c hlead ih =>
    obtain rfl : read = [] := hread
    have hbyte := encode_of_lead_char hlead
    have hsize : 1 = c.utf8Size := by rw [← String.length_utf8EncodeChar, hbyte, List.length_singleton]
    have hrest := ih rfl h
    rw [hsize, List.nil_append] at hrest
    simpa [hbyte] using hrest.cons
  | case4 index done b bs p hlead ih =>
    obtain rfl : read = [] := hread
    exact ih (holds_of_lead hlead) h
  | case5 index done b bs hlead =>
    obtain rfl : read = [] := hread
    cases h
    exact ⟨[], b :: bs, rfl, rfl, .lead hlead⟩
  | case6 index done p b bs c hstep ih =>
    have hbytes := encode_of_step_char hread.begins hstep
    have hsize : p.read + 1 = c.utf8Size := by
      rw [← String.length_utf8EncodeChar, hbytes, List.length_append, List.length_singleton, hread.length]
    have hrest := ih rfl h
    rw [Nat.add_assoc, hsize, List.nil_append] at hrest
    simpa [hbytes] using hrest.cons
  | case7 index done p b bs q hstep ih =>
    simpa using ih (hread.step hstep) h
  | case8 index done p b bs hstep =>
    cases h
    exact ⟨[], read ++ b :: bs, rfl, rfl, .step hread hstep⟩

lemma decodeFrom_append_of_invalid {index : Nat} {done : List Char} {pending : Option Pending}
    {bs : List UInt8} {length i : Nat} (h : decodeFrom index done pending bs = .error (.invalid length i))
    (more : List UInt8) :
    decodeFrom index done pending (bs ++ more) = .error (.invalid length i) := by
  fun_induction decodeFrom index done pending bs
  case case1 | case2 => cases h
  case case3 hread ih | case4 hread ih | case6 hread ih | case7 hread ih =>
    rw [List.cons_append, decodeFrom, hread]
    exact ih h
  case case5 hread | case8 hread =>
    rw [List.cons_append, decodeFrom, hread]
    exact h

structure Fault.Explains (fault : Fault) (bs : List UInt8) : Prop where
  not_isUtf8 : ¬ IsUtf8 bs
  longest : IsGreatest {n | ∃ good, good <+: bs ∧ IsUtf8 good ∧ good.length = n} fault.index
  incomplete_iff : (∃ index, fault = .incomplete index) ↔ ∃ more, IsUtf8 (bs ++ more)
  length_of_invalid : ∀ length index, fault = .invalid length index → 1 ≤ length ∧ length ≤ 3

lemma isUtf8_encodeChars (cs : List Char) : IsUtf8 (encodeChars cs) :=
  ⟨String.ofList cs, by rw [encode_eq, String.toList_ofList]⟩

section

variable {bs : List UInt8} {fault : Fault}

lemma stopsAfter_of_none {index : Nat} {done : List Char}
    (h : decodeFrom index done none bs = .error fault) : StopsAfter index bs fault := by
  have hnone : Held none [] := rfl
  exact stopsAfter_of_decodeFrom hnone h

lemma longest_of_decode (h : decode bs = .error fault) :
    IsGreatest {n | ∃ good, good <+: bs ∧ IsUtf8 good ∧ good.length = n} fault.index := by
  constructor
  · obtain ⟨cs, rest, rfl, hindex, -⟩ := stopsAfter_of_none h
    exact ⟨encodeChars cs, List.prefix_append _ _, isUtf8_encodeChars cs, by simp [hindex]⟩
  · rintro n ⟨good, ⟨rest, rfl⟩, ⟨t, rfl⟩, rfl⟩
    rw [decode, encode_eq, decodeFrom_encodeChars] at h
    obtain ⟨cs, -, -, hindex, -⟩ := stopsAfter_of_none h
    rw [encode_eq, length_encodeChars, hindex]
    omega

lemma isUtf8_completion {index : Nat} (h : decode bs = .error (.incomplete index)) :
    ∃ more, IsUtf8 (bs ++ more) := by
  obtain ⟨cs, rest, rfl, -, hstops⟩ := stopsAfter_of_none h
  cases hstops with
  | finish hread =>
    obtain ⟨more, c, hc⟩ := hread.exists_completion
    have htext := isUtf8_encodeChars (cs ++ [c])
    rw [encodeChars_append, encodeChars_cons, ← hc] at htext
    exact ⟨more, by simpa [encodeChars] using htext⟩

lemma not_isUtf8_append {length index : Nat} (h : decode bs = .error (.invalid length index))
    (more : List UInt8) : ¬ IsUtf8 (bs ++ more) := by
  rw [isUtf8_iff, decode, decodeFrom_append_of_invalid h more]
  rintro ⟨cs, hcs⟩
  cases hcs

lemma explains_of_decode (h : decode bs = .error fault) : fault.Explains bs where
  not_isUtf8 := by
    rw [isUtf8_iff, h]
    rintro ⟨cs, hcs⟩
    cases hcs
  longest := longest_of_decode h
  incomplete_iff := by
    cases fault with
    | incomplete index => exact ⟨fun _ => isUtf8_completion h, fun _ => ⟨index, rfl⟩⟩
    | invalid length index =>
      constructor
      · rintro ⟨i, hi⟩
        cases hi
      · rintro ⟨more, hmore⟩
        exact absurd hmore (not_isUtf8_append h more)
  length_of_invalid length index hfault := by
    subst hfault
    obtain ⟨cs, rest, -, -, hstops⟩ := stopsAfter_of_none h
    cases hstops with
    | lead => exact ⟨Nat.le_refl 1, by decide⟩
    | step hread =>
      have hshort := hread.short
      exact ⟨hread.pos, by omega⟩

end

end Text.Utf8

open Text

namespace Engine

theorem grep_decodes (d : Detector) (kb : KnowledgeBase) (r : Response) (h : r.isTextual = true) :
    (∃ t, Utf8.encode t = r.body ∧ (∀ t', Utf8.encode t' = r.body → t' = t) ∧ r.text = .ok t ∧
      ∀ c, (grep ⟨[Plugin.ofDetector d]⟩ kb r).get c = kb.get c ++
        if c = Detector.category then (d.findings t).map (Record.ofFinding r.url r.id) else []) ∨
    ∃ fault : Utf8.Fault, r.text = .error ⟨r.url, fault⟩ ∧ fault.Explains r.body ∧
      grep ⟨[Plugin.ofDetector d]⟩ kb r = kb := by
  cases hdecode : Utf8.decode r.body with
  | ok cs =>
    have htext : r.text = .ok (String.ofList cs) := by rw [Response.text, hdecode]
    have hbody := (Utf8.eq_encode_of_decode hdecode).symm
    refine Or.inl ⟨String.ofList cs, hbody, fun t' ht' => ?_, htext, fun c => ?_⟩
    · exact Utf8.encode_injective (ht'.trans hbody.symm)
    · have hget := get_grep (e := ⟨[Plugin.ofDetector d]⟩) (n := 0) rfl kb r c
      rw [Detector.records, if_pos h, htext] at hget
      simpa [eq_comm] using hget
  | error fault =>
    have htext : r.text = .error ⟨r.url, fault⟩ := by rw [Response.text, hdecode]
    refine Or.inr ⟨fault, htext, Utf8.explains_of_decode hdecode, ?_⟩
    have hnone : d.records r = [] := by rw [Detector.records, if_pos h, htext]
    simp [grep, Plugin.ofDetector, hnone, KnowledgeBase.appendAll]

theorem grep_decodes_truncated :
    let r : Response := ⟨"a", 1, some "text/html", [0xC3, 0xA9, 0xF0, 0x9F]⟩
    r.isTextual = true ∧ r.text = .error ⟨"a", .incomplete 2⟩ ∧ (∃ more, Utf8.IsUtf8 (r.body ++ more)) ∧
      ∀ d kb, grep ⟨[Plugin.ofDetector d]⟩ kb r = kb := by
  intro r
  have htextual : r.isTextual = true := by decide
  have herror : r.text = .error ⟨"a", .incomplete 2⟩ := by decide
  have hfault : ∀ d kb, Utf8.Fault.Explains (.incomplete 2) r.body ∧
      grep ⟨[Plugin.ofDetector d]⟩ kb r = kb := by
    intro d kb
    rcases grep_decodes d kb r htextual with ⟨t, -, -, hok, -⟩ | ⟨fault, hf, hexplains, hkb⟩
    · rw [herror] at hok
      cases hok
    · rw [herror] at hf
      cases hf
      exact ⟨hexplains, hkb⟩
  exact ⟨htextual, herror, (hfault {} .empty).1.incomplete_iff.mp ⟨2, rfl⟩, fun d kb => (hfault d kb).2⟩

end Engine

end TaintGrep
