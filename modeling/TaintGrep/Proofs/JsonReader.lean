import TaintGrep.Proofs.JsonGrammar
import TaintGrep.Text.Basic

/-! A reader of JSON texts, and that it reads whatever the grammar derives. So a text denotes one value
at most. -/

namespace TaintGrep.JsonText

open TaintGrep.Text

def skip (cs : List Char) : List Char := cs.dropWhile isBlank

def fourDigits? : List Char → Option (Nat × List Char)
  | a :: b :: c :: d :: cs => (codeUnit? a b c d).map (·, cs)
  | _ => none

def encoded? (cs : List Char) : Option (Char × List Char) := do
  let (high, cs) ← fourDigits? cs
  if 0xD800 ≤ high ∧ high < 0xDC00 then
    match cs with
    | '\\' :: 'u' :: cs =>
      let (low, cs) ← fourDigits? cs
      if 0xDC00 ≤ low ∧ low < 0xE000 then
        some (Char.ofNat (0x10000 + (high - 0xD800) * 0x400 + (low - 0xDC00)), cs)
      else none
    | _ => none
  else if 0xDC00 ≤ high ∧ high < 0xE000 then none
  else some (Char.ofNat high, cs)

def character? : List Char → Option (Char × List Char)
  | '\\' :: 'u' :: cs => encoded? cs
  | '\\' :: e :: cs => (escapes.lookup e).map (·, cs)
  | x :: cs => if 0x20 ≤ x.toNat ∧ x ≠ '"' ∧ x ≠ '\\' then some (x, cs) else none
  | [] => none

def text? : Nat → List Char → Option (List Char × List Char)
  | 0, _ => none
  | n + 1, cs =>
    if cs.head? = some '"' then some ([], cs.tail)
    else do
      let (x, cs) ← character? cs
      let (s, cs) ← text? n cs
      return (x :: s, cs)

def digits? (ds : List Char) : Option Nat :=
  if ds ≠ [] ∧ ds.all Char.isDigit then some (decimal ds) else none

def whole? (ds : List Char) : Option Nat :=
  if ds.head? = some '0' ∧ ds ≠ ['0'] then none else digits? ds

def fraction? : List Char → Option (Rat × List Char)
  | '.' :: cs =>
    (digits? (cs.takeWhile Char.isDigit)).map fun n : Nat =>
      ((n : Rat) / 10 ^ (cs.takeWhile Char.isDigit).length, cs.dropWhile Char.isDigit)
  | cs => some (0, cs)

def signed? : List Char → Option Int
  | '+' :: ds => (digits? ds).map fun n : Nat => (n : Int)
  | '-' :: ds => (digits? ds).map fun n : Nat => -(n : Int)
  | ds => (digits? ds).map fun n : Nat => (n : Int)

def exponent? : List Char → Option Int
  | [] => some 0
  | e :: cs => if e = 'e' ∨ e = 'E' then signed? cs else none

def unsigned? (cs : List Char) : Option Rat := do
  let n ← whole? (cs.takeWhile Char.isDigit)
  let (f, cs) ← fraction? (cs.dropWhile Char.isDigit)
  let x ← exponent? cs
  return (n + f) * 10 ^ x

def number? : List Char → Option Rat
  | '-' :: cs => (unsigned? cs).map (- ·)
  | cs => unsigned? cs

def isNumeric (c : Char) : Bool :=
  c.isDigit || c = '-' || c = '+' || c = '.' || c = 'e' || c = 'E'

mutual

/-- The value at the head of a text, and the rest. The count bounds the steps still to be made. -/
def value? : Nat → List Char → Option (Value × List Char)
  | 0, _ => none
  | n + 1, cs =>
    match cs with
    | 'n' :: 'u' :: 'l' :: 'l' :: cs => some (.null, cs)
    | 't' :: 'r' :: 'u' :: 'e' :: cs => some (.bool true, cs)
    | 'f' :: 'a' :: 'l' :: 's' :: 'e' :: cs => some (.bool false, cs)
    | '"' :: cs => (text? n cs).map fun (s, cs) => (.string (String.ofList s), cs)
    | '[' :: cs =>
      if (skip cs).head? = some ']' then some (.array [], (skip cs).tail)
      else do
        let (v, cs) ← value? n (skip cs)
        let (vs, cs) ← elements? n cs
        return (.array (v :: vs), cs)
    | '{' :: cs =>
      if (skip cs).head? = some '}' then some (.object [], (skip cs).tail)
      else do
        let (f, cs) ← field? n (skip cs)
        let (fs, cs) ← fields? n cs
        return (.object (f :: fs), cs)
    | cs => (number? (cs.takeWhile isNumeric)).map (.number ·, cs.dropWhile isNumeric)

def elements? : Nat → List Char → Option (List Value × List Char)
  | 0, _ => none
  | n + 1, cs =>
    match skip cs with
    | ']' :: cs => some ([], cs)
    | ',' :: cs => do
      let (v, cs) ← value? n (skip cs)
      let (vs, cs) ← elements? n cs
      return (v :: vs, cs)
    | _ => none

def field? : Nat → List Char → Option ((String × Value) × List Char)
  | 0, _ => none
  | n + 1, cs =>
    match cs with
    | '"' :: cs => do
      let (k, cs) ← text? n cs
      match skip cs with
      | ':' :: cs =>
        let (v, cs) ← value? n (skip cs)
        return ((String.ofList k, v), cs)
      | _ => none
    | _ => none

def fields? : Nat → List Char → Option (List (String × Value) × List Char)
  | 0, _ => none
  | n + 1, cs =>
    match skip cs with
    | '}' :: cs => some ([], cs)
    | ',' :: cs => do
      let (f, cs) ← field? n (skip cs)
      let (fs, cs) ← fields? n cs
      return (f :: fs, cs)
    | _ => none

end

def read? (cs : List Char) : Option Value :=
  match value? cs.length (skip cs) with
  | some (v, rest) => if skip rest = [] then some v else none
  | none => none

lemma not_surrogate (x : Char) : x.toNat < 0xD800 ∨ 0xE000 ≤ x.toNat := by
  have h := x.valid
  simp only [UInt32.isValidChar, Nat.isValidChar] at h
  rw [Char.toNat]
  omega

lemma encoded?_code {x a b c d : Char} (rest : List Char) (h : codeUnit? a b c d = some x.toNat) :
    encoded? (a :: b :: c :: d :: rest) = some (x, rest) := by
  have hx := not_surrogate x
  have hhigh : ¬ (0xD800 ≤ x.toNat ∧ x.toNat < 0xDC00) := by omega
  have hlow : ¬ (0xDC00 ≤ x.toNat ∧ x.toNat < 0xE000) := by omega
  simp only [encoded?, fourDigits?, h, Option.map_some, Option.bind_eq_bind, Option.bind_some,
    if_neg hhigh, if_neg hlow, Char.ofNat_toNat]

lemma character?_of_isCharacter {x : Char} {cs rest : List Char} (h : IsCharacter x cs rest) :
    character? cs = some (x, rest) := by
  cases h with
  | plain hx hquote hback =>
    unfold character?
    split
    · simp_all
    · simp_all
    · simp_all
    · simp_all
  | escape h =>
    simp only [escapes, List.mem_cons, Prod.mk.injEq, List.not_mem_nil, or_false] at h
    rcases h with ⟨rfl, rfl⟩ | ⟨rfl, rfl⟩ | ⟨rfl, rfl⟩ | ⟨rfl, rfl⟩ | ⟨rfl, rfl⟩ | ⟨rfl, rfl⟩ |
      ⟨rfl, rfl⟩ | ⟨rfl, rfl⟩ <;> rfl
  | code h => exact encoded?_code rest h
  | pair hh hl hhigh hlow hx =>
    simp [character?, encoded?, fourDigits?, hh, hl, hhigh, hlow, ← hx, Char.ofNat_toNat]

lemma IsCharacter.length_lt {x : Char} {cs rest : List Char} (h : IsCharacter x cs rest) :
    rest.length < cs.length := by
  cases h <;> simp only [List.length_cons] <;> omega

lemma IsCharacter.head?_ne {x : Char} {cs rest : List Char} (h : IsCharacter x cs rest) :
    cs.head? ≠ some '"' := by
  cases h with
  | plain hx hquote hback => simpa using hquote
  | _ => simp

def Reads {α : Type} (reader : Nat → List Char → Option (α × List Char)) (a : α)
    (cs rest : List Char) : Prop :=
  rest.length < cs.length ∧ ∀ n, cs.length ≤ n → reader n cs = some (a, rest)

lemma Reads.intro {α : Type} {reader : Nat → List Char → Option (α × List Char)} {a : α}
    {cs rest : List Char} (hlt : rest.length < cs.length)
    (h : ∀ n, cs.length ≤ n + 1 → reader (n + 1) cs = some (a, rest)) : Reads reader a cs rest := by
  refine ⟨hlt, fun n hn => ?_⟩
  cases n with
  | zero => omega
  | succ n => exact h n hn

lemma text?_of_isText {s cs rest : List Char} (h : IsText s cs rest) : Reads text? s cs rest := by
  induction h with
  | close => exact .intro (by simp) fun n _ => rfl
  | next hx hs ih =>
    have hlt := hx.length_lt
    refine .intro (ih.1.trans hlt) fun n hn => ?_
    rw [text?, if_neg hx.head?_ne, character?_of_isCharacter hx]
    simp [ih.2 n (by omega)]

section

variable {p : Char → Bool} {l r : List Char}

lemma takeWhile_append_of_head (hl : ∀ c ∈ l, p c = true) (hr : ∀ c ∈ r.head?, p c = false) :
    (l ++ r).takeWhile p = l := by
  cases r with
  | nil => rw [List.takeWhile_append_of_pos hl, List.takeWhile_nil, List.append_nil]
  | cons c r => exact takeWhile_append_cons r hl (hr c rfl)

lemma dropWhile_append_of_head (hl : ∀ c ∈ l, p c = true) (hr : ∀ c ∈ r.head?, p c = false) :
    (l ++ r).dropWhile p = r := by
  cases r with
  | nil => rw [List.dropWhile_append_of_pos hl, List.dropWhile_nil]
  | cons c r => exact dropWhile_append_cons r hl (hr c rfl)

end

lemma digits?_of_isDigits {ds : List Char} (h : IsDigits ds) : digits? ds = some (decimal ds) :=
  if_pos ⟨h.1, List.all_eq_true.mpr h.2⟩

lemma whole?_of_isWhole {ds : List Char} (h : IsWhole ds) : whole? ds = some (decimal ds) := by
  rw [whole?, if_neg fun hz => hz.2 (h.2 hz.1), digits?_of_isDigits h.1]

lemma IsDigits.exists_cons {ds : List Char} (h : IsDigits ds) :
    ∃ d ds', ds = d :: ds' ∧ d.isDigit = true := by
  obtain ⟨d, ds', rfl⟩ := List.exists_cons_of_ne_nil h.1
  exact ⟨d, ds', rfl, h.2 d List.mem_cons_self⟩

lemma signed?_of_isDigits {ds : List Char} (h : IsDigits ds) : signed? ds = some (decimal ds : Int) := by
  obtain ⟨d, ds', rfl, hd⟩ := h.exists_cons
  unfold signed?
  split
  · rename_i heq
    obtain ⟨rfl, -⟩ := List.cons.inj heq
    cases hd
  · rename_i heq
    obtain ⟨rfl, -⟩ := List.cons.inj heq
    cases hd
  · rw [digits?_of_isDigits h, Option.map_some]

lemma exponent?_of_isExponent {x : Int} {xs : List Char} (h : IsExponent x xs) :
    exponent? xs = some x := by
  cases h with
  | none => rfl
  | plain he h => rw [exponent?, if_pos he, signed?_of_isDigits h]
  | plus he h => rw [exponent?, if_pos he, signed?, digits?_of_isDigits h, Option.map_some]
  | minus he h => rw [exponent?, if_pos he, signed?, digits?_of_isDigits h, Option.map_some]

lemma IsExponent.head {x : Int} {xs : List Char} (h : IsExponent x xs) :
    ∀ c ∈ xs.head?, c = 'e' ∨ c = 'E' := by
  cases h with
  | none => simp
  | plain he _ | plus he _ | minus he _ => simpa using he

lemma fraction?_of_isFraction {f : Rat} {fs xs : List Char} {x : Int} (h : IsFraction f fs)
    (hx : IsExponent x xs) : fraction? (fs ++ xs) = some (f, xs) := by
  have hdigit : ∀ c ∈ xs.head?, c.isDigit = false := by
    intro c hc
    rcases hx.head c hc with rfl | rfl <;> rfl
  cases h with
  | none =>
    rw [List.nil_append]
    unfold fraction?
    split
    · rcases hx.head '.' rfl with hc | hc <;> cases hc
    · rfl
  | digits h =>
    rw [List.cons_append, fraction?, takeWhile_append_of_head h.2 hdigit,
      dropWhile_append_of_head h.2 hdigit, digits?_of_isDigits h, Option.map_some]

lemma unsigned?_of_parts {ds fs xs : List Char} {f : Rat} {x : Int} (hd : IsWhole ds)
    (hf : IsFraction f fs) (hx : IsExponent x xs) :
    unsigned? (ds ++ (fs ++ xs)) = some ((decimal ds + f) * 10 ^ x) := by
  have hhead : ∀ c ∈ (fs ++ xs).head?, c.isDigit = false := by
    intro c hc
    cases hf with
    | none => rcases hx.head c hc with rfl | rfl <;> rfl
    | digits h =>
      obtain rfl : '.' = c := by simpa using hc
      rfl
  rw [unsigned?, takeWhile_append_of_head hd.1.2 hhead, dropWhile_append_of_head hd.1.2 hhead,
    whole?_of_isWhole hd, fraction?_of_isFraction hf hx]
  simp [exponent?_of_isExponent hx]

lemma number?_of_isNumber {q : Rat} {cs : List Char} (h : IsNumber q cs) : number? cs = some q := by
  cases h with
  | plus hd hf hx =>
    obtain ⟨d, ds', rfl, hdigit⟩ := hd.1.exists_cons
    unfold number?
    split
    · rename_i heq
      obtain ⟨rfl, -⟩ := List.cons.inj heq
      cases hdigit
    · exact unsigned?_of_parts hd hf hx
  | minus hd hf hx => rw [number?, unsigned?_of_parts hd hf hx, Option.map_some]

lemma skip_of_blanks {cs rest : List Char} (h : Blanks cs rest)
    (hr : ∀ c ∈ rest.head?, isBlank c = false) : skip cs = rest := by
  obtain ⟨w, hw, rfl⟩ := h
  exact dropWhile_append_of_head hw hr

lemma Blanks.length_le {cs rest : List Char} (h : Blanks cs rest) : rest.length ≤ cs.length := by
  obtain ⟨w, -, rfl⟩ := h
  simp

def Ends (rest : List Char) : Prop := ∀ c ∈ rest.head?, isNumeric c = false

lemma Blanks.ends {cs rest : List Char} (h : Blanks cs rest) (hr : Ends rest) : Ends cs := by
  obtain ⟨w, hw, rfl⟩ := h
  cases w with
  | nil => exact hr
  | cons c w =>
    have hc := hw c List.mem_cons_self
    simp only [isBlank, Bool.or_eq_true, decide_eq_true_eq] at hc
    intro c' hc'
    obtain rfl : c = c' := by simpa using hc'
    rcases hc with ((rfl | rfl) | rfl) | rfl <;> rfl

lemma IsNumber.exists_cons {q : Rat} {cs : List Char} (h : IsNumber q cs) :
    ∃ c cs', cs = c :: cs' ∧ (c = '-' ∨ c.isDigit = true) := by
  cases h with
  | plus hd hf hx =>
    obtain ⟨d, ds', rfl, hdigit⟩ := hd.1.exists_cons
    exact ⟨d, _, rfl, Or.inr hdigit⟩
  | minus hd hf hx => exact ⟨'-', _, rfl, Or.inl rfl⟩

lemma isNumeric_of_isDigit {c : Char} (h : c.isDigit = true) : isNumeric c = true := by
  simp [isNumeric, h]

lemma IsFraction.isNumeric {f : Rat} {fs : List Char} (h : IsFraction f fs) :
    ∀ c ∈ fs, isNumeric c = true := by
  cases h with
  | none => simp
  | digits h => exact List.forall_mem_cons.mpr ⟨rfl, fun c hc => isNumeric_of_isDigit (h.2 c hc)⟩

lemma IsExponent.isNumeric {x : Int} {xs : List Char} (h : IsExponent x xs) :
    ∀ c ∈ xs, isNumeric c = true := by
  cases h with
  | none => simp
  | plain he h =>
    refine List.forall_mem_cons.mpr ⟨?_, fun c hc => isNumeric_of_isDigit (h.2 c hc)⟩
    rcases he with rfl | rfl <;> rfl
  | plus he h | minus he h =>
    refine List.forall_mem_cons.mpr ⟨?_, List.forall_mem_cons.mpr
      ⟨rfl, fun c hc => isNumeric_of_isDigit (h.2 c hc)⟩⟩
    rcases he with rfl | rfl <;> rfl

lemma IsNumber.isNumeric {q : Rat} {cs : List Char} (h : IsNumber q cs) :
    ∀ c ∈ cs, isNumeric c = true := by
  cases h with
  | plus hd hf hx =>
    simp only [List.forall_mem_append]
    exact ⟨fun c hc => isNumeric_of_isDigit (hd.1.2 c hc), hf.isNumeric, hx.isNumeric⟩
  | minus hd hf hx =>
    simp only [List.forall_mem_cons, List.forall_mem_append]
    exact ⟨rfl, fun c hc => isNumeric_of_isDigit (hd.1.2 c hc), hf.isNumeric, hx.isNumeric⟩

lemma value?_numeric {c : Char} (hc : c = '-' ∨ c.isDigit = true) (n : Nat) (cs : List Char) :
    value? (n + 1) (c :: cs) =
      (number? ((c :: cs).takeWhile isNumeric)).map (.number ·, (c :: cs).dropWhile isNumeric) := by
  rw [value?]
  all_goals
    intro cs' heq
    obtain ⟨rfl, -⟩ := List.cons.inj heq
    exact absurd hc (by decide)

lemma IsValue.exists_cons {v : Value} {cs rest : List Char} (h : IsValue v cs rest) :
    ∃ c cs', cs = c :: cs' ∧ isBlank c = false ∧ c ≠ ']' := by
  cases h with
  | number h =>
    obtain ⟨c, cs', rfl, hc⟩ := h.exists_cons
    refine ⟨c, _, rfl, Bool.eq_false_iff.mpr fun hb => ?_, ?_⟩
    · simp only [isBlank, Bool.or_eq_true, decide_eq_true_eq] at hb
      rcases hb with ((rfl | rfl) | rfl) | rfl <;> exact absurd hc (by decide)
    · rintro rfl
      exact absurd hc (by decide)
  | _ => exact ⟨_, _, rfl, rfl, by decide⟩

lemma IsValue.skip_eq {v : Value} {cs cs₁ rest : List Char} (h : IsValue v cs₁ rest)
    (hb : Blanks cs cs₁) : skip cs = cs₁ := by
  obtain ⟨c, cs', rfl, hc, -⟩ := h.exists_cons
  exact skip_of_blanks hb (by simpa using hc)

lemma IsMember.skip_eq {f : String × Value} {cs cs₁ rest : List Char} (h : IsMember f cs₁ rest)
    (hb : Blanks cs cs₁) : skip cs = cs₁ := by
  cases h
  exact skip_of_blanks hb (by simp [isBlank])

lemma IsElements.ends {vs : List Value} {cs rest : List Char} (h : IsElements vs cs rest) :
    Ends cs := by
  cases h with
  | close h => exact h.ends (by simp [Ends, isNumeric])
  | next hc hb hv hvs => exact hc.ends (by simp [Ends, isNumeric])

lemma IsMembers.ends {fs : List (String × Value)} {cs rest : List Char} (h : IsMembers fs cs rest) :
    Ends cs := by
  cases h with
  | close h => exact h.ends (by simp [Ends, isNumeric])
  | next hc hb hf hfs => exact hc.ends (by simp [Ends, isNumeric])

mutual

lemma value?_of_isValue {v : Value} {cs rest : List Char} (h : IsValue v cs rest)
    (hr : Ends rest) : Reads value? v cs rest := by
  cases h with
  | null | boolTrue | boolFalse =>
    exact .intro (by simp only [List.length_cons]; omega) fun n _ => rfl
  | @number q ds _ h =>
    obtain ⟨c, ds', rfl, hc⟩ := h.exists_cons
    refine .intro (by simp only [List.length_append, List.length_cons]; omega) fun n _ => ?_
    rw [List.cons_append, value?_numeric hc, ← List.cons_append,
      takeWhile_append_of_head h.isNumeric hr, dropWhile_append_of_head h.isNumeric hr,
      number?_of_isNumber h, Option.map_some]
  | string h =>
    obtain ⟨hlen, htext⟩ := text?_of_isText h
    refine .intro (hlen.trans (by simp)) fun n hn => ?_
    rw [value?, htext n (by simpa using hn), Option.map_some]
  | emptyArray h =>
    have hlen := h.length_le
    simp only [List.length_cons] at hlen
    refine .intro (by simp only [List.length_cons]; omega) fun n _ => ?_
    rw [value?, skip_of_blanks h (by simp [isBlank])]
    rfl
  | @array v vs cs cs₁ cs₂ _ hb hv hvs =>
    obtain ⟨hlen₁, hvalue⟩ := value?_of_isValue hv hvs.ends
    obtain ⟨hlen₂, helements⟩ := elements?_of_isElements hvs
    have hlen := hb.length_le
    have hhead : cs₁.head? ≠ some ']' := by
      obtain ⟨c, cs', rfl, -, hc⟩ := hv.exists_cons
      simpa using hc
    refine .intro (by simp only [List.length_cons]; omega) fun n hn => ?_
    simp only [List.length_cons] at hn
    rw [value?, hv.skip_eq hb, if_neg hhead, hvalue n (by omega)]
    simp [helements n (by omega)]
  | emptyObject h =>
    have hlen := h.length_le
    simp only [List.length_cons] at hlen
    refine .intro (by simp only [List.length_cons]; omega) fun n _ => ?_
    rw [value?, skip_of_blanks h (by simp [isBlank])]
    rfl
  | @object f fs cs cs₁ cs₂ _ hb hf hfs =>
    obtain ⟨hlen₁, hfield⟩ := field?_of_isMember hf hfs.ends
    obtain ⟨hlen₂, hfields⟩ := fields?_of_isMembers hfs
    have hlen := hb.length_le
    have hhead : cs₁.head? ≠ some '}' := by
      cases hf
      simp
    refine .intro (by simp only [List.length_cons]; omega) fun n hn => ?_
    simp only [List.length_cons] at hn
    rw [value?, hf.skip_eq hb, if_neg hhead, hfield n (by omega)]
    simp [hfields n (by omega)]

lemma elements?_of_isElements {vs : List Value} {cs rest : List Char} (h : IsElements vs cs rest) :
    Reads elements? vs cs rest := by
  cases h with
  | close h =>
    refine .intro h.length_le fun n _ => ?_
    rw [elements?, skip_of_blanks h (by simp [isBlank])]
    rfl
  | next hc hb hv hvs =>
    obtain ⟨hlen₁, hvalue⟩ := value?_of_isValue hv hvs.ends
    obtain ⟨hlen₂, helements⟩ := elements?_of_isElements hvs
    have hlen := hb.length_le
    have hlen' := hc.length_le
    simp only [List.length_cons] at hlen'
    refine .intro (by omega) fun n hn => ?_
    rw [elements?, skip_of_blanks hc (by simp [isBlank])]
    simp [hv.skip_eq hb, hvalue n (by omega), helements n (by omega)]

lemma field?_of_isMember {f : String × Value} {cs rest : List Char} (h : IsMember f cs rest)
    (hr : Ends rest) : Reads field? f cs rest := by
  cases h with
  | mk hk hc hb hv =>
    obtain ⟨hlen₁, htext⟩ := text?_of_isText hk
    obtain ⟨hlen₂, hvalue⟩ := value?_of_isValue hv hr
    have hlen := hb.length_le
    have hlen' := hc.length_le
    simp only [List.length_cons] at hlen'
    refine .intro (by simp only [List.length_cons]; omega) fun n hn => ?_
    simp only [List.length_cons] at hn
    rw [field?, htext n (by omega)]
    simp [skip_of_blanks hc (by simp [isBlank]), hv.skip_eq hb, hvalue n (by omega)]

lemma fields?_of_isMembers {fs : List (String × Value)} {cs rest : List Char}
    (h : IsMembers fs cs rest) : Reads fields? fs cs rest := by
  cases h with
  | close h =>
    refine .intro h.length_le fun n _ => ?_
    rw [fields?, skip_of_blanks h (by simp [isBlank])]
    rfl
  | next hc hb hf hfs =>
    obtain ⟨hlen₁, hfield⟩ := field?_of_isMember hf hfs.ends
    obtain ⟨hlen₂, hfields⟩ := fields?_of_isMembers hfs
    have hlen := hb.length_le
    have hlen' := hc.length_le
    simp only [List.length_cons] at hlen'
    refine .intro (by omega) fun n hn => ?_
    rw [fields?, skip_of_blanks hc (by simp [isBlank])]
    simp [hf.skip_eq hb, hfield n (by omega), hfields n (by omega)]

end

lemma read?_of_document {v : Value} {cs : List Char} (h : Document v cs) : read? cs = some v := by
  obtain ⟨cs₁, rest, hb, hv, hrest⟩ := h
  have hends : Ends rest := hrest.ends (by simp [Ends])
  have hskip : skip rest = [] := skip_of_blanks hrest (by simp)
  rw [read?, hv.skip_eq hb, (value?_of_isValue hv hends).2 _ hb.length_le]
  exact if_pos hskip

lemma Document.unique {v w : Value} {cs : List Char} (hv : Document v cs) (hw : Document w cs) :
    v = w :=
  Option.some_injective _ ((read?_of_document hv).symm.trans (read?_of_document hw))

end TaintGrep.JsonText
