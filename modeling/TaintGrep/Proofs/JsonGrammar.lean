import Mathlib.Data.Rat.Defs
import Mathlib.Algebra.Order.Field.Rat

/-! The grammar of JSON. Each relation holds of what is denoted, a text that begins with a phrase
denoting it, and the rest of the text after the phrase. -/

namespace TaintGrep.JsonText

inductive Value where
  | null
  | bool (b : Bool)
  | number (q : Rat)
  | string (s : String)
  | array (elements : List Value)
  | object (fields : List (String × Value))

def isBlank (c : Char) : Bool := c = ' ' || c = '\t' || c = '\n' || c = '\r'

def Blanks (cs rest : List Char) : Prop := ∃ w, (∀ c ∈ w, isBlank c = true) ∧ cs = w ++ rest

lemma Blanks.refl (cs : List Char) : Blanks cs cs :=
  ⟨[], by simp, rfl⟩

def escapes : List (Char × Char) :=
  [('"', '"'), ('\\', '\\'), ('/', '/'), ('b', '\x08'), ('f', '\x0c'), ('n', '\n'), ('r', '\r'),
    ('t', '\t')]

def hexValue? (c : Char) : Option Nat :=
  if '0' ≤ c ∧ c ≤ '9' then some (c.toNat - '0'.toNat)
  else if 'a' ≤ c ∧ c ≤ 'f' then some (c.toNat - 'a'.toNat + 10)
  else if 'A' ≤ c ∧ c ≤ 'F' then some (c.toNat - 'A'.toNat + 10)
  else none

def codeUnit? (a b c d : Char) : Option Nat := do
  return (((← hexValue? a) * 16 + (← hexValue? b)) * 16 + (← hexValue? c)) * 16 + (← hexValue? d)

/-- One character of a string. A character beyond the first 65536 may be written as two code units. -/
inductive IsCharacter : Char → List Char → List Char → Prop
  | plain {x rest} (hx : 0x20 ≤ x.toNat) (hquote : x ≠ '"') (hback : x ≠ '\\') :
      IsCharacter x (x :: rest) rest
  | escape {x e rest} (h : (e, x) ∈ escapes) : IsCharacter x ('\\' :: e :: rest) rest
  | code {x a b c d rest} (h : codeUnit? a b c d = some x.toNat) :
      IsCharacter x ('\\' :: 'u' :: a :: b :: c :: d :: rest) rest
  | pair {x a b c d a' b' c' d' high low rest} (hh : codeUnit? a b c d = some high)
      (hl : codeUnit? a' b' c' d' = some low) (hhigh : 0xD800 ≤ high ∧ high < 0xDC00)
      (hlow : 0xDC00 ≤ low ∧ low < 0xE000)
      (hx : x.toNat = 0x10000 + (high - 0xD800) * 0x400 + (low - 0xDC00)) :
      IsCharacter x ('\\' :: 'u' :: a :: b :: c :: d ::
        '\\' :: 'u' :: a' :: b' :: c' :: d' :: rest) rest

inductive IsText : List Char → List Char → List Char → Prop
  | close {rest} : IsText [] ('"' :: rest) rest
  | next {x s cs mid rest} (hx : IsCharacter x cs mid) (hs : IsText s mid rest) :
      IsText (x :: s) cs rest

def IsDigits (ds : List Char) : Prop := ds ≠ [] ∧ ∀ c ∈ ds, c.isDigit = true

def decimal (ds : List Char) : Nat := Nat.ofDigitChars 10 ds 0

def IsWhole (ds : List Char) : Prop := IsDigits ds ∧ (ds.head? = some '0' → ds = ['0'])

inductive IsFraction : Rat → List Char → Prop
  | none : IsFraction 0 []
  | digits {ds} (h : IsDigits ds) : IsFraction (decimal ds / 10 ^ ds.length) ('.' :: ds)

inductive IsExponent : Int → List Char → Prop
  | none : IsExponent 0 []
  | plain {e ds} (he : e = 'e' ∨ e = 'E') (h : IsDigits ds) : IsExponent (decimal ds) (e :: ds)
  | plus {e ds} (he : e = 'e' ∨ e = 'E') (h : IsDigits ds) : IsExponent (decimal ds) (e :: '+' :: ds)
  | minus {e ds} (he : e = 'e' ∨ e = 'E') (h : IsDigits ds) :
      IsExponent (-decimal ds) (e :: '-' :: ds)

inductive IsNumber : Rat → List Char → Prop
  | plus {ds f fs x xs} (hd : IsWhole ds) (hf : IsFraction f fs) (hx : IsExponent x xs) :
      IsNumber ((decimal ds + f) * 10 ^ x) (ds ++ (fs ++ xs))
  | minus {ds f fs x xs} (hd : IsWhole ds) (hf : IsFraction f fs) (hx : IsExponent x xs) :
      IsNumber (-((decimal ds + f) * 10 ^ x)) ('-' :: (ds ++ (fs ++ xs)))

mutual

inductive IsValue : Value → List Char → List Char → Prop
  | null {rest} : IsValue .null ('n' :: 'u' :: 'l' :: 'l' :: rest) rest
  | boolTrue {rest} : IsValue (.bool true) ('t' :: 'r' :: 'u' :: 'e' :: rest) rest
  | boolFalse {rest} : IsValue (.bool false) ('f' :: 'a' :: 'l' :: 's' :: 'e' :: rest) rest
  | number {q cs rest} (h : IsNumber q cs) : IsValue (.number q) (cs ++ rest) rest
  | string {s cs rest} (h : IsText s cs rest) : IsValue (.string (String.ofList s)) ('"' :: cs) rest
  | emptyArray {cs rest} (h : Blanks cs (']' :: rest)) : IsValue (.array []) ('[' :: cs) rest
  | array {v vs cs cs₁ cs₂ rest} (hb : Blanks cs cs₁) (hv : IsValue v cs₁ cs₂)
      (hvs : IsElements vs cs₂ rest) : IsValue (.array (v :: vs)) ('[' :: cs) rest
  | emptyObject {cs rest} (h : Blanks cs ('}' :: rest)) : IsValue (.object []) ('{' :: cs) rest
  | object {f fs cs cs₁ cs₂ rest} (hb : Blanks cs cs₁) (hf : IsMember f cs₁ cs₂)
      (hfs : IsMembers fs cs₂ rest) : IsValue (.object (f :: fs)) ('{' :: cs) rest

/-- The elements of an array after the first, and its closing bracket. -/
inductive IsElements : List Value → List Char → List Char → Prop
  | close {cs rest} (h : Blanks cs (']' :: rest)) : IsElements [] cs rest
  | next {v vs cs cs₁ cs₂ cs₃ rest} (hc : Blanks cs (',' :: cs₁)) (hb : Blanks cs₁ cs₂)
      (hv : IsValue v cs₂ cs₃) (hvs : IsElements vs cs₃ rest) : IsElements (v :: vs) cs rest

inductive IsMember : String × Value → List Char → List Char → Prop
  | mk {k v cs cs₁ cs₂ cs₃ rest} (hk : IsText k cs cs₁) (hc : Blanks cs₁ (':' :: cs₂))
      (hb : Blanks cs₂ cs₃) (hv : IsValue v cs₃ rest) :
      IsMember (String.ofList k, v) ('"' :: cs) rest

/-- The fields of an object after the first, and its closing brace. -/
inductive IsMembers : List (String × Value) → List Char → List Char → Prop
  | close {cs rest} (h : Blanks cs ('}' :: rest)) : IsMembers [] cs rest
  | next {f fs cs cs₁ cs₂ cs₃ rest} (hc : Blanks cs (',' :: cs₁)) (hb : Blanks cs₁ cs₂)
      (hf : IsMember f cs₂ cs₃) (hfs : IsMembers fs cs₃ rest) : IsMembers (f :: fs) cs rest

end

def Document (v : Value) (cs : List Char) : Prop :=
  ∃ cs₁ rest, Blanks cs cs₁ ∧ IsValue v cs₁ rest ∧ Blanks rest []

end TaintGrep.JsonText
