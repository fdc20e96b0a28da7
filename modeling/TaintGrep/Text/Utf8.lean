/-!
UTF-8 decoding, one byte at a time. `decode` reads a whole text or says where and how the bytes stop
being UTF-8; `decodeLossy` puts the replacement character for each broken sequence.
-/

namespace TaintGrep.Text.Utf8

/-- A character that has begun: the bytes read, the value of their bits, the number of bytes still
owed after the next, and the range of the next. -/
structure Pending where
  read : Nat
  value : Nat
  owed : Nat
  low : UInt8 := 0x80
  high : UInt8 := 0xBF
  deriving DecidableEq, Repr

inductive Step where
  | char (c : Char)
  | pending (p : Pending)
  | broken
  deriving DecidableEq, Repr

/-- The first byte of a character. The ranges leave out overlong forms, surrogates and values above
the last code point. -/
def lead (b : UInt8) : Step :=
  if b < 0x80 then .char (Char.ofNat b.toNat)
  else if b < 0xC2 then .broken
  else if b < 0xE0 then .pending { read := 1, value := b.toNat - 0xC0, owed := 0 }
  else if b < 0xF0 then
    .pending
      { read := 1, value := b.toNat - 0xE0, owed := 1
        low := if b = 0xE0 then 0xA0 else 0x80, high := if b = 0xED then 0x9F else 0xBF }
  else if b < 0xF5 then
    .pending
      { read := 1, value := b.toNat - 0xF0, owed := 2
        low := if b = 0xF0 then 0x90 else 0x80, high := if b = 0xF4 then 0x8F else 0xBF }
  else .broken

def Pending.step (p : Pending) (b : UInt8) : Step :=
  if p.low ≤ b ∧ b ≤ p.high then
    let value := p.value * 64 + (b.toNat - 0x80)
    match p.owed with
    | 0 => .char (Char.ofNat value)
    | owed + 1 => .pending { read := p.read + 1, value, owed }
  else
    .broken

/-- How bytes stop being UTF-8: after `index` good bytes comes a sequence of `length` bytes that no
character begins with, or the bytes end inside a character. -/
inductive Fault where
  | invalid (length index : Nat)
  | incomplete (index : Nat)
  deriving DecidableEq, Repr

def Fault.message : Fault → String
  | .invalid length index =>
    "invalid utf-8 sequence of " ++ toString length ++ " bytes from index " ++ toString index
  | .incomplete index => "incomplete utf-8 byte sequence from index " ++ toString index

/-- Reads on after `index` bytes of whole characters, given in reverse. -/
def decodeFrom : Nat → List Char → Option Pending → List UInt8 → Except Fault (List Char)
  | _, done, none, [] => .ok done.reverse
  | index, _, some _, [] => .error (.incomplete index)
  | index, done, none, b :: bs =>
    match lead b with
    | .char c => decodeFrom (index + 1) (c :: done) none bs
    | .pending p => decodeFrom index done (some p) bs
    | .broken => .error (.invalid 1 index)
  | index, done, some p, b :: bs =>
    match p.step b with
    | .char c => decodeFrom (index + p.read + 1) (c :: done) none bs
    | .pending q => decodeFrom index done (some q) bs
    | .broken => .error (.invalid p.read index)

def decode (bytes : List UInt8) : Except Fault (List Char) :=
  decodeFrom 0 [] none bytes

def replacement : Char := Char.ofNat 0xFFFD

def lossyLead (done : List Char) (b : UInt8) : List Char × Option Pending :=
  match lead b with
  | .char c => (c :: done, none)
  | .pending p => (done, some p)
  | .broken => (replacement :: done, none)

/-- A byte that does not continue a character breaks it off and begins another. -/
def lossyStep (done : List Char) (pending : Option Pending) (b : UInt8) :
    List Char × Option Pending :=
  match pending with
  | none => lossyLead done b
  | some p =>
    match p.step b with
    | .char c => (c :: done, none)
    | .pending q => (done, some q)
    | .broken => lossyLead (replacement :: done) b

def decodeLossy (bytes : List UInt8) : List Char :=
  match bytes.foldl (fun (done, pending) b => lossyStep done pending b) ([], none) with
  | (done, none) => done.reverse
  | (done, some _) => (replacement :: done).reverse

def encode (s : String) : List UInt8 :=
  s.toUTF8.data.toList

end TaintGrep.Text.Utf8
