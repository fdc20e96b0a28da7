/-!
Places in a text: the byte offset in UTF-8 and the line, counted from one. Moving a place over
characters adds up their sizes and their newlines, so a place depends only on the characters passed.
-/

namespace TaintGrep.Text

def byteLength : List Char → Nat
  | [] => 0
  | c :: cs => c.utf8Size + byteLength cs

def newlines (cs : List Char) : Nat :=
  cs.count '\n'

@[simp] theorem byteLength_nil : byteLength [] = 0 := rfl

@[simp] theorem byteLength_cons (c : Char) (cs : List Char) :
    byteLength (c :: cs) = c.utf8Size + byteLength cs := rfl

@[simp] theorem byteLength_append (cs ds : List Char) :
    byteLength (cs ++ ds) = byteLength cs + byteLength ds := by
  induction cs with
  | nil => simp
  | cons c cs ih => simp [ih, Nat.add_assoc]

@[simp] theorem newlines_nil : newlines [] = 0 := rfl

theorem newlines_cons (c : Char) (cs : List Char) :
    newlines (c :: cs) = (if c = '\n' then 1 else 0) + newlines cs := by
  by_cases h : c = '\n' <;> simp [newlines, h, Nat.add_comm]

@[simp] theorem newlines_append (cs ds : List Char) :
    newlines (cs ++ ds) = newlines cs + newlines ds := by
  simp [newlines]

structure Place where
  offset : Nat
  line : Nat
  deriving DecidableEq, Repr

namespace Place

def start : Place := ⟨0, 1⟩

def next (p : Place) (c : Char) : Place :=
  ⟨p.offset + c.utf8Size, if c = '\n' then p.line + 1 else p.line⟩

def advance (p : Place) (cs : List Char) : Place :=
  cs.foldl next p

@[simp] theorem advance_nil (p : Place) : p.advance [] = p := rfl

@[simp] theorem advance_cons (p : Place) (c : Char) (cs : List Char) :
    p.advance (c :: cs) = (p.next c).advance cs := rfl

@[simp] theorem advance_append (p : Place) (cs ds : List Char) :
    p.advance (cs ++ ds) = (p.advance cs).advance ds := by
  simp [advance]

theorem advance_offset (p : Place) (cs : List Char) :
    (p.advance cs).offset = p.offset + byteLength cs := by
  induction cs generalizing p with
  | nil => simp
  | cons c cs ih => simp [ih, next]; omega

theorem advance_line (p : Place) (cs : List Char) :
    (p.advance cs).line = p.line + newlines cs := by
  induction cs generalizing p with
  | nil => simp
  | cons c cs ih =>
    by_cases h : c = '\n' <;> simp [ih, next, newlines_cons, h]
    omega

end Place

/-- The newlines in the first `n` bytes, or in all of a text with fewer; `none` if the cut falls
inside a character. -/
def newlinesWithin? : Nat → List Char → Option Nat
  | 0, _ => some 0
  | _ + 1, [] => some 0
  | n + 1, c :: cs =>
    if c.utf8Size ≤ n + 1 then
      (newlinesWithin? (n + 1 - c.utf8Size) cs).map ((if c = '\n' then 1 else 0) + ·)
    else
      none

end TaintGrep.Text
