import TaintGrep.Text.Scan
import TaintGrep.Text.Basic
import TaintGrep.Text.Folding

/-!
The script blocks of a page. A page is not parsed as HTML: a block is an opening tag, the shortest
text up to a closing tag, and that tag. Tags have blanks but no attributes, letters count up to case
folding, and an opening tag that is never closed opens nothing.
-/

namespace TaintGrep.Script

open TaintGrep.Text

def tagEnd? (cs : List Char) : Option (List Char × List Char) :=
  match takeFolded? "script".toList cs with
  | none => none
  | some (word, cs) =>
    match cs.dropWhile isBlank with
    | '>' :: rest => some (word ++ cs.takeWhile isBlank ++ ['>'], rest)
    | _ => none

theorem tagEnd?_eq_some {cs t r : List Char} (h : tagEnd? cs = some (t, r)) : cs = t ++ r := by
  unfold tagEnd? at h
  split at h
  · simp at h
  · rename_i word ds ht
    obtain ⟨rfl, -⟩ := takeFolded?_eq_some ht
    split at h
    · rename_i rest hd
      obtain ⟨rfl, rfl⟩ := Prod.mk.inj (Option.some.inj h)
      simp only [List.append_assoc, List.cons_append, List.nil_append]
      rw [← eq_append_cons_of_dropWhile hd]
    · simp at h

def openingTag? : List Char → Option (List Char × List Char)
  | '<' :: cs =>
    (tagEnd? (cs.dropWhile isBlank)).map fun (t, rest) =>
      ('<' :: cs.takeWhile isBlank ++ t, rest)
  | _ => none

theorem openingTag?_eq_some {cs t r : List Char} (h : openingTag? cs = some (t, r)) :
    cs = t ++ r := by
  unfold openingTag? at h
  split at h
  · rename_i ds
    obtain ⟨⟨u, q⟩, hu, he⟩ := Option.map_eq_some_iff.mp h
    obtain ⟨rfl, rfl⟩ := Prod.mk.inj he
    simp only [List.cons_append, List.append_assoc]
    rw [← tagEnd?_eq_some hu, List.takeWhile_append_dropWhile]
  · simp at h

def closingTag? : List Char → Option (List Char × List Char)
  | '<' :: cs =>
    match cs.dropWhile isBlank with
    | '/' :: ds =>
      (tagEnd? (ds.dropWhile isBlank)).map fun (t, rest) =>
        ('<' :: cs.takeWhile isBlank ++ '/' :: ds.takeWhile isBlank ++ t, rest)
    | _ => none
  | _ => none

theorem closingTag?_eq_some {cs t r : List Char} (h : closingTag? cs = some (t, r)) :
    cs = t ++ r := by
  unfold closingTag? at h
  split at h
  · split at h
    · rename_i ds es hd
      obtain ⟨⟨u, q⟩, hu, he⟩ := Option.map_eq_some_iff.mp h
      obtain ⟨rfl, rfl⟩ := Prod.mk.inj he
      simp only [List.cons_append, List.append_assoc]
      rw [← tagEnd?_eq_some hu, List.takeWhile_append_dropWhile, ← eq_append_cons_of_dropWhile hd]
    · simp at h
  · simp at h

structure Block where
  opening : List Char
  text : List Char
  closing : List Char
  deriving DecidableEq, Repr

namespace Block

def chars (b : Block) : List Char :=
  b.opening ++ b.text ++ b.closing

def size (b : Block) : Nat :=
  b.chars.length

end Block

def block? (cs : List Char) : Option Block := do
  let (opening, rest) ← openingTag? cs
  let n ← firstIndex? (fun r => (closingTag? r).isSome) rest
  let (closing, _) ← closingTag? (rest.drop n)
  return ⟨opening, rest.take n, closing⟩

theorem block?_eq_some {cs : List Char} {b : Block} (h : block? cs = some b) :
    ∃ rest, cs = b.chars ++ rest := by
  simp only [block?, Option.bind_eq_bind, Option.bind_eq_some_iff, Option.pure_def,
    Option.some.injEq, Prod.exists] at h
  obtain ⟨t, r, ht, n, -, u, q, hu, rfl⟩ := h
  refine ⟨q, ?_⟩
  rw [openingTag?_eq_some ht, Block.chars]
  simp only [List.append_assoc]
  rw [← closingTag?_eq_some hu, List.take_append_drop]

end TaintGrep.Script

namespace TaintGrep

/-- The text of a script block, with the byte offset and the line of the page where it begins. -/
structure Region where
  text : String
  offset : Nat
  line : Nat
  deriving DecidableEq, Repr

namespace Region

open TaintGrep.Text

def ofBlock (p : Place) (b : Script.Block) : Region :=
  let q := p.advance b.opening
  ⟨String.ofList b.text, q.offset, q.line⟩

/-- The line of the page of a byte offset into the region; an offset beyond the end counts as the
end. There is none if the offset falls inside a character. -/
def lineAt? (r : Region) (offset : Nat) : Option Nat :=
  (newlinesWithin? offset r.text.toList).map (r.line + ·)

end Region

def Script.regions (mode : ScanMode) (body : String) : List Region :=
  mode.keep ((Text.scan block? Block.size body.toList).map fun (p, b) => Region.ofBlock p b)

end TaintGrep
