import TaintGrep.Text.Utf8

/-!
Paths as they are written. A path is kept as the pieces between its slashes, so it can be shown
exactly as it was given; empty pieces, and `.` beyond the first, do not count as components. Names are
bytes and need not be text. All operations here are on the path alone, without a look at any file.
-/

namespace TaintGrep.Files

open TaintGrep.Text

structure Name where
  bytes : List UInt8
  deriving DecidableEq, Repr

namespace Name

def ofString (s : String) : Name := ⟨Utf8.encode s⟩

instance : Coe String Name := ⟨ofString⟩

instance : LT Name := ⟨fun a b => a.bytes < b.bytes⟩

instance (a b : Name) : Decidable (a < b) :=
  inferInstanceAs (Decidable (a.bytes < b.bytes))

def text? (name : Name) : Option String :=
  match Utf8.decode name.bytes with
  | .ok cs => some (String.ofList cs)
  | .error _ => none

def lossy (name : Name) : String :=
  String.ofList (Utf8.decodeLossy name.bytes)

def fits (name : Name) : Bool :=
  name.bytes.length ≤ 255

/-- What follows the last dot of a file name; a dot at its beginning does not count. -/
def extension? (name : Name) : Option Name :=
  let bs := name.bytes.reverse
  match bs.dropWhile (· ≠ 0x2E) with
  | [] | [_] => none
  | _ => some ⟨(bs.takeWhile (· ≠ 0x2E)).reverse⟩

end Name

structure Path where
  rooted : Bool
  pieces : List Name
  deriving DecidableEq, Repr

def splitSlashes : List UInt8 → List (List UInt8)
  | [] => [[]]
  | b :: bs =>
    if b = 0x2F then [] :: splitSlashes bs
    else
      match splitSlashes bs with
      | p :: ps => (b :: p) :: ps
      | [] => [[b]]

namespace Path

def ofBytes (bytes : List UInt8) : Path :=
  let (rooted, bs) := match bytes with
    | 0x2F :: bs => (true, bs)
    | bs => (false, bs)
  ⟨rooted, if bs.isEmpty then [] else (splitSlashes bs).map Name.mk⟩

def ofString (s : String) : Path :=
  ofBytes (Utf8.encode s)

def bytes (p : Path) : List UInt8 :=
  (if p.rooted then [0x2F] else []) ++ [0x2F].intercalate (p.pieces.map Name.bytes)

def text (p : Path) : String :=
  String.ofList (Utf8.decodeLossy p.bytes)

def fits (p : Path) : Bool :=
  p.bytes.length ≤ 4095

def ofNames (names : List Name) : Path :=
  ⟨true, names⟩

inductive Component where
  | root
  | here
  | up
  | name (s : Name)
  deriving DecidableEq, Repr

def component? (piece : Name) : Option Component :=
  if piece = "" ∨ piece = "." then none
  else if piece = ".." then some .up
  else some (.name piece)

def components (p : Path) : List Component :=
  (if p.rooted then [.root] else if p.pieces.head? = some (Name.ofString ".") then [.here] else []) ++
    p.pieces.filterMap component?

/-- Takes the pieces that are no components off the end of a path, whose pieces are given in
reverse. -/
def dropVoid (rooted : Bool) : List Name → List Name
  | [] => []
  | [p] => if p = "" ∨ (rooted ∧ p = ".") then [] else [p]
  | p :: ps => if p = "" ∨ p = "." then dropVoid rooted ps else p :: ps

theorem length_dropVoid_le (rooted : Bool) (ps : List Name) :
    (dropVoid rooted ps).length ≤ ps.length := by
  fun_induction dropVoid rooted ps <;> simp_all
  omega

def parent? (p : Path) : Option Path :=
  match dropVoid p.rooted p.pieces.reverse with
  | [] => none
  | _ :: rest => some ⟨p.rooted, (dropVoid p.rooted rest).reverse⟩

theorem length_parent?_lt {p q : Path} (h : p.parent? = some q) :
    q.pieces.length < p.pieces.length := by
  unfold parent? at h
  split at h
  · simp at h
  · rename_i a rest he
    have h₁ := length_dropVoid_le p.rooted p.pieces.reverse
    have h₂ := length_dropVoid_le p.rooted rest
    simp only [Option.some.injEq] at h
    subst h
    simp_all
    omega

def ancestorsWithin : Nat → Path → List Path
  | 0, p => [p]
  | n + 1, p =>
    match p.parent? with
    | none => [p]
    | some q => p :: ancestorsWithin n q

def ancestors (p : Path) : List Path :=
  ancestorsWithin p.pieces.length p

theorem parent?_of_pieces_eq_nil {p : Path} (h : p.pieces = []) : p.parent? = none := by
  simp [parent?, h, dropVoid]

theorem ancestorsWithin_eq {m n : Nat} {p : Path} (hm : p.pieces.length ≤ m)
    (hn : p.pieces.length ≤ n) : ancestorsWithin m p = ancestorsWithin n p := by
  induction m generalizing n p with
  | zero =>
    have hp := parent?_of_pieces_eq_nil (List.length_eq_zero_iff.mp (Nat.le_zero.mp hm))
    cases n <;> simp [ancestorsWithin, hp]
  | succ m ih =>
    cases n with
    | zero =>
      have hp := parent?_of_pieces_eq_nil (List.length_eq_zero_iff.mp (Nat.le_zero.mp hn))
      simp [ancestorsWithin, hp]
    | succ n =>
      cases hp : p.parent? with
      | none => simp [ancestorsWithin, hp]
      | some q =>
        have hq := length_parent?_lt hp
        simp only [ancestorsWithin, hp]
        rw [ih (by omega : q.pieces.length ≤ m) (by omega : q.pieces.length ≤ n)]

theorem ancestors_eq_cons (p : Path) :
    p.ancestors = p :: (p.parent?.map ancestors).getD [] := by
  cases hp : p.parent? with
  | none => cases hl : p.pieces.length <;> simp [ancestors, hl, ancestorsWithin, hp]
  | some q =>
    have hq := length_parent?_lt hp
    obtain ⟨n, hn⟩ : ∃ n, p.pieces.length = n + 1 := ⟨p.pieces.length - 1, by omega⟩
    rw [ancestors, hn]
    simp only [ancestorsWithin, hp, Option.map_some, Option.getD_some, ancestors]
    rw [ancestorsWithin_eq (by omega : q.pieces.length ≤ n) (Nat.le_refl _)]

def join (p : Path) (name : Name) : Path :=
  if p.pieces.getLast? = some (Name.ofString "") then { p with pieces := p.pieces.dropLast ++ [name] }
  else { p with pieces := p.pieces ++ [name] }

def fileName? (p : Path) : Option Name :=
  match p.components.getLast? with
  | some (.name s) => some s
  | _ => none

def Component.text : Component → String
  | .root => "/"
  | .here => "."
  | .up => ".."
  | .name s => s.lossy

/-- The components of a file's path beyond those of the directory's path; the name of the file alone if
its path does not begin with that of the directory, or ends with it. -/
def segments (root file : Path) : List String :=
  match root.components.isPrefixOf? file.components with
  | some (c :: cs) => (c :: cs).map Component.text
  | _ => [(file.fileName?.map Name.lossy).getD ""]

end Path

end TaintGrep.Files
