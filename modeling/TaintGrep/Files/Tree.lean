import TaintGrep.Files.Path

/-!
File trees, and what paths mean in them. A path is followed piece by piece: each piece is looked up in a
directory that exists, `..` leads to the directory above, a link goes on with the pieces of its target,
and a slash at the end asks for a directory. Names and whole paths have a greatest length, and there is a
greatest number of links on the way.
-/

namespace TaintGrep.Files

inductive Fault where
  | notFound
  | noDevice
  | fileExists
  | notDirectory
  | isDirectory
  | nameTooLong
  | tooManyLinks
  deriving DecidableEq, Repr

def Fault.message : Fault → String
  | .notFound => "No such file or directory (os error 2)"
  | .noDevice => "No such device or address (os error 6)"
  | .fileExists => "File exists (os error 17)"
  | .notDirectory => "Not a directory (os error 20)"
  | .isDirectory => "Is a directory (os error 21)"
  | .nameTooLong => "File name too long (os error 36)"
  | .tooManyLinks => "Too many levels of symbolic links (os error 40)"

inductive Node where
  | file (bytes : List UInt8)
  | dir (entries : List (Name × Node))
  | link (target : Path)
  /-- A pipe, a socket or a device, with what is read from it; what is written to it is not kept. -/
  | special (content : Except Fault (List UInt8))

namespace Node

/-- The node under the names from here. Links are not followed. -/
def get? : List Name → Node → Option Node
  | [], n => some n
  | k :: ks, .dir es =>
    match es.lookup k with
    | some n => n.get? ks
    | none => none
  | _ :: _, _ => none

def target? (root : Node) (names : List Name) : Option Path :=
  match root.get? names with
  | some (.link target) => some target
  | _ => none

def put : Node → List Name → Node → Node
  | _, [], new => new
  | .dir es, k :: ks, new =>
    if (es.lookup k).isSome then
      .dir (es.map fun (name, n) => if name = k then (name, n.put ks new) else (name, n))
    else
      .dir (es ++ [(k, (Node.dir []).put ks new)])
  | n, _ :: _, _ => n

mutual

def files : Node → List (List Name × List UInt8)
  | .file bytes => [([], bytes)]
  | .dir es => entryFiles es
  | .link _ | .special _ => []

def entryFiles : List (Name × Node) → List (List Name × List UInt8)
  | [] => []
  | (name, n) :: es => n.files.map (fun (ns, b) => (name :: ns, b)) ++ entryFiles es

end

end Node

/-- A tree and the directory that relative paths start from. -/
structure Tree where
  root : Node
  cwd : List Name

namespace Tree

def cwdPath (t : Tree) : Path :=
  Path.ofNames t.cwd

def origin (t : Tree) (p : Path) : List Name :=
  if p.rooted then [] else t.cwd

/-- Follows pieces from a directory up to a link, and goes on from there as `chase` says. What the last
piece names need not exist. -/
def followWith (chase : List Name → List Name → Except Fault (List Name)) (root : Node) :
    List Name → List Name → Except Fault (List Name)
  | names, [] => .ok names
  | names, p :: ps =>
    match root.get? names with
    | none => .error .notFound
    | some (.dir _) =>
      if p = "" ∨ p = "." then followWith chase root names ps
      else if p = ".." then followWith chase root names.dropLast ps
      else if p.fits then
        match root.target? (names ++ [p]) with
        | some target => chase (if target.rooted then [] else names) (target.pieces ++ ps)
        | none => followWith chase root (names ++ [p]) ps
      else .error .nameTooLong
    | some _ => .error .notDirectory

def follow (root : Node) : Nat → List Name → List Name → Except Fault (List Name)
  | 0 => followWith (fun _ _ => .error .tooManyLinks) root
  | n + 1 => followWith (follow root n) root

def maxLinks : Nat := 40

def locate (t : Tree) (p : Path) : Except Fault (List Name) :=
  if p.pieces = [] ∧ ¬ p.rooted then .error .notFound
  else if ¬ p.fits then .error .nameTooLong
  else follow t.root maxLinks (t.origin p) p.pieces

def resolve (t : Tree) (p : Path) : Except Fault (List Name × Node) :=
  match t.locate p with
  | .error e => .error e
  | .ok names =>
    match t.root.get? names with
    | some n => .ok (names, n)
    | none => .error .notFound

def exists? (t : Tree) (p : Path) : Bool :=
  (t.resolve p).isOk

def isFile (t : Tree) (p : Path) : Bool :=
  match t.resolve p with
  | .ok (_, .file _) => true
  | _ => false

def read (t : Tree) (p : Path) : Except Fault (List UInt8) :=
  match t.resolve p with
  | .error e => .error e
  | .ok (_, .file bytes) => .ok bytes
  | .ok (_, .dir _) => .error .isDirectory
  | .ok (_, .link _) => .error .tooManyLinks
  | .ok (_, .special content) => content

/-- Writes a file at a place whose directory exists; `bytes` gives its content from the one before. -/
def writeAt (t : Tree) (names : List Name) (bytes : List UInt8 → List UInt8) : Except Fault Tree :=
  match t.root.get? names with
  | none => .ok { t with root := t.root.put names (.file (bytes [])) }
  | some (.file old) => .ok { t with root := t.root.put names (.file (bytes old)) }
  | some (.dir _) => .error .isDirectory
  | some (.link _) => .error .tooManyLinks
  | some (.special content) => content.map fun _ => t

def write (t : Tree) (p : Path) (bytes : List UInt8) : Except Fault Tree :=
  match t.locate p with
  | .error e => .error e
  | .ok names => t.writeAt names fun _ => bytes

/-- Follows pieces from a directory and makes those that are not there. A link that leads to no directory
is in the way. -/
def makeDirs : Node → List Name → List Name → Except Fault (Node × List Name)
  | root, names, [] => .ok (root, names)
  | root, names, p :: ps =>
    if p = "" ∨ p = "." then makeDirs root names ps
    else if p = ".." then makeDirs root names.dropLast ps
    else
      match follow root maxLinks names [p] with
      | .error e => .error e
      | .ok place =>
        match root.get? place with
        | some (.dir _) => makeDirs root place ps
        | some _ => .error .fileExists
        | none =>
          if place = names ++ [p] then makeDirs (root.put place (.dir [])) place ps
          else .error .fileExists

def appendFile (t : Tree) (dir : Path) (name : Name) (bytes : List UInt8) : Except Fault Tree :=
  if ¬ (dir.join name).fits ∨ ¬ name.fits then .error .nameTooLong
  else
    match makeDirs t.root (t.origin dir) dir.pieces with
    | .error e => .error e
    | .ok (root, names) =>
      match follow root maxLinks names [name] with
      | .error e => .error e
      | .ok place => writeAt { t with root } place (· ++ bytes)

def addDir (t : Tree) (p : Path) : Tree :=
  match makeDirs t.root (t.origin p) p.pieces with
  | .ok (root, _) => { t with root }
  | .error _ => t

def addFile (t : Tree) (p : Path) (bytes : List UInt8) : Tree :=
  match ((p.parent?.map t.addDir).getD t).write p bytes with
  | .ok t => t
  | .error _ => t

def changes (old new : Tree) : List (List Name × List UInt8) :=
  new.root.files.filter fun f => f ∉ old.root.files

end Tree

end TaintGrep.Files
