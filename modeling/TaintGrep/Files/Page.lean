import TaintGrep.Files.Tree
import TaintGrep.Text.Basic

/-!
Pages below a directory: the regular files with one of the given extensions, without hidden entries, in the
order of their paths, compared name by name. Links are not followed below the directory.
-/

namespace TaintGrep.Files

open TaintGrep.Text

/-- A file to scan: its path as written, the names that lead to it from the path that was given, and its
content. -/
structure Page where
  path : Path
  names : List Name
  bytes : List UInt8
  deriving DecidableEq, Repr

/-- A name that is no text counts as shown, also if it begins with a dot. -/
def Name.isHidden (name : Name) : Bool :=
  name.text?.any fun s => s.toList.head? = some '.'

def Name.hasExtension (extensions : List String) (name : Name) : Bool :=
  (name.extension?.bind Name.text?).any fun e => extensions.any (sameAscii · e)

def precedes : List Name → List Name → Bool
  | [], _ => true
  | _ :: _, [] => false
  | a :: as, b :: bs => a < b || (a = b && precedes as bs)

mutual

/-- The files that a walk from a node down comes to. It goes past hidden entries, and so does not see
what is in a hidden directory; the name of the node itself does not count. -/
def Node.walk : Node → List (List Name × List UInt8)
  | .file bytes => [([], bytes)]
  | .dir es => walkEntries es
  | .link _ | .special _ => []

def Node.walkEntries : List (Name × Node) → List (List Name × List UInt8)
  | [] => []
  | (name, n) :: es =>
    (if name.isHidden then [] else n.walk.map fun (ns, b) => (name :: ns, b)) ++ walkEntries es

end

def Node.pages (extensions : List String) (p : Path) (n : Node) : List Page :=
  let found := n.walk.filter fun (ns, _) => ns.getLast?.any (Name.hasExtension extensions)
  (found.mergeSort fun a b => precedes a.1 b.1).map fun (ns, b) => ⟨ns.foldl Path.join p, ns, b⟩

def Tree.pages? (t : Tree) (extensions : List String) (p : Path) : Option (List Page) :=
  match t.resolve p with
  | .error _ => none
  | .ok (_, .file bytes) => some [⟨p, [], bytes⟩]
  | .ok (_, n) => some (n.pages extensions p)

namespace Page

/-- Whether the directory of a page can be opened, so that the page is seen at all. -/
def isListed (page : Page) : Bool :=
  page.path.parent?.all Path.fits

def isReadable (page : Page) : Bool :=
  page.path.fits

def url (t : Tree) (root : Path) (base : Option String) (page : Page) : String :=
  match base with
  | some base =>
    String.ofList (base.toList.reverse.dropWhile (· == '/')).reverse ++ "/" ++
      "/".intercalate (root.segments page.path)
  | none =>
    "file://" ++ match t.resolve page.path with
      | .ok (names, _) => (Path.ofNames names).text
      | .error _ => page.path.text

def contentType (page : Page) : String :=
  match (((page.path.fileName?.bind Name.extension?).bind Name.text?).map asciiLower).getD "" with
  | "xhtml" | "xht" => "application/xhtml+xml"
  | "js" | "mjs" => "application/javascript"
  | "json" => "application/json"
  | "txt" => "text/plain"
  | "png" | "jpg" | "jpeg" | "gif" | "ico" | "pdf" | "woff" | "woff2" => "application/octet-stream"
  | _ => "text/html"

end Page

end TaintGrep.Files
