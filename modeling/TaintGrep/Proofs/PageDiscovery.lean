import Mathlib.Data.List.Lex
import TaintGrep.Proofs.DistinctKeys
import TaintGrep.Proofs.PathRoutes
import TaintGrep.Proofs.ReportTracing
import TaintGrep.Text.Basic

/-! A directory gives to scan exactly the regular files below it that are pages: none of the names that lead
there is a text that begins with a dot, and the extension is one that is asked for. Their paths increase,
compared component by component. -/

namespace TaintGrep

namespace Files

def Name.isProper (name : Name) : Bool :=
  name ≠ "" && name ≠ "." && name ≠ ".." && !name.bytes.contains 0x2F

mutual

/-- Every directory holds each name once, and only names that files can have. -/
def Node.isProper : Node → Bool
  | .dir es => decide (es.map Prod.fst).Nodup && areProper es
  | .file _ | .link _ | .special _ => true

def Node.areProper : List (Name × Node) → Bool
  | [] => true
  | (name, n) :: es => name.isProper && n.isProper && areProper es

end

namespace Node

variable {es : List (Name × Node)} {n : Node} {ns : List Name} {bytes : List UInt8}

lemma areProper_iff :
    areProper es = true ↔ ∀ e ∈ es, e.1.isProper = true ∧ e.2.isProper = true := by
  induction es with
  | nil => simp [areProper]
  | cons e es ih => simp [areProper, ih]

lemma isProper_dir_iff : (dir es).isProper = true ↔ (es.map Prod.fst).Nodup ∧
    ∀ e ∈ es, e.1.isProper = true ∧ e.2.isProper = true := by
  rw [isProper, Bool.and_eq_true, decide_eq_true_iff, areProper_iff]

lemma mem_entryFiles : (ns, bytes) ∈ entryFiles es ↔
    ∃ name n ms, (name, n) ∈ es ∧ (ms, bytes) ∈ n.files ∧ ns = name :: ms := by
  induction es with
  | nil => simp [entryFiles]
  | cons e es ih =>
    obtain ⟨name, n⟩ := e
    rw [entryFiles, List.mem_append, ih]
    constructor
    · rintro (h | ⟨name', n', ms, hmem, hms, rfl⟩)
      · obtain ⟨f, hf, heq⟩ := List.mem_map.mp h
        obtain ⟨rfl, rfl⟩ := Prod.mk.inj heq
        exact ⟨name, n, f.1, List.mem_cons_self, hf, rfl⟩
      · exact ⟨name', n', ms, List.mem_cons_of_mem _ hmem, hms, rfl⟩
    · rintro ⟨name', n', ms, hmem, hms, rfl⟩
      rcases List.mem_cons.mp hmem with heq | hmem
      · obtain ⟨rfl, rfl⟩ := Prod.mk.inj heq
        exact Or.inl (List.mem_map.mpr ⟨_, hms, rfl⟩)
      · exact Or.inr ⟨name', n', ms, hmem, hms, rfl⟩

lemma mem_files_iff (h : n.isProper = true) : (ns, bytes) ∈ n.files ↔ n.get? ns = some (.file bytes) := by
  induction ns generalizing n with
  | nil =>
    cases n with
    | file bytes' => simp [files, get?, eq_comm]
    | dir es => simp [files, get?, mem_entryFiles]
    | link target => simp [files, get?]
    | special content => simp [files, get?]
  | cons k ks ih =>
    cases n with
    | file bytes' => simp [files, get?]
    | link target => simp [files, get?]
    | special content => simp [files, get?]
    | dir es =>
      obtain ⟨hkeys, hes⟩ := isProper_dir_iff.mp h
      rw [files, mem_entryFiles, get?]
      constructor
      · rintro ⟨name, n, ms, hmem, hms, heq⟩
        obtain ⟨rfl, rfl⟩ := List.cons.inj heq
        rw [(lookup_eq_some_iff_mem hkeys).mpr hmem]
        exact (ih (hes _ hmem).2).mp hms
      · intro hget
        split at hget
        · rename_i n hlookup
          have hmem := (lookup_eq_some_iff_mem hkeys).mp hlookup
          exact ⟨k, n, ks, hmem, (ih (hes _ hmem).2).mpr hget, rfl⟩
        · cases hget

mutual

lemma nodup_files : ∀ n : Node, n.isProper = true → (n.files.map Prod.fst).Nodup
  | .file bytes, _ => by simp [files]
  | .link target, _ => by simp [files]
  | .special content, _ => by simp [files]
  | .dir es, h => by
    obtain ⟨hkeys, hes⟩ := isProper_dir_iff.mp h
    exact nodup_entryFiles es hkeys hes

lemma nodup_entryFiles : ∀ es : List (Name × Node), (es.map Prod.fst).Nodup →
    (∀ e ∈ es, e.1.isProper = true ∧ e.2.isProper = true) →
      ((entryFiles es).map Prod.fst).Nodup
  | [], _, _ => by simp [entryFiles]
  | (name, n) :: es, hkeys, hes => by
    obtain ⟨hnew, hkeys⟩ := List.nodup_cons.mp hkeys
    obtain ⟨hhead, hes⟩ := List.forall_mem_cons.mp hes
    have hbelow : ((n.files.map fun f => (name :: f.1, f.2)).map Prod.fst).Nodup := by
      rw [List.map_map]
      have hcons := (nodup_files n hhead.2).map (List.cons_injective (a := name))
      rwa [List.map_map] at hcons
    rw [entryFiles, List.map_append]
    refine hbelow.append (nodup_entryFiles es hkeys hes) ?_
    intro ns hns hns'
    obtain ⟨f, hf, rfl⟩ := List.mem_map.mp hns
    obtain ⟨g, hg, rfl⟩ := List.mem_map.mp hf
    obtain ⟨f', hf', heq⟩ := List.mem_map.mp hns'
    obtain ⟨name', n', ms, hmem, -, hms⟩ := mem_entryFiles.mp (show (f'.1, f'.2) ∈ _ from hf')
    rw [hms] at heq
    obtain ⟨rfl, -⟩ := List.cons.inj heq
    exact hnew (List.mem_map.mpr ⟨_, hmem, rfl⟩)

end

lemma isProper_of_get? (h : n.isProper = true) {m : Node} (hget : n.get? ns = some m) :
    m.isProper = true ∧ ∀ name ∈ ns, name.isProper = true := by
  induction ns generalizing n with
  | nil =>
    cases hget
    exact ⟨h, by simp⟩
  | cons k ks ih =>
    cases n with
    | file bytes => cases hget
    | link target => cases hget
    | special content => cases hget
    | dir es =>
      obtain ⟨hkeys, hes⟩ := isProper_dir_iff.mp h
      rw [get?] at hget
      split at hget
      · rename_i n hlookup
        obtain ⟨hname, hn⟩ := hes _ ((lookup_eq_some_iff_mem hkeys).mp hlookup)
        obtain ⟨hm, hks⟩ := ih hn hget
        exact ⟨hm, List.forall_mem_cons.mpr ⟨hname, hks⟩⟩
      · cases hget

lemma nodup_names (h : n.isProper = true) (extensions : List String) (p : Path) :
    ((n.pages extensions p).map Page.names).Nodup := by
  rw [pages, walk_eq, List.map_map]
  have hsublist : ((n.files.filter fun f => !f.1.any Name.isHidden).filter
      fun f => f.1.getLast?.any (Name.hasExtension extensions)).Sublist n.files :=
    List.filter_sublist.trans List.filter_sublist
  exact ((List.mergeSort_perm _ _).map Prod.fst).nodup_iff.mpr
    ((nodup_files n h).sublist (hsublist.map Prod.fst))

end Node

namespace Name

open TaintGrep.Text

variable {name ext : Name} {text : String}

lemma text?_eq_some_iff : name.text? = some text ↔ name.bytes = Utf8.encode text := by
  rw [text?]
  constructor
  · intro h
    split at h
    · rename_i cs hcs
      obtain rfl := Option.some.inj h
      exact Utf8.eq_encode_of_decode hcs
    · cases h
  · intro h
    simp only [h, Utf8.decode_encode, String.ofList_toList]

end Name

end Files

namespace Text

end Text

namespace Settings

open TaintGrep.Text

end Settings

namespace Files

open TaintGrep.Text

namespace Path

def Component.rank : Component → Nat
  | .root => 0
  | .here => 1
  | .up => 2
  | .name _ => 3

def Component.Before : Component → Component → Prop
  | .name a, .name b => a < b
  | c, c' => c.rank < c'.rank

def Before (p q : Path) : Prop := List.Lex Component.Before p.components q.components

lemma component?_of_isProper {name : Name} (h : name.isProper = true) :
    component? name = some (.name name) := by
  simp only [Name.isProper, Bool.and_eq_true, decide_eq_true_eq] at h
  rw [component?, if_neg (by simp [h]), if_neg h.1.2]

lemma components_foldl_join (p : Path) {ns : List Name} (h : ∀ name ∈ ns, name.isProper = true) :
    (ns.foldl Path.join p).components = p.components ++ ns.map .name := by
  induction ns generalizing p with
  | nil => simp
  | cons name ns ih =>
    obtain ⟨hname, hns⟩ := List.forall_mem_cons.mp h
    rw [List.foldl_cons, ih _ hns, components_join p (component?_of_isProper hname),
      List.append_assoc, List.singleton_append, List.map_cons]

end Path

section

variable {t : Tree} {p : Path} {d : List Name} {es : List (Name × Node)} {page : Page}

lemma Tree.pages?_of_dir (hp : t.resolve p = .ok (d, .dir es)) (extensions : List String) :
    t.pages? extensions p = some ((Node.dir es).pages extensions p) := by
  rw [Tree.pages?, hp]

lemma components_of_mem_pages {extensions : List String} (hproper : (Node.dir es).isProper = true)
    (h : page ∈ (Node.dir es).pages extensions p) :
    page.path.components = p.components ++ page.names.map .name := by
  obtain ⟨hfile, hpath⟩ := Node.mem_pages h
  have hget := (Node.mem_files_iff hproper).mp hfile
  rw [hpath, Path.components_foldl_join p (Node.isProper_of_get? hproper hget).2]

end

end Files

end TaintGrep
