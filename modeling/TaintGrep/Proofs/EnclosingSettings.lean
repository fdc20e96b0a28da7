import Mathlib.Data.List.Basic
import TaintGrep.Command.Check
import TaintGrep.Proofs.PathRoutes

/-! Whether the settings file that is found lies in the directory itself or in one around it. The search
goes up by the text of the path and not in the tree: from `a/..` it comes to `a`, which is further down,
and from `../d` to the directory that the path starts from. Without `..` this cannot happen. -/

namespace TaintGrep

namespace Files

/-- Every path above leads to the same directory or to one around it, wherever the path starts. -/
def Path.Nested (p : Path) : Prop :=
  ∀ q ∈ p.ancestors, q.route.ups = p.route.ups ∧ q.route.names <+: p.route.names

instance (p : Path) : Decidable p.Nested :=
  inferInstanceAs (Decidable (∀ q ∈ p.ancestors, _))

lemma Path.nested_of_not_up {p : Path} (h : Component.up ∉ p.components) : p.Nested := by
  intro q hq
  obtain ⟨cs, hcs, hroute⟩ := route_of_mem_ancestors hq
  have hup : Component.up ∉ cs := by
    intro hmem
    exact h (hcs ▸ List.mem_append_right _ hmem)
  obtain ⟨hups, hnames⟩ := Route.foldl_of_not_up p.rooted q.route hup
  rw [hroute]
  exact ⟨hups.symm, hnames⟩

lemma Path.Nested.landing_isPrefix {p q : Path} (h : p.Nested) (hq : q ∈ p.ancestors)
    (origin : List Name) : q.route.landing origin <+: p.route.landing origin := by
  obtain ⟨hups, hnames⟩ := h q hq
  rw [Route.landing, Route.landing, hups]
  exact (List.prefix_append_right_inj _).mpr hnames

end Files

namespace Settings

open TaintGrep.Files TaintGrep.Command

variable {t : Tree} {p f : Path}

def Enclosing (p : Path) : Prop :=
  ∀ (t : Tree) (d : List Name) (es : List (Name × Node)) (f : Path), t.root.LinkFree →
    t.resolve p = .ok (d, .dir es) → find? t p = some f →
      ∃ e n, t.resolve f = .ok (e ++ [fileName], n) ∧ e <+: d

lemma component?_fileName : Path.component? fileName = some (.name fileName) := by decide

lemma exists_of_find? (hfree : t.root.LinkFree) (h : find? t p = some f) : ∃ q ∈ p.ancestors, ∃ n,
    t.resolve f = .ok (q.route.landing (t.origin p) ++ [fileName], n) := by
  rw [find?, findFrom?_of_ascends _ p.ascends_ancestors, Option.map_eq_some_iff] at h
  obtain ⟨q, hfind, rfl⟩ := h
  have hq := List.mem_of_find?_eq_some hfind
  have hexists : t.exists? (q.join fileName) = true := by simpa using List.find?_some hfind
  obtain ⟨e, n, hresolve⟩ := Tree.exists?_iff.mp hexists
  have horigin : t.origin (q.join fileName) = t.origin p := by
    rw [Tree.origin, Path.rooted_join, (p.ascends_ancestors.of_mem hq).1, ← Tree.origin]
  refine ⟨q, hq, n, ?_⟩
  rw [← Path.landing_join _ q component?_fileName, ← horigin, ← Tree.landing_of_resolve hfree hresolve]
  exact hresolve

lemma enclosing_of_nested (h : p.Nested) : Enclosing p := by
  intro t d es f hfree hp hf
  obtain ⟨q, hq, n, hresolve⟩ := exists_of_find? hfree hf
  refine ⟨q.route.landing (t.origin p), n, hresolve, ?_⟩
  rw [Tree.landing_of_resolve hfree hp]
  exact h.landing_isPrefix hq (t.origin p)

/-- A directory with these names in it, and in each of them again, down to a depth. The only settings
file is at `site`. -/
def grove (names site : List Name) : Nat → List Name → Node
  | 0, here => .dir (if here = site then [(fileName, .file [])] else [])
  | n + 1, here => .dir ((if here = site then [(fileName, .file [])] else []) ++
      names.map fun a => (a, grove names site n (here ++ [a])))

section Grove

variable {names site here ks ps : List Name} {n : Nat}

lemma exists_grove (names site here : List Name) (n : Nat) :
    ∃ es, grove names site n here = .dir es := by
  cases n with
  | zero => exact ⟨_, rfl⟩
  | succ n => exact ⟨_, rfl⟩

lemma lookup_site_of_ne {k : Name} (h : k ≠ fileName) :
    (if here = site then [(fileName, Node.file [])] else []).lookup k = none := by
  rw [List.lookup_eq_none_iff]
  intro entry hentry
  split_ifs at hentry
  · rw [List.mem_singleton.mp hentry]
    simpa using h
  · cases hentry

lemma get?_grove (hfile : fileName ∉ names) (hks : ∀ k ∈ ks, k ∈ names) (hn : ks.length ≤ n) :
    (grove names site n here).get? ks = some (grove names site (n - ks.length) (here ++ ks)) := by
  induction ks generalizing n here with
  | nil => simp [Node.get?]
  | cons k ks ih =>
    rw [List.length_cons] at hn
    obtain ⟨m, rfl⟩ : ∃ m, n = m + 1 := ⟨n - 1, by omega⟩
    have hk : k ∈ names := hks k List.mem_cons_self
    have hne : k ≠ fileName := by
      rintro rfl
      exact hfile hk
    have htail : (grove names site m (here ++ [k])).get? ks =
        some (grove names site (m - ks.length) (here ++ [k] ++ ks)) :=
      ih (fun a ha => hks a (List.mem_cons_of_mem k ha)) (Nat.le_of_succ_le_succ hn)
    rw [grove, Node.get?, List.lookup_append, lookup_site_of_ne hne, Option.none_or,
      List.lookup_graph (fun a => grove names site m (here ++ [a])) hk]
    dsimp only
    rw [htail, List.append_assoc, List.singleton_append, List.length_cons, Nat.add_sub_add_right]

lemma lookup_fileName_grove {es : List (Name × Node)} (hfile : fileName ∉ names)
    (h : grove names site n here = .dir es) : (es.lookup fileName).isSome ↔ here = site := by
  have hsite : ((if here = site then [(fileName, Node.file [])] else []).lookup fileName).isSome ↔
      here = site := by
    split_ifs with hhere <;> simp [hhere]
  cases n with
  | zero =>
    rw [grove] at h
    cases h
    exact hsite
  | succ n =>
    rw [grove] at h
    cases h
    have hrest : (names.map fun a => (a, grove names site n (here ++ [a]))).lookup fileName = none := by
      rw [List.lookup_eq_none_iff]
      intro entry hentry
      obtain ⟨a, ha, rfl⟩ := List.mem_map.mp hentry
      have hne : fileName ≠ a := by
        rintro rfl
        exact hfile ha
      simpa using hne
    rw [List.lookup_append, hrest, Option.or_none]
    exact hsite

lemma isSome_get?_fileName (hfile : fileName ∉ names) (hks : ∀ k ∈ ks, k ∈ names)
    (hn : ks.length ≤ n) : ((grove names site n []).get? (ks ++ [fileName])).isSome ↔ ks = site := by
  obtain ⟨es, hes⟩ := exists_grove names site ([] ++ ks) (n - ks.length)
  rw [Node.get?_append, get?_grove hfile hks hn, Option.bind_some, hes]
  refine Iff.trans ?_ (lookup_fileName_grove hfile hes)
  rw [Node.get?]
  cases es.lookup fileName with
  | none => rfl
  | some m => rfl

lemma linkFree_grove (names site : List Name) (n : Nat) (here : List Name) :
    (grove names site n here).LinkFree := by
  have hsite : ∀ here, ∀ entry ∈ (if here = site then [(fileName, Node.file [])] else []),
      entry.2.LinkFree := by
    intro here entry hentry
    split_ifs at hentry
    · rw [List.mem_singleton.mp hentry]
      exact Node.linkFree_file []
    · cases hentry
  induction n generalizing here with
  | zero => exact Node.linkFree_dir (hsite here)
  | succ n ih =>
    refine Node.linkFree_dir fun entry hentry => ?_
    rcases List.mem_append.mp hentry with hentry | hentry
    · exact hsite here entry hentry
    · obtain ⟨a, -, rfl⟩ := List.mem_map.mp hentry
      exact ih (here ++ [a])

lemma follow_grove (chase : List Name → List Name → Except Files.Fault (List Name))
    (hfile : fileName ∉ names) (hks : ∀ k ∈ ks, k ∈ names)
    (hps : ∀ s ∈ ps, s.fits = true ∧ (s ≠ "" → s ≠ "." → s ≠ ".." → s ∈ names))
    (hn : ks.length + ps.length ≤ n) :
    ∃ e, Tree.followWith chase (grove names site n []) ks ps = .ok e ∧ (∀ k ∈ e, k ∈ names) ∧
      e.length ≤ n := by
  induction ps generalizing ks with
  | nil => exact ⟨ks, rfl, hks, hn⟩
  | cons s ps ih =>
    rw [List.length_cons] at hn
    obtain ⟨hfits, hname⟩ := hps s List.mem_cons_self
    have hrest := fun a ha => hps a (List.mem_cons_of_mem s ha)
    obtain ⟨es, hes⟩ := exists_grove names site ([] ++ ks) (n - ks.length)
    rw [Tree.followWith, get?_grove hfile hks (by omega), hes]
    simp only [linkFree_grove names site n [] (ks ++ [s])]
    split_ifs with hvoid hup
    · exact ih hks hrest (by omega)
    · refine ih (fun k hk => hks k (List.mem_of_mem_dropLast hk)) hrest ?_
      rw [List.length_dropLast]
      omega
    · rw [not_or] at hvoid
      refine ih (fun k hk => ?_) hrest (by rw [List.length_append, List.length_singleton]; omega)
      rcases List.mem_append.mp hk with hk | hk
      · exact hks k hk
      · exact List.mem_singleton.mp hk ▸ hname hvoid.1 hvoid.2 hup

end Grove

def stranger (names : List Name) : Name := if names.head? = some "x" then "y" else "x"

lemma head?_ne_stranger (names : List Name) : names.head? ≠ some (stranger names) := by
  rw [stranger]
  split_ifs with h
  · rw [h]
    decide
  · exact h

def baitNames (p : Path) : List Name :=
  stranger p.route.names :: p.pieces.filter fun s => s ≠ "" ∧ s ≠ "." ∧ s ≠ ".."

/-- Room for the directories that the path goes up, under a name that it does not come down by. -/
def baitOrigin (p : Path) : List Name := List.replicate p.route.ups (stranger p.route.names)

/-- A tree where the path can be followed and the only settings file is where `q` leads. -/
def bait (p q : Path) : Tree where
  root := grove (baitNames p) (q.route.landing (baitOrigin p)) (p.route.ups + p.pieces.length) []
  cwd := baitOrigin p

section Bait

variable {q : Path} {ps : List Name} (hpieces : ∀ s ∈ p.pieces, s.fits = true ∧ s ≠ fileName)

lemma linkFree_bait (p q : Path) : (bait p q).root.LinkFree :=
  linkFree_grove _ _ _ _

lemma landing_baitOrigin (p : Path) : p.route.landing (baitOrigin p) = p.route.names := by
  simp [Route.landing, baitOrigin]

lemma origin_bait (hrooted : f.rooted = p.rooted) : (bait p q).origin f = baitOrigin p := by
  rw [Tree.origin]
  split_ifs with hf
  · have hups : p.route.ups = 0 := by
      rw [Path.route, ← hrooted, hf]
      exact Route.ups_foldl_rooted _ _
    rw [baitOrigin, hups, List.replicate_zero]
  · rfl

include hpieces

lemma fileName_notMem_baitNames : fileName ∉ baitNames p := by
  rw [baitNames, List.mem_cons, not_or]
  constructor
  · rw [stranger]
    split_ifs <;> decide
  · intro hmem
    exact (hpieces fileName (List.mem_of_mem_filter hmem)).2 rfl

lemma follow_bait (chase : List Name → List Name → Except Files.Fault (List Name))
    (h : ps <+: p.pieces) : ∃ e es, Tree.followWith chase (bait p q).root (baitOrigin p) ps = .ok e ∧
      (bait p q).root.get? e = some (.dir es) ∧
      (∀ k ∈ e, k ∈ baitNames p) ∧ e.length ≤ p.route.ups + p.pieces.length := by
  have hfile := fileName_notMem_baitNames hpieces
  have horigin : ∀ k ∈ baitOrigin p, k ∈ baitNames p := by
    intro k hk
    rw [List.eq_of_mem_replicate hk]
    exact List.mem_cons_self
  have hnames : ∀ s ∈ ps, s.fits = true ∧ (s ≠ "" → s ≠ "." → s ≠ ".." → s ∈ baitNames p) := by
    intro s hs
    have hmem := h.subset hs
    refine ⟨(hpieces s hmem).1, fun hempty hdot hup => List.mem_cons_of_mem _ ?_⟩
    simp [hmem, hempty, hdot, hup]
  have hdepth : (baitOrigin p).length + ps.length ≤ p.route.ups + p.pieces.length := by
    rw [baitOrigin, List.length_replicate]
    exact Nat.add_le_add_left h.length_le _
  obtain ⟨e, hfollow, hmem, hlength⟩ := follow_grove chase hfile horigin hnames hdepth
  obtain ⟨es, hes⟩ := exists_grove (baitNames p) (q.route.landing (baitOrigin p)) ([] ++ e)
    (p.route.ups + p.pieces.length - e.length)
  exact ⟨e, es, hfollow, (get?_grove hfile hmem hlength).trans (congrArg some hes), hmem, hlength⟩

lemma resolve_bait (hne : p.pieces ≠ []) (hfits : p.fits = true) :
    ∃ es, (bait p q).resolve p = .ok (p.route.names, .dir es) ∧
      (∀ k ∈ p.route.names, k ∈ baitNames p) ∧
        p.route.names.length ≤ p.route.ups + p.pieces.length := by
  obtain ⟨chase, hchase⟩ := Tree.exists_followWith (bait p q).root Tree.maxLinks
  obtain ⟨e, es, hfollow, hget, hmem, hlength⟩ := follow_bait hpieces (q := q) chase List.prefix_rfl
  have hresolve : (bait p q).resolve p = .ok (e, .dir es) := by
    apply Tree.resolve_of_follow hne hfits _ hget
    rw [hchase, origin_bait rfl, hfollow]
  obtain rfl : e = p.route.names := by
    rw [Tree.landing_of_resolve (linkFree_bait p q) hresolve, origin_bait rfl, landing_baitOrigin]
  exact ⟨es, hresolve, hmem, hlength⟩

lemma exists?_bait (hq : q ∈ p.ancestors) (hfits : (q.join fileName).fits = true) :
    (bait p q).exists? (q.join fileName) = true := by
  obtain ⟨hrooted, -, hbefore⟩ := p.ascends_ancestors.of_mem hq
  obtain ⟨ps, hps, hle⟩ := q.exists_pieces_join fileName
  obtain ⟨chase, hchase⟩ := Tree.exists_followWith (bait p q).root Tree.maxLinks
  obtain ⟨e, es, hfollow, hget, hmem, hlength⟩ := follow_bait hpieces (q := q) chase (hle.trans hbefore)
  have horigin : (bait p q).origin (q.join fileName) = baitOrigin p :=
    origin_bait ((q.rooted_join fileName).trans hrooted)
  have hall : Tree.followWith chase (bait p q).root (baitOrigin p) (q.join fileName).pieces =
      .ok (e ++ [fileName]) := by
    rw [hps, Tree.followWith_append (linkFree_bait p q), hfollow]
    show Tree.followWith chase (bait p q).root e [fileName] = _
    rw [Tree.followWith, hget]
    simp only [linkFree_bait p q (e ++ [fileName])]
    rfl
  -- the place that is found is the one that `q` leads to
  have hsite : e = q.route.landing (baitOrigin p) := by
    have hland := Tree.eq_foldl_of_followWith (linkFree_bait p q) hall
    rw [← horigin, ← Path.landing_route (Tree.origin_of_rooted _ _), horigin,
      Path.landing_join _ q component?_fileName] at hland
    exact List.append_cancel_right hland
  obtain ⟨n, hn⟩ := Option.isSome_iff_exists.mp
    ((isSome_get?_fileName (fileName_notMem_baitNames hpieces) hmem hlength).mpr hsite)
  refine Tree.exists?_iff.mpr ⟨e ++ [fileName], n, Tree.resolve_of_follow ?_ hfits ?_ hn⟩
  · simp [hps]
  · rw [hchase, horigin, hall]

end Bait

lemma nested_of_enclosing (hfits : ∀ f ∈ p :: places p, f.fits = true)
    (hpieces : ∀ s ∈ p.pieces, s.fits = true ∧ s ≠ fileName) (h : Enclosing p) : p.Nested := by
  intro q hq
  by_cases hnil : p.pieces = []
  · rw [Path.ancestors_eq_cons, Path.parent?_of_pieces_eq_nil hnil] at hq
    obtain rfl := List.mem_singleton.mp hq
    exact ⟨rfl, List.prefix_rfl⟩
  have hplace : (q.join fileName).fits = true :=
    hfits _ (List.mem_cons_of_mem p (List.mem_map_of_mem hq))
  obtain ⟨es, hresolve, hmem, hlength⟩ :=
    resolve_bait hpieces (q := q) hnil (hfits p List.mem_cons_self)
  obtain ⟨f, hfind⟩ : ∃ f, find? (bait p q) p = some f := by
    rw [find?, findFrom?_of_ascends _ p.ascends_ancestors, ← Option.isSome_iff_exists,
      Option.isSome_map, List.find?_isSome]
    exact ⟨q, hq, exists?_bait hpieces hq hplace⟩
  obtain ⟨e, n, hf, hbefore⟩ := h (bait p q) _ es f (linkFree_bait p q) hresolve hfind
  have hsite : e = q.route.landing (baitOrigin p) := by
    apply (isSome_get?_fileName (fileName_notMem_baitNames hpieces)
      (fun k hk => hmem k (hbefore.subset hk)) (hbefore.length_le.trans hlength)).mp
    exact Option.isSome_iff_exists.mpr ⟨n, (Tree.resolve_eq_ok_iff.mp hf).2⟩
  obtain ⟨cs, -, hroute⟩ := Path.route_of_mem_ancestors hq
  have hle : q.route.ups ≤ p.route.ups := hroute ▸ Route.ups_le_foldl p.rooted q.route cs
  rw [hsite, Route.landing, baitOrigin, List.length_replicate, List.take_replicate] at hbefore
  rcases Nat.eq_or_lt_of_le hle with hups | hlt
  · rw [hups, Nat.sub_self, Nat.zero_min, List.replicate_zero, List.nil_append] at hbefore
    exact ⟨hups, hbefore⟩
  -- otherwise the file is under the name that the path does not come down by
  · obtain ⟨m, hm⟩ : ∃ m, min (p.route.ups - q.route.ups) p.route.ups = m + 1 :=
      ⟨min (p.route.ups - q.route.ups) p.route.ups - 1, by omega⟩
    obtain ⟨rest, hrest⟩ := hbefore
    rw [hm, List.replicate_succ, List.cons_append, List.cons_append] at hrest
    have hhead : p.route.names.head? = some (stranger p.route.names) := by
      simpa using (congrArg List.head? hrest).symm
    exact absurd hhead (head?_ne_stranger p.route.names)

lemma settingsDir_of_dir {o : CheckOptions} {d : List Name} {es : List (Name × Node)}
    (h : t.resolve (Path.ofString o.path) = .ok (d, .dir es)) :
    o.settingsDir t = Path.ofString o.path := by
  have hfile : t.isFile (Path.ofString o.path) = false := by rw [Tree.isFile, h]
  simp [CheckOptions.settingsDir, hfile]

theorem enclosing_nested (p : Path) :
    (.up ∉ p.components → p.Nested) ∧ (p.Nested → Enclosing p) ∧
      ((∀ f ∈ p :: places p, f.fits = true) →
        (∀ s ∈ p.pieces, s.fits = true ∧ s ≠ fileName) → Enclosing p → p.Nested) ∧
      ∀ (o : CheckOptions) t d es, Path.ofString o.path = p → t.resolve p = .ok (d, .dir es) →
        o.settingsDir t = p := by
  refine ⟨Path.nested_of_not_up, enclosing_of_nested, nested_of_enclosing, ?_⟩
  rintro o t d es rfl h
  exact settingsDir_of_dir h

theorem enclosing_nested_spellings :
    (Path.ofString "/srv//site/./pages/").Nested ∧ Enclosing (Path.ofString "a/../a/b") ∧
      ¬ Enclosing (Path.ofString "../d") ∧
      ∃ (t : Tree) (d : List Name) (es : List (Name × Node)),
        t.resolve (Path.ofString "a/..") = .ok (d, .dir es) ∧
        ({ path := "a/.." } : CheckOptions).settingsDir t = Path.ofString "a/.." := by
  let t : Tree := ⟨.dir [("a", .dir [])], []⟩
  refine ⟨(enclosing_nested _).1 (by decide +kernel), (enclosing_nested _).2.1 (by decide +kernel),
    fun h => ?_, t, [], [("a", .dir [])], rfl, (enclosing_nested _).2.2.2 _ t _ _ rfl rfl⟩
  have hnested := (enclosing_nested _).2.2.1 (by decide +kernel) (by decide +kernel) h
  revert hnested
  decide +kernel

/-- From `a/..` the settings of `a` hold for the directory around it. -/
theorem not_enclosing_inner :
    ∃ (t : Tree) (o : CheckOptions) (es : List (Name × Node)) (n : Node), t.root.LinkFree ∧
      t.resolve (Path.ofString o.path) = .ok (["w"], .dir es) ∧
      find? t (Path.ofString o.path) = some (Path.ofString "a/domxss.toml") ∧
      t.resolve (Path.ofString "a/domxss.toml") = .ok (["w", "a", fileName], n) ∧
      ¬ (["w", "a"] : List Name) <+: ["w"] ∧ ¬ Enclosing (Path.ofString o.path) ∧
      ({} : Settings).scripts = .first ∧ (nearest t (o.settingsDir t)).settings.scripts = .all := by
  let file : Node := .file "[scan]\nscripts = \"all\"".toUTF8.toList
  let t : Tree := ⟨.dir [("w", .dir [("a", .dir [(fileName, file)])])], ["w"]⟩
  have hfree : t.root.LinkFree := by
    repeat
      refine Node.linkFree_dir fun entry hentry => ?_
      rw [List.mem_singleton.mp hentry]
    exact Node.linkFree_file _
  have hresolve : t.resolve (Path.ofString "a/..") = .ok (["w"], .dir [("a", .dir [(fileName, file)])]) :=
    rfl
  have hfind : find? t (Path.ofString "a/..") = some (Path.ofString "a/domxss.toml") := by
    rw [find?, findFrom?_of_ascends _ (Path.ascends_ancestors _)]
    decide +kernel
  have hinner : t.resolve (Path.ofString "a/domxss.toml") = .ok (["w", "a", fileName], file) := rfl
  refine ⟨t, { path := "a/.." }, [("a", .dir [(fileName, file)])], file, hfree, hresolve, hfind,
    hinner, by decide, fun h => ?_, rfl, ?_⟩
  · obtain ⟨e, n, he, hbefore⟩ := h t _ _ _ hfree hresolve hfind
    rw [hinner] at he
    obtain ⟨he, -⟩ := Prod.mk.inj (Except.ok.inj he)
    obtain rfl : (["w", "a"] : List Name) = e := List.append_cancel_right he
    revert hbefore
    decide
  · rw [settingsDir_of_dir hresolve, nearest, hfind]
    decide +kernel

end Settings

end TaintGrep
