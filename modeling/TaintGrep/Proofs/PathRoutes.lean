import TaintGrep.Proofs.SettingsLookup

/-! Where a path leads, by its text alone: so many directories up from where it starts, and then down by
names. In a tree without links a path that can be followed leads there. -/

namespace TaintGrep.Files

structure Route where
  ups : Nat
  names : List Name
  deriving DecidableEq, Repr

def Path.Component.move (names : List Name) : Component → List Name
  | .root | .here => names
  | .up => names.dropLast
  | .name s => names ++ [s]

namespace Route

/-- There is nothing above the root. -/
def step (rooted : Bool) (r : Route) : Path.Component → Route
  | .root | .here => r
  | .up =>
    if r.names ≠ [] then ⟨r.ups, r.names.dropLast⟩
    else if rooted then r else ⟨r.ups + 1, []⟩
  | .name s => ⟨r.ups, r.names ++ [s]⟩

def landing (origin : List Name) (r : Route) : List Name :=
  origin.take (origin.length - r.ups) ++ r.names

variable {rooted : Bool} {origin : List Name} {r : Route} {cs : List Path.Component}

lemma landing_step (h : rooted = true → origin = []) (r : Route) (c : Path.Component) :
    (step rooted r c).landing origin = c.move (r.landing origin) := by
  cases c with
  | root => rfl
  | here => rfl
  | name s => simp [step, landing, Path.Component.move]
  | up =>
    rw [step, Path.Component.move]
    split
    · rename_i hne
      rw [landing, landing, List.dropLast_append_of_ne_nil hne]
    · rename_i hnil
      rw [ne_eq, not_not] at hnil
      split
      · rename_i hr
        simp [landing, hnil, h hr]
      · rw [landing, landing, hnil, List.append_nil, List.append_nil, List.dropLast_eq_take,
          List.take_take, List.length_take]
        congr 1
        dsimp only
        omega

lemma landing_foldl (h : rooted = true → origin = []) (r : Route) (cs : List Path.Component) :
    (cs.foldl (step rooted) r).landing origin = cs.foldl Path.Component.move (r.landing origin) := by
  induction cs generalizing r with
  | nil => rfl
  | cons c cs ih => rw [List.foldl_cons, List.foldl_cons, ih, landing_step h]

lemma ups_le_foldl (rooted : Bool) (r : Route) (cs : List Path.Component) :
    r.ups ≤ (cs.foldl (step rooted) r).ups := by
  induction cs generalizing r with
  | nil => exact Nat.le_refl _
  | cons c cs ih =>
    refine Nat.le_trans ?_ (ih (step rooted r c))
    cases c with
    | root => exact Nat.le_refl _
    | here => exact Nat.le_refl _
    | name s => exact Nat.le_refl _
    | up =>
      rw [step]
      split_ifs
      · exact Nat.le_refl _
      · exact Nat.le_refl _
      · exact Nat.le_succ _

lemma ups_foldl_rooted (r : Route) (cs : List Path.Component) :
    (cs.foldl (step true) r).ups = r.ups := by
  induction cs generalizing r with
  | nil => rfl
  | cons c cs ih =>
    rw [List.foldl_cons, ih]
    cases c with
    | root => rfl
    | here => rfl
    | name s => rfl
    | up =>
      by_cases hnil : r.names = [] <;> simp [step, hnil]

lemma foldl_of_not_up (rooted : Bool) (r : Route) (h : Path.Component.up ∉ cs) :
    (cs.foldl (step rooted) r).ups = r.ups ∧ r.names <+: (cs.foldl (step rooted) r).names := by
  induction cs generalizing r with
  | nil => exact ⟨rfl, List.prefix_rfl⟩
  | cons c cs ih =>
    rw [List.mem_cons, not_or] at h
    obtain ⟨hups, hnames⟩ := ih (step rooted r c) h.2
    cases c with
    | root => exact ⟨hups, hnames⟩
    | here => exact ⟨hups, hnames⟩
    | name s => exact ⟨hups, (List.prefix_append r.names [s]).trans hnames⟩
    | up => exact absurd rfl h.1

end Route

namespace Path

def route (p : Path) : Route := p.components.foldl (Route.step p.rooted) ⟨0, []⟩

variable {p q : Path} {name : Name}

lemma landing_route {origin : List Name} (h : p.rooted = true → origin = []) :
    p.route.landing origin = (p.pieces.filterMap component?).foldl Component.move origin := by
  have hstart : Route.landing origin ⟨0, []⟩ = origin := by simp [Route.landing]
  rw [route, Route.landing_foldl h, hstart, components, List.foldl_append]
  split_ifs <;> rfl

@[simp] lemma rooted_join (p : Path) (name : Name) : (p.join name).rooted = p.rooted := by
  rw [join]
  split <;> rfl

lemma exists_pieces_join (p : Path) (name : Name) :
    ∃ ps, (p.join name).pieces = ps ++ [name] ∧ ps <+: p.pieces := by
  rw [join]
  split
  · exact ⟨p.pieces.dropLast, rfl, List.dropLast_prefix p.pieces⟩
  · exact ⟨p.pieces, rfl, List.prefix_rfl⟩

lemma components_join (p : Path) (h : component? name = some (.name name)) :
    (p.join name).components = p.components ++ [.name name] := by
  have hdot : name ≠ "." := by
    rintro rfl
    cases h
  rw [join]
  split
  · rename_i hlast
    obtain ⟨ps, hps⟩ := List.getLast?_eq_some_iff.mp hlast
    rw [components_concat (Or.inr (Or.inr hdot)), h, Option.toList_some, hps, List.dropLast_concat]
    have hvoid : components ⟨p.rooted, ps ++ [Name.ofString ""]⟩ = components ⟨p.rooted, ps⟩ :=
      components_concat_void (Or.inr (Or.inr (by decide))) (Or.inl rfl)
    rw [← hvoid, ← hps]
  · rw [components_concat (Or.inr (Or.inr hdot)), h, Option.toList_some]

lemma landing_join (origin : List Name) (p : Path) (h : component? name = some (.name name)) :
    (p.join name).route.landing origin = p.route.landing origin ++ [name] := by
  rw [route, components_join p h, rooted_join, List.foldl_append, ← route]
  simp [Route.step, Route.landing]

lemma Ascends.of_mem {chain : List Path} (h : p.Ascends chain) (hq : q ∈ chain) :
    q.rooted = p.rooted ∧ q.components <+: p.components ∧ q.pieces <+: p.pieces := by
  induction h with
  | stop h =>
    obtain rfl := List.mem_singleton.mp hq
    exact ⟨rfl, List.prefix_rfl, List.prefix_rfl⟩
  | up h _ ih =>
    rcases List.mem_cons.mp hq with rfl | hq
    · exact ⟨rfl, List.prefix_rfl, List.prefix_rfl⟩
    · obtain ⟨hrooted, hcomponents, hpieces⟩ := ih hq
      obtain ⟨c, hc⟩ := components_of_parent? h
      exact ⟨hrooted.trans (rooted_of_parent? h), hcomponents.trans ⟨[c], hc.symm⟩,
        hpieces.trans (pieces_of_parent? h)⟩

lemma route_of_mem_ancestors (h : q ∈ p.ancestors) :
    ∃ cs, p.components = q.components ++ cs ∧ p.route = cs.foldl (Route.step p.rooted) q.route := by
  obtain ⟨hrooted, ⟨cs, hcs⟩, -⟩ := p.ascends_ancestors.of_mem h
  refine ⟨cs, hcs.symm, ?_⟩
  rw [route, route, ← hcs, List.foldl_append, hrooted]

end Path

lemma Node.get?_append (ks ls : List Name) (n : Node) :
    n.get? (ks ++ ls) = (n.get? ks).bind (get? ls) := by
  induction ks generalizing n with
  | nil => rfl
  | cons k ks ih =>
    cases n with
    | file bytes => rfl
    | link target => rfl
    | special content => rfl
    | dir es =>
      rw [List.cons_append, get?, get?]
      cases es.lookup k with
      | none => rfl
      | some m => exact ih m

def Node.LinkFree (root : Node) : Prop :=
  ∀ names, root.target? names = none

lemma Node.linkFree_file (bytes : List UInt8) : (file bytes).LinkFree := by
  intro names
  cases names with
  | nil => rfl
  | cons k ks => rfl

lemma Node.linkFree_dir {es : List (Name × Node)} (h : ∀ e ∈ es, e.2.LinkFree) : (dir es).LinkFree := by
  intro names
  cases names with
  | nil => rfl
  | cons k ks =>
    rw [target?, get?]
    cases hlookup : es.lookup k with
    | none => rfl
    | some n =>
      obtain ⟨before, after, rfl, -⟩ := List.lookup_eq_some_iff.mp hlookup
      exact h (k, n) (by simp) ks

namespace Tree

variable {chase : List Name → List Name → Except Fault (List Name)} {root : Node}
  {names ps e : List Name} {t : Tree} {p : Path} {n : Node}

lemma origin_of_rooted (t : Tree) (p : Path) (h : p.rooted = true) : t.origin p = [] := by
  simp [origin, h]

lemma exists_followWith (root : Node) (n : Nat) : ∃ chase, follow root n = followWith chase root := by
  cases n with
  | zero => exact ⟨_, rfl⟩
  | succ n => exact ⟨_, rfl⟩

lemma followWith_append (hfree : root.LinkFree) (names ps qs : List Name) :
    followWith chase root names (ps ++ qs) =
      (followWith chase root names ps).bind fun e => followWith chase root e qs := by
  induction ps generalizing names with
  | nil => rfl
  | cons p ps ih =>
    rw [List.cons_append, followWith, followWith]
    split
    · rfl
    · simp only [hfree (names ++ [p])]
      split_ifs
      · exact ih names
      · exact ih names.dropLast
      · exact ih (names ++ [p])
      · rfl
    · rfl

lemma eq_foldl_of_followWith (hfree : root.LinkFree) (h : followWith chase root names ps = .ok e) :
    e = (ps.filterMap Path.component?).foldl Path.Component.move names := by
  induction ps generalizing names with
  | nil =>
    cases h
    rfl
  | cons p ps ih =>
    rw [followWith] at h
    split at h
    · cases h
    · simp only [hfree (names ++ [p])] at h
      split_ifs at h with hvoid hup hfits
      · rw [ih h, List.filterMap_cons_none (Path.component?_eq_none_iff.mpr hvoid)]
      · have hcomponent : Path.component? p = some .up := by rw [Path.component?, if_neg hvoid, if_pos hup]
        rw [ih h, List.filterMap_cons_some hcomponent]
        rfl
      · have hcomponent : Path.component? p = some (.name p) := by
          rw [Path.component?, if_neg hvoid, if_neg hup]
        rw [ih h, List.filterMap_cons_some hcomponent]
        rfl
    · cases h

lemma resolve_eq_ok_iff : t.resolve p = .ok (e, n) ↔ t.locate p = .ok e ∧ t.root.get? e = some n := by
  rw [resolve]
  constructor
  · intro h
    split at h
    · cases h
    · rename_i names hlocate
      split at h
      · rename_i m hget
        cases h
        exact ⟨hlocate, hget⟩
      · cases h
  · rintro ⟨hlocate, hget⟩
    simp only [hlocate, hget]

lemma landing_of_resolve (hfree : t.root.LinkFree) (h : t.resolve p = .ok (e, n)) :
    e = p.route.landing (t.origin p) := by
  obtain ⟨hlocate, -⟩ := resolve_eq_ok_iff.mp h
  rw [locate] at hlocate
  split_ifs at hlocate
  obtain ⟨chase, hchase⟩ := exists_followWith t.root maxLinks
  rw [hchase] at hlocate
  rw [Path.landing_route (t.origin_of_rooted p)]
  exact eq_foldl_of_followWith hfree hlocate

lemma resolve_of_follow (hne : p.pieces ≠ []) (hfits : p.fits = true)
    (hfollow : follow t.root maxLinks (t.origin p) p.pieces = .ok e) (hget : t.root.get? e = some n) :
    t.resolve p = .ok (e, n) := by
  refine resolve_eq_ok_iff.mpr ⟨?_, hget⟩
  rw [locate, if_neg (fun h => hne h.1), if_neg (by simp [hfits]), hfollow]

lemma exists?_iff : t.exists? p = true ↔ ∃ e n, t.resolve p = .ok (e, n) := by
  rw [exists?]
  cases t.resolve p with
  | error f => simp [Except.isOk, Except.toBool]
  | ok x =>
    obtain ⟨e, n⟩ := x
    simp [Except.isOk, Except.toBool]

end Tree

end TaintGrep.Files
