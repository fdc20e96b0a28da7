import TaintGrep.Proofs.Scanning
import TaintGrep.Taint.Call

/-! The calls of a sink by the positions where they start. Of the calls that start in a script, those
are found that do not start inside one found before. -/

namespace TaintGrep.Call

open TaintGrep.Text

def Spelling.Spells (s : Spelling) (name : String) : Prop :=
  s.name.map fold = name.toList.map fold ∧ (∀ c ∈ s.gap, c = ' ') ∧
    ∀ c ∈ s.arguments, c ≠ ')' ∧ c ≠ '\n'

def StartsAt (name script : String) (p : Nat) (s : Spelling) : Prop :=
  s.Spells name ∧ ∃ rest, ContinuesAt script.toList p (s.chars ++ rest)

def stop (c : Call) : Nat := c.offset + byteLength c.text.toList

lemma isArgument_iff {c : Char} : isArgument c = true ↔ c ≠ ')' ∧ c ≠ '\n' := by
  simp [isArgument]

lemma spelling?_eq_some_iff {name : String} {cs : List Char} {s : Spelling} :
    spelling? name.toList cs = some s ↔ s.Spells name ∧ ∃ rest, cs = s.chars ++ rest := by
  simp only [Spelling.Spells, ← isArgument_iff]
  constructor
  · intro h
    obtain ⟨hr, hn, hg, ha⟩ := spelling?_eq_some h
    exact ⟨⟨hn, hg, ha⟩, hr⟩
  · rintro ⟨⟨hn, hg, ha⟩, rest, rfl⟩
    exact spelling?_append rest hn hg ha

lemma Spelling.chars_ne_nil (s : Spelling) : s.chars ≠ [] := by simp [Spelling.chars]

lemma reads_spelling? (name : String) : Reads (spelling? name.toList) Spelling.chars where
  begins h := (spelling?_eq_some_iff.mp h).2
  nonempty {_ s} _ := s.chars_ne_nil

variable {name script : String} {p : Nat} {s s' : Spelling}

lemma StartsAt.unique (h : StartsAt name script p s) (h' : StartsAt name script p s') : s = s' := by
  obtain ⟨hs, r, hr⟩ := h
  obtain ⟨hs', r', hr'⟩ := h'
  have he := spelling?_eq_some_iff.mpr ⟨hs, r, rfl⟩
  rw [hr.unique hr', spelling?_eq_some_iff.mpr ⟨hs', r', rfl⟩] at he
  exact (Option.some.inj he).symm

lemma scanned_find (name script : String) :
    ∃ ms, Scanned (spelling? name.toList) Spelling.chars Place.start script.toList ms ∧
      find .all name script = ms.map fun m => ofSpelling name m.1 m.2 :=
  ⟨_, scanned_scan (reads_spelling? name) script.toList, rfl⟩

lemma sink_of_mem_find {c : Call} (h : c ∈ find .all name script) : c.sink = name := by
  obtain ⟨m, -, rfl⟩ := List.mem_map.mp h
  rfl

lemma startsAt_of_mem_find {c : Call} (h : c ∈ find .all name script) :
    ∃ s, StartsAt name script c.offset s ∧
      c.text = String.ofList s.chars ∧ c.arguments = String.ofList s.arguments := by
  obtain ⟨ms, hs, hf⟩ := scanned_find name script
  rw [hf] at h
  obtain ⟨m, hm, rfl⟩ := List.mem_map.mp h
  obtain ⟨passed, rest, hcs, hp, hfind⟩ := hs.sound hm
  refine ⟨m.2, ⟨(spelling?_eq_some_iff.mp hfind).1, rest, passed, hcs, ?_⟩, rfl, rfl⟩
  simp [ofSpelling, hp, Place.start_advance]

lemma argument_of_mem_find {m : ScanMode} {c : Call} (h : c ∈ find m name script) :
    ∀ x ∈ c.arguments.toList, x ≠ ')' ∧ x ≠ '\n' := by
  have hall : c ∈ find .all name script := (ScanMode.keep_sublist m _).subset h
  obtain ⟨s, ⟨⟨-, -, harguments⟩, -⟩, -, hc⟩ := startsAt_of_mem_find hall
  rwa [hc, String.toList_ofList]

lemma find_disjoint (name script : String) :
    (find .all name script).Pairwise fun c d => c.stop ≤ d.offset := by
  obtain ⟨ms, hs, hf⟩ := scanned_find name script
  rw [hf, List.pairwise_map]
  refine hs.disjoint.imp fun {m n} h => ?_
  simpa [stop, ofSpelling] using h

lemma exists_mem_find (h : StartsAt name script p s) :
    ∃ c ∈ find .all name script, c.offset ≤ p ∧ p < c.stop := by
  obtain ⟨ms, hs, hf⟩ := scanned_find name script
  obtain ⟨hn, rest, hr⟩ := h
  have hfind := spelling?_eq_some_iff.mpr ⟨hn, rest, rfl⟩
  obtain ⟨m, hm, hle, hlt⟩ := hs.complete hr (by simp [s.chars_ne_nil]) hfind
  refine ⟨ofSpelling name m.1 m.2, hf ▸ List.mem_map_of_mem hm, ?_⟩
  simpa [stop, ofSpelling, Place.start] using And.intro hle hlt

lemma stop_eq {c : Call} (h : c ∈ find .all name script) (hs : StartsAt name script c.offset s) :
    c.stop = c.offset + byteLength s.chars := by
  obtain ⟨s', hs', ht, -⟩ := startsAt_of_mem_find h
  obtain rfl := hs.unique hs'
  rw [stop, ht, String.toList_ofList]

lemma offset_lt_stop {c : Call} (h : c ∈ find .all name script) : c.offset < c.stop := by
  obtain ⟨s, hs, -⟩ := startsAt_of_mem_find h
  have hpos := byteLength_pos s.chars_ne_nil
  rw [stop_eq h hs]
  omega

lemma find_increasing (name script : String) :
    (find .all name script).Pairwise fun c d => c.offset < d.offset ∧ c.stop ≤ d.offset :=
  (find_disjoint name script).imp_of_mem fun hc _ h =>
    ⟨Nat.lt_of_lt_of_le (offset_lt_stop hc) h, h⟩

lemma stop_le_of_offset_lt {c d : Call} (hc : c ∈ find .all name script)
    (hd : d ∈ find .all name script) (h : c.offset < d.offset) : c.stop ≤ d.offset := by
  have hi := find_increasing name script
  refine List.Pairwise.forall_of_forall_of_flip
    (R := fun c d : Call => c.offset < d.offset → c.stop ≤ d.offset) ?_ ?_ ?_ hc hd h
  · exact fun c _ hlt => absurd hlt (Nat.lt_irrefl _)
  · exact hi.imp fun hcd _ => hcd.2
  · exact hi.imp fun hcd hlt => absurd hlt (Nat.lt_asymm hcd.1)

theorem find_exact (name script : String) :
    (∀ p s s', StartsAt name script p s → StartsAt name script p s' → s = s') ∧
    ((find .all name script).Pairwise fun c d => c.offset < d.offset ∧ c.stop ≤ d.offset) ∧
    (∀ c ∈ find .all name script, c.sink = name ∧ ∃ s, StartsAt name script c.offset s ∧
      c.text = String.ofList s.chars ∧ c.arguments = String.ofList s.arguments) ∧
    (∀ p s, StartsAt name script p s →
      ∃ c ∈ find .all name script, c.offset = p ∨ c.offset < p ∧ p < c.stop) ∧
    find .first name script = (find .all name script).head?.toList := by
  refine ⟨fun p s s' h h' => h.unique h', find_increasing name script, ?_, ?_, ?_⟩
  · intro c hc
    exact ⟨sink_of_mem_find hc, startsAt_of_mem_find hc⟩
  · intro p s h
    obtain ⟨c, hc, hle, hlt⟩ := exists_mem_find h
    rcases Nat.eq_or_lt_of_le hle with heq | hcp
    · exact ⟨c, hc, Or.inl heq⟩
    · exact ⟨c, hc, Or.inr ⟨hcp, hlt⟩⟩
  · simp only [find, ScanMode.keep_first, ScanMode.keep_all]
    exact List.take_one

theorem find_exact_nested :
    StartsAt "eval" "EVAL (eval(x) + eval(y)" 6 ⟨"eval".toList, [], ['x']⟩ ∧
      ∃ c ∈ find .all "eval" "EVAL (eval(x) + eval(y)", c.offset = 6 ∨ c.offset < 6 ∧ 6 < c.stop := by
  have h : StartsAt "eval" "EVAL (eval(x) + eval(y)" 6 ⟨"eval".toList, [], ['x']⟩ :=
    ⟨⟨rfl, by simp, by simp⟩, " + eval(y)".toList, "EVAL (".toList, by decide, by decide⟩
  exact ⟨h, (find_exact _ _).2.2.2.1 6 _ h⟩

/-- A call starts here, and no reported call that starts before reaches beyond this position. -/
def Reported (name script : String) (p : Nat) : Prop :=
  (∃ s, StartsAt name script p s) ∧ ∀ q, q < p → Reported name script q →
    ∀ s, StartsAt name script q s → q + byteLength s.chars ≤ p
termination_by p

lemma reported_iff : Reported name script p ↔ ∃ c ∈ find .all name script, c.offset = p := by
  induction p using Nat.strongRecOn with
  | ind p ih =>
    rw [Reported]
    constructor
    · rintro ⟨⟨s, hs⟩, hbefore⟩
      obtain ⟨c, hc, hle, hlt⟩ := exists_mem_find hs
      rcases Nat.eq_or_lt_of_le hle with heq | hcp
      · exact ⟨c, hc, heq⟩
      · obtain ⟨s', hs', -⟩ := startsAt_of_mem_find hc
        have hp := hbefore c.offset hcp ((ih _ hcp).mpr ⟨c, hc, rfl⟩) s' hs'
        rw [stop_eq hc hs'] at hlt
        omega
    · rintro ⟨c, hc, rfl⟩
      obtain ⟨s, hs, -⟩ := startsAt_of_mem_find hc
      refine ⟨⟨s, hs⟩, fun q hq hr s' hs' => ?_⟩
      obtain ⟨d, hd, rfl⟩ := (ih q hq).mp hr
      rw [← stop_eq hd hs']
      exact stop_le_of_offset_lt hd hc hq

end TaintGrep.Call
