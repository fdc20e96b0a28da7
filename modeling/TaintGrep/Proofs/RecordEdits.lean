import Mathlib.Data.List.Forall2
import Mathlib.Data.List.Infix
import TaintGrep.Proofs.PageRecords

/-! Records under any sequence of edits. Each field is that of the last edit which sets it, and the highlight
list holds the snippets since the last rebuild in the order of their first occurrence. -/

namespace TaintGrep.Record

namespace Edit

def isRebuild : Edit → Bool
  | .rebuild _ => true
  | _ => false

def finding? : Edit → Option Finding
  | .finding f => some f
  | .rebuild f => some f
  | _ => none

def snippet? : Edit → Option String
  | .highlight snippet => some snippet
  | .finding f => some f.highlight
  | .rebuild f => some f.highlight
  | _ => none

def severity? : Edit → Option Severity
  | .severity s => some s
  | .rebuild f => some (if f.kind = .taintedSink then .low else .information)
  | _ => none

def description? (url : String) : Edit → Option String
  | .description d => some d
  | .rebuild f => some (f.account url)
  | _ => none

end Edit

def last? {α : Type} (set? : Edit → Option α) (es : List Edit) : Option α := es.reverse.findSome? set?

def sinceRebuild : List Edit → List Edit
  | [] => []
  | e :: es => if es.any Edit.isRebuild then sinceRebuild es else e :: es

def snippets (es : List Edit) : List String := (sinceRebuild es).filterMap Edit.snippet?

structure FirstsOf (all l : List String) : Prop where
  mem_iff : ∀ s, s ∈ l ↔ s ∈ all
  ordered : l.Pairwise fun s t => all.idxOf s < all.idxOf t

structure Follows (page : String) (id : Nat) (es : List Edit) (r : Record) : Prop where
  url : r.url = page
  responseId : r.responseId = id
  nodup : r.highlight.Nodup
  highlight : FirstsOf (snippets es) r.highlight
  sink : r.sink = ((last? Edit.finding? es).map Finding.sink).getD ""
  source : r.source = ((last? Edit.finding? es).map Finding.source).getD none
  line : r.line = ((last? Edit.finding? es).map Finding.line).getD 0
  severity : r.severity = (last? Edit.severity? es).getD .low
  description : r.description = (last? (Edit.description? page) es).getD ""

lemma last?_concat {α : Type} (set? : Edit → Option α) (es : List Edit) (e : Edit) :
    last? set? (es ++ [e]) = (set? e).or (last? set? es) := by
  rw [last?, List.reverse_concat, List.findSome?_cons, ← last?]
  cases set? e <;> rfl

lemma sinceRebuild_concat (es : List Edit) (e : Edit) :
    sinceRebuild (es ++ [e]) = if e.isRebuild then [e] else sinceRebuild es ++ [e] := by
  induction es with
  | nil => simp [sinceRebuild]
  | cons a es ih =>
    rw [List.cons_append, sinceRebuild, sinceRebuild, ih, List.any_append]
    by_cases he : e.isRebuild = true
    · simp [he]
    · by_cases hes : es.any Edit.isRebuild = true <;> simp [he, hes]

lemma snippets_concat (es : List Edit) (e : Edit) : snippets (es ++ [e]) =
    if e.isRebuild then e.snippet?.toList else snippets es ++ e.snippet?.toList := by
  have hone : [e].filterMap Edit.snippet? = e.snippet?.toList := by
    cases h : e.snippet? <;> simp [h]
  rw [snippets, sinceRebuild_concat]
  split
  · exact hone
  · rw [List.filterMap_append, hone, snippets]

namespace FirstsOf

variable {all l : List String} {s : String}

lemma nodup (h : FirstsOf all l) : l.Nodup := by
  refine h.ordered.imp fun {s t} hlt => ?_
  rintro rfl
  exact Nat.lt_irrefl _ hlt

lemma again (h : FirstsOf all l) (hs : s ∈ l) : FirstsOf (all ++ [s]) l := by
  have hall : s ∈ all := (h.mem_iff s).mp hs
  refine ⟨fun t => ?_, h.ordered.imp_of_mem fun {t u} ht hu hlt => ?_⟩
  · rw [h.mem_iff, List.mem_append, List.mem_singleton, or_iff_left_of_imp fun he => he ▸ hall]
  · rwa [List.idxOf_append_of_mem ((h.mem_iff t).mp ht), List.idxOf_append_of_mem ((h.mem_iff u).mp hu)]

lemma concat (h : FirstsOf all l) (hs : s ∉ l) : FirstsOf (all ++ [s]) (l ++ [s]) := by
  have hall : s ∉ all := fun hmem => hs ((h.mem_iff s).mpr hmem)
  have hold : ∀ t ∈ l, (all ++ [s]).idxOf t = all.idxOf t :=
    fun t ht => List.idxOf_append_of_mem ((h.mem_iff t).mp ht)
  refine ⟨fun t => ?_, List.pairwise_append.mpr ⟨?_, List.pairwise_singleton _ _, fun t ht u hu => ?_⟩⟩
  · rw [List.mem_append, List.mem_append, h.mem_iff]
  · refine h.ordered.imp_of_mem fun {t u} ht hu hlt => ?_
    rwa [hold t ht, hold u hu]
  · rw [List.mem_singleton.mp hu, hold t ht, List.idxOf_append_of_notMem hall]
    exact Nat.lt_add_right _ (List.idxOf_lt_length_of_mem ((h.mem_iff t).mp ht))

end FirstsOf

lemma highlight_addHighlight (r : Record) (s : String) : (r.addHighlight s).highlight =
    if s ∈ r.highlight then r.highlight else r.highlight ++ [s] := by
  rw [addHighlight]
  split <;> rfl

lemma firstsOf_addHighlight {all : List String} {r : Record} (h : FirstsOf all r.highlight) (s : String) :
    FirstsOf (all ++ [s]) (r.addHighlight s).highlight := by
  rw [highlight_addHighlight]
  split
  · rename_i hs
    exact h.again hs
  · rename_i hs
    exact h.concat hs

lemma edit_eq (r : Record) (e : Edit) : r.edit e =
    { r.edit e with
      url := r.url
      responseId := r.responseId
      sink := (e.finding?.map Finding.sink).getD r.sink
      source := (e.finding?.map Finding.source).getD r.source
      line := (e.finding?.map Finding.line).getD r.line
      severity := e.severity?.getD r.severity
      description := (e.description? r.url).getD r.description } := by
  cases e with
  | severity s => rfl
  | description d => rfl
  | highlight s =>
    rw [edit, addHighlight]
    split <;> rfl
  | finding f =>
    rw [edit, withFinding, addHighlight]
    split <;> rfl
  | rebuild f => cases f <;> rfl

lemma firstsOf_edit {es : List Edit} {r : Record} (h : FirstsOf (snippets es) r.highlight) (e : Edit) :
    FirstsOf (snippets (es ++ [e])) (r.edit e).highlight := by
  rw [snippets_concat]
  cases e with
  | severity s => exact (List.append_nil (snippets es)).symm ▸ h
  | description d => exact (List.append_nil (snippets es)).symm ▸ h
  | highlight s => exact firstsOf_addHighlight h s
  | finding f => exact firstsOf_addHighlight h f.highlight
  | rebuild f =>
    rw [edit, ofFinding_highlight]
    exact ⟨fun _ => Iff.rfl, List.pairwise_singleton _ _⟩

namespace Follows

variable {page : String} {id : Nat} {es : List Edit} {r : Record}

lemma new (plugin title page : String) (id : Nat) : Follows page id [] (new plugin title page id) where
  url := rfl
  responseId := rfl
  nodup := List.nodup_nil
  highlight := ⟨fun _ => Iff.rfl, List.Pairwise.nil⟩
  sink := rfl
  source := rfl
  line := rfl
  severity := rfl
  description := rfl

lemma edit (h : Follows page id es r) (e : Edit) : Follows page id (es ++ [e]) (r.edit e) where
  url := (congrArg Record.url (edit_eq r e)).trans h.url
  responseId := (congrArg Record.responseId (edit_eq r e)).trans h.responseId
  nodup := (firstsOf_edit h.highlight e).nodup
  highlight := firstsOf_edit h.highlight e
  sink := by
    rw [edit_eq, last?_concat, h.sink]
    cases e.finding? <;> rfl
  source := by
    rw [edit_eq, last?_concat, h.source]
    cases e.finding? <;> rfl
  line := by
    rw [edit_eq, last?_concat, h.line]
    cases e.finding? <;> rfl
  severity := by
    rw [edit_eq, last?_concat, h.severity]
    cases e.severity? <;> rfl
  description := by
    rw [edit_eq, last?_concat, h.description, h.url]
    cases e.description? page <;> rfl

end Follows

lemma history_of_follows {page : String} {id : Nat} {before : List Edit} {r : Record}
    (h : Follows page id before r) (es : List Edit) :
    List.Forall₂ (Follows page id) (es.inits.map (before ++ ·)) (r.history es) := by
  induction es generalizing before r with
  | nil => simpa [history] using h
  | cons e es ih =>
    rw [history, List.inits_cons, List.map_cons, List.append_nil, List.map_map]
    refine .cons h ?_
    simpa [Function.comp_def] using ih (h.edit e)

theorem history_follows (plugin title url : String) (id : Nat) (es : List Edit) :
    List.Forall₂ (Follows url id) es.inits (history (new plugin title url id) es) := by
  simpa using history_of_follows (Follows.new plugin title url id) es

example (f : Finding) : snippets [.highlight "a", .rebuild f, .highlight "b", .highlight f.highlight] =
    [f.highlight, "b", f.highlight] := rfl

end TaintGrep.Record
