import TaintGrep.Record.Basic

/-!
Collapsed views of a list of records: the first record of each address, or of each address and
highlight list.
-/

namespace TaintGrep

inductive Uniqueness where
  | none
  | url
  | var
  deriving DecidableEq, Repr, Inhabited

def Uniqueness.label : Uniqueness → String
  | .none => "none"
  | .url => "url"
  | .var => "var"

/-- What makes two records count as one; without a key no two do. -/
def Uniqueness.key? : Uniqueness → Record → Option (String × List String)
  | .none, _ => .none
  | .url, r => some (r.url, [])
  | .var, r => some (r.url, r.highlight)

namespace Record

def uniqueFrom (u : Uniqueness) : List (String × List String) → List Record → List Record
  | _, [] => []
  | seen, r :: rs =>
    match u.key? r with
    | .none => r :: uniqueFrom u seen rs
    | some k => if k ∈ seen then uniqueFrom u seen rs else r :: uniqueFrom u (k :: seen) rs

def unique (u : Uniqueness) (rs : List Record) : List Record :=
  uniqueFrom u [] rs

theorem uniqueFrom_none (seen : List (String × List String)) (rs : List Record) :
    uniqueFrom .none seen rs = rs := by
  induction rs with
  | nil => rfl
  | cons r rs ih => rw [uniqueFrom, Uniqueness.key?, ih]

@[simp] theorem unique_none (rs : List Record) : unique .none rs = rs :=
  uniqueFrom_none [] rs

theorem uniqueFrom_sublist (u : Uniqueness) (seen : List (String × List String))
    (rs : List Record) : (uniqueFrom u seen rs).Sublist rs := by
  induction rs generalizing seen with
  | nil => exact List.Sublist.refl []
  | cons r rs ih =>
    rw [uniqueFrom]
    split
    · exact (ih seen).cons_cons r
    · split
      · exact (ih seen).cons r
      · exact (ih _).cons_cons r

theorem unique_sublist (u : Uniqueness) (rs : List Record) : (unique u rs).Sublist rs :=
  uniqueFrom_sublist u [] rs

def urls (rs : List Record) : List String :=
  (rs.map Record.url).foldl (fun us u => if u ∈ us then us else us ++ [u]) []

end Record

end TaintGrep
