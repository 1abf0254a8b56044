/-!
Lists of keys with values, in which every key stands at most once. `put` keeps a key where it first
stood, `putSorted` keeps the keys in order; in both the last value put for a key is the one found.
-/

namespace RouteDoc.Assoc

variable {κ α : Type} [DecidableEq κ]

/-- The list with `value` for `key`: in place of an older value, or at the end. -/
def put (key : κ) (value : α) : List (κ × α) → List (κ × α)
  | [] => [(key, value)]
  | (k, v) :: rest => if k = key then (key, value) :: rest else (k, v) :: put key value rest

/-- The list, sorted by `lt`, with `value` for `key`. -/
def putSorted (lt : κ → κ → Bool) (key : κ) (value : α) : List (κ × α) → List (κ × α)
  | [] => [(key, value)]
  | (k, v) :: rest =>
    if k = key then (key, value) :: rest
    else if lt key k then (key, value) :: (k, v) :: rest
    else (k, v) :: putSorted lt key value rest

/-- Names are ordered by their characters. -/
def nameBefore (a b : String) : Bool :=
  decide (a < b)

def get? (key : κ) : List (κ × α) → Option α
  | [] => none
  | (k, v) :: rest => if k = key then some v else get? key rest

def has (key : κ) (list : List (κ × α)) : Bool :=
  (get? key list).isSome

theorem get?_put (key other : κ) (value : α) (list : List (κ × α)) :
    get? other (put key value list) = if key = other then some value else get? other list := by
  induction list with
  | nil => rfl
  | cons entry list ih =>
    obtain ⟨k, v⟩ := entry
    simp only [put]
    split
    · rename_i hk
      subst hk
      by_cases hother : k = other <;> simp [get?, hother]
    · rename_i hk
      by_cases hother : k = other
      · have hne : key ≠ other := fun heq => hk (hother.trans heq.symm)
        simp [get?, hother, hne]
      · simp [get?, hother, ih]

end RouteDoc.Assoc
