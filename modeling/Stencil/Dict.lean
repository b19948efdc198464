/-! Dictionaries as association lists with ascending keys. Keys are ordered by code point. -/
namespace Stencil

/-- An association list; `insert` keeps its keys ascending. -/
abbrev Dict (α : Type) := List (String × α)

namespace Dict
variable {α : Type}

/-- The value stored under `key`. -/
def get? (d : Dict α) (key : String) : Option α := d.lookup key

/-- Whether something is stored under `key`. -/
def contains (d : Dict α) (key : String) : Bool := (get? d key).isSome

/-- Stores `value` under `key`, replacing what was there. -/
def insert (key : String) (value : α) : Dict α → Dict α
  | [] => [(key, value)]
  | (k, v) :: rest =>
    if key < k then (key, value) :: (k, v) :: rest
    else if key = k then (key, value) :: rest
    else (k, v) :: insert key value rest

/-- Removes `key` and what is stored under it. -/
def erase (d : Dict α) (key : String) : Dict α := d.filter (·.1 != key)

/-- The keys in ascending order. -/
def keys (d : Dict α) : List String := d.map (·.1)

/-- The values in the order of their keys. -/
def values (d : Dict α) : List α := d.map (·.2)

/-- Stores the pairs one after the other, so that the last one of a key stays. -/
def ofList (pairs : List (String × α)) : Dict α :=
  pairs.foldl (fun d p => insert p.1 p.2 d) []

/-- Stores the pairs of `upper` on top of those of `d`. -/
def overlay (d upper : Dict α) : Dict α :=
  upper.foldl (fun d p => insert p.1 p.2 d) d

/-- The keys are strictly ascending, so that each occurs once. -/
def Ascending (d : Dict α) : Prop := (keys d).Pairwise (· < ·)

@[simp] theorem get?_nil (key : String) : get? ([] : Dict α) key = none := rfl

theorem get?_cons (k : String) (v : α) (d : Dict α) (key : String) :
    get? ((k, v) :: d) key = if key = k then some v else get? d key := by
  by_cases h : key = k
  · simp [get?, h]
  · have h' : (key == k) = false := by simpa using h
    simp [get?, List.lookup_cons, h, h']

/-- Looking up after storing: the new value under the key, all else as before. -/
theorem get?_insert (key : String) (value : α) (d : Dict α) (k : String) :
    get? (insert key value d) k = if k = key then some value else get? d k := by
  induction d with
  | nil => simp [insert, get?_cons]
  | cons p rest ih =>
    obtain ⟨k', v'⟩ := p
    unfold insert
    split
    · simp [get?_cons]
    · split
      · rename_i _ h
        subst h
        by_cases hk : k = key <;> simp [get?_cons, hk]
      · rename_i _ h
        rw [get?_cons, ih, get?_cons]
        by_cases hk : k = key <;> by_cases hk' : k = k' <;> simp_all

@[simp] theorem get?_insert_self (key : String) (value : α) (d : Dict α) :
    get? (insert key value d) key = some value := by simp [get?_insert]

@[simp] theorem ascending_nil : Ascending ([] : Dict α) := List.Pairwise.nil

end Dict

end Stencil
