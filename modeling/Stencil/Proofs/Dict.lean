import Mathlib.Tactic.Common
import Stencil.Dict

/-! The pairs of a dictionary after storing, and what looking up says about them. -/
namespace Stencil.Dict

variable {α : Type}

/-- What is found is one of the pairs. -/
lemma mem_of_get? {d : Dict α} {key : String} {value : α} (h : get? d key = some value) :
    (key, value) ∈ d := by
  induction d with
  | nil => simp at h
  | cons p rest ih =>
    obtain ⟨k, v⟩ := p
    rw [get?_cons] at h
    split at h
    · rename_i hk
      cases h
      rw [hk]
      exact List.mem_cons_self
    · exact List.mem_cons_of_mem _ (ih h)

lemma mem_keys_iff {d : Dict α} {key : String} : key ∈ keys d ↔ contains d key = true := by
  induction d with
  | nil => simp [keys, contains]
  | cons p rest ih =>
    obtain ⟨k, v⟩ := p
    simp only [keys, contains, List.map_cons, List.mem_cons, get?_cons] at *
    by_cases h : key = k
    · simp [h]
    · simpa [h] using ih

lemma get?_eq_none_iff {d : Dict α} {key : String} : get? d key = none ↔ key ∉ keys d := by
  rw [mem_keys_iff, contains, Option.isSome_iff_ne_none, not_not]

/-- Where each key occurs once, every pair is found. -/
lemma get?_eq_some_iff {d : Dict α} (h : (keys d).Nodup) {key : String} {value : α} :
    get? d key = some value ↔ (key, value) ∈ d := by
  refine ⟨mem_of_get?, fun hmem => ?_⟩
  induction d with
  | nil => cases hmem
  | cons p rest ih =>
    obtain ⟨hfresh, hrest⟩ := List.nodup_cons.mp h
    rw [get?_cons]
    rcases List.mem_cons.mp hmem with rfl | hmem
    · exact if_pos rfl
    · have hkey : key ∈ keys rest := List.mem_map_of_mem hmem
      rw [if_neg (ne_of_mem_of_not_mem hkey hfresh)]
      exact ih hrest hmem

/-- Storing adds one pair and keeps only pairs that were there. -/
lemma mem_insert {key : String} {value : α} {d : Dict α} {p : String × α}
    (h : p ∈ insert key value d) : p = (key, value) ∨ p ∈ d := by
  induction d with
  | nil => simpa [insert] using h
  | cons q rest ih =>
    obtain ⟨k, v⟩ := q
    simp only [insert] at h
    split at h
    · simpa using h
    · split at h
      · rcases List.mem_cons.mp h with h | h
        · exact .inl h
        · exact .inr (List.mem_cons_of_mem _ h)
      · rcases List.mem_cons.mp h with h | h
        · exact .inr (List.mem_cons.mpr (.inl h))
        · exact (ih h).imp_right (List.mem_cons_of_mem _)

/-- Storing under a new key loses no pair. -/
lemma perm_insert {key : String} {d : Dict α} (h : key ∉ keys d) (value : α) :
    (insert key value d).Perm ((key, value) :: d) := by
  induction d with
  | nil => exact .refl _
  | cons p rest ih =>
    obtain ⟨hne, hrest⟩ := not_or.mp (mt List.mem_cons.mpr h)
    unfold insert
    split
    · exact .refl _
    · exact ((ih hrest).cons p).trans (.swap _ _ _)

/-- Removing names one after the other leaves the pairs with other names. -/
lemma foldl_erase (names : List String) (d : Dict α) :
    names.foldl erase d = d.filter fun p => p.1 ∉ names := by
  induction names generalizing d with
  | nil => exact (List.filter_eq_self.mpr fun _ _ => by simp).symm
  | cons name more ih =>
    rw [List.foldl_cons, ih, erase, List.filter_filter]
    refine List.filter_congr fun p _ => ?_
    by_cases h : p.1 = name <;> simp [h]

/-- What holds of the pairs of a dictionary and of a new one holds of all pairs after storing. -/
lemma forall_mem_insert {P : String × α → Prop} {key : String} {value : α} {d : Dict α}
    (hnew : P (key, value)) (h : ∀ p ∈ d, P p) : ∀ p ∈ insert key value d, P p := by
  intro p hp
  rcases mem_insert hp with rfl | hp
  · exact hnew
  · exact h p hp

/-- Storing pairs one after the other adds no others. -/
lemma mem_foldl_insert {pairs : List (String × α)} {d : Dict α} {p : String × α}
    (h : p ∈ pairs.foldl (fun d p => insert p.1 p.2 d) d) : p ∈ d ∨ p ∈ pairs := by
  induction pairs generalizing d with
  | nil => exact .inl h
  | cons q more ih =>
    rcases ih h with h | h
    · rcases mem_insert h with rfl | h
      · exact .inr List.mem_cons_self
      · exact .inl h
    · exact .inr (List.mem_cons_of_mem _ h)

lemma mem_ofList {pairs : List (String × α)} {p : String × α} (h : p ∈ ofList pairs) :
    p ∈ pairs :=
  (mem_foldl_insert h).resolve_left List.not_mem_nil

end Stencil.Dict
