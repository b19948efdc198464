import Mathlib.Tactic.Common

/-! What a success of composed computations says about their parts. -/
namespace Stencil.Except

variable {ε α β : Type}

lemma exists_of_bind {x : Except ε α} {f : α → Except ε β} {b : β} (h : (x >>= f) = .ok b) :
    ∃ a, x = .ok a ∧ f a = .ok b := by
  cases x with
  | error e => cases h
  | ok a => exact ⟨a, rfl, h⟩

lemma exists_of_map {x : Except ε α} {f : α → β} {b : β} (h : x.map f = .ok b) :
    ∃ a, x = .ok a ∧ f a = b := by
  cases x with
  | error e => cases h
  | ok a =>
    cases h
    exact ⟨a, rfl, rfl⟩

lemma eq_ok_of_toOption {x : Except ε α} {a : α} (h : x.toOption = some a) : x = .ok a := by
  cases x with
  | error e => cases h
  | ok b =>
    cases h
    rfl

/-- What holds at the start and is kept by each step holds at the end of a fold. -/
lemma invariant_of_foldlM {P : β → Prop} {f : β → α → Except ε β} {items : List α} {start b : β}
    (hstep : ∀ a ∈ items, ∀ c d, P c → f c a = .ok d → P d) (hstart : P start)
    (h : items.foldlM f start = .ok b) : P b := by
  induction items generalizing start with
  | nil =>
    cases h
    exact hstart
  | cons a more ih =>
    rw [List.foldlM_cons] at h
    obtain ⟨c, hc, h⟩ := exists_of_bind h
    obtain ⟨ha, hmore⟩ := List.forall_mem_cons.mp hstep
    exact ih hmore (ha _ _ hstart hc) h

end Stencil.Except
