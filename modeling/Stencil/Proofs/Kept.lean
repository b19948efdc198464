import Stencil.Proofs.Dict
import Stencil.Engine.Basic

/-! How templates are fetched. What an engine supplies under a name is kept, and a fetch gives what
is kept or what is supplied; what holds of all that the loader offers holds of all that are fetched
and kept. -/
namespace Stencil

/-! ### The ways of a fetch -/

/-- The template that the loader has under a name, compiled anew. -/
def Engine.supply (e : Engine) (name : String) : Except FetchError Template :=
  match e.loader with
  | none => .error (.load (.noLoader name))
  | some load =>
    match load name with
    | .error err => .error (.load err)
    | .ok source =>
      match e.compile e.config.dialect (some name) source with
      | .error err => .error (.source err)
      | .ok t => .ok t

/-- The session after a loader was asked for a name. -/
def Session.ask (σ : Session) (name : String) : Session := { σ with loads := name :: σ.loads }

/-- The session after a template was kept. -/
def Session.keep (σ : Session) (capacity : Nat) (name : String) (l : Loaded) : Session :=
  { σ with cache := σ.cache.insert capacity name l }

namespace Engine

variable {e : Engine} {name : String} {σ : Session}

/-- The ways in which a fetch can go. -/
inductive Fetching (e : Engine) (name : String) (σ : Session) :
    Except FetchError Loaded × Session → Prop where
  | kept {l : Loaded} (kept : σ.cache.get? name = some l) : Fetching e name σ (.ok l, σ)
  | noLoader (missing : σ.cache.get? name = none) (loader : e.loader = none) :
      Fetching e name σ (.error (.load (.noLoader name)), σ)
  | failed {err : FetchError} (missing : σ.cache.get? name = none) (loader : e.loader.isSome)
      (supply : e.supply name = .error err) : Fetching e name σ (.error err, σ.ask name)
  | arrived {t : Template} (missing : σ.cache.get? name = none) (loader : e.loader.isSome)
      (supply : e.supply name = .ok t) :
      Fetching e name σ (.ok ⟨σ.loads.length, t⟩,
        (σ.ask name).keep e.config.cacheSize name ⟨σ.loads.length, t⟩)

theorem fetching (e : Engine) (name : String) (σ : Session) :
    Fetching e name σ (e.fetch name σ) := by
  unfold fetch
  cases hkept : σ.cache.get? name with
  | some l => exact .kept hkept
  | none =>
    cases hload : e.loader with
    | none => exact .noLoader hkept hload
    | some load =>
      have hloader : e.loader.isSome := by rw [hload]; rfl
      cases hsource : load name with
      | error err =>
        simp only [hsource]
        exact .failed hkept hloader (by simp only [supply, hload, hsource])
      | ok source =>
        cases ht : e.compile e.config.dialect (some name) source with
        | error err =>
          simp only [hsource, ht]
          exact .failed hkept hloader (by simp only [supply, hload, hsource, ht])
        | ok t =>
          simp only [hsource, ht]
          exact .arrived hkept hloader (by simp only [supply, hload, hsource, ht])

lemma supply_noLoader (h : e.loader = none) :
    e.supply name = .error (.load (.noLoader name)) := by
  simp only [supply, h]

lemma supply_eq_ok {t : Template} :
    e.supply name = .ok t ↔ ∃ load source, e.loader = some load ∧ load name = .ok source ∧
      e.compile e.config.dialect (some name) source = .ok t := by
  unfold supply
  constructor
  · intro h
    split at h
    · cases h
    · rename_i load hload
      split at h
      · cases h
      · rename_i source hsource
        split at h
        · cases h
        · rename_i ht
          cases h
          exact ⟨load, source, hload, hsource, ht⟩
  · rintro ⟨load, source, hload, hsource, ht⟩
    simp only [hload, hsource, ht]

end Engine

/-! ### What holds of all templates -/

variable {P : Template → Prop}

/-- Every template that is kept satisfies `P`. -/
def Session.All (P : Template → Prop) (σ : Session) : Prop :=
  ∀ x ∈ σ.cache.entries, P x.2.template

/-- Every template that the loader has a text for satisfies `P`. -/
def Engine.Offers (e : Engine) (P : Template → Prop) : Prop :=
  ∀ load path source t, e.loader = some load → load path = .ok source →
    e.compile e.config.dialect (some path) source = .ok t → P t

namespace Cache

/-- Keeping a template adds it and no other. -/
lemma mem_insert {c : Cache} {capacity : Nat} {name : String} {t : Loaded} {x : String × Loaded}
    (h : x ∈ (c.insert capacity name t).entries) : x = (name, t) ∨ x ∈ c.entries := by
  unfold Cache.insert at h
  split at h
  · exact .inr h
  · refine (Dict.mem_insert h).imp_right fun h => ?_
    rw [shrink, Dict.foldl_erase] at h
    exact (List.mem_filter.mp h).1

end Cache

/-- Fetching supplies and keeps only templates that satisfy `P`. -/
lemma Engine.all_fetch {e : Engine} {σ : Session} (he : e.Offers P) (hσ : σ.All P)
    (path : String) :
    (∀ l, (e.fetch path σ).1 = .ok l → P l.template) ∧ (e.fetch path σ).2.All P := by
  have hgoes := e.fetching path σ
  generalize e.fetch path σ = r at hgoes ⊢
  cases hgoes with
  | kept hkept =>
    refine ⟨?_, hσ⟩
    rintro l ⟨⟩
    exact hσ _ (Dict.mem_of_get? hkept)
  | noLoader | failed => exact ⟨nofun, hσ⟩
  | arrived _ _ hsupply =>
    obtain ⟨load, source, hload, hsource, ht⟩ := supply_eq_ok.mp hsupply
    have hP := he load path source _ hload hsource ht
    refine ⟨?_, fun x hx => ?_⟩
    · rintro l ⟨⟩
      exact hP
    · rcases Cache.mem_insert hx with rfl | hx
      · exact hP
      · exact hσ x hx

end Stencil
