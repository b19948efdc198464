import Mathlib
import Stencil.Proofs.JinjaCoverage
import Stencil.Proofs.NativeCoverage
import Stencil.Token.Stream

/-! The tokens of a text hold all of it but blanks, each where it says. -/
namespace Stencil.TokenStream

open Cursor Token

variable {d : Dialect} {c : Cursor} {strip : Bool} {ts : List Token}

lemma covers_step {s : Step} {hc : c.rest ≠ []} (h : step d strip c hc = .ok s) :
    Covers d c s.tokens s.length := by
  cases d with
  | native => exact Native.covers_step hc h
  | jinja => exact Jinja.covers_step hc h

/-- Without a fault the tokens reach to the end of the text. -/
lemma covers_tokensFrom (h : tokensFrom d strip c = (ts, none)) :
    ∃ n, Covers d c ts n ∧ (c.advance n).rest = [] := by
  fun_induction tokensFrom d strip c generalizing ts with
  | case1 strip c hrest =>
    cases h
    exact ⟨0, .done, hrest⟩
  | case2 => cases h
  | case3 strip c hrest s hs tokens fault hmore ih =>
    cases h
    obtain ⟨n, hcovers, hend⟩ := ih hmore
    refine ⟨s.length + n, (covers_step hs).append hcovers, ?_⟩
    rw [advance_add]
    exact hend

/-- Where the whole text is read, each token is the stretch of the text from its offset on, its
place is that of its first character, and between the tokens lie only blanks, and hyphens in the
tags that end raw bodies. -/
theorem lossless_of_ofSource {choice : Option Dialect} {source : String} {s : TokenStream}
    (h : ofSource choice source = .ok s) (hs : s.fault = none) :
    Lossless s.dialect source.toList none s.tokens := by
  unfold ofSource at h
  split at h
  · cases h
  · rename_i d _
    cases h
    rcases htokens : tokensFrom d false (.start source.toList) with ⟨tokens, fault⟩
    unfold ofText at hs ⊢
    rw [htokens] at hs ⊢
    obtain rfl : fault = none := hs
    obtain ⟨n, hcovers, hend⟩ := covers_tokensFrom htokens
    exact hcovers.lossless (in_start source.toList) hend (Nat.le_refl 0) isBlank_nil

/-- A raw body between tags with hyphens, a comment alone on its line, and an interpolation. -/
def rawListing : String :=
  "a {%- raw %}\n " ++ Token.Jinja.TagKind.print.opener ++
    " x \n\t{%- endraw  -%} {# b #}\n{{- y|f(1) }}"

theorem lossless_of_ofSource_rawListing :
    ∃ s, ofSource (some .jinja) rawListing = .ok s ∧ s.fault = none ∧
      Lossless s.dialect rawListing.toList none s.tokens := by
  have hread : ofSource (some .jinja) rawListing = .ok (ofText .jinja rawListing.toList) := rfl
  have hfault : (ofText .jinja rawListing.toList).fault = none := by cbv
  exact ⟨_, hread, hfault, lossless_of_ofSource hread hfault⟩

end Stencil.TokenStream
