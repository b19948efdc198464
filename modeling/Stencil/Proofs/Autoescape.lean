import Stencil.Proofs.Laundering
import Stencil.Proofs.SingleRun

/-! While values are escaped where they are printed, only templates can write tags. -/
namespace Stencil

/-- Parts that write no tags: text without angles, filters that put no plain text into safe text,
and escaping that stays on. -/
def Part.Plain : Part → Prop
  | .text content => AngleFree content.toList
  | .filter name => name ∉ Filter.launderers
  | .test _ => True
  | .autoescape enabled => enabled = true

instance : DecidablePred Part.Plain := fun x => by
  cases x <;> unfold Part.Plain <;> infer_instance

namespace Render

lemma angleFree_printed {v : Value} (hv : v.Harmless) : AngleFree (printed true v).toList := by
  cases v with
  | safe s => exact Value.clean_safe.mp hv
  | _ => exact angleFree_escapeHtml _

/-- Safe text holds no angles, and escaping stays on. -/
def Policy.plain : Policy where
  admits := Part.Plain
  text_empty := angleFree_nil
  text_append {s t} hs ht := by
    simp only [Part.Plain, String.toList_append, angleFree_append] at *
    exact ⟨hs, ht⟩
  text_printed {mode v} hmode hv := by
    rw [show mode = true from hmode]
    exact angleFree_printed hv

lemma Policy.plain_governs {e : Engine} {vars : Dict Value} (hauto : e.config.autoescape = true)
    (hfilters : e.registry.filters = Registry.builtin.filters)
    (hsupplies : e.Supplies Part.Plain) (hvars : (Value.map vars).Harmless) :
    Policy.plain.Governs Part.Plain ⟨e, vars⟩ where
  root := hvars
  filter {name f v args w} hname hf hv hargs hw := by
    have hbuiltin : Registry.builtin.filter? name = some f := by
      rw [← hf, Registry.filter?, Registry.filter?, hfilters]
    exact Filter.harmless_apply hbuiltin hname hv hargs hw
  supplies := hsupplies
  admits _ hx := hx
  mode := hauto

end Render

/-- With escaping on, plain templates write no angle, whatever ordinary text the variables hold and
in whatever way the templates put each other together. -/
theorem Engine.angleFree_render {e : Engine} {t : Template} {vars : Dict Value} {σ : Session}
    {out : String} (hauto : e.config.autoescape = true)
    (hfilters : e.registry.filters = Registry.builtin.filters) (ht : t.Within Part.Plain)
    (hsupplies : e.Supplies Part.Plain) (hkept : σ.Within Part.Plain)
    (hvars : (Value.map vars).Harmless) (hout : (e.render t vars σ).1 = .ok out) :
    AngleFree out.toList := by
  have hgoverns := Render.Policy.plain_governs hauto hfilters hsupplies hvars
  exact (hgoverns.render ht hkept).1 out hout

/-- An engine whose loader knows the macro `cell`. -/
def tableEngine : Engine where
  config := { autoescape := true }
  registry := Registry.builtin
  loader := some (.ofDict [("cells", "@macro cell(x)\n[$x]\n@end")])

/-- Calls the macro for each row, puts a mark behind it and filters what is written. -/
def tablePage : Template where
  name := none
  dialect := .jinja
  body :=
    [.importing (.lit (.str "cells")) "c" ⟨1, 1⟩,
     .filtered [⟨"upper", []⟩]
       [.forEach (.single "x") (.var "rows")
         [.print (.binary .concat (.callMember (.var "c") "cell" [.var "x"]) (.var "mark")) ⟨2, 1⟩]
         [] ⟨2, 1⟩]
       ⟨2, 1⟩]
  macros := []
  blocks := []
  parent := none

def tableRows : Dict Value :=
  [("mark", .safe "!"), ("rows", .list [.str "<b>", .safe "i"])]

/-- A row with a tag is imported, called, joined with safe text, looped over and filtered. -/
theorem Engine.angleFree_render_table :
    (tableEngine.render tablePage tableRows {}).1 = .ok "[&LT;B&GT;]\n![I]\n!" ∧
      AngleFree "[&LT;B&GT;]\n![I]\n!".toList := by
  have hout : (tableEngine.render tablePage tableRows {}).1 = .ok "[&LT;B&GT;]\n![I]\n!" :=
    Except.eq_ok_of_toOption (by decide +kernel)
  have hsupplies : tableEngine.Supplies Part.Plain := supplies_ofDict rfl (by decide +kernel)
  have hkept : Session.Within Part.Plain {} := List.forall_mem_nil _
  exact ⟨hout, angleFree_render rfl rfl (by decide) hsupplies hkept (by decide) hout⟩

end Stencil
