import Stencil.Proofs.NameCheck
import Stencil.Proofs.SingleRun

/-! Through all that a host does with an engine, the names in compiled templates stay known. -/
namespace Stencil

/-- What a host can do with an engine. -/
inductive Operation where
  | addFilter (name : String) (run : Value → List Value → Except Fault Value)
  | addTest (name : String) (test : Test)
  | setLoader (loader : Loader)
  /-- The loader has other texts from now on; templates that are kept stay. -/
  | changeTexts (loader : Loader)
  | clearCache
  | compile (choice : Option Dialect) (name : Option String) (source : String)
  | fetch (name : String)
  /-- Renders a template, which need not be one of this engine. -/
  | render (t : Template) (vars : Dict Value)

/-- An engine in use, and the templates that the host got from it. -/
structure Host where
  engine : Engine
  session : Session := {}
  templates : List Template := []

namespace Host

def perform (host : Host) : Operation → Host
  | .addFilter name run => { host with engine := host.engine.addFilter name run }
  | .addTest name test => { host with engine := host.engine.addTest name test }
  | .setLoader loader =>
    let (engine, session) := host.engine.setLoader loader host.session
    { host with engine, session }
  | .changeTexts loader => { host with engine := { host.engine with loader := some loader } }
  | .clearCache => { host with session := (Engine.clearCache host.session).2 }
  | .compile choice name source =>
    match host.engine.compile choice name source with
    | .ok t => { host with templates := t :: host.templates }
    | .error _ => host
  | .fetch name =>
    match host.engine.fetch name host.session with
    | (.ok loaded, session) =>
      { host with session, templates := loaded.template :: host.templates }
    | (.error _, session) => { host with session }
  | .render t vars => { host with session := (host.engine.render t vars host.session).2 }

def run (host : Host) (ops : List Operation) : Host := ops.foldl perform host

/-- The engine knows all names in the templates that it compiled. -/
structure Sound (host : Host) : Prop where
  templates : ∀ t ∈ host.templates, t.Within host.engine.registry.Knows
  kept : host.session.Within host.engine.registry.Knows

end Host

namespace Render

/-- Only names of the registry. -/
def Policy.known (r : Registry) : Policy where
  admits := r.Knows
  text_empty := trivial
  text_append _ _ := trivial
  text_printed _ _ := trivial

lemma Policy.any_governs {A : Part → Prop} {env : Env} (h : env.engine.Supplies A) :
    Policy.any.Governs A env where
  root := Value.clean_of_forall (fun _ => trivial) _
  filter _ _ _ _ _ := Value.clean_of_forall (fun _ => trivial) _
  supplies := h
  admits _ _ := trivial
  mode := trivial

lemma Policy.known_governs {e : Engine} (h : e.Supplies e.registry.Knows) (vars : Dict Value) :
    (Policy.known e.registry).Governs e.registry.Knows ⟨e, vars⟩ where
  root := Value.clean_of_forall (fun _ => trivial) _
  filter _ _ _ _ _ := Value.clean_of_forall (fun _ => trivial) _
  supplies := h
  admits _ hx := hx
  mode := trivial

end Render

/-- What the loader supplies is compiled by the engine. -/
lemma Engine.supplies_known (e : Engine) : e.Supplies e.registry.Knows :=
  fun _ _ _ _ _ _ ht => Template.within_of_ofSource ht

namespace Host

variable {host : Host}

/-- More names are known after an operation, never fewer. -/
lemma knows_perform (op : Operation) {x : Part} (hx : host.engine.registry.Knows x) :
    (host.perform op).engine.registry.Knows x := by
  cases op with
  | addFilter name run => exact Registry.knows_addFilter hx
  | addTest name test => exact Registry.knows_addTest hx
  | setLoader loader | changeTexts loader | clearCache | render t vars => exact hx
  | compile choice name source =>
    cases ht : host.engine.compile choice name source with
    | ok t | error e => simpa only [perform, ht] using hx
  | fetch name =>
    rcases ht : host.engine.fetch name host.session with ⟨e | loaded, session⟩
    · simpa only [perform, ht] using hx
    · simpa only [perform, ht] using hx

/-- A new template was compiled with the registry as it is, and older ones are still known. -/
lemma Sound.perform (h : host.Sound) (op : Operation) : (host.perform op).Sound := by
  have htemplates : ∀ t ∈ host.templates, t.Within (host.perform op).engine.registry.Knows :=
    fun t ht => (h.templates t ht).mono fun _ => knows_perform op
  have hkept : host.session.Within (host.perform op).engine.registry.Knows :=
    fun e he => (h.kept e he).mono fun _ => knows_perform op
  cases op with
  | addFilter name run | addTest name test | changeTexts loader => exact ⟨htemplates, hkept⟩
  | setLoader loader | clearCache => exact ⟨htemplates, List.forall_mem_nil _⟩
  | compile choice name source =>
    cases ht : host.engine.compile choice name source with
    | error e =>
      simp only [Host.perform, ht]
      exact h
    | ok t =>
      simp only [Host.perform, ht] at htemplates hkept ⊢
      exact ⟨List.forall_mem_cons.mpr ⟨Template.within_of_ofSource ht, htemplates⟩, hkept⟩
  | fetch name =>
    obtain ⟨hloaded, hsession⟩ := Engine.within_fetch host.engine.supplies_known h.kept name
    rcases ht : host.engine.fetch name host.session with ⟨e | loaded, session⟩
    · simp only [Host.perform, ht] at htemplates hsession ⊢
      exact ⟨htemplates, hsession⟩
    · simp only [Host.perform, ht] at htemplates hloaded hsession ⊢
      exact ⟨List.forall_mem_cons.mpr ⟨hloaded loaded rfl, htemplates⟩, hsession⟩
  | render t vars =>
    have hgoverns : Render.Policy.any.Governs host.engine.registry.Knows ⟨host.engine, vars⟩ :=
      Render.Policy.any_governs host.engine.supplies_known
    exact ⟨htemplates, (hgoverns.render (fun _ _ => trivial) h.kept).2.2⟩

lemma Sound.run (h : host.Sound) (ops : List Operation) : (host.run ops).Sound := by
  induction ops generalizing host with
  | nil => exact h
  | cons op more ih => exact ih (h.perform op)

/-- A template that an engine compiled never fails on it for a name that is not known, whatever
the host did with the engine before. -/
theorem render_ne_unknown (e : Engine) (ops : List Operation) {t : Template}
    (ht : t ∈ ((Host.mk e {} []).run ops).templates) (vars : Dict Value) (name : String)
    (pos : Position) :
    let host := (Host.mk e {} []).run ops
    (host.engine.render t vars host.session).1 ≠ .error (.render (.unknownFilter name pos)) ∧
      (host.engine.render t vars host.session).1 ≠ .error (.render (.unknownTest name pos)) := by
  intro host
  have hstart : (Host.mk e {} []).Sound := ⟨List.forall_mem_nil _, List.forall_mem_nil _⟩
  have hsound : host.Sound := hstart.run ops
  have hgoverns := Render.Policy.known_governs host.engine.supplies_known vars
  obtain ⟨-, hstops, -⟩ := hgoverns.render (hsound.templates t ht) hsound.kept
  -- The name would have to be known and unknown at once.
  constructor
  · intro hunknown
    obtain ⟨hknown, hmissing⟩ := hstops _ hunknown
    exact Bool.false_ne_true (hmissing.symm.trans hknown)
  · intro hunknown
    obtain ⟨hknown, hmissing⟩ := hstops _ hunknown
    exact Bool.false_ne_true (hmissing.symm.trans hknown)

/-- A host that adds a filter, compiles a template that uses it in a default and in the path of
another template, replaces the filter and renders once. -/
def shouting : List Operation :=
  [.addFilter "shout" fun v _ => .ok (.str (v.display ++ "!")),
   .setLoader (.ofDict [("a!", "$x | shout")]),
   .compile none none "@macro m(x = \"b\" | shout)\n$x\n@end\n@include \"a\" | shout\n@m()",
   .addFilter "shout" fun _ _ => .error (.host "hoarse"),
   .clearCache,
   .render ⟨none, .native, [.including (.str "a!") .start], [], [], none⟩ []]

theorem render_ne_unknown_shout :
    let host := (Host.mk Engine.default {} []).run shouting
    ∃ t ∈ host.templates,
      (host.engine.render t [] host.session).1 ≠ .error (.render (.unknownFilter "shout" .start)) ∧
        (host.engine.render t [] host.session).1 ≠
          .error (.render (.unknownTest "shout" .start)) := by
  have hlength : ((Host.mk Engine.default {} []).run shouting).templates.length = 1 := by
    decide +kernel
  obtain ⟨t, ht⟩ := List.exists_mem_of_length_eq_add_one hlength
  exact ⟨t, ht, render_ne_unknown Engine.default shouting ht [] "shout" .start⟩

end Host
end Stencil
