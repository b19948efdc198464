import Stencil.Proofs.Mirror

/-! How scenes change when code starts other code, and what running code in a scene may cost. A
macro takes away from the macros that can still be called, a template from those that can still be
entered, and `caller()` a waiting call block; a block takes one step of the chain. -/
namespace Stencil.Render

open Instr

namespace Scene

/-- Inside a macro. -/
def inMacro (c : Scene) : Scene := { c with macroDepth := c.macroDepth + 1 }

/-- Inside the call of a call block. -/
def inCall (c : Scene) (k : Caller) : Scene := { c with callers := k :: c.callers }

/-- While the body of the innermost call block is placed. -/
def inCaller (c : Scene) : Scene := { c with callers := c.callers.tail }

/-- While the template of that path is waited for. -/
def entered (c : Scene) (path : String) : Scene := { c with active := path :: c.active }

/-- Inside a template that is included. -/
def included (c : Scene) : Scene := { c with derived := [], overrides := [], pin := none }

/-- Below a template that extends another one. -/
def below (c : Scene) (t : Template) : Scene :=
  { c with derived := c.derived ++ [t], overrides := addOverrides t c.overrides }

end Scene

/-! ### Overrides -/

lemma get?_foldl_override {t : Template} {names : List String} {overrides : Dict Template}
    (name : String) :
    Dict.get? (names.foldl
      (fun o name => if Dict.contains o name then o else Dict.insert name t o) overrides) name =
      (Dict.get? overrides name).or (if name ∈ names then some t else none) := by
  induction names generalizing overrides with
  | nil => simp
  | cons first more ih =>
    rw [List.foldl_cons, ih]
    by_cases hc : Dict.contains overrides first = true
    · rw [if_pos hc]
      by_cases hn : name = first
      · subst hn
        obtain ⟨d, hd⟩ := Option.isSome_iff_exists.mp hc
        simp [hd]
      · simp [hn]
    · rw [if_neg hc, Dict.get?_insert]
      by_cases hn : name = first
      · subst hn
        have hnone : Dict.get? overrides name = none := by
          simpa [Dict.contains] using hc
        simp [hnone]
      · simp [hn]

/-- A template adds itself as the owner of those of its blocks that have none. -/
lemma get?_addOverrides (t : Template) (overrides : Dict Template) (name : String) :
    Dict.get? (addOverrides t overrides) name =
      (Dict.get? overrides name).or (if Dict.contains t.blocks name then some t else none) := by
  rw [addOverrides, get?_foldl_override]
  simp only [Dict.mem_keys_iff]

namespace World

variable {W : World} {c : Scene} {t : Template}

/-! ### Scenes in which code may run -/

lemma Valid.unpinned (h : W.Valid c) : W.Valid c.unpinned := { h with spares := nofun }

lemma Valid.inMacro (h : W.Valid c) : W.Valid c.inMacro := { h with }

lemma Valid.inCall (h : W.Valid c) {k : Caller} (hk : W.Places k) : W.Valid (c.inCall k) :=
  { h with callers := List.forall_mem_cons.mpr ⟨hk, h.callers⟩ }

lemma Valid.inCaller (h : W.Valid c) : W.Valid c.inCaller :=
  { h with callers := fun k hk => h.callers k (List.mem_of_mem_tail hk) }

lemma Valid.entered (h : W.Valid c) (path : String) (hactive : c.active.length < W.maxDepth) :
    W.Valid (c.entered path) where
  overrides := h.overrides
  derived := h.derived
  callers := h.callers
  length := Nat.le_succ_of_le h.length
  active := Nat.succ_le_succ (Nat.le_of_lt hactive)
  spares := h.spares

lemma Valid.included (h : W.Valid c) : W.Valid c.included where
  overrides _ := rfl
  derived := List.forall_mem_nil _
  callers := h.callers
  length := Nat.zero_le _
  active := h.active
  spares := nofun

lemma Valid.below (h : W.Valid c) (ht : W.admits t)
    (hlength : c.derived.length ≤ c.active.length) : W.Valid (c.below t) where
  overrides name := by
    change Dict.get? (addOverrides t c.overrides) name = (c.derived ++ [t]).find? _
    rw [get?_addOverrides, h.overrides, List.find?_append]
    by_cases hb : Dict.contains t.blocks name = true <;> simp [hb]
  derived := List.forall_mem_append.mpr ⟨h.derived, List.forall_mem_singleton.mpr ht⟩
  callers := h.callers
  length := by
    change (c.derived ++ [t]).length ≤ c.active.length + 1
    simpa using hlength
  active := h.active
  spares := h.spares

/-! ### Code that may run in a scene -/

variable (W)

/-- The number of blocks that any template can place inside each other. -/
def width : Nat := Parser.maxNesting * (W.maxDepth + 3)

/-- How much other code can still wait inside the running one, without blocks. -/
def levels (c : Scene) : Nat :=
  (W.maxDepth - c.active.length) + 2 * (W.maxDepth - c.macroDepth) + c.callers.length

/-- Fuel for all code that can wait inside the running one, without its own blocks. -/
def effort (c : Scene) : Nat := W.levels c * (W.width + 2)

variable {W}

lemma effort_le {c c' : Scene} (h : W.levels c' + 1 ≤ W.levels c) :
    W.effort c' + W.width + 2 ≤ W.effort c := by
  have hle := Nat.mul_le_mul_right (W.width + 2) h
  rw [Nat.succ_mul] at hle
  exact hle

lemma effort_unpinned : W.effort c.unpinned = W.effort c := rfl

lemma effort_included : W.effort c.included = W.effort c := rfl

lemma effort_inMacro (h : c.macroDepth < W.maxDepth) :
    W.effort c.inMacro + W.width + 2 ≤ W.effort c := by
  refine effort_le ?_
  simp only [levels, Scene.inMacro]
  omega

lemma effort_inCall_inMacro (k : Caller) (h : c.macroDepth < W.maxDepth) :
    W.effort (c.inCall k).inMacro + W.width + 2 ≤ W.effort c := by
  refine effort_le ?_
  simp only [levels, Scene.inMacro, Scene.inCall, List.length_cons]
  omega

lemma effort_inCaller {k : Caller} {callers : List Caller} (h : c.callers = k :: callers) :
    W.effort c.inCaller + W.width + 2 ≤ W.effort c := by
  refine effort_le ?_
  simp only [levels, Scene.inCaller, h, List.tail_cons, List.length_cons]
  omega

lemma effort_entered (path : String) (h : c.active.length < W.maxDepth) :
    W.effort (c.entered path) + W.width + 2 ≤ W.effort c := by
  refine effort_le ?_
  simp only [levels, Scene.entered, List.length_cons]
  omega

/-- Code of the template `t` that places the blocks `names`, at most `r` inside each other, and
imports under `aliases`. -/
structure Code (c : Scene) (t : Template) (r : Nat) (names aliases : List String) : Prop where
  own : ∀ b ∈ names, Dict.contains t.blocks b = true
  shallow : Shallow c.derived r t names
  spares : ∀ p ∈ c.pin, p.1 ∉ aliases

lemma Code.left {r : Nat} {names more aliases others : List String}
    (h : Code c t r (names ++ more) (aliases ++ others)) : Code c t r names aliases where
  own b hb := h.own b (List.mem_append_left _ hb)
  shallow := h.shallow.subset fun _ hb => List.mem_append_left _ hb
  spares p hp hmem := h.spares p hp (List.mem_append_left _ hmem)

lemma Code.right {r : Nat} {names more aliases others : List String}
    (h : Code c t r (names ++ more) (aliases ++ others)) : Code c t r more others where
  own b hb := h.own b (List.mem_append_right _ hb)
  shallow := h.shallow.subset fun _ hb => List.mem_append_right _ hb
  spares p hp hmem := h.spares p hp (List.mem_append_right _ hmem)

/-- Code of a template that places blocks of its own. -/
lemma Valid.code (hc : W.Valid c) (ht : W.admits t) {names aliases : List String}
    (hown : ∀ b ∈ names, Dict.contains t.blocks b = true)
    (hspares : ∀ p ∈ c.pin, p.1 ∉ aliases) : Code c t W.width names aliases where
  own := hown
  shallow := by
    have hlayered := (W.layered ht).shallow (fun d hd => W.layered (hc.derived d hd)) hown
    refine hlayered.mono (Nat.mul_le_mul_left _ ?_)
    have := hc.length
    have := hc.active
    omega
  spares := hspares

lemma Valid.code_macro (hc : W.Valid c) (ht : W.admits t) {name : String} {m : MacroDef}
    (hm : Dict.get? t.macros name = some m) :
    Code c t W.width (placedAll m.body) (aliasesAll m.body) :=
  hc.code ht ((W.layered ht).macros _ (Dict.mem_of_get? hm))
    fun p hp => (hc.spares p hp t ht).macros _ (Dict.mem_of_get? hm)

lemma Valid.code_caller (hc : W.Valid c) {k : Caller} (hk : W.Places k) :
    Code c.unpinned k.template W.width (placedAll k.body) (aliasesAll k.body) :=
  hc.unpinned.code hk.template hk.own nofun

lemma Valid.definer (hc : W.Valid c) (ht : W.admits t) (name : String) :
    W.admits (definer c.derived t name) := by
  unfold Stencil.definer
  cases hfind : c.derived.find? fun d => Dict.contains d.blocks name with
  | none => exact ht
  | some d => exact hc.derived d (List.mem_of_find?_eq_some hfind)

/-- The body of a block is code of its definer that places one block less inside each other. -/
lemma Code.block {r : Nat} {name : String} (hc : W.Valid c) (ht : W.admits t)
    (h : Code c t (r + 1) [name] []) {body : List Instr}
    (hbody : Dict.get? (definer c.derived t name).blocks name = some body) :
    Code c (definer c.derived t name) r (placedAll body) (aliasesAll body) where
  own := by
    have hcontains : Dict.contains (definer c.derived t name).blocks name = true := by
      rw [Dict.contains, hbody]
      rfl
    obtain ⟨body', hbody', hinner⟩ :
        Settled (definer c.derived t name).blocks (63 + 1) name :=
      (W.layered (hc.definer ht name)).blocks name hcontains
    obtain rfl := Option.some.inj (hbody.symm.trans hbody')
    exact fun b hb => (hinner b hb).contains
  shallow := h.shallow name (List.mem_singleton.mpr rfl) body hbody
  spares p hp := (hc.spares p hp _ (hc.definer ht name)).blocks _ (Dict.mem_of_get? hbody)

variable (W)

/-- With `n` units of fuel the calls `k` start code that the calls `k'` mirror, in every scene
whose effort leaves fuel for the unit that is started. -/
structure Serves (n : Nat) (k : Calls) (k' : List Template → Calls) : Prop where
  eval : ∀ {c : Scene} {t}, W.Valid c → W.admits t → W.effort c + 1 ≤ n → ∀ pos e,
    W.Mirrors c (fun _ => True) (k.eval t pos e) ((k' c.derived).eval t pos e)
  exec : ∀ {c : Scene} {t r body}, W.Valid c → W.admits t →
    Code c t r (placedAll body) (aliasesAll body) → W.effort c + r + 2 ≤ n →
    W.Mirrors c (fun _ => True) (k.exec t body) ((k' c.derived).exec t body)
  render : ∀ {c : Scene} {t} derived, W.Valid c.included → W.admits t →
    W.effort c.included + W.width + 2 ≤ n →
    W.Steps (W.Holds c.included) (fun s => ∃ overrides, W.Holds { c.included with overrides } s)
      (fun _ => True) (k.render t) ((k' derived).render t)
  load : ∀ {c : Scene} {t}, W.Valid c → W.admits t → W.effort c + 1 ≤ n → ∀ path pos,
    W.Mirrors c (Module.All W.admits) (k.load t path pos) ((k' c.derived).load t path pos)

end World

end Stencil.Render
