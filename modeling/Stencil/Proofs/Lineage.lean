import Stencil.Proofs.Layers

/-! Which template gives a block its body in a chain of templates that extend each other, and how
many blocks can be placed inside each other there: each step goes to a more derived template, or to
a lower layer of the same one. -/
namespace Stencil

open Instr

/-- The template whose body a block gets that `t` places: the first of `derived`, which are given
most derived first, that has the block, and `t` itself if none has it. -/
def definer (derived : List Template) (t : Template) (name : String) : Template :=
  (derived.find? fun d => Dict.contains d.blocks name).getD t

variable {derived front : List Template} {t d : Template} {name b : String}

/-- `t` is one of `derived` behind `front`, or all of `derived` stand before it. -/
def Stands (derived front : List Template) (t : Template) : Prop :=
  derived = front ∨ ∃ rest, derived = front ++ t :: rest

/-- A block of `t` gets its body from `t` or from a template that stands further to the front. -/
lemma Stands.definer (h : Stands derived front t) (hb : Dict.contains t.blocks b = true) :
    definer derived t b = t ∨
      definer derived t b ∈ derived ∧
        ∃ before, before.length < front.length ∧ Stands derived before (definer derived t b) := by
  unfold Stencil.definer
  cases hfront : front.find? fun d => Dict.contains d.blocks b with
  | some d =>
    obtain ⟨-, before, behind, rfl, -⟩ := List.find?_eq_some_iff_append.mp hfront
    obtain ⟨rest, hrest⟩ : ∃ rest, derived = before ++ d :: behind ++ rest := by
      rcases h with rfl | ⟨rest, rfl⟩
      · exact ⟨[], (List.append_nil _).symm⟩
      · exact ⟨_, rfl⟩
    have hfind : derived.find? (fun d => Dict.contains d.blocks b) = some d := by
      rw [hrest, List.find?_append, hfront]
      rfl
    rw [hfind]
    refine .inr ⟨List.mem_of_find?_eq_some hfind, before, by simp, .inr ⟨behind ++ rest, ?_⟩⟩
    rw [hrest, List.append_assoc]
    rfl
  | none =>
    left
    rcases h with rfl | ⟨rest, rfl⟩
    · rw [hfront]
      rfl
    · rw [List.find?_append, hfront]
      simp [hb]

/-- Placing `names` from the template `t` places at most `r` blocks inside each other. -/
def Shallow (derived : List Template) : Nat → Template → List String → Prop
  | 0, _, names => names = []
  | r + 1, t, names => ∀ b ∈ names, ∀ body,
    Dict.get? (definer derived t b).blocks b = some body →
      Shallow derived r (definer derived t b) (placedAll body)

lemma Shallow.subset {r : Nat} {names more : List String} (h : Shallow derived r t names)
    (hmore : ∀ b ∈ more, b ∈ names) : Shallow derived r t more := by
  cases r with
  | zero =>
    rw [Shallow] at h
    subst h
    exact List.eq_nil_iff_forall_not_mem.mpr fun b hb => List.not_mem_nil (hmore b hb)
  | succ r => exact fun b hb => h b (hmore b hb)

lemma shallow_of_settled {r n : Nat} (hderived : ∀ d ∈ derived, d.Layered)
    (ht : Stands derived front t) {names : List String}
    (hnames : ∀ b ∈ names, Settled t.blocks n b) (hn : n ≤ Parser.maxNesting)
    (hr : Parser.maxNesting * front.length + n ≤ r) : Shallow derived r t names := by
  -- By induction on the bound, which falls as the template moves to the front or its layer falls.
  induction r generalizing t n front names with
  | zero =>
    obtain rfl : n = 0 := by omega
    exact List.eq_nil_iff_forall_not_mem.mpr hnames
  | succ r ih =>
    intro b hb body hbody
    have hsettled := hnames b hb
    rcases ht.definer hsettled.contains with hown | ⟨hmem, before, hbefore, hstands⟩
    · rw [hown] at hbody ⊢
      cases n with
      | zero => exact hsettled.elim
      | succ n =>
        obtain ⟨body', hbody', hinner⟩ := hsettled
        obtain rfl := Option.some.inj (hbody.symm.trans hbody')
        exact ih ht hinner (by omega) (by omega)
    · have hcontains : Dict.contains (definer derived t b).blocks b = true := by
        rw [Dict.contains, hbody]
        rfl
      obtain ⟨body', hbody', hinner⟩ :
          Settled (definer derived t b).blocks (63 + 1) b := (hderived _ hmem).blocks b hcontains
      obtain rfl := Option.some.inj (hbody.symm.trans hbody')
      have hlower : Parser.maxNesting * (before.length + 1) ≤ Parser.maxNesting * front.length :=
        Nat.mul_le_mul_left _ hbefore
      refine ih hstands hinner (by decide) ?_
      simp only [Parser.maxNesting] at *
      omega

/-- In a chain with `n` templates before it, code of a template places at most as many blocks
inside each other as `n + 1` templates have layers. -/
theorem Template.Layered.shallow (ht : t.Layered) (hderived : ∀ d ∈ derived, d.Layered)
    {names : List String} (hnames : ∀ b ∈ names, Dict.contains t.blocks b = true) :
    Shallow derived (Parser.maxNesting * (derived.length + 1)) t names :=
  shallow_of_settled hderived (.inl rfl) (fun b hb => ht.blocks b (hnames b hb)) (Nat.le_refl _)
    (Nat.le_refl _)

lemma Shallow.mono {r r' : Nat} {names : List String} (h : Shallow derived r t names)
    (hr : r ≤ r') : Shallow derived r' t names := by
  induction r generalizing r' t names with
  | zero =>
    rw [Shallow] at h
    subst h
    cases r' with
    | zero => rfl
    | succ r' => exact List.forall_mem_nil _
  | succ r ih =>
    obtain ⟨r', rfl⟩ : ∃ k, r' = k + 1 := ⟨r' - 1, by omega⟩
    exact fun b hb body hbody => ih (h b hb body hbody) (Nat.le_of_succ_le_succ hr)

end Stencil
