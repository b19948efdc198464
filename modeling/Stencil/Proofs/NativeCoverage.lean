import Stencil.Proofs.Coverage
import Stencil.Token.Native

/-! The native scanner leaves nothing out but blanks. -/
namespace Stencil.Token.Native

open Cursor Cursor.Covers

variable {d : Dialect} {c : Cursor} {ts : List Token} {n : Nat}

lemma isIndent_of_kept {alone : Bool} {text : List Char}
    (h : (if alone then Text.dropEndWhile isIndent text else text) = []) :
    ∀ ch ∈ text, isIndent ch = true := by
  split at h
  · exact all_of_dropEndWhile h
  · rw [h]
    exact List.forall_mem_nil _

/-! ### Arguments -/

lemma covers_scanGroup {unclosed : LexError} {depth : Nat}
    (h : Token.scanGroup unclosed depth c = .ok (ts, n)) : Covers d c ts n := by
  fun_induction Token.scanGroup unclosed depth c generalizing ts n with
  | case1 => cases h
  | case2 => cases h
  | case3 =>
    rename_i hscan _ _ _ _
    cases h
    exact scanned hscan done
  | case4 => cases h
  | case5 =>
    rename_i hscan _ _ _ _ _ tokens k hmore ih
    cases h
    exact scanned hscan (ih hmore)

lemma covers_bracedTokens {opened : Position} {depth : Nat}
    (h : bracedTokens opened depth c = .ok (ts, n)) : Covers d c ts n := by
  fun_induction bracedTokens opened depth c generalizing ts n with
  | case1 => cases h
  | case2 =>
    rename_i hrest _
    cases h
    exact ended .printEnd true (Nat.le_of_lt_succ (by rw [hrest]; exact Nat.le_add_left _ _))
  | case3 => cases h
  | case4 => cases h
  | case5 =>
    rename_i hscan _ _ tokens k hmore ih
    cases h
    exact scanned hscan (ih hmore)

lemma covers_argumentTokens {stack : List OpenBracket}
    (h : argumentTokens stack c = .ok (ts, n)) : Covers d c ts n := by
  fun_induction argumentTokens stack c generalizing ts n with
  | case1 stack | case2 stack =>
    cases stack with
    | nil =>
      change Except.ok ([_], _) = Except.ok (ts, n) at h
      obtain ⟨hts, hn⟩ := Prod.mk.inj (Except.ok.inj h)
      rw [← hts, ← hn]
      exact ended .directiveEnd _ (Nat.zero_le _)
    | cons =>
      change Except.error _ = Except.ok (ts, n) at h
      cases h
  | case3 => cases h
  | case4 => cases h
  | case5 =>
    rename_i hscan _ _ tokens k hmore ih
    cases h
    exact scanned hscan (ih hmore)

lemma covers_identifier {name : Token} (h : identifier c = (name, n)) : Covers d c [name] n := by
  cases h
  exact singleton _ (Token.length_takeWhile_le _ _)

lemma covers_pathTokens (h : pathTokens c = (ts, n)) : Covers d c ts n := by
  fun_induction pathTokens c generalizing ts n with
  | case1 =>
    rename_i hrest _ name k hname _ tokens m hmore ih
    cases h
    have hpoint : Covers d _ [_] 1 := singleton (.symbol .dot) (by
      rw [hrest]
      exact Nat.le_add_left _ _)
    have hmember := hpoint.append (covers_identifier hname)
    rw [Nat.add_comm] at hmember
    exact hmember.append (ih hmore)
  | case2 =>
    cases h
    exact done
  | case3 =>
    cases h
    exact done

lemma covers_pipeAhead {space : Nat} (h : pipeAhead? c.rest = some space) {name : Token}
    (hname : identifier (c.advance (space + 1)) = (name, n)) :
    Covers d c [c.token (.symbol .pipe) 1, name] (space + n + 1) := by
  unfold pipeAhead? at h
  split at h
  · rename_i rest hrest
    have hblank : IsBlank ((c.advance 1).rest.take space) := by
      dsimp only at h
      split at h
      · cases h
      · split at h
        · cases h
          rw [rest_advance, hrest, List.drop_succ_cons, List.drop_zero,
            ← List.prefix_iff_eq_take.mp (List.takeWhile_prefix _)]
          exact isBlank_takeWhile (fun _ => isWhitespace_of_isLineBlank) rest
        · cases h
    have hpipe : Covers d c [_] 1 := singleton (.symbol .pipe) (by
      rw [hrest]
      exact Nat.le_add_left _ _)
    rw [Nat.add_comm space 1, advance_add] at hname
    refine (hpipe.append (blank hblank (covers_identifier hname))).cast (by omega)
  · cases h

lemma covers_filterTokens (h : filterTokens c = (ts, n)) : Covers d c ts n := by
  fun_induction filterTokens c generalizing ts n with
  | case1 =>
    cases h
    exact done
  | case2 =>
    cases h
    exact done
  | case3 =>
    rename_i ch rest hrest space hpipe name k hname q head used _ e _
    cases h
    refine blank (isBlank_blanks _ false) ?_
    rw [← hrest] at hpipe
    exact covers_pipeAhead hpipe hname
  | case4 =>
    rename_i gap p ch rest hrest space hpipe name k hname q head used _ args m hargs _ tokens l
      hmore ih
    cases h
    rw [← hrest] at hpipe
    have hhead : Covers d _ head used :=
      blank (isBlank_blanks _ false) (covers_pipeAhead hpipe hname)
    refine (hhead.append ?_).append ?_
    · rw [advance_add]
      exact covers_scanGroup hargs
    · have hused : used + m = gap + (space + k + m + 1) := by omega
      rw [hused, advance_add]
      exact ih hmore
  | case5 =>
    rename_i ch rest hrest space hpipe name k hname q head used _ _ tokens l hmore ih
    cases h
    rw [← hrest] at hpipe
    have hhead : Covers d _ head used :=
      blank (isBlank_blanks _ false) (covers_pipeAhead hpipe hname)
    refine hhead.append ?_
    rw [advance_add]
    exact ih hmore

lemma covers_onLine (h : Covers d c ts n) (hn : 0 < n) :
    Covers d c (onLine c ts n hn).tokens (onLine c ts n hn).length := by
  have halone := h.alone c
  unfold onLine
  split
  · rename_i more hmore
    rw [hmore] at halone
    exact halone
  · exact h

lemma covers_bare (hc : 1 ≤ c.rest.length) :
    Covers d c (bare c).tokens (bare c).length := by
  rcases hname : identifier (c.advance 1) with ⟨name, n⟩
  rcases hpath : pathTokens (c.advance (1 + n)) with ⟨path, m⟩
  rcases hfilters : filterTokens (c.advance (1 + n + m)) with ⟨filters, k⟩
  simp only [bare, hname, hpath, hfilters, inline]
  have hsign : Covers d c [_] 1 := singleton .printStart hc
  have hpath' := (hsign.append (covers_identifier hname)).append (covers_pathTokens hpath)
  exact (hpath'.append (covers_filterTokens hfilters)).append (singleton .printEnd (Nat.zero_le _))

lemma covers_call (hc : 1 ≤ c.rest.length) {k : Construct} (h : call c = .ok k) :
    Covers d c k.tokens k.length := by
  rcases hname : identifier (c.advance 1) with ⟨name, n⟩
  have hsign : Covers d c [_] 1 := singleton .printStart hc
  have hstart := hsign.append (covers_identifier hname)
  -- behind the name stands a member or none, then the arguments
  have hrest : ∀ {member args : List Token} {m k : Nat} {unclosed : LexError},
      Covers d (c.advance (1 + n)) member m →
      Token.scanGroup unclosed 0 (c.advance (1 + n + m)) = .ok (args, k) →
      Covers d c (c.token .printStart 1 :: name :: member ++ args ++
        [(c.advance (1 + n + m + k)).token .printEnd 0]) (1 + n + m + k) := fun hmember hargs =>
    ((hstart.append hmember).append (covers_scanGroup hargs)).append
        (singleton .printEnd (Nat.zero_le _))
  simp only [call, hname] at h
  split at h
  · cases h
  · rename_i args k hargs
    cases h
    refine hrest ?_ hargs
    split
    · rename_i hpoint
      have hpoint' : Covers d (c.advance (1 + n)) [_] 1 :=
        singleton (.symbol .dot) (List.length_pos_iff.mpr fun hrest => by
          rw [hrest] at hpoint
          cases hpoint)
      exact hpoint'.append (covers_identifier rfl)
    · exact done

lemma covers_head {name : String} (hname : 1 + name.length ≤ c.rest.length) :
    Covers d c (head c name) (1 + name.length) := by
  have hsign : Covers d c [_] 1 := singleton .directiveStart (by omega)
  refine hsign.append (singleton (.ident name) ?_)
  rw [rest_advance, List.length_drop]
  omega

lemma covers_directive {name : String} (hname : 1 + name.length ≤ c.rest.length) {k : Construct}
    (h : directive c name = .ok k) : Covers d c k.tokens k.length := by
  unfold directive at h
  dsimp only at h
  split at h
  · cases h
    exact covers_onLine ((covers_head hname).append (singleton .directiveEnd (Nat.zero_le _))) _
  · split at h
    · cases h
    · rename_i tokens m htokens
      cases h
      exact covers_onLine ((covers_head hname).append (covers_argumentTokens htokens)) _

lemma length_findEnd (h : findEnd c = some n) : n + 4 ≤ c.rest.length := by
  fun_induction findEnd c generalizing n with
  | case1 => cases h
  | case2 =>
    rename_i hrest hend
    cases h
    rw [Bool.and_eq_true, Bool.and_eq_true] at hend
    rw [hrest]
    exact (List.isPrefixOf_iff_prefix.mp hend.1.1).length_le
  | case3 =>
    rename_i hrest _ _ ih
    obtain ⟨m, hm, rfl⟩ := Option.map_eq_some_iff.mp h
    have := ih hm
    rw [rest_advance, List.length_drop] at this
    omega

lemma covers_enclosed {name : String} (hname : 1 + name.length ≤ c.rest.length) {k : Construct}
    (h : enclosed c name = .ok k) : Covers d c k.tokens k.length := by
  unfold enclosed at h
  dsimp only at h
  split at h
  · cases h
  · rename_i m hm
    cases h
    dsimp only
    have hend := length_findEnd hm
    have hopened : Covers d c _ _ :=
      ((covers_head hname).append (singleton .directiveEnd (Nat.zero_le _))).alone c
    rw [Nat.add_zero] at hopened
    generalize 1 + name.length + (c.standsAlone (c.advance (1 + name.length))).getD 0 = start
      at hend hopened ⊢
    rw [rest_advance, List.length_drop] at hend
    have hbody : m ≤ (c.advance start).rest.length := by
      rw [rest_advance, List.length_drop]
      omega
    have hcloser : 1 + "end".length ≤ (c.advance (start + m)).rest.length := by
      rw [rest_advance, List.length_drop]
      change 4 ≤ _
      omega
    split
    · exact (((hopened.append (textToken hbody fun hkept =>
        isBlank_of_isIndent (isIndent_of_kept hkept))).append (covers_head hcloser)).append
        (singleton .directiveEnd (Nat.zero_le _))).alone _
    · exact (singleton .comment (by omega)).alone _

/-- The number of characters that a marker certainly has. -/
def markerSize : Marker → Nat
  | .braced => 2
  | .bare | .lineComment | .call => 1
  | .directive name | .unknown name => 1 + name.length

lemma markerSize_le {m : Marker} (h : marker? c = some m) :
    markerSize m ≤ c.rest.length := by
  unfold marker? at h
  split at h
  · rename_i hrest
    rw [hrest]
    split at h
    · cases h
      exact Nat.le_add_left _ _
    · split at h
      · cases h
        exact Nat.le_add_left _ _
      · cases h
  · rename_i next rest hrest
    have hword :
        1 + (String.ofList (next :: rest.takeWhile isIdentChar)).length ≤ c.rest.length := by
      have := length_takeWhile_le isIdentChar rest
      rw [hrest, String.length_ofList, List.length_cons, List.length_cons, List.length_cons]
      omega
    dsimp only at h
    split at h
    · cases h
    · split at h
      · cases h
        exact Nat.le_trans (Nat.le_add_right 1 _) hword
      · split at h
        · split at h
          · cases h
            exact hword
          · split at h
            · cases h
              exact Nat.le_trans (Nat.le_add_right 1 _) hword
            · split at h
              · cases h
                exact hword
              · cases h
        · cases h
  · cases h

lemma covers_construct {m : Marker} (hm : markerSize m ≤ c.rest.length) {k : Construct}
    (h : construct c m = .ok k) : Covers d c k.tokens k.length := by
  cases m with
  | braced =>
    simp only [construct] at h
    split at h
    · cases h
    · rename_i tokens n htokens
      cases h
      have hopener : Covers d c [_] 2 := singleton .printStart hm
      exact hopener.append (covers_bracedTokens htokens)
  | bare =>
    cases h
    exact covers_bare hm
  | call => exact covers_call hm h
  | lineComment =>
    cases h
    refine covers_onLine (singleton .comment ?_) _
    have hline := length_takeWhile_le (· != '\n') (c.rest.drop 1)
    rw [List.length_drop] at hline
    have : 1 ≤ c.rest.length := hm
    omega
  | unknown name =>
    cases h
    exact covers_onLine ((covers_head hm).append (singleton .directiveEnd (Nat.zero_le _))) _
  | directive name =>
    simp only [construct] at h
    split at h
    · exact covers_enclosed hm h
    · exact covers_directive hm h

/-- Literal text reaches up to a marker or to the end, and stands for itself if it is nothing but
indentation. -/
structure Literal (c : Cursor) (content : List Char) (n : Nat) (m : Option Marker) :
    Prop where
  length : n ≤ c.rest.length
  blank : (∀ ch ∈ content, isIndent ch = true) → IsBlank (c.rest.take n)
  marker : ∀ m' ∈ m, marker? (c.advance n) = some m'
  whole : m = none → n = c.rest.length

lemma Literal.start {m : Option Marker} (hmarker : ∀ m' ∈ m, marker? c = some m')
    (hwhole : m = none → c.rest = []) : Literal c [] 0 m where
  length := Nat.zero_le _
  blank _ := isBlank_nil
  marker := hmarker
  whole h := by rw [hwhole h, List.length_nil]

/-- One more character of the content stands for one or two of the source. -/
lemma Literal.cons {ch : Char} {content : List Char} {m : Option Marker} {k : Nat}
    (h : Literal (c.advance k) content n m) (hk : k ≤ c.rest.length)
    (hch : isIndent ch = true → IsBlank (c.rest.take k)) :
    Literal c (ch :: content) (k + n) m where
  length := by
    have := h.length
    rw [rest_advance, List.length_drop] at this
    omega
  blank hcontent := by
    obtain ⟨hfirst, hmore⟩ := List.forall_mem_cons.mp hcontent
    have hblank := h.blank hmore
    rw [rest_advance] at hblank
    rw [List.take_add]
    exact (hch hfirst).append hblank
  marker := by
    rw [advance_add]
    exact h.marker
  whole hm := by
    have := h.whole hm
    rw [rest_advance, List.length_drop] at this
    omega

lemma literal_spec {content : List Char} {m : Option Marker}
    (h : literal c = (content, n, m)) : Literal c content n m := by
  fun_induction literal c generalizing content n m with
  | case1 =>
    rename_i hrest
    cases h
    exact .start nofun fun _ => hrest
  | case2 =>
    rename_i hm
    cases h
    exact .start (fun m' hm' => by cases hm'; exact hm) nofun
  | case3 =>
    rename_i ch rest hrest hsign _ k _ content m next hmore ih
    cases h
    refine (ih hmore).cons ?_ fun hch => ?_
    · rw [hrest, List.length_cons, Nat.add_le_add_iff_right]
      cases rest with
      | nil => exact Nat.le_refl 0
      | cons next rest =>
        change (if _ : (next :: rest).head? = some ch then 1 else 0) ≤ (next :: rest).length
        split
        · exact Nat.le_add_left _ _
        · exact Nat.zero_le _
    · rcases hsign with rfl | rfl <;> cases hch
  | case4 =>
    rename_i ch rest hrest _ _ content m next hmore ih
    cases h
    refine (ih hmore).cons ?_ fun hch => ?_
    · rw [hrest]
      exact Nat.le_add_left _ _
    · rw [hrest]
      exact List.forall_mem_singleton.mpr
        (isWhitespace_of_isLineBlank (isLineBlank_of_isIndent hch))

lemma covers_step {s : Step} (hc : c.rest ≠ []) (h : step c hc = .ok s) :
    Covers d c s.tokens s.length := by
  rcases hliteral : literal c with ⟨content, n, m⟩
  have hspec := literal_spec hliteral
  unfold step at h
  rw [hliteral] at h
  cases m with
  | none =>
    cases h
    refine textToken (Nat.le_refl _) fun hcontent => ?_
    have hblank := hspec.blank (by rw [hcontent]; exact List.forall_mem_nil _)
    rw [hspec.whole rfl] at hblank
    exact hblank
  | some m =>
    simp only at h
    split at h
    · cases h
    · rename_i k hk
      cases h
      refine (textToken hspec.length fun hkept => ?_).append
        (covers_construct (markerSize_le (hspec.marker m rfl)) hk)
      exact hspec.blank (isIndent_of_kept hkept)

end Stencil.Token.Native
