import Stencil.Proofs.ArgumentGroup
import Stencil.Proofs.NativeCoverage
import Stencil.Proofs.Outline

/-! Values and calls of macros without braces. They are the tokens that they are in braces, and the
text behind them stays as it is. -/
namespace Stencil.Token.Native

open TokenStream

/-! ### What is written -/

/-- A filter with the blanks around its pipe, and its arguments if there are any. -/
structure Piped where
  before : List Char
  behind : List Char
  name : String
  args : Option Arguments
  before_blank : ∀ ch ∈ before, Cursor.isLineBlank ch = true
  behind_blank : ∀ ch ∈ behind, Cursor.isLineBlank ch = true
  name_isName : isName name = true

def Piped.text (f : Piped) : List Char :=
  f.before ++ '|' :: (f.behind ++ (f.name.toList ++ Arguments.spelled f.args))

def Piped.kinds (f : Piped) : List Kind :=
  .symbol .pipe :: .ident f.name :: Arguments.spelledKinds f.args

/-- A member behind its point. -/
def memberText (name : String) : List Char := '.' :: name.toList

def memberKinds (name : String) : List Kind := [.symbol .dot, .ident name]

/-- A variable with the members that are taken of it and the filters behind them. -/
structure Shorthand where
  name : String
  members : List String
  filters : List Piped
  names : ∀ n ∈ name :: members, isName n = true

/-- The value behind the sign or inside the braces. -/
def Shorthand.text (s : Shorthand) : List Char :=
  s.name.toList ++ (s.members.flatMap memberText ++ s.filters.flatMap Piped.text)

def Shorthand.kinds (s : Shorthand) : List Kind :=
  .ident s.name :: (s.members.flatMap memberKinds ++ s.filters.flatMap Piped.kinds)

/-- The call of a macro, of an imported template if there is a member. -/
structure MacroCall where
  name : String
  member : Option String
  args : Arguments
  names : ∀ n ∈ name :: member.toList, isName n = true
  no_directive : directiveNames.contains name = false

/-- The call behind the sign or inside the braces. -/
def MacroCall.text (call : MacroCall) : List Char :=
  call.name.toList ++ (call.member.toList.flatMap memberText ++ Arguments.spelled call.args)

def MacroCall.kinds (call : MacroCall) : List Kind :=
  .ident call.name :: (call.member.toList.flatMap memberKinds ++ Arguments.spelledKinds call.args)

/-- A value between braces. -/
def braced (text : List Char) : List Char := '$' :: '{' :: (text ++ ['}'])

/-- The kinds of the tokens of an interpolation. -/
def interpolated (kinds : List Kind) : List Kind := .printStart :: (kinds ++ [.printEnd])

/-- The text cannot extend the shorthand before it: it continues no name, is no member of a path
and no filter, and no arguments of a filter that has none. -/
structure Shorthand.EndsBefore (s : Shorthand) (following : List Char) : Prop where
  breaks : Breaks following
  member : s.filters = [] →
    ∀ next more, following = '.' :: next :: more → isIdentStart next = false
  filter : ∀ gap space next more, following = gap ++ '|' :: (space ++ next :: more) →
    (∀ ch ∈ gap, Cursor.isLineBlank ch = true) → (∀ ch ∈ space, Cursor.isLineBlank ch = true) →
    isIdentStart next = false
  args : ∀ f ∈ s.filters.getLast?, f.args = none → following.head? ≠ some '('

/-- Wherever the scanner comes to this place through literal text, it reads tokens of these kinds in
`n` characters, and goes on behind them. -/
def Lexes (c : Cursor) (n : Nat) (kinds : List Kind) : Prop :=
  ∃ m tokens, marker? c = some m ∧ tokens.map Token.kind = kinds ∧
    ∀ {start content k}, literal start = (content, k, some m) → start.advance k = c →
      tokensFrom .native false start =
        (start.textToken content k ++ tokens ++ (tokensFrom .native false (c.advance n)).1,
          (tokensFrom .native false (c.advance n)).2)

variable {c : Cursor} {m : Marker} {n : Nat} {name : String} {members : List String}
  {filters : List Piped} {text more following : List Char} {ch : Char} {kinds : List Kind}

/-! ### Where words end -/

lemma isIdentChar_of_isLineBlank (h : Cursor.isLineBlank ch = true) : isIdentChar ch = false := by
  simp only [Cursor.isLineBlank, Bool.or_eq_true, beq_iff_eq] at h
  rcases h with (rfl | rfl) | rfl <;> decide

lemma breaks_members (hmore : Breaks more) : Breaks (members.flatMap memberText ++ more) := by
  cases members with
  | nil => exact hmore
  | cons member members => exact breaks_cons (by decide)

lemma Piped.exists_head (f : Piped) :
    ∃ b rest, f.text = b :: rest ∧ (Cursor.isLineBlank b = true ∨ b = '|') := by
  rw [text]
  cases hbefore : f.before with
  | nil => exact ⟨_, _, rfl, .inr rfl⟩
  | cons b before =>
    exact ⟨_, _, rfl, .inl (f.before_blank b (by rw [hbefore]; exact List.mem_cons_self))⟩

lemma breaks_filters (hmore : Breaks more) : Breaks (filters.flatMap Piped.text ++ more) := by
  cases filters with
  | nil => exact hmore
  | cons f filters =>
    obtain ⟨b, rest, htext, hb⟩ := f.exists_head
    rw [List.flatMap_cons, htext]
    rcases hb with hb | rfl
    · exact breaks_cons (isIdentChar_of_isLineBlank hb)
    · exact breaks_cons (by decide)

lemma breaks_args {args : Option Arguments} (hmore : Breaks more) :
    Breaks (Arguments.spelled args ++ more) := by
  cases args with
  | none => exact hmore
  | some args => exact breaks_cons (by decide)

/-! ### In braces -/

lemma inside_members (hnames : ∀ n ∈ members, isName n = true) (hmore : Breaks more) :
    Inside more 0 (members.flatMap memberText) (members.flatMap memberKinds) 0 := by
  induction members with
  | nil => exact .nil
  | cons member members ih =>
    obtain ⟨hmember, hmembers⟩ := List.forall_mem_cons.mp hnames
    have hdot : scan '.' (member.toList ++ (members.flatMap memberText ++ more)) =
        .ok (.symbol .dot, 0) := by
      cases member.toList ++ (members.flatMap memberText ++ more) <;> rfl
    have hname : Inside (members.flatMap memberText ++ more) 0 ([] ++ member.toList)
        [.ident member] 0 := .word hmember isBlank_nil (breaks_members hmore)
    have hboth : Inside (members.flatMap memberText ++ more) 0 (memberText member)
        (memberKinds member) 0 := (Inside.sign isBlank_nil hdot (by decide)).append hname
    exact hboth.append (ih hmembers)

lemma Piped.inside (f : Piped) (hmore : Breaks more) : Inside more 0 f.text f.kinds 0 := by
  have hbefore : IsBlank f.before := fun ch hch =>
    isWhitespace_of_isLineBlank (f.before_blank ch hch)
  have hbehind : IsBlank f.behind := fun ch hch =>
    isWhitespace_of_isLineBlank (f.behind_blank ch hch)
  have hpipe : Inside ((f.behind ++ f.name.toList ++ Arguments.spelled f.args) ++ more) 0
      (f.before ++ ['|']) [.symbol .pipe] 0 := by
    refine @Inside.sign 0 _ _ _ (.symbol .pipe) hbefore ?_ (by decide)
    cases (f.behind ++ f.name.toList ++ Arguments.spelled f.args) ++ more <;> rfl
  have hname : Inside (Arguments.spelled f.args ++ more) 0 (f.behind ++ f.name.toList)
      [.ident f.name] 0 := .word f.name_isName hbehind (breaks_args hmore)
  have hall := hpipe.append (hname.append (Arguments.inside f.args))
  simpa [Piped.text, Piped.kinds] using hall

lemma inside_filters (hmore : Breaks more) :
    Inside more 0 (filters.flatMap Piped.text) (filters.flatMap Piped.kinds) 0 := by
  induction filters with
  | nil => exact .nil
  | cons f filters ih => exact (f.inside (breaks_filters hmore)).append ih

lemma Shorthand.inside (s : Shorthand) (hmore : Breaks more) : Inside more 0 s.text s.kinds 0 := by
  obtain ⟨hname, hmembers⟩ := List.forall_mem_cons.mp s.names
  have hfilters : Breaks (s.filters.flatMap Piped.text ++ more) := breaks_filters hmore
  have hpath := inside_members hmembers hfilters
  have hword : Inside ((s.members.flatMap memberText ++ s.filters.flatMap Piped.text) ++ more) 0
      ([] ++ s.name.toList) [.ident s.name] 0 := by
    refine .word hname isBlank_nil ?_
    rw [List.append_assoc]
    exact breaks_members hfilters
  exact hword.append (hpath.append (inside_filters hmore))

lemma MacroCall.inside (call : MacroCall) : Inside more 0 call.text call.kinds 0 := by
  obtain ⟨hname, hmember⟩ := List.forall_mem_cons.mp call.names
  have hparen : Breaks (Arguments.spelled (some call.args) ++ more) := breaks_cons (by decide)
  have hword : Inside ((call.member.toList.flatMap memberText ++
      Arguments.spelled (some call.args)) ++ more) 0 ([] ++ call.name.toList)
      [.ident call.name] 0 := by
    refine .word hname isBlank_nil ?_
    rw [List.append_assoc]
    exact breaks_members hparen
  exact hword.append ((inside_members hmember hparen).append (Arguments.inside (some call.args)))

lemma construct_braced (h : Inside ('}' :: more) 0 text kinds 0)
    (hrest : c.rest = braced text ++ more) :
    ∃ found, construct c .braced = .ok found ∧
      found.IsInline (interpolated kinds) (braced text).length := by
  have hrest : c.rest = '$' :: '{' :: (text ++ ([] ++ '}' :: more)) := by
    rw [hrest]
    simp [braced]
  have hlength : (braced text).length = text.length + ([] : List Char).length + 3 := by
    simp only [braced, List.length_cons, List.length_append, List.length_nil]
  rw [hlength]
  exact construct_of_inside h isBlank_nil hrest

/-! ### Without braces -/

lemma identifier_name (hname : isName name = true) (hmore : Breaks more)
    (hrest : c.rest = name.toList ++ more) :
    identifier c = (c.token (.ident name) name.toList.length, name.toList.length) := by
  obtain ⟨first, others, hspelled, hstart, hothers, -⟩ := exists_of_isName hname
  have hword : c.rest.takeWhile isIdentChar = name.toList := by
    rw [hrest]
    refine takeWhile_before ?_ hmore
    rw [hspelled]
    exact List.forall_mem_cons.mpr ⟨isIdentChar_of_isIdentStart hstart, hothers⟩
  unfold identifier
  simp only [hword, String.ofList_toList]

/-- A path ends before a text that is no member of it. -/
lemma pathTokens_members (hnames : ∀ n ∈ members, isName n = true) (hmore : Breaks more)
    (hend : ∀ next rest, more = '.' :: next :: rest → isIdentStart next = false)
    (hrest : c.rest = members.flatMap memberText ++ more) :
    ∃ tokens, pathTokens c = (tokens, (members.flatMap memberText).length) ∧
      tokens.map Token.kind = members.flatMap memberKinds := by
  induction members generalizing c with
  | nil =>
    refine ⟨[], ?_, rfl⟩
    rw [pathTokens.eq_def]
    split
    · rename_i next rest hrest'
      rw [hend next rest (hrest.symm.trans hrest'), if_neg Bool.false_ne_true]
      rfl
    · rfl
  | cons member members ih =>
    obtain ⟨hmember, hmembers⟩ := List.forall_mem_cons.mp hnames
    obtain ⟨first, others, hspelled, hstart, -⟩ := exists_of_isName hmember
    rw [List.flatMap_cons, List.append_assoc] at hrest
    have hname := identifier_name (c := c.advance 1) hmember (breaks_members hmore)
      (@Cursor.rest_advance_of _ ['.'] _ hrest)
    have hbehind : (c.advance (member.toList.length + 1)).rest =
        members.flatMap memberText ++ more := Cursor.rest_advance_of hrest
    obtain ⟨tokens, htokens, hkinds⟩ := ih hmembers hbehind
    refine ⟨c.token (.symbol .dot) 1 :: (c.advance 1).token (.ident member) member.toList.length ::
      tokens, ?_, ?_⟩
    · have hfirst : c.rest = '.' :: first :: (others ++ (members.flatMap memberText ++ more)) := by
        rw [hrest, memberText, hspelled]
        rfl
      rw [pathTokens.eq_def]
      split
      · rename_i next rest hrest'
        rw [hfirst] at hrest'
        cases hrest'
        rw [if_pos hstart]
        simp only [hname, htokens, List.flatMap_cons, memberText, List.length_append,
          List.length_cons]
      · rename_i hno
        exact absurd hfirst (hno _ _)
    · rw [List.map_cons, List.map_cons, hkinds]
      rfl

lemma blanks_false (c : Cursor) :
    c.blanks false = (c.rest.takeWhile Cursor.isLineBlank).length := by
  unfold Cursor.blanks
  simp only [Bool.false_and, Bool.or_false]

/-- A filter begins with a pipe and, behind blanks, a name. -/
lemma pipeAhead?_none (h : ∀ space next more, text = '|' :: (space ++ next :: more) →
    (∀ ch ∈ space, Cursor.isLineBlank ch = true) → isIdentStart next = false) :
    pipeAhead? text = none := by
  unfold pipeAhead?
  split
  · rename_i rest
    dsimp only
    split
    · rfl
    · have hsplit := (List.takeWhile_append_dropWhile (p := Cursor.isLineBlank) (l := rest)).symm
      have hdrop : rest.drop (rest.takeWhile Cursor.isLineBlank).length =
          rest.dropWhile Cursor.isLineBlank := by
        conv => lhs; arg 2; rw [hsplit]
        exact List.drop_left
      rw [hdrop]
      cases hbehind : rest.dropWhile Cursor.isLineBlank with
      | nil => rfl
      | cons next more =>
        rw [hbehind] at hsplit
        have hnext := h _ next more (congrArg ('|' :: ·) hsplit)
          (fun ch hch => List.mem_takeWhile_imp hch)
        simp only [List.head?_cons, Option.any_some, hnext]
        rfl
  · rfl

lemma pipeAhead?_name {gap : List Char} (hname : isName name = true)
    (hgap : ∀ ch ∈ gap, Cursor.isLineBlank ch = true) :
    pipeAhead? ('|' :: (gap ++ (name.toList ++ more))) = some gap.length := by
  obtain ⟨first, others, hspelled, hstart, -⟩ := exists_of_isName hname
  have hfirst : Cursor.isLineBlank first = false := by
    by_contra hblank
    have hword := isIdentChar_of_isIdentStart hstart
    rw [isIdentChar_of_isLineBlank (Bool.not_eq_false _ ▸ hblank)] at hword
    cases hword
  have hrun : (gap ++ (name.toList ++ more)).takeWhile Cursor.isLineBlank = gap := by
    rw [hspelled]
    exact takeWhile_run hgap hfirst _
  have hsingle : (gap ++ (name.toList ++ more)).head? ≠ some '|' := by
    rw [hspelled]
    cases gap with
    | nil =>
      rintro ⟨⟩
      exact absurd hstart (by decide)
    | cons b gap =>
      rintro ⟨⟩
      exact absurd (hgap '|' List.mem_cons_self) (by decide)
  simp only [pipeAhead?]
  rw [if_neg hsingle, hrun, List.drop_left, hspelled]
  exact if_pos hstart

/-- What is read as the arguments of a filter whose name ends here. -/
def ReadsArguments (c : Cursor) (group : List Token) (n : Nat) : Prop :=
  if c.rest.head? = some '(' then scanGroup (.unterminated "(" ")" c.pos) 0 c = .ok (group, n)
  else group = [] ∧ n = 0

lemma exists_readsArguments (args : Option Arguments) (hmore : args = none → more.head? ≠ some '(')
    (hrest : c.rest = Arguments.spelled args ++ more) :
    ∃ group, ReadsArguments c group (Arguments.spelled args).length ∧
      group.map Token.kind = Arguments.spelledKinds args := by
  unfold ReadsArguments
  cases args with
  | none =>
    have hplain : ¬c.rest.head? = some '(' := by
      rw [hrest]
      exact hmore rfl
    simp only [if_neg hplain]
    exact ⟨[], ⟨rfl, rfl⟩, rfl⟩
  | some args =>
    have hparen : c.rest.head? = some '(' := by
      rw [hrest]
      rfl
    simp only [if_pos hparen]
    exact scanGroup_of_closed args.closed_spelled hrest _

/-- A filter is read up to the end of its name and then its arguments. -/
lemma filterTokens_name {gap space : List Char} {group : List Token} (hname : isName name = true)
    (hgap : ∀ ch ∈ gap, Cursor.isLineBlank ch = true)
    (hspace : ∀ ch ∈ space, Cursor.isLineBlank ch = true) (hmore : Breaks more)
    (hrest : c.rest = gap ++ '|' :: (space ++ (name.toList ++ more)))
    (hgroup : ReadsArguments (c.advance (gap.length + (space.length + name.toList.length + 1)))
      group n) {used : Nat} (hused : gap.length + (space.length + name.toList.length + 1) = used) :
    filterTokens c =
      ([(c.advance gap.length).token (.symbol .pipe) 1,
        (c.advance (gap.length + (space.length + 1))).token (.ident name) name.toList.length] ++
          group ++ (filterTokens (c.advance (used + n))).1,
        used + n + (filterTokens (c.advance (used + n))).2) := by
  have hblanks : c.blanks false = gap.length := by
    rw [blanks_false, hrest, takeWhile_run hgap (by decide)]
  have hpipe : (c.advance (c.blanks false)).rest = '|' :: (space ++ (name.toList ++ more)) := by
    rw [hblanks, Cursor.rest_advance_of hrest]
  have hword : (c.advance (gap.length + (space.length + 1))).rest = name.toList ++ more := by
    rw [Cursor.advance_add, ← hblanks]
    exact @Cursor.rest_advance_of _ ('|' :: space) _ hpipe
  have hbehind : ∀ m, gap.length + (space.length + name.toList.length + m + 1) = used + m :=
    fun m => by omega
  rw [hused, ReadsArguments] at hgroup
  rw [filterTokens.eq_def]
  simp only [hblanks, ← Cursor.advance_add]
  split
  · rename_i hrest'
    rw [hpipe] at hrest'
    cases hrest'
  · rename_i hrest'
    rw [hpipe] at hrest'
    cases hrest'
    simp only [pipeAhead?_name hname hspace, identifier_name hname hmore hword, hused, hbehind]
    split
    · rename_i hparen
      rw [if_pos hparen] at hgroup
      simp only [hgroup]
    · rename_i hparen
      rw [if_neg hparen] at hgroup
      obtain ⟨rfl, rfl⟩ := hgroup
      rfl

/-- One filter more is read before the others. -/
lemma filterTokens_cons (f : Piped) {tokens : List Token} (hmore : Breaks more)
    (hargs : f.args = none → more.head? ≠ some '(') (hrest : c.rest = f.text ++ more)
    (hbehind : filterTokens (c.advance f.text.length) = (tokens, n)) :
    ∃ front, filterTokens c = (front ++ tokens, f.text.length + n) ∧
      front.map Token.kind = f.kinds := by
  have hfront : c.rest = f.before ++
      '|' :: (f.behind ++ (f.name.toList ++ (Arguments.spelled f.args ++ more))) := by
    rw [hrest]
    simp [Piped.text]
  have hlength : f.text.length = f.before.length +
      (f.behind.length + f.name.toList.length + 1) + (Arguments.spelled f.args).length := by
    simp only [Piped.text, List.length_append, List.length_cons]
    omega
  have hparen : (c.advance (f.before.length + (f.behind.length + f.name.toList.length + 1))).rest =
      Arguments.spelled f.args ++ more := by
    rw [Cursor.advance_add, Nat.add_right_comm, Cursor.advance_add (f.behind.length + 1)]
    have hpipe := Cursor.rest_advance_of hfront
    exact Cursor.rest_advance_of (@Cursor.rest_advance_of _ ('|' :: f.behind) _ hpipe)
  obtain ⟨group, hgroup, hkinds⟩ := exists_readsArguments f.args hargs hparen
  have hfilter := filterTokens_name f.name_isName f.before_blank f.behind_blank (breaks_args hmore)
    hfront hgroup rfl
  rw [← hlength, hbehind] at hfilter
  refine ⟨_, hfilter, ?_⟩
  rw [List.map_append, hkinds]
  rfl

/-- Filters end before a text that is none. -/
lemma filterTokens_filters (hmore : Breaks more)
    (hend : ∀ gap space next rest, more = gap ++ '|' :: (space ++ next :: rest) →
      (∀ ch ∈ gap, Cursor.isLineBlank ch = true) → (∀ ch ∈ space, Cursor.isLineBlank ch = true) →
      isIdentStart next = false)
    (hargs : ∀ f ∈ filters.getLast?, f.args = none → more.head? ≠ some '(')
    (hrest : c.rest = filters.flatMap Piped.text ++ more) :
    ∃ tokens, filterTokens c = (tokens, (filters.flatMap Piped.text).length) ∧
      tokens.map Token.kind = filters.flatMap Piped.kinds := by
  induction filters generalizing c with
  | nil =>
    refine ⟨[], ?_, rfl⟩
    have hsplit := (List.takeWhile_append_dropWhile (p := Cursor.isLineBlank) (l := more)).symm
    have hblanks : c.blanks false = (more.takeWhile Cursor.isLineBlank).length := by
      rw [blanks_false, hrest]
      rfl
    have hbehind : (c.advance (c.blanks false)).rest = more.dropWhile Cursor.isLineBlank := by
      rw [hblanks]
      exact Cursor.rest_advance_of (hrest.trans hsplit)
    have hpipe : pipeAhead? (more.dropWhile Cursor.isLineBlank) = none := by
      refine pipeAhead?_none fun space next rest hmore hspace => ?_
      rw [hmore] at hsplit
      exact hend _ space next rest hsplit (fun ch hch => List.mem_takeWhile_imp hch) hspace
    rw [filterTokens.eq_def]
    dsimp only
    split
    · rfl
    · rename_i hrest'
      rw [← hrest', hbehind, hpipe]
      rfl
  | cons f filters ih =>
    have hlast : f.args = none → (filters.flatMap Piped.text ++ more).head? ≠ some '(' := by
      cases filters with
      | nil => exact hargs f rfl
      | cons g filters =>
        obtain ⟨b, rest, htext, hb⟩ := g.exists_head
        rw [List.flatMap_cons, htext]
        rintro - ⟨⟩
        exact absurd hb (by decide)
    have hothers : ∀ f ∈ filters.getLast?, f.args = none → more.head? ≠ some '(' := by
      intro g hg
      apply hargs g
      rw [List.getLast?_cons, hg]
      rfl
    rw [List.flatMap_cons, List.append_assoc] at hrest
    obtain ⟨tokens, htokens, hkinds⟩ := ih hothers (Cursor.rest_advance_of hrest)
    obtain ⟨front, hfront, hfrontKinds⟩ :=
      filterTokens_cons f (breaks_filters hmore) hlast hrest htokens
    refine ⟨front ++ tokens, ?_, ?_⟩
    · rw [hfront, List.flatMap_cons, List.length_append]
    · rw [List.map_append, hfrontKinds, hkinds, List.flatMap_cons]

lemma marker?_bare (hname : isName name = true) (hrest : c.rest = '$' :: (name.toList ++ more)) :
    marker? c = some .bare := by
  obtain ⟨first, others, hspelled, hstart, -⟩ := exists_of_isName hname
  have hbrace : first ≠ '{' := ne_of_isIdentStart hstart (by decide)
  unfold marker?
  rw [hrest, hspelled]
  simp only [List.cons_append, if_neg hbrace, hstart, if_pos]

/-- A value without braces ends in front of what does not extend it. -/
lemma bare_text (s : Shorthand) (hfollowing : s.EndsBefore following)
    (hrest : c.rest = '$' :: (s.text ++ following)) :
    (bare c).IsInline (interpolated s.kinds) ('$' :: s.text).length := by
  obtain ⟨hname, hmembers⟩ := List.forall_mem_cons.mp s.names
  have hfilters : Breaks (s.filters.flatMap Piped.text ++ following) :=
    breaks_filters hfollowing.breaks
  have hend : ∀ next rest, s.filters.flatMap Piped.text ++ following = '.' :: next :: rest →
      isIdentStart next = false := by
    intro next rest hdot
    cases hlist : s.filters with
    | nil =>
      rw [hlist] at hdot
      exact hfollowing.member hlist next rest hdot
    | cons f filters =>
      obtain ⟨b, rest, htext, hb⟩ := f.exists_head
      rw [hlist, List.flatMap_cons, htext] at hdot
      obtain ⟨rfl, -⟩ := List.cons.inj hdot
      exact absurd hb (by decide)
  have hword : (c.advance 1).rest =
      s.name.toList ++ (s.members.flatMap memberText ++
        (s.filters.flatMap Piped.text ++ following)) := by
    rw [Cursor.rest_advance, hrest]
    simp [Shorthand.text]
  have hpath := Cursor.rest_advance_of hword
  rw [← Cursor.advance_add] at hpath
  have hpipes := Cursor.rest_advance_of hpath
  rw [← Cursor.advance_add] at hpipes
  obtain ⟨path, hpathTokens, hpathKinds⟩ := pathTokens_members hmembers hfilters hend hpath
  obtain ⟨filters, hfilterTokens, hfilterKinds⟩ :=
    filterTokens_filters hfollowing.breaks hfollowing.filter hfollowing.args hpipes
  unfold bare
  simp only [identifier_name hname (breaks_members hfilters) hword, hpathTokens, hfilterTokens]
  refine ⟨?_, ?_, rfl⟩
  · simp only [inline, interpolated, Shorthand.kinds, List.map_cons, List.map_append, hpathKinds,
      hfilterKinds]
    rfl
  · simp only [inline, Shorthand.text, List.length_cons, List.length_append]
    omega

lemma marker?_call (call : MacroCall) (hbefore : c.before.head?.any isIdentChar = false)
    (hrest : c.rest = '@' :: (call.text ++ following)) : marker? c = some .call := by
  obtain ⟨hname, hmember⟩ := List.forall_mem_cons.mp call.names
  obtain ⟨first, others, hspelled, hstart, hothers, -⟩ := exists_of_isName hname
  have hhash : first ≠ '#' := ne_of_isIdentStart hstart (by decide)
  have hparen : Breaks (Arguments.spelled (some call.args) ++ following) :=
    breaks_cons (by decide)
  have hbehind : Breaks (call.member.toList.flatMap memberText ++
      (Arguments.spelled (some call.args) ++ following)) := breaks_members hparen
  have hword : String.ofList (first :: others) = call.name := by
    rw [← hspelled, String.ofList_toList]
  have hshaped : callShaped (call.member.toList.flatMap memberText ++
      (Arguments.spelled (some call.args) ++ following)) = true := by
    cases hmember? : call.member with
    | none => rfl
    | some member =>
      rw [hmember?] at hmember
      obtain ⟨first, others, hspelled, hstart, hothers, -⟩ :=
        exists_of_isName (hmember member (List.mem_singleton_self member))
      have hdrop : (others ++ (Arguments.spelled (some call.args) ++ following)).dropWhile
          isIdentChar = Arguments.spelled (some call.args) ++ following :=
        dropWhile_before hothers hparen
      simp only [Option.toList_some, List.flatMap_singleton, memberText, hspelled, List.cons_append,
        callShaped, hstart, hdrop]
      rfl
  unfold marker?
  rw [hrest, MacroCall.text, hspelled]
  simp only [List.cons_append, List.append_assoc, hbefore, Bool.false_eq_true, if_false,
    if_neg hhash, hstart, if_true, takeWhile_before hothers hbehind,
    dropWhile_before hothers hbehind, hword, call.no_directive, hshaped]

/-- The member that a call may have is read like a path. -/
lemma member_text {member : Option String} (hmember : ∀ n ∈ member.toList, isName n = true)
    (hmore : Breaks more) (hdot : more.head? ≠ some '.')
    (hrest : c.rest = member.toList.flatMap memberText ++ more) :
    ∃ tokens, (if c.rest.head? = some '.' then
        ([c.token (.symbol .dot) 1, (identifier (c.advance 1)).1], 1 + (identifier (c.advance 1)).2)
      else ([], 0)) = (tokens, (member.toList.flatMap memberText).length) ∧
      tokens.map Token.kind = member.toList.flatMap memberKinds := by
  cases member with
  | none =>
    have hhead : ¬c.rest.head? = some '.' := by
      rw [hrest]
      exact hdot
    exact ⟨[], if_neg hhead, rfl⟩
  | some member =>
    have hhead : c.rest.head? = some '.' := by
      rw [hrest]
      rfl
    have hname : (c.advance 1).rest = member.toList ++ more := by
      rw [Cursor.rest_advance, hrest]
      simp [memberText]
    rw [if_pos hhead, identifier_name (hmember member (List.mem_singleton_self member)) hmore hname]
    refine ⟨[c.token (.symbol .dot) 1, (c.advance 1).token (.ident member) member.toList.length],
      ?_, rfl⟩
    rw [Option.toList_some, List.flatMap_singleton, memberText, List.length_cons, Nat.add_comm]

lemma call_text (call : MacroCall) (hrest : c.rest = '@' :: (call.text ++ following)) :
    ∃ found, Native.call c = .ok found ∧
      found.IsInline (interpolated call.kinds) ('@' :: call.text).length := by
  obtain ⟨hname, hmember⟩ := List.forall_mem_cons.mp call.names
  have hparen : Breaks (Arguments.spelled (some call.args) ++ following) :=
    breaks_cons (by decide)
  have hword : (c.advance 1).rest = call.name.toList ++ (call.member.toList.flatMap memberText ++
      (Arguments.spelled (some call.args) ++ following)) := by
    rw [Cursor.rest_advance, hrest]
    simp [MacroCall.text]
  have hpath := Cursor.rest_advance_of hword
  rw [← Cursor.advance_add] at hpath
  have hargs := Cursor.rest_advance_of hpath
  rw [← Cursor.advance_add] at hargs
  obtain ⟨member, hmemberTokens, hmemberKinds⟩ := member_text hmember hparen nofun hpath
  obtain ⟨group, hgroup, hgroupKinds⟩ := scanGroup_of_closed call.args.closed_spelled hargs
    (.unterminated "(" ")" (c.advance (1 + call.name.toList.length +
      (call.member.toList.flatMap memberText).length)).pos)
  unfold Native.call
  simp only [identifier_name hname (breaks_members hparen) hword, hmemberTokens, hgroup]
  refine ⟨_, rfl, ?_, ?_, rfl⟩
  · simp only [inline, interpolated, MacroCall.kinds, List.map_cons, List.map_append, hmemberKinds,
      hgroupKinds]
    rfl
  · simp only [inline, MacroCall.text, List.length_cons, List.length_append]
    omega

/-! ### The scanner -/

lemma lexes_of_construct {found : Construct} (hm : marker? c = some m)
    (hfound : construct c m = .ok found) (hinline : found.IsInline kinds n) : Lexes c n kinds := by
  refine ⟨m, found.tokens, hm, hinline.kinds, fun {start content k} hliteral hplace => ?_⟩
  subst hplace
  have hrest : start.rest ≠ [] := by
    intro hend
    rw [literal_end hend] at hliteral
    cases hliteral
  have hlength := hinline.length
  subst hlength
  have hstep : ∃ s, step start hrest = .ok s ∧
      s.tokens = start.textToken content k ++ found.tokens ∧ s.length = k + found.length ∧
      s.strip = false := by
    unfold step
    simp only [hliteral, hfound, hinline.ownsIndent]
    exact ⟨_, rfl, rfl, rfl, rfl⟩
  obtain ⟨s, hs, htokens, hlength, hstrip⟩ := hstep
  have hall := Document.tokensFrom_step (d := .native) hrest hs hstrip rfl
  rw [hall, htokens, hlength, Cursor.advance_add]

lemma lexes_braced (h : Inside ('}' :: more) 0 text kinds 0)
    (hrest : c.rest = braced text ++ more) :
    Lexes c (braced text).length (interpolated kinds) := by
  obtain ⟨found, hfound, hinline⟩ := construct_braced h hrest
  exact lexes_of_construct (marker?_braced hrest) hfound hinline

/-- Without braces a value or a call of a macro is the tokens that it is with them, and what stands
behind it is read as it would be anywhere. -/
theorem lexes_shorthand :
    (∀ (s : Shorthand) {following more : List Char} {c c' : Cursor},
      s.EndsBefore following → c.rest = '$' :: (s.text ++ following) →
      c'.rest = braced s.text ++ more →
      Lexes c ('$' :: s.text).length (interpolated s.kinds) ∧
        Lexes c' (braced s.text).length (interpolated s.kinds)) ∧
    ∀ (call : MacroCall) {following more : List Char} {c c' : Cursor},
      c.before.head?.any isIdentChar = false → c.rest = '@' :: (call.text ++ following) →
      c'.rest = braced call.text ++ more →
      Lexes c ('@' :: call.text).length (interpolated call.kinds) ∧
        Lexes c' (braced call.text).length (interpolated call.kinds) := by
  have hbrace : ∀ {more : List Char}, Breaks ('}' :: more) := breaks_cons (by decide)
  constructor
  · intro s following more c c' hfollowing hrest hrest'
    have hmarker : marker? c = some .bare := by
      rw [Shorthand.text, List.append_assoc] at hrest
      exact marker?_bare (s.names _ List.mem_cons_self) hrest
    exact ⟨lexes_of_construct hmarker rfl (bare_text s hfollowing hrest),
      lexes_braced (s.inside hbrace) hrest'⟩
  · intro call following more c c' hbefore hrest hrest'
    obtain ⟨found, hfound, hinline⟩ := call_text call hrest
    exact ⟨lexes_of_construct (marker?_call call hbefore hrest) hfound hinline,
      lexes_braced call.inside hrest'⟩

/-- Arguments on two lines, with a parenthesis in a string. -/
def fallback : Arguments where
  text := ['"', 'x', ')', '"', ',', '\n', ' ', 'a', ')']
  kinds := [.str (String.ofList ['x', ')']), .symbol .comma, .ident (String.ofList ['a']),
    .symbol .closeParen]
  closed :=
    .token [] ['x', ')', '"'] isBlank_nil rfl Nat.one_pos <|
      .token [] [] isBlank_nil rfl Nat.one_pos <|
        .token ['\n', ' '] [] (List.all_eq_true.mp (by decide)) rfl Nat.one_pos <|
          .last [] isBlank_nil

/-- A member and two filters, of which the first one has arguments. -/
def greeting : Shorthand where
  name := "user"
  members := ["name"]
  filters :=
    [⟨[' '], [' '], "default", some fallback, List.forall_mem_singleton.mpr rfl,
       List.forall_mem_singleton.mpr rfl, by decide +kernel⟩,
     ⟨[], ['\t'], "upper", none, List.forall_mem_nil _, List.forall_mem_singleton.mpr rfl,
       by decide +kernel⟩]
  names := by decide +kernel

/-- A macro of an imported template. -/
def card : MacroCall where
  name := "ui"
  member := some "card"
  args := fallback
  names := by decide +kernel
  no_directive := by decide +kernel

/-- A sentence ends behind the value, and a word behind the call. -/
theorem lexes_shorthand_greeting :
    greeting.EndsBefore ['.', ' '] ∧
      Lexes (.start ('$' :: (greeting.text ++ ['.', ' ']))) ('$' :: greeting.text).length
        (interpolated greeting.kinds) ∧
      Lexes (.start (braced greeting.text ++ ['.', ' '])) (braced greeting.text).length
        (interpolated greeting.kinds) ∧
      Lexes (.start ('@' :: (card.text ++ ['s']))) ('@' :: card.text).length
        (interpolated card.kinds) ∧
      Lexes (.start (braced card.text ++ ['s'])) (braced card.text).length
        (interpolated card.kinds) := by
  have hfollowing : greeting.EndsBefore ['.', ' '] := by
    refine ⟨breaks_cons (by decide), nofun, fun gap space next more htext hgap _ => ?_, nofun⟩
    cases gap with
    | nil => cases htext
    | cons b gap =>
      obtain ⟨rfl, -⟩ := List.cons.inj htext
      exact absurd (hgap '.' List.mem_cons_self) (by decide)
  have hvalue : Lexes (.start ('$' :: (greeting.text ++ ['.', ' ']))) _ _ ∧
      Lexes (.start (braced greeting.text ++ ['.', ' '])) _ _ :=
    lexes_shorthand.1 greeting hfollowing rfl rfl
  have hcall : Lexes (.start ('@' :: (card.text ++ ['s']))) _ _ ∧
      Lexes (.start (braced card.text ++ ['s'])) _ _ := lexes_shorthand.2 card rfl rfl rfl
  exact ⟨hfollowing, hvalue.1, hvalue.2, hcall.1, hcall.2⟩

end Stencil.Token.Native
