import RuleEngine.Proofs.Parser.Completeness
import RuleEngine.Proofs.Parser.Stepwise

/-!
# Levels taken and given back

The parsers share a place among the tokens and a count of the levels that are open. A
level is given back in one of three ways: by itself after the parser that needed it, all
levels of a chain at once at its end, and none of them after a failure. Here it is shown
that this adds up, for any tokens the last of which is the end of the input, wherever
among them a parser starts and however many levels are open then (`levels_balanced`).

A parser that succeeds passes a token and gives back what it took (`Balances`). The
parsers of all levels do, if those inside do where fewer tokens are left
(`readerOver_balances`), so all of them do, by induction on the number of tokens left.
-/

namespace RuleEngine

open Grammar

namespace Parse

variable {α : Type}

/-! ### Parsers that give back what they take -/

/-- Another parser does the same where so few tokens are left. -/
def SameBelow (bound : Nat) (p q : Parse α) : Prop :=
  ∀ c : Cursor, c.rest.length < bound → q.run c = p.run c

/-- Where so few tokens are left, and the limit is not passed, a parser goes on to where a
    condition asks for if it succeeds. Another one does the same. -/
def DoesBelow (limit bound : Nat) (post : Cursor → Cursor → Prop) (p q : Parse α) : Prop :=
  ∀ c : Cursor, EndsOnce c.rest → c.rest.length < bound → c.depth ≤ limit →
    Does limit p q c fun _ c' => post c c'

/-- A parser that succeeds has passed a token and is as deep as at its beginning. -/
abbrev Balances (limit bound : Nat) (p q : Parse α) : Prop :=
  DoesBelow limit bound (fun c c' => c'.depth = c.depth ∧ c'.rest.length < c.rest.length) p q

/-- A parser that goes on with something may take levels and leave them open. -/
abbrev Continues (limit bound : Nat) (p q : Parse α) : Prop :=
  DoesBelow limit bound (fun _ _ => True) p q

section Balances

variable {limit bound : Nat} {p q : Parse α} {inner inner' operand operand' : Parse Expr}
  {post : Cursor → Cursor → Prop}

theorem DoesBelow.mono (h : DoesBelow limit bound post p q) {bound' : Nat} (hle : bound' ≤ bound) :
    DoesBelow limit bound' post p q :=
  fun c hc hbound => h c hc (Nat.lt_of_lt_of_le hbound hle)

theorem DoesBelow.congr (h : DoesBelow limit bound post p p) (hq : SameBelow bound p q) :
    DoesBelow limit bound post p q := by
  intro c hc hbound hdepth
  obtain ⟨result, c', hsteps, hrun, ho, hpost⟩ := h c hc hbound hdepth
  exact ⟨result, c', hsteps, (hq c hbound).trans hrun, ho, hpost⟩

/-- A word that stands for itself is passed. -/
theorem does_word {s : Spanned} {rest : List Spanned} {depth : Nat} (hc : EndsOnce (s :: rest))
    (hs : s.token ≠ .endOfInput) (a : α) :
    Does limit (do advance; return a) (do advance; return a) ⟨s :: rest, depth⟩
      fun _ c' => c'.depth = depth ∧ c'.rest.length < rest.length + 1 :=
  .advance hc hs fun hrest => .pure hrest ⟨rfl, Nat.lt_succ_self _⟩

/-! ### Arguments, calls and parentheses -/

theorem balances_afterArgument {next next' : Parse (List Expr)}
    (hinner : Balances limit (bound + 1) inner inner') (hnext : Balances limit bound next next') :
    Balances limit (bound + 1) (inner >>= afterArgument next)
      (inner' >>= afterArgument next') := by
  intro c hc hbound hdepth
  refine (hinner c hc hbound hdepth).bind fun e c' ho h => ?_
  obtain ⟨hd, hlt⟩ := h
  have hc' := hc.of_suffix ho.suffix ho.ne_nil
  obtain ⟨s, rest, depth, rfl⟩ := hc'.exists_cons
  dsimp only at hd hlt hc'
  rw [List.length_cons] at hlt
  refine .current ?_
  split
  · next hs =>
    refine .advance hc' (by simp [hs]) fun hrest => ?_
    refine (hnext _ hrest (by dsimp only; omega) (hd ▸ hdepth)).bind fun es c'' ho' h' => ?_
    obtain ⟨hd', hlt'⟩ := h'
    dsimp only at hlt'
    exact .pure (hrest.of_suffix ho'.suffix ho'.ne_nil) ⟨hd'.trans hd, by omega⟩
  · exact .pure hc' ⟨hd, by simpa using hlt⟩

theorem arguments_balances (hinner : Balances limit bound inner inner') (count : Nat) :
    Balances limit bound (arguments inner count) (arguments inner' count) := by
  rcases bound with _ | bound
  · exact fun c _ hbound => absurd hbound (Nat.not_lt_zero _)
  induction count with
  | zero =>
    intro c hc _ _
    obtain ⟨s, rest, depth, rfl⟩ := hc.exists_cons
    exact .current (.fail _)
  | succ count ih => exact balances_afterArgument hinner (ih.mono (Nat.le_succ _))

theorem callTail_does (hinner : Balances limit bound inner inner') (function : String)
    {s : Spanned} {rest : List Spanned} {depth : Nat} (hc : EndsOnce (s :: rest))
    (hbound : rest.length < bound) (hdepth : depth ≤ limit) (hs : s.token ≠ .endOfInput) :
    Does limit (callTail inner function) (callTail inner' function) ⟨s :: rest, depth⟩
      fun _ c' => c'.depth = depth ∧ c'.rest.length < rest.length + 1 := by
  rw [callTail, callTail]
  refine .advance hc hs fun hrest => ?_
  obtain ⟨t, rest, rfl⟩ := List.exists_cons_of_ne_nil hrest.ne_nil
  refine .current ?_
  split
  · next ht =>
    exact (does_word hrest (by simp [ht]) _).mono fun _ _ _ h => ⟨h.1, Nat.lt_succ_of_lt h.2⟩
  · refine .step (.get _) (onward_refl hrest) ?_
    refine (arguments_balances hinner _ _ hrest hbound hdepth).bind fun es c' ho h => ?_
    obtain ⟨hd, hlt⟩ := h
    have hc' := hrest.of_suffix ho.suffix ho.ne_nil
    obtain ⟨u, rest', depth', rfl⟩ := hc'.exists_cons
    refine .expect hc' fun hrest' => .pure hrest' ⟨hd, ?_⟩
    simp only [List.length_cons] at hlt ⊢
    omega

/-- A primary phrase goes on inside it only after its first word. -/
theorem primary_balances (hinner : Balances limit bound inner inner') :
    Balances limit (bound + 1) (primary inner) (primary inner') := by
  intro c hc hbound hdepth
  obtain ⟨s, rest, depth, rfl⟩ := hc.exists_cons
  replace hbound : rest.length < bound := Nat.lt_of_succ_lt_succ hbound
  refine .current ?_
  cases hs : s.token with
  | number text =>
    dsimp only
    split
    · exact does_word hc (by simp [hs]) _
    · exact .fail _
  | string text => exact does_word hc (by simp [hs]) _
  | boolean b => exact does_word hc (by simp [hs]) _
  | identifier name =>
    refine .advance hc (by simp [hs]) fun hrest => ?_
    obtain ⟨t, rest, rfl⟩ := List.exists_cons_of_ne_nil hrest.ne_nil
    refine .current ?_
    split
    · next ht =>
      refine (callTail_does hinner name hrest (Nat.lt_of_succ_lt hbound) hdepth
        (by simp [ht])).mono fun _ _ _ h => ⟨h.1, Nat.lt_succ_of_lt h.2⟩
    · exact .pure hrest ⟨rfl, Nat.lt_succ_self _⟩
  | symbol x =>
    by_cases hx : x = .leftParen
    · subst hx
      refine .advance hc (by simp [hs]) fun hrest => ?_
      refine (hinner ⟨rest, depth⟩ hrest hbound hdepth).bind fun e c' ho h => ?_
      obtain ⟨hd, hlt⟩ := h
      have hc' := hrest.of_suffix ho.suffix ho.ne_nil
      obtain ⟨u, rest', depth', rfl⟩ := hc'.exists_cons
      refine .expect hc' fun hrest' => .pure hrest' ⟨hd, ?_⟩
      simp only [List.length_cons] at hlt ⊢
      omega
    · -- No other symbol begins a primary phrase.
      cases x <;> first
        | exact absurd rfl hx
        | exact .fail _
  | endOfInput => exact .fail _

/-! ### Operators -/

/-- One more unary operator, or a primary phrase. -/
def unaryStep (limit : Nat) (inner next : Parse Expr) : Parse Expr := do
  match ← operator? unaryOp? with
  | none => primary inner
  | some op =>
    advance
    enter limit
    let operand ← released next
    return .unary op operand

theorem unary_succ (limit : Nat) (inner : Parse Expr) (room : Nat) :
    unary limit inner (room + 1) = unaryStep limit inner (unary limit inner room) := rfl

theorem unaryStep_balances {next next' : Parse Expr} (hinner : Balances limit bound inner inner')
    (hnext : Balances limit bound next next') :
    Balances limit (bound + 1) (unaryStep limit inner next) (unaryStep limit inner' next') := by
  intro c hc hbound hdepth
  have hprimary := primary_balances hinner c hc hbound hdepth
  obtain ⟨s, rest, depth, rfl⟩ := hc.exists_cons
  refine .operator hprimary fun op hs => .advance hc hs fun hrest => ?_
  obtain ⟨t, rest, rfl⟩ := List.exists_cons_of_ne_nil hrest.ne_nil
  -- The level is given back after the operand, unlike that of an operator of a chain.
  rw [← bind_assoc, ← bind_assoc]
  have hoperand : Does limit (do enter limit; released next) (do enter limit; released next')
      ⟨t :: rest, depth⟩ fun _ c' => c'.depth = depth ∧ c'.rest.length < rest.length + 1 := by
    refine .entered hdepth fun hlt => ?_
    refine (hnext ⟨t :: rest, depth + 1⟩ hrest (Nat.lt_of_succ_lt_succ hbound) hlt).mono ?_
    exact fun _ _ _ h => ⟨h.1, rfl, h.2⟩
  refine hoperand.bind fun e c' ho h => ?_
  exact .pure (hrest.of_suffix ho.suffix ho.ne_nil) ⟨h.1, Nat.lt_succ_of_lt h.2⟩

theorem unary_balances (hinner : Balances limit bound inner inner') (room : Nat) :
    Balances limit (bound + 1) (unary limit inner room) (unary limit inner' room) := by
  induction room with
  | zero =>
    intro c hc hbound hdepth
    have hprimary := primary_balances hinner c hc hbound hdepth
    obtain ⟨s, rest, depth, rfl⟩ := hc.exists_cons
    exact .operator hprimary fun op hs => .refused hc hs hdepth
  | succ room ih =>
    rw [unary_succ, unary_succ]
    exact unaryStep_balances hinner (ih.mono (Nat.le_succ _))

/-- One more operator of a chain and its operand, or nothing. -/
def chainStep (limit : Nat) (op? : Symbol → Option BinaryOp) (operand : Parse Expr)
    (next : Expr → Parse Expr) (left : Expr) : Parse Expr := do
  match ← operator? op? with
  | none => return left
  | some op =>
    advance
    enter limit
    let right ← operand
    next (.binary op left right)

theorem chainTail_succ (limit : Nat) (op? : Symbol → Option BinaryOp) (operand : Parse Expr)
    (room : Nat) (left : Expr) : chainTail limit op? operand (room + 1) left =
      chainStep limit op? operand (chainTail limit op? operand room) left := rfl

theorem chainStep_continues {op? : Symbol → Option BinaryOp} {next next' : Expr → Parse Expr}
    (hoperand : Balances limit bound operand operand')
    (hnext : ∀ left, Continues limit bound (next left) (next' left)) (left : Expr) :
    Continues limit (bound + 1) (chainStep limit op? operand next left)
      (chainStep limit op? operand' next' left) := by
  intro c hc hbound hdepth
  obtain ⟨s, rest, depth, rfl⟩ := hc.exists_cons
  refine .operator (.pure hc trivial) fun op hs => .advance hc hs fun hrest => ?_
  obtain ⟨t, rest, rfl⟩ := List.exists_cons_of_ne_nil hrest.ne_nil
  replace hbound : rest.length + 1 < bound := Nat.lt_of_succ_lt_succ hbound
  refine .enter hdepth fun hlt => ?_
  refine (hoperand ⟨t :: rest, depth + 1⟩ hrest hbound hlt).bind fun right c' ho h => ?_
  obtain ⟨hd, hlt'⟩ := h
  exact hnext _ c' (hrest.of_suffix ho.suffix ho.ne_nil) (Nat.lt_trans hlt' hbound)
    (Nat.le_trans (Nat.le_of_eq hd) hlt)

theorem chainTail_continues {op? : Symbol → Option BinaryOp}
    (hoperand : Balances limit bound operand operand') (room : Nat) (left : Expr) :
    Continues limit (bound + 1) (chainTail limit op? operand room left)
      (chainTail limit op? operand' room left) := by
  induction room generalizing left with
  | zero =>
    intro c hc _ hdepth
    obtain ⟨s, rest, depth, rfl⟩ := hc.exists_cons
    exact .operator (.pure hc trivial) fun op hs => .refused hc hs hdepth
  | succ room ih =>
    rw [chainTail_succ, chainTail_succ]
    exact chainStep_continues hoperand (fun left => (ih left).mono (Nat.le_succ _)) left

/-- Whatever levels a chain takes, it gives back at its end. -/
theorem chain_balances (room : Nat) (op? : Symbol → Option BinaryOp)
    (hoperand : Balances limit (bound + 1) operand operand') :
    Balances limit (bound + 1) (chain limit room op? operand)
      (chain limit room op? operand') := by
  intro c hc hbound hdepth
  refine .step (.get c) (onward_refl hc) ?_
  refine (hoperand c hc hbound hdepth).bind fun first c' ho h => ?_
  obtain ⟨hd, hlt⟩ := h
  have hc' := hc.of_suffix ho.suffix ho.ne_nil
  have htail : Does limit (chainTail limit op? operand room first)
      (chainTail limit op? operand' room first) c' fun _ _ => True :=
    chainTail_continues (hoperand.mono (Nat.le_succ _)) room first c' hc'
      (Nat.lt_trans hlt hbound) (hd ▸ hdepth)
  rw [← hd]
  exact htail.restored.mono fun _ c'' ho' h' =>
    ⟨h'.1.trans hd, Nat.lt_of_le_of_lt ho'.suffix.length_le hlt⟩

theorem comparison_balances {room : Nat}
    (hsum : Balances limit (bound + 1) (additive limit room inner) (additive limit room inner')) :
    Balances limit (bound + 1) (comparison limit room inner) (comparison limit room inner') := by
  intro c hc hbound hdepth
  refine (hsum c hc hbound hdepth).bind fun left c' ho h => ?_
  obtain ⟨hd, hlt⟩ := h
  have hc' := hc.of_suffix ho.suffix ho.ne_nil
  obtain ⟨s, rest, depth, rfl⟩ := hc'.exists_cons
  dsimp only at hd hlt hc'
  rw [List.length_cons] at hlt
  refine .operator (.pure hc' ⟨hd, hlt⟩) fun op hs => .advance hc' hs fun hrest => ?_
  refine (hsum ⟨rest, depth⟩ hrest (by dsimp only; omega) (hd ▸ hdepth)).bind
    fun right c'' ho' h' => ?_
  obtain ⟨hd', hlt'⟩ := h'
  dsimp only at hlt'
  exact .pure (hrest.of_suffix ho'.suffix ho'.ne_nil) ⟨hd'.trans hd, by omega⟩

/-! ### Levels -/

/-- The parser of a level over one for arguments and for what is in parentheses. -/
def readerOver (limit room unaries : Nat) (inner : Parse Expr) : Level → Parse Expr
  | .disjunction => disjunction limit room inner
  | .conjunction => conjunction limit room inner
  | .comparison => comparison limit room inner
  | .sum => additive limit room inner
  | .product => multiplicative limit room inner
  | .unary => unary limit inner unaries
  | .primary => primary inner

theorem reader_eq (limit room unaries : Nat) (level : Level) :
    reader limit room unaries level =
      readerOver limit room unaries (expression limit room) level := by
  cases level <;> rfl

/-- The parsers of all levels give back what they take, if what is inside does where fewer
    tokens are left. -/
theorem readerOver_balances (hinner : Balances limit bound inner inner') (room unaries : Nat)
    (level : Level) : Balances limit (bound + 1) (readerOver limit room unaries inner level)
      (readerOver limit room unaries inner' level) := by
  have hproduct : Balances limit (bound + 1) (multiplicative limit room inner)
      (multiplicative limit room inner') :=
    chain_balances room _ (unary_balances hinner room)
  have hsum : Balances limit (bound + 1) (additive limit room inner) (additive limit room inner') :=
    chain_balances room _ hproduct
  have hcomparison := comparison_balances hsum
  have hconjunction : Balances limit (bound + 1) (conjunction limit room inner)
      (conjunction limit room inner') :=
    chain_balances room _ hcomparison
  cases level with
  | disjunction => exact chain_balances room _ hconjunction
  | conjunction => exact hconjunction
  | comparison => exact hcomparison
  | sum => exact hsum
  | product => exact hproduct
  | unary => exact unary_balances hinner unaries
  | primary => exact primary_balances hinner

/-- An expression takes a level, and gives it back as the parser inside does. -/
theorem expression_balances (limit room bound : Nat) :
    Balances limit bound (expression limit room) (expression limit room) := by
  induction room generalizing bound with
  | zero =>
    intro c hc _ hdepth
    obtain ⟨s, rest, depth, rfl⟩ := hc.exists_cons
    exact .enter hdepth fun _ => .fail _
  | succ room ih =>
    intro c hc hbound hdepth
    obtain ⟨s, rest, depth, rfl⟩ := hc.exists_cons
    refine .entered hdepth fun hlt => ?_
    refine (readerOver_balances (ih bound) room room .disjunction ⟨s :: rest, depth + 1⟩ hc
      (Nat.lt_succ_of_lt hbound) hlt).mono ?_
    exact fun _ _ _ h => ⟨h.1, rfl, h.2⟩

end Balances

/-! ### Positions -/

/-- From a position and a depth a parser goes on, step by step, to a position that is not
    before that one and not past the last token. At no step are more than one level above
    the limit open. If it succeeds it has passed a token and is as deep as before, and if
    it fails it is not less deep. -/
def IsBalanced (limit : Nat) (tokens : List Spanned) (position depth : Nat) (p : Parse α) : Prop :=
  ∃ result position' depth',
    Steps limit p ⟨tokens.drop position, depth⟩ result ⟨tokens.drop position', depth'⟩ ∧
    p.run ⟨tokens.drop position, depth⟩ = (result, ⟨tokens.drop position', depth'⟩) ∧
    position ≤ position' ∧ position' < tokens.length ∧ depth ≤ depth' ∧ depth' ≤ limit + 1 ∧
    ∀ a, result = .ok a → position < position' ∧ depth' = depth

/-- What a parser starts again inside itself, and what its loops go on with, is only ever
    used where fewer tokens are left than at the beginning: with anything else that does the
    same there, the outcome is the same. -/
structure ConsumesFirst (limit room : Nat) (c : Cursor) : Prop where
  /-- In arguments and parentheses. -/
  inside : ∀ level unaries inner, SameBelow c.rest.length (expression limit room) inner →
    (readerOver limit room unaries inner level).run c = (reader limit room unaries level).run c
  /-- After a unary operator. -/
  operand : ∀ unaries next,
    SameBelow c.rest.length (unary limit (expression limit room) unaries) next →
    (unaryStep limit (expression limit room) next).run c =
      (unary limit (expression limit room) (unaries + 1)).run c
  /-- After an operator of a chain and its operand. -/
  chain : ∀ level operators next left,
    (∀ left, SameBelow c.rest.length (continuation limit room level operators left) (next left)) →
    (chainStep limit (chainOp? level) (reader limit room room level.operand) next left).run c =
      (continuation limit room level (operators + 1) left).run c
  /-- After an argument and a comma. -/
  arguments : ∀ count next,
    SameBelow c.rest.length (arguments (expression limit room) count) next →
    (expression limit room >>= afterArgument next).run c =
      (arguments (expression limit room) (count + 1)).run c

variable {limit room : Nat} {c : Cursor}

theorem reader_balances (limit room unaries bound : Nat) (level : Level) :
    Balances limit bound (reader limit room unaries level) (reader limit room unaries level) := by
  rw [reader_eq]
  exact (readerOver_balances (expression_balances limit room bound) room unaries level).mono
    (Nat.le_succ _)

theorem consumesFirst (hc : EndsOnce c.rest) (hdepth : c.depth ≤ limit) :
    ConsumesFirst limit room c := by
  have hinner := expression_balances limit room
  have hlt : c.rest.length < c.rest.length + 1 := Nat.lt_succ_self _
  refine ⟨fun level unaries inner hsame => ?_, fun unaries next hsame => ?_,
    fun level operators next left hsame => ?_, fun count next hsame => ?_⟩
  · rw [reader_eq]
    exact (readerOver_balances ((hinner _).congr hsame) room unaries level c hc hlt hdepth).run_eq
  · have hself := (unary_balances (hinner c.rest.length) unaries).mono (Nat.le_succ _)
    exact (unaryStep_balances (hinner _) (hself.congr hsame) c hc hlt hdepth).run_eq
  · have hoperand := reader_balances limit room room c.rest.length level.operand
    have hself (left : Expr) : Continues limit c.rest.length
        (continuation limit room level operators left)
        (continuation limit room level operators left) :=
      (chainTail_continues hoperand operators left).mono (Nat.le_succ _)
    exact (chainStep_continues hoperand (fun left => (hself left).congr (hsame left)) left c hc hlt
      hdepth).run_eq
  · have hself := arguments_balances (hinner c.rest.length) count
    exact (balances_afterArgument (hinner _) (hself.congr hsame) c hc hlt hdepth).run_eq

/-- What is left of some tokens begins at a position among them. -/
theorem exists_position {tokens rest : List Spanned} {position : Nat}
    (h : rest <:+ tokens.drop position) (hne : rest ≠ []) :
    ∃ position', position ≤ position' ∧ position' < tokens.length ∧
      rest = tokens.drop position' := by
  obtain ⟨us, hus⟩ := h
  have hrest : rest = tokens.drop (position + us.length) := by
    rw [← List.drop_drop, ← hus, List.drop_left]
  refine ⟨position + us.length, Nat.le_add_right _ _, Nat.lt_of_not_le fun hge => ?_, hrest⟩
  exact hne (hrest.trans (List.drop_eq_nil_of_le hge))

theorem DoesBelow.isBalanced {p : Parse α} {tokens : List Spanned} {position depth : Nat}
    (h : Balances limit (tokens.length + 1) p p) (htokens : EndsOnce tokens)
    (hposition : position < tokens.length) (hdepth : depth ≤ limit) :
    IsBalanced limit tokens position depth p := by
  have hdrop : tokens.drop position <:+ tokens := List.drop_suffix _ _
  have hne : tokens.drop position ≠ [] := by simpa using hposition
  obtain ⟨result, ⟨rest, depth'⟩, hsteps, hrun, ho, hpost⟩ := h ⟨tokens.drop position, depth⟩
    (htokens.of_suffix hdrop hne) (Nat.lt_succ_of_le hdrop.length_le) hdepth
  obtain ⟨position', hle, hlt, rfl⟩ := exists_position ho.suffix ho.ne_nil
  refine ⟨result, position', depth', hsteps, hrun, hle, hlt, ho.depth_le,
    hsteps.depth_le (Nat.le_succ_of_le hdepth), fun a ha => ?_⟩
  obtain ⟨hd, hlength⟩ := hpost a ha
  simp only [List.length_drop] at hlength
  exact ⟨by omega, hd⟩

/-- The bookkeeping of the parsers is balanced. Among tokens the last of which, and no
    other, is the end of the input, wherever the parser of a level or of expressions starts
    and however many levels within the limit are open then: if it succeeds, just as many
    are open at the end, and it has passed at least one token but not the last; if it fails,
    no fewer are open. On the way no level is given back that is not open, and never more
    than one above the limit are open. And all that is started again inside and all that a
    loop goes on with has fewer tokens left. -/
theorem levels_balanced {tokens : List Spanned} (htokens : EndsOnce tokens) (limit room : Nat)
    {position depth : Nat} (hposition : position < tokens.length) (hdepth : depth ≤ limit) :
    (∀ unaries level, IsBalanced limit tokens position depth (reader limit room unaries level)) ∧
      IsBalanced limit tokens position depth (expression limit room) ∧
      ConsumesFirst limit room ⟨tokens.drop position, depth⟩ := by
  have hne : tokens.drop position ≠ [] := by simpa using hposition
  refine ⟨fun unaries level => ?_, ?_, ?_⟩
  · exact (reader_balances _ _ _ _ _).isBalanced htokens hposition hdepth
  · exact (expression_balances _ _ _).isBalanced htokens hposition hdepth
  · exact consumesFirst (htokens.of_suffix (List.drop_suffix _ _) hne) hdepth

/-- The level of a negation is given back after it, unless it is one too many. -/
theorem levels_balanced_negation :
    let tokens : List Spanned :=
      [⟨.identifier "f", 0⟩, ⟨.symbol .leftParen, 1⟩, ⟨.symbol .minus, 2⟩, ⟨.number "1", 3⟩,
        ⟨.symbol .rightParen, 4⟩, ⟨.endOfInput, 5⟩]
    EndsOnce tokens ∧ 2 < tokens.length ∧ 1 ≤ 2 ∧
      IsBalanced 2 tokens 2 1 (reader 2 2 2 .unary) ∧
      (reader 2 2 2 .unary).run ⟨tokens.drop 2, 1⟩ =
        (.ok (.unary .minus (.literal (.integer 1))), ⟨tokens.drop 4, 1⟩) ∧
      IsBalanced 1 tokens 2 1 (reader 1 1 1 .unary) ∧
      (reader 1 1 1 .unary).run ⟨tokens.drop 2, 1⟩ =
        (.error (.badSyntax 3 (.tooDeep 1)), ⟨tokens.drop 3, 2⟩) := by
  intro tokens
  have htokens : EndsOnce tokens :=
    ⟨tokens.take 5, ⟨.endOfInput, 5⟩, rfl, rfl, by decide⟩
  have hposition : 2 < tokens.length := by decide
  exact ⟨htokens, hposition, by decide,
    (levels_balanced htokens 2 2 hposition (by decide)).1 2 .unary, rfl,
    (levels_balanced htokens 1 1 hposition (by decide)).1 1 .unary, rfl⟩

end Parse

end RuleEngine
