import RuleEngine.Proofs.Parser.Acceptance

/-!
# How far the parser looks

The parser never looks past the token at hand. So where it fails at a token, it fails
there whatever comes after that token, and also if there may be more levels, unless it
is for want of levels that it fails.

To show this, the parser is run on two inputs that are the same up to a token
(`Fork`), the second time with no fewer levels. Every part of it does the same on both
as long as it does not pass that token (`Follows`), which is closed under putting
parts together.
-/

namespace RuleEngine

/-- Two inputs that are the same up to a token. The first goes on after it, unless it is
    the end of the input, and where the first ends so does the second. -/
structure Fork where
  token : Spanned
  rest : List Spanned
  rest' : List Spanned
  more : token.token ≠ .endOfInput → rest ≠ []
  ends : rest = [] → rest' = []

namespace Fork

variable (k : Fork)

/-- What the first input has after some tokens that both begin with. -/
def left (us : List Spanned) : List Spanned :=
  us ++ k.token :: k.rest

/-- What the second input has. -/
def right (us : List Spanned) : List Spanned :=
  us ++ k.token :: k.rest'

/-- What comes of parsing two inputs that begin with the same tokens. -/
inductive Outcomes {α : Type} (limit : Nat) (us : List Spanned) :
    Except Error α × Cursor → Except Error α × Cursor → Prop
  /-- The same, and before the token up to which they are the same. -/
  | same (result : Except Error α) {us' : List Spanned} (h : us' <:+ us) (depth : Nat) :
      Outcomes limit us (result, ⟨k.left us', depth⟩) (result, ⟨k.right us', depth⟩)
  /-- That token has been passed in the first. -/
  | past {x y : Except Error α × Cursor} (h : x.2.rest <:+ k.rest) : Outcomes limit us x y
  /-- There are not levels enough for the first. -/
  | refused (offset : Nat) (c : Cursor) (y : Except Error α × Cursor) :
      Outcomes limit us (.error (.badSyntax offset (.tooDeep limit)), c) y

theorem left_cons (v : Spanned) (us : List Spanned) : k.left (v :: us) = v :: k.left us := rfl

theorem right_cons (v : Spanned) (us : List Spanned) : k.right (v :: us) = v :: k.right us := rfl

/-- The token at hand is the same in both. -/
theorem exists_cons (us : List Spanned) :
    ∃ s rest rest', k.left us = s :: rest ∧ k.right us = s :: rest' := by
  cases us with
  | nil => exact ⟨k.token, k.rest, k.rest', rfl, rfl⟩
  | cons v us => exact ⟨v, k.left us, k.right us, rfl, rfl⟩

end Fork

namespace Parse

variable {α β : Type}

/-! ### Going forward -/

/-- A parser goes to no token but one that it has before it. -/
def GoesForward (p : Parse α) : Prop :=
  ∀ c, (p.run c).2.rest <:+ c.rest

theorem GoesForward.of_stays {p : Parse α} (h : ∀ c, (p.run c).2.rest = c.rest) :
    GoesForward p :=
  fun c => (h c).symm ▸ List.suffix_refl _

theorem GoesForward.pure (a : α) : GoesForward (pure a : Parse α) :=
  .of_stays fun _ => rfl

theorem GoesForward.bind {p : Parse α} {f : α → Parse β} (h : GoesForward p)
    (hf : ∀ a, GoesForward (f a)) : GoesForward (p >>= f) := by
  intro c
  have hc := h c
  rw [run_bind]
  rcases hp : p.run c with ⟨_ | a, c'⟩
  · rwa [hp] at hc
  · rw [hp] at hc
    exact (hf a c').trans hc

theorem goesForward_current : GoesForward current :=
  .of_stays fun _ => rfl

theorem goesForward_fail (problem : SyntaxProblem) : GoesForward (fail problem : Parse α) :=
  .of_stays fun _ => rfl

theorem goesForward_advance : GoesForward advance := by
  rintro ⟨_ | ⟨s, _ | ⟨t, rest⟩⟩, depth⟩
  · exact List.suffix_refl _
  · exact List.suffix_refl _
  · exact List.suffix_cons s (t :: rest)

/-- What follows an argument: a comma and more arguments, or nothing. -/
def afterArgument (more : Parse (List Expr)) (first : Expr) : Parse (List Expr) := do
  if (← current).token = .symbol .comma then
    advance
    let rest ← more
    return first :: rest
  else
    return [first]

theorem arguments_succ (inner : Parse Expr) (bound : Nat) :
    arguments inner (bound + 1) = inner >>= afterArgument (arguments inner bound) := rfl

theorem goesForward_afterArgument {more : Parse (List Expr)} (h : GoesForward more)
    (first : Expr) : GoesForward (afterArgument more first) := by
  refine goesForward_current.bind fun s => ?_
  split
  · exact goesForward_advance.bind fun _ => h.bind fun _ => .pure _
  · exact .pure _

theorem goesForward_arguments {inner : Parse Expr} (h : GoesForward inner) (bound : Nat) :
    GoesForward (arguments inner bound) := by
  induction bound with
  | zero => exact goesForward_current.bind fun _ => goesForward_fail _
  | succ bound ih =>
    rw [arguments_succ]
    exact h.bind (goesForward_afterArgument ih)

/-! ### Following -/

/-- A parser does on the first of two inputs what another does on the second, as long as
    neither passes the token up to which they are the same. -/
structure Follows (k : Fork) (limit : Nat) (p p' : Parse α) : Prop where
  goesForward : GoesForward p
  outcomes : ∀ us depth,
    k.Outcomes limit us (p.run ⟨k.left us, depth⟩) (p'.run ⟨k.right us, depth⟩)

end Parse

namespace Fork.Outcomes

open Parse

variable {α β : Type} {k : Fork} {limit : Nat} {us us' : List Spanned}

theorem mono {x y : Except Error α × Cursor} (h : k.Outcomes limit us x y) (hus : us <:+ us') :
    k.Outcomes limit us' x y := by
  cases h with
  | same result hsuffix depth => exact .same result (hsuffix.trans hus) depth
  | past hsuffix => exact .past hsuffix
  | refused offset c y => exact .refused offset c y

/-- What has passed the token does not go back, and what has been refused does not go on. -/
theorem bind {p p' : Parse α} {f f' : α → Parse β} {c c' : Cursor}
    (h : k.Outcomes limit us (p.run c) (p'.run c')) (hforward : ∀ a, GoesForward (f a))
    (hf : ∀ a us' depth, us' <:+ us → k.Outcomes limit us'
      ((f a).run ⟨k.left us', depth⟩) ((f' a).run ⟨k.right us', depth⟩)) :
    k.Outcomes limit us ((p >>= f).run c) ((p' >>= f').run c') := by
  rw [run_bind, run_bind]
  generalize p.run c = x at h
  generalize p'.run c' = y at h
  cases h with
  | same result hsuffix depth =>
    cases result with
    | ok a => exact (hf a _ depth hsuffix).mono hsuffix
    | error e => exact .same _ hsuffix depth
  | past hsuffix =>
    rcases x with ⟨_ | a, t⟩
    · exact .past hsuffix
    · exact .past ((hforward a t).trans hsuffix)
  | refused offset c y => exact .refused offset c _

end Fork.Outcomes

namespace Parse

variable {α β : Type} {k : Fork} {limit limit' : Nat}

theorem Follows.bind {p p' : Parse α} {f f' : α → Parse β} (h : Follows k limit p p')
    (hf : ∀ a, Follows k limit (f a) (f' a)) : Follows k limit (p >>= f) (p' >>= f') where
  goesForward := h.goesForward.bind fun a => (hf a).goesForward
  outcomes us depth := (h.outcomes us depth).bind (fun a => (hf a).goesForward)
    fun a us' depth' _ => (hf a).outcomes us' depth'

theorem Follows.pure (a : α) : Follows k limit (pure a) (pure a) :=
  ⟨.pure a, fun us depth => .same (.ok a) (List.suffix_refl us) depth⟩

/-! ### Tokens and levels -/

/-- A parser that only looks at the token at hand and at the depth, and may change that. -/
theorem Follows.of_head {p p' : Parse α} (r : Spanned → Nat → Except Error α × Nat)
    (h : ∀ s rest depth, p.run ⟨s :: rest, depth⟩ = ((r s depth).1, ⟨s :: rest, (r s depth).2⟩))
    (h' : ∀ s rest depth,
      p'.run ⟨s :: rest, depth⟩ = ((r s depth).1, ⟨s :: rest, (r s depth).2⟩))
    (hforward : GoesForward p) : Follows k limit p p' := by
  refine ⟨hforward, fun us depth => ?_⟩
  obtain ⟨s, rest, rest', hleft, hright⟩ := k.exists_cons us
  rw [hleft, hright, h, h', ← hleft, ← hright]
  exact .same _ (List.suffix_refl us) _

theorem current_follows : Follows k limit current current :=
  .of_head (fun s depth => (.ok s, depth)) (fun _ _ _ => rfl) (fun _ _ _ => rfl)
    goesForward_current

theorem fail_follows (problem : SyntaxProblem) :
    Follows k limit (fail problem : Parse α) (fail problem) :=
  .of_head (fun s depth => (.error (.badSyntax s.offset problem), depth)) (fun _ _ _ => rfl)
    (fun _ _ _ => rfl) (goesForward_fail problem)

theorem setDepth_follows (depth : Nat) :
    Follows k limit (modify fun c => { c with depth := depth } : Parse Unit)
      (modify fun c => { c with depth := depth }) :=
  .of_head (fun _ _ => (.ok (), depth)) (fun _ _ _ => rfl) (fun _ _ _ => rfl)
    (.of_stays fun _ => rfl)

theorem advance_follows : Follows k limit advance advance := by
  refine ⟨goesForward_advance, fun us depth => ?_⟩
  cases us with
  | nil =>
    -- The token up to which the inputs are the same is passed, unless it is the last of both.
    rcases hrest : k.rest with _ | ⟨t, rest⟩
    · have hsame : k.Outcomes limit [] (.ok (), ⟨k.left [], depth⟩) (.ok (), ⟨k.right [], depth⟩) :=
        .same (.ok ()) (List.suffix_refl []) depth
      rw [Fork.left, Fork.right, hrest, k.ends hrest] at hsame ⊢
      exact hsame
    · refine .past ?_
      rw [Fork.left, List.nil_append, hrest]
      exact List.suffix_refl _
  | cons v us =>
    obtain ⟨s, rest, rest', hleft, hright⟩ := k.exists_cons us
    rw [Fork.left_cons, Fork.right_cons, hleft, hright, run_advance, run_advance, ← hleft,
      ← hright]
    exact .same (.ok ()) (List.suffix_cons v us) depth

theorem operator_follows {Op : Type} (op? : Symbol → Option Op) :
    Follows k limit (operator? op?) (operator? op?) := by
  refine current_follows.bind fun s => ?_
  split <;> exact .pure _

theorem expect_follows (x : Symbol) : Follows k limit (expect x) (expect x) := by
  refine current_follows.bind fun s => ?_
  split
  · exact advance_follows
  · exact fail_follows _

theorem goesForward_enter (limit : Nat) : GoesForward (enter limit) := by
  intro c
  simp only [enter, run_bind, run_modify, run_get]
  split <;> exact List.suffix_refl _

/-- A level that the first parser enters is there for the second. -/
theorem enter_follows (h : limit ≤ limit') : Follows k limit (enter limit) (enter limit') := by
  refine ⟨goesForward_enter limit, fun us depth => ?_⟩
  obtain ⟨s, rest, rest', hleft, hright⟩ := k.exists_cons us
  rw [hleft, hright, run_enter, run_enter]
  split
  · exact .refused _ _ _
  · rw [if_neg (by omega), ← hleft, ← hright]
    exact .same (.ok ()) (List.suffix_refl us) _

/-- Where no level is left for the first parser, the second may do anything. -/
theorem tooDeep_follows (p' : Parse α) :
    Follows k limit (do enter limit; fail (.tooDeep limit)) p' := by
  refine ⟨(goesForward_enter limit).bind fun _ => goesForward_fail _, fun us depth => ?_⟩
  obtain ⟨s, rest, _, hleft, _⟩ := k.exists_cons us
  rw [hleft, run_bind, run_enter]
  by_cases h : limit < depth + 1
  · rw [if_pos h]
    exact .refused _ _ _
  · rw [if_neg h]
    exact .refused _ _ _

theorem Follows.released {p p' : Parse α} (h : Follows k limit p p') :
    Follows k limit (released p) (released p') := by
  refine ⟨h.goesForward, fun us depth => ?_⟩
  have houtcomes := h.outcomes us depth
  rw [run_released, run_released]
  generalize p.run ⟨k.left us, depth⟩ = x at houtcomes ⊢
  generalize p'.run ⟨k.right us, depth⟩ = y at houtcomes ⊢
  cases houtcomes with
  | same result hsuffix depth' => exact .same result hsuffix (depth' - 1)
  | past hsuffix => exact .past hsuffix
  | refused offset c y => exact .refused offset _ _

/-- A parser may go by how deep it is. -/
theorem Follows.atDepth {f f' : Nat → Parse α}
    (h : ∀ depth, Follows k limit (f depth) (f' depth)) :
    Follows k limit (get >>= fun c => f c.depth) (get >>= fun c => f' c.depth) :=
  ⟨fun c => (h c.depth).goesForward c, fun us depth => (h depth).outcomes us depth⟩

/-! ### Literals, names and calls -/

variable {inner inner' : Parse Expr}

/-- After a comma the same is read if more is read alike from the token after it. -/
theorem afterComma_outcomes {p p' : Parse α} (hforward : GoesForward p) {us : List Spanned}
    {depth : Nat} {s : Spanned} {rest : List Spanned} (hs : k.left us = s :: rest)
    (hcomma : s.token = .symbol .comma)
    (h : ∀ v us', us = v :: us' →
      k.Outcomes limit us' (p.run ⟨k.left us', depth⟩) (p'.run ⟨k.right us', depth⟩)) :
    k.Outcomes limit us ((do advance; p).run ⟨k.left us, depth⟩)
      ((do advance; p').run ⟨k.right us, depth⟩) := by
  cases us with
  | nil =>
    obtain ⟨rfl, rfl⟩ := List.cons.inj hs
    obtain ⟨t, rest, hrest⟩ := List.exists_cons_of_ne_nil (k.more (by simp [hcomma]))
    refine .past ?_
    rw [Fork.left, List.nil_append, hrest, run_bind_ok (run_advance _ _ _ _)]
    exact hforward _
  | cons v us =>
    obtain ⟨t, rest, rest', hleft, hright⟩ := k.exists_cons us
    have hmore := h v us rfl
    rw [Fork.left_cons, Fork.right_cons, hleft, hright, run_bind_ok (run_advance _ _ _ _),
      run_bind_ok (run_advance _ _ _ _), ← hleft, ← hright]
    exact hmore.mono (List.suffix_cons v us)

/-- After an argument the same is read if more arguments are read alike after the token at
    hand. -/
theorem afterArgument_outcomes {more more' : Parse (List Expr)} (hforward : GoesForward more)
    {us : List Spanned} {depth : Nat}
    (h : ∀ v us', us = v :: us' →
      k.Outcomes limit us' (more.run ⟨k.left us', depth⟩) (more'.run ⟨k.right us', depth⟩))
    (first : Expr) :
    k.Outcomes limit us ((afterArgument more first).run ⟨k.left us, depth⟩)
      ((afterArgument more' first).run ⟨k.right us, depth⟩) := by
  obtain ⟨s, rest, rest', hleft, hright⟩ := k.exists_cons us
  rw [hleft, hright, afterArgument, afterArgument, run_bind_ok (run_current s rest depth),
    run_bind_ok (run_current s rest' depth), ← hleft, ← hright]
  split
  · next hcomma =>
    refine afterComma_outcomes (hforward.bind fun _ => .pure _) hleft hcomma fun v us' heq => ?_
    exact (h v us' heq).bind (fun _ => .pure _)
      fun es us'' depth' _ => (Follows.pure (first :: es)).outcomes us'' depth'
  · exact (Follows.pure [first]).outcomes us depth

/-- Arguments are read alike if there is room for one at each token. -/
theorem arguments_outcomes (h : Follows k limit inner inner') (bound bound' : Nat)
    (us : List Spanned) (depth : Nat) (hbound : (k.left us).length ≤ bound)
    (hbound' : (k.right us).length ≤ bound') :
    k.Outcomes limit us ((arguments inner bound).run ⟨k.left us, depth⟩)
      ((arguments inner' bound').run ⟨k.right us, depth⟩) := by
  induction bound generalizing bound' us depth with
  | zero => simp [Fork.left] at hbound
  | succ bound ih =>
    obtain _ | bound' := bound'
    · simp [Fork.right] at hbound'
    have hforward := goesForward_arguments h.goesForward bound
    rw [arguments_succ, arguments_succ]
    refine (h.outcomes us depth).bind (goesForward_afterArgument hforward)
      fun first us' depth' hsuffix => ?_
    refine afterArgument_outcomes hforward (fun v us'' heq => ?_) first
    have hlength := hsuffix.length_le
    rw [heq, List.length_cons] at hlength
    rw [Fork.left, List.length_append] at hbound
    rw [Fork.right, List.length_append] at hbound'
    refine ih bound' us'' depth' ?_ ?_
    · rw [Fork.left, List.length_append]
      omega
    · rw [Fork.right, List.length_append]
      omega

theorem callTail_follows (h : Follows k limit inner inner') (function : String) :
    Follows k limit (callTail inner function) (callTail inner' function) := by
  refine advance_follows.bind fun _ => current_follows.bind fun s => ?_
  split
  · exact advance_follows.bind fun _ => .pure _
  · have harguments : Follows k limit (do arguments inner (← get).rest.length)
        (do arguments inner' (← get).rest.length) :=
      ⟨fun c => goesForward_arguments h.goesForward c.rest.length c, fun us depth =>
        arguments_outcomes h _ _ us depth (Nat.le_refl _) (Nat.le_refl _)⟩
    exact harguments.bind fun args => (expect_follows _).bind fun _ => .pure _

theorem primary_follows (h : Follows k limit inner inner') :
    Follows k limit (primary inner) (primary inner') := by
  refine current_follows.bind fun s => ?_
  split
  · split
    · exact advance_follows.bind fun _ => .pure _
    · exact fail_follows _
  · exact advance_follows.bind fun _ => .pure _
  · exact advance_follows.bind fun _ => .pure _
  · refine advance_follows.bind fun _ => current_follows.bind fun t => ?_
    split
    · exact callTail_follows h _
    · exact .pure _
  · exact advance_follows.bind fun _ => h.bind fun _ => (expect_follows _).bind fun _ => .pure _
  · exact fail_follows _

/-! ### Chains -/

theorem unary_follows (hlimit : limit ≤ limit') (h : Follows k limit inner inner')
    {room room' : Nat} (hroom : room ≤ room') :
    Follows k limit (unary limit inner room) (unary limit' inner' room') := by
  induction room generalizing room' with
  | zero =>
    cases room' <;>
    · refine (operator_follows unaryOp?).bind fun op => ?_
      split
      · exact primary_follows h
      · exact advance_follows.bind fun _ => tooDeep_follows _
  | succ room ih =>
    obtain _ | room' := room'
    · cases hroom
    refine (operator_follows unaryOp?).bind fun op => ?_
    split
    · exact primary_follows h
    · refine advance_follows.bind fun _ => (enter_follows hlimit).bind fun _ => ?_
      exact (ih (Nat.le_of_succ_le_succ hroom)).released.bind fun _ => .pure _

theorem chainTail_follows {op? : Symbol → Option BinaryOp} {operand operand' : Parse Expr}
    (hlimit : limit ≤ limit') (h : Follows k limit operand operand') {room room' : Nat}
    (hroom : room ≤ room') (left : Expr) :
    Follows k limit (chainTail limit op? operand room left)
      (chainTail limit' op? operand' room' left) := by
  induction room generalizing room' left with
  | zero =>
    cases room' <;>
    · refine (operator_follows op?).bind fun op => ?_
      split
      · exact .pure _
      · exact advance_follows.bind fun _ => tooDeep_follows _
  | succ room ih =>
    obtain _ | room' := room'
    · cases hroom
    refine (operator_follows op?).bind fun op => ?_
    split
    · exact .pure _
    · refine advance_follows.bind fun _ => (enter_follows hlimit).bind fun _ => ?_
      exact h.bind fun right => ih (Nat.le_of_succ_le_succ hroom) _

theorem chain_follows (op? : Symbol → Option BinaryOp) {operand operand' : Parse Expr}
    (hlimit : limit ≤ limit') {room room' : Nat} (hroom : room ≤ room')
    (h : Follows k limit operand operand') :
    Follows k limit (chain limit room op? operand) (chain limit' room' op? operand') := by
  have hfrom (base : Nat) : Follows k limit
      (do
        let first ← operand
        let e ← chainTail limit op? operand room first
        modify fun c => { c with depth := base }
        return e)
      (do
        let first ← operand'
        let e ← chainTail limit' op? operand' room' first
        modify fun c => { c with depth := base }
        return e) :=
    h.bind fun first => (chainTail_follows hlimit h hroom first).bind fun e =>
      (setDepth_follows base).bind fun _ => .pure e
  exact .atDepth hfrom

/-! ### Expressions -/

theorem disjunction_follows (hlimit : limit ≤ limit') {room room' : Nat} (hroom : room ≤ room')
    (h : Follows k limit inner inner') :
    Follows k limit (disjunction limit room inner) (disjunction limit' room' inner') := by
  have hsum : Follows k limit (additive limit room inner) (additive limit' room' inner') :=
    chain_follows _ hlimit hroom (chain_follows _ hlimit hroom (unary_follows hlimit h hroom))
  have hcomparison :
      Follows k limit (comparison limit room inner) (comparison limit' room' inner') := by
    refine hsum.bind fun left => (operator_follows comparisonOp?).bind fun op => ?_
    split
    · exact .pure _
    · exact advance_follows.bind fun _ => hsum.bind fun _ => .pure _
  exact chain_follows _ hlimit hroom (chain_follows _ hlimit hroom hcomparison)

theorem expression_follows (hlimit : limit ≤ limit') {room room' : Nat} (hroom : room ≤ room') :
    Follows k limit (expression limit room) (expression limit' room') := by
  induction room generalizing room' with
  | zero => exact tooDeep_follows _
  | succ room ih =>
    obtain _ | room' := room'
    · cases hroom
    refine (enter_follows hlimit).bind fun _ => ?_
    exact (disjunction_follows hlimit (Nat.le_of_succ_le_succ hroom)
      (ih (Nat.le_of_succ_le_succ hroom))).released

theorem rule_follows (hlimit : limit ≤ limit') : Follows k limit (rule limit) (rule limit') := by
  have hread : Follows k limit
      (do
        let e ← expression limit limit
        let next ← current
        if next.token = .endOfInput then return e else fail (.trailing next.token))
      (do
        let e ← expression limit' limit'
        let next ← current
        if next.token = .endOfInput then return e else fail (.trailing next.token)) := by
    refine (expression_follows hlimit hlimit).bind fun e => current_follows.bind fun next => ?_
    split
    · exact .pure e
    · exact fail_follows _
  refine current_follows.bind fun s => ?_
  split
  · exact (fail_follows _).bind fun _ => hread
  · exact hread

end Parse

end RuleEngine
