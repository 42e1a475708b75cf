import RuleEngine.Proofs.Parser.Nesting

/-!
# What has been read where the parser fails

Where the parser of a level fails, what it has passed is the beginning of a phrase of
that level (`Level.Begins`): each construct that is open can be completed by an operand
and a parenthesis, and none of these needs what comes after. If it fails for want of
levels, then there are more levels and tokens than the limit, since each level but the
first is entered after a token (`Stops`).

Both are shown for one parser after the other from what is known of those that it is
made of. What they do when they succeed is known already (`IsReader`).
-/

namespace RuleEngine

namespace Grammar

/-! ### Beginnings of phrases -/

/-- Some words are the beginning of a phrase of a level. -/
def Level.Begins (level : Level) (ws : List Token) : Prop :=
  ∃ us e, Nonempty (Derivation level (ws ++ us) e)

/-- Some words are the beginning of the arguments of a call. -/
def BeginsArguments (ws : List Token) : Prop :=
  ∃ us es, Nonempty (Arguments (ws ++ us) es)

namespace Level.Begins

variable {level : Level} {ts ws : List Token} {e : Expr} {s : Symbol}

theorem of_eq {vs : List Token} (us : List Token) (d : Derivation level vs e)
    (h : vs = ws ++ us) : level.Begins ws :=
  ⟨us, e, ⟨h ▸ d⟩⟩

theorem nil (level : Level) : level.Begins [] := by
  obtain ⟨d, _⟩ := exists_one level
  exact .of_eq _ d rfl

theorem of_derivation (d : Derivation level ws e) : level.Begins ws :=
  .of_eq [] d (List.append_nil ws).symm

theorem operand (h : level.operand.Begins ws) (hlevel : level ≠ .primary) : level.Begins ws := by
  obtain ⟨us, e, ⟨d⟩⟩ := h
  exact .of_eq us (.operand hlevel d) rfl

theorem chain {op : BinaryOp} (hop : (s, op) ∈ level.operators) (first : Derivation level ts e)
    (h : level.operand.Begins ws) : level.Begins (ts ++ .symbol s :: ws) := by
  obtain ⟨us, e', ⟨d⟩⟩ := h
  exact .of_eq us (.chain hop first d) (by simp)

theorem comparison {op : BinaryOp} (hop : (s, op) ∈ comparisons) (first : Derivation .sum ts e)
    (h : Level.sum.Begins ws) : Level.comparison.Begins (ts ++ .symbol s :: ws) := by
  obtain ⟨us, e', ⟨d⟩⟩ := h
  exact .of_eq us (.comparison hop first d) (by simp)

theorem unary {op : UnaryOp} (hop : (s, op) ∈ unaries) (h : Level.unary.Begins ws) :
    Level.unary.Begins (.symbol s :: ws) := by
  obtain ⟨us, e', ⟨d⟩⟩ := h
  exact .of_eq us (.unary hop d) rfl

theorem group (h : Level.disjunction.Begins ws) :
    Level.primary.Begins (.symbol .leftParen :: ws) := by
  obtain ⟨us, e', ⟨d⟩⟩ := h
  exact .of_eq (us ++ [.symbol .rightParen]) (.group d) (by simp)

theorem call (function : String) (h : BeginsArguments ws) :
    Level.primary.Begins (.identifier function :: .symbol .leftParen :: ws) := by
  obtain ⟨us, es, ⟨a⟩⟩ := h
  exact .of_eq (us ++ [.symbol .rightParen]) (.call function a) (by simp)

end Level.Begins

namespace BeginsArguments

variable {ts ws : List Token}

theorem of_eq {vs : List Token} {es : List Expr} (us : List Token) (a : Arguments vs es)
    (h : vs = ws ++ us) : BeginsArguments ws :=
  ⟨us, es, ⟨h ▸ a⟩⟩

theorem of_arguments {es : List Expr} (a : Arguments ws es) : BeginsArguments ws :=
  .of_eq [] a (List.append_nil ws).symm

theorem last (h : Level.disjunction.Begins ws) : BeginsArguments ws := by
  obtain ⟨us, e, ⟨d⟩⟩ := h
  exact .of_eq us (.last d) rfl

theorem more {e : Expr} (d : Derivation .disjunction ts e) (h : BeginsArguments ws) :
    BeginsArguments (ts ++ .symbol .comma :: ws) := by
  obtain ⟨us, es, ⟨a⟩⟩ := h
  exact .of_eq us (.more d a) (by simp)

end BeginsArguments

end Grammar

open Grammar

namespace Parse

/-! ### Failing -/

/-- If a parser fails, a condition holds of the failure and of the tokens that are left. -/
def FailsAs {α : Type} (p : Parse α) (c : Cursor) (post : Error → List Spanned → Prop) : Prop :=
  ∀ e c', p.run c = (.error e, c') → post e c'.rest

/-- From a cursor on the words passed are the beginning of something, and there were more
    levels and tokens than a bound if it is levels that were wanting. -/
structure Stops (limit bound : Nat) (begins : List Token → Prop) (c : Cursor) (e : Error)
    (rest : List Spanned) : Prop where
  begins : ∃ ts, c.rest = ts ++ rest ∧ begins (words ts)
  tooDeep : ∀ offset, e = .badSyntax offset (.tooDeep limit) → bound < c.depth + c.rest.length

section Failing

variable {α β : Type} {p : Parse α} {f : α → Parse β} {c c₁ : Cursor}
  {post post' : Error → List Spanned → Prop} {limit bound bound' depth : Nat}
  {begins begins' : List Token → Prop} {ts : List Spanned}

theorem FailsAs.pure (a : α) : FailsAs (pure a) c post :=
  nofun

theorem FailsAs.mono (h : FailsAs p c post) (himp : ∀ e rest, post e rest → post' e rest) :
    FailsAs p c post' :=
  fun e c' hrun => himp e c'.rest (h e c' hrun)

theorem FailsAs.of_run {a : α} (hp : p.run c = (.ok a, c₁)) (hf : FailsAs (f a) c₁ post) :
    FailsAs (p >>= f) c post := by
  intro e c' hrun
  rw [run_bind_ok hp] at hrun
  exact hf e c' hrun

/-- Going to the next token does not fail. -/
theorem FailsAs.advanced (a : α) : FailsAs (do advance; return a) c post :=
  nofun

/-- What is returned cannot fail any more. -/
theorem FailsAs.map (h : FailsAs p c post) (g : α → β) :
    FailsAs (do let a ← p; return g a) c post := by
  intro e c' hrun
  rw [run_bind_pure] at hrun
  obtain ⟨he, rfl⟩ := Prod.mk.inj hrun
  rcases hp : p.run c with ⟨a | e', t⟩
  · rw [hp] at he
    cases he
    exact h _ t hp
  · rw [hp] at he
    cases he

/-- Setting the depth back does not fail. -/
theorem FailsAs.restored (h : FailsAs p c post) (g : Cursor → Cursor) :
    FailsAs (do let a ← p; modify g; return a) c post := by
  intro e c' hrun
  rw [run_bind] at hrun
  rcases hp : p.run c with ⟨e' | a, t⟩
  · rw [hp] at hrun
    cases hrun
    exact h _ _ hp
  · rw [hp] at hrun
    cases hrun

/-- After a parser whose results are known come only those. -/
theorem FailsAs.bind {meets : α → Cursor → Prop} (h : FailsAs p c post)
    (hmeets : Meets limit p c meets)
    (hf : ∀ a c', c.Onward c' → meets a c' → FailsAs (f a) c' post) :
    FailsAs (p >>= f) c post := by
  intro e c' hrun
  rw [Meets] at hmeets
  rw [run_bind] at hrun
  split at hmeets
  · next a c'' hp =>
    rw [hp] at hrun
    exact hf a c'' hmeets.1 hmeets.2 e c' hrun
  · next e' c'' hp =>
    rw [hp] at hrun
    cases hrun
    exact h _ _ hp

theorem FailsAs.released (h : FailsAs p c post) : FailsAs (released p) c post := by
  intro e c' hrun
  rw [run_released] at hrun
  obtain ⟨he, rfl⟩ := Prod.mk.inj hrun
  exact h e (p.run c).2 (Prod.ext he rfl)

/-- What comes after words that have been passed completes them. -/
theorem Stops.after {e : Error} {rest : List Spanned} (h : Stops limit bound' begins' c₁ e rest)
    (hts : c.rest = ts ++ c₁.rest) (hbegins : ∀ ws, begins' ws → begins (words ts ++ ws))
    (hbound : bound' < c₁.depth + c₁.rest.length → bound < c.depth + c.rest.length) :
    Stops limit bound begins c e rest := by
  obtain ⟨us, hus, hws⟩ := h.begins
  refine ⟨⟨ts ++ us, ?_, ?_⟩, fun offset he => hbound (h.tooDeep offset he)⟩
  · rw [hts, hus, List.append_assoc]
  · rw [words, List.map_append]
    exact hbegins _ hws

variable {s : Spanned} {rest : List Spanned}

/-- So does what comes after words and a symbol. -/
theorem Stops.afterSymbol {e : Error} {rest' : List Spanned} {x : Symbol} {ws : List Token}
    (h : Stops limit bound' begins' ⟨rest, depth⟩ e rest') (hts : c.rest = ts ++ s :: rest)
    (hws : words ts = ws) (hs : s.token = .symbol x)
    (hbegins : ∀ vs, begins' vs → begins (ws ++ .symbol x :: vs))
    (hbound : bound' < depth + rest.length → bound < c.depth + (ts.length + (rest.length + 1))) :
    Stops limit bound begins c e rest' := by
  have hpassed : c.rest = (ts ++ [s]) ++ rest := by
    rw [hts, List.append_assoc, List.singleton_append]
  refine h.after hpassed (fun vs hvs => ?_) fun hlt => ?_
  · have hwords : words (ts ++ [s]) ++ vs = ws ++ .symbol x :: vs := by
      rw [words, List.map_append, List.map_singleton, ← words, hws, hs, List.append_assoc,
        List.singleton_append]
    rw [hwords]
    exact hbegins vs hvs
  · rw [hts, List.length_append, List.length_cons]
    exact hbound hlt

theorem FailsAs.fail {problem : SyntaxProblem} (hproblem : problem ≠ .tooDeep limit)
    (hts : c.rest = ts ++ s :: rest) (hbegins : begins (words ts)) :
    FailsAs (fail problem : Parse α) ⟨s :: rest, depth⟩ (Stops limit bound begins c) := by
  intro e c' hrun
  rw [run_fail] at hrun
  cases hrun
  exact ⟨⟨ts, hts, hbegins⟩, fun offset he => absurd (Error.badSyntax.inj he).2 hproblem⟩

/-- Where nothing has been passed, that is the beginning of every phrase. -/
theorem FailsAs.atOnce {level : Level} {problem : SyntaxProblem}
    (hproblem : problem ≠ .tooDeep limit) :
    FailsAs (Parse.fail problem : Parse α) ⟨s :: rest, depth⟩
      (Stops limit bound level.Begins ⟨s :: rest, depth⟩) :=
  .fail hproblem (List.nil_append _).symm (.nil level)

theorem FailsAs.expect {x : Symbol} (hts : c.rest = ts ++ s :: rest) (hbegins : begins (words ts)) :
    FailsAs (expect x) ⟨s :: rest, depth⟩ (Stops limit bound begins c) := by
  refine .of_run (run_current s rest depth) ?_
  split
  · exact nofun
  · exact .fail nofun hts hbegins

theorem FailsAs.advance {f : Unit → Parse β} {post : Error → List Spanned → Prop}
    (hc : Cursor.IsLexed ⟨s :: rest, depth⟩) (hs : s.token ≠ .endOfInput)
    (h : Cursor.IsLexed ⟨rest, depth⟩ → FailsAs (f ()) ⟨rest, depth⟩ post) :
    FailsAs (Parse.advance >>= f) ⟨s :: rest, depth⟩ post := by
  obtain ⟨t, rest, rfl⟩ := hc.exists_next hs
  exact .of_run (run_advance _ _ _ _) (h (hc.onward (onward_step (List.cons_ne_nil t rest))))

/-- A level is wanting where all are taken. -/
theorem FailsAs.enter {f : Unit → Parse β} (hts : c.rest = ts ++ s :: rest)
    (hbegins : begins (words ts)) (hbound : limit ≤ depth → bound < c.depth + c.rest.length)
    (hf : depth < limit → FailsAs (f ()) ⟨s :: rest, depth + 1⟩ (Stops limit bound begins c)) :
    FailsAs (Parse.enter limit >>= f) ⟨s :: rest, depth⟩ (Stops limit bound begins c) := by
  by_cases hlt : depth < limit
  · exact .of_run (run_enter_of_lt hlt s rest) (hf hlt)
  · intro e c' hrun
    rw [run_bind, run_enter, if_pos (by omega)] at hrun
    cases hrun
    exact ⟨⟨ts, hts, hbegins⟩, fun _ _ => hbound (by omega)⟩

/-- After an operator a level is entered, which is there unless as many have been entered as
    tokens were passed. -/
theorem FailsAs.operator {q : Parse β} {x : Symbol} {ws : List Token}
    (hc : Cursor.IsLexed ⟨s :: rest, depth⟩) (hs : s.token = .symbol x)
    (hts : c.rest = ts ++ s :: rest) (hws : words ts = ws) (hdepth : depth ≤ c.depth + ts.length)
    (hbegins : begins (ws ++ [.symbol x]))
    (hf : depth < limit → Cursor.IsLexed ⟨rest, depth + 1⟩ →
      FailsAs q ⟨rest, depth + 1⟩ (Stops limit (limit + 1) begins c)) :
    FailsAs (do Parse.advance; Parse.enter limit; q) ⟨s :: rest, depth⟩
      (Stops limit (limit + 1) begins c) := by
  refine .advance hc (by simp [hs]) fun hrest => ?_
  obtain ⟨t, rest, rfl⟩ := List.exists_cons_of_ne_nil hrest.ne_nil
  have hpassed : c.rest = (ts ++ [s]) ++ t :: rest := by
    rw [hts, List.append_assoc, List.singleton_append]
  refine .enter hpassed ?_ (fun hle => ?_) fun hlt => hf hlt (hrest.onward onward_deeper)
  · rw [words, List.map_append, List.map_singleton, ← words, hws, hs]
    exact hbegins
  · rw [hts, List.length_append, List.length_cons, List.length_cons]
    omega

end Failing

/-! ### Literals, names and calls -/

/-- Wherever a parser starts within the limit and with so much room, it stops in a phrase
    of a level if it fails. -/
def StopsIn (limit bound room : Nat) (level : Level) (p : Parse Expr) : Prop :=
  ∀ c : Cursor, c.IsLexed → c.depth ≤ limit → limit ≤ c.depth + room →
    FailsAs p c (Stops limit bound level.Begins c)

variable {limit room : Nat} {inner : Parse Expr}

theorem arguments_stops (hinner : IsReader limit limit .disjunction inner)
    (hstops : StopsIn limit limit room .disjunction inner) (bound : Nat) {c : Cursor}
    (hc : c.IsLexed) (hdepth : c.depth ≤ limit) (hroom : limit ≤ c.depth + room) :
    FailsAs (arguments inner bound) c (Stops limit limit BeginsArguments c) := by
  induction bound generalizing c with
  | zero =>
    obtain ⟨s, rest, depth, rfl⟩ := hc.exists_cons
    exact .of_run (run_current s rest depth) (.fail nofun (List.nil_append _).symm (.last (.nil _)))
  | succ bound ih =>
    refine .bind ?_ (hinner c hc hdepth) fun e c' ho ⟨hd, ts, ws, hts, hws, d, hlt⟩ => ?_
    · exact (hstops c hc hdepth hroom).mono fun e rest h =>
        h.after (List.nil_append _).symm (fun _ hws => .last hws) id
    have hc' := hc.onward ho
    obtain ⟨s, rest, depth, rfl⟩ := hc'.exists_cons
    obtain rfl : depth = c.depth := hd
    refine .of_run (run_current s rest _) ?_
    split
    · next hs =>
      refine .advance hc' (by simp [hs]) fun hrest => ?_
      exact ((ih hrest hdepth hroom).mono fun e rest' h =>
        h.afterSymbol hts hws hs (fun _ hvs => .more d hvs) (by omega)).map _
    · exact .pure _

theorem callTail_stops (hinner : IsReader limit limit .disjunction inner)
    (hstops : StopsIn limit limit room .disjunction inner) (function : String)
    {s : Spanned} {rest : List Spanned} {depth : Nat} (hc : Cursor.IsLexed ⟨s :: rest, depth⟩)
    (hdepth : depth ≤ limit) (hroom : limit ≤ depth + room)
    (hs : s.token = .symbol .leftParen) :
    FailsAs (callTail inner function) ⟨s :: rest, depth⟩
      (Stops limit (limit + 1) (fun ws => Level.primary.Begins (.identifier function :: ws))
        ⟨s :: rest, depth⟩) := by
  refine .advance hc (by simp [hs]) fun hrest => ?_
  obtain ⟨t, rest, rfl⟩ := List.exists_cons_of_ne_nil hrest.ne_nil
  refine .of_run (run_current t rest depth) ?_
  split
  · exact nofun
  · refine .of_run (run_get _) ?_
    refine .bind ?_ (arguments_meets hinner _ hrest hdepth)
      fun es c' ho ⟨hd, ts, ws, hts, hws, a, hle⟩ => ?_
    · refine (arguments_stops hinner hstops _ hrest hdepth hroom).mono fun e rest' h => ?_
      have hpassed : s :: t :: rest = [s] ++ t :: rest := rfl
      refine h.after hpassed (fun vs hvs => ?_) fun hlt => Nat.succ_lt_succ hlt
      rw [words, List.map_singleton, hs]
      exact .call function hvs
    · obtain ⟨u, rest', depth', rfl⟩ := (hrest.onward ho).exists_cons
      have hcall : Level.primary.Begins (.identifier function :: words (s :: ts)) := by
        rw [words, List.map_cons, hs, ← words, hws]
        exact .call function (.of_arguments a)
      have hpassed : s :: t :: rest = (s :: ts) ++ u :: rest' := congrArg (s :: ·) hts
      refine FailsAs.map ?_ _
      exact .expect hpassed hcall

theorem group_stops (hinner : IsReader limit limit .disjunction inner)
    (hstops : StopsIn limit limit room .disjunction inner) {s : Spanned} {rest : List Spanned}
    {depth : Nat} (hc : Cursor.IsLexed ⟨s :: rest, depth⟩) (hdepth : depth ≤ limit)
    (hroom : limit ≤ depth + room) (hs : s.token = .symbol .leftParen) :
    FailsAs (do advance; let e ← inner; expect .rightParen; return e) ⟨s :: rest, depth⟩
      (Stops limit (limit + 1) Level.primary.Begins ⟨s :: rest, depth⟩) := by
  refine .advance hc (by simp [hs]) fun hrest => ?_
  refine .bind ?_ (hinner _ hrest hdepth) fun e c' ho ⟨hd, ts, ws, hts, hws, d, hlt⟩ => ?_
  · have hpassed : s :: rest = [s] ++ rest := rfl
    refine (hstops _ hrest hdepth hroom).mono fun e rest' h => ?_
    refine h.after hpassed (fun vs hvs => ?_) fun hlt => Nat.succ_lt_succ hlt
    rw [words, List.map_singleton, hs]
    exact .group hvs
  · obtain ⟨u, rest', depth', rfl⟩ := (hrest.onward ho).exists_cons
    have hgroup : Level.primary.Begins (words (s :: ts)) := by
      rw [words, List.map_cons, hs, ← words, hws]
      exact .group (.of_derivation d)
    have hpassed : s :: rest = (s :: ts) ++ u :: rest' := congrArg (s :: ·) hts
    refine FailsAs.map ?_ _
    exact .expect hpassed hgroup

theorem primary_stops (hinner : IsReader limit limit .disjunction inner)
    (hstops : StopsIn limit limit room .disjunction inner) :
    StopsIn limit (limit + 1) room .primary (primary inner) := by
  intro c hc hdepth hroom
  obtain ⟨s, rest, depth, rfl⟩ := hc.exists_cons
  refine .of_run (run_current s rest depth) ?_
  cases hs : s.token with
  | number text =>
    dsimp only
    split
    · exact .advanced _
    · exact .atOnce (by simp)
  | string text => exact .advanced _
  | boolean b => exact .advanced _
  | identifier name =>
    refine .advance hc (by simp [hs]) fun hrest => ?_
    obtain ⟨t, rest, rfl⟩ := List.exists_cons_of_ne_nil hrest.ne_nil
    refine .of_run (run_current t rest depth) ?_
    split
    · next ht =>
      have hpassed : s :: t :: rest = [s] ++ t :: rest := rfl
      refine (callTail_stops hinner hstops name hrest hdepth hroom ht).mono fun e rest' h => ?_
      refine h.after hpassed (fun vs hvs => ?_) Nat.lt_succ_of_lt
      rw [words, List.map_singleton, hs]
      exact hvs
    · exact .pure _
  | symbol x =>
    by_cases hx : x = .leftParen
    · subst hx
      exact group_stops hinner hstops hc hdepth hroom hs
    · -- No other symbol begins a primary phrase.
      cases x <;> first
        | exact absurd rfl hx
        | exact .atOnce (by simp)
  | endOfInput => exact .atOnce (by simp)

/-! ### Operators -/

theorem unary_stops (hinner : IsReader limit limit .disjunction inner)
    (hstops : StopsIn limit limit room .disjunction inner) (operators : Nat) {c : Cursor}
    (hc : c.IsLexed) (hdepth : c.depth ≤ limit) (hroom : limit ≤ c.depth + room)
    (hoperators : limit ≤ c.depth + operators) :
    FailsAs (unary limit inner operators) c (Stops limit (limit + 1) Level.unary.Begins c) := by
  have hprimary (c : Cursor) (hc : c.IsLexed) (hdepth : c.depth ≤ limit)
      (hroom : limit ≤ c.depth + room) :
      FailsAs (primary inner) c (Stops limit (limit + 1) Level.unary.Begins c) :=
    (primary_stops hinner hstops c hc hdepth hroom).mono fun e rest h =>
      h.after (List.nil_append _).symm (fun _ hws => .operand hws nofun) id
  induction operators generalizing c with
  | zero =>
    obtain ⟨s, rest, depth, rfl⟩ := hc.exists_cons
    have hpassed : s :: rest = [] ++ s :: rest := rfl
    have hnone : words ([] : List Spanned) = [] := rfl
    refine .of_run (run_operator _ _ _ _) ?_
    split
    · exact hprimary _ hc hdepth hroom
    · next op hop =>
      obtain ⟨x, hx, hop⟩ := exists_symbol hop
      have hbegins : Level.unary.Begins ([] ++ [.symbol x]) :=
        .unary (unaryOp_eq_some_iff.mp hop) (.nil _)
      exact .operator hc hx hpassed hnone (Nat.le_refl _) hbegins
        fun hlt => absurd hoperators (Nat.not_le_of_lt hlt)
  | succ operators ih =>
    obtain ⟨s, rest, depth, rfl⟩ := hc.exists_cons
    have hpassed : s :: rest = [] ++ s :: rest := rfl
    have hnone : words ([] : List Spanned) = [] := rfl
    refine .of_run (run_operator _ _ _ _) ?_
    split
    · exact hprimary _ hc hdepth hroom
    · next op hop =>
      obtain ⟨x, hx, hop⟩ := exists_symbol hop
      have hop := unaryOp_eq_some_iff.mp hop
      have hbegins : Level.unary.Begins ([] ++ [.symbol x]) := .unary hop (.nil _)
      refine .operator hc hx hpassed hnone (Nat.le_refl _) hbegins fun hlt hrest => ?_
      dsimp only at hroom hoperators
      refine FailsAs.map (.released ?_) _
      exact (ih hrest hlt (by dsimp only; omega) (by dsimp only; omega)).mono fun e rest' h =>
        h.afterSymbol hpassed hnone hx (fun _ hvs => .unary hop hvs)
          (by dsimp only [List.length_nil]; omega)

/-- A chain has more words than operators. -/
theorem width_le_length {level : Level} {e : Expr} {ts : List Spanned} {ws : List Token}
    (d : Derivation level ws e) (hws : words ts = ws) : d.width ≤ ts.length := by
  have hwidth := d.width_le_levels
  have hlevels := d.levels_lt
  have hlength : ws.length = ts.length := by rw [← hws, words, List.length_map]
  omega

/-- After the first operand of a chain that began at a cursor. -/
theorem chainTail_stops {level : Level} {operand : Parse Expr}
    (hoperand : IsReader limit (limit + 1) level.operand operand)
    (hstops : StopsIn limit (limit + 1) room level.operand operand) (operators : Nat)
    {start c : Cursor} {left : Expr} {ts : List Spanned} {ws : List Token} (hc : c.IsLexed)
    (hdepth : c.depth ≤ limit) (hroom : limit ≤ c.depth + room)
    (hoperators : limit ≤ c.depth + operators)
    (hts : start.rest = ts ++ c.rest) (hws : words ts = ws) (d : Derivation level ws left)
    (hwidth : start.depth + d.width = c.depth) :
    FailsAs (chainTail limit (chainOp? level) operand operators left) c
      (Stops limit (limit + 1) level.Begins start) := by
  induction operators generalizing c left ts ws with
  | zero =>
    obtain ⟨s, rest, depth, rfl⟩ := hc.exists_cons
    have hpassed : depth ≤ start.depth + ts.length :=
      Nat.le_trans (Nat.le_of_eq hwidth.symm) (Nat.add_le_add_left (width_le_length d hws) _)
    refine .of_run (run_operator _ _ _ _) ?_
    split
    · exact .pure _
    · next op hop =>
      obtain ⟨x, hx, hop⟩ := exists_symbol hop
      have hbegins : level.Begins (ws ++ [.symbol x]) :=
        .chain (chainOp_eq_some_iff.mp hop) d (.nil _)
      exact .operator hc hx hts hws hpassed hbegins
        fun hlt => absurd hoperators (Nat.not_le_of_lt hlt)
  | succ operators ih =>
    obtain ⟨s, rest, depth, rfl⟩ := hc.exists_cons
    have hpassed : depth ≤ start.depth + ts.length :=
      Nat.le_trans (Nat.le_of_eq hwidth.symm) (Nat.add_le_add_left (width_le_length d hws) _)
    refine .of_run (run_operator _ _ _ _) ?_
    split
    · exact .pure _
    · next op hop =>
      obtain ⟨x, hx, hop⟩ := exists_symbol hop
      have hop := chainOp_eq_some_iff.mp hop
      have hbegins : level.Begins (ws ++ [.symbol x]) := .chain hop d (.nil _)
      refine .operator hc hx hts hws hpassed hbegins fun hlt hrest => ?_
      dsimp only at hroom hoperators hwidth
      refine .bind ?_ (hoperand _ hrest hlt)
        fun right c' ho ⟨hd, us, vs, hus, hvs, d', hlt'⟩ => ?_
      · exact (hstops _ hrest hlt (by dsimp only; omega)).mono fun e rest' h =>
          h.afterSymbol hts hws hx (fun _ hvs => .chain hop d hvs) (by omega)
      dsimp only at hd hus hts
      have hts' : start.rest = (ts ++ s :: us) ++ c'.rest := by
        rw [hts, hus, List.append_assoc, List.cons_append]
      refine ih (hrest.onward ho) (by omega) (by omega) (by omega) hts' ?_ (.chain hop d d') ?_
      · simp only [words, List.map_append, List.map_cons, ← hws, ← hvs, hx]
      · rw [Derivation.width]
        omega

theorem chain_stops (level : Level) {operand : Parse Expr} (hlevel : level ≠ .primary)
    (hoperand : IsReader limit (limit + 1) level.operand operand)
    (hstops : StopsIn limit (limit + 1) room level.operand operand) :
    StopsIn limit (limit + 1) room level (chain limit room (chainOp? level) operand) := by
  intro c hc hdepth hroom
  refine .of_run (run_get c) ?_
  refine .bind ?_ (hoperand c hc hdepth) fun first c' ho ⟨hd, ts, ws, hts, hws, d, hlt⟩ => ?_
  · exact (hstops c hc hdepth hroom).mono fun e rest h =>
      h.after (List.nil_append _).symm (fun _ hws => .operand hws hlevel) id
  have htail := chainTail_stops hoperand hstops room (hc.onward ho) (hd ▸ hdepth) (hd ▸ hroom)
    (hd ▸ hroom) hts hws (.operand hlevel d) hd.symm
  exact htail.restored _

theorem comparison_stops
    (hsum : IsReader limit (limit + 1) .sum (additive limit room inner))
    (hstops : StopsIn limit (limit + 1) room .sum (additive limit room inner)) :
    StopsIn limit (limit + 1) room .comparison (comparison limit room inner) := by
  intro c hc hdepth hroom
  refine .bind ?_ (hsum c hc hdepth) fun left c' ho ⟨hd, ts, ws, hts, hws, d, hlt⟩ => ?_
  · exact (hstops c hc hdepth hroom).mono fun e rest h =>
      h.after (List.nil_append _).symm (fun _ hws => .operand hws nofun) id
  have hc' := hc.onward ho
  obtain ⟨s, rest, depth, rfl⟩ := hc'.exists_cons
  obtain rfl : depth = c.depth := hd
  refine .of_run (run_operator _ _ _ _) ?_
  split
  · exact .pure _
  · next op hop =>
    obtain ⟨x, hx, hop⟩ := exists_symbol hop
    refine .advance hc' (by simp [hx]) fun hrest => ?_
    exact ((hstops _ hrest hdepth hroom).mono fun e rest' h => h.afterSymbol hts hws hx
      (fun _ hvs => .comparison (comparisonOp_eq_some_iff.mp hop) d hvs) (by omega)).map _

/-! ### Expressions -/

theorem disjunction_stops (hinner : IsReader limit limit .disjunction inner)
    (hstops : StopsIn limit limit room .disjunction inner) :
    StopsIn limit (limit + 1) room .disjunction (disjunction limit room inner) := by
  have hunary := unary_isReader hinner room
  have hproduct : IsReader limit (limit + 1) .product (multiplicative limit room inner) :=
    chain_isReader .product nofun hunary room
  have hsum : IsReader limit (limit + 1) .sum (additive limit room inner) :=
    chain_isReader .sum nofun hproduct room
  have hcomparison := comparison_isReader hsum
  have hconjunction : IsReader limit (limit + 1) .conjunction (conjunction limit room inner) :=
    chain_isReader .conjunction nofun hcomparison room
  have hunaryStops : StopsIn limit (limit + 1) room .unary (unary limit inner room) :=
    fun c hc hdepth hroom => unary_stops hinner hstops room hc hdepth hroom hroom
  have hproductStops : StopsIn limit (limit + 1) room .product (multiplicative limit room inner) :=
    chain_stops .product nofun hunary hunaryStops
  have hsumStops : StopsIn limit (limit + 1) room .sum (additive limit room inner) :=
    chain_stops .sum nofun hproduct hproductStops
  have hconjunctionStops :
      StopsIn limit (limit + 1) room .conjunction (conjunction limit room inner) :=
    chain_stops .conjunction nofun hcomparison (comparison_stops hsum hsumStops)
  exact chain_stops .disjunction nofun hconjunction hconjunctionStops

/-- An expression stops in a disjunction one level deeper. -/
theorem expression_stops (room : Nat) :
    StopsIn limit limit room .disjunction (expression limit room) := by
  induction room with
  | zero =>
    intro c hc hdepth hroom
    obtain ⟨s, rest, depth, rfl⟩ := hc.exists_cons
    exact .enter (List.nil_append _).symm (.nil _)
      (fun hle => by rw [List.length_cons]; dsimp only; omega)
      fun hlt => absurd hroom (by simpa using hlt)
  | succ room ih =>
    intro c hc hdepth hroom
    obtain ⟨s, rest, depth, rfl⟩ := hc.exists_cons
    refine .enter (List.nil_append _).symm (.nil _)
      (fun hle => by rw [List.length_cons]; dsimp only; omega) fun hlt => .released ?_
    have hc' : Cursor.IsLexed ⟨s :: rest, depth + 1⟩ := hc.onward onward_deeper
    refine (disjunction_stops (expression_isReader room) ih _ hc' hlt ?_).mono fun e rest' h => ?_
    · dsimp only at hroom ⊢
      omega
    · exact h.after (List.nil_append _).symm (fun _ hws => hws) fun hlt' => by
        dsimp only at hlt' ⊢
        omega

/-- A rule stops in an expression, or after one. -/
theorem rule_stops {tokens : List Spanned} (hc : Cursor.IsLexed ⟨tokens, 0⟩) :
    FailsAs (rule limit) ⟨tokens, 0⟩ (Stops limit limit Level.disjunction.Begins ⟨tokens, 0⟩) := by
  obtain ⟨s, rest, rfl⟩ := List.exists_cons_of_ne_nil hc.ne_nil
  refine .of_run (run_current s rest 0) ?_
  split
  · have hfail : Meets limit (fail .emptyExpression : Parse PUnit) ⟨s :: rest, 0⟩
        fun _ _ => False :=
      .fail hc (Nat.zero_le _)
    exact .bind (.atOnce nofun) hfail fun _ _ _ => False.elim
  refine .bind (expression_stops limit _ hc (Nat.zero_le _) (Nat.le_add_left _ _))
    (expression_isReader limit _ hc (Nat.zero_le _))
    fun e c' ho ⟨hd, ts, ws, hts, hws, d, hlt⟩ => ?_
  obtain ⟨t, rest', depth, rfl⟩ := (hc.onward ho).exists_cons
  refine .of_run (run_current t rest' depth) ?_
  split
  · exact .pure e
  · refine .fail nofun hts ?_
    rw [hws]
    exact .of_derivation d

end Parse

end RuleEngine
