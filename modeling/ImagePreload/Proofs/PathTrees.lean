import ImagePreload.Proofs.PathTokens

/-!
# Trees of templates of paths

A path is read through every level of the grammar of expressions. Each of them looks for
operators of its own behind the path, but what stands there closes the tag and is nobody's
operator (`Closes`), so the path goes up through the levels unchanged (`row_path`).

Statements are read up to a word that ends them. The words that end the parts of a
statement are taken with it, and what is left behind them is where the next one begins
(`Builds`). So the trees of the parts are put together from the last statement to the first
(`PathTemplate.builds`). The fuel allows for sixteen steps for every token, which is more
than the grammar has levels.

Such a tree is never rejected: it has no filters, no tests and no blocks, and none of its
loops binds the name of the running loop (`PathTemplate.check_tree`).
-/

namespace ImagePreload.Template

open Template.Parser

/-! ## Single tokens -/

/-- A token that closes a tag. -/
def Closes (token : Token) : Prop := token = .outputEnd ∨ token = .tagEnd

section

variable {s : String} {token : Token} {rest ts : List Token}

theorem takeOp?_here (s : String) (rest : List Token) :
    takeOp? s (.op s :: rest) = .ok (true, rest) := by
  have hat : atOp s (.op s :: rest) = .ok (true, .op s :: rest) :=
    congrArg (fun b => Except.ok (b, Token.op s :: rest)) (beq_self_eq_true s)
  rw [takeOp?, bind_of_ok hat]
  rfl

theorem takeOp?_other (h : isOp s ts.head? = false) : takeOp? s ts = .ok (false, ts) := by
  have hat : atOp s ts = .ok (false, ts) := congrArg (fun b => Except.ok (b, ts)) h
  rw [takeOp?, bind_of_ok hat]
  rfl

theorem takeName?_here (s : String) (rest : List Token) :
    takeName? s (.name s :: rest) = .ok (true, rest) := by
  have hat : atName s (.name s :: rest) = .ok (true, .name s :: rest) :=
    congrArg (fun b => Except.ok (b, Token.name s :: rest)) (beq_self_eq_true s)
  rw [takeName?, bind_of_ok hat]
  rfl

theorem takeName?_other (h : isName s ts.head? = false) : takeName? s ts = .ok (false, ts) := by
  have hat : atName s ts = .ok (false, ts) := congrArg (fun b => Except.ok (b, ts)) h
  rw [takeName?, bind_of_ok hat]
  rfl

theorem takeOp?_closes (closes : Closes token) : takeOp? s (token :: rest) = .ok (false, token :: rest) := by
  apply takeOp?_other
  rcases closes with rfl | rfl <;> rfl

theorem takeName?_closes (closes : Closes token) :
    takeName? s (token :: rest) = .ok (false, token :: rest) := by
  apply takeName?_other
  rcases closes with rfl | rfl <;> rfl

theorem atOp_closes (closes : Closes token) : atOp s (token :: rest) = .ok (false, token :: rest) := by
  rcases closes with rfl | rfl <;> rfl

end

/-! ## Paths

Each level of the grammar goes down to the next one and then looks for its own operators, of
which there are none where a path ends. -/

section

variable {p : Path} {token : Token} {rest : List Token}

theorem postfixes_steps (closes : Closes token) (steps : List String) (e : Expr) (fuel : Nat) :
    postfixes (steps.length + fuel + 1) e (Path.stepTokens steps ++ token :: rest) =
      .ok (steps.foldl .attribute e, token :: rest) := by
  induction steps generalizing e with
  | nil =>
      rw [postfixes]
      simp only [Path.stepTokens, List.flatMap_nil, List.nil_append]
      rw [bind_of_ok (takeOp?_closes closes)]
      simp only [Bool.false_eq_true, if_false]
      rw [bind_of_ok (takeOp?_closes closes)]
      simp only [Bool.false_eq_true, if_false]
      rw [bind_of_ok (atOp_closes closes)]
      rfl
  | cons s steps ih =>
      have hfuel : (s :: steps).length + fuel + 1 = steps.length + fuel + 1 + 1 := by
        rw [List.length_cons]
        omega
      rw [hfuel, postfixes]
      exact (bind_of_ok (takeOp?_here "." _) _).trans (ih (.attribute e s))

theorem filtersAndTests_closes (closes : Closes token) (e : Expr) (fuel : Nat) :
    filtersAndTests (fuel + 1) e (token :: rest) = .ok (e, token :: rest) := by
  rw [filtersAndTests, bind_of_ok (takeOp?_closes closes)]
  simp only [Bool.false_eq_true, if_false]
  rw [bind_of_ok (takeName?_closes closes)]
  simp only [Bool.false_eq_true, if_false]
  rw [bind_of_ok (atOp_closes closes)]
  rfl

theorem nameExpr_of_notLiteral {s : String} (h : s ∉ literalNames) : nameExpr s = .name s := by
  simp only [literalNames, List.mem_cons, List.not_mem_nil, or_false, not_or] at h
  simp [nameExpr, h]

theorem unary_path (h : p.WellFormed) (closes : Closes token) (fuel : Nat) :
    unary (p.steps.length + fuel + 2) true (p.tokens ++ token :: rest) =
      .ok (p.expr, token :: rest) := by
  have hprimary : primary (p.steps.length + fuel + 1) (p.tokens ++ token :: rest) =
      .ok (.name p.root, Path.stepTokens p.steps ++ token :: rest) := by
    rw [← nameExpr_of_notLiteral h.notLiteral]
    rfl
  have hminus : takeOp? "-" (p.tokens ++ token :: rest) = .ok (false, p.tokens ++ token :: rest) :=
    takeOp?_other rfl
  have hplus : takeOp? "+" (p.tokens ++ token :: rest) = .ok (false, p.tokens ++ token :: rest) :=
    takeOp?_other rfl
  rw [unary, bind_of_ok hminus]
  simp only [Bool.false_eq_true, if_false, if_true]
  rw [bind_of_ok hplus]
  simp only [Bool.false_eq_true, if_false]
  rw [bind_of_ok hprimary, bind_of_ok (postfixes_steps closes _ _ _)]
  exact filtersAndTests_closes closes _ _

theorem power_path (h : p.WellFormed) (closes : Closes token) (fuel : Nat) :
    power (p.steps.length + fuel + 3) (p.tokens ++ token :: rest) = .ok (p.expr, token :: rest) := by
  rw [power, bind_of_ok (unary_path h closes fuel), powerFrom, bind_of_ok (takeOp?_closes closes)]
  rfl

theorem product_path (h : p.WellFormed) (closes : Closes token) (fuel : Nat) :
    product (p.steps.length + fuel + 4) (p.tokens ++ token :: rest) = .ok (p.expr, token :: rest) := by
  rw [product, bind_of_ok (power_path h closes fuel), productFrom]
  rcases closes with rfl | rfl <;> rfl

theorem concatenation_path (h : p.WellFormed) (closes : Closes token) (fuel : Nat) :
    concatenation (p.steps.length + fuel + 5) (p.tokens ++ token :: rest) =
      .ok (p.expr, token :: rest) := by
  have hnone : concatenated (p.steps.length + fuel + 4) (token :: rest) = .ok ([], token :: rest) := by
    rw [concatenated, bind_of_ok (takeOp?_closes closes)]
    rfl
  rw [concatenation, bind_of_ok (product_path h closes fuel), bind_of_ok hnone]
  rfl

theorem sum_path (h : p.WellFormed) (closes : Closes token) (fuel : Nat) :
    sum (p.steps.length + fuel + 6) (p.tokens ++ token :: rest) = .ok (p.expr, token :: rest) := by
  rw [sum, bind_of_ok (concatenation_path h closes fuel), sumFrom, bind_of_ok (takeOp?_closes closes)]
  simp only [Bool.false_eq_true, if_false]
  rw [bind_of_ok (takeOp?_closes closes)]
  rfl

theorem comparisons_closes (closes : Closes token) (fuel : Nat) :
    comparisons (fuel + 1) (token :: rest) = .ok ([], token :: rest) := by
  rw [comparisons]
  rcases closes with rfl | rfl <;> rfl

theorem negation_path (h : p.WellFormed) (closes : Closes token) (fuel : Nat) :
    negation (p.steps.length + fuel + 7) (p.tokens ++ token :: rest) = .ok (p.expr, token :: rest) := by
  have hnot : takeName? "not" (p.tokens ++ token :: rest) = .ok (false, p.tokens ++ token :: rest) :=
    takeName?_other (beq_eq_false_iff_ne.2 fun heq => h.notKeyword (heq ▸ by decide))
  rw [negation, bind_of_ok hnot]
  simp only [Bool.false_eq_true, if_false]
  rw [bind_of_ok (sum_path h closes fuel), bind_of_ok (comparisons_closes closes _)]
  rfl

theorem conjunction_path (h : p.WellFormed) (closes : Closes token) (fuel : Nat) :
    conjunction (p.steps.length + fuel + 8) (p.tokens ++ token :: rest) =
      .ok (p.expr, token :: rest) := by
  rw [conjunction, bind_of_ok (negation_path h closes fuel), conjunctionFrom,
    bind_of_ok (takeName?_closes closes)]
  rfl

theorem disjunction_path (h : p.WellFormed) (closes : Closes token) (fuel : Nat) :
    disjunction (p.steps.length + fuel + 9) (p.tokens ++ token :: rest) =
      .ok (p.expr, token :: rest) := by
  rw [disjunction, bind_of_ok (conjunction_path h closes fuel), disjunctionFrom,
    bind_of_ok (takeName?_closes closes)]
  rfl

theorem expression_path (h : p.WellFormed) (closes : Closes token) (fuel : Nat) :
    expression (p.steps.length + fuel + 10) (p.tokens ++ token :: rest) =
      .ok (p.expr, token :: rest) := by
  rw [expression, bind_of_ok (disjunction_path h closes fuel), conditionals,
    bind_of_ok (takeName?_closes closes)]
  rfl

/-- A row of a path alone is the path. -/
theorem row_path (h : p.WellFormed) (closes : Closes token) {words : List String}
    (keyword : ∀ word ∈ words, word ∈ keywords) (conditional : Bool) {fuel : Nat}
    (enough : p.steps.length + 12 ≤ fuel) :
    row fuel conditional false words (p.tokens ++ token :: rest) = .ok (p.expr, token :: rest) := by
  obtain ⟨fuel, rfl⟩ := Nat.exists_eq_add_of_le' enough
  rw [show fuel + (p.steps.length + 12) = p.steps.length + fuel + 12 by omega]
  have hwords : words.contains p.root = false := by
    rw [← Bool.not_eq_true, List.contains_iff_mem]
    exact fun mem => h.notKeyword (keyword _ mem)
  have hend : atRowEnd words (p.tokens ++ token :: rest) = .ok (false, p.tokens ++ token :: rest) :=
    congrArg (fun b => Except.ok (b, p.tokens ++ token :: rest)) hwords
  have hitems : rowItems (p.steps.length + fuel + 11) conditional words (p.tokens ++ token :: rest) =
      .ok (([p.expr], false), token :: rest) := by
    rw [rowItems, bind_of_ok hend]
    cases conditional with
    | true =>
        simp only [Bool.false_eq_true, if_false, if_true]
        rw [bind_of_ok (expression_path h closes fuel), bind_of_ok (takeOp?_closes closes)]
        rfl
    | false =>
        have hpath : disjunction (p.steps.length + fuel + 10) (p.tokens ++ token :: rest) =
            .ok (p.expr, token :: rest) := disjunction_path h closes (fuel + 1)
        simp only [Bool.false_eq_true, if_false]
        rw [bind_of_ok hpath, bind_of_ok (takeOp?_closes closes)]
        rfl
  rw [row, bind_of_ok hitems]
  rfl

end

/-- A name is a target behind which the word stands that ends all targets. -/
theorem target_variable {x : String} (hx : IsVariable x) (rest : List Token) (fuel : Nat) :
    target (fuel + 2) ["in"] (.name x :: .name "in" :: rest) =
      .ok (.name x, .name "in" :: rest) := by
  have hword : ["in"].contains x = false := by
    rw [← Bool.not_eq_true, List.contains_iff_mem]
    exact fun mem => hx.notKeyword (List.mem_singleton.1 mem ▸ by decide)
  have hend : atRowEnd ["in"] (.name x :: .name "in" :: rest) =
      .ok (false, .name x :: .name "in" :: rest) :=
    congrArg (fun b => Except.ok (b, Token.name x :: .name "in" :: rest)) hword
  have hprimary : primary (fuel + 1) (.name x :: .name "in" :: rest) =
      .ok (.name x, .name "in" :: rest) := by
    rw [← nameExpr_of_notLiteral hx.notLiteral]
    rfl
  have hcomma : takeOp? "," (.name "in" :: rest) = .ok (false, .name "in" :: rest) :=
    takeOp?_other rfl
  have hrow : targetRow (fuel + 2) ["in"] (.name x :: .name "in" :: rest) =
      .ok (([.name x], false), .name "in" :: rest) := by
    rw [targetRow, bind_of_ok hend]
    simp only [Bool.false_eq_true, if_false]
    rw [bind_of_ok hprimary, bind_of_ok hcomma]
    rfl
  rw [target, bind_of_ok hrow]
  rfl

/-! ## Statements -/

/-- How statements are read from here on, with fuel for every token: these statements come next, a
word ends them if it has to, and these tokens are left behind the word. -/
structure Builds (words : List String) (ts : List Token) (stmts : List Stmt) (word : String)
    (after : List Token) : Prop where
  reads : ∀ fuel, 16 * ts.length + 16 ≤ fuel → statements words fuel ts = .ok ((stmts, word), after)
  shorter : after.length ≤ ts.length

theorem Path.length_le_length_tokens (p : Path) (rest : List Token) :
    p.steps.length + 1 + rest.length ≤ (p.tokens ++ rest).length := by
  have hsteps : p.steps.length ≤ (Path.stepTokens p.steps).length := by
    induction p.steps with
    | nil => exact Nat.le_refl _
    | cons s steps ih =>
        simp only [Path.stepTokens, List.flatMap_cons, List.length_append, List.length_cons] at ih ⊢
        omega
  rw [Path.tokens, List.length_append, List.length_cons]
  omega

section

variable (words : List String) (fuel : Nat) (ts : List Token)

theorem statements_data (s : String) :
    statements words (fuel + 1) (.data s :: ts) = (do
      let (rest, word) ← statements words fuel
      return (.text s :: rest, word) : Parser (List Stmt × String)) ts := by
  rw [statements]
  rfl

theorem statements_output :
    statements words (fuel + 1) (.outputStart :: ts) = (do
      let e ← row fuel true false []
      expectOutputEnd
      let (rest, word) ← statements words fuel
      return (.output e :: rest, word) : Parser (List Stmt × String)) ts := by
  rw [statements]
  rfl

theorem statements_tag (name : String) :
    statements words (fuel + 1) (.tagStart :: .name name :: ts) = (do
      if words.contains name then return ([], name)
      else
        let here ← statement name fuel
        expectTagEnd
        let (rest, word) ← statements words fuel
        return (here ++ rest, word) : Parser (List Stmt × String)) ts := by
  rw [statements]
  rfl

end

namespace Builds

variable {words : List String} {ts : List Token} {stmts : List Stmt} {word : String}
  {after : List Token}

theorem finish : Builds [] [] [] "" [] where
  reads fuel enough := by
    cases fuel with
    | zero => omega
    | succ fuel =>
        rw [statements]
        rfl
  shorter := Nat.le_refl _

theorem stop (mem : words.contains word = true) (after : List Token) :
    Builds words (.tagStart :: .name word :: after) [] word after where
  reads fuel enough := by
    cases fuel with
    | zero => omega
    | succ fuel =>
        rw [statements_tag, if_pos mem]
        rfl
  shorter := by
    simp only [List.length_cons]
    omega

theorem text (h : Builds words ts stmts word after) (s : String) :
    Builds words (textTokens (Text.unifyLineEnds s.toList) ++ ts)
      (PathTemplate.textStmts s ++ stmts) word after := by
  have hempty : (PathTemplate.unified s).isEmpty = (Text.unifyLineEnds s.toList).isEmpty := by
    rw [Bool.eq_iff_iff, String.isEmpty_iff, List.isEmpty_iff, PathTemplate.unified,
      String.ofList_eq_empty_iff]
  rw [textTokens, PathTemplate.textStmts, hempty]
  cases (Text.unifyLineEnds s.toList).isEmpty with
  | true => exact h
  | false =>
      refine ⟨fun fuel enough => ?_, Nat.le_succ_of_le h.shorter⟩
      cases fuel with
      | zero => omega
      | succ fuel =>
          have hrest := h.reads fuel (by simp at enough; omega)
          exact (statements_data words fuel ts _).trans (bind_of_ok hrest _)

theorem output {p : Path} (hp : p.WellFormed) (h : Builds words ts stmts word after) :
    Builds words (.outputStart :: (p.tokens ++ .outputEnd :: ts)) (.output p.expr :: stmts) word
      after := by
  have hlength := p.length_le_length_tokens (.outputEnd :: ts)
  have hshorter := h.shorter
  rw [List.length_cons] at hlength
  refine ⟨fun fuel enough => ?_, by rw [List.length_cons]; omega⟩
  rw [List.length_cons] at enough
  cases fuel with
  | zero => omega
  | succ fuel =>
      have hpath : row fuel true false [] (p.tokens ++ .outputEnd :: ts) =
          .ok (p.expr, .outputEnd :: ts) := row_path hp (.inl rfl) (by simp) true (by omega)
      have hend : expectOutputEnd (.outputEnd :: ts) = .ok ((), ts) := rfl
      have hrest := h.reads fuel (by omega)
      rw [statements_output, bind_of_ok hpath, bind_of_ok hend, bind_of_ok hrest]
      rfl

/-- Statements between the marks of a tag. -/
theorem tag {name : String} {inner : List Token} (here : List Stmt)
    (other : words.contains name = false)
    (hhere : ∀ fuel, 16 * inner.length + 32 ≤ fuel →
      statement name fuel inner = .ok (here, .tagEnd :: ts))
    (shorter : ts.length ≤ inner.length) (h : Builds words ts stmts word after) :
    Builds words (.tagStart :: .name name :: inner) (here ++ stmts) word after := by
  have hshorter := h.shorter
  refine ⟨fun fuel enough => ?_, by simp only [List.length_cons]; omega⟩
  simp only [List.length_cons] at enough
  cases fuel with
  | zero => omega
  | succ fuel =>
      have hend : expectTagEnd (.tagEnd :: ts) = .ok ((), ts) := rfl
      have hrest := h.reads fuel (by omega)
      rw [statements_tag, if_neg (Bool.eq_false_iff.1 other)]
      rw [bind_of_ok (hhere fuel (by omega)), bind_of_ok hend, bind_of_ok hrest]
      rfl

theorem body (h : Builds words ts stmts word after) {fuel : Nat}
    (enough : 16 * ts.length + 17 ≤ fuel) :
    Parser.body words fuel (.tagEnd :: ts) = .ok ((stmts, word), after) := by
  cases fuel with
  | zero => omega
  | succ fuel =>
      rw [Parser.body]
      exact h.reads fuel (by omega)

theorem cond {p : Path} (hp : p.WellFormed) {ts' ts'' : List Token} {yes no : List Stmt}
    (other : words.contains "if" = false)
    (hyes : Builds ["elif", "else", "endif"] ts'' yes "else" (.tagEnd :: ts'))
    (hno : Builds ["endif"] ts' no "endif" (.tagEnd :: ts))
    (h : Builds words ts stmts word after) :
    Builds words (.tagStart :: .name "if" :: (p.tokens ++ .tagEnd :: ts''))
      (.cond [(p.expr, yes)] no :: stmts) word after := by
  have hlength := p.length_le_length_tokens (.tagEnd :: ts'')
  have hyeslength := hyes.shorter
  have hnolength := hno.shorter
  rw [List.length_cons] at hlength hyeslength hnolength
  refine tag [.cond [(p.expr, yes)] no] other (fun fuel enough => ?_) (by omega) h
  obtain ⟨fuel, rfl⟩ := Nat.exists_eq_add_of_le' (show 2 ≤ fuel by omega)
  have hpath : row fuel false false [] (p.tokens ++ .tagEnd :: ts'') =
      .ok (p.expr, .tagEnd :: ts'') := row_path hp (.inr rfl) (by simp) false (by omega)
  have hbranches : conditionBranches (fuel + 1) (p.tokens ++ .tagEnd :: ts'') =
      .ok (([(p.expr, yes)], no), .tagEnd :: ts) := by
    rw [conditionBranches, bind_of_ok hpath, bind_of_ok (hyes.body (by omega))]
    exact (bind_of_ok (hno.body (by omega)) _).trans rfl
  rw [statement, bind_of_ok hbranches]
  rfl

theorem loop {p : Path} (hp : p.WellFormed) {x : String} (hx : IsVariable x) {ts' : List Token}
    {inner : List Stmt} (other : words.contains "for" = false)
    (hinner : Builds ["endfor", "else"] ts' inner "endfor" (.tagEnd :: ts))
    (h : Builds words ts stmts word after) :
    Builds words
      (.tagStart :: .name "for" :: .name x :: .name "in" :: (p.tokens ++ .tagEnd :: ts'))
      (.loop (.name x) p.expr none false inner [] :: stmts) word after := by
  have hlength := p.length_le_length_tokens (.tagEnd :: ts')
  have hinnerlength := hinner.shorter
  rw [List.length_cons] at hlength hinnerlength
  refine tag [.loop (.name x) p.expr none false inner []] other (fun fuel enough => ?_)
    (by simp only [List.length_cons]; omega) h
  simp only [List.length_cons] at enough
  obtain ⟨fuel, rfl⟩ := Nat.exists_eq_add_of_le' (show 3 ≤ fuel by omega)
  have htarget : target (fuel + 2) ["in"] (.name x :: .name "in" :: (p.tokens ++ .tagEnd :: ts')) =
      .ok (.name x, .name "in" :: (p.tokens ++ .tagEnd :: ts')) :=
    target_variable hx _ _
  have hpath : row (fuel + 2) false false ["recursive"] (p.tokens ++ .tagEnd :: ts') =
      .ok (p.expr, .tagEnd :: ts') := row_path hp (.inr rfl) (by decide) false (by omega)
  rw [statement, bind_of_ok htarget, bind_of_ok (takeName?_here "in" _)]
  simp only [Bool.not_true, Bool.false_eq_true, if_false]
  rw [bind_of_ok hpath, bind_of_ok (takeName?_closes (.inr rfl))]
  simp only [Bool.false_eq_true, if_false, pure_bind]
  rw [bind_of_ok (takeName?_closes (.inr rfl)), bind_of_ok (hinner.body (by omega))]
  rfl

end Builds

/-! ## Templates -/

namespace PathTemplate

/-- A template is read as its tree. -/
theorem builds (t : PathTemplate) {behind : List Char} (h : t.WellFormed behind)
    {words : List String} (hif : words.contains "if" = false) (hfor : words.contains "for" = false)
    {ts after : List Token} {stmts : List Stmt} {word : String}
    (next : Builds words ts stmts word after) :
    Builds words (t.tokens ++ ts) (t.tree ++ stmts) word after := by
  induction t generalizing behind words ts stmts word after with
  | text s => exact next.text s
  | output before p rest ih =>
      obtain ⟨-, hp, hrest⟩ := h
      have h := ((ih hrest hif hfor next).output hp).text before
      simpa only [tokens, tree, List.append_assoc, List.cons_append] using h
  | cond before p yes no rest ihyes ihno ih =>
      obtain ⟨-, hp, hyes, hno, hrest⟩ := h
      have hno : Builds ["endif"] _ (no.tree ++ []) "endif" (.tagEnd :: (rest.tokens ++ ts)) :=
        ihno hno rfl rfl (.stop rfl _)
      have hyes : Builds ["elif", "else", "endif"] _ (yes.tree ++ []) "else" _ :=
        ihyes hyes rfl rfl (.stop rfl (.tagEnd :: (no.tokens ++
          .tagStart :: .name "endif" :: .tagEnd :: (rest.tokens ++ ts))))
      rw [List.append_nil] at hyes hno
      have h := (Builds.cond hp hif hyes hno (ih hrest hif hfor next)).text before
      simpa only [tokens, tree, List.append_assoc, List.cons_append] using h
  | loop before x p body rest ihbody ih =>
      obtain ⟨-, hx, hp, hbody, hrest⟩ := h
      have hbody : Builds ["endfor", "else"] _ (body.tree ++ []) "endfor"
          (.tagEnd :: (rest.tokens ++ ts)) := ihbody hbody rfl rfl (.stop rfl _)
      rw [List.append_nil] at hbody
      have h := (Builds.loop hp hx hfor hbody (ih hrest hif hfor next)).text before
      simpa only [tokens, tree, List.append_assoc, List.cons_append] using h

theorem parse_source (t : PathTemplate) (h : t.WellFormed []) :
    parse t.source.toList = .ok t.tree := by
  have hbuilds := t.builds h rfl rfl .finish
  rw [List.append_nil, List.append_nil] at hbuilds
  have hread := hbuilds.reads (16 * t.tokens.length + 64) (by omega)
  rw [parse, t.scan_source h]
  simp only [bind, Except.bind, StateT.run, hread]
  rfl

/-! ## Acceptance -/

end PathTemplate

theorem areAccepted_append (tentative top : Bool) (stmts more : List Stmt) :
    areAccepted tentative top (stmts ++ more) =
      (areAccepted tentative top stmts && areAccepted tentative top more) := by
  induction stmts with
  | nil => rfl
  | cons s stmts ih => rw [List.cons_append, areAccepted, areAccepted, ih, Bool.and_assoc]

theorem blocksOf_append (stmts more : List Stmt) :
    blocksOf (stmts ++ more) = blocksOf stmts ++ blocksOf more := by
  induction stmts with
  | nil => rfl
  | cons s stmts ih => rw [List.cons_append, blocksOf, blocksOf, ih, List.append_assoc]

theorem storedIn_append (name : String) (stmts more : List Stmt) :
    storedIn name (stmts ++ more) = (storedIn name stmts || storedIn name more) := by
  induction stmts with
  | nil => rfl
  | cons s stmts ih => rw [List.cons_append, storedIn, storedIn, ih, Bool.or_assoc]

theorem Path.expr_isKnown (p : Path) (tentative : Bool) : p.expr.isKnown tentative = true := by
  have hsteps (steps : List String) (e : Expr) (h : e.isKnown tentative = true) :
      (steps.foldl .attribute e).isKnown tentative = true := by
    induction steps generalizing e with
    | nil => exact h
    | cons s steps ih => exact ih _ (by rw [Expr.isKnown]; exact h)
  exact hsteps p.steps _ (by rw [Expr.isKnown])

namespace PathTemplate

theorem textStmts_plain (s : String) : storedIn "loop" (textStmts s) = false ∧
    blocksOf (textStmts s) = [] ∧ ∀ tentative top, areAccepted tentative top (textStmts s) = true := by
  rw [textStmts]
  split <;> simp [storedIn, blocksOf, areAccepted, Stmt.stores, Stmt.blocks, Stmt.isAccepted]

theorem tree_storedIn (t : PathTemplate) {behind : List Char} (h : t.WellFormed behind) :
    storedIn "loop" t.tree = false := by
  induction t generalizing behind with
  | text s => exact (textStmts_plain s).1
  | output before p rest ih =>
      obtain ⟨-, hp, hrest⟩ := h
      simp [tree, storedIn_append, storedIn, Stmt.stores, textStmts_plain, ih hrest]
  | cond before p yes no rest ihyes ihno ih =>
      obtain ⟨-, hp, hyes, hno, hrest⟩ := h
      simp [tree, storedIn_append, storedIn, storedInBranches, Stmt.stores, textStmts_plain,
        ihyes hyes, ihno hno, ih hrest]
  | loop before x p body rest ihbody ih =>
      obtain ⟨-, hx, hp, hbody, hrest⟩ := h
      simp [tree, storedIn_append, storedIn, Stmt.stores, Target.binds, textStmts_plain,
        hx.notLoop, ihbody hbody, ih hrest]

theorem tree_blocksOf (t : PathTemplate) : blocksOf t.tree = [] := by
  induction t with
  | text s => exact (textStmts_plain s).2.1
  | output before p rest ih => simp [tree, blocksOf_append, blocksOf, Stmt.blocks, textStmts_plain, ih]
  | cond before p yes no rest ihyes ihno ih =>
      simp [tree, blocksOf_append, blocksOf, blocksOfBranches, Stmt.blocks, textStmts_plain, ihyes,
        ihno, ih]
  | loop before x p body rest ihbody ih =>
      simp [tree, blocksOf_append, blocksOf, Stmt.blocks, textStmts_plain, ihbody, ih]

theorem tree_areAccepted (t : PathTemplate) {behind : List Char} (h : t.WellFormed behind)
    (tentative top : Bool) : areAccepted tentative top t.tree = true := by
  induction t generalizing behind tentative top with
  | text s => exact (textStmts_plain s).2.2 tentative top
  | output before p rest ih =>
      obtain ⟨-, hp, hrest⟩ := h
      simp [tree, areAccepted_append, areAccepted, Stmt.isAccepted, textStmts_plain,
        p.expr_isKnown, ih hrest]
  | cond before p yes no rest ihyes ihno ih =>
      obtain ⟨-, hp, hyes, hno, hrest⟩ := h
      simp [tree, areAccepted_append, areAccepted, areBranchesAccepted, Stmt.isAccepted,
        textStmts_plain, p.expr_isKnown, ihyes hyes, ihno hno, ih hrest]
  | loop before x p body rest ihbody ih =>
      obtain ⟨-, hx, hp, hbody, hrest⟩ := h
      simp [tree, areAccepted_append, areAccepted, storedIn, Stmt.isAccepted, Stmt.stores,
        isOptionKnown, Target.binds, textStmts_plain, p.expr_isKnown, hx.notLoop,
        body.tree_storedIn hbody, ihbody hbody, ih hrest]

theorem check_tree (t : PathTemplate) {behind : List Char} (h : t.WellFormed behind) :
    check t.tree = .ok [] := by
  simp [check, t.tree_blocksOf, t.tree_areAccepted h]

end PathTemplate

end ImagePreload.Template
