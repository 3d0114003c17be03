import ImagePreload.Proofs.Acceptance
import ImagePreload.Proofs.PathTrees
import ImagePreload.Proofs.TemplateValues

/-!
# Missing keys

A path that leads nowhere counts as empty under one policy, and it is an error under the
other. What a template writes is noted without any policy (`PathTemplate.write`), and the
run under either policy is compared with the note (`Meets`): it comes to the same, unless
the policy is strict and a path is missed. Then the run ends with that, and nothing that is
noted from there on matters any more.

The relation passes from the parts of a run to the whole (`Meets.bind`). It holds of a path
that is used, since an empty value and a missing one are used in the same way
(`use_meets`), and from there on by the statements of a template, and round by round in its
loops (`tree_writes`). Which values the names in a template stand for is kept along with
it: those of the loops around, and behind them the given ones (`Sees`).

What is rendered is a text. The tokens and the tree of the template are found in it again
(`PathTrees`), also with functions in front of it, for templates behind each other are one
template (`PathTemplate.joined`). So what holds of the trees holds of the texts
(`renderPaths_missingKeys`).
-/

namespace ImagePreload.Template

open Eval PathTemplate

/-! ## Scopes -/

/-- Data for variables, one for each. -/
abbrev RepresentNamed (cells : Array Cell) (bound : Nat) : List (String × Datum) → Env → Prop :=
  List.Forall₂ fun x y => x.1 = y.1 ∧ Represents cells bound x.2 y.2

/-- A scope in which names stand for values: those of the loops around, and behind them the
given of the template. -/
inductive Sees (cells : Array Cell) : Nat → Env → Prop
  | top {data : List (String × Datum)} {vars : Env}
      (builtins : cells[0]? = some (.scope ⟨Builtin.all.map fun b => (b.name, .builtin b), none⟩))
      (given : cells[1]? = some (.scope ⟨data, some 0⟩))
      (own : cells[topScope]? = some (.scope ⟨[("self", .blocks)], some 1⟩))
      (all : RepresentNamed cells cells.size data vars) :
      Sees cells topScope vars
  | inner {scope outer : Nat} {env : Env} {x : String} {ref : Nat} {d : Datum} {v : Value}
      (behind : outer < scope)
      (found : cells[scope]? = some (.scope ⟨[("loop", .loop ref), (x, d)], some outer⟩))
      (represents : Represents cells cells.size d v) (sees : Sees cells outer env) :
      Sees cells scope ((x, v) :: env)

namespace Sees

variable {cells after : Array Cell} {scope : Nat} {env : Env}

theorem kept (h : Sees cells scope env) (kept : Kept cells after) : Sees after scope env := by
  induction h with
  | top builtins given own all =>
      exact .top (kept _ _ builtins) (kept _ _ given) (kept _ _ own)
        (all.imp fun _ _ h => ⟨h.1, h.2.mono kept kept.size_le⟩)
  | inner behind found represents _ ih =>
      exact .inner behind (kept _ _ found) (represents.mono kept kept.size_le) ih

theorem scope_lt (h : Sees cells scope env) : scope < cells.size := by
  cases h with
  | top _ _ own => exact (Array.getElem?_eq_some_iff.1 own).1
  | inner _ found => exact (Array.getElem?_eq_some_iff.1 found).1

end Sees

theorem findName_of_scope {cells : Array Cell} {ref : Nat} {s : Scope}
    (found : cells[ref]? = some (.scope s)) (name : String) (fuel : Nat) :
    Context.findName cells name (fuel + 1) ref =
      match s.vars.lookup name, s.outer with
      | some d, _ => some d
      | none, some outer => Context.findName cells name fuel outer
      | none, none => none := by
  rw [Context.findName, Array.getD_eq_getD_getElem?, found]
  rfl

theorem lookup_represents {cells : Array Cell} {bound : Nat} {data : List (String × Datum)}
    {vars : Env}
    (all : RepresentNamed cells bound data vars)
    (name : String) :
    Option.Rel (Represents cells bound) (data.lookup name) (vars.lookup name) := by
  induction all with
  | nil => exact .none
  | @cons x y data vars h _ ih =>
      obtain ⟨own, d⟩ := x
      obtain ⟨own', v⟩ := y
      obtain ⟨rfl, represents⟩ := h
      rw [List.lookup_cons, List.lookup_cons]
      cases name == own with
      | true => exact .some represents
      | false => exact ih

theorem findName_sees {cells : Array Cell} {scope : Nat} {env : Env} (h : Sees cells scope env)
    {name : String} (free : name ∉ takenNames) {fuel : Nat} (enough : scope < fuel) :
    Option.Rel (Represents cells cells.size) (Context.findName cells name fuel scope)
      (env.lookup name) := by
  obtain ⟨hself, hloop, hbuiltin⟩ : name ≠ "self" ∧ name ≠ "loop" ∧
      name ∉ Builtin.all.map (·.name) := by
    simpa only [takenNames, List.mem_cons, not_or] using free
  induction h generalizing fuel with
  | @top data vars builtins given own all =>
      obtain ⟨fuel, rfl⟩ := Nat.exists_eq_add_of_lt enough
      have hfuel : topScope + fuel + 1 = fuel + 2 + 1 := by
        rw [topScope]
        omega
      have hown : [("self", Datum.blocks)].lookup name = none := by
        rw [List.lookup_cons, beq_eq_false_iff_ne.2 hself]
        rfl
      have hnone : (Builtin.all.map fun b => (b.name, Datum.builtin b)).lookup name = none := by
        rw [List.lookup_eq_none_iff]
        intro e he
        obtain ⟨b, hb, rfl⟩ := List.mem_map.1 he
        exact bne_iff_ne.2 fun h => hbuiltin (h ▸ List.mem_map_of_mem hb)
      have hrel := lookup_represents all name
      rw [hfuel, findName_of_scope own]
      simp only [hown]
      rw [findName_of_scope given]
      generalize data.lookup name = d? at hrel ⊢
      cases d? with
      | some d => exact hrel
      | none => 
          simp only [findName_of_scope builtins, hnone]
          exact hrel
  | @inner scope outer env x ref d v behind found represents _ ih =>
      cases fuel with
      | zero => omega
      | succ fuel =>
          rw [findName_of_scope found, List.lookup_cons, List.lookup_cons, List.lookup_cons]
          have hne : (name == "loop") = false := beq_eq_false_iff_ne.2 hloop
          rw [hne]
          cases name == x with
          | true => exact .some represents
          | false => exact ih (by omega)

/-! ## Two runs

What a template writes is noted without a policy, and a run under either policy is
compared with the note. -/

/-- What a run under a policy may come to beside what is noted of it: the same, with all cells
kept, unless a path was missed and the policy is strict. Then it ends with that, whatever else is
noted. -/
inductive Meets {α β : Type} (policy : MissingKeyPolicy) (m : Machine)
    (related : Array Cell → α → β → Prop) :
    Noted α → Except TemplateError (β × Machine) → Prop
  | done {a : α} {b : β} {cells : Array Cell} {missed : Bool}
      (quiet : policy = .error → missed = false) (kept : Kept m.cells cells)
      (same : related cells a b) : Meets policy m related ⟨.ok a, missed⟩ (.ok (b, { m with cells }))
  | failed {missed : Bool} (quiet : policy = .error → missed = false) (e : TemplateError) :
      Meets policy m related ⟨.error e, missed⟩ (.error e)
  | stopped {result : Except TemplateError α} (strict : policy = .error) (message : String) :
      Meets policy m related ⟨result, true⟩ (.error (.undefined message))

namespace Meets

variable {α β γ δ : Type} {policy : MissingKeyPolicy} {m : Machine}
  {related : Array Cell → α → β → Prop}

theorem missing_first {x : Noted α} {r : Except TemplateError (β × Machine)}
    (h : Meets policy m related x r) {missed : Bool} (quiet : policy = .error → missed = false) :
    Meets policy m related ⟨x.result, missed || x.missed⟩ r := by
  cases h with
  | done quiet' kept same =>
      refine .done (fun strict => ?_) kept same
      rw [quiet strict, quiet' strict]
      rfl
  | failed quiet' e =>
      refine .failed (fun strict => ?_) e
      rw [quiet strict, quiet' strict]
      rfl
  | stopped strict message =>
      rw [Bool.or_true]
      exact .stopped strict message

theorem later {cells : Array Cell} {x : Noted α} {r : Except TemplateError (β × Machine)}
    (kept : Kept m.cells cells) (h : Meets policy { m with cells } related x r) :
    Meets policy m related x r := by
  cases h with
  | done quiet kept' same => exact .done quiet (kept.trans kept') same
  | failed quiet e => exact .failed quiet e
  | stopped strict message => exact .stopped strict message

/-- What they come to is what is noted. -/
theorem with_result {x : Noted α} {r : Except TemplateError (β × Machine)}
    (h : Meets policy m related x r) :
    Meets policy m (fun cells a b => x.result = .ok a ∧ related cells a b) x r := by
  cases h with
  | done quiet kept same => exact .done quiet kept ⟨rfl, same⟩
  | failed quiet e => exact .failed quiet e
  | stopped strict message => exact .stopped strict message

theorem bind {x : Noted α} {run : Eval β} {f : α → Noted γ} {g : β → Eval δ} {start : Machine}
    {related' : Array Cell → γ → δ → Prop} (h : Meets policy m related x (run start))
    (next : ∀ a b cells, Kept m.cells cells → related cells a b →
      Meets policy m related' (f a) (g b { m with cells })) :
    Meets policy m related' (x >>= f) ((run >>= g) start) := by
  generalize hr : run start = r at h
  cases h with
  | @done a b cells missed quiet kept same =>
      rw [bind_of_ok hr]
      exact missing_first (next a b cells kept same) quiet
  | failed quiet e =>
      rw [bind_of_error hr]
      exact .failed quiet e
  | @stopped result strict message =>
      have hmissed : ((⟨result, true⟩ : Noted α) >>= f).missed = true := by
        cases result <;> rfl
      rw [bind_of_error hr]
      generalize (⟨result, true⟩ : Noted α) >>= f = y at hmissed ⊢
      obtain ⟨result, missed⟩ := y
      cases hmissed
      exact .stopped strict message

theorem pure {cells : Array Cell} {a : α} {b : β} (kept : Kept m.cells cells)
    (same : related cells a b) :
    Meets policy m related (Pure.pure a) ((Pure.pure b : Eval β) { m with cells }) :=
  .done (fun _ => rfl) kept same

end Meets

/-! ## Paths -/

attribute [local simp] Context.expr Context.stmt Context.stmts

section

variable {c : Context} {m : Machine} {env : Env} {value? : Option Value}

theorem expr_attribute {e : Expr} (h : Finds c.setting.policy m value? (c.expr e m)) {name : String}
    (key : IsKey name) (own : ∀ v ∈ value?, name ∉ v.nativeNames) :
    Finds c.setting.policy m (value?.bind (·.field? name)) (c.expr (.attribute e name) m) := by
  generalize hr : c.expr e m = r at h
  rw [Context.expr]
  cases h with
  | found represents =>
      rw [bind_of_ok hr]
      exact getAttribute_represents c.setting represents key (own _ rfl)
  | missing message =>
      rw [bind_of_ok hr]
      exact getAttribute_missing c.setting message m key
  | used strict message =>
      rw [bind_of_error hr]
      exact .used strict message

theorem leadsByKeys_cons {value? : Option Value} {key : String} {keys : List String}
    (leads : value?.all (·.leadsByKeys (key :: keys)) = true) :
    (∀ v ∈ value?, key ∉ v.nativeNames) ∧
      (value?.bind (·.field? key)).all (·.leadsByKeys keys) = true := by
  cases value? with
  | none => exact ⟨nofun, rfl⟩
  | some v =>
      rw [Option.all_some, Value.leadsByKeys, Bool.and_eq_true, Bool.not_eq_true',
        ← Bool.not_eq_true, List.contains_iff_mem] at leads
      exact ⟨fun _ hv => Option.some.inj hv ▸ leads.1, leads.2⟩

theorem expr_steps {e : Expr} (h : Finds c.setting.policy m value? (c.expr e m))
    {steps : List String} (keys : ∀ name ∈ steps, IsKey name)
    (leads : value?.all (·.leadsByKeys steps) = true) :
    Finds c.setting.policy m (value?.bind (·.at? steps))
      (c.expr (steps.foldl .attribute e) m) := by
  induction steps generalizing e value? with
  | nil =>
      have hsame : value?.bind (·.at? []) = value? := by cases value? <;> rfl
      rw [hsame]
      exact h
  | cons name steps ih =>
      obtain ⟨key, keys⟩ := List.forall_mem_cons.1 keys
      have hsplit : value?.bind (·.at? (name :: steps)) =
          (value?.bind (·.field? name)).bind (·.at? steps) := by
        rw [Option.bind_assoc]
        rfl
      obtain ⟨own, leads⟩ := leadsByKeys_cons leads
      rw [hsplit, List.foldl_cons]
      exact ih (expr_attribute h key own) keys leads

theorem expr_name (sees : Sees m.cells c.scope env) {name : String} (free : name ∉ takenNames) :
    Finds c.setting.policy m (env.lookup name) (c.expr (.name name) m) := by
  have hrel := findName_sees sees free (Nat.lt_succ_self c.scope)
  rw [Context.expr, Context.lookup]
  generalize env.lookup name = value? at hrel ⊢
  generalize Context.findName m.cells name (c.scope + 1) c.scope = found at hrel ⊢
  cases hrel with
  | none => exact .missing _
  | some represents => exact .found represents

theorem expr_path (sees : Sees m.cells c.scope env) {p : Path} (h : p.WellFormed)
    (leads : p.leadsByKeys env = true) :
    Finds c.setting.policy m (p.value? env) (c.expr p.expr m) :=
  expr_steps (expr_name sees h.notTaken) h.keys leads

/-- A use of a path, if missing values are used like the empty value or not at all. -/
theorem use_meets {α β : Type} {related : Array Cell → α → β → Prop} {p : Path} {empty : α}
    {f : Value → Except TemplateError α} {use : Datum → Eval β} {policy : MissingKeyPolicy}
    {run : Eval Datum}
    (finds : Finds policy m (p.value? env) (run m))
    (value : ∀ {bound d v}, Represents m.cells bound d v →
      Meets policy m related ⟨f v, false⟩ (use d m))
    (chainable : ∀ message, ∃ b, use (.undefined .chainable message) m = .ok (b, m) ∧
      related m.cells empty b)
    (strict : ∀ message, use (.undefined .strict message) m = .error (.undefined message)) :
    Meets policy m related (p.use env empty f) ((run >>= use) m) := by
  rw [Path.use]
  generalize p.value? env = value? at finds ⊢
  generalize hr : run m = r at finds
  cases finds with
  | @found _ d v represents =>
      rw [bind_of_ok hr]
      exact value represents
  | missing message =>
      rw [bind_of_ok hr]
      cases policy with
      | zero =>
          obtain ⟨b, hb, same⟩ := chainable message
          rw [MissingKeyPolicy.missing, hb]
          exact .done nofun (Kept.refl _) same
      | error =>
          rw [MissingKeyPolicy.missing, strict]
          exact .stopped rfl message
  | used isStrict message =>
      rw [bind_of_error hr]
      exact .stopped isStrict message

end

/-! ## Statements -/

/-- Both write the same. -/
abbrev Writes (policy : MissingKeyPolicy) (m : Machine) :
    Noted String → Except TemplateError (String × Machine) → Prop :=
  Meets policy m fun _ s s' => s = s'

section

variable {c : Context} {m : Machine} {env : Env} {p : Path}

theorem output_writes (sees : Sees m.cells c.scope env) (plain : m.escaping = false)
    (h : p.WellFormed) (leads : p.leadsByKeys env = true) :
    Writes c.setting.policy m (p.use env "" Value.written) (c.stmt (.output p.expr) m) := by
  have houtput (d : Datum) : output d m = display d m := by
    obtain ⟨cells, entropy, escaping⟩ := m
    cases plain
    rfl
  rw [Context.stmt]
  refine use_meets (expr_path sees h leads) (fun {bound d v} represents => ?_) (fun message => ?_)
    fun message => ?_
  · rw [houtput, display_represents represents]
    cases v.written with
    | ok s => exact .done (fun _ => rfl) (Kept.refl _) rfl
    | error e => exact .failed (fun _ => rfl) e
  · exact ⟨"", houtput _, rfl⟩
  · exact houtput _

theorem truthy_meets (sees : Sees m.cells c.scope env) (h : p.WellFormed)
    (leads : p.leadsByKeys env = true) :
    Meets c.setting.policy m (fun _ b b' => b = b')
      (p.use env false fun v => .ok v.truthy) ((c.expr p.expr >>= truthy) m) := by
  refine use_meets (expr_path sees h leads) (fun {bound d v} represents => ?_) (fun message => ?_)
    fun message => rfl
  · rw [truthy_represents represents]
    exact .done (fun _ => rfl) (Kept.refl _) rfl
  · exact ⟨false, rfl, rfl⟩

theorem elements_meets (sees : Sees m.cells c.scope env) (h : p.WellFormed)
    (leads : p.leadsByKeys env = true) :
    Meets c.setting.policy m (fun cells vs ds => RepresentAll cells cells.size ds vs)
      (p.use env [] Value.items) ((c.expr p.expr >>= elements) m) := by
  refine use_meets (expr_path sees h leads) (fun {bound d v} represents => ?_) (fun message => ?_)
    fun message => rfl
  · rcases elements_represents represents with ⟨ds, vs, hds, hvs, all⟩ | ⟨e, hd, hv⟩
    · rw [hds, hvs]
      exact .done (fun _ => rfl) (Kept.refl _) (all.imp fun _ _ h => h.below_size)
    · rw [hd, hv]
      exact .failed (fun _ => rfl) e
  · exact ⟨[], rfl, .nil⟩

theorem use_holds {holds : Bool}
    (h : (p.use env false fun v => .ok v.truthy).result = .ok holds) : holds = p.holds env := by
  rw [Path.use] at h
  rw [Path.holds]
  cases hvalue : p.value? env with
  | none => cases hvalue ▸ h; rfl
  | some v => cases hvalue ▸ h; rfl

theorem use_items {vs : List Value} (h : (p.use env [] Value.items).result = .ok vs) :
    vs = p.items env := by
  rw [Path.use] at h
  rw [Path.items]
  cases hvalue : p.value? env with
  | none => cases hvalue ▸ h; rfl
  | some v =>
      rw [hvalue] at h
      change v.items = .ok vs at h
      rw [Value.items] at h
      rw [Option.bind_some]
      cases hitems : v.elements? with
      | none => cases hitems ▸ h
      | some items => cases hitems ▸ h; rfl

theorem stmt_cond (e : Expr) (yes no : List Stmt) :
    c.stmt (.cond [(e, yes)] no) = (do
      let holds ← c.expr e >>= truthy
      if holds then c.stmts yes else c.stmts no) := by
  rw [Context.stmt, Context.branches, Context.branches]
  simp only [bind_assoc]
  refine bind_congr fun d => bind_congr fun holds => ?_
  cases holds <;> simp

theorem cond_writes {yes no : Noted String} {yes' no' : List Stmt}
    (sees : Sees m.cells c.scope env) (h : p.WellFormed) (leads : p.leadsByKeys env = true)
    (hyes : p.holds env = true → ∀ cells, Kept m.cells cells →
      Writes c.setting.policy m yes (c.stmts yes' { m with cells }))
    (hno : p.holds env = false → ∀ cells, Kept m.cells cells →
      Writes c.setting.policy m no (c.stmts no' { m with cells })) :
    Writes c.setting.policy m
      (do
        let holds ← p.use env false fun v => .ok v.truthy
        if holds then yes else no)
      (c.stmt (.cond [(p.expr, yes')] no') m) := by
  rw [stmt_cond]
  refine (truthy_meets sees h leads).with_result.bind fun holds holds' cells kept same => ?_
  obtain ⟨hresult, rfl⟩ := same
  have hholds := use_holds hresult
  cases holds with
  | true => exact hyes hholds.symm cells kept
  | false => exact hno hholds.symm cells kept

/-- What a loop does with one of its items. -/
def round (c : Context) (x : String) (body : List Stmt) (ref i : Nat) (d : Datum) : Eval String := do
  match ← cell ref with
  | .loop l => store ref (.loop { l with index := i })
  | _ => pure ()
  let inner ← c.nested [("loop", .loop ref)]
  inner.assign (.name x) d
  Context.stmts { inner with depth := 1 } body

/-- What a loop does with one item after the other. -/
def rounds (c : Context) (x : String) (body : List Stmt) (ref i : Nat) (ds : List Datum) :
    Eval (List String) :=
  (ds.zipIdx i).mapM fun (d, i) => round c x body ref i d

theorem stmt_loop (x : String) (e : Expr) (body : List Stmt) :
    c.stmt (.loop (.name x) e none false body []) = (do
      let ds ← c.expr e >>= elements
      if ds.isEmpty then
        let _ ← c.nested []
        return ""
      else
        let ref ← alloc (.loop ⟨ds, 0, c.depth, none, none⟩)
        return String.join (← rounds c x body ref 0 ds)) := by
  rw [Context.stmt]
  simp only [Bool.false_eq_true, if_false, pure_bind, bind_assoc, Context.passing]
  refine bind_congr fun d => bind_congr fun ds => ?_
  cases ds <;> rfl

theorem push_setIfInBounds (cells : Array Cell) (old new : Cell) :
    (cells.push old).setIfInBounds cells.size new = cells.push new := by
  apply Array.toList_inj.1
  simp

theorem assign_fresh {x : String} (notLoop : x ≠ "loop") (ref : Nat) (d : Datum)
    (cells : Array Cell) :
    Context.assign { c with scope := cells.size } (.name x) d
      { m with cells := cells.push (.scope ⟨[("loop", .loop ref)], some c.scope⟩) } =
    .ok ((), { m with
      cells := cells.push (.scope ⟨[("loop", .loop ref), (x, d)], some c.scope⟩) }) := by
  have hne : ("loop" == x) = false := beq_eq_false_iff_ne.2 notLoop.symm
  have hfound : (cells.push (.scope ⟨[("loop", .loop ref)], some c.scope⟩))[cells.size]? =
      some (.scope ⟨[("loop", .loop ref)], some c.scope⟩) := Array.getElem?_push_size
  have hcell := cell_of_found (m := { m with
    cells := cells.push (.scope ⟨[("loop", .loop ref)], some c.scope⟩) }) hfound
  have hvars : (if "loop" == x then [(x, d)] else [("loop", Datum.loop ref), (x, d)]) =
      [("loop", .loop ref), (x, d)] := by
    rw [hne]
    rfl
  rw [Context.assign, Context.bindName, bind_of_ok hcell]
  show Except.ok ((), { m with cells := Array.setIfInBounds _ _ _ }) = _
  rw [push_setIfInBounds]
  exact congrArg (fun vars => Except.ok ((), { m with
    cells := cells.push (.scope ⟨vars, some c.scope⟩) })) hvars

/-- A round runs the body in a new scope, where the loop and the item have names. -/
theorem round_run {x : String} (notLoop : x ≠ "loop") {ref : Nat} (new : m.cells.size ≤ ref)
    (i : Nat) (d : Datum) (body : List Stmt) {cells : Array Cell} (kept : Kept m.cells cells) :
    ∃ cells', Kept m.cells cells' ∧ round c x body ref i d { m with cells } =
      Context.stmts { c with scope := cells'.size, depth := 1 } body
        { m with cells := cells'.push (.scope ⟨[("loop", .loop ref), (x, d)], some c.scope⟩) } := by
  have hbody (cells : Array Cell) : (do
      let inner ← c.nested [("loop", .loop ref)]
      inner.assign (.name x) d
      Context.stmts { inner with depth := 1 } body : Eval String) { m with cells } =
      Context.stmts { c with scope := cells.size, depth := 1 } body
        { m with cells := cells.push (.scope ⟨[("loop", .loop ref), (x, d)], some c.scope⟩) } := by
    have hnested : c.nested [("loop", .loop ref)] { m with cells } =
        .ok ({ c with scope := cells.size },
          { m with cells := cells.push (.scope ⟨[("loop", .loop ref)], some c.scope⟩) }) := rfl
    rw [bind_of_ok hnested, bind_of_ok (assign_fresh notLoop ref d cells)]
  have hcell : cell ref { m with cells } = .ok (cells.getD ref default, { m with cells }) := rfl
  rw [round, bind_of_ok hcell]
  cases cells.getD ref default with
  | loop l =>
      exact ⟨cells.setIfInBounds ref (.loop { l with index := i }), kept.set new _, hbody _⟩
  | _ => exact ⟨cells, kept, hbody cells⟩

theorem rounds_meets {x : String} (notLoop : x ≠ "loop") {ref : Nat} (new : m.cells.size ≤ ref)
    {write : Value → Noted String} {body : List Stmt} {ds : List Datum} {vs : List Value}
    (hbody : ∀ v ∈ vs, ∀ {cells d}, Kept m.cells cells → Represents cells cells.size d v →
      Writes c.setting.policy m (write v)
        (Context.stmts { c with scope := cells.size, depth := 1 } body
          { m with cells := cells.push (.scope ⟨[("loop", .loop ref), (x, d)], some c.scope⟩) }))
    (all : RepresentAll m.cells m.cells.size ds vs) (i : Nat)
    {cells : Array Cell} (kept : Kept m.cells cells) :
    Meets c.setting.policy m (fun _ parts parts' => parts = parts') (vs.mapM write)
      (rounds c x body ref i ds { m with cells }) := by
  induction all generalizing i cells with
  | nil => exact .pure kept rfl
  | @cons d v ds vs represents all ih =>
      obtain ⟨hv, hvs⟩ := List.forall_mem_cons.1 hbody
      have hrounds : rounds c x body ref i (d :: ds) = (do
          let part ← round c x body ref i d
          let parts ← rounds c x body ref (i + 1) ds
          return part :: parts) := by
        rw [rounds, List.zipIdx_cons, List.mapM_cons]
        rfl
      rw [hrounds, List.mapM_cons]
      refine Meets.bind (β := String) ?_ fun s s' cells' kept' (same : s = s') => ?_
      · obtain ⟨cells', kept', hround⟩ := round_run notLoop new i d body kept
        rw [hround]
        exact hv kept' (represents.mono kept' kept'.size_le)
      · obtain rfl := same
        refine (ih hvs (i + 1) kept').bind fun parts parts' cells'' kept'' same => ?_
        obtain rfl := same
        exact .pure kept'' rfl

theorem loop_writes {x : String} (notLoop : x ≠ "loop") (h : p.WellFormed)
    (sees : Sees m.cells c.scope env) (leads : p.leadsByKeys env = true)
    {write : Value → Noted String} {body : List Stmt}
    (hbody : ∀ v ∈ p.items env, ∀ {cells : Array Cell} {scope : Nat}, Kept m.cells cells →
      Sees cells scope ((x, v) :: env) →
      Writes c.setting.policy { m with cells } (write v)
        (Context.stmts { c with scope, depth := 1 } body { m with cells })) :
    Writes c.setting.policy m
      (do
        let items ← p.use env [] Value.items
        return String.join (← items.mapM write))
      (c.stmt (.loop (.name x) p.expr none false body []) m) := by
  rw [stmt_loop]
  refine (elements_meets sees h leads).with_result.bind fun vs ds cells kept same => ?_
  obtain ⟨hresult, all⟩ := same
  rw [← use_items hresult] at hbody
  cases all with
  | nil => exact .pure (kept.trans (Kept.push _ _)) rfl
  | @cons d v ds vs represents all =>
      have halloc : alloc (.loop ⟨d :: ds, 0, c.depth, none, none⟩) { m with cells } =
          .ok (cells.size, { m with cells := cells.push (.loop ⟨d :: ds, 0, c.depth, none, none⟩) }) :=
        rfl
      rw [List.isEmpty_cons, if_neg Bool.false_ne_true, bind_of_ok halloc]
      refine Meets.bind (β := List String) ?_
        fun parts parts' cells' kept' (same : parts = parts') => ?_
      · refine .later kept (rounds_meets notLoop (Nat.le_refl _) (fun v hv {after d} kept' hd => ?_)
          (.cons represents all) 0 (Kept.push _ _))
        have hpush := kept'.trans (Kept.push after
          (.scope ⟨[("loop", .loop cells.size), (x, d)], some c.scope⟩))
        have hsees := sees.kept (kept.trans hpush)
        refine .later hpush (hbody v hv (kept.trans hpush) (.inner ?_ Array.getElem?_push_size ?_ hsees))
        · exact (sees.kept (kept.trans kept')).scope_lt
        · exact hd.mono (Kept.push _ _) (Kept.push _ _).size_le
      · obtain rfl := same
        exact .pure kept' rfl

theorem stmts_text_cons (before : String) (s : Stmt) (rest : List Stmt) :
    c.stmts (textStmts before ++ s :: rest) = (do
      let part ← c.stmt s
      let others ← c.stmts rest
      return unified before ++ part ++ others) := by
  rw [textStmts]
  split
  · next hempty => simp [String.isEmpty_iff.1 hempty]
  · simp [String.append_assoc]

theorem stmts_text (s : String) : c.stmts (textStmts s) = pure (unified s) := by
  rw [textStmts]
  split
  · next hempty => simp [String.isEmpty_iff.1 hempty]
  · simp

theorem writes_text_cons {policy : MissingKeyPolicy} {part others : Noted String} {s : Stmt}
    {rest : List Stmt} (hpart : Writes policy m part (c.stmt s m))
    (hothers : ∀ cells, Kept m.cells cells → Writes policy { m with cells } others
      (c.stmts rest { m with cells })) (before : String) :
    Writes policy m
      (do
        let part ← part
        return unified before ++ part ++ (← others))
      (c.stmts (textStmts before ++ s :: rest) m) := by
  rw [stmts_text_cons]
  refine hpart.bind fun part part' cells kept same => ?_
  obtain rfl := same
  refine Meets.bind (.later kept (hothers cells kept)) fun others others' cells' kept' same => ?_
  obtain rfl := same
  exact .pure kept' rfl

end

/-- What is written under either policy is what is noted, unless a path is missed and the policy
is strict. -/
theorem tree_writes (t : PathTemplate) {behind : List Char} (h : t.WellFormed behind) {c : Context}
    {m : Machine} {env : Env} (plain : m.escaping = false) (sees : Sees m.cells c.scope env)
    (leads : t.leadsByKeys env = true) :
    Writes c.setting.policy m (t.write env) (c.stmts t.tree m) := by
  induction t generalizing behind c m env with
  | text s =>
      rw [tree, stmts_text]
      exact .pure (Kept.refl _) rfl
  | output before p rest ih =>
      obtain ⟨-, hp, hrest⟩ := h
      obtain ⟨leads, leadsRest⟩ := Bool.and_eq_true_iff.1 leads
      exact writes_text_cons (output_writes sees plain hp leads)
        (fun cells kept => ih hrest plain (sees.kept kept) leadsRest) before
  | cond before p yes no rest ihyes ihno ih =>
      obtain ⟨-, hp, hyes, hno, hrest⟩ := h
      rw [leadsByKeys, Bool.and_eq_true, Bool.and_eq_true] at leads
      obtain ⟨⟨leads, leadsBranch⟩, leadsRest⟩ := leads
      have hcond := cond_writes sees hp leads
        (fun holds cells kept =>
          .later kept (ihyes hyes plain (sees.kept kept) (by rwa [if_pos holds] at leadsBranch)))
        (fun fails cells kept => .later kept
          (ihno hno plain (sees.kept kept) (by rwa [if_neg (by simp [fails])] at leadsBranch)))
      have h := writes_text_cons hcond
        (fun cells kept => ih hrest plain (sees.kept kept) leadsRest) before
      rw [bind_assoc] at h
      exact h
  | loop before x p body rest ihbody ih =>
      obtain ⟨-, hx, hp, hbody, hrest⟩ := h
      rw [leadsByKeys, Bool.and_eq_true, Bool.and_eq_true, List.all_eq_true] at leads
      obtain ⟨⟨leads, leadsBody⟩, leadsRest⟩ := leads
      have hloop := loop_writes hx.notLoop hp sees leads
        fun v hv {cells scope} _ hsees => ihbody (c := { c with scope, depth := 1 })
          (m := { m with cells }) hbody plain hsees (leadsBody v hv)
      have h := writes_text_cons hloop
        (fun cells kept => ih hrest plain (sees.kept kept) leadsRest) before
      simp only [bind_assoc, pure_bind] at h
      exact h

/-! ## Whole templates -/

/-- The variables of a template as the entries of a mapping. -/
def variableEntries (vars : Env) : Entries := vars.map fun (name, v) => (.text name, v)

theorem namedData_represents {vars : Env} (simple : ∀ x ∈ vars, x.2.Simple) (m : Machine) :
    ∃ data cells, namedData (variableEntries vars) m = .ok (data, { m with cells }) ∧
      Kept m.cells cells ∧ RepresentNamed cells cells.size data vars := by
  induction vars generalizing m with
  | nil => exact ⟨[], m.cells, rfl, Kept.refl _, .nil⟩
  | cons x vars ih =>
      obtain ⟨name, v⟩ := x
      obtain ⟨hv, hvars⟩ := List.forall_mem_cons.1 simple
      obtain ⟨d, cells, hd, kept, represents⟩ := ofValue_represents hv m
      obtain ⟨data, cells', hdata, kept', all⟩ := ih hvars { m with cells }
      refine ⟨(name, d) :: data, cells', ?_, kept.trans kept',
        .cons ⟨rfl, represents.mono kept' kept'.size_le⟩ all⟩
      have hcons : namedData (variableEntries ((name, v) :: vars)) = (do
          let d ← Datum.ofValue v
          let data ← namedData (variableEntries vars)
          return (name, d) :: data) := by
        rw [namedData, variableEntries, List.map_cons, List.mapM_cons]
        simp only [bind_assoc, pure_bind]
        rfl
      rw [hcons, bind_of_ok hd, bind_of_ok hdata]
      rfl

/-- The cells of a run when it has taken in its variables. -/
theorem sees_top {cells : Array Cell} {data : List (String × Datum)} {vars : Env}
    (kept : Kept (startCells []) cells) (all : RepresentNamed cells cells.size data vars) :
    Sees (cells.setIfInBounds 1 (.scope ⟨data, some 0⟩)) topScope vars := by
  have hfirst : cells[1]? = some (.scope ⟨[], some 0⟩) := kept _ _ rfl
  have hsize : 1 < cells.size := (Array.getElem?_eq_some_iff.1 hfirst).1
  have hother {i : Nat} {cell : Cell} (found : cells[i]? = some cell)
      (hne : cell ≠ .scope ⟨[], some 0⟩) :
      (cells.setIfInBounds 1 (.scope ⟨data, some 0⟩))[i]? = some cell := by
    have hi : 1 ≠ i := by
      rintro rfl
      cases hfirst.symm.trans found
      exact hne rfl
    rwa [Array.getElem?_setIfInBounds_ne hi]
  refine .top (hother (kept _ _ rfl) nofun) ?_ (hother (kept _ _ rfl) nofun)
    (all.imp fun _ _ h => ⟨h.1, h.2.transfer (fun i ds found => hother found nofun)
      (fun i ds found => hother found nofun) ?_⟩)
  · rw [Array.getElem?_setIfInBounds_self_of_lt hsize]
  · exact Nat.le_of_eq Array.size_setIfInBounds.symm

theorem run_writes (s : Surroundings) {t : PathTemplate} {behind : List Char}
    (h : t.WellFormed behind) {vars : Env} (simple : ∀ x ∈ vars, x.2.Simple)
    (leads : t.leadsByKeys vars = true) :
    ∃ m r, Writes s.policy m (t.write vars) r ∧
      run s [] (variableEntries vars) t.tree = r.map (·.1) := by
  obtain ⟨data, cells, hdata, kept, all⟩ :=
    namedData_represents simple ⟨startCells [], s.entropy, false⟩
  refine ⟨_, _, tree_writes t h (c := ⟨⟨s.policy, s.environment, []⟩, topScope, .null, 1,
    call ⟨s.policy, s.environment, []⟩ callDepth⟩) (m := ⟨_, s.entropy, false⟩) rfl
    (sees_top kept all) leads, ?_⟩
  rw [run]
  exact congrArg (Except.map (·.1)) (bind_of_ok hdata _)

/-! ## Failures of what is noted -/

/-- What is noted fails for no missing value. -/
def Noted.IsDefined {α : Type} (x : Noted α) : Prop :=
  ∀ e, x.result = .error e → e.kind ≠ .undefinedName

namespace Noted.IsDefined

variable {α β : Type}

theorem pure (a : α) : (Pure.pure a : Noted α).IsDefined := nofun

theorem bind {x : Noted α} {f : α → Noted β} (hx : x.IsDefined) (hf : ∀ a, (f a).IsDefined) :
    (x >>= f).IsDefined := by
  intro e he
  obtain ⟨result, missed⟩ := x
  cases result with
  | ok a => exact hf a e he
  | error e' =>
      cases he
      exact hx e rfl

theorem mapM {f : α → Noted β} (hf : ∀ a, (f a).IsDefined) (xs : List α) :
    (xs.mapM f).IsDefined := by
  induction xs with
  | nil => exact pure []
  | cons x xs ih =>
      rw [List.mapM_cons]
      exact (hf x).bind fun b => ih.bind fun bs => pure (b :: bs)

theorem use {f : Value → Except TemplateError α}
    (hf : ∀ v e, f v = .error e → e.kind ≠ .undefinedName) (p : Path) (env : Env) (empty : α) :
    (p.use env empty f).IsDefined := by
  rw [Path.use]
  cases p.value? env with
  | none => nofun
  | some v => exact hf v

end Noted.IsDefined

theorem truthy_defined (v : Value) (e : TemplateError)
    (h : (.ok v.truthy : Except TemplateError Bool) = .error e) : e.kind ≠ .undefinedName := by
  cases h

theorem written_defined (v : Value) (e : TemplateError) (h : v.written = .error e) :
    e.kind ≠ .undefinedName := by
  unfold Value.written at h
  split at h
  · cases h
  · split at h
    · cases h
      decide
    · cases h

theorem items_defined (v : Value) (e : TemplateError) (h : v.items = .error e) :
    e.kind ≠ .undefinedName := by
  rw [Value.items] at h
  split at h
  · cases h
  · cases h
    exact nofun

theorem write_defined (t : PathTemplate) (env : Env) : (t.write env).IsDefined := by
  induction t generalizing env with
  | text s => exact .pure _
  | output before p rest ih =>
      exact (Noted.IsDefined.use written_defined p env "").bind fun s =>
        (ih env).bind fun others => .pure _
  | cond before p yes no rest ihyes ihno ih =>
      refine (Noted.IsDefined.use truthy_defined p env false).bind fun holds => ?_
      refine Noted.IsDefined.bind ?_ fun s => (ih env).bind fun others => .pure _
      cases holds with
      | true => exact ihyes env
      | false => exact ihno env
  | loop before x p body rest ihbody ih =>
      exact (Noted.IsDefined.use items_defined p env []).bind fun items =>
        (Noted.IsDefined.mapM (fun v => ihbody ((x, v) :: env)) items).bind fun parts =>
          (ih env).bind fun others => .pure _

/-! ## Both policies -/

section

variable {m : Machine} {x : Noted String} {r : Except TemplateError (String × Machine)}

theorem Meets.text_zero (h : Writes .zero m x r) : r.map (·.1) = x.result := by
  cases h with
  | done _ _ same => exact congrArg Except.ok same.symm
  | failed => rfl
  | stopped strict => cases strict

theorem Meets.text_error (h : Writes .error m x r) (found : x.missed = false) :
    r.map (·.1) = x.result := by
  cases h with
  | done _ _ same => exact congrArg Except.ok same.symm
  | failed => rfl
  | stopped => cases found

theorem Meets.text_missed (h : Writes .error m x r) (missed : x.missed = true) :
    ∃ message, r.map (·.1) = .error (.undefined message) := by
  cases h with
  | done quiet => cases (quiet rfl).symm.trans missed
  | failed quiet => cases (quiet rfl).symm.trans missed
  | stopped _ message => exact ⟨message, rfl⟩

end

/-- The text of a template of paths with functions of paths in front of it. -/
def renderPaths (s : Surroundings) (template : PathTemplate) (functions : List PathTemplate)
    (vars : Env) : Except TemplateError String :=
  render s (.text template.source) (.map (variableEntries vars))
    (.list (functions.map fun f => .text f.source))

theorem joinSources_paths (functions : List PathTemplate) (template : PathTemplate) :
    joinSources (functions.map fun f => .text f.source) (.text template.source) =
      .ok (joined functions template).source := by
  rw [source_joined, joinSources, List.mapM_map,
    mapM_eq_map (g := fun f : PathTemplate => f.source ++ "\n")]
  · rfl
  · exact fun f _ => rfl

theorem render_list (s : Surroundings) (template vars : Value) (functions : List Value) :
    render s template vars (.list functions) = (do
      let source ← joinSources functions template
      let template ← parse source.toList
      let blocks ← check template
      let entries ← vars.entriesOrEmpty.mapError .pairs
      run s blocks entries template) := by
  cases functions <;> rfl

theorem renderPaths_eq_run (s : Surroundings) {template : PathTemplate}
    {functions : List PathTemplate} (htemplate : template.WellFormed [])
    (hfunctions : ∀ f ∈ functions, f.WellFormed []) (vars : Env) :
    renderPaths s template functions vars =
      run s [] (variableEntries vars) (joined functions template).tree := by
  have hjoined := wellFormed_joined hfunctions htemplate
  have hentries : (Value.map (variableEntries vars)).entriesOrEmpty = .ok (variableEntries vars) := by
    cases vars <;> rfl
  rw [renderPaths, render_list, joinSources_paths, hentries]
  simp only [bind, Except.bind, parse_source _ hjoined, check_tree _ hjoined, Except.mapError]

section

variable {s : Surroundings} {template : PathTemplate} {functions : List PathTemplate} {vars : Env}

theorem renderPaths_writes (htemplate : template.WellFormed [])
    (hfunctions : ∀ f ∈ functions, f.WellFormed []) (simple : ∀ x ∈ vars, x.2.Simple)
    (leads : (joined functions template).leadsByKeys vars = true) :
    ∃ m r, Writes s.policy m ((joined functions template).write vars) r ∧
      renderPaths s template functions vars = r.map (·.1) := by
  obtain ⟨m, r, hwrites, hrun⟩ :=
    run_writes s (wellFormed_joined hfunctions htemplate) simple leads
  exact ⟨m, r, hwrites, (renderPaths_eq_run s htemplate hfunctions vars).trans hrun⟩

/-- Under the lenient policy the text is what the template writes, of which neither the environment
nor chance is a part. -/
theorem renderPaths_lenient (lenient : s.policy = .zero) (htemplate : template.WellFormed [])
    (hfunctions : ∀ f ∈ functions, f.WellFormed []) (simple : ∀ x ∈ vars, x.2.Simple)
    (leads : (joined functions template).leadsByKeys vars = true) :
    renderPaths s template functions vars = ((joined functions template).write vars).result := by
  obtain ⟨m, r, hwrites, hrendered⟩ :=
    renderPaths_writes (s := s) htemplate hfunctions simple leads
  rw [lenient] at hwrites
  exact hrendered.trans hwrites.text_zero

end

/-- Under the lenient policy, everything that leads nowhere is empty, and that is no failure. Under
the strict one it is the failure, and there is no other difference. -/
theorem renderPaths_missingKeys (environment : List (String × String)) (entropy : Entropy)
    (template : PathTemplate) (functions : List PathTemplate) (vars : Env)
    (htemplate : template.WellFormed []) (hfunctions : ∀ f ∈ functions, f.WellFormed [])
    (simple : ∀ x ∈ vars, x.2.Simple)
    (leads : (joined functions template).leadsByKeys vars = true) :
    let noted := (joined functions template).write vars
    let rendered := fun policy => renderPaths ⟨policy, environment, entropy⟩ template functions vars
    rendered .zero = noted.result ∧ (∀ e, rendered .zero = .error e → e.kind ≠ .undefinedName) ∧
      (noted.missed = false → rendered .error = rendered .zero) ∧
      (noted.missed = true → ∃ message, rendered .error = .error (.undefined message)) := by
  intro noted rendered
  have hresult : rendered .zero = noted.result :=
    renderPaths_lenient rfl htemplate hfunctions simple leads
  obtain ⟨_, _, hwrites, herror⟩ := renderPaths_writes (s := ⟨.error, environment, entropy⟩)
    htemplate hfunctions simple leads
  refine ⟨hresult, fun e he => write_defined _ _ e (hresult.symm.trans he), fun found => ?_,
    fun missed => ?_⟩
  · exact (herror.trans (hwrites.text_error found)).trans hresult.symm
  · obtain ⟨message, hmissed⟩ := hwrites.text_missed missed
    exact ⟨message, herror.trans hmissed⟩

theorem renderPaths_missingKeys_tags :
    let template : PathTemplate := .loop "" "x" ⟨"images", []⟩
      (.output "- " ⟨"x", []⟩ (.cond ":" ⟨"x", ["tag"]⟩ (.output "" ⟨"x", ["tag"]⟩ (.text "\n"))
        (.text "latest\n") (.text ""))) (.text "")
    let functions : List PathTemplate := [.output "# " ⟨"app", []⟩ (.text "")]
    let vars : Env := [("app", .text "web"), ("images", .list [.text "a", .text "b"])]
    template.source = "\x7b% for x in images %\x7d- \x7b\x7b x \x7d\x7d:\x7b% if x.tag %\x7d" ++
        "\x7b\x7b x.tag \x7d\x7d\n\x7b% else %\x7dlatest\n\x7b% endif %\x7d\x7b% endfor %\x7d" ∧
      renderPaths ⟨.zero, [], ⟨0⟩⟩ template functions vars = .ok "# web\n- a:latest\n- b:latest\n" ∧
      ∃ message, renderPaths ⟨.error, [], ⟨0⟩⟩ template functions vars =
        .error (.undefined message) := by
  intro template functions vars
  have htemplate : template.WellFormed [] := by decide
  have hfunctions : ∀ f ∈ functions, f.WellFormed [] := by decide
  have simple : ∀ x ∈ vars, x.2.Simple := by
    simp only [vars, List.forall_mem_cons]
    exact ⟨.text _, .list (by simp [Value.Simple.text]), nofun⟩
  have leads : (joined functions template).leadsByKeys vars = true := by rfl
  have noted : (joined functions template).write vars =
      ⟨.ok "# web\n- a:latest\n- b:latest\n", true⟩ := by rfl
  obtain ⟨hzero, -, -, herror⟩ :=
    renderPaths_missingKeys [] ⟨0⟩ template functions vars htemplate hfunctions simple leads
  rw [noted] at hzero herror
  exact ⟨by rfl, hzero, herror rfl⟩

end ImagePreload.Template
