import ImagePreload.Proofs.Entries
import ImagePreload.Template.Render
import ImagePreload.Value.Lookup

/-!
# Templates of paths

The simplest templates write values, look at values and go through values, and name a
value by nothing but a dotted path of keys. What such a template writes is said here
without any of the machinery that templates have otherwise: no cells, no scopes and no
policy (`PathTemplate.write`). A path that leads nowhere counts as empty, and it is
noted that there was one, unless the writing had failed before.

A tag comes together with the text in front of it, so a template of this kind is written
in one way only, and two of them put behind each other are one again.
-/

namespace ImagePreload

/-! ## Values -/

namespace Value

/-- A value made of texts, numbers, truth values, nulls, lists and mappings. -/
inductive Simple : Value → Prop
  | null : Simple .null
  | bool (b : Bool) : Simple (.bool b)
  | int (n : Int) : Simple (.int n)
  | float (x : Float) : Simple (.float x)
  | text (s : String) : Simple (.text s)
  | list {items : List Value} (each : ∀ v ∈ items, Simple v) : Simple (.list items)
  | map {entries : Entries} (keys : ∀ e ∈ entries, Simple e.1) (values : ∀ e ∈ entries, Simple e.2) :
      Simple (.map entries)

/-- The quoted text of a value with dots for what lies too deep in it. -/
def quotedTo : Nat → Value → String
  | 0, _ => "..."
  | depth + 1, .list items => bracketed "[" "]" (items.map (quotedTo depth))
  | depth + 1, .map entries =>
    bracketed "\x7b" "\x7d" (entries.map fun (k, v) => quotedTo depth k ++ ": " ++ quotedTo depth v)
  | _ + 1, v => v.quoted

/-- Whether an integer of too many digits is in a value, and not too deep in it. -/
def isTooLongTo : Nat → Value → Bool
  | 0, _ => false
  | depth + 1, .list items => items.any (isTooLongTo depth)
  | depth + 1, .map entries =>
    entries.any fun (k, v) => isTooLongTo depth k || isTooLongTo depth v
  | _ + 1, v => v.isTooLong

/-- What is written for a value. -/
def written : Value → Except Template.TemplateError String
  | .text s => .ok s
  | v =>
    if v.isTooLongTo Template.displayDepth then .error .longText
    else .ok (v.quotedTo Template.displayDepth)

/-- The items to go through. -/
def items (v : Value) : Except Template.TemplateError (List Value) :=
  match v.elements? with
  | some vs => .ok vs
  | none => .error (.notIterable v.typeName)

/-- The names that a simple value has by its nature, apart from those between double low lines. -/
def nativeNames : Value → List String
  | .text _ => "maketrans" :: Template.TextMethod.all.map (·.1)
  | .list _ => Template.ListMethod.all.map (·.1)
  | .map _ => Template.MapMethod.all.map (·.1)
  | .bool _ | .int _ =>
    ["from_bytes", "real", "imag", "numerator", "denominator"] ++ Template.NumberMethod.ofInt.map (·.1)
  | .float _ => ["fromhex", "hex", "real", "imag"] ++ Template.NumberMethod.ofFloat.map (·.1)
  | _ => []

/-- Whether no key of a path is a name that the value has by its nature in which it is looked for. -/
def leadsByKeys (v : Value) : List String → Bool
  | [] => true
  | key :: keys => !v.nativeNames.contains key && (v.field? key).all (·.leadsByKeys keys)

end Value

namespace Template

/-! ## Runs in sequence -/

section

variable {σ α β : Type} {x : StateT σ (Except TemplateError) α} {state : σ}

theorem bind_of_ok {a : α} {next : σ} (h : x state = .ok (a, next))
    (f : α → StateT σ (Except TemplateError) β) : (x >>= f) state = f a next := by
  simp only [bind, StateT.bind, h, Except.bind]

theorem bind_of_error {e : TemplateError} (h : x state = .error e)
    (f : α → StateT σ (Except TemplateError) β) : (x >>= f) state = .error e := by
  simp only [bind, StateT.bind, h, Except.bind]

end

/-! ## Results with a note -/

/-- What comes of something, and whether a path that leads nowhere was met on the way. -/
structure Noted (α : Type) where
  result : Except TemplateError α
  missed : Bool

namespace Noted

variable {α β : Type}

instance : Monad Noted where
  pure a := ⟨.ok a, false⟩
  bind x f :=
    match x.result with
    | .ok a => ⟨(f a).result, x.missed || (f a).missed⟩
    | .error e => ⟨.error e, x.missed⟩

instance : LawfulMonad Noted := .mk' Noted
  (fun x => by
    obtain ⟨result, missed⟩ := x
    cases result with
    | ok a => exact congrArg (Noted.mk (.ok a)) (Bool.or_false missed)
    | error e => rfl)
  (fun a f => congrArg (Noted.mk (f a).result) (Bool.false_or (f a).missed))
  (fun x f g => by
    obtain ⟨result, missed⟩ := x
    cases result with
    | ok a =>
        simp only [bind]
        cases (f a).result with
        | ok b => simp only [Bool.or_assoc]
        | error e => rfl
    | error e => rfl)

end Noted

/-! ## Names -/

/-- Whether a character may stand at any place in a name and nothing else begins with it. -/
def beginsName (c : Char) : Bool :=
  Text.isIdentifierPart c && !Text.isBlank c && (Text.digitValue? c).isNone

/-- A name as tags read it. The first character of an identifier may also stand inside of one, and
it is neither a blank nor a digit. -/
structure IsName (s : String) : Prop where
  identifier : Text.isIdentifier s.toList = true
  first : s.toList.head?.all beginsName = true

instance (s : String) : Decidable (IsName s) :=
  decidable_of_iff (Text.isIdentifier s.toList = true ∧ s.toList.head?.all beginsName = true)
    ⟨fun h => ⟨h.1, h.2⟩, fun h => ⟨h.1, h.2⟩⟩

/-- The words of the tags and of the expressions in them. -/
def keywords : List String :=
  ["and", "elif", "else", "endfor", "endif", "for", "if", "in", "is", "not", "or", "recursive"]

/-- The names of the functions that are always there, of the template and of its loops. -/
def takenNames : List String := "self" :: "loop" :: Builtin.all.map (·.name)

/-- Whether a name stands between double low lines. -/
def isReserved (name : String) : Bool :=
  "__".toList.isPrefixOf name.toList && "__".toList.isSuffixOf name.toList

/-- Names that missing values have by their nature. -/
def missingNames : List String :=
  ["_undefined_hint", "_undefined_obj", "_undefined_name", "_undefined_exception",
    "_undefined_message", "_fail_with_undefined_error"]

/-- A key that is no name which all values or the missing ones have. -/
structure IsKey (name : String) : Prop where
  notReserved : isReserved name = false
  notMissing : name ∉ missingNames

instance (name : String) : Decidable (IsKey name) :=
  decidable_of_iff (isReserved name = false ∧ name ∉ missingNames)
    ⟨fun h => ⟨h.1, h.2⟩, fun h => ⟨h.1, h.2⟩⟩

/-- A name that a loop may bind. -/
structure IsVariable (x : String) : Prop where
  name : IsName x
  notLiteral : x ∉ Parser.literalNames
  notKeyword : x ∉ keywords
  notLoop : x ≠ "loop"

instance (x : String) : Decidable (IsVariable x) :=
  decidable_of_iff (IsName x ∧ x ∉ Parser.literalNames ∧ x ∉ keywords ∧ x ≠ "loop")
    ⟨fun h => ⟨h.1, h.2.1, h.2.2.1, h.2.2.2⟩, fun h => ⟨h.name, h.notLiteral, h.notKeyword, h.notLoop⟩⟩

/-! ## Paths -/

/-- The values that names stand for, inner ones first. -/
abbrev Env := List (String × Value)

/-- A name and keys that lead on from what it stands for. -/
structure Path where
  root : String
  steps : List String

namespace Path

structure WellFormed (p : Path) : Prop where
  name : IsName p.root
  notLiteral : p.root ∉ Parser.literalNames
  notKeyword : p.root ∉ keywords
  notTaken : p.root ∉ takenNames
  names : ∀ step ∈ p.steps, IsName step
  keys : ∀ step ∈ p.steps, IsKey step

instance (p : Path) : Decidable p.WellFormed :=
  decidable_of_iff (IsName p.root ∧ p.root ∉ Parser.literalNames ∧ p.root ∉ keywords ∧
      p.root ∉ takenNames ∧ (∀ step ∈ p.steps, IsName step) ∧ ∀ step ∈ p.steps, IsKey step)
    ⟨fun ⟨name, literal, keyword, taken, names, keys⟩ =>
        ⟨name, literal, keyword, taken, names, keys⟩,
      fun ⟨name, literal, keyword, taken, names, keys⟩ =>
        ⟨name, literal, keyword, taken, names, keys⟩⟩

/-- The value that a path leads to. -/
def value? (p : Path) (env : Env) : Option Value := (env.lookup p.root).bind (·.at? p.steps)

/-- Whether the value of a path counts as true; a missing one does not. -/
def holds (p : Path) (env : Env) : Bool := (p.value? env).any (·.truthy)

/-- The items of the value of a path; a missing one has none. -/
def items (p : Path) (env : Env) : List Value := ((p.value? env).bind (·.elements?)).getD []

/-- Whether a path leads by keys and nowhere by a name that a value has by its nature. -/
def leadsByKeys (p : Path) (env : Env) : Bool := (env.lookup p.root).all (·.leadsByKeys p.steps)

def expr (p : Path) : Expr := p.steps.foldl .attribute (.name p.root)

def source (p : Path) : String := p.root ++ String.join (p.steps.map ("." ++ ·))

/-- What a use makes of the value of a path; without a value it is the empty one. -/
def use {α : Type} (p : Path) (env : Env) (empty : α) (f : Value → Except TemplateError α) :
    Noted α :=
  match p.value? env with
  | some v => ⟨f v, false⟩
  | none => ⟨.ok empty, true⟩

end Path

/-! ## Templates -/

/-- A text with tags in it, each with the text in front of it. -/
inductive PathTemplate where
  | text (s : String)
  | output (before : String) (p : Path) (rest : PathTemplate)
  | cond (before : String) (p : Path) (yes no rest : PathTemplate)
  | loop (before x : String) (p : Path) (body rest : PathTemplate)

/-- Whether no tag begins in a text. -/
def isTagless : List Char → Bool
  | '\x7b' :: c :: cs => !(c == '\x7b' || c == '%' || c == '#') && isTagless (c :: cs)
  | _ :: cs => isTagless cs
  | [] => true

namespace PathTemplate

/-- The texts stay texts, also together with a brace where a tag is behind them or with what is
behind the template. -/
def WellFormed : PathTemplate → List Char → Prop
  | .text s, behind => isTagless (s.toList ++ behind) = true
  | .output before p rest, behind =>
    isTagless (before.toList ++ ['\x7b']) = true ∧ p.WellFormed ∧ rest.WellFormed behind
  | .cond before p yes no rest, behind =>
    isTagless (before.toList ++ ['\x7b']) = true ∧ p.WellFormed ∧ yes.WellFormed ['\x7b'] ∧
      no.WellFormed ['\x7b'] ∧ rest.WellFormed behind
  | .loop before x p body rest, behind =>
    isTagless (before.toList ++ ['\x7b']) = true ∧ IsVariable x ∧ p.WellFormed ∧
      body.WellFormed ['\x7b'] ∧ rest.WellFormed behind

instance WellFormed.decidable : (t : PathTemplate) → (behind : List Char) →
    Decidable (t.WellFormed behind)
  | .text s, behind => inferInstanceAs (Decidable (isTagless (s.toList ++ behind) = true))
  | .output before p rest, behind =>
    have := decidable rest behind
    inferInstanceAs (Decidable (isTagless (before.toList ++ ['\x7b']) = true ∧ p.WellFormed ∧
      rest.WellFormed behind))
  | .cond before p yes no rest, behind =>
    have := decidable yes ['\x7b']
    have := decidable no ['\x7b']
    have := decidable rest behind
    inferInstanceAs (Decidable (isTagless (before.toList ++ ['\x7b']) = true ∧ p.WellFormed ∧
      yes.WellFormed ['\x7b'] ∧ no.WellFormed ['\x7b'] ∧ rest.WellFormed behind))
  | .loop before x p body rest, behind =>
    have := decidable body ['\x7b']
    have := decidable rest behind
    inferInstanceAs (Decidable (isTagless (before.toList ++ ['\x7b']) = true ∧ IsVariable x ∧
      p.WellFormed ∧ body.WellFormed ['\x7b'] ∧ rest.WellFormed behind))

def source : PathTemplate → String
  | .text s => s
  | .output before p rest => before ++ "\x7b\x7b " ++ p.source ++ " \x7d\x7d" ++ rest.source
  | .cond before p yes no rest =>
    before ++ "\x7b% if " ++ p.source ++ " %\x7d" ++ yes.source ++ "\x7b% else %\x7d" ++ no.source
      ++ "\x7b% endif %\x7d" ++ rest.source
  | .loop before x p body rest =>
    before ++ "\x7b% for " ++ x ++ " in " ++ p.source ++ " %\x7d" ++ body.source
      ++ "\x7b% endfor %\x7d" ++ rest.source

/-- A text as templates write it, with line feeds for all line ends. -/
def unified (s : String) : String := .ofList (Text.unifyLineEnds s.toList)

/-- The statements of a text; there are none if it is empty. -/
def textStmts (s : String) : List Stmt := if (unified s).isEmpty then [] else [.text (unified s)]

def tree : PathTemplate → List Stmt
  | .text s => textStmts s
  | .output before p rest => textStmts before ++ .output p.expr :: rest.tree
  | .cond before p yes no rest =>
    textStmts before ++ .cond [(p.expr, yes.tree)] no.tree :: rest.tree
  | .loop before x p body rest =>
    textStmts before ++ .loop (.name x) p.expr none false body.tree [] :: rest.tree

/-- What a template writes. -/
def write : PathTemplate → Env → Noted String
  | .text s, _ => pure (unified s)
  | .output before p rest, env => do
    let s ← p.use env "" Value.written
    return unified before ++ s ++ (← rest.write env)
  | .cond before p yes no rest, env => do
    let holds ← p.use env false fun v => .ok v.truthy
    let s ← (if holds then yes.write env else no.write env)
    return unified before ++ s ++ (← rest.write env)
  | .loop before x p body rest, env => do
    let items ← p.use env [] Value.items
    let parts ← items.mapM fun v => body.write ((x, v) :: env)
    return unified before ++ String.join parts ++ (← rest.write env)

/-- Whether all paths that are looked at in writing lead by keys. -/
def leadsByKeys : PathTemplate → Env → Bool
  | .text _, _ => true
  | .output _ p rest, env => p.leadsByKeys env && rest.leadsByKeys env
  | .cond _ p yes no rest, env =>
    p.leadsByKeys env && (if p.holds env then yes.leadsByKeys env else no.leadsByKeys env) &&
      rest.leadsByKeys env
  | .loop _ x p body rest, env =>
    p.leadsByKeys env && (p.items env).all (fun v => body.leadsByKeys ((x, v) :: env)) &&
      rest.leadsByKeys env

/-- A template with more text in front of it. -/
def behind (s : String) : PathTemplate → PathTemplate
  | .text t => .text (s ++ t)
  | .output before p rest => .output (s ++ before) p rest
  | .cond before p yes no rest => .cond (s ++ before) p yes no rest
  | .loop before x p body rest => .loop (s ++ before) x p body rest

/-- Two templates behind each other. -/
def append : PathTemplate → PathTemplate → PathTemplate
  | .text s, t => t.behind s
  | .output before p rest, t => .output before p (rest.append t)
  | .cond before p yes no rest, t => .cond before p yes no (rest.append t)
  | .loop before x p body rest, t => .loop before x p body (rest.append t)

/-- A template with functions in front of it, each followed by a line feed. -/
def joined (functions : List PathTemplate) (template : PathTemplate) : PathTemplate :=
  functions.foldr (fun f t => f.append (t.behind "\n")) template

end PathTemplate

/-! ## Templates behind each other -/

theorem isTagless_of_cons {c : Char} {cs : List Char} (h : isTagless (c :: cs) = true) :
    isTagless cs = true := by
  unfold isTagless at h
  split at h
  · next heq =>
      cases heq
      exact (Bool.and_eq_true_iff.1 h).2
  · next heq =>
      cases heq
      exact h
  · next heq => cases heq

theorem isTagless_cons_of_ne {c : Char} (h : c ≠ '\x7b') (cs : List Char) :
    isTagless (c :: cs) = isTagless cs := by
  rw [isTagless]
  rintro d ds rfl
  exact (h rfl).elim

theorem isTagless_brace_cons {c : Char} {cs : List Char} :
    isTagless ('\x7b' :: c :: cs) = true ↔
      (c ≠ '\x7b' ∧ c ≠ '%' ∧ c ≠ '#') ∧ isTagless (c :: cs) = true := by
  rw [isTagless]
  simp [and_assoc]

theorem isTagless_lineFeed {text : List Char} (tagless : isTagless text = true) {cs : List Char}
    (h : isTagless cs = true) : isTagless (text ++ '\n' :: cs) = true := by
  induction text with
  | nil => exact h
  | cons c text ih =>
      have hrest := ih (isTagless_of_cons tagless)
      by_cases hc : c = '\x7b'
      · subst hc
        cases text with
        | nil => exact isTagless_brace_cons.2 ⟨by decide, hrest⟩
        | cons d text => exact isTagless_brace_cons.2 ⟨(isTagless_brace_cons.1 tagless).1, hrest⟩
      · rw [List.cons_append, isTagless_cons_of_ne hc]
        exact hrest

namespace PathTemplate

theorem source_behind (s : String) (t : PathTemplate) : (t.behind s).source = s ++ t.source := by
  cases t <;> simp only [behind, source, String.append_assoc]

theorem source_append (t u : PathTemplate) : (t.append u).source = t.source ++ u.source := by
  induction t with
  | text s => exact source_behind s u
  | output before p rest ih => simp only [append, source, ih, String.append_assoc]
  | cond before p yes no rest _ _ ih => simp only [append, source, ih, String.append_assoc]
  | loop before x p body rest _ ih => simp only [append, source, ih, String.append_assoc]

theorem source_joined (functions : List PathTemplate) (template : PathTemplate) :
    (joined functions template).source =
      String.join (functions.map fun f => f.source ++ "\n") ++ template.source := by
  induction functions with
  | nil => exact (String.empty_append).symm
  | cons f functions ih =>
      have hjoined : joined (f :: functions) template =
          f.append ((joined functions template).behind "\n") := rfl
      rw [hjoined, source_append, source_behind, ih, List.map_cons, String.join_cons]
      simp only [String.append_assoc]

theorem wellFormed_append {t u : PathTemplate} (ht : t.WellFormed []) {behind : List Char}
    (hu : u.WellFormed behind) : (t.append (u.behind "\n")).WellFormed behind := by
  induction t with
  | text s =>
      have htext (before : String) {cs : List Char} (h : isTagless (before.toList ++ cs) = true) :
          isTagless ((s ++ ("\n" ++ before)).toList ++ cs) = true := by
        rw [WellFormed, List.append_nil] at ht
        simp only [String.toList_append, List.append_assoc]
        exact isTagless_lineFeed ht h
      cases u with
      | text s' => exact htext s' hu
      | output before p rest => exact ⟨htext before hu.1, hu.2⟩
      | cond before p yes no rest => exact ⟨htext before hu.1, hu.2⟩
      | loop before x p body rest => exact ⟨htext before hu.1, hu.2⟩
  | output before p rest ih => exact ⟨ht.1, ht.2.1, ih ht.2.2⟩
  | cond before p yes no rest _ _ ih =>
      obtain ⟨hbefore, hp, hyes, hno, hrest⟩ := ht
      exact ⟨hbefore, hp, hyes, hno, ih hrest⟩
  | loop before x p body rest _ ih =>
      obtain ⟨hbefore, hx, hp, hbody, hrest⟩ := ht
      exact ⟨hbefore, hx, hp, hbody, ih hrest⟩

theorem wellFormed_joined {functions : List PathTemplate} {template : PathTemplate}
    (hfunctions : ∀ f ∈ functions, f.WellFormed []) (htemplate : template.WellFormed []) :
    (joined functions template).WellFormed [] := by
  induction functions with
  | nil => exact htemplate
  | cons f functions ih =>
      obtain ⟨hf, hfunctions⟩ := List.forall_mem_cons.1 hfunctions
      exact wellFormed_append hf (ih hfunctions)

end PathTemplate

end Template

end ImagePreload
