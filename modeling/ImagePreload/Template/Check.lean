import ImagePreload.Template.Filter
import ImagePreload.Template.Mention

/-!
# Templates that are rejected

Some templates are rejected before they run, although they follow the grammar: those that name an
unknown filter or test where it would be used for certain, bind the name of the running loop, define
a block twice, or ask for a caller without a default.
-/

namespace ImagePreload.Template

mutual

/-- Whether all filters and tests that are certain to be used are known. What stands inside a
condition is not. -/
def Expr.isKnown (tentative : Bool) : Expr → Bool
  | .literal _ | .name _ | .body => true
  | .list items | .tuple items | .concat items => areKnown tentative items
  | .dict entries => arePairsKnown tentative entries
  | .unary _ e | .attribute e _ => e.isKnown tentative
  | .binary _ a b | .and a b | .or a b | .item a b => a.isKnown tentative && b.isKnown tentative
  | .compare first rest => first.isKnown tentative && areOperandsKnown tentative rest
  | .conditional test result otherwise =>
    test.isKnown true && result.isKnown true && isOptionKnown true otherwise
  | .slice start stop step =>
    isOptionKnown tentative start && isOptionKnown tentative stop && isOptionKnown tentative step
  | .call e positional named more moreNamed =>
    e.isKnown tentative && areKnown tentative positional && areNamedKnown tentative named
      && isOptionKnown tentative more && isOptionKnown tentative moreNamed
  | .filter name e positional named more moreNamed =>
    (tentative || Filter.names.contains name)
      && e.isKnown tentative && areKnown tentative positional && areNamedKnown tentative named
      && isOptionKnown tentative more && isOptionKnown tentative moreNamed
  | .test name e positional named more moreNamed =>
    (tentative || Test.names.contains name)
      && e.isKnown tentative && areKnown tentative positional && areNamedKnown tentative named
      && isOptionKnown tentative more && isOptionKnown tentative moreNamed

def areKnown (tentative : Bool) : List Expr → Bool
  | [] => true
  | e :: es => e.isKnown tentative && areKnown tentative es

def isOptionKnown (tentative : Bool) : Option Expr → Bool
  | none => true
  | some e => e.isKnown tentative

def arePairsKnown (tentative : Bool) : List (Expr × Expr) → Bool
  | [] => true
  | (k, v) :: rest => k.isKnown tentative && v.isKnown tentative && arePairsKnown tentative rest

def areNamedKnown (tentative : Bool) : List (String × Expr) → Bool
  | [] => true
  | (_, e) :: rest => e.isKnown tentative && areNamedKnown tentative rest

def areOperandsKnown (tentative : Bool) : List (CompareOp × Expr) → Bool
  | [] => true
  | (_, e) :: rest => e.isKnown tentative && areOperandsKnown tentative rest

end

mutual

def Target.binds (name : String) : Target → Bool
  | .name s => s == name
  | .tuple parts => anyBinds name parts
  | .field .. => false

def anyBinds (name : String) : List Target → Bool
  | [] => false
  | t :: ts => t.binds name || anyBinds name ts

end

mutual

/-- Whether a statement assigns to a name, parameters not counted. -/
def Stmt.stores (name : String) : Stmt → Bool
  | .text _ | .output _ | .reference .. => false
  | .cond branches otherwise => storedInBranches name branches || storedIn name otherwise
  | .loop target _ _ _ body otherwise =>
    target.binds name || storedIn name body || storedIn name otherwise
  | .assign target _ => target.binds name
  | .capture target _ body => target.binds name || storedIn name body
  | .definition _ _ body | .callBlock _ _ body | .filterBlock _ body | .bind _ body
  | .block _ _ _ body | .escaping _ body => storedIn name body

def storedIn (name : String) : List Stmt → Bool
  | [] => false
  | s :: rest => s.stores name || storedIn name rest

def storedInBranches (name : String) : List (Expr × List Stmt) → Bool
  | [] => false
  | (_, body) :: rest => storedIn name body || storedInBranches name rest

end

/-- Whether the parameters may be used with a body: one called `caller` needs a default if the body
mentions it. -/
def allowsCaller (parameters : Parameters) (body : List Stmt) : Bool :=
  match parameters.lookup "caller" with
  | some none => !mentionedInBody "caller" body
  | _ => true

private def areDefaultsKnown (parameters : Parameters) : Bool :=
  parameters.all fun (_, e) => isOptionKnown false e

mutual

/-- Whether a statement is accepted, where `tentative` says that it stands inside a condition and
`top` that it stands in no scope of its own. -/
def Stmt.isAccepted (tentative top : Bool) : Stmt → Bool
  | .text _ => true
  | .output e => e.isKnown tentative
  | .cond branches otherwise =>
    areBranchesAccepted top branches && areAccepted true top otherwise
  | .loop target items test recursive body otherwise =>
    !(Stmt.loop target items test recursive body otherwise).stores "loop"
      && items.isKnown tentative && isOptionKnown false test
      && areAccepted false false body && areAccepted false false otherwise
  | .assign _ e => e.isKnown tentative
  | .capture _ filter body => isOptionKnown false filter && areAccepted false false body
  | .definition _ parameters body =>
    allowsCaller parameters body && areDefaultsKnown parameters && areAccepted false false body
  | .callBlock call parameters body =>
    call.isKnown tentative && allowsCaller parameters body && areDefaultsKnown parameters
      && areAccepted false false body
  | .filterBlock filter body => filter.isKnown false && areAccepted false false body
  | .bind bindings body =>
    bindings.all (fun (_, e) => e.isKnown tentative) && areAccepted false false body
  | .block _ _ _ body => areAccepted false false body
  | .escaping mode body => mode.isKnown false && areAccepted false false body
  | .reference e _ => e.isKnown tentative

def areAccepted (tentative top : Bool) : List Stmt → Bool
  | [] => true
  | s :: rest => s.isAccepted tentative top && areAccepted tentative top rest

def areBranchesAccepted (top : Bool) : List (Expr × List Stmt) → Bool
  | [] => true
  | (test, body) :: rest =>
    test.isKnown true && areAccepted true top body && areBranchesAccepted top rest

end

mutual

/-- The blocks of a statement, in order. -/
def Stmt.blocks : Stmt → List (String × List Stmt)
  | .text _ | .output _ | .reference .. | .assign .. => []
  | .cond branches otherwise => blocksOfBranches branches ++ blocksOf otherwise
  | .loop _ _ _ _ body otherwise => blocksOf body ++ blocksOf otherwise
  | .capture _ _ body | .definition _ _ body | .callBlock _ _ body | .filterBlock _ body
  | .bind _ body | .escaping _ body => blocksOf body
  | .block name _ _ body => (name, body) :: blocksOf body

def blocksOf : List Stmt → List (String × List Stmt)
  | [] => []
  | s :: rest => s.blocks ++ blocksOf rest

def blocksOfBranches : List (Expr × List Stmt) → List (String × List Stmt)
  | [] => []
  | (_, body) :: rest => blocksOf body ++ blocksOfBranches rest

end

/-- The blocks of a template that is accepted. -/
def check (template : List Stmt) : Except TemplateError (List (String × List Stmt)) :=
  let blocks := blocksOf template
  if areAccepted false true template && (blocks.map (·.1)).Nodup then .ok blocks
  else .error .rejected

end ImagePreload.Template
