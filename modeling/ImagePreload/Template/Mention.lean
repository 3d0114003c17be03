import ImagePreload.Template.Ast

/-!
# Which names a body mentions

A function that a template defines is only handed what its body asks for: the block of a call, or
the arguments that have no parameter. A block inside the body is looked at on its own.
-/

namespace ImagePreload.Template

mutual

def Expr.mentions (name : String) : Expr → Bool
  | .literal _ | .body => false
  | .name s => s == name
  | .list items | .tuple items | .concat items => mentionedIn name items
  | .dict entries => mentionedInPairs name entries
  | .unary _ e | .attribute e _ => e.mentions name
  | .binary _ a b | .and a b | .or a b | .item a b => a.mentions name || b.mentions name
  | .compare first rest => first.mentions name || mentionedInOperands name rest
  | .conditional test result otherwise =>
    test.mentions name || result.mentions name || mentionedInOption name otherwise
  | .slice start stop step =>
    mentionedInOption name start || mentionedInOption name stop || mentionedInOption name step
  | .call e positional named more moreNamed =>
    e.mentions name || mentionedIn name positional || mentionedInNamed name named
      || mentionedInOption name more || mentionedInOption name moreNamed
  | .filter _ e positional named more moreNamed =>
    e.mentions name || mentionedIn name positional || mentionedInNamed name named
      || mentionedInOption name more || mentionedInOption name moreNamed
  | .test _ e positional named more moreNamed =>
    e.mentions name || mentionedIn name positional || mentionedInNamed name named
      || mentionedInOption name more || mentionedInOption name moreNamed

def mentionedIn (name : String) : List Expr → Bool
  | [] => false
  | e :: es => e.mentions name || mentionedIn name es

def mentionedInOption (name : String) : Option Expr → Bool
  | none => false
  | some e => e.mentions name

def mentionedInPairs (name : String) : List (Expr × Expr) → Bool
  | [] => false
  | (k, v) :: rest => k.mentions name || v.mentions name || mentionedInPairs name rest

def mentionedInNamed (name : String) : List (String × Expr) → Bool
  | [] => false
  | (_, e) :: rest => e.mentions name || mentionedInNamed name rest

def mentionedInOperands (name : String) : List (CompareOp × Expr) → Bool
  | [] => false
  | (_, e) :: rest => e.mentions name || mentionedInOperands name rest

end

private def mentionedInParameters (name : String) (parameters : Parameters) : Bool :=
  parameters.any fun (_, e) => mentionedInOption name e

mutual

def Stmt.mentions (name : String) : Stmt → Bool
  | .text _ | .block .. => false
  | .output e | .reference e _ => e.mentions name
  | .cond branches otherwise =>
    mentionedInBranches name branches || mentionedInBody name otherwise
  | .loop _ items test _ body otherwise =>
    items.mentions name || mentionedInOption name test || mentionedInBody name body
      || mentionedInBody name otherwise
  | .assign _ e => e.mentions name
  | .capture _ filter body => mentionedInOption name filter || mentionedInBody name body
  | .definition _ parameters body =>
    mentionedInParameters name parameters || mentionedInBody name body
  | .callBlock call parameters body =>
    call.mentions name || mentionedInParameters name parameters || mentionedInBody name body
  | .filterBlock filter body => filter.mentions name || mentionedInBody name body
  | .bind bindings body =>
    bindings.any (fun (_, e) => e.mentions name) || mentionedInBody name body
  | .escaping mode body => mode.mentions name || mentionedInBody name body

def mentionedInBody (name : String) : List Stmt → Bool
  | [] => false
  | s :: rest => s.mentions name || mentionedInBody name rest

def mentionedInBranches (name : String) : List (Expr × List Stmt) → Bool
  | [] => false
  | (e, body) :: rest =>
    e.mentions name || mentionedInBody name body || mentionedInBranches name rest

end

end ImagePreload.Template
