import ImagePreload.ErrorKind
import ImagePreload.Value

/-!
# What is asked of a cluster

Four requests are made of a cluster. It answers with names, of which only a listing has any, or
fails in one of many ways.
-/

namespace ImagePreload

/-- How a request failed. -/
structure ClusterFailure where
  kind : ErrorKind
  /-- The status of the response, if there was one. -/
  status : Option Int
  message : String
  deriving DecidableEq, Repr

namespace ClusterFailure

/-- Whether the object that a request was about does not exist. -/
def isNotFound (f : ClusterFailure) : Bool :=
  (f.kind == .httpStatus || f.kind == .transport "HTTPError") && f.status == some 404

/-- Whether the failure is an answer of the cluster or of the way to it. -/
def isAnswer (f : ClusterFailure) : Bool := f.kind.isClusterAnswer

end ClusterFailure

/-- A label selector; without one every namespace is selected. -/
abbrev Selector := Option String

inductive Request where
  | createNamespace (manifest : Value)
  | createWorkload (manifest : Value)
  | list (selector : Selector)
  | delete (name : String)

abbrev Reply := Except ClusterFailure (List String)

end ImagePreload
