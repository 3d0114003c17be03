import ImagePreload.ErrorKind

/-!
# Clients of a cluster

A client is made from the kubeconfig that is asked for. If none is asked for, it is made from what
the program finds around it: the service account that a program inside of a cluster is given, or
else a kubeconfig in one of the usual places. How that is done is the affair of a library. A program
can be run with any library, and only sees which cluster a client is for, or why there is none.
-/

namespace ImagePreload

/-- Why there is no client. -/
structure ClientFailure where
  kind : ErrorKind
  message : String

/-- How clients are made; each is for the cluster at an address. -/
structure ClientLibrary where
  ofFile : String → Except ClientFailure String
  ofEnvironment : Except ClientFailure String

namespace ClientLibrary

/-- The client for the kubeconfig that is asked for, if any is. -/
def client (library : ClientLibrary) : Option String → Except ClientFailure String
  | some name => library.ofFile name
  | none => library.ofEnvironment

end ClientLibrary

end ImagePreload
