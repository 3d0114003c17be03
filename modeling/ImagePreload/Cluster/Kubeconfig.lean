import ImagePreload.Cluster.Client
import ImagePreload.Files
import ImagePreload.Yaml.Document

/-!
# Access to a cluster

A kubeconfig names clusters and contexts and says which context is meant; the context names the
cluster. It is a file that is asked for, or the one the environment names, or one in the home
directory. This is one way to make clients (`library`), for running the program. It is not told how
a service account is found: what comes of that is given to it.
-/

namespace ImagePreload

/-- Why there is no access to a cluster. -/
inductive AccessFailure where
  | fileMissing (name : String)
  | file (e : ReadError)
  | document (e : Yaml.LoadError)
  /-- A key that a part of a kubeconfig does not have. -/
  | keyMissing (key : String)
  /-- A part of a kubeconfig that has no keys. -/
  | noKeys (typeName : String)
  | noItems (typeName : String)
  | noContext

namespace AccessFailure

def kind : AccessFailure → ErrorKind
  | .fileMissing _ | .noContext => .client
  | .file e => e.kind
  | .document e => e.kind
  | .keyMissing _ => .key
  | .noKeys _ | .noItems _ => .type

def message : AccessFailure → String
  | .fileMissing name => "Configuration file " ++ name ++ " not found"
  | .file e => e.message
  | .document e => e.message
  | .keyMissing key => key
  | .noKeys typeName => "'" ++ typeName ++ "' object is not subscriptable"
  | .noItems typeName => "'" ++ typeName ++ "' object is not iterable"
  | .noContext => "current context not set; call set_current_context"

end AccessFailure

/-- No client for want of access. -/
def ClientFailure.ofAccess (e : AccessFailure) : ClientFailure := ⟨e.kind, e.message⟩

namespace Kubeconfig

/-- The address of a cluster that states none. -/
def localServer : String := "http://localhost"

/-- The seconds a request may take unless something else is asked for. -/
def defaultTimeout : Int := 10

def isSchemeChar (c : Char) : Bool := c.isAlphanum || c == '+' || c == '-' || c == '.'

/-- An address without an empty query or fragment, its scheme in small letters. -/
def normalAddress (address : String) : String :=
  let cs := address.toList
  let cs := if cs.getLast? == some '#' then cs.dropLast else cs
  let cs := if cs.getLast? == some '?' then cs.dropLast else cs
  match cs.takeWhile (· != ':'), cs.dropWhile (· != ':') with
  | scheme@(c :: _), rest@(_ :: _) =>
    if c.isAlpha && scheme.all isSchemeChar then .ofList (scheme.map Char.toLower ++ rest)
    else .ofList cs
  | _, _ => .ofList cs

/-- The part of a value under a key. -/
def part (v : Value) (key : String) : Except AccessFailure Value :=
  match v with
  | .map entries =>
    match Entries.get? (.text key) entries with
    | some inner => .ok inner
    | none => .error (.keyMissing key)
  | v => .error (.noKeys v.typeName)

/-- The named parts that a kubeconfig lists under a key; of parts of one name the last one counts.
-/
def listed (document : Value) (key inner : String) : Except AccessFailure Entries := do
  let items ← part document key
  match items.elements? with
  | none => throw (.noItems items.typeName)
  | some items =>
    let pairs ← items.mapM fun item => do return (← part item "name", ← part item inner)
    return Entries.ofPairs pairs

/-- The address of the cluster that a kubeconfig's context means. -/
def server (document : Value) : Except AccessFailure String := do
  let clusters ← listed document "clusters" "cluster"
  let contexts ← listed document "contexts" "context"
  let current := (document.field? "current-context").getD .null
  if !current.truthy then throw .noContext
  let named (entries : Entries) (name : Value) : Except AccessFailure Value :=
    match entries.get? name with
    | some v => .ok v
    | none => .error (.keyMissing name.display)
  let cluster ← named clusters (← part (← named contexts current) "cluster")
  match cluster.field? "server" with
  | some address => return normalAddress address.display
  | none => return localServer

/-- The file that is meant: the one that is asked for, the one the environment names, or the usual
one. -/
def fileName (environment : List (String × String)) (asked : Option String) : String :=
  match asked with
  | some name => if name.isEmpty then usual else name
  | none => usual
where
  usual : String := (environment.lookup "KUBECONFIG").getD "~/.kube/config"

/-- The address of the cluster that is meant. -/
def access (files : Files) (environment : List (String × String)) (asked : Option String) :
    Except AccessFailure String := do
  let name := fileName environment asked
  let path := Files.expandHome ((environment.lookup "HOME").getD "/") name
  if !files.isFile path then throw (.fileMissing name)
  let text ← (files.readText path).mapError .file
  server (← (Yaml.load text).mapError .document)

/-- How clients are made from kubeconfigs, next to what a service account gives, if there is one. -/
def library (files : Files) (environment : List (String × String))
    (serviceAccount : Option (Except ClientFailure String)) : ClientLibrary where
  ofFile name := (access files environment (some name)).mapError .ofAccess
  ofEnvironment :=
    serviceAccount.getD ((access files environment none).mapError .ofAccess)

/-- What is said when a file is asked for. -/
def askedMessage (name : String) : String := "Using kubeconfig " ++ name ++ "."

end Kubeconfig

end ImagePreload
