/-!
# Kinds of failure

Every failure has a kind. Some are this program's own, some come from the cluster's client or from
the transport underneath it, some from reading templates and documents, and the rest are failures of
plain computation or of the system. A failure's kind decides who handles it, and its name is what
diagnostics show in front of the message.
-/

namespace ImagePreload

/-- The kinds of failure of this program. -/
inductive OwnKind where
  | general
  | usage
  | internal
  | configuration
  | render
  | fatal
  | namespaceCreate
  | workloadCreate
  | cleanup
  deriving DecidableEq, Repr

inductive ErrorKind where
  | own (kind : OwnKind)
  /-- Any failure of the cluster's client that it does not count as an answer of the cluster. -/
  | clusterBase
  /-- A failure of the cluster's client. -/
  | client
  | httpStatus
  | objectMissing
  /-- A failure of the transport, by name. -/
  | transport (name : String)
  | templateSyntax
  | templateAssertion
  | undefinedName
  | templateRuntime
  | document
  | value
  | type
  | key
  | index
  | attribute
  | zeroDivision
  | overflow
  | recursion
  | notImplemented
  | unicodeDecode
  | permission
  | fileNotFound
  /-- A broken connection, in general or of one of the narrower names. -/
  | connection (name : String)
  | interrupt
  | other (name : String)
  deriving DecidableEq, Repr

namespace OwnKind

def name : OwnKind → String
  | .general => "PreloadException"
  | .usage => "UsageError"
  | .internal => "InternalError"
  | .configuration => "ConfigurationError"
  | .render => "RenderError"
  | .fatal => "FatalError"
  | .namespaceCreate => "NamespaceCreateError"
  | .workloadCreate => "WorkloadCreateError"
  | .cleanup => "CleanupError"

def all : List OwnKind :=
  [.general, .usage, .internal, .configuration, .render, .fatal, .namespaceCreate,
    .workloadCreate, .cleanup]

/-- Kinds after which nothing may go on. -/
def isFatal : OwnKind → Bool
  | .fatal | .namespaceCreate => true
  | _ => false

end OwnKind

namespace ErrorKind

def name : ErrorKind → String
  | .own kind => kind.name
  | .clusterBase => "KubernetesError"
  | .client => "PyKubeError"
  | .httpStatus => "HTTPError"
  | .objectMissing => "ObjectDoesNotExist"
  | .transport name => name
  | .templateSyntax => "TemplateSyntaxError"
  | .templateAssertion => "TemplateAssertionError"
  | .undefinedName => "UndefinedError"
  | .templateRuntime => "TemplateRuntimeError"
  | .document => "YAMLError"
  | .value => "ValueError"
  | .type => "TypeError"
  | .key => "KeyError"
  | .index => "IndexError"
  | .attribute => "AttributeError"
  | .zeroDivision => "ZeroDivisionError"
  | .overflow => "OverflowError"
  | .recursion => "RecursionError"
  | .notImplemented => "NotImplementedError"
  | .unicodeDecode => "UnicodeDecodeError"
  | .permission => "PermissionError"
  | .fileNotFound => "FileNotFoundError"
  | .connection name => name
  | .interrupt => "KeyboardInterrupt"
  | .other name => name

/-- Failures that count as an answer of the cluster: those of its client and of the transport. -/
def isClusterAnswer : ErrorKind → Bool
  | .client | .httpStatus | .objectMissing | .transport _ => true
  | _ => false

/-- The kind that a name stands for; names of the transport's failures start with `requests.`. -/
def ofName (name : String) : ErrorKind :=
  match OwnKind.all.find? (·.name == name) with
  | some kind => .own kind
  | none =>
    if name.startsWith "requests." then .transport (name.drop 9).toString
    else
      let plain : List ErrorKind :=
        [.clusterBase, .client, .httpStatus, .objectMissing, .value, .type, .key, .index,
          .attribute, .zeroDivision, .overflow, .recursion, .notImplemented, .permission,
          .fileNotFound, .interrupt]
      match plain.find? (·.name == name) with
      | some kind => kind
      | none =>
        if ["ConnectionError", "BrokenPipeError", "ConnectionAbortedError",
            "ConnectionRefusedError", "ConnectionResetError"].contains name then .connection name
        else .other name

end ErrorKind

end ImagePreload
