import FolderBackup.Extension
import FolderBackup.Operation.Compression
import FolderBackup.Operation.KeyUse
import FolderBackup.Operation.Plan
import FolderBackup.Operation.SaveTo
import FolderBackup.Operation.Upload

/-! Operations.

An operation is a single step or a pipeline of operations. A pipeline has local operations,
whose commands are piped together, and remote operations, whose commands follow each other on
the host that its transport reaches; a pipeline without a transport only does its local half. -/
namespace FolderBackup

/-- Something that a single command does. -/
inductive Step where
  | archive
  | compress (options : Compression)
  | encrypt (use : KeyUse)
  | sign (use : KeyUse)
  | sync
  | save (destFile : Template)
  | push (upload : Upload)
  deriving DecidableEq, Repr

/-- A step, or a pipeline of operations. -/
inductive Operation where
  | step (step : Step)
  | pipeline (locals remotes : List Operation) (transport : Option Transport)

/-- A pipeline by itself. -/
structure Pipeline where
  locals : List Operation
  remotes : List Operation
  transport : Option Transport

/-- The pipeline as an operation. -/
def Pipeline.toOperation (pipeline : Pipeline) : Operation :=
  .pipeline pipeline.locals pipeline.remotes pipeline.transport

/-! ### Kinds -/

/-- The kinds of steps. -/
inductive Step.Kind where
  | archive
  | compress
  | encrypt
  | sign
  | sync
  | save
  | push
  deriving DecidableEq, Repr

def Step.Kind.name : Step.Kind → String
  | .archive => "tar"
  | .compress => "compress"
  | .encrypt => "gpg encrypt"
  | .sign => "gpg sign"
  | .sync => "sync"
  | .save => "save backup"
  | .push => "push to cloud"

def Step.kind : Step → Step.Kind
  | .archive => .archive
  | .compress _ => .compress
  | .encrypt _ => .encrypt
  | .sign _ => .sign
  | .sync => .sync
  | .save _ => .save
  | .push _ => .push

/-- The kinds of pipelines: a backup has a remote half, a command has none. -/
inductive Pipeline.Kind where
  | backup
  | command
  deriving DecidableEq, Repr

def Pipeline.Kind.name : Pipeline.Kind → String
  | .backup => "pipeline"
  | .command => "command"

/-- The kinds of operations. -/
inductive Operation.Kind where
  | step (kind : Step.Kind)
  | pipeline (kind : Pipeline.Kind)
  deriving DecidableEq, Repr

namespace Operation.Kind

def name : Operation.Kind → String
  | .step kind => kind.name
  | .pipeline kind => kind.name

def all : List Operation.Kind :=
  [.step .archive, .step .compress, .step .encrypt, .step .sign, .step .sync, .step .save,
    .step .push, .pipeline .backup, .pipeline .command]

/-- The kind of a name. -/
def ofName? (name : String) : Option Operation.Kind :=
  all.find? (·.name == name)

end Operation.Kind

/-! ### Composition -/

/-- Commands that run at once, each reading what the one before it writes. -/
def Operation.piped (commands : List String) : String :=
  String.intercalate " | " commands

/-- Commands that run in order, each only if the one before it succeeds. -/
def Operation.chained (commands : List String) : String :=
  String.intercalate " && " commands

/-! ### Extensions -/

/-- What a step adds to the name of a backup, if anything. -/
def Step.extension : Step → Option String
  | .archive => some "tar"
  | .compress options => some options.algorithm.extension
  | .encrypt _ => some "enc"
  | .sign _ => some "sign"
  | .sync => none
  | .save _ => none
  | .push _ => none

def Operation.extension : Operation → Option String
  | .step single => single.extension
  | .pipeline _ _ _ => none

/-- The suffix of the backups that a pipeline makes. -/
def Pipeline.extensions (pipeline : Pipeline) : String :=
  Extension.suffix (pipeline.locals.map Operation.extension)

/-! ### How operations are shown in messages -/

namespace Shown

def option (value : Option String) : String :=
  match value with
  | none => "None"
  | some text => "Some(" ++ text ++ ")"

/-- A record with its fields. -/
def record (name : String) (fields : List (String × String)) : String :=
  name ++ " \x7b " ++ String.intercalate ", " (fields.map fun (field, value) =>
    field ++ ": " ++ value) ++ " \x7d"

def list (items : List String) : String :=
  "[" ++ String.intercalate ", " items ++ "]"

def keyUse (name : String) (use : KeyUse) : String :=
  record name [("config", record "GpgKeyConfig"
    [("key", Text.quoted use.key), ("homedir", option (use.homedir.map Text.quoted))])]

end Shown

def Step.shown : Step → String
  | .archive => "Archive(TarOperation)"
  | .compress options => "Compress(" ++ Shown.record "CompressOperation" [("config",
      Shown.record "CompressConfig" [("algorithm", options.algorithm.shown),
        ("level", Shown.option (options.level.map toString)),
        ("threads", Shown.option (options.threads.map toString))])] ++ ")"
  | .encrypt use => "Encrypt(" ++ Shown.keyUse "GpgEncrypt" use ++ ")"
  | .sign use => "Sign(" ++ Shown.keyUse "GpgSign" use ++ ")"
  | .sync => "Sync(SyncOperation)"
  | .save destFile => "WriteDestination(" ++ Shown.record "SaveBackup"
      [("dest_file", "DestFileTemplate(" ++ Text.quoted destFile.text ++ ")")] ++ ")"
  | .push upload => "PushToCloud(" ++ Shown.record "PushToCloud" [("config",
      Shown.record "PushToCloudConfig" [("sync", if upload.wait then "true" else "false"),
        ("target", Text.quoted upload.target), ("kind", upload.store.shown)])] ++ ")"

/-- A pipeline whose operations are shown already. -/
def Pipeline.shownOf (locals remotes : List String) (transport : Option Transport) : String :=
  Shown.record "Pipeline" [("local_operations", Shown.list locals),
    ("remote_operations", Shown.list remotes),
    ("transport", Shown.option (transport.map Transport.shown))]

mutual

def Operation.shown : Operation → String
  | .step single => single.shown
  | .pipeline locals remotes transport => "Pipeline(" ++
      Pipeline.shownOf (Operation.shownAll locals) (Operation.shownAll remotes) transport ++ ")"

def Operation.shownAll : List Operation → List String
  | [] => []
  | operation :: rest => operation.shown :: Operation.shownAll rest

end

def Pipeline.shown (pipeline : Pipeline) : String :=
  Pipeline.shownOf (Operation.shownAll pipeline.locals) (Operation.shownAll pipeline.remotes)
    pipeline.transport

end FolderBackup
