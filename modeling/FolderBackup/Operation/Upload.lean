import FolderBackup.Settings.Options

/-! Uploads.

An upload copies the backup written before it to a cloud store. It is waited for, or else
left running with its messages in a log file beside the backup. -/
namespace FolderBackup
open Yaml

/-- The cloud stores there are. -/
inductive Upload.Store where
  | gcloud
  deriving DecidableEq, Repr

/-- The options of a step that copies a backup to a cloud store. -/
structure Upload where
  wait : Bool
  target : String
  store : Upload.Store
  deriving DecidableEq, Repr

namespace Upload

def Store.name : Store → String
  | .gcloud => "gcloud"

/-- The name for a reader of messages. -/
def Store.shown : Store → String
  | .gcloud => "Gcloud"

def shape : Shape Value Mismatch Upload :=
  Upload.mk <$> Shape.required "sync" Reading.boolean
    <*> Shape.required "target" Source.string
    <*> Shape.required "type" (Reading.variant [("gcloud", Store.gcloud)])

instance : Options Upload where
  read := shape.read "struct PushToCloudConfig"
  violations upload := Violation.ofText "target" upload.target
  write upload :=
    [Options.entry "sync" (.boolean upload.wait),
      Options.entry "target" (.text upload.target),
      Options.entry "type" (.text upload.store.name)]

/-- The command that copies a file. -/
def copy (upload : Upload) (path : String) : String :=
  match upload.store with
  | .gcloud => "gsutil cp " ++ path ++ " " ++ upload.target

/-- A command left running, with a log file beside a file. -/
def detached (command path : String) : String :=
  "bash -c \"nohup " ++ command ++ " > " ++ path ++ ".upload.log 2>&1 &\""

/-- The command that uploads a file. -/
def forward (upload : Upload) (path : String) : String :=
  if upload.wait then upload.copy path else detached (upload.copy path) path

end Upload

end FolderBackup
