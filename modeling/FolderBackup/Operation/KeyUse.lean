import FolderBackup.Settings.Options

/-! The use of a key.

A key is known by its id, its fingerprint or its user, and kept in the home folder given or
else in the program's own one. What is given must not be empty. -/
namespace FolderBackup
open Yaml

/-- The options of a step that uses a key, and the home folder the key is kept in. -/
structure KeyUse where
  key : String
  homedir : Option String
  deriving DecidableEq, Repr

namespace KeyUse

def shape : Shape Value Mismatch KeyUse :=
  KeyUse.mk <$> Shape.required "key" Source.string <*> Shape.nullable "homedir" Source.string

instance : Options KeyUse where
  read := shape.read "struct GpgKeyConfig"
  violations use :=
    (use.homedir.map (Violation.ofText "homedir")).getD [] ++ Violation.ofText "key" use.key
  write use :=
    Options.entry "key" (.text use.key) :: Options.entry? "homedir" (use.homedir.map .text)

/-- The command's name, with the home folder if one is given. -/
def program (use : KeyUse) : String :=
  match use.homedir with
  | some homedir => "gpg --homedir " ++ homedir
  | none => "gpg"

def encrypt (use : KeyUse) : String :=
  use.program ++ " --encrypt --recipient " ++ use.key ++ " --compress-algo none"

def sign (use : KeyUse) : String :=
  use.program ++ " --sign --local-user " ++ use.key ++ " --compress-algo none"

def decrypt (use : KeyUse) : String :=
  use.program ++ " --decrypt"

end KeyUse

end FolderBackup
