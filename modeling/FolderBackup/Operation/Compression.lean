import FolderBackup.Settings.Options

/-! Compression.

A compression step pipes through the parallel compressor of its algorithm. The level is one
of 1 to 9 and may be given as a text; without one it is 6. Threads given explicitly win over
the hint of the job, which wins over the number of cores. -/
namespace FolderBackup
open Yaml

/-- The ways of compressing there are. -/
inductive Compression.Algorithm where
  | bzip
  | gzip
  deriving DecidableEq, Repr

namespace Compression.Algorithm

def name : Algorithm → String
  | .bzip => "bzip"
  | .gzip => "gzip"

/-- The compressor's command. -/
def tool : Algorithm → String
  | .bzip => "pbzip2"
  | .gzip => "pigz"

def extension : Algorithm → String
  | .bzip => "bz"
  | .gzip => "gz"

/-- The name for a reader of messages. -/
def shown : Algorithm → String
  | .bzip => "Bzip"
  | .gzip => "Gzip"

def all : List (String × Algorithm) :=
  [("bzip", .bzip), ("gzip", .gzip)]

end Compression.Algorithm

/-- The options of a step that compresses. -/
structure Compression where
  algorithm : Compression.Algorithm
  level : Option Nat
  threads : Option Nat
  deriving DecidableEq, Repr

namespace Compression

def shape : Shape Value Mismatch Compression :=
  Compression.mk <$> Shape.required "algorithm" (Reading.variant Algorithm.all)
    <*> Shape.nullable "level" (Reading.naturalOrText UInt32.size "u32")
    <*> Shape.nullable "threads" Source.count

instance : Options Compression where
  read := shape.read "struct CompressConfig"
  violations compression :=
    (compression.level.map (Violation.ofNumber "level" 1 (some 9))).getD [] ++
      (compression.threads.map (Violation.ofNumber "threads" 1 none)).getD []
  write compression :=
    Options.entry "algorithm" (.text compression.algorithm.name) ::
      (Options.entry? "level" (compression.level.map Options.natural) ++
        Options.entry? "threads" (compression.threads.map Options.natural))

/-- The level used where none is given. -/
def defaultLevel : Nat := 6

def usedLevel (compression : Compression) : Nat :=
  compression.level.getD defaultLevel

/-- The threads used under the hint of a job and on a machine with some cores. -/
def usedThreads (compression : Compression) (hint : Option Nat) (cores : Nat) : Nat :=
  (compression.threads.or hint).getD cores

/-- The command that compresses. -/
def forward (compression : Compression) (hint : Option Nat) (cores : Nat) : String :=
  let threads := toString (compression.usedThreads hint cores)
  let level := toString compression.usedLevel
  match compression.algorithm with
  | .bzip => "pbzip2 -p" ++ threads ++ " --to-stdout -" ++ level
  | .gzip => "pigz -i -b 1024 -p " ++ threads ++ " --to-stdout -" ++ level

/-- The command that expands what was compressed. -/
def backward (compression : Compression) (hint : Option Nat) (cores : Nat) : String :=
  let threads := toString (compression.usedThreads hint cores)
  match compression.algorithm with
  | .bzip => "pbzip2 -d -p" ++ threads ++ " --to-stdout"
  | .gzip => "pigz -d -p " ++ threads ++ " --to-stdout"

end Compression

end FolderBackup
