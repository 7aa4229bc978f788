import FolderBackup.Executor
import FolderBackup.Proofs.Alphabets
import FolderBackup.Proofs.Dataflow
import FolderBackup.Proofs.Documents
import FolderBackup.Proofs.Words
import FolderBackup.Scene

/-! How the remote half is quoted.

The commands of the remote half are chained and put between single quotes as they stand, and
nothing in a configuration keeps a quote out of them: a job may be called `it's`. So the shell
reads the remote half back as one word if and only if none of its commands holds a single quote,
and otherwise the first one in them ends the word's quotes (`Job.command_carries_iff`). None of them
does if the texts that they are made of hold none and no pipeline in the remote half has a
transport of its own (`Job.QuoteFree`). -/
namespace FolderBackup
open Posix

/-! ### Carrying a command to a host -/

/-- A command piped on to a host, with what the host is to do as a word of the shell. -/
def Connection.piping (connection : Connection) (localCommand word : String) : String :=
  localCommand ++ " | ssh " ++ connection.remoteUser ++ "@" ++ connection.host ++ " " ++ word

/-- The word that a local command is piped on with is read as a remote command. -/
def Connection.Carries (connection : Connection) (localCommand remoteCommand command : String) :
    Prop :=
  ∃ word, command = connection.piping localCommand word ∧ Reads word remoteCommand

/-- A remote command that is enclosed in quotes as it stands is carried if it holds no quote. -/
theorem Connection.carries_enclosed_iff {connection : Connection}
    {localCommand remoteCommand : String} :
    connection.Carries localCommand remoteCommand
        (connection.piping localCommand (enclosed remoteCommand)) ↔ QuoteFree remoteCommand := by
  rw [← reads_enclosed_iff]
  constructor
  · rintro ⟨word, hword, hreads⟩
    rwa [(String.append_right_inj _).mp hword]
  · intro h
    exact ⟨_, rfl, h⟩

theorem Transport.wrap_eq_ok_iff {transport : Transport} {context : Context}
    {localCommand remoteCommand command : String} :
    transport.wrap context localCommand remoteCommand = .ok command ↔
      ∃ connection, context.connection = some connection ∧
        command = connection.piping localCommand (enclosed remoteCommand) := by
  have hpiping (connection : Connection) : connection.piping localCommand (enclosed remoteCommand) =
      localCommand ++ " | ssh " ++ connection.remoteUser ++ "@" ++ connection.host ++ " '" ++
        remoteCommand ++ "'" :=
    String.toList_inj.mp (by simp [Connection.piping, enclosed])
  rw [wrap, Context.needConnection]
  cases transport
  cases context.connection with
  | none => simp [bind, Except.bind]
  | some connection => simp [bind, Except.bind, hpiping, eq_comm]

/-- Chained commands hold no quote if none of them does. -/
theorem Operation.quoteFree_chained_iff {commands : List String} :
    QuoteFree (Operation.chained commands) ↔ ∀ command ∈ commands, QuoteFree command :=
  quoteFree_intercalate_iff (by decide)

theorem Operation.quoteFree_piped_iff {commands : List String} :
    QuoteFree (Operation.piped commands) ↔ ∀ command ∈ commands, QuoteFree command :=
  quoteFree_intercalate_iff (by decide)

/-! ### Texts of steps -/

/-- The texts that a step adds of its own hold no quote. -/
def Step.QuoteFree : Step → Prop
  | .encrypt use | .sign use =>
    Posix.QuoteFree use.key ∧ ∀ homedir ∈ use.homedir, Posix.QuoteFree homedir
  | .save destFile => Posix.QuoteFree destFile.text
  | .push upload => Posix.QuoteFree upload.target
  | .archive | .compress _ | .sync => True

instance : DecidablePred Step.QuoteFree
  | .encrypt use | .sign use => inferInstanceAs (Decidable
    (Posix.QuoteFree use.key ∧ ∀ homedir ∈ use.homedir, Posix.QuoteFree homedir))
  | .save destFile => inferInstanceAs (Decidable (Posix.QuoteFree destFile.text))
  | .push upload => inferInstanceAs (Decidable (Posix.QuoteFree upload.target))
  | .archive | .compress _ | .sync => inferInstanceAs (Decidable True)

/-- The texts that steps take from a context hold no quote. -/
structure Context.QuoteFree (context : Context) : Prop where
  folders : Posix.QuoteFree context.folders
  fileName : Posix.QuoteFree context.fileName
  extensions : Posix.QuoteFree context.extensions
  destFolder : ∀ connection ∈ context.connection, Posix.QuoteFree connection.destFolder
  destination : ∀ path ∈ context.destination, Posix.QuoteFree path

theorem Timestamp.quoteFree_date (time : Timestamp) : Posix.QuoteFree time.date :=
  fun hquote => absurd (Timestamp.isDateChar_of_mem hquote) (by decide)

theorem Template.quoteFree_render {template : Template} {values : Values}
    (htext : Posix.QuoteFree template.text)
    (hvalues : ∀ field, Posix.QuoteFree (values.get field)) :
    Posix.QuoteFree (template.render values) := by
  have hsource {piece : Piece} (hpiece : piece ∈ pieces template.text.toList) :
      '\'' ∉ piece.source := fun hquote => htext <| by
    rw [← flatMap_source_pieces template.text.toList]
    exact List.mem_flatMap.mpr ⟨piece, hpiece, hquote⟩
  rw [Posix.QuoteFree, render, String.toList_ofList, List.mem_flatMap]
  rintro ⟨piece, hpiece, hquote⟩
  cases piece with
  | openBrace | closeBrace => simp [Piece.render] at hquote
  | char c => exact hsource hpiece hquote
  | placeholder name =>
    simp only [Piece.render] at hquote
    split at hquote
    · next field _ => exact hvalues field hquote
    · exact hsource hpiece hquote

theorem Context.QuoteFree.values {context : Context} (h : context.QuoteFree)
    {connection : Connection} (hconnection : context.connection = some connection)
    (field : Template.Field) : Posix.QuoteFree ((context.values connection).get field) := by
  cases field with
  | destFolder => exact h.destFolder connection hconnection
  | destFilename => exact h.fileName
  | date => exact context.time.quoteFree_date
  | extensions => exact h.extensions

theorem Text.quoteFree_trim {text : String} (h : Posix.QuoteFree text) :
    Posix.QuoteFree (String.ofList (trim text.toList)) := by
  rw [Posix.QuoteFree, String.toList_ofList, trim, List.mem_reverse]
  intro hquote
  have hquote := (List.dropWhile_sublist _).subset hquote
  exact h ((List.dropWhile_sublist _).subset (List.mem_reverse.mp hquote))

theorem Compression.quoteFree_forward (options : Compression) (hint : Option Nat) (cores : Nat) :
    Posix.QuoteFree (options.forward hint cores) := by
  unfold forward
  cases options.algorithm <;> simp only [quoteFree_append_iff, quoteFree_toString] <;> decide

theorem KeyUse.quoteFree_program {use : KeyUse}
    (h : ∀ homedir ∈ use.homedir, Posix.QuoteFree homedir) : Posix.QuoteFree use.program := by
  unfold program
  cases hhomedir : use.homedir with
  | none => decide
  | some homedir => exact quoteFree_append_iff.mpr ⟨by decide, h homedir hhomedir⟩

theorem Upload.quoteFree_forward {upload : Upload} {path : String}
    (htarget : Posix.QuoteFree upload.target) (hpath : Posix.QuoteFree path) :
    Posix.QuoteFree (upload.forward path) := by
  have hcopy : Posix.QuoteFree (upload.copy path) := by
    unfold copy
    cases upload.store
    simp only [quoteFree_append_iff, hpath, htarget]
    decide
  unfold forward
  split
  · exact hcopy
  · unfold detached
    simp only [quoteFree_append_iff, hcopy, hpath]
    decide +kernel

/-- The command of a step holds no quote if the texts that it is made of hold none; then the
context after it is again one without quotes. -/
theorem Step.quoteFree_of_forward {cores : Nat} {step : Step} {context after : Context}
    {text : String} (hstep : step.QuoteFree) (hcontext : context.QuoteFree)
    (h : step.forward cores context = .ok (text, after)) :
    Posix.QuoteFree text ∧ after.QuoteFree := by
  cases step with
  | archive =>
    cases h
    exact ⟨quoteFree_append_iff.mpr ⟨by decide, Text.quoteFree_trim hcontext.folders⟩, hcontext⟩
  | compress options =>
    cases h
    exact ⟨options.quoteFree_forward _ _, hcontext⟩
  | encrypt use | sign use =>
    cases h
    simp only [KeyUse.encrypt, KeyUse.sign, quoteFree_append_iff,
      KeyUse.quoteFree_program hstep.2]
    exact ⟨⟨⟨⟨trivial, by decide⟩, hstep.1⟩, by decide⟩, hcontext⟩
  | sync =>
    cases h
    exact ⟨by decide, hcontext⟩
  | save destFile =>
    obtain ⟨connection, hconnection, rfl, rfl⟩ := Step.forward_save_eq_ok_iff.1 h
    have hpath := Template.quoteFree_render hstep (hcontext.values hconnection)
    refine ⟨quoteFree_append_iff.mpr ⟨by decide, hpath⟩, { hcontext with destination := ?_ }⟩
    rintro _ ⟨⟩
    exact hpath
  | push upload =>
    obtain ⟨path, hdestination, rfl, rfl⟩ := Step.forward_push_eq_ok_iff.1 h
    exact ⟨Upload.quoteFree_forward hstep (hcontext.destination path hdestination), hcontext⟩

mutual

/-- A context without quotes is left as one, and the command of an operation that reaches no
transport holds no quote. -/
theorem Operation.quoteFree_of_spelled (cores : Nat) (operation : Operation)
    (hsteps : ∀ step ∈ operation.reached, step.QuoteFree) {context after : Context}
    {command : String} (hcontext : context.QuoteFree)
    (h : (operation.spelled cores).outcome context = (.ok command, after)) :
    after.QuoteFree ∧ ((∀ inner ∈ operation.reachedPipelines, inner.transport = none) →
      Posix.QuoteFree command) := by
  cases operation with
  | step single =>
    rw [Operation.spelled, Activity.outcome_changing_eq_ok_iff] at h
    obtain ⟨htext, hafter⟩ := Step.quoteFree_of_forward (hsteps single (by simp [reached]))
      hcontext h
    exact ⟨hafter, fun _ => htext⟩
  | pipeline locals remotes transport =>
    rw [Operation.spelled] at h
    obtain ⟨localCommands, between, hlocals, h⟩ := Activity.outcome_bind_eq_ok_iff.mp h
    obtain ⟨hbetween, htexts⟩ := Operation.quoteFree_of_spelledAll cores locals
      (fun step hstep => hsteps step (by simp [reached, hstep])) hcontext hlocals
    cases transport with
    | none =>
      obtain ⟨rfl, rfl⟩ : Operation.piped localCommands = command ∧ between = after := by
        simpa using h
      refine ⟨hbetween, fun hnone => Operation.quoteFree_piped_iff.mpr (htexts ?_)⟩
      exact fun inner hinner => hnone inner (by simp [reachedPipelines, hinner])
    | some transport =>
      obtain ⟨remoteCommands, last, hremotes, h⟩ := Activity.outcome_bind_eq_ok_iff.mp h
      obtain ⟨hlast, -⟩ := Operation.quoteFree_of_spelledAll cores remotes
        (fun step hstep => hsteps step (by simp [reached, hstep])) hbetween hremotes
      obtain rfl : last = after := by
        simpa using congrArg Prod.snd h
      refine ⟨hlast, fun hnone => ?_⟩
      exact absurd (hnone ⟨locals, remotes, some transport⟩ (by simp [reachedPipelines])) (by simp)

theorem Operation.quoteFree_of_spelledAll (cores : Nat) (operations : List Operation)
    (hsteps : ∀ step ∈ Operation.reachedAll operations, step.QuoteFree) {context after : Context}
    {commands : List String} (hcontext : context.QuoteFree)
    (h : (Operation.spelledAll cores operations).outcome context = (.ok commands, after)) :
    after.QuoteFree ∧
      ((∀ inner ∈ Operation.reachedPipelinesAll operations, inner.transport = none) →
        ∀ command ∈ commands, Posix.QuoteFree command) := by
  cases operations with
  | nil =>
    obtain ⟨rfl, rfl⟩ : [] = commands ∧ context = after := by
      simpa [spelledAll] using h
    exact ⟨hcontext, by simp⟩
  | cons operation rest =>
    rw [Operation.spelledAll] at h
    obtain ⟨command, between, hfirst, h⟩ := Activity.outcome_bind_eq_ok_iff.mp h
    obtain ⟨others, last, hrest, h⟩ := Activity.outcome_bind_eq_ok_iff.mp h
    obtain ⟨rfl, rfl⟩ : command :: others = commands ∧ last = after := by
      simpa using h
    obtain ⟨hbetween, hcommand⟩ := Operation.quoteFree_of_spelled cores operation
      (fun step hstep => hsteps step (by simp [reachedAll, hstep])) hcontext hfirst
    obtain ⟨hlast, hothers⟩ := Operation.quoteFree_of_spelledAll cores rest
      (fun step hstep => hsteps step (by simp [reachedAll, hstep])) hbetween hrest
    refine ⟨hlast, fun hnone text htext => ?_⟩
    rcases List.mem_cons.mp htext with rfl | htext
    · exact hcommand fun inner hinner => hnone inner (by simp [reachedPipelinesAll, hinner])
    · exact hothers (fun inner hinner => hnone inner (by simp [reachedPipelinesAll, hinner]))
        text htext

end

/-! ### Jobs -/

theorem Pipeline.quoteFree_extensions (pipeline : Pipeline) :
    Posix.QuoteFree pipeline.extensions :=
  fun hquote => absurd (Pipeline.isSuffixChar_of_mem hquote) (by decide)

variable {σ : Type} {around : Surroundings σ}

/-- The commands of the operations in the two halves of a pipeline, built one half after the
other. -/
def Pipeline.Built (around : Surroundings σ) (pipeline : Pipeline) (context : Context)
    (locals remotes : List String) : Prop :=
  ∃ started between half after later,
    (Operation.forwardAll around pipeline.locals).outcome context started =
      (.ok locals, between, half) ∧
    (Operation.forwardAll around pipeline.remotes).outcome between half =
      (.ok remotes, after, later)

theorem Pipeline.Built.spelled {pipeline : Pipeline} {context : Context}
    {locals remotes : List String} (h : pipeline.Built around context locals remotes) :
    ∃ between after,
      (Operation.spelledAll around.cores pipeline.locals).outcome context =
        (.ok locals, between) ∧
      (Operation.spelledAll around.cores pipeline.remotes).outcome between =
        (.ok remotes, after) := by
  obtain ⟨_, between, _, after, _, hlocals, hremotes⟩ := h
  exact ⟨between, after, Operation.spelledAll_of_forwardAll around _ hlocals,
    Operation.spelledAll_of_forwardAll around _ hremotes⟩

/-- The two halves are built in one way only. -/
theorem Pipeline.Built.unique {pipeline : Pipeline} {context : Context}
    {locals remotes others more : List String} (h : pipeline.Built around context locals remotes)
    (hothers : pipeline.Built around context others more) : others = locals ∧ more = remotes := by
  obtain ⟨_, _, hlocals, hremotes⟩ := h.spelled
  obtain ⟨_, _, hsame, hmore⟩ := hothers.spelled
  obtain ⟨hresult, rfl⟩ := Prod.mk.inj (hsame.symm.trans hlocals)
  exact ⟨Except.ok.inj hresult, Except.ok.inj (Prod.mk.inj (hmore.symm.trans hremotes)).1⟩

/-- The command of a pipeline with a transport is made of its two halves. -/
theorem Pipeline.built_of_forward {pipeline : Pipeline} {transport : Transport}
    (htransport : pipeline.transport = some transport) {context after : Context}
    {state later : σ} {command : String}
    (h : (pipeline.forward around).outcome context state = (.ok command, after, later)) :
    ∃ connection locals remotes, context.connection = some connection ∧
      pipeline.Built around context locals remotes ∧
      command = connection.piping (Operation.piped locals)
        (enclosed (Operation.chained remotes)) := by
  rw [forward, toOperation, Operation.forward, htransport] at h
  obtain ⟨_, _, started, hverify, h⟩ := Handing.outcome_bind_eq_ok h
  obtain rfl : context = _ := congrArg (fun outcome => outcome.2.1) hverify
  obtain ⟨locals, between, half, hlocals, h⟩ := Handing.outcome_bind_eq_ok h
  obtain ⟨remotes, last, ended, hremotes, h⟩ := Handing.outcome_bind_eq_ok h
  rw [Handing.outcome_reading] at h
  obtain ⟨connection, hconnection, hcommand⟩ := Transport.wrap_eq_ok_iff.mp (Prod.mk.inj h).1
  refine ⟨connection, locals, remotes, ?_, ⟨_, _, _, _, _, hlocals, hremotes⟩, hcommand⟩
  -- the connection that the halves are joined by is the one there was at the start
  obtain ⟨_, hfirst, _⟩ := (Operation.spelledAll_eq_ok_iff _ _).mp
    (Operation.spelledAll_of_forwardAll around _ hlocals)
  obtain ⟨_, hsecond, _⟩ := (Operation.spelledAll_eq_ok_iff _ _).mp
    (Operation.spelledAll_of_forwardAll around _ hremotes)
  rwa [(Step.of_fragments hsecond).2, (Step.of_fragments hfirst).2] at hconnection

/-- The command of a job pipes its local half on to its connection with one word, and that word is
read as its remote half. -/
def Job.Carries (around : Surroundings σ) (job : Job) (time : Timestamp) (command : String) :
    Prop :=
  ∃ connection locals remotes, job.connection = some connection ∧
    job.pipeline.Built around (job.context time) locals remotes ∧
    connection.Carries (Operation.piped locals) (Operation.chained remotes) command

/-- Halves that are joined as they stand are carried if no command in the remote one holds a
quote. -/
theorem Job.carries_piping_iff (job : Job) {time : Timestamp} {connection : Connection}
    {locals remotes : List String} (hconnection : job.connection = some connection)
    (hbuilt : job.pipeline.Built around (job.context time) locals remotes) :
    job.Carries around time (connection.piping (Operation.piped locals)
        (enclosed (Operation.chained remotes))) ↔
      ∀ fragment ∈ remotes, Posix.QuoteFree fragment := by
  rw [← Operation.quoteFree_chained_iff, ← connection.carries_enclosed_iff]
  constructor
  · rintro ⟨other, others, more, hother, hothers, hcarries⟩
    obtain ⟨rfl, rfl⟩ := hbuilt.unique hothers
    obtain rfl : connection = other := Option.some.inj (hconnection.symm.trans hother)
    exact hcarries
  · intro hcarries
    exact ⟨connection, locals, remotes, hconnection, hbuilt, hcarries⟩

/-- No text that the remote half of a job is made of holds a quote, and no pipeline in that half has
a transport, which would put quotes there. -/
structure Job.QuoteFree (job : Job) : Prop where
  folders : Posix.QuoteFree job.entry.folders
  name : Posix.QuoteFree job.name
  destFolder : ∀ connection ∈ job.connection, Posix.QuoteFree connection.destFolder
  steps : ∀ step ∈ job.pipeline.reached, step.QuoteFree
  remotes : ∀ inner ∈ Operation.reachedPipelinesAll job.pipeline.remotes, inner.transport = none

theorem Job.QuoteFree.context {job : Job} (h : job.QuoteFree) (time : Timestamp) :
    (job.context time).QuoteFree where
  folders := h.folders
  fileName := h.name
  extensions := job.pipeline.quoteFree_extensions
  destFolder := h.destFolder
  destination := by simp [Job.context]

theorem Job.QuoteFree.quoteFree_of_built {job : Job} (h : job.QuoteFree) {time : Timestamp}
    {transport : Transport} (htransport : job.pipeline.transport = some transport)
    {locals remotes : List String}
    (hbuilt : job.pipeline.Built around (job.context time) locals remotes) :
    ∀ fragment ∈ remotes, Posix.QuoteFree fragment := by
  have hreached : job.pipeline.reached =
      Operation.reachedAll job.pipeline.locals ++ Operation.reachedAll job.pipeline.remotes := by
    simp only [Pipeline.reached, Pipeline.toOperation, Operation.reached, htransport]
  obtain ⟨between, after, hlocals, hremotes⟩ := hbuilt.spelled
  obtain ⟨hbetween, -⟩ := Operation.quoteFree_of_spelledAll around.cores job.pipeline.locals
    (fun step hstep => h.steps step (by simp [hreached, hstep])) (h.context time) hlocals
  exact (Operation.quoteFree_of_spelledAll around.cores job.pipeline.remotes
    (fun step hstep => h.steps step (by simp [hreached, hstep])) hbetween hremotes).2 h.remotes

/-- **How far a job's remote half is one word.** The command of a job whose pipeline has a transport
is its local half piped on to its connection, with its remote half between single quotes as it
stands. The shell reads that back as one word, the remote half, if and only if no command in the
remote half holds a single quote; the first quote in it ends the word's quotes, and what comes
after it is read outside quotes. If the texts that the remote half is made of hold no quote, and
no pipeline in it has a transport of its own, then it is one word. -/
theorem Job.command_carries_iff (around : Surroundings σ) (job : Job) {transport : Transport}
    (htransport : job.pipeline.transport = some transport) {state later : σ} {command : String}
    (h : (job.command around).outcome state = (.ok command, later)) :
    ∃ connection locals remotes, job.connection = some connection ∧
      job.pipeline.Built around (job.context (around.now state).1) locals remotes ∧
      command = connection.piping (Operation.piped locals)
        (enclosed (Operation.chained remotes)) ∧
      (job.Carries around (around.now state).1 command ↔
        ∀ fragment ∈ remotes, Posix.QuoteFree fragment) ∧
      (∀ before after, (Operation.chained remotes).toList = before ++ '\'' :: after →
        '\'' ∉ before →
        word .bare (enclosed (Operation.chained remotes)).toList =
          (word .bare (after ++ ['\''])).map fun (more, rest) => (before ++ more, rest)) ∧
      (job.QuoteFree → job.Carries around (around.now state).1 command) := by
  obtain ⟨time, started, htime, hcommand⟩ := Activity.outcome_bind_eq_ok_iff.mp h
  obtain ⟨rfl, rfl⟩ : (around.now state).1 = time ∧ (around.now state).2 = started := by
    simpa using htime
  obtain ⟨_, hforward⟩ := Handing.outcome_startingWith_eq_ok_iff.mp hcommand
  obtain ⟨connection, locals, remotes, hconnection, hbuilt, rfl⟩ :=
    Pipeline.built_of_forward htransport hforward
  have hcarries := job.carries_piping_iff hconnection hbuilt
  refine ⟨connection, locals, remotes, hconnection, hbuilt, rfl, hcarries, ?_, ?_⟩
  · intro before after htext hbefore
    rw [toList_enclosed, htext, List.append_assoc, List.cons_append,
      word_enclosed_append hbefore]
  · intro hfree
    exact hcarries.mpr (hfree.quoteFree_of_built htransport hbuilt)

/-- A job that relays its backup to two stores. -/
def Job.relaying : Job where
  entry := { folders := "documents", connection := some "nas", pipeline := "relay", fileName := none }
  name := "documents"
  pipeline := .relay
  connection := some { host := "nas", remoteUser := "backup", destFolder := "/data" }
  threads := none

theorem Job.command_carries_iff_relaying :
    Job.relaying.QuoteFree ∧
      Job.relaying.Carries (Scene.surroundings 4) ⟨0, 0⟩
        ("sync | ssh backup@nas 'cat > /data/first && gsutil cp /data/first gs://near/ | " ++
          "cat > /data/documents && gsutil cp /data/documents gs://far/'") := by
  have hcommand : (Job.relaying.command (Scene.surroundings 4)).outcome
      (Scene.ofWorld World.usual ⟨0, 0⟩) =
        (.ok ("sync | ssh backup@nas 'cat > /data/first && gsutil cp /data/first gs://near/ | " ++
          "cat > /data/documents && gsutil cp /data/documents gs://far/'"), _) :=
    Prod.ext (eq_ok_of_toOption (by decide +kernel)) rfl
  have hfree : Job.relaying.QuoteFree := by
    refine ⟨by decide, by decide, ?_, by decide +kernel, by decide +kernel⟩
    rintro _ ⟨⟩
    decide
  obtain ⟨_, _, _, _, _, _, _, _, hcarries⟩ :=
    Job.command_carries_iff (Scene.surroundings 4) .relaying rfl hcommand
  exact ⟨hfree, hcarries hfree⟩

/-! ### A quote in a name -/

/-- The text of settings with one job, which is called `it's`. -/
def Settings.apostrophe : String :=
  String.intercalate "\n" [
    "connection:",
    "  nas:",
    "    host: nas",
    "    remote_user: backup",
    "    dest_folder: /data",
    "pipelines:",
    "  keep:",
    "    type: pipeline",
    "    connection: ssh",
    "    local:",
    "    - operation: sync",
    "    remote:",
    "    - operation: save backup",
    "      dest_file: /data/{dest_filename}",
    "folders:",
    "- folders: documents",
    "  connection: nas",
    "  pipeline: keep",
    "  file_name: it's"]

/-- What the command of a job is made of. -/
structure Job.Parts where
  transport : Option Transport
  connection : Option Connection
  command : Option String
  locals : Option (List String)
  remotes : Option (List String)
  deriving DecidableEq

/-- What the command of a job is made of in a usual world. -/
def Job.parts (job : Job) : Job.Parts :=
  let locals := (Operation.spelledAll 4 job.pipeline.locals).outcome (job.context ⟨0, 0⟩)
  { transport := job.pipeline.transport
    connection := job.connection
    command := ((job.command (Scene.surroundings 4)).outcome
      (Scene.ofWorld World.usual ⟨0, 0⟩)).1.toOption
    locals := locals.1.toOption
    remotes := ((Operation.spelledAll 4 job.pipeline.remotes).outcome locals.2).1.toOption }

theorem Settings.parts_apostrophe :
    ((Yaml.plainTree? Settings.apostrophe.toList).bind fun tree =>
      (Settings.ofTree tree).toOption.bind fun settings =>
        (Executor.ofSettings 4 Registry.builtin settings).toOption.map fun executor =>
          executor.jobs.map Job.parts) =
      some [{ transport := some .ssh
              connection := some { host := "nas", remoteUser := "backup", destFolder := "/data" }
              command := some "sync | ssh backup@nas 'cat > /data/it's'"
              locals := some ["sync"]
              remotes := some ["cat > /data/it's"] }] := by
  rw [Settings.apostrophe, String.toList_intercalate]
  decide +kernel

/-- Settings may be accepted, and a job's command built, without the shell reading its remote half
as one word. -/
theorem Job.exists_command_not_carries :
    ∃ settings executor job, Settings.ofText Settings.apostrophe = .ok settings ∧
      Executor.ofSettings 4 Registry.builtin settings = .ok executor ∧ job ∈ executor.jobs ∧
      job.pipeline.transport = some .ssh ∧
      ((job.command (Scene.surroundings 4)).outcome (Scene.ofWorld World.usual ⟨0, 0⟩)).1 =
        .ok "sync | ssh backup@nas 'cat > /data/it's'" ∧
      ¬ job.Carries (Scene.surroundings 4) ⟨0, 0⟩ "sync | ssh backup@nas 'cat > /data/it's'" := by
  obtain ⟨tree, htree, h⟩ := Option.bind_eq_some_iff.mp Settings.parts_apostrophe
  obtain ⟨settings, hsettings, h⟩ := Option.bind_eq_some_iff.mp h
  obtain ⟨executor, hexecutor, h⟩ := Option.map_eq_some_iff.mp h
  obtain ⟨job, hjobs, hparts⟩ := List.map_eq_singleton_iff.mp h
  simp only [Job.parts, Job.Parts.mk.injEq] at hparts
  obtain ⟨htransport, hconnection, hcommand, hlocals, hremotes⟩ := hparts
  refine ⟨settings, executor, job, ?_, eq_ok_of_toOption hexecutor, by simp [hjobs], htransport,
    eq_ok_of_toOption hcommand, ?_⟩
  · rw [Settings.ofText_of_plainTree htree]
    exact eq_ok_of_toOption hsettings
  · rintro ⟨connection, locals, remotes, hsame, hbuilt, hcarries⟩
    obtain ⟨between, after, hfirst, hsecond⟩ := hbuilt.spelled
    have hcores : (Scene.surroundings 4).cores = 4 := rfl
    rw [hcores] at hfirst hsecond
    rw [hfirst] at hlocals hremotes
    rw [hsecond] at hremotes
    cases hlocals
    cases hremotes
    cases hsame.symm.trans hconnection
    have hpiping : "sync | ssh backup@nas 'cat > /data/it's'" =
        Connection.piping ⟨"nas", "backup", "/data"⟩ (Operation.piped ["sync"])
          (enclosed (Operation.chained ["cat > /data/it's"])) := by
      decide +kernel
    rw [hpiping, Connection.carries_enclosed_iff] at hcarries
    exact absurd hcarries (by decide +kernel)

end FolderBackup
