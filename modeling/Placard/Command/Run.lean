/-
# Runs of the program

A run carries out one command line in a world and tells what it leaves behind: an exit code, what it
says, and the disk.  The configuration is read first, so that a fault in it is found whatever the
command is.
-/
import Placard.Command.Help
import Placard.Service.Basic

namespace Placard

/-- What a run leaves behind. -/
structure Outcome where
  exit : Nat
  stdout : String
  stderr : String
  disk : Disk

/-- Renders a template file into a file, and returns the disk with it. -/
def RenderOrder.perform (o : RenderOrder) (config : ServiceConfig) (w : World) :
    Except ProgramError Disk := do
  let assets ← (w.assets config).mapError .client
  let name ← match Path.fileName? o.template with
    | some name => .ok (Path.stem name)
    | none => .error (.config (.missingField "template"))
  let content ← match w.disk.entry o.template with
    | .file content => .ok content
    | _ => .error .io
  let template ← (Template.load name content assets).mapError .config
  let values := RequestValues.ofList (o.values.map fun (key, text) => (key, .text text))
  let (result, _) := template.renderEncoded values o.width o.format assets
  let image ← result.mapError .render
  match w.disk.write? o.out (.picture image) with
  | some disk => .ok disk
  | none => .error .io

/-- The configuration to serve with: what the command line says goes first. -/
def ServiceConfig.withOverrides (c : ServiceConfig) (listen : Option String)
    (concurrency : Option Nat) : ServiceConfig :=
  { c with
    listen := listen.getD c.listen
    concurrency := concurrency.getD c.concurrency }.normalized

namespace CommandLine

/-- The configuration that a command line works with. -/
def configIn (line : CommandLine) (w : World) : Except ProgramError ServiceConfig := do
  let config := (← w.config? line.config).getD (.default w.slots)
  return { config with logLevel := line.logLevel.getD config.logLevel }

/-- What a command line says and writes in a world. -/
def perform (line : CommandLine) (w : World) : Except ProgramError (String × Disk) := do
  let config ← line.configIn w
  match line.job with
  | .showConfig => return (config.toText, w.disk)
  | .render order => return ("", ← order.perform config w)
  | .serve listen concurrency =>
    let config := config.withOverrides listen concurrency
    let _ ← (Service.load config w).mapError .client
    if w.listens config.listen then return ("", w.disk) else throw (.cannotListen config.listen)

end CommandLine

namespace Outcome

def ofStop (w : World) : Stop → Outcome
  | .help topic => ⟨0, topic.text, "", w.disk⟩
  | .version => ⟨0, versionText, "", w.disk⟩
  | .usage e => ⟨2, "", e.wording, w.disk⟩

def ofArgs (w : World) (args : List String) : Outcome :=
  match CommandLine.read args with
  | .error s => ofStop w s
  | .ok line =>
    match line.perform w with
    | .ok (said, disk) => ⟨0, said, "", disk⟩
    | .error e => ⟨1, "", "Error: " ++ e.wording.text, w.disk⟩

end Outcome
end Placard
