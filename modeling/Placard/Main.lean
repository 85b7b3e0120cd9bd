/-
# The program

The outermost layer: it puts the files that the command line names on the disk of a world in which
nothing else can be reached, runs the program there, and hands out what the run leaves behind.
Pictures leave as raw pixels behind a short header; compressing them is left to other tools.
-/
import Placard.Command.Run
import Placard.Font.TrueType

namespace Placard

/-- The downloads at once that are asked for where nothing is known of the machine. -/
def usualSlots : Nat := 16

def CommandLine.paths (line : CommandLine) : List String :=
  line.config :: match line.job with
    | .render order => [order.template]
    | _ => []

def CommandLine.target? (line : CommandLine) : Option String :=
  match line.job with
  | .render order => some order.out
  | _ => none

/-- The octets of a picture, row by row, behind a header that gives its sides. -/
def Image.raw (img : Image) : ByteArray :=
  let header := s!"P7\nWIDTH {img.width}\nHEIGHT {img.height}\nDEPTH 4\nMAXVAL 255\n" ++
    "TUPLTYPE RGB_ALPHA\nENDHDR\n"
  img.pixels.foldl (fun bytes p => (((bytes.push p.red).push p.green).push p.blue).push p.alpha)
    header.toUTF8

/-- The octets that a payload is stored as. -/
def Payload.stored : Payload → ByteArray
  | octets bytes => bytes
  | picture e => e.picture.raw

/-- The files at some paths, as far as they can be read. -/
def readFiles (paths : List String) : IO (List (String × Payload)) :=
  paths.filterMapM fun (path : String) => do
    try return some (path, Payload.octets (← IO.FS.readBinFile path))
    catch _ => return none

/-- A disk with the given files and the folders on the way to a path. -/
def Disk.ofFiles (files : List (String × Payload)) (folders : List String) : Disk :=
  let place (path : String) : Path := (Text.splitAt '/' path).filter fun s => s ≠ "" ∧ s ≠ "."
  ⟨⟨files.map fun (path, content) => (place path, content),
    folders.map fun path => (place path).dropLast⟩, []⟩

def readWorld (args : List String) : IO World := do
  let files ← match CommandLine.read args with
    | .ok line => readFiles line.paths
    | .error _ => pure []
  let targets := match CommandLine.read args with
    | .ok line => line.target?.toList
    | .error _ => []
  return ⟨.ofFiles files targets, .none, Font.trueType, usualSlots, fun _ => false⟩

def writeTarget (args : List String) (disk : Disk) : IO Unit := do
  let .ok line := CommandLine.read args | return
  let some path := line.target? | return
  let .file content := disk.entry path | return
  IO.FS.writeBinFile path content.stored

def runProgram (args : List String) : IO UInt32 := do
  let outcome := Outcome.ofArgs (← readWorld args) args
  if outcome.exit = 0 then writeTarget args outcome.disk
  IO.print outcome.stdout
  if outcome.stderr ≠ "" then IO.eprintln outcome.stderr
  return outcome.exit.toUInt32

end Placard

def main (args : List String) : IO UInt32 := Placard.runProgram args
