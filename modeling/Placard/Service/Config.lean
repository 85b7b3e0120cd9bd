/-
# Configuration of the service

Where the service listens, where its photos and its files are, how it downloads, and where its
templates are.  A document sets some of it, and the rest has a default.
-/
import Placard.Asset.Network
import Placard.Yaml.Block
import Placard.Yaml.Record

namespace Placard
open Yaml

/-- The configuration of the service. -/
structure ServiceConfig where
  listen : String
  logLevel : String
  /-- What the path of a photo is put after. -/
  mediaBase : String
  /-- The folder that local places are below. -/
  staticRoot : String
  /-- How many downloads may be under way at once. -/
  concurrency : Nat
  timeoutSecs : Nat
  userAgent : String
  genericDir : String
  qrDir : String
  frameDir : String
  deriving DecidableEq

namespace ServiceConfig

/-- The configuration where no document says anything, on a machine for which `slots` downloads at
once are right. -/
def default (slots : Nat) : ServiceConfig where
  listen := "0.0.0.0:8080"
  logLevel := "info"
  mediaBase := "https://media3.example.com/"
  staticRoot := "static"
  concurrency := slots
  timeoutSecs := 10
  userAgent := "vitrine/0.1.0"
  genericDir := "templates/generic"
  qrDir := "templates/qr"
  frameDir := "templates/frame"

/-- The seconds that a download may take if none are set. -/
def defaultTimeout : Nat := 10

/-! ## Reading and writing -/

def fetcherFields : List (RecordField ServiceConfig) := [
  .of "concurrency" Reading.count fun c v => { c with concurrency := v },
  .of "timeout_secs" Reading.count fun c v => { c with timeoutSecs := v },
  .of "user_agent" Reading.text fun c v => { c with userAgent := v }]

def templateFields : List (RecordField ServiceConfig) := [
  .of "generic_dir" Reading.text fun c v => { c with genericDir := v },
  .of "qr_dir" Reading.text fun c v => { c with qrDir := v },
  .of "frame_dir" Reading.text fun c v => { c with frameDir := v }]

def group (name : String) (fields : List (RecordField ServiceConfig)) : RecordField ServiceConfig :=
  ⟨name, fun v c => Reading.record fields c v⟩

def fields : List (RecordField ServiceConfig) := [
  .of "listen" Reading.text fun c v => { c with listen := v },
  .of "log_level" Reading.text fun c v => { c with logLevel := v },
  .of "media_upstream" Reading.text fun c v => { c with mediaBase := v },
  .of "static_root" Reading.text fun c v => { c with staticRoot := v },
  group "fetcher" fetcherFields,
  group "templates" templateFields]

/-- The configuration with what it has to satisfy: the base of the photos ends in a slash, there is
a slot for downloads, and they have time. -/
def normalized (c : ServiceConfig) : ServiceConfig :=
  { c with
    mediaBase := if c.mediaBase.endsWith "/" then c.mediaBase else c.mediaBase ++ "/"
    concurrency := max c.concurrency 1
    timeoutSecs := if c.timeoutSecs = 0 then defaultTimeout else c.timeoutSecs }

/-- The configuration that a document sets; a null document sets nothing. -/
def ofText (slots : Nat) (text : String) : Except ConfigError ServiceConfig :=
  match Value.ofText? text.toList with
  | none => unreadable
  | some v => (Reading.record fields (default slots) v).map normalized

def toText (c : ServiceConfig) : String :=
  Block.document [
    ("listen", .text c.listen),
    ("log_level", .text c.logLevel),
    ("media_upstream", .text c.mediaBase),
    ("static_root", .text c.staticRoot),
    ("fetcher", .mapping [
      ("concurrency", .whole c.concurrency),
      ("timeout_secs", .whole c.timeoutSecs),
      ("user_agent", .text c.userAgent)]),
    ("templates", .mapping [
      ("generic_dir", .text c.genericDir),
      ("qr_dir", .text c.qrDir),
      ("frame_dir", .text c.frameDir)])]

/-! ## Use -/

/-- How the service downloads. -/
def fetchSettings (c : ServiceConfig) : FetchSettings :=
  ⟨c.concurrency, 1000 * c.timeoutSecs, c.userAgent, true⟩

def mediaUrl (c : ServiceConfig) (source : String) : String :=
  c.mediaBase ++ Text.trimStart '/' source

end ServiceConfig
end Placard
