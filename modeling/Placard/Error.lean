/-
# What can go wrong

Kinds of failure, each wrapping those above it: a download fails, an asset cannot be had, a template
cannot be loaded, a request value cannot be bound or a plugin be drawn, and with any of these a
render, and with it the program.  A failure is a cause; its wording is made from it here and nowhere
else.  Where the wording goes on with a text that another program supplies, it is left open.
-/
import Placard.Payload
import Placard.Text.Quoted

namespace Placard

/-- The three kinds of plugin. -/
inductive PluginKind where
  | image
  | text
  | qr
  deriving DecidableEq, Repr

def PluginKind.name : PluginKind → String
  | image => "image"
  | text => "text"
  | qr => "qr"

/-- The wording of a failure: a text, and whether it is all of it. -/
structure Wording where
  text : String
  complete : Bool

def Wording.full (text : String) : Wording := ⟨text, true⟩

/-- A wording known up to the text that another program adds. -/
def Wording.openEnded (text : String) : Wording := ⟨text, false⟩

/-- A wording after an opening. -/
def Wording.after (opening : String) (w : Wording) : Wording := ⟨opening ++ w.text, w.complete⟩

/-! ## Downloads -/

/-- Why a download failed. -/
inductive FetchError where
  /-- The final answer has a status that is not a success. -/
  | status (code : Nat) (body : Payload)
  | timeout
  | transport
  | client
  | closed

namespace FetchError

def status? : FetchError → Option Nat
  | status code _ => some code
  | _ => none

/-- The server does not have the thing asked for. -/
def isNotFound (e : FetchError) : Bool := e.status? == some 404

def kind (e : FetchError) : String := if e.isNotFound then "NotFound" else "Unavailable"

def wording : FetchError → Wording
  | status code _ => .full s!"Upstream returned HTTP {code}"
  | timeout => .full "Upstream request timed out"
  | transport => .openEnded "Transport error:"
  | client => .openEnded "HTTP client error:"
  | closed => .full "Fetcher is shut down"

end FetchError

/-! ## Assets -/

/-- Why an asset cannot be had. -/
inductive AssetError where
  | notFound (name : String)
  | fetch (cause : FetchError)
  | io
  | decode

namespace AssetError

def fetchError? : AssetError → Option FetchError
  | fetch e => some e
  | _ => none

/-- The asset does not exist, here or on its server. -/
def isNotFound : AssetError → Bool
  | notFound _ => true
  | fetch e => e.isNotFound
  | _ => false

def wording : AssetError → Wording
  | notFound name => .full ("Asset not found: " ++ name)
  | fetch e => e.wording.after "Fetch failed: "
  | io => .openEnded "I/O error:"
  | decode => .openEnded "Decode failed:"

end AssetError

/-! ## Templates -/

/-- Why a template, or a part of one, cannot be loaded. -/
inductive ConfigError where
  /-- The document cannot be read; the detail is known where this library supplies it. -/
  | parse (detail : Option String)
  | unknownPluginType (tag : String)
  | missingField (field : String)
  | invalidField (field reason : String)
  | invalidColor (text : String)
  | unknownBinding (kind : PluginKind) (field : String)
  | asset (uri : String) (cause : AssetError)
  | font (uri reason : String)
  | qr (reason : String)
  | pluginEntry (index : Nat) (cause : ConfigError)
  | plugin (index : Nat) (kind : PluginKind) (cause : ConfigError)

namespace ConfigError

def fetchError? : ConfigError → Option FetchError
  | asset _ cause => cause.fetchError?
  | pluginEntry _ cause => cause.fetchError?
  | plugin _ _ cause => cause.fetchError?
  | _ => none

def wording : ConfigError → Wording
  | parse (some detail) => .full ("Parse error: " ++ detail)
  | parse none => .openEnded "Parse error:"
  | unknownPluginType tag => .full ("Unknown plugin type " ++ Text.quoted tag)
  | missingField field => .full s!"Field {field} is required"
  | invalidField field reason => .full s!"Invalid field {field}: {reason}"
  | invalidColor text => .full ("Invalid color " ++ Text.quoted text)
  | unknownBinding kind field =>
    .full s!"Unknown binding field {Text.quoted field} for {kind.name} plugin"
  | asset uri cause => cause.wording.after ("Load asset " ++ Text.quoted uri ++ ": ")
  | font uri reason => .full ("Load font " ++ Text.quoted uri ++ ": " ++ reason)
  | qr reason => .full ("QR code generation failed: " ++ reason)
  | pluginEntry index cause => cause.wording.after s!"Parse plugin #{index}: "
  | plugin index kind cause =>
    cause.wording.after s!"Configure plugin #{index} ({kind.name}): "

end ConfigError

/-! ## Rendering -/

/-- Why a request value cannot be bound. -/
inductive BindError where
  | coercion (key value : String)
  | reconfigure (cause : ConfigError)

namespace BindError

def fetchError? : BindError → Option FetchError
  | coercion _ _ => none
  | reconfigure cause => cause.fetchError?

def wording : BindError → Wording
  | coercion key value =>
    .full s!"Value {Text.quoted value} for key {Text.quoted key} is not a valid integer"
  | reconfigure cause => cause.wording.after "Reconfigure bound plugin: "

end BindError

/-- Why a plugin cannot be drawn. -/
inductive DrawError where
  | degenerateRect (width height : Int64)
  | notConfigured
  deriving DecidableEq

def DrawError.wording : DrawError → Wording
  | degenerateRect width height =>
    .full s!"Degenerate rectangle {width.toInt}x{height.toInt}"
  | notConfigured => .full "Plugin was drawn before being configured"

/-- Why a render fails as a whole. -/
inductive RenderError where
  | bind (index : Nat) (kind : PluginKind) (cause : BindError)
  | draw (index : Nat) (kind : PluginKind) (cause : DrawError)
  | source (cause : AssetError)
  | encode
  /-- The render was broken off. -/
  | task

namespace RenderError

def fetchError? : RenderError → Option FetchError
  | bind _ _ cause => cause.fetchError?
  | source cause => cause.fetchError?
  | _ => none

/-- The request itself carried an unusable value. -/
def isBadRequest : RenderError → Bool
  | bind _ _ (.coercion _ _) => true
  | _ => false

def wording : RenderError → Wording
  | bind index kind cause => cause.wording.after s!"Bind plugin #{index} ({kind.name}): "
  | draw index kind cause => cause.wording.after s!"Draw plugin #{index} ({kind.name}): "
  | source cause => cause.wording.after "Source image: "
  | encode => .openEnded "Encode error:"
  | task => .openEnded "Render task failed:"

end RenderError

/-- Why the program fails. -/
inductive ProgramError where
  | config (cause : ConfigError)
  | render (cause : RenderError)
  /-- The client for downloads cannot be made. -/
  | client (cause : FetchError)
  | cannotListen (address : String)
  | io

def ProgramError.wording : ProgramError → Wording
  | config cause => cause.wording.after "Config error: "
  | render cause => cause.wording.after "Render error: "
  | client cause => cause.wording.after "Transport error: "
  | cannotListen address => .openEnded ("Transport error: Failed to bind to " ++ address ++ ":")
  | io => .openEnded "I/O error:"

end Placard
