/-
# Answers of the service

What the service answers to a request.  A request for an image that fails is answered with a status
that tells why and with a single transparent pixel, so that a page shows nothing in its place.  A
request that finds no route, or that cannot be understood as one, is answered without an image.
-/
import Placard.Service.Basic
import Placard.Service.Target

namespace Placard

/-- What an answer carries. -/
inductive Body where
  | nothing
  | text (s : String)
  /-- The names of the templates, of the templates for codes, and of the price frames. -/
  | names (templates codes frames : List String)
  | image (e : EncodedImage)

/-- An answer of the service. -/
structure Answer where
  status : Nat
  contentType : Option String
  body : Body

/-! ## Statuses -/

/-- The status for a failed download. -/
def FetchError.answerStatus (e : FetchError) : Nat :=
  match e with
  | .timeout => 504
  | e => if e.isNotFound then 404 else 502

/-- The status for a failed render. -/
def RenderError.answerStatus (e : RenderError) : Nat :=
  if e.isBadRequest then 400
  else
    match e.fetchError? with
    | some f => f.answerStatus
    | none => 500

namespace Answer

def ofImage (e : EncodedImage) : Answer := ⟨200, some e.format.contentType, .image e⟩

/-- The answer to a request for an image that fails. -/
def failure (status : Nat) : Answer := { ofImage .blank with status := status }

/-- The answer of a render. -/
def ofRender : Except RenderError EncodedImage → Answer
  | .ok e => ofImage e
  | .error e => failure e.answerStatus

def plainText : String := "text/plain; charset=utf-8"

/-- The answer to a request whose path or query cannot be read. -/
def unreadable : Answer := ⟨400, some plainText, .text ""⟩

/-- The answer to a request that finds no route. -/
def notFound : Answer := ⟨404, none, .nothing⟩

/-- The answer to a request that a route does not take. -/
def notAllowed : Answer := ⟨405, none, .nothing⟩

end Answer

/-! ## Routes -/

/-- Where a request goes. -/
inductive Route where
  | ready
  | listing
  /-- A template with one photo. -/
  | single (template source : String)
  /-- A template with two photos. -/
  | pair (template : String)
  | code (template : String)
  | frame (source : String)
  deriving DecidableEq

namespace Route

/-- The last part of a path, which may have slashes in it, but not be empty. -/
def source? (parts : List String) : Option String :=
  let s := String.intercalate "/" parts
  if s.isEmpty then none else some s

/-- The route of the parts of a path. -/
def ofParts? : List String → Option Route
  | ["ready"] => some ready
  | ["internal", "templates"] => some listing
  | ["template", t] => if t.isEmpty then none else some (pair t)
  | "template" :: t :: rest => (source? rest).map (single t)
  | ["qr", t] => if t.isEmpty then none else some (code t)
  | "frame" :: rest => (source? rest).map frame
  | _ => none

/-- The route with the encoding of its names undone, if they are texts. -/
def decoded? : Route → Option Route
  | ready => some ready
  | listing => some listing
  | single t s => do return single (← Target.decodePart? t) (← Target.decodePart? s)
  | pair t => (Target.decodePart? t).map pair
  | code t => (Target.decodePart? t).map code
  | frame s => (Target.decodePart? s).map frame

/-- The fields that a route knows. -/
def queryNames : Route → List String
  | ready => []
  | listing => []
  | single _ _ => ["price", "promotion_price", "product_name", "width"]
  | pair _ => ["img_source1", "price1", "promotion_price1", "img_source2", "price2",
      "promotion_price2", "width"]
  | code _ => ["payload", "width"]
  | frame _ => ["template", "price", "promotion_price"]

end Route

namespace Service

/-- The width that a request names; what is not a width is zero. -/
def requestedWidth (s : String) : Nat := (Number.size? (Text.trim s)).getD 0

/-- The answer of a template of a registry. -/
def answerTemplate (s : Service) (registry : Registry Template) (name : String)
    (values : RequestValues) (width : String) (format : ImageFormat) : Answer :=
  match registry.get? name with
  | none => .failure 400
  | some t => .ofRender (t.renderEncoded values (requestedWidth width) format s.assets).1

def singleValues (s : Service) (template source : String) (q : Query) : RequestValues :=
  .ofList [
    ("template", .text template),
    ("source", .text (s.config.mediaUrl source)),
    ("product_name", .text (q.get "product_name")),
    ("price", .text (q.get "price")),
    ("promotion_price", .text (q.get "promotion_price"))]

/-- The address of a photo that may be left out. -/
def optionalPhoto (s : Service) (source : String) : String :=
  if source.isEmpty then "" else s.config.mediaUrl source

def pairValues (s : Service) (template : String) (q : Query) : RequestValues :=
  .ofList [
    ("template", .text template),
    ("img_source1", .text (s.optionalPhoto (q.get "img_source1"))),
    ("price1", .text (q.get "price1")),
    ("promotion_price1", .text (q.get "promotion_price1")),
    ("img_source2", .text (s.optionalPhoto (q.get "img_source2"))),
    ("price2", .text (q.get "price2")),
    ("promotion_price2", .text (q.get "promotion_price2"))]

def answerCode (s : Service) (template : String) (q : Query) : Answer :=
  if (q.get "payload").isEmpty then .failure 400
  else
    s.answerTemplate s.codes template (.ofList [("qr_payload", .text (q.get "payload"))])
      (q.get "width") .png

def prices (q : Query) : Except BindError (Int64 × Int64) := do
  let values := RequestValues.ofList [
    ("price", .text (q.get "price")),
    ("promotion_price", .text (q.get "promotion_price"))]
  return (← values.amount "price", ← values.amount "promotion_price")

/-- The answer to a request for a photo in a price frame. -/
def answerFrame (s : Service) (source : String) (q : Query) : Answer :=
  match s.frames.get? (q.get "template") with
  | none => .failure 400
  | some f =>
    match prices q with
    | .error _ => .failure 400
    | .ok (price, promo) =>
      match s.assets.get (s.config.mediaUrl source) with
      | .error e => .ofRender (.error (.source e))
      | .ok photo => .ofRender (f.renderEncoded photo price promo).1

/-- The answer of a route to the fields that it knows. -/
def answerRoute (s : Service) (q : Query) : Route → Answer
  | .ready => ⟨200, some Answer.plainText, .text "ok"⟩
  | .listing =>
    ⟨200, some "application/json", .names s.templates.names s.codes.names s.frames.names⟩
  | .single template source =>
    s.answerTemplate s.templates template (s.singleValues template source q) (q.get "width") .jpeg
  | .pair template =>
    s.answerTemplate s.templates template (s.pairValues template q) (q.get "width") .jpeg
  | .code template => s.answerCode template q
  | .frame source => s.answerFrame source q

def answerQuery (s : Service) (route : Route) (query : List (String × String)) : Answer :=
  match route.decoded?, Query.known? route.queryNames query with
  | some route, some q => s.answerRoute q route
  | _, _ => .unreadable

/-- The answer to a request.  A request for the head of an answer gets it without what it
carries. -/
def answer (s : Service) (method target : String) : Answer :=
  let t := Target.ofText target
  match Route.ofParts? t.parts with
  | none => .notFound
  | some route =>
    if method = "GET" then s.answerQuery route t.query
    else if method = "HEAD" then { s.answerQuery route t.query with body := .nothing }
    else .notAllowed

end Service
end Placard
