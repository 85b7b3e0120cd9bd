/-
# Encoded images and payloads

Image files are seen through what they decode to: an encoded image is a format and the picture that
a reader of the file gets.  The compression itself is left to the codecs.  A payload, the content of
a file or of an answer, is such a picture or octets of any other kind.
-/
import Placard.Raster.Image

namespace Placard

/-- The formats that images are written in. -/
inductive ImageFormat where
  | jpeg
  | png
  deriving DecidableEq, Repr

namespace ImageFormat

def name : ImageFormat → String
  | jpeg => "jpeg"
  | png => "png"

def ofName? : String → Option ImageFormat
  | "jpeg" => some jpeg
  | "png" => some png
  | _ => none

def contentType : ImageFormat → String
  | jpeg => "image/jpeg"
  | png => "image/png"

/-- The format has room for a side of so many pixels: one of them writes it in sixteen bits. -/
def takesSide : ImageFormat → (side : Nat) → Bool
  | jpeg, side => 0 < side && side ≤ 65535
  | png, side => 0 < side

/-- What a reader of the format gets: one of them has no alpha channel. -/
def seen (format : ImageFormat) (img : Image) : Image :=
  match format with
  | jpeg => ⟨img.width, img.height, img.pixels.map fun p => { p with alpha := 255 }, by
      simp [img.size_eq]⟩
  | png => img

end ImageFormat

/-- An image in a format. -/
structure EncodedImage where
  format : ImageFormat
  picture : Image

namespace EncodedImage

/-- An image in a format.  An image without pixels has no encoding, nor has one with a side that
the format has no room for. -/
def ofImage? (img : Image) (format : ImageFormat) : Option EncodedImage :=
  if format.takesSide img.width ∧ format.takesSide img.height then some ⟨format, format.seen img⟩
  else none

/-- A single transparent pixel, sent in place of an image that could not be made. -/
def blank : EncodedImage := ⟨.png, .filled 1 1 .transparent⟩

end EncodedImage

/-- The content of a file or of an answer. -/
inductive Payload where
  /-- Octets that are not an image. -/
  | octets (bytes : ByteArray)
  | picture (image : EncodedImage)

namespace Payload

def ofText (s : String) : Payload := octets s.toUTF8

def picture? : Payload → Option Image
  | octets _ => none
  | picture e => some e.picture

def text? : Payload → Option String
  | octets bytes => String.fromUTF8? bytes
  | picture _ => none

end Payload
end Placard
