/-
# Faces from assets

A face is loaded by the name of the built-in font or from an asset that holds a font.
-/
import Placard.Asset.Source
import Placard.Font.Face

namespace Placard.FontFace

def isSize (size : Float32) : Bool :=
  match Binary.ofFloat32 size with
  | .finite false significand _ => significand ≠ 0
  | _ => false

/-- The font in a payload. -/
def source? (fonts : Font.Engine) : Payload → Option FontSource
  | .octets bytes => (fonts bytes).map .outline
  | .picture _ => none

def load (assets : AssetSource) (uri : String) (size : Float32) : Except ConfigError FontFace :=
  if !isSize size then .error (.font uri ("invalid size " ++ Decimal.ofFloat32 size))
  else if uri = builtinName then .ok ⟨.bitmap, size⟩
  else
    match assets.get uri with
    | .error e => .error (.asset uri e)
    | .ok content =>
      match source? assets.fonts content with
      | some source => .ok ⟨source, size⟩
      | none => .error (.font uri "InvalidFont")

def withSize (face : FontFace) (size : Float32) : FontFace := { face with size := size }

end Placard.FontFace
