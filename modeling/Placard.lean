import Placard.Asset.Bundle
import Placard.Asset.Face
import Placard.Asset.FileTree
import Placard.Asset.Network
import Placard.Asset.Slots
import Placard.Asset.Source
import Placard.Command.Help
import Placard.Command.Line
import Placard.Command.Options
import Placard.Command.Run
import Placard.Error
import Placard.Font.Bitmap
import Placard.Font.Coverage
import Placard.Font.Face
import Placard.Font.Outline
import Placard.Font.Spleen
import Placard.Font.TrueType
import Placard.Frame
import Placard.Geometry
import Placard.Location
import Placard.Main
import Placard.Number.Binary
import Placard.Number.Reader
import Placard.Number.Shortest
import Placard.Payload
import Placard.Plugin.Basic
import Placard.Plugin.Binding
import Placard.Plugin.Caption
import Placard.Plugin.Code
import Placard.Plugin.Drawing
import Placard.Plugin.Picture
import Placard.Plugin.Values
import Placard.Price
import Placard.Proofs.Asset.Confined
import Placard.Proofs.Asset.Download
import Placard.Proofs.Asset.Listing
import Placard.Proofs.Asset.Lookup
import Placard.Proofs.Asset.Onward
import Placard.Proofs.Asset.Slots
import Placard.Proofs.Asset.Walk
import Placard.Proofs.Failure
import Placard.Proofs.Font.Cells
import Placard.Proofs.Font.Fewest
import Placard.Proofs.Font.Width
import Placard.Proofs.Font.Wrap
import Placard.Proofs.Frame
import Placard.Proofs.Geometry
import Placard.Proofs.Number
import Placard.Proofs.Number.Arithmetic
import Placard.Proofs.Number.Extended
import Placard.Proofs.Number.Nearest
import Placard.Proofs.Number.Order
import Placard.Proofs.Number.Rounding
import Placard.Proofs.Number.Shortest
import Placard.Proofs.Number.Value
import Placard.Proofs.Plugin.Binding
import Placard.Proofs.Plugin.Box
import Placard.Proofs.Plugin.Carried
import Placard.Proofs.Plugin.Current
import Placard.Proofs.Plugin.Declared
import Placard.Proofs.Plugin.Drawn
import Placard.Proofs.Plugin.Life
import Placard.Proofs.Plugin.Near
import Placard.Proofs.Plugin.Placed
import Placard.Proofs.Plugin.Plain
import Placard.Proofs.Plugin.Prepared
import Placard.Proofs.Plugin.Prices
import Placard.Proofs.Plugin.Refused
import Placard.Proofs.Plugin.Small
import Placard.Proofs.Plugin.Spelling
import Placard.Proofs.Plugin.Values
import Placard.Proofs.Price
import Placard.Proofs.Raster.Anchor
import Placard.Proofs.Raster.Cache
import Placard.Proofs.Raster.Callers
import Placard.Proofs.Raster.Color
import Placard.Proofs.Raster.Extent
import Placard.Proofs.Raster.Fit
import Placard.Proofs.Raster.Offset
import Placard.Proofs.Raster.Overlay
import Placard.Proofs.Raster.Proportion
import Placard.Proofs.Raster.Region
import Placard.Proofs.Raster.Vacant
import Placard.Proofs.Reading
import Placard.Proofs.Registry
import Placard.Proofs.Render.Height
import Placard.Proofs.Render.History
import Placard.Proofs.Render.Near
import Placard.Proofs.Render.Opaque
import Placard.Proofs.Render.Outcome
import Placard.Proofs.Render.Reads
import Placard.Proofs.Render.Size
import Placard.Proofs.Service.Fault
import Placard.Proofs.Service.Quiet
import Placard.Proofs.Service.Status
import Placard.Proofs.Service.Upstream
import Placard.Proofs.Sorted
import Placard.Proofs.Symbol.Enlarged
import Placard.Proofs.Template
import Placard.Proofs.Text.Parts
import Placard.Proofs.Text.Spelling
import Placard.Proofs.Text.Trimmed
import Placard.Proofs.Yaml.Keys
import Placard.Proofs.Yaml.Unread
import Placard.Raster.Cache
import Placard.Raster.Canvas
import Placard.Raster.Color
import Placard.Raster.Fit
import Placard.Raster.Image
import Placard.Raster.Pixel
import Placard.Raster.Resample
import Placard.Raster.Stamp
import Placard.Registry
import Placard.Service.Answer
import Placard.Service.Basic
import Placard.Service.Config
import Placard.Service.Target
import Placard.Symbol.Codeword
import Placard.Symbol.Grid
import Placard.Symbol.Matrix
import Placard.Symbol.Recovery
import Placard.Symbol.Segment
import Placard.Symbol.Version
import Placard.Template
import Placard.Text.Blank
import Placard.Text.Cased
import Placard.Text.Ellipsis
import Placard.Text.LowerCase
import Placard.Text.Octets
import Placard.Text.Printable
import Placard.Text.Quoted
import Placard.Text.Sorted
import Placard.Yaml.Block
import Placard.Yaml.Cursor
import Placard.Yaml.Node
import Placard.Yaml.Record
import Placard.Yaml.Scan
import Placard.Yaml.Token
import Placard.Yaml.Value
