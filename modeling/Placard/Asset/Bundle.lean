/-
# The bundle

The files that come with the program: two cards, a page for a symbol, a price frame, and the artwork
of the frame.  They are found by the names they have here, when nothing on the disk or on the web is
asked for.
-/
import Placard.Asset.FileTree
import Placard.Raster.Color

namespace Placard.Bundle

def octetsFrom (acc : ByteArray) : List Char → ByteArray
  | a :: b :: rest =>
    match Rgba.hexValue? a, Rgba.hexValue? b with
    | some high, some low => octetsFrom (acc.push (high * 16 + low)) rest
    | _, _ => acc
  | _ => acc

def octets (lines : List String) : Payload :=
  .octets (lines.foldl (fun acc line => octetsFrom acc line.toList) .empty)

def productCard : String :=
  "# Single product on a white card: photo on top, name and price below.\n" ++
  "allWidths: [500, 800, 1080]\n" ++
  "widthHeightRatio: 0.8\n" ++
  "backgroundColor: \"#ffffff\"\n" ++
  "plugins:\n" ++
  "  - type: image\n" ++
  "    mode: clip\n" ++
  "    rect: \x7bleft: 0.05, top: 0.04, right: 0.95, bottom: 0.7\x7d\n" ++
  "    binding: \x7bimage: source\x7d\n" ++
  "\n" ++
  "  - type: text\n" ++
  "    fontUri: builtin:spleen\n" ++
  "    fontSize: 24\n" ++
  "    color: \"#333333\"\n" ++
  "    drawWrapped: true\n" ++
  "    x: 250\n" ++
  "    y: 470\n" ++
  "    textWidth: 440\n" ++
  "    maxCharacter: 60\n" ++
  "    binding: \x7btext: product_name\x7d\n" ++
  "\n" ++
  "  - type: text\n" ++
  "    fontUri: builtin:spleen\n" ++
  "    fontSize: 48\n" ++
  "    color: \"#d0021b\"\n" ++
  "    x: 25\n" ++
  "    y: 590\n" ++
  "    strikeFull: true\n" ++
  "    binding: \x7bprice: price, promotion_price: promotion_price\x7d\n"

def twoProducts : String :=
  "# Two products side by side, each with its own price.\n" ++
  "allWidths: [800, 1200]\n" ++
  "widthHeightRatio: 1.6\n" ++
  "backgroundColor: \"#f4f4f4\"\n" ++
  "plugins:\n" ++
  "  - type: image\n" ++
  "    mode: clip\n" ++
  "    rect: \x7bleft: 0.02, top: 0.04, right: 0.48, bottom: 0.78\x7d\n" ++
  "    binding: \x7bimage: img_source1\x7d\n" ++
  "\n" ++
  "  - type: image\n" ++
  "    mode: clip\n" ++
  "    rect: \x7bleft: 0.52, top: 0.04, right: 0.98, bottom: 0.78\x7d\n" ++
  "    binding: \x7bimage: img_source2\x7d\n" ++
  "\n" ++
  "  - type: text\n" ++
  "    fontUri: builtin:spleen\n" ++
  "    fontSize: 36\n" ++
  "    color: \"#d0021b\"\n" ++
  "    x: 20\n" ++
  "    y: 460\n" ++
  "    strikeFull: true\n" ++
  "    binding: \x7bprice: price1, promotion_price: promotion_price1\x7d\n" ++
  "\n" ++
  "  - type: text\n" ++
  "    fontUri: builtin:spleen\n" ++
  "    fontSize: 36\n" ++
  "    color: \"#d0021b\"\n" ++
  "    x: 420\n" ++
  "    y: 460\n" ++
  "    strikeFull: true\n" ++
  "    binding: \x7bprice: price2, promotion_price: promotion_price2\x7d\n"

/-- The page that shows a symbol. -/
def symbolPage : String :=
  "# Black QR code on white, centred, 80% of the width.\n" ++
  "allWidths: [300, 500, 1000]\n" ++
  "backgroundColor: \"#ffffff\"\n" ++
  "plugins:\n" ++
  "  - type: qr\n" ++
  "    color: \"#000000\"\n" ++
  "    recovery: medium\n" ++
  "    size: 0.8\n" ++
  "    anchor: \x7bx: 0.5, y: 0.5\x7d\n" ++
  "    binding: \x7btext: qr_payload\x7d\n"

def saleFrame : String :=
  "# Thin border with a price band along the bottom edge.\n" ++
  "# The promo variant swaps in a red band and draws both prices.\n" ++
  "frameURI: frames/sale.png\n" ++
  "promoFrameURI: frames/sale-promo.png\n" ++
  "\n" ++
  "priceOnly:\n" ++
  "  top: 0.8\n" ++
  "  right: 0.5\n" ++
  "  verticalCenter: true\n" ++
  "  height: 0.1\n" ++
  "  fontUri: builtin:spleen\n" ++
  "  color: \"#ffffff\"\n" ++
  "\n" ++
  "priceOrig:\n" ++
  "  top: 0.77\n" ++
  "  right: 0.05\n" ++
  "  height: 0.07\n" ++
  "  color: \"#dddddd\"\n" ++
  "  strikeThrough: 0.12\n" ++
  "  strikePos: 0.55\n" ++
  "\n" ++
  "pricePromo:\n" ++
  "  top: 0.86\n" ++
  "  right: 0.05\n" ++
  "  height: 0.1\n" ++
  "  color: \"#ffffff\"\n"

/-- The artwork of the frame, which is damaged. -/
def saleArtwork : List String := [
  "efbfbd504e470d0a1a0a0000000d4948445200000140000001400806000000cd90efbfbdefbfbd000003efbfbd49",
  "44415478efbfbdefbfbdefbfbd410d00201003efbfbd0b1aefbfbd7f3fefbfbdefbfbd06efbfbdefbfbd4767efbf",
  "bd1aefbfbd636befbfbd79efbfbdefbfbd12574e303301343313403333013433134033efbfbdefbfbd0016efbfbd",
  "27041010400104045000010114404000051010400104041040000104104000010410400001041040000104104000",
  "01041040000104104000010410400001041040000104104000010410400001041010400104045000010114404000",
  "05101040010404500001010410400001041040000104104000010410400001041040000104104000010410400001",
  "04104000010410400001041040000104104000010404500001011440400005101040010404500001010410400001",
  "04104000010410400001041040000104104000010410400001041040000104104000010410400001041040000104",
  "10400001041040400005101040010404500001011440400005101040000104104000010410400001041040000104",
  "10400001041040000104104000010410400001041040000104104000010410400001041040400005101040010404",
  "50000101144040000510104001040410400001041040000104104000010410400001041040000104104000010410",
  "40000104104000010410400001041040000104104000010410104001040450000101144040000510104001040410",
  "40000104104000010410400001041040000104104000010410400001041040000104104000010410400001041040",
  "00010410400001041040000101144040000510104001040450000101144040000104104000010410400001041040",
  "00010410400001041040000104104000010410400001041040000104104000010410400001041040000101144040",
  "00051010400104045000010114404000051010400001041040000104104000010410400001041040000104104000",
  "01041040000104104000010410400001041040000104104000010410404000051010400104045000efbfbdefbfbd",
  "0076efbfbd36334befbfbd00efbfbdefbfbd00efbfbdefbfbd09efbfbdefbfbdefbfbd00efbfbdefbfbd09efbfbd",
  "efbfbdefbfbd00efbfbdefbfbd09efbfbdefbfbdefbfbd00efbfbdefbfbd09efbfbdefbfbdefbfbd00efbfbdefbf",
  "bd09efbfbdefbfbdefbfbd00efbfbdefbfbd09efbfbdefbfbdefbfbd00efbfbdefbfbd09efbfbdefbfbdefbfbd00",
  "efbfbdefbfbd09efbfbdefbfbdefbfbd00efbfbdefbfbd09efbfbdefbfbdefbfbd00efbfbdefbfbd09efbfbdefbf",
  "bdefbfbd00efbfbdefbfbd09efbfbdefbfbdefbfbd00efbfbdefbfbd09efbfbdefbfbdefbfbd00efbfbdefbfbd09",
  "efbfbdefbfbdefbfbd00efbfbdefbfbd09efbfbdefbfbd09efbfbd13efbfbd4c00efbfbdefbfbd04efbfbdefbfbd",
  "4c00efbfbdefbfbd04efbfbdefbfbd4c00efbfbdefbfbd04efbfbdefbfbd4c00efbfbdefbfbd04efbfbdefbfbd4c",
  "00efbfbdefbfbd04efbfbdefbfbd4c00efbfbdefbfbd04efbfbdefbfbd4c00efbfbdefbfbd04efbfbdefbfbd4c00",
  "efbfbdefbfbd04efbfbdefbfbd4c00efbfbdefbfbd04efbfbdefbfbd4c00efbfbdefbfbd04efbfbdefbfbd4c00ef",
  "bfbdefbfbd04efbfbdefbfbd4c00efbfbdefbfbd04efbfbdefbfbd4c00efbfbdefbfbd04efbfbdefbfbd4c00efbf",
  "bdefbfbd04efbfbdefbfbd04efbfbdefbfbd4c00efbfbdefbfbd04efbfbdefbfbd4c00efbfbdefbfbd04efbfbdef",
  "bfbd4c00efbfbdefbfbd04efbfbdefbfbd4c00efbfbdefbfbd04efbfbdefbfbd4c00efbfbdefbfbd04efbfbdefbf",
  "bd4c00efbfbdefbfbd04efbfbdefbfbd4c00efbfbdefbfbd04efbfbdefbfbd4c00efbfbdefbfbd04efbfbdefbfbd",
  "4c00efbfbdefbfbd04efbfbdefbfbd4c00efbfbdefbfbd04efbfbdefbfbdefbfbd7117efbfbdefbfbdefbfbd4d7f",
  "efbfbdefbfbd2e0000000049454e44efbfbd4260efbfbd"]

/-- The artwork of the frame for a promotion, which is damaged too. -/
def promotionArtwork : List String := [
  "efbfbd504e470d0a1a0a0000000d4948445200000140000001400806000000cd90efbfbdefbfbd000003efbfbd49",
  "44415478efbfbdefbfbdefbfbd311100211443efbfbd3fd8b812efbfbdefbfbd41efbfbd39efbfbd061174647726",
  "0652efbfbd5aefbfbd6f33efbfbdc49513efbfbd4c00efbfbdefbfbd04efbfbdefbfbd4c00efbfbdefbfbd04efbf",
  "bdefbfbd2c2aefbfbd05efbfbd080104045000010114404000051010400104045000010104104000010410400001",
  "04104000010410400001041040000104104000010410400001041040000104104000010410400001041040000104",
  "04500001011440400005101040010404500001011440400001041040000104104000010410400001041040000104",
  "10400001041040000104104000010410400001041040000104104000010410400001011440400005101040010404",
  "50000101144040000104104000010410400001041040000104104000010410400001041040000104104000010410",
  "40000104104000010410400001041040000104101040010404500001011440400005101040010404104000010410",
  "40000104104000010410400001041040000104104000010410400001041040000104104000010410400001041040",
  "00010410104001040450000101144040000510104001040450000101041040000104104000010410400001041040",
  "00010410400001041040000104104000010410400001041040000104104000010410400001040450000101144040",
  "00051010400104045000010104104000010410400001041040000104104000010410400001041040000104104000",
  "01041040000104104000010410400001041040000104104040000510104001040450000101144040000510104000",
  "01041040000104104000010410400001041040000104104000010410400001041040000104104000010410400001",
  "04104000010410404000051010400104045000010114404000051010400104041040000104104000010410400001",
  "04104000010410400001041040000104104000010410400001041040000104104000010410400001041010400104",
  "045000010114402037efbfbdefbfbd7defbfbdefbfbd59efbfbd04efbfbdefbfbd04efbfbdefbfbd4c00efbfbdef",
  "bfbd04efbfbdefbfbd4c00efbfbdefbfbd04efbfbdefbfbd4c00efbfbdefbfbd04efbfbdefbfbd4c00efbfbdefbf",
  "bd04efbfbdefbfbd4c00efbfbdefbfbd04efbfbdefbfbd4c00efbfbdefbfbd04efbfbdefbfbd4c00efbfbdefbfbd",
  "04efbfbdefbfbd4c00efbfbdefbfbd04efbfbdefbfbd4c00efbfbdefbfbd04efbfbdefbfbd4c00efbfbdefbfbd04",
  "efbfbdefbfbd4c00efbfbdefbfbd04efbfbdefbfbd4c00efbfbdefbfbd04efbfbdefbfbd4c00efbfbdefbfbd04ef",
  "bfbdefbfbd4c00efbfbd4c00efbfbd606602686626efbfbd666602686626efbfbd666602686626efbfbd66660268",
  "6626efbfbd666602686626efbfbd666602686626efbfbd666602686626efbfbd666602686626efbfbd6666026866",
  "26efbfbd666602686626efbfbd666602686626efbfbd666602686626efbfbd666602686626efbfbd666602686626",
  "efbfbd6626efbfbd666602686626efbfbd666602686626efbfbd666602686626efbfbd666602686626efbfbd6666",
  "02686626efbfbd666602686626efbfbd666602686626efbfbd666602686626efbfbd666602686626efbfbd666602",
  "686626efbfbd6666efbfbd3b7f490c405922efbfbdefbfbd0000000049454e44efbfbd4260efbfbd"]

def tree : FileTree where
  files := [
    (["frames", "sale-promo.png"], octets promotionArtwork),
    (["frames", "sale.png"], octets saleArtwork),
    (["templates", "frame", "sale.yaml"], .ofText saleFrame),
    (["templates", "generic", "product-card.yaml"], .ofText productCard),
    (["templates", "generic", "two-products.yaml"], .ofText twoProducts),
    (["templates", "qr", "default.yaml"], .ofText symbolPage)]
  folders := []

end Placard.Bundle
