/-
# The built-in glyphs

The bitmap glyphs of the built-in face.  A glyph is 24 rows of 12 pixels, written as one number: the
first row is in the highest bits, and so is the leftmost pixel of a row.  The characters below
U+0080 come first and in order, controls included; of the others only those listed have a glyph.
-/

namespace Placard.Font

def glyphWidth : Nat := 12

def glyphHeight : Nat := 24

/-- Rows of a glyph above the line that the letters stand on. -/
def glyphAscent : Nat := 19

/-- The characters that have a glyph, with their glyphs. -/
def spleenGlyphs : List (Nat × Nat) := [
  (0x0000, 0x00000000000000000030c1980f01f830c30c30c30c1f80f019830c000000000000000000),
  (0x0001, 0x000000000060060060060060060060060000000060060060060060060060060000000000),
  (0x0002, 0x00000000030c30c000000000000000000000000000000000000000000000000000000000),
  (0x0003, 0x0000000000000000003187bcffeffeffeffe7fc7fc3f81f00e0040000000000000000000),
  (0x0004, 0x0000000000000000000000400e01f03f87fcffe7fc3f81f00e0040000000000000000000),
  (0x0005, 0x0000000000000000000001f830c6066766c66c66c66c667660630c1f8000000000000000),
  (0x0006, 0x0000000000000000000001f830c6066e66d66d66e66d66d660630c1f8000000000000000),
  (0x0007, 0x0000000000000000000000000000f01f81f81f81f80f0000000000000000000000000000),
  (0x0008, 0xffffffffffffffffffffffffffff0fe07e07e07e07f0ffffffffffffffffffffffffffff),
  (0x0009, 0x0000000000000000000000000f019830c30c30c30c1980f0000000000000000000000000),
  (0x000A, 0xfffffffffffffffffffffffff0fe67cf3cf3cf3cf3e67f0fffffffffffffffffffffffff),
  (0x000B, 0x0000001f8000000000000000000000000000000000000000000000000000000000000000),
  (0x000C, 0x0000000000f01980180700180181980f0000000000000000000000000000000000000000),
  (0x000D, 0x0000000180300600c0000000000000000000000000000000000000000000000000000000),
  (0x000E, 0x0000000000000000000000000000000000000000000000000000000000300300300600c0),
  (0x000F, 0x0000000000600e01e00600600600600f0000000000000000000000000000000000000000),
  (0x0010, 0x0000003c06600601c00606663cc0180300600c018030066006006c06c07e00c00c000000),
  (0x0011, 0x1800c00600001f830c6066066066066067fe606606606606606606606000000000000000),
  (0x0012, 0x0180300600001f830c6066066066066067fe606606606606606606606000000000000000),
  (0x0013, 0x00000000000030c30c30c30c30c30c30c30c30c30c30c00000030c30c000000000000000),
  (0x0014, 0x0000000000001fe3666666666666663661e6066066066066066066066000000000000000),
  (0x0015, 0x0000000000f81983183001800e01f830c30c30c30c1f807001800c18c1981f0000000000),
  (0x0016, 0x0f019830c0001f830c6066066066066067fe606606606606606606606000000000000000),
  (0x0017, 0x1c63fc6380001f830c6066066066066067fe606606606606606606606000000000000000),
  (0x0018, 0x1800c00600001fe3006006006006006007f86006006006006003001fe000000000000000),
  (0x0019, 0x0f019830c0001fe3006006006006006007f86006006006006003001fe000000000000000),
  (0x001A, 0x00030c30c0001fe3006006006006006007f86006006006006003001fe000000000000000),
  (0x001B, 0x0c00600300003fc0600600600600600600600600600600600600603fc000000000000000),
  (0x001C, 0x0300600c00003fc0600600600600600600600600600600600600603fc000000000000000),
  (0x001D, 0x0f019830c0003fc0600600600600600600600600600600600600603fc000000000000000),
  (0x001E, 0x00030c30c0003fc0600600600600600600600600600600600600603fc000000000000000),
  (0x001F, 0x0000000000007fc60e606606606606606fc660660660660660660e7fc000000000000000),
  (0x0020, 0x000000000000000000000000000000000000000000000000000000000000000000000000),
  (0x0021, 0x000000000000060060060060060060060060060060060000000060060000000000000000),
  (0x0022, 0x00000030c30c30c30c30c30c30c000000000000000000000000000000000000000000000),
  (0x0023, 0x00000000000030c30c30c7fe30c30c30c30c30c30c30c7fe30c30c30c000000000000000),
  (0x0024, 0x0000000600601fe3606606606606603601f806c06606606606606c7f8060060000000000),
  (0x0025, 0x00000000000000000c38c6d86d83b00300600600c00dc1b61b631c300000000000000000),
  (0x0026, 0x0000000000000f019830c30c30c30c1980f033061a60e60c60c31e1f3000000000000000),
  (0x0027, 0x000000060060060060060060060000000000000000000000000000000000000000000000),
  (0x0028, 0x00000000e0180300600c00c01801801801801801801801800c00c006003001800e000000),
  (0x0029, 0x0000007001800c00600300300180180180180180180180180300300600c0180700000000),
  (0x002A, 0x00000000000000000000000030c1980f00607fe0600f019830c000000000000000000000),
  (0x002B, 0x0000000000000000000000000000600600603fc060060060000000000000000000000000),
  (0x002C, 0x0000000000000000000000000000000000000000000000000600600600c0180000000000),
  (0x002D, 0x0000000000000000000000000000000000003fc000000000000000000000000000000000),
  (0x002E, 0x000000000000000000000000000000000000000000000000000060060000000000000000),
  (0x002F, 0x00000000300300600600c00c0180180300300600600c00c0180180300300600600000000),
  (0x0030, 0x0000000000001f830c60660660e61e6366666c678670660660630c1f8000000000000000),
  (0x0031, 0x0000000000000e01e03602600600600600600600600600600600603fc000000000000000),
  (0x0032, 0x0000000000001f830c60600600600600c0180300600c01803006067fe000000000000000),
  (0x0033, 0x0000000000001f830c60600600600c0f800c00600600600660630c1f8000000000000000),
  (0x0034, 0x0000000000006006006006186186186186186186187fe018018018018000000000000000),
  (0x0035, 0x0000000000007fe6066006006006007f800c00600600600660630c1f8000000000000000),
  (0x0036, 0x0000000000001fc3066006006006007f860c60660660660660630c1f8000000000000000),
  (0x0037, 0x0000000000007fe60600600600600c0180300600c00c00c00c00c00c0000000000000000),
  (0x0038, 0x0000000000001f830c60660660630c1f830c60660660660660630c1f8000000000000000),
  (0x0039, 0x0000000000001f830c6066066066066063061fe00600600600660c3f8000000000000000),
  (0x003A, 0x000000000000000000000000000000060060000000000000000060060000000000000000),
  (0x003B, 0x0000000000000000000000000000000600600000000000000600600600c0180000000000),
  (0x003C, 0x00000000000000600c0180300600c01803001800c006003001800c006000000000000000),
  (0x003D, 0x0000000000000000000000000007fe0000000000007fe000000000000000000000000000),
  (0x003E, 0x0000000000003001800c006003001800c00600c0180300600c0180300000000000000000),
  (0x003F, 0x0000000000001f830c60600600600c018030060060060000000060060000000000000000),
  (0x0040, 0x0000000000000001f830c60660667667667667667667667e6003001fc000000000000000),
  (0x0041, 0x0000000000001f830c6066066066066067fe606606606606606606606000000000000000),
  (0x0042, 0x0000000000007f860c60660660660660c7f860c60660660660660c7f8000000000000000),
  (0x0043, 0x0000000000001fe3006006006006006006006006006006006003001fe000000000000000),
  (0x0044, 0x0000000000007f860c60660660660660660660660660660660660c7f8000000000000000),
  (0x0045, 0x0000000000001fe3006006006006006007f86006006006006003001fe000000000000000),
  (0x0046, 0x0000000000001fe3006006006006006007f8600600600600600600600000000000000000),
  (0x0047, 0x0000000000001fe30060060060060060063e6066066066066063061fe000000000000000),
  (0x0048, 0x0000000000006066066066066066066067fe606606606606606606606000000000000000),
  (0x0049, 0x0000000000003fc0600600600600600600600600600600600600603fc000000000000000),
  (0x004A, 0x0000000000003fc0600600600600600600600600600600600600e07c0000000000000000),
  (0x004B, 0x00000000000060660660660660660c6187f061860c606606606606606000000000000000),
  (0x004C, 0x0000000000006006006006006006006006006006006006006003001fe000000000000000),
  (0x004D, 0x00000000000060670e79e6f6666606606606606606606606606606606000000000000000),
  (0x004E, 0x0000000000006067067067867866c66c666666663663661e61e60e60e000000000000000),
  (0x004F, 0x0000000000001f830c60660660660660660660660660660660630c1f8000000000000000),
  (0x0050, 0x0000000000007f860c60660660660660c7f8600600600600600600600000000000000000),
  (0x0051, 0x0000000000001f830c60660660660660660660660666666663633c1f801800c00c000000),
  (0x0052, 0x0000000000007f860c60660660660660c7f860c606606606606606606000000000000000),
  (0x0053, 0x0000000000001fe3006006006006003001f800c00600600600600c7f8000000000000000),
  (0x0054, 0x0000000000007fe060060060060060060060060060060060060060060000000000000000),
  (0x0055, 0x0000000000006066066066066066066066066066066066066063061fe000000000000000),
  (0x0056, 0x00000000000060660660660660660660660660660630c30c1980f0060000000000000000),
  (0x0057, 0x0000000000006066066066066066066066066066066666f679e70e606000000000000000),
  (0x0058, 0x00000000000060660660660660660630c1f830c606606606606606606000000000000000),
  (0x0059, 0x0000000000006066066066066066063061fe00600600600600600e7fc000000000000000),
  (0x005A, 0x0000000000007fe00600600600c0180300600c01803006006006007fe000000000000000),
  (0x005B, 0x0001fe1801801801801801801801801801801801801801801801801801801801801fe000),
  (0x005C, 0x000000c00c006006003003001801800c00c006006003003001801800c00c006006000000),
  (0x005D, 0x0007f80180180180180180180180180180180180180180180180180180180180187f8000),
  (0x005E, 0x0000000400e01b031860cc06000000000000000000000000000000000000000000000000),
  (0x005F, 0x0000000000000000000000000000000000000000000000000000000000000000007fe000),
  (0x0060, 0x0000001800c0060030000000000000000000000000000000000000000000000000000000),
  (0x0061, 0x0000000000000000000000003f800c0060061fe3066066066063061fe000000000000000),
  (0x0062, 0x0000000000006006006006007f860c60660660660660660660660c7f8000000000000000),
  (0x0063, 0x0000000000000000000000001fe3006006006006006006006003001fe000000000000000),
  (0x0064, 0x0000000000000060060060061fe3066066066066066066066063061fe000000000000000),
  (0x0065, 0x0000000000000000000000001fe3066066066067fe6006006003001fe000000000000000),
  (0x0066, 0x00000000000007c0e00c00c00c00c03f80c00c00c00c00c00c00c00c0000000000000000),
  (0x0067, 0x0000000000000000000000001fe3066066066066066066066063061fc00c00600600c3f8),
  (0x0068, 0x0000000000006006006006007f860c606606606606606606606606606000000000000000),
  (0x0069, 0x0000000000000600600000001e0060060060060060060060060060078000000000000000),
  (0x006A, 0x0000000000000600600000000600600600600600600600600600600600600600600c0780),
  (0x006B, 0x00000000000030030030030030c30c3183303e036033031830c306306000000000000000),
  (0x006C, 0x0000000000000c00c00c00c00c00c00c00c00c00c00c00c00c00e007c000000000000000),
  (0x006D, 0x00000000000000000000000079866c666666666666666666606606606000000000000000),
  (0x006E, 0x0000000000000000000000007f860c606606606606606606606606606000000000000000),
  (0x006F, 0x0000000000000000000000001f830c60660660660660660660630c1f8000000000000000),
  (0x0070, 0x0000000000000000000000007f860c60660660660660660660660c7f8600600600600600),
  (0x0071, 0x0000000000000000000000001fe3066066066066066066066063061fe006006006006006),
  (0x0072, 0x0000000000000000000000001fe306600600600600600600600600600000000000000000),
  (0x0073, 0x0000000000000000000000003fe6006006006003fc0060060060067fc000000000000000),
  (0x0074, 0x0000000000000c00c00c00c03f80c00c00c00c00c00c00c00c00e007c000000000000000),
  (0x0075, 0x0000000000000000000000006066066066066066066066066063061fe000000000000000),
  (0x0076, 0x00000000000000000000000060660660660660660630c30c1980f0060000000000000000),
  (0x0077, 0x00000000000000000000000060660660666666666666666666636619e000000000000000),
  (0x0078, 0x00000000000000000000000060660630c1980f00f019830c30c606606000000000000000),
  (0x0079, 0x0000000000000000000000006066066066066066066066066063061fe00600600600c7f8),
  (0x007A, 0x0000000000000000000000007fe00600c0180300600c01803006007fe000000000000000),
  (0x007B, 0x00001e0300600600600600600600600c03803800c006006006006006006006003001e000),
  (0x007C, 0x000000000060060060060060060060060060060060060060060060060060060000000000),
  (0x007D, 0x0003c006003003003003003003003001800e00e0180300300300300300300300603c0000),
  (0x007E, 0x0000000000000000000000000000003866c6c6cc38000000000000000000000000000000),
  (0x007F, 0x1800c00600001f830c60660660660660660660660660660660630c1f8000000000000000),
  (0x00A1, 0x000000000000060060000000060060060060060060060060060060060000000000000000),
  (0x00A2, 0x0000000000000000000300301fe3306306306306306306306303301fe030030000000000),
  (0x00A3, 0x0000000000000700d818c18c1801801807f81801801801803003007fe000000000000000),
  (0x00A4, 0x00000000000000000030c1980f01f830c30c30c30c1f80f019830c000000000000000000),
  (0x00A5, 0x00000000000060660630c30c1981980f00f00603fc0600603fc060060000000000000000),
  (0x00A6, 0x000000000060060060060060060060060000000060060060060060060060060000000000),
  (0x00A7, 0x0000000000f81983183001800e01f830c30c30c30c1f807001800c18c1981f0000000000),
  (0x00A8, 0x00000000030c30c000000000000000000000000000000000000000000000000000000000),
  (0x00A9, 0x0000000000000000000001f830c6066766c66c66c66c667660630c1f8000000000000000),
  (0x00AA, 0x0000000f00180180f81981980f80001f8000000000000000000000000000000000000000),
  (0x00AC, 0x0000000000000000000000000007fe006006006006006000000000000000000000000000),
  (0x00AE, 0x0000000000000000000001f830c6066e66d66d66e66d66d660630c1f8000000000000000),
  (0x00B0, 0x0000000000f01981981981980f0000000000000000000000000000000000000000000000),
  (0x00B1, 0x0000000000000000000000600600603fc0600600600000003fc000000000000000000000),
  (0x00B2, 0x0000000000f01980180300600c01981f8000000000000000000000000000000000000000),
  (0x00B3, 0x0000000000f01980180700180181980f0000000000000000000000000000000000000000),
  (0x00B4, 0x0000000180300600c0000000000000000000000000000000000000000000000000000000),
  (0x00B6, 0x0000000000001fe3666666666666663661e6066066066066066066066000000000000000),
  (0x00B7, 0x000000000000000000000000000000000060060000000000000000000000000000000000),
  (0x00B8, 0x0000000000000000000000000000000000000000000000000000000000300300300600c0),
  (0x00B9, 0x0000000000600e01e00600600600600f0000000000000000000000000000000000000000),
  (0x00BA, 0x0000000000f01981981981980f00001f8000000000000000000000000000000000000000),
  (0x00BC, 0x00000018038078018018018618c3d80300600c018030066006006c06c07e00c00c000000),
  (0x00BD, 0x00000018038078018018018618c3d80300600c018033c66600600c01803006607e000000),
  (0x00BE, 0x0000003c06600601c00606663cc0180300600c018030066006006c06c07e00c00c000000),
  (0x00BF, 0x0000000000000600600000000600600600c018030060060060630c1f8000000000000000),
  (0x00C0, 0x1800c00600001f830c6066066066066067fe606606606606606606606000000000000000),
  (0x00C1, 0x0180300600001f830c6066066066066067fe606606606606606606606000000000000000),
  (0x00C2, 0x0f019830c0001f830c6066066066066067fe606606606606606606606000000000000000),
  (0x00C3, 0x1c63fc6380001f830c6066066066066067fe606606606606606606606000000000000000),
  (0x00C4, 0x00030c30c0001f830c6066066066066067fe606606606606606606606000000000000000),
  (0x00C6, 0x0000000000001fe3306306306306306307fc63063063063063063063e000000000000000),
  (0x00C7, 0x0000000000001fe3006006006006006006006006006006006003001fe0300300300600c0),
  (0x00C8, 0x1800c00600001fe3006006006006006007f86006006006006003001fe000000000000000),
  (0x00C9, 0x0180300600001fe3006006006006006007f86006006006006003001fe000000000000000),
  (0x00CA, 0x0f019830c0001fe3006006006006006007f86006006006006003001fe000000000000000),
  (0x00CC, 0x0c00600300003fc0600600600600600600600600600600600600603fc000000000000000),
  (0x00CD, 0x0300600c00003fc0600600600600600600600600600600600600603fc000000000000000),
  (0x00CE, 0x0f019830c0003fc0600600600600600600600600600600600600603fc000000000000000),
  (0x00D1, 0x1c63fc6380006067067067867866c66c666666663663661e61e60e60e000000000000000),
  (0x00D2, 0x1800c00600001f830c60660660660660660660660660660660630c1f8000000000000000),
  (0x00D3, 0x0180300600001f830c60660660660660660660660660660660630c1f8000000000000000),
  (0x00D4, 0x0f019830c0001f830c60660660660660660660660660660660630c1f8000000000000000),
  (0x00D5, 0x1c63fc6380001f830c60660660660660660660660660660660630c1f8000000000000000),
  (0x00D6, 0x00030c30c0001f830c60660660660660660660660660660660630c1f8000000000000000),
  (0x00D7, 0x00000000000000000000060630c1980f00600600f019830c606000000000000000000000),
  (0x00D8, 0x0000000000061fe30c60e61e61e6366366666666c66c678678630c3f8600600000000000),
  (0x00D9, 0x1800c00600006066066066066066066066066066066066066063061fe000000000000000),
  (0x00DA, 0x0180300600006066066066066066066066066066066066066063061fe000000000000000),
  (0x00DB, 0x0f019830c0006066066066066066066066066066066066066063061fe000000000000000),
  (0x00DC, 0x00030c30c0006066066066066066066066066066066066066063061fe000000000000000),
  (0x00DD, 0x0180300600006066066066066066063061fe00600600600600600e7fc000000000000000),
  (0x00DE, 0x0000000000000006006006007f860c60660660660660660660660c7f8600600600000000),
  (0x00DF, 0x0000000000001e03306186186186186306f063860c6066066066866cc678000000000000),
  (0x00E0, 0x0000001800c00600300000003f800c0060061fe3066066066063061fe000000000000000),
  (0x00E1, 0x0000000180300600c00000003f800c0060061fe3066066066063061fe000000000000000),
  (0x00E2, 0x0000000600f019830c0000003f800c0060061fe3066066066063061fe000000000000000),
  (0x00E3, 0x0000001863c666c6380000003f800c0060061fe3066066066063061fe000000000000000),
  (0x00E4, 0x00000000030c30c0000000003f800c0060061fe3066066066063061fe000000000000000),
  (0x00E5, 0x0000000f01981980f00000003f800c0060061fe3066066066063061fe000000000000000),
  (0x00E6, 0x00000000000000000000000039e0f60660661fe3606606606603701de000000000000000),
  (0x00E7, 0x0000000000000000000000001fe3006006006006006006006003001fe0300300300600c0),
  (0x00E8, 0x0000001800c00600300000001fe3066066066067fe6006006003001fe000000000000000),
  (0x00E9, 0x0000000180300600c00000001fe3066066066067fe6006006003001fe000000000000000),
  (0x00EA, 0x0000000600f019830c0000001fe3066066066067fe6006006003001fe000000000000000),
  (0x00EC, 0x0000001800c00600300000001e0060060060060060060060060060078000000000000000),
  (0x00ED, 0x0000000180300600c00000001e0060060060060060060060060060078000000000000000),
  (0x00EE, 0x0000000600f019830c0000001e0060060060060060060060060060078000000000000000),
  (0x00F0, 0x0000006603c01803c06600301f830c60660660660660660660630c1f8000000000000000),
  (0x00F1, 0x0000001863c666c6380000007f860c606606606606606606606606606000000000000000),
  (0x00F2, 0x0000001800c00600300000001f830c60660660660660660660630c1f8000000000000000),
  (0x00F3, 0x0000000180300600c00000001f830c60660660660660660660630c1f8000000000000000),
  (0x00F4, 0x0000000600f019830c0000001f830c60660660660660660660630c1f8000000000000000),
  (0x00F5, 0x0000001863c666c6380000001f830c60660660660660660660630c1f8000000000000000),
  (0x00F6, 0x00000000030c30c0000000001f830c60660660660660660660630c1f8000000000000000),
  (0x00F7, 0x0000000000000000000000000600600000003fc000000060060000000000000000000000),
  (0x00F8, 0x0000000000000000000000011fb30e60e61e6366666c678670670cdf8800000000000000),
  (0x00F9, 0x0000001800c00600300000006066066066066066066066066063061fe000000000000000),
  (0x00FA, 0x0000000180300600c00000006066066066066066066066066063061fe000000000000000),
  (0x00FB, 0x0000000600f019830c0000006066066066066066066066066063061fe000000000000000),
  (0x00FC, 0x00000000030c30c0000000006066066066066066066066066063061fe000000000000000),
  (0x00FD, 0x0000000180300600c00000006066066066066066066066066063061fe00600600600c7f8),
  (0x00FE, 0x0000000006006006006006007f860c60660660660660660660660c7f8600600600600600),
  (0x00FF, 0x00000000030c30c0000000006066066066066066066066066063061fe00600600600c7f8),
  (0x0100, 0x0003fc0000001f830c6066066066066067fe606606606606606606606000000000000000),
  (0x0101, 0x0000000000000003fc0000003f800c0060061fe3066066066063061fe000000000000000),
  (0x0104, 0x0000000000001f830c6066066066066067fe60660660660660660660600e01801800f000),
  (0x0105, 0x0000000000000000000000003f800c0060061fe3066066066063061fe00c01801800f000),
  (0x0106, 0x0180300600001fe3006006006006006006006006006006006003001fe000000000000000),
  (0x0107, 0x0000000180300600c00000001fe3006006006006006006006003001fe000000000000000),
  (0x0108, 0x0f019830c0001fe3006006006006006006006006006006006003001fe000000000000000),
  (0x0109, 0x0000000600f019830c0000001fe3006006006006006006006003001fe000000000000000),
  (0x010A, 0x0000600600001fe3006006006006006006006006006006006003001fe000000000000000),
  (0x010B, 0x0000000000600600000000001fe3006006006006006006006003001fe000000000000000),
  (0x010C, 0x30c1980f00001fe3006006006006006006006006006006006003001fe000000000000000),
  (0x010D, 0x00000030c1980f00600000001fe3006006006006006006006003001fe000000000000000),
  (0x010E, 0x30c1980f00007f860c60660660660660660660660660660660660c7f8000000000000000),
  (0x010F, 0x30c1980f00000060060060061fe3066066066066066066066063061fe000000000000000),
  (0x0111, 0x00000000000000603f0060061fe3066066066066066066066063061fe000000000000000),
  (0x0112, 0x0003fc0000001fe3006006006006006007f86006006006006003001fe000000000000000),
  (0x0113, 0x0000000000000003fc0000001fe3066066066067fe6006006003001fe000000000000000),
  (0x0116, 0x0000600600001fe3006006006006006007f86006006006006003001fe000000000000000),
  (0x0117, 0x0000000000600600000000001fe3066066066067fe6006006003001fe000000000000000),
  (0x0118, 0x0000000000001fe3006006006006006007f86006006006006003001fe00c01801800f000),
  (0x0119, 0x0000000000000000000000001fe3066066066067fe6006006003001fe00c01801800f000),
  (0x011A, 0x30c1980f00001fe3006006006006006007f86006006006006003001fe000000000000000),
  (0x011B, 0x00000030c1980f00600000001fe3066066066067fe6006006003001fe000000000000000),
  (0x011C, 0x0f019830c0001fe30060060060060060063e6066066066066063061fe000000000000000),
  (0x011D, 0x0000000600f019830c0000001fe3066066066066066066066063061fc00c00600600c3f8),
  (0x011E, 0x1981980f00001fe30060060060060060063e6066066066066063061fe000000000000000),
  (0x011F, 0x0000000001981980f00000001fe3066066066066066066066063061fc00c00600600c3f8),
  (0x0120, 0x0000600600001fe30060060060060060063e6066066066066063061fe000000000000000),
  (0x0121, 0x0000000000600600000000001fe3066066066066066066066063061fc00c00600600c3f8),
  (0x0122, 0x0000000000001fe30060060060060060063e6066066066066063061fe0300300300600c0),
  (0x0123, 0x0000300300300600c00000001fe3066066066066066066066063061fc00c00600600c3f8),
  (0x0124, 0x0f019830c0006066066066066066066067fe606606606606606606606000000000000000),
  (0x0125, 0x0f019830c0006006006006007f860c606606606606606606606606606000000000000000),
  (0x0126, 0x000000000000606606fff6066066066067fe606606606606606606606000000000000000),
  (0x0127, 0x000000000000600fc06006007f860c606606606606606606606606606000000000000000),
  (0x0128, 0x1c63fc6380003fc0600600600600600600600600600600600600603fc000000000000000),
  (0x0129, 0x0000001863c666c6380000001e0060060060060060060060060060078000000000000000),
  (0x012A, 0x0003fc0000003fc0600600600600600600600600600600600600603fc000000000000000),
  (0x012B, 0x0000000000000003fc0000001e0060060060060060060060060060078000000000000000),
  (0x012E, 0x0000000000003fc0600600600600600600600600600600600600603fc01803003001e000),
  (0x012F, 0x0000000000000600600000001e006006006006006006006006006007803006006003c000),
  (0x0130, 0x0000600600003fc0600600600600600600600600600600600600603fc000000000000000),
  (0x0131, 0x0000000000000000000000001e0060060060060060060060060060078000000000000000),
  (0x0134, 0x0f019830c0003fc0600600600600600600600600600600600600e07c0000000000000000),
  (0x0135, 0x0000000600f019830c0000000600600600600600600600600600600600600600600c0780),
  (0x0136, 0x00000000000060660660660660660c6187f061860c6066066066066060600600600c0180),
  (0x0137, 0x00000000000030030030030030c30c3183303e036033031830c3063060300300300600c0),
  (0x0138, 0x00000000000000000000000030c30c3183303603c036033031830c30c000000000000000),
  (0x0139, 0x0180300600006006006006006006006006006006006006006003001fe000000000000000),
  (0x013A, 0x0180300600000c00c00c00c00c00c00c00c00c00c00c00c00c00e007c000000000000000),
  (0x013B, 0x0000000000006006006006006006006006006006006006006003001fe0300300300600c0),
  (0x013C, 0x0000000000000c00c00c00c00c00c00c00c00c00c00c00c00c00e007c0300300300600c0),
  (0x013D, 0x30c1980f00006006006006006006006006006006006006006003001fe000000000000000),
  (0x013E, 0x30c1980f00000c00c00c00c00c00c00c00c00c00c00c00c00c00e007c000000000000000),
  (0x0141, 0x0000000000006006006006006c0780700600e00e006006006003001fe000000000000000),
  (0x0142, 0x0000000000000c00c00c00c00d80f00e00c01c01c00c00c00c00e007c000000000000000),
  (0x0143, 0x0300600c00006067067067867866c66c666666663663661e61e60e60e000000000000000),
  (0x0144, 0x0000000180300600c00000007f860c606606606606606606606606606000000000000000),
  (0x0145, 0x0000000000006067067067867866c66c666666663663661e61e60e60e0600600600c0180),
  (0x0146, 0x0000000000000000000000007f860c6066066066066066066066066060600600600c0180),
  (0x0147, 0x30c1980f00006067067067867866c66c666666663663661e61e60e60e000000000000000),
  (0x0148, 0x00000030c1980f00600000007f860c606606606606606606606606606000000000000000),
  (0x014A, 0x0000000000006067067067867866c66c666666663663661e61e60e60e00600600c038000),
  (0x014B, 0x0000000000000000000000007f860c60660660660660660660660660600600600c038000),
  (0x014C, 0x0003fc0000001f830c60660660660660660660660660660660630c1f8000000000000000),
  (0x014D, 0x0000000000000003fc0000001f830c60660660660660660660630c1f8000000000000000),
  (0x0150, 0x0660cc1980001f830c60660660660660660660660660660660630c1f8000000000000000),
  (0x0151, 0x0000000660cc1983300000001f830c60660660660660660660630c1f8000000000000000),
  (0x0152, 0x0000000000001fe33063063063063063063c6306306306306303301fe000000000000000),
  (0x0153, 0x0000000000000000000000001de37666666667e6606606606603701de000000000000000),
  (0x0154, 0x0180300600007f860c60660660660660c7f860c606606606606606606000000000000000),
  (0x0155, 0x0000000180300600c00000001fe306600600600600600600600600600000000000000000),
  (0x0156, 0x0000000000007f860c60660660660660c7f860c6066066066066066060600600600c0180),
  (0x0157, 0x0000000000000000000000001fe3066006006006006006006006006000600600600c0180),
  (0x0158, 0x30c1980f00007f860c60660660660660c7f860c606606606606606606000000000000000),
  (0x0159, 0x00000030c1980f00600000001fe306600600600600600600600600600000000000000000),
  (0x015A, 0x0180300600001fe3006006006006003001f800c00600600600600c7f8000000000000000),
  (0x015B, 0x0000000180300600c00000003fe6006006006003fc0060060060067fc000000000000000),
  (0x015C, 0x0f019830c0001fe3006006006006003001f800c00600600600600c7f8000000000000000),
  (0x015D, 0x0000000600f019830c0000003fe6006006006003fc0060060060067fc000000000000000),
  (0x015E, 0x0000000000001fe3006006006006003001f800c00600600600600c7f80600600600c0180),
  (0x015F, 0x0000000000000000000000003fe6006006006003fc0060060060067fc0600600600c0180),
  (0x0160, 0x30c1980f00001fe3006006006006003001f800c00600600600600c7f8000000000000000),
  (0x0161, 0x00000030c1980f00600000003fe6006006006003fc0060060060067fc000000000000000),
  (0x0162, 0x0000000000007fe0600600600600600600600600600600600600600600300300300600c0),
  (0x0163, 0x0000000000000c00c00c00c03f80c00c00c00c00c00c00c00c00e007c0300300300600c0),
  (0x0164, 0x30c1980f00007fe060060060060060060060060060060060060060060000000000000000),
  (0x0165, 0x30c1980f00000c00c00c00c03f80c00c00c00c00c00c00c00c00e007c000000000000000),
  (0x0166, 0x0000000000007fe0600600600600600601f8060060060060060060060000000000000000),
  (0x0167, 0x0000000000000c00c00c00c03f80c00c03f80c00c00c00c00c00e007c000000000000000),
  (0x0168, 0x1c63fc6380006066066066066066066066066066066066066063061fe000000000000000),
  (0x0169, 0x0000001863c666c6380000006066066066066066066066066063061fe000000000000000),
  (0x016A, 0x0003fc0000006066066066066066066066066066066066066063061fe000000000000000),
  (0x016B, 0x0000000000000003fc0000006066066066066066066066066063061fe000000000000000),
  (0x016C, 0x1981980f00006066066066066066066066066066066066066063061fe000000000000000),
  (0x016D, 0x0000000001981980f00000006066066066066066066066066063061fe000000000000000),
  (0x016E, 0x0f01981980f06066066066066066066066066066066066066063061fe000000000000000),
  (0x016F, 0x0000000f01981980f00000006066066066066066066066066063061fe000000000000000),
  (0x0170, 0x0660cc1980006066066066066066066066066066066066066063061fe000000000000000),
  (0x0171, 0x0000000660cc1983300000006066066066066066066066066063061fe000000000000000),
  (0x0172, 0x0000000000006066066066066066066066066066066066066063061fe00c01801800f000),
  (0x0173, 0x0000000000000000000000006066066066066066066066066063061fe00c01801800f000),
  (0x0178, 0x00030c30c0006066066066066066063061fe00600600600600600e7fc000000000000000),
  (0x0179, 0x0180300600007fe00600600600c0180300600c01803006006006007fe000000000000000),
  (0x017A, 0x0000000180300600c00000007fe00600c0180300600c01803006007fe000000000000000),
  (0x017B, 0x0000600600007fe00600600600c0180300600c01803006006006007fe000000000000000),
  (0x017C, 0x0000000000600600000000007fe00600c0180300600c01803006007fe000000000000000),
  (0x017D, 0x30c1980f00007fe00600600600c0180300600c01803006006006007fe000000000000000),
  (0x017E, 0x00000030c1980f00600000007fe00600c0180300600c01803006007fe000000000000000),
  (0x02D8, 0x30c1980f0000000000000000000000000000000000000000000000000000000000000000),
  (0x02D9, 0x000060060000000000000000000000000000000000000000000000000000000000000000),
  (0x02DB, 0x00000000000000000000000000000000000000000000000000000000000c01801800f000),
  (0x02DC, 0x1c63fc638000000000000000000000000000000000000000000000000000000000000000),
  (0x02DD, 0x0660cc198000000000000000000000000000000000000000000000000000000000000000),
  (0x040E, 0x1981980f00006066066066066066063061fe00600600600600600e7fc000000000000000),
  (0x0411, 0x0000000000007f86006006006006006007f860c60660660660660c7f8000000000000000),
  (0x0414, 0x0000000000000fc18c30c30c30c30c30c30c30c30c30c30c3fc606606000000000000000),
  (0x0416, 0x00000000000066666666666666666636c1f836c666666666666666666000000000000000),
  (0x0417, 0x0000000000007f800c00600600600c1f800c00600600600600600c7f8000000000000000),
  (0x0418, 0x00000000000060660e60e61e61e6366366666666c66c6786786706706000000000000000),
  (0x0419, 0x1981980f000060660e60e61e61e6366366666666c66c6786786706706000000000000000),
  (0x041B, 0x0000000000001fe306606606606606606606606606606606606606606000000000000000),
  (0x0423, 0x0000000000006066066066066066063061fe00600600600600600e7fc000000000000000),
  (0x0426, 0x0000000000006066066066066066066066066066066066066063061ff00300300300600c),
  (0x0427, 0x0000000000006066066066066066063061fe006006006006006006006000000000000000),
  (0x0428, 0x00000000000066666666666666666666666666666666666666636c1f8000000000000000),
  (0x0429, 0x0000000000006666666666666666666666666666666666666663661ff00300300300600c),
  (0x042A, 0x000000000000f801801801801801801801f818c18618618618618c1f8000000000000000),
  (0x042B, 0x0000000000006066066066066066066067c66666366366366366667c6000000000000000),
  (0x042C, 0x0000000000001801801801801801801801f818c18618618618618c1f8000000000000000),
  (0x042D, 0x0000000000007f800c0060060060060061fe00600600600600600c7f8000000000000000),
  (0x042E, 0x00000000000063866c6c66c66c66c66c67c66c66c66c66c66c666c638000000000000000),
  (0x042F, 0x0000000000001fe3066066066066063061fe306606606606606606606000000000000000),
  (0x0431, 0x0000000000000000000000001fc3006006007f860c60660660630c1f8000000000000000),
  (0x0432, 0x0000000000001c03606306306306307607f860c60660660660630c1f8000000000000000),
  (0x0433, 0x0000000000000000000000007fc0060060060063fc6006006006003fe000000000000000),
  (0x0434, 0x0000000000000000000000001fe3066066066066066066066063061fe00600600600c3f8),
  (0x0436, 0x00000000000000000000000066666636c1f80f00f01f836c36c666666000000000000000),
  (0x0437, 0x0000000000000000000000007f800c00600600c1f800c00600600c7f8000000000000000),
  (0x0438, 0x0000000000000000000000006066066066066066066066066063061fe000000000000000),
  (0x0439, 0x0000000001981980f00000006066066066066066066066066063061fe000000000000000),
  (0x043A, 0x00000000000000000000000030c30c3183303603e033031830c306306000000000000000),
  (0x043B, 0x0000000000000000000000001fe306606606606606606606606606606000000000000000),
  (0x043C, 0x00000000000000000000000060670e79e6f6666606606606606606606000000000000000),
  (0x043D, 0x0000000000000000000000006066066066066067fe606606606606606000000000000000),
  (0x043F, 0x0000000000000000000000007f860c606606606606606606606606606000000000000000),
  (0x0442, 0x00000000000000000000000079866c666666666666666666606606606000000000000000),
  (0x0444, 0x0000000000000000000000001f836c66666666666666666666636c1f8060060060000000),
  (0x0446, 0x0000000000000000000000006066066066066066066066066063061ff00300300300600c),
  (0x0447, 0x0000000000000000000000006066066066066063061fe006006006006000000000000000),
  (0x0448, 0x00000000000000000000000060660660666666666666666666636619e000000000000000),
  (0x0449, 0x00000000000000000000000060660660666666666666666666636619f00300300300600c),
  (0x044A, 0x000000000000000000000000f801801801801f818c18618618618c1f8000000000000000),
  (0x044B, 0x0000000000000000000000006066066066067c66666366366366667c6000000000000000),
  (0x044C, 0x0000000000000000000000001801801801801f818c18618618618c1f8000000000000000),
  (0x044D, 0x0000000000000000000000007f800c0060060061fe00600600600c7f8000000000000000),
  (0x044E, 0x00000000000000000000000063866c6c66c66c67c66c66c66c666c638000000000000000),
  (0x044F, 0x0000000000000000000000001fe3066066063061fe306606606606606000000000000000),
  (0x045E, 0x0000000001981980f00000006066066066066066066066066063061fe00600600600c7f8),
  (0x0490, 0x00000000000000600600c1f8300600600600600600600600600600600000000000000000),
  (0x0491, 0x00000000000000000000000000600600c1f8300600600600600600600000000000000000),
  (0x2016, 0x000000000198198198198198198198198198198198198198198198198198198000000000),
  (0x2018, 0x000000060060060060060060060000000000000000000000000000000000000000000000),
  (0x2019, 0x000000060060060060060060060000000000000000000000000000000000000000000000),
  (0x201C, 0x00000030c30c30c30c30c30c30c000000000000000000000000000000000000000000000),
  (0x201D, 0x00000030c30c30c30c30c30c30c000000000000000000000000000000000000000000000),
  (0x2026, 0x000000000000000000000000000000000000000000000000000666666000000000000000),
  (0x2039, 0x0000000000000000000000000000300600c01803001800c0060030000000000000000000),
  (0x203A, 0x0000000000000000000000000000c006003001800c0180300600c0000000000000000000),
  (0x203C, 0x00000000000030c30c30c30c30c30c30c30c30c30c30c00000030c30c000000000000000),
  (0x207F, 0x0000000001f0198198198198198198198000000000000000000000000000000000000000),
  (0x20AC, 0x0000000000000780cc186186300300ff0300300ff03003001861860cc078000000000000),
  (0x2248, 0x0000000000000000000000001c636c6380000001c636c638000000000000000000000000),
  (0x2310, 0x0000000000000000000000000007fe600600600600600000000000000000000000000000),
  (0x2580, 0xffffffffffffffffffffffffffffffffffff000000000000000000000000000000000000),
  (0x2584, 0x000000000000000000000000000000000000ffffffffffffffffffffffffffffffffffff),
  (0x2588, 0xffffffffffffffffffffffffffffffffffffffffffffffffffffffffffffffffffffffff),
  (0x258C, 0xfc0fc0fc0fc0fc0fc0fc0fc0fc0fc0fc0fc0fc0fc0fc0fc0fc0fc0fc0fc0fc0fc0fc0fc0),
  (0x2590, 0x03f03f03f03f03f03f03f03f03f03f03f03f03f03f03f03f03f03f03f03f03f03f03f03f),
  (0x2591, 0x0c36db6180c36db6180c36db6180c36db6180c36db6180c36db6180c36db6180c36db618),
  (0x2592, 0x333333cccccc333333cccccc333333cccccc333333cccccc333333cccccc333333cccccc),
  (0x2593, 0xe79e793cf3cfe79e793cf3cfe79e793cf3cfe79e793cf3cfe79e793cf3cfe79e793cf3cf),
  (0x25C6, 0x0000000000000000000000400e01f03f87fcffe7fc3f81f00e0040000000000000000000),
  (0x25CA, 0x0000000000000000000000400e01b031860cc0660c3181b00e0040000000000000000000),
  (0x25CB, 0x0000000000000000000000000f019830c30c30c30c1980f0000000000000000000000000),
  (0x25D8, 0xffffffffffffffffffffffffffff0fe07e07e07e07f0ffffffffffffffffffffffffffff),
  (0x25D9, 0xfffffffffffffffffffffffff0fe67cf3cf3cf3cf3e67f0fffffffffffffffffffffffff),
  (0x2665, 0x0000000000000000003187bcffeffeffeffe7fc7fc3f81f00e0040000000000000000000)]

def spleenGlyph? (c : Char) : Option Nat := spleenGlyphs.lookup c.toNat

end Placard.Font
