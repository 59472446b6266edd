import RecordQuery.Regex.CharSet

/-! The part that a character plays where words may end: the values of the property Word Break in
Unicode 16.0, with their names. -/

namespace RecordQuery.Regex.WordBreak

/-- The values, with their names. Characters of no value here end a word on both sides. -/
def table : List (List String × Property) := [
  (["aletter", "le"], ⟨[.lu, .ll, .lt, .lm, .lo, .nl], [⟨0xB8, 0xB8⟩, ⟨0x2C2, 0x2C5⟩,
    ⟨0x2D2, 0x2D7⟩, ⟨0x2DE, 0x2DF⟩, ⟨0x2E5, 0x2EB⟩, ⟨0x2ED, 0x2ED⟩, ⟨0x2EF, 0x2FF⟩,
    ⟨0x55A, 0x55C⟩, ⟨0x55E, 0x55E⟩, ⟨0x58A, 0x58A⟩, ⟨0x5F3, 0x5F3⟩, ⟨0x70F, 0x70F⟩,
    ⟨0x24B6, 0x24E9⟩, ⟨0xA708, 0xA716⟩, ⟨0xA720, 0xA721⟩, ⟨0xA789, 0xA78A⟩, ⟨0xAB5B, 0xAB5B⟩,
    ⟨0x1F130, 0x1F149⟩, ⟨0x1F150, 0x1F169⟩, ⟨0x1F170, 0x1F189⟩], [⟨0x5D0, 0x5EA⟩,
    ⟨0x5EF, 0x5F2⟩, ⟨0xE01, 0xE30⟩, ⟨0xE32, 0xE33⟩, ⟨0xE40, 0xE46⟩, ⟨0xE81, 0xE82⟩,
    ⟨0xE84, 0xE84⟩, ⟨0xE86, 0xE8A⟩, ⟨0xE8C, 0xEA3⟩, ⟨0xEA5, 0xEA5⟩, ⟨0xEA7, 0xEB0⟩,
    ⟨0xEB2, 0xEB3⟩, ⟨0xEBD, 0xEBD⟩, ⟨0xEC0, 0xEC4⟩, ⟨0xEC6, 0xEC6⟩, ⟨0xEDC, 0xEDF⟩,
    ⟨0x1000, 0x102A⟩, ⟨0x103F, 0x103F⟩, ⟨0x1050, 0x1055⟩, ⟨0x105A, 0x105D⟩, ⟨0x1061, 0x1061⟩,
    ⟨0x1065, 0x1066⟩, ⟨0x106E, 0x1070⟩, ⟨0x1075, 0x1081⟩, ⟨0x108E, 0x108E⟩, ⟨0x1780, 0x17B3⟩,
    ⟨0x17D7, 0x17D7⟩, ⟨0x17DC, 0x17DC⟩, ⟨0x1950, 0x196D⟩, ⟨0x1970, 0x1974⟩, ⟨0x1980, 0x19AB⟩,
    ⟨0x19B0, 0x19C9⟩, ⟨0x1A20, 0x1A54⟩, ⟨0x1AA7, 0x1AA7⟩, ⟨0x3006, 0x3007⟩, ⟨0x3021, 0x3029⟩,
    ⟨0x3031, 0x3035⟩, ⟨0x3038, 0x303A⟩, ⟨0x3041, 0x3096⟩, ⟨0x309D, 0x309F⟩, ⟨0x30A1, 0x30FA⟩,
    ⟨0x30FC, 0x30FF⟩, ⟨0x31F0, 0x31FF⟩, ⟨0x3400, 0x4DBF⟩, ⟨0x4E00, 0x9FFF⟩, ⟨0xA9E0, 0xA9E4⟩,
    ⟨0xA9E6, 0xA9EF⟩, ⟨0xA9FA, 0xA9FE⟩, ⟨0xAA60, 0xAA76⟩, ⟨0xAA7A, 0xAA7A⟩, ⟨0xAA7E, 0xAAAF⟩,
    ⟨0xAAB1, 0xAAB1⟩, ⟨0xAAB5, 0xAAB6⟩, ⟨0xAAB9, 0xAABD⟩, ⟨0xAAC0, 0xAAC0⟩, ⟨0xAAC2, 0xAAC2⟩,
    ⟨0xAADB, 0xAADD⟩, ⟨0xF900, 0xFA6D⟩, ⟨0xFA70, 0xFAD9⟩, ⟨0xFB1D, 0xFB1D⟩, ⟨0xFB1F, 0xFB28⟩,
    ⟨0xFB2A, 0xFB36⟩, ⟨0xFB38, 0xFB3C⟩, ⟨0xFB3E, 0xFB3E⟩, ⟨0xFB40, 0xFB41⟩, ⟨0xFB43, 0xFB44⟩,
    ⟨0xFB46, 0xFB4F⟩, ⟨0xFF66, 0xFF9F⟩, ⟨0x11700, 0x1171A⟩, ⟨0x11740, 0x11746⟩,
    ⟨0x17000, 0x187F7⟩, ⟨0x18800, 0x18CD5⟩, ⟨0x18CFF, 0x18D08⟩, ⟨0x1AFF0, 0x1AFF3⟩,
    ⟨0x1AFF5, 0x1AFFB⟩, ⟨0x1AFFD, 0x1AFFE⟩, ⟨0x1B000, 0x1B122⟩, ⟨0x1B132, 0x1B132⟩,
    ⟨0x1B150, 0x1B152⟩, ⟨0x1B155, 0x1B155⟩, ⟨0x1B164, 0x1B167⟩, ⟨0x1B170, 0x1B2FB⟩,
    ⟨0x20000, 0x2A6DF⟩, ⟨0x2A700, 0x2B739⟩, ⟨0x2B740, 0x2B81D⟩, ⟨0x2B820, 0x2CEA1⟩,
    ⟨0x2CEB0, 0x2EBE0⟩, ⟨0x2EBF0, 0x2EE5D⟩, ⟨0x2F800, 0x2FA1D⟩, ⟨0x30000, 0x3134A⟩,
    ⟨0x31350, 0x323AF⟩]⟩),
  (["cr"], ⟨[], [⟨0xD, 0xD⟩], []⟩),
  (["doublequote", "dq"], ⟨[], [⟨0x22, 0x22⟩], []⟩),
  (["extend"], ⟨[.mn, .mc, .me], [⟨0x200C, 0x200C⟩, ⟨0xFF9E, 0xFF9F⟩, ⟨0x1F3FB, 0x1F3FF⟩,
    ⟨0xE0020, 0xE007F⟩], []⟩),
  (["extendnumlet", "ex"], ⟨[.pc], [⟨0x202F, 0x202F⟩], []⟩),
  (["format", "fo"], ⟨[.cf], [], [⟨0x600, 0x605⟩, ⟨0x6DD, 0x6DD⟩, ⟨0x70F, 0x70F⟩,
    ⟨0x890, 0x891⟩, ⟨0x8E2, 0x8E2⟩, ⟨0x200B, 0x200D⟩, ⟨0x110BD, 0x110BD⟩, ⟨0x110CD, 0x110CD⟩,
    ⟨0xE0020, 0xE007F⟩]⟩),
  (["hebrewletter", "hl"], ⟨[], [⟨0x5D0, 0x5EA⟩, ⟨0x5EF, 0x5F2⟩, ⟨0xFB1D, 0xFB1D⟩,
    ⟨0xFB1F, 0xFB28⟩, ⟨0xFB2A, 0xFB36⟩, ⟨0xFB38, 0xFB3C⟩, ⟨0xFB3E, 0xFB3E⟩, ⟨0xFB40, 0xFB41⟩,
    ⟨0xFB43, 0xFB44⟩, ⟨0xFB46, 0xFB4F⟩], []⟩),
  (["katakana", "ka"], ⟨[], [⟨0x3031, 0x3035⟩, ⟨0x309B, 0x309C⟩, ⟨0x30A0, 0x30FA⟩,
    ⟨0x30FC, 0x30FF⟩, ⟨0x31F0, 0x31FF⟩, ⟨0x32D0, 0x32FE⟩, ⟨0x3300, 0x3357⟩, ⟨0xFF66, 0xFF9D⟩,
    ⟨0x1AFF0, 0x1AFF3⟩, ⟨0x1AFF5, 0x1AFFB⟩, ⟨0x1AFFD, 0x1AFFE⟩, ⟨0x1B000, 0x1B000⟩,
    ⟨0x1B120, 0x1B122⟩, ⟨0x1B155, 0x1B155⟩, ⟨0x1B164, 0x1B167⟩], []⟩),
  (["lf"], ⟨[], [⟨0xA, 0xA⟩], []⟩),
  (["midletter", "ml"], ⟨[], [⟨0x3A, 0x3A⟩, ⟨0xB7, 0xB7⟩, ⟨0x387, 0x387⟩, ⟨0x55F, 0x55F⟩,
    ⟨0x5F4, 0x5F4⟩, ⟨0x2027, 0x2027⟩, ⟨0xFE13, 0xFE13⟩, ⟨0xFE55, 0xFE55⟩, ⟨0xFF1A, 0xFF1A⟩], []⟩),
  (["midnum", "mn"], ⟨[], [⟨0x2C, 0x2C⟩, ⟨0x3B, 0x3B⟩, ⟨0x37E, 0x37E⟩, ⟨0x589, 0x589⟩,
    ⟨0x60C, 0x60D⟩, ⟨0x66C, 0x66C⟩, ⟨0x7F8, 0x7F8⟩, ⟨0x2044, 0x2044⟩, ⟨0xFE10, 0xFE10⟩,
    ⟨0xFE14, 0xFE14⟩, ⟨0xFE50, 0xFE50⟩, ⟨0xFE54, 0xFE54⟩, ⟨0xFF0C, 0xFF0C⟩, ⟨0xFF1B, 0xFF1B⟩], []⟩),
  (["midnumlet", "mb"], ⟨[], [⟨0x2E, 0x2E⟩, ⟨0x2018, 0x2019⟩, ⟨0x2024, 0x2024⟩,
    ⟨0xFE52, 0xFE52⟩, ⟨0xFF07, 0xFF07⟩, ⟨0xFF0E, 0xFF0E⟩], []⟩),
  (["newline", "nl"], ⟨[.zl, .zp], [⟨0xB, 0xC⟩, ⟨0x85, 0x85⟩], []⟩),
  (["numeric", "nu"], ⟨[.nd], [⟨0x600, 0x605⟩, ⟨0x66B, 0x66B⟩, ⟨0x6DD, 0x6DD⟩, ⟨0x890, 0x891⟩,
    ⟨0x8E2, 0x8E2⟩, ⟨0x110BD, 0x110BD⟩, ⟨0x110CD, 0x110CD⟩], []⟩),
  (["regionalindicator", "ri"], ⟨[], [⟨0x1F1E6, 0x1F1FF⟩], []⟩),
  (["singlequote", "sq"], ⟨[], [⟨0x27, 0x27⟩], []⟩),
  (["wsegspace"], ⟨[.zs], [], [⟨0xA0, 0xA0⟩, ⟨0x2007, 0x2007⟩, ⟨0x202F, 0x202F⟩]⟩),
  (["zwj"], ⟨[], [⟨0x200D, 0x200D⟩], []⟩)]

end RecordQuery.Regex.WordBreak
