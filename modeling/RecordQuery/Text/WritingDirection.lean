import RecordQuery.Text.Mark

/-!
# Writing direction

The direction in which a character is written (the Unicode property `Bidi_Class`), as far as it
matters in a name: Hebrew and Arabic letters are written from right to left, numbers take their
direction from what is around them, and most signs have none.
-/

namespace RecordQuery.Text

inductive WritingDirection where
  | leftToRight
  | rightToLeft
  | europeanNumber
  | arabicNumber
  /-- That of the character before it. -/
  | nonspacing
  | neutral
deriving DecidableEq, Repr

def rightToLeftRanges : Ranges :=
  [(0x0590, 0x0590), (0x05BE, 0x05BE), (0x05C0, 0x05C0), (0x05C3, 0x05C3), (0x05C6, 0x05C6),
   (0x05C9, 0x05FF), (0x0608, 0x0608), (0x060B, 0x060B), (0x060D, 0x060D), (0x061B, 0x064A),
   (0x066D, 0x066F), (0x0671, 0x06D5), (0x06E5, 0x06E6), (0x06EE, 0x06EF), (0x06FA, 0x0710),
   (0x0712, 0x072F), (0x074B, 0x07A5), (0x07B1, 0x07EA), (0x07F4, 0x07F5), (0x07FA, 0x07FC),
   (0x07FE, 0x0815), (0x081A, 0x081A), (0x0824, 0x0824), (0x0828, 0x0828), (0x082E, 0x0858),
   (0x085C, 0x088F), (0x0892, 0x0896), (0x08A0, 0x08C9), (0x200F, 0x200F), (0xFB1D, 0xFB1D),
   (0xFB1F, 0xFB28), (0xFB2A, 0xFBC2), (0xFBD3, 0xFD3D), (0xFD50, 0xFD8F), (0xFD92, 0xFDC7),
   (0xFDF0, 0xFDFC), (0xFE70, 0xFEFE), (0x10800, 0x1091E), (0x10920, 0x10A00), (0x10A04, 0x10A04),
   (0x10A07, 0x10A0B), (0x10A10, 0x10A37), (0x10A3B, 0x10A3E), (0x10A40, 0x10AE4),
   (0x10AE7, 0x10B38), (0x10B40, 0x10D23), (0x10D28, 0x10D2F), (0x10D3A, 0x10D68),
   (0x10D6E, 0x10E5F), (0x10E7F, 0x10EAA), (0x10EAD, 0x10ED0), (0x10ED9, 0x10EF9),
   (0x10F00, 0x10F45), (0x10F51, 0x10F81), (0x10F86, 0x10FFF), (0x1E800, 0x1E8CF),
   (0x1E8D7, 0x1E943), (0x1E94B, 0x1EEEF), (0x1EEF2, 0x1EFFF)]

/-- The European digits outside ASCII and what counts as one. -/
def europeanNumberRanges : Ranges :=
  [(0x00B2, 0x00B3), (0x00B9, 0x00B9), (0x06F0, 0x06F9), (0x2070, 0x2070), (0x2074, 0x2079),
   (0x2080, 0x2089), (0x2488, 0x249B), (0xFF10, 0xFF19), (0x102E1, 0x102FB), (0x1D7CE, 0x1D7FF),
   (0x1F100, 0x1F10A), (0x1FBF0, 0x1FBF9)]

/-- The Arabic digits and what belongs to their numbers. -/
def arabicNumberRanges : Ranges :=
  [(0x0600, 0x0605), (0x0660, 0x0669), (0x066B, 0x066C), (0x06DD, 0x06DD), (0x0890, 0x0891),
   (0x08E2, 0x08E2), (0x10D30, 0x10D39), (0x10E60, 0x10E7E)]

def neutralRanges : Ranges :=
  [(0x0080, 0x00A9), (0x00AB, 0x00B1), (0x00B4, 0x00B4), (0x00B6, 0x00B8), (0x00BB, 0x00BF),
   (0x00D7, 0x00D7), (0x00F7, 0x00F7), (0x02B9, 0x02BA), (0x02C2, 0x02CF), (0x02D2, 0x02DF),
   (0x02E5, 0x02ED), (0x02EF, 0x02FF), (0x0374, 0x0375), (0x037E, 0x037E), (0x0384, 0x0385),
   (0x0387, 0x0387), (0x03F6, 0x03F6), (0x058A, 0x058A), (0x058D, 0x058F), (0x0606, 0x0607),
   (0x0609, 0x060A), (0x060C, 0x060C), (0x060E, 0x060F), (0x066A, 0x066A), (0x06DE, 0x06DE),
   (0x06E9, 0x06E9), (0x07F6, 0x07F9), (0x09F2, 0x09F3), (0x09FB, 0x09FB), (0x0AF1, 0x0AF1),
   (0x0BF3, 0x0BFA), (0x0C78, 0x0C7E), (0x0E3F, 0x0E3F), (0x0F3A, 0x0F3D), (0x1390, 0x1399),
   (0x1400, 0x1400), (0x1680, 0x1680), (0x169B, 0x169C), (0x17DB, 0x17DB), (0x17F0, 0x17F9),
   (0x1800, 0x180A), (0x180E, 0x180E), (0x1940, 0x1940), (0x1944, 0x1945), (0x19DE, 0x19FF),
   (0x1FBD, 0x1FBD), (0x1FBF, 0x1FC1), (0x1FCD, 0x1FCF), (0x1FDD, 0x1FDF), (0x1FED, 0x1FEF),
   (0x1FFD, 0x1FFE), (0x2000, 0x200D), (0x2010, 0x206F), (0x207A, 0x207E), (0x208A, 0x208E),
   (0x20A0, 0x20CF), (0x2100, 0x2101), (0x2103, 0x2106), (0x2108, 0x2109), (0x2114, 0x2114),
   (0x2116, 0x2118), (0x211E, 0x2123), (0x2125, 0x2125), (0x2127, 0x2127), (0x2129, 0x2129),
   (0x212E, 0x212E), (0x213A, 0x213B), (0x2140, 0x2144), (0x214A, 0x214D), (0x2150, 0x215F),
   (0x2189, 0x218B), (0x2190, 0x2335), (0x237B, 0x2394), (0x2396, 0x2429), (0x2440, 0x244A),
   (0x2460, 0x2487), (0x24EA, 0x26AB), (0x26AD, 0x27FF), (0x2900, 0x2B73), (0x2B76, 0x2BFF),
   (0x2CE5, 0x2CEA), (0x2CF9, 0x2CFF), (0x2E00, 0x2E5D), (0x2E80, 0x2E99), (0x2E9B, 0x2EF3),
   (0x2F00, 0x2FD5), (0x2FF0, 0x3004), (0x3008, 0x3020), (0x3030, 0x3030), (0x3036, 0x3037),
   (0x303D, 0x303F), (0x309B, 0x309C), (0x30A0, 0x30A0), (0x30FB, 0x30FB), (0x31C0, 0x31E5),
   (0x31EF, 0x31EF), (0x321D, 0x321E), (0x3250, 0x325F), (0x327C, 0x327E), (0x32B1, 0x32BF),
   (0x32CC, 0x32CF), (0x3377, 0x337A), (0x33DE, 0x33DF), (0x33FF, 0x33FF), (0x4DC0, 0x4DFF),
   (0xA490, 0xA4C6), (0xA60D, 0xA60F), (0xA673, 0xA673), (0xA67E, 0xA67F), (0xA700, 0xA721),
   (0xA788, 0xA788), (0xA828, 0xA82B), (0xA838, 0xA839), (0xA874, 0xA877), (0xAB6A, 0xAB6B),
   (0xFB29, 0xFB29), (0xFBC3, 0xFBD2), (0xFD3E, 0xFD4F), (0xFD90, 0xFD91), (0xFDC8, 0xFDEF),
   (0xFDFD, 0xFDFF), (0xFE10, 0xFE19), (0xFE30, 0xFE52), (0xFE54, 0xFE66), (0xFE68, 0xFE6B),
   (0xFEFF, 0xFEFF), (0xFF01, 0xFF0F), (0xFF1A, 0xFF20), (0xFF3B, 0xFF40), (0xFF5B, 0xFF65),
   (0xFFE0, 0xFFE6), (0xFFE8, 0xFFEE), (0xFFF0, 0xFFFF), (0x10101, 0x10101), (0x10140, 0x1018C),
   (0x10190, 0x1019C), (0x101A0, 0x101A0), (0x1091F, 0x1091F), (0x10B39, 0x10B3F),
   (0x10ED1, 0x10ED8), (0x11052, 0x11065), (0x11660, 0x1166C), (0x11FD5, 0x11FF1),
   (0x16FE2, 0x16FE2), (0x1BCA0, 0x1BCA3), (0x1CC00, 0x1CCEF), (0x1CCFA, 0x1CCFC),
   (0x1CD00, 0x1CEB3), (0x1CEBA, 0x1CED0), (0x1CEE0, 0x1CEF0), (0x1D173, 0x1D17A),
   (0x1D1E9, 0x1D1EA), (0x1D200, 0x1D241), (0x1D245, 0x1D245), (0x1D300, 0x1D356),
   (0x1D6DB, 0x1D6DB), (0x1D715, 0x1D715), (0x1D74F, 0x1D74F), (0x1D789, 0x1D789),
   (0x1D7C3, 0x1D7C3), (0x1E2FF, 0x1E2FF), (0x1EEF0, 0x1EEF1), (0x1F000, 0x1F02B),
   (0x1F030, 0x1F093), (0x1F0A0, 0x1F0AE), (0x1F0B1, 0x1F0BF), (0x1F0C1, 0x1F0CF),
   (0x1F0D1, 0x1F0F5), (0x1F10B, 0x1F10F), (0x1F12F, 0x1F12F), (0x1F16A, 0x1F16F),
   (0x1F1AD, 0x1F1AD), (0x1F260, 0x1F265), (0x1F300, 0x1F6D8), (0x1F6DC, 0x1F6EC),
   (0x1F6F0, 0x1F6FC), (0x1F700, 0x1F7D9), (0x1F7E0, 0x1F7EB), (0x1F7F0, 0x1F7F0),
   (0x1F800, 0x1F80B), (0x1F810, 0x1F847), (0x1F850, 0x1F859), (0x1F860, 0x1F887),
   (0x1F890, 0x1F8AD), (0x1F8B0, 0x1F8BB), (0x1F8C0, 0x1F8C1), (0x1F8D0, 0x1F8D8),
   (0x1F900, 0x1FA57), (0x1FA60, 0x1FA6D), (0x1FA70, 0x1FA7C), (0x1FA80, 0x1FA8A),
   (0x1FA8E, 0x1FAC6), (0x1FAC8, 0x1FAC8), (0x1FACD, 0x1FADC), (0x1FADF, 0x1FAEA),
   (0x1FAEF, 0x1FAF8), (0x1FB00, 0x1FB92), (0x1FB94, 0x1FBEF), (0x1FBFA, 0x1FBFA),
   (0x1FFFE, 0x1FFFF), (0x2FFFE, 0x2FFFF), (0x3FFFE, 0x3FFFF), (0x4FFFE, 0x4FFFF),
   (0x5FFFE, 0x5FFFF), (0x6FFFE, 0x6FFFF), (0x7FFFE, 0x7FFFF), (0x8FFFE, 0x8FFFF),
   (0x9FFFE, 0x9FFFF), (0xAFFFE, 0xAFFFF), (0xBFFFE, 0xBFFFF), (0xCFFFE, 0xCFFFF),
   (0xDFFFE, 0xE00FF), (0xE01F0, 0xE0FFF), (0xEFFFE, 0xEFFFF), (0xFFFFE, 0xFFFFF),
   (0x10FFFE, 0x10FFFF)]

/-- The nonspacing marks that are written from left to right themselves. -/
def leftToRightMarks : List Nat := [0x0CBF, 0x0CC6, 0x11A07, 0x11A08, 0x11C3F]

def wideDirection (c : Char) : WritingDirection :=
  if leftToRightMarks.contains c.toNat then .leftToRight
  else if rightToLeftRanges.covers c then .rightToLeft
  else if europeanNumberRanges.covers c then .europeanNumber
  else if arabicNumberRanges.covers c then .arabicNumber
  else if isNonspacingMark c then .nonspacing
  else if neutralRanges.covers c then .neutral
  else .leftToRight

def direction (c : Char) : WritingDirection :=
  if c.isAlpha then .leftToRight
  else if c.isDigit then .europeanNumber
  else if c.toNat < 0x80 then .neutral
  else wideDirection c

end RecordQuery.Text
