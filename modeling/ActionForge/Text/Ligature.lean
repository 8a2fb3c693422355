import ActionForge.Text.WidthTable

/-!
# Signs made of several characters

What a character takes on a display may depend on the characters after it. An alef is written into the lam
before it, a Khmer letter below the one before its coeng, and joiners make one pictograph of several.
`Opening` is what matters of a text to a character that is put before it, and `ligatures` lists what such
characters take. `isInvisible` marks may stand between letters that ligate.
-/

namespace ActionForge.Text

/-- What a text begins with, as far as a character before it is concerned. Names with `joined` are of texts
that begin with a joiner. -/
inductive Opening where
  | plain
  | lineFeed
  /-- An Arabic alef. -/
  | alef
  /-- A Hebrew lamed. -/
  | lamed
  | joinedLamed
  /-- A Buginese ya. -/
  | ya
  | joinedYa
  /-- A Buginese vowel sign, which is joined to a ya. -/
  | joinedSign
  /-- A Tifinagh consonant. -/
  | consonant
  | joinedConsonant
  /-- A Tifinagh consonant behind the mark that links it to another. -/
  | linkedConsonant
  /-- A Khmer letter that may be written below another. -/
  | subscript
  /-- A Lisu tone letter that closes a pair. -/
  | toneLetter
  /-- An Old Turkic i. -/
  | orkhonI
  | joinedOrkhonI
  /-- A Kirat Rai e. -/
  | vowelE
  /-- A Kirat Rai ai, which is an e twice. -/
  | vowelAi
  /-- A pictograph with all that is joined to it. -/
  | picture
  | skinTone
  /-- A regional indicator. -/
  | regional
  /-- Several regional indicators. -/
  | regionals
  /-- A joiner, with a pictograph behind it. -/
  | joined
  /-- The mark of a keycap that is joined to a pictograph. -/
  | joinedKeycap
  /-- A regional indicator that is joined to a pictograph. -/
  | joinedRegional
  /-- Pairs of regional indicators, the last joined to a pictograph. -/
  | joinedFlags
  /-- Such pairs with a single indicator before them. -/
  | joinedOdd
  /-- The end of a tagged flag that is joined to a pictograph, with so many tags before it. -/
  | joinedTags (count : Nat)
  deriving DecidableEq, Repr

namespace Opening

/-- The text begins with a letter that others ligate with, whatever invisible marks are between them. An alef
has marks of its own. -/
def isLigating : Opening → Bool
  | .lamed | .joinedLamed | .ya | .joinedYa | .joinedSign | .consonant | .joinedConsonant
  | .linkedConsonant | .subscript | .toneLetter | .orkhonI | .joinedOrkhonI | .vowelE | .vowelAi => true
  | _ => false

/-- The text with a joiner before it, if the joiner has something to join. -/
def behindJoiner? : Opening → Option Opening
  | .lamed | .joinedLamed => some .joinedLamed
  | .ya | .joinedYa => some .joinedYa
  | .consonant | .joinedConsonant => some .joinedConsonant
  | .orkhonI | .joinedOrkhonI => some .joinedOrkhonI
  | .picture | .skinTone | .regionals | .joinedFlags | .joinedOdd => some .joined
  | opening => if opening.isLigating then some opening else none

end Opening

/-! ## Selectors -/

/-- A mark that says how the sign before it is drawn. -/
inductive Selector where
  /-- U+FE0F, as a pictograph. -/
  | picture
  /-- U+FE0E, as a plain sign. -/
  | plain
  /-- U+FE01, as wide as an ideograph. -/
  | full
  deriving DecidableEq, Repr

/-- The selector that a character is. -/
def Selector.of? (c : Char) : Option Selector :=
  if c.toNat = 0xFE0F then some .picture
  else if c.toNat = 0xFE0E then some .plain
  else if c.toNat = 0xFE01 then some .full
  else none

/-- The text with a selector before it. Ligatures go on across selectors, and a joined pictograph is one that
may be selected itself. -/
def Opening.behindSelector (opening : Opening) (selector : Selector) : Opening :=
  if opening.isLigating || opening = .alef then opening
  else if selector = .picture && (opening = .joined || opening = .joinedKeycap) then opening
  else .plain

/-! ## Ligatures -/

/-- A joiner of two signs. -/
def isJoiner (c : Char) : Bool := c.toNat = 0x200D

/-- A mark that is never seen itself. -/
def isInvisible (c : Char) : Bool :=
  Ranges.has [(0x34F, 0x34F), (0x17B4, 0x17B5), (0x180B, 0x180D), (0x180F, 0x180F), (0xFE00, 0xFE0F),
    (0xE0100, 0xE01EF)] c.toNat

/-- Arabic forms of lam. -/
def lamTable : Ranges := [(0x644, 0x644), (0x6B5, 0x6B8), (0x76A, 0x76A), (0x8A6, 0x8A6), (0x8C7, 0x8C7)]

/-- Arabic forms of alef. -/
def alefTable : Ranges := [
    (0x622, 0x623), (0x625, 0x625), (0x627, 0x627), (0x671, 0x673), (0x675, 0x675), (0x773, 0x774),
    (0x870, 0x882)]

/-- Khmer letters that a coeng puts below the letter before it. -/
def subscriptTable : Ranges := [
    (0x1780, 0x1782), (0x1784, 0x1787), (0x1789, 0x178C), (0x178E, 0x1793), (0x1795, 0x1798),
    (0x179B, 0x179D), (0x17A0, 0x17A0), (0x17A2, 0x17A2), (0x17A7, 0x17A7), (0x17AB, 0x17AC),
    (0x17AF, 0x17AF)]

/-- Tifinagh consonants. -/
def tifinaghTable : Ranges := [(0x2D31, 0x2D65), (0x2D6F, 0x2D6F)]

/-- Regional indicators, two of which are a flag. -/
def regionalTable : Ranges := [(0x1F1E6, 0x1F1FF)]

/-- Skin tones of pictographs. -/
def skinToneTable : Ranges := [(0x1F3FB, 0x1F3FF)]

/-- Digits and letters that spell the region of a flag. -/
def tagTable : Ranges := [(0xE0030, 0xE0039), (0xE0061, 0xE007A)]

/-- What texts begin with after their first character, where that is not plain. -/
def openings : List (Ranges × Opening) := [
  ([(0x0A, 0x0A)], .lineFeed), (alefTable, .alef), ([(0x5DC, 0x5DC)], .lamed), ([(0x1A10, 0x1A10)], .ya),
  (tifinaghTable, .consonant), (subscriptTable, .subscript), ([(0xA4FC, 0xA4FD)], .toneLetter),
  ([(0x10C03, 0x10C03)], .orkhonI), ([(0x16D67, 0x16D67)], .vowelE), ([(0x16D68, 0x16D68)], .vowelAi),
  (regionalTable, .regional), (skinToneTable, .skinTone), (pictureTable, .picture)]

/-- What a text begins with after a character that does not ligate. -/
def Opening.of (c : Char) : Opening := (Ranges.value? openings c.toNat).getD .plain

/-- Characters that are drawn together with what is after them. -/
structure Ligature where
  opening : Opening
  characters : Ranges
  /-- How many columns they take beyond their own. Without a number they take none at all. -/
  change : Option Int
  /-- What the text begins with when one of the characters is put before it. -/
  result : Opening

/-- A line end is one sign, and so are some letters of these scripts. Marks of the scripts may take back a
column of the letter after them, which then stands below or beside another. -/
def letterLigatures : List Ligature := [
  ⟨.lineFeed, [(0x0D, 0x0D)], none, .plain⟩,
  -- Arabic, Hebrew and Old Turkic
  ⟨.alef, lamTable, none, .plain⟩,
  ⟨.joinedLamed, [(0x5D0, 0x5D0)], none, .plain⟩,
  ⟨.joinedOrkhonI, [(0x10C32, 0x10C32)], none, .plain⟩,
  -- Buginese
  ⟨.joinedYa, [(0x1A17, 0x1A17)], none, .joinedSign⟩,
  ⟨.joinedSign, [(0x1A15, 0x1A15)], none, .plain⟩,
  -- Khmer: the coeng and the letter below another have no column.
  ⟨.subscript, [(0x17D2, 0x17D2)], some (-1), .plain⟩,
  -- Tifinagh: the link is a sign of its own when no second consonant comes before it.
  ⟨.joinedConsonant, tifinaghTable, none, .plain⟩,
  ⟨.consonant, [(0x2D7F, 0x2D7F)], some 0, .linkedConsonant⟩,
  ⟨.joinedConsonant, [(0x2D7F, 0x2D7F)], some 0, .linkedConsonant⟩,
  ⟨.linkedConsonant, tifinaghTable, some (-2), .plain⟩,
  -- Lisu
  ⟨.toneLetter, [(0xA4F8, 0xA4FB)], none, .plain⟩,
  -- Kirat Rai: a vowel is spelled with up to three signs, and two of them may be written as one.
  ⟨.vowelE, [(0x16D63, 0x16D63)], none, .plain⟩,
  ⟨.vowelE, [(0x16D67, 0x16D67)], none, .vowelAi⟩,
  ⟨.vowelE, [(0x16D68, 0x16D68)], some 0, .vowelE⟩,
  ⟨.vowelE, [(0x16D69, 0x16D69)], none, .plain⟩,
  ⟨.vowelAi, [(0x16D63, 0x16D63)], none, .plain⟩]

/-- A flag of a region has three to six tags. -/
def tagLigatures : List Ligature :=
  ((List.range 6).map fun count => ⟨.joinedTags count, tagTable, none, .joinedTags (count + 1)⟩) ++
    (List.range' 3 4).map fun count => ⟨.joinedTags count, [(0x1F3F4, 0x1F3F4)], none, .picture⟩

/-- A pictograph has the columns of its last part. Flags are pairs of regional indicators, counted from the
first one, so an indicator that comes before a joined pair is not part of it any more. -/
def pictureLigatures : List Ligature := [
  ⟨.skinTone, tonableTable, none, .picture⟩,
  ⟨.regional, regionalTable, some 0, .regionals⟩,
  ⟨.regionals, regionalTable, some 0, .regionals⟩,
  ⟨.joined, [(0x20E3, 0x20E3)], none, .joinedKeycap⟩,
  ⟨.joined, skinToneTable, none, .skinTone⟩,
  ⟨.joined, pictureTable, none, .picture⟩,
  ⟨.joined, [(0xE007F, 0xE007F)], none, .joinedTags 0⟩,
  ⟨.joined, regionalTable, some 0, .joinedRegional⟩,
  ⟨.joinedRegional, regionalTable, some (-2), .joinedFlags⟩,
  ⟨.joinedFlags, regionalTable, some 2, .joinedOdd⟩,
  ⟨.joinedOdd, regionalTable, some (-2), .joinedFlags⟩]

/-- All ligatures. No two are of the same characters before the same text. -/
def ligatures : List Ligature := letterLigatures ++ pictureLigatures ++ tagLigatures

/-- The ligature of a character with a text, if there is one. -/
def Opening.ligature? (opening : Opening) (c : Char) : Option Ligature :=
  ligatures.find? fun ligature => ligature.opening = opening && ligature.characters.has c.toNat

end ActionForge.Text
