import PlannerTrials.Host.CharClass
import PlannerTrials.Host.Regex.Basic

/-!
# Properties of characters

A pattern may ask for characters with a property: a general category, of which some are put together under
their first letter, or a script.  A property is given by ranges of code points, and beyond the characters
of a single byte by classes of characters.  The rarer characters of the categories for marks, signs and
controls are left out.
-/

namespace PlannerTrials.Host

namespace Ordered

/-- A property by its ranges and its classes. -/
structure Property where
  ranges : List (Nat × Nat) := []
  classes : List CharClass := []

namespace Property

/-- The characters with one of two properties. -/
def union (a b : Property) : Property := ⟨a.ranges ++ b.ranges, a.classes ++ b.classes⟩

/-- The test for a property, or for all other characters. -/
def test (p : Property) (negated : Bool) : CharTest :=
  .among negated (p.ranges.map fun r => (Char.ofNat r.1, Char.ofNat r.2)) p.classes

/-- Code points each of which is a range of its own. -/
def points (text : String) : List (Nat × Nat) := text.toList.map fun c => (c.toNat, c.toNat)

/-- Capital letters. -/
def capitals : Property := ⟨[(0x41, 0x5a)], [.upper]⟩

/-- Small letters. -/
def smalls : Property := ⟨[(0x61, 0x7a)], [.lower]⟩

/-- Letters. -/
def letters : Property := ⟨[(0x41, 0x5a), (0x61, 0x7a)], [.alpha]⟩

/-- Digits. -/
def digits : Property := ⟨Text.digitRanges, []⟩

/-- Numbers of all kinds. -/
def numbers : Property := ⟨Text.digitRanges ++ Text.numberRanges, []⟩

/-- Marks that belong to the character before them. -/
def marks : Property where
  ranges := [(0x300, 0x36f), (0x483, 0x489), (0x591, 0x5bd), (0x5bf, 0x5bf), (0x5c1, 0x5c2),
    (0x610, 0x61a), (0x64b, 0x65f), (0x670, 0x670), (0x900, 0x903), (0x93a, 0x93c), (0x93e, 0x94f),
    (0xe31, 0xe31), (0xe34, 0xe3a), (0xe47, 0xe4e), (0x1ab0, 0x1ace), (0x1dc0, 0x1dff),
    (0x20d0, 0x20f0), (0x302a, 0x302f), (0x3099, 0x309a), (0xfe00, 0xfe0f), (0xfe20, 0xfe2f),
    (0xe0100, 0xe01ef)]

/-- Signs of money. -/
def money : Property := ⟨[(0x24, 0x24), (0xa2, 0xa5), (0x20a0, 0x20c0)], []⟩

/-- Signs of calculation. -/
def operators : Property where
  ranges := points "+<=>|~" ++ [(0xac, 0xac), (0xb1, 0xb1), (0xd7, 0xd7), (0xf7, 0xf7), (0x3f6, 0x3f6),
    (0x2044, 0x2044), (0x2052, 0x2052), (0x2190, 0x2194), (0x2200, 0x22ff)]

/-- Signs that change the letter before them. -/
def modifiers : Property where
  ranges := points "^\x60" ++ [(0xa8, 0xa8), (0xaf, 0xaf), (0xb4, 0xb4), (0xb8, 0xb8), (0x2c2, 0x2c5),
    (0x2d2, 0x2df)]

/-- Other signs. -/
def otherSigns : Property where
  ranges := [(0xa6, 0xa6), (0xa9, 0xa9), (0xae, 0xae), (0xb0, 0xb0), (0x2100, 0x2101), (0x2114, 0x2114),
    (0x2117, 0x2117), (0x211e, 0x2123), (0x2195, 0x21ff), (0x2300, 0x2307), (0x230c, 0x2328),
    (0x232b, 0x23ff), (0x2500, 0x25b6), (0x25b8, 0x25c0), (0x25c2, 0x25f7), (0x2600, 0x266e),
    (0x2670, 0x2767), (0x2794, 0x27bf), (0x1f300, 0x1faff)]

/-- Joining signs. -/
def connectors : Property := ⟨[(0x5f, 0x5f), (0x203f, 0x2040), (0x2054, 0x2054)], []⟩

/-- Hyphens and dashes. -/
def dashes : Property := ⟨[(0x2d, 0x2d), (0x58a, 0x58a), (0x2010, 0x2015), (0x301c, 0x301c)], []⟩

/-- Opening brackets. -/
def openings : Property where
  ranges := points "([\x7b" ++ points "‚„⁅⁽₍⌈⌊❨❪❬❮❰❲❴⟦⟨⟪⟬⟮〈《「『【〔〖〘〚"

/-- Closing brackets. -/
def closings : Property where
  ranges := points ")]\x7d" ++ points "⁆⁾₎⌉⌋❩❫❭❯❱❳❵⟧⟩⟫⟭⟯〉》」』】〕〗〙〛"

/-- Quotation marks. -/
def quotes : Property := ⟨points "«‘“‹", []⟩

/-- Quotation marks of the other side. -/
def endQuotes : Property := ⟨points "»’”›", []⟩

/-- Other punctuation. -/
def otherPoints : Property where
  ranges := points "!\"#%&'*,./:;?@\\¡§¶·¿;·։" ++ [(0x2016, 0x2017), (0x2020, 0x2027), (0x2030, 0x2038),
    (0x203b, 0x203e), (0x2041, 0x2043), (0x2047, 0x2051), (0x2055, 0x205e), (0x3001, 0x3003)]

/-- Blank characters. -/
def blanks : Property where
  ranges := [(0x20, 0x20), (0xa0, 0xa0), (0x1680, 0x1680), (0x2000, 0x200a), (0x202f, 0x202f),
    (0x205f, 0x205f), (0x3000, 0x3000)]

/-- Controls. -/
def controls : Property := ⟨[(0, 0x1f), (0x7f, 0x9f)], []⟩

/-- Characters that say how others are shown. -/
def formats : Property where
  ranges := [(0xad, 0xad), (0x600, 0x605), (0x200b, 0x200f), (0x202a, 0x202e), (0x2060, 0x2064),
    (0xfeff, 0xfeff)]

/-- Characters for private use. -/
def privates : Property := ⟨[(0xe000, 0xf8ff), (0xf0000, 0xffffd), (0x100000, 0x10fffd)], []⟩

/-- A line separator or a paragraph separator. -/
def separators : Property := ⟨[(0x2028, 0x2029)], []⟩

/-- Several properties put together. -/
def ofAll (ps : List Property) : Property := ps.foldr union {}

/-- Characters that count as spaces. -/
def spaces : Property := ofAll [⟨[(9, 0xd), (0x85, 0x85), (0x180e, 0x180e)], []⟩, blanks, separators]

/-- The properties by name. -/
def named : List (String × Property) :=
  [("any", ⟨[(0, 0x10ffff)], []⟩), ("ascii", ⟨[(0, 0x7f)], []⟩),
    ("l", letters), ("lu", capitals), ("ll", smalls),
    ("lt", ⟨[(0x1c5, 0x1c5), (0x1c8, 0x1c8), (0x1cb, 0x1cb), (0x1f2, 0x1f2)], []⟩),
    ("lm", ⟨[(0x2b0, 0x2c1), (0x2c6, 0x2d1), (0x2e0, 0x2e4), (0x3005, 0x3005)], []⟩),
    ("lo", ⟨[(0xaa, 0xaa), (0xba, 0xba), (0x5d0, 0x5ea), (0x620, 0x63f), (0x641, 0x64a),
      (0x904, 0x939), (0xe01, 0xe30), (0x3041, 0x3096), (0x30a1, 0x30fa), (0x3400, 0x4dbf),
      (0x4e00, 0x9fff), (0xac00, 0xd7a3)], []⟩),
    ("l&", union capitals smalls), ("lc", union capitals smalls),
    ("n", numbers), ("nd", digits), ("nl", ⟨[(0x2160, 0x2188), (0x3007, 0x3007), (0x3021, 0x3029)], []⟩),
    ("no", ⟨[(0xb2, 0xb3), (0xb9, 0xb9), (0xbc, 0xbe), (0x2070, 0x2070), (0x2074, 0x2079),
      (0x2080, 0x2089), (0x2150, 0x215f), (0x2460, 0x249b), (0x24ea, 0x24ff)], []⟩),
    ("m", marks), ("mn", marks), ("mc", ⟨[(0x903, 0x903), (0x93e, 0x940)], []⟩),
    ("me", ⟨[(0x488, 0x489), (0x20dd, 0x20e0), (0x20e2, 0x20e4)], []⟩),
    ("s", ofAll [money, operators, modifiers, otherSigns]), ("sc", money), ("sm", operators),
    ("sk", modifiers), ("so", otherSigns),
    ("p", ofAll [connectors, dashes, openings, closings, quotes, endQuotes, otherPoints]),
    ("pc", connectors), ("pd", dashes), ("ps", openings), ("pe", closings), ("pi", quotes),
    ("pf", endQuotes), ("po", otherPoints),
    ("z", union blanks separators), ("zs", blanks), ("zl", ⟨[(0x2028, 0x2028)], []⟩),
    ("zp", ⟨[(0x2029, 0x2029)], []⟩),
    ("c", ofAll [controls, formats, privates]), ("cc", controls), ("cf", formats), ("co", privates),
    ("cn", {}), ("cs", {}),
    ("xan", union letters numbers), ("xsp", spaces), ("xps", spaces),
    ("xwd", ofAll [letters, numbers, ⟨[(0x5f, 0x5f)], []⟩]),
    ("xuc", ⟨points "$@\x60" ++ [(0xa0, 0xd7ff), (0xe000, 0x10ffff)], []⟩),
    ("alphabetic", letters), ("alpha", letters), ("uppercase", capitals), ("upper", capitals),
    ("lowercase", smalls), ("lower", smalls), ("whitespace", spaces), ("wspace", spaces),
    ("latin", ⟨[(0x41, 0x5a), (0x61, 0x7a), (0xaa, 0xaa), (0xba, 0xba), (0xc0, 0xd6), (0xd8, 0xf6),
      (0xf8, 0x2b8), (0x1e00, 0x1eff), (0x2c60, 0x2c7f), (0xa722, 0xa787), (0xff21, 0xff3a),
      (0xff41, 0xff5a)], []⟩),
    ("greek", ⟨[(0x370, 0x373), (0x375, 0x377), (0x37a, 0x37d), (0x37f, 0x37f), (0x384, 0x384),
      (0x386, 0x386), (0x388, 0x3e1), (0x3f0, 0x3ff), (0x1f00, 0x1fff)], []⟩),
    ("cyrillic", ⟨[(0x400, 0x52f), (0x1c80, 0x1c88), (0x2de0, 0x2dff), (0xa640, 0xa69f)], []⟩),
    ("hebrew", ⟨[(0x591, 0x5f4), (0xfb1d, 0xfb4f)], []⟩),
    ("arabic", ⟨[(0x600, 0x604), (0x606, 0x60b), (0x60d, 0x61a), (0x61c, 0x61e), (0x620, 0x63f),
      (0x641, 0x6ff), (0x750, 0x77f)], []⟩),
    ("thai", ⟨[(0xe01, 0xe3a), (0xe40, 0xe5b)], []⟩),
    ("han", ⟨[(0x2e80, 0x2fd5), (0x3005, 0x3005), (0x3007, 0x3007), (0x3021, 0x3029), (0x3038, 0x303b),
      (0x3400, 0x4dbf), (0x4e00, 0x9fff), (0xf900, 0xfad9), (0x20000, 0x323af)], []⟩),
    ("hiragana", ⟨[(0x3041, 0x3096), (0x309d, 0x309f)], []⟩),
    ("katakana", ⟨[(0x30a1, 0x30fa), (0x30fd, 0x30ff), (0x31f0, 0x31ff), (0xff66, 0xff6f),
      (0xff71, 0xff9d)], []⟩),
    ("hangul", ⟨[(0x1100, 0x11ff), (0x3131, 0x318e), (0xac00, 0xd7a3)], []⟩)]

/-- The words before the name of a script. -/
def scriptMarks : List (List Char) := ["script", "sc", "scriptextensions", "scx"].map String.toList

/-- The property with a name in small letters. -/
def named? (name : List Char) : Option Property :=
  let mark := name.takeWhile fun c => c ≠ '=' ∧ c ≠ ':'
  let name := if mark.length < name.length ∧ scriptMarks.contains mark then name.drop (mark.length + 1)
    else name
  named.lookup (String.ofList name)

end Property

end Ordered

end PlannerTrials.Host
