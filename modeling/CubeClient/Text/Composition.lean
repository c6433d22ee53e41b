import CubeClient.Text.Combining

/-!
# Composed characters

A letter with its marks can be written as one character or as the letter and the marks behind it,
and marks of different classes in any order. `compose` gives each text one form: everything is taken
apart, marks are put in the order of their classes, and what makes up one character is put together
again. Korean syllables are composed by arithmetic, other characters by a table.

The table is exact for the characters that a host name may hold.
-/

namespace CubeClient.Text

/-- What characters are composed of, with the marks of each in the order of their classes. -/
def compositionRows : List CodeRow :=
  ["E0 61+300 61+301 61+302 61+303 61+308 61+30A - 63+327 65+300 65+301 65+302 65+308",
    "EC 69+300 69+301 69+302 69+308 - 6E+303 6F+300 6F+301 6F+302 6F+303 6F+308",
    "F9 75+300 75+301 75+302 75+308 79+301 - 79+308 - 61+304 - 61+306 - 61+328 - 63+301",
    "109 63+302 - 63+307 - 63+30C - 64+30C",
    "113 65+304 - 65+306 - 65+307 - 65+328 - 65+30C - 67+302 - 67+306 - 67+307 - 67+327",
    "125 68+302", "129 69+303 - 69+304 - 69+306 - 69+328",
    "135 6A+302 - 6B+327 - - 6C+301 - 6C+327 - 6C+30C", "144 6E+301 - 6E+327 - 6E+30C",
    "14D 6F+304 - 6F+306 - 6F+30B",
    "155 72+301 - 72+327 - 72+30C - 73+301 - 73+302 - 73+327 - 73+30C - 74+327 - 74+30C",
    "169 75+303 - 75+304 - 75+306 - 75+30A - 75+30B - 75+328 - 77+302 - 79+302 - - 7A+301",
    "17C 7A+307 - 7A+30C", "1A1 6F+31B", "1B0 75+31B",
    "1CE 61+30C - 69+30C - 6F+30C - 75+30C - 75+308+304 - 75+308+301 - 75+308+30C",
    "1DC 75+308+300 - - 61+308+304 - 61+307+304 - E6+304",
    "1E7 67+30C - 6B+30C - 6F+328 - 6F+328+304 - 292+30C 6A+30C", "1F5 67+301",
    "1F9 6E+300 - 61+30A+301 - E6+301 - F8+301 - 61+30F - 61+311 - 65+30F - 65+311",
    "209 69+30F - 69+311 - 6F+30F - 6F+311 - 72+30F - 72+311 - 75+30F - 75+311 - 73+326",
    "21B 74+326", "21F 68+30C",
    "227 61+307 - 65+327 - 6F+308+304 - 6F+303+304 - 6F+307 - 6F+307+304 - 79+304",
    "390 3B9+308+301", "3AC 3B1+301 3B5+301 3B7+301 3B9+301 3C5+308+301",
    "3CA 3B9+308 3C5+308 3BF+301 3C5+301 3C9+301", "439 438+306", "450 435+300 435+308 - 433+301",
    "457 456+308", "45C 43A+301 438+300 443+306", "477 475+30F", "4C2 436+306",
    "4D1 430+306 - 430+308", "4D7 435+306", "4DB 4D9+308 - 436+308 - 437+308",
    "4E3 438+304 - 438+308 - 43E+308",
    "4EB 4E9+308 - 44D+308 - 443+304 - 443+308 - 443+30B - 447+308", "4F9 44B+308",
    "622 627+653 627+654 648+654 627+655 64A+654", "6C0 6D5+654 - 6C1+654", "6D3 6D2+654",
    "929 928+93C", "931 930+93C - - 933+93C", "9CB 9C7+9BE 9C7+9D7",
    "B48 B47+B56 - - B47+B3E B47+B57", "B94 B92+BD7", "BCA BC6+BBE BC7+BBE BC6+BD7",
    "C48 C46+C56", "CC0 CBF+CD5", "CC7 CC6+CD5 CC6+CD6 - CC6+CC2 CC6+CC2+CD5",
    "D4A D46+D3E D47+D3E D46+D57", "DDA DD9+DCA - DD9+DCF DD9+DCF+DCA DD9+DDF", "1026 1025+102E",
    "1B06 1B05+1B35 - 1B07+1B35 - 1B09+1B35 - 1B0B+1B35 - 1B0D+1B35", "1B12 1B11+1B35",
    "1B3B 1B3A+1B35 - 1B3C+1B35 - - 1B3E+1B35 1B3F+1B35 - 1B42+1B35",
    "1E01 61+325 - 62+307 - 62+323 - 62+331 - 63+327+301 - 64+307 - 64+323 - 64+331",
    "1E11 64+327 - 64+32D - 65+304+300 - 65+304+301 - 65+32D - 65+330 - 65+327+306",
    "1E1F 66+307 - 67+304 - 68+307 - 68+323 - 68+308 - 68+327 - 68+32E - 69+330",
    "1E2F 69+308+301 - 6B+301 - 6B+323 - 6B+331 - 6C+323 - 6C+323+304 - 6C+331 - 6C+32D",
    "1E3F 6D+301 - 6D+307 - 6D+323 - 6E+307 - 6E+323 - 6E+331 - 6E+32D - 6F+303+301",
    "1E4F 6F+303+308 - 6F+304+300 - 6F+304+301 - 70+301 - 70+307 - 72+307 - 72+323",
    "1E5D 72+323+304 - 72+331 - 73+307 - 73+323 - 73+301+307 - 73+30C+307 - 73+323+307",
    "1E6B 74+307 - 74+323 - 74+331 - 74+32D - 75+324 - 75+330 - 75+32D - 75+303+301",
    "1E7B 75+304+308 - 76+303 - 76+323 - 77+300 - 77+301 - 77+308 - 77+307 - 77+323",
    "1E8B 78+307 - 78+308 - 79+307 - 7A+302 - 7A+323 - 7A+331 68+331 74+308 77+30A 79+30A",
    "1EA1 61+323 - 61+309 - 61+302+301 - 61+302+300 - 61+302+309 - 61+302+303",
    "1EAD 61+323+302 - 61+306+301 - 61+306+300 - 61+306+309 - 61+306+303 - 61+323+306",
    "1EB9 65+323 - 65+309 - 65+303 - 65+302+301 - 65+302+300 - 65+302+309 - 65+302+303",
    "1EC7 65+323+302 - 69+309 - 69+323 - 6F+323 - 6F+309 - 6F+302+301 - 6F+302+300",
    "1ED5 6F+302+309 - 6F+302+303 - 6F+323+302 - 6F+31B+301 - 6F+31B+300 - 6F+31B+309",
    "1EE1 6F+31B+303 - 6F+31B+323 - 75+323 - 75+309 - 75+31B+301 - 75+31B+300",
    "1EED 75+31B+309 - 75+31B+303 - 75+31B+323 - 79+300 - 79+323 - 79+309 - 79+303",
    "1F00 3B1+313 3B1+314 3B1+313+300 3B1+314+300 3B1+313+301 3B1+314+301 3B1+313+342",
    "1F07 3B1+314+342", "1F10 3B5+313 3B5+314 3B5+313+300 3B5+314+300 3B5+313+301 3B5+314+301",
    "1F20 3B7+313 3B7+314 3B7+313+300 3B7+314+300 3B7+313+301 3B7+314+301 3B7+313+342",
    "1F27 3B7+314+342",
    "1F30 3B9+313 3B9+314 3B9+313+300 3B9+314+300 3B9+313+301 3B9+314+301 3B9+313+342",
    "1F37 3B9+314+342", "1F40 3BF+313 3BF+314 3BF+313+300 3BF+314+300 3BF+313+301 3BF+314+301",
    "1F50 3C5+313 3C5+314 3C5+313+300 3C5+314+300 3C5+313+301 3C5+314+301 3C5+313+342",
    "1F57 3C5+314+342",
    "1F60 3C9+313 3C9+314 3C9+313+300 3C9+314+300 3C9+313+301 3C9+314+301 3C9+313+342",
    "1F67 3C9+314+342",
    "1F70 3B1+300 - 3B5+300 - 3B7+300 - 3B9+300 - 3BF+300 - 3C5+300 - 3C9+300",
    "1FB0 3B1+306 3B1+304", "1FB6 3B1+342", "1FC6 3B7+342", "1FD0 3B9+306 3B9+304 3B9+308+300",
    "1FD6 3B9+342 3B9+308+342",
    "1FE0 3C5+306 3C5+304 3C5+308+300 - 3C1+313 3C1+314 3C5+342 3C5+308+342", "1FF6 3C9+342",
    "219A 2190+338 2192+338", "21AE 2194+338", "21CD 21D0+338 21D4+338 21D2+338", "2204 2203+338",
    "2209 2208+338 - - 220B+338", "2224 2223+338 - 2225+338",
    "2241 223C+338 - - 2243+338 - - 2245+338 - 2248+338", "2260 3D+338 - 2261+338",
    "226D 224D+338 3C+338 3E+338 2264+338 2265+338 - - 2272+338 2273+338 - - 2276+338",
    "2279 2277+338", "2280 227A+338 227B+338 - - 2282+338 2283+338 - - 2286+338 2287+338",
    "22AC 22A2+338 22A8+338 22A9+338 22AB+338", "22E0 227C+338 227D+338 2291+338 2292+338",
    "22EA 22B2+338 22B3+338 22B4+338 22B5+338",
    "304C 304B+3099 - 304D+3099 - 304F+3099 - 3051+3099 - 3053+3099 - 3055+3099",
    "3058 3057+3099 - 3059+3099 - 305B+3099 - 305D+3099 - 305F+3099 - 3061+3099",
    "3065 3064+3099 - 3066+3099 - 3068+3099",
    "3070 306F+3099 306F+309A - 3072+3099 3072+309A - 3075+3099 3075+309A - 3078+3099",
    "307A 3078+309A - 307B+3099 307B+309A", "3094 3046+3099", "309E 309D+3099",
    "30AC 30AB+3099 - 30AD+3099 - 30AF+3099 - 30B1+3099 - 30B3+3099 - 30B5+3099",
    "30B8 30B7+3099 - 30B9+3099 - 30BB+3099 - 30BD+3099 - 30BF+3099 - 30C1+3099",
    "30C5 30C4+3099 - 30C6+3099 - 30C8+3099",
    "30D0 30CF+3099 30CF+309A - 30D2+3099 30D2+309A - 30D5+3099 30D5+309A - 30D8+3099",
    "30DA 30D8+309A - 30DB+3099 30DB+309A",
    "30F4 30A6+3099 - - 30EF+3099 30F0+3099 30F1+3099 30F2+3099", "30FE 30FD+3099",
    "105C9 105D2+307", "105E4 105DA+307", "1109A 11099+110BA - 1109B+110BA", "110AB 110A5+110BA",
    "1112E 11131+11127 11132+11127", "1134B 11347+1133E 11347+11357",
    "11383 11382+113C9 - 11384+113BB", "1138E 1138B+113C2 - - 11390+113C9",
    "113C5 113C2+113C2 - 113C2+113B8 113C2+113C9", "114BB 114B9+114BA 114B9+114B0 - 114B9+114BD",
    "115BA 115B8+115AF 115B9+115AF", "11938 11935+11930",
    "16121 1611E+1611E 1611E+16129 1611E+1611F 16129+1611F 1611E+16120 1611E+1611E+1611F",
    "16127 1611E+16129+1611F 1611E+1611E+16120",
    "16D68 16D67+16D67 16D63+16D67 16D63+16D67+16D67"].map
    CodeRow.ofText

namespace Hangul

/-- The first syllable. -/
def syllables : Nat := 0xAC00

/-- The first leading consonant, of which there are 19. -/
def leads : Nat := 0x1100

/-- The first vowel, of which there are 21. -/
def vowels : Nat := 0x1161

/-- The code point before the first trailing consonant; with none there are 28 ways to end. -/
def tails : Nat := 0x11A7

/-- The consonants and the vowel that a syllable is composed of. -/
def split? (n : Nat) : Option (List Nat) :=
  if syllables ≤ n ∧ n < syllables + 19 * 21 * 28 then
    let index := n - syllables
    some ([leads + index / (21 * 28), vowels + index / 28 % 21] ++
      if index % 28 = 0 then [] else [tails + index % 28])
  else none

/-- The syllable that is composed of two code points. -/
def join? (a b : Nat) : Option Nat :=
  if leads ≤ a ∧ a < leads + 19 ∧ vowels ≤ b ∧ b < vowels + 21 then
    some (syllables + ((a - leads) * 21 + (b - vowels)) * 28)
  else if syllables ≤ a ∧ a < syllables + 19 * 21 * 28 ∧ (a - syllables) % 28 = 0 ∧
      tails < b ∧ b < tails + 28 then
    some (a + (b - tails))
  else none

end Hangul

/-- Everything that a code point is composed of. -/
def decomposePoint (n : Nat) : List Nat :=
  if n < 0xC0 then [n]
  else ((CodeRow.lookup? compositionRows n).or (Hangul.split? n)).getD [n]

/-- The code point that is composed of one and a mark behind it. -/
def joinPoints? (a b : Nat) : Option Nat :=
  if b < 0x300 then none
  else (Hangul.join? a b).or (CodeRow.inverse? compositionRows (decomposePoint a ++ [b]))

/-- Puts a code point before a text whose marks are in order, behind the marks that precede it. -/
def insertMark (n : Nat) : List Nat → List Nat
  | [] => [n]
  | m :: rest =>
    if 0 < combiningClass m ∧ combiningClass m < combiningClass n then m :: insertMark n rest
    else n :: m :: rest

/-- Puts marks in the order of their classes. -/
def orderMarks : List Nat → List Nat
  | [] => []
  | n :: rest => insertMark n (orderMarks rest)

/-- Composes what is behind a code point with it. The marks in `held` stay between the two, the last
of them in front. -/
def composeFrom (start : Nat) (held : List Nat) : List Nat → List Nat
  | [] => start :: held.reverse
  | n :: rest =>
    let isNext := held.head?.all (combiningClass · < combiningClass n)
    match if isNext then joinPoints? start n else none with
    | some joined => composeFrom joined held rest
    | none =>
      if combiningClass n = 0 then start :: held.reverse ++ composeFrom n [] rest
      else composeFrom start (n :: held) rest

/-- Composes all that is behind the marks at the front. -/
def composeAll : List Nat → List Nat
  | [] => []
  | n :: rest => if combiningClass n = 0 then composeFrom n [] rest else n :: composeAll rest

/-- The one form of a text. -/
def compose (cs : List Char) : List Char :=
  (composeAll (orderMarks (cs.flatMap fun c => decomposePoint c.toNat))).map Char.ofNat

end CubeClient.Text
