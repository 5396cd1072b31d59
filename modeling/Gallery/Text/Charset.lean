import Gallery.Text.CodePoints
import Gallery.Text.Utf8

-- Text from bytes of a named character set: those of UTF-8 and UTF-16, and those with one byte a
-- character whose lower half is ASCII. How sets with several bytes a character are read is left to
-- whoever knows their tables. A mark at the front of the bytes tells the set whatever the name says.
-- Bytes that stand for nothing are shown as U+FFFD.

namespace Gallery.Text

-- A set of characters with a table of several bytes a character.
inductive WideSet where
  | gbk
  | gb18030
  | big5
  | eucJp
  | iso2022Jp
  | shiftJis
  | eucKr
deriving DecidableEq, Repr

-- The texts that bytes of these sets are.
abbrev WideReader := WideSet → List UInt8 → String

-- A set of characters and how they are written in bytes.
inductive Charset where
  | utf8
  | utf16 (highFirst : Bool)
  -- One byte a character; the characters of the bytes from 128 on.
  | singleByte (upper : Array Nat)
  | wide (set : WideSet)
  -- A set that is not read: all bytes together are one unknown character.
  | unreadable

namespace Charset

-- Names of sets with one byte a character, and their upper halves: `a+n` are `n` characters from
-- `a` on, and `a*n` is `a` for `n` times.
private def singleByteSets : List (String × String) :=
[("ansi_x3.4-1968 ascii cp1252 cp819 csisolatin1 ibm819 iso-8859-1 iso-ir-100 iso8859-1
    iso88591 iso_8859-1 iso_8859-1:1987 l1 latin1 us-ascii windows-1252 x-cp1252",
    "20ac 81 201a 192 201e 2026 2020 2021 2c6 2030 160 2039 152 8d 17d 8f 90 2018 2019
    201c 201d 2022 2013 2014 2dc 2122 161 203a 153 9d 17e 178 a0+60"),
  ("866 cp866 csibm866 ibm866",
    "410+30 2591+3 2502 2524 2561 2562 2556 2555 2563 2551 2557 255d 255c 255b 2510 2514
    2534 252c 251c 2500 253c 255e 255f 255a 2554 2569 2566 2560 2550 256c 2567 2568 2564
    2565 2559 2558 2552 2553 256b 256a 2518 250c 2588 2584 258c 2590 2580 440+10 401 451
    404 454 407 457 40e 45e b0 2219 b7 221a 2116 a4 25a0 a0"),
  ("csisolatin2 iso-8859-2 iso-ir-101 iso8859-2 iso88592 iso_8859-2 iso_8859-2:1987 l2
    latin2",
    "80+21 104 2d8 141 a4 13d 15a a7 a8 160 15e 164 179 ad 17d 17b b0 105 2db 142 b4 13e
    15b 2c7 b8 161 15f 165 17a 2dd 17e 17c 154 c1 c2 102 c4 139 106 c7 10c c9 118 cb 11a
    cd ce 10e 110 143 147 d3 d4 150 d6 d7 158 16e da 170 dc dd 162 df 155 e1 e2 103 e4
    13a 107 e7 10d e9 119 eb 11b ed ee 10f 111 144 148 f3 f4 151 f6 f7 159 16f fa 171 fc
    fd 163 2d9"),
  ("csisolatin3 iso-8859-3 iso-ir-109 iso8859-3 iso88593 iso_8859-3 iso_8859-3:1988 l3
    latin3",
    "80+21 126 2d8 a3 a4 fffd*1 124 a7 a8 130 15e 11e 134 ad fffd*1 17b b0 127 b2+4 125
    b7 b8 131 15f 11f 135 bd fffd*1 17c c0+3 fffd*1 c4 10a 108 c7+9 fffd*1 d1+4 120 d6
    d7 11c d9+4 16c 15c df+4 fffd*1 e4 10b 109 e7+9 fffd*1 f1+4 121 f6 f7 11d f9+4 16d
    15d 2d9"),
  ("csisolatin4 iso-8859-4 iso-ir-110 iso8859-4 iso88594 iso_8859-4 iso_8859-4:1988 l4
    latin4",
    "80+21 104 138 156 a4 128 13b a7 a8 160 112 122 166 ad 17d af b0 105 2db 157 b4 129
    13c 2c7 b8 161 113 123 167 14a 17e 14b 100 c1+6 12e 10c c9 118 cb 116 cd ce 12a 110
    145 14c 136 d4+5 172 da+3 168 16a df 101 e1+6 12f 10d e9 119 eb 117 ed ee 12b 111
    146 14d 137 f4+5 173 fa+3 169 16b 2d9"),
  ("csisolatincyrillic cyrillic iso-8859-5 iso-ir-144 iso8859-5 iso88595 iso_8859-5
    iso_8859-5:1988",
    "80+21 401+c ad 40e+42 2116 451+c a7 45e 45f"),
  ("arabic asmo-708 csiso88596e csiso88596i csisolatinarabic ecma-114 iso-8859-6
    iso-8859-6-e iso-8859-6-i iso-ir-127 iso8859-6 iso88596 iso_8859-6 iso_8859-6:1987",
    "80+21 fffd*3 a4 fffd*7 60c ad fffd*d 61b fffd*3 61f fffd*1 621+1a fffd*5 640+13
    fffd*d"),
  ("csisolatingreek ecma-118 elot_928 greek greek8 iso-8859-7 iso-ir-126 iso8859-7
    iso88597 iso_8859-7 iso_8859-7:1987 sun_eu_greek",
    "80+21 2018 2019 a3 20ac 20af a6+4 37a ab+3 fffd*1 2015 b0+4 384+3 b7 388+3 bb 38c bd
    38e+14 fffd*1 3a3+2c fffd*1"),
  ("csiso88598e csisolatinhebrew hebrew iso-8859-8 iso-8859-8-e iso-ir-138 iso8859-8
    iso88598 iso_8859-8 iso_8859-8:1988 visual csiso88598i iso-8859-8-i logical",
    "80+21 fffd*1 a2+8 d7 ab+f f7 bb+4 fffd*20 2017 5d0+1b fffd*2 200e 200f fffd*1"),
  ("csisolatin6 iso-8859-10 iso-ir-157 iso8859-10 iso885910 l6 latin6",
    "80+21 104 112 122 12a 128 136 a7 13b 110 160 166 17d ad 16a 14a b0 105 113 123 12b
    129 137 b7 13c 111 161 167 17e 2015 16b 14b 100 c1+6 12e 10c c9 118 cb 116 cd+4 145
    14c d3+4 168 d8 172 da+6 101 e1+6 12f 10d e9 119 eb 117 ed+4 146 14d f3+4 169 f8 173
    fa+5 138"),
  ("iso-8859-13 iso8859-13 iso885913",
    "80+21 201d a2+3 201e a6 a7 d8 a9 156 ab+4 c6 b0+4 201c b5+3 f8 b9 157 bb+4 e6 104
    12e 100 106 c4 c5 118 112 10c c9 179 116 122 136 12a 13b 160 143 145 d3 14c d5+3 172
    141 15a 16a dc 17b 17d df 105 12f 101 107 e4 e5 119 113 10d e9 17a 117 123 137 12b
    13c 161 144 146 f3 14d f5+3 173 142 15b 16b fc 17c 17e 2019"),
  ("iso-8859-14 iso8859-14 iso885914",
    "80+21 1e02 1e03 a3 10a 10b 1e0a a7 1e80 a9 1e82 1e0b 1ef2 ad ae 178 1e1e 1e1f 120
    121 1e40 1e41 b6 1e56 1e81 1e57 1e83 1e60 1ef3 1e84 1e85 1e61 c0+10 174 d1+6 1e6a
    d8+6 176 df+11 175 f1+6 1e6b f8+6 177 ff"),
  ("csisolatin9 iso-8859-15 iso8859-15 iso885915 iso_8859-15 l9",
    "80+24 20ac a5 160 a7 161 a9+b 17d b5+3 17e b9+3 152 153 178 bf+41"),
  ("iso-8859-16",
    "80+21 104 105 141 20ac 201e 160 a7 161 a9 218 ab 179 ad 17a 17b b0 b1 10c 142 17d
    201d b6 b7 17e 10d 219 bb 152 153 178 17c c0+3 102 c4 106 c6+a 110 143 d2+3 150 d6
    15a 170 d9+4 118 21a df+4 103 e4 107 e6+a 111 144 f2+3 151 f6 15b 171 f9+4 119 21b
    ff"),
  ("cskoi8r koi koi8 koi8-r koi8_r",
    "2500 2502 250c 2510 2514 2518 251c 2524 252c 2534 253c 2580 2584 2588 258c 2590+4
    2320 25a0 2219 221a 2248 2264 2265 a0 2321 b0 b2 b7 f7 2550+3 451 2553+f 401 2562+b
    a9 44e 430 431 446 434 435 444 433 445 438+8 44f 440+4 436 432 44c 44b 437 448 44d
    449 447 44a 42e 410 411 426 414 415 424 413 425 418+8 42f 420+4 416 412 42c 42b 417
    428 42d 429 427 42a"),
  ("koi8-ru koi8-u",
    "2500 2502 250c 2510 2514 2518 251c 2524 252c 2534 253c 2580 2584 2588 258c 2590+4
    2320 25a0 2219 221a 2248 2264 2265 a0 2321 b0 b2 b7 f7 2550+3 451 454 2554 456 457
    2557+5 491 45e 255e+4 401 404 2563 406 407 2566+5 490 40e a9 44e 430 431 446 434 435
    444 433 445 438+8 44f 440+4 436 432 44c 44b 437 448 44d 449 447 44a 42e 410 411 426
    414 415 424 413 425 418+8 42f 420+4 416 412 42c 42b 417 428 42d 429 427 42a"),
  ("csmacintosh mac macintosh x-mac-roman",
    "c4 c5 c7 c9 d1 d6 dc e1 e0 e2 e4 e3 e5 e7 e9 e8 ea eb ed ec ee ef f1 f3 f2 f4 f6 f5
    fa f9 fb fc 2020 b0 a2 a3 a7 2022 b6 df ae a9 2122 b4 a8 2260 c6 d8 221e b1 2264
    2265 a5 b5 2202 2211 220f 3c0 222b aa ba 3a9 e6 f8 bf a1 ac 221a 192 2248 2206 ab bb
    2026 a0 c0 c3 d5 152 153 2013 2014 201c 201d 2018 2019 f7 25ca ff 178 2044 20ac 2039
    203a fb01 fb02 2021 b7 201a 201e 2030 c2 ca c1 cb c8 cd+3 cc d3 d4 f8ff d2 da db d9
    131 2c6 2dc af 2d8+3 b8 2dd 2db 2c7"),
  ("dos-874 iso-8859-11 iso8859-11 iso885911 tis-620 windows-874",
    "20ac 81+4 2026 86+b 2018 2019 201c 201d 2022 2013 2014 98+9 e01+3a fffd*4 e3f+1d
    fffd*4"),
  ("cp1250 windows-1250 x-cp1250",
    "20ac 81 201a 83 201e 2026 2020 2021 88 2030 160 2039 15a 164 17d 179 90 2018 2019
    201c 201d 2022 2013 2014 98 2122 161 203a 15b 165 17e 17a a0 2c7 2d8 141 a4 104 a6+4
    15e ab+4 17b b0 b1 2db 142 b4+5 105 15f bb 13d 2dd 13e 17c 154 c1 c2 102 c4 139 106
    c7 10c c9 118 cb 11a cd ce 10e 110 143 147 d3 d4 150 d6 d7 158 16e da 170 dc dd 162
    df 155 e1 e2 103 e4 13a 107 e7 10d e9 119 eb 11b ed ee 10f 111 144 148 f3 f4 151 f6
    f7 159 16f fa 171 fc fd 163 2d9"),
  ("cp1251 windows-1251 x-cp1251",
    "402 403 201a 453 201e 2026 2020 2021 20ac 2030 409 2039 40a 40c 40b 40f 452 2018
    2019 201c 201d 2022 2013 2014 98 2122 459 203a 45a 45c 45b 45f a0 40e 45e 408 a4 490
    a6 a7 401 a9 404 ab+4 407 b0 b1 406 456 491 b5+3 451 2116 454 bb 458 405 455 457
    410+40"),
  ("cp1253 windows-1253 x-cp1253",
    "20ac 81 201a 192 201e 2026 2020 2021 88 2030 8a 2039 8c+5 2018 2019 201c 201d 2022
    2013 2014 98 2122 9a 203a 9c+5 385 386 a3+7 fffd*1 ab+4 2015 b0+4 384 b5+3 388+3 bb
    38c bd 38e+14 fffd*1 3a3+2c fffd*1"),
  ("cp1254 csisolatin5 iso-8859-9 iso-ir-148 iso8859-9 iso88599 iso_8859-9
    iso_8859-9:1989 l5 latin5 windows-1254 x-cp1254",
    "20ac 81 201a 192 201e 2026 2020 2021 2c6 2030 160 2039 152 8d+4 2018 2019 201c 201d
    2022 2013 2014 2dc 2122 161 203a 153 9d 9e 178 a0+30 11e d1+c 130 15e df+11 11f f1+c
    131 15f ff"),
  ("cp1255 windows-1255 x-cp1255",
    "20ac 81 201a 192 201e 2026 2020 2021 2c6 2030 8a 2039 8c+5 2018 2019 201c 201d 2022
    2013 2014 2dc 2122 9a 203a 9c+8 20aa a5+5 d7 ab+f f7 bb+5 5b0+14 5f0+5 fffd*7 5d0+1b
    fffd*2 200e 200f fffd*1"),
  ("cp1256 windows-1256 x-cp1256",
    "20ac 67e 201a 192 201e 2026 2020 2021 2c6 2030 679 2039 152 686 698 688 6af 2018
    2019 201c 201d 2022 2013 2014 6a9 2122 691 203a 153 200c 200d 6ba a0 60c a2+8 6be
    ab+f 61b bb+4 61f 6c1 621+16 d7 637+4 640+4 e0 644 e2 645+4 e7+5 649 64a ee ef 64b+4
    f4 64f 650 f7 651 f9 652 fb fc 200e 200f 6d2"),
  ("cp1257 windows-1257 x-cp1257",
    "20ac 81 201a 83 201e 2026 2020 2021 88 2030 8a 2039 8c a8 2c7 b8 90 2018 2019 201c
    201d 2022 2013 2014 98 2122 9a 203a 9c af 2db 9f a0 fffd*1 a2+3 fffd*1 a6 a7 d8 a9
    156 ab+4 c6 b0+8 f8 b9 157 bb+4 e6 104 12e 100 106 c4 c5 118 112 10c c9 179 116 122
    136 12a 13b 160 143 145 d3 14c d5+3 172 141 15a 16a dc 17b 17d df 105 12f 101 107 e4
    e5 119 113 10d e9 17a 117 123 137 12b 13c 161 144 146 f3 14d f5+3 173 142 15b 16b fc
    17c 17e 2d9"),
  ("cp1258 windows-1258 x-cp1258",
    "20ac 81 201a 192 201e 2026 2020 2021 2c6 2030 8a 2039 152 8d+4 2018 2019 201c 201d
    2022 2013 2014 2dc 2122 9a 203a 153 9d 9e 178 a0+23 102 c4+8 300 cd+3 110 d1 309 d3
    d4 1a0 d6+7 1af 303 df+4 103 e4+8 301 ed+3 111 f1 323 f3 f4 1a1 f6+7 1b0 20ab ff"),
  ("x-mac-cyrillic x-mac-ukrainian",
    "410+20 2020 b0 490 a3 a7 2022 b6 406 ae a9 2122 402 452 2260 403 453 221e b1 2264
    2265 456 b5 491 408 404 454 407 457 409 459 40a 45a 458 405 ac 221a 192 2248 2206 ab
    bb 2026 a0 40b 45b 40c 45c 455 2013 2014 201c 201d 2018 2019 f7 201e 40e 45e 40f 45f
    2116 401 451 44f 430+1f 20ac")]

private def hexNumber (cs : List Char) : Nat := (hexWords (String.ofList cs)).headD 0

private def expand (word : String) : List Nat :=
  let cs := word.toList
  let isMark (c : Char) : Bool := c == '+' || c == '*'
  let first := hexNumber (cs.takeWhile (!isMark ·))
  match cs.dropWhile (!isMark ·) with
  | '+' :: count => (List.range (hexNumber count)).map (first + ·)
  | '*' :: count => List.replicate (hexNumber count) first
  | _ => [first]

private def wordsOf (text : String) : List String :=
  ((text.toList.splitOnP Char.isWhitespace).map String.ofList).filter (!·.isEmpty)

private def utf8Names : List String :=
  wordsOf "unicode-1-1-utf-8 unicode11utf8 unicode20utf8 utf-8 utf8 x-unicode20utf8"

private def lowFirstNames : List String :=
  wordsOf "csunicode iso-10646-ucs-2 ucs-2 unicode unicodefeff utf-16 utf-16le"

private def highFirstNames : List String := ["unicodefffe", "utf-16be"]

private def unreadableNames : List String :=
  wordsOf "csiso2022kr hz-gb-2312 iso-2022-cn iso-2022-cn-ext iso-2022-kr replacement"

private def wideNames : List (String × WideSet) :=
  [("chinese csgb2312 csiso58gb231280 gb2312 gb_2312 gb_2312-80 gbk iso-ir-58 x-gbk", .gbk),
   ("gb18030", .gb18030),
   ("big5 big5-hkscs cn-big5 csbig5 x-x-big5", .big5),
   ("cseucpkdfmtjapanese euc-jp x-euc-jp", .eucJp),
   ("csiso2022jp iso-2022-jp", .iso2022Jp),
   ("csshiftjis ms932 ms_kanji shift-jis shift_jis sjis windows-31j x-sjis", .shiftJis),
   ("cseuckr csksc56011987 euc-kr iso-ir-149 korean ks_c_5601-1987 ks_c_5601-1989 ksc5601
     ksc_5601 windows-949", .eucKr)]

-- The blanks that may stand around a name.
private def isNameBlank (c : Char) : Bool :=
  c == ' ' || c == '\t' || c == '\n' || c == '\x0c' || c == '\r'

-- The set that a name stands for, in letters of either case.
def named? (name : String) : Option Charset :=
  let cs := ((name.toList.dropWhile isNameBlank).reverse.dropWhile isNameBlank).reverse
  let name := String.ofList (cs.map Char.toLower)
  if utf8Names.contains name then some .utf8
  else if lowFirstNames.contains name then some (.utf16 false)
  else if highFirstNames.contains name then some (.utf16 true)
  else if unreadableNames.contains name then some .unreadable
  else if name = "x-user-defined" then
    some (.singleByte ((List.range 128).map (0xf780 + ·)).toArray)
  else match wideNames.find? fun (names, _) => (wordsOf names).contains name with
    | some (_, set) => some (.wide set)
    | none =>
      (singleByteSets.find? fun (names, _) => (wordsOf names).contains name).map fun (_, table) =>
        .singleByte ((wordsOf table).flatMap expand).toArray

-- The set that a mark at the front tells, and what follows the mark.
private def marked? : List UInt8 → Option (Charset × List UInt8)
  | 0xef :: 0xbb :: 0xbf :: rest => some (.utf8, rest)
  | 0xff :: 0xfe :: rest => some (.utf16 false, rest)
  | 0xfe :: 0xff :: rest => some (.utf16 true, rest)
  | _ => none

private def isHigh (unit : Nat) : Bool := 0xd800 ≤ unit && unit < 0xdc00

-- The units of sixteen bits. A byte that is left over makes a unit that stands for nothing, and
-- takes in a unit before it that waits for its other half.
private def units (highFirst : Bool) (done : List Nat) : List UInt8 → List Nat
  | a :: b :: rest =>
    let unit := if highFirst then 256 * a.toNat + b.toNat else 256 * b.toNat + a.toNat
    units highFirst (unit :: done) rest
  | [_] => (0xd800 :: (if done.head?.any isHigh then done.drop 1 else done)).reverse
  | [] => done.reverse

private def unknown : Char := '\ufffd'

-- The characters of units; two units with surrogates make one.
private def ofUnits (done : List Char) : List Nat → List Char
  | [] => done.reverse
  | u :: rest =>
    if isHigh u then
      match rest with
      | v :: after =>
        if 0xdc00 ≤ v && v < 0xe000 then
          ofUnits (Char.ofNat (0x10000 + (u - 0xd800) * 1024 + (v - 0xdc00)) :: done) after
        else ofUnits (unknown :: done) (v :: after)
      | [] => ofUnits (unknown :: done) []
    else if 0xdc00 ≤ u && u < 0xe000 then ofUnits (unknown :: done) rest
    else ofUnits (Char.ofNat u :: done) rest
termination_by us => us.length

private def read (wide : WideReader) (set : Charset) (bytes : List UInt8) : String :=
  match set with
  | .utf8 => lossy ⟨bytes.toArray⟩
  | .utf16 highFirst => String.ofList (ofUnits [] (units highFirst [] bytes))
  | .singleByte upper => String.ofList (bytes.map fun b =>
      if b < 128 then Char.ofNat b.toNat else Char.ofNat (upper.getD (b.toNat - 128) 0xfffd))
  | .wide set => wide set bytes
  | .unreadable => if bytes.isEmpty then "" else String.singleton unknown

-- The text that bytes of a set are, unless a mark at their front tells of another set.
def decode (wide : WideReader) (set : Charset) (bytes : List UInt8) : String :=
  match marked? bytes with
  | some (set, rest) => read wide set rest
  | none => read wide set bytes

end Charset

end Gallery.Text
