/-
# Small letters

A text in small letters. Each capital has a small form, which is one character
but for the capital I with a dot, whose small form keeps the dot as a mark of its
own. A capital sigma has two: at the end of a word it is written in another way
than elsewhere, where a word is what has letters with a case and perhaps marks
between them.

The small forms of ASCII letters are ASCII. Of the other characters only the
Kelvin sign has a small form in ASCII; the dotted I has one that begins with it.

Key definitions: `smallForm`, `isCased`, `isCaseIgnorable`, `lowercase`.
-/
import Halyard.Text.Domain.Replacement

namespace Halyard.Text

/-- The small forms of the capitals beyond ASCII other than sigma, in the words of a table of
replacements. -/
def smallFormRows : List String :=
  ["C0-D6:E0 D8-DE:F8 100-12E/2:101 130:69+307 132-136/2:133 139-147/2:13A 14A-176/2:14B",
    "178:FF 179-17D/2:17A 181:253 182-184/2:183 186:254 187:188 189-18A:256 18B:18C 18E:1DD",
    "18F:259 190:25B 191:192 193:260 194:263 196:269 197:268 198:199 19C:26F 19D:272 19F:275",
    "1A0-1A4/2:1A1 1A6:280 1A7:1A8 1A9:283 1AC:1AD 1AE:288 1AF:1B0 1B1-1B2:28A 1B3-1B5/2:1B4",
    "1B7:292 1B8:1B9 1BC:1BD 1C4:1C6 1C5:1C6 1C7:1C9 1C8:1C9 1CA:1CC 1CB-1DB/2:1CC",
    "1DE-1EE/2:1DF 1F1:1F3 1F2-1F4/2:1F3 1F6:195 1F7:1BF 1F8-21E/2:1F9 220:19E 222-232/2:223",
    "23A:2C65 23B:23C 23D:19A 23E:2C66 241:242 243:180 244:289 245:28C 246-24E/2:247",
    "370-372/2:371 376:377 37F:3F3 386:3AC 388-38A:3AD 38C:3CC 38E-38F:3CD 391-3A1:3B1",
    "3A4-3AB:3C4 3CF:3D7 3D8-3EE/2:3D9 3F4:3B8 3F7:3F8 3F9:3F2 3FA:3FB 3FD-3FF:37B",
    "400-40F:450 410-42F:430 460-480/2:461 48A-4BE/2:48B 4C0:4CF 4C1-4CD/2:4C2 4D0-52E/2:4D1",
    "531-556:561 10A0-10C5:2D00 10C7:2D27 10CD:2D2D 13A0-13EF:AB70 13F0-13F5:13F8 1C89:1C8A",
    "1C90-1CBA:10D0 1CBD-1CBF:10FD 1E00-1E94/2:1E01 1E9E:DF 1EA0-1EFE/2:1EA1 1F08-1F0F:1F00",
    "1F18-1F1D:1F10 1F28-1F2F:1F20 1F38-1F3F:1F30 1F48-1F4D:1F40 1F59-1F5F/2:1F51",
    "1F68-1F6F:1F60 1F88-1F8F:1F80 1F98-1F9F:1F90 1FA8-1FAF:1FA0 1FB8-1FB9:1FB0",
    "1FBA-1FBB:1F70 1FBC:1FB3 1FC8-1FCB:1F72 1FCC:1FC3 1FD8-1FD9:1FD0 1FDA-1FDB:1F76",
    "1FE8-1FE9:1FE0 1FEA-1FEB:1F7A 1FEC:1FE5 1FF8-1FF9:1F78 1FFA-1FFB:1F7C 1FFC:1FF3 2126:3C9",
    "212A:6B 212B:E5 2132:214E 2160-216F:2170 2183:2184 24B6-24CF:24D0 2C00-2C2F:2C30",
    "2C60:2C61 2C62:26B 2C63:1D7D 2C64:27D 2C67-2C6B/2:2C68 2C6D:251 2C6E:271 2C6F:250",
    "2C70:252 2C72:2C73 2C75:2C76 2C7E-2C7F:23F 2C80-2CE2/2:2C81 2CEB-2CED/2:2CEC 2CF2:2CF3",
    "A640-A66C/2:A641 A680-A69A/2:A681 A722-A72E/2:A723 A732-A76E/2:A733 A779-A77B/2:A77A",
    "A77D:1D79 A77E-A786/2:A77F A78B:A78C A78D:265 A790-A792/2:A791 A796-A7A8/2:A797 A7AA:266",
    "A7AB:25C A7AC:261 A7AD:26C A7AE:26A A7B0:29E A7B1:287 A7B2:29D A7B3:AB53",
    "A7B4-A7C2/2:A7B5 A7C4:A794 A7C5:282 A7C6:1D8E A7C7-A7C9/2:A7C8 A7CB:264 A7CC-A7DA/2:A7CD",
    "A7DC:19B A7F5:A7F6 FF21-FF3A:FF41 10400-10427:10428 104B0-104D3:104D8 10570-1057A:10597",
    "1057C-1058A:105A3 1058C-10592:105B3 10594-10595:105BB 10C80-10CB2:10CC0",
    "10D50-10D65:10D70 118A0-118BF:118C0 16E40-16E5F:16E60 16EA0-16EB8:16EBB",
    "1E900-1E921:1E922"]

/-- The spans of the characters beyond ASCII that have a case. -/
def casedRows : List String :=
  ["AA B5 BA C0-D6 D8-F6 F8-1BA 1BC-1BF 1C4-293 296-2B8 2C0-2C1 2E0-2E4 345 370-373 376-377",
    "37A-37D 37F 386 388-38A 38C 38E-3A1 3A3-3F5 3F7-481 48A-52F 531-556 560-588 10A0-10C5",
    "10C7 10CD 10D0-10FA 10FC-10FF 13A0-13F5 13F8-13FD 1C80-1C8A 1C90-1CBA 1CBD-1CBF",
    "1D00-1DBF 1E00-1F15 1F18-1F1D 1F20-1F45 1F48-1F4D 1F50-1F57 1F59 1F5B 1F5D 1F5F-1F7D",
    "1F80-1FB4 1FB6-1FBC 1FBE 1FC2-1FC4 1FC6-1FCC 1FD0-1FD3 1FD6-1FDB 1FE0-1FEC 1FF2-1FF4",
    "1FF6-1FFC 2071 207F 2090-209C 2102 2107 210A-2113 2115 2119-211D 2124 2126 2128",
    "212A-212D 212F-2134 2139 213C-213F 2145-2149 214E 2160-217F 2183-2184 24B6-24E9",
    "2C00-2CE4 2CEB-2CEE 2CF2-2CF3 2D00-2D25 2D27 2D2D A640-A66D A680-A69D A722-A787",
    "A78B-A78E A790-A7DC A7F1-A7F6 A7F8-A7FA AB30-AB5A AB5C-AB69 AB70-ABBF FB00-FB06",
    "FB13-FB17 FF21-FF3A FF41-FF5A 10400-1044F 104B0-104D3 104D8-104FB 10570-1057A",
    "1057C-1058A 1058C-10592 10594-10595 10597-105A1 105A3-105B1 105B3-105B9 105BB-105BC",
    "10780 10783-10785 10787-107B0 107B2-107BA 10C80-10CB2 10CC0-10CF2 10D50-10D65",
    "10D70-10D85 118A0-118DF 16E40-16E7F 16EA0-16EB8 16EBB-16ED3 1D400-1D454 1D456-1D49C",
    "1D49E-1D49F 1D4A2 1D4A5-1D4A6 1D4A9-1D4AC 1D4AE-1D4B9 1D4BB 1D4BD-1D4C3 1D4C5-1D505",
    "1D507-1D50A 1D50D-1D514 1D516-1D51C 1D51E-1D539 1D53B-1D53E 1D540-1D544 1D546",
    "1D54A-1D550 1D552-1D6A5 1D6A8-1D6C0 1D6C2-1D6DA 1D6DC-1D6FA 1D6FC-1D714 1D716-1D734",
    "1D736-1D74E 1D750-1D76E 1D770-1D788 1D78A-1D7A8 1D7AA-1D7C2 1D7C4-1D7CB 1DF00-1DF09",
    "1DF0B-1DF1E 1DF25-1DF2A 1E030-1E06D 1E900-1E943 1F130-1F149 1F150-1F169 1F170-1F189"]

/-- The spans of the characters beyond ASCII that a word is not interrupted by. -/
def caseIgnorableRows : List String :=
  ["A8 AD AF B4 B7-B8 2B0-36F 374-375 37A 384-385 387 483-489 559 55F 591-5BD 5BF 5C1-5C2",
    "5C4-5C5 5C7 5F4 600-605 610-61A 61C 640 64B-65F 670 6D6-6DD 6DF-6E8 6EA-6ED 70F 711",
    "730-74A 7A6-7B0 7EB-7F5 7FA 7FD 816-82D 859-85B 888 890-891 897-89F 8C9-902 93A 93C",
    "941-948 94D 951-957 962-963 971 981 9BC 9C1-9C4 9CD 9E2-9E3 9FE A01-A02 A3C A41-A42",
    "A47-A48 A4B-A4D A51 A70-A71 A75 A81-A82 ABC AC1-AC5 AC7-AC8 ACD AE2-AE3 AFA-AFF B01 B3C",
    "B3F B41-B44 B4D B55-B56 B62-B63 B82 BC0 BCD C00 C04 C3C C3E-C40 C46-C48 C4A-C4D C55-C56",
    "C62-C63 C81 CBC CBF CC6 CCC-CCD CE2-CE3 D00-D01 D3B-D3C D41-D44 D4D D62-D63 D81 DCA",
    "DD2-DD4 DD6 E31 E34-E3A E46-E4E EB1 EB4-EBC EC6 EC8-ECE F18-F19 F35 F37 F39 F71-F7E",
    "F80-F84 F86-F87 F8D-F97 F99-FBC FC6 102D-1030 1032-1037 1039-103A 103D-103E 1058-1059",
    "105E-1060 1071-1074 1082 1085-1086 108D 109D 10FC 135D-135F 1712-1714 1732-1733",
    "1752-1753 1772-1773 17B4-17B5 17B7-17BD 17C6 17C9-17D3 17D7 17DD 180B-180F 1843",
    "1885-1886 18A9 1920-1922 1927-1928 1932 1939-193B 1A17-1A18 1A1B 1A56 1A58-1A5E 1A60",
    "1A62 1A65-1A6C 1A73-1A7C 1A7F 1AA7 1AB0-1ADD 1AE0-1AEB 1B00-1B03 1B34 1B36-1B3A 1B3C",
    "1B42 1B6B-1B73 1B80-1B81 1BA2-1BA5 1BA8-1BA9 1BAB-1BAD 1BE6 1BE8-1BE9 1BED 1BEF-1BF1",
    "1C2C-1C33 1C36-1C37 1C78-1C7D 1CD0-1CD2 1CD4-1CE0 1CE2-1CE8 1CED 1CF4 1CF8-1CF9",
    "1D2C-1D6A 1D78 1D9B-1DFF 1FBD 1FBF-1FC1 1FCD-1FCF 1FDD-1FDF 1FED-1FEF 1FFD-1FFE",
    "200B-200F 2018-2019 2024 2027 202A-202E 2060-2064 2066-206F 2071 207F 2090-209C",
    "20D0-20F0 2C7C-2C7D 2CEF-2CF1 2D6F 2D7F 2DE0-2DFF 2E2F 3005 302A-302D 3031-3035 303B",
    "3099-309E 30FC-30FE A015 A4F8-A4FD A60C A66F-A672 A674-A67D A67F A69C-A69F A6F0-A6F1",
    "A700-A721 A770 A788-A78A A7F1-A7F4 A7F8-A7F9 A802 A806 A80B A825-A826 A82C A8C4-A8C5",
    "A8E0-A8F1 A8FF A926-A92D A947-A951 A980-A982 A9B3 A9B6-A9B9 A9BC-A9BD A9CF A9E5-A9E6",
    "AA29-AA2E AA31-AA32 AA35-AA36 AA43 AA4C AA70 AA7C AAB0 AAB2-AAB4 AAB7-AAB8 AABE-AABF",
    "AAC1 AADD AAEC-AAED AAF3-AAF4 AAF6 AB5B-AB5F AB69-AB6B ABE5 ABE8 ABED FB1E FBB2-FBC2",
    "FE00-FE0F FE13 FE20-FE2F FE52 FE55 FEFF FF07 FF0E FF1A FF3E FF40 FF70 FF9E-FF9F FFE3",
    "FFF9-FFFB 101FD 102E0 10376-1037A 10780-10785 10787-107B0 107B2-107BA 10A01-10A03",
    "10A05-10A06 10A0C-10A0F 10A38-10A3A 10A3F 10AE5-10AE6 10D24-10D27 10D4E 10D69-10D6D",
    "10D6F 10EAB-10EAC 10EC5 10EFA-10EFF 10F46-10F50 10F82-10F85 11001 11038-11046 11070",
    "11073-11074 1107F-11081 110B3-110B6 110B9-110BA 110BD 110C2 110CD 11100-11102",
    "11127-1112B 1112D-11134 11173 11180-11181 111B6-111BE 111C9-111CC 111CF 1122F-11231",
    "11234 11236-11237 1123E 11241 112DF 112E3-112EA 11300-11301 1133B-1133C 11340",
    "11366-1136C 11370-11374 113BB-113C0 113CE 113D0 113D2 113E1-113E2 11438-1143F",
    "11442-11444 11446 1145E 114B3-114B8 114BA 114BF-114C0 114C2-114C3 115B2-115B5",
    "115BC-115BD 115BF-115C0 115DC-115DD 11633-1163A 1163D 1163F-11640 116AB 116AD",
    "116B0-116B5 116B7 1171D 1171F 11722-11725 11727-1172B 1182F-11837 11839-1183A",
    "1193B-1193C 1193E 11943 119D4-119D7 119DA-119DB 119E0 11A01-11A0A 11A33-11A38",
    "11A3B-11A3E 11A47 11A51-11A56 11A59-11A5B 11A8A-11A96 11A98-11A99 11B60 11B62-11B64",
    "11B66 11C30-11C36 11C38-11C3D 11C3F 11C92-11CA7 11CAA-11CB0 11CB2-11CB3 11CB5-11CB6",
    "11D31-11D36 11D3A 11D3C-11D3D 11D3F-11D45 11D47 11D90-11D91 11D95 11D97 11DD9",
    "11EF3-11EF4 11F00-11F01 11F36-11F3A 11F40 11F42 11F5A 13430-13440 13447-13455",
    "1611E-16129 1612D-1612F 16AF0-16AF4 16B30-16B36 16B40-16B43 16D40-16D42 16D6B-16D6C",
    "16F4F 16F8F-16F9F 16FE0-16FE1 16FE3-16FE4 16FF2-16FF3 1AFF0-1AFF3 1AFF5-1AFFB",
    "1AFFD-1AFFE 1BC9D-1BC9E 1BCA0-1BCA3 1CF00-1CF2D 1CF30-1CF46 1D167-1D169 1D173-1D182",
    "1D185-1D18B 1D1AA-1D1AD 1D242-1D244 1DA00-1DA36 1DA3B-1DA6C 1DA75 1DA84 1DA9B-1DA9F",
    "1DAA1-1DAAF 1E000-1E006 1E008-1E018 1E01B-1E021 1E023-1E024 1E026-1E02A 1E030-1E06D",
    "1E08F 1E130-1E13D 1E2AE 1E2EC-1E2EF 1E4EB-1E4EF 1E5EE-1E5EF 1E6E3 1E6E6 1E6EE-1E6EF",
    "1E6F5 1E6FF 1E8D0-1E8D6 1E944-1E94B 1F3FB-1F3FF E0001 E0020-E007F E0100-E01EF"]

/-- The table of the small forms. -/
def smallForms : Array (Span (List Char)) :=
  Span.sorted ((Span.words smallFormRows).flatMap Domain.replacements)

/-- The table of the characters that have a case. -/
def cased : Array (Span Unit) :=
  Span.ofRows [((), casedRows)]

/-- The table of the characters that a word is not interrupted by. -/
def caseIgnorable : Array (Span Unit) :=
  Span.ofRows [((), caseIgnorableRows)]

/-- Whether the character is of ASCII. -/
def isAscii (c : Char) : Bool :=
  c.toNat < 0x80

/-- The small form of a character other than the capital sigma. -/
def smallForm (c : Char) : List Char :=
  if isAscii c then [c.toLower] else (Span.find? smallForms c.toNat).getD [c]

/-- Whether the character has a case. -/
def isCased (c : Char) : Bool :=
  if isAscii c then c.isAlpha else Span.covers cased c.toNat

/-- The characters of ASCII that a word is not interrupted by: marks such as the apostrophe, the
full stop and the colon. -/
def ignorableAscii : List Nat :=
  [0x27, 0x2E, 0x3A, 0x5E, 0x60]

/-- Whether a word is not interrupted by the character. -/
def isCaseIgnorable (c : Char) : Bool :=
  if isAscii c then ignorableAscii.contains c.toNat else Span.covers caseIgnorable c.toNat

/-- Whether a letter with a case comes first, after what does not interrupt a word. -/
def continuesWord (text : List Char) : Bool :=
  match text.dropWhile isCaseIgnorable with
  | [] => false
  | c :: _ => isCased c

/-- The capital sigma. -/
def capitalSigma : Char := Char.ofNat 0x3A3

/-- The small form of a sigma after the characters `before`, the nearest first, and before
`rest`. -/
def smallSigma (before rest : List Char) : Char :=
  if continuesWord before && !continuesWord rest then Char.ofNat 0x3C2 else Char.ofNat 0x3C3

/-- The small letters of what follows the characters `before`, the nearest first. -/
def lowercaseAfter (before : List Char) : List Char → List Char
  | [] => []
  | c :: rest =>
    (if c = capitalSigma then [smallSigma before rest] else smallForm c) ++
      lowercaseAfter (c :: before) rest

/-- The text in small letters. -/
def lowercase (text : List Char) : List Char :=
  lowercaseAfter [] text

end Halyard.Text
