import SilentAuth.Unicode.Table

/-!
# Directions of writing

The class of a character says in which direction it is written, and how digits, marks and signs go
along with the letters around them. A host name that is written from right to left anywhere has to
obey a rule in each label, so that labels are not mixed up when they are shown.
-/

namespace SilentAuth

namespace Direction

/-- The classes of characters beyond ASCII that are not written from left to right. -/
def classText : String := "
A1:ON A2-A5:ET A6-AF:ON B0-B5:ET B6-DE:ON F7:ON 2B9-2BA:ON 2C2-2CF:ON 2D2-2ED:ON 2EF-2FF:ON
300-370:NSM 375-376:ON 3F6-3F7:ON 483-48A:NSM 58A-58E:ON 58F-590:ET 591-5BD:NSM 5BE:R 5BF:NSM
5C0:R 5C1-5C2:NSM 5C3:R 5C4-5C5:NSM 5C6:R 5C7-5CF:NSM 5D0-605:R 606-607:ON 608:AL 609-60A:ET
60B:AL 60C:CS 60D:AL 60E-60F:ON 610-61A:NSM 61B-64A:AL 64B-65F:NSM 660-669:AN 66A:ET 66B-66C:AN
66D-66F:AL 670:NSM 671-6D5:AL 6D6-6DD:NSM 6DE:ON 6DF-6E4:NSM 6E5-6E6:AL 6E7-6E8:NSM 6E9:ON
6EA-6ED:NSM 6EE-6EF:AL 6F0-6F9:EN 6FA-710:AL 711:NSM 712-72F:AL 730-74C:NSM 74D-7A5:AL 7A6-7B0:NSM
7B1-7BF:AL 7C0-7EA:R 7EB-7F3:NSM 7F4-7F5:R 7F6-7F9:ON 7FA-7FC:R 7FD:NSM 7FE-815:R 816-819:NSM
81A:R 81B-823:NSM 824:R 825-827:NSM 828:R 829-82F:NSM 830-858:R 859-85D:NSM 85E-85F:R 860-896:AL
897-89F:NSM 8A0-8C9:AL 8CA-902:NSM 93A:NSM 93C:NSM 941-948:NSM 94D:NSM 951-95F:NSM 962-963:NSM
981:NSM 9BC:NSM 9C1-9C6:NSM 9CD:NSM 9E2-9E5:NSM 9F2-9F3:ET 9FB:ET 9FE-A02:NSM A3C-A3D:NSM
A41-A5B:NSM A70-A71:NSM A75:NSM A81-A82:NSM ABC:NSM AC1-AC8:NSM ACD-ACF:NSM AE2-AE5:NSM AF1-AF8:ET
AFA-B01:NSM B3C:NSM B3F:NSM B41-B46:NSM B4D-B56:NSM B62-B65:NSM B82:NSM BC0:NSM BCD-BCF:NSM
BF3-BF8:ON BF9:ET BFA-BFF:ON C00:NSM C04:NSM C3C:NSM C3E-C40:NSM C46-C57:NSM C62-C65:NSM
C78-C7E:ON C81:NSM CBC:NSM CCC-CD4:NSM CE2-CE5:NSM D00-D01:NSM D3B-D3C:NSM D41-D45:NSM D4D:NSM
D62-D65:NSM D81:NSM DCA-DCE:NSM DD2-DD7:NSM E31:NSM E34-E3E:NSM E3F:ET E47-E4E:NSM EB1:NSM
EB4-EBC:NSM EC8-ECF:NSM F18-F19:NSM F35:NSM F37:NSM F39:NSM F3A-F3D:ON F71-F7E:NSM F80-F84:NSM
F86-F87:NSM F8D-FBD:NSM FC6:NSM 102D-1030:NSM 1032-1037:NSM 1039-103A:NSM 103D-103E:NSM
1058-1059:NSM 105E-1060:NSM 1071-1074:NSM 1082:NSM 1085-1086:NSM 108D:NSM 109D:NSM 135D-135F:NSM
1390-139F:ON 1400:ON 169B-169F:ON 1712-1714:NSM 1732-1733:NSM 1752-175F:NSM 1772-177F:NSM
17B7-17BD:NSM 17C6:NSM 17C9-17D3:NSM 17DB:ET 17DD-17DF:NSM 17F0-180F:ON 1885-1886:NSM 18A9:NSM
1920-1922:NSM 1927-1928:NSM 1932:NSM 1939-193F:NSM 1940-1945:ON 19DE-19FF:ON 1A17-1A18:NSM
1A1B-1A1D:NSM 1A56:NSM 1A58-1A60:NSM 1A62:NSM 1A65-1A6C:NSM 1A73-1A7F:NSM 1AB0-1B03:NSM 1B34:NSM
1B36-1B39:NSM 1B6B-1B73:NSM 1B80-1B81:NSM 1BA2-1BA5:NSM 1BA8-1BA9:NSM 1BAB-1BAD:NSM 1BE6:NSM
1BE8-1BE9:NSM 1BED:NSM 1BEF-1BF1:NSM 1C2C-1C33:NSM 1C36-1C3A:NSM 1CD0-1CD2:NSM 1CD4-1CE0:NSM
1CE2-1CE8:NSM 1CED:NSM 1CF4:NSM 1CF8-1CF9:NSM 1DC0-1E00:NSM 200C-200F:BN 2010-202F:ON 2030-2034:ET
2035-2043:ON 2044:CS 2045-209F:ON 20A0-20CF:ET 20D0-2103:NSM 2104-212D:ON 212E-2139:ET
213A-214D:ON 218A-2211:ON 2212:ES 2213:ET 2214-2335:ON 237B-2394:ON 2396-26AB:ON 26AD-27FF:ON
2900-2C2F:ON 2CE5-2CEB:ON 2CEF-2CF2:NSM 2CF9-2CFF:ON 2D7F:NSM 2DE0-2DFF:NSM 2E00-3004:ON
3008-3020:ON 302A-302D:NSM 3030:ON 3037-303A:ON 303D-3040:ON 3099-309C:NSM 30A0:ON 30FB:ON
31C0-31EF:ON 4DC0-4DFF:ON A490-A4CF:ON A60D-A60F:ON A66F-A672:NSM A673:ON A674-A67D:NSM
A67E-A680:ON A69E-A69F:NSM A6F0-A6F1:NSM A700-A722:ON A788:ON A802:NSM A806:NSM A80B:NSM
A825-A826:NSM A828-A82B:ON A82C-A82F:NSM A838-A83F:ET A874-A87F:ON A8C4-A8CD:NSM A8E0-A8F1:NSM
A8FF:NSM A926-A92D:NSM A947-A951:NSM A980-A982:NSM A9B3:NSM A9B6-A9B9:NSM A9BC-A9BD:NSM A9E5:NSM
AA29-AA2E:NSM AA31-AA32:NSM AA35-AA3F:NSM AA43:NSM AA4C:NSM AA7C:NSM AAB0:NSM AAB2-AAB4:NSM
AAB7-AAB8:NSM AABE-AABF:NSM AAC1:NSM AAEC-AAED:NSM AAF6-AB00:NSM AB6A-ABBF:ON ABE5:NSM ABE8:NSM
ABED-ABEF:NSM FB1E-FBB1:NSM FBB2-FBC2:AL FBC3-FE1F:ON FE20-FE44:NSM FE45-FE72:ON FE73-FFFF:AL
10101:ON 10140-1018C:ON 10190-101CF:ON 101FD-1027F:NSM 102E0:NSM 102E1-102FF:EN 10376-1037F:NSM
10800-1091E:R 1091F:ON 10920-10A00:R 10A01-10A0F:NSM 10A10-10A37:R 10A38-10A3F:NSM 10A40-10AE4:R
10AE5-10AEA:NSM 10AEB-10B38:R 10B39-10B3F:ON 10B40-10CFF:R 10D00-10D23:AL 10D24-10D2F:NSM
10D30-10D49:AN 10D4A-10D68:R 10D69-10D6D:NSM 10D6E:ON 10D6F-10E5F:R 10E60-10E7F:AN 10E80-10EAA:R
10EAB-10EAC:NSM 10EAD-10EC1:R 10EC2-10ECA:AL 10ECB-10ED8:ON 10ED9-10EF2:AL 10EF3-10EFF:NSM
10F00-10F2F:R 10F30-10F45:AL 10F46-10F50:NSM 10F51-10F6F:AL 10F70-10F81:R 10F82-10F85:NSM
10F86-10FFF:R 11001:NSM 11038-11046:NSM 11052-11065:ON 11070:NSM 11073-11074:NSM 1107F-11081:NSM
110B3-110B6:NSM 110B9-110BA:NSM 110C2-110CF:NSM 11100-11102:NSM 11127-1112B:NSM 1112D-11135:NSM
11173:NSM 11180-11181:NSM 111B6-111BE:NSM 111C9-111CC:NSM 111CF:NSM 1122F-11231:NSM 11234:NSM
11236-11237:NSM 1123E:NSM 11241-1127F:NSM 112DF:NSM 112E3-112EF:NSM 11300-11301:NSM
1133B-1133C:NSM 11340:NSM 11366-1137F:NSM 113BB-113C1:NSM 113CE:NSM 113D0:NSM 113D2:NSM
113E1-113FF:NSM 11438-1143F:NSM 11442-11444:NSM 11446:NSM 1145E:NSM 114B3-114B8:NSM 114BA:NSM
114BF-114C0:NSM 114C2-114C3:NSM 115B2-115B7:NSM 115BC-115BD:NSM 115BF-115C0:NSM 115DC-115FF:NSM
11633-1163A:NSM 1163D:NSM 1163F-11640:NSM 11660-1167F:ON 116AB:NSM 116AD:NSM 116B0-116B5:NSM
116B7:NSM 1171D:NSM 1171F:NSM 11722-11725:NSM 11727-1172F:NSM 1182F-11837:NSM 11839-1183A:NSM
1193B-1193C:NSM 1193E:NSM 11943:NSM 119D4-119DB:NSM 119E0:NSM 11A01-11A06:NSM 11A09-11A0A:NSM
11A33-11A38:NSM 11A3B-11A3E:NSM 11A47-11A4F:NSM 11A51-11A56:NSM 11A59-11A5B:NSM 11A8A-11A96:NSM
11A98-11A99:NSM 11B60:NSM 11B62-11B64:NSM 11B66:NSM 11C30-11C3D:NSM 11C92-11CA8:NSM
11CAA-11CB0:NSM 11CB2-11CB3:NSM 11CB5-11CFF:NSM 11D31-11D45:NSM 11D47-11D4F:NSM 11D90-11D92:NSM
11D95:NSM 11D97:NSM 11EF3-11EF4:NSM 11F00-11F01:NSM 11F36-11F3D:NSM 11F40:NSM 11F42:NSM
11F5A-11FAF:NSM 11FD5-11FDC:ON 11FDD-11FE0:ET 11FE1-11FFE:ON 13440:NSM 13447-1345F:NSM
1611E-16129:NSM 1612D-1612F:NSM 16AF0-16AF4:NSM 16B30-16B36:NSM 16F4F:NSM 16F8F-16F92:NSM 16FE2:ON
16FE4-16FEF:NSM 1BC9D-1BC9E:NSM 1CC00-1CEFF:ON 1CF00-1CF4F:NSM 1D167-1D169:NSM 1D17B-1D182:NSM
1D185-1D18B:NSM 1D1AA-1D1AD:NSM 1D1E9-1D241:ON 1D242-1D244:NSM 1D245-1D24F:ON 1D250-1D2BF:NSM
1D300-1D35F:ON 1DA00-1DA36:NSM 1DA3B-1DA6C:NSM 1DA75:NSM 1DA84:NSM 1DA9B-1DAFF:NSM 1DB00-1DEFF:ON
1E000-1E0FF:NSM 1E130-1E136:NSM 1E2AE-1E2BF:NSM 1E2EC-1E2EF:NSM 1E2FF-1E4CF:ET 1E4EC-1E4EF:NSM
1E5EE-1E5EF:NSM 1E6E3:NSM 1E6E6:NSM 1E6EE-1E6EF:NSM 1E6F5-1E6FD:NSM 1E800-1E8CF:R 1E8D0-1E921:NSM
1E922-1E943:R 1E944-1E94A:NSM 1E94B-1EC70:R 1EC71-1EEEF:AL 1EEF0-1F14F:ON 1F16D-1F16F:ON 1F1AD:ON
1F260-1FFFF:ON
"

/-- The characters beyond ASCII that are not written from left to right, with their classes. -/
def classRows : List (CodeRange × String) := CodeRange.parseNames classText

/-- The class of an ASCII character. -/
def asciiClass (c : Char) : String :=
  if c.isAlpha then "L"
  else if c.isDigit then "EN"
  else if c = '+' || c = '-' then "ES"
  else if c = ',' || c = '.' || c = '/' || c = ':' then "CS"
  else if c = '#' || c = '$' || c = '%' then "ET"
  else "ON"

/-- The class of a character. -/
def classOf (c : Char) : String :=
  if c.toNat < 0x80 then asciiClass c
  else ((classRows.find? (·.1.has c.toNat)).map Prod.snd).getD "L"

/-- Whether a character makes a host name one that is written from right to left. -/
def isRightToLeft (c : Char) : Bool := ["R", "AL", "AN"].contains (classOf c)

/-- The rule for a label with these classes. It begins with a letter; letters of the other direction
do not occur; it ends with a letter or digit, marks aside; and a label written from right to left
has European or Arabic digits, not both. -/
def obeysRule (classes : List String) : Bool :=
  match classes with
  | [] => true
  | first :: _ =>
    let neutral := ["ES", "CS", "ET", "ON", "BN", "NSM"]
    let last := (classes.reverse.dropWhile (· == "NSM")).head?.getD "NSM"
    if first == "L" then
      classes.all (["L", "EN"] ++ neutral).contains && ["L", "EN"].contains last
    else if first == "R" || first == "AL" then
      classes.all (["R", "AL", "AN", "EN"] ++ neutral).contains &&
        ["R", "AL", "EN", "AN"].contains last &&
        !(classes.contains "EN" && classes.contains "AN")
    else false

/-- Whether the labels of a host name are in order as to direction. -/
def isConsistent (labels : List (List Char)) : Bool :=
  !labels.any (·.any isRightToLeft) || labels.all fun label => obeysRule (label.map classOf)

end Direction

end SilentAuth
