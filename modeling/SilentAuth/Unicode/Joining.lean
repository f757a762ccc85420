import SilentAuth.Unicode.Composition

/-!
# Marks and joiners in labels

A label of a host name may not begin with a mark. The two characters that have no shape of their own
but join their neighbours, or keep them apart, may stand after a mark that silences a vowel; the one
that keeps apart may also stand where its neighbours would join.
-/

namespace SilentAuth

namespace Joining

/-- The marks. -/
def markText : String := "
300-370 483-48A 591-5BD 5BF 5C1-5C2 5C4-5C5 5C7-5CF 610-61A 64B-65F 670 6D6-6DD 6DF-6E4 6E7-6E8
6EA-6ED 711 730-74C 7A6-7B0 7EB-7F3 7FD 816-819 81B-823 825-827 829-82F 859-85D 897-89F 8CA-903
93A-93C 93E-94F 951-95F 962-963 981-984 9BC 9BE-9CD 9D7-9DF 9E2-9E5 9FE-A04 A3C-A5B A70-A71 A75
A81-A84 ABC ABE-ACF AE2-AE5 AFA-B04 B3C B3E-B5E B62-B65 B82 BBE-BCF BD7-BE5 C00-C04 C3C C3E-C57
C62-C65 C81-C83 CBC CBE-CDB CE2-CE5 CF3-D03 D3B-D3C D3E-D4D D57 D62-D65 D81-D84 DCA-DE5 DF2-DF3
E31 E34-E3E E47-E4E EB1 EB4-EBC EC8-ECF F18-F19 F35 F37 F39 F3E-F3F F71-F84 F86-F87 F8D-FBD FC6
102B-103E 1056-1059 105E-1060 1062-1064 1067-106D 1071-1074 1082-108D 108F 109A-109D 135D-135F
1712-171E 1732-1734 1752-175F 1772-177F 17B6-17D3 17DD-17DF 1885-1886 18A9 1920-193F 1A17-1A1D
1A55-1A7F 1AB0-1B04 1B34-1B44 1B6B-1B73 1B80-1B82 1BA1-1BAD 1BE6-1BFB 1C24-1C3A 1CD0-1CD2
1CD4-1CE8 1CED 1CF4 1CF7-1CF9 1DC0-1E00 20D0-2103 2CEF-2CF2 2D7F 2DE0-2DFF 302A-302F 3099-309C
A66F-A672 A674-A67D A69E-A69F A6F0-A6F1 A802 A806 A80B A823-A827 A82C-A82F A880-A881 A8B4-A8CD
A8E0-A8F1 A8FF A926-A92D A947-A95E A980-A983 A9B3-A9C0 A9E5 AA29-AA3F AA43 AA4C-AA4F AA7B-AA7D
AAB0 AAB2-AAB4 AAB7-AAB8 AABE-AABF AAC1 AAEB-AAEF AAF5-AB00 ABE3-ABEA ABEC-ABEF FB1E-FBB1
FE20-FE44 101FD-1027F 102E0 10376-1037F 10A01-10A0F 10A38-10A3F 10AE5-10AEA 10D24-10D2F
10D69-10D6D 10EAB-10EAC 10EF3-10EFF 10F46-10F50 10F82-10F85 11000-11002 11038-11046 11070
11073-11074 1107F-11082 110B0-110BA 110C2-110CF 11100-11102 11127-11135 11145-11146 11173
11180-11182 111B3-111C0 111C9-111CC 111CE-111CF 1122C-11237 1123E 11241-1127F 112DF-112EF
11300-11304 1133B-1133C 1133E-1134F 11357-1135C 11362-1137F 113B8-113D0 113D2 113E1-113FF
11435-11446 1145E 114B0-114C3 115AF-115C0 115DC-115FF 11630-11640 116AB-116B7 1171D-1172F
1182C-1183A 11930-1193E 11940 11942-11943 119D1-119E0 119E4-119FF 11A01-11A0A 11A33-11A39
11A3B-11A3E 11A47-11A4F 11A51-11A5B 11A8A-11A99 11B60-11BBF 11C2F-11C3F 11C92-11CFF 11D31-11D45
11D47-11D4F 11D8A-11D97 11EF3-11EF6 11F00-11F01 11F03 11F34-11F42 11F5A-11FAF 13440 13447-1345F
1611E-1612F 16AF0-16AF4 16B30-16B36 16F4F 16F51-16F92 16FE4-16FF1 1BC9D-1BC9E 1CF00-1CF4F
1D165-1D169 1D16D-1D182 1D185-1D18B 1D1AA-1D1AD 1D242-1D244 1D250-1D2BF 1DA00-1DA36 1DA3B-1DA6C
1DA75 1DA84 1DA9B-1DAFF 1E000-1E0FF 1E130-1E136 1E2AE-1E2BF 1E2EC-1E2EF 1E4EC-1E4EF 1E5EE-1E5EF
1E6E3 1E6E6 1E6EE-1E6EF 1E6F5-1E6FD 1E8D0-1E921 1E944-1E94A
"

/-- How characters join: on the left or right side only, on both, or not at all while being looked
through. -/
def typeText : String := "
300-370:T 483-48A:T 591-5BD:T 5BF:T 5C1-5C2:T 5C4-5C5:T 5C7-5CF:T 610-61A:T 620:D 622-625:R 626:D
627:R 628:D 629:R 62A-62E:D 62F-632:R 633-63F:D 641-647:D 648:R 649-64A:D 64B-65F:T 66E-66F:D
670:T 671-673:R 679-687:D 688-699:R 69A-6BF:D 6C0:R 6C1-6C2:D 6C3-6CB:R 6CC:D 6CD:R 6CE:D 6CF:R
6D0-6D1:D 6D2-6D3:R 6D5:R 6D6-6DD:T 6DF-6E4:T 6E7-6E8:T 6EA-6ED:T 6EE-6EF:R 6FA-6FC:D 6FF:D 710:R
711:T 712-714:D 715-719:R 71A-71D:D 71E:R 71F-727:D 728:R 729:D 72A:R 72B:D 72C:R 72D-72E:D 72F:R
730-74C:T 74D:R 74E-758:D 759-75B:R 75C-76A:D 76B-76C:R 76D-770:D 771:R 772:D 773-774:R 775-777:D
778-779:R 77A-77F:D 7A6-7B0:T 7CA-7EA:D 7EB-7F3:T 7FD:T 816-819:T 81B-823:T 825-827:T 829-82F:T
840:R 841-845:D 846-847:R 848:D 849:R 84A-853:D 854:R 855:D 856-858:R 859-85D:T 860:D 862-865:D
867:R 868:D 869-882:R 886:D 889-88D:D 88E:R 88F-896:D 897-89F:T 8A0-8A9:D 8AA-8AC:R 8AE:R
8AF-8B0:D 8B1-8B2:R 8B3-8B8:D 8B9:R 8BA-8C8:D 8CA-902:T 93A:T 93C:T 941-948:T 94D:T 951-95F:T
962-963:T 981:T 9BC:T 9C1-9C6:T 9CD:T 9E2-9E5:T 9FE-A02:T A3C-A3D:T A41-A5B:T A70-A71:T A75:T
A81-A82:T ABC:T AC1-AC8:T ACD-ACF:T AE2-AE5:T AFA-B01:T B3C:T B3F:T B41-B46:T B4D-B56:T B62-B65:T
B82:T BC0:T BCD-BCF:T C00:T C04:T C3C:T C3E-C40:T C46-C57:T C62-C65:T C81:T CBC:T CBF:T CC6:T
CCC-CD4:T CE2-CE5:T D00-D01:T D3B-D3C:T D41-D45:T D4D:T D62-D65:T D81:T DCA-DCE:T DD2-DD7:T E31:T
E34-E3E:T E47-E4E:T EB1:T EB4-EBC:T EC8-ECF:T F18-F19:T F35:T F37:T F39:T F71-F7E:T F80-F84:T
F86-F87:T F8D-FBD:T FC6:T 102D-1030:T 1032-1037:T 1039-103A:T 103D-103E:T 1058-1059:T 105E-1060:T
1071-1074:T 1082:T 1085-1086:T 108D:T 109D:T 135D-135F:T 1712-1714:T 1732-1733:T 1752-175F:T
1772-177F:T 17B7-17BD:T 17C6:T 17C9-17D3:T 17DD-17DF:T 1807:D 1820-187F:D 1885-1886:T 1887-18A8:D
18A9:T 18AA-18AF:D 1920-1922:T 1927-1928:T 1932:T 1939-193F:T 1A17-1A18:T 1A1B-1A1D:T 1A56:T
1A58-1A60:T 1A62:T 1A65-1A6C:T 1A73-1A7F:T 1AB0-1B03:T 1B34:T 1B36-1B39:T 1B6B-1B73:T 1B80-1B81:T
1BA2-1BA5:T 1BA8-1BA9:T 1BAB-1BAD:T 1BE6:T 1BE8-1BE9:T 1BED:T 1BEF-1BF1:T 1C2C-1C33:T 1C36-1C3A:T
1CD0-1CD2:T 1CD4-1CE0:T 1CE2-1CE8:T 1CED:T 1CF4:T 1CF8-1CF9:T 1DC0-1E00:T 20D0-2103:T 2CEF-2CF2:T
2D7F:T 2DE0-2DFF:T 302A-302D:T 3099-309C:T A66F-A672:T A674-A67D:T A69E-A69F:T A6F0-A6F1:T A802:T
A806:T A80B:T A825-A826:T A82C-A82F:T A840-A871:D A872:L A8C4-A8CD:T A8E0-A8F1:T A8FF:T
A926-A92D:T A947-A951:T A980-A982:T A9B3:T A9B6-A9B9:T A9BC-A9BD:T A9E5:T AA29-AA2E:T AA31-AA32:T
AA35-AA3F:T AA43:T AA4C:T AA7C:T AAB0:T AAB2-AAB4:T AAB7-AAB8:T AABE-AABF:T AAC1:T AAEC-AAED:T
AAF6-AB00:T ABE5:T ABE8:T ABED-ABEF:T FB1E-FBB1:T FE20-FE44:T 101FD-1027F:T 102E0:T 10376-1037F:T
10A01-10A0F:T 10A38-10A3F:T 10AC0-10AC4:D 10AC5:R 10AC7:R 10AC9-10ACA:R 10ACD:L 10ACE-10AD2:R
10AD3-10AD6:D 10AD7:L 10AD8-10ADC:D 10ADD:R 10ADE-10AE0:D 10AE1:R 10AE4:R 10AE5-10AEA:T
10AEB-10AEE:D 10AEF:R 10B80:D 10B81:R 10B82:D 10B83-10B85:R 10B86-10B88:D 10B89:R 10B8A-10B8B:D
10B8C:R 10B8D:D 10B8E-10B8F:R 10B90:D 10B91-10B98:R 10BA9-10BAC:R 10BAD-10BAE:D 10D00:L
10D01-10D21:D 10D22:R 10D23:D 10D24-10D2F:T 10D69-10D6D:T 10EAB-10EAC:T 10EC2:R 10EC3-10EC4:D
10EC6-10ECA:D 10ED9-10EF2:D 10EF3-10EFF:T 10F30-10F32:D 10F33:R 10F34-10F44:D 10F46-10F50:T
10F51-10F53:D 10F54:R 10F70-10F73:D 10F74-10F75:R 10F76-10F81:D 10F82-10F85:T 10FB0:D
10FB2-10FB3:D 10FB4-10FB6:R 10FB8:D 10FB9-10FBA:R 10FBB-10FBC:D 10FBD:R 10FBE-10FBF:D 10FC1:D
10FC2-10FC3:R 10FC4:D 10FC9:R 10FCA:D 10FCB-10FDF:L 11001:T 11038-11046:T 11070:T 11073-11074:T
1107F-11081:T 110B3-110B6:T 110B9-110BA:T 110C2-110CF:T 11100-11102:T 11127-1112B:T 1112D-11135:T
11173:T 11180-11181:T 111B6-111BE:T 111C9-111CC:T 111CF:T 1122F-11231:T 11234:T 11236-11237:T
1123E:T 11241-1127F:T 112DF:T 112E3-112EF:T 11300-11301:T 1133B-1133C:T 11340:T 11366-1137F:T
113BB-113C1:T 113CE:T 113D0:T 113D2:T 113E1-113FF:T 11438-1143F:T 11442-11444:T 11446:T 1145E:T
114B3-114B8:T 114BA:T 114BF-114C0:T 114C2-114C3:T 115B2-115B7:T 115BC-115BD:T 115BF-115C0:T
115DC-115FF:T 11633-1163A:T 1163D:T 1163F-11640:T 116AB:T 116AD:T 116B0-116B5:T 116B7:T 1171D:T
1171F:T 11722-11725:T 11727-1172F:T 1182F-11837:T 11839-1183A:T 1193B-1193C:T 1193E:T 11943:T
119D4-119DB:T 119E0:T 11A01-11A0A:T 11A33-11A38:T 11A3B-11A3E:T 11A47-11A4F:T 11A51-11A56:T
11A59-11A5B:T 11A8A-11A96:T 11A98-11A99:T 11B60:T 11B62-11B64:T 11B66:T 11C30-11C3D:T 11C3F:T
11C92-11CA8:T 11CAA-11CB0:T 11CB2-11CB3:T 11CB5-11CFF:T 11D31-11D45:T 11D47-11D4F:T 11D90-11D92:T
11D95:T 11D97:T 11EF3-11EF4:T 11F00-11F01:T 11F36-11F3D:T 11F40:T 11F42:T 11F5A-11FAF:T 13440:T
13447-1345F:T 1611E-16129:T 1612D-1612F:T 16AF0-16AF4:T 16B30-16B36:T 16F4F:T 16F8F-16F92:T
16FE4-16FEF:T 1BC9D-1BC9E:T 1CF00-1CF4F:T 1D167-1D169:T 1D17B-1D182:T 1D185-1D18B:T 1D1AA-1D1AD:T
1D242-1D244:T 1D250-1D2BF:T 1DA00-1DA36:T 1DA3B-1DA6C:T 1DA75:T 1DA84:T 1DA9B-1DAFF:T
1E000-1E0FF:T 1E130-1E136:T 1E2AE-1E2BF:T 1E2EC-1E2EF:T 1E4EC-1E4EF:T 1E5EE-1E5EF:T 1E6E3:T
1E6E6:T 1E6EE-1E6EF:T 1E6F5-1E6FD:T 1E8D0-1E921:T 1E922-1E943:D 1E944-1E94F:T
"

/-- The marks. -/
def marks : List CodeRange := CodeRange.parseAll markText

/-- The characters that join or are looked through. -/
def typeRows : List (CodeRange × String) := CodeRange.parseNames typeText

/-- Whether a character is a mark. -/
def isMark (c : Char) : Bool := marks.any (·.has c.toNat)

/-- How a character joins. -/
def typeOf (c : Char) : String := ((typeRows.find? (·.1.has c.toNat)).map Prod.snd).getD "U"

/-- Whether the nearest character that is not looked through joins in one of these ways. -/
def nearestJoins (ways : List String) (cs : List Char) : Bool :=
  match cs.dropWhile (typeOf · == "T") with
  | c :: _ => ways.contains (typeOf c)
  | [] => false

/-- Whether a mark silences the vowel before it. -/
def silencesVowel (c : Char) : Bool := Composition.classOf c.toNat = 9

/-- Whether the joiners of a label stand where they may; what was passed by is reversed. -/
def joinersAllowed (before : List Char) : List Char → Bool
  | [] => true
  | c :: rest =>
    let here :=
      match before.head? with
      | none => false
      | some previous =>
        silencesVowel previous ||
          (c = '\u200C' && nearestJoins ["L", "D"] before && nearestJoins ["R", "D"] rest)
    ((c ≠ '\u200C' && c ≠ '\u200D') || here) && joinersAllowed (c :: before) rest

end Joining

end SilentAuth
