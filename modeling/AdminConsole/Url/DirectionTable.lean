/-!
# Directions of characters

The characters that are not written from left to right by themselves. Rows end with a semicolon and
hold the first and the last code point of a run, in hexadecimal; a run may span code points that no
domain name may hold. -/

namespace AdminConsole.DomainTable

/-- Letters that are written from right to left. -/
def leftwardRows : String := String.join [
  "5BE 5BE;5C0 5C0;5C3 5C3;5C6 5C6;5D0 5F4;608 608;60B 60B;60D 60D;61B 64A;66D 66F;671 6D5;",
  "6E5 6E6;6EE 6EF;6FA 710;712 72F;74D 7A5;7B1 7EA;7F4 7F5;7FA 7FA;7FE 815;81A 81A;824 824;",
  "828 828;830 858;85E 88E;8A0 8C9;FB1D FB1D;FB1F FB28;FB2A FD3D;FD50 FDC7;FDF0 FDFC;FE70 FEFC;",
  "10800 1091B;10920 10A00;10A10 10A35;10A40 10AE4;10AEB 10B35;10B40 10D23;10E80 10EA9;",
  "10EAD 10F45;10F51 10F81;10F86 10FF6;1E800 1E8CF;1E900 1E943;1E94B 1EEBB"]

/-- Digits that go with letters written from right to left. -/
def arabicDigitRows : String := String.join [
  "660 669;66B 66C;10D30 10E7E"]

/-- Digits that go with letters of both directions. -/
def digitRows : String := String.join [
  "30 39;B2 B3;B9 B9;6F0 6F9;2070 2070;2074 2079;2080 2089;2488 249B;FF10 FF19;102E1 102FB;",
  "1D7CE 1D7FF;1F100 1F10A;1FBF0 1FBF9"]

/-- Marks that take the direction of the character before them. -/
def attachedRows : String := String.join [
  "300 36F;483 489;591 5BD;5BF 5BF;5C1 5C2;5C4 5C5;5C7 5C7;610 61A;64B 65F;670 670;6D6 6DC;",
  "6DF 6E4;6E7 6E8;6EA 6ED;711 711;730 74A;7A6 7B0;7EB 7F3;7FD 7FD;816 819;81B 823;825 827;",
  "829 82D;859 85B;898 89F;8CA 902;93A 93A;93C 93C;941 948;94D 94D;951 957;962 963;981 981;",
  "9BC 9BC;9C1 9C4;9CD 9CD;9E2 9E3;9FE A02;A3C A3C;A41 A51;A70 A71;A75 A75;A81 A82;ABC ABC;",
  "AC1 AC8;ACD ACD;AE2 AE3;AFA B01;B3C B3C;B3F B3F;B41 B44;B4D B56;B62 B63;B82 B82;BC0 BC0;",
  "BCD BCD;C00 C00;C04 C04;C3C C3C;C3E C40;C46 C56;C62 C63;C81 C81;CBC CBC;CCC CCD;CE2 CE3;",
  "D00 D01;D3B D3C;D41 D44;D4D D4D;D62 D63;D81 D81;DCA DCA;DD2 DD6;E31 E31;E34 E3A;E47 E4E;",
  "EB1 EB1;EB4 EBC;EC8 ECD;F18 F19;F35 F35;F37 F37;F39 F39;F71 F7E;F80 F84;F86 F87;F8D FBC;",
  "FC6 FC6;102D 1030;1032 1037;1039 103A;103D 103E;1058 1059;105E 1060;1071 1074;1082 1082;",
  "1085 1086;108D 108D;109D 109D;135D 135F;1712 1714;1732 1733;1752 1753;1772 1773;17B4 17B5;",
  "17B7 17BD;17C6 17C6;17C9 17D3;17DD 17DD;180B 180F;1885 1886;18A9 18A9;1920 1922;1927 1928;",
  "1932 1932;1939 193B;1A17 1A18;1A1B 1A1B;1A56 1A56;1A58 1A60;1A62 1A62;1A65 1A6C;1A73 1A7F;",
  "1AB0 1B03;1B34 1B34;1B36 1B3A;1B3C 1B3C;1B42 1B42;1B6B 1B73;1B80 1B81;1BA2 1BA5;1BA8 1BA9;",
  "1BAB 1BAD;1BE6 1BE6;1BE8 1BE9;1BED 1BED;1BEF 1BF1;1C2C 1C33;1C36 1C37;1CD0 1CD2;1CD4 1CE0;",
  "1CE2 1CE8;1CED 1CED;1CF4 1CF4;1CF8 1CF9;1DC0 1DFF;20D0 20F0;2CEF 2CF1;2D7F 2D7F;2DE0 2DFF;",
  "302A 302D;3099 309A;A66F A672;A674 A67D;A69E A69F;A6F0 A6F1;A802 A802;A806 A806;A80B A80B;",
  "A825 A826;A82C A82C;A8C4 A8C5;A8E0 A8F1;A8FF A8FF;A926 A92D;A947 A951;A980 A982;A9B3 A9B3;",
  "A9B6 A9B9;A9BC A9BD;A9E5 A9E5;AA29 AA2E;AA31 AA32;AA35 AA36;AA43 AA43;AA4C AA4C;AA7C AA7C;",
  "AAB0 AAB0;AAB2 AAB4;AAB7 AAB8;AABE AABF;AAC1 AAC1;AAEC AAED;AAF6 AAF6;ABE5 ABE5;ABE8 ABE8;",
  "ABED ABED;FB1E FB1E;FE00 FE0F;FE20 FE2F;101FD 101FD;102E0 102E0;10376 1037A;10A01 10A0F;",
  "10A38 10A3F;10AE5 10AE6;10D24 10D27;10EAB 10EAC;10F46 10F50;10F82 10F85;11001 11001;",
  "11038 11046;11070 11070;11073 11074;1107F 11081;110B3 110B6;110B9 110BA;110C2 110C2;",
  "11100 11102;11127 1112B;1112D 11134;11173 11173;11180 11181;111B6 111BE;111C9 111CC;",
  "111CF 111CF;1122F 11231;11234 11234;11236 11237;1123E 1123E;112DF 112DF;112E3 112EA;",
  "11300 11301;1133B 1133C;11340 11340;11366 11374;11438 1143F;11442 11444;11446 11446;",
  "1145E 1145E;114B3 114B8;114BA 114BA;114BF 114C0;114C2 114C3;115B2 115B5;115BC 115BD;",
  "115BF 115C0;115DC 115DD;11633 1163A;1163D 1163D;1163F 11640;116AB 116AB;116AD 116AD;",
  "116B0 116B5;116B7 116B7;1171D 1171F;11722 11725;11727 1172B;1182F 11837;11839 1183A;",
  "1193B 1193C;1193E 1193E;11943 11943;119D4 119DB;119E0 119E0;11A01 11A06;11A09 11A0A;",
  "11A33 11A38;11A3B 11A3E;11A47 11A47;11A51 11A56;11A59 11A5B;11A8A 11A96;11A98 11A99;",
  "11C30 11C3D;11C92 11CA7;11CAA 11CB0;11CB2 11CB3;11CB5 11CB6;11D31 11D45;11D47 11D47;",
  "11D90 11D91;11D95 11D95;11D97 11D97;11EF3 11EF4;16AF0 16AF4;16B30 16B36;16F4F 16F4F;",
  "16F8F 16F92;16FE4 16FE4;1BC9D 1BC9E;1CF00 1CF46;1D167 1D169;1D17B 1D182;1D185 1D18B;",
  "1D1AA 1D1AD;1D242 1D244;1DA00 1DA36;1DA3B 1DA6C;1DA75 1DA75;1DA84 1DA84;1DA9B 1DAAF;",
  "1E000 1E02A;1E130 1E136;1E2AE 1E2AE;1E2EC 1E2EF;1E8D0 1E8D6;1E944 1E94A;E0100 E01EF"]

/-- Signs and symbols without a direction. -/
def neutralRows : String := String.join [
  "21 2F;3A 40;5B 60;7B A9;AB B1;B4 B4;B6 B8;BB BF;D7 D7;F7 F7;2B9 2BA;2C2 2CF;2D2 2DF;2E5 2ED;",
  "2EF 2FF;374 375;37E 37E;384 385;387 387;3F6 3F6;58A 58F;606 607;609 60A;60C 60C;60E 60F;",
  "66A 66A;6DE 6DE;6E9 6E9;7F6 7F9;9F2 9F3;9FB 9FB;AF1 AF1;BF3 BFA;C78 C7E;E3F E3F;F3A F3D;",
  "1390 1399;1400 1400;169B 169C;17DB 17DB;17F0 180A;1940 1945;19DE 19FF;1FBD 1FBD;1FBF 1FC1;",
  "1FCD 1FCF;1FDD 1FDF;1FED 1FEF;1FFD 1FFE;200B 205E;2060 2064;207A 207E;208A 208E;20A0 20C0;",
  "2100 2101;2103 2106;2108 2109;2114 2114;2116 2118;211E 2123;2125 2125;2127 2127;2129 2129;",
  "212E 212E;213A 213B;2140 2144;214A 214D;2150 215F;2189 2335;237B 2394;2396 2487;24EA 26AB;",
  "26AD 27FF;2900 2BFF;2CE5 2CEA;2CF9 2CFF;2E00 2FFB;3001 3004;3008 3020;3030 3030;3036 3037;",
  "303D 303F;309B 309C;30A0 30A0;30FB 30FB;31C0 31E3;321D 321E;3250 325F;327C 327E;32B1 32BF;",
  "32CC 32CF;3377 337A;33DE 33DF;33FF 33FF;4DC0 4DFF;A490 A4C6;A60D A60F;A673 A673;A67E A67F;",
  "A700 A721;A788 A788;A828 A82B;A838 A839;A874 A877;AB6A AB6B;FB29 FB29;FD3E FD4F;FDCF FDCF;",
  "FDFD FDFF;FE10 FE19;FE30 FE6B;FEFF FF0F;FF1A FF20;FF3B FF40;FF5B FF65;FFE0 FFFD;10101 10101;",
  "10140 1018C;10190 101A0;1091F 1091F;10B39 10B3F;11052 11065;11660 1166C;11FD5 11FF1;",
  "16FE2 16FE2;1BCA0 1BCA3;1D1E9 1D241;1D245 1D245;1D300 1D356;1D6DB 1D6DB;1D715 1D715;",
  "1D74F 1D74F;1D789 1D789;1D7C3 1D7C3;1E2FF 1E2FF;1EEF0 1F0F5;1F10B 1F10F;1F12F 1F12F;",
  "1F16A 1F16F;1F1AD 1F1AD;1F260 1FBCA"]

end AdminConsole.DomainTable
