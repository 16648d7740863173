import NullFlow.Text.Composed

namespace NullFlow.Url.Domain

open Text (Runs)

/-- To which side a letter joins. Marks are passed over. -/
inductive Joining where
  | left | right | dual | transparent
  deriving DecidableEq

namespace Joining

def table : List (Joining × Runs) :=
  [(.left, .ofLines ["A872 10ACD 10AD7 10D00 10FCB"]),
   (.right, .ofLines ["622-625 627 629 62F-632 648 671-673 688-699 6C0 6C3-6CB 6CD 6CF 6D2-6D3 6D5",
                      "6EE-6EF 710 715-719 71E 728 72A 72C 72F 74D 759-75B 76B-76C 771 773-774",
                      "778-779 840 846-847 849 854 856-858 867 869-882 88E 8AA-8AC 8AE 8B1-8B2 8B9",
                      "10AC5 10AC7 10AC9-10ACA 10ACE-10AD2 10ADD 10AE1 10AE4 10AEF 10B81",
                      "10B83-10B85 10B89 10B8C 10B8E-10B8F 10B91 10BA9-10BAC 10D22 10EC2 10F33",
                      "10F54 10F74-10F75 10FB4-10FB6 10FB9-10FBA 10FBD 10FC2-10FC3 10FC9"]),
   (.dual, .ofLines ["620 626 628 62A-62E 633-63F 641-647 649-64A 66E-66F 679-687 69A-6BF 6C1-6C2",
                     "6CC 6CE 6D0-6D1 6FA-6FC 6FF 712-714 71A-71D 71F-727 729 72B 72D-72E 74E-758",
                     "75C-76A 76D-770 772 775-777 77A-77F 7CA-7EA 841-845 848 84A-853 855 860",
                     "862-865 868 886 889-88D 88F 8A0-8A9 8AF-8B0 8B3-8B8 8BA-8C8 1807 1820-1878",
                     "1887-18A8 18AA A840-A871 10AC0-10AC4 10AD3-10AD6 10AD8-10ADC 10ADE-10AE0",
                     "10AEB-10AEE 10B80 10B82 10B86-10B88 10B8A-10B8B 10B8D 10B90 10BAD-10BAE",
                     "10D01-10D21 10D23 10EC3-10EC4 10EC6-10EC7 10F30-10F32 10F34-10F44",
                     "10F51-10F53 10F70-10F73 10F76-10F81 10FB0 10FB2-10FB3 10FB8 10FBB-10FBC",
                     "10FBE-10FBF 10FC1 10FC4 10FCA 1E922-1E943"]),
   (.transparent, .ofLines ["300-36F 483-489 591-5BD 5BF 5C1-5C2 5C4-5C5 5C7 610-61A 64B-65F 670",
                            "6D6-6DC 6DF-6E4 6E7-6E8 6EA-6ED 711 730-74A 7A6-7B0 7EB-7F3 7FD",
                            "816-819 81B-823 825-827 829-82D 859-85B 897-89F 8CA-902 93A 93C",
                            "941-948 94D 951-957 962-963 981 9BC 9C1-9C4 9CD 9E2-9E3 9FE-A02 A3C",
                            "A41-A51 A70-A71 A75 A81-A82 ABC AC1-AC8 ACD AE2-AE3 AFA-B01 B3C B3F",
                            "B41-B44 B4D-B56 B62-B63 B82 BC0 BCD C00 C04 C3C C3E-C40 C46-C56",
                            "C62-C63 C81 CBC CBF CC6 CCC-CCD CE2-CE3 D00-D01 D3B-D3C D41-D44 D4D",
                            "D62-D63 D81 DCA DD2-DD6 E31 E34-E3A E47-E4E EB1 EB4-EBC EC8-ECE",
                            "F18-F19 F35 F37 F39 F71-F7E F80-F84 F86-F87 F8D-FBC FC6 102D-1030",
                            "1032-1037 1039-103A 103D-103E 1058-1059 105E-1060 1071-1074 1082",
                            "1085-1086 108D 109D 135D-135F 1712-1714 1732-1733 1752-1753 1772-1773",
                            "17B7-17BD 17C6 17C9-17D3 17DD 1885-1886 18A9 1920-1922 1927-1928 1932",
                            "1939-193B 1A17-1A18 1A1B 1A56 1A58-1A60 1A62 1A65-1A6C 1A73-1A7F",
                            "1AB0-1B03 1B34 1B36-1B3A 1B3C 1B42 1B6B-1B73 1B80-1B81 1BA2-1BA5",
                            "1BA8-1BA9 1BAB-1BAD 1BE6 1BE8-1BE9 1BED 1BEF-1BF1 1C2C-1C33 1C36-1C37",
                            "1CD0-1CD2 1CD4-1CE0 1CE2-1CE8 1CED 1CF4 1CF8-1CF9 1DC0-1DFF 20D0-20F0",
                            "2CEF-2CF1 2D7F 2DE0-2DFF 302A-302D 3099-309A A66F-A672 A674-A67D",
                            "A69E-A69F A6F0-A6F1 A802 A806 A80B A825-A826 A82C A8C4-A8C5 A8E0-A8F1",
                            "A8FF A926-A92D A947-A951 A980-A982 A9B3 A9B6-A9B9 A9BC-A9BD A9E5",
                            "AA29-AA2E AA31-AA32 AA35-AA36 AA43 AA4C AA7C AAB0 AAB2-AAB4 AAB7-AAB8",
                            "AABE-AABF AAC1 AAEC-AAED AAF6 ABE5 ABE8 ABED FB1E FE20-FE2F 101FD",
                            "102E0 10376-1037A 10A01-10A0F 10A38-10A3F 10AE5-10AE6 10D24-10D27",
                            "10D69-10D6D 10EAB-10EAC 10EFA-10EFF 10F46-10F50 10F82-10F85 11001",
                            "11038-11046 11070 11073-11074 1107F-11081 110B3-110B6 110B9-110BA",
                            "110C2 11100-11102 11127-1112B 1112D-11134 11173 11180-11181",
                            "111B6-111BE 111C9-111CC 111CF 1122F-11231 11234 11236-11237 1123E",
                            "11241 112DF 112E3-112EA 11300-11301 1133B-1133C 11340 11366-11374",
                            "113BB-113C0 113CE 113D0 113D2 113E1-113E2 11438-1143F 11442-11444",
                            "11446 1145E 114B3-114B8 114BA 114BF-114C0 114C2-114C3 115B2-115B5",
                            "115BC-115BD 115BF-115C0 115DC-115DD 11633-1163A 1163D 1163F-11640",
                            "116AB 116AD 116B0-116B5 116B7 1171D 1171F 11722-11725 11727-1172B",
                            "1182F-11837 11839-1183A 1193B-1193C 1193E 11943 119D4-119DB 119E0",
                            "11A01-11A0A 11A33-11A38 11A3B-11A3E 11A47 11A51-11A56 11A59-11A5B",
                            "11A8A-11A96 11A98-11A99 11B60 11B62-11B64 11B66 11C30-11C3D 11C3F",
                            "11C92-11CA7 11CAA-11CB0 11CB2-11CB3 11CB5-11CB6 11D31-11D45 11D47",
                            "11D90-11D91 11D95 11D97 11EF3-11EF4 11F00-11F01 11F36-11F3A 11F40",
                            "11F42 11F5A 13440 13447-13455 1611E-16129 1612D-1612F 16AF0-16AF4",
                            "16B30-16B36 16F4F 16F8F-16F92 16FE4 1BC9D-1BC9E 1CF00-1CF46",
                            "1D167-1D169 1D17B-1D182 1D185-1D18B 1D1AA-1D1AD 1D242-1D244",
                            "1DA00-1DA36 1DA3B-1DA6C 1DA75 1DA84 1DA9B-1DAAF 1E000-1E08F",
                            "1E130-1E136 1E2AE 1E2EC-1E2EF 1E4EC-1E4EF 1E5EE-1E5EF 1E6E3 1E6E6",
                            "1E6EE-1E6EF 1E6F5 1E8D0-1E8D6 1E944-1E94B"])]

def of? (c : Char) : Option Joining :=
  Runs.classify table c

def reaches (side : Joining) (cs : List Char) : Bool :=
  match (cs.map of?).dropWhile (· = some .transparent) with
  | some joining :: _ => joining = side || joining = .dual
  | _ => false

end Joining

def joiner : Char := '\u200d'
def nonJoiner : Char := '\u200c'

def vowelKiller : Nat := 9

/-- Both joiners may stand behind a vowel killer. Elsewhere only the one that keeps apart may, between
letters that would join. The characters before come first, the nearest at the head. -/
def joinersFit : List Char → List Char → Bool
  | _, [] => true
  | before, c :: rest =>
    (if c = joiner ∨ c = nonJoiner then
      match before with
      | [] => false
      | previous :: _ =>
        Text.markClass previous == vowelKiller ||
          (c = nonJoiner && Joining.reaches .left before && Joining.reaches .right rest)
    else true) && joinersFit (c :: before) rest

end NullFlow.Url.Domain
