import CodeAtlas.Text.Numbers

/-! Word characters: letters, digits and the underscore, in every script. The table has the runs of
alphabetic and numeric code points above ASCII (Unicode 14). -/

namespace CodeAtlas.Text

/-- Letters and numerals above ASCII. -/
def wordRuns : List Nat := numbersIn "
 b61721132131N1V1mQ4CE57111dL51224116113111K1cB1dV8eM1b2216b5bZR44b9b7LA421cR11F27F21G11UTcHB1Eb792
 415M419131NP7B5O16Hb6bMbI31I17A4A1G48222M17113431G1D2134C262186422M17121212V4117A23G9131M17121531I
 1F24A91B8222M17121531U2134A17B116331432111232333CM1LDI8131N1G31Q321224A871148131N1A1531V2124A12H91
 31b521G1531A4J165I3O191127VAHbC12C79Ab3211151O111A129125119A24W1VKC81b0R5d7b7KB66443132734DC11A6b2
 11512b71j9142711142b5142X142711142F1bL142bVEK3GGcE263r82H1Q5c33B7IDJEIED13FbGZ1413A6AMA6cH752Y115b
 YAVb3b425Bb84Q6Bb1N9bHb7A6AD1cLbBH83Ab5UDbKQb0SA3bD297b723b541612315fCbShQ262b226281111111V2bH1711
 331734264D5317d72265B6DcT1412A1135611111141B2455411bMu6bOc6MrIUbfGgD6432912b211512bK71GN9717171717
 171717c81n13P975254cE631cI145b71cM34AWbCGWAU81FWAb3FiWhb4bSxrHbVbA2hH3SKbBGV2c8b392cV2bS521115OG13
 141ND6AbGEbESAO631121b2ANPT7bBSB651P1b5N3184A6N313bE1132252111O32B73C6262697171b71E6d7DA6lyCCN4bDj
 aSk62cYb27C5511A1D151112121d0Xk3IbS2bIb4Cd851dRJA7Q6QBcH36262623ZC1Q1J121F2EYdFCb9CbLH2gST3bDGR4b0
 9U5b2AU2b04815b6eE2A6b04b04b48bGCB1F17121B1F1712bViN9MA8O61b619bX6211b812312N2V2b289bCJ125X4QbYbK4
 K2bBF4131TA9NV1WW81S65GbIAM2R5QN7c8c1bJbFDbF7b6CAi6V1b662c6b48MB4RIbASKNCbHQU1221Db9WP7A9b0FA41218
 Z31CbCE4BB114KBI1PcC711141F1A7bBHAB8222M17121531I1C5eEbHI45A53UbCK2118AeMbBb54b0bCK1BAb2b7D17AbIRL
 C47f5b8d8cBC82128121OF111EAbY82b3G111S1Ab471L1BbAJ1Ic1hB91b1H1FT5Ud47121b2L19A66121WE17AiMJf91FLb7
 zMcUd3HfGcv8cPFbdReiHq7jfTpT7V1A6c71A6UIbCG4CA171L5Jt4cFcXc351bUDbS211SgoG8biEb69jo7417121i3b93H48
 l0cm4cZ5D397AgcEKd0PdRcD1bZ122122241C11171bT1428171S141511371jG2P1P1V1P1V1P1V1P1V1P182bEbxSVnDb9A7
 2A41iXUIb84AbiU714121F1fH29bCbW714AvZbN1314c4b91FfE41R1211211A141111614111111312112111111111121124
 171414111A1H53151Hq4DczFAbcMbtqOWelD7g62ge2EhzLdi7p2bpUfh7"

/-- A character that can be part of a word. -/
def isWord (c : Char) : Bool :=
  c.isAlphanum || c == '_' || inRuns wordRuns c

end CodeAtlas.Text
