import CodeAtlas.Text.Numbers

/-! Characters of identifiers: those that may start one and those that may
continue one, in every script (Unicode 14, closed under compatibility
normalisation). -/

namespace CodeAtlas.Text

/-- Characters above ASCII that may start an identifier. -/
def identifierStartRuns : List Nat := numbersIn "
 b61A1415N1V1mQ4CE57111dL51233116113111K1cB1dV8eM1b2216b5bZR44b9b7Z21cR11F272A321G11UTcHB1OX92415M4
 19131NP7B5O16Hb6bMbI31I17AFG48222M17113431G1D213E2A186422M17121212V411J3G9131M17121531I1F2N1B8222M
 17121531U213F1H116331432111232333CM1bG8131N1G31Q32122U148131N1A1531V212F2H9131b521G15383O65I3O1911
 27bMbC11D7bM211151O111A11A12511L4W1bR81b0R5d7b7K1G6443132734DC1Hb211512b71j9142711142b5142X1427111
 42F1bL142bVb1GGcE263r82H1Q5c33B7IDJEIED13FbGZ141bVcH7b5115bYAVbDU25Bb84QbIN9bHcA1cLbBH8bIUD2Ab8Qb0
 b53Ab0297b723b541612315fCbShQ262b226281111111V2bH1711331734264D5317d81D1GDcT1412A11266111111G24554
 1Hb5cwFgD6432Cb211512bK71GN9717171717171717pA3P975254cE631cI145b71cMHWbCGo8hb4bSxrHbVbA2hH3GA2KbBG
 V2c8b392cV2bS521115OG13141NTbGEbEbQ63112BSANPT7bBS1G51AA51b5N318KN313bE1132252111O32B73C6262697171
 b71E6d7TlyCCN4bDjaSk62cYb27C5511A1D151112121d0XdV6g2IbS2bIb4AdB111311111111dIb0Q6QBbK2V36262623ZC1
 Q1J121F2EYdFbXbHhFT3bDbBWDU5b2AU2b04815b6eEIb04b04b48bGCB1F17121B1F1712bViN9MA8O61b619bX6211b81231
 2NAN9VbTJ12AMAQbYbK62bS1F4131Tb6T3TZ81SRbIAMAJDId2c1bJbFDbFDb0jOb662c6TA18Mb6IbALRNCbHbL221Db9WPQb
 0T1218Z31CbCE4L111ZI1PcC711141F1A7bBb28222M17121531I1C5eEbHI4K3UbCK211f4bBb54b0bCK1bNb7D1bZRb17f5b
 8d8bSV82128121OF111cM82b3G111S1Ab471L1BbAJ1Ic1hB91b1H1bDUd47121b2L1P6121WE1j3Jf91c7zMcUd3HfGcv8cPF
 bdReiHq7jfTpT7VHc7HUIbCG4VL5Jt4bSdKc351bUDbS211SgoG8biEb69jo7417121i3b93H48l0cm4cZ5D397AgkEcD1bZ12
 2122241C11171bT1428171S141511371jG2P1P1V1P1V1P1V1P1V1P18bz8VnDb9A7G1iXUIb8bj8714121F1fHbNbW71bhG41
 R1211211A141111614111111312112111111111121124171414111A1H53151HesSbtqOWelD7g62ge2EhzLdi7p2bpUfh7"

/-- Characters above ASCII that may continue an identifier. -/
def identifierPartRuns : List Nat := numbersIn "
 b61A111215N1V1mQ4CE57111Hd912331165111K1cB1dV152eM1b2216b58b9111212118R44TB5c24cU182A1J21GbN2cTEbI
 41212bAIS4B5O169c21dL2A1J18222M1711342922248142152CA1112316422M17121212211542233174117GB319131M171
 2152A131321F42A971318222M1712152922237342152A11G216331432111232333C4533142161EAGD131N1G29131472132
 1242AG418131N1A152913147262142A12DD131bF131554752AA6131I3O191127314611186A22DbM5F1Ab3211151O111N25
 11162A24W1N26AB111114A1b04K1I1b091bLc26c62b211512b71j9142711142b5142X142711142F1bL142bV2399EGGcE26
 3r82H1Q5c33B7M9MBKCD1312CcC31422AX31B6cH7b75bYAV1C4CAb425Bb84Q6Bb1S4bR1T2B6AD18E1GbDc53AH9Cd8CbK8A
 3bD297b723G31b35oU262b226281111111V2bH1711331734264D5317bU2J1S1D1GDbFD413CH1412A11266111111G245541
 Hb5cwFgD69Cb211512bK71FO97171717171717171WoD3PF15254cE22231cI145b71cMHWbCGo8hb4bSxrHbVbA2hH3SKbC4A
 1d7b192cV2bS521115ObI41JbGCbYAA6O311bD2b0CT3bTEB6V1bJ9E2A6N3c1O32G25A6262697171b71E6dF122A6lyCCN4b
 DjaSk62cYb27C55C1D151112121d0XdV6g2IbS2bIb4A6GGG32O3X111311111111dIJA7Q411QBcH36262623ZC1Q1J121F2E
 YdFbXbHdS1dMT3bDF1VWDU5b75U2b04815b6eE2A6b04b04b48bGCB1F17121B1F1712bViN9MA8O61b619bX6211b812312NA
 N9VbTJ12AMAQbYbK62bS41258131T2341WT3TZ81UPbIAMAJDId2c1bJbFDbFDb48Aj2b61232c6TA18XVMb6LRN9bZVG9bO71
 DP7A6bH1A448b0219bX441D11ZI1b161bT711141F1A7bN5A6418222M1712151A22232161572735dVc35A44UbY118AeMbI2
 9N6YbT31BAb2bL7AbIR2F4A67f5bNcTc2L82128121U1229CAbY82bA2812RbR818c231Ic1hB91b919FAOU2M1Ec17121b831
 12198A66121b112167AiMNf51c7zMcUd3HfGcv8cPFbdReiHq7jfTpT7V1A6c71A6U25BbJ94CA9L5Jt4bSdKc34bL7HbS212B
 2EgoG8biEb69jo7417121i3b93H48l0cm4cZ5D397A32faPbA2Np25368827U4e43mBcD1bZ122122241C11171bT1428171S1
 41511371jG2P1P1V1P1V1P1V1P1V1P182bEo8bJ4bE81E1M51FbeOVg971H271215fXb93E2A41iXVHbMbiU714121F1fHB7b5
 c44Abh241R1211211A141111614111111312112111111111121124171414111A1H53151HdpWAbcMbtqOWelD7g62ge2EhzL
 di7p2bpUfh7bdleTgO"

def isIdentifierStart (c : Char) : Bool :=
  c.isAlpha || c == '_' || inRuns identifierStartRuns c

def isIdentifierPart (c : Char) : Bool :=
  c.isAlphanum || c == '_' || inRuns identifierPartRuns c

end CodeAtlas.Text
