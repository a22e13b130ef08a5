import CodeAtlas.Text.Numbers

/-! Characters that are shown as they are in quoted text. Control, format,
private-use, unassigned and separator characters are not among them; the plain
space is (Unicode 14). -/

namespace CodeAtlas.Text

/-- Printable characters above ASCII. -/
def printableRuns : List Nat := numbersIn "
 XC1tU2647111K1l11b22bE231bJ8R46HM1fC1bC2bN2cTEbN2bD2F1S211B5V9c21eH18222M1711342922248142152P23164
 22M17121212211542233174117HA319131M1712152A131321F42C771318222M1712152922237342152IA21633143211123
 2333C4533142161EL5D131N1G291314721321242A7M131N1A152913147262142A12DD131bF13164G2Q131I3O1911273146
 11186A23CbM4Tb1211151O111N2511162A24Wc01b04b31b01F1Db1fI11512kH142711142b5142X142711142F1bL142bV2W
 3Q6cE262rS1S3cH7M9O9KCD1312CcM2A6A6E1B6cH7b75bYAV1C4C413b625Bb84Q6B3bQ2bT1T2B6A6E2VbDc53bB1d88bO3F
 3bO7b72B8b75oU262b226281111111V2bH1F1E261J2319HO8bBH22R1D3XFXFdW4sFPBLbyC2W1jP5b911512bK72EO971717
 17171717171dIYQ1cHCfYQC5bR1cE2cV5b71cM1cCCbB1bfhP3bJ9jOKf48fN521115ObN3A6bK8bY8C6d8BU3c61B4X1bJ9E2
 A2cVOSA6262697171bO4dI2A6lyCCN4bDjaSk62cYb27C55Q151112121dHGmD2bI71Wb66bF1J14451dR4fA362626233717D
 22C1Q1J121F2EYdF534b93cG1D31bBbAdMT3bDFS4b09U5b75U1b14Eb6eE2A6b04b04b48bGBC1F17121B1F1712bViN9MA8O
 61b619bX6211b812312N1c089bCJ125X3R51bSbK4K2bE1258131T234A797bSWb34C9bI3T2R5Q74C7c8c1bJbFDbF7bA8Ai6
 V1b61322c6b48b6MQb2SKN9c64b09bQ15DP7A6bH1I8b39cO1KBI1b8bT711141F1B6bN5A6418222M1712151A22232161572
 735dVcK15Uc08AeMbI2b2YbXBA6DJbM6AbIR2F4Nf5bOcScBC82128121U122C9AbY82bA2BRc08cBDc1hB91b91EAT3W2M1Ec
 17121b83112198A66121b112167AiMPf31FbEDzNcUd315BfGcv8cRDbdReiHq7jfTpT7V1A4c91A6U26AbYAA171L5Jt4cJcT
 c34bL7HbS5B2EgoG8biEb69jo7417121i3b93H48l0cm4cZ5D397A24faObA2N9d8bOgUAb32c28d4LbYeAKCcF9PdRcD1bZ12
 2122241C11171bT1428171S141511371jG2i42tIF51FbeOVg971H271215fXb93E2A42iWVHbM51biO714121F1fH2Gb5c44A
 42vTbWc4bPfE41R1211211A141111614111111312112111111111121124171414111A1H53151HbG2hIb84cSCF2F1F1b1Ae
 UbKTDb84972E6eAbbC5G3D3d8CcH7C41FC4bK8A6b48U22c6jGCE2535379T3B56AA68879e31bJb1AbcMbtqOWelD7g62ge2E
 hzLdi7p2bpUfh7bdleTgO"

/-- A character that quoted text shows without an escape. -/
def isPrintable (c : Char) : Bool :=
  (0x20 ≤ c.toNat && c.toNat ≤ 0x7e) || inRuns printableRuns c

end CodeAtlas.Text
