import CodeAtlas.Text.Numbers

/-! Data of Unicode 14 on how characters of identifiers are written in parts, as numbers. The first
number of an entry is twelve times how many characters are left out after those of the entry before,
and six more if the entry is for several characters in a row, and the length of the entry, or five.
If it is for several, the number of the others comes next; for a length from five on the length comes
next. The numbers of the entry follow, each by how far it is from the one at its place in the entry
before: twice the way up, or one less than twice the way down. -/

namespace CodeAtlas.Text.Normal

/-- The characters that stand for one when every part is written out; of characters in a row each
has the result that follows the one before. -/
def decompositionData : List Nat := numbersIn "
 cePfEdDbvQbDbuXbQcJbqO20220220220A204E4bM24c520220220C28F20220220CEA922520220220220AQCF20220220C28
 DQG120220220220A204E4bM24c520220220C28F20220220CEA922520220220220AQCF20220220C28DE0E2d372bS02bR42b
 S02bRbW2bS02bNc52bS02bR22bS02bRA2bS02bRA2bS02bP02bS0QbPF2bS02bR42bS02bR22bS02bRbU2bS02bRbJ2bS02bNJ
 2bS02bR82bS02bR22bS02bRbS2bS02bPc12bS0QbP22bS02bR22bS02bR42bS02bRbW2bS02bRbTE0bmX2bSbS2bPbkW2bS02b
 Pc22bS0EbPc32bS02bRc42bS02bRbH2bS02bRbh52bS0QbNbgK2bS02bRc42bS02bRbH2bS02bgSbl7QbiHbkS2bS02bR42bS0
 2bRA2bS0QbLJ2bS02bRc42bS02bRbH2bS02bPL2bS02bR22bS02bRc22bS02bRbH2bS02bPbI2bS02bRbH2bS0QbPH2bS02bR2
 2bS02bR42bS02bR82bS02bR22bS02bRbM2bS02bNc32bS02bN02bS02bRC22D2bS02bRC2bS02bRA2bS01DkQbZbs62bS0eEbF
 02bS0gFcPbn5brC30bS03bS002bBcN20bS2bS02bNbR20bS2bS02cHblG2bS02bB02bS02bF02bS02bF02bS03bR7bqW3bS003
 bR053bS003bR0M3bS003bR0N3bS00FcV083bS003bR103bS002fM52bS0QiTG2bS02bJ02bS02bJbK2bS03bR0bqW3bS002s8b
 J2m602beN02c3bmB20bS2bS02bLbjY2bS0QbD12bS03cHKbqQ3bS002fMH2bS02R02bS02k5S2bS02bR42bS02bJ32bS02bR42
 bS02bJ32bS02bR42bS02bF32bS02bR42bS02bL32bS02bR42bS02bL32bS02bR42bS02bVb62bS02bP02bS0QcFbF2bS0c2c59
 2bS02bJbS2bS03b7bPbqW3bS003bR903bS002bR82bS03bR0bqW3bS002b752bS0bpDX1bcC1bc71G1bcU141C1bcZ14n1bb81
 bbX1E1A1be2beJ1fYDb22LbqQpPeDfQm0bqQ1boJ2boSbqQ240240EC0EC02803WEbqQiEbR02O02OD2802402403OEbqQiEN0
 2O02BD2C0280Db91C1b120bqQ20E1bU1BiDB71EDc91bMb1Zc2gCbqO20GE3Db2PEbEb4D2312MCdEL0kEbS0hE5B20GE3Db2b
 YEbEbJD2312MChQcQI220yEf9H2bS0eEc302bS02bR42bS0QbH32bS0Qj242202kT02bS02bP02bS0QbP72bS02bR82bS02bF0
 2bS0QjG02202kF02bS02cB72bS02bR82bS02bR62bS02bJ52bS0QbJ02bS0bv2pObj8bzEkSlM2022bU02bT22bY1ba2bXbS2b
 U02h202gX0xQhQbREb30fEY0hr2bh8bpCcEG0Q60lQbN02202202A02A02202I0280bjQiGh820bEf2c3bH220EQ0bbQhAh4QC
 0lEbV02202A0QU0czQpSpOQ0bB20bEf2c3bH220s2g8iMrQcWbD22021bEbp2h4h2bnQgQh2c2E0202E0b3300haIbq2h4gW22
 021bEbv2i6gEE0A300ho420Wbc2gGeMbqEh4h4nEbVbD20GbhQiEpGd2K0bEA0bEA0bEA0e2bH3d2cQdPE042dMO30TimG22U3
 0TimGcEdNUfQbUd2d2K0bEA0bEA0bEA0e2bH3bk2iAgQct1k6bgyEfoIowYE40E40E40E40b280nEcA0E40Q40220E60ggPou1
 1hE1hBJ141sC77s5DG1zY1zV14714161K71bbI1opO1pr37141bbU7141bbRD8141mC1m71baY71oqK1prF7181prM1opF1bc1
 1prY72nxX71b41bvT1I71671bu21U71AeDgMlDbb91bbH1bbO1tT1u81bbV1bc214187261ov21os31cN1ovC1osJ1cJ117341
 C71K1lX71mC1onY71onT1bdD72bdO1qGvEbx9bsQ2bS02bPbN2bS02bRbK2bS02bRS2bS03bPJbqQ3bS002bPbR2bS02bRbK2b
 S02bRS2bS02bRJ2bS02bRC2bS03bPc9bqO3bS003bR023bS002bRcA2bS02bR62bS03bRHbr03bS002bPbR2bS02bP52bS02bP
 62bS02bRbK2bS02bRbH2bS02bRbQ2bS02bRE2bS02bP42bS03bRc7bqQ3bS002bND2bS02bRbW2bS02bRS2bS02bPR2bS03bR0
 bqW3bS002bRS2bS02bR72bS02bPcF2bS02bRC2bS02bRbK2bS02bPbJ2bS02bRbK2bS02bRS2bS02bR72bS03bPcBbqQ3bS003
 bR0E3bS003bR2F3bS003bR023bS002bP52bS02bRC2bS02bN02bS02bRbK2bS03bR0bqW3bS002bRS2bS02bPcB2bS02bRbK2b
 S03bRbVbr23bS003bRM03bS003bRbA03bS002bPbJ2bS02bRbK2bS02bRS2bS02bR72bS02bPH2bS02bRO2bS02bR52bS03bRc
 BbqQ3bS003bR2E3bS002bP12bS02bRbS2bS02bPbX2bS02bR22bS02bRE2bS02bR12bS02bRbK2bS02bPbJ2bS02bR22bS02bP
 12bS02bP92bS02bRbU2bS02bRS2bS02Z02Oc92642402bBe72b0e2bEcRbK2bS02bRbF2bS03bRDbqQ3bS003bR013bS003bR0
 I3bS003bR0B3bS003bRbU13bS003bRbL13bS003bR013bS003bR0I3bS003bR0B3bS003bRbM63bS002bJ02bS02bRbF2bS02b
 RB2bS03bR1bqQ3bS003bR013bS003bR0I3bS003bR0B3bS003bRbU13bS002bJbF2bS02bRbG2bS02bF02bS02bRbF2bS03bRD
 bqQ3bS003bR013bS003bR0I3bS003bR0B3bS003bRbU13bS003bRF13bS003bR013bS003bR0I3bS003bR0B3bS003bR0bS3bS
 002bFG2bS02bRbF2bS03bRb0bqQ3bS003bR013bS003bR0I3bS003bR0B3bS003bR0bS3bS002bJbH2bS02bRbY2bS02bRbF2b
 S02bRB2bS0c2btSW202301bqO302030123020301dM30202bR1202301bqO302030123020301dM30202c01202301bqO30203
 0123020QbR1202301bqO302030123020QbW1202301bqO302030123020301dM30202bR1202301bqO302030123020301dM30
 202bW1202301bqO302030123020301dM30202bR1202301bqO302030123020301dM30202c41202301bqO302030123020QbR
 1202301bqO302030123020Qc41202301bqO302030123020301dM3020EbR0F00bqOF002F00dM2c01202301bqO3020301230
 20301dM30202bR1202301bqO302030123020301dM30202Gb32022812022412022412022C12022C1202281202RbBb0buI30
 20401dTbuI402004012040200401dM0402003bR163020401dTbuI402004012040200401dM0402003c4163020401dTbuI40
 2004012040200401dM0402003bR163020401dTbuI402004012040200401dM0402003cS163020401dTbuI40200401204020
 0401dM0402003bR163020401dTbuI402004012040200401dM0402002GR203307buI20dU30dRbuIE0dM300buI2bRdB20320
 720220dSDc8b33bqObuI20dU30dRbuIE0dM300buI2bVdN20224120220dSb2bWdH203308bqO3002Q0d830d7buC2bR320320
 7202bEcGA203308bqO300227M20228cK30d7buC2bR320320720227b2bRc8b3buI20dU30dRbuIE0dM300buI2cBdN2022K12
 0220dSbmPbu7eDAfDP181K1I1baQ1bbL7361A716bhPcNbDsIPqH1bP10101bS1kM1mB10161bSDbNb7241410c1GDbv2Dbv1D
 T2Jbr8712DbY71bRDG1bW73cyI1cyTPbvI1P1bR1QbPbvR71bS71AhDbR20e2300e220Q1Q20e2300e24000e22PU1U20e2300
 e21N71H1K1bK20fU300fU20Q1Q20fU300fU4000fU2PU1U20fU300fU1N71H1KbkbD51b3dcDyqMjdDusO716fQtdDbap6E40E
 40E40E40E40E40E40E40E40E40E40Q60E40E40c2E0202E61202E61202E61202E61202hEcX1d2eU02b5Te2bYUE40E40E40E
 40E40E40E40E40E40E40E40Q60E40E40c2E0202E61202E61202E61202E61202hEcX1Qe20220220220b2M02e3cMqJ1riT1j
 G1jB71jG72jD75jM1iB72b31bI79bB7KeW1171e771jY1A141A18141kH1kQ1471kR167141A147441E181K1E1A71j672iJ71
 cI1871I161K16oueDhhP14cs1dlg6br1dnlJ161Mb1lU1cIlcPdmsG1cfS1doiN1dok6d1doi9juqPcxiU1ukV1vuK1bcJ1qk5
 1rvX1dd21bpkU101bmlP1bexK1bgzF1cbE1etG1leU1ezK1drO1v21rO1edY1vc91bs21cb81bqY1iyU1hfE1erA1bpgT1csE1
 mx21dwU1kzG1ncI1bjlN1keM1lz81bz21vd11qzQ1dlA1wpT1eo21dlY1db81qi41bjsF1bf61qE1juK1di61dyY1cqU1ezG1d
 hM1eS1edQ1fbQ1ciA1bk61umB1nI1cgQ1djM1iiM1ghA1ktL1bbiL1djE1qbK1cgK1hsN1dn41ky01fp61bhzH1byC1hmQ1cbQ
 1r61hsW1oO1neG1bkxL1zaA1znX1V1wbC1bzO1dk61kdC1fzT1wgP1dyE1sb41bhg91hmK1chA1kqQ1bb61suH1usW1woF1isC
 1jqF1qvA1ea71myK1wqD1cnI1qtQ1hgW1dmQ1qxZ1trG1tfZ1ffN1rlQ1rcP1jsQ1veL1bmU1fC1ml41le41daO1epA1dvE1bi
 jV1sI1cvU1czU1dtE1fpE1faG1ppI1cpE1chE1d21bprP1laU1coQ1tqU1batV1bs81g81bl01ftU1beK1bu81cwQ1ch81bjA1
 ibA1fpB1gdE1bsU1bjr91hS1bdW1piU1nd01bb41ya11qO1by41emM1jbK1euX1ua11ekY1cs41zY1bhW1ksK1k61gd61jK1jv
 01cpO1eK1lK1bnrT1xbA1ndO1ctC1bdlP1kb11bh41gbK1eI1fd01ckQ1egW1clC1ibG1ghK1igA1bfeX1babO1bla11llW1gO
 1cxG1tA1cz61sO1brO1co21oyC1bmuX1jeA1bcpO1bmlT1hbW1jf61seW1bab91yI1dt21ggO1tdQ1blk91bb01eoK1fhO1rI1
 t81ciA1dxE1baG1fgE1fcS1b01ewU1cuC1bkzX1paU1ooH1qgE1bnK1jn81jcY1dd41bgG1becN1dk81la21dx51eQ1uK1fjN1
 beL1oqE1bhdR1bcs41bauN1cT1gxI1chE1ofY1sfT1jqA1dn71weE1duL1hr61gzF1xjJ1hl11cm0Pbl0DhsKPlgR1sfK1bzK1
 biS1bW1E1cC1qhI1oo71bqMDdm2DcrOPcwO1kYb1ej01Q1cG1cmO1haJ1df61bmw91rE1fO1v41bI1g21bgO1fU1fG1ba81fS1
 cb41K1ch01lS1c41fK1bvU1i61jQ1bbS1csC1j21oO1bgO1kI1bbY1cl21jM1M111G1C1E71cO1jY1dM1rQ1bfC1b61d41qY1i
 61bb41hS101baK1cp61hG1u61d41wS1cY1bm41h81dqU1pS1dC1ben71kdxU1jlnFPbckR1byM1e91bb31z61dA1s61cU1blI1
 dZ1dS1e21bj41eY1i21W1p01l01ca41E1i01dS1qM1gK1dV1hG1cJ1i41dO1w81eW1d01oG1pW1j2181dA1cgU1dM1vQ1wS1V1
 eU1o01sO1dkI1czF1gS1gU1s61iA1cY1mK141jI1Y1bE1eS1J1w01baY1p21kE1mG1iI1sC1l21buY1iQ1byC1zC1dU1W1qI1d
 61cH1d0151X1e81eI1v81bf41rG1qE1mA1cf81fQ1gE1hE1c01O1cO1boE1cmK1iguS1B1giI1kpv31clQ1bU1ldyO1ftQ1spQ
 1kciF1e6mQdjbJfO20620630BfU30062QS200e2ct6ct820X20C2KM2JHbQfMdYEbE61V1Z71672G1Q14E1ddU20230BddU300
 22bD9202208220220220220220220E40220220220220E40E40220E40220E402202202202202b5527C2K02I02b3bM1iY101
 K10101016101010141010101B1010101A1010101B1010101cE101010141010101bV101010111010101610107101210101C
 10111014101B101W101D101bC1010101C10101018101010131010101I7101210102bGdm02001b3101010151010101b4102
 0dm0200l1c11010101bG101110141021dnS18101B1018101E1010101hH1032dm0djI3000300jO3000300hT3000300h2300
 03001300030043000300G30003000300hH300030001h81010103h7dm0djS3002300bC300830022bVc720220220bA208202
 24bN20220220bA20820222bN20bE20820222bL20bC22bD20bE22bD20220bC2AbD20220220bA24bB20bC22bD20220220bA2
 2bB20bC22022bD20bE22bD20bE2EbD20220220bA20820222bL20bC20820222bX20A20220220b820220820222bN20220220
 bA20820222bN20220220bA20820222bN20220220bA20820222bN20bE20820226bN20220220bA2082022bFc42202bC0c32b
 Jdk23002300b23002300630022bVbX20220b220220620224bD20220b220220620222bD20220b22022062022b8120222120
 222bX20bM20220820222920820222bX20bO22b320220b220220620226c422dH20220b220220620230KdjS30023002300bA
 30042bVc720220220bA20424bH20220220bA20422322bB20bC22bD20bE22bD20bE2AbD20220220bA24bB20220bA22bD202
 20220bA22bB22bC22bD20bE22bD20bE2EbD20220220bA22bB20bC22bD20220220b820222bD20220220bA20422bH2022022
 0bA22bD20220220bA20422bH20bE20cE26dR20220220bA20430Qdl630042bVT2042432042232042G32042232042U520222
 02402042832043JEdlU302030202HD2022412022212022D12022212022D12022112022412022E120222120223bN2022022
 0bA20b321024022022bC2022412022212022D12022212022D12022112022412022E120222120223bN20220220bA20b3210
 24022023920220220bA21422026327bD20220222320220226bA2202XC200g36bPdl6302bD3000300bE302030bAbD300230
 0234013000320bM30013CbBbL3012300bK30bEbJ30003001300bE300034bBbB300030bCbC31bB03000301A30bEbJ300030
 0bA300034bB83027300032bAbB3000300bC300A34bD930bE0300030083207300A30013Eb97300032bAbB300bC34bB0300A
 3001301bL3000304bE300030bAbB300032bB1300bE300A301bL300bC304bD300bER03b934bE3300bE31bB0300830173000
 300830bE23001380730003bVb9A343030013042300130bA23001340230bB130bC03Eb903412310034003S1030bE03CbB03
 01030bE03900350038bB037bCbL34bBbC3LbCA3K0036bDbL314bM313931bE032bD0340bB3bF2bM32103bC0037bE03bDbB0
 3bIbC93JbD037bE033b9A3b230nFXbChK3Q004bH0hVdlA401bJb74bOb7bM34VbANb847XU14GY464UXB33b1YAt1deZ10i10
 1010l2dfMdlIbQ06E02E02E02E021bP2CdlY2002022002bU02002bT22002bY12002002001bX71012107107121210710121
 071012107101210710121071071271271271212107101210710121071012107101210710121071012107101210101E1010
 7101210710121071012107101210710121071012107107127121210103BdjIdlY30003002300030023000200200gJ9diFc
 JPYbDbOJP4dPbaoQ1eH141414141d814141bZ1d61eZ14141471416141414141414141414141614147541G1616167461C14
 7541E1871eZ1rc171fB1jG1jB71jG72jD75jM1iB72b31bI79bBb75eWV5CV5CV2Czc71ia51bb71y61dVDeG1doi61doi1117
 1eB1oxA1ox51C1e61dT13131dA1uN1uQ1cX1bM71c41dF1kas81gojN1dmiF1kas61kaqD1kaqG1kbmZ71v81bcP1bcY1karO7
 1karH161c8131doi21dohZ1bP1wy2DwxN71b01H72lZ1kbc41b4bdd2eiz5fteSE40eQK0brEhSg2220gxQbdMbdQ20bEes2uK
 tQ20JE0QdfQo6nG220llEbxKbxUxpaJPfxrR7PbS7PbR76bSJHG7Pc77PbS1bRJ14P8V16V38J7A73SDAJ64JAG7PcL7PbS71b
 RJ36V7CJ6IJPS71bRJ36J4ADCb768JPS7PbR7PbS7PbR7PbS7PbR7PbS7PbR7PbS7PbR7PbS7PbR7PbS1lK1oKVGt81E76MJOS
 D816141O19117GcL1E76MJOSD816141O19117GcL1E76MJOSD816141O19117GcL1E76MJOSD816141O19117GcL1E76MJOSD8
 16141O191171bKV9ca7790790790790cufJ1dgU1A16DbE1b7191K1b273D1V1C1G1N1Q1X1671J18141C14141cW1e81bD1cR
 DdX18DbIPbFDbM73D1V1C1G1N1QDR71J18DGD8c1RbD2DbMDBD41b11CD71QDRPBDGD8Dh4De5DdX18DbIPbF1K1b21DJ141Z1
 C1G1N1QDR71J18DG14141cWDcUJ1gR1A1671bC1b5191K1b2J2B1X1C1G1N1Q1X1671J18141C1414bPZ1816DbE1b7191K1b2
 J2B1X1C1G1N1Q1X1671J18141C1414briV9dhVbfve1bqs2191I1jdwY1jdgZ1eC1Q1dY1gO1bQ1eC1bB1pkX1jus01jfa11E1
 W1b21jehU1juaL1prW1c41jej81jeiN1Q1boF1boW1I1mdeC1mdaR1S1pyF1qbK1M1cG1A1qbV1qgC141bI1b871M1b01cS1G1
 I1bE1K1410101jfyY1iqdB1prF1b61jgkW1jgk71C1b61iG1fN1W1bS1d81eO1bG1dQ1W1bU101b61b01G1U1sW1p31p61kZ1b
 Y1ckX1du61pZ1c41bE1h71jA111gU1jizS1jivV1A1U1b41G1dK1jjoS1dO1jjkR1cM1O1eD1hW1tkF1S1tsO1d0101jkgS1jj
 zD1b61U1O1jkpE1jkoP1E1buY1btD1uaX1ueE1S1eK1cT1jluM1jlkH1jlkM1jli7151Y71fM1uq31urO1cE1b61cG1uuT1kho
 I1khn11uxC16161b41mfs01mfp31jnjA101iufB1tbX101uzH1kqtM1zuC1kvkV1I1vbZ1veM1cU1K1bW1hK1vmL1bN1vpC1jo
 mG1jojL1h61814131cK1b41c01R1M1cM1b4181bG1M1dO1eO1bY1gW1jphK1jpiL1dL1g01bI1fE1jpm21jpiL1f51bJ1wrX1x
 cM1b61bQ1c31wzX1xlY1bM1jqwK1jqpX1pE1jP1xq71xu81xv51bZ1mkK161lsM1fJ1ogQ1bhh31th8181C1dE1L1jrwG1kpyR
 1ylM1gH1lE1cU1jroW1jroD1g51nM1ywL1yz61fE1dY1kK1jrpY1jrn31zp11zsY1jslW1jsj11zsR1zuG1cI71bI1jteE1qdN
 1qjQ1jtc71jub81jtuX1S1fN1jQ1c81d61cZ1c81U1Q1jtpE1jttV1nY1dI1bay51bbdC171jtvO1juh31uQ1jtu81cO1jtrZ1
 gE1bH151bbqH1bbt41cU1B1d01ingG1imxZ1jul01jug51juyE1juqL1Q1bI1jvw01jvtB1b61jwiW1mE1jwiJ1Y1bcxX1bczE
 1bcyP101bdhQ1b61b61b41dU1bdjH1bdoI1jxrO1jxq71jxvC1jxsJ1jafQ1izwT1jzb61bA1hS1lczB1O1beb41jzhA111c61
 bG71jziH121cE1bed51begS1beg11eG1letI1kah11dG1dK1bep51lfs61kavB1kbbS1cE1kbaZ1f41bfaV1bffM1K1A1kccY1
 qM101kckP1bfdJ1licQ1kcn5161bfnN1limI1kck31bfvN1bfwW191bM1kdyK1kdt11bfyB1bgdW1dA1dQ1bgi11lla01bQ1lk
 zN1llhS1kekL1keq81keoP1fM1M1kffE1e21kfeD1kflS1kfkV1jdxQ1klbN1bhhM1eI1bhj31bhmE1vc11lbdW1S1bcnF1I1j
 deT161hlG1bpdH1bhzW1B1b01bafF1bagK141K1cA1khd81khd91d41dW1e41hN1iK1cC1g81oF1gM141W1khdG1r61iB1lptV
 1bix0141bY1kkpS1kklF1khxS1lqyD181lrfK1q21lrv11bjmY1O1M141dK1bT1hG1cF1iE1eH1dQ1bI1bjy51bkd81bS1bkd3
 1bkiE161kkg01kjzJ1E1bkm11bknM1buc51mfg61k81lvu71I1blcY1eA1iQ1lA1klmU1kli11b81f01f41kmgO1cneT1hyx51
 T1cW1hzh81hyuJ1fK1koy41bI1kog91f61bS1kor61koqL1pU71iU1f11v61bK1kpqI1kovP1bpoB1bpqS1kpoG1mfaP1bqb61
 bffL1bfkY1kqwC1lU1mhh31G1bqj01krz81mieV1mimO1kseL101bO1kssY1ksiN1bqmT1bqqS1h01bI1dC1bqtZ1mlmS1kudF
 1qS1kI1brwD1bQ1bsaK1kvy61mny31mob61oQ1hA1kweB1bsnL1bsr21A1E1K1E1c21kxu2"

/-- The class that orders a character among marks on the same base; characters in a row have the
same. -/
def classData : List Nat := numbersIn "
 jw7KmS1473N1O1V74871Z73b071Z7Ab074m573m677K1K1J72J72K71JJ2K73J1K1471N1K1671211712117C5dnV40dkDJ73K
 1J72K1F1375K75J71K1J71K1F1C141m71212121212121212712121212D2D212DlE1JDl7y77lS1l31212q19121212121212
 1271kW71J74K1J71K1JfDk9bhV6kUV301J1KV10DJ71K1JlPk7k1kS1J71K1J71K72J1K71J1K1J72K1J1K1J1K1J1K1J71Kcb
 J601J1Kd1Ji73KJ80J20J40oJ2Ju1K72J73Ko74074J7DKDJ71K1J71K1J72K72J1kP121272l61J71K71J74Ku1mDfD4b1mA1
 J71KbiDmDfD4q1mAuDmDfD4bkP3fD4bkP3fD4bqD0bkP3fD4cDe61EbhPeNfD4bkJ10fD0bpD0bkJ1f81f7eJ3fGbk71M1g1eJ
 3gAzJ1fGj10D0D7sDeT12D4bV33P0J1fK1m9J1mAuPJblDlTJ14bbDlQjfV2Kme71m9k10caD0dDmAcpP3bvPB1G1Jcv1K1JxP
 lPgV7mAPJq74K75J71K1JJ1071K71J74K1J73KbhPmDf14mPmA1J76Ks71m9tD3dV14wD3byV2mEDmP74m671K73J1KJ6mPbDm
 6c1Kb710co7101J76K1J71K181b31C1Z7b0bK147171F131O161P1K1Jjg71K71mP73mQ72mP71mQbD0b71mP1mQ1J1K71mP73
 m61KbnjJ20bv1m9bg7VmAhcPN1K181J714bj71lZowsPmCbJ90kV10baV10do1m9mD0byD0j7HmAt72JmDlPbfP3e14dbPmAJ1
 01JV1KbV10D0rDm9de10jzxDYjwJ6lC76J71KmmDJcxD0bxV4KvoPJDKnD01mP1m6bDlPcd1mA1Jhj73Kez710bz71J72K1J1K
 73JqDK1J1K1Jcm1lPnP0eP0t1013x72mEq71m9uP3zD4d13bjD413chD014baV13fD4i76mAb740cqDm9b13hPmEbh1m913dfP
 413bq14bnD013bmD4dlP013di714bD3ca14bbP0g10bb10fkD0di13J14bb10jtw74FtV6mQpn71mFjrqP9cqeV1lY72lXb1mI
 74JcV78V4K71Jk73KbxJ20btbV60JG0V60J10J40dj760ev10uJ30thJ6JbkJ5K1mD"

/-- The characters that can follow one, each before the character that stands for both. -/
def compositionData : List Nat := numbersIn "
 u2btSsvO20R20UTWd3sl1bqQkQbqSkSbqUkUbqWo8br0oCbr2beKbr4kWbr6qtObr8kYbrCzMbrIbcGbrMbcKbsMqtKbsQqkOb
 sWoG56Eqa4bWqa6cMqa85ABpw7bTpw7cBpw7brCoWbsUl25CCpwOKCbKpwKbIpwOCqaMbtEqlG5YDqa3LdTbTqa3bZjKc9pwFc
 Dpw3br2pGbr4lAbr6qv0brCpObrIbcObrMbcSbsMquWbsUbeObsWpKbt6qm0btCqm42Eqb85EBpkJbqSpSbqWqmGbr0pWbr2q0
 brCbb0bsUq45E2lJApwS8CCo8bKpwObIplWEpwW5U3eVBqb5BqbBHnNbPpw3bTpw7c5pw3br4lIbr6qvSbrCzQbrIbcWbrMbd0
 bsMqvWbsWqSbtCqn424fS5A1pw8brCbb4bsMqnGbsUr8btEqnK5C0pvX0jH080A7GbtEqnW560pwQ9pwM0O5I1pm3Bpw9bRqcP
 br2qoGbrCs6bsMqoKbsUs2bt6qoSbtEqoO5W0qB0g7167qcLFAbLpvZbRmYc1qcVc7hGbrAsObrCzUbrIbd4brMbd8bs6x4bsM
 qw0bsWbb842qdOCqdQHG0pwF04brCt4brIbdCbrMbdGbsMqpObsUt0btEqpW5E0C9pw79pwW5jRb0pmO6plV0G5ECpxCKGbKOb
 GkC8pwFEpn4KpxC5b2DqeHLhNbTqeHbXjVbXGc5pwNc9qeJbr6qxGbr8uCbrAuGbrCzYbrIbdKbrMbdObs6xYbsMqxCbsOqr0b
 sWuKbt6qr8btCqr446qfIbWqfK5C58bV8bqSuObr2qs4br4qs0bsMqs84EKEK5IDfSDqg5bqSuSbqUqyGbqWbf8br2qsKbr4uW
 br6qyCbsMqy85C2qd52qgEAAIqd9bQpnKcCCc5W1iH1qg59iHHiJbPqeHcDqeHbr2beMbr4mObr6qtQbr8mQbrCzObrIbcIbrM
 bcMbsMqtMbsQqkQbsWoI56EpyEbWpyGcMpyI5ABpw7bTpw7cBpw7brCoYbsUmU5CCpwOKCbKpwKbIpwOCpyWbtEqlI5YDpyDLc
 3bTpyDbZjKc9pwFcDpw3br2pIbr4n2br6qv2brCpQbrIbcQbrMbcUbsMquYbsUbeQbsWpMbt6qm2btCqm62EpzI5EBpkJbqSpU
 bqWqmIbr0pYbr2q2brCbb2bsUq65G2lJApwS8CCo8bKpwObIplWEpwWbtEqt05S3d5BpzFBpzLHnNbPpw3bTpw7c3pzRc7cUbr
 CzSbrIbcYbrMbd2bsMqvYbsWqUbtCqn644e2MoE5A1pw80DbsMqnIbsUrAbtEqnM5C0pvX0jH080A7GbtEqnY560pwQ9pwM0O5
 I1pm3Bpw9bRqaZbr2qoIbrCs8bsMqoMbsUs4bt6qoUbtEqoQ5W0oL0eH167qaVFAbLpvZbRmYc1qb5c7hGbrAsQbrCzWbrIbd6
 brMbdAbs6x6bsMqw2bsWbbA42qbYCqc0HG0pwF04brCt6brIbdEbrMbdIbsMqpQbsUt2btEqpY5E0C9pw79pwW5jRb0pmO6plV
 0G5GCpxCCpzOApw7bApx46pm72k3CpxGbtEqqU5b2DqcRDqf5JfVbRpwNbVjRbTKc1qcXc7gObr8uEbrAuIbrCba0brIbdMbrM
 bdQbs6y0bsMqxEbsOqr2bsWuMbt6qrAbtCqr646qdSbWqdU5E58bV8bqSuQbr2qs6br4qs2br8qt4bsMqsA4EKEK5KDfSDqeFb
 qSuUbqUqyIbqWbfAbr2qsMbr4o6br6qyEbr8qt6bsMqyA5C2qd52qeOAAIqd9bQpnKcCCxT81pyW1b27pz05pySE8ptB25bK40
 4bqWbaS20piWT81k8bqQqv8bqUqvKbr6qvGbE2i3bH81j4bqQqw8bqUqwKbr6qwG562hF6prBAhJ26pk3E5cFb581bXbqQba6b
 qWba2brCbaAbT80ptK0ptO1pu45ptSE8ptB25bK404bqWbaU20piWT81k8bqQqvAbqUqvMbr6qvIbE2i3bH81j4bqQqwAbqUqw
 Mbr6qwI562hF6prBAhJ26pk3E5cFb581bXbqQba8bqWba4brCbaCbT80pu00pu41puK5pu85802020202eS0iP0iH40202sS0d
 A0dA40202e2Eb2202bE02202c2BY2022E2202gE1bSkTADdMbqQqwSbqUqx4br6qx0bsMqx85A0202020202eHA0Q0Q0Q0Q0Q5
 A0202020202c2Opw9qQF3202tE0P20224plI202bE3ph5202bgQGdNdgTENqhQbqQby4bqWrj6br0rj4brQqzCbrSqzEbuIrjC
 b580S04UiXSiTHA04020W0WbuIrk8HE0W02TjURjQdDpk3brQrc0brSrc2bT80bO04Ui1ShXEb4Nb5Cb33bqQbyKbqWrlUbr0r
 lSbr4ca6brSrdUb5A0W02Uh5Sh1dEpmQQdUdVE0WTGdTeNbqQca8bqWriQbr0riObrQqyWbrSqyYbuCrj0buIriUb580402UiX
 SiTHC04020W0WbuCrjWbuIrjQHG0402TjURjQd7phZcRi5brSrbMbuCrkSbT8040bMUi1ShXGb2g0b2pjMb5Gb1fVb1pjJbqWr
 lEbr0rlCbr4cbYbrQrdCbrSrdEbuCrlOb5C0402Uh5Sh1d8pkMcSj2560eS0dFcMgM560W0bS0WQdUb0b4dRpk1br4ccGr2EcW
 d43l6br4cqKQ9lDH615br0cqSbr4ceY4CkQ4C24bM58FlLbqWcrGbr0cgAbr4crKE21b2Em4bH87Gbr0cfObr4cs8brAcsCb28
 Cb208E0NS3bHbr4cqMQ9gZH615br0cqUbr4cjE4CgC4C24bM58Fh7bqWcrIbr0ci2br4crME21b2EhQbH87Gbr0ck4br4csAbr
 AcsEb28Cb208E0NcQ0iBjQEbQ202bgQDfI202eQ0U202ebT6buUrAdm0djAdm2djEkQ24E04bnE0iOfE0YQ0b1hq2bpCbiAcE0
 GQ06bx4h8iEfjYfjCexT6vCvCvAv4gfAgeOyQiIe2r4bDd0gmEglS202bq2iGgYbo2h2gOc56b1KhaIgzQhaKgzSb2b22bp4fU
 h2hhQhh4202bwH6hShYhoEhp4hpAhp8Q06hmQbi0bgIbjrQgaUfyOE04E04E04E04b208nE0cAE04E06202Q04jrQng1bq2202
 lE0bY202c26M202u49dQbr0quS40202hE0bE202g20Y202qT83cAbqQqz4buCqz8buIrg058020202022dUh22022022022022
 0258dTgXbqQqzKbuCqzObuIrgG58020202022dUh22022022022022024dTgXbqQra040202c40E0E40202c580E0EbuCrb0bu
 IrgW58020202022dUg620220220220220258dTg1bqQrbCbuCrbGbuIrhC58020202022dUg620220220220220256dTg1bqQr
 bSbuCrbW56020202c560E0E0E56020202c40E0E40202c40E0E40202c560E0EbuCrdO56020202cH60G0G0Gc580E0E0EbuIr
 hS58020202022dUdI20220220220220258dTdDbqQreWbuCrf0buIri858020202022dUdI202202202202202206b20WcE0cO
 t20d9f20WpQ0cOcbnQyuOjcAbE0dZE04E04E04E04E04E04E04E04E04E04E04Q06E04E04c40Ebap8bamYS0606S0606S0606
 S0606l20bWcQ0eSbE0dZE04E04E04E04E04E04E04E04E04E04E04Q06E04E04c40Ebap8basAS0606S0606S0606S0606gE0b
 I202202202dE08bcfx2espMesi8E04d20UbuEg2hA202gvGbdQbe0fupYfupCet56uKuItQuEfvjUfvjWdgQo6o4202ll2bxUb
 xM"

end CodeAtlas.Text.Normal
