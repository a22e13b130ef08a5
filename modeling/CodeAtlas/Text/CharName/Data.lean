/-! Names of characters (Unicode 14), written in short. A sign of `openers` and the one after it
stand together for an abbreviation, all other signs for themselves; blanks and line ends mean
nothing. Written out, entries end in a bar and stand in the order of their characters; one that does
not follow the character before it starts with its number in hexadecimal and a colon. An entry gives
the number of words that its name has in common with the start of the one before, the words that
come next, divided by low lines, and after a semicolon the number of words that it has in common
with the end of the one before. A plus stands for the name before with its last sign counted up. -/

namespace CodeAtlas.Text.CharName

/-- Signs that abbreviations begin with. -/
def openers : String := "abcdefghijklmnopqrstuvwxyz!#$%&()*,./<=>?@[]^~'`"

/-- All signs, in the order in which abbreviations count them. -/
def signs : String := openers ++ "ABCDEFGHIJKLMNOPQRSTUVWXYZ0123456789-_:|;+"

/-- Pairs of signs or earlier abbreviations that the abbreviations stand for, in order. -/
def pairData : String := "
 -1-2-B-C-S00030409101112171823344E:0:1:2:3;1;2;3;4;5;6;7A-ABACADAFAKALAMANAPARASATAUAVAYA_BABEBOBUC
 CCHCKDADDDEDIDJDOD_EDEEEIELEMENEPERETEUEXE_FEFFFIFOGAGEGHGIGOGUHAHEHIHOHVHYIAICIDIFIGILINIOIRISITIZ
 I_JEJIJOKAKEKHKIKLKNKOKULALELILLLOLULYL_M-M0M1MAMEMGMIMOMUNANENGNNNONYO-OBOFOGOKOLOMONOPOROXO_PAPEP
 HPIPLPOQURARERIRORRRURYS-SASCSESHSISPSSSTSUSYS_T-TATETHTITOTRTTTUTWTYT_UBUCUDUKULUMUNUPURUSUTVAVEVI
 VOVYWAWEWNWOYAYCYEYMYOYRYSYUY_ZAZEZHZZZ__B_C_F_G_K_M_N_O_P_S_T|+|0|1|2|3|4|5|6|7|8|9|A|D|F-af-aj-b0
 af1af20ag0ahaf5af6af7af80aj0ak0am0anag0ag1ag2ag30apag7ag80ar0as0at0au1aoal41ap1ar1at2ap2at2cE2cF2cG
 3at3cG6ar6as7as7au8ar8as8at9auarSAatAa`AaDAaPAbdAbfAbvAbwAbxAbyAb$Ab*Ab<Ab=a/Ca/DAb?a/Ta/_AbNa<PAbP
 a=Ca=Da=GAbRa=Ka=MAbVAb0Ab4Ab5Ab7Ab-Ab_AcdAcrAcCAcDAcEAcFAcGAcHBauBa(Ba/Ba=Ba?BaMBaOBaSBa;BbdBbhBbw
 BbBa`Oa`WBbGBbQBbRBbSBciBcmBcEBcFBcGCasCa*Ca,Ca/Ca<Ca=aBECaCCaLCa7Ca8Ca9Ca-aCUCbCCbDCbQCbVCclCcmCcn
 DarDasaEADa(aEGDa,Da.Da/Da<Da^DaEaGCDaODaSaGVDa|DbbaHMDbgaJTDbHDcfDckDcsDcCDcEDcFEasEatEa=EaCEaKEaO
 EaQEbcEbvEbwaPPaQCaQDEb?aQIaQTaQ_Eb^EbOEbPEbQaSNaS_Eb0Eb1Eb4Eb7Eb9EcdaUAEciEcjaUXaVCaVTEc!Ec.EcCEcD
 EcEEcFEcGEcHFarFasFatFa&aXCaXHFaPFbaFbdFbfFbvFbwFbzFbDa0OFbFFbSFb_FcEFcFGa.Ga/Ga=Ga?GaWGa1Ga6Ga7Ga8
 GbfGbvGbzGbBGbPGbSGcgGckGcCGcEGcFa7HHa,Ha.Ha/Ha=a8HHaOHaSHbhHbjHbBHbFa-UHbHHckHcmHcDHcEHcFHcGIa,Ia/
 a;_IaGIaUba_bbGIa3Ia4bcDIb)Ib.bdDIb>Ib?bd_bfCIbZIb0Ib1Ib4Ib7Ib9Ib_Ib:IccIcdIcjIcyIcDIcEIcFIcGJa<Ja^
 JcGKa)bnIKa*Ka/Ka<Ka=Ka>Ka^KaUboYKa7KbgKbjKbCKcmKcCKcEKcFLa%La&La*La.La/La<La>La?La]LaLbwFLaWLa;La+
 bxMLbdbxPLbhLbvLb`LbDLbEbzSbzWbzZLcjLcnLc)LcCLcELcFLcGMa&Ma*Ma,Ma/Ma<Ma=Ma?Ma^Ma~MaLMaMMaOMaPMaQMaS
 b,BMa;Ma+b.KMbcMbdMbgMbhMbDb/Ub<OMcmMc&McEMcFMcGb=Ab=GNa.Na>Na^NaSb>WNa1Na2b?Gb?KNbdNbFb[Tb[WNbHNce
 NchNckb]INcENcFOaCb'Tb'_ObvbBDOb*Ob>Ob?bDIbDTbD_ObPbFDbFGbFNbF_Ob7Ob_OcdOckOcoOcCOcDOcEOcFOcGPa(Pa,
 Pa/Pa<Pa=PaLPaQPaSPa7Pa8Pa9bLEPbdPbfPbvPbwPbxPb!bNDPbAPbDbNSPbQPbRPbSPb1Pb|PcEPcFQa)QbEbOEbOOQcEQcF
 Ra&Ra(bPGRa,Ra.Ra/Ra]bQAbQCRaLRaMbQGbQHRaQbQSRa-Ra;RbdbRPRbgRbhRbCRbDRbEbSWRbPRbSRcjRclRcERcFRcGSa(
 Sa,Sa/SaSSaTSaWSa7Sa8Sa9Sa-b0Ub0_Sbbb1MSbdSbeb1XSbASbDSbWSbXSbZSb1Sb7Sb9Sb:Sb|ScdSceSc`ScCScDScEScF
 ScGb9Gb9HTa*Ta.Ta/Ta<Ta=Ta[b9WTa^TaLb-HTaQTaSTaVTaWTa7Ta8Ta9Ta-b__Ta;Tbcb:PTbfTbjTb^TbDTbETbFTbHTbP
 TbQTbRTbSTbXTb-TcjTcmTcxTc)TcCTcDTcETcFTcGUaCUaDUaEUaKUa3UbycjBcjPckCckDUb?ckIcl_UbQUbZUb0Ub7Ub-Ucd
 UcDUcEUcFUcGUcHVa,Va=Va>VaLVaOVaQVaSVaTVaWVa|VbgcsDVbBVcEVcFWa[cuWWa]WaLWaOWa+WbdWbFWcEWcFXcCXcEYa/
 Ya^c!HYaSYb^c$DYbNYbRYb:c(-YcnYcCYcEYcFYcGYcHZa<Za]ZaQZaSZa7Za8Za9ZbbZcE_a~_aAc>A_aZ_a7c[P_bw_b)c]B
 _b/_b<_b>_b?c^U_bF_bL_bS_bX_bZc`O_b4_b5_b9_b-_b|_ca_cucCBcCCcCDcCFcCGcCNcCPcCRcCScCW|aj|akcD6cD9cDB
 cDCcDDcDEcDFcDGcDHcDKcDMcDNcDPcDScEAcEBcECcEDcEEcEFcEGcEHcEIcEJcEKcEMcENcEOcEPcERcEScETcEUcEVcEWcEZ
 cFAcFBcFCcFDcFFcFHcFJcFKcFMcFNcFPcFScFTcFVcFWcFXcFYcFZcGAcGBcGCcGD|aqcGGcGKcGNcGOcGScGTcGUcGZcHScM8
 |a%cOB|aX|aYaacB-dh-j<0c_0dcc_C1dec+5da52kS6c_8c_avcCavcDavcEavcFavcGavcHavcIavcJavcKavcLawcCawcD;
 dg;dh;diawcHawcIawcJaxcCaxcDaxcEaxcF;dkaycCaycDaycEaycFaycGazcCazcDazcEazcFa!cCa!cEa#cCAc_AdLAe]Ae_
 Af(Af;Af+Ag&Ag)d$_Ag?d%Ed%_a,b/AgDAgEAgFa,cHAg8Ag9d.Ad._a/bWd<Ia/cna/cDAhpAhqa/cGAhWa<cGAh3d@EAh+a=
 bRa=b1dA_a=cCAirAisAita?aCAiWAi-a?b9AjgAjiAjjAj(Aj)Aj1AkCAkEAkFAkGAkHAkIAkKAkLAkOAkPAkQAkSAkTAkVAkW
 AkXAkYAkZAk5Ak6Ak9Ak-AlaAlhBc_BdwBd%dSBa~bXBdLBdMdVLBeYBf;Bhva`b+aAbDBj(CdMCeMCe8Cf[eiNaCbRaCbSek_
 aCcuaCcCCfKCf0CgtCg^Ci-eqRDc_e!-DdBaEb1DdLDdMDdNaFbwaGbYDe_DfHe*GaHaYaHaZe,AaHbMDf2aHcrDf;aIaSaJbyD
 h.aJceaJcwDh@Dj(Ec_EdCeBBEe]Ee-Ee_EfIEfREf+eGCaQb1eMAeMIeM_aQcqaQcCEhpEhqaQcGEh?EhWePIaSbaaScCaScDE
 irEisEizEiCEjgEjiEjje0EaUbSaUb;Ej(Ej?EjNEkyEkDEkEEkFEkHEkIEkLEkMEkOEkQEkSEkTEkXEkZEk2Ek5Ek7Ek-Fc_fb
 EFdGFdMaXaLFe;aZaLaZbxfhEFf2Ff4aZcqfiGFg%fjXfmTfnKfnMa0cmFija1c,GdLGdMGe8Ge-GfZGf2Gf;Gh?Gh8Gh_Gh;a6
 bPGj(Hdzf>FHd.Hd/Hd]HdLHdMHdNHdOa7cIa8a(He`a8a[HeCHe-He_HfOHfRHfYf'THf;Hf+HgJa-bAHh(fBTHh?Hh@HjuHj(
 Hj)a:bKId=IdMId+a;aWfNNfOCfONIe-Ie_bacdIf;If+Igabca=Ig?Ig8Ig9fWEfX_fY_bdbhbdb-IhpIhqbdcGbeb9beb:IhW
 bfa1bfa3bgb)bgbNf6LIiUIjiIjNbibtIkOIkSIk5Ik6JdMbkaPJe_bla_bmbdgkKbnb|bnctKdLKdMKf=KfHKfIKfYKf;brc(K
 h?Kj(Ldwbva1gy-gzALd^LdBLdLLdMLdNbwaRg)TLe8Le-Le_g,Kg,ULfRLfXLfYbxbDbxbOg>TLf;Lf+byaSLg~LgDbzaDLhy
 bzbEbzcgg~_Lh?Lh@Lj(b)a7b)bjMd%Md=Md'MdBMdLMdMMdNgQMb*a1MeLMeMMe-MfOMf;g3Ob/bDMh*b/cqMh?Mj!b<b1Mj(
 b=cyNdLNdMNdNb>b3b?b_NfXb[bDhiENh.Nh@Ni2Njrb]a.OdLOe-Oe_b'cChv_Og[OgJOgWhx-hx_bDcCbDcDOhpOhqbDcGOh?
 Oh@OhBOhWOh3h&IOifbFbpOirOjiOjjOj#h<HOj%Oj.Oj@OjKbGa|OjNOkEOkFOkJOkLOkOOkSOkTOkXOk6h@ObIcwPdLPdMPdN
 bJa&bJa*PeJhCSPe_PfHPfYhIAPf;PgaPgxPgAbNbdhQTbNctPh?Ph8PicPjtPj(PkJPkOQdLbOa(bOa=h0SbObcQk7h4HRdwbP
 bcRdybPbgbPbKbPb:RdLRdMRdNh:TReBbQb*bQbJReUReWRe-Re_RfRRfYifKRf2Rf+bSbybSbAbSb3bSb9Rh?RisRitRiHRj(R
 j)SdLSdMSeDbZb*Se8Se-Se_i!Di$Ni$PSfBSfHSfNi)Ni.Ni/_b2a&SiNSiUSi:Si|Si+b4bUb5bPSkzSk)Tdwb9bcTdyb9bj
 iJ4Td/TdKTdLTdMTdNTdOTehTeBTeDTeGiU-Te8Tf@Tf~iYSiY_iZRb_bQb_bSTfHTfITfJi2Kb:b*b:bDi4_b:cqb|a2Thxi9_
 Th=Th>Th@Th9TicTieTiCTiUjdNTjGcbbbje_ccbJTj0Tj1cdb'TkJTkOTkSTk-cgcGUe_chckcia=cib:Ug9jwTUhpUhqUh?U
 h]UhCclcCUhWUhXcmcgUirUiCUiEUjiUj(UjNUkOUkSUkTUk6Uk7Uk9j)UUllcpcyVdMj@YVe-Ve_crbPVf+csa;Wd%Wd]WdKW
 dLWdMWeWWe9We-We_Wf'Wf7Wf;Wf+Wh%Wh?Wh@XdLXfUXf+XgaXkJXkOYd/YdLYdMYdNc!bAYe-Yf;Yf+Yg?Yh?Yh@YhWYirYji
 Yj(Yj)YjNYkSZdyZdLZdMZeBj7OZf;Zj(_d._dL_dSc>bz_em_eq_fn_fu_f,_fZ_gjkdGc]a5_hm_ht_h)_hTc'cxc`a1_i#_
 i)_i*c`bokrE_i~_iAc`cvc`c[_iTcAbU_jJcBcBcBcCcBcDcBcEcBcFcBcGkyAkzOcCb/k%Ek&Ak)Ck)EcCb|k,5k,8k,Ak.2
 k.3k.9k.Ck.Dk@Ek[Ak'UcDbFkAAkDEkEEkHIkJAkKNkMAcEbvcEb!kOOkOUkRAkREkSEkSHkSOkTIkY4kY6kY7kYBkZ0kZEk0H
 k1Ak5AcFbwk60k7JcFbPcFbQk9Uk-Ak+AldIleCleLleNlfAcGbKljHcMaradh;-o#cRa<aehO0lw1lw2t,l(Cl(Dl(Pl(Sl(W
 l)Cl)Fl)Sl[S;l$awlqlCSa%d5dvcqa&iUa&j$l0_l1Ga,h'a,hDa,iUa,jva,jWd,aOd.a9d.bPd/bwa/f/a/f<Ap;a/jia<hT
 a=ega=e[a=ima>fJArQAr1a]f3At?m#2m$Hm%DdLb&m.YAt3m=Sm>Hm>Sm>Tm[ZAt-AuadQcGmG_mIBa'g~BoxBpsBp~a`d]Bqf
 a`jMBq,d5cqaAfTd8bwecbDedaLaCdBCoxehaDaCeBCo*eicaCo=aCgaCoGCqgelb)ena>CrmCr1eqb#eyb)m-ADm'Dm:aFf?e&
 b9aGh`DowDoxaHgTDoUaHh:aJeXe<b7aJjgaJjhDqzaJjFno_El(El)e`b_eAaOaLeWnyTeHccaQf/aQf<aQf1aQiUaQiYeMbV
 aQjiaQjjaQjkePa,aSeVn?SeUcFErGErXnANEsqaUjje3cFaViLaVi:EtunPGnSHEt-Euae_b(n0_n1AFnxn5_ffccfga,n9_n-
 _fkbFfla|oa_ob_focwfpbFod-Gm)a2g0a3dyGoxa4gRf$b3f%b+Gq8f(cqooKooNa6d]HlTa7dMa7fIos_f?c*ot-Hl|f[bNo$
 To%YHnva8fHo*Ho,_HqqfBbio[_Il*oD_InwIn<In`oHGInGbbgabbjyoSXfWa;bdfgbdfnfYaSfYbwoUCbdf.fYcDbdf/oWGoW
 Rbdj@bfh#f2bEbghuIt-f+aJIuaf+cygba/gibIgkbPbniJKm~bojZKowKoxKo*KoUbqi*bsfRbsjmbuitbui&bvgPpwEg%bdp$
 -p$_bwi]bxfvp,Tbxg2g/b<LoTbxhULpyLpzbzd=p~Wp'_g~aSgFbyb)e$pFPpLMb*dDpO_b*g8gWbSg0cnMq$Mspb<lhMtmb=
 ivNm.NnDNoeNofb?dNNoHp9Thhb_hiaCNsYb`hxOomOpPbDelbDe8bDe9bDe-bDe_bDe:bDe|qs_bEhCbEhQbEi2OqVbFd/bFg|
 bFhaq(_h@a@Ot-Ouaq]1bIg%bIhCbIh6h`a*bJeAPnRhDbZPowPoxPo*Po=hGclhJb>qM_qNTqOObNj'qR-hRa(hUbxhUcFqY_
 bOeDbPd*bPfth6bDbPfRh9aCq-RbQdGh:aNh:czbQg?bQi+bQj@Ro^idcGbReTbRe1rfTRoUbRi`bRkRbSjuiqaMbVj9Sl(Sl)S
 l*iwcybYigbZembZgWbZhySnFSowSoxb0eDb0eUb0e:r)_r*_b1g4i.bWSo-So|b1k9SpxSpHSqZb3d/SruSrvSsob6g:Tl(Tl*
 b9d0b9fIb9gZTmzb9j*TmAb-ihTn?b-i:ToxiYb)b_eYTo*rTDTo^rUEb_jrb:d&b:e8b:gmb:goi3aGr0SToUr1_r3_b|f1Tqk
 i8a6b|jlr-ScbeDcbeMcbh>TsPTsQcbh[TtuUlVcke(jwbDUqtUq,clhCcmjNcnd.Ur(Uuas/1j/a|j[bvj~a=csd+csjGVq3ct
 i<WlTsCScuiUcuj]cujKjEb7WnvWnwWo&sKEWoLsL_WqqsWZYl*YlTcye-jOb=Ynvc!fHc!h/Yn/s5Bc#d1jVbyc%jNj4cyZow
 j_c*_l|_mEc=eMc>g)_ns_o?_p$_pJkibH_p_c~e:_qk_q(c`eG_r*c`i9c`jv_r5cAi#kxcq_sLt>Dt?At?Dt@At@BcCect^M
 cCiAk)ckcDectL5cDe6cDi/cDiAcEdycEdBkEb&cEelcEemcEeqcEexcEe<tZNcEi'cEjdt90kZajkZaocFhYcFiTcFjRugYcG
 gicGhgcGhncGi/aat<up_u._a&mSu<_a(o(a,l*lZa9a.pNa/l]d,e-d.dKuA_a/uad@dXmia$a=lVuGId]iluI_a[lWa]oXm#
 ahdLf;uXHdMf+dNgamFcCBvHa'rWu6_mObCCu`CuLmSbQehi]m2bwemi=emi+Cx/eqj]DvyaGooncbDe*g3ndaSneaSe,f-niaG
 nla=e<iRnnbwnocCe>jgaLl(aLl*aLl,aLl@ntc)v?Hv?_eGgTaOnFaPl(v^IeMfUaQuavDSaSmte5eJvO-e6iCe-f;e-h?e_f+
 e_h@e_j)fbe8fed#n6cDv0_Fw/aZs~fjjNfng8fng9obb_a1r3a2oma2qvojcGf$f&oncdf,j(f,j*f@e[ouciowb@wo_wp_a8
 rWHvIwtTo.aLo?cFoAaQfIgiw$-bbl,bbpNbbtsfUfww)_w*_w<_bdr)berGo4bibgpMpeaLbnqGbqs1wPTgwfKg!iRwU_LuLbw
 p8bwr;w0_g<e`g<e8g<e9g<e-g>e_p>bwbxsYp'acg]e8g^eBg^fYw-_g'eKb)l,gGikgLgtMuLgPfKgPf_gSk7b.m;pTb%xh_
 g;gib=sZxo-b[qohhgIxq_p+aSb]mAb~p=b'tvxtKOwbbBqmbDl,h<g<bGoCh?h?h?i0h?j(hCfcbKt_bLl)xF-bMs$xI_hQf8
 hRefhUg[qZaWxR_q4aTh:h%bQr+x6-x7-x7_rgcGx__ydDbZsgygTyhDb0oXb0oYSwwSw$i*hLi.iEi.iFyu_r@bor[aDSzsSzy
 b8sbr`cCr`cFrCcEiRjvrLb_b-n*b-n,rLcHrMbKb-rWrRbLrTccy^-y^_y~_TwyyC_yD_b:qlb:qni;hKi+gYjak-camjr+aL
 sacqyNYccl,Uvachq6cjn|ckrAcll(cll*yY_cmp*j)e_j*e:y4NVuTj=fMj@i2s'b)sAaLy8_ze_Wx9jOf;c!p]c!qwc$nbzxG
 _u._u<c=mnc=mp_u4_u6_u7c>p)_vk_vnz$__v0_wX_w9_xekih@kkgU_x<_xH_yetzbyt!b)_yn_yt_yukqg.kqjuc`q$_yvz[
 G_ze_zgt/aKcBt<cBt@zA5cCp:k)hjcDo#cDpJcDsLzREcEnycEput2b.cEsat8aicFnycFoscFq(k9d(cGmLcGnocGn-cGoscG
 o0lhe:cGqKcIl|-$kcSt?0%y2$+l*i/l,g~l,i/l]i/u.cDdvs^dvs~u.cGa,vId%oUl5i`a,xCu[b=u]cka,z(d(pld/p%d/so
 l;ixmaj/d>r@a<xR!f-!f_uIcCuIcDa>y.A$+A%mdLm_m,dLdLp4dLrudLsYdMrGdSq;a'wxu4cDdVq)a'yma'yMdYoUu6cEa`
 uH!w_d|r*ebo7efoP!z_vfaCvjcE!#D!#_C#?vlcDemrAvnaLe&rGm+eJaHu^!.DaHwbngf+!@_![-![_aOw4eJtueMl)E#7n=
 j.nBh3e4pvvNb8e5n#e5q+E%me-lXe-pqnQe-e_lYe_nwfboUaXuKffseffsffnsefnsffnsCv8a^!4_waa,f(s~f=l]f=l~!|_
 o$jgo%j0o%j1f]l]o)jDo*fHa9xSo~h|H%moHf/oLj(fYl(fYl*fYl@fYl[oVfKbdyzo0iRo7fMbiuLI%mf+pj#u_giq`#w-pp
 ehgzm|#z_#%_p,ji#/_g~lDL%mgJmYb)y>#A_#B_gUm1#D_pTg8gZoUxdcDp1d+b>xJxka,xlb?xocEhil@#M_N%mxuc=qfhlhw
 oehwofqiikqxh#q(dSq(g&O%mh?qqh@o,h@pBh@qFx[a,h`l3h`mthCmShCo6qEd.xDbKhGsybLwxhKtQqNiRqPi#hVomqYiqqZ
 iUh0n*bPvoq7eBh8pXxXc)icmSx2bZx6cErfjgrfjirfjjrfjkx7cHrhg(ihoUrpgER%miuo)yccdbZvoykbbb1vui/sei/sfi>
 rPiEqk$s-b_vHrUe-rUe_rUe:rVjpyAb8yCcCi3nayCcHr1d&$>_cauL$]_$~-jel*jel,jel]sce<T%mckvojwqlswiyU#7cl
 y:clzyjxr'U$+U%mj)sTj*sUy4cHy6a1jOp4zmcNjQl]jQl`Y#lY%mzvb9zvb|_z9_z-_!z_!#c>x)_!Ukap[_!-_!_tqeNz&cC
 z&cF_#$kdp;_#'z(cD_#Dc'v>twi^z=cCz=cDt!hpc`w<_$nkrmn_$ot(f)t(iyc`zr_$q_$/_$Qz^aw%mScBz'%pAcBzWcCu6
 cCwdcCwXt~i-cCx7cCyuk)q$cCyvk)swcDu<cDwlcDwXcDx7cDyecDyncDyuzSbWcEwpcExfcEyukYoYudfIcFygcFyuk-qjcG
 v?cGwUcGygcGzgcHu<cHu6cHvrcHv0cHwUcHxHcHy^cHzglrn4uqeBureBlvt6uvj*2)~5)U6)U7)U8)Ul*p9l,n-l,obl,p9l,
 sdl]n-l~s+u,j^u=gH%ITu`dYd.z&uGfM%WKdLvxm,owaA##u;jgmPl*B)~&a_ecx5vge2&f_m2p%!#cD&k-vvlee*vE!,a,&o_
 nir,e<wYnnp(nol(nol*nol@e@v=n!r:aO%peMuLvDkvobl*v6e<&AKowpyf'yEwvh!oAn)fIwTfNzaoSqDw=eE&R_w[h7w^iz
 w^iRw`iRf+x3gavigizppfl8wGiLwHd*pioe#wcEgzvswTfHwWi7g)y#wZjybz!yw8f1g@wyp'tr#~cD#~cHw|h9M%3pMp5#BcF
 pOl]pOl~pOlAb*$+b/!<pYpRxfhKp9l]p-l~hiuLp_o#hky~#OaWqknmhyvfO(jx%e_bE!L(pAx.eMx~d#(yLh`v'h`y'q'mI#Z
 b9qEql(*_xIfY#5bDqZnuq0r1q-py(^Drgl)rnrKrnr1x_eBiuzZrvoxi!v*b-!j$wcErLl[rNrPrTserTsfi0y0yAjii_w-i_
 yYi;uAjqz>jrx0yUdSsvo>(;_sznoj)x<$Jcd$Ma,s'pLy7fMsIsMsZq_c!$jztfMj0v?j0xpj1v?j1xp$XcC_%A_%B_%7$1cG
 c=#-$6cC_&p_&4_&;t#oO%fcF%fcH%gcnc`#8krxU)^_cB%ot<t?cB%y)E_cC![)I-zEiycC$QcD![)OC)T_cD$qkDw'cE!@tS
 s^zTkScE$gcF!#cF![cF!-cF#|cF$qcF$/cF$RcG#BcG$RcH$/upl*-,$-,~2.u5*g5*h5*i6*h6*i7*ias&4av)Eav)Gl(zeav
 )Ol*v?l*ygl,v?l,v0av)0l>v0l@wpaw)Gaw)Jaw)Kaw)Ou&q$l]v?l]ygaw)9u*q$u>l1a.($d)#<l|w-%Pa^uFsSuIo#muve
 dI$SuPm,!oj(%2a7dL$nm>uVuWm>u3owmJu5a'&Ku6l(u6l@C*tmRvcmUu/&dcEem#u!$d<vnoU&maS*<S*=_&nbn!.e[!=j7v$
 p:e<$1noy:nozyv,r'aL)un*yNn,yN&%b#!Rh@aX&Kff$'fgz|v0l,v0l.!YiBF,Ea7&Kwjrgovz=wpl@wplBwplGa8&Ko(y+&I
 a^o@zyfN#Rw*mtfY$2fY%f*R_o1vY*S_o8uLwEn^ge%m*Y_piwKpjwLwMplgz%mp$y:bw(O*5_#]e8pMy),f-g7#.qfy(x(oUbH
 (,h~$lh'$+x^q8q'xBq`xCxDqGhL!yqMz=,$_xKp3#6eXhY%mx1n|,*_rfy#x7l)x7l,x7l@x7l[x7l]x7lBx7lFx7lGx7tr,/-
 rqw_$hiPb9&Kb-&Ky=m:y@rWy^l*y^l]$)e<rXv;$/dBr1z(r6wj,D_scv%scy[yYlG(|cF,M_y5sZsBxGzdl(zel@jQ$8c!&K
 ,R-zstmjT#hc?(-_*Sz&l*z&l]$|d&z/tnz<m5%af0c`&3%jeB,_B%je8,:T)?cC)?cF)^cC)^cDt*x|z^l(z^q%z^tl%me<t<
 z~,+Ak)#8k)$`k>#ScD&4)Taw)Tax)Tay)Taz)Ta!)Ta#.j_cE&t%xjicE(ikZ#j%$jj.t-cF(3k;!Hz2oYlfz+)4b4cG(nlj#k
 cH%8cH&c)9awcH(4cL(Caa,;aa,+ab,;-/y-/L5.)5.*5.,6.,l)#MlD#&l0%m%IiW*ucE%OfP%PdL%PdMa/,5%QhE!iqo!koc
 %Wgtm#!ouQuQ!qoM.2DC.R!!pnvhxOm2$Bel%_eo(.aH,5![l(![l)![l*![l@![l[/b_!Esg&viVn(#>&xk+*CcCvHvH&(h?fb
 &&v3xGv6v%!5pQv_uLos$2ot%mwpzy&Djxo?$X*Ia,oE!%a;,5fN(k/!-fS)xfY)uoX#bpb%mK/q/@_p$%lw0zy#Al)#Al*#Bl@
 pO%mb[,p#Jrwxqz$#LsG#Mt,hv)tx!yPx!yQx#yR,rcC,wb1qG!uxNzy(/g*x7y:rw%myiyyi*%JiE(7b9*zrF!ly,y=$#qk$*
 r),DcDi;%N$>l($[l*$AoB,GcF$Fos,Mb#y8z=<g_sGz8Y.z,RcEc<,jzzyt,2cC_._,4cF$8l=tm#F$9os_/[tw!^kp(z)]g*
 %ll(<,Lz^z%%mpb%mrg%mr`%mrZ)LeB<>Sk)(:cD*%zIv9)OfikB&#k1%EcF*[%(pmk:(D<I_cG,`%?n55<15>w6>wav<@l[(;
 .Gayay<Pu?#9*sfY.Nb-%Rl*uI%m%2owm>%Zvt!)*<iFnm%D/bcC!Cx+!Kz=*Ckl&yn&&!r1=xSn-%^ft*da1<@v;%wwk$X=*-
 =*_*KfII<-&Ms(*MeMw.#`&Rl*&Rl,&Rl.&Rl<*8d.#=xV#[x7*:dLpM&l#Gwxqk&Jqk(<qs)rqA&2(#pQx`z:qF(H#2ypqM).
 xK#HqT(2ia*p=Q_#+uA#+uIx8#//2cFS=!r&(Q=T_yw$lb9/|$)v%(UobyH%b$@yije*acl.!sw(IyY$9(|um(;l@(;lG(;lLs<
 )d,Ois,Oit=8_)hpFj3*_tk&Y)$so,5d#,5dL,:jjc`<m%mv&>m_z^$9%mxN%my9cB<<cC/[t'&^cC/XzE$dcC<ecD/p.hjx)O
 o.)Oo?cD/')Tl[)TlJzK#ucF.8k8*TcF/Uk9,&.udN>#A)_l/>%_5>)l],hl~,al~,b*qr1*rr]*tnquU%2vd)%!#%m.;h@.;h[
 &sw3&twc!C$3!F%!/fj0/gj1ob*ooe,N&~z>wc)qwc)7on,^&Hywo/*Nf`/:*Il6/!fMw))(#n$*w](J*Sl.pt*$>Y_gI/C#D$9
 &;y~xg)e(ixz=GcEqk,`x=)S=Mb7#2$lhH<hhU<M>:_(>z.(?wQrb.o=QcCyp(&$l#|$n![yw&eyw(&y?)^=ZcE(3vl(8yayP(S
 yY)r$Mz|,Mti,Orp?xA$Q!!,Qpz$V#v)#z()(z&kl<wc`<7)<zy?(_%m#fz^)=z^)?t<,;t<,+)Ov1?~EcD=8)YvXcF=<cF=D)3
 z4z6)5cH=g<Qk[cH=<cH=Oax?=%H!tuA,2uD*7%S#o!k(V.Vm%.YpMvp,2e)=,.:tg&s$pno.!/bl@/blB/blL/blPwn,p*Hv3
 #r&Z/)oapd.K/=of*0yw&5#+&-$,=Bf=p5/H#K)@>2cFh?=_=MiDq0/|xW,)(~#|yp*0yu,5T?1y^*l$)(<$*&[r1<ur2/@,Lv5
 ,Mzy@*_,Ow_sG.z<jl*$U&HjU=!j5=?tn<t<pl*,5yu%m&tz^,6%m(q%m)f)O!d)O!#cD>-@E_cF>=@G5@G6<Il,aa@Baw@C@R_
 !f,5=bs>.7z=*<$r&x)^=xqs&=(M&>(N/oxMfs>0?5cE#a*u=*ti&L&e@acC/&u:/<v-*0#|p$<Xxf/Jxm.3#P*C(u%~,x!/hT
 ?dh1?h@sbw/Pz%x7.!x7.`=Ql(=Ql)=Ql@=QlB=QlC=QlG=QlL=QlP$e,Tyg<C,A#|$.,ri-?k<au4,L!2tt=W)<)W)=&a_[i%f
 .w,9#B%m*.%m*=>ml`z^<#@`cEz^<$%m,GcB@BcC?8cD?8@Dax[,AcE?8@GaqcG?8.x!0@KcH<SwX>%l*l,>Ta([y%G*C<8y6!k
 /L>]p4.W$f%3,)u7>a&a,5=gzy[^_@Xb$*[&t!4<x*F&Af=?N*V(&p$>/=]uI=~wXby[,,b&Fxl=dxE=f#0/_/Nz9,()&(^,-,~
 &?,B)ri_@(?ol0,M)?<i!v[wcH%f.=<y#-kv@?%m.9<.$X%m/a%m<a%o</k[@r[)axcD[i.n%L<J#caa]k?Ql~!c=l!p=a%4/6
 vl?]&j/$eB@S?0s^&!/|=&#+=~#+M]%,e,5[ajx#N=X/I&H[VcF>;uIy*?q$.=L,D*a@&ob<g)<_]()<<B,8*+%m=g%m=)%m=O
 @`tgt<@AcB]kcD[^[,f+)0<F<H(Gz3>5)4<LcP]k[]j)=g)q*S.]*S.~b?]#=J(T,#.0/8*DsE[tsI[tsM[tsP[t)p=]c@]x,5
 .S<.,Z]OcF^nAcD](>x&G<K*/aa^m<X,D.@.?.^.[.F.ElB[1?Q$8.5/>>E)&>F(a@5u2[Fl]*Y<W[Kow(o?E@l$N[Rn%/G.X?i
 %B?i%8$K?Sy_[tzf[tzh[t]llGcC]-?@)pkE]v%,@Jav^>l~]<l']??P).].l|/c=*&,@lv2[C*1?uwV]ap$]L/'=9/1=yyq[7
 <a=7,6?b]KlB>l<Hz^]a[&#Vk?]Z)9@N?O,i?2,'=t=v[`$_*U@p#%[+(R@7(6[k^Oa7<k>K@=*2<n>N@@*C^hpw]Pzyt<^n[=
 (p<+>P@U*xuX]0&@[B^xl*^yl=@9,HwV^f=]>@>2>$xz^d^!ob=K?j/9?3>c>S?$=N[;()?,=$%m]HcC^6cD^6?`=y]V!m<Q@N
 ^Al.!M]4>6>.[6,U^-hg?m>@^Oow?y>?>m?N?/?zcD~i>.@N]Y)jb]~w~(cF~qe-~qe_~<cEcC~#~G_d&~y~!f:[j>2(5^$<d]'
 >f]pt<~s^>%Y^u,M%'^~%`^'*Z^z/1^e/7]|?r[0(;^`?t[4<N^a^^*j?7]t=]^c^L*|,I^Ey4~]?$]`~/yM<[^><]^><^^><~
 ^><'^><`^>cE~T?R]z?1]DE'b!;~vI'a]:>^q*~H]l@O^u>Lav'cav'daw'cax'dC'h~~!=J'j=]^E]][s~_bPy4~Hcv'a^s@h
 ~&.m~K!Z>;^E^P>1%m~I>m^Yo?'dp4~_~|q*]b^t?.~c^W@Iu<'cu:'cu+'c'wgr>|~d'(cl=U~*yC'c]o^v~u?v^x]wp.'r#~
 'c#Q'c'&i/$Y'e^m^m~]>6~Z*m'CL&b'c~1,y^H]~/~~U~D><z^'q'b&S'd&&'d(s'd)c<'~X'e(s'e)c[D~f%d'u'*yj?O~I.-
 'c/a'f=)'fi)'Qtg'I>l'c'c=H~0?M~9>~~->@',,a',,b'g>G'/,)~4@1~5@2~6@3@`'c'C(F~j^5@,'y*k'L'i[A~e~x'P*y
 ]N'c]O'd]P'd'D=`^i'c'B?w`gp^^B~3_`q[$'.a7`sH`v`jl,%U`cmy`m~7~h`xbTa8`y@P'0`l$e'H^q^m'J'n~'~]'!~J'k
 ^.'OcB`,A`>'%~A`*hg~)'?_`?`[e-h?`@`),V`@nSyu`^&a`^`BcD[|`%'>'<.;`'?V`[?W`]`k~```,W`a~8`GE^m`,~k`z`C
 )1`Ge9`He9?V`~`Ie9%+`E'`'_cD`Qc:`Qc|`Rdm`Q~#`?`F@L`(`h`F'K`#`<`4b=`/`.`3<Q`2^I`7]U`7^>`N`N`4`b=w`:
 `t`|`_`_"

/-- The names of characters, without those that are given by rule. -/
def nameData : String := "
 2c_r/e8]6cCh1TuLl(#M),!?l((!l(.JcC<_)G=MiC/R<;/KzDMdJ#g-xdk#,Ek)Og.s$.;h>xyyOy^cDobcDn-zJkBnFcDv?k`
 fXt^Lqlyeqg?=),!Kl(?8l([ezD&|_mv`0cC^7cC]C)I]LcC^wcCpB#)?6~>`?)G@W?[#)#+@WcCyC|lSNb^d5a*_r/e8/&]6kz
 eM),bNjul(m6eIYl(YaQl(d7KaQ$Z(J),.-t^PYx7),febdoTh%bdd&/#cC[M&t!d[T%rr*k)hs_*Jh+Ir=aL),#~cC!*),qM-
 xduz?oyOy^cCz_z-cCxc),PbcCiml(&;v&&b)M(Ixxb)bYUw3h%bdd&/#.d/L&t!d[TcCVcifuc?@r(<%%cE[liC/&[e~O%Y~9
 (Z.-cHx8%ClVC%m&bcF&&':&W':vI(j(Y(s~9(Z.-cC[N),~#O]i)c':)mu<k-o@]USf[P_iF%Y~9(Z.-cHx8%ClVC%m&bcF&&
 ':&W':vI(j(Y(s~9(Z.-cC*?),^6O]i)c':)mu<k-o@k;%m.-~X'F%Y'[%Y'GC%m'@C`rC`oC%m']D'sD`f&&'F&&'[E`o&&'G
 &&']G`rG%m'[G`oG%m'NH`rH`f&W'A&W'F&W'[&W'GI]O]U*@I>t/]IJ'aJ`rK%m&b?BKbP^>&8'@&8'N&8']L[$e<'dL`f(j'@
 (j'N(ju+<^cG#6!B<_^>eK'a(s'F(s'[O[#u<<~>t/]OE'a(G'@(G'N(G']S%m'@S`rS%m'NS%m'](9'N(9']T`f)c'A)c'F)c
 '[U>n$X'W&tu<'W'GW`rY's)m>~Z%m'@Z`oZ%mu+?Bw9SkZ@`^>B>lcHi9dS'cyIi/'bx%Ok0'9a)ied=Dk1>lcHi9dS?B(3vv
 ^>/QEk9mZcF,qF'9Gl^fsb)]Ua_^>#rI]iK>l?B&8BmpgzBaE@`^>(3Mk7?,o?]U(jw9/0^>O[$(Zo@'cO'lP>l<^<@c%^>yIje
 'beU<@/QEi(p`]U(9(xz%^>T'S(9/Pl,)co@'c<dV@~Y'sZ`fe7cG,*<])6r`<@je@`^>yIn-<]<@/&?5]hWYb@kFn$L$4tWiU
 z|a,cqhuRl*/P^XDZ%mu+k1^+Zl[[iDZl[](LJcFL^+J]ULJ^>NJk7^+J]UNJ~X']I'sO'sU's)c[~#~'Z.-'8)c[~u+'Z[~wc
 <'<HE~X[~#~'eA]Oaw'fAE'SG`fG%m']K's(s'G(s#Qzy#~'ee7%mu+?BJl[](DZk1^+Z]UDZ^>G%m'@HWdzk:YNhq(jwc'cA>n
 )pl|u<'fAE'SO^lav'X?Y'd%Y[J'U?Y'U[J'd&W?Y'd&W[J'V?Y'V[J'd(G?Y'd(G[J'W?Y'W[J'dS%mvl$1'dT'tc$a3'a&K']
 (jw9/0]UD>k^>OU'aZ'9A`o&&'N(s[~#~'YyCaw'eO`oO]Ozy#~'fYz^av?BL>kk7l^Tl^*@Jk1B>bQP^XA]iC's&8dSk-]e)?
 ]US)Acui($uZlC](?5'bB]iU$0(3jBE`fJ's$nQ>l_r`.i#%lH](R`fYaw?B(3dM%H$]l,B@~x%Ok0>kk1>ocH#f/QEk9mZ)6#f
 ,q,*l`zg#f&h/Q,q*@J]iG@~(IG~PG]UfspMh8b7o@<HHk3@~HeKl^I]io0~PI]UL[$(ZdVTcH];Le7<HM);*9k6@~(jp$l//P
 av~PN]U%5O~POE]U&h(nxE(3R);*9cI#f(G*9cHr`cHn8#f,*ax~Pit/&R]US@~vG*@J^lz%k9bOdH/QvGeU>k<Hsk%m];U$0<d
 V^;Vt[Y~PY]UZ%m[VcHeqgEe7)6eqL<@[EhDbVhdd&$Oc?ieAr3cE/&[Er?TveCkDI#y$4)X_*%B]U&hx%E~PG>lcGH]UJ]d$u
 (3K~PL]UQ>l<@?5]h,*lH[iDZ>bDe7l,DZ,4>kk-S>bTeUl,TC,4>kk2eK>bLSl,LZ>*BI#y_hCerb1VnIoFTa,l)[i(3&Kn8o?
 cJl|$t]-$nH)6#fJcFR<HR);#f*%/&isjLj0hSpS=m@$cE<_cE/QvlcE#+/rcEp$l][E,*l]wX.OcEx7l*$E*^^wzCql]-<e#,
 #~cEz_z-cEwcl*pB<ep.cF#~cF?6cFu<l*=1$5cEosl]!zaK#+/rcFp$l])acE*^/KcExdl(u:cCe<,XR&N#Q)J_(X&tz_z-^T
 idi2z%kErm)q)X_fspMLk9k|cF/Q[E!N#dqkBmoo,l]gXl]g~l]!Ng~l]YfZvwyEyIpJcEsXlDsAw@Ug;qIiR<B<_cEpBv,.OcF
 cll,p$l,/TRw@&;?6.ql~u<l*pByCcE(?vktQoi#dxzeJl]a'oig~l*eJu(f^fqqsl*pBwX%U=h?6)Nl)=gl)yCcD*-q(#*u:k?
 h.%A.-cD=)cD,,&tz_z-zGqm<ew3%A![lD?6cD=cj&[JcD@$,Yvll),*l[vl)px7cD?6,0u<l[wXr'l)/VwX!d%Ao@)P/r,0)a
 l)nol[/Kl)xdl[(xItco?l)/Pl[e<l).-l),,vll)&bcD#QcD<ew3%7d6DGv//&&td[Hl)u+l)^wl)u:l)*Rl[yCl)#~l)pB#*
 =o$.(rkBww$ol)p'u&o[,-l)p'l[#+/r,0/&d6DGv/yvv/bZAGjql)X,Y<eyC.gz/#*wcz@)&u<l[wd_>6kMbFhziE.:kvb[iE
 [wk=Ra+fw%A>B,0&t<ep.l)wXuAl)p:$.%Aa-b/iYi2l)]yl)wX?a,0(;l[wbaPaWpen@?ao#,YwX/ru$aSgMdKX,0wX.Ol)x7
 l^l|jx.Ol*/r,Ynmz9x7cD*w,0&t,,$W,Y&tu:_%8u:cE#~cF%8yCcE[JcE]+,0^6dNe:Ililllct[fJg-itjkVcGX)F^fHeY'a
 *vSa.bL<]k`UgUa,).w-l[](Pa.Pa:LoBnfMb)<]cF7Aas[w.i/QLckdF%c)^.llD,*lH]B](Yq!84asi8OiD.:^Xu@z^l)Ahk
 rMa|^>&x%mi8OiFeYl^o0l^8Cau(ol^8Eau(|l^xvl[[io0%m@Y^X`8A3au'7(no0%m.:cF(|l[[iu@%mi8OiF&xl^eYl^o0l^
 (|%m@Yl,`8v0%ccF'7(no0%m.:cF(|l^(o%mi8OiF(|l^xvl[*%gf<&mLl)y?l)(|>ll,z_d.l^.-lChFl)#1gf>**vKbEbI<]
 <@i~Gb)?A&4nfMb)?A&4KbEbI?A&4Sa.bL<[kzx)^fi#'laX'lKa8'lfB'lGd/a|'ai$b)'aDaN<[)F_wF<&idl)LckdF%c>*c$
 T>t@!cDLckms&xl),*lC](i%?A*%LckdF%c)^cE&4iw?Aid@`<&*%/QLckdF%cl*!@lD,*lGC,S](I&&&'bek1pcGpc=4oJDZnU
 c!bzbUi[a/-=4f+s4pcLbkubnYi#k5pc&W&'$iUk1Zo)m^e_s~Go)naoJj9k+!R$i&X*A(waSt@T!TEFk3mAr!Co)yib0vc/sz1
 s=hsz=cFe_s:cy]Um^e_s~Go)naoJj9k+!R$i&X*A(waSt@T!TEFk3mAr!Co)yib0vc/sz1s=hsz=cFe_s:sZI&&&'bek1pcGpc
 =4oJDZnUc!bzbUi[a/-=4f+s4pcLbkubnYi#k5pc&W&'$iUk1j9^>xv'aYa?'a/('j&6jY'bo1n5'sBbbav'bo1n5'sKS'lhU'a
 Ff6'aIj-ja'aIj-ja[#?6'ech'a$bxv'bxv%mTbhbz'cOT'aKbEbI?A,`S),=hC,STbhpC(x&VcEvrc'Ne2ArFxNl*hORjWe-&J
 _,`S)/gZp<Suw,S]($iI>o'dbZg1hsz='baS>p'cf!%mclr+'cf!`ff!`wj9`nc,'sbn'sbn~='dbn'SBdBKbf_bn'baQ]N<^>t
 /]eNf!'bbJ`wa%goSoBa7'bES`nb-'sr>fRcdU'br>fRcdU@`'da7]N<^>t/]iWTS'jeh`neh~='db0a7'aa%goSoBeh'ba%goS
 oBeh]N<~<@h^hrbn^>j9%m'[bn'9aO>o'caQ'9aQ>o'cgogkSoBeh'baP>o?Bh^hrbn~X'[%Y.-<^>t/]a^I'jI&&'[SmZ'aSmZ
 %m'4j9'sc,'sa%goSoBDZ'j&W'F&W'4O's%5O'b%5(s.-'dE's)c'F)c'4U[#u<'deh%m'4f!`njR)c'4f!^lz%'ea7'Sa7`fgr
 bjD'jgrbjD'^bjZ'^bjDZ'^bjL'^Ic^'^Ic`'^IcA'w/QZ'jaO'9La7'aRa7'acyE'aQA'a'#d#j%bn'baO`waQ'tbJ`nb0a7's
 aQ?,'.DZj9'aDeh'aaO]N<^cH3dcd`eLd=](a]Bt_hqGoRm:eAugcFnxnAr9Zo)bdf+bxcwk|nxCm~n,o^pafzDt:nxMn,s4hj
 k9oxVh@vcPnxJf]uck9nxcqjLb:cw)ZCOk;IWhqbLWRk5nxOfIfdcH59as]-wX/rcD<_k@MhDSbg)&>El)&i]B?Pl)[i(3a]d_
 a]Bt_hqGoRm:eAugcFnxnAr9Zo)bdf+bxcwk|nxCm~n,o^pafzDt:nxMn,s4hjk9oxVh@vcPnxJf]uck9nxcqjLb:cw)ZCOk;IW
 hqbLWRk5nxOfIfdcE/]eA_YIWhp&4YI@`?]cD#gcH8es#;&/d`eLd=aTeSf9),wWfbfYlBd`eLd=Dh8l/9dca8d5W)q_aTb=HrF
 bZf&t3a,Sf^n`c*QEF_Qa?mdGa(bBt5bJowbQj^kXa=Qm<dBrFc!b:jAb-VbfkIaSvGb<QeykIaSi!YoQQa=b>c)h`m>aOf2a^
 a2aJpybIZn[a?b=HkbFUplb<b=fHw|AplgUwLboFcim%d^dLQa(Mm>aOf2a^QeYp4YeQHc=eNc$pZOp&Ib!j0aGo<ZIhh%ukeS
 h$_*,#4i#cptTTa)kpf&k8Ay&QAgMiEa9bRQkTSeRt2f&kQAiIcEQAgMiEfAl_a7ixtm_cpjAQcecoiEeweUtvgKIh2b*b-GcD
 @qb)hYcD#4Ra)e9@qbIbZQcD#4r$_v)i,l)@qShtPdDQ%u_$Fv)w-l)@qhnkbFUgocD#4QAgMb7QAiLcHD0..l0tQji>JshEkV
 a[kX!mHn`Tn`jTcE!XgetVfqwTcE!Xxbxb!Xhn~[!XP&*!XjanjjanjQOfq@tiOcHEe+jT_=0/]Ya+nh_&tVa[k_a[_jT.ql)@q
 a2rbkIaSi!YIMcIlw%T#M).ynSd*fGn;p_z(n@ynSa)Hm=a.cpjh(ipJ,X@SCUa'knOjh!3l(%Th-cC@SPeTgZbw)/TeN,`l(a)
 Gf@Il(%T&iDdF>hkAOaTfMj@bZ).yng1Rm=l2g?fC_lZa8kxi?g?g8lZHaWa>ivgzt0HgMUg?H_lZo(h5bjl2fC_a/o'iJf>gA
 .iwty&/]<4/?jQugoXvWcEvqcEwG)R#S#%)&=rTl)(1nm>:l),(>*KdBMbfbjzowkcE<4w:_%Dwkl*jDlD<4wk_%8~mkCg)tQfH
 iS_gLaArFiSkTwrpbtTfHpkzRkTf>t1fHs+t2n*yjkSlUDlUiIkXAHzLcEv:kME/w<a%D^NFml_<k/&VcH<au.)|l[b9cbeC<@
 fdcEhYtVFtWg8pOtYqnwry+?QcEjQtMiXTmbvqTmb*XtMiXcDvqcDwGcDr#aEkBsncDw:H,Ywkl*%7iA(Il0cD/&vq%u_p-c@fE
 NdKZWd@Ka][,$nV_%C*RlE/acD/QvqtMiX%m(8iDjCc)wk$1cC@S`McC%T(!).e%IgI>hcD,`x+v2,#r<<@*@BnxhYkS]GcEu=W
 a>pzzgjCc)>KcI%8wtwklag)cGy+)c>KcEwtwk_zojbfHjbwrdUfH/5$a?iz9/bkQEfHb-wra'wr/q>KcG<a@)NzoDzo/q^MrJ
 fHrJwrDexzR>ncG/a%>$niIkFAHl6e$f>kFcizR%m?iz9/bcG=z%BRiat1H@'VcG$a/acG$nVl./azy>'@%bkHt1&K=z%Brw~r
 e<l.?iu4cJl|^Miu]Qu4cG^MiIlIdylI*@fdcE/jnmpYD$1<OcqfH/j^NbJwr/O>'/-yabowrScui(gecE/.$anm%BNf//.^Na1
 frzgrgkOa5EHkIa)]Q%8a6EHkIa)%m^M/?$nVcG>'/-Sl<%8=Ce<l,GfEp4Rp-tY,p$a^Mf]_aJAvbMnvrJH^//wjQl,a5l8zg
 >KcEiS_gLaAiQa5l6jD>nkM#s_qcqcj(s_K#s_s_jD]Q%BVnLml_zo<kr`cG$njAjD^/e-<k?iu4kZa=h;)6>K?]<@AE.iwt/]
 iu%m/??QcGhYlOxa*O!2gz_l0cFpbcF/-iFrwcD&vAcyfGr<ySRce_Eb$HbiB.iwt,<tdcFcl#+q|%Nl,*@o#tuKwixa@8cEpB
 rwcEwtw:cEy+zoo,l,p-kAgxvPbXJaEfGv@_&cg~z>k3fRl),<o,z>%mFbcg()r.ipBpO<@ex%m/&jAialB~~`He8[[yj]PkFa(
 lDv:lCynSfWf`.JcFqO,%_gT<@/w/&Vk)jVa&_&v/FkBclbP#(_/pzK#(u&clbP#($5zK#(l)=*u#qgt$jF)!x7kBclbP#($5t$
 jFz&zK#($5t$WeBx7k>h!(>k^d'bwd=OdVs%b*b|dVs%%WercJ0e+?P)&&4d!qGSswycy$!ufsl7fub0jwzRArW*@Dd!i1ricE
 /xc*=?TvIfuSfEf;YcgfIo(#vpvnbb.M.naPbnrW/l&*/Q>7QAqGri.oiPcEqEoBB#cfzgIk1f>dGkAiXa7,Z%8!@cDZQAhD,Z
 %8!@cDRmH,Z%7&rZpv_=*cF%Nk^mH,Z%7HmH-ESa>a^!@k@bXbX,Z%7RcuHdKfebdoTv(Qj!i!YdKRchggHdKsc<ev%%D%7?i%C
 %7,mw3%C%7p1Ck=a=bQbpcJ4D..Sb`DoBj8oYgobKk2e8[[.Z?i=*b#,1/azy?i%D?i/L,Iu4cLl|<a%D[_zye<l./&$nV,1$n
 jA/q<a%D?i/L,I%8ex]Q=7$1zy$niIcG/&$nV_%8ia]h=R=z%Bdy%mjel~?i/L/bl.^_l*/j[_cG?i/L(;l*bo/w>'/-Sl</L,I
 %8pO]O<O=C(8Sl.$niIcHjA/?dSt1&K^__%Dwkl*=R^_l*/q$n[[iI$1cKl|(8iErw;8t1H;8tTH@'[[iI,Z<4'vjel=/8Fml_
 <k'vjel>y^l>v6%8jD%m'vscu.cJ/8jQtih;%m'vjel>/8/q'vv6%8=R'vv6%D/&jA/.(8S,XiXd*,5wgb0.Qp-Ut0AkDlTLH.Q
 bna)j(d$Fj(cpa[j(pOUkHAa)UkFa7a,s.wgbvAp2a1a)UkIN.QrwUkF.QZ.QT.QzkP.QJ.QaC.Qb+lTHwgKwgiXApEZlTyjs,A
 a(o'euDHs.q[OzLj(v:j(QAa)j(cua[j&Aa~!WAAa~A!WIBI!WaMdU!WUaA!WOOd2!WEa'!WEYa'Y!WOa`!WOdvA!WSsn<@g_cJ
 Cc_NKbH`Q&4m&!PEkUkP#Wewa~i,xjkDm<m>%0aC%ZxWR%2GBm(dLpipyg+cxg^OkNuS%1Hm@%3NjPcxg^q=Og+pavcRdK=h$i
 #dx!g~l,ih&Ow9&mfYl,o,%~l,ih&Oxi&Vz(<Bnm%A#dqk<_cDg~aw<AObHaGb@n*Ga~gsckaQcD&i^CbvJa/cyg!cJFetezb9
 cyg!k?bFhw).iKa/uzAgLbh<-d!FkDo9fsmcexmwIj0a~m[n*o9To9Ys&bnAfqgwmwb.M.nIhcmwoXFf;jaAaHj0bOfqrit3mc
 b9a)%u_oXbd-d!FkPaBgAIqneweUcD]-aRv'TfMYco%ul[?xw9e_E%&w9AdMw9Am]A%&w9dMw9m]cD]-$iA@El^w9s>cD]-I[,
 w9f+f+Ok9sn%ukibOeucK3c:>:l*a)bXAh2d/nuBmya?b)myi$Ycyd!dK?P)&@qgRODfMQIjakXIQlTQbhruc*EFzVj(d'Aa/s,
 htpKFAmwa/g_UcK4c_Ml:=.f>qXa%kCf/lUAHkUi#b@m#j:o9a?jia*rua*<<iEoXmfa>ZkCQz'r(mwDj!aQp4KlUdycDAaYie
 uL)&y7&Vl)=#l>5e~>:cKl%SjVa&,5MlZAgz_xmpa#NrGNp5b@p5u5q_w6Lw6i?cK7c_[[<4.PvWcHr6x7l.#+&;$ocGp$l~.P
 wGcH%;x7l/$bnmu.cH#+$be<cHp$l'$b/acG>'.Pr6#+vWtgl~#+&;$olF.P%;#+wGaxcHr6#+vWzywX$a#+&;$olF.P%;#+wG
 axcH#+wkcHp$l)b9cbeC%mq($pl.jDcF[_<@b_fZjQk=AbZw3$bv(q7aLl[&4=C/&$njA/q/&$nV_%8/4e<l./-yabo/w^_l)<e
 r`cK9c:bNjuz(,YPa|r?awcK9dq$no,%na,-JUj:g~%nf2b)Ag-fUd!lkdBeCcDw:kxAblBkB]Gkggoi?S.gaKw:cDwjw:z/>*
 .Z$nV,1>KcE=@@%iIlIfd~r/9/O/atWM[#Bmo=B^M<k[_zywkl>e<l*ia%mp`cEjD<.z^oXbSo.jPzopBl0zR%m^NiulIGa)%m
 /&$okSTxUcdy+s+%m/&V,Zdy%m^N/.e<l*hY~rhkv%%B.Z$npOl*bJHlI/5$niSl*ia@'p-l*<k[_tglDa)ied=vXhYk7OqnbJH
 @'jAiSlDTiSlDrJHlDbof]lDv:%m^Ma)ied=hYlIpbaycI%8/?$n[[iI,Zf(F.iFml_zoo,l^jQtih;]Qu4k:h%koHugfG#!$b
 >'%7Ssnl)#!!#l*$bnm#ql[$npBy+o,%na=-bUd_iu)YhYcF=CwGcE&7o,%ndG-Tf>dGmBbWbXJm|a/-NbgFlja*rHQbacGcuQ
 n2n;p_z(n]ynSa)HdKe/PUrK&vAcyfG(3vq,0vp_vWcEvqtVSq-vWTmcvqTmc*XcDyI,n%B@%p`l*,n%8@%p`l)x%vWTmcvqTmc
 *X.iwtjDtMiX>nk1h.%AwG]P)P.O,Y/VwX.O,0/V&t?ao#$X);v(x7lHvql[pJc`*Lp-c@fENdJe)Ag:d~%d/&C?R'u>I$idL'M
 kEu`_nRwwe-&(!x_q?ww#W`5kON'/[fw5Lw5~l[,qdOOe9r*`Ek0u`_e_$ie_&,!x_h@$ih@^J[,PriiXgMRa^EkYWcDbCkBr_S
 %djnTrGa/jnTrE?6)Nl)?x!x$-e_smUUE<@qXbpowa3Hm[uQvxRHm(dLYsY`i~b`Q^0ynwtr/oUv(&4!xthqcOqcAWkUEkUUe-
 gLWd~_Dm_zw#asYfxkLJdL[EDe$kDa~kyeKl1a/bl)S'ua1cL85..'McL8faEkCIcL9djh?`5cLAdu'zcLBdfbvcLB6atb0?Sa7
 cLB`UcLCdoEkYIcLCdP^J<@bpl:ktcLDdna@@>cLDC..RxWa7cLDfaYsY`icLE`Z&4bP[$*=cGw-l)x:z(cEr*cDm6eIY$|mt_
 ~KqkwYrP_rSaGb[g0mtkFEb[g0mt_i/rLcDIb3f[k]l:)&&4$L%PdK^0Su'z(cMlxGcmMchf`yna(a*_dYnjdYnj)gcM05..<+
 &MUUcM0fanvAIcM1djqq`5cM2du'zcM3dfpyg?cM35at$KAcM3drrua7cM3%+ttb9cM3e~@.[]UcM4donwAIcM4dPO^JcM5ddjn
 a?cM59..bpowa3owtaincM5e'FAcM6`Zi4Pf|Ae$KcDbff|UbPk@K_bDgj)ScygkfG?Pz=lodca6JAq9'1a1lo5..'McD$P!x_E
 loF..EkCf|$P!xc~cM93..h?`5cMAdu'zlpdfpyg?lp5at~llp`Uk0u`_E|a&do&,!xc~|a&dP^J|a(c:bCcME0..`icME`Z^0
 x:av|a)9..j8)SSsnt3a(m_w:fH$(nmhmiQ%B!#l]je-!#aw|BlxbFf:'1a1|B05..'M|B0faEkCI|B1djh?`5|B2du'z|B3df
 pyg?|B35at~l|B3`U|B4doEkYI|B4dP^J|B55atq(#*AI@>cDa@aw|B5C..RxWa7|B5faYsY`i|B6`ZIb3f[<@cu]S(<%%cE[l
 (Pi/$x%$rW$)i/$xS|B82ary(%d]za1|B85..<+&MUU|B8e'e-nvAI|B9df(tmybn|B99atxlCA|B9CatJA|B9e'xsTb9|a~djN
 p4b9|a~drxjNp4bI|a~e'*|[fw5Lw5~l|BBe~@.[]U|BC6au&.AI|BCAauq^^J|BDc:bC|BDdna@@>|a'`Z@j[b,`k?a]).g3b_
 l)Ye`l)aGdZu#h|bhl)dEu.l)x:<2av|Clwb-b!a6%d=h=cU,Z'uoe=h.M%A&4'M|C0e'e-nvAI|C1df(t`5|C2du~_[fw5Lw5
 ~l|C3`U|C46au&.AI|C4Aauq^^J|C55as#$)&AIaw|C58..jakFtaRin|C5Datb=bnd@c'bBb!|C6c|`i|C6dm`M|C7dnyn(Lk[
 (>_.;Otmc~DaKbNWaSStuobcFhxlOjelOy^lOqkFh)nFlEjelOy^lMyncaUb<cCghb=e#ynr/w=?R'uoe(L<@'M|C8e'e-nvAI|
 C9df(t`5|CAdu~_[fg?|CB5at~l|CB`U|aB6au&.AI|aBAauq^^J|CD5as#$)&AIaw|CaF..b=bnd@c'bBpEFA|CEc|`i|CEdm
 `M|CF1asyn~RcNlwMlZAgz%d=h.M%B'u>I$L<8'McN0e'e-nvAIcN1df(t`5kON'/[fw5Lw5~Cb+rEyn[r,Nm2sol*!l`%cN46
 au&.AIcN4Aauq^^J<@nmbQbK)SPd@cN54..eiLb!_g9j1LbycDa@@>]Sqj&J-d.-i/b:vIfnb:ErW$)v?IEb_(PyNIvIiTrW$)
 yNIEb_(Pffb_<@*voL`icN6`Z@j[b,`]S(<%%cE[l(Pi/$x%$rW$)i/$xSk?dF)&&4eiLb!c^hqhq(Fbyk5cN8dci,Hd!%dC?R
 %PAsY)gcycN85..A)hAA)hAE)hAaM)hI)hII)hU)hUU)hIbU)hIbUU)hIb!)hIb!U)hE)haM)hAI)hO)hOO)ha@)i9du><bn'R
 a1~Dghb9gcg_b1KcysYybgla1)h><CA'RJA~Db9Ab!gcg_b1KcysZiwc$b`a^g_Kb1KcysYybglJA)h><Tb9'Re$~Db<cmDa7gc
 b=)hybgle$)h><b9'RaE~Dezb9gcb=)iBdjybglaE)h><bI'Ra~~Db))hAgOj|)hcy)hbP)iBDatezb9gcbv)iCc|cp)hb9Ab!
 gcbX)hb<cmDa7JAl*ezb9JAl*a7)hb<cmDa7gcbv)hFA)iCAasyna,-gyUb=cNCe+@.eF-PoPk5aTi6AaLa$bLw6nfl,KaTi6I
 bWbLw6nfl,KaTi6bIa$PoP|aF6aunfav|aF8aua1Eb+a$bLw6graAs[nfl,graA_aGwIbCaAcpkba^AeF-PoPcHnfl/a1jOchbh
 rGa1jOchbhb9|aGdmbxi1`HEcNF2as?xnf_a1Eb+a$PoPuljOchbhrE@qKjuexf:|ElxiXbj.4c[bHgfkMfDgoo;HUmxbpWlYbp
 qoRa*oukOa5kjj(ejc>f@t:fYt:d/t4kqkEfDeje-YbHYw@e=egm_i_bIiJkTfDrPk7d/g3y]bKUiXOtYkihpe=aGgui_b9#X_
 b_jvk-f=mdi0b?tYkkkDOj|fUIkQbHhJkQfDPfEf/a0c?m<fDhDhpa0c?mcPfDSa.hDOkNbHpLYbHYa*kRbHbUdLrsLbHLw@pE
 cxkxaQt4kopzbUysUdLfDHo2LbHekpybHuBfDb[bpUgubIIjOb[o|d@thpGf@-Abnsjd@_Am]g9f+oMsmUE!Ts(hFNb_U|E3e+
 m6eIY,|a~Hjh.4koRa^EkY!SAIkeIb<meb)IgIlXgyKoucyh?b)f:b/gub)f6IKo'pGEgvy]i;t:musErPiXgosiIpko9cygHgh
 kHhygJ`W.4_Ahff@Ko'bpbCco|E8dcbvO,5pqKa-z?|E84auiK|E86atPu>owb?q.OkQl1egt4_iK|E8CatPl1JHuSOkQl1'mb@
 m%q@#Xz?ufMkQl1vxb[kDh?qQPa-z?kHbHiKkQa-l*a0z?kQl1BowpZs6LbHp/|EA5aubzOT|EA7atsPiwSKRf-yii?t4z?kJO
 l*Pl1w5q<bHiKcD&uS]ocFpGghkYm]g9f+oMYk;j1s>U)SPl1$N[,pGKqmbZb.?xpDNc$|ECc:?xe_nzh@m!AI|ECdmKbHbv|EC
 dqyIpGEgvy]b:k0AiPAk>u~##)&NIfxHf6|aLc:`M|aLd|fDNh?b/<@bpb<_a5k7c$cOlwb:mLN>ibC%uc@TeT)lt.NCArKdO-
 cj_Rg|c=Ca(kecIGiU%k_pL*O)lc]e?_pLm4oU)ltyB_pLeceZ)lc'fF_r#_pL)l%ku(BbUb$r#kDSgs_)lkDKa$_i%Gl]w]Szr
 a;%kkFEw1aS%kc=r<t3lUhoyaTi#Gl*hoSl]RfZaCeNb2jvyaRGjPoml*eceZ-DZjorrb7b*$-eakIiU%kcDg@Osd%degaKrriF
 La7Gl)Ar@*8ynSf(c@Cd=-mUl,-Ka:joPm`DhycAi&GS)SRe&_Dgjc@CbblfhoSlfSsqg:c@CbblfhoSk1gj_Re&_g:cD`McEwj
 `[e_td%uc=SDj#rriEhcSc=Zjv_ho_ZpyeceZ-DZjorrSc=j-c]bbj+hphcSc=Zjvc`Gh)rriEehtskTSa^-bKrsa6G_rrSc@Y
 qpGcyiEd/c[ouc@YqpGYa>)SYa=z[iEgL>*'PAcO49at`<p4^LM]$Zm%zwsEzwta-]%b0?SHm#kMyxaZXaL-v5q-KpiincO71as
 @.^v?w?c&.q^O)SRJeXb5_hcknkRg|c=Ca([,/QgaII)Sho_ZLa^g__Dm=g+Lez%ukbg!rFh^UrEynLCbjrriEsXl*LCaWja_ea
 kNekl*GbUc>d=RGYfYSk6!'/&MmYea?C%dLCaWjal,Mekl,*Rl]&4@-v|[OJAcO9ds'mb@]1vy@+@V?lDtbDZoxsFZoxtb-dM@<
 =S,>m~yyaZXaL-v5WdNs0bPlqe~bu_bU_golbj-c]bbc>mbeai3##%d#aa'mxw0l,Cd/ku-s=Bce_adf><ADRbcj;kRe=RJnQa(
 gNGezkRe=RJaWRGjPomkQfF_q'hhj;lhYf5-Ka:bclfScjl.Bj-avcOCe~ynRe&_g:_Re&_DgjlfScj%uc=SKa$_i%G_a4ts_RG
 jOkNqa_YbblDhoS%kcE*OBRe#Rb]oU)lc]e?kekE#@c=Re#Rb]oU)ltyBke.d&/Sj<b:),wWfb&P#;&/Sj<i6r*<.iCwWfbfYlG
 b:mLNz(kdAv!MaCd=rrSkTq5&QutMjOgL,5`mxsN`<`bW>[w5uTd=!o>PEkNh#!Qa@[,Tl4Am]^v&,Mh#oNh@E,Yyn<8/acEy6
 ?4AbXjh]*&_s0q:WdNa7<@!9bX`Wyn&6(Jt2vo<AbzCAr3zOhKiRkCfnEgTr1nuGeLr3<@yhyx?v(F]]?w/2<@Mh#xmJHm^Bm^
 a'^oc]h#&_NdOMdObv<@Sa1W)yi!@EtyW)yEj&yIpJtyW)ya7iZcHboc'a-<@sGeStx)yTozPsD?xsGeStx)yaUcIUE)SsGeStx
 )yr5<T<@nseStx)yb@dOYWdOa3sD?xa2a~)yIt;cyHz,j*aM<@b0d=@-mRtbNsZm:p5xCn2mJy=HdK]*b0d=&_sD?xb0d=AdNe|
 %D!XY)SSf@z@abcB)25t@COjtbcz@abt[eHa7i2z@<@bUpGPd!jvc?A)SbUpGPd!jvz@-5kBHd=`RynKf?i6r5aa)23]obhh#mB
 I<Ab0d=x!>EcC!6d=](mdBmdftk1qon,VoYj6ufhqoYKmdg$k6mdNmpqoh`k+f[uce_iwufissthDisgoisfzhqQmp$hmVk0mdJ
 bck0IgEmUk|mdJf@k3lVo)HoJsJHmpa-Ek,CdoYNk,CDauAaQk,D0..mcBmcftkFqnn*VoXj6kTmcoXghtWiEgJkOmoqnh`kXf[
 t0nRmcTmosshDirgoirfzhpQmo$gmVkEmcJbckEIgDmUcEXmcJf@tTe-o(HoIsIHmoa-nLf;YhpaObaf;(3ftzLcD/F>h^T!6d=
 Nmn!6<-An*/scE#yl(&Bejyf_@_*0(g,Ayw,A(~&+(&@z$l?g[H@y`u#I@_(g#I,A#I(&(W[L(gyw[g&H*V(~#E(&*V&+#2*0#2
 (g#2,A@n>9*0>9,A>9(&#2?g>9&e#2&e#2.5#2/7#2/I]>*V@z[hyp(gyp,Ayp(~yp&+@vyp#2*0yp?gyp&Lyp&eyp.5yp/>yp
 /7yp/Iyp&H*($l*(?gCE,oM$lCE,oM?g/D#i*0#i,A#i&+#i(&#i$l#i/Dyw&L#i&e#i.5#i/7#i/I=:vj-&L*(&e*(@yCE,oM
 vjtR,oM@y&d-/>&d-&H*(&dtR,oM.5(%-(&*V/Iyw&H[v&0,A#I$l#I&e#I&H(W(~aZp[cDJjvyfl*m#e-sYzln/e-zqY!QsEcu
 e-qcY#YWn/,Ps_nEs3f;a$h?a$j(Ya$h?Ya$s6eOh?eOj(eOnEYeOh?YeOj(b^n/b^e-b^s2b^h?b^j(jSsYjSzljSzqjSh?jSI
 kU-AkU-AEkU-eOnEU-s2U-j(jXdLjXn/jXe-jXzqjXs2jXj(jXf;aU-j(aU-nEYI-UkK-m*-Ym*-OkK-UkK-nEI-midLmidL!g
 n/!gj(!gf;ywmim#-nEYa$j(YeOsYb^sYb^cye9Jhyyf_@_*0&0$l(g#I&e#I&H,A[g[L&+#|(&#|@w/7#|/I#|&H&+(&@n$l?g
 [H`u&0(~&0[h#I*0#I,A#I$l#I/D#I/7(W*0(W[g&0@w(g#|[8(W?9[g#E[L#E@w@n#|#2&H#|]>#|?g#|/D#|/>#|[v#E*0#E
 (~#E(&#E$l#E?g#E/D#E.5#E&H*V&+#2(~#2/I#2&H]>[hyp,Ayp(~@v/D#i*0#iyw@_&L#i/>=:<l$l<l/D(%-(&*V/Iws-(g
 ws-(~ws-&+ws-(&[v&0(g&0(&&0.5&0/>&0?9xocCEiZbEa;>iowo'o<wgwqo(Hq<qbpypEp?LlTLnvp&pCLsEHowHo'Ho<HwgH
 wqHo(HHq<HsEw;j(pUMlTMnvpSpZMWm=Zm=Zs,Zo|c*m=c,nRZnRZq?ZsExWj(x-lTRnvrdroRW%2Ss,o|lTbZnRnRq?sEyhi&
 t3o|wgi#nRo(i%t3sEqXQj(Qf;QlTQnvQe-Qh?QqbQsD24duQsMQy_QzbQsH25c|QowQo'Qo<QwgQwqQo(QHh>25drQHsD25duQ
 HsMQHy_QHzbQHsH26c|u3j(mMBlTdUtQkDOkDWm?m?UkVf;cpm?nvs^cskVsErFcat5kTlTb-nSnSq@Wm$m$UkEIkEAAtRnJnJ
 q.sEsRXj(Xf;XlTXnvXe-Xh?XqbXsD28duXsMXy_XzbXsH29c|xjs*o:lTb>nPnPq>WuSuSs*Yo:zkNznb]nPs6b]sE&~_dMj)I
 kYdMnw!SsEpiprpoKlTbonO&)KqbKsD2BdfKsMKy_KzbKsH2BdrKsRKXUkMXIkMXlTKXEnOXnOXh>2Cc|KXsD2CdfKXsMKXy_KX
 zbKXsH2CdrWm@j(sMy_zbsIsPWqbhDbVhdd&dMj)IkYdMnwe_h>2DdrtatfteZlTc,nTnTq[sEzwZo'Zo<j8m[wqj9kXo]c.W%3
 s_s3zkzns2s6c$%ZnqnjDlTaGnKnKq/W=aUkFnje$uQnvaFnKDq/DW%0Jj(blkLlTbknNnNq=sEv-j(oka1m)nvohola5m)sD31
 dfGsMGy_GzbGsH31drGv-oqGokfxm)a2nMGnMolGGy_b_uVs.o<TwgiYvRvRq@HWuPuPUkEo<eguPnvehkEo]mZkQHm<o'Po<hD
 m<wqhEkQo]bKW.WSs.Sf;jauWEnSSnSSq@SWm>Zm>Zs.teTc*m>c,nSZnSZq@ZOm(m(UtSkHlTaXnLnLOkHsEq'qUqJPlTbJ&*
 qQPsERsYMYm(YdK35et=h=#zyy8@>cEy8l]=#l)(Jl)sOr/E?]cD&iyeqg<?hRn0l)]B/F>hcD!=`@e9(iT`Jj0&JkTeN,`cD38
 c:Szrg*bZdTa'f-MsEMsMMzbMsIbZdTa'f-BsEBsMBzbBsIbZdTa'f-FWm(sMFzbFsIbZdTa'f-PWm<sMPzbPsHi8%K_YbinAe(
 nAbRKbRKk9o[l,DbamxKaQmxeiRnAHfNTk1eRb8HfNjjgsjh3Alyf~bAaM?%!POkUt?oepiohokola6t?owo(o<Hq<Ut?pyp&p?
 pCb!t?w;e-pUpZp2p4HxjAHkOnPItYtZt?bOdLh0cEbOf;QsubOUt?ruiErzyrq?Uz`m>m%nSnKIt5kFq/Uz`Lm>Lm>LnSp?TL
 q@b!t?TSuWnSb1kTSq@b5t?sE,PsPWUt?sYs2s3s6c(t?MVcD3Fdq[iYe_s4s7c(t@MVcD4lweaa(fL)]a;b7#gkGkClXf;oL(t
 Yz8qq*&nwf;m#m@e-=-,P=-sM^QsP=-sP^R>1sE=-sE')lXYz8jK[E!Xu<cF&'%;/rk-bEl^x7l^rg.q$Yljww]HiF&;Dq!$i=*
 <$qMcF/dkGhpoXqnmcPnQAlXqJPoLqQbN[c*&Hnwo<q'bIm<^&P^(P^QP^)P^RP^%P^P=_hW=-hW*&HkTnSAlXb:t5IkTq@O[c
 *&DnwnjrFb9m>^&T^(T^QT^)T^RT^%T')jijbkTTf;b+q@rFbotVlXpoKoLpqbt[cpiKlTK^&K^(K^QK^)K^RK^%K')KkMWkSq$
 aebvcqYc[nxbqfIbtHt;HtRkEAlXCIkEoLCq.O[cCm$Am$^&C^(C^QC^)C^RC^%C')CkSuM_rWpSb)lXpUMoLpZb/[cw;lTM^&M
 ^(M^QM^)M^RM^%M')g8=-MkNfHdGa<a>eac]kSuMc]kOe-g_o:o:oLb[tY[cxjAm.^&N^%N')hp*&b?kOfHp&bvlXp?LoLpCbz
 [cpyLlTL^&L^(L^QL^)L^RL^%L^PgD=-gD&_gDrzbXlXyrIIt4t4[crubXm=^&S^(S^QS^)S^RS^%S')iEdGa<a>eac`kSjKu6
 n;_iEb/ObZz8Sgu#GIc`KjLbWjLb2Wm`cbm`KsFbYWuTnRo<i$It3q?wuyhi!uT^&b0^(b0^Qb0^)b0^Rb0^%b0^Pr(s2cylXs3
 YoLs6c$[csYzkY^&Y^(Y^QY^)Y^RY^%Y')YkDId0z8j0=-s;uM_s3rdRz8rd=-p&bPlXx-oLroRqq=-pCxWlT=-pyR^Pir=-ir
 &_RkHnLAlXaZtSIkHh?fmkHm(Am(^PfqiYkO.ziZkO.ziZo:.zb_#Xq@owiXuV^PrWTiYkTiZkTi0kTb_!pkTYnSs3ccq@sYhn
 dIK_o)o=HoMo^HqroxwhHzTa[j%HkJguQAlXQf;QoLQh?QqqqXQlTQkTLHnSLo<TLHq@Low=-rerjRh@q-hclXb?o:a4o:olb?
 qq(flTb?kOb?kSuMtzk9o=So^yhcxODSz8iYk-o=y]y=rWLo<LHoLLo]LwuLowLwgLfHb_z8iYk-o=iZf+y]i0h@y=TwhrWAIcr
 bxK_d-u6n;_/idMsJsNsQsFNnXf+p|Nm~nWo;Ot;kSuM_o)o=o^ow*&Go`Go^Go)f!e_Go=v|rtbSudude_rjq_Wj)sQsJzcsN
 sFHWUk3sQHsJHzcHsNHWmAo`y]To)iYnYo=y=Tcak-r9jbk-b-nYb:k-rGPUk8(wPnwPf+q`hXGj)Gh@Ge_GnwGf+Gm~o`Ko^bp
 nWa8nWo=wLKbuk5btk5KnWbonWKo;wIKk7s<Ok7nXEnXIk7m's/q]e_gQk6o+dMs:s7c!k;nwYwDk4s,uM_Jj(*&Jh@pcJnwJo|
 uM_Jf;*&paJJUk4bmk4pcJJnwJblk4paLj)pDp(Lnwp@pzDb!k1pDDp(DLnwDp@DpzLo`Lo^Lo)LHnwLo=LHmALo`TLo^TLHnYL
 a8nYLo=TLHmAb!k-pDTLnYbwnYp@TpzZUk+h@c,k+nwZIugk+cF*OZk1ZUk1ZOk1c,k1ZnwDZIk1Zm`s=h@r!Snwysm`o`i%k9
 o)i#Ek9o=yib0k-b5k-SOk-SnYbZnYb1k-rvekt:h@eht:nwvhvcb+Sj)b+Sh@b+r!b+Snwb+Sf+b+ruei)//pcEQlXhco:b?o:
 b?oLb@olb@a5q>xlNhcm@OODSz8b_zcb_sNb_WoMb_sQb_Wqrb_sFb_cudM!XrWu6n;_WcCb`f?_r/E)&&4a'f7tXbgkHe`hpbX
 bckOIqnUdGkFdzt5b@nJObytRbfjib<oXGbFsia2a(l6r>IfqbUbgkCbcg8bDhps#Ea(a7nbbeDa7nbEa%a7nbqyUbcbwAb@kK
 fgkGa.f@ejp^bJf7cD&<)&,*l[6lSRck=.fdU_aXOH_aXc?kVkUbUc<cm_j(s9YkWkTfFIbXZcAfFScAo@kGrWa/b5Zthh*h?a&
 _m#EbYcE>X-Oi]h??eOi]#WqcqnbPIe=h5_RaNaKRtVckm$n*bnck_guf/v[a2a`c@YFU_f/fukWckJbHWYb@_WtTf$c<HtTEG
 b$fH>X-a7Gl4fH?ea7Gl4HkOa@aHc<b]aKb=johp?eb=joN.l-NkKbXc<f5Ii]f;nNaSd=JkIn[>X-a=_Ae-?ea=_m*cuc<EOfH
 hCTfDbJbFi1hWa,a4c<EbBHXt4WbcbHiEi)Eb$>XaeOb$iE?eSbBc`kEkXt5cuc<i5cAc%_ji?eTc%_jie]dWghd=a'bFCc=Jd'
 d=d-?eBJd'd=B.l-hWqs-PkGHcuc<EH_e-gJb=c<pIg8>X-Ma(R_g8?eMa(Rc]tWUbnc<bva6_g@R_L.l-gDfYcuj:w@ewAc<aE
 EG_e]h,a,d=EiYb$h?e`kKqyCcvbFrWd+CtRa,CkSTmc>X-s9?es9a;aOd.a;-s9h2XkB#p>:cD,gu#rml)a=La@G<&TVfUDcm
 l)dVGTfB>*gur(qqFh9KSj+SKeZOiGbglefJa&laEbY|amlwiHAg@`=]9W.T^pU)S,NPd)DhN|am1F..*vRdJf@Ub[O`=]9W.T
 ^pU)SPd)DhNk&a9g=PoTS#p>:.gl)74c_aAHa+`=]9W.T^pj&7l%iHdRcu`=pLYdK76e'Lm@m=dK772as?xf+j&7l&bpgU,5/<
 pqKo]b?q.uPm$q.o]b]q/!pm%q@To]b@q@uVm>#XtYkDm<owqQPo]pZs6ropCcst3uUq?dL*GQdK>Q_$PQmhQAdMQf+QoMQj)bO
 gvbOj)bOUjBRj1bVj1Lj1b#j1Qe_QlYQObHsd_x$yQQAj&$Pbdf~n&mhlTynA=bYk;j1s>s>dMqdsZoJEkY&,O@lNIbnHo9h_H
 b<guc(chd#AhHTj(b<Ub1pgmci;bgmfdRb|CkRb~mwb|l:Ka9mwggAdTkCHSDm=a.YbA_iwxscrbRl-COv[dTf?a>mwKf@kDd~
 c$OiwkEa.NcfkmbjbuUfHbwKkvOtQYYl6bKb=EKkhmcbtOb<Ujhm6eIY,|bRaO)Sa[a*bPa7ybkCTiXCmb7E`X7Fc:$qkdK_muK
 c`qpg5j2PoNa'gamPcGqRcGxLg5j2xLPoNxLa'gaxLmP|anlwg3f&oBBo3cD&uiD]2<?*EiDb|e=Shs_#gkBIa'>ia`jummpJn@
 &9vlkH,Ek`IbUa6k[h;_y4[n_=Ky^cDy8>hk[h;_y4[n_ob`W820..dL!P#YqcUe-nvp4uBmIq'qXoepLL%2yhTm%.R%3Rm@m(
 dL/<TrutawgZq-Lowj-kEo<b|e=w9=8cF/ij)qdsmuCmJq`QdMGm'%4m:vcJmArvsZsFpja1dMwhJoCNoCDtab1BaW!RIj1U!T
 uCpjofoxq`yirGm:pan2a1dMwhjaugucdMvczw&9&Xq_n2zweg%m(8iD88c|.I.Mx#)gl.eya=s?dQApN*Rl.a~b!m|y^l.!rK
 dNxnCAlkrHb+oye$lhp6rHm|qAPoyi?lmoyZmBfHb|e=.IrIzw&9.IGozhccHCdOJozTrIaFozrIDozi?cHCYdOZozta.Iwjj,
 sY&9.IBow.Iewa,oe&9.ILHdK8mDeaa(fL)]a;Sc~j0a]kCAj0jEkQOYkQa]kQcxYkTa]tVYkMjEkNa]tYj0b=j0g&t4s;As;a-
 Yt3a]t3cxj0c$j0cyj0h-kOsMOblBjEl*NzfOblBjEl*NsPOblBjEl*NzhOblBjEl*RzbRsMRzfRsPRzhRWm/blBjEc'k-k5k0
 k6t@iFr(nseS_jKsGeS_jK!X$nrgcF(?v)Rz8RsI=-LqrbvuVWvRW!pWnSi0q@iXm>LHWnSLwuSuM_b0sJi%h@wu*&GWj)aGb>
 c@nwa1dMGWm=uM_Js(*&JsEa'a[eTDaQaWgFir*&Dn$Lc`k<lwg/aA_y8-*&#%<@`mjOkTuV%Zvx`bWuT?SHm)Ymci:k<2c:?x
 !qj)E&,qrA$HO?C,5,QsD93c:[ipjxm<9rGp5q`pMq_bv)SMchbKRv[KeHHRv[Sa$Ik<4c|bzOk<44as^C,(l)`McCrBg*&4pjX
 dMxmTrvrvY%4y=pz/HpMn2s[oxQm~HmAyip5!qnwnxj)qrh@smEkYsmAIk<7c;r5<Vk<l&hb_rBb!E,5wtQdNpBQdNwtKdOXdO
 xnpBKdOXdOxn#dbXlndOs0pBjalndOs0#ddOTozp6pBrITozp6wtPdOPozpNpBPdOPozpNwtFdOVdOp!pBFdOVdOp!wtozDdOB
 dNpBozDdOBdNwtKVdOXVdNpBKVdOXVdNwtb5dNg~l)9Bc;?x$Pr&iTaScHAdOIIcHj,Uj,e|Ae|OcHOdOUe|Aj3AAj3Uj3Oj3OA
 j3UEj3Ij1&4!XVcHb?cHNcHMcHKcHDcHd_yIpJltk<Dc;`InYf?_!=xy9aGauynbve:bvEVcCbpgU,|PdGa.a>mwg5c)btn`((
 %6*#qRl*xLg5zjxL((xL%6xL*#e!l*m8g5zjm8((m8%6m8*#m8qRl*Tj$Ya>mwg5YknCcE((%6*#qRl*xLg5zjxL((xL%6xL*#
 e!l*m8g5zjm8((m8%6m8*#m8qRl(aAGfXiz&4*Z(fpi,yw;P]#NRm$%0xsNcz]%V%2AtT^p$HOkYe9A1e~Pl2sD&v(JcCrBTf?
 ,5wtKdNgolgXdMpBbnlgXdNwLxmwtCdNvcg~j+ljdNvcNsZbPrGwtbP/6pBbPy=h9dM#ddNy=pBrHy=p5mJwtqAPoyn2pBqAFdN
 xCpMpBsZwt,QRsmpzLsmsFwtSoyi?ljdNoxw6dMpBH^vnwqrLlV!9ru]*&_RdOp!La^rD_LlXynpGKd/l*]*!XxnpBqAwtbPiX
 kll~pNa~ljdKA6c|ynSa*qz@.cGpGSa?laAlkl4A!roNUEllUe:s?UliliA,1OYlelaEliOlaIlkf?_AIliA,ZynpGKd/)21t@
 bpUeNTqj3%pbPkbl_pGSl_bpUaQ-b!EtqmbA7fa=h=iMfMv)fBa^`TA9c|Tf?_`TAAc|ynWIuCWId/cuAgvbXWmdboOjLa-Yk1
 bAMlY/Q,.h9dMpGYa.bAt;mdbna/bus=a?bnmdSa?bna/buj)ouk0Ad/cDAmD=h![aK^wcD.--Rw?w,f9cD=p%V(1v(X-X,0WfQ
 gBp.l)x%pJl)![lC#&mSh7&V)?u%i+b?lC,wSeX%A=o,wSeX%8(r~?W,1$]l[wX@mz9p$)Q_@mz9x7)P@mu4z&)Q_@mu4_x7kB
 #8B#-S,Y(ir*l)/&&td[Hl)/Kl)![lF%7(1z_z-~?&Sc@cHRcHTk=lwa~p.izynUb!_ieEg9!xtRCEgur]b?kDIbXH<@AgjdM,[
 IgjdM,[UgjdM,[Ra^bQqA,[bvkdxn,[Egjm#Igjm/gjdM,[pj>Zofa5q-xlmRgxm,dMbkq-xsiQg%Igvg6e#>Ze#g6e#u?h9dN
 >Zg+h8Bmwy,AsEvsAnqp4q`gil6Bm~aPBuB]9sEbXkoGm`a<.T)SReRgh[,$wcFUb!ljd~ueKj*bccouc_RaRdO$wcFbvkdhccH
 $wufp/cGbQqA$wcGbQbIl,bJbJjk$wcDAaGG_AaGG<@gekoSa*kMa-y$TZbfl*EFl*cql*Zz|a>c(bPl**vJNcyk=5`XPl+tPM
 a(dKWfWUzGIKc'd)hfAfHb1poh`EibtPgTeKcD(c,|Dhyk1v]Djvt|b?ljcmuCDfYt|v]aGjvt|fYt|b?_a2na=hb-a2fJeJaR
 lgeHcilgeHLgabka5ftlgeHciz^l.KeHbxl~BeJElfhycF#;wmx%DUGcHewlc#?TchcHiJcFwWwmx%Pd/cHPjvlc#?PgycHhMK
 cGx%Pw?h~i6g!rDtPb)aEl)Bl&Sjua/n^ynh~c!CEKkQd/g&moPd/WIiu<@.SA!Qe-nEpiqXoexlC%0ZuS]#Pm(m?dLmI]9W%2
 sRHdK]*bIb.hfl7h~Ya*q_bIhobu[,h~a3cij)h~c(buk8d*eFv]h~Op'k8d(PnAh~e1Ejv)SbIb)AEfH$N^oc'a>d/d=pNsD&4
 wKScy`W!la7<@RnELnEBow!XKk6t]iJ?%?fdLow?fowMl:bcoUowmIgjbHmIq'?fP%1Ml:bcoUp4sE?fWm<a*Pa*_sEoe?fG%0
 m_q-?fq-pL?fMm=q$eS_rFxqeScA%2?fruMl:Ip/c`%3?fsYxlpy?fLuSm$m.m_MB!oU)STbCbL[,Ek8a*Pa*_&.o;a=bHf+h@
 gjbHh@j*Fh)?fbX^okjk3tPb?hujhh~hybDmbBFd|$qc=fWU_g+b*b-gvhHa=Bh$Sk4cgUgEh~f&mvLaReg,5piKpywKv-py]~
 uS@U%1Pm<pyxBFm(pyu3pyw;L]$Z]%owHLm?%2yhWm#?C,5sZbP]o!qq^h@s>j)e9]*gvg9gEhqhXisjjhoN-npKd/)SRmchmrE
 C3Bas@qTa$bSgDb]eZb_c$bCl*CaS-WuWo?l*TSo?`WC4D..b+!puQdJOb$eigq`S&4pzmxAf<uCl7bvm]a*kYAJkYl_AAjLp@I
 iFIfIbdj1IisLs>Ct@ckhqUj1p(EhXaLe^n,ErpLq^TjjOd_OjBOfHb<cAcae$f/a1AHbva^b+cgeuf/b<-a1AHbvAl*ReFm<a7
 d'Am#HlU@qMcfAa(.quw,S[i,<s~p'-bwGGeBDnX!kh@jHaWESk-l4Te_$(bwGGeBTnYl4/scGYmxckBLeJeBchk>9c_!6d=MiO
 bUbx^fmeBmeftldqpn.VoZj6lkmeoZKmeg$cGgJlhmqqpPmqj8itbPe:iwlkmqckummqgoita3meQmqr$cGmVlcmeJbclcIgFmU
 cGXmeJHmea7e:He:a9e:We:Hmqa-e:FgaYNujbaga(3Gmedyk>BD:4An./scG#yuzjua/n^@qBfWUksRsZPd/p'k8cmg|dMd;q_
 LaUkorDAt;l,aEl,a~u#m7$LyIgjSf@uTd@kQibgo)SNIHb0j<dLcyJcm$LgXw3SVd~rEyIcyJcm$LAGf(cprK>Ql,>Ql,bniX
 bnl]!x_%8cyJcm$LbniXgl>Qc`j/f6c`mXEe(<BSVd~rF$>l*bniXgla/jnTrF/acE@%/9Rbb$LKdBMbfbj>Qc`Vd~rFdGa=cp
 j=a;l[yn)gl,jnTrF,*l])g_a/jnTrF,*l])g_cgmu>okYNcgmul].Md<d^Ob<wLa~Hbfa5b<wLcpb)a5b<go)6r`t5bVa*kJaV
 Iv5w9<8p'l*RToul].Mcea7cyi_b<wKd]a7)gcErniRl)yI!x,Yyn~RkCb:Kh8dKyIx8%B=oyn&t.Md<d^Ob<gok?lwwV_~i_mB
 E]U(3AE~P%5Blct[ErYE]U(3x%e:I~PJt[L@`cGg-/QNlicGx%O]US*Lh[x%Oli]i(3OE~POU]U/;h@!waw~PPcG/Qit(3Rlkt>
 [iS*Lj**<tcj*(3M~PVt[ZleZfH$O_LdAhdd&ShIuEdy)F_~ic@z+&2qKx4hUkz,S~i_aO^T*%m]nUcF%5Bk1t@/Qe_G@At@/Q
 hqq^j)hXRk-t@jK$nA<HdM%H(3AnUk1t@SmZcF,q$]l^G<Ho;k6cFv]h@x%h@/;h@!wl^Pk-t@S*LU<HMk_)Y!twd_[Dwd_xEei
 cCwVt((I[igaRllt=wdt((I[imL<Kx4hFlca9~>UnU[$(YDlEFlEMlENlEPlERaxcHn8o?tgl^S)`k-lEZlE(3G^TC,Sn)^6&S_
 f<b_)Ai;bo(VcE](I]h&4o0l^Pl]](Ul]&4(|l^B%m(xz%k1lEFlEGlEKlELlEMlENlEPlERlESlEeUlEVlEXlEZlE%Y/Pl,u@
 lED>lzy$u&&];qslJ,*lOSmZlEIlEx%OlEeUlEUlEe7lB]-$n(3%HC)6eqgEvI/Q,qfr*@J]i(IG<HfII]i#r*%I);$ok4]d$u
 &8[VcH(xl,*%Lk6^;M%m*9k7?,o?cH/Pl,*%hq%5h@xES@~vG(9(x_#fU$0<d*%Uk_^;Vk+)6[VcHeqgEe7cFy?zD%_&r?6cEu<
 u%b=bo,0ScnhBr,)&#~-u<cDwc-*-#~-wc)N-*-wc-u<-wc)N-wc-u<~?R,0u:-*-#~-u:.g_=g,Y#Ql)$W,0Ix+cm,YUx+^6n:
 iTeBx%Al.AElah[a[lc_&bcG&S_DlerYf/~i_f/[iKt?~i_Lt?[ihp~ic^cHir[iRknTjudNiGw9SlmcGu@lb%)ljmZcGFcGL[#
 &;yCli%m#&mSh7&V)?cGPleSfJ)c#&mSh7&V)?cGWla%m.-lil~Ul[)a,Yphglz9(Ap$cDe<l[jHaW/&d6Dfw%7/az&k?eG/|.g
 _[J,0]yl)wX.O,Y?ao#zyv,.O$1~OA>n'rB`oB`pB%m'EC%m&b'8D`oD`pD%m'ED%m'ND^i$1'U#~zywc'e&&#~'8E^i$1'UyC
 'r&&&bzyu:'eF`oG%m'FH`oH`p&K'4&K'N&Ku:$1'd&WyC'r&W.-'8K'SK`pK%m'EL<.'rL~r#~'f&8w3u4'dL^i'rM%m'@M`oM
 `pN`oN`p(j'EN^i'r(syC'8(s$.l|.-'Y#~zywc'Y#~'8P'SP`oR'tR`pR~r#~'f(Gw3u4'dS`oS`pS%mz_l|nmu.'fS%mu+ax
 'fS]Pu*pH;8^>T)`'dT`p(9'ET^i'r)c.-'r)cyC'rU^i'r)cyC'8)c#~zy.-'eV%m'AV`pW%mwc'cW%m'@W%m'4W`oW`pX`oX
 %m'4Y`oZ`rZ`pZ%mp.av<~k3lE(9>~W>n$Xk;lE%Y#+/rcFw9S]OcI._$ocIo,^XSf[Pc`]Uvv^>A`pA^j'dA^i'8%Y])wc'X])
 '6%Y])yC'X])'5%Yu:'8%Yu:zywc'Xu:zy'6%Yu:zyyC'Xu:zy'5E)`'U=)'U'AE^i'8&&])wc'e&&])'6&&])yC'e&&])'5I^j
 'dI`pO'tO^j'V=g'8(s])wc'Y])'6(s])yC'Y])'5(so@'8(s/zwc'Y/z'6(s/zyC'Y/z'5U)`'W=)'Wo@'8)c/zwc'Z/z'6)c
 /zyC'Z/z'5)mwc'cY`pY^j'd)m'A#D-jGi(by'b#D-jGi(V'b)mp`<^)F]au@`-u@`9&x`11dq](&x`12c:[ieY`-eY`9o0`-o0
 `9(o`14dq]((o`15c:[i(|`7k[59as]((|%mvrk[5B:6l|y4k[5D:7q*k[5F:7>6]Uxv`-xv`9u@~a&x~aeY~ao0~a(o~a(|~a
 xv[&q*k[8c;u@^k[w`6^>u@^k[S`6]UeY^k[w`6^>eY^k[S`6]Uxv^k[w`6^>xv^k[S`6]Uu@~Fy4zy]J]Jq*tgu$B6:5>6%>[w
 ^>u@~F)fq*cH[Sk~bFhziD[ScDxNcD>6cD@Yl)[ieY%my4zy]J]Jq*tgu$C6:5>6%>[w^>&x~aeY[&q*cH[ScD=Oy4cF#V>6]U
 o0~F@Y_y4cJq*k[D6:5>6cH@Y^Xo0~F)fq*k[Detvrzyy4cF#V>6]U(|~F@Y_y4cJ#Vid?.)9cF(|%m>6cH@Y^X(|~F)f#Vid%m
 vrcD@Y_y4cFq*cDy4k[F2as[ixv%my4zy]J]Jq*tgu$F6:5>6%>[w^>(o~axv[&q*cH[ScDq*cDvrcEuteNqYcC!GeNr/e8!G$(
 hC-!Gob-hC-!Gi/-hC-!GFw(l(>:l(iZNl(orl(td_jHb_l*NbD-pen[pen?*3#+#'#;i7*4*JNbD-d5a*&NFw(_m9cCaQl(!G
 [G.c_<e#*g~.<S#p[T??S#pg~-9l[o,-,*-9.`=n/X&tg~-9l[o,-,*-9l@ewGn?=k*!=1l(,nbwa(n?jel@>M&uiC#gAyFxIcC
 p.>hcC/Fl(*3#+aPa'aFw>#;i7*4PbE_v#(0oaAb+w>*3#+q(RfN.di7*4N!kNb^d5a*_r/Ek&eTgZbw).TeN,`uybRMe8=k=2
 ,*l)=l=2ecn'S#p[M!d[T)Q.!lBbQFaSeIv.&t>El(w]bSdRf.q(#)yUy`.4_y`eceZbdixyFxIcC%WMcC#g_*!F(>%ecC^7%m
 q1gC/Z&t[ecC,(_>El(>E_,(l(i5hzd=ynn'/QPbcCim),!v=]u;jh[YpB<;/Qyeqgkzg^aWsxsc*wb7d$GNeB=7zD&|_xd),SW
 jv_m9cC/&yUy`F#[@q#'/-_>:cC=PhSMe8*E_>:cCn-l@jel@*E)%!@,3r:qg?[*EiC&:@|r/e8sO_pen?F(-_a</JcCbdVf3B
 g*yDkBE(zkALs%06dl*3#+w`rO#;i7*4fhi`r@b?uybE_v#r1a,l(bda9dZc`c#b*r:c`Wd?w>a&b:VdFl@bda9Bf-%Tv5i!Pw>
 a&b:VdFlBb=(0!=i!Pn~b[g0a,l@S?otd~?f;074asobcDn-zJkBnFcDv?k`fX[*(b>B)P[d/S^6NzE(ItdcDxyyOy^cDobcDn-
 zJkBnFcDv?k`fX[*(b>B)P[dx7l*aic_wVt((I[idNe:h[XljmZcGHlg%ocGPljt?0lSnC-m6eIY),vkuwbUZaNbSl(FibaCc?R
 d,l(bxbPl(gZLl(NdzAuyESeYl(x:u!bDl(hbtzQaOuxhyl(nCl(bqPl(caGbRKuxq3b)l(GaSpIhBb]uyESOl(a6Ah9Il(a@r>
 Ll(HbVVNa|uwEaHl(bxVbQkvcmb[bguzbJSgZOl(TeKv.fWoBx:l(jdbqi(bxbPl(Nh%fMpJl(Md*y#bUd0l(Ld~l(dZCObduz
 bCl*0m7=hwXwnh#%A/Vw9<ew3(rkBo[lC[@!k%AC*7l[p$l[/Vx8(rk>*7l[@Rl[?i%Aobl[eI#@)skSqZe-&ocE!#=;)P?a,Y
 eI#@c`enn*gnCmfclsC_/L=0]C_(r.g_]Hl)Ab@Uf9<&(1yUv(jHaWd6Dfw%A]@_(rcDw9![,-l)'(/bcD/@lHwX!k%7/V*w,Z
 uuAaBh/sgcCAaFicSeBi_rSiAbkCjg@Z_*%CcC!*c>aOb1s$&cp.<%ecaWqeCAe#ckdJe1eTemb4d<tAiqp%!*c?AHibHaNjg(I
 $nG>tH)E-#%l@@Zl@Pg!aDtkb4uEx<scbLcC(I*%I)E-#%l@(I*%L.igCLc=ti<%@Z_*%Nk%UgUO),Sh/aK#_w=bEY('(I*%PcC
 @Zawt=(I*%R)E-#%l@@Zl@hRycyFiJe8ichPryixVoE#'=Yr*cCi:aGz(l(j@Sa;p%@Z_*%ZcCOjtE),OHMl(*Rl@u6-&4*%ZcC
 (3wd]ao0cCKaOVbd),d/r@Ml((I*%B)E-&4*%CcCeWfUiR<%(I$nE>tEt=$]l@(I*%M.ih=l0<%a'y#v;uxd#y#>RkqcmmT,.*%
 Qk#a&SfVbw),@Z)=qJfsMdK&al*bLk`-mmScj#`cC$]@[*%f<gC,*lB$]@[*%jZ@Z_&U*%e]$nDt@It=hThCjf#)(3.Jk&aS),
 a*b:ESaOSKa%cC(3$nFk)<mkoMd~iLkqcmmTVcifuc?@r$efIhgrXiTrXy[cE<b(PffrWscffb_iE^$qki/rWv2i/b_(P!CcE$)
 !CiEn-.@l(F(>$|mt_xxRqh$|z|^d.m~AnSn*]5&=>2tScql*@k)JkngJ<s`[nYn,!FcF$^cF&>[bn-l,@kk(qh<s@kc>_e]v2
 ,`kTaQl*/Q>2~>/QCk(qh<sr.Lms!1vZ_e`b#l,,`cE>2l(Vcifuc?(>_td_y[iC(3!=@&19c_]@cC(;l([Y/b.</Rjx*]=Fl)
 nsuzq$l[sGl(]@]g[1=]y;%U[0=]sco#!~`d~$$t[1=]<|$Z`djxv,>@a~ry~$o?cC[1~$p`cC[1wX#+y;uIcEuI]g=p$W_%U,I
 >@[ocG@u=p>@[ocG@u]+%m!&_>`=p>@!&_/@cC[@i9<vg*%UC*7lB=F_!ki_p'$Z]@kvti$;]+kvl([@x%&g%UC*7lB'x(;cG>`
 ~:=QcG/@cC''y:cG>`=p^E=QcG/@cC]+$;]@cC,I!k=]ht/bl(]@$;[ZPdzeBuIiC`c=]wnh#x<>;wnql>;wnh#x</@l(=]&tuI
 ]gwX/Z[3=]&t`!wX/Ujx*~=Fl[ns.BlCsGl@=]=2[0=]SbOfQLv.[0,I>@![<#/blG=]m9eB`!]@kv$Z[1=]$Q`!,I$Q<|$0bD
 ))l9zg[GcI@)&tuIliN))AgC>;$Q<|_sBcC=F_!ki_!&)Kz$lBjxv,$Q%U?a@'**=p!k=]ht,I%U$)]+iC~$]HcC[3wX/Z~$=n
 [4wXx7lL=]qs*a%U[0wX/UFh)d%zDhKpRcC^KAgCrQaWaVf4iD.+aVf4cCv@kpjgbdenpRk%a%LdJ=q%ra/.Al@&jb7dEgSBn?
 .+&j.A_&jSl@&vhTqeN-mmhTe>Tk>OhTe>TkBcj#`cCxd),xd-bF-qMuxh.#3*?%etBcdxdcC*w_=LR&Nu;Tuz#8bSOTkzcev.
 !3uyilbF(0r7w,f9)I_%M%Mw+R!~b2f~oDl(!>iC.+!>cC,v_r7(h>WtOcC[I(_*P.cl(=2emb|cmuzcmn0l(j`Ub*uw*7u#h!O
 cml(@Rl@rQEfnnHECa@ryq9Ok&ilbF$<nmxdcCe4ESiCa2hwr:twPbF$<a-b/iYi2cC^b/Q(X/&bvZc)r~fXz]k*xX>gp:(Xxd
 l(a>c#hVToDgB=uhilB>>b#l[Bj%p:a&cad%Yl@b>f7eT>>gBhhlBl5b4l@hilB%GvDkll@(1(Xl4=u>Dr7a2hwr:d%Yl@!/eI
 aW%-cCuFAehb7rSw1k$Ehwr:d%c)=u>>gB>C_rS#mqe#m#P>>gB=uvk_!KcC!K$5k(oUfZ*CcD=uCbFichPDb7r7Ei~gMn~n=%N
 _r7r<_!KcCvv_=u*Cc=c)aGfgI$<w+RntjZ,(eB=u(hoF$,r7(hSr:TgB>Dr7/[tv*C'oz/aw'oj;cd(h?8lGMjl>f]mcC%-%r
 >Dr8/[]mt'IrQ>fc^h)*C]m@Otv>Dr7?8lBNaNrQ>f_hhl[?8@Otv?8]ltv/[t'IrQ>fc^h)?8]m_hh>fcC#6ES>rcC/Nh)*C>r
 lB/Nh)>Db|>rlB.+#6nR$`?@)M$d%rAt($dkSsw$d.e_[P>slGb>f7eTA)[tuhhu((:ay?@%m(hS(:lLxfiycD[NcDyV<=#mb'
 tOfSNd&b'cD#m[PtOfSNa,lHebk>sx*)qMcD(byDcD*?%ek?h.,rcD,,*wl)!Kk?dB>qqMcD(byDk?h.=L#+r'cC*4*]$Da>ix
 $<b/e&iCTbUe8fnCn~(1[r#+r+i~p%&t[r=n.+hTcq%rTbUe8.+fnmTb>fveB&t[r&t#+r+i~p%/NyU_bQ##>rl@]_qe&jb7dE
 [asx]_[PcC&jb7dE[acllBbFfSNd&qe#mqexfgKcCf~g2oBemJUGmsgMbRjMw]Cd!rOXbFk%d.k%bFcC>+%md[cD,Dk%-mm>WkP
 RcD@acD(_*>=Le<uziNl(*?_yDcCd3y`wX#K_fbi-kpgXIq|>g/Zp$l@/U/Q$.!KcCvp_*8qyd..c)[kB(:cD@acD(_PbhaCn+
 cCvDzy,vkv?=?)?8l@s]khaC~V?=_>Cl(?8_>C>fcCvDlE?8cF#6ESuevaiC.+#6EtvvDkS$`l@hi,_#m[PkPRfSNa,ay<=#m#P
 hil[bFfSNa,lL/[j;cdp:>Db|^S#6ESay>rlGp:]_qe.+&j_dE[asxp:]_[PcC.+&j_dE]_h)vD?[&uiCgXw3=*l(jx#+*=l(no
 lB=q%mw9=*<$[rdHeJ_b'.A;dJ=q^<(q)JlG=q]jcFsc>M$oiC&jS%mw9>M$ocE[rdHeJ_b'.A;9cC&jS[%)JlB=|j|G_gSdWr%
 k!Id(iU),*`_%UfCryjx.OcC*]hTbkCr3cCqEbJCr3k*a[c)#)wXCeEw>/RwXv3)Il(%;#+CilcD*4r6/S*4/Qp:r*<=/^d[tBG
 pRtBm5cC=Y#_n?,%_/#cCcrEWaEb9<zqLvPw]eW),(3hiu!mrcCfCRv+tCP$9!&)Ql(%;p$l)/R/;*PcC!wl@v7k)gZe8jx.O_
 %-_sc[GiCbEyFwJeQizi_rS('Xtpa^q|!du-gn%|[M@Q.d,$l@eQizi_iY)zBaQj6aWrgkzYLfWief9cCl4Ax_-hTaZp%Sc#MaT
 bVtCTd&Rckh<cCvzr,klfSNt^NwyiMvF#>Ch/iUa`bQt^ckiUi,gtAbM<oa,,|I-a'l_SbOIi(qYcFxPvDcG!>cG&ocGbmjk!#
 .pt&Le:Jq!yt$0mEytl,xPytlbdwytcG/[]rcF=]Va/e_=Ql,xP]@cG=Ql,!#=;cF/d_=5vvt&p(xPv,ecEjk&l/d_Jq!,IVa/
 e_xP,IuIcF)a_(qk1aOt&p(xPjxecEjke&cF)a_Jq!=pVa/e_xP=puIcFh1iW=5vvl,&ol,bmTl,!#l,jxi%aWJq!h1iWqY.pkr
 mpxPvkcF)a_>~e&l,r<l,bmTl,!#l,v,i%Et&p(p$l^$.>~?8l,vl$0e&_(YZfTe_i~g*(Yyeqg_=5xPp:vDcG,(cFv,eceZ(Y
 cll^#rx3(nu@_=5&xl,o0l,xvl,u@%r?T>+%m=p$W_%Ui%cie(eBx%u-mK<%<ep.[$v&bdixr1<%Ch!bdUq#yUp.uxIbYh!bdUO
 cnl@eHa7b1x;el,%.=,_zg&c<e#)v~<%%IyGgnl(f^Ml(*)[G%mxrcD/+!]d7KeN?UxqsG_%UjuO<%pVSy%l(a:r=eVx;qs-m2U
 Ib8h<Pj%H-sdl)L-sduyAi[cq-Pjq-no-h<PUy#bIi[cq-Pjq-cl-h<PUy#v#cdm6eM,|v5jek)hscubQ-F(-<%AbM<oa,,|qY
 cCe%IgI>h_gn<%hRcrq#bIogNe5uyifTc`enaQ<%CLe`.`@m$Fo?cE&$qn#[o?)I_@myYl*&$qn#[o?cC^7_$F!&cF&$qo#[!&
 )I]L_yYl,&$qo#[!&)G@W_$F#f&;hGCe_#[o?cC@W_&$ql#+@W_$F#f&;hGCe_#[o?cC*P_&$ql>Mp.l(?ph)@d@W_(J)Qtv#[
 p$lBScj#`_i9cD!wtCP]LcC!wl^x<i9]Lk(a(oD,|!w)G<ed4_#)/X>MbYd=p.aacEp.-3cEp.-7cEp.-9k!n%b4bV,|#&[qr6
 (C!wl.zg!#cF^2l^cllJ<ezg,DcF^2l^cllJ[qjCe_^2z^l,cllJ^2cFcll^[qr6p$cH!wuz#8n;cC#:<%EbkCy#<ew3&$qlb*
 r:d&u:cDw9x<r&jh$ix<p'cDw9x<scSo[iDscSo[S$;p'cF#ucDi;rxcDy<rxkAn$rxcCv<c@x_k#Uryr6=MiC!wl(r6@WcC!w
 l@r6[-l(!wlB$Qi:bJZf_kyaQj6aWx8zg**r>fRTp7k#g%p7cCa&tlibjg*`d&[Ie%fUb$aVhPeM<%!v[W_&t=0wW,$l[?nl[@0
 l[[W_&t/+zg@*cDwW,$lMx7^]%m=na,d`tjm3Si9WmrcCr0Rtjm3fCRv+%mFg~oUSd..b&:[M,DcE[Wl*?nl*@0l(&t@*)E,_fn
 z>cD&gFh)#_k&OWaS<&bD-OaYl)bDu%p#l(b~ixVeTe6uz<mkkp^r<ySo#fYlke5cEeJl~yLg1r,kGNbObfj0dwhjg(ohmKkDdw
 r/e->M=VcEw3n3cE<e=VcEv5n3kEmkAfw#:t3oKh<cFoXaEiQg<K_ESebe-],~)kOE&^dwhjg(ohb6NmXNq#a+p&&vyLg1r,$3
 kEu~cE&v#BkScei~Tj$kGSebEtSbw>hkIbS$E#_l*srl*r/nKeGTnHg!K<%x%u-S<m_hb#,DeGiWv5yPiAi~Tj$l]44c_OCRz%
 k>orcDn+cD*Rl)dVTj;Cbre9d3_b:Ek=xV_dRK_oFb:aZ!ycDa.h/ySvdk?dBk>Ui'MeTAaBh/cd#M.g=;cE4l%*)!=`@e9@j]5
 rT$yob$yff$yi/$yyg$yny$yxpE/fjZ=Mtc!=`@e9@j]5rT$yob$yff$yi/$yyg$yny$yxpE/fjZ!=qk/pcDjel[y^l[obl[n-
 l[i/u&nFl[v?l[p9l@=Gl[!Fl[$^l[rT,]ob,]ff,]i/,]yg,]ny,]p9,]$~l@=Mtc^6`?cC*)`0)X,5`?cD.;O?>*)(i!FcF$^
 cFrT$zob$zff$zi/$zyg$zny$zxpE/gjZ&t*)!=`~=G?>*).;h=d4_DbPWfYb7#&?:wpl*#&,M)Vl*#&(1m9_?:wp<3(1m9_,M
 )V<3=Pm9_?:wp<3=Pm9_,M)V<3/c(`v,]8&E]7&5#a/c(`#&v,<6v,][&E[F_&5#av,<6#&(+(`jx]8&E]7&5#a(+(`#&jx<6jx
 ][&E[F_&5#ajx<6#&[q(`<e]8=(]7v,&5v,]7$E<e=&x7l*v,]8jx=(]8*^#a[q(`#&<e<6<e][=([F_v,&5v,[F_$E<e[Fl*v,
 ][jx=(][*^#a<e<6#&^2cEwX]7v,@:^Fv,=~>M&E=&>M@:][v,&DwX=~/W#a^2cE#&cll]wX]7jx@:^Fjx=~>M&E=&>M@:][jx
 &DwX=~/W#a(+?:#&,Ml]wX]7<e@:^F<e=~>M=(=&v,>M&5v,=&cll]<e#ad.l]wXjx]7*^#+jx^FwXv,]7$E#+v,^Fv,=~jx>M
 =(=~nol]#+][@)wX=~/W#a[q?:#&&tm9l*wp<3&tm9_,M)VlD&t=*cF,McEno@]#+^1x7^g/c(`no@]wX^1p$^gv,<6cl@]#+^1
 x7^g(+(`cl@]wX^1p$^gjx<6,M@]#+^1x7^g[q(`,M@]wX^1p$^g<e<6no@]>M^1=*^g^2kUP@]>M^1=*^g(+?:,M@]>M^1=*^g
 [q?:#&d[_/cx7cIp$llPl`(A._$F#+,Bz&cHwX,B_(Bvnt+Fjjsz(Ano)V)!sz(AnocE#&wXl|#a(A(+#ano)V$9l|#&(A(+#&
 !]=6$3cC#[qk!Cl*(<l)$)>Aosl)v2>A[lx+yg_!Cx;Fjq.<yg_>A[lx+v2>Aosl)$)>A>3.?Hl(#+osl(#&r#e8#Buxd'l($F
 qk?Z??qYh9cd#[p$cEx7cDyY)!.L$9.L_(C(B$F#+.Lz&cK(`(A.Lz&%>>Y)E<zzel*zg,<!&iE]3%f<zyv&&>MaZp^@)bFi0G
 bDd&vnHmrl*?p,B_/T#+,B<q._vnHmr./%f<z]Iq|%Mze./_,Ml(]I,vxucCze./_cl^]cC]I?n^|!v[Wl(]I[W^|!v[W_xIn?
 ]Ino^]cC]I@0^|!vwW,$l(]IwW,$^|!v[MxIn?]I.|zel*]3)=.|n8e6cC/^$Q**!@l(?U<eaZbykyjqSe6.b**!#~N/Ww-l]yY
 l^#+qYh9y$l4Bj%$Fp$.`=$)s??*Qu;jh$Q**=6lBw-lG?pqYh9cdm2so_d[)QlBw-lHp$lB=6_**w-l@!v@d,DcEp$l)yYl]/R
 $Q*!yvE~N/W?p*=l]>YlBze,_zg<eBf1CyE#*cl^]?)cl^]~<?F#!**ze,_zg?pqYh9jjw-l~/TyYl[?U$Fp$%~aSl~/TyYl@?p
 =0/R#[*4$Q#B<z.1$Q&:yu./lB@d,D.bb5(jh-r^pAcC,F%sgJzDn'u6)>zel(w0Nw>b_yUSi-MzFcCAbYeJoUb[De8&m&NemJ
 (-cCbE,%.b$#xxzel(mFh.u_zgvdk|k)a,i5e8,F%mq6_DiliCHh.a'VeQog$Qi%GbjhGmT.1Sf?bSm3/Q,.fkRd&!+*!!vwX/L
 w))Ql@$Qp$l[cll[/V*~SKjqzyvnBhxr^a@r1),h5bea&r3l(Bbea7Zd]uwAe>Es$a/bpcCbFi0DbG,3Cf`idkzrmtuLbFq6nNE
 bUivaPk)iNzyC(]k#ml<%a(bji!Kb:cCf?gUzyb1aDp%qBE<%YfZsXcCi;f(#Fo%n*gynLbfvRyUkWfWcEy|kNO$CcEv<k*o&tu
 Df[b).fv7oUn0kBgZ&N.1$Qb5(jh-iCfhi`(<kgqlLdCl@gUeqjZ!V),v<cCMd#),JUbLy/bXr+cCcmmat'PTcke8hMr7d~n~b9
 cms$v_Ikzd,n?bwh=VbfGh=bxBbPtAbFbLs$bXa4b+d~s$ebieh(cCAqZIs$bLbYn~@/Kw@(=rl.kcE#xcEq~.b=ecE(=rl.kcE
 #xcEq~kBh]Eksbh.fwol)&o./c>Lce.=c`h]v.!vwol)&o.=c>Lcel(Hh.b2rgiC(<z*cC!Cl(a'd(aK!Cz*SzJ$xl(p1C_n:).
 b=jda,u%f[Pu!eWc`jVa&,3nsl@jwj@Sd&xZp/<%xZp/@^sdaac'g$i2iFsdab*n-3*n-4*n-5*n-6*n-7l,a2hafMgMaSfKS.b
 jwj@Sd&xZp/<%xZLeBx]uya=TfKb#-xZL!AhCgJn&x]),zdCor<%aHaWn0<Tt=$Q?Unm(A(8S.b?U$Qnm(Asc$Qe<iCpVf(#FY
 uBYbdk!If(#FonTeTYuBbwb3eTYoYYuBonTeTYbd.fn_)El(f?gUzybLm3d,fBcC&kc`sOr~b9aYtuAEbYUg#IUr~d+n~d#MdX
 k#w-k$Emni^aYtuf~Mn~a?bC<%fjcm-aG-bxiC#UeBze)>$)p.Stkj@GoU(Ap$k*a=NfY),wtj`iHv.![aK!Vl)gIv.w]p~eB!V
 tgl@Md#zy!Vl)zg$ol,l|Md#zy!Vl(<eMd#@`l(=*lG&:$Q*,u6u%pH>jMmkAa2<%aHVbFCv.ckMmkeBh`Thar%uwb'fgk#Uha
 d&cmNt'Uy/CEict`g?iCJckh=VeWdJeiik.bpW_Lbcf7tBXi3EtBg1e5Ip%bObdCckXtBSbOIqYRdFk)OaBeT!sa~bZmF>qwJ$Q
 DbPjpTSkehppn.bDbPjpTSkehppn%sgJ<*ShjzF_a'HfWtjUe[q6.bShjgJcCb_yUtjjol|q6cC(3$Qi%GbjhGCe9.1$Q*>bd<z
 .8g!n~e/a%g(c>mnOhFjls$bLm3ecc`g.w>f^b*(9ze,3*).8g!n~egbdiChkv`cC<5qjjE$9jE_i:aYa;.bje-jElBzelG!vwX
 g!aWgUogzelBDbRj]Sg~),#a$Qno^])G&hv`>qivi5Ek#%F._fZ$Q&gfZu6<zu6t.m3rcierKwXv`ltcCdCikqia,@^Uh9s$#a
 !#^l_<au.k&n$om.doteBw]gx!~wWot!A*R./$6_h#i$aOe[r$i_b0RfXkzfFm0CdCp%Hf4bFfMb1rOGe`<*Hce%v_otLn~gK@^
 w0fCryb/$CcC,F_h#Gx_k#O$CcCn_tpfAe8aXbTjZbXbca`a?<=v6!&r~bqn?oESbnrOqE,p!siTjg/,dRK<%o#SyIwcYd]l(FU
 aOc'jskzjxh#u6<z$Qn_%m>M&;!vSi;bJ.bbXaXjfbYIb3bFiC$FBLa(v..0#[BbvaG.=l)#a?T=Y*6),iMaWDbRVe8dzxGcC=s
 (?n9cD!:crm5Yu!ii&N@dPeIbck&eIIgC$F/R$QNIB)El(?T/t[N_jM/tmFh.jM/t#UeBwd,3/t>4l(/uwVl(,?_<i#U!AgIb-S
 v.r<tuDdIe[v6,@useB*wk=d%ObDus!~/uv6CLceus!~!vv6(*)>zelBSh`brn~r?i]#UeBze)>&fl@>4$2./)r>j#UeB.0/u@o
 ,?>j#a<;>4l(!DShOaLl),#!vr<cE@or.^#!D,#q|I#(.'lL$^_(*l@i/rL_,#<;,@us!~>4.'l@r.PeYLg($2zy$QfkbQjb)E
 .=l(!DPaTl3aK#UeB.0*)>4_!D(*)>#a,@useBhHzd_*w%sFgye8TfRcdi;a0bxdFl(#aehVikuzPd'p%wpl(mFObDuseB<;!D
 ,@useBhTbJp[l(/vvn)%,?)'**b>]/vn)%@dDil-,?%l<z<c@d,?l@<c!v[e_,tcCzelC>El@!v*>xd)'jM#a]6<%#&@*cC=Awp
 u&#p@$_[T_,tzOb)lC&t$]lIvllCg~)<lI![lGeqj=t%M_/Fz=l(#a]6l)wolC!v&C,.#a!v!+*!fkRd&&C,.fkRd&!+*!&:wX
 @m,t)Ql[n:iTaL<r/V[M@Ql)[WlB#a[M!d[Tl)[WlH[M@Ql)[WlB#&wX[-l[/Z&:wXvpl[/XDfYdTki&^*)!=`]e_=GcD&f@[!=
 `]e_=Gk`E&^&f@[!=x$je)|cHobcHn-cHi/lnnFcHv?cHp9cG=GcC#aWfN*a]+[*xdl)*?u%q$$7%V[Z=EuxRa)yE#4[Y#ax_-
 i4P!A,Duq!A/um9aLlB/v.1$(aKi9-w0eB]+o#cD!w-w0!A.1#a!veqVeB=pl|]+cF(;lBSbOdH.1#aemCAcq-(*lB#;r#eB<i
 wWr#aLlBmE-i3rK,?lBFikb8i3iRlG#a>Y-,?lC<cxreBw-lGvp_p`cCxreB$F#;,?)']+cC*)/uze-&<!Au6-&<aL%iz$l)[Z
 =El(#au6-&<aL%il]=Ql*=El(,@-mGeB[Y#a,@cRa/K!AjFa2-r`!A/uqs-#U!A&tvp_p`cC$)vzr,d&%M$Q/+&j/%)',Dk&aS
 qDa;socCqs)[kB(:)GS*ba~G_aGw1n?/XO(Gnm#qcC]C_#6fY)[>s_#6fY,-cC[rzg=*<#@|(E*=cCw9*?cC@|F%F*=>q>WkPR
 .f*>zg!zaKv&d.<)=q_qsoU(;cC@d!&?)$Fp$lBwXh<eTpe)Il@Fjql@#!)acD*]wXl|#+&tr+i~p(r'k'spgKcCw9#+r'cD*4
 )a%m!#,X#]aWniD!B>MbUp%$QemCAcq-r)aK&ocFzg=]rZcG[Zyv&&/@l,[Y@|=^]L)QlCwXuAl)/VwX=ox7lC=^_[-l)x7lHwX
 n:iTeB[d/U,I=P%U@1[@Gd?eB!#uw*7lB?a%m*)#3w9]@cD[ZwX/S=]=l=Ql[wX/V=]<|ticD[2=]![lC=QlISbOfQg*%UBq5g*
 bIr;Nc=g!K)U1cB)Ual)U3)U13)Uao)Uc+)U4)U14)U24)Uda)Uap)Udb)Ude)Ulz)U*f1*f2*fal*f3*f13*fao*fl!)U4*f14
 *f24*fl#)Uap*fdb*fde*flz*f*g1*g2*gal*g3*g13*gao*gc+*g4*g14*g24*gda*gap*gdb*gde*glz*g.%1.%2.%al.%3.%
 13.%ao.%l!*g4.%14.%24.%l#*gap.%db.%de.%lz.%*h1*h2*hal*h3*h13*hao*hc+*h4*h14*h24*hda*hap*hdb*hde*hlz
 *h.&1.&2.&al.&3.&13.&ao.&l!*h4.&14.&24.&l#*hap.&db.&de.&lz.&.)1.)2.)al.)3.)13.)ao.)c+.)4.)14.)24.)
 da.)ap.)db.)de.)lz.)<Y1<Y2<Yal<Y3<Y13<Yao<Yl!.)4<Y14<Y24<Yl#.)ap<Ydb<Yde<Ylz<Y*i1*i2*ial*i3*i13*iao
 *ic+*i4*i14*i24*ida*iap*idb*ide*ilz*i.(1.(2.(al.(3.(13.(ao.(l!*i4.(14.(24.(l#*iap.(db.(de.(lz.(.*1
 .*2.*al.*3.*13.*ao.*c+.*4.*14.*24.*da.*ap.*db.*de.*lz.*<Z1<Z2<Zal<Z3<Z13<Zao<Zl!.*4<Z14<Z24<Zl#.*ap
 <Zdb<Zde<Zlz<Z.,1.,2.,al.,3.,13.,ao.,c+.,4.,14.,24.,da.,ap.,db.,de.,lz.,<01<02<0al<03<013<0ao<0l!.,
 4<014<024<0l#.,ap<0db<0de<0lz<0<11<12<1al<13<113<1ao<1c+<14<114<124<1da<1ap<1db<1de<1lz<1>&1>&2>&al
 >&3>&13>&ao>&l!<14>&14>&24>&l#<1ap>&db>&de>&lz5678cC>;~B]HcG=n=]&tuI)`cC[4wXx7lL>;?m<|$Z=]![lB[3=p
 >@=*<#(;lH(1%U@1=]&tm9l([1=]$>l@[2jeuqaLlC>@!@t%McC,I!kb|$Z@2]+>o~=cH=o~Br`);]HcI=n]@-$t[Y=]=k[0]@_
 i_!v.|[3=]<|tilB[5=Ftg%i$7%Vnstg%i_sGl)sG_>@o?k@dCax)KlHsGlB=F_!kl|=E_%Vns_!kd.%i.B$7!kd.%i_sGl)sG_
 !kl|xql@(E._.8F%F*=k#%F._.8ih&NSq$$7!k.8=E_%U=E_!k.8Sq$l@F%F._.8xql@(E._.8Sq$l@=E_!k.8=Fl)sG_!k.8=E
 l(y;]!v#TgB(']!>;iYNtlVoU(;cH/bcE=piYNtlVoU/@cH@u#;ymd[c>*7_%UwWymd[_@Rl(i9lB!wlBr6d[c>*7_>@xdcE[@
 >@#3>Y<vsoc>*7_%Vp$<vso_@Rl([@&h!#uw*7lB]+)p$i/@l(]@)p$i[Y$i]+)p/@l(]+%mxHu4cC/@lG>;@T_X)G#+@T)=**
 ,I?m<|.`u2jx#+u2v,wnqnv,#+u2$Djxu2#+v,mG<qwXv,u2/RwXu2jx#+u2$Djxu2#+v,u2/RwXu2v,#+u2*]jxu2wXv,u2*4
 'xjxb|$Z[5~:/U@4'x*~[5~:p$l@@4'xjxocl([5~:/U@4'x*~[5~:p$l@@4'xcl^*^E!]~:wX%9~:(''')p'(!]=p^EwX%9=p
 ^E(''xjxz9''%*)p'(!]''^*^Ecl%*^*^E!]'xjxz9w9m9%*$1l@''$Xl~v,u4l@~:wX%9=p^E('=p^EwX%9?s#+&t>@,<o#cC
 >B)p]+cC[9lB]@)p^b=QlJ]y?=^*%U=]@T>f]l)p]+.elB=]@T)[>s^*%UwXn8_$t/Ucll@*~(1[raGw1n?=|_b2qzsd$5)G$Q
 @W??=^_=MiC/U=|$9#mB#-cE/WwXBfW&O/U^7]j)IlG^7>ptpr6!&)I]L>ptp!wl(p$lRx7]L>ptpi9.<@Q?)/ZwXd[>f=+#+d[
 _?8l(&tp$lC#+d[>f.<!v[-l(/Z&rFeIE?[$W_#)w+q;!dqsfY)z>+_,LsL<zw+q;>+?)uA)A_#qcCz_%Mb2f~wy!dqsfY)!sx
 (3%M,*l(uA]jcC,*lB,m!dqsoU,JcCw+q;!dzgx%d`_eJoUfZ]!(+x7|Bp$cL/cx7|Bp$cL#+l|clcLp$awcL#+l|nocLp$l@/Q
 v@kpjgv@_iy[%)1_&g%C?al,p$l@?U[GcC*),Ml),vcD]CkAaSqDa;socC&gniD!B[Gzy/;niD!B@*%vkshCIMhQeBjM*)@R-,.
 *?),jx@T_***)$Qu;jhu;jh/[]mcC?U$n&gi_rS(`sc>M$oSax>q(E._yttMby&Q*w.i*,yve8sc&Yyvn~,D^/,Gk)tp,DcC,D
 )An>b7dH!w)I_/+z9wX,D)G/+%9@*cC[r%9#+,DcCd3b:E~N/U!vd3y`yD~N/U$QfCRv+)E.<WfQgBFeIe8[X=n/XbdelhKiWw,
 f9cCb:Ez/l(w,f9kifveBzg@*.c-eJeBxfgK<=zgemb|Uq;#Ue8bdvmeXAiCi&Ffj>g>Btg<w,v);yC,XoF$,i_d.<w,vk$LaN
 aC_r<gtrQb/DYg|a;cCno^]~<?F!v*>zgv,%V/^$Q?Uv,%Uu6lGEioR-%5$Qyve9u6l)$Q&ok=psl)$Q*,.0bUbw-DeFc!e[]C_
 =LSOg.cn[%cC]C%m=*<#Bbb,-cD(^l(&t#3=2[MeqVeB@Q.d,$lBTbdjZg0Yk%-mm*)nm,rkQgAl*yDl)yV_,r<.cGqMkB#8@a_
 ,rcEyVl(sc>Wl*bFl(N-mmyDl(b/DcibHscScjk)cj#`%m*PcC=P*P_=LFoVaWh`cd*PcC*P[#$ocDAcqh6&&ytkzf0U##<ocC
 [@w[q9qlw3w[q9,pq|%N_bIi1A$bbNp(yef0solDp:bdCb!v!iYl(*P_A$ba^#4=LbOa?eSIh#*Pl(*P%m~$o?cEyD)/@acEyV
 cE(qcE,GcCpecC#!wX/+=L=|c`ehgNel,%k8IqHk8bSbkC$</K@'&g%C^wl,yCl,/acFyCl,iA(IyQ!v,DcCxd%dzgvl_%C/ak2
 %Fe<iFih&N/K_bd>e)s?Fcqm5tvvn>g[Nz=^<,GtBgXIq|twe>(9%;m4aLk)pK>g[N%dbd>e)s?F*)[Nz=^i)qcC[N%dfZ&t**
 *)*?),/Ktp,DcCxdlB[NlBw]IbF>gx7otl@=|_ReF(0el,%cCAgIfsuLtvCOhT!^@a?)yV%mxd)/(qcC@al]>WcCyV%m*8bFcD
 z9[I@a)p(_yV)pdS)p[I@a)pdS)p(_yV_%9l|#u<)@a_%9l|&Yzg[I&hyV)An>iD@al@![,_@acE(_&hyV)An>$rSpK>g>W]OtO
 lB&t>WkPRcCscw]bZCyE>WcFbFk)g]oU#!qyd.cC*8h)q(Ld?oUg@oDl)d.[$b4aPtOlCl|zg>Mm9tOlCd.[#(qcF=5=k$nVaM
 <)*8bF[#(qcG,GcC=|_aJb)fZl+rcie$=Rd/v.>B]PcCoFToD]OcC(1[G[#]HcG$>l@[9^<(Ee<iCi*oO_xd,7t^b?bUeM]OcC
 !K%m<;]y^i)qcC>>gBvDtv=u>B)p/KcC/K)p!Kl(>B)p^b&tvk_vDcCscembZCUyG>BiCy^lB>B]Qz9l|[_cC>Dzg=zu.?=%m&g
 #q'o%m[e$X^S/[~p^S/[~p<._#q]llR/[~p]O]llR/[~p]O_('?8~p]O)z/[tv>>]ll@/[tg)<-w3p:=u?8lL/[zyp:>>'o)p?X
 vD)p?8]l)p?XvD)p/[?=$X,7tvvD^S/[$X,7)p?8]l$X,7)p/[?=)p?8)p?XvD]l)p/[@O$X<wvD)p?8)pS#zl(?8$X<wvD)p/[
 lBS&3>C>f]rcG/[<._#q]rlB?X>C>f]rkB&3>C>fcH?8cCi*oOkl~VcDz9/[)p>B]plB&tNeWaL~VcE/[]j]lz/g#qH>fk=Er)
 l(/[_m4!Beqcq'o_m4!B!(u.<wvD]llPyueTrPcCwURuzpHeTrPtv=uwURlG>B%mBjsY,X]ASw<-w3>B>rlG]ASw<-w3p:*C>r
 lL]A>B>rlB]Ap:*C>rlG]Al5b4aw>rlG]Ahiax>rlL&t#6ESkB$`S.e<.>saw.e%m/K$1>say.e%m[Naw>say.e_[P]O>sa#^U
 >B>say^U[9>say^U]y>saz^U(hS(:az<=wXx%d4_,r)QlB&hiAiykB(:zKiytv*CkB(:ax.e)pS(:>s$X)[.eaw>s)pS(:k=Er)
 )[cEl|pe!Bm9<)=q_qsoU>`PbhaCn+%mb-aWi9cCyLj@Sd&[In+w>NbDn+w>$iwXr'cDnol)$DhCqDa;so)AcC[r(1#+r+i~p%
 &t[r*4[r=n![lLw9m9_oc$9gSdWtu&t,Mk)ww/d[%cD)a]jcFz9$i/d.cl[cll)$o_hi),,*lG.+!>%m/Qb>GuL%e?[w3zg&g%D
 u4cC/dlB,v%m>M$ocE^b(1[rdYmmbQ##cFzg>M$ok>qg_,rk`eWaL~VcC?XS&3/[tv*C]plB$>,-_dYmmReF$<#!(1[r=L![,-
 .=_@*k%-dAlB=E)'%VsG.Bz$l[sG.`/U=].0?r@1=El[sG.Bz$l[sG.`/Ujx*~]+%mr2/bcG(;cC~$r2/bcG(;<=zg/;%:!wl]
 $F#+*=l]#[p$lB*>sL<r/Wi9l]!wl@!@<z!vwUl(]Is]^|!vhBiHqlzel)HaVAGql.0=*l@!v#!*,&:.|]I&:/^]I$n&ocE/^]I
 >MaOg=ry]I,M.=.`>@$n**$)]@S)G>@*)#3w9=]SbOfQg*%U=]~B]HcG![l^octicE(1m9_%V>@!@t%g9r`~=cH=o~Br`);]HcI
 =o@T_jMy;]!v#Tb#)z>B^*%U(^_[9lB]@)p(^_]ycC>;@T_?8k9(:cC=]=P%U[0(^_[9)p[Y]+)p(^_]ycC[9^*%U]@)p]ycF(^
 _^b[4=p^c$W_%U$iS&3xql)mES#z%i.=_#B)>u6]Kl@!v[W_hBiHql<i#a#!*,q&%mq&_#qcD?U!#l)*,*)ivi5Ek)&3#L>@o?
 eBo#t]aDS#z%i_>@o?eB$tS&3#L>@=*l(mES#z%ilGBn&]!=pb_eN=Ek)o[lR~-`!wX/Ujx*~=Fl[ns.BlCsGl@~-m9!~`dC*7_
 ^cx%!#l(@RlG~-!kb|$Z?s[3/blIB7dl=FlHnsay)KlMsGlG'|&t=*<#(;lP[5@4>MTa%_wJ,Ml@~-!kx<>;^c%U,I^c!k=]ht
 @1>;^c!kx</@l@=p^c!k=]ht?r~-PdzeBuIiC`d=]!v*)$Q%U?s[3/blG[@^c#+Uur!'!wl]p$l]i9l@#:z&)Qt'Ww3p$)QcCv6
 !&_uIb7m2LoU@RcC>;!vuIkD97dt<m_sd_a^n!Tika;iC$(aKi9-w0eB=]n=g%eQb$.O)Q-w0eB(;l[i9-w0eB=Ql[wWw0eB@1
 !v/@>,l[=Ql[@1=p^c>@w9[ocI@u,I^c>@w9[ocI@u'|w9r2(;cC[5'|w9r2>`[5!veqVeB=pl|]@cG=Ql*,I*uy:l.=Ql*=]l|
 (;l*=QlD=]l|/bl*[1bRBBh#!kno)!(`cl)!(`wXsy#+sywXnocE/R,I$Q<|ti%m[GcCjx.Otpa^q|!du-q(g#qH)'yvEiEl|u6
 l).0mFh.d4%m#&jM*)Xk=qfX)E,_!zDcD&ol((3!vhBiHql>M!vOCiHqlu6l)&:cl^])re]@0l]wW,$l][Wl@NaRTckaWv5jecC
 /;!v**!wlB#&v6,#!verPcCrniRlL$Qv6(*l(rniRay<=,%_/#cCjtaSrAcc),f)jx#'hMi_v5^dtSVe8yLhMr7hTixhHdJAr>E
 dJa:a4EAk&fAs$p7s$$QpWz<b=.b*>bD,3TbUaW#&pW_a=TdJepa+h=Ha(n~c,s$KikOiCd>byqla(b*b|iCVcieas$hQEa+ql
 wX=$)>/Xr<~N/U=]~B/+.OiC`eaSf5v5xzjetBDNdJbUi[d=Ar@*8$q_VfSNi3nXOcrp(bObdi3nUIb[crp(Sn$Gqoi|e%Ip%>B
 %mw,f9$1cCsraL<%bZh`a?!~![DuyAb3!~/Q>+cCf^LSaCRaNBeTbIjz<%!8Ii2^fAZUkZchj1j=e_!8wBd7k;eWj)j-j[Ek1c,
 pDZaPLpabio)>Tf+nks`ggh@LJUaHpc/`g;o=bDj)hOOJf+iiysbzcsk-VbRnpUbuk2iij)f~j)OTj)qFb0y,Sf+mWs`yijRUz1
 wDb:k9bLe(c)oxs:$njY);$us7&T)=jY<E&Tl^aZrGbif'rvb0iMa;k-RbAcodCbjdMwVms/`CAjniWmWcr]UAZUkZchj1j=e_
 !8wBd7k;eWj)j-j[Ek1c,pDZaPLpabio)>Tf+nks`ggh@LJUaHpc/`g;o=bDj)hOOJf+iiysbzcsk-VbRnpUbuk2iij)f~j)OT
 j)qFb0y,Sf+mWs`yijRUz1wDb:k9bLe(c)oxs:$njY);$us7&T)=jY<E&Tl^aZrGbif'rvb0iMa;k-RbAcodCbjdMwVms/`CAjn
 iWmWcr~OL[#dS'dL[$(YP]iR>o]UA]iT]e^XH`nK'sZ's%HM^;dNu@]UV%m#+o?^>Wz^av?BV>k^>wjH<]ufbcwYxE&&xr^r$u
 (spBx8#q~P(3EzK(I[iJ^T*%V~OS)Acui($uZlBCx)^fa,FA'acraE'afsb)'aexaE'aaNE'aSOU'ac*b9'aHdF'aiYiY'aa|jn
 'agiA'aLa@bv'aM'lN'lKS'lO'aP'lbS'aSfU'aTa@'aUA'aF'lbp'lhU'aOOU'ae*bwCb8P_l0'b=H_dy'c=iMfMaN'je*bwC
 b8P_giA'be*bwCb8Pc^I'b=igWc^I'b=Hc~OU'cSa.P'l&ktzI'b=H'q=H_eU'cAbpb.MfMbpaN'be*bwCb8P_fBI'b=H'q=Hkb
 'cL*ba7'b=H_HaN'-kbT'-c@d/a|'-_aIA'-_i$b)'c(lfL'q(loBNa4'c(loBho'c(loBWa@<^<AKlXb.knkQbjroi^UbSSkT
 a@knkMf`roi$gNSfU^>=igWtzI'b=igWc@d/a|<]cD=hNI,ZShIbhj#a>hCt+Nbg^>a`orfMbpaN<]kEF9as(loB/pcFv#cd[e
 cFfWIq|l^j@iz!>R]Sos?]k'bFPa-*8!>RcC!6d=[imdBmdftk1qon,VoYj6ufhqoYKmdg$k6mdNmpqoh`k+f[uce_iwufisst
 hDisgoisfzhqQmp$hmVk0mdJbck0IgEmUk|mdJf@k3lVo)HoJsJHmpa-nK2doYNkF2DauAn*D3c_b:fgAa3,5sYcyd-Ya%fHcy
 f/cya3fHdWBeTa&a(aPc)cyJcEcyJcEYlUcynbYa(e]Ya(nbc!j0cyfqcygu=3cybpfHcyfHdWBeTa&a(aPzj=3cyHfHzkcypl
 =3cyh2=3s3cyc.kCa7Gful*=3Ya,t<cE$[_cyGNk;uBYmfs_YmoYa=ircyGfH=3AjRl*cyiEYa>iEcyr(YmwcyrWYa&fHYa?jiY
 a[t?Ya]t?iPaObwb*y$cyZj:s2Yq/6e+]-#y&V)&bZ(zl*D7e+.7_pen?EiZbEa;>iLqbMqbbSAt4uTqbBqbb|m$qbb[uSqb&~
 c~m[qbaJuQOm,qbi0uPqbbKqbbNm)GWm)GsMGGzbGGsIaEc|yxb3s,yrSlTi@nRrzb3q/AdraBm$Cj(aBf;aBlTednJCnJCq/B
 c|c/uYUkXteZc*uYnvc/nTZq/Bdreem$Co'eef;eelTeenveenJejkFCc|QsYQs_Qs3QzkQznQs2QYq/CdrKsYKs_Ks3KzkKznK
 YnOs6aFc|XsYXs_Xs3XzkXznXs2Xs6aFdrGYm)s_Gs3GzkGznGYnMYq/nr=hC,S&4Be_s~Go)naj9k+nWdM*A(waSt@b-k3mAr!
 Co)yib0vcaZrGEbWTe_dMoJnkjBpVwb_chk;mxs:/(dM&6jY<Eo1n5l@>+t(i~ca/|n[!@.`iAi~car1=+[X!@l@/X(?w]Phu/|
 n@!@l@&ryL,%.<yL,%=+/U(?yvE)G(?Og1r,=+/XEaHi-fKc>bFhziC/FOiCn+!~,*l@HjUe*i'p%&rOdVOiC=pd,h$cC(;l(&r
 [W_%M&t,m*J/&w]bSdRf.h^Mc=xVcC#g%m.-cCyC>n,XwXpBbIq8bPbZ=+/XyC^<u4)G[rzgq1gC/Zi9>e,2)Ql@%;p$l[[XS*L
 Ul(/XwX&t=MiC/U<ax<,n>:cC,nx<(8Sav>q*El(v2nm#'/Q,(l(<e(Xx8xIk*h%>h,6v&@$cC(?v(vlcC(3yeqgcCewGaS?,wf
 cE/R(3ewGn?/;(J),je-aP_m9cC$(!GSiT#RfM/p?[r.e<Sk*fQgB<e#)ebIcag`.c_*J/Qvl.c_g~-,*-9_[Tk!dB?,clr+.c
 ksShBr,)%/&pBphpjzgphbn,XpBphpizgv&&tSr'eBvlcC!@,-cC(1ewGn?gPIEVd&vlcC/Fj##'qTTj#eGVa?cnuwh(Ii(j@iz
 !>Rkzrm_bIb+)m#+vnBmp*4i5hzd=yn*%n'gPIEVd&^C,(l(^7]g/Z^7%m=kx7lL/;wX=MiE/R%;os<q/R,m#gkG8lyJK_h5wy
 ramwCLbafq$c_=J(SqEqnu_y%kMNbaaW=IniNuLt2l6$n=IgzaW~(kSNa*vRh_DkSNq%=I!+=Iott0PkG9BatejKnRsspWkFEA
 rWb/rQkEIcrbxmcy|_=In7kQAW_=I$kvYwjTh;t.NKkEq)Db`kLa(nIbBsgtjrWe6kShIf-=IBa.d2kSbcK^VNeZ~(kNEr(i#n<
 h8kGsIhvkDbUi(=Ib*mwMbFTmof(i]=J(STbbn[CbzrRkWEi`=IC?KSnv$kvYo@kJh(kE?KSx'k9f^gDn;kE?Kecji$kvYWa,K
 kWa,K_=ICf9kE?Kf&e]w9=IC?Kp'cFGdFkNh/aK=Iq6kDb!nJ?KiLNeBbwuKt+a)k:fWk2b#kGdH=J(SC?KEmwo#kE?KfBSnIxz
 Ga-b4kE?Kn8kZbfe^ivji$kvYWa8mx$TkE?KfoGkL?KnF^VJ?Kb|h,^VJ?KDxT^VjdTLnN]vC]vFlwKd/Xbjh5wyxz#,v)ytcE
 $ccEo?kTsPg.kNmcbwGiEv~<Cv,u_Cq(kKCe-y%cEx%u_bsbanQOWn[WRmfSbNqn#+x%u_a9v!eIg^jykTn*niNuLt2l6CLbafq
 hSVdFkCa1oXxekGNm4Urdv<kSCfAmoa5k9g~Lj0nFw@BbbkWqhkEHfTkROb'tUaC)XtWMnJbFPSnRhTs&b/$CkRIVn[jJguhxS
 aOFzVdRkFRs;wwrUlU&rCLbafqw9Si;De-scotiEi%qzd3kSb[s&d6b4p&b4n<wotTLdWe]aJqyotkDxVt0hWycjiaHPhCkCXnR
 qZEtYsjssbXj0pWkTRnvpszUhWaGArWcvd>hpe=hizOh`nLs#Cg!kSb-l-y|tSRnJbvWkHuK<BjNwjTh;t.NKkSg,nLuBCq)aJ
 f/hTa0jukLa(e-gRqni3nRcvn`Lbae-jztSaOe]d1sgtjrWb1aDp7.lt,jizekSKoXnhkGYnRbJmouIzUNnRhIo9Tq4kIq6kEA
 s^b4d.kDa.BqqienRbcKkLmoNn`i#n<&<kPLe]d.kQLq)e`kDRy1b*mwg0Ir=t2Lfqmks^MbFTmoyJe-x(nIOAsji9qHkEbBqy
 f(b3t5Gn[bdbZCTkDbzODkWa,K_eIg^jykEbzrRkWeWt2e-o@kSx'kVl3YtQmcbLf/dQGn[i#p^h|kRssn;kDODj0ecjidZiUkN
 h(w@Wa,KkEIsejInKf4fYUf2kVoPohf&e]p'kIdFkNOjukSbvs^$ir`ntbfe]q6kDb!EkWikf/n0cEbwuKkTAb@!'LaMKt4jucE
 bwa)kWfWkHb#kGmwo#kHh6RuEfBSnIxzb9p^ortSa3sja&bRaZm1_jInJAciDikkIa-Sjin8kDbfe]ivjiaGn[Wa8AsheHcE$T
 kNIbyn`%:aPd7Ie(j0fof/i;hNkFipt0TtYrznFkTOh,kFxTzVTLnLLj$kHnZ?|m+igyF.4$9i_(Az9i_u4cFwXi_&;l|(Az9i_
 &;l|u4k2jqksRx_ueR$boc$XcHu4cHp$cHyYl<(Cw-)!q(bvIe^afc:r/e9]2k!bhi_#'/,fWcni;d&b4d.d]<%?|/*)&C#@<2_
 td)G@Q)I.`=n/XwX!&l([X<i/XwXu6?#l(/XqO%Kk$eY.<[-=+/X=^?#l(/X=^_[-l(/Z=^%jv./Xy;m9cC/Q&thSMaW[T.clB
 g~lGqO%K)uouZfC<s`@e8?|bwj>z@)&ih&QvwT&Qv~&P&BS#pe<l[![lBjCc)m9?[gha^radHpJcFzg$O%hl,pJ_=6cFzg$O%h
 lEpJ_w-l(*)qO%KcC?|rMwb_w3n3>h<%ouZfC<s[j$&?[?|/*)%MdDuya=cd%Ir1l(?|y4yF/#cDwjFbcb$r/e_ahdc&IA[!th
 .Uf;f;$nj(j($ne-e-$n#W*ZpookproqKnM&)Gq?m[m=f;teb5kXs,nTnRq[q@%ZTf;nj$nTs.UkFs.nKnSq/q>m.o:s*nPq<dL
 mIq'o<mMqJo'mQqUHnI&*o]Bh?qQw;f;p2pSpZ$nY%3$ns_s_$ns6s6q-x-j(rdro$nsEsEsMsIWq>kVj($nwIe_ai9ar=h^G$O
 %hz(%z-$Ol@^G$Ou&Eb.-$Ol@/y/*l)$Ol[&p_c$bRcC^G&t*J*Y[!th.Uf;f;$nj(j($ne-e-$n#W*ZpookproqKnM&)Gq?m[
 m=f;teb5kXs,nTnRq[q@%ZTf;nj$nTs.UkFs.nKnSq/q>m.o:s*nPq<dLmIq'o<mMqJo'mQqUHnI&*o]Bh?qQw;f;p2pSpZ$nY
 %3$ns_s_$ns6s6q-x-j(rdro$nsEsEsMsIWq>kVj($nwIEkVm?f;s^Vh>&;v&^GhTp'aL%h)%///*l)$Ol[&p_btr9aj5ara`bN
 b/a0,5d-hWg8fqe]sicELkIkMkJkLcEh2XkXfHaCt3kRkXkEkSkCkPkGkGfHlXEf;myOj(mcn*uBv[n[IkUkKj(jAb?kINkKHkP
 ^/Nhq13dc&B&4@_*0&0$l(g#I&e#I&H,Ayw,A[g[L&+#|(&#|@w/7#|/I#|&H&+(&@z@n$l?g[H@y`um#e-sYzln/e-zqY!QsE
 cue-qcY#YWn/,Ps_nEs3f|aZp[<@yw(g#I,A#I$l#I/D#|&0@w[8@n#|/D#|[v#E(&#E$l#E/D*V&+#2*0#2,A>9*0>9,A#2&e
 #2/7]>*V@z[hyp(gyp,A@vyp&e/Dyw&L=:<l$l<l/D*V/Iyw&H[vjSsYjSzljSf;jXzqjXs2jXf;midLmilV19c_?|a/,j_g<wN
 pJcE(^l*hxl*~Ti9l*#Dl*!wl*fhSy$$cl*y[l*!3l*o%aQl*v<l*gJl(a`bNb/a0,5mQteJf;oqnvaQhpqqbDhpbfkCb@tUhp
 ckhpoQhezLNkCckhpl-Og8hytUb@cD!X&4Pk-k5k3<@GfHLHkXYcD!X&4G<@GWkMjKqcAHkzJK)?cAkWf/XGkDXGkSWkJc/kJZG
 kJqVZWGkSZWGkJZshc/qVPWGkJZWkJc/j:hpfHiEhWb2kFkJZkJGkSZkSWZkSsjGkQDkQZkTNkSc/kSWGkJXWGkJZc/GkQf/h31
 nZ*Y[!c[j)ysj)r9Nj)oxo=o`o)Hq]j)q_rjrtreRh==Mtc&B*0(g,A(~&+(&$l[H`u#wthxothyATthx6thpTMthxFthi.Sth
 w$thvjth&dthwMbpthy@i1dL(%thwsthvj_j&btbQd=.4c~bkqobHo`22c:/!_`An*pWtSrdy|kWOODkNeYgDv<kSssi'aDtTcq
 t4CIEseg|nRbJm1tSNd,fKzPf(ca##tWBqybQqSvAd+gDb4cgs;swj~e-v~hSrzicOcmCe-d%I!baXi~Vl6rct2Lfqh_m0*)/!_
 ,(kMoSRfuiTkSejOgDbtr8=G_h#!vyve-$~lD$&lDfncclDvZlDi/cclD$eYlDv?YlBh`Thar%),*)(i$~_`~,'~Kn-cD&B*0(g
 ,A(~&+(&$l[H`u#wthxothyATthx6thpTMthxFthi.Sthw$thvjth&dthwMbpthy@i1dL(%thws_dKbtbQd=.4c>f?btk4UaUf|
 &Bw$_UcCbth_Nkrd.d]<%*)/!_`An*pWtSrdy|kWOODkNeYgDv<kSssi'aDtTcqt4CIEseg|nRbJm1tSNd,fKzPf(ca##tWBqy
 bZenjigIe-!VkSUIy%cEe4EbyvAPifjia?iT$=Ib-g8rckEbEYkEbFq|kJfRcE!zcELq)p$cE(`gPa;fXt1LfSqnb4cgs;swj~
 e-v~hSrzicOcmCe-d%I!bNfRjh(i$&_i/^qp9cE&@`~vZcC?|rMwb@^Ja/UdAcGaXBbUdAcGgLaClahSgFb)j2Jcke:Jcij2a@
 a6b4ljaRTaPdWliCb|dWlhOVaPdWcGe%aPdW<=HGk@RGk@VcCw1eBbxa%bcf9),*)//.S!QpipoprK&)ruyrs,nRq@At5kTs.nS
 q>m.o:s*nPq<dLo<o'o(o]w;f;p2pSpZsYs_s6q-x-j(rdrosEsMsIcx<=eQ_g|aWRaNsDAbIAr8AbUHUdKa/bJdKAa=j&bdfY
 j&bdTf|UqmEb5buUaJtLbndKbDSj&OOb<k~dzf|gja?r8gjObRf|fuqmftMdKa4a1k]bdIIk~c(bRf|f#Ueuk~bfh>bqbSopMj&
 bqijaMi-j&bqima?r8opMj&opMcoqmgsUc,bfh>gsOxyKaMb5k~bFckdKbtbEh>bXIgsUkBl+IMj&b1rgUkBn%kBeMh>eub5k?
 eVk?bFj&i8k`a/h>hir8a7IcatPa>eMOtPa?j&a~a=aSj&bLdDi-j&bLgsj&bLbtk=IbUk^UAh5aJk^UIIr8aAb3jRj&fFmba8
 bub9a=j&bJSOkAeLHf|f~coj&hBb5kAaMZf|dUrExIh>a`bUr8HqmhPDh>a-bFj&a-qmb)IgsOk'dzj&b)HHdKgLchj&gJb6qm
 gYUikk'bff|b.bRa~a=j&pPk'EfvqmgQi-j&cya(h>cya=j&c(mbiii-j&RbfdKiqIf|bUUd9j&RaPj&ibr4NcDWa?r7?|rMwb
 @^fCR_tdcHx$je)|cHobcHn-cHi/lnnFcHv?cHp9cHiTcH!FcH$^cHrT$!ob$!ff$!i/$!yg$!ny$!p9$!$~<Rx$(4je<Ry^<R
 ob<=HbIk?dKAj&dScDOVkACk?MkS,&CceaLcDIj&eQ_g|aWa8f1Ik9c$UsFb9bgc$s/EbiIk>bFPh$r1tP_a.PiDb=tN_Ak'dK
 bnt>MBk]Bk>a,k~d+kAFk`FtNc?t>b,k~Gk^Zk~HZk'HZk]HZcDb_ZtN_Lk'Lk?Lk~Lk[Mk`MtNc]k'Mk>Mk~Mk'M%jaLk>Ml)M
 l)KMl)MMc>ceaLk>Ml)Ml)KMl)M$;iGyvaLtPk~bIk'bIk]PdKRlUx<iGyvaLkASk`StNc`k'SkAVk`VtN_Vk'Vk~Vk'V_pPkAW
 k`WtN_Wk'Wk~Wk'W_pPk~c~HMk'l)a.k=Qk>Ct>C$;KGk>Ok?Bk]Yk^Ak^PcDbdk~Kk~M_&ak~jhLMt>g@cDLXk'B%fk'bck'bB
 kAHkAMkAPMkARkBRkBVcDWBcDV$;McDAl@?|rMwb@^aEc)x$je)|cHobcHn-cHi/lnnFcHv?cHp9cHiTcH!FcH$^cHrT$!ob$!
 ff$!i/$!yg$!ny$!p9$!$~<Rx$(4je<Ry^<Rob<Rn-<Ri/<Ryg<Rv?<Rp9cH$&cH$&-hx<=Gl8DCc_HaVlW#FrSCh_yGo%n,h:
 aRyGv<cEnda;cijfdHrSa'a4b@w@Yq$FUb$a0byj0cubhw@emFg,jirSd`j0fAv!r4rQ)X_iKw@i|a(w@qBnRTd.i~p^aXp]r%
 cE!9hQbZi[qnb/DeWj0eMHUb1a>g8a0p]w@jJK_h#rSe%a]nuuFAaCzPTeH##kDIyE(VkIh4nRPp>oUAh`ji#:tUb[CeIe-!9iK
 w@xe_!&iE!9hRhPe(!brSa%c&Md&y|k0p/oUn7tUFb!eInKcmuLt1i|mw!9bNWn[hTGicSkFd'aQoUhtrS&5rSFAgZj0x(I$=b~
 r[C$=e&Ij@!baGvmEtUvmnIh_K(VzOoUi_gQTkIuKoUr4rQkQj!oUclsCkPPqSr,cErSjGLt1j`U$=iYj+ciDikkYbScnoUb_yU
 k5aMqHt&bykg$CkFEj>bEMvArSgLbVoUb)oFkCBju!brSWd.eRisGeMg*jIe^bmYq#gynKbgqEIqnw1uLtUhat.rW$nhRhPe(!b
 a)TeTelhK$=a'fnEavcMutYI>io9o-f;o2w#w%oIw!mwAjNm#hWyXsuyWqzq,h?qtnGEkWj(dZkDo-mMBo2Bw#Bw%BInIw!Bmw
 a~jNu3mfByXBsuByWBqzu_a`kDqtBnGBnIn<Bs&Bs)mQBsyByZd9kDs-Bs|BYkDs8BzuBs9Po9Po-qJPo2Pw%hGkQw!PmwbIjN
 q'h'kQyXPsuPyWPqzPq,qQPqtPs&Ps)qUPsyPyZPs#Ps-Ps|PYkQs8PzuPs9BdZkDBo-BmMBBo2BBw#BBw%BBInIBw!BdTkDa~X
 kDu3BmfBByXBBsuBByWBBqzBu_Ba`kDBqtBBnGBBnIBn<BBs&BBs)BmQBBsyBByZBd9kDBs-BBs|BBYkDBYqWdZkOBIsWBo:BI
 qWBw%NBInPBw!NdTkOa~sWBm.a~qWa`siu_NBq>a`qWaAsiaAsWBs*aAqWd9sWd9kOBYsiBYsWBYkOBYqWBzuNBs9Hg2kJb.sV
 pUHb.qVMw%HMoIHMw!HgMkJb)sVpLHgKkJg5sVg5kJg5qVb/shb/sVMq<Mx*b<shb<sVp2Hb<qVg6sVg6kJMYsVMYkJMYqVMzuH
 Ms9g2kNo-pUMo2Mw%MoIMw!Mmwb)jNw;mfg5TkNyXg5kNyWMqzMq,pZMqtMnGpSMs&Ms)p2MsyMyZg6kNs-Ms|MYkNs8Fo9Fo-
 aZtSPkHmwFAXkHm(mfFq,a0kHqtFs&Fs)FUkHsyFyZFs#Fs-Fs|FYkHs8Vo9Vo-crkVo2Vw#Vw%VoIVw!VmwcpXkVm?mfVqzVq,
 cskVqtVnGVn<Vs&Vs)VUkVsyVyZVs#Vs-Vs|ctkVs8VzuVs9Do9Do-njDo2Dw%aHnKw!DmwaEjNm_e!kFyXDsuv)Dq,Dq/qtDnG
 DnKn<Ds&Ds)nqDsyDyZDs#To9To-Tf;i4t5nGb:nSw!Tmwb9XkTm>mfcaqzTyXcaq@yWTqzTq,Tq@qtiVkTnSn<Ts&Ts)Ts.syT
 yZTs#aFo9aFo-DnjaFo2aFw%aFoIaFw!e$jie$jNaFuQmfaFyXaFsuaFyWDv)aFq,aFq/DqtaFnGaFnKDn<aFs&aFs)DnqaFsy
 aFyZaFs#NaHsiaHsWDo:aHqWDw%NaHnPaEsiaEsWDm.e!kOv)NaJsWDq>aJqWaGsWDnPaGqWDUsiDUsWDs*DUqWDyZNDs#HNIsh
 NIsVNIkJNIqVNw#HNw%HNoIHNw!Hb=shb=sVp4Hb=qVNyXHNUq<hikJb[sVNx*b>sVb>kJb>qVNUsiIsiIsWo:IqWw%NInPw!b=
 sWm.AqWyXNUq>yWhitYsWq>qtb>sWnPEqWcotZXtZtZqWyZNs#Hg>kJbxsVp?Hg=kJLw%HLoIHLw!Hg%kJbvsVpyHg#kJLyXHb!
 q<b!x*bzsVLq<Lx*bwsVp&HbwqVb!shb!sVpEHb!qVLyZHLs#Hb#shb#sVb#kJb#qVLzuHLs9Lo9Lo-p?Lo2Lw#Lw%LoILw!g%
 tWjNpyg#tXqzLyXLsuLyWLqzLq,pCLqtLnGp&Ln<Ls&Ls)pELsyLyZLs#Ls-Ls|Lj0Ls8LzuLs9Go9Go-okGo2Gw#Gw%a4nMw!G
 mwa1jNv-mfa6qzGyXGsuGyWGqzGq,olGqtGn`GnGGnMn<Gs&Gs)oqGsyGyZGs#Ko9Ko-poKo2Kw%bqnOw!KmwbnjNpigikMyXK
 suKyWKqzKq,pqKqtKn`KnGKnOn<Ks&Ks)prKsyKyZgskIGo9GGo-GokGGw%Ga4nMGw!fxjifxXkIv-Gmffyqzfyq,fyh?fyqtGG
 qzGGq,GolGGqtGGn`GGnGGGnMGn<fyjifyXkIoqfyPkIGyZfyirb,w%b,oIMfvkNa1XkNoeb,mfb,yXb,sub,yWb,qzb,q,Mol
 b,qtb,nGMohb,n<b,s&b,s)Moqb,syb,yZb,s#HXIshXIsVXIkJXIqVXw#HXw%HXoIHXw!HXAshXAsVsRHXAqVXUOshXyXHXUq<
 XUx*XOshXOsVXq<Xx*XEsVXEkJXn<b?w%Na4vQw!hcsia1jN(fAqWa6qzb?yXNa6q>a5sia5sWolb?qthdsWGvQn<f'kJw%HoIH
 mwa7XtTtTqVUOshyXHUq<Ux*qza-sVq<x*nGo(Hn<WmwcuXkWm@mfWyXWsuWyWWq,sPWqtWnGsIWn<Zo9Zo-teZo2Zw%ZInTw!Z
 mwc*jNtaj4kXyXZUq[yWZqzZq,Zq[qtZnGZnTn<Zs&Zs)tfZsyZyZZs#Zs-Zs|ZYkXs8ZzuZs9Co9Co-CIkEo2Cw#Cw%CInJw!C
 mwCAXkEm$mfCyXCUq.yWCqzCq,Cq.qtCnGCnJn<Cs&Cs)Cj(epzQXzQkEs-Cs|CYkEs8CzuCs9c/o9c/o-Ztec/o2c/w#c/w%c/
 oIc/w!c/mwZc*jNc/uYmfc/q,c/q[Zqtc/nGc/nTZn<c/s)Ztfc/syc/yZc/s#c/s-c/s|c/j0c/s8c/zuc/s9NZIsiZIzio:ZI
 qWZIEziInPZw!Nc*sic*zim.j4kOZUOziUq>ZOziOqWc,zinPZUzis*ZUqWZcmzis#NZYsiZYziYkOZYqWZc%zis9So9yqyro2S
 w%b1nRw!SmwbXXkSm=mfSyXb5q?yWSOsjq,Sq?qtSnGSnRn<b5sjs)Ss,sySyZSs#b6sjs|Ss;s8SzuSs9i[sjyqSyrSo2i[nG
 i[nRSw!i?sjbXjNyxi?hWb3qzb3q,b3q?Sqti@XkSrzi@hWb3s&b3s)b3s,Ssyb3s-b3s|b3s;Ss8b3zub3s9j8jij8jNzwj8hW
 c.yXc.suc.yWc.qzc.q,Zo]c.qtj9jij9XkXo(j9hWc.s&c.s)Zo'c.syc.yZc.s#c.s-c.s|c.j0c.s8c.zuc.s9egjiegjNaC
 uPmfekqzekq,ekq.HyWejjiejXkEo]ejhWehjiehXkEo(ehhWekXkEo'ekhWaCyZekiraCs-aCs|aCj0aCs8aCzuaCs9inXkRxW
 RyXbTsuiojiioXkRroiohWbTn`bTnGRrdbTn<bTs&bTs)RrsbTsybTyZbTs#bTs-bTs|bTj0bTs8bTzubTs9NbPsibPsWRm.bP
 qWbSsWRq>ilkObQsibQsWRnPbQqWbUsibUsWRs*iqkORyZNRs#NbVsibVsWbVkObVqWRzuNRs9i!sja7Xt3uTmfi&q,i&Ot3yW
 i%Tt3q,i%t3qti#Tt3nGi#t3n<i&Tt3s)i&t3syb0yZSfFt3s-b0s|Sa:t3s8b0zub0s9RmwbPjNxWmfRyXRsuRyWRqzRq,roil
 t1Xt1t1PkRs&Rs)rsiqkRyZRs#Rs-Rs|bVkRs8RzuRs9Jo9Jo-blkLo2Jw#Jw%blnNw!JUqzJyXJUq=yWJqzJq,Jq=qtJs&Js)J
 UkLsyJyZJs#Js-Js|JYkLs8JzuJs9Qo9Qo-Qf;Qo2Qw#Qw%QoIQw!h1jiQyXQsuQyWQqzQq,Qh?QqtQs&Qs)Qj(QsyQyZQs#Qs-
 Qs|Qj0Qs8QzuQs9JJo9JJo-JblkLJo2JJw#JJw%JblnNJw!JJyXJJUq=JyWJJqzJJq,JJq=JqtJJs&JJs)JJUkLJsyJJyZJJs#J
 Js-JJs|JJYkLJYqWblsiblsWJo:blqWJw#NJw%NblnPJw!NJyXNJUq>bmsibmsWJq>bmqWJUsWJs*JUqWJyZNJs#NJYsiJYsWJY
 kOJYqWJzuNJs9hojihosWs3hoqWYw#honGhonPYw!b]yXb]sub]yWb]qzb]q,b]q>c$qWc(sic(sWs_b]syXo9Xo-Xf;Xo2Xw#X
 w%XoIXw!XyXXsuXqzXq,Xh?XqtXs-Xs|Xj0Xs8XzuXs9Yo9Yo-s3Yo2Yw#Yw%YoIYw!c(qzYyXYsuYyWYqzYq,s6YqtYs&Ys)s_
 YsyYyZYs#Ys-Ys|Yj0Ys8YzuYc%cM49c:h5wyQqzp?Ko9hoPkEs8i[kIGqtGn<pUHXo9Ls9BBs&Mqts6PUshXUq@mwGm[syCs-
 aFs#Bs#fyq>YqtTj(qtJJs&ZqzPYshpZYo9Vs#Sa:kVn<Zm,q>ZsyJJYkIqzJJoIsPnqi&irbxnJYkEyWCIqVXqti!TkXs#i%P
 kEo(c/w#NBoIbocM4m7bxb5,5mI/GD.Vm)dL/<Jm$uPm%Z.WyhM%1L%2zwtaxlowsRHHm(m@uT%3Gowm#e-e-nEf;#YUEkUfHqc
 yIMjPTf+g+Pq]jPCs0Bh[p6bkj&@qvlkH,EcCcpI>invEn*wqzbcvn*bJnIwqdUkNdUkMPnvgVEnMdUkHnvcqnSnviYnKwqDHwq
 LnvRnvaGnPaGnRnvi#nTnvj9nJnvbknPJnvznbovQa2nMnvMnvb>nPznf;oXo<HoXsMWoXqJBo<mMMmMKqJgVIkImMFf;crt5kT
 o<Do<DHo<p?bRkFo:njyro<tej-kEIkLo:Jf;s3pohef;okMo:o:s3m#hphchpowf@kWm@mcq'BowmIgOkMq'KPmcgVm)Bm(m?
 @UHm%H*GR%ZND%2yhtazwC%0NJ%3piKmchem)AkN%1xsqqOqnwuzhcxqnPqqBwud2kNd2kMPqqgVqqGBqqfmkVqqb|#Xq/wuDH
 wuLqqRqqaJq>aJq?qqi%q[Oq[wuCqqbmq>JqqYqqKqqheqqGqqMqqb[q>c$#Ysso'fEkWUkWssqUBo'mQMmQKqUgVUkImQFUkV
 s.s.o'Do'DHo'pErsDs*Ds,s,o'tfZo'CUkLs*Jj(s_prhej(oqMs*s*s_h?qnb?qnHq<qnsPWqnqQBo]a`kNa`kMqQgVOkIa`
 kIBqna0kVq@#XkFHq/Ho]pCRq/q>aJt4t3q[q[Hq.q=q>Jh?s6pqheh?olMq>q>s6e-n*hdhpo(Hn*sIWn*PnIo(a'kNBnOPnOP
 n*gVnMBnMBn*aXkVnSvRnKHnKHo(p&RnKnPaGt2t3nTnTHnJnNnPJe-YnOvQohhen*GnMn*MnPnPYvQcE#$aQn@]2cD]BSzrg*N
 aJg*Fm~m`OO<AaXv[bov[Tw@NoLBuBFlTb9m%uBaJhykMjvkThykFb^q=hy`WSzrg*NaJg*pMaJcM64ly,S](ZaPLcy'aDc,bz
 'a/QDZ'jo0'ankV'apVwb_ch'bd7AaKxv'b(e_jR'bjR)cmE'r/(Ya?'b/Qc('b/(A'b&h&6jY'cBLeJaLav'b/(&h#/'rYN'a
 /QTS'jShs_D'jShs_aO'bShs_aP'bpVCsoc~'bdYOCsoc~'b&tpVCsoc~<^<@xfOCso_h==hC,SVZMn`TeNgZp<S)/&Jl],`l@S
 La[bDfM<;=hC,S&4=4I!Rs4j)/sz1s=hsz=cF(mphpibIjRbAkz,SphbntPjRbA^>D'#DZ'#c.'#Ceh'aDZc,'ab-`wT'#TS'#T
 i@'arJ'aH'#b0'#&tO'b&kc~<]^TC,S/sk9hsl(=hC,S&4Efr/(nHd)M?%pij(prnvRnvb9!QNs3f;pyq'RoLbRnvLaMnvgQnv
 b9m.eukOJdxkNkSs(p2i$o|It3e3t2s)KznKaTtZAnPs*JUAe-c$Qt3j(c(h2Ym.yhKe3kQe3kObknPb-nQUEkWUnQEnLnvrspE
 Mo:It1s)bPnOn*hfcun*hem.oei%kQUAnLUkHbCkW%1p?qJbzh2pqMBn*Rn*gTkNm>f;popZgOm>n`Kq'iTkOTs(bXgOkHAAb)
 nOOVs(bta3bCcD=hpJ_btQNDqoTchWn%Sk`Jdxbx?]<?&iye#S[ecM7lw]-mVn^yIYfZqHcGsXl.YfZSoucGsXl.YfZQj*sX_Q
 j*YfZRj*sX_rs!Nwt&ryIBmoo,lDgXlD&7!N&7!Nwt&rwWb4aPl]o,lIgXlIg~lI!Ng~lI!No,lDo,lDgXlD&7!N&7nm,Ml,yt
 cF[GcE@d!&_uAcE(?jxuIcFnol,]6cF*Rl]&7Sr_$r#dx#g~l(~#EGYhV*8l0'bEGYhV*8dy'bHeK'aTZ'ar_bcbz'aCUAi;Lbz
 'aCUAi;by(svl<^~PFlj^>AA'aAO'aa@'aa['aa[%m[G'da]'a/QC<.'dK`fK]e'rK^law'fd7KeNL'b&8wt$o'Vw9$o_(r'Yp`
 'cOO'aP@`_(V_.9'eP%mfkUri'cP)AbObfbQb$r`'dQ@`_(V_.9'eQ]e)?'dRknTjuA'bipav'bV]e)?'dct'aj~bbh,fMZ'bT
 o@`fTo@@`_(V_.9'eVeJ'aaT'abg'aem<[^Ts$^6Dsqg`k6sqNsqip~Gl)[iTsqcj^>&S_D'Tc?'T_f<$]'s(3L'T_R'Tc`'TcA
 <]^TpB^wkEqgkSww>B~Oivi3bz'a(3H]U&8[VzydVT<@i,O*8v(](N`nC%mdS<^cH(xz%k3lC](B%mfkUri'cF`fj`a<ch_A'j
 j`a<chc~'jj`a<ch_U'jG%m,m$o'dK'tN'tR'tS'tH@~/Q,q(If<&8dVjj$n*%I~PQ^>(3Klkk4]d$uvhmL'axv'aU`f&~_A'b
 &~_I'b&~_U'bqfPbBf2c~'cd/g,Ag+W'bC%m(xz%k9z^l,Z%m(xl,D)Aww$o_(r'eSay<'cM7Dc:](&h&Sc@<^cM7D3au&tTo@
 cM7D5:4WYb@^>&;bYOTiB'ci)b/a+c`<]cM7F2ar]-*%Ck2cFQ~O/QwjH<^k@bLwb=.S*LI^T*%H]h$n/]Oe8wV_~i_(3Mk@bL
 wb=./QFcGhX/&g9bjp'dM*vMk)Ybzi6g:bR,5dMf;ynDj~j/dL&4$Hh?yna7iwrF&4btk5o^Gh@Go]yn<8&4COt:h@bmk4o^Tr9
 Ty]DnpaFo^r9y]npDo^p|bNk8o^a`kZHq]h@Rh@pDiok9h@o]?x!r$IqqbNaTbVz(<Uyn<5a7iwb9lo3c_#L#oF@r(<%.cF[liF
 qki/$x)3fI$)i/$xiE(<z(kQgxEfAe(l*x:l*bOl+ccavlo4c_hDGbWbI,5/<oe]~uS@U%1/GmIM]$tasEzwZ.U]%b0>[.S!QqX
 Xm(m)oeaM?C,5sFcy<@b+!puQm.p4<5sYsAEwYyh$O_owa>qIrKFA?C,5bPkBswaZXaLl[&4=cUkB#po#)&=opJ_r#cE![avlo
 l&bXcmdBi:%d]z>I`tEkG=wqq`:~Cg?^okbAbU`s?c&.lYq^^JcE=cUloCe~D]Z`Mlonr=he)d*fubj`S&4dMj)pjp5q`q_Vf;
 yn!lHdJe)Ag:d~%dr/w=?R=cU_,N![l]=cU_yQ(T!lHm<j!bLbnk]a<)vzGaT%t$o)S(LcDJAfZbC<@a]]ojZbncyH_Lbj`S&4
 @-xmrvyitb#NAk3rG@+pMm:mJq_sZpzsFy=oxs[mRdMO!Rqq$Psm!Tnwq@qkPg]o`d+s0Pg]o'ynCsNSa:dJbQJd/,5'OMm$%0
 xsru,)sYsEowMmIhem.DuSJm#^p$HlYx=cFEj)EA^okjk7cFisfG$NcM95e+(J)%&Bejyf_(W&+(W(&(W$l(W&e#|[Lyw[L[8yw
 [8&+#|(&#|@z#|]>#|@w&e#|/>#E*0#E,A#E$l>9/7#2/>#2?9@v#i(~#i?9vj-?9/7(%-&Hws-$lyw$UwscM9l&Ja[a/n^ynh~
 sXa1tRd;tWYmoWbbNjO<@m*_bnsMf;&MbIc>eRguhckdbwjkRa>cunj=wpjbXbXgvg6m_ofg6m_xlmRg6D%0NjPg6m_gc>ZxsT
 rG>Zvt>Zg+g6m_rGg6m_m:>Zp4q`g6m_mJg6m_*|Rm]GjvtWkWm=a^g6m:*:.T)SCEd;kub![,iNjvk-Op'k:cij*gRIKueKj*M
 eJcoufp/k1o3khrePaRaT^oc[eRjjbJhfl7d;bPtPhfqmwXReRhemb/Sh]AtgmfMa(sYb!Hs#jInqbIhfmwp/ruLjvb1kCaGGkY
 aGGkQf1bwfG$]awcM9Ce+h~f(hfaRcD`McM9De~h]a^i5iQjcEb-iEf1N-bgn)MjOgL,5b0d=v|vcJoxb@m^a7)SSf@koWcD]-
 b0d=h|U/J<@rBbvoUNs0FAullfoyJdNJoyDm|aFoyb@dKrBbvoU`T&4rBbvoULp!m|Doya~lba7cMA0lyf?^.=w^HNa6vQuPuPH
 m,*yNHUnPHm.HJ~vNUnPuQm<m<^Lb<e-pLBB]%V?Sa7]o=bnzj)O!SlYAs>e9]*@<cucMA40..!Xgvf<b?^ol[&4!XCfIjjhqhX
 j1isLk9iD]*!Xg-HcMA5c:`McMA5d|@qSqIgDezm_=m=2MjOgL,5Kf?i6of.3paJox'mvyp5,>HoxFdK]-Kf?i6h|U/J<@Kf?i6
 XAuguccDg@xuc[f?i6Om!QNk3M<AAbhh#>EcFx!yO&4Abhh#bP)SbIO)yTxzrBbvoUr5ablkqj5<@b0cvc'd!jv_egundJrBcr
 eZ&4pBK(uc[(vbp[Q_bpH[Qc@(uc@(vb?[Qc>(uc>(vaC[Qc`(uc`(vb][Q_npwtD(vr9#d(vb_[Qc^(uc^(vB(uc=(vP(uc'(v
 bK[Qc?(uc?(vM(uc](vs7wtY(vR(u_R(vpDwtL(vV(u_V(vo^wtH(v(u_h?pGKuB$PA!qsm$Hh?pGbpo9$PoCUEdMUm]smm!md
 l-yIpGEKlhUeKlka-ljhycMa(Bat$qc[qoNUv]Sl_fDa-o;ObjbtIcCgQTaNkec!K,5!Svc'mNp5yiyx?xoNUUlaAgaa@lamyeh
 IKf@kCou_bpjng8a/Jo|zrg*rab:/|kWh%l]?x)gcE$NlplxEiZbEa;>iTb_s.iZkTiX!pEnSiYkTi0lpaiataFo'aFo<aFwgaF
 wqaFo(aFa-lp1ddDtfDteDc*m%c,nKZnKZOlp2c|eeoweeo'eeo<eewgeewqeeo(eea-lp2drBu3mQBmMBBlTBdUkDBnIa`lp3
 c_^6%5%Ha^,*aemZkZps&4e_%5e_&&fkUrit+Nf5fr(IG]d$u&8/&bvZYc`cH&t&;(Z&;rgk6]d$uNl^eKl^u6&4O);$ocFqslE
 /&qd(3OE@`cI=*l.bHqs-OcIsL<$i~bTjxR~P(G/0]UR<*otp(&tisR]d$u![lE(IR);rgkZAbZw3vG)c$i/0lba=lJUI<HUf+U
 ?,#fvizgpB#+rgcIwXSn>k|%mpB#+rgcHw9p$trcKl|pB#+rgcKzgSn>k;)Aww/0t~!<_u:%m[J<@$nHv]&8/&bvZYc`cH&;(YU
 ?,o?~>bXgo_Ymx/(e_x%qdUh@/&u@)F_~i_xv~>DZ,4%m];TSay^r&;(X]-$n(3jKwXr'cEx7avlp7lyf~bAaM]adM/iUt@ofpj
 Ge_Gf+Gh@a6t@oxo)o=o^HUt@pzp(p@pDb!t@pMb*k6o+q]s<Ak3p5b=Hk7nXf+p|NUt@bOdMQsmbOf+h1cFbOUt@rviFr!ysO
 uet@D%4DnYe_aHk-wBk1Ut@DLmALmALnYp@TpDTb!t@$@SnYb1k-SOk-b5t@sFsJsNsQWUt@YdJgQTaNkec!K,5KbAk9l_LlYg2
 k8dMp5eigEi3k5fCk7a5Uk-fCk:lYsXk3UgvstIk8f?kYb:sZGbAk4f?ucf+mJblgEaHgEGfCk1fCkZf?k5bA_g[SsqbvIl,g2
 l,bIl,b=l,i3l,Na5Ul,wx?xbDmgbdmga/mgYaQmgSh/mgckmgehbdmghnf/ehIKa8f;g`_Ic!gua<ckavlpFc|`HEcN7mD&BJ
 jvyf_b^zqb^b^f;jSdLjSAe-jSn/U-zqU-I-f;jXAe-jXh?aU-m&U-n/aU-e-aU-OkK-Ya$OkK-zlI-zqI-s2I-b^IkK-s6I-s_
 I-f;!gdL!gEcN7CBasJhyyf_#I(~#I.5yw,Ayw(W(&(W(&(W$l(W[h(W&e(W.5(W/7#|yw[L&0?9#|/>#|#E&H#|#2[8#2/I#|
 =:#|$Uws-&H*V(~#E(g#Eyw(gyw&+#E@n#E&e#2,A#2#|/I#2&+@z>9,A#2&e#2.5yp&+yp]>yw[hywyp,Ayp/Dyp&eyp.5yp/7
 yp&Hh~@vh~yp]><l&+<l&Hvj-(&vj-@z@y(%-$l(%-y@b_lqlwwV)=/]FfraZk2gEaYf+aYgEw9b7jjb4lq13ard`eLd=$n/]M
 eNhjuifJbdf+cqW_hjk6eNXEHlq1esa8d5W,5jT%ma9bRQcD#4JcgeOSh~Ii(Vd~KdK/]Ya+nh_jT_jT_bIiI<@%IyG!mjHaWl0
 t|LnAo)gecFwTcF!XgSudb0ufjA%IyG/Kt3I(jr$_e<ljbdl.eweUzyr$l<i,l*<4bIiIcGQAgMiGgKIQtQ(9ewEr(v;aw%wTl]
 H&&gKIQkVa[%mewEr(j5bdu)3drTaTl]jTl]!Xgel]gel]wTu)3e'gSu)4c|hnu(d(bpu)4dj!XbJl]bJu)46atjaaHl]Qb'l]
 rbl]r$l]iOl]Va[%mfAl-a'(9Ra)nOa)l]bJl[/]u=wTcC[[u=Wa>La^@8cG/ldU`ybJ`ya'`&jb`&b-`&jb`ycq`ybJ`&DjQ`v
 NjQ`vrJ`yrJ`&e$H~QaEH~QDUb$~yaF~QbkH_~yRia_~ybo`&Ga)`va6E`yNa5E`yp-c@fEg+@b/lRp-`v/wjQ)p*Sl</ma5d&
 @b/n>U#Al,aJAvbgQ_@b/n>U=`jQtih;_@b/nzg>K<pl=v0av<Anm%C%8<a%D%8?i%Du4cG/L=pu.cI%8=z%D%8&t@*l*^_$X<O
 Rw@$niI_%D%8Wa>bv$XlqD3..b?_@8cF/m>T=`U_~yOaW~yc(_~y)c>K[zcql^/lK#sc~aW@b/mc(_@b/lE`vUfRcm_bnc*bpc[
 #s_?Q_&Rl=='/]~m%mu=~zAaW~zjD_~zU_~zOaW~zc(_~zaW^yl>>SUfRcmc[#s_~m%m?Q<pav|Bv0av|B&R>*Fml_jQ_@b/n>U
 ='/]~m?**Sl=f=lA,c?QlA)ja'H'+~IiS'+~IT/wpb'3=@]=f=~E=[pbl~]=rw';iu%m]=ev';/4]=c*HlIdy~Ev:~Efd'+~I/O
 f='3/.l0l~pb^Ygz'3gz'+~IpO'+~Ip-'+~I/wpb'3jQ'+~ITf>)A]Gl]ialN?QlNr#D%YvqiLl~*Xl~vWl~vql~wGl~S]Gl]~m
 %mia>cs+lA,cp-lA?QlA)j.Z'~~I/5'~~IT/w'~~I/j~I/O~I/.l0l~gz'3/?,b~I=Bl0?N=C'~~I?Q)A]Gl]<k'~]YjQl~>K?*
 &Rl=f=lApklA,c&Fa'H'+&FiS'+&FT/w,a=@]=f=~Epk~Erw';iu%m]<,aev';/4&`c*&K,ady~Ev:~Efd';/O]=ge',gz?Ngz
 '+&FpO';p-'+&F/wpb?OS]Gl]jQ'+f]l~>K%mxa#Al=&F.Z]^/5]^T/w]^=R]^yj%m]^/.gz?NgzlIp-lK&F<k]^r#D%YvWl~vq
 l~wGl]/4?Q_@b)jdy'*v:'*rw'2'*/q~I=@~I=[~Iiu'*ev'2'+iau(eDlIiulIevlI/4~^)jdy'*v:'*rw'2'*/q~I=@~I=[~I
 iu'*ev'2'+iau(eDlIiulIevlIyj?*>U]<,a=R&FyjlI/4,arw?*#Al.*F&`yj>ml~*F&`/4,ac*HlI<4vWiL$8l/*Sl(h(mswX
 [d/R%T/]bPHfUHU_l2AfHh5bjl2AHU_a/fJa/a7mBNHUg-a/HUb)mBNfENm=l2g?AHU_z;kx-Ad$fHz;_a>aed!l-z;Ml*z;b)A
 l*z;_a>aed!AcakxSaed!l-Qcge/a^b1inHkSl2g?HU_z;kxAd$HaMkxael2g8lZa7a^a>aed!l-b9a~d@glWa$b9Ad!At0HfUH
 cj_l2AfH/5=@xa*OoacG/qpb>c>V,bpklKpO]ff=l`K&`=@@;~,/q=B<jl<?Ql]=Rf=?*>U=@f=l`~^@;lA>Vpbl`pO~,iu%m/q
 f=>c>U=Bxa/lyj%mf=aycJ>U=@<jl.=BpklA>VpO~,ev%m/q~^=[,c>S/4@;>c>VpOl`[udy?*zg,bpOaycJ>V^Al*v:%m=BpO
 l`)k?Ql]/j=[,c>S/O@;$8l<,a/?f=aycI)k]Ypb?*&Rl=/n=[,c>U@;~,@;]fpOl`<jl.=@f=_>V,bpk]fpOawcOD92:4=@K&`
 /wpO]f,a=Cf=aycI~^=@,c>V~^=B)k?Ql]<k=B,c>S.Z=[[u/5pbaycI]Y=[)k]Y=B)k?Ql]=@=BjQl~/q]YpOlN=RpklNiu%m
 /q)jyjlQevlQ/?pblKpOlI<kf=lKpblKpOlIpOlQhYlQ=Cf=lI/O@;_>S/?/q,ady%m=B[ugelQ=C=@f=_>S=B=[[u/?=@xa>S
 /.=Bxa/l/?pblI=C=@&`=@/q)j/qpblIpOlQ/jpOlI.Zf=lI/.=Bxa>Sdy>mlIiu%mpOlI=R=[[u=CpbaycODCfaSd!d)HU_lZ
 g_cODFc|Sl2_jzaKdEbth9a;z>%d@8cEQd!a#kCg?Hl]a*dSl]b/f?Ma(u(Agzl]Ra>Ocil]lZa8l]cuivgzu(l2u(l2g?fC_lZ
 a8kxivgzkLl2Jd!bzUfCk(fK),%T/]BbgMoPH_a=-bPHpIa=-bPHaMg8iAa7d*HUkxktAd!m#Zc*kx_Jd%cCy4[n^[kBn!i-cQ
 @Ak&ic*B>d<evlcG/!a;l//plcqgcGyeqgcG]6cG,(l.=^?#,2cG#+ze?#c=Ra*CEjk>M&uSlr2c_=h*5>ecE/S&t$.p$l,/S#~
 <q/SempeoU*-*5>e_%8/VyC<r/V#~<r/VempeoU#~u#,STbhbz>ecF/RqS*B>d<e(8kdAe(leM_m9ukl.pBp.cGjCYl~wX=MiG
 x7l.wX@WcGx7l~wX[-l./YwXu6?#l./YwX&tuAl./Yp$l~x7l~wX!&l.x7l~=^l~/XbZSd(_v&<iqS*B>d<e^7cG/Um9eBq(#)
 !zp.u!Actl(=nm9eBpB#)!zp.l@jCY.A_&i/!a;u$,Elr54asyeqg<?]B>El)aP_m9)P[d/SwX@W)Ql[wX[-l)x7lC#M)..JcD
 *w[*#g-(b/[).?8l)!Kavlr6dq]CcD!?).(!u#bC&|_a?lr7c_%TvWTd=@8cDb9cbeC%mvWiL,YvqTd=@8cDr`c?h6pRcD*X_@8
 lr7dmvWl]='vq[z='wG[z='r#aE[z='Ssn[z='&4wk[z<4w:$Xl`/n>K<pl</ljD%m>K<pl</l<4wk$1<pl</l~m<pl<v0l<>V
 =`u=~ya'`yiS_gLaAiQ@b/m`qT`&pb`vf=`vpk`vD~Qb_~Qia_~ys+_~yrw`vyj`viu`vev`viI`vc*`ydy`vv:`vfd`vhY`vge
 `vgz`vxa`qp-`v`&jD_~y?Q_@b/ljQ_'D='/]/?<4w:)p^yl<>K_~zu4_^yl/*Sl/v0av)+td_jHi1Nb^d5a*_r/ElslxFjqjH
 i1^Ch1TuL<2).!?l)(!l).JcD<_)P[d/S*w[*&i#g-(b/pkBOg.cn`Wvk)R#S/[).!Kl)?8l)]Bel&|_Ajh`0cD^7cD]C)Q]LcD
 ^wcDpB#*?6~?`?)P@WcD<e#*#+@WcDyC)P$Q[d/UosjHi1?|/p)P!&,2)Ql[?|&i//&;v)&4sQ$n!r$Ih[s0Yj*c$lkj&^GhTp'
 aL%h)&//&4!q$Hh@wIo;Uk5nWh@rvyss=Ek9h@y,f+cak-nYh@p5NIk7s<nXh@oxo=o`o)Hq]m'o+s/Ek6h@sZs:s7q_rjrtreR
 h@sFhp$O%hz(%z-$Ol[!|)vcE&4#wcFyw#wcF&0$mxocF#IvjcF#IwscFyAjjywyAjjx6.s#w.spTM.sxF.s$m#|y@rX#|(%.s
 wsk6IvKxFcFywxFcF#2$m$myw$mw$k0oGcFywvjcF&dk5o*pmy@rX(%cFwslsC2aum]e_sZYlVEh@ElsCAauc!Ok;!SsFWlVOE
 lsD2aus7j)cvh@sJsNc(lsaEauEj)s4IlsnrFjqjHi1mS).bNjul)hil)*-d7KeNdScDYaQ).WbDavlsEdposjHi1oab7#&,McD
 ]@cD(;l)[Z/bl)!vyve9$Q!#lsF9arw]#(_a/,j_d,fBt2(zkTaSg0mtcCb~bkCcdbQqLaPn&.4k(EqLaP&w0ut#(c=>iBcZ_m^
 c-_vS28_wA61_x>aj_UkZcS_DuZ45_DnUcY_DwA14_Dx>51_DUt-57_JuZ46_bkk,afDauBag6_Jx>65_JUt-77c[uZ44c[vS67
 c[wA70c[x>81_but-80ket-13c]vS73c]wA15kgt-aokhkZcXc^uZ24kikZc4c^wA52c^x>55kkt-agc'uZ72c'vS39kmt-akc'
 x>50c'Ut-16_QuZ78_QvS21_QwA32_Qh>cT8auB060_RuZ27_RvS53_rjBcTknt-26_rtBc5kot-aikpt-41c`wAalkqt-58ks
 t-59ktt-ahkukZc9cAwA05kvt-69kwt-54kxt-75_WvS40_WwA42_Wh>cUCauBc2_ZuZ74_Ze9cUFauB020_Zx>25_A2t-43_A3
 t-85_a@t-71_DWvS90_DWx>48c^WuZ29c'U2t-62c'TvS76_bP2kZc7_bP3t-68kn2t-66kt2t-87_cbvS91_yOcWc|$qc=c3zB
 022t-apt-47t-49t-56t-63zB079t-82zB086t-89cDcZc|=/1af_gJzX2_WqhzX4_aGaSzX5_n=DzX5FkebQzX5Mkra,p<zX6F
 _EcvzX6M_h8zX7Ftz-a5a?zX7M_a8-a5a?zX8FkqWzX8M_a`a=zX9Fc>OWzX9Mj;bykZal0_Wa8mxBal1tibwYkZal2c~bxVnU
 c+_b2a;nUal5c>YhCs%g3(kal7c[d>kZal8c[d*pq=/130c~bckZ131_jInU13dgg3(k133_a=aRm^135_gUf;=/140c=ikZnU1
 41c@hvkZ142kZ145_cxbBkZ146kZ150kZ151_o@kZ152t<kNbD(k156kwbSdg=/157zB159tjrXB160zB162tnpRkZ163_d`Ocm
 kZ164^mkZam3_g3rXBam4kZam6_i|nUam7^mkZan9zB191_f^MnAB220_n;i'bBkZ225j|b_TcezY0_b2e`zY1_uIzY2zY3c`sO
 zY4zY6kZ240_zdeBmUIq!B241l,B242_mUIh.Fh8nU243_zdkZ245t?g3(k247_aHPTe-=/248zB251%pB254_Da=TkZ255,;k_
 Ei@Lc=155lb2af'J%olb221t[B226%olb250lb305k,uuAEa2d=sO>h_p.cFv(vd)&c0dn(i`A`Jj0>2`Ll*@k`Ll*iTl*$~l*
 $&l*fnTzjvZ%^cc.@cc.?Y*jccl)013dnW!Da~izsrtSRi`iAsrcE$cl*y[l*!3l)DRc)w+RaWfhb4l)p=a+lCw+RaW$cl*y[l(
 wd_a&ilHbDfMAb+fM>3%.ldq3pM!Z&>v2&J>$cF/kv2Ta,eMSz0l,/k>2*kl^@k*kl~i^iUSz0l,/k>2*kl^@kl,iTl^vZl^iT
 c]g;kJeQe2z.hKrVhp$%d=xzf~b.hza/l*EbLaEjyd=yP$%a/l*CYibAfMscDq3Ma>kGbLaEjy!ai+Ej6oB!ZTn.<5!1f~b.hz
 d=Tn*b*i@NfLl*$%a/l,,~i+Ej6oBvZcG<5!1f~b.hzd=&=$%a/l,[b/8EbLaEjyd=n-l*i+EZeL!a$%!aCdAi~!ab=XI!a$%d=
 @kcFn-l*e&bKfMv2Mg;kSTq9d=vZl)qkwjr*cG<5oacD<bS).[lx+Ye`l)Ta,&wDq3b)l)Od1l)scOd1x+y^l[obl[n-l[b*i|
 b-x+KYdGh*Ba>v/g>bPl)h/Ka|l)XeWEx+a=Ta%v/AbSUbPl)omb)l)TbVBp<j|Sv/tdl)>3u%bdcnOa+l)w*r1l(NbCo5l)019
 c_Rqhc`vNx+jta|u%aPjta|u%e5Ubvl)DfVe*u&Ip=Al)DaQd~Ux+bObdd~Ux+bZr=b:Ux+DUhPaHUx+Ax+mScmfKl(AbYa|<&0
 1lSwd,|Ta@_idk,1m7hDf4h*e/Cz=))RfLk8g`eBo#ufTb|O!`ebr3t:fTk:qhk3aOMnAa1ckTbwska|q_uIkZOjLi$aODk0b!
 d_gJa&bwiFgMb|CgvbXjLg.cFd2gUuCecPv`_xGk1ObxsqelBk9p/k0Og`hqdUa9s~r%k3h(k3fNkZjqStrk0mxRl_EAGp(aJV
 nYckb]t_e_xGcAh;k_fXk8a<YbUiFbSiyTe_Lbcj1bGzzk2Lj$cFf(Tn]r>fXis$nAXe_jCc)dRe^=h,m$ok,2l&Lcz>Om&kDkD
 fHf/e]f;jKj:rWJt?h2Lt<kNg8b@kUkQkMKkRt<kTjimcn*fHXk,2lSec>Om<dge]LkUs(irLDkCdgh2d-g8q/2kTt3t3l$kE-
 ankUkOhpsWkTTdghWb3kKkGkUUs(KkM2kOe]s(GkIl$sjT2kOf/oLC-39kTTkUUUdgbTkNBkNB2t<cELD2kG2kUUU3k,2Elyx)_
 aRa&cd,`Sz(cE!=`~(iT`Kj1[b~k`jl)c4c_qf&U&4m^nWe_nae_s~c,k3nYo)&X*AvG(wi#k5j)aSt@T!TEKiFhEk5o)EfraSS
 t:e_oMUj)Eb3tZgUd&x!!ZTn,vZcDc6Dat&4Ye_xqeScAr!Sq$eSl(Gh,=.AHruBdzKmca4mIewSkCIa_s%Qdzb_Rm*UJAtTGgD
 iZUrWEbgkMcnpLbvGs%gJxja@b_SkLn[cms%Pdzb_q-xpYt0a+m=a@bckTaNWiEjIJm(AIo'fQWSkJWdzkPTf>kOoT&Jk,35c_
 qfhCM=.mdd9cFa1wBf+Ek+a-Ik1Za-IugrGDZbh!qbtbot+o+Eb[nXaQqdcsOf+bJnzRnzSoMTlYUt:aSj1i%Of+b0ejOIk;bV
 z1j)q^h@EFk3mAb1j)j@z1z1wDjjoJs:sZIdJ=hqfhCM=.meaJgac*rHb>b[e:b1f|c-c_Ufubh=.a,q'mLkIa.pywKvvkJh?sP
 c,rFa-Tm>n`jTtVF.ogzm_xbDf>zTkXs,a.Km#oXqUiue-hZAt0yhrPp4v:kTh?f;s,Sj&ag9e+sO_!>RcCqfqEoByn!qj)wIj)
 ofa6k|dMmRpaJf+y,j)m:aHk1j)y=q`mJn2p5Ns/m'o+j)sZs[s`q_rtpzrvtb=SHdKagC8aua@h8AZeukYUh8AZeulua@h8AZ
 euoxXi!a]dGf:t|HcyAj!t|HcyAj!lua~ofaAUg1fHsO_!>R<D=JT?2&Jk,4lwaGixeZ](w9gae:mBfJh[qr$igae:mBfJh[qr
 m!OWk:Uk;nwHk8nwdUk-nwDnwehe_bknWm!Gm!EFk_nwvIiYe_ESk+nwvGj9e_n]*Av]Of+EW]Uw9gae:mBfJh[qr$igae:mBfJ
 h[qrm!OWk:Uk;nwHk8nwdUk-nwDnwehe_bknWm!Gm!EFk_nwvIiYe_ESk+nwvGj9e_n]*Av]Of+EWk)HdI<-bJn<TqzKa;guaX
 vRfRt4kSjykEfFCfHc!AkJjvkDId-aGlUa1GkVq)iYYkXqqw+RnNcgohWqcHa$owbzp^b.pSbakGGGzMkCDh?qncxOgDh<kCfH
 bSmohnkGmwAoha;e-syOa*kPOc,kPbckCsIArdqydzkGbTkCinj0e`kKmcc!WcCOSgJcy?$FkDm>%0sRwKDeCkR%2i$oXvxCa]N
 kIm(dLQAa)tVa)tWmcb.bdtZssy+H%3dL!P#YlTnvOh>ahA`XahmDObXfw](m]I)YAHkZq_vcEHvce_EoYoxHsZ&XEHwIsZpz*;
 q^oYq`EHq`rvyirGEHy,rvEH?lvyj)sFwLv|tbj8k,4Ddq[im]I)YAHkZq_vcEHvce_EoYoxHsZ&XEHwIsZpz*;q^oYq`EHq`rv
 yirGEHy,rvEH?lvyj)sFwLv|tbj8tDlwaOmHN?%BnJnJHnKnPDnKo(Ef;nLnMnMbkkJ!PJnOe-p&Lp&MnPnPm.J!QPe-QEt1kR
 rdrzi#kTvRe-j(s^Xe-YkXnTo(f!kIf?pLKa8tD3lyAcfa>oBa,dR>Oa,Tt_jjGoRDmxEBugRgEEYhqj-LufiFvcc$WDk+oxbf
 d_yiLmdbdsZXEYNk1Ymdeck4HbGt;isb#Ijja8YjjQm!AOisejj1vhCYm!MmhQmphjCk1ZYm!i!Kk4a]hqqoccm!Fl_Dj5t:mxP
 n,f!c&ucjjbZYgvcqYZk-IWisi%j1Icwk0cyWk0a]Nk;a]e^bLWisbqWtD6faCI?hcCVf7buQI^fm^a't_k0Et:e_naDo)nznV
 e_a1tD7CauoxHH!qIpcpcpjpzw6MnXnXpc(wQAudtD8Caur!i#k-nYH!Ts~XEtD94auj1c,tD9dn[im^a't_k0Et:e_naDo)nz
 nVe_a1tDA3auoxHH!qIpcpcpjpzw6MnXnXpc(wQAudtDB3aur!i#k-nYH!Ts~XEtDBdPj1c,k,6lw#(_A%da%cS^mt<zW13zW16
 )D20)D21FzW21MzW22zW22FzW22MzWaozWaoMzW24zW26)C028BzW29)CBc8t9c9,;zW44@A)D53^mzW65t<zW69)D73)D76@A
 zW85)C1afcQ2t91ant9al0kYal0Bt9al2zAB131AzA131Ct9164t9am1t9an0t9an8t9191kY301@AzA3aiA)C3aj)C313A)C31
 4`N`>t6af*c01*c02*cag*cah*c05*c06*c07*c08*cai*caj*cak*cal*c13*c14*c15*c16*cam*canlvkY501,;%q08,;%q1
 5%q20%qao^m%qap^mkY545kY547^m)C559kY563t<%q68'J,;%q91%q94)C598t7af,;t706t708'Jt726%ot7apt737zA640t7
 42,;t748zA651^m,;t>074c;A701_At802c=t8ag_Dt8ah_Et805c?t806_Ht807_Jt808c[%#_L%#ab_L2%#-3_L3%#-4_L4%#
 -6_L6t8aj_Wt8ak_Xt8al_Yt813_xvt814_a%Bt815c=Bt8am_aFt826_EYYYt832_bkk,76c;A8af@At>07l&]-$n*%Am=?o=1
 $5%%l]$nlV*%BkZ>lk,78doDZ,4);[VcIeqLk1e7>bD>ocHo?%>$u/Qe_&h/Q,qFeK>bh8b7o@cF*%f<G@~&alEH]i*%Hk3eK@~
 *@J^ll,LS>bLZl,&8dVjj&alE&8[Vtgl,Le7)6];(3Y);dVjjO]i*%qd&h(nQ^r*9cKl|];R>ocHn8#f*%Rk-C,4>kk-S,4);];
 TeU>b(9];V%m/S07B2au*%j0?5]h,*lIBI#y$4kFeMz|g%aSz|a,cqhuRl*/P$4%m[V)Xc`>ktE0lyYhSOT>idL!P#YJAtE0dr
 bmtE0dupiKnOf;pqprpyp&p?pCpEw;e-pUpZp2xjnPItYtZkQm<nQf;qQqUxWe-x-h?rsrurzyrq?s.m>Et5kTq@j(sE,PcxtE3
 7atsRXEtE3Catc*tE3faZh=IMhCId&d@b)a;~;^?]WTvI~o#Cck>za]oY>8hZfIRvG/3tE57at(J)/(i^!T?2~%z0uya,MYibE
 ~.>JrW/x[x$$~nxb!Xhn~[>7hZfH@tiPcD[Mfjcmqm[W<2_'%T/fjZb=dTAE<-!Xd#qGd#qG!X!u!u>JrW!Xo(/x[x$$!X$V$V
 !X#v#v!X*2*2!Xxbxb!Xhn~[>7hZHt1r(!X$g$giPtEAdn@i^dk>RcfIoal[(in-cE~StEnra7r-~.>Jb_-rbcE/xj5hp#b$$~n
 gS]Va]hp>7hZHtEF4at$giPtEFBas@in-cE~Sk&a-eLC>Oa,FtQjifsgDe&shEkWmyZlXHn`Tn`jTtVfqgze]gS.naPKzLkQnR
 a(e-QOfqbSr($gb9j&@i~SkTsPy^k,91e+sO>hcCb#D>OuNGkFt?jAf;YkM,;kRkSSkTt?fqQkSkTjimcn*Lj0b@kEk,93e+=1
 )&ail&gUObhfMa9aSb`b#bK=.dM/isZsFmJa~luq`*;b=luNnXEluq_bPlupzwLHoxrvbXlur!pjQ%4b9luTnYElur9m_$q_cr
 aIk_IaIabk>cmb1j]&4dM/isZsFmJq`*;Ne_q_pzwLHoxrv*vrvr!pjQ%4TnYOt|k,9BCatF(>_!F_safpiFqkoscEg@xu_RMjj
 IMN<D`[nY`)Yk,9D2au[b`O@kcF`OiTl,$~l,$&l,fn$'/ki/$'$eY.[Y*m$'>2l,jel^y^l^obl^n-l^i/l^ygl^v?l^,hF@r
 saFrXscsafpiF[k`ziTl(gobSb0iZ,5A^pj),ORtF05aue_OtF0Cat#$)&yn&tx8%8]z>I[Ka7tF15at=dAtF19at`<`b^Otaow
 KKuXb_uXTm?a7tF3dqyndS,ZCa@m_/atF3e+$NcD!=~&cD(i~ScF,`]SostF5c:@qv)$n!#cE!#kE(]tikNd/d!g8bzTs%ezm_
 =mp.StFl%hv%i_d@B>OHe:wTfJa8rYgScGhZfJjDunoZrblbErYiPlja?z3Hz5lga8rYiua8ljd(KfJFe:l0laYNldHa(He:v;
 ldd#rYfzYNlkErYj5NldHd#rYjTfJiXWlk#c(ix#&>NUgUfM/#cD#Ld@B>Of]cGgzcGf=cGpOcGhYcGjDlebWdiialbEfJiSleS
 aalga)lhOqppklja(lebWdkfdlag)laoZevlfEaPldl8v:lkAfJs+lkHl8jQlkf]lmAfI(ix#Tn.$~tFCc_gJIegEa/~.B#bv;
 kIa9gR%wrWo(jD)Scg<@Z!mc.!mJ!mJH!m#b$$@=XAqGgoqG*2DHd(nbiXgPfHgS~[A!mPnLnRz:hZfHXOqGQa-qG@tS$giPcD
 ?Pz(_%Cu4tFEBas@in-cE~ScD@qr<kHLnCN<BnmsLfZv)e<l]v)(8iEp.)vk,Blwa[eW<-m#m#OkCAh?mcAmcAEkCnve-nv(tf;
 >PKe-Xe-Xs2XVnMnMohf!tRkLnSvRnKnKo(b+&*FnInIHvQvQYvQVnPnPs2b@e-pSHpSYs2s2s^rdLnRnTnRo(j9t3s2b3o(a8
 k,B39as?P)%Tbdc)<ax<,n>:)JlPwUa!cD,nx<(8x+scrgS$;qk,,qkx8x<scrgx;bdyc(0h`iZa/~;^?]WTvI~o#Cck>za]oY
 >8hZfIRvG/3k,B5dr(i~KT?2~%tPHLdI~;^?-a]bd-rb]WTvI~ogS-hZfIhn>z>8/3k,B7dr(i~KT?2~%k&Su[_bIHLdI~;^?-
 a]bd-rb]W~ogS-hZfIhn>z>8/3k,B99at(Jz(cE$]l]=zzgvncHv(0a~9at(i~KT?2>2k,ClwqfjdK=.,s?Ilae_(pI>#gae_(p
 OliE>#qd,sB?Id_,sEB~tAG?If<,sEG~ta(?Ie^,saLleZ>#EZcF,sY?Ij1,sEY~tAEK~tOEK~ta,?IgE,saOujTleg-meAaQ~t
 eM~teI~tEb]<Il.uC(peK?Iv](paRliPcGa;ui>#ECcF,sQ?Ih3(pIQ>#Ih3(pOQ>#qu,sR?Iis,sEita>laEiGdB~teU~ta??I
 jj,saT~tOTlbdBk,C8c:fEfuoB](mBAled:a.BuiukCuiiGaLcGd.lelcg^aWe:aMt<leGYlefJgaoNEJt[a*llNKujujj2aPt[
 Eb]liliOlhIKbBSd9Gz,bUvzb9z,OEe:aRcGeHleit$iaSleSleSZlejkvCEccuifJs?UlhIKbBSd9G_Ue:bUvziQUEleVleZle
 ZiGeM*br*llSk,aBc|[imBAled:a.BuiukCuiiGaLcGd.lelcg^aWe:aMt<leGYlefJgaoNEJt[a*llNKujujj2aPt[Eb]liliO
 lhIKbBSd9Gz,bUvzb9z,OEe:aRcGeHleit$iaSleSleSZlejkvCEccuifJs?UlhIKbBSd9G_Ue:bUvziQUEleVleZleZiGeM*b
 r*llSk,CFdu(ix!!ZTn,&>~%cCf@IaZkno.jP&4m^dMq`y,rGpamRoxwLn2m:vtq_Rq_tbrvyipjofpz*;Wm~bdg+sFYm~bdg+
 sZxmNsZVdL$P!q$Hh?pJkoKoYg+bpbDp4ynf[a~Hm!iId!ufp5b9i[k,D3`Y0El%ipbj!=`@e9(iT`Jj0>2`Lu$@roscF(<cFy[
 cE<bSk,El&c!ZI=jaObakD&*bKvRnRnJoQeig8aCHoQHowsRexkXl6xWHm[%0i,.oiukFlUrFc,kGYhpXa8YNkHm?dM<5!1hYtV
 fqgofqa1fqgzkNoQhnkUg8y+q)EWtTj0YqzaTk,Ea%as=hwkz(cEw:l)#guLl)0EB0..gz^/c$T^il)0FlwqfSb`D>Od#PfI/mB
 vI/mv;k3e_!X&G]W~o#Cstv0l/zg<er`>za]oY*sEl,>8v0l/zg<e$urb-a]bd-D%E/3cFv0l/zg<er`<D'&T~e>2kH@roscE/]
 a]bd-Dd#b_k,F30dtb`DfL~.v;cE/x[x~ngS~[>7rb-!m$giPkHErWLeUcD>Q_r$cD=h/acE@%nm%B@%eqcql,%8=)cF%8p'l]
 rbl*$ol)@i~ScD@qsc@*S);e<iE?Uv)sc!#S<.iEwj?Uv(0F7c_qfUYGfF~;-#cjD<J!X#c~o#Cck>z>8RvG/3t+r(=h>'u4cF
 <au.<O>:$0scdSiGe<iFobl)0FBlyfBa>M>Od#qGyul*!u>JrW/xeqL!'[x~ngS~[Pe-@tiPcD@i^dcE~Sk,FnrEb#b)a;~.>J
 rW/x[x$$~ngS~[>7hZfH@tiPcD/]j5bd-jTHk.utBbPHb.'1oe~R<@`;~Cw5/A_byp!Rq:b@b=]om^Ha?i4bSb!_A^v?w?c&,x=
 cD$N~b@qv)=m#,C(]ticEbzcaiDaj52as(i`A`Jj0[b,``Wyn/A_$N<@/A_$ie|O[,/A_$iEcIO<@/A_g?k.07e+(ipen?gfiZ
 '1>I~u=w`#~JvxDvxR'k`b~l'B^3,NhmrE^0aQUgUuL<2l)(J)&=oD]Z?x,ORk.0Cet(iyn%Aajm7Sh$kqMPeK,5bXfIy&a~Hk0
 AHt|fIa1fIb)fIhcfIbvfIb=fIcpfIbIfIcyHucfIwibnHk4AHk7cyHkYfIEnxIfIUfIOfInxb)e9ajF`Y1uuegKb)'1>IA.SnO
 lTKwga1m)wghcm$lTegm,Am,wgNzkTb9!plTe$uQwgb@lTb9uVlTeukFwgNlTbIm<wgBlTBwgMlTYzkzkRlTLlTy_SlTa7A[,^v
 &,x=cFOf|O)&a@l)$Nk'Aa]cydKak3`Z(Jz(~b]B&4La7A]odMaN<@cpdKak5c_pFJa/I^.!Q^H=d*y`<p4^LpL,)V>[in)Shm
 rE^0(J)&/]b0Rf|akl&i!h5A'1>I`;w5~l`s?c^3,N!low~RcDbC~b^0bZ(zkBu')&ynhmrE$P,e)&vO_$iy8u%Ui:l)?xPriiX
 gMRa^E)S/&=cU`WEKa.)S(L%t$ok>h!bdUuL).(Jz(ltk.1Edci,f>a^*v!=`~(iT`Kj1~%tGlwKa-Jbq?%A.S=wmy[Kv-ow]~
 m,JAtG1dj~J!;@UuQD*xp4/Gu3.X]9V>[g?]o=bj)^3<8,NhmrFr#aE~bsO>hcD(J)&=o^0ynSsntGl&MciiLI^.e-/<a1tG8dr
 fztG8du=dm,JAtG8fa~JDuQ'kp4/Ga~tG9faBow]9V>[RxWHdK(J)&almDbpjncu=j~u=wmy[Kv-ow]~m,J*y~Jm_bTuQ'kp4/G
 u3.X]9$K.T)S%PA'B^3hmrF$NtGF`X13lwGh9iX%d=h.M%B'ua1tH05..'MtH0fanvAItH1djqq`5tH2du'ztH3dfpyg?tH35at
 ~ltH3Bar=hBfWU$1k$h9iXz=`EtH4donwAf|dbdPO^JtH5c:bCtH5dna@@>tH5etynhMrE&4$L<9=m`itH6dl=hGh9iX_?V'HtH
 7c|&4m~dMp5s`bIk.4lwhbA,5`t=wmy^H(fow=d*yxsb]H~w'kxjow^Lw;H%3xW*GLHm@uT?S`x?c^3,N'uoehm=Wow!X%PdKbC
 kBIaFa9~b&iGa<)vcD^0`Q&t&iqLEfAe()&145etbdixr1).Su')&&4$L%PA)S~Rk.4l&i5HUiQa/bl<@`;~l`s?ce_$i&,h@$i
 @l'u?4hm=Wa7k]Vd/cD^0bCk.4D`X15l&(L,5`;^O`%k.5B8au^3'u?4hmrF(L~bbZ(z_v)dScDrab:/|z7cD=rT)&(Jz(%mi;D
 n&l|U*b,tScI&rC(]iGh-SaxcJ![l=$>l,&trg);h-iFzg&tC(]iG$>l.(/bwl.SaRcahKl.!#$rh-ScIsceIg^UiccIob>*$(
 &g<5f;je-!#l~oL<5U@El~UUk.6lwb/=j`;~Cg?`s?c^3]z?4d]a7!x~b^0ynHUcpk.65`X16l%g3f&oBBo3%m,tcD,.Bo3.gc=
 o3%m,tcD$>lCBo3%m=l,.Bo3z^l.=l/&Bo3cFzg&t,tkBWbfLc=o3cFzg,tcG=l$]lM16l&iJbR,5~u`|$K>[in)S]za1'B^3,N
 hmrE&4*vgocD^016C`XamlwAHbC,5/<xlp4rF<5rF/GmIM%0aCuVdL,)ruxsow%Zvxoe<5v-owBH*y<5BdKam1et]*&_p!q:wZ
 oUbP]okY^vEkYjLh@lYa.)Sbqp[k.73`X@j$~)S$n(Jt2C$=bUbvI<Acr<@C~w!;dLg?k.8lwaJf(,5~u`|~Cin`srp^3]z?4hm
 rE^0anlSWd@b?c>f8^fhcmBcGWgaYj*s0Yh[oNU$Ih[d/ullgOukj2c(gdcfukNliaFlkb-z5GldmBjka.lbj*Pj*a9Yh[fAh[
 fBitf[ljb5UljoNcrs6[ihcmBcGWgaYj*s0Yh[oNU$Ih[d/ullgOukj2c(gdcfukNliaFlkb-z5GldmBjka.lbj*Pj*a9Yh[fA
 h[fBitf[ljb5UljoNcrs6`S(iT`KYk.8FfabCk!IVeXAgsU,5m]^vEtI0dsOtI0Cau@-v|[OJAtI15au#Nb9tIanau>^b@]1vy
 @+@VsZY@<s[=S,>w6ta@.!roNs?UletI37:4AIlitI3Batyn<9=cj)f>d<dL,NhRaZXeBxi)/&_sY*Oq-&_q-ynhmrF&tDl:kI
 a<)vcE=rTz(tI5`Y19lSNd.Ig:d~,5'CbTtIAdu`|~Cw5in`sbTtIaEau^3]z?4!low(L%t$o[,PriiXgMRa^Ek.AlwZd*a~Za=
 %jE?%?xIlle:$IOElilaIlaj*/Qf+#$z(cE&4@-v|[Opa'mb@]1vy@+@V?lDtbDj8k+oxtb-dM@<s[=S,>Kyx!X.7z(cEyn$NcF
 =cU)6,tk0u`l^<9)gkEgArN*O&4Rm$gArN!X&4s0q:p!VdL*Oo#z(kE#@l]pJ%kcFr#.ql,p'%kcE*O&sp.aKo#z(kE#@lDiApe
 n@1A50dtOYbCa`,5A^psm$Hq^&,mz?wgD#$)&&4`m`<p4^LM]$tazwta-]%~CKi?)S~Rk>gArN*O&4q_pzyiSdK!X]*GlglhGld
 lhlbcGg-itLunljcG-A)S]zGdK=#)&iApen@pJ%kt3lU=mhMrEo#z(%mpWzySckzy(1fib*cKfib*cISckcDiUg0%Kltk.AmDea
 a(fL)]a;Sc^a?i3IK_o=HoMo^Hqroxwhb0rjb0RoMb0Rh@b0Rqrb0q_b0bPm=x`qJb2q?bIt`Uc>fZHa@,5qAKdNp!pNm|ZdNV
 dNxnoyGdNgoljdNa~lcdNrHToyp6Poyq:FAlcoydNe:gah[s?dNIdN!XPcHKcHTcHMcBcHLcHWcHb?cHj1(EyIp'lkx!Su'_?5
 cF(EyIw9v0)-k9u'_?5l.yIp'lkx$w9v0)-k6a+-bwj>z@cF?5_$JjjgX-bwj>z@$-v0)-cFg~-F%FyIp'lkx!?5cFg~-F%FyI
 w9v0)-cF?5avtJlwBa7IKb5gq&4'CrpLtJ0du`|^O`%cGLtJ38au^3'u?4!la7~bsO>hk]a<)vlttJ5`X(i`A`JYcD&Jb7srz(
 tJ7c_gLaCeNo#l)pJ_r#<@/<oe]~uS@U%1/GmIM]$tasEzwta-]%b0>[AtJ92asiA&Y&4@-[Opab]]1@+mJpM?lDtbsFj8ugtJA
 ds@<yi,>A]o!q$HO)S<8=cUtKlwb)bXh8c@bD=jm]^vEtK08aulYOtK0dPmz@-v|[OpaJox'mb@]1vy@+@V@<s[=S,>w6KyyJ#N
 q-@.!roNs?j*,ORtK3A:aqtK3C:4AIlitK3F:4myyn<9)gk7chrG!xk3Ag!rF,NbQxBRa$Kd@tK5`Y1Dl%f,Jd!c@bD=jm][]U
 tK6donwAItK6AauqrmzsZs[@V/=y,oxpzofv|m:vyp5.3T=Xw6paJox>^xm/Hoxq_ru@.!roNs?UtK90:4aMlaItK93:4Oh[my
 yn<9y6?4bCtKA`Y1EnrgHa>a=,5*Zxl,yM]#C%0b]]%V%2dKd/bn^p$HOtPi[gOb?cD&v(Jk.FmDbxb5,5Ya7k.FCc_y(c?@r$(
 &J-d.-yNIvIqj&J-d.-i/b:vIv?IvIi/cc-!3k2bFb:vI$&-$ccE$)v?IEb_iFi/cc-!3(PyNIvIi/$xltz0rX!CcE$)yNIEb_
 iFi/$x(PffrX(<%%ltcE[liEnoSd+oUfbTh)bqIc.)SNaOtRcrcakCAj8a*prUj8Kprb<UVUj8KprgsjwkQdGa*prMchgsjwtV
 a&j(h~l-hPkVd@a*mcbId@g8buZo<j>f|WeZCspVuL).DbVl[Ld.u%a,cdh~l)i:aH(0enaHy$#Ml)m6&wl|OaFu%P&wb|Ta,l)
 fZhQbZSr,u%iNyEocl)ynb<iX#<cpgfYd@Ak.aYe+@q=rTkzckaNv5ynA?Hu1>Hoyw&ptR)xp0ljAGkC2kCd_/:die?3)xGl8>H
 oy==IMoZptd:ykll$+)bU.ra%.$Bd!GcG>H,dn.i!dk$vlUa*.uEif2unf6$+ojkCL.ul8e.di!7oyKa(3lggayly1d!hpd#qGA
 gL.uSo(mdx<md$)yDcFxHg:a^/Bd=xHg:Aln,&a/i#kChHkCh5.uKs#d'a%kCiv2zMk+Ie#iTUt;a~l,x<dBkwG2$;caG2kwG2
 $;caG2_h'cHx<dBcJ.8dB$;dB$;dBzM2zMa1d-u3lUa~G3kDAf[2kDl7x<Bl6Bd!f/dSkDd@2kDI?HGmqfS)wB,KaA_a%cHst.8
 mQd8UG%&j;b!GkDs#d9dgm_ewcFwO5)~%XpKcHAgLcHBd!GcHBIcHa1cIxHpKcHa4cHf#2cHf*cHozbfcIxHLj,ggcHLdOb!cI
 xHpK2cHg`cHNe|/Eh'lnIcHrCcHU%]f#2cHy1eykFmoDd@3z`f;aHd-e..uSo(e.2kFoYpfd&UtoU_nhkFf2kF,KDj)f,j)(KkF
 ce.ueU2kFce2kFUGkFUf*kFUHkFsse?3cF!_!-e?4kFcm2kG.uh'%&_aWhn$;hnkG.$%XH%Xm|Gmqb.ljl8ylj(aLoXEf#kGgD
 n,$/ft2cHiTj*b*?Dn,/BaQ?GEibkGifdgeU2kGj6.uA):La,cJ$/Ll8meu1e?3toUcI!_oz!_fSl.pfl9yvaLlgUdkp!Ld&$/L
 l8LgaLs?2lle]of!-a1.$%XD%Xo!o!w&a%uv)bb9d:meuJdB%]Gl8u1dS$+q:d9):q:m|Dgae.)~ylDceuj):p!aQ.y>Hft2l.
 fulfgaa44):dNf#%]Sj*H%XL)beUdif>):p!f`xHLgaHcedi==f2$+H)buJggcG*WKa+):Ll8bu3$+mep!,dn.b.z5cHx<hncG
 qAivljmqi#):jduna+ljUg-rCllllD):D,Ka1dga1mJ.8Ga%m)a(%&^,kIl7Ga(z/^,kId!g8fst?ft2z0,Kftdhvn&OGmofu3
 kIdBmcGeUToY$/Ks#a4.uEll?Doka44%&_a44k0rm&OGa+oQf#2.rf#3.u%Xw&>Hw&b!_qMl.Pm)bgl6oj?Doj.uu1rCz0j(a6
 ?Doqa6.$gg.y==hnljd&xHcaG2.rf*.u%XwRgs%&c@job!Gl6Gcit@$/i#kIs#Gcm7kIcmssGcmy1oxiTU.rHl6o=/:lab0diu1
 nhulDlgoZhnune:j(o'Hce.$meHl8*WLf2llDkJcidgf+m*d-a+oRx<Ie._d9ln,&If/fSk1Id_rjx<fS_i$R$;i$R_jox<cg.r
 bc.uftuvj(bcdgoR$/rC?DoR/BIM?GIg0tUkKirf2tV?Ha():budkdBdiu1Bd!GlbmqBIleifdieU2ululgF>Hfu):i!3$+Alf
 gaf#dioj$+Sa=cH.8!7a6lfcm7cGw&Ig-gglgIlga+cGLgaLj*b*):DUcIa4cITe:b.):hnUZ%<hn%=Rj*bXljmqSoyyli$Dun
 j*i)ljUfFlkmqs?dislcjcj)~qAj!lmItV2?Dbn2tVBtVD2%o%&c[a(5tVK.ufS)wKl7$/dQ?DKl6Ka.2tVM4cEpfl7@cU$;@c
 ,Kpfa,a#kMeUdgbq.uu1s?DkMa+kMoXgpl6gpfHwO5%&_wO5kM,K?_2_bu$;?_dgbu3t@,L!1bu7kMci.rKssgscF/BKs#wS2kM
 WU3antWtWGa%.uA):D%Xo!fucILl8l8meAi(ZIe#iTj*u1BIldmqn.a1ulitf*):GsloyHl8f`$/hncG==IM):o!Lj*bqlgoZbu
 3lgci):f`xHdNptd:Lf2cGLj*b!gFb*):n.p0%<i#$+Scjunf6$+oj$+Eif2cJiTj*i&2):i&dib5g-iHcGrClkE$+%XS)bp6U
 ):AcI)bs?%]uJslj!?GptR.ui#):Ssq!_x<ptRtoUtztWHi&tWL.uLl6gz.ugs):rsp?bxgDw2dgLf2tX.udQtX.$l8u1eU2cH
 iTj*ft2l.f`$/u1IMlga(2cB):uJKgaL%XuJptd:,daQ%<Nj*b1$+uJb1K%]Bj*caG2z0U?Db!dhx(fYl,yvEe^(KtX3tXGl7x<
 b!Gl7x(fYl,(KtXHtXLt@x<g`cHfu<tkNA.urC.rb)dgb)HkNmopKkNdBdgpSb*iEpUg0kN,Kp2b<G.rMckiAkNcma6dgp0?HwR
 tbx<p0.y%Xp5.8My1p03.uA):aHuh.rxjAdgg:dM*R.ui&t,j)/Bg:dLg:mog|kki3Ls*l-g|dgb>?HUe^(KkOI.unPI2kOoR$/
 >Hfu_qMl]hgaE.$medB):uJGsl,d>Hb>z5unE):a^a/cIdBcJxHuJU2l~y1NIbXGtZtZakzTcFptR)~fucHpKlna,cIx<hn_ptR
 )~Sl9j!z0,KNstvnfYl/ptR$;ptRzTUZt9*edBGa%cHBIcHDUGcHf*cHfStoj,Ka(3cHLdONe|b1bv3cHUdhwO5)~BIcIj(q'h]
 kQmch'kQeUdgbL?Ha%lbIlb$IgaId:s?2?DqJhIbb.uKl8sltb/BhIbbt0t0d-x-s,m=AGkki3pEbXG?HDUldUd:oyggcGwRg`
 cGb.z5ljl8i$Dlka%ll2lld:cjllitj!%&koG.rSl7@cdBl$Ahcl$moyhi!3?Hu1oj%<i&dijdll):uTA6t3a%6t3a=l$o)H,K
 i#c@a(z/^,cHTa%$;Ta%lDi#G9t3n*ykt3eUdgykgzt3a+?HoQi$M?HBl8d8UGuhNulitfScH!_wSdib!gFb<Gljl6r$bbt3bf
 z0,Ki$R_d9$;d9t3f6t3,K/&So'i&2t3ces#b1.ri)kSbb4%&t!4_i&l$IKl$Ibv3kS,KSs,cgkScgl$UHs#b5g8b5pKkSs#Scm
 9kTdM*w.uHgab..rTa%%&ktBc^I$;Nbjnh$;nh?GiH.uBIlfslyli&lkUG2lle]$vTmob-.rb:z0Ut5gDi5.urC%&_i5cHGa(z/
 ^,kTs.UGdgcagujczV%&_jd_c*$;taj)f*cFU_,KU_bI$;bI[ylncm$;ScmcHU_/Qx<U_,*kUdgcekUe^wS.$u1Mga)b)bUcLf,
 j)f,j)(KcG$/BlUcgUf/sq$/ptd:,dm|i!dkj(jroXcjsq$/*Wq'st!-cm?DUis(KkUR.$%Xo!p6l8oyhnll2):dBcImMcm4kU
 bRkUbR3kUbU?HdBGa%lbmqe?ululgF>Hfulfj*oyw&Ig-f2lggag`cGMoZqAyli)4lks?$+Gslsls!dLs!A.uj(j!?HKj*wR$v
 j!jNj!dgj!cjXkUcapoUZ3.upfl6UtftbiTs=qZeB$/Ks#c*GkXa.jNc,2kXf+x<teZI3kXIBt;a~t,j(j_kXbidgtfZU5.um[U
 d9kXUg8gi_eFg2EkC*$Nssa%*em#gL)~buf/ew_wO5)~U%]pKcEew3kFf2$+i&kFU*$i#kGj6)~f*unnMA*ed=xHgg$+mBb0dg
 a222kIbbkJy1gl$/a/yldBdk!7Gsl?_dig`cGqAi&Llks?Rdg@cokb!2_(K)~dQ.ueU%]Ll8So'b*r(p03)~tab=4kOoXhg9kO
 fWA*eBl8a4tZak_,.xpc)!*SkQeU2_*wkQbfl$AG)~fS)wb:dgcj)~pSU_U|da0c:NUgUfMynscdBcF[k`z$)nhcFob`zv6j)v2
 j)r.U)0_j)!Ds<oTj)qkGeUdh`OqkGeUj)~k*kl,scSf[dhy^l/[:v6Sf[dhn-'Ll,qki!rt(6y^l/[:v6i!rtn-l,Sf[*eGd&
 xHnhcJMoYqkd9j)(6y^l/[:v6d9j)n-l,$)[peU16cIeU21cFv6[pw2cIw24cIw2_At@r.[pdB9)0_[pIg03cIIMfZAt@!D[pcn
 b5cIcnb53k7oT[pIw2cIIw23cBcIIw2_dMscdBt,j)y^l^obl^n-l^i/l^qkdRdh~kl/[:v2dR2cH[:NfSeyoYNfSaEvGqkEi#3
 cF(6qky[_nhcF<bS*k_i/b_Sl,qky[_[pdM<bSlEqk!C_uJ(<l,qfAb3jVd=qki/b_cI(<cF>3c@cm%.l,eFg2Ez.y[cG<biGfn
 Tj2&>v6U_[:n-lEi/lEyglEv?lEp9lC247c:@qynqfAb3jVa/%n!>is<evkcF*=l.r:qgcGqYvk|da8c:ynA*$hnt,j*i&dga(
 )~eUdgdQ)~nht,j(a~f[*ea%2lhgataaA$;aA)~b=dge#$/$vew)~Ks#e.)~w&U_U_j(e.*ecgkFUG)~a/yldBcHdHp$ldoZe?
 leif2ullfgaf#2)x!7oyHga==*WwRwS2):*Wpu020cGgz.ywRb!H$+!7MuJb*iGb.lhI%=ylb1)wE*ewRh'kGif2_jNeU2_.8eU
 2kGZeN(K_/:cHa9cHfStoj,LdOLl9Me|b*SlnU.uSj(a1*ea~f[die.)xDUG)~fSl<*WEibululR$+aHcINe:H%XdNwS%]*Wgz
 .ywRb!fJp0lhE):E2cIGgai$Mlmbi2kIa%a^,.xpc)!*SkIeUTfZ$/j(oj)~oj_.8ojkIU*efS)wf*$+oj)~$va7t,U)w?_$;?_
 tV)~Bj*bnll_U_s?ir@cZU$;tfpucU%y021%y025%yc4%y050.a062%y079$;pu079)wpu08%[081$;pu081%yai2%y13%[142
 %y21%[219.a225%y228%yao8%y265.aap3%yap7.a383.a39%[441%y449.uGj*w&/Eb!3cIh'_qMl.U%]mIpu45%[457%y47%[
 483%y49%[492.a495%y55%[608%y6am.uuJu1e?3toU)xbudkp!Tmqb-lldisls!A%y636%y648.uDceulcGfScH!_Nga/E/Eb!
 dkyk$+Kgasls!A%y724%y749tX2toU_/:.unhcGHl8h'):/Eb!dk$vb.$+c*7kNj!$;p0)~a1cIggkOfWA*ee.)x!7a6gFa9lg
 eUdipu050cGMuJ/Eh'll):j*s!m=AGtoU)~ox$/n.i#_dHp$cG$vi!6t,s,a8$;So)xHHcedig|2ljmoi&%]DUG)~NIle*emcb1
 )~$vrC$+bXf/jc)~>H$)nhkUR2_*R.ucgkUbU)~Dd@dkpu668cGb!3kXA7kXU$;Z)bSmoZU5)~$)nht,j&2F9lyYhT-g0Od=ynC
 M%@CMcV^mzNalBzN13zN15zNamzN19zN21zNao^nCMc7^mzN44zN46cBzN49^nCb&58@AzN66~sCb&75BzN76zN78^m@AzN94~W
 CMaj7,+Cb(alkEMak4kEM301t>3utEGYPToBa9aSb`b#bK_AcS?<cWm#cXkCcXAz'cY^=014m#015)Bc2m#c3^m]kAc6m#c7^=
 ah0!n1z'ah2!n3kCah3!n4z'ah5!n6`,kDcS,;kDcWAkDcX,+C%@CcTAt<kEcU^nCc0m$c1^m@BDcS^nDcZm%0ai'Jt<kF027m%
 028,+Dc5m%c6t<kFc8m%ag5~WDah6m%ah7z`ah8m%ah9z`050A^mkF051z`052m%053z`054m%055@A]kD067A^nEcS^nEcZm&0
 aikG0aim&c0]kE016m&c2kGc2m&c3t<kG020m&021^nE028m&029@BEc8m&ag6t<kHcSkHcSm(cT~WF013m(014^nF021m(022
 ~sFc5m(c6@BFc9m(c-kHc-m(ag9]kFah5m(ah6kHah6m(ah7kHah7m(ah8,+F051At<kH052t?GcS@BGcXm)cYkIcYuNGcZ,+G
 c1m)0al^mkI020m)021@BG026m)027~sGag6m)c9kIc9m)c-@BGah3m)ah4t?Gah5m)ah6^mkJcS@BHcXAkJcYt?IcS,;kKcWm*
 cX,+I0aim*c0kKc0m*c1kKc1m*0al,+KcS^nL%@LcTdLLcU,+LcXdLLcYt?McSkNcSuNMcTt?McUuRah]kMc0uRakt?b&alA^n
 b&13t<kN015uR16kN016uRamkNc2uRan,;kN022uRaot?b&24uR25,+b&28uR29t<kNc5uR32t?Mc7uNMc8]kMah0uR41,+NcS
 'Jt?Nc3uNN019]kN025m.026^nNc7m.c8kOc8m.ag5kOag5m.ag6t?Nc9m.c-,;kOLcS,;kOLcWm.LcX~WNLc2m.Lc3t<tZcS~s
 NUc0AtZc1tZc1AtZ0al@AtZc3AtZ019%otZ022m/cSkPcSm/cT,+OcWm/cXkPcXA@BOcY,+Oc0At<kPc1^mkP019m/020kP020
 m/021,+O024m/025kP025m/026,+O029m/c4kPc4m/c5t<kPc7m/c8t<kPag6A,+Oc9^m@BO050uNO051kQcSkQcSm<cTt?PcU
 m<cV^nQcS]kR%@RcTAkRcUkRcUuNRcV]kRc0AkRc1@BR016AkRc2@A]kS%@ScTm=cU,+ScXm=cY^nS014uNS015t<kSc2m=c3^m
 kS026uNS027^mkSag5m=ag6,;]kTcSt<kTcUm>cV,+TcYm>cZkTcZm>0aikT0aim>c0t?Tc1m>0al,;kT016m>c2^m^nTc6m>c7
 kTc7m>c8t<kUcS@BUcXuNUcY'JkU0aoAkU024@BU029AkUc4t<kUc6AkUc7~sVcSkVcSA^mkVcTkVcTm?cU,;kVcYuNVcZ,+Vc1
 At<kV0alkV0aluNV013^nV020A~WV021t<kV0aom?024,;kV028m?029kV029m?c4kVc4m?c5kVc5m?c6t?Vc7m?c8,+Vc9m?c-
 t<kVah0m@cSt<kWcUm@cV@BW0aim@c0kWc0m@c1,+W014m@015t<kWc2m@c3kWc3m@019@BW024m@025cEXcS,+XcVuNXcWt?X
 cXdLXcYt?XcZdLYcScEYcSdLYcT]kZ%@ZcTA,+ZcUkXcUuNZcVkXcVm[cWkXcWm[cX~sZ015A^mkX016kX016A^=AcS]kAAcYA
 z'AcZ`,|db3c|<epen[=*l*bdixcddHr6r<jk!wl.r6eJcG!wl*(r)(tQoibZGMvAeJl)44lwd*TbBoBa9aSb`b#bK_AcS~sAc0
 m#c1^m^=026m#027^m?<ag9!n0z'ah1!n2<<ah5!n6kCah6Az'ah7'J<<066A)B067`>@BAai7m#ai8kCai8m#ai9z'1afm#aj1
 kCaj1m#aj2kCaj2m#1agz'1ahA)Baj5kCaj5Az'aj6z'aj7A)Baj8)B1ajAz'1ak?<ak5m#ak6~sAal5m#al6~sA135m#136`_
 )B202Az'2ag?<207uO08z'2aiuOaj@BA215uO16kC216uOam^m)B227uO28`N^=267uO68'J@BA289uO90?<294uO95?<299m#3
 af~sA3aim#3aj'J<<329m#330z'332A)B333<<336A)B337'J]kA359m#360?<364m#365<<368m#369)B371m#372~sA381m#3
 82kC383_bPtvbRkC383m#384)B386m#387@BA393_v?kC394^m^=4aj_a'oig@xuz(kC4aja^eJl]A4ak`N^=450m#451]kA457
 m#458`N^=501`>,;k/8lwBd)M,5xA-AkjbuEc]FqoGBIaMc?qohPc]flkmbIEgVIEe|bLPdxmJg_c]Fqoi&aQi&Eskf6c]flk7
 c*l,r$e#bIc^blk8h#bIc^blkmbIEgVIaMcIbLPdxBm'dxBGBwzcakeaPmJhcb?s/dxVvMgJSyTMVnBNfsk9aUqak7b|QPn,gm
 gmTNm:NKfWIues<GbuaQZvKg#mhLeZKcok7iMc]FAm'AEgmPk8dBlVa3nBRlVPa.i!Ek6h#hee0vJZckc]vLU_c(Qc^lVa3nBf!
 yTNiMc^b9m`IrvgVArvb*ckJbCNDaUh3b/bCPUQt;n2bIkdeQEsFNaEl,PnAMdxKhBk7IpjPszcaAEhXb!AEhXi=Jl_b-j$UWn,
 b)Ehok5vJeuhenBjjbuqub/bCvLi&g9LbCMlVfhf+ijk5PquSqugK_hGnAi$bPnXiMk9a-Qc^i&cdYsqhoTkghf&zbI!hNbn!h
 ckKhjhqhen,b)eVubl_gOhok7c!sknBNk9q!bIl_Ni$nwMdxk7s4bnq2yiVnwLs<n,NmhgOh2xAacc^i&nAcakeEgVwzSwziykw
 cFLbCc^TvKgOkeeGnWIaMg9c!cmlVgO!hKl_bJeUwDFUkdeQEsFgzc^i&cdqak7b:aMtzUOq2DUc^JAdMf!jpnBg9bLskUc^Swz
 i#Tc^Jmhb0nBQTs/flcA&zMBf-gOa*nAhoc^TvKgmPUh3f!jpn,gmYvMbvd*e_h`sqVvKhffWIc]cshXheaUkfUk:UAnASa*nB
 ufl_MaUq2fyOQ)4k6Ff:QueEk6BaUrjg3b:En,b]dxlVPUhcl_b*j%heEnAFvMMaAquaXnWnBg9gNNJnBNmCJUQdMLvJfxl_NS
 n,pMbqq2a5g8xAadkjbuEkeEgOk7tbYsqWd/buquhen,NDnBRnwhfmha3!hMdUbonAGa~s4hoRc]KPd@Q_b*stNcakfbhk6BvK
 hIIeDk7DbCBs/a~Aj+Ba~a2-i|nWEj!nBhXfzhXgmKmhc(_g5b)nXZvKMaAnXSnBNk6dZk;aUQk5h`mhbnm`vMNaHm:b9Ai!Eub
 UEh3b:iQYsmb5AvJfyAeNqak_vMNa/iwmhgNKnBrjNb9Ak7fyqog#k6BIbREn,b,mHq2b-jvmJb-covMhesqFUnXDvLNrvNi!Q
 kZjvk_nBhBk6dWlVbUubdxcFLl_b:caAaRk7b5h.b?bCubEaMnWvJfyk6AeVk6aAdxcFb!k5coubl_b?bCk:szNfyEvJSbCk7T
 n,bubEc^bn!hNSstNDl_gNNSwzcyAk7e!cFi&Eh3iyflk6Bo+dxBm'dRs4gmSvMMBvMKvKgOAkmaDnAc(cxQubvMMwzMyTi$Qk5
 eNbvWcGFa?bbsmhcq2mhbxQk8oYhBk-n`xA-DkfUOk:a<ubo+flubwzLwzNJvLNi#nXfxa.lVqak:UAn,hfsti#nXGgik5nBTb*
 stTvLi#yTNgbuenWnAYdxMlVbubCk9a<k6FvLNDvMMd#aSo+vLS&zYaQubnBg9gmOTkfyThfaUrjTj)Gwhhfc!nVaUFe0vJDnw
 gVb'sqLnBPk7Dqog3o+Ga'stPUUjjgVwzMFh@g`k7b1aMhXgOm~cuvJc!sknBNk9q!c(WquKvKRdxk-aMnwhf&zMFnBk7b1EnA
 gmhXbLhXbJcolVb]smLvJfxl_MFwzhecun,c(Og9h'k;UbEk7eyk7TvKSyTKsthevMhfwzcaq!b*stbuq2Ssqb-stb)aQJvJfxP
 t+sqNfybCk7i&TubUEh3f!yTKj)ReNhvufnYOq2s4RoMLaMnwgQnwMues/s=HoMb0vMKc!nXs=Hs<TnwbJnXf+i%Qk8UQk6cshX
 LquibkhCfIb:k7cas/a~a^ygk9mhFlTxA-Ec^e!k-OqoMBvKg#k_Og9bzqobIm`bCucq2i&bEk7e?k8yTTl_hfm~PvMWUOk9nw
 henBjjbIl_TqrbuOhXLbCk7i$nwb?bEk6dxcFhfvMNa5q2i&e_bRgVAubvMPaMg9bXdMb?ope_gVdMa3vMhfnBMubdxp@gKcFbz
 q!heEaMnXaHQufeNNTvKiyk8sqNeuc`hsp7k7fyAEi!aWqak;wzf!stTyTYnBk8h@jcAnWnBueAn,T&zVnBk:vMbvl_PUufmhfz
 a.lVhdcmvLb0&zgVn,MdUk7c*q2grcFGa'sksqbunAcyhXhoc>bwAj@k;bhk6FaUq2e*h3hGEh3c(EQt+Udxk2smGBvMhfszKnA
 MlVhfAa.f+f!jjn2Njck8vLYvKheEyTho_%-k7ZUh3bNqoMwzFUvJlVMyTf!yTFU_o+s`PUmhhfsqbujjbLvJiMk;e0vJfyPk8
 a^bJOhKk2Uj+byk2bCubnwmAquh@f+LmhPa^hMh7ufAufq2euc]c)fCr!i$Qk;vMb?yTc(An,c$Qc`WIMMfYlcq(k;UQk;stKvM
 PvMNbkaWaRhrk8smWUnVnwVnwLs/f+RvMbPnXa6AvJGm`o^i%Qk2U_q+Dj1p5Pf+LquKq]n,Mm'mhTaUk5o+qoiTk2mhGa-g8xA
 -F_pjUk5j)nwh;ufnXs4pzRoMRwzgQnwb9Ak7euubdxk6ues=HoMysvMKc!nWvJyTNUubyTYquSo`sZNyiPvMNTnwWsmPnwRs<
 f+RvMKn,hfcun,hem`o^PyTa0g9sFp@LquKq]Bn,ibk6m'q]a~mAnAKq`bXgOk_UEQk/A4c_MbS,5Tm.oks6MoQB%Zm<o<goItT
 q/lXCo'boAAe-bBkNdxkOoXPm/#WRq?o<iYm&m@dL&)g!tWtTIkRf;b-Kk/A6`X6A6e~D!c=krDbX,5OZkPCkPh2q,Aj:a&kCQ
 kCXkVZkVCkVQkVXkGZkGCkGh2nGIj:a;kKh2o-Uj:cfkUh2s)AWZkCWCkCWQkCWXkUbikUa;kUIQkUo-!XNf/w9UnG$iUEZkYWX
 kUECkUEZkUEQkUnGUIUZkUIcfkUIUQkUIs)MZkNCkNQkNjN/<oexlS%3sEq'xsxBmIM%1*GHT>]Rm.HuTm$uWm)owHb+uVdLXm(
 *xCowc*k/a&`X6Am7a~i?_cpH,5Eb@&XSnVm'a'k;oJa1Hk1a9o;bIfIbmk3cufIsFZh@GBj)npCe_UWj)r9mJVj)c!oYq`cuvt
 dMq^h@j)nwe_Ik/a)c|=h#dx!g~l,gX%~-gXl,o,-g~l*/pk/BlwbIa7WH_HMhy_$PKaMBk5aMjBbqd_bqVt;cet;UjBbud_bu
 jBbod_bojBgfd_gfjBbtOd_btOVt;WBt;WjBbuAd_buAjBbtd_btVk5a|d_bqa[t;Bt;Vk5WBk5WVt;a%t;AjA.7_cps<jaj)L
 mza7s<LmzbPs<KmzQHmzYmzHbvs/mzegs<egUk3NmzbMa7s<iXs<mzmzXmzCmypJc>IMkwBljh[boiGgoVljUAg-HbClka@g8yn
 Vh*i0Mlki!Bc>aMBk0IM_ehaPk_h*iZAd:aXaPk|c!aPc^TXIVcGx4b|VcGFAId_csiBaMjBgQJksa%k_h*NbUdMIB_Yl_XAcn
 k0IMcASOVknGk/B5`Y6B5Bat=GiF&JSz0_,`iFgZp<iF&Jl,iTc=bcp<iFi;Lp<Sk/B6djynVh*Lcek|YqrHp@y[-i^a2l,ZWJ_
 iXJk3hlk7Qbbk|Ia%k7caJkYVk-XHaMJc>aMjBgQJcASaMd_y)g^k6cnk0IMkbf5gAc^Tb`c^Tb`lcUa.cAi%OJlkXWVcHaCWV
 cGPce_aEWBlhickvSk/B7DatCg!z=z[EgdYaMGcGbxiGLa@gdXc$Ogdbth[a7Wgdb<AiGi0gdjad:hDd:god:f?cGcpgdFAgdcy
 JlkSWBlgWg-VWJk/E4c_gPEFAa+if^fMk9k_zAb:Uk+k5hXhXjjf<fro;kYk4cFnUt@j)s:gEQk3hXb]k|k1cFqdhqish@lYY]U
 Mk9k_zAb:Uk+k5hXhXjjf<fro;kYk4cFnUt@j)s:gEQk3hXb]k|k1cFqdhqish@lYY`W@j]5rT$yob$yff$yi/$yyg$yny$yxp
 eDcD!=qk<5!1(7y^l[]2<AAIVdK>Ec~Hk/FlwMa|O,5,yYIc'm<pyw;ow*vMm(m?m?F>]YIcAy,uXuQ%1NowYIc^p4*vxjxjN*G
 LsYLowLa:m>LHm%LHm>La:m%LHsY*ZYbjpiqXQoe(fow*vxlowXm)owa3HuWSm%c/uSuSHm>$fzwYIcAyiDzwbQoaeBTyhyhyx
 zwZyhjakFtaYIcAS%2Zm[SuYuYru*vc/uYYuYb6m@m#HkJowd6kSs3DZs3TnSrzRb-k/F4e+yn.7_,eti<@xi&V)Sa>qI$=bQoa
 eBsAfYkYSqIr1]okYm]HfImduCq^h@sQjLe_n,v]OEj1f+oCImdIuCIh@oJoMIj)fYcFs>dMUmdUuCUs>nzjvk;k;f+lVAnwErp
 x_!`n],<n]lYnzmzOs<k7f<UOf<c(f+Of<On]VjLIf<EdMIhycFUIk/F8e+yI(`i9l*%B%7&4r5ab]kbQoaeBr5lt)24t<)28k/
 FnrrDj%/*)%NUi&l@qfmVn^o?l*/*l(Kf'd=$nycT)vk/FnZcraTg|n^<5h_v!pJj+lhHa]|an8lwrDj%elhPeM-cS`+`+`+`+
 `+`_`N`>@AcDa)nZ//&4g0Nd=r5ab%ocDAaY5auTqj7t@xiItcr5<TcDAaYD:4Tqj7t>Bafc|*ve8/y&4*vYe8Hn$bbd*,5Az7
 kC-sPI<UU<TkG<VkPz7tV^[tVcQt?Ka$KnOI<T,+bu]Xbo[>btz7kMb^pobX<T,+b1[>b5<T,+bZ<Tt4]Xb9<Ub:]Xca<Uca-T
 q@E^[kTO[>i7q-b=^[kOI]XNI-b-tZz7kOE[>b>-pqb[<TtT^[tTcQt?a9]XHUz7kJE]Xa-<T,+b)]Xb.]Xb<<Ub*ltkNE-w;O
 [>cy<TcEYa$s6c(<Uc$[>bP<UbR]XbU[>bQ<UbS[>cu<TkWI<TkWE<Ucx]XN-b<-b/ltcC/y&4*vWUcC//&4*vs4c!k:Uk=15c_
 /y&4$nsNsJcxk=164ar*Y[!_sNsJsQNk=ClwDclbzY<-fHXkQkTkHkMt?BkFkVkIkRkQc^kFc`kHc^kMc]kR_iErWSw7nbnbKK
 kSw7JkJgDLHkRHkNt?JkSkNc^kOc]kL_g8b7JkN<.kOl]Jl~v%#qzy%BS<.<OMc`kOc`kL_iEiBkNc^c`kOc]c`kLu(_Jc`kLc`
 <.k7ljkS_jkRk8cGircdiFRc`kWkWHkW_RkSc^k6kM_Rc`kIu(c[cGirm=w7q)Om/kCOj(f;e-oI$iIkUIkGnRw7EHkRqhoBo|
 w7nvw9f;s2j(nEXWkU_hpw9UkRqhoBUkUHkSw7UkPOfHq)Oj(sEsPsMWaNkWq)xi_j)h@f+m<eSfZmdl-Sw7n,mdqn,OMk=C7c:
 a)aZX$9>MbZCuEgXl]/WpB@)gXl]o,l]muaC!`*3/TrDvB$uaW#fIl,rD&wBC8c|wtu<k-fRTl,&'p'l,e<.pcFp.k:As~,Mk=C
 9c|pBu<k-fRTl,&'p'l,e<.pcFp.k:As~,McF%VBC9%+_(svncDiZaD_#%<u.g)&@qmVObA_/pk)o[wmoadH&4q(g#zPTbdU&O
 not%hWclu#FlwZNd(b@c)=hpJc@h$Ze=No_<(M_bD)!No_lJjab9l^Gh$Ze=No_l^No_l^Sh|b>l^@el^(,l^y-Ol^@et*a-bpL
 bCl^(,lJy-OlJGh$Ze=No_<(M_h#(ANo_lJjab9l^Gh$Ze=No_l^No_l^Sh|b>l^@el^(,l^y-Ol^@et*a-bpLbCl^(,lJy-OlJ
 jab9<(g9@el^Sr-hk@ecF(,<(Mljr-p|y-O<(g9@ekrh9p|Gh$Ze=y-h@c,pDqoRa[p|yBYm^bFj5dMjnRpjhNj@TpjLbCwIcl
 #HbnaCpjc,VbAk9btmJbPZbZwIbVc._h#p$k>F3c|i8d&h9fwpJc]q3b[lnj[bzcHr_j[pCpJ_c*e(c.pjDaPeWj?b]l,OTSeA
 pjhNvbIE)6]Ht:dBKdNPbB#Hb~gxHbtk9bFhrjPb[c.KmAhrpje@aThroImuaCoU<ehwjipJtlV!`KbVZfH#[i8d&h9fw/#kAR
 biNa*_,ekdj>abt@v#yFFg=k5bVZfIRb`k>F5c:Ne2Ec[Rc(gvb:bpj0x~g>kFVa^Vc>f^Nj(ppCfHc*b[j9KzUPbhrvb7hrgr
 kQeRj'pj(dzmsYi'bLja)AbFhrjPb[c.KuPaOjYTpih^pi)nsYf&ceeiKc=bFZj1b:Ka:k6q3b]k9j[Lj1r_j[b#kVbPbpf:)*Y
 m'q3#HS<fr_<f&1s@)*s0Mq3p3ljy5s0r_y5sY&t)nsY/QCf^jYTpie(dZrugogZh?vbpihNvbInRKd(Yjac]q3#HS<fr_<fyBY
 m%aPeWj?Nc)ppaCkSKd(Yja_&1s@c`<f&1(dzmsZ&1s@_yBsZ*'p3)*s0Sy5s0(dzms0&1s@kSg'f'oJb7)oYugKbVTqdSc[x|M
 kMbVc.kRb`tSrFKb~YLm[b*YTrui^TsZb7)oYlgx|g-)oc)Il.Kx|M_bj)oYugKbVb9s0b7)oYk9knGbCldVcjjPzvTc#ga)oc)
 bjhNvbIaPkQbBKcibiMs;Ta?jP(dzmsYr?bv)*Ym'q3b[yBYm~x|s@k8Ob!>_>_(dzmsZ&1>_&1(dzmsZyBjPPco#H*'#H*'NbA
 x|s@cF*'b[>_*'p3_&1s@cF*'b[/Ml,Gijp3)A#p)nsZf)b//MlEGij#Hf)b//M)6&t)nsZGijbAx|s@cG/MkNEeigvxKNj1&1
 csj1&1xKNj1&1(djONs;i|bvcAbVa>b`g$#HTbVa>O>_TbVa>Or?Lp3kPi<m`<fr_<fKRc(bts@c`<f&1s@l.(dzmsYr?bvc[R
 c(bts@cG/Mlfijp3)A#p)ns0f)b//MlFGijp3lfijO/M);&t)ns0GijbAx|s@cH/MlkbVa>pibuFo5kPBgyq/jnkOaPpibIchk?
 utBYZd<oT(c,|xNt|bZoC>6cFbGaNa^EKflf8Kqp&qj/aNa^EKflf8Kqp&qbniZi~k9c%gMIKf+x~Lf8bqk;hORf3iG&qKbQb)
 i~kYbJSbHEKflf8KqoaVOl,rMIm~!IrG%Qa0iG&qb6b>VpMiZrGbBbbh#<:Gh&#T#7t:AgZqoVdGj1bgh#<:K!Il,K!Ib9l,bX
 sSrGPd~ejNk9iORh*AhNaVoCbGEa|bj<:j/Ea|Il,d>e(#^d>y>k5g$pMbQVpMbLa>gN<:b:g:pMd*r:H#tbZ#ty!gN!iqpMeY
 kra[bSj)OYh9o5_<:y>t+b/Ik1s7i;mAESixm~q9gMm]bJSbHaVO$:&]<:fVv8dM$?h#<:bniOa^$?qoPeFi'hqhUn9qoKh!EV
 pMejbQVgN<:Ra<#t,uSgN<:x~Lf8bql,IegDoYNd*k8eYSMm~h!EVgNd%h@$?#Tr>GGo5rGGikb_o5rGIi=$:bBbb#TbGEa|l,P
 eYi~k5OUF#tPeYi'btUF#tKq9b/btUF#tbJg$i8$:K!Ib9z)Ap|K!Il^YxNcF%Qa0S$:%Qa0bjb6NaGSb/Sl,jUioo;q9b/jUio
 qoeFfohqeggZf+gYRh#bgqoj/Ea|$:bLa>#^hUn9#TOgIqol+bob[pMb#G#tx~Lf8bq$:,uS#^EiUh#,uSMm~YL#tl+KaQbAYL
 #t$?bD$:EKr?hVhqy!b)$:Sc%pMejbQVb)$:EbJGaSpMbZo5$:Xw~Kg$pM$?OhUn9qohUn9Ob#G#t$?Ob#G#t$?O,uSpMhUn9O
 ,uSpM$?Oy!pMhUn9Oy!pMGh&Ob6NiYTqod^Ob6NiYTqoEiU#TOYh9o5$:y>TbgpXESh[aVh@y>_a<bzstrR_gf_d>rRt;iOa>pM
 eJOflqoYFeNpglap|SiObSSk5g$gNAp|ngbj<:Kq9b)l.d%h[b>h@d>e(#^a<p@&qTigp@y<Pp@btikbgt+IMgNaQh*mXb[UldY
 bHmXNqpi;bDl.b-i?ikl.fVbZh*mXb[j)Gh&bDz)a/h[h`eWbbgTh#d~r=dODaVoCe,h&qph`eWbbgTh#d~r=a^pgcIAb[cHDaV
 oCi;Gh&qod^qofVaHd^qoaHd^qoAa5a4c'bBbjd^gad^OiUgad^gab*i;dNMeVlfqvlfh&OiUgabNbxc@qvk6a=TjVAtwTh*Iej
 iGd%Il~aGYiUOSl.d%Il~i;b|Sl.i;v4iGb-iNTh*IejScHbwa2b|Sl.bwa2b|Sl.hJGbeSl,bga*a|kuLq#IeigMOiF%Qa0Il^
 FAhaOSf5y<v4iGpVv4Suhv4iFgLTjVa^VdAb7IejiGhTb|j/c&l.hJa4h*b-iNb|Sl,GbFb_gYh#N_AbMh/cHngOstaQa=Xf5gf
 _&]csj)fVflqofVv8qo&]!ih#aGYiUOU_a;fCuha?hzgqPdOb=p6b=h*IejSuha?hzgqaHljbrw~e*i8h#aHuha?hzgqKe|ZOcH
 NbjpgcIa/h[gIa*h#mXgNaHv4ScIpVv4Sk2HTh$c`brw~mXgNj<IiF&]Sbrw~mXgNb6Na)gab>b=p|mXa^ZYa5Slgg>qpb2dGf+
 &]bjYFeVSkuiNb:b/bRqpaQd`hzh*l+v4k;FeVb7i;b:b/bRqoaHeVSl.b-iNb:b/bRqpAhL_DYbHaJaGbnrHpVG(@b-i@bPl.
 e,(@aVl.i;G(@bAb|l,YFeVb7AhL_Dc$l.pVG(@b-i@bPl.e,(@aVl.i;G(@bAb|l,GeLgqaHeViGYFeViFe*i'LbjAhL_gYbR
 cHpPLganggarREOiFi*a/Sbgl/aHyocHi;yocHy<yolaRbZOScHaHyocHi;yocHy<yok1IomgNGGk1baTb`Gh*Os=TbbpMd'b:K
 bHqAcsUuluhlgElmOlho;!Ib9z)b*SOk5!Il^K!Ib9z)pgk5!Il^Kg$#^Gh&h#b>Ol)Duu(c)^)<ti#,=m/l(^l]m9!'r&y$wX
 raa?)//WradHe<SzRkpGNq/Aj+qQbZGNq.Om_raArKFw(z7kHaSgMdM%8BxXz(kEAEr]kDh4nI#-cEqjw3i^Ffqje-p.l*$(p.
 l*ob-p.l*n--p.%^-p.%^-b4x8FRaTu8cEobaeb;&OGz#liTiOa^a,rIa~yxCz#kHl.OTiOa^a,rIa~yxDipz#ltk?al9at,g_
 w+RaWrc<BSf[hXn:kHLdH,JkOAjdd&,Jt3a=P_,JcE(<z@c`f[PcGn:zOMh#r0kEUy$OTiOa^a,rGa~yxbOw*eVgNa,rGa~yxxf
 _rckWfAEl*osl*(<.?H%^$xl*$&-$c%^cc-!3l*>2_(4!Cl*X_,kkQgAl*&gXl*S#8,k%lcG%:/+,k_jxze)8cG=^)8cG#+ze)8
 %*%l)8cGjx#+zecI%:pW_,k%lcG%:,D-$b,k_v,ze)8cE@m,kkVOa+l*,k$2tZLb$,kkEgATeT,k%lcG%:u:kWfAEz*cEosl*(<
 .?H%^$xl*$&-$c%^cc-!3l*>2_(4!Cl*=hb4aPk9hRaCa2Sd/l,i|b/bzz7kHw/eBi|b/bzz7zO%_a@GM*B_Dq!n_<TtQoia'l-
 eJl*a'oiToIeJl*a'oiSLs#eJl*a'oibKbPrzeJl*=hz-k9b9aBAr9iTUr9i^aBa?bgi*q]d[a?q]d[Ai7i^aBAr9z--i^aBAr9
 bzUrda=bJGGa|i_,JzO%_aJIjjigk2g=k9Me`t_Ne^&tyJe_$>l*Rw.Zd.q?UdZq[kQfLh?b*c/h?fnTnJicCeJq/EenbYeJOkI
 h4Ez*%elhOl*b;zVhp*Rl*r+%ecFsy,t)?^[cF$ocQt?a7clTi~MpSb>BaQi~MpS&vi~MpS!*%ezO%_v,d3cFcll,f[g3a;k9N
 a<kmc/a;a?h?hA%KcF$EwjhAz|GLbgiwe=,JcEzg!Yb=bciEeyPkYp^b)sScEp'dLd5j~%zd5j~%lcF%:g0IpMu6%zg0fU%lcF
 %:FUbX%lcF%:p'a^,z_rccFIM,zl*d5j~av%zd5j~l*g0fUav%zg0fUl*TeHj##Zjcc>cjtw##aW,zcIIM,zcI,z_e.bdUr1aa
 cFIM#Zjcc>cjtw##aW,zcIIM,zcJe.bdUr1z7kEbSo-Gh+bFoBCz#k2l*S#8BkVo3cEhNa?s%Cbxj~kSeaaHerkEg/a&s%i-CU
 gAkQbFq|UiFn|s%SeaaHerl*i-Ccij#icUhHs%PeXiAqTb:iEbqEVd=Cz#cF&vhGCe_!Xp_udCf6yGpJk:fAEz*%%l,(<z*t%M_
 nocIsz!Cz*t%M_nocIszn:)/SbFf;btikk?2lwwd_y7_,j)^^[<Gaj^m@A<G50,;cDbdr[pRd&,j)^lt<G4cB<G7cB<Gak%o<G
 amt<<Gao,;<G29cB<G32<G36,;<G42cB<G45<G47@At==hwd_(c_i;rxcFy<rxk8n$rx)F_(ckdIMb)k?2nrb)jO<sj7`'nSn*
 ]5rT$yob$yff$yi/$yyg$yny$yxpeDk?3lwpVf(#Fv<k!If(#Fo%aQLzjHUgJl*v<gBo%n,Hcjmcv<cCy<f(#F!zkHjq)skNIh|
 kDmkn[boaR/%zPi:bREseAbYvAbE,%kDxVoUOs&aGfcr3p7tve/i-$=aHj@GeIe-Yq$Fcip7tUvmnQEb>i:$=h_aCzPTa&shhv
 oUmEkWAbhw@a0p]w@a(V!bReGArzicf4!bEArzbmYzPiT$=eJEAcss#DUb:ESkEoue-e%f3cqp7kDqficOb!$=Pdww@bwa4qnm4
 Ep7kMbdr%kIuKw@r?p8kQcmf9kHjqp7t1SoFCEtWWtvb/e&t1ShPrza5oUi_gQjieIh/iUSzUs^onTp7kGNwUMvAbIr;hpiiUl6
 F&5VdCp7tvWdCw@emb4d,j0w+rdaTeSIsesrj0e.bdf2MvA&hxecEwfaLp7kIuKoUoXb)b3w@AaBUb<##kGMmKf2MvAnnTkWmr
 kSbdpntUNn[vwjdnKd'aQw@e.Mw@aVa7cn$=bZj@!bSi9bIohovp7zOhK$=m4jykHAbcjykCGf(VuLzOhL!bh#rSj@ohnda;spE
 StWa`cmw@a0r=w?D36lyh/yEbSaKsr_!=`]nSaQb7!=`]e8?|Td%Yz(_~Kn-cCTd%Yz(_xzn-k?4lw@|u9`CcE`D&U`C)X_A]R4
 56auI'Jt>u9&U`P`^cD(I*%Ak?49EauCz~4A2auGk?4A5auJz~4AdsN</4AEauS^n$nA</4BdPFk?4BDauH]R4C5auP^mt<k=qf
 (I`P`^k[Ra*jd_*%Az~50doD</50DauJ@Az~516auS]R51e'`D@Z_*%Az~53dPD</54c;I,;k?546auOk?54AauS]R55df`Du9F
 Ra*jd_`P`^kB<7`C)X`^kDqf`P`^cE&U`P`^kDqf&U`CcG`DpVr/aW`CcE`D&U$n*@Iz~6Adqu9*%`8@!cF'7(mNa%L.U`8v0%c
 cF'7(m^Kl6['cEy?l*wFl*hFl*idl*#1&U*%`8@!cF'7(mNa%L.U`8v0%ccF'7(m^Kl6['cEy?l*wFl*hFl*idl*#1u9&U*%u@
 %)^@#7lmeYlerHy?%/'$(o%=x4@!`$Na%pz$nu@%)^@#7lmeYlerHy?%/'$(o%=x4v0%c`$^Kl7['cFy?l,wFl,hFl,idl,#1S
 <7u9*%u@%)^@#7lmeYlerHy?%/'$(o%=x4@!`$Na%pz$nu@%)^@#7lmeYlerHy?%/'$(o%=x4v0%c`$^Kl7['cFy?l,wFl,hFl,
 idl,bLl,&U*%u@cHmLcHfsMdOvvcH&xcHc,rIErIy?cHo0cHwFcHgzDdOMj,Nj,XIcH(ocHbLcHidcH@!lnbbMdOb9j,(|cHhF
 cHeicHhUcHxvlha%p!$nu@cHmLcHfsMdOvvcH&xcHc,rIErIy?cHo0cHwFcHgzDdOMj,Nj,XIcH(ocHbLcHid)-%clnbbMdOb9
 j,(|cHhFcHeicHhUcHxvcG^Kl8['cGy?l.wFl.hFl.idl.#1u9*%nfMpLyul)D7Ce'`R@Z_`RS<7`Su9`TpVr/aW`He8r*WiioU
 wlv1w)[).>ep.>q&av@D.>uA.>v1w)z![)[?$*yUl]#n[Uk0clhAcF#ecGg~[)_#no.E@C?;[)[??;z!cG[UiG#ecFcll^#e,6
 sz&;.6cHw)z!cH#Dl/ephAcH#ecG&k]T@C#Dz!$;w)cEw)z!$;#DcF@g]T@C?;<!_y~z!lbn&y~<!cG$*BvC#ec`xM_=ZcFjx&;
 #elA.6cF#e,6jx=ZcF&;jxSxM_[mcG$*ephAcH&fcHo?aLcH#ecE$*%-_?;<!cE?;?!=ZcJ.6cJBvA@gz%eB#nsy?+o?eB&;sz
 #D?!#e_=ZcG&kl~.6_[mcHephAl]@g_epPeB#nsy?+ephA,6sy@g_*)#nclcI#ecE?+uAaKq%&;clcHbdl~&fl^@g?!#ecHuAaK
 h<cHuAe]@g_uAaKq%#nclcJ&kcH#nsy?+o?eB&;#e>vcdv6!YSlbvC#ecG.6lnPg>.hbvW_v6!Yb7.6@Cv6!YS?!BeM@D_v6!Y
 b7.6>vcd^4kJeClD^4_v6BvAo&lN^4l*o&lI^4_[m?^^4cHqs@DlHwlq&_^4>vcd^4_#ecI=ZcI,l>vji%-_h^M_fbfYiEo&cE
 @#o&l]$*BvB&[kShLcd?+r)cF!zcG=ZcIBvB#/.hbvjK@#,lcE[m?'tlp*E?'?^qs.hsyx%@#y~l*x%,ltYl*x%[mcEy~.>C$G
 aWqs.h$GE[))Oq&cE@#,lcE[m@D_qscF[m@D)XcEx%@#y~l*x%,ltYl*=Z_yKoUw)t_yM,6rg)OuA@C?;_rg]T]n)OuAax@D_#/
 @C?;_rgz!cH.6@Day@C&6nocGighK<!cHeqj=lirQS)se^sy$*yU.C!#.Cq&.CuA[?&6[UkZvByKeXy~cFy~@D[?&6w)av]n[(
 &6?+?+h<cIy~@C&6w)[)aw@D.CuA[??;_#/]T]nkRfY[(?;_#/@C?;$6.>!#ay@Cx8no@D_x8v,?+o?)([(x8v,@g_#nvn@Cx8
 sz[UcF#/[).Cq&.CuA[?x8#DcG.6cG[UiFw)cFy~?'[?#n?b]T.h$GaW#n?b_bD?'_#n?b_h<cHbdcHyU?^#n?b]n[(#n?b_h<
 cG#/@C&;no@D)(@C&;cl[)[?&;[UcFjx=Z?'_@g@C@g_#/cF#/cFrgav]T.h$GE^:_bD?^&;?b]n[(&;?b_h<cHoZ#/[)^:z!.h
 bvW^:_.6cIr)?'^:?!h<cIbdcH.6@D_#n#e@C?+r)]n@C?+ym$**=cI.6cIBeMcHw)l/Bh,l/#no.e:&[_w)<!cIBvCo?lc$Ge:
 !($*#q.hbvWaz@C?+!($*yUcG!#?^#ny~lihB]n)4cFy~ljpH[(?+h<cGoYy~)On9l,o&cFym*=cG.6lbvB&[t_yM_?;cG&;$a
 ?bcFyU_sc!YS%&l^yU_y^l.obl,x<v6[US)On9kJeCcDyK~+k]bPb2~+kBi;bo~+k=Rj!~+cDRce~+kBcmvV$qiE%-kBh0EZaW
 wU)<)Xl*#!,g)Xl*SePn%a,k[p)_wU)<)Xl*#!,g)Xl*SePn%a,kBh0Ec,c?p)_>=?`o.aWjxv,wUljpHk9ePn%l6*^jxv,>=_
 wUlnpHcEymi_ymbYIb3bFiD^8!YtkTa&T~@l[/'^e<!'=.v!0![?&$Rn|[.]svncE$><!_,f.vn|[.]sBeJ~L!&~M,/cEvd~Ld4
 ~L$W~LqCS~qe9i:j>-=9~2>y>=cE^9)<>y>=t3a*w@d`c`qIL)<cG![cG$>?`._AjE~MwUSjib|y:~MwUSji%-_AjE'=k-Oy:'=
 ~@)<<!'=.v!0![?&$Rn|[.]svncE$><!_,f.vn|[._,f]sBeJkEx/~LvdkDbG~L$W~LqCS~qe9i:j>-=y_^9)<>y>=cE~2>y>=
 t3a*w?^8!((<'=%%-!#'=cF$((<)s]ckJjs~Lp`~M@xcEy;!(![]c)_cG$>]c)_zQj]iYN<!zQj=$6]bcD~2cE![cE*se9^8i!K
 w@!(*HFikcdsBkJjslDp`lDjCElC~2lD![lD>=lC^8!(*HehSshjsl]p`l]jCEl[~2l]![l]>=l[^8y;._PdG]c)_~@_!(?-/%
 )_kJjs_?-oU@x?J$n$>)_l*p`_?-/%)<?J@x)_l*y;?-/%)_cD^9)<_?-w@![l]>=aw~@_!(@6,9wUkJjs_@6_@x?J(1$n$>cI
 wUl*p`_@6%f)<?J@x)_l*y;@6,9wUcD^9)<_@6cE![l]>=aw~@tlcq~MwUSjjeldYnuHjs%fcEp`l*y;Sb=bo)1cFwUcD^9)<cE
 ![cE>=~@_i!wN,v?`=9d`)s%f)<.wl.@x.wav~@_d`_&g*HsB%f)<cI#Bl<wUl<@xcI#Bl<wUl)^8$R&gFRh!)<cH![~@_$R&g
 *HsB)<cI![?`=9!Y)sS)<cG![~@_!Y)sb7*HsB)<cI![k?Yg|fM.O,8wUkHdCkSLq)iTrzReFXnui*ciiLEOcn[.kGs]_h,eTr0
 kIh5Ua,%tkRoQ/'<g?&i3ji/'=y<!cE^8eqs^/'=yl*,f_*,vVv#yF,%_b[iz&[_i3TfYcHjxh)nocKi3Tw?e6BimS<!_sz(ecF
 nok?h_Mc)e6Bimb7(el,v,(ecFcll,(e_clk[ObQo#_(ezPTa&TkW(DzIb7qskSh0EZnum4aLzIc=g<K)<cF,gzIb7wjqskWfN
 l*wjm4nuWoFoU,fzI_jIKzIpxeXsynokHb!r;fY>u<g?&*[>=>u=y?&*[>=>u=9eqj=>u=yav>u=9m2Lw?ehEKSc'UaYnu(ekS
 jmaLcDiTizehEKb7o,cF#DcFg~k@a=iDb[iz(ezPTa&TkWrhbwSkWfQbwiDdzc=g~oUh<kSjmoUoXBpB$n,/SkSjml[BxX_bdf>
 e-aVf>e9xe_&h(ecF&[k0h!a&sjgZE>!cFqscEv7>!cFqscEx%!#cF&[>!cFq&cGW(DcGcyWhqq|uAcGW(DcGcyWhpgpiF&[>!
 kTaQr!&[ueaDaLcDg=b7qSSeBr4rQcDg=_#[x<yYcE$Fx<w-k'q$_!&SkWrhbwS)<.qcDyJEt&CwNq%Fmop)oUg=iEr2%-l,yK
 oU#q$_tUymxe_ReFXnupYb7AGdyi`ehEgu&cSrZoUh<cF#q$_cDTaMrW,fcEh#yJe:,fcFg=iG,fkDIiWg=iD^8JAW~@l)b>aD
 k^dzcDe4Ib-pRkBfCLDeTa9Pc`hHe_,%iD=9i%ciDeTa9P_pYcD=yu*fCLDeTi3yEockxf4cDi-Sb^<g<!_r?TaCzQVnteJcDi-
 Sb^=y_cbf4w?$Fa`Dc)i3yEoc_a9P_peTiDg/B_eldYA$=#$<Tt<k[w/cD*6-=9r/e9*6-=yl)*6_Hv?kWa+rWDaRrWo#kiCgu
 i-Sh?g/Bb7e,bhiD]2)Rqg<?[daE9BasFbcb$,e<VcDeu1as,/_,e<V,+,ecQ]RFlw^6FeK,4%mi;LgE/Q(IG~P(3G]U/QK~P&8
 dVT]ULe7%m];(3)mdVjj/QeK^r*9zy];T>llC&4/P$4)`]UeU[#dScJl|eqL<HTz^>*/&?5u(i|TveCl]$n*%(3K]U&8n8#fDe7
 ,4%m(x_#f&8dVTtgl^eK)`<HRlE(Gn8o?tgl^TeU,4)`cFe7lEDe7,4%m/Pl,I^ll^O)`k-eU,4lEClES>kk@ut=h!8bh=.AZU
 kZchj1j=e_!8wBd7k;eWj)j-j[Ek@cZauZaPLpabio)>Tf+nks`ggh@LJUaHpc/`g;o=bDj)hOOJf+iiysbzcsk-VbRnpUbuk2
 iij)f~Uk@01dPb0y,Sf+mWs`yijRUz1wDb:k@0aoaus:$njYk@026aus7&T)=jY<E&Tl^Ff6k@uuhoa*eKc'UAekaWHMhy,5pN
 jalhrHrHoyp6XmCbnlcdNp!bXlmmCCmCjalgdNm|b]mCq:VmCTXAlkXdNFdNq:QdNYmCQdNqAXYmCqADLmCPp!f=cGMp!hJulcG
 Rq:mB!rUliliOlelee:Wk@13c;r5ac)2M)2J)2V)2S)2G)2e^ynFh)qEbDcHTo.cH*6cHa/IMl9w^b-BRdFcGXW_XWk9zrg*#$E
 hak@14c;`TE1aqaug@xuc^cyJ.pDj+k@29c_b|i_&4,yT%Z*ZM%1xlSuP%3W%0ow,)IkD([IkKUkD([Ij(j(nI([e-n/B([E#WA
 nI([AEkC)S(Er5k@2Cc_Wd,fD&4Am#kDm$%ZG%3P*GNm<.Vm(%2yhJm[m@m?dLpih?myq-pLwKow!Pxlj(byH.Wq-hykCuBuBw@
 qnn*AmcxsUn*YIfGyITsyTclNf;btf;btbdI`WE2Fe+Nf,).E7nrEiZbEa;>iHHsYHHs_HHs3HHzkHHznHHs2HHc$k@7Edropfw
 HHsEHHsMHHzbHHsHE7aLatopfwMWo+WaMk@7Fc;QsNQzcQWnUsNBzcKWo;zcKsJGsNGzcGWnVsNFzcPsNPWaMk@8lwMeJaWbqgg
 UI>iMcSc[o+cTc[u0agc[y265_bovT95c[vT76_btx?48c[x@79_buu0ah_Wo+cWkxk6cX_Wy326_zcb(an_WvU14_cxx?45_W
 x@94_WUo+143_cvwC61_WVwC49_Ws[b(39_Ws~McY_g0k6cZc]!eaikhNua59c]!J94kghqb(54khmdMan9kh!Jajc=wCakj|ua
 alc=y350_dUua97c=vUag_a`x@38c=x?13_wC14_u015_y363_EvUaf_vU65c~x@47_x@37_nzb(31_oYb(35_oYb(95_mdMam8
 _!J19c`wC20koua21c`y362kpvU16c`vU36kqx?79c`x@96_b1u025_LwC26_Lu027_Ly284kdvT73kdua54_bzx@53_Lx@aj$-
 LvT16_DwCam_vsc3_Dy289_aGvU80_aJx@81_Dx?22cAwCaoktua24kwua91kuvT55cAvUahkvx?69kvua28_JwC29_Jm'c4_J
 y357_bkvU13_JvU60_bmx?63_Jx@75$-Jq]c5_Yo+c6_Ym'c7_Yy3ai_c!vT80_YvU41_c$x@21_Yx?apkaua35c?u036c?y278
 _aXvT75c?vU33_fmua88c?x@97c?Um'aj1c?!e37_hgk6c-c^!e39kkhqb(amkihqb(69c^qoMam6_HwC41kbk6an6_Hy240_a8
 vT96_HvT42_a-x@40_Hx?83_HaMo+al8_a-Oy253_HoYb(30_H!e87_fEua52_Hn,b(93_HqoMah6_HU!e90_hewC43_heu082_
 hey315kja2vU46_hevU56kja5x@20_hex@59kja1m'al7kja6u086$-hevU06$-heOx@83$-hex@55c@o+1ak_ofb(68c@y390_
 a2vU66_a6nzb(67_a6mdMan4kj!J57kjqoMam7kjU!e68kmua99c'u050c'y281_bJvT51c'vU02_bNx?66c'x@45kfwC62kfm'
 al2kfy247kfEvU88l,b&72kfvU72kfOx@74kfx@87kfUy361$-MBvU05$-Ma`x@42$-MBx@32kcwC92kcu074kcy244kcEvU08
 kcvUalkcOx@58kcq]dac@BwC56c@mJb(48c@By293c@a'vU07c@BvT71c@d2ua70c@Bx@71_Rm'c+c^Do+al9c^vsal5c^Dy391
 c^aGvU19c^DvT67c^aJx?64c^Dx@52c^pab(92c^Jy349c^bkvUapc^bmx@82_Vo+an5_s[b(51_Vy373_cqvT85_VvU44_csx?
 77_Vx@64_hoNua58c^jOk6am0_b]stMai8_b]!J60_b]qmE8C7at!=`~=h(irLiGiTiG&JS>$iGiTl.&Jl.gZp<Sk@9lwa(gz^f
 d$freup@bvl_b.oRmJi,hoIYo)PnUo)q_nV!qh@vyY&Gk7stgek;dMj)bloRvhoxQAAfrof#Ns<oxs[wLGa'ugLk5Ph@i!]Ud$
 freup@bvl_b.oRmJi,hoIYo)PnUo)q_nV!qh@vyY&Gk7stgek;dMj)bloRvhoxQAAfrof#Ns<oxs[wLGa'ugLk5Ph@i!cDd$F)#
 aQn@y8l)=#)&wkcD.7_,ecDv_dFl[hmrExi&V)&E95`XE95e~*O]6cE,(l)EC7dc#oSf:Q_(i`[nY`Kj1[b`O@kcF`OiTl,$~l,
 $&l,fn$'/ki/$'$eY.[Y*m$'gyfIgyf@tWbpz(<DgjOisgjh$hqhRaZXeB`]nQgxEfAe(kH@r(<%.cF[liEx:z(<D<5=KTeN,`
 cE<5gyH)&aLlxOb+qhc`f:Q_(i`[nY`Kj1[b`O@kcF`OiTl,$~l,$&l,fn$'/ki/$'$eY.[Y*mTzjgLRa?mc<5(iyR?j'?Elkn.
 v6&Jz6l.sc,`lkaQl*F@rosz6b_tLlw%T@|l0tQfHpbzRtL05aty+s+tTfHiIcEzogetWg8pOtYqnrwzLcEfdkSlUhYt1fHyjcE
 iSkTwrpkkTf>kFlUc*fHv:zSwYBnx#JvXhYtL2dd*OBnxpbtL24auf]tL2dof=tL2dsjQt;frLl_pO@H@F,=tLapauyjk-nxiY
 fIpktL3dsevtL3dPv:tL4dfr`eBpbtL4dof=tL4dsjQtL4dPgztL4Dau=DkYbdzH1au,=zH4auyjzHdopkzHdsevzHdPv:zHDau
 *@p-zHF:4hYtL6ddr?TveBnxpbtL64auf]tL6dowiy&YnxgetL6CaupO@H@F,=tL74auyjk-nxiYfIpktL7dsevugfIv:cF*@a'
 HtL7E:4fdtL8c|p`eBl0t_fIpbt|Lk3nxjDugoYwiy&jQtL8dPLl_pO@H@F,=)Zyjk-nxTf]k5wiiXgEevugfIv:tLAdd@Zc=nx
 pbt|LtLA5aujDugoYwiy&jQtLAdPLl_pO@H@F,=)Zyjk-nxTf]k5wiiXgEevugfIv:tLFc|,r_@;%mb9cbeCcF/qexk[utb)HJ
 hy_i3E$7WfWkSq$l*sGl*xql*q;DxTcEwel*zel*qkht.4`VqkhtBa.d2`Vqkht!#`VhMg8bFeiDkDa.BqqaCbViwiYb<g8b2rg
 kScjMn[a@jcNkWw]kLbAn[mEk[c4araJg0bHi3aW=*l*>Laf'p01'p02'pag'pah'p05'p06~YzzcE,McP~Y-01~Y-02~Y-ag~Y
 -ah~Y-05~Y-06cP@Ak[0lSPg&w=d]zzkCCvPSh]E`ViTl]Jdwl]#xl]xQl]K&QF0Bdda&vPwo`ViTl]Jdwl]#xl]xQl]pnl]q;J
 bAn@F0Cdda&vP&o`ViTl]Jdwl]#xl]xQl]pnl]!vJbAn@F0Ddda&vPCLce`ViTl]Jdwl]#xl]xQl]pnl]$QJbAn[fmgDb;js^[
 kTRjscQ^m%ok[uu.;bH/pcE&ihxl)jel)y^l)obl)n-l)i/u%nFl)v?l)p9uxfYBdH&f@[.;h>b>!4lG*)td)ApxcD[@%V!?%d
 zgq(bva+=;cC=Mtc`0cC[-,2eB~#iC*)&U~#CcHRk>DcDWZt^PYwX$q>q`0k^Vk'VkBDkBSkAPVcDWC?>*)`0cC(?MC).MDl)MR
 l(*)aBk>%mq(bva+=;k^UpIFw(t']/`0cC&kki]/~#Pt']/a;kQ%2a%kWC<=aI>qCLk>ObBk[h;cDa+cDhbk`GcDbAkBOiDjxzg
 ^CViD$)DcD$cc`enaQcDscKcDv6KcD!DKcDv2#4xyygl[(4sc#4yOi/jfPcD>2_$~c'~?Dk^Ck^DRk^I-iccDg^Sbwb3kBa_cDU
 HDcDj'cCMa>Kt/K<&F1Edlh+IbDd&/#,|&4`?<=/ya-bn>q//btpqbXk[21c:CJK_jwvY=<624B[/B57[/3aBcD//aGk>JK_jw
 vY=<aq8C[/91A@G89E3[/929]qA4[<620@G7al1[<599[/24D[/F8C[/anD[<5B0[/21D@G7D42@G751F@G8CA9[/8F0[/439[<
 F14[<295[<355]qaf]qai@G9ahA[/aG6]q2D[/3F3[<307@G8D70[<253@G7981@G7A7A[/408[<E80[<7ai[<708@G7533[/27
 2[/5B6@G914Dk[24c_[-,2eBCJK_jwvY=<672C@Maqai@Maq8C@M5B89@M70B9@M6253@M76D7@M52aF@M6557k[25c_*)/!_a(
 Vd<AohAedPTk[2l%,<S<mc?j)Ls=a-)di&d/sTCAIk[30lyczLxxFb`GjZ&h,Fk%fR(9r<SzFRf1$;b/$CSzFRf1kzf9SebaWdH
 DcnKzFiy$;u|fYiCq6d3kyRa+fwdHNfRjgy|z]cCj`eah=gZKYkxjZv<_f%BaWnCbJ-a)iem#gUa;a>kCb1a$a@r>bxdJf%B&&
 gUa+fLiChb_pW<%cuXw=(]l@fhi`(<l@cuXoUa4Ba`cnl@Fjql@Wa/oUa4Ba`cnl@g$cd(<l@Wa/w=(]l@C(]kgqlhbkg,p!Ufh
 i`(<lBLdClGFjqaxzFl@Gg~fY)>i%OT&NrQMhwy/!vDilLn'$QSsszg$nCpAtQHfWl.zgq6kzpAu(Nq)w0Nw@i-b=aJk#b`k*fW
 c=g~=>Hh.aJf.Ta&h=d9iih=ehb4NcotBaLLw>Ej@we_i|e8e%a+UOUx;h^Muwa&Ts$Hh.PaRPn?cag=kzf~bVc=g^SbCk(Ory
 a9BbgerzFFw-kyg^SbCcCe`tub)bie-iee8f~BcCv6bwa)tjVn?gKg*bwa)k#l3Nl(bwa)c?b!r;oUfZjIe[p0bSbCtCgMh=a@
 dWGfXk$Ra<n~gRqly|gRqlrDEife8LaPqldRd*k&fXd?p%q;d?p%weuyEmnqBHkzf~bRn~r>WdWRjZf?d9GvFg,vPbLc/dJb*dH
 h#BxxbNciTbVtrk(oECq4n@mFt^bAeBiee8m6Ytguzb-a.oUd3Lk)bIf!Tb:kyh_Dk#ibaCc?bRn~bSdCaLt)eZbNb9r7Dd/h=O
 Dn)b5i$k#bReBb0bRMPk#f2j+bo)AWbfb$aGr*k)hs_oEena.k)Ha[eBImToEena.k!OjpNcot^Obqe8ejChub-$ZCd.jZLbBg=
 bEkzUr<e[Hhxc)bNTk)o[d;nHeMbHu-bNySfmDt^bAw>n+zybsbae8b-Aep<*otp%Sa*aWmOg*l|epk*oTv+t^aDr`l(TilwyD
 rhkyEeTb<Gkzg<wNdURkhGSt]Bc)mOp%n+zybsba&&hJrOmOL&&PbEPw=bFKk&bECh(k(IBBqlWRd?eBqSeMkybfb_aEc)d;e8J
 dw-b^Ld<eScCmWb4MdEi|e8n1eTmWb4b)iCn7jJKiCn7jJKc`h`brn?mFOqlh`jfPx&t^NFaTi6!sTd*dTa^i|e8&k_n_Sk&oT
 e%h$$</,nlSzCP_r?a.n?jIaKeib*t~h#crEWw=eRg3YtAa-bBkorJLk$h5UAyFebcC!+zgr2h#iY)za`Uh0ySFw-iCgZbhmmgP
 a,k(aPfWeTbRBBql(c_gnu8%mJdwr~caaHbHxcbKxxbwj>c`g.n?!%b$bsb~iCa'd(aKAbYeJoU(cz*iD&m&PFbcMc?h8n~a(g1
 r,_rZEr|ecOjzb$fBryaXbTf5zdk(Op[c>OdCn?n8oUbNg*l|n8cCxcbKxxb/crEj+MeQkzfXMdJo#bKxxa=b:i`h^aTrOr6Hmv
 m2j#iTjgrZn'CLd?eT%|hCoaoUa=r|VfNbHfse8v#cdf'k)Lh.b)mVnHbcbxd]iCfsaWaHe8d3p/k##[Pg&w=d]iC(cz*cC,g_
 (cz*r~AXObKxxa6bhmn(c_gn%|b;jsn'Vbeg<cC(c_bYbFe8bUb@oUi$RT)AdBcCiTNf5h4h0Tzy!sSgql|Sgqd2Tt]SKaTmFzy
 a-bEkza8h0q;n_%su8n?bUb@vFcmFvFPbFTb7gPAgCi+bKjZfBizh4w>d(ied=n;!sbUGBYuzWIMgUk*!DLbay/f&Fn?h4oUb/
 i-CczbwzGkzieKeZdTzy!sj`bwY!saZaOaKa-Cgnt&aDzy!soEa-Cgnt&aDzyPUm3y%t,Nf5bIm;zymF%s_ebhAkg$Ckza.Pw>
 a'a&&K,FcCu|w=bDr[C$<fCizu|fYr^f9SebEk!eRg,cdfCizu|w>Cg$SoDuxEixjhbgg!e[b=(0h`gti^Df_cCfCizu|w?zgG
 d]n)OaYoEu|w>/,hQsgaZmTnCbJa/l@a-b2o7t]Ngta@b|gMeBb-p[kemVe8a-b-gCbzVv.emVeLeIaWi'bQtAa-OgCvwTpRkr
 bFe8fbi-jZIc*bnjPLd<eScC/,CdCp%nCbJa/.=_hBNd<)Eu!a[oU$Qn_cD.0bSiyrO.0gwEgCdQg0Th#h4h0Tzyi&b+bwCOm3
 d3zy%Ua.PfBdJEb/Jbj,ekaTZbIr:K_sdaalusd-3%ok(mvg4ryOjMy|j;aYAbzt^WcCTbbn?bwbEuHRa%dZkzmvDxTkzbSCOaH
 p%WHd#k)b=bck)Na*e8fBryh8k$Omvi#aRt~NwJbSOSy/eiaDn)aJf.bLf.a`mneGPf@jgOCi9Ur~qIL%bkyUf.d<cCHhxYdUcC
 La(c)dUTp%n8cCTiloDl(Bg~n8cCjdTp%Hmrw=a9m3Ba%Yl(Fikb8fb&PBbfe[hBa6bdcCbtd!k&OODp%DijaLdAj+gRt]Ci;a/
 uxbBhFNt~jz)uCOWl(TbbaSl(Ra%dZuwa?uxxTuzPh<oUWf>e8fBiz!Ug3gnuxb`uybbl(foGl(f?r=u!bBFl(Be`uyl:uybb_
 b[rybIWc'ifr|eiPMckgt!Oe6cCEmnb[ryxecCyJE.fjx/LmEwmw)cDnolCp$lC/Xn9eBot),jC&PbAl@y~b7cll)*]CLd?oUot
 x;qsl@CimNk*qhSkbjge6v+n~b>aDy`TcRbfjgbka/Sk!iciCbqpVkyIKbdIk*qhStjrRk&cmryota~f.bNUm0gJiBa-e8dGbw
 i2l(o,-o&!~WqhiBl:LcDd2r|n;Pifr|aAi`fZSbcfCaTrOaAb4Sl@a`jZf#gCgJk*qhk#AgZjZpIl|cxpIfAv!otiCscgTl[cx
 gTl@PbBoEOaYa;n?Wqh%maAb@c)e`iCd6D&&VeEcCqE,pBg[aKorcCpIzga6AkmkeOzVdRcChveTMmbWqht]BjZemr[vot/Kn?P
 ifCESiC/,b`bQk]b~g<k$a-b4t]Bc)AhdgCvOiUrcbRd&d$n)d$eNg3Sy/IMPk)KjqcC>R_aGSK_,!wfSgJk!d,n?g=i~m3b=bc
 c'bBf2cCvVb)i?ogorCUjgmGeTbNp%SjVhdk&bcgCgpS)%bzj]#%k(w>GaPkrxxgpiCa`Uh0Tt^UhK%m&CjFDw>a'AyE&Cd7KaQ
 l(scwor~h`broU&CGim&N!+zg%UBb!aW&Cwel($TuycmhKl(!+zgbRBBqlbQj`VoUwoiC!+e%h$$<*>i!P&&a^nm#qcC*`_#&d8
 BcCd/aS<%BbCBk)p#fY<%CbBbxr,uzPpxfYt)a?uxilLn'm9<%PbcvPbNh=n|nta;aRiCaHc/Y<%Sx'_mFOqli0jpT.=c?w-cC
 &J_xIS<%MhxYj|f.m6eIc)e4oue8#a!?),Ch|f-CuHdRKp_%mYaQ)/!?l*nCl*bNjul(Mhx)mWfYr^f[(9,Ib;eJzyYaQ),bZmv
 qEbDd&elPUy/d6EFCAryg0Ie/Ck#g]Pc)e/gtx)d&e/Ck!Ve[aZg*Fhvn?qsl@bIa2>kcD&/sxd+eJmnTe`-OaYuwd]_w)kzf[
 (9,ITibe]/bl(dS_mUTkzg=%|Pj!hHcCx_l(x]Cg=k)TxUcdRcin?=1l(d2KpJktBiCg(Gn?p_d2K%v_e%h$yGCq(kz#?d2gtqs
 l(wel(Bb!v.x,v.d2KiCg|aWdQogbYrkcCgSh==YxYj@t`Gn?FAXkemVEk)dFLg>aWd<aQb=k&ceLfMAaFicb7pASqCn?ehEx8
 pPbKxxh<d4_i:jZbdd4uydwAogE-b)bc<%bdeloU=sn(g]&&=puI,X&hb)bcd4%mw-eBn_ucbg!~qslJw-!~qOu-qOd&o@t'WS
 x]t~BIg*bKxzzg]+_a?)zcrBRuLkgaGt~BIg*bKqkOaYk%OkgBIg*bKhxiCd<Eb@%YdSr^d(bP%vc?pxcCVfNOj+gUdJrMVf3ql
 h5Ih=VfNOCAi@jbk#bcMtwbkm5k&bFy%t%bQOk&h-eTa'a(iCcbf4eB]+r^*7_>;l|=]x%!#l=zg*)qk(rcD=pl|,Ix%&guIiC
 @RlPpBBx7p7<%o,l@SqCE(GCu~##<#SqCn@zghx%hz]cEy^%hz]St]r;jZ*`_hMf.[Mb)GNbaYoUv+.d,$l@p~%mbdKc'n)&hp~
 %mwJwJp~cCqsl(mK%vc>u~##<#d2K#'g<K<%h5bej;b+qlmE%m]@,XeJlG,p]6?,/USO,p[0r6zg?rhkqkyU_v?eD<%gnebt,cC
 bdPco@^wV_*%#%iGyul,#MS.tiFwV_#%iCn7cC*`_i-m0Wibm0f?gUk%j%l|d1jgHhrh=bLi'gCxcbYbEe8rMbYbEe8eoi^b$!s
 r.,#r<[$v&/,S<m_a'a4b@n?i;Dn&aPd0M)E<yUb+ql<i#!q;*,Bb!v/x,aW&ok=b!v.$nx,v/Bb!v.?n_q;,DcC@0l@?n%fl@
 @0lB@d,?)'**<c*)vnc'bCgQkzrmc'bCgQ%mos-&g%7PbCgQcCxreBp$<vL&&/-iD/ZS<mz(b7egPy/$QwV,3/tCaOi2l(bC<%
 aJVvPqBe8bnAa~t~Sh0cCy!Oa6e8gTh$&Kp9c=xVn~d3Ltua:a4Ea|kzp~_vVqkOCp~`Ll*iTl*!Fl*$^l*qj,~je.#$(,~ob.#
 n-.#i/.#yg.#v?.#p9.#iT.#!F.#$^-$&)Ic`qCn[zghx%hz]cFy^%hz]Skyjqo@%v%hz]iCrgoUmKkyObAkzd.p%Md<aOhGCE
 tjm3!vSKjqzyvnBhxiChkqICjZfAe8pIfZaAb1p7ksf-bwVf6Tw>SLaUi1h)b2Yk!d'ksNv+n~b2a+n@cvBcCbmYi~m3pIDd,w>
 wXwm=YxYVn?=YxYj@%mbIog#+wm=YxYj@.fyKyI$#xx.1=Yh#r6htb/DaPkzgzi#bykgBIg*bKxxmEtu=sSiKP!~n(g]&&w0Nw>
 Fb#oU=shB$;SiKP!~g<KeBx]Cg=S.bPj!hHcC#[wXPeIIgDmF#4Pn*a0$Cl*PdyTBRy1Ch-qlwXWiioU!:(3bA_ot),(?=%/ohJ
 c!e[,*lMy~b7cl)/nol)crm5c)otcD=%&;!Y_!MEe[(?=%h`cd%-,6l|x8!YS.fv,/LwXwmw)k)*L$QwX,$l*/Vu6<r/U!vwX/L
 mEotl)/XS*L$Qjx,$l*nol[!vcll]*~!vjx/LmEotl)nolC&CaGSKr6elPUy/gnu8zyg4ry$)NaTjJKeBelPUiUSk&ify/bNaD
 eZd+Ccimt.bov%bc?g]Pc)e/gtzelGShslBiMaWeci;DogWIq;gn%|qkaAb+h#g4ryjel@y^l@Tq4!sqfqEbDd&elPUy/ov_e/K
 tAReDk&Rw]_Iemk#AXl(x)d&e/CuxOCUpR%miVjjl|Pa;jdnQa;Tjyk#Rd(l]i3EiEd=X.bFhvn?Fhvn?qsuwd]_#n!>RiDaZg*
 u-aZbwj+dYn'v@z*kQAohh]cCp_tPa2tPe[v@_aJCUpRtPa2tPGn~aJCUpRt`ogbIGn~WdCEBa>Kn'SqILz*_h]k>a,eJa=uxES
 Kr6jIaJWcCg0fVZe8b)XfVZe8q(g#kz*7_#+*u<vg*uIr^u~##_jMbdvmaWflcdb1c,<%aGvmElBelqSr,cCqfwJrkaL-jxhbS
 x]t`G&&*)iVjgi'aD_mUjgewGeTbsbae8g=r~qCoUo#tpSbcfCaTrO$)h-S,Z%8p$cE('wXSx'j;BBp%/UscSx'j;Bd0iCy^.`
 i0jpTj;BBp%[Xd/aSl(/Ub/ODl(w0N&Qb/Oe[mFh.d4%mmFOjh(IXk=bG)`k=hvl[d4z^lB#&?TmFh.d4%mu9vdk*bFLaKgKt~
 ckTc?UbltCKc$kvWvFb9cavPbxdWcck)bcfCEjbtuwEt~cyIk$ifNoUn0cEzgS(a!O=xTe`StubmYk)(a~gcHl|S(ae6ScIChv
 t)a?cITfRTb#-&he6iFf>h@o@iCjIK=>S(a^D!OvVbXcsUx8e&a;Iq#fme[bQbxEV/eS(a=xwo*be6SueNv+Er~MbfK=>(el(aV
 qSr,bwSx;Ug|cn!~=xChvt)mvPn#j]!UemFcn!~ema0ju!~gpS&NvVrVWoUa^gpiCgpSoU^De6iFm4!~>FTjm-q%yJe:l|jIwN
 e6cHTfRTb#-&h!Oe/a<,#!UjJbR!~d/bVuyh<&Neo&NqEEj@&N=xbzbAtui;jsHk!bga<,#Bj%bQbxEV/ev7oU~gcCd/Uf2/eF
 e`Fciu!EdAuzp#Yl(i5!~GbRgG&NpAgBeo&N~gcCHj!/e~gzyChvt)a?kBena.oUfZaXmndChzb0/eFLj!!~Sp#&NaHc/Yl(n0
 <*xe%v_gPwyMa>Kk$ifNw=dH^D!OCdH=xTe`StubmYk)(aCdH~gcGwo*b!OCdH=xWbVc`gZe8gpSw=dH=x&h!OPh<w=dH!Ueo&P
 cvdAl@Sw0gBv7fYu%gZ&Nclr)-*]=xrkoUe6iEhka5ODc@eWUrdbAl(qEh#d3oUaGaRb#tBE-Nb^Ecrb$g3wJo$-Nb^EVbcuzqC
 -Nb^EVbcl(Hd?c)qEh#q7oUqk!:qEh#q7oUa`i1otStpCeGBq9qmv7w?zgPh<oUn0kHhveBotiC=F_/Lbwa))KlB=E.BlB(3=F
 .DlC=E.DlB=F_/LVfXuzq$lG=Eax)KlG#a=F.HlH=E.HlG=F_/LBcg)KlB=E.BlB#a=F.DlC=E.DlBfApBq1T,_,tcGfZu6<zSO
 g._q1T,_,tcGfZu6<z=]bSaDn'(;l([Y/bl((I/]eZ,tcC/v/]qs.'lH.JuzWdBl@S<7#a&t@$_[Tl,vllDg~lL#aw]Rb~d/uz
 %Oba.'lBs]_wp,-cE(^l(vdeT%|(^l@bSaDn'f^a;bETvFb-a._bzelOr3cCq5jEc>mno,aebJeBi:oXzgu;cdb[ryTq6cCb*i+
 cC#&q5k)b9$<Th8zGkys$xw&NTrkEYBs$Bcnz>cCg0IBs$a.d8d,e8n7_eKfXk&bBoECmnxw&Pb9XIcCxw&NAcobCb~Ip%xw&N
 h:h_(0cqHa;p%e&Is]t.m3a=i2Ug%eBbzbTjZi:m5t~b[q5t~$C_q5jEk)cnhBr,l(b/$Cj+d0jEcCAaSfKcAh8jEcCr%cCima`
 mvSbJaLa`mv>Mi:aYfMw0cC,Ml@emr[vo),PbBoEecb7bQj`VoUw0cC=1_n__h#qOk!ObFk%bHv`),Sb/pn<%b[l@Pj%p>eTfZ
 bhb7qLv.e=p:p>aSuyOy%_y|l(NbD-bNy%l@dXczp%hkdXczLn~dXczLf4t~$Cuyv>RfLk%O))RfLr^HfTib$6w>gTS<%cxgTx;
 rcbSbCt]BY<%b|bcn'y|_m4n'i%Wn?BdGt]b_Tcet`Sb2bFcd!%gCerTbCSt]fxfwCbvIM)Gb!fxog/+zg,<!&iChTa9dZaL),
 *)>RkqcmmTa`c&<%f#LSuwOjlzygzPk)p#oUa&elb/aE$<i%PqHj|GiCmKHbE_mKkyEe[qLvPjJr%cCOCiHbDa,),i%PqHcArkE
 Yk)cabIt`a5DdJHfWUcAeHp%HUjgeGVmtk[6DesPg&G$bSg.e8zdk(oUaAOjZf?gUzyWibm0i$aOe[OIb$Dip)HjEcCq5jEcAq4
 )H_a`mv?n_gZbhmmdzxGcDdzxG)TuzpHl(xqns.!l(dzxG_vwjde9mkVw?F6nZSdFLg>e8xwoUn7_eKfXk!IEbZb$bzelOr3t`
 i@b?eTr%tAOOiU)HuwAb[Ek)g(k#b#oUbXcfvFKdF%|a@i_ieKi!Wk&IaDclt.m3rkeTSKdFk[7lwa,ehMoD@^bOoWb3eIe_dz
 k2Irev<cFy|kYbOAfnTbgkYbOa^h+IdNh+Ia$diVf6e:Vf6EluVfXfuk_fXfuabt@SciFUishFg^bEf~Sl,u6l,gUeqYt(g/dF
 ljceg/dFabt@CIb@a%mpivTk7bhrecri;OgEcri;bBlubSaD_ivjkivTluGhvk9bcVn]w~ObQlibQluCbSertuIikuda6gAl^C
 x&kle_Iikadx&l,iAg/mshtCx&k0bSerl'Cx&luCx&_l+MhzdFk9a,sgl^iAg/mshtivySCx&k_aSe,ihk-fZOrebwa(l,l+g3Y
 l,iAg/mshtl+g3j1ivTl^iAg/msb'lEVfXful^h+UgAl'l+g3Yluh+UgAuda6gAab)CLbnp@a,Kd$luMd[a>bhe_iv-a.Mhza&
 kYRSeLCuda,fuuda,fulua@igbbpRkZbgb<i1OreiNTmpiNiNlubOIaD_g/nUh$XkZh$XabzALsqObck9hIIskbdCjde_GsqcuX
 k8OWDn]d+Xk-cosfebj%MbFcasqbYaRiUtubms~CAe>aUiFi;DvBr<R!`bzDeWx!SOAhXUife_fBizDjvkYi#iFbNTl,BiegvbN
 We(!`AgIGl_r>jcksPeTr>jclni:jcluiAg/uLk8h:IPf6Te_e/i3gEe/SbBs~e/SbBcqluPcmbaYk8Ui|fbr1k0RcfId0k0Rcf
 Id0ab%okYLaPdXkZdGtugLj3Vd>cmSudi-jjfCRk7fRTt|Y-NfRjjg3rXwjDh8lijtEk[7l&!v[MbgObYeGb7#+=0?nlC[WlC@0
 u*w0gB$n**&:mN>jmN.'l@s]lB/hlB$Q&g]3%fl($bTd^n'!vb:b]%jEkBw0gByul(w0>j=AmN.'l@s]lB/hlBze,_]3_s]%fl.
 #Buz#8Td^n'!vTbdc)&ocDs]%fl)=A$Q*>]3_s]l~#Bl(*>Td^n'!vTbdc)#]e9s]%fl)=A$Q#]aW]3l@b_fZwd,3w0l@=AmNl@
 s]lC/t/hlBb_fZivi5e8w0l(#Bl(mNl(wpl(s]l@/hl@#&v2ShOeB<;#BlBmNlB/us]lG/hlG#&i/l@#BlBmNlB/us]lG/hlG#&
 v?l@#BlBmNlB/us]lG#&$),#u6)>#BlGy^lB&:$),#@o#&v6^##BlGoblB&:v6,#@o(^_w0lG#&v2^#/v&:i/lB/vr.,#@o&:!D
 ^#/vs]lL#a!D,#@o#&$^_^#wplJ@o*),Dt'!4l@&f<zb>!4l[F7nr#!x,aW*,$Tl)wel)PcmhKl)d7cwl)q;yvEk=b!v/x,v/$T
 l)wel)PcmhKl)d7cwu$7nZ#a>Bk[8lw~$$n/+.OcC`e~$=A`e~$wUl@~6/blMF81c_~$$nEq1dFh7l(`e]@)`cC?s[3/blG#a/@
 lH(;lH=QlH/blH~$wU>,lM=QlM@3'|N!ki!Fjg`e'|#Bl(`e'|mNl(`e'|wpl(`e'|s]l@(;lP[5@4=]!Y-qO_`!=]yv!~`c=]
 elqSS!~`c=]/t`d=]wpl(~4/bl[F85c_=]S%Obal(`c=Fl[ns.BlCsG.`/Ujxnol[F8l%WfN*a=]#&mGl)(;lC[2/blC=FlDns
 .HlIsGlC/@>,l[=Ql[/bl[=Fl]ns.DlDsGl[=]#B>,lC[2/blC=FlDns.HlIsGlC=]wp>,lC[2/blC=FlDns.HlIsGlC=]s]lC
 (;lH=QlH/blH=FlInslHSq$lNsGlHF89c_=]/+.OcC`c=]$Q!ksLbdl@`e~$xreB$t?s[3/blG#a!ki!FcdjHi1x#<biGqkoscH
 y[cC=]!w-r#eB$Q%U>;%;r#!A=]i9lB[3=]wWr#!A>;#;r#!A/@lB>;wWr#!A=]mE-i3rK,?l@[3=]Fikb8i3iRlB[3$Q!ki!F
 cdjHi1x#<bSk[8mD]!,Ib_eN=FcE>;iYNtlVfY%iu$9lw*)vntmgQ%m*EiG(5oaaM)Gwj?U*EiGy^l.jel.v)**nosC_&/o?cE
 xr!'o?<.tYrJDlBhHve!YS.f&Cd7cwuybdaCoU!:ZIPhC-xe)uMhxY-xel(=xrQMhwy/haD)uiZNK&N=xo#acl:ogRb~h.!UHUG
 G&NynhtrSo@r^l4MaW!:(?mE_b'l(wW&/n9.dfb&Noti!Ke8=%#nl|&;!Yb7&kcCbjbzj]c$U_ot),=xCOWa`YkbTkzg~N)ub=
 jza?!~rkoUh#rSv3_bvjpw>DbSbB=>b#&NvVh^Mk)NaMZ=>=xqke6Bim_q7aLk$ifNoU>FiN_e6iFqk#!l|qk$ne6cC=x!Yc>q(
 w=#?g=StBbRq#>FzsSc>q(oUxek)(a^De6$rotl@~g_csg2w>i%aDeB=xaVPbzv!o#k&h+Nd<_WqhkyRns-n3w>h^Mb7jxr4rQ
 tBLaZEk&ifmTpIfZcaXEaJt~rQ_mWb4b)r~HbUf.qEh#aJw=a=TzdcCJUGGp/k#eIn?b/DeSc'n$b_g[k*rcLaSiCy|c'bBh=ot
 !snib?keSKk*bcrKFw-k!ip%mDipSrZr^g<wNv+n~TjrLeTv+k)bNqla5d&Nn'Rbap%fhi`qLaWgPAgC$cl@y[l@d4oUf%Ve8gL
 y'a=Tb7jwoakzcmp/krxxgxrmEt&aDzy!sShs!sFb#oUe/CkzbSbgiwjgAcsCAaJkzcfjrn?Ba&qlbNb9r7ecbSTt]a6Ejbc=h_
 e[we_iva(k)f>pBh~tufmDk)caaYeBn:Bh_e[EGf.v+tugZgtbJa/Ur|bqWbabUIjgh~d;n~DjsLw>fncab>c>OObqe8iJEq%u-
 ejPSrZiCd3L)AbNqlep)Ai:Wt^emUjgd7aBObxk&Ie8hRTZaOkzUySb*mvSd.WIm0eaNeBfme[bwa)c)wecCMd/h=pWj+bot]G
 aOk)(a^De6$r$)woiCcycw=>S(a=xb-mn=xh`jf/zh`jfHmwcknF_e6$rjCY$_cCq(a8a?/eFh;Z&NhgJdJe/a6bg/evVfAv!mE
 kua=iDzghKAv!!OSd~cCgwc>OmvGb`GLn~a9wNd2jgn:_i%EkzRa%cCp<)ubYbFbLqljdwJjwCh()uEAGp%e>gtdTk)f[gtOWL
 k#bG)uaAr;FLjZaGn?GbFoPcCLbiuHRa9b[CEbSr~HbRMPk)bOIe[f#a)aX)uc,BbPl(HaLa2Hb`k)a@ilOe[b8RaVkzieKn'gh
 fuOh=LpvcCqBOm3a9PbNbNiKs$h`bSjgh4COqlLb~r=t~SbOIr7xcBnHa(GvFWa/cCMa.Mh,k!OaJk)Lh,cCOTy/x,UiLk)KckK
 k#gzfYh=Oc&y/a'Aj@kyIi=tBAgCa6fN_aJf.hTBw=a/e8Eb/JbjelhPn&q;orzQLzjBa,e]$Qorkyxxbwf.n;tCh,)Mf~O)MV
 oPbdk)AaXjfVeWcCe`%mo$oUAa+)HItczdCorcCgJUa,l(MeAa/wyd`cDbwf.ehn^jFogepd;e8ivcdi!Kn?a'VeQfwu-fug,cC
 hzqlFd!FaOk*a)fjkycoy/MmsDrhcCoECcenHced0kudJTrkk)iLv!,!bseC&NaGa)l(=xpVCp%a(cijgeiLe[hveTa(cijga'
 d]eB,!qE,po#SecFcDbdt%a.YknbCk>g/Bw?fZbzTj#,%cCb)ogFdzjZVa.hIe8gU,!aOFk$eLe8ZbCBInHq6cCx,aW&CBIbyeB
 ebtAa=Fk$bzcqSt^mvSOaDiCq;GoK=sn7Cq4n?JbbbXWc'Uc/g*hGmTTeWkwBe8bJi;_nhk!g+&tf^IXzDPa>iCa%a&s$n7_e5
 fYUf2n?b|bBu-d6m3b)GNn'b!fxogbzyFmOp%SbNbBturUAe[mFtuYa=Nk)AaXjfhHcCiRDc)a'mnd7bCt]SKn'rktux]t]RtuS
 Oa<k)hPogxYPjgb=Za=_d)Ln'(e_=ecE(=rl.kcE#xcEq~.f!!#x_,.fncc-v2!*S)ElL(elL@/wN,.xpzjxQlDrlax.klD#xlD
 q~lB!v=elDxQlDrlax.klD#xlDq~lB(e_=elDxQlDrlax.klD#xlDq~lB@/#x_,.>2_$&-n-./lR(elR@/(3pncFxQcFrlkZw'
 cF#xcFq~.b!!(3pncFxQcFrlkZw'cF#xcFq~cC(e_!!(3pncFxQcFrlkZw'cF#xcFq~.f!!#x_,.sc&J_(4v2!*S)ElR(elR@/
 wN,.sc&J_$ezjxQlNrlaz.klN#xlNq~lL!v=elNxQlNrlaz.klN#xlNq~lL(e_=elNxQlNrlaz.klN#xlNq~lL@/#x_,.$)&J_
 ffrL./lR(elR@/n=Hx&)El@(el@@/n=Hx&_,.xpc)!*S)ElL(elL@/#x-(=#x-rlcE#xacw'.b!!#x-(=#x-rlcE#xacw'tMl%X
 Id/Qbjq;a2hal6Ml:RoXeGbKuEfBrzmUIqzeaNqnShvIn@!va2hal6Ml:RoXeGbKuEfBrzmUIqzeaNqnShvIaStM7c_mFeZi%n~
 qjhGCEc`WIMb5Ijgd6EFr~o[iCi0b?_iwextM7dpDiltuBbzOe[a(HeVj]Bl:ogSb-i0bYbEe8X-h-kzRcoaCtMl&jSYh=bqrOP
 d@ekrOd2gUd/cCb)GfMWd.k&Ib=b9t'SyEnlStM9c_rgeBxGTkzork(AZbFcCAXe8aHjPgzPt]NJh=gZbhmmf^Mn'AaBh%Iqlw9
 Dipt^bdzCPv`koWtAbQWDbRVn?bvaFn?o?cCb.ioRk*fWOWk&LjvvFEWoUb>aLp%Khikyjmn'g4izi:PtCh,BRj!cCo#b4xxqL
 uHbSm3b.bTh)!soFb:aZ!yc>uHpBdTiUjZf?bXtMmDFLjZjJMkyEaTbwt^aDbSAm0bNTrKPg!jgcxOe[&<cCbzcar^h$gCv@ki
 b4t'S(9EGGiDfbc_d*Tqid&&CLjviCbJbEg*HUGGw>Ph+Nd<c]mb,!qE,pCimNtMm7Bb!EdWbRn~mKc'aRPn?ObxVe8n:Bh_e[
 iKAp%flDUe8b-d>jgbNUx8p=Ie[a'a/iCJa=tMnrgRT=>ivco&N[`_e6$rwmx<xekQaMwNEs2._xecC&rw3!UdZoUg=kyced0S
 tMnZ=%#n!Yzy$*&kcC>;!:/@uya,M_nol)$D#n/LdHrScrEWn?!+otSk[Blwu7c`&#1cB>wal>w3>w13>wao>wc+>w4>w14>w24
 >wda>wap>wdb>wde>wlz>w>(1>(2>(al>(3>(ao>(l!>w4>(14>(24>(l#>wap>(db>(de>(lz>(>)1>)2>)al>)3>)13>)ao>)
 c+>)4>)14>)da>)ap>)db>)de>)lz>)?L1?L2?Lal?L3?L13?Lao?Ll!>)4?L14?L24?Ll#>)ap?Ldb?Lde56cC#[wX]&#[@f]E
 cL(B$F@f]E]u]E)Q_]&$F@f,Cl?(B#[@f]F]u]FcH@f,C,6(C&c,B^Z,C^Z,Cl)wX]&@(_,C)(l/]?,B^Z,Bl/@f,B)(l($F#+
 ]&#[@f]EcL(B$F@f]E]u]E)P]&$F@f,Cl?(B#[@f]F]u]FcH@f,C,6(C&c,B^Z,C^Z,Cl)#+]&@(_,C)(l/]?,B^Z,Bl/@f,B)(
 l)l|#+.L_=1_[lS$3)G.Lzy/Z$F*u_.LlGwXl|$Fl|x7lH=1_>3l(<c/Zw-lG<eqk?Z<Vt=>Mqk?Z<Vt=wX.Lz.?ZcEyYlBx7lN
 w-lByYlL>Mqk?Zaa358cC$F>3$3cD$)>An-l[[lx+yg_!Cx;#+>3l)$)>An-l[[lx+yg_!CS.<wj&:r#E??yYlBw-lBw^bZl@=6
 $3zy#[oslD*Q&:r#Ezy#[wju7k[B94arwXwj*Q&:r#Ezy/UvdeTu8kaLgCw^bZlB#a=*l(?p,B_/S#+,Bz&l).L_=1_wju7)Gl|
 /X?p=1_&:r#e9/Xw-lHp$lBd4_DbPWfYb7#&._@(]McK(B@f]EcH/Y@(]MaxcK/Y@f]Ekv,6x7cJyYlK@(]Mzy&;#+]EcK#+d.
 @?axcL]E]McKwX]Ekv,6(B@f]Fkv,6#+]EcH#+]F]MlF&ocF=*~=cC.O*bxIn?*Q?TwXwjbUb@oUgJ??*Q=p>@[ocC]@zy$F.L
 z.?Z)Iy:;8cC=p!kl|/X(;lPwXwjFhvn?/UcsfNaKwd,3#+qs<xe<?>._vncE&;#+]EcE.|$Q#aivi5&&,<!&S)Gy[)'#+/Lw)
 cC#DlLx7lLb>]/[ek)rZc?w(cEzgd`b7q7nubwa/fY)!(`zgDicS.f?n_ehVikk[BnZbZGpReB`M|Eaflxg!a6AfwiH|EcTc_iH
 _r/e9^Ch1TuL<2).!?l)(!l).JcD<_)P[d/S*w[*&i#g-(b/pkBOg.cn`Wvk)R#S/[).!Kl)?8l)]Bel&|_Ajh`0cD^7cD]C)Q
 ]LcD^wcDpB#*?6~?`?)P@WcD<e#*#+@WcD(XCu~_iH|E0uuy4[n-am`_'Jt<kBn!i-cQ0`+`>%o|"

/-- Further names, the abbreviations of control characters among them. -/
def aliasData : String := "
 0NUgCarNjqk)OfGdtiNySo#w@iVjidtTjM=rjjaraTjM&vyLg1r,cGarEOjgaQQcHaraQbObfjZdw|dldwhjg(ogd#RTcJardV
 t]aDr/E|dpBiC.4_=VcLar=*l?arHTcLarTa%cC&vp.uoEbBuoLFuow3n3uohb_p.uoNgCw3=V|Bar,Mav|BarVjgaY|Carv5n3
 zCRa|fw#:|esCRcCp~fYcRoKhx|EdtHoKh<|Edth=p~fYcRoKtd|e;b0oKbd|e;b1k!AiQg<K_ESebe9c_Dp%DC1k.ar],xxDC2
 |alar],jek!C3cD3ar],y^k!C4cD4ar],obk%a*cD5arb>&^dwhjg(ogb6Nk/dtYNmXNq#a+p%&vyLg1r,$3|amaraTBkzmbdpC
 u~cC&v#Bk<arEbCzEcDAdtcei~carOEbYk=arESebe8aZbw>hk>arFSk>ar>R>h_obk$bScl>hk?arGiDes>R>h_(SyOEar#_>h
 k@arRiC>R>h_xye;sr>hk[ars$b2cJe;e&cJe;DeGrOh]|l&h]v!.4cCwtOCTeZqSaTcKdcHbEkybKcK2ard5a*_hCg2rKHeRk%
 BHcK3arhkd5a*_f~e8fWcK4arw)t'LcK5arNe5_#)i?cKdlr<ySSn!rKAh_cCeJaxcK7arESdJ.4_=V_iycKdp=*awcKdpHr|.4
 _=V%mJUi~aZ!ycK9ar=*axcK9arHTJcCw3=V_iycKAar,MawcKAarVr|,xw3nocKBat&[cKBarbMe[,xw3mEsCcKCatclcKCar
 hMcC(^_w)cKetw3n3cKesbRk)#pb0oKjecKEdtw<cRbaTabcKEdtS2k)#pb0oKy^cKFdtw<cRbab83cKe;b33k!CScLc_],Sb;
 w>hSVmsUizhxcL1asjzaacLdcPU1k&bRVmsUizjecL2asjzabcL2arPU2tBcdyLg2krdFcL3dtTr^u~_.4cL4arCm0b*i?fwcu
 f8b?cL5arMWk)bIcLdlr<ySwfeBAh_cL6athTb-CT!~&vwfaLl?7athTb-CiRl?7arEbIk)OScLdpr<ySb4rgk)GCcL9dt#pwb
 fM.4_bdi+e>vFCIcLAdt#p.4_bdi+e>n?!%LkpbOeIEl?BarCb1k)TcLCdtTx8iUg0mtcCbEeQyEb6b4aP_vlNDcLesObYk&McL
 EarhSVa&c)b*i?oga<CcLe;a</Jtwom_vlNDk%Bb2|a(dta:cDA2ar~#fz<[|ape;CGJcI1Cara,McJaidtjVa&t(#($5t$jFz&
 |CaGarghb=e#&4Lg?|E9esbvO,5FbHfl|E9FauFa]|EAdjbS|EA5atbzcOm7b:mLNz(c=Ka$_i%G_a4ts_RGjOk.ECar&BJhyyf
 _<l*0<lyw@_=:<lwMKfG80BarFVS1t<cCMVSk#VS4cEafBarZWb2cCZcwJcCZWJcCLRMk(Lg802AarLbQk(p%PDFcCLbSk(Lh=
 b@BShW05e;MMb2k*JcE06dlLbRk(bxk#b1k&njakdpWaNaSr>i]aOg=i2<ocE44dpgWR_h#cn<&m9l*B7Aar'|&t]HkD7Car=Q
 a!cM015arYI>i/*z(cMA6EarMjOgL,5Kf?i6g?lrlwVS1^mcCVSaj@Alr1dpqS*B>d<e#+ze?#,2)+BbC)+BYiWh%eTpJ)+ZcwB
 b2|al2D4arCckaNv5r*kkakt,,KNUak_d9$;d9k/E5dlgPEFAa+if^ffIb?k/E7dm[ifIb?k=0lxHn$bbd*,5Eaak?0C5arBYZ
 d<oT(c,|&]Sbrw~mXgNj<bg|E0uuVSam`_'Jt<cCVS1af`+`>%o|"

end CodeAtlas.Text.CharName
