/-!
# Names of syllabaries and further alphabets

Myanmar, Georgian, Ethiopic, Canadian syllabics, Khmer, Mongolian and others, phonetic letters, and
Greek letters with all their accents.
-/

namespace Throws.Text.CharacterNames

/-- Characters from U+1000 to U+1FFF. -/
def syllabaries : String := "1000 MYANMARl
 KA,KHA,GA,GHA,NGA,CA,CHA,JA,JHA,NYA,NNYA,TTA,TTHA,DDA,DDHA,NNA,TA,THA,DA,DHA,NA,PA,PHA,BA,BHA,MA,YA
 RA,LA,WA,SA,HA,LLA,A,SHAN A,I,II,U,UU,E,MON E,O,AU
102B MYANMAR VOWELg
 TALL AA,AA,I,II,U,UU,E,AI,MON II,MON O,Ee
1036 MYANMARg
 ANUSVARA,DOTb,VISARGA,VIRAMA,ASAT
103B MYANMAR CONSONANTgMEDIAL
 YA,RA,WA,HA
103F MYANMARlGREAT
 SA
1040 MYANMAR DIGIT
 ZERO,ONE,TWO,t,FOUR,FIVE,SIX,SEVEN,EIGHT,NINE
104A MYANMAR
 gLITTLE SECTION,gSECTION,uLOCATIVE,uCOMPLETED,uAFOREMENTIONED,uGENITIVE,lSHA,lSSA
1052 MYANMARlVOCALIC
 R,RR,L,LL
1056 MYANMAR VOWELgVOCALIC
 R,RR,L,LL
105A MYANMARlMON
 NGA,JHA,BBA,BBE
105E MYANMAR CONSONANTgMON MEDIAL
 NA,MA,LA
1061 MYANMAR
 lSGAW KAREN SHA,VOWELgSGAW KAREN EU
1063 MYANMAR TONEmSGAW KAREN
 HATHI,KE PHO
1065 MYANMARlWESTERN PWO KAREN
 THA,PWA
1067 MYANMAR VOWELgWESTERN PWO KAREN
 EU,UE
1069 MYANMARgWESTERN PWO KAREN
 TONE-1~5
106E MYANMARlEASTERN PWO KAREN
 NNA,YWA,GHWA
1071 MYANMAR VOWELg
 GEBA KAREN I,KAYAH OE,KAYAH U,KAYAH EE
1075 MYANMARlSHAN
 KA,KHA,GA,CA,ZA,NYA,DA,NA,PHA,FA,BA,THA,HA
1082 MYANMAR CONSONANTgSHAN MEDIAL
 WA
1083 MYANMAR VOWELgSHAN
 AA,E,Ee,oY
1087 MYANMARgSHAN
 TONE-2,TONE-3,TONE-5,TONE-6,COUNCIL TONE-2,COUNCIL TONE-3,COUNCIL EMPHATIC TONE
108E MYANMAR
 lRUMAI PALAUNG FA,gRUMAI PALAUNG TONE-5
1090 MYANMAR SHAN DIGIT
 ZERO,ONE,TWO,t,FOUR,FIVE,SIX,SEVEN,EIGHT,NINE
109A MYANMARgKHAMTI
 TONE-1,TONE-3
109C MYANMAR VOWELgAITON
 A,AI
109E MYANMARuSHAN
 ONE,EXCLAMATION
10A0 GEORGIANcl
 AN,BAN,GAN,DON,EN,VIN,ZEN,TAN,IN,KAN,LAS,MAN,NAR,ON,PAR,ZHAR,RAE,SAN,TAR,UN,PHAR,KHAR,GHAN,QAR,SHIN
 CHIN,CAN,JIL,CIL,CHAR,XAN,JHAN,HAE,HE,HIE,WE,HAR,HOE,,YN,,,,,,AEN
10D0 GEORGIANl
 AN,BAN,GAN,DON,EN,VIN,ZEN,TAN,IN,KAN,LAS,MAN,NAR,ON,PAR,ZHAR,RAE,SAN,TAR,UN,PHAR,KHAR,GHAN,QAR,SHIN
 CHIN,CAN,JIL,CIL,CHAR,XAN,JHAN,HAE,HE,HIE,WE,HAR,HOE,FI,YN,ELIFI,TURNED GAN,AIN
10FB
 GEORGIAN PARAGRAPH SEPARATOR,MODIFIERlGEORGIAN NAR
10FD GEORGIANl
 AEN,HARDg,LABIALg
1100 HANGUL CHOSEONG
 KIYEOK,SSANGKIYEOK,NIEUN,TIKEUT,SSANGTIKEUT,RIEUL,MIEUM,PIEUP,SSANGPIEUP,SIOS,SSANGSIOS,IEUNG,CIEUC
 SSANGCIEUC,CHIEUCH,KHIEUKH,THIEUTH,PHIEUPH,HIEUH,NIEUN-KIYEOK,SSANGNIEUN,NIEUN-TIKEUT,NIEUN-PIEUP
 TIKEUT-KIYEOK,RIEUL-NIEUN,SSANGRIEUL,RIEUL-HIEUH,KAPYEOUNRIEUL,MIEUM-PIEUP,KAPYEOUNMIEUM
 PIEUP-KIYEOK,PIEUP-NIEUN,PIEUP-TIKEUT,PIEUP-SIOS,PIEUP-SIOS-KIYEOK,PIEUP-SIOS-TIKEUT
 PIEUP-SIOS-PIEUP,PIEUP-SSANGSIOS,PIEUP-SIOS-CIEUC,PIEUP-CIEUC,PIEUP-CHIEUCH,PIEUP-THIEUTH
 PIEUP-PHIEUPH,KAPYEOUNPIEUP,KAPYEOUNSSANGPIEUP,SIOS-KIYEOK,SIOS-NIEUN,SIOS-TIKEUT,SIOS-RIEUL
 SIOS-MIEUM,SIOS-PIEUP,SIOS-PIEUP-KIYEOK,SIOS-SSANGSIOS,SIOS-IEUNG,SIOS-CIEUC,SIOS-CHIEUCH
 SIOS-KHIEUKH,SIOS-THIEUTH,SIOS-PHIEUPH,SIOS-HIEUH,CHITUEUMSIOS,CHITUEUMSSANGSIOS,CEONGCHIEUMSIOS
 CEONGCHIEUMSSANGSIOS,PANSIOS,IEUNG-KIYEOK,IEUNG-TIKEUT,IEUNG-MIEUM,IEUNG-PIEUP,IEUNG-SIOS
 IEUNG-PANSIOS,SSANGIEUNG,IEUNG-CIEUC,IEUNG-CHIEUCH,IEUNG-THIEUTH,IEUNG-PHIEUPH,YESIEUNG,CIEUC-IEUNG
 CHITUEUMCIEUC,CHITUEUMSSANGCIEUC,CEONGCHIEUMCIEUC,CEONGCHIEUMSSANGCIEUC,CHIEUCH-KHIEUKH
 CHIEUCH-HIEUH,CHITUEUMCHIEUCH,CEONGCHIEUMCHIEUCH,PHIEUPH-PIEUP,KAPYEOUNPHIEUPH,SSANGHIEUH
 YEORINHIEUH,KIYEOK-TIKEUT,NIEUN-SIOS,NIEUN-CIEUC,NIEUN-HIEUH,TIKEUT-RIEUL,FILLER
1160 HANGUL JUNGSEONG
 FILLER,A,AE,YA,YAE,EO,E,YEO,YE,O,WA,WAE,OE,YO,U,WEO,WE,WI,YU,EU,YI,I,A-O,A-U,YA-O,YA-YO,EO-O,EO-U
 EO-EU,YEO-O,YEO-U,O-EO,O-E,O-YE,O-O,O-U,YO-YA,YO-YAE,YO-YEO,YO-O,YO-I,U-A,U-AE,U-EO-EU,U-YE,U-U
 YU-A,YU-EO,YU-E,YU-YEO,YU-YE,YU-U,YU-I,EU-U,EU-EU,YI-U,I-A,I-YA,I-O,I-U,I-EU,I-ARAEA,ARAEA,ARAEA-EO
 ARAEA-U,ARAEA-I,SSANGARAEA,A-EU,YA-U,YEO-YA,O-YA,O-YAE
11A8 HANGUL JONGSEONG
 KIYEOK,SSANGKIYEOK,KIYEOK-SIOS,NIEUN,NIEUN-CIEUC,NIEUN-HIEUH,TIKEUT,RIEUL,RIEUL-KIYEOK,RIEUL-MIEUM
 RIEUL-PIEUP,RIEUL-SIOS,RIEUL-THIEUTH,RIEUL-PHIEUPH,RIEUL-HIEUH,MIEUM,PIEUP,PIEUP-SIOS,SIOS
 SSANGSIOS,IEUNG,CIEUC,CHIEUCH,KHIEUKH,THIEUTH,PHIEUPH,HIEUH,KIYEOK-RIEUL,KIYEOK-SIOS-KIYEOK
 NIEUN-KIYEOK,NIEUN-TIKEUT,NIEUN-SIOS,NIEUN-PANSIOS,NIEUN-THIEUTH,TIKEUT-KIYEOK,TIKEUT-RIEUL
 RIEUL-KIYEOK-SIOS,RIEUL-NIEUN,RIEUL-TIKEUT,RIEUL-TIKEUT-HIEUH,SSANGRIEUL,RIEUL-MIEUM-KIYEOK
 RIEUL-MIEUM-SIOS,RIEUL-PIEUP-SIOS,RIEUL-PIEUP-HIEUH,RIEUL-KAPYEOUNPIEUP,RIEUL-SSANGSIOS
 RIEUL-PANSIOS,RIEUL-KHIEUKH,RIEUL-YEORINHIEUH,MIEUM-KIYEOK,MIEUM-RIEUL,MIEUM-PIEUP,MIEUM-SIOS
 MIEUM-SSANGSIOS,MIEUM-PANSIOS,MIEUM-CHIEUCH,MIEUM-HIEUH,KAPYEOUNMIEUM,PIEUP-RIEUL,PIEUP-PHIEUPH
 PIEUP-HIEUH,KAPYEOUNPIEUP,SIOS-KIYEOK,SIOS-TIKEUT,SIOS-RIEUL,SIOS-PIEUP,PANSIOS,IEUNG-KIYEOK
 IEUNG-SSANGKIYEOK,SSANGIEUNG,IEUNG-KHIEUKH,YESIEUNG,YESIEUNG-SIOS,YESIEUNG-PANSIOS,PHIEUPH-PIEUP
 KAPYEOUNPHIEUPH,HIEUH-NIEUN,HIEUH-RIEUL,HIEUH-MIEUM,HIEUH-PIEUP,YEORINHIEUH,KIYEOK-NIEUN
 KIYEOK-PIEUP,KIYEOK-CHIEUCH,KIYEOK-KHIEUKH,KIYEOK-HIEUH,SSANGNIEUN
1200 ETHIOPIC SYLLABLE
 HA,HU,HI,HAA,HEE,HE,HO,HOA,LA,LU,LI,LAA,LEE,LE,LO,LWA,HHA,HHU,HHI,HHAA,HHEE,HHE,HHO,HHWA,MA,MU,MI
 MAA,MEE,ME,MO,MWA,SZA,SZU,SZI,SZAA,SZEE,SZE,SZO,SZWA,RA,RU,RI,RAA,REE,RE,RO,RWA,SA,SU,SI,SAA,SEE,SE
 SO,SWA,SHA,SHU,SHI,SHAA,SHEE,SHE,SHO,SHWA,QA,QU,QI,QAA,QEE,QE,QO,QOA,QWA,,QWI,QWAA,QWEE,QWE,,,QHA
 QHU,QHI,QHAA,QHEE,QHE,QHO,,QHWA,,QHWI,QHWAA,QHWEE,QHWE,,,BA,BU,BI,BAA,BEE,BE,BO,BWA,VA,VU,VI,VAA
 VEE,VE,VO,VWA,TA,TU,TI,TAA,TEE,TE,TO,TWA,CA,CU,CI,CAA,CEE,CE,CO,CWA,XA,XU,XI,XAA,XEE,XE,XO,XOA,XWA,
 XWI,XWAA,XWEE,XWE,,,NA,NU,NI,NAA,NEE,NE,NO,NWA,NYA,NYU,NYI,NYAA,NYEE,NYE,NYO,NYWA
12A0 ETHIOPIC SYLLABLE GLOTTAL
 A,U,I,AA,EE,E,O,WA
12A8 ETHIOPIC SYLLABLE
 KA,KU,KI,KAA,KEE,KE,KO,KOA,KWA,,KWI,KWAA,KWEE,KWE,,,KXA,KXU,KXI,KXAA,KXEE,KXE,KXO,,KXWA,,KXWI,KXWAA
 KXWEE,KXWE,,,WA,WU,WI,WAA,WEE,WE,WO,WOA
12D0 ETHIOPIC SYLLABLE PHARYNGEAL
 A,U,I,AA,EE,E,O
12D8 ETHIOPIC SYLLABLE
 ZA,ZU,ZI,ZAA,ZEE,ZE,ZO,ZWA,ZHA,ZHU,ZHI,ZHAA,ZHEE,ZHE,ZHO,ZHWA,YA,YU,YI,YAA,YEE,YE,YO,YOA,DA,DU,DI
 DAA,DEE,DE,DO,DWA,DDA,DDU,DDI,DDAA,DDEE,DDE,DDO,DDWA,JA,JU,JI,JAA,JEE,JE,JO,JWA,GA,GU,GI,GAA,GEE,GE
 GO,GOA,GWA,,GWI,GWAA,GWEE,GWE,,,GGA,GGU,GGI,GGAA,GGEE,GGE,GGO,GGWAA,THA,THU,THI,THAA,THEE,THE,THO
 THWA,CHA,CHU,CHI,CHAA,CHEE,CHE,CHO,CHWA,PHA,PHU,PHI,PHAA,PHEE,PHE,PHO,PHWA,TSA,TSU,TSI,TSAA,TSEE
 TSE,TSO,TSWA,TZA,TZU,TZI,TZAA,TZEE,TZE,TZO,TZOA,FA,FU,FI,FAA,FEE,FE,FO,FWA,PA,PU,PI,PAA,PEE,PE,PO
 PWA,RYA,MYA,FYA
135D ETHIOPIC COMBINING
 GEMINATIONnVOWEL LENGTHm,VOWEL LENGTHm,GEMINATIONm
1360 ETHIOPIC
 SECTIONm,WORDSPACE,FULL STOP,COMMA,SEMICOLON,COLON,PREFACE COLON,QUESTIONm,PARAGRAPH SEPARATOR
1369 ETHIOPIC DIGIT
 ONE,TWO,t,FOUR,FIVE,SIX,SEVEN,EIGHT,NINE
1372 ETHIOPIC NUMBER
 TEN,TWENTY,THIRTY,FORTY,FIFTY,SIXTY,SEVENTY,EIGHTY,NINETY,HUNDRED,TEN THOUSAND
1380 ETHIOPIC SYLLABLE
 SEBATBEIT MWA,MWI,MWEE,MWE,SEBATBEIT BWA,BWI,BWEE,BWE,SEBATBEIT FWA,FWI,FWEE,FWE,SEBATBEIT PWA,PWI
 PWEE,PWE
1390 ETHIOPIC TONALm
 YIZET,DERET,RIKRIK,SHORT RIKRIK,DIFAT,KENAT,CHIRET,HIDET,DERET-HIDET,KURT
13A0 CHEROKEEl
 A,E,I,O,U,V,GA,KA,GE,GI,GO,GU,GV,HA,HE,HI,HO,HU,HV,LA,LE,LI,LO,LU,LV,MA,ME,MI,MO,MU,NA,HNA,NAH,NE
 NI,NO,NU,NV,QUA,QUE,QUI,QUO,QUU,QUV,SA,S,SE,SI,SO,SU,SV,DA,TA,DE,TE,DI,TI,DO,DU,DV,DLA,TLA,TLE,TLI
 TLO,TLU,TLV,TSA,TSE,TSI,TSO,TSU,TSV,WA,WE,WI,WO,WU,WV,YA,YE,YI,YO,YU,YV,MV
13F8 CHEROKEEsl
 YE,YI,YO,YU,YV,MV
1400 CANADIAN SYLLABICS
 HYPHEN,E,AAI,I,II,O,OO,Y-CREE OO,CARRIER EE,CARRIER I,A,AA,WE,WEST-CREE WE,WI,WEST-CREE WI,WII
 WEST-CREE WII,WO,WEST-CREE WO,WOO,WEST-CREE WOO,NASKAPI WOO,WA,WEST-CREE WA,WAA,WEST-CREE WAA
 NASKAPI WAA,AI,Y-CREE W,GLOTTAL STOP,oACUTE,oGRAVE,oBOTTOM HALF RING,oTOP HALF RING,orHALF RING
 oRING,odACUTE,odSHORTvSTROKES,oMIDDLE DOT,oSHORT HORIZONTALp,oPLUS,oDOWN TACK,EN,IN,ON,AN,PE,PAAI
 PI,PII,PO,POO,Y-CREE POO,CARRIER HEE,CARRIER HI,PA,PAA,PWE,WEST-CREE PWE,PWI,WEST-CREE PWI,PWII
 WEST-CREE PWII,PWO,WEST-CREE PWO,PWOO,WEST-CREE PWOO,PWA,WEST-CREE PWA,PWAA,WEST-CREE PWAA
 Y-CREE PWAA,P,WEST-CREE P,CARRIER H,TE,TAAI,TI,TII,TO,TOO,Y-CREE TOO,CARRIER DEE,CARRIER DI,TA,TAA
 TWE,WEST-CREE TWE,TWI,WEST-CREE TWI,TWII,WEST-CREE TWII,TWO,WEST-CREE TWO,TWOO,WEST-CREE TWOO,TWA
 WEST-CREE TWA,TWAA,WEST-CREE TWAA,NASKAPI TWAA,T,TTE,TTI,TTO,TTA,KE,KAAI,KI,KII,KO,KOO,Y-CREE KOO
 KA,KAA,KWE,WEST-CREE KWE,KWI,WEST-CREE KWI,KWII,WEST-CREE KWII,KWO,WEST-CREE KWO,KWOO
 WEST-CREE KWOO,KWA,WEST-CREE KWA,KWAA,WEST-CREE KWAA,NASKAPI KWAA,K,KW,SOUTH-SLAVEY KEH
 SOUTH-SLAVEY KIH,SOUTH-SLAVEY KOH,SOUTH-SLAVEY KAH,CE,CAAI,CI,CII,CO,COO,Y-CREE COO,CA,CAA,CWE
 WEST-CREE CWE,CWI,WEST-CREE CWI,CWII,WEST-CREE CWII,CWO,WEST-CREE CWO,CWOO,WEST-CREE CWOO,CWA
 WEST-CREE CWA,CWAA,WEST-CREE CWAA,NASKAPI CWAA,C,SAYISI TH,ME,MAAI,MI,MII,MO,MOO,Y-CREE MOO,MA,MAA
 MWE,WEST-CREE MWE,MWI,WEST-CREE MWI,MWII,WEST-CREE MWII,MWO,WEST-CREE MWO,MWOO,WEST-CREE MWOO,MWA
 WEST-CREE MWA,MWAA,WEST-CREE MWAA,NASKAPI MWAA,M,WEST-CREE M,MH,ATHAPASCAN M,SAYISI M,NE,NAAI,NI
 NII,NO,NOO,Y-CREE NOO,NA,NAA,NWE,WEST-CREE NWE,NWA,WEST-CREE NWA,NWAA,WEST-CREE NWAA,NASKAPI NWAA,N
 CARRIER NG,NH,LE,LAAI,LI,LII,LO,LOO,Y-CREE LOO,LA,LAA,LWE,WEST-CREE LWE,LWI,WEST-CREE LWI,LWII
 WEST-CREE LWII,LWO,WEST-CREE LWO,LWOO,WEST-CREE LWOO,LWA,WEST-CREE LWA,LWAA,WEST-CREE LWAA,L
 WEST-CREE L,MEDIAL L,SE,SAAI,SI,SII,SO,SOO,Y-CREE SOO,SA,SAA,SWE,WEST-CREE SWE,SWI,WEST-CREE SWI
 SWII,WEST-CREE SWII,SWO,WEST-CREE SWO,SWOO,WEST-CREE SWOO,SWA,WEST-CREE SWA,SWAA,WEST-CREE SWAA
 NASKAPI SWAA,S,ATHAPASCAN S,SW,BLACKFOOT S,MOOSE-CREE SK,NASKAPI SKW,NASKAPI S-W,NASKAPI SPWA
 NASKAPI STWA,NASKAPI SKWA,NASKAPI SCWA,SHE,SHI,SHII,SHO,SHOO,SHA,SHAA,SHWE,WEST-CREE SHWE,SHWI
 WEST-CREE SHWI,SHWII,WEST-CREE SHWII,SHWO,WEST-CREE SHWO,SHWOO,WEST-CREE SHWOO,SHWA,WEST-CREE SHWA
 SHWAA,WEST-CREE SHWAA,SH,YE,YAAI,YI,YII,YO,YOO,Y-CREE YOO,YA,YAA,YWE,WEST-CREE YWE,YWI
 WEST-CREE YWI,YWII,WEST-CREE YWII,YWO,WEST-CREE YWO,YWOO,WEST-CREE YWOO,YWA,WEST-CREE YWA,YWAA
 WEST-CREE YWAA,NASKAPI YWAA,Y,BIBLE-CREE Y,WEST-CREE Y,SAYISI YI,RE,R-CREE RE,WEST-CREE LE,RAAI,RI
 RII,RO,ROO,WEST-CREE LO,RA,RAA,WEST-CREE LA,RWAA,WEST-CREE RWAA,R,WEST-CREE R,MEDIAL R,FE,FAAI,FI
 FII,FO,FOO,FA,FAA,FWAA,WEST-CREE FWAA,F,THE,N-CREE THE,THI,N-CREE THI,THII,N-CREE THII,THO,THOO,THA
 THAA,THWAA,WEST-CREE THWAA,TH,TTHE,TTHI,TTHO,TTHA,TTH,TYE,TYI,TYO,TYA
1574 CANADIAN SYLLABICS NUNAVIK
 HE,HI,HII,HO,HOO,HA,HAA,H
157C CANADIAN SYLLABICS
 NUNAVUT H,HK,QAAI,QI,QII,QO,QOO,QA,QAA,Q,TLHE,TLHI,TLHO,TLHA,WEST-CREE RE,WEST-CREE RI,WEST-CREE RO
 WEST-CREE RA,NGAAI,NGI,NGII,NGO,NGOO,NGA,NGAA,NG,NNG,SAYISI SHE,SAYISI SHI,SAYISI SHO,SAYISI SHA
 WOODS-CREE THE,WOODS-CREE THI,WOODS-CREE THO,WOODS-CREE THA,WOODS-CREE TH,LHI,LHII,LHO,LHOO,LHA
 LHAA,LH
15A7 CANADIAN SYLLABICS TH-CREE
 THE,THI,THII,THO,THOO,THA,THAA,TH
15AF CANADIAN SYLLABICS AIVILIK
 B
15B0 CANADIAN SYLLABICS BLACKFOOT
 E,I,O,A,WE,WI,WO,WA,NE,NI,NO,NA,KE,KI,KO,KA
15C0 CANADIAN SYLLABICS SAYISI
 HE,HI,HO,HA
15C4 CANADIAN SYLLABICS CARRIER
 GHU,GHO,GHE,GHEE,GHI,GHA,RU,RO,RE,REE,RI,RA,WU,WO,WE,WEE,WI,WA,HWU,HWO,HWE,HWEE,HWI,HWA,THU,THO,THE
 THEE,THI,THA,TTU,TTO,TTE,TTEE,TTI,TTA,PU,PO,PE,PEE,PI,PA,P,GU,GO,GE,GEE,GI,GA,KHU,KHO,KHE,KHEE,KHI
 KHA,KKU,KKO,KKE,KKEE,KKI,KKA,KK,NU,NO,NE,NEE,NI,NA,MU,MO,ME,MEE,MI,MA,YU,YO,YE,YEE,YI,YA,JU
1615 CANADIAN SYLLABICS
 SAYISI JU,CARRIER JO,CARRIER JE,CARRIER JEE,CARRIER JI,SAYISI JI
161B CANADIAN SYLLABICS CARRIER
 JA,JJU,JJO,JJE,JJEE,JJI,JJA,LU,LO,LE,LEE,LI,LA,DLU,DLO,DLE,DLEE,DLI,DLA,LHU,LHO,LHE,LHEE,LHI,LHA
 TLHU,TLHO,TLHE,TLHEE,TLHI,TLHA,TLU,TLO,TLE,TLEE,TLI,TLA,ZU,ZO,ZE,ZEE,ZI,ZA,Z,iZ,DZU,DZO,DZE,DZEE
 DZI,DZA,SU,SO,SE,SEE,SI,SA,SHU,SHO,SHE,SHEE,SHI,SHA,SH,TSU,TSO,TSE,TSEE,TSI,TSA,CHU,CHO,CHE,CHEE
 CHI,CHA,TTSU,TTSO,TTSE,TTSEE,TTSI,TTSA
166D CANADIAN SYLLABICS
 CHIg,FULL STOP,QAI,NGAI,NNGI,NNGII,NNGO,NNGOO,NNGA,NNGAA
1677 CANADIAN SYLLABICS WOODS-CREE
 THWEE,THWI,THWII,THWO,THWOO,THWA,THWAA,oTH
167F
 CANADIAN SYLLABICS BLACKFOOT W,OGHAM SPACEm
1681 OGHAMl
 BEITH,LUIS,FEARN,SAIL,NION,UATH,DAIR,TINNE,COLL,CEIRT,MUIN,GORT,NGEADAL,STRAIF,RUIS,AILM,ONN,UR
 EADHADH,IODHADH,EABHADH,OR,UILLEANN,IFIN,EAMHANCHOLL,PEITH
169B OGHAM
 FEATHERm,REVERSED FEATHERm
16A0 RUNICl
 FEHU FEOH FE F,V,URUZ UR U,YR,Y,W,THURISAZ THURS THORN,ETH,ANSUZ A,OS O,AC A,AESC,LONG-BRANCH-OSS O
 SHORT-TWIG-OSS O,O,OE,ON,RAIDO RAD REID R,KAUNA,CEN,KAUN K,G,ENG,GEBO GYFU G,GAR,WUNJO WYNN W
 HAGLAZ H,HAEGL H,LONG-BRANCH-HAGALL H,SHORT-TWIG-HAGALL H,NAUDIZ NYD NAUD N,SHORT-TWIG-NAUD N
 DOTTED-N,ISAZ IS ISS I,E,JERAN J,GER,LONG-BRANCH-AR AE,SHORT-TWIG-AR A,IWAZ EOH,PERTHO PEORTH P
 ALGIZ EOLHX,SOWILO S,SIGEL LONG-BRANCH-SOL S,SHORT-TWIG-SOL S,C,Z,TIWAZ TIR TYR T,SHORT-TWIG-TYR T
 D,BERKANAN BEORC BJARKAN B,SHORT-TWIG-BJARKAN B,DOTTED-P,OPEN-P,EHWAZ EH E,MANNAZ MAN M
 LONG-BRANCH-MADR M,SHORT-TWIG-MADR M,LAUKAZ LAGU LOGR L,DOTTED-L,INGWAZ,ING,DAGAZ DAEG D
 OTHALAN ETHEL O,EAR,IOR,CWEORTH,CALC,CEALC,STAN,LONG-BRANCH-YR,SHORT-TWIG-YR,ICELANDIC-YR,Q,X
16EB RUNIC
 SINGLE PUNCTUATION,MULTIPLE PUNCTUATION,CROSS PUNCTUATION,ARLAUGu,TVIMADURu,BELGTHORu,lK,lSH,lOO
16F4 RUNIClFRANKS CASKET
 OS,IS,EH,AC,AESC
1700 TAGALOGl
 A,I,U,KA,GA,NGA,TA,DA,NA,PA,BA,MA,YA,RA,LA,WA,SA,HA
1712 TAGALOG
 VOWELgI,VOWELgU,gVIRAMA,gPAMUDPOD,,,,,,,,,,lARCHAIC RA
1720 HANUNOOl
 A,I,U,KA,GA,NGA,TA,DA,NA,PA,BA,MA,YA,RA,LA,WA,SA,HA
1732 HANUNOO
 VOWELgI,VOWELgU,gPAMUDPOD
1735 PHILIPPINE
 SINGLE PUNCTUATION,dPUNCTUATION
1740 BUHIDl
 A,I,U,KA,GA,NGA,TA,DA,NA,PA,BA,MA,YA,RA,LA,WA,SA,HA
1752 BUHID VOWELg
 I,U
1760 TAGBANWAl
 A,I,U,KA,GA,NGA,TA,DA,NA,PA,BA,MA,YA,,LA,WA,SA
1772 TAGBANWA VOWELg
 I,U
1780 KHMERl
 KA,KHA,KO,KHO,NGO,CA,CHA,CO,CHO,NYO,DA,TTHA,DO,TTHO,NNO,TA,THA,TO,THO,NO,BA,PHA,PO,PHO,MO,YO,RO,LO
 VO,SHA,SSO,SA,HA,LA,QA
17A3 KHMER INDEPENDENT VOWEL
 QAQ,QAA,QI,QII,QU,QUK,QUU,QUUV,RY,RYY,LY,LYY,QE,QAI,QOO TYPE ONE,QOO TYPE TWO,QAU
17B4 KHMER VOWEL INHERENT
 AQ,AA
17B6 KHMER VOWELg
 AA,I,II,Y,YY,U,UU,UA,OE,YA,IE,E,AE,AI,OO,AU
17C6 KHMERg
 NIKAHIT,REAHMUK,YUUKALEAPINTU,MUUSIKATOAN,TRIISAP,BANTOC,ROBAT,TOANDAKHIAT,KAKABAT,AHSDA
 SAMYOK SANNYA,VIRIAM,COENG,BATHAMASAT,KHAN,BARIYOOSAN,CAMNUC PII KUUH,LEK TOO,BEYYAL,PHNAEK MUAN
 KOOMUUT
17DB KHMER
 CURRENCYuRIEL,gAVAKRAHASANYA,gATTHACAN
17E0 KHMER DIGIT
 ZERO,ONE,TWO,t,FOUR,FIVE,SIX,SEVEN,EIGHT,NINE
17F0 KHMERuLEK ATTAK
 SON,MUOY,PII,BEI,BUON,PRAM,PRAM-MUOY,PRAM-PII,PRAM-BEI,PRAM-BUON
1800 MONGOLIAN
 BIRGA,ELLIPSIS,COMMA,FULL STOP,COLON,FOUR DOTS,TODO SOFT HYPHEN,SIBE SYLLABLE BOUNDARY MARKER
 MANCHU COMMA,MANCHU FULL STOP,NIRUGU
180B MONGOLIAN FREE VARIATION SELECTOR
 ONE,TWO,t
180E MONGOLIAN
 VOWEL SEPARATOR,FREE VARIATION SELECTOR FOUR
1810 MONGOLIAN DIGIT
 ZERO,ONE,TWO,t,FOUR,FIVE,SIX,SEVEN,EIGHT,NINE
1820 MONGOLIANl
 A,E,I,O,U,OE,UE,EE,NA,ANG,BA,PA,QA,GA,MA,LA,SA,SHA,TA,DA,CHA,JA,YA,RA,WA,FA,KA,KHA,TSA,ZA,HAA,ZRA
 LHA,ZHI,CHI
1843 MONGOLIANlTODO
 LONG VOWELg,E,I,O,U,OE,UE,ANG,BA,PA,QA,GA,MA,TA,DA,CHA,JA,TSA,YA,WA,KA,GAA,HAA,JIA,NIA,DZA
185D MONGOLIANlSIBE
 E,I,IY,UE,U,ANG,KA,GA,HA,PA,SHA,TA,DA,JA,FA,GAA,HAA,TSA,ZA,RAA,CHA,ZHA
1873 MONGOLIANlMANCHU
 I,KA,RA,FA,ZHA
1878 MONGOLIANlCHAwTWO
 DOTS
1880 MONGOLIANlALI GALI
 ANUSVARA ONE,VISARGA ONE,DAMARU,UBADAMA,INVERTED UBADAMA,BALUDA,tBALUDA,A,I,KA,NGA,CA,TTA,TTHA,DDA
 NNA,TA,DA,PA,PHA,SSA,ZHA,ZA,AH
1898 MONGOLIANlTODO ALI GALI
 TA,ZHA
189A MONGOLIANlMANCHU ALI GALI
 GHA,NGA,CA,JHA,TTA,DDHA,TA,DHA,SSA,CYA,ZHA,ZA
18A6 MONGOLIANl
 ALI GALI HALF U,ALI GALI HALF YA,MANCHU ALI GALI BHA,ALI GALI DAGALGA,MANCHU ALI GALI LHA
18B0 CANADIAN SYLLABICS
 OY,AY,AAY,WAY,POY,PAY,PWOY,TAY,KAY,KWAY,MAY,NOY,NAY,LAY,SOY,SAY,SHOY,SHAY,SHWOY,YOY,YAY,RAY,NWI
 OJIBWAY NWI,NWII,OJIBWAY NWII,NWO,OJIBWAY NWO,NWOO,OJIBWAY NWOO,RWEE,RWI,RWII,RWO,RWOO,RWA
18D4 CANADIAN SYLLABICS OJIBWAY
 P,T,K,C,M,N,S,SH
18DC CANADIAN SYLLABICS
 EASTERN W,WESTERN W,osRING,oRAISED DOT,R-CREE RWE,WEST-CREE LOO,WEST-CREE LAA,THWE,THWA,TTHWE,TTHOO
 TTHAA,TLHWE,TLHOO,SAYISI SHWE,SAYISI SHOO,SAYISI HOO,CARRIER GWU,CARRIER DENE GEE,CARRIER GAA
 CARRIER GWA,SAYISI JUU,CARRIER JWA,BEAVER DENE L,BEAVER DENE R,CARRIER DENTAL S
1900 LIMBU
 VOWEL-CARRIERl
1901 LIMBUl
 KA,KHA,GA,GHA,NGA,CA,CHA,JA,JHA,YAN,TA,THA,DA,DHA,NA,PA,PHA,BA,BHA,MA,YA,RA,LA,WA,SHA,SSA,SA,HA
 GYAN,TRA
1920 LIMBU VOWELg
 A,I,U,EE,AI,OO,AU,E,O
1929 LIMBU SUBJOINEDl
 YA,RA,WA
1930 LIMBUsl
 KA,NGA,ANUSVARA,TA,NA,PA,MA,RA,LA
1939 LIMBU
 gMUKPHRENG,gKEMPHRENG,gSA-I,,,,,gLOO,,,,EXCLAMATIONm,QUESTIONm
1946 LIMBU DIGIT
 ZERO,ONE,TWO,t,FOUR,FIVE,SIX,SEVEN,EIGHT,NINE
1950 TAI LEl
 KA,XA,NGA,TSA,SA,YA,TA,THA,LA,PA,PHA,MA,FA,VA,HA,QA,KHA,TSHA,NA,A,I,EE,EH,U,OO,O,UE,E,AUE,AI,,
 TONE-2,TONE-3,TONE-4,TONE-5,TONE-6
1980 NEW TAI LUEl
 HIGH QA,LOW QA,HIGH KA,HIGH XA,HIGH NGA,LOW KA,LOW XA,LOW NGA,HIGH TSA,HIGH SA,HIGH YA,LOW TSA
 LOW SA,LOW YA,HIGH TA,HIGH THA,HIGH NA,LOW TA,LOW THA,LOW NA,HIGH PA,HIGH PHA,HIGH MA,LOW PA
 LOW PHA,LOW MA,HIGH FA,HIGH VA,HIGH LA,LOW FA,LOW VA,LOW LA,HIGH HA,HIGH DA,HIGH BA,LOW HA,LOW DA
 LOW BA,HIGH KVA,HIGH XVA,LOW KVA,LOW XVA,HIGH SUA,LOW SUA
19B0 NEW TAI LUE VOWELg
 VOWEL SHORTENER,AA,II,U,UU,E,AE,O,OA,UE,AY,AAY,UY,OY,OAY,UEY,IY
19C1 NEW TAI LUE
 loV,loNG,loN,loM,loK,loD,loB,TONE MARK-1,TONE MARK-2
19D0 NEW TAI LUE DIGIT
 ZERO,ONE,TWO,t,FOUR,FIVE,SIX,SEVEN,EIGHT,NINE
19DA NEW TAI LUE
 THAM DIGIT ONE,,,,gLAE,gLAEV
19E0 KHMERu
 PATHAMASAT,MUOY KOET,PII KOET,BEI KOET,BUON KOET,PRAM KOET,PRAM-MUOY KOET,PRAM-PII KOET
 PRAM-BEI KOET,PRAM-BUON KOET,DAP KOET,DAP-MUOY KOET,DAP-PII KOET,DAP-BEI KOET,DAP-BUON KOET
 DAP-PRAM KOET,TUTEYASAT,MUOY ROC,PII ROC,BEI ROC,BUON ROC,PRAM ROC,PRAM-MUOY ROC,PRAM-PII ROC
 PRAM-BEI ROC,PRAM-BUON ROC,DAP ROC,DAP-MUOY ROC,DAP-PII ROC,DAP-BEI ROC,DAP-BUON ROC,DAP-PRAM ROC
1A00 BUGINESEl
 KA,GA,NGA,NGKA,PA,BA,MA,MPA,TA,DA,NA,NRA,CA,JA,NYA,NYCA,YA,RA,LA,VA,SA,A,HA
1A17 BUGINESE VOWELg
 I,U,E,O,AE
1A1E BUGINESE
 PALLAWA,END OF SECTION
1A20 TAI THAMl
 HIGH KA,HIGH KHA,HIGH KXA,LOW KA,LOW KXA,LOW KHA,NGA,HIGH CA,HIGH CHA,LOW CA,LOW SA,LOW CHA,NYA
 RATA,HIGH RATHA,DA,LOW RATHA,RANA,HIGH TA,HIGH THA,LOW TA,LOW THA,NA,BA,HIGH PA,HIGH PHA,HIGH FA
 LOW PA,LOW FA,LOW PHA,MA,LOW YA,HIGH YA,RA,RUE,LA,LUE,WA,HIGH SHA,HIGH SSA,HIGH SA,HIGH HA,LLA,A
 LOW HA,I,II,U,UU,EE,OO,LAE,GREAT SA
1A55 TAI THAM CONSONANTg
 MEDIAL RA,MEDIAL LA,LA TANG LAI
1A58 TAI THAMgMAI KANG
 LAI
1A59 TAI THAM CONSONANTg
 oNGA,LOW PA,HIGH RATHA OR LOW PA,MA,BA,SA
1A60 TAI
 THAMgSAKOT
1A61 TAI THAM VOWELg
 A,MAI SAT,AA,TALL AA,I,II,UE,UUE,U,UU,O,OAb,OY,E,AE,OO,AI,THAM AI,OAe
1A74 TAI THAM
 gMAI KANG,gTONE-1,gTONE-2,gKHUEN TONE-3,gKHUEN TONE-4,gKHUEN TONE-5,gRA HAAM,gMAI SAM
 gKHUEN-LUE KARAN,,,COMBINING CRYPTOGRAMMIC DOT
1A80 TAI THAM HORA DIGIT
 ZERO,ONE,TWO,t,FOUR,FIVE,SIX,SEVEN,EIGHT,NINE
1A90 TAI THAM THAM DIGIT
 ZERO,ONE,TWO,t,FOUR,FIVE,SIX,SEVEN,EIGHT,NINE
1AA0 TAI THAMg
 WIANG,WIANGWAAK,SAWAN,KEOW,HOY,DOKMAI,REVERSED ROTATED RANA,MAI YAMOK,KAAN,KAANKUU,SATKAAN
 SATKAANKUU,HANG,CAANG
1AB0 COMBINING
 DOUBLED CIRCUMFLEX ACCENT,DIAERESIS-RING,INFINITY,DOWNWARDSa,TRIPLE DOT,X-Xb,WIGGLY LINEb,OPENmb
 dOPENmb,LIGHT CENTRALIZATIONpb,STRONG CENTRALIZATIONpb,PARENTHESESe,dPARENTHESESe,PARENTHESESb
 PARENTHESES OVERLAY,LATINslWb,LATINslTURNED Wb,xPARENTHESISex,rPARENTHESISer,xPARENTHESISbx
 rPARENTHESISbr,SQUARE BRACKETSe,NUMBERge,INVERTEDdARCHe,PLUSge,dPLUSge,dPLUSgb,TRIPLE ACUTE ACCENT
1ACC COMBINING LATINslINSULAR
 G,R,T
1B00 BALINESEg
 ULU RICEM,ULU CANDRA,CECEK,SURANG,BISAH
1B05 BALINESEl
 AKARA,AKARA TEDUNG,IKARA,IKARA TEDUNG,UKARA,UKARA TEDUNG,RA REPA,RA REPA TEDUNG,LA LENGA
 LA LENGA TEDUNG,EKARA,AIKARA,OKARA,OKARA TEDUNG,KA,KA MAHAPRANA,GA,GA GORA,NGA,CA,CA LACA,JA
 JA JERA,NYA,TA LATIK,TA MURDA MAHAPRANA,DA MURDA ALPAPRANA,DA MURDA MAHAPRANA,NA RAMBAT,TA,TA TAWA
 DA,DA MADU,NA,PA,PA KAPAL,BA,BA KEMBANG,MA,YA,RA,LA,WA,SA SAGA,SA SAPA,SA,HA
1B34
 BALINESEgREREKAN
1B35 BALINESE VOWELg
 TEDUNG,ULU,ULU SARI,SUKU,SUKU ILUT,RA REPA,RA REPA TEDUNG,LA LENGA,LA LENGA TEDUNG,TALING
 TALING REPA,TALING TEDUNG,TALING REPA TEDUNG,PEPET,PEPET TEDUNG
1B44 BALINESE
 ADEG ADEG,lKAF SASAK,lKHOT SASAK,lTZIR SASAK,lEF SASAK,lVE SASAK,lZAL SASAK,lASYURA SASAK
 lARCHAIC JNYA
1B50 BALINESE DIGIT
 ZERO,ONE,TWO,t,FOUR,FIVE,SIX,SEVEN,EIGHT,NINE
1B5A BALINESE
 PANTI,PAMADA,WINDU,CARIK PAMUNGKAH,CARIK SIKI,CARIK PAREREN,PAMENENG
1B61 BALINESE MUSICALu
 DONG,DENG,DUNG,DANG,DANG SURANG,DING,DAENG,DEUNG,DAING,DANG GEDE
1B6B BALINESE MUSICALuCOMBINING
 TEGEH,ENDEP,KEMPUL,KEMPLI,JEGOGAN,KEMPULwJEGOGAN,KEMPLIwJEGOGAN,BENDE,GONG
1B74 BALINESE MUSICALuRIGHT-HAND
 OPEN DUG,OPEN DAG,CLOSED TUK,CLOSED TAK
1B78 BALINESE MUSICALuLEFT-HAND
 OPEN PANG,OPEN PUNG,CLOSED PLAK,CLOSED PLUK,OPEN PING
1B7D BALINESE
 PANTI LANTANG,PAMADA LANTANG
1B80 SUNDANESEg
 PANYECEK,PANGLAYAR,PANGWISAD
1B83 SUNDANESEl
 A,I,U,AE,O,E,EU,KA,QA,GA,NGA,CA,JA,ZA,NYA,TA,DA,NA,PA,FA,VA,BA,MA,YA,RA,LA,WA,SA,XA,HA
1BA1 SUNDANESE CONSONANTg
 PAMINGKAL,PANYAKRA,PANYIKU
1BA4 SUNDANESE VOWELg
 PANGHULU,PANYUKU,PANAELAENG,PANOLONG,PAMEPET,PANEULEUNG
1BAA SUNDANESE
 gPAMAAEH,gVIRAMA,CONSONANTgPASANGAN MA,CONSONANTgPASANGAN WA,lKHA,lSYA
1BB0 SUNDANESE DIGIT
 ZERO,ONE,TWO,t,FOUR,FIVE,SIX,SEVEN,EIGHT,NINE
1BBA SUNDANESE
 AVAGRAHA,lREU,lLEU,lBHA,loK,loM
1BC0 BATAKl
 A,SIMALUNGUN A,HA,SIMALUNGUN HA,MANDAILING HA,BA,KARO BA,PA,SIMALUNGUN PA,NA,MANDAILING NA,WA
 SIMALUNGUN WA,PAKPAK WA,GA,SIMALUNGUN GA,JA,DA,RA,SIMALUNGUN RA,MA,SIMALUNGUN MA,SOUTHERN TA
 NORTHERN TA,SA,SIMALUNGUN SA,MANDAILING SA,YA,SIMALUNGUN YA,NGA,LA,SIMALUNGUN LA,NYA,CA,NDA,MBA,I,U
1BE6
 BATAKgTOMPI
1BE7 BATAK VOWELg
 E,PAKPAK E,EE,I,KARO I,O,KARO O,U,U FOR SIMALUNGUN SA
1BF0 BATAK
 CONSONANTgNG,CONSONANTgH,PANGOLAT,PANONGONAN
1BFC BATAKuBINDU
 NA METEK,PINARBORAS,JUDUL,PANGOLAT
1C00 LEPCHAl
 KA,KLA,KHA,GA,GLA,NGA,CA,CHA,JA,NYA,TA,THA,DA,NA,PA,PLA,PHA,FA,FLA,BA,BLA,MA,MLA,TSA,TSHA,DZA,YA,RA
 LA,HA,HLA,VA,SA,SHA,WA,A
1C24 LEPCHA SUBJOINEDl
 YA,RA
1C26 LEPCHA VOWELg
 AA,I,O,OO,U,UU,E
1C2D LEPCHA CONSONANTg
 K,M,L,N,P,R,T,NYIN-DO,KANG
1C36 LEPCHAg
 RAN,NUKTA
1C3B LEPCHA PUNCTUATION
 TA-ROL,NYET THYOOM TA-ROL,CER-WA,TSHOOK CER-WA,TSHOOK
1C40 LEPCHA DIGIT
 ZERO,ONE,TWO,t,FOUR,FIVE,SIX,SEVEN,EIGHT,NINE
1C4D LEPCHAl
 TTA,TTHA,DDA
1C50 OL CHIKI DIGIT
 ZERO,ONE,TWO,t,FOUR,FIVE,SIX,SEVEN,EIGHT,NINE
1C5A OL CHIKIl
 LA,AT,AG,ANG,AL,LAA,AAK,AAJ,AAM,AAW,LI,IS,IH,INY,IR,LU,UC,UD,UNN,UY,LE,EP,EDD,EN,ERR,LO,OTT,OB,OV
 OH
1C78 OL CHIKI
 MU TTUDDAG,GAAHLAA TTUDDAAG,MU-GAAHLAA TTUDDAAG,RELAA,PHAARKAA,AHAD,PUNCTUATION MUCAAD
 PUNCTUATIONdMUCAAD
1C80 CYRILLICsl
 ROUNDED VE,LONG-LEGGED DE,NARROW O,WIDE ES,TALL TE,THREE-LEGGED TE,TALL HARDg,TALL YAT,UNBLENDED UK
1C90 GEORGIAN MTAVRULIcl
 AN,BAN,GAN,DON,EN,VIN,ZEN,TAN,IN,KAN,LAS,MAN,NAR,ON,PAR,ZHAR,RAE,SAN,TAR,UN,PHAR,KHAR,GHAN,QAR,SHIN
 CHIN,CAN,JIL,CIL,CHAR,XAN,JHAN,HAE,HE,HIE,WE,HAR,HOE,FI,YN,ELIFI,TURNED GAN,AIN,,,AEN,HARDg,LABIALg
1CC0 SUNDANESE PUNCTUATION BINDU
 SURYA,PANGLONG,PURNAMA,CAKRA,LEU SATANGA,KA SATANGA,DA SATANGA,BA SATANGA
1CD0 VEDIC
 TONE KARSHANA,TONE SHARA,TONE PRENKHA,gNIHSHVASA,gYAJURVEDIC MIDLINE SVARITA
1CD5 VEDIC TONE YAJURVEDIC
 AGGRAVATED INDEPENDENT SVARITA,INDEPENDENT SVARITA,KATHAKA INDEPENDENT SVARITA
1CD8 VEDIC TONE
 CANDRAb,YAJURVEDIC KATHAKA INDEPENDENT SVARITA SCHROEDER,dSVARITA,TRIPLE SVARITA,KATHAKA ANUDATTA
 DOTb,TWO DOTSb,tDOTSb,RIGVEDIC KASHMIRI INDEPENDENT SVARITA,ATHARVAVEDIC INDEPENDENT SVARITA
1CE2 VEDICg
 VISARGA SVARITA,VISARGA UDATTA,REVERSED VISARGA UDATTA,VISARGA ANUDATTA,REVERSED VISARGA ANUDATTA
 VISARGA UDATTAwTAIL,VISARGA ANUDATTAwTAIL
1CE9 VEDICgANUSVARA
 ANTARGOMUKHA,BAHIRGOMUKHA,VAMAGOMUKHA,VAMAGOMUKHAwTAIL
1CED VEDIC
 gTIRYAK,gHEXIFORM LONG ANUSVARA,gLONG ANUSVARA,gRTHANG LONG ANUSVARA,gANUSVARA UBHAYATO MUKHA
 gARDHAVISARGA,gROTATED ARDHAVISARGA,TONE CANDRAe,gJIHVAMULIYA,gUPADHMANIYA,gATIKRAMA,TONE RINGe
 TONEdRINGe,gdANUSVARA ANTARGOMUKHA
1D00 LATIN
 lscA,lscAE,slTURNED AE,lscBARRED B,lscC,lscD,lscETH,lscE,slTURNED OPEN E,slTURNED I
1D0A LATINlsc
 J,K,Lwp,M,REVERSED N,O,OPEN O
1D11 LATINslSIDEWAYS
 O,OPEN O,Owp
1D14 LATIN
 slTURNED OE,lscOU,slTOP HALF O,slBOTTOM HALF O
1D18 LATINlsc
 P,REVERSED R,TURNED R,T,U
1D1D LATINslSIDEWAYS
 U,DIAERESIZED U,TURNED M
1D20 LATINl
 scV,scW,scZ,scEZH,VOICED LARYNGEAL SPIRANT,AIN
1D26 GREEKlsc
 GAMMA,LAMDA,PI,RHO,PSI
1D2B
 CYRILLIClscEL
1D2C MODIFIERlc
 A,AE,B,BARRED B,D,E,REVERSED E,G,H,I,J,K,L,M,N,REVERSED N,O,OU,P,R,T,U,W
1D43 MODIFIERls
 A,TURNED A,ALPHA,TURNED AE,B,D,E,SCHWA,OPEN E,TURNED OPEN E,G,TURNED I,K,M,ENG,O,OPEN O,TOP HALF O
 BOTTOM HALF O,P,T,U,SIDEWAYS U,TURNED M,V,AIN,BETA,GREEK GAMMA,DELTA,GREEK PHI,CHI
1D62 LATIN SUBSCRIPTsl
 I,R,U,V
1D66 GREEK SUBSCRIPTsl
 BETA,GAMMA,RHO,PHI,CHI
1D6B LATINsl
 UE,BwMIDDLE TILDE,DwMIDDLE TILDE,FwMIDDLE TILDE,MwMIDDLE TILDE,NwMIDDLE TILDE,PwMIDDLE TILDE
 RwMIDDLE TILDE,RwFISHHOOKnMIDDLE TILDE,SwMIDDLE TILDE,TwMIDDLE TILDE,ZwMIDDLE TILDE,TURNED G
1D78 MODIFIERlCYRILLIC
 EN
1D79 LATINs
 lINSULAR G,lTHwSTRIKETHROUGH,clIwp,lIOTAwp,lPwp,clUwp
1D7F LATINsl
 UPSILONwp,BwPALATAL HOOK,DwPALATAL HOOK,FwPALATAL HOOK,GwPALATAL HOOK,KwPALATAL HOOK,LwPALATAL HOOK
 MwPALATAL HOOK,NwPALATAL HOOK,PwPALATAL HOOK,RwPALATAL HOOK,SwPALATAL HOOK,ESHwPALATAL HOOK
 VwPALATAL HOOK,XwPALATAL HOOK,ZwPALATAL HOOK,AwRETROFLEX HOOK,ALPHAwRETROFLEX HOOK,DwHOOKnTAIL
 EwRETROFLEX HOOK,OPEN EwRETROFLEX HOOK,REVERSED OPEN EwRETROFLEX HOOK,SCHWAwRETROFLEX HOOK
 IwRETROFLEX HOOK,OPEN OwRETROFLEX HOOK,ESHwRETROFLEX HOOK,UwRETROFLEX HOOK,EZHwRETROFLEX HOOK
1D9B MODIFIERls
 TURNED ALPHA,C,CwCURL,ETH,REVERSED OPEN E,F,DOTLESS Jwp,SCRIPT G,TURNED H,Iwp,IOTA,cI,cIwp
 JwCROSSED-TAIL,LwRETROFLEX HOOK,LwPALATAL HOOK,cL,MwHOOK,TURNED MwLONG LEG,NwxHOOK,NwRETROFLEX HOOK
 cN,BARRED O,PHI,SwHOOK,ESH,TwPALATAL HOOK,U BAR,UPSILON,cU,VwHOOK,TURNED V,Z,ZwRETROFLEX HOOK
 ZwCURL,EZH,THETA
1DC0 COMBINING
 DOTTED GRAVE ACCENT,DOTTED ACUTE ACCENT,SNAKEb,SUSPENSIONm,MACRON-ACUTE,GRAVE-MACRON,MACRON-GRAVE
 ACUTE-MACRON,GRAVE-ACUTE-GRAVE,ACUTE-GRAVE-ACUTE,LATINslRb,BREVE-MACRON,MACRON-BREVE,dCIRCUMFLEXe
 OGONEKe,ZIGZAGb,ISb,URe,USe
1DD3 COMBINING LATIN
 slFLATTENED OPEN Ae,slAE,slAO,slAV,slC CEDILLA,slINSULAR D,slETH,slG,lscG,slK,slL,lscL,lscM,slN
 lscN,lscR
1DE3 COMBINING LATINsl
 R ROTUNDA,S,LONG S,Z,ALPHA,B,BETA,SCHWA,F,LwdMIDDLE TILDE,OwLIGHT CENTRALIZATIONp,P,ESH
 UwLIGHT CENTRALIZATIONp,W,AwDIAERESIS,OwDIAERESIS,UwDIAERESIS
1DF5 COMBINING
 UP TACKe,KAVYKAer,KAVYKAex,DOTex,WIDE INVERTED BRIDGEb,DOTbx,DELETIONm,dINVERTED BREVEb
 ALMOST EQUAL TOb,xARROWHEADe,rARROWHEADnDOWN ARROWHEADb
1E00 LATIN
 clAwRINGb,slAwRINGb,clBwDOTe,slBwDOTe,clBwDOTb,slBwDOTb,clBwLINEb,slBwLINEb,clCwCEDILLAnACUTE
 slCwCEDILLAnACUTE,clDwDOTe,slDwDOTe,clDwDOTb,slDwDOTb,clDwLINEb,slDwLINEb,clDwCEDILLA,slDwCEDILLA
 clDwCIRCUMFLEXb,slDwCIRCUMFLEXb,clEwMACRONnGRAVE,slEwMACRONnGRAVE,clEwMACRONnACUTE,slEwMACRONnACUTE
 clEwCIRCUMFLEXb,slEwCIRCUMFLEXb,clEwTILDEb,slEwTILDEb,clEwCEDILLAnBREVE,slEwCEDILLAnBREVE,clFwDOTe
 slFwDOTe,clGwMACRON,slGwMACRON,clHwDOTe,slHwDOTe,clHwDOTb,slHwDOTb,clHwDIAERESIS,slHwDIAERESIS
 clHwCEDILLA,slHwCEDILLA,clHwBREVEb,slHwBREVEb,clIwTILDEb,slIwTILDEb,clIwDIAERESISnACUTE
 slIwDIAERESISnACUTE,clKwACUTE,slKwACUTE,clKwDOTb,slKwDOTb,clKwLINEb,slKwLINEb,clLwDOTb,slLwDOTb
 clLwDOTbnMACRON,slLwDOTbnMACRON,clLwLINEb,slLwLINEb,clLwCIRCUMFLEXb,slLwCIRCUMFLEXb,clMwACUTE
 slMwACUTE,clMwDOTe,slMwDOTe,clMwDOTb,slMwDOTb,clNwDOTe,slNwDOTe,clNwDOTb,slNwDOTb,clNwLINEb
 slNwLINEb,clNwCIRCUMFLEXb,slNwCIRCUMFLEXb,clOwTILDEnACUTE,slOwTILDEnACUTE,clOwTILDEnDIAERESIS
 slOwTILDEnDIAERESIS,clOwMACRONnGRAVE,slOwMACRONnGRAVE,clOwMACRONnACUTE,slOwMACRONnACUTE,clPwACUTE
 slPwACUTE,clPwDOTe,slPwDOTe,clRwDOTe,slRwDOTe,clRwDOTb,slRwDOTb,clRwDOTbnMACRON,slRwDOTbnMACRON
 clRwLINEb,slRwLINEb,clSwDOTe,slSwDOTe,clSwDOTb,slSwDOTb,clSwACUTEnDOTe,slSwACUTEnDOTe
 clSwCARONnDOTe,slSwCARONnDOTe,clSwDOTbnDOTe,slSwDOTbnDOTe,clTwDOTe,slTwDOTe,clTwDOTb,slTwDOTb
 clTwLINEb,slTwLINEb,clTwCIRCUMFLEXb,slTwCIRCUMFLEXb,clUwDIAERESISb,slUwDIAERESISb,clUwTILDEb
 slUwTILDEb,clUwCIRCUMFLEXb,slUwCIRCUMFLEXb,clUwTILDEnACUTE,slUwTILDEnACUTE,clUwMACRONnDIAERESIS
 slUwMACRONnDIAERESIS,clVwTILDE,slVwTILDE,clVwDOTb,slVwDOTb,clWwGRAVE,slWwGRAVE,clWwACUTE,slWwACUTE
 clWwDIAERESIS,slWwDIAERESIS,clWwDOTe,slWwDOTe,clWwDOTb,slWwDOTb,clXwDOTe,slXwDOTe,clXwDIAERESIS
 slXwDIAERESIS,clYwDOTe,slYwDOTe,clZwCIRCUMFLEX,slZwCIRCUMFLEX,clZwDOTb,slZwDOTb,clZwLINEb,slZwLINEb
 slHwLINEb,slTwDIAERESIS,slWwRINGe,slYwRINGe,slAwrHALF RING,slLONG SwDOTe,slLONG SwDIAGONALp
 slLONG SwHIGHp,clSHARP S,slDELTA,clAwDOTb,slAwDOTb,clAwHOOKe,slAwHOOKe,clAwCIRCUMFLEXnACUTE
 slAwCIRCUMFLEXnACUTE,clAwCIRCUMFLEXnGRAVE,slAwCIRCUMFLEXnGRAVE,clAwCIRCUMFLEXnHOOKe
 slAwCIRCUMFLEXnHOOKe,clAwCIRCUMFLEXnTILDE,slAwCIRCUMFLEXnTILDE,clAwCIRCUMFLEXnDOTb
 slAwCIRCUMFLEXnDOTb,clAwBREVEnACUTE,slAwBREVEnACUTE,clAwBREVEnGRAVE,slAwBREVEnGRAVE,clAwBREVEnHOOKe
 slAwBREVEnHOOKe,clAwBREVEnTILDE,slAwBREVEnTILDE,clAwBREVEnDOTb,slAwBREVEnDOTb,clEwDOTb,slEwDOTb
 clEwHOOKe,slEwHOOKe,clEwTILDE,slEwTILDE,clEwCIRCUMFLEXnACUTE,slEwCIRCUMFLEXnACUTE
 clEwCIRCUMFLEXnGRAVE,slEwCIRCUMFLEXnGRAVE,clEwCIRCUMFLEXnHOOKe,slEwCIRCUMFLEXnHOOKe
 clEwCIRCUMFLEXnTILDE,slEwCIRCUMFLEXnTILDE,clEwCIRCUMFLEXnDOTb,slEwCIRCUMFLEXnDOTb,clIwHOOKe
 slIwHOOKe,clIwDOTb,slIwDOTb,clOwDOTb,slOwDOTb,clOwHOOKe,slOwHOOKe,clOwCIRCUMFLEXnACUTE
 slOwCIRCUMFLEXnACUTE,clOwCIRCUMFLEXnGRAVE,slOwCIRCUMFLEXnGRAVE,clOwCIRCUMFLEXnHOOKe
 slOwCIRCUMFLEXnHOOKe,clOwCIRCUMFLEXnTILDE,slOwCIRCUMFLEXnTILDE,clOwCIRCUMFLEXnDOTb
 slOwCIRCUMFLEXnDOTb,clOwHORNnACUTE,slOwHORNnACUTE,clOwHORNnGRAVE,slOwHORNnGRAVE,clOwHORNnHOOKe
 slOwHORNnHOOKe,clOwHORNnTILDE,slOwHORNnTILDE,clOwHORNnDOTb,slOwHORNnDOTb,clUwDOTb,slUwDOTb
 clUwHOOKe,slUwHOOKe,clUwHORNnACUTE,slUwHORNnACUTE,clUwHORNnGRAVE,slUwHORNnGRAVE,clUwHORNnHOOKe
 slUwHORNnHOOKe,clUwHORNnTILDE,slUwHORNnTILDE,clUwHORNnDOTb,slUwHORNnDOTb,clYwGRAVE,slYwGRAVE
 clYwDOTb,slYwDOTb,clYwHOOKe,slYwHOOKe,clYwTILDE,slYwTILDE,clMIDDLE-WELSH LL,slMIDDLE-WELSH LL
 clMIDDLE-WELSH V,slMIDDLE-WELSH V,clYwLOOP,slYwLOOP
1F00 GREEKslALPHAw
 PSILI,DASIA,PSILInVARIA,DASIAnVARIA,PSILInOXIA,DASIAnOXIA,PSILInPERISPOMENI,DASIAnPERISPOMENI
1F08 GREEKclALPHAw
 PSILI,DASIA,PSILInVARIA,DASIAnVARIA,PSILInOXIA,DASIAnOXIA,PSILInPERISPOMENI,DASIAnPERISPOMENI
1F10 GREEKslEPSILONw
 PSILI,DASIA,PSILInVARIA,DASIAnVARIA,PSILInOXIA,DASIAnOXIA
1F18 GREEKclEPSILONw
 PSILI,DASIA,PSILInVARIA,DASIAnVARIA,PSILInOXIA,DASIAnOXIA
1F20 GREEKslETAw
 PSILI,DASIA,PSILInVARIA,DASIAnVARIA,PSILInOXIA,DASIAnOXIA,PSILInPERISPOMENI,DASIAnPERISPOMENI
1F28 GREEKclETAw
 PSILI,DASIA,PSILInVARIA,DASIAnVARIA,PSILInOXIA,DASIAnOXIA,PSILInPERISPOMENI,DASIAnPERISPOMENI
1F30 GREEKslIOTAw
 PSILI,DASIA,PSILInVARIA,DASIAnVARIA,PSILInOXIA,DASIAnOXIA,PSILInPERISPOMENI,DASIAnPERISPOMENI
1F38 GREEKclIOTAw
 PSILI,DASIA,PSILInVARIA,DASIAnVARIA,PSILInOXIA,DASIAnOXIA,PSILInPERISPOMENI,DASIAnPERISPOMENI
1F40 GREEKslOMICRONw
 PSILI,DASIA,PSILInVARIA,DASIAnVARIA,PSILInOXIA,DASIAnOXIA
1F48 GREEKclOMICRONw
 PSILI,DASIA,PSILInVARIA,DASIAnVARIA,PSILInOXIA,DASIAnOXIA
1F50 GREEKslUPSILONw
 PSILI,DASIA,PSILInVARIA,DASIAnVARIA,PSILInOXIA,DASIAnOXIA,PSILInPERISPOMENI,DASIAnPERISPOMENI
1F59 GREEKclUPSILONw
 DASIA,,DASIAnVARIA,,DASIAnOXIA,,DASIAnPERISPOMENI
1F60 GREEKslOMEGAw
 PSILI,DASIA,PSILInVARIA,DASIAnVARIA,PSILInOXIA,DASIAnOXIA,PSILInPERISPOMENI,DASIAnPERISPOMENI
1F68 GREEKclOMEGAw
 PSILI,DASIA,PSILInVARIA,DASIAnVARIA,PSILInOXIA,DASIAnOXIA,PSILInPERISPOMENI,DASIAnPERISPOMENI
1F70 GREEKsl
 ALPHAwVARIA,ALPHAwOXIA,EPSILONwVARIA,EPSILONwOXIA,ETAwVARIA,ETAwOXIA,IOTAwVARIA,IOTAwOXIA
 OMICRONwVARIA,OMICRONwOXIA,UPSILONwVARIA,UPSILONwOXIA,OMEGAwVARIA,OMEGAwOXIA
1F80 GREEKslALPHAw
 PSILInYPOGEGRAMMENI,DASIAnYPOGEGRAMMENI,PSILInVARIAnYPOGEGRAMMENI,DASIAnVARIAnYPOGEGRAMMENI
 PSILInOXIAnYPOGEGRAMMENI,DASIAnOXIAnYPOGEGRAMMENI,PSILInPERISPOMENInYPOGEGRAMMENI
 DASIAnPERISPOMENInYPOGEGRAMMENI
1F88 GREEKclALPHAw
 PSILInPROSGEGRAMMENI,DASIAnPROSGEGRAMMENI,PSILInVARIAnPROSGEGRAMMENI,DASIAnVARIAnPROSGEGRAMMENI
 PSILInOXIAnPROSGEGRAMMENI,DASIAnOXIAnPROSGEGRAMMENI,PSILInPERISPOMENInPROSGEGRAMMENI
 DASIAnPERISPOMENInPROSGEGRAMMENI
1F90 GREEKslETAw
 PSILInYPOGEGRAMMENI,DASIAnYPOGEGRAMMENI,PSILInVARIAnYPOGEGRAMMENI,DASIAnVARIAnYPOGEGRAMMENI
 PSILInOXIAnYPOGEGRAMMENI,DASIAnOXIAnYPOGEGRAMMENI,PSILInPERISPOMENInYPOGEGRAMMENI
 DASIAnPERISPOMENInYPOGEGRAMMENI
1F98 GREEKclETAw
 PSILInPROSGEGRAMMENI,DASIAnPROSGEGRAMMENI,PSILInVARIAnPROSGEGRAMMENI,DASIAnVARIAnPROSGEGRAMMENI
 PSILInOXIAnPROSGEGRAMMENI,DASIAnOXIAnPROSGEGRAMMENI,PSILInPERISPOMENInPROSGEGRAMMENI
 DASIAnPERISPOMENInPROSGEGRAMMENI
1FA0 GREEKslOMEGAw
 PSILInYPOGEGRAMMENI,DASIAnYPOGEGRAMMENI,PSILInVARIAnYPOGEGRAMMENI,DASIAnVARIAnYPOGEGRAMMENI
 PSILInOXIAnYPOGEGRAMMENI,DASIAnOXIAnYPOGEGRAMMENI,PSILInPERISPOMENInYPOGEGRAMMENI
 DASIAnPERISPOMENInYPOGEGRAMMENI
1FA8 GREEKclOMEGAw
 PSILInPROSGEGRAMMENI,DASIAnPROSGEGRAMMENI,PSILInVARIAnPROSGEGRAMMENI,DASIAnVARIAnPROSGEGRAMMENI
 PSILInOXIAnPROSGEGRAMMENI,DASIAnOXIAnPROSGEGRAMMENI,PSILInPERISPOMENInPROSGEGRAMMENI
 DASIAnPERISPOMENInPROSGEGRAMMENI
1FB0 GREEKslALPHAw
 VRACHY,MACRON,VARIAnYPOGEGRAMMENI,YPOGEGRAMMENI,OXIAnYPOGEGRAMMENI,,PERISPOMENI
 PERISPOMENInYPOGEGRAMMENI
1FB8 GREEKclALPHAw
 VRACHY,MACRON,VARIA,OXIA,PROSGEGRAMMENI
1FBD GREEK
 KORONIS,PROSGEGRAMMENI,PSILI,PERISPOMENI,DIALYTIKAnPERISPOMENI
1FC2 GREEKslETAw
 VARIAnYPOGEGRAMMENI,YPOGEGRAMMENI,OXIAnYPOGEGRAMMENI,,PERISPOMENI,PERISPOMENInYPOGEGRAMMENI
1FC8 GREEKclEPSILONw
 VARIA,OXIA
1FCA GREEKclETAw
 VARIA,OXIA,PROSGEGRAMMENI
1FCD GREEK PSILIn
 VARIA,OXIA,PERISPOMENI
1FD0 GREEKslIOTAw
 VRACHY,MACRON,DIALYTIKAnVARIA,DIALYTIKAnOXIA,,,PERISPOMENI,DIALYTIKAnPERISPOMENI
1FD8 GREEKclIOTAw
 VRACHY,MACRON,VARIA,OXIA
1FDD GREEK DASIAn
 VARIA,OXIA,PERISPOMENI
1FE0 GREEKslUPSILONw
 VRACHY,MACRON,DIALYTIKAnVARIA,DIALYTIKAnOXIA
1FE4 GREEKsl
 RHOwPSILI,RHOwDASIA,UPSILONwPERISPOMENI,UPSILONwDIALYTIKAnPERISPOMENI
1FE8 GREEKclUPSILONw
 VRACHY,MACRON,VARIA,OXIA
1FEC GREEK
 clRHOwDASIA,DIALYTIKAnVARIA,DIALYTIKAnOXIA,VARIA
1FF2 GREEKslOMEGAw
 VARIAnYPOGEGRAMMENI,YPOGEGRAMMENI,OXIAnYPOGEGRAMMENI,,PERISPOMENI,PERISPOMENInYPOGEGRAMMENI
1FF8 GREEKclOMICRONw
 VARIA,OXIA
1FFA GREEKclOMEGAw
 VARIA,OXIA,PROSGEGRAMMENI
1FFD GREEK
 OXIA,DASIA"

end Throws.Text.CharacterNames
