/-!
# Names of ancient scripts

From Linear B to the historic scripts of India.
-/

namespace Throws.Text.CharacterNames

/-- Characters from U+10000 to U+11FFF. -/
def ancientScripts : String := "10000 LINEAR B SYLLABLE
 B008 A,B038 E,B028 I,B061 O,B010 U,B001 DA,B045 DE,B007 DI,B014 DO,B051 DU,B057 JA,B046 JE,,B036 JO
 B065 JU,B077 KA,B044 KE,B067 KI,B070 KO,B081 KU,B080 MA,B013 ME,B073 MI,B015 MO,B023 MU,B006 NA
 B024 NE,B030 NI,B052 NO,B055 NU,B003 PA,B072 PE,B039 PI,B011 PO,B050 PU,B016 QA,B078 QE,B021 QI
 B032 QO,,B060 RA,B027 RE,B053 RI,B002 RO,B026 RU,B031 SA,B009 SE,B041 SI,B012 SO,B058 SU,B059 TA
 B004 TE,B037 TI,B005 TO,B069 TU,B054 WA,B075 WE,B040 WI,B042 WO,,B017 ZA,B074 ZE,,B020 ZO,B025 A2
 B043 A3,B085 AU,B071 DWE,B090 DWO,B048 NWA,B029 PU2,B062 PTE,B076 RA2,B033 RA3,B068 RO2,B066 TA2
 B087 TWE,B091 TWO
10050 LINEAR Bu
 B018,B019,B022,B034,B047,B049,B056,B063,B064,B079,B082,B083,B086,B089
10080 LINEAR B IDEOGRAM
 B100 MAN,B102 WOMAN,B104 DEER,B105 EQUID,B105F MARE,B105M STALLION,B106F EWE,B106M RAM
 B107F SHE-GOAT,B107M HE-GOAT,B108F SOW,B108M BOAR,B109F COW,B109M BULL,B120 WHEAT,B121 BARLEY
 B122 OLIVE,B123 SPICE,B125 CYPERUS
10093 LINEAR B MONOGRAM
 B127 KAPO,B128 KANAKO
10095 LINEAR B IDEOGRAM
 B130 OIL,B131 WINE,B132
10098 LINEAR B MONOGRAM
 B133 AREPA,B135 MERI
1009A LINEAR B IDEOGRAM
 B140 BRONZE,B141 GOLD,B142,B145 WOOL,B146,B150,B151 HORN,B152~154
100A4 LINEAR B MONOGRAM B156
 TURO2
100A5 LINEAR B IDEOGRAM
 B157,B158,B159 CLOTH,B160,B161,B162 GARMENT,B163 ARMOUR,B164~172,B173 MONTH,B174,B176 TREE,B177~185
 B189,B190,B191 HELMET,B220 FOOTSTOOL,B225 BATHTUB,B230 SPEAR,B231a,B232,B233 SWORD,B234,B236
 B240 WHEELED CHARIOT,B241 CHARIOT,B242 CHARIOT FRAME,B243 WHEEL,B245,B246
100D2 LINEAR B MONOGRAM B247
 DIPTE
100D3 LINEAR B IDEOGRAM
 B248,B249,B251~253,B254 DART,B255~259
100DE LINEAR B IDEOGRAM VESSEL
 B155,B200~219,B221,B222,B226~229,B250,B305
10100 AEGEAN WORD SEPARATOR
 LINE,DOT
10102 AEGEAN
 CHECKm
10107 AEGEAN NUMBER
 ONE,TWO,t,FOUR,FIVE,SIX,SEVEN,EIGHT,NINE,TEN,TWENTY,THIRTY,FORTY,FIFTY,SIXTY,SEVENTY,EIGHTY,NINETY
 ONE HUNDRED,TWO HUNDRED,tHUNDRED,FOUR HUNDRED,FIVE HUNDRED,SIX HUNDRED,SEVEN HUNDRED,EIGHT HUNDRED
 NINE HUNDRED,ONE THOUSAND,TWO THOUSAND,tTHOUSAND,FOUR THOUSAND,FIVE THOUSAND,SIX THOUSAND
 SEVEN THOUSAND,EIGHT THOUSAND,NINE THOUSAND,TEN THOUSAND,TWENTY THOUSAND,THIRTY THOUSAND
 FORTY THOUSAND,FIFTY THOUSAND,SIXTY THOUSAND,SEVENTY THOUSAND,EIGHTY THOUSAND,NINETY THOUSAND
10137 AEGEAN WEIGHT
 BASE UNIT,FIRST SUBUNIT,SECOND SUBUNIT,THIRD SUBUNIT,FOURTH SUBUNIT
1013C AEGEAN
 DRY MEASURE FIRST SUBUNIT,LIQUID MEASURE FIRST SUBUNIT,MEASURE SECOND SUBUNIT,MEASURE THIRD SUBUNIT
10140 GREEK ACROPHONIC ATTIC
 ONE QUARTER,ONE HALF,ONE DRACHMA,FIVE,FIFTY,FIVE HUNDRED,FIVE THOUSAND,FIFTY THOUSAND,FIVE TALENTS
 TEN TALENTS,FIFTY TALENTS,ONE HUNDRED TALENTS,FIVE HUNDRED TALENTS,ONE THOUSAND TALENTS
 FIVE THOUSAND TALENTS,FIVE STATERS,TEN STATERS,FIFTY STATERS,ONE HUNDRED STATERS
 FIVE HUNDRED STATERS,ONE THOUSAND STATERS,TEN THOUSAND STATERS,FIFTY THOUSAND STATERS,TEN MNAS
10158 GREEK ACROPHONIC
 HERAEUM ONE PLETHRON,THESPIAN ONE,HERMIONIAN ONE,EPIDAUREAN TWO,THESPIAN TWO,CYRENAIC TWO DRACHMAS
 EPIDAUREAN TWO DRACHMAS,TROEZENIAN FIVE,TROEZENIAN TEN,TROEZENIAN TEN ALTERNATEf,HERMIONIAN TEN
 MESSENIAN TEN,THESPIAN TEN,THESPIAN THIRTY,TROEZENIAN FIFTY,TROEZENIAN FIFTY ALTERNATEf
 HERMIONIAN FIFTY,THESPIAN FIFTY,THESPIAN ONE HUNDRED,THESPIANtHUNDRED,EPIDAUREAN FIVE HUNDRED
 TROEZENIAN FIVE HUNDRED,THESPIAN FIVE HUNDRED,CARYSTIAN FIVE HUNDRED,NAXIAN FIVE HUNDRED
 THESPIAN ONE THOUSAND,THESPIAN FIVE THOUSAND,DELPHIC FIVE MNAS,STRATIAN FIFTY MNAS
10175 GREEK
 ONE HALFg,ONE HALFgALTERNATEf,TWO THIRDSg,tQUARTERSg,YEARg,TALENTg,DRACHMAg,OBOLg,TWO OBOLSg
 tOBOLSg,FOUR OBOLSg,FIVE OBOLSg,METRETESg,KYATHOS BASEg,LITRAg,OUNKIAg,XESTESg,ARTABEg,AROURAg
 GRAMMAg,TRYBLION BASEg,ZEROg,ONE QUARTERg,SINUSOIDg,INDICTIONg
1018E
 NOMISMAg
10190 ROMAN
 SEXTANSg,UNCIAg,SEMUNCIAg,SEXTULAg,DIMIDIA SEXTULAg,SILIQUAg,DENARIUSg,QUINARIUSg,SESTERTIUSg
 DUPONDIUSg,ASg,CENTURIALg
1019C
 ASCIAu,,,,GREEKuTAU RHO
101D0 PHAISTOS DISCg
 PEDESTRIAN,PLUMED HEAD,TATTOOED HEAD,CAPTIVE,CHILD,WOMAN,HELMET,GAUNTLET,TIARA,a,BOW,SHIELD,CLUB
 MANACLES,MATTOCK,SAW,LID,BOOMERANG,CARPENTRY PLANE,DOLIUM,COMB,SLING,COLUMN,BEEHIVE,SHIP,HORN,HIDE
 BULLS LEG,CAT,RAM,EAGLE,DOVE,TUNNY,BEE,PLANE TREE,VINE,PAPYRUS,ROSETTE,LILY,OX BACK,FLUTE,GRATER
 STRAINER,sAXE,WAVY BAND,COMBINING OBLIQUEp
10280 LYCIANl
 A,E,B,BH,G,D,I,W,Z,TH,J,K,Q,L,M,N,MM,NN,U,P,KK,R,S,T,TT,AN,EN,H,X
102A0 CARIANl
 A,P2,D,L,UUU,R,LD,A2,Q,B,M,O,D2,T,SH,SH2,S,C-18,U,NN,X,N,TT2,P,SS,I,E,UUUU,K,K2,ND,UU,G,G2,ST,ST2
 NG,II,C-39,TT,UUU2,RR,MB,MB2~4,LD2,E2,UUU3
102E0 COPTIC EPACT
 THOUSANDSm
102E1 COPTIC EPACT DIGIT
 ONE,TWO,t,FOUR,FIVE,SIX,SEVEN,EIGHT,NINE
102EA COPTIC EPACT NUMBER
 TEN,TWENTY,THIRTY,FORTY,FIFTY,SIXTY,SEVENTY,EIGHTY,NINETY,ONE HUNDRED,TWO HUNDRED,tHUNDRED
 FOUR HUNDRED,FIVE HUNDRED,SIX HUNDRED,SEVEN HUNDRED,EIGHT HUNDRED,NINE HUNDRED
10300 OLD ITALICl
 A,BE,KE,DE,E,VE,ZE,HE,THE,I,KA,EL,EM,EN,ESH,O,PE,SHE,KU,ER,ES,TE,U,EKS,PHE,KHE,EF,ERS,CHE,II,UU,ESS
10320 OLD ITALIC NUMERAL
 ONE,FIVE,TEN,FIFTY
1032D OLD ITALICl
 YE,NORTHERN TSE,SOUTHERN TSE
10330 GOTHICl
 AHSA,BAIRKAN,GIBA,DAGS,AIHVUS,QAIRTHRA,IUJA,HAGL,THIUTH,EIS,KUSMA,LAGUS,MANNA,NAUTHS,JER,URUS
 PAIRTHRA,NINETY,RAIDA,SAUIL,TEIWS,WINJA,FAIHU,IGGWS,HWAIR,OTHAL,NINE HUNDRED
10350 OLD PERMICl
 AN,BUR,GAI,DOI,E,ZHOI,DZHOI,ZATA,DZITA,I,KOKE,LEI,MENOE,NENOE,VOOI,PEEI,REI,SII,TAI,U,CHERY,SHOOI
 SHCHOOI,YRY,YERU,O,OO,EF,HA,TSIU,VER,YER,YERI,YAT,IE,YU,YA,IA
10376 COMBINING OLD PERMICl
 AN,DOI,ZATA,NENOE,SII
10380 UGARITICl
 ALPA,BETA,GAMLA,KHA,DELTA,HO,WO,ZETA,HOTA,TET,YOD,KAF,SHIN,LAMDA,MEM,DHAL,NUN,ZU,SAMKA,AIN,PU,SADE
 QOPA,RASHA,THANNA,GHAIN,TO,I,U,SSU
1039F UGARITIC WORD
 DIVIDER
103A0 OLD PERSIANg
 A,I,U,KA,KU,GA,GU,XA,CA,JA,JI,TA,TU,DA,DI,DU,THA,PA,BA,FA,NA,NU,MA,MI,MU,YA,VA,VI,RA,RU,LA,SA,ZA
 SHA,SSA,HA,,,,,AURAMAZDAA,AURAMAZDAA-2,AURAMAZDAAHA,XSHAAYATHIYA,DAHYAAUSH,DAHYAAUSH-2,BAGA,BUUMISH
103D0 OLD PERSIAN WORD
 DIVIDER
103D1 OLD PERSIAN NUMBER
 ONE,TWO,TEN,TWENTY,HUNDRED
10400 DESERETclLONG
 I,E,A,AH,O,OO
10406 DESERETclSHORT
 I,E,A,AH,O,OO
1040C DESERETcl
 AY,OW,WU,YEE,H,PEE,BEE,TEE,DEE,CHEE,JEE,KAY,GAY,EF,VEE,ETH,THEE,ES,ZEE,ESH,ZHEE,ER,EL,EM,EN,ENG,OI
 EW
10428 DESERETslLONG
 I,E,A,AH,O,OO
1042E DESERETslSHORT
 I,E,A,AH,O,OO
10434 DESERETsl
 AY,OW,WU,YEE,H,PEE,BEE,TEE,DEE,CHEE,JEE,KAY,GAY,EF,VEE,ETH,THEE,ES,ZEE,ESH,ZHEE,ER,EL,EM,EN,ENG,OI
 EW
10450 SHAVIANl
 PEEP,TOT,KICK,FEE,THIGH,SO,SURE,CHURCH,YEA,HUNG,BIB,DEAD,GAG,VOW,THEY,ZOO,MEASURE,JUDGE,WOE,HA-HA
 LOLL,MIME,IF,EGG,ASH,ADO,ON,WOOL,OUT,AH,ROAR,NUN,EAT,AGE,ICE,UP,OAK,OOZE,OIL,AWE,ARE,OR,AIR,ERR
 ARRAY,EAR,IAN,YEW
10480 OSMANYAl
 ALEF,BA,TA,JA,XA,KHA,DEEL,RA,SA,SHIIN,DHA,CAYN,GA,FA,QAAF,KAAF,LAAN,MIIN,NUUN,WAW,HA,YA,A,E,I,O,U
 AA,EE,OO
104A0 OSMANYA DIGIT
 ZERO,ONE,TWO,t,FOUR,FIVE,SIX,SEVEN,EIGHT,NINE
104B0 OSAGEcl
 A,AI,AIN,AH,BRA,CHA,EHCHA,E,EIN,HA,HYA,I,KA,EHKA,KYA,LA,MA,NA,O,OIN,PA,EHPA,SA,SHA,TA,EHTA,TSA
 EHTSA,TSHA,DHA,U,WA,KHA,GHA,ZA,ZHA
104D8 OSAGEsl
 A,AI,AIN,AH,BRA,CHA,EHCHA,E,EIN,HA,HYA,I,KA,EHKA,KYA,LA,MA,NA,O,OIN,PA,EHPA,SA,SHA,TA,EHTA,TSA
 EHTSA,TSHA,DHA,U,WA,KHA,GHA,ZA,ZHA
10500 ELBASANl
 A,BE,CE,CHE,DE,NDE,DHE,EI,E,FE,GE,GJE,HE,I,JE,KE,LE,LLE,ME,NE,NA,NJE,O,PE,QE,RE,RRE,SE,SHE,TE,THE,U
 VE,XE,Y,ZE,ZHE,GHE,GHAMMA,KHE
10530 CAUCASIAN ALBANIANl
 ALT,BET,GIM,DAT,EB,ZARL,EYN,ZHIL,TAS,CHA,YOWD,ZHA,IRB,SHA,LAN,INYA,XEYN,DYAN,CAR,JHOX,KAR,LYIT,HEYT
 QAY,AOR,CHOY,CHI,CYAY,MAQ,QAR,NOWC,DZYAY,SHAK,JAYN,ON,TYAY,FAM,DZAY,CHAT,PEN,GHEYS,RAT,SEYK,VEYZ
 TIWR,SHOY,IWN,CYAW,CAYN,YAYD,PIWR,KIW
1056F CAUCASIAN ALBANIAN
 CITATIONm
10570 VITHKUQIcl
 A,BBE,BE,CE,CHE,DE,DHE,EI,E,FE,GA,,HA,HHA,I,IJE,JE,KA,LA,LLA,ME,NE,NJE,O,PE,QA,RE,,SE,SHE,TE,THE,U
 VE,XE,,Y,ZE
10597 VITHKUQIsl
 A,BBE,BE,CE,CHE,DE,DHE,EI,E,FE,GA,,HA,HHA,I,IJE,JE,KA,LA,LLA,ME,NE,NJE,O,PE,QA,RE,,SE,SHE,TE,THE,U
 VE,XE,,Y,ZE
10600 LINEAR Ag
 AB001~11,AB013,AB016,AB017,AB020,AB021,AB021F,AB021M,AB022,AB022F,AB022M,AB023,AB023M,AB024
 AB026~28,A028B,AB029~31,AB034,AB037~41,AB044~51,AB053~61,AB065~67,AB069,AB070,AB073,AB074,AB076~82
 AB085~87,A100-102,AB118,AB120,A120B,AB122,AB123,AB131A,AB131B,A131C,AB164,AB171,AB180,AB188,AB191
 A301~308,A309A,A309B,A309C,A310~312,A313A,A313B,A313C,A314~371,A400-VAS,A401-VAS,A402-VAS,A403-VAS
 A404-VAS,A405-VAS,A406-VAS,A407-VAS,A408-VAS,A409-VAS,A410-VAS,A411-VAS,A412-VAS,A413-VAS,A414-VAS
 A415-VAS,A416-VAS,A417-VAS,A418-VAS,A501~506,A508~513,A515,A516,A520,A521,A523~532,A534~542,A545
 A547~557,A559,A563~566,A568~589,A591,A592,A594~596,A598,A600~604,A606,A608~624,A626~629,A634,A637
 A638,A640,A642~646,A648,A649,A651~664,,,,,,,,,,A701 A,A702 B,A703 D,A704 E,A705 F,A706 H,A707 J
 A708 K,A709 L,A709-2 L2,A709-3 L3,A709-4 L4,A709-6 L6,A710 W,A711 X,A712 Y,A713 OMEGA,A714 ABB
 A715 BB,A717 DD,A726 EYYY,A732 JE,,,,,,,,,,,A800~807
10780 MODIFIERl
 scAA,SUPERSCRIPT TRIANGULAR COLON,SUPERSCRIPT HALF TRIANGULAR COLON
10783 MODIFIERls
 AE,cB,BwHOOK,,DZ DIGRAPH,DZ DIGRAPHwRETROFLEX HOOK,DZ DIGRAPHwCURL,DEZH DIGRAPH,DwTAIL,DwHOOK
 DwHOOKnTAIL,REVERSED E,CLOSED REVERSED OPEN E,FENG DIGRAPH,RAMS HORN,cG,GwHOOK,cGwHOOK,Hwp,cH
 HENGwHOOK,DOTLESS JwpnHOOK,LS DIGRAPH,LZ DIGRAPH,LwBELT,cLwBELT,LwRETROFLEX HOOKnBELT,LEZH
 LEZHwRETROFLEX HOOK,TURNED Y,TURNED YwBELT,Owp,cOE,CLOSED OMEGA,Q,TURNED RwLONG LEG
 TURNED RwLONG LEGnRETROFLEX HOOK,RwTAIL,RwFISHHOOK,cR,TC DIGRAPHwCURL,TS DIGRAPH
 TS DIGRAPHwRETROFLEX HOOK,TESH DIGRAPH,TwRETROFLEX HOOK,VwrHOOK
107B2 MODIFIERl
 scY,GLOTTAL STOPwp,REVERSED GLOTTAL STOPwp,BILABIAL CLICK,DENTAL CLICK,LATERAL CLICK,ALVEOLAR CLICK
 RETROFLEX CLICKwRETROFLEX HOOK,sSwCURL
10800 CYPRIOT SYLLABLE
 A,E,I,O,U,JA,,,JO,,KA,KE,KI,KO,KU,LA,LE,LI,LO,LU,MA,ME,MI,MO,MU,NA,NE,NI,NO,NU,PA,PE,PI,PO,PU,RA,RE
 RI,RO,RU,SA,SE,SI,SO,SU,TA,TE,TI,TO,TU,WA,WE,WI,WO,,XA,XE,,,,ZA,,,ZO
10840 IMPERIAL ARAMAIC
 lALEPH,lBETH,lGIMEL,lDALETH,lHE,lWAW,lZAYIN,lHETH,lTETH,lYODH,lKAPH,lLAMEDH,lMEM,lNUN,lSAMEKH,lAYIN
 lPE,lSADHE,lQOPH,lRESH,lSHIN,lTAW,,SECTIONg
10858 IMPERIAL ARAMAIC NUMBER
 ONE,TWO,t,TEN,TWENTY,ONE HUNDRED,ONE THOUSAND,TEN THOUSAND
10860 PALMYRENEl
 ALEPH,BETH,GIMEL,DALETH,HE,WAW,ZAYIN,HETH,TETH,YODH,KAPH,LAMEDH,MEM,oNUN,NUN,SAMEKH,AYIN,PE,SADHE
 QOPH,RESH,SHIN,TAW
10877 PALMYRENE
 LEFT-POINTING FLEURON,RIGHT-POINTING FLEURON
10879 PALMYRENE NUMBER
 ONE,TWO,t,FOUR,FIVE,TEN,TWENTY
10880 NABATAEANl
 oALEPH,ALEPH,oBETH,BETH,GIMEL,DALETH,oHE,HE,WAW,ZAYIN,HETH,TETH,oYODH,YODH,oKAPH,KAPH,oLAMEDH
 LAMEDH,oMEM,MEM,oNUN,NUN,SAMEKH,AYIN,PE,SADHE,QOPH,RESH,oSHIN,SHIN,TAW
108A7 NABATAEAN NUMBER
 ONE,TWO,t,FOUR
108AB NABATAEAN CRUCIFORM NUMBER
 FOUR
108AC NABATAEAN NUMBER
 FIVE,TEN,TWENTY,ONE HUNDRED
108E0 HATRANl
 ALEPH,BETH,GIMEL,DALETH-RESH,HE,WAW,ZAYN,HETH,TETH,YODH,KAPH,LAMEDH,MEM,NUN,SAMEKH,AYN,PE,SADHE
 QOPH,,SHIN,TAW
108FB HATRAN NUMBER
 ONE,FIVE,TEN,TWENTY,ONE HUNDRED
10900 PHOENICIANl
 ALF,BET,GAML,DELT,HE,WAU,ZAI,HET,TET,YOD,KAF,LAMD,MEM,NUN,SEMK,AIN,PE,SADE,QOF,ROSH,SHIN,TAU
10916 PHOENICIAN NUMBER
 ONE,TEN,TWENTY,ONE HUNDRED,TWO,t
1091F PHOENICIAN WORD
 SEPARATOR
10920 LYDIANl
 A,B,G,D,E,V,I,Y,K,L,M,N,O,R,SS,T,U,F,Q,S,TT,AN,EN,LY,NN,C
1093F LYDIAN
 TRIANGULARm
10980 MEROITIC HIEROGLYPHICl
 A,E,I,O,YA,WA,BA,BA-2,PA,MA,NA,NA-2,NE,NE-2,RA,RA-2,LA,KHA,HHA,SA,SA-2,SE,KA,QA,TA,TA-2,TE,TE-2,TO
 DA
1099E MEROITIC HIEROGLYPHICu
 VIDJ,VIDJ-2
109A0 MEROITIC CURSIVEl
 A,E,I,O,YA,WA,BA,PA,MA,NA,NE,RA,LA,KHA,HHA,SA,ARCHAIC SA,SE,KA,QA,TA,TE,TO,DA
109BC MEROITIC CURSIVE
 FRACTION ELEVEN TWELFTHS,FRACTION ONE HALF,LOGOGRAM RMT,LOGOGRAM IMN
109C0 MEROITIC CURSIVE NUMBER
 ONE,TWO,t,FOUR,FIVE,SIX,SEVEN,EIGHT,NINE,TEN,TWENTY,THIRTY,FORTY,FIFTY,SIXTY,SEVENTY,,,ONE HUNDRED
 TWO HUNDRED,tHUNDRED,FOUR HUNDRED,FIVE HUNDRED,SIX HUNDRED,SEVEN HUNDRED,EIGHT HUNDRED,NINE HUNDRED
 ONE THOUSAND,TWO THOUSAND,tTHOUSAND,FOUR THOUSAND,FIVE THOUSAND,SIX THOUSAND,SEVEN THOUSAND
 EIGHT THOUSAND,NINE THOUSAND,TEN THOUSAND,TWENTY THOUSAND,THIRTY THOUSAND,FORTY THOUSAND
 FIFTY THOUSAND,SIXTY THOUSAND,SEVENTY THOUSAND,EIGHTY THOUSAND,NINETY THOUSAND,ONE HUNDRED THOUSAND
 TWO HUNDRED THOUSAND,tHUNDRED THOUSAND,FOUR HUNDRED THOUSAND,FIVE HUNDRED THOUSAND
 SIX HUNDRED THOUSAND,SEVEN HUNDRED THOUSAND,EIGHT HUNDRED THOUSAND,NINE HUNDRED THOUSAND
109F6 MEROITIC CURSIVE FRACTION
 ONE TWELFTH,TWO TWELFTHS,tTWELFTHS,FOUR TWELFTHS,FIVE TWELFTHS,SIX TWELFTHS,SEVEN TWELFTHS
 EIGHT TWELFTHS,NINE TWELFTHS,TEN TWELFTHS
10A00 KHAROSHTHI
 lA,VOWELgI,VOWELgU,VOWELgVOCALIC R,,VOWELgE,VOWELgO,,,,,,VOWEL LENGTHm,gdRINGb,gANUSVARA,gVISARGA
10A10 KHAROSHTHIl
 KA,KHA,GA,GHA,,CA,CHA,JA,,NYA,TTA,TTHA,DDA,DDHA,NNA,TA,THA,DA,DHA,NA,PA,PHA,BA,BHA,MA,YA,RA,LA,VA
 SHA,SSA,SA,ZA,HA,KKA,TTTHA,TTTA,VHA
10A38 KHAROSHTHI
 gBARe,gCAUDA,gDOTb,,,,,VIRAMA,DIGIT ONE,DIGIT TWO,DIGITt,DIGIT FOUR,NUMBER TEN,NUMBER TWENTY
 NUMBER ONE HUNDRED,NUMBER ONE THOUSAND,FRACTION ONE HALF
10A50 KHAROSHTHI PUNCTUATION
 DOT,sCIRCLE,CIRCLE,CRESCENT BAR,MANGALAM,LOTUS,DANDA,dDANDA,LINES
10A60 OLD SOUTH ARABIANl
 HE,LAMEDH,HETH,MEM,QOPH,WAW,SHIN,RESH,BETH,TAW,SAT,KAPH,NUN,KHETH,SADHE,SAMEKH,FE,ALEF,AYN,DHADHE
 GIMEL,DALETH,GHAYN,TETH,ZAYN,DHALETH,YODH,THAW,THETH
10A7D OLD SOUTH ARABIAN
 NUMBER ONE,NUMBER FIFTY,NUMERIC INDICATOR
10A80 OLD NORTH ARABIANl
 HEH,LAM,HAH,MEEM,QAF,WAW,ES-2,REH,BEH,TEH,ES-1,KAF,NOON,KHAH,SAD,ES-3,FEH,ALEF,AIN,DAD,GEEM,DAL
 GHAIN,TAH,ZAIN,THAL,YEH,THEH,ZAH
10A9D OLD NORTH ARABIAN NUMBER
 ONE,TEN,TWENTY
10AC0 MANICHAEAN
 lALEPH,lBETH,lBHETH,lGIMEL,lGHIMEL,lDALETH,lHE,lWAW,gUD
10AC9 MANICHAEANl
 ZAYIN,ZHAYIN,JAYIN,JHAYIN,HETH,TETH,YODH,KAPH,XAPH,KHAPH,LAMEDH,DHAMEDH,THAMEDH,MEM,NUN,SAMEKH,AYIN
 AAYIN,PE,FE,SADHE,QOPH,XOPH,QHOPH,RESH,SHIN,SSHIN,TAW
10AE5 MANICHAEAN ABBREVIATIONm
 e,b
10AEB MANICHAEAN NUMBER
 ONE,FIVE,TEN,TWENTY,ONE HUNDRED
10AF0 MANICHAEAN PUNCTUATION
 STAR,FLEURON,dDOT WITHIN DOT,DOT WITHIN DOT,DOT,TWO DOTS,LINE FILLER
10B00 AVESTANl
 A,AA,AO,AAO,AN,AAN,AE,AEE,E,EE,O,OO,I,II,U,UU,KE,XE,XYE,XVE,GE,GGE,GHE,CE,JE,TE,THE,DE,DHE,TTE,PE
 FE,BE,BHE,NGE,NGYE,NGVE,NE,NYE,NNE,ME,HME,YYE,YE,VE,RE,LE,SE,ZE,SHE,ZHE,SHYE,SSHE,HE
10B39
 AVESTAN ABBREVIATIONm,TINY TWO DOTS OVER ONE DOT PUNCTUATION,sTWO DOTS OVER ONE DOT PUNCTUATION
10B3C LARGE
 TWO DOTS OVER ONE DOT PUNCTUATION,ONE DOT OVER TWO DOTS PUNCTUATION
 TWO RINGS OVER ONE RING PUNCTUATION,ONE RING OVER TWO RINGS PUNCTUATION
10B40 INSCRIPTIONAL PARTHIANl
 ALEPH,BETH,GIMEL,DALETH,HE,WAW,ZAYIN,HETH,TETH,YODH,KAPH,LAMEDH,MEM,NUN,SAMEKH,AYIN,PE,SADHE,QOPH
 RESH,SHIN,TAW
10B58 INSCRIPTIONAL PARTHIAN NUMBER
 ONE,TWO,t,FOUR,TEN,TWENTY,ONE HUNDRED,ONE THOUSAND
10B60 INSCRIPTIONAL PAHLAVIl
 ALEPH,BETH,GIMEL,DALETH,HE,WAW-AYIN-RESH,ZAYIN,HETH,TETH,YODH,KAPH,LAMEDH,MEM-QOPH,NUN,SAMEKH,PE
 SADHE,SHIN,TAW
10B78 INSCRIPTIONAL PAHLAVI NUMBER
 ONE,TWO,t,FOUR,TEN,TWENTY,ONE HUNDRED,ONE THOUSAND
10B80 PSALTER PAHLAVIl
 ALEPH,BETH,GIMEL,DALETH,HE,WAW-AYIN-RESH,ZAYIN,HETH,YODH,KAPH,LAMEDH,MEM-QOPH,NUN,SAMEKH,PE,SADHE
 SHIN,TAW
10B99 PSALTER PAHLAVI
 SECTIONm,TURNED SECTIONm,FOUR DOTSwCROSS,FOUR DOTSwDOT
10BA9 PSALTER PAHLAVI NUMBER
 ONE,TWO,t,FOUR,TEN,TWENTY,ONE HUNDRED
10C00 OLD TURKICl
 ORKHON A,YENISEI A,YENISEI AE,ORKHON I,YENISEI I,YENISEI E,ORKHON O,ORKHON OE,YENISEI OE,ORKHON AB
 YENISEI AB,ORKHON AEB,YENISEI AEB,ORKHON AG,YENISEI AG,ORKHON AEG,YENISEI AEG,ORKHON AD,YENISEI AD
 ORKHON AED,ORKHON EZ,YENISEI EZ,ORKHON AY,YENISEI AY,ORKHON AEY,YENISEI AEY,ORKHON AEK,YENISEI AEK
 ORKHON OEK,YENISEI OEK,ORKHON AL,YENISEI AL,ORKHON AEL,ORKHON ELT,ORKHON EM,ORKHON AN,ORKHON AEN
 YENISEI AEN,ORKHON ENT,YENISEI ENT,ORKHON ENC,YENISEI ENC,ORKHON ENY,YENISEI ENY,YENISEI ANG
 ORKHON ENG,YENISEI AENG,ORKHON EP,ORKHON OP,ORKHON IC,ORKHON EC,YENISEI EC,ORKHON AQ,YENISEI AQ
 ORKHON IQ,YENISEI IQ,ORKHON OQ,YENISEI OQ,ORKHON AR,YENISEI AR,ORKHON AER,ORKHON AS,ORKHON AES
 ORKHON ASH,YENISEI ASH,ORKHON ESH,YENISEI ESH,ORKHON AT,YENISEI AT,ORKHON AET,YENISEI AET,ORKHON OT
 ORKHON BASH
10C80 OLD HUNGARIANcl
 A,AA,EB,AMB,EC,ENC,ECS,ED,n,E,CLOSE E,EE,EF,EG,EGY,EH,I,II,EJ,EK,AK,UNK,EL,ELY,EM,EN,ENY,O,OO
 NIKOLSBURG OE,RUDIMENTA OE,OEE,EP,EMP,ER,SHORT ER,ES,ESZ,ET,ENT,ETY,ECH,U,UU,NIKOLSBURG UE
 RUDIMENTA UE,EV,EZ,EZS,ENT-SHAPEDg,US
10CC0 OLD HUNGARIANsl
 A,AA,EB,AMB,EC,ENC,ECS,ED,n,E,CLOSE E,EE,EF,EG,EGY,EH,I,II,EJ,EK,AK,UNK,EL,ELY,EM,EN,ENY,O,OO
 NIKOLSBURG OE,RUDIMENTA OE,OEE,EP,EMP,ER,SHORT ER,ES,ESZ,ET,ENT,ETY,ECH,U,UU,NIKOLSBURG UE
 RUDIMENTA UE,EV,EZ,EZS,ENT-SHAPEDg,US
10CFA OLD HUNGARIAN NUMBER
 ONE,FIVE,TEN,FIFTY,ONE HUNDRED,ONE THOUSAND
10D00 HANIFI ROHINGYAl
 A,BA,PA,TA,TTA,JA,CA,HA,KHA,FA,DA,DDA,RA,RRA,ZA,SA,SHA,KA,GA,LA,MA,NA,WA,KINNA WA,YA,KINNA YA,NGA
 NYA,VA
10D1D HANIFI ROHINGYA VOWEL
 A,I,U,E,O
10D22 HANIFI ROHINGYA
 mSAKIN,mNA KHONNA,gHARBAHAY,gTAHALA,gTANA,gTASSI
10D30 HANIFI ROHINGYA DIGIT
 ZERO,ONE,TWO,t,FOUR,FIVE,SIX,SEVEN,EIGHT,NINE
10E60 RUMI DIGIT
 ONE,TWO,t,FOUR,FIVE,SIX,SEVEN,EIGHT,NINE
10E69 RUMI NUMBER
 TEN,TWENTY,THIRTY,FORTY,FIFTY,SIXTY,SEVENTY,EIGHTY,NINETY,ONE HUNDRED,TWO HUNDRED,tHUNDRED
 FOUR HUNDRED,FIVE HUNDRED,SIX HUNDRED,SEVEN HUNDRED,EIGHT HUNDRED,NINE HUNDRED
10E7B RUMI FRACTION
 ONE HALF,ONE QUARTER,ONE THIRD,TWO THIRDS
10E80 YEZIDIl
 ELIF,BE,PE,PHE,THE,SE,CIM,CHIM,CHHIM,HHA,XA,DAL,ZAL,RA,RHA,ZA,JA,SIN,SHIN,SAD,DAD,TA,ZE,EYN,XHEYN
 FA,VA,VA ALTERNATEf,QAF,KAF,KHAF,GAF,LAM,MIM,NUN,UM,WAW,OW,EW,HAY,YOT,ET
10EAB YEZIDI
 COMBINING HAMZAm,COMBINING MADDAm,HYPHENATIONm,,,lLAMwDOTe,lYOTwCIRCUMFLEXe
10F00 OLD SOGDIANl
 ALEPH,oALEPH,BETH,oBETH,GIMEL,HE,oHE,WAW,ZAYIN,HETH,YODH,KAPH,LAMEDH,MEM,NUN,oNUN,oNUNwvTAIL,SAMEKH
 AYIN,ALTERNATE AYIN,PE,SADHE,oSADHE,oSADHEwvTAIL,RESH-AYIN-DALETH,SHIN,TAW,oTAW,oTAWwvTAIL
10F1D OLD SOGDIAN NUMBER
 ONE,TWO,t,FOUR,FIVE,TEN,TWENTY,THIRTY,ONE HUNDRED
10F26 OLD SOGDIAN
 FRACTION ONE HALF,LIGATURE AYIN-DALETH
10F30 SOGDIANl
 ALEPH,BETH,GIMEL,HE,WAW,ZAYIN,HETH,YODH,KAPH,LAMEDH,MEM,NUN,SAMEKH,AYIN,PE,SADHE,RESH-AYIN,SHIN,TAW
 FETH,LESH
10F45 SOGDIAN INDEPENDENT
 SHIN
10F46 SOGDIAN COMBINING
 DOTb,TWO DOTSb,DOTe,TWO DOTSe,CURVEe,CURVEb,HOOKe,HOOKb,LONG HOOKb,RESHb,pb
10F51 SOGDIAN NUMBER
 ONE,TEN,TWENTY,ONE HUNDRED
10F55 SOGDIAN PUNCTUATION
 TWOvBARS,TWOvBARSwDOTS,CIRCLEwDOT,TWO CIRCLESwDOTS,HALF CIRCLEwDOT
10F70 OLD UYGHURl
 ALEPH,BETH,GIMEL-HETH,WAW,ZAYIN,oHETH,YODH,KAPH,LAMEDH,MEM,NUN,SAMEKH,PE,SADHE,RESH,SHIN,TAW,LESH
10F82 OLD UYGHUR COMBINING
 DOTe,DOTb,TWO DOTSe,TWO DOTSb
10F86 OLD UYGHUR PUNCTUATION
 BAR,TWO BARS,TWO DOTS,FOUR DOTS
10FB0 CHORASMIANl
 ALEPH,sALEPH,BETH,GIMEL,DALETH,HE,WAW,CURLED WAW,ZAYIN,HETH,YODH,KAPH,LAMEDH,MEM,NUN,SAMEKH,AYIN,PE
 RESH,SHIN,TAW
10FC5 CHORASMIAN NUMBER
 ONE,TWO,t,FOUR,TEN,TWENTY,ONE HUNDRED
10FE0 ELYMAICl
 ALEPH,BETH,GIMEL,DALETH,HE,WAW,ZAYIN,HETH,TETH,YODH,KAPH,LAMEDH,MEM,NUN,SAMEKH,AYIN,PE,SADHE,QOPH
 RESH,SHIN,TAW
10FF6 ELYMAIC LIGATURE
 ZAYIN-YODH
11000 BRAHMI
 gCANDRABINDU,gANUSVARA,gVISARGA,gJIHVAMULIYA,gUPADHMANIYA,lA,lAA,lI,lII,lU,lUU
1100B BRAHMIlVOCALIC
 R,RR,L,LL
1100F BRAHMIl
 E,AI,O,AU,KA,KHA,GA,GHA,NGA,CA,CHA,JA,JHA,NYA,TTA,TTHA,DDA,DDHA,NNA,TA,THA,DA,DHA,NA,PA,PHA,BA,BHA
 MA,YA,RA,LA,VA,SHA,SSA,SA,HA,LLA
11035 BRAHMIlOLD TAMIL
 LLLA,RRA,NNNA
11038 BRAHMI VOWELg
 AA,BHATTIPROLU AA,I,II,U,UU,VOCALIC R,VOCALIC RR,VOCALIC L,VOCALIC LL,E,AI,O,AU
11046 BRAHMI
 VIRAMA,DANDA,dDANDA
11049 BRAHMI PUNCTUATION
 DOT,dDOT,LINE,CRESCENT BAR,LOTUS
11052 BRAHMI NUMBER
 ONE,TWO,t,FOUR,FIVE,SIX,SEVEN,EIGHT,NINE,TEN,TWENTY,THIRTY,FORTY,FIFTY,SIXTY,SEVENTY,EIGHTY,NINETY
 ONE HUNDRED,ONE THOUSAND
11066 BRAHMI DIGIT
 ZERO,ONE,TWO,t,FOUR,FIVE,SIX,SEVEN,EIGHT,NINE
11070 BRAHMI
 gOLD TAMIL VIRAMA,lOLD TAMIL SHORT E,lOLD TAMIL SHORT O,VOWELgOLD TAMIL SHORT E
 VOWELgOLD TAMIL SHORT O,lOLD TAMIL LLA,,,,,,,,,,NUMBER JOINER
11080 KAITHIg
 CANDRABINDU,ANUSVARA,VISARGA
11083 KAITHIl
 A,AA,I,II,U,UU,E,AI,O,AU,KA,KHA,GA,GHA,NGA,CA,CHA,JA,JHA,NYA,TTA,TTHA,DDA,DDDHA,DDHA,RHA,NNA,TA,THA
 DA,DHA,NA,PA,PHA,BA,BHA,MA,YA,RA,LA,VA,SHA,SSA,SA,HA
110B0 KAITHI VOWELg
 AA,I,II,U,UU,E,AI,O,AU
110B9 KAITHI
 gVIRAMA,gNUKTA,ABBREVIATIONg,ENUMERATIONg,NUMBERg,SECTIONm,dSECTIONm,DANDA,dDANDA,VOWELgVOCALIC R,,
 ,,,,,,,,NUMBERge
110D0 SORA SOMPENGl
 SAH,TAH,BAH,CAH,DAH,GAH,MAH,NGAH,LAH,NAH,VAH,PAH,YAH,RAH,HAH,KAH,JAH,NYAH,AH,EEH,IH,UH,OH,EH,MAE
110F0 SORA SOMPENG DIGIT
 ZERO,ONE,TWO,t,FOUR,FIVE,SIX,SEVEN,EIGHT,NINE
11100 CHAKMAg
 CANDRABINDU,ANUSVARA,VISARGA
11103 CHAKMAl
 AA,I,U,E,KAA,KHAA,GAA,GHAA,NGAA,CAA,CHAA,JAA,JHAA,NYAA,TTAA,TTHAA,DDAA,DDHAA,NNAA,TAA,THAA,DAA,DHAA
 NAA,PAA,PHAA,BAA,BHAA,MAA,YYAA,YAA,RAA,LAA,WAA,SAA,HAA
11127 CHAKMA VOWELg
 A,I,II,U,UU,E,AI,O,AU,OI
11131 CHAKMA
 Om,AUm,VIRAMA,MAAYYAA
11136 CHAKMA DIGIT
 ZERO,ONE,TWO,t,FOUR,FIVE,SIX,SEVEN,EIGHT,NINE
11140 CHAKMA
 SECTIONm,DANDA,dDANDA,QUESTIONm,lLHAA,VOWELgAA,VOWELgEI,lVAA
11150 MAHAJANIl
 A,I,U,E,O,KA,KHA,GA,GHA,CA,CHA,JA,JHA,NYA,TTA,TTHA,DDA,DDHA,NNA,TA,THA,DA,DHA,NA,PA,PHA,BA,BHA,MA
 RA,LA,VA,SA,HA,RRA
11173 MAHAJANI
 gNUKTA,ABBREVIATIONg,SECTIONm,LIGATURE SHRI
11180 SHARADA
 gCANDRABINDU,gANUSVARA,gVISARGA,lA,lAA,lI,lII,lU,lUU
11189 SHARADAlVOCALIC
 R,RR,L,LL
1118D SHARADAl
 E,AI,O,AU,KA,KHA,GA,GHA,NGA,CA,CHA,JA,JHA,NYA,TTA,TTHA,DDA,DDHA,NNA,TA,THA,DA,DHA,NA,PA,PHA,BA,BHA
 MA,YA,RA,LA,LLA,VA,SHA,SSA,SA,HA
111B3 SHARADA VOWELg
 AA,I,II,U,UU,VOCALIC R,VOCALIC RR,VOCALIC L,VOCALIC LL,E,AI,O,AU
111C0 SHARADA
 gVIRAMA,gAVAGRAHA,gJIHVAMULIYA,gUPADHMANIYA,OM,DANDA,dDANDA,ABBREVIATIONg,SEPARATOR,SANDHIm,gNUKTA
 VOWEL MODIFIERm,EXTRA SHORT VOWELm,SUTRAm,VOWELgPRISHTHAMATRA E,gINVERTED CANDRABINDU
111D0 SHARADA DIGIT
 ZERO,ONE,TWO,t,FOUR,FIVE,SIX,SEVEN,EIGHT,NINE
111DA SHARADA
 EKAM,gSIDDHAM,HEADSTROKE,CONTINUATIONg,SECTION MARK-1,SECTION MARK-2
111E1 SINHALA ARCHAIC DIGIT
 ONE,TWO,t,FOUR,FIVE,SIX,SEVEN,EIGHT,NINE
111EA SINHALA ARCHAIC NUMBER
 TEN,TWENTY,THIRTY,FORTY,FIFTY,SIXTY,SEVENTY,EIGHTY,NINETY,ONE HUNDRED,ONE THOUSAND
11200 KHOJKIl
 A,AA,I,U,E,AI,O,AU,KA,KHA,GA,GGA,GHA,NGA,CA,CHA,JA,JJA,,NYA,TTA,TTHA,DDA,DDHA,NNA,TA,THA,DA,DDDA
 DHA,NA,PA,PHA,BA,BBA,BHA,MA,YA,RA,LA,VA,SA,HA,LLA
1122C KHOJKI VOWELg
 AA,I,II,U,E,AI,O,AU
11234 KHOJKI
 gANUSVARA,gVIRAMA,gNUKTA,gSHADDA,DANDA,dDANDA,WORD SEPARATOR,SECTIONm,dSECTIONm,ABBREVIATIONg
 gSUKUN
11280 MULTANIl
 A,I,U,E,KA,KHA,GA,,GHA,,CA,CHA,JA,JJA,,NYA,TTA,TTHA,DDA,DDDA,DDHA,NNA,TA,THA,DA,DHA,NA,PA,PHA,BA,
 BHA,MA,YA,RA,LA,VA,SA,HA,RRA,RHA
112A9 MULTANI
 SECTIONm
112B0 KHUDAWADIl
 A,AA,I,II,U,UU,E,AI,O,AU,KA,KHA,GA,GGA,GHA,NGA,CA,CHA,JA,JJA,JHA,NYA,TTA,TTHA,DDA,DDDA,RRA,DDHA,NNA
 TA,THA,DA,DHA,NA,PA,PHA,BA,BBA,BHA,MA,YA,RA,LA,VA,SHA,SA,HA
112DF
 KHUDAWADIgANUSVARA
112E0 KHUDAWADI VOWELg
 AA,I,II,U,UU,E,AI,O,AU
112E9 KHUDAWADIg
 NUKTA,VIRAMA
112F0 KHUDAWADI DIGIT
 ZERO,ONE,TWO,t,FOUR,FIVE,SIX,SEVEN,EIGHT,NINE
11300 GRANTHAg
 COMBINING ANUSVARAe,CANDRABINDU,ANUSVARA,VISARGA
11305 GRANTHAl
 A,AA,I,II,U,UU,VOCALIC R,VOCALIC L,,,EE,AI,,,OO,AU,KA,KHA,GA,GHA,NGA,CA,CHA,JA,JHA,NYA,TTA,TTHA,DDA
 DDHA,NNA,TA,THA,DA,DHA,NA,,PA,PHA,BA,BHA,MA,YA,RA,,LA,LLA,,VA,SHA,SSA,SA,HA
1133B COMBINING
 BINDUb
1133C GRANTHAg
 NUKTA,AVAGRAHA
1133E GRANTHA VOWELg
 AA,I,II,U,UU,VOCALIC R,VOCALIC RR,,,EE,AI,,,OO,AU
1134D GRANTHA
 gVIRAMA,,,OM,,,,,,,AU LENGTHm,,,,,,gPLUTA,lVEDIC ANUSVARA,lVEDICdANUSVARA,lVOCALIC RR,lVOCALIC LL
 VOWELgVOCALIC L,VOWELgVOCALIC LL
11366 COMBINING GRANTHA DIGIT
 ZERO,ONE,TWO,t,FOUR,FIVE,SIX
11370 COMBINING GRANTHAl
 A,KA,NA,VI,PA
11400 NEWAl
 A,AA,I,II,U,UU,VOCALIC R,VOCALIC RR,VOCALIC L,VOCALIC LL,E,AI,O,AU,KA,KHA,GA,GHA,NGA,NGHA,CA,CHA,JA
 JHA,NYA,NYHA,TTA,TTHA,DDA,DDHA,NNA,TA,THA,DA,DHA,NA,NHA,PA,PHA,BA,BHA,MA,MHA,YA,RA,RHA,LA,LHA,WA
 SHA,SSA,SA,HA
11435 NEWA VOWELg
 AA,I,II,U,UU,VOCALIC R,VOCALIC RR,VOCALIC L,VOCALIC LL,E,AI,O,AU
11442 NEWA
 gVIRAMA,gCANDRABINDU,gANUSVARA,gVISARGA,gNUKTA,gAVAGRAHA,goANUSVARA,OM,SIDDHI,DANDA,dDANDA,COMMA
 GAP FILLER,ABBREVIATIONg
11450 NEWA DIGIT
 ZERO,ONE,TWO,t,FOUR,FIVE,SIX,SEVEN,EIGHT,NINE
1145A NEWA
 dCOMMA,PLACEHOLDERm,,INSERTIONg,SANDHIm,lVEDIC ANUSVARA,gJIHVAMULIYA,gUPADHMANIYA
11480 TIRHUTA
 ANJI,lA,lAA,lI,lII,lU,lUU
11487 TIRHUTAlVOCALIC
 R,RR,L,LL
1148B TIRHUTAl
 E,AI,O,AU,KA,KHA,GA,GHA,NGA,CA,CHA,JA,JHA,NYA,TTA,TTHA,DDA,DDHA,NNA,TA,THA,DA,DHA,NA,PA,PHA,BA,BHA
 MA,YA,RA,LA,VA,SHA,SSA,SA,HA
114B0 TIRHUTA VOWELg
 AA,I,II,U,UU,VOCALIC R,VOCALIC RR,VOCALIC L,VOCALIC LL,E,SHORT E,AI,O,SHORT O,AU
114BF TIRHUTA
 gCANDRABINDU,gANUSVARA,gVISARGA,gVIRAMA,gNUKTA,gAVAGRAHA,GVANG,ABBREVIATIONg,OM
114D0 TIRHUTA DIGIT
 ZERO,ONE,TWO,t,FOUR,FIVE,SIX,SEVEN,EIGHT,NINE
11580 SIDDHAMl
 A,AA,I,II,U,UU,VOCALIC R,VOCALIC RR,VOCALIC L,VOCALIC LL,E,AI,O,AU,KA,KHA,GA,GHA,NGA,CA,CHA,JA,JHA
 NYA,TTA,TTHA,DDA,DDHA,NNA,TA,THA,DA,DHA,NA,PA,PHA,BA,BHA,MA,YA,RA,LA,VA,SHA,SSA,SA,HA
115AF SIDDHAM VOWELg
 AA,I,II,U,UU,VOCALIC R,VOCALIC RR,,,E,AI,O,AU
115BC SIDDHAM
 gCANDRABINDU,gANUSVARA,gVISARGA,gVIRAMA,gNUKTA,gSIDDHAM,DANDA,dDANDA,SEPARATOR DOT,SEPARATOR BAR
 REPETITION MARK-1~3,END OF TEXTm
115CA SIDDHAM SECTIONm
 wTRIDENTnU-SHAPED ORNAMENTS,wTRIDENTnDOTTED CRESCENTS,wRAYSnDOTTED CRESCENTS,wRAYSnDOTTEDdCRESCENTS
 wRAYSnDOTTED TRIPLE CRESCENTS,dRING,dRINGwRAYS,wdCRESCENTS,wTRIPLE CRESCENTS,wQUADRUPLE CRESCENTS
 wSEPTUPLE CRESCENTS,wCIRCLESnRAYS,wCIRCLESnTWO ENCLOSURES,wCIRCLESnFOUR ENCLOSURES
115D8 SIDDHAMl
 THREE-CIRCLE ALTERNATE I,TWO-CIRCLE ALTERNATE I,TWO-CIRCLE ALTERNATE II,ALTERNATE U
115DC SIDDHAM VOWELgALTERNATE
 U,UU
11600 MODIl
 A,AA,I,II,U,UU,VOCALIC R,VOCALIC RR,VOCALIC L,VOCALIC LL,E,AI,O,AU,KA,KHA,GA,GHA,NGA,CA,CHA,JA,JHA
 NYA,TTA,TTHA,DDA,DDHA,NNA,TA,THA,DA,DHA,NA,PA,PHA,BA,BHA,MA,YA,RA,LA,VA,SHA,SSA,SA,HA,LLA
11630 MODI VOWELg
 AA,I,II,U,UU,VOCALIC R,VOCALIC RR,VOCALIC L,VOCALIC LL,E,AI,O,AU
1163D MODI
 gANUSVARA,gVISARGA,gVIRAMA,gARDHACANDRA,DANDA,dDANDA,ABBREVIATIONg,gHUVA
11650 MODI DIGIT
 ZERO,ONE,TWO,t,FOUR,FIVE,SIX,SEVEN,EIGHT,NINE
11660 MONGOLIAN
 BIRGAwORNAMENT,ROTATED BIRGA,dBIRGAwORNAMENT,TRIPLE BIRGAwORNAMENT,BIRGAwdORNAMENT
 ROTATED BIRGAwORNAMENT,ROTATED BIRGAwdORNAMENT,INVERTED BIRGA,INVERTED BIRGAwdORNAMENT,SWIRL BIRGA
 SWIRL BIRGAwORNAMENT,SWIRL BIRGAwdORNAMENT,TURNED SWIRL BIRGAwdORNAMENT
11680 TAKRIl
 A,AA,I,II,U,UU,E,AI,O,AU,KA,KHA,GA,GHA,NGA,CA,CHA,JA,JHA,NYA,TTA,TTHA,DDA,DDHA,NNA,TA,THA,DA,DHA,NA
 PA,PHA,BA,BHA,MA,YA,RA,LA,VA,SHA,SA,HA,RRA
116AB TAKRIg
 ANUSVARA,VISARGA
116AD TAKRI VOWELg
 AA,I,II,U,UU,E,AI,O,AU
116B6 TAKRI
 gVIRAMA,gNUKTA,lARCHAIC KHA,ABBREVIATIONg
116C0 TAKRI DIGIT
 ZERO,ONE,TWO,t,FOUR,FIVE,SIX,SEVEN,EIGHT,NINE
11700 AHOMl
 KA,KHA,NGA,NA,TA,ALTERNATE TA,PA,PHA,BA,MA,JA,CHA,THA,RA,LA,SA,NYA,HA,A,DA,DHA,GA,ALTERNATE GA,GHA
 BHA,JHA,ALTERNATE BA
1171D AHOM CONSONANTgMEDIAL
 LA,RA,LIGATING RA
11720 AHOM VOWELg
 A,AA,I,II,U,UU,E,AW,O,AI,AM
1172B
 AHOMgKILLER
11730 AHOM DIGIT
 ZERO,ONE,TWO,t,FOUR,FIVE,SIX,SEVEN,EIGHT,NINE
1173A AHOM
 NUMBER TEN,NUMBER TWENTY,gsSECTION,gSECTION,gRULAI,uVI,lCA,lTTA,lTTHA,lDDA,lDDHA,lNNA,lLLA
11800 DOGRAl
 A,AA,I,II,U,UU,E,AI,O,AU,KA,KHA,GA,GHA,NGA,CA,CHA,JA,JHA,NYA,TTA,TTHA,DDA,DDHA,NNA,TA,THA,DA,DHA,NA
 PA,PHA,BA,BHA,MA,YA,RA,LA,VA,SHA,SSA,SA,HA,RRA
1182C DOGRA VOWELg
 AA,I,II,U,UU,VOCALIC R,VOCALIC RR,E,AI,O,AU
11837 DOGRA
 gANUSVARA,gVISARGA,gVIRAMA,gNUKTA,ABBREVIATIONg
118A0 WARANG CITIcl
 NGAA,A,WI,YU,YA,YO,II,UU,E,O,ANG,GA,KO,ENY,YUJ,UC,ENN,ODD,TTE,NUNG,DA,AT,AM,BU,PU,HIYO,HOLO,HORR
 HAR,SSUU,SII,VIYO
118C0 WARANG CITIsl
 NGAA,A,WI,YU,YA,YO,II,UU,E,O,ANG,GA,KO,ENY,YUJ,UC,ENN,ODD,TTE,NUNG,DA,AT,AM,BU,PU,HIYO,HOLO,HORR
 HAR,SSUU,SII,VIYO
118E0 WARANG CITI DIGIT
 ZERO,ONE,TWO,t,FOUR,FIVE,SIX,SEVEN,EIGHT,NINE
118EA WARANG CITI NUMBER
 TEN,TWENTY,THIRTY,FORTY,FIFTY,SIXTY,SEVENTY,EIGHTY,NINETY
118FF WARANG CITI
 OM
11900 DIVES AKURUl
 A,AA,I,II,U,UU,E,,,O,,,KA,KHA,GA,GHA,NGA,CA,CHA,JA,,NYA,TTA,,DDA,DDHA,NNA,TA,THA,DA,DHA,NA,PA,PHA
 BA,BHA,MA,YA,YYA,RA,LA,VA,SHA,SSA,SA,HA,LLA,ZA
11930 DIVES AKURU VOWELg
 AA,I,II,U,UU,E,,AI,O
1193B DIVES AKURU
 gANUSVARA,gCANDRABINDU,gHALANTA,VIRAMA,PREFIXED NASALg,MEDIAL YA,iRA,MEDIAL RA,gNUKTA,dDANDA
 GAP FILLER,END OF TEXTm
11950 DIVES AKURU DIGIT
 ZERO,ONE,TWO,t,FOUR,FIVE,SIX,SEVEN,EIGHT,NINE
119A0 NANDINAGARIl
 A,AA,I,II,U,UU,VOCALIC R,VOCALIC RR,,,E,AI,O,AU,KA,KHA,GA,GHA,NGA,CA,CHA,JA,JHA,NYA,TTA,TTHA,DDA
 DDHA,NNA,TA,THA,DA,DHA,NA,PA,PHA,BA,BHA,MA,YA,RA,LA,VA,SHA,SSA,SA,HA,LLA,RRA
119D1 NANDINAGARI VOWELg
 AA,I,II,U,UU,VOCALIC R,VOCALIC RR,,,E,AI,O,AU
119DE NANDINAGARI
 gANUSVARA,gVISARGA,gVIRAMA,gAVAGRAHA,gSIDDHAM,HEADSTROKE,VOWELgPRISHTHAMATRA E
11A00 ZANABAZAR
 SQUARElA
11A01 ZANABAZAR SQUARE VOWEL
 gI,gUE,gU,gE,gOE,gO,gAI,gAU,gREVERSED I,LENGTHm
11A0B ZANABAZAR SQUAREl
 KA,KHA,GA,GHA,NGA,CA,CHA,JA,NYA,TTA,TTHA,DDA,DDHA,NNA,TA,THA,DA,DHA,NA,PA,PHA,BA,BHA,MA,TSA,TSHA
 DZA,DZHA,ZHA,ZA,-A,YA,RA,LA,VA,SHA,SSA,SA,HA,KSSA
11A33 ZANABAZAR SQUARE
 oCONSONANTm,gVIRAMA,gCANDRABINDU,gCANDRABINDUwORNAMENT,gCANDRAwORNAMENT,gANUSVARA,gVISARGA
 CLUSTER-INITIALlRA,CLUSTER-FINALlYA,CLUSTER-FINALlRA,CLUSTER-FINALlLA,CLUSTER-FINALlVA,iHEADm
 CLOSING HEADm,mTSHEG,mSHAD,mdSHAD,mLONG TSHEG,iDOUBLE-LINED HEADm,CLOSING DOUBLE-LINED HEADm
 SUBJOINER
11A50
 SOYOMBOlA
11A51 SOYOMBO VOWEL
 gI,gUE,gU,gE,gO,gOE,gAI,gAU,gVOCALIC R,gVOCALIC L,LENGTHm
11A5C SOYOMBOl
 KA,KHA,GA,GHA,NGA,CA,CHA,JA,JHA,NYA,TTA,TTHA,DDA,DDHA,NNA,TA,THA,DA,DHA,NA,PA,PHA,BA,BHA,MA,TSA
 TSHA,DZA,ZHA,ZA,-A,YA,RA,LA,VA,SHA,SSA,SA,HA,KSSA
11A84 SOYOMBOg
 JIHVAMULIYA,UPADHMANIYA
11A86 SOYOMBO CLUSTER-INITIALl
 RA,LA,SHA,SA
11A8A SOYOMBOoCONSONANTg
 G,K,NG,D,N,B,M,R,L,SH,S,-A
11A96 SOYOMBO
 gANUSVARA,gVISARGA,GEMINATIONm,SUBJOINER,mTSHEG,mSHAD,mdSHAD,mPLUTA
11A9E SOYOMBO HEADmwMOONn
 SUNnTRIPLE FLAME,SUNnFLAME,SUN
11AA1 SOYOMBO TERMINAL
 MARK-1,MARK-2
11AB0 CANADIAN SYLLABICS NATTILIK
 HI,HII,HO,HOO,HA,HAA,SHRI,SHRII,SHRO,SHROO,SHRA,SHRAA
11ABC CANADIAN SYLLABICS
 SPE,SPI,SPO,SPA
11AC0 PAU CIN HAUl
 PA,KA,LA,MA,DA,ZA,VA,NGA,HA,GA,KHA,SA,BA,CA,TA,THA,NA,PHA,RA,FA,CHA,A,E,I,O,U,UA,IA,oP,oK,oT,oM,oN
 oL,oW,oNG,oY
11AE5 PAU CIN HAU
 RISING TONE LONG,RISING TONE,SANDHI GLOTTAL STOP,RISING TONE LONGo,RISING TONEo
 SANDHI GLOTTAL STOPo,SANDHI TONE LONG,SANDHI TONE,SANDHI TONE LONGo,SANDHI TONEo,MID-LEVEL TONE
 GLOTTAL STOP VARIANT,MID-LEVEL TONE LONGo,MID-LEVEL TONEo,LOW-FALLING TONE LONG,LOW-FALLING TONE
 GLOTTAL STOP,LOW-FALLING TONE LONGo,LOW-FALLING TONEo,GLOTTAL STOPo
11C00 BHAIKSUKIl
 A,AA,I,II,U,UU,VOCALIC R,VOCALIC RR,VOCALIC L,,E,AI,O,AU,KA,KHA,GA,GHA,NGA,CA,CHA,JA,JHA,NYA,TTA
 TTHA,DDA,DDHA,NNA,TA,THA,DA,DHA,NA,PA,PHA,BA,BHA,MA,YA,RA,LA,VA,SHA,SSA,SA,HA
11C2F BHAIKSUKI VOWELg
 AA,I,II,U,UU,VOCALIC R,VOCALIC RR,VOCALIC L,,E,AI,O,AU
11C3C BHAIKSUKI
 gCANDRABINDU,gANUSVARA,gVISARGA,gVIRAMA,gAVAGRAHA,DANDA,dDANDA,WORD SEPARATOR,GAP FILLER-1
 GAP FILLER-2
11C50 BHAIKSUKI DIGIT
 ZERO,ONE,TWO,t,FOUR,FIVE,SIX,SEVEN,EIGHT,NINE
11C5A BHAIKSUKI NUMBER
 ONE,TWO,t,FOUR,FIVE,SIX,SEVEN,EIGHT,NINE,TEN,TWENTY,THIRTY,FORTY,FIFTY,SIXTY,SEVENTY,EIGHTY,NINETY
11C6C BHAIKSUKI HUNDREDS
 UNITm
11C70 MARCHEN
 HEADm,mSHAD
11C72 MARCHENl
 KA,KHA,GA,NGA,CA,CHA,JA,NYA,TA,THA,DA,NA,PA,PHA,BA,MA,TSA,TSHA,DZA,WA,ZHA,ZA,-A,YA,RA,LA,SHA,SA,HA
 A
11C92 MARCHEN SUBJOINEDl
 KA,KHA,GA,NGA,CA,CHA,JA,NYA,TA,THA,DA,NA,PA,PHA,BA,MA,TSA,TSHA,DZA,WA,ZHA,ZA,,YA,RA,LA,SHA,SA,HA,A
11CB0 MARCHEN VOWELg
 AA,I,U,E,O
11CB5 MARCHENg
 ANUSVARA,CANDRABINDU
11D00 MASARAM GONDIl
 A,AA,I,II,U,UU,E,,AI,O,,AU,KA,KHA,GA,GHA,NGA,CA,CHA,JA,JHA,NYA,TTA,TTHA,DDA,DDHA,NNA,TA,THA,DA,DHA
 NA,PA,PHA,BA,BHA,MA,YA,RA,LA,VA,SHA,SSA,SA,HA,LLA,KSSA,JNYA,TRA
11D31 MASARAM GONDI VOWELg
 AA,I,II,U,UU,VOCALIC R,,,,E,,AI,O,,AU
11D40 MASARAM GONDI
 gANUSVARA,gVISARGA,gNUKTA,gCANDRA,gHALANTA,VIRAMA,REPHA,RA-KARA
11D50 MASARAM GONDI DIGIT
 ZERO,ONE,TWO,t,FOUR,FIVE,SIX,SEVEN,EIGHT,NINE
11D60 GUNJALA GONDIl
 A,AA,I,II,U,UU,,EE,AI,,OO,AU,YA,VA,BA,BHA,MA,KA,KHA,TA,THA,LA,GA,GHA,DA,DHA,NA,CA,CHA,TTA,TTHA,LLA
 JA,JHA,DDA,DDHA,NGA,PA,PHA,HA,RA,SA
11D8A GUNJALA GONDI VOWELg
 AA,I,II,U,UU,,EE,AI,,OO,AU
11D95 GUNJALA GONDI
 gANUSVARA,gVISARGA,VIRAMA,OM
11DA0 GUNJALA GONDI DIGIT
 ZERO,ONE,TWO,t,FOUR,FIVE,SIX,SEVEN,EIGHT,NINE
11EE0 MAKASARl
 KA,GA,NGA,PA,BA,MA,TA,DA,NA,CA,JA,NYA,YA,RA,LA,VA,SA,A
11EF2 MAKASAR
 ANGKA,VOWELgI,VOWELgU,VOWELgE,VOWELgO,PASSIMBANG,END OF SECTION
11FB0
 LISUlYHA
11FC0 TAMIL FRACTION
 ONE THREE-HUNDRED-AND-TWENTIETH,ONE ONE-HUNDRED-AND-SIXTIETH,ONE EIGHTIETH,ONE SIXTY-FOURTH
 ONE FORTIETH,ONE THIRTY-SECOND,tEIGHTIETHS,tSIXTY-FOURTHS,ONE TWENTIETH,ONE SIXTEENTH-1
 ONE SIXTEENTH-2,ONE TENTH,ONE EIGHTH,tTWENTIETHS,tSIXTEENTHS,ONE FIFTH,ONE QUARTER,ONE HALF-1
 ONE HALF-2,tQUARTERS,DOWNSCALING FACTOR KIIZH
11FD5 TAMILg
 NEL,CEVITU,AAZHAAKKU,UZHAKKU,MUUVUZHAKKU,KURUNI,PATHAKKU,MUKKURUNI,KAACU,PANAM,PON,VARAAKAN,PAARAM
 KUZHI,VELI
11FE4 TAMIL
 WET CULTIVATIONg,DRY CULTIVATIONg,LANDg,SALT PANg,TRADITIONAL CREDITg,TRADITIONAL NUMBERg,CURRENTg
 nODDg,SPENTg,TOTALg,IN POSSESSIONg,STARTING FROMg,gMUTHALIYA,gVAKAIYARAA
11FFF TAMIL PUNCTUATION END OF
 TEXT"

end Throws.Text.CharacterNames
