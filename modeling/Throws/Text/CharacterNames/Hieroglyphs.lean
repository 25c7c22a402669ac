/-!
# Names of cuneiform and hieroglyphs

Cuneiform, Egyptian and Anatolian signs, and the scripts of the same range.
-/

namespace Throws.Text.CharacterNames

/-- Characters from U+12000 to U+16FFF. -/
def hieroglyphs : String := "12000
 CUNEIFORMgA
12001 CUNEIFORMgA TIMES
 A,BAD,GAN2 TENU,HA,IGI,LAGAR GUNU,MUSH,SAG
12009 CUNEIFORMg
 A2,AB
1200B CUNEIFORMgAB TIMES
 ASH2,DUN3 GUNU,GAL,GAN2 TENU,HA,IGI GUNU,IMIN,LAGAB,SHESH,U PLUS U PLUS U
12015 CUNEIFORMg
 AB GUNU,AB2
12017 CUNEIFORMgAB2 TIMES
 BALAG,GAN2 TENU,ME PLUS EN,SHA3,TAK4
1201C CUNEIFORMg
 AD,AK,AK TIMES ERIN2,AK TIMES SHITA PLUS GISH,AL
12021 CUNEIFORMgAL TIMES
 AL,DIM2,GISH,HA,KAD3,KI,SHE,USH
12029 CUNEIFORMg
 ALAN,ALEPH,AMAR,AMAR TIMES SHE,AN,AN OVER AN,ANtTIMES,AN PLUS NAGA OPPOSING AN PLUS NAGA
 AN PLUS NAGA SQUARED,ANSHE,APIN,ARAD,ARAD TIMES KUR,ARKAB,ASAL2,ASH,ASH ZIDA TENU,ASH KABA TENU
 ASH OVER ASH TUG2 OVER TUG2 TUG2 OVER TUG2 PAP,ASH OVER ASH OVER ASH
 ASH OVER ASH OVER ASH CROSSING ASH OVER ASH OVER ASH,ASH2,ASHGAB,BA,BAD,BAG3,BAHAR2,BAL
 BAL OVER BAL,BALAG,BAR,BARA2,BI,BI TIMES A,BI TIMES GAR,BI TIMES IGI GUNU,BU,BU OVER BU AB
 BU OVER BU UN,BU CROSSING BU,BULUG,BULUG OVER BULUG,BUR,BUR2,DA,DAG
12057 CUNEIFORMgDAG KISIM5 TIMES
 A PLUS MASH,AMAR,BALAG,BI,GA,GA PLUS MASH,GI,GIR2,GUD,HA,IR,IR PLUS LU,KAK,LA,LU,LU PLUS MASH2,LUM
 NE,PAP PLUS PAP,SI,TAK4,U2 PLUS GIR2,USH
1206E CUNEIFORMg
 DAM,DAR,DARA3,DARA4,DI,DIB,DIM,DIM TIMES SHE,DIM2,DIN,DIN KASKAL U GUNU DISH,DISH,DU,DU OVER DU
 DU GUNU,DU SHESHIG,DUB,DUB TIMES ESH2,DUB2,DUG,DUGUD,DUH,DUN,DUN3,DUN3 GUNU,DUN3 GUNU GUNU,DUN4
 DUR2,E,E TIMES PAP,E OVER E NUN OVER NUN,E2
1208E CUNEIFORMgE2 TIMES
 A PLUS HA PLUS DA,GAR,MI,SAL,SHE,U
12094 CUNEIFORMg
 EDIN,EGIR,EL,EN,EN TIMES GAN2,EN TIMES GAN2 TENU,EN TIMES ME,EN CROSSING EN,EN OPPOSING EN
 EN SQUARED,EREN,ERIN2,ESH2,EZEN
120A2 CUNEIFORMgEZEN TIMES
 A,A PLUS LAL,A PLUS LAL TIMES LAL,AN,BAD,DUN3 GUNU,DUN3 GUNU GUNU,HA,HA GUNU,IGI GUNU,KASKAL
 KASKAL SQUARED,KU3,LA,LAL TIMES LAL,LI,LU,U2,UD
120B5 CUNEIFORMg
 GA,GA GUNU,GA2
120B8 CUNEIFORMgGA2 TIMES
 A PLUS DA PLUS HA,A PLUS HA,A PLUS IGI,AB2 TENU PLUS TAB,AN,ASH,ASH2 PLUS GAL,BAD,BAR PLUS RA,BUR
 BUR PLUS RA,DA,DI,DIM TIMES SHE,DUB,EL,EL PLUS LA,EN,EN TIMES GAN2 TENU,GAN2 TENU,GAR,GI,GI4
 GI4 PLUS A,GIR2 PLUS SU,HA PLUS LU PLUS ESH2,HAL,HAL PLUS LA,HI PLUS LI,HUB2,IGI GUNU
 ISH PLUS HU PLUS ASH,KAK,KASKAL,KID,KID PLUS LAL,KU3 PLUS AN,LA,ME PLUS EN,MI,NUN,NUN OVER NUN,PA
 SAL,SAR,SHE,SHE PLUS TUR,SHID,SUM,TAK4,U,UD,UD PLUS DU
120ED CUNEIFORMg
 GA2 OVER GA2,GABA,GABA CROSSING GABA,GAD,GAD OVER GAD GAR OVER GAR,GAL
 GAL GAD OVER GAD GAR OVER GAR,GALAM,GAM,GAN,GAN2,GAN2 TENU,GAN2 OVER GAN2,GAN2 CROSSING GAN2,GAR
 GAR3,GASHAN,GESHTIN,GESHTIN TIMES KUR,GI,GI TIMES E,GI TIMES U,GI CROSSING GI,GI4,GI4 OVER GI4
 GI4 CROSSING GI4,GIDIM,GIR2,GIR2 GUNU,GIR3
1210B CUNEIFORMgGIR3 TIMES
 A PLUS IGI,GAN2 TENU,IGI,LU PLUS IGI,PA
12110 CUNEIFORMg
 GISAL,GISH,GISH CROSSING GISH,GISH TIMES BAD,GISH TIMES TAK4,GISH TENU,GU,GU CROSSING GU,GU2
 GU2 TIMES KAK,GU2 TIMES KAK TIMES IGI GUNU,GU2 TIMES NUN,GU2 TIMES SAL PLUS TUG2,GU2 GUNU,GUD
 GUD TIMES A PLUS KUR,GUD TIMES KUR,GUD OVER GUD LUGAL,GUL,GUM,GUM TIMES SHE,GUR,GUR7,GURUN,GURUSH
 HA,HA TENU,HA GUNU,HAL,HI
1212E CUNEIFORMgHI TIMES
 ASH,ASH2,BAD,DISH,GAD,KIN,NUN,SHE,U
12137 CUNEIFORMg
 HU,HUB2
12139 CUNEIFORMgHUB2 TIMES
 AN,HAL,KASKAL,LISH,UD
1213E CUNEIFORMg
 HUL2,I,I A,IB,IDIM,IDIM OVER IDIM BUR,IDIM OVER IDIM SQUARED,IG,IGI,IGI DIB,IGI RI
 IGI OVER IGI SHIR OVER SHIR UD OVER UD,IGI GUNU,IL,IL TIMES GAN2 TENU,IL2,IM,IM TIMES TAK4
 IM CROSSING IM,IM OPPOSING IM,IM SQUARED,IMIN,IN,IR,ISH,KA
12158 CUNEIFORMgKA TIMES
 A,AD,AD PLUS KU3,ASH2,BAD,BALAG,BAR,BI,ERIN2,ESH2,GA,GAL,GAN2 TENU,GAR,GAR PLUS SHA3 PLUS A,GI,GIR2
 GISH PLUS SAR,GISH CROSSING GISH,GU,GUR7,IGI,IM,KAK,KI,KID,LI,LU,ME,ME PLUS DU,ME PLUS GI
 ME PLUS TE,MI,MI PLUS NUNUZ,NE,NUN,PI,RU,SA,SAR,SHA,SHE,SHID,SHU,SIG,SUHUR,TAR,U,U2,UD
 UMUM TIMES PA,USH,ZI
1218D CUNEIFORMg
 KA2,KA2 CROSSING KA2,KAB,KAD2~5,KAD5 OVER KAD5,KAK,KAK TIMES IGI GUNU,KAL,KAL TIMES BAD
 KAL CROSSING KAL,KAM2,KAM4,KASKAL,KASKAL LAGAB TIMES U OVER LAGAB TIMES U
 KASKAL OVER KASKAL LAGAB TIMES U OVER LAGAB TIMES U,KESH2,KI,KI TIMES BAD,KI TIMES U,KI TIMES UD
 KID,KIN,KISAL,KISH,KISIM5,KISIM5 OVER KISIM5,KU,KU OVER HI TIMES ASH2 KU OVER HI TIMES ASH2,KU3,KU4
 KU4 VARIANTf,KU7,KUL,KUL GUNU,KUN,KUR,KUR OPPOSING KUR,KUSHU2,KWU318,LA,LAGAB
121B9 CUNEIFORMgLAGAB TIMES
 A,A PLUS DA PLUS HA,A PLUS GAR,A PLUS LAL,AL,AN,ASH ZIDA TENU,BAD,BI,DAR,EN,GA,GAR,GUD,GUD PLUS GUD
 HA,HAL,HI TIMES NUN,IGI GUNU,IM,IM PLUS HA,IM PLUS LU,KI,KIN,KU3,KUL,KUL PLUS HI PLUS A,LAGAB,LISH
 LU,LUL,ME,ME PLUS EN,MUSH,NE,SHE PLUS SUM,SHITA PLUS GISH PLUS ERIN2,SHITA PLUS GISH TENU,SHU2
 SHU2 PLUS SHU2,SUM,TAG,TAK4,TE PLUS A PLUS SU PLUS NA,U,U PLUS A,U PLUS U PLUS U,U2 PLUS ASH,UD,USH
121EB CUNEIFORMg
 LAGAB SQUARED,LAGAR,LAGAR TIMES SHE,LAGAR TIMES SHE PLUS SUM,LAGAR GUNU
 LAGAR GUNU OVER LAGAR GUNU SHE,LAHSHU,LAL,LAL TIMES LAL,LAM,LAM TIMES KUR,LAM TIMES KUR PLUS RU,LI
 LIL,LIMMU2,LISH,LU,LU TIMES BAD,LU2
121FE CUNEIFORMgLU2 TIMES
 AL,BAD,ESH2,ESH2 TENU,GAN2 TENU,HI TIMES BAD,IM,KAD2,KAD3,KAD3 PLUS ASH,KI,LA PLUS ASH,LAGAB
 ME PLUS EN,NE,NU,SI PLUS ASH,SIK2 PLUS BU,TUG2
12211 CUNEIFORMg
 LU2 TENU,LU2 CROSSING LU2,LU2 OPPOSING LU2,LU2 SQUARED,LU2 SHESHIG,LU3,LUGAL,LUGAL OVER LUGAL
 LUGAL OPPOSING LUGAL,LUGAL SHESHIG,LUH,LUL,LUM,LUM OVER LUM,LUM OVER LUM GAR OVER GAR,MA
 MA TIMES TAK4,MA GUNU,MA2,MAH,MAR,MASH,MASH2,ME,MES,MI,MIN,MU,MU OVER MU,MUG,MUG GUNU,MUNSUB,MURGU2
 MUSH,MUSH TIMES A,MUSH TIMES KUR,MUSH TIMES ZA,MUSH OVER MUSH,MUSH OVER MUSH TIMES A PLUS NA
 MUSH CROSSING MUSH,MUSH3,MUSH3 TIMES A,MUSH3 TIMES A PLUS DI,MUSH3 TIMES DI,MUSH3 GUNU,NA,NA2,NAGA
 NAGA INVERTED,NAGA TIMES SHU TENU,NAGA OPPOSING NAGA,NAGAR,NAM NUTILLU,NAM,NAM2,NE,NE TIMES A
 NE TIMES UD,NE SHESHIG,NI,NI TIMES E,NI2,NIM,NIM TIMES GAN2 TENU,NIM TIMES GAR PLUS GAN2 TENU
 NINDA2
12253 CUNEIFORMgNINDA2 TIMES
 AN,ASH,ASH PLUS ASH,GUD,ME PLUS GAN2 TENU,NE,NUN,SHE,SHE PLUS A AN,SHE PLUS ASH
 SHE PLUS ASH PLUS ASH,U2 PLUS ASH,USH
12260 CUNEIFORMg
 NISAG,NU,NU11,NUN
12264 CUNEIFORMgNUN LAGAR TIMES
 GAR,MASH,SAL,SAL OVER NUN LAGAR TIMES SAL,USH
12269 CUNEIFORMg
 NUN TENU,NUN OVER NUN,NUN CROSSING NUN,NUN CROSSING NUN LAGAR OVER LAGAR,NUNUZ
1226E CUNEIFORMgNUNUZ AB2 TIMES
 ASHGAB,BI,DUG,GUD,IGI GUNU,KAD3,LA,NE,SILA3,U2
12278 CUNEIFORMgNUNUZ KISIM5 TIMES
 BI,BI U
1227A CUNEIFORMg
 PA,PAD,PAN,PAP,PESH2,PI
12280 CUNEIFORMgPI TIMES
 A,AB,BI,BU,E,I,IB,U,U2
12289 CUNEIFORMg
 PI CROSSING PI,PIRIG,PIRIG TIMES KAL,PIRIG TIMES UD,PIRIG TIMES ZA,PIRIG OPPOSING PIRIG,RA,RAB,RI
 RU,SA,SAG NUTILLU,SAG
12296 CUNEIFORMgSAG TIMES
 A,DU,DUB,HA,KAK,KUR,LUM,MI,NUN,SAL,SHID,TAB,U2,UB,UM,UR,USH
122A7 CUNEIFORMg
 SAG OVER SAG,SAG GUNU,SAL,SAL LAGAB TIMES ASH2,SANGA2,SAR,SHA,SHA3
122AF CUNEIFORMgSHA3 TIMES
 A,BAD,GISH,NE,SHU2,TUR,U,U PLUS A
122B7 CUNEIFORMg
 SHA6,SHAB6,SHAR2,SHE,SHE HU,SHE OVER SHE GAD OVER GAD GAR OVER GAR
 SHE OVER SHE TAB OVER TAB GAR OVER GAR,SHEG9,SHEN,SHESH,SHESH2,SHESHLAM,SHID,SHID TIMES A
 SHID TIMES IM,SHIM
122C7 CUNEIFORMgSHIM TIMES
 A,BAL,BULUG,DIN,GAR,IGI,IGI GUNU,KUSHU2,LUL,MUG,SAL
122D2 CUNEIFORMg
 SHINIG,SHIR,SHIR TENU,SHIR OVER SHIR BUR OVER BUR,SHITA,SHU,SHU OVER INVERTED SHU,SHU2,SHUBUR,SI
 SI GUNU,SIG,SIG4,SIG4 OVER SIG4 SHU2,SIK2,SILA3,SU,SU OVER SU,SUD,SUD2,SUHUR,SUM,SUMASH,SUR,SUR9,TA
 TA ASTERISK,TA TIMES HI,TA TIMES MI,TA GUNU,TAB,TAB OVER TAB NI OVER NI DISH OVER DISH,TAB SQUARED
 TAG
122F4 CUNEIFORMgTAG TIMES
 BI,GUD,SHE,SHU,TUG2,UD
122FA CUNEIFORMg
 TAK4,TAR,TE,TE GUNU,TI,TI TENU,TIL,TIR,TIR TIMES TAK4,TIR OVER TIR
 TIR OVER TIR GAD OVER GAD GAR OVER GAR,TU,TUG2,TUK,TUM,TUR,TUR OVER TUR ZA OVER ZA,U,U GUD,U U U
 U OVER U PA OVER PA GAR OVER GAR,U OVER U SUR OVER SUR,U OVER U U REVERSED OVER U REVERSED,U2,UB,UD
 UD KUSHU2,UD TIMES BAD,UD TIMES MI,UD TIMES U PLUS U PLUS U,UD TIMES U PLUS U PLUS U GUNU,UD GUNU
 UD SHESHIG,UD SHESHIG TIMES BAD,UDUG,UM,UM TIMES LAGAB,UM TIMES ME PLUS DA,UM TIMES SHA3,UM TIMES U
 UMBIN,UMUM,UMUM TIMES KASKAL,UMUM TIMES PA,UN,UN GUNU,UR,UR CROSSING UR,UR SHESHIG,UR2
1232C CUNEIFORMgUR2 TIMES
 A PLUS HA,A PLUS NA,AL,HA,NUN,U2,U2 PLUS ASH,U2 PLUS BI
12334 CUNEIFORMg
 UR4,URI,URI3,URU
12338 CUNEIFORMgURU TIMES
 A,ASHGAB,BAR,DUN,GA,GAL,GAN2 TENU,GAR,GU,HA,IGI,IM,ISH,KI,LUM,MIN,PA,SHE,SIG4,TU,U PLUS GUD,UD
 URUDA
1234F CUNEIFORMg
 URUDA,URUDA TIMES U,USH,USH TIMES A,USH TIMES KU,USH TIMES KUR,USH TIMES TAK4,USHX,USH2,USHUMX
 UTUKI,UZ3,UZ3 TIMES KASKAL,UZU,ZA,ZA TENU,ZA SQUARED TIMES KUR,ZAG,ZAMX,ZE2,ZI,ZI OVER ZI,ZI3,ZIB
 ZIB KABA TENU,ZIG,ZIZ2,ZU,ZU5,ZU5 TIMES A,ZUBUR,ZUM,KAP ELAMITE,AB TIMES NUN,AB2 TIMES A
 AMAR TIMES KUG,DAG KISIM5 TIMES U2 PLUS MASH,DAG3,DISH PLUS SHU,DUB TIMES SHE,EZEN TIMES GUD
 EZEN TIMES SHE,GA2 TIMES AN PLUS KAK PLUS A,GA2 TIMES ASH2,GE22,GIG,HUSH
1237E CUNEIFORMgKA TIMES
 ANSHE,ASH3,GISH,GUD,HI TIMES ASH2,LUM,PA,SHUL,TU,UR2
12388 CUNEIFORMg
 LAGAB TIMES GI,LU2 SHESHIG TIMES BAD,LU2 TIMES ESH2 PLUS LAL,LU2 TIMES SHU,MESH,MUSH3 TIMES ZA,NA4
 NIN,NIN9,NINDA2 TIMES BAL,NINDA2 TIMES GI,NU11 ROTATED NINETY DEGREES,PESH2 ASTERISK,PIR2
 SAG TIMES IGI GUNU,TI2,UM TIMES ME,U U
12400 CUNEIFORM NUMERICg
 TWO ASH,tASH,FOUR ASH,FIVE ASH,SIX ASH,SEVEN ASH,EIGHT ASH,NINE ASH,tDISH,FOUR DISH,FIVE DISH
 SIX DISH,SEVEN DISH,EIGHT DISH,NINE DISH,FOUR U,FIVE U,SIX U,SEVEN U,EIGHT U,NINE U,ONE GESH2
 TWO GESH2,tGESH2,FOUR GESH2,FIVE GESH2,SIX GESH2,SEVEN GESH2,EIGHT GESH2,NINE GESH2,ONE GESHU
 TWO GESHU,tGESHU,FOUR GESHU,FIVE GESHU,TWO SHAR2,tSHAR2,tSHAR2 VARIANTf,FOUR SHAR2,FIVE SHAR2
 SIX SHAR2,SEVEN SHAR2,EIGHT SHAR2,NINE SHAR2,ONE SHARU,TWO SHARU,tSHARU,tSHARU VARIANTf,FOUR SHARU
 FIVE SHARU,SHAR2 TIMES GAL PLUS DISH,SHAR2 TIMES GAL PLUS MIN,ONE BURU,TWO BURU,tBURU
 tBURU VARIANTf,FOUR BURU,FIVE BURU,tVARIANTfESH16,tVARIANTfESH21,FOUR VARIANTfLIMMU
 FOUR VARIANTfLIMMU4,FOUR VARIANTfLIMMU A,FOUR VARIANTfLIMMU B,SIX VARIANTfASH9,SEVEN VARIANTfIMIN3
 SEVEN VARIANTfIMIN A,SEVEN VARIANTfIMIN B,EIGHT VARIANTfUSSU,EIGHT VARIANTfUSSU3
 NINE VARIANTfILIMMU,NINE VARIANTfILIMMU3,NINE VARIANTfILIMMU4,NINE VARIANTfILIMMU A,TWO ASH TENU
 tASH TENU,FOUR ASH TENU,FIVE ASH TENU,SIX ASH TENU,ONE BAN2,TWO BAN2,tBAN2,FOUR BAN2
 FOUR BAN2 VARIANTf,FIVE BAN2,FIVE BAN2 VARIANTf,NIGIDAMIN,NIGIDAESH,ONE ESHE3,TWO ESHE3
 ONE THIRD DISH,TWO THIRDS DISH,FIVE SIXTHS DISH,ONE THIRD VARIANTfA,TWO THIRDS VARIANTfA
 ONE EIGHTH ASH,ONE QUARTER ASH,OLD ASSYRIAN ONE SIXTH,OLD ASSYRIAN ONE QUARTER,ONE QUARTER GUR
 ONE HALF GUR,ELAMITE ONE THIRD,ELAMITE TWO THIRDS,ELAMITE FORTY,ELAMITE FIFTY,FOUR U VARIANTf
 FIVE U VARIANTf,SIX U VARIANTf,SEVEN U VARIANTf,EIGHT U VARIANTf,NINE U VARIANTf
12470 CUNEIFORM PUNCTUATIONg
 OLD ASSYRIAN WORD DIVIDER,vCOLON,DIAGONAL COLON,DIAGONAL TRICOLON,DIAGONAL QUADCOLON
12480 CUNEIFORMg
 AB TIMES NUN TENU,AB TIMES SHU2,AD TIMES ESH2,BAD TIMES DISH TENU,BAHAR2 TIMES AB2,BAHAR2 TIMES NI
 BAHAR2 TIMES ZA,BU OVER BU TIMES NA2,DA TIMES TAK4,DAG TIMES KUR,DIM TIMES IGI,DIM TIMES U U U
 DIM2 TIMES UD
1248D CUNEIFORMgDUG TIMES
 ANSHE,ASH,ASH ATx,DIN,DUN,ERIN2,GA,GI,GIR2 GUNU,GISH,HA,HI,IGI GUNU,KASKAL,KUR,KUSHU2
 KUSHU2 PLUS KASKAL,LAK-020,LAM,LAM TIMES KUR,LUH PLUS GISH,MASH,MES,MI,NI,PI,SHE,SI GUNU
124A9 CUNEIFORMg
 E2 TIMES KUR,E2 TIMES PAP,ERIN2 X,ESH2 CROSSING ESH2
124AD CUNEIFORMgEZEN SHESHIG TIMES
 ASH,HI,IGI GUNU,LA,LAL,ME,MES,SU
124B5 CUNEIFORMgEZEN TIMES
 SU
124B6 CUNEIFORMgGA2 TIMES
 BAHAR2,DIM GUNU,DUG TIMES IGI GUNU,DUG TIMES KASKAL,EREN,GA,GAR PLUS DI,GAR PLUS NE,HA PLUS A
 KUSHU2 PLUS KASKAL,LAM,LAM TIMES KUR,LUH,MUSH,NE,NE PLUS E2,NE PLUS GI,SHIM,ZIZ2
124C9 CUNEIFORMg
 GABA ROTATED NINETY DEGREES,GESHTIN TIMES U,GISH TIMES GISH CROSSING GISH,GU2 TIMES IGI GUNU
 GUD PLUS GISH TIMES TAK4,HA TENU GUNU,HI TIMES ASH OVER HI TIMES ASH,KA TIMES BU,KA TIMES KA
 KA TIMES U U U,KA TIMES UR,LAGAB TIMES ZU OVER ZU,LAK-003,LAK-021,LAK-025,LAK-030,LAK-050,LAK-051
 LAK-062,LAK-079 OVER LAK-079 GUNU,LAK-080,LAK-081 OVER LAK-081,LAK-092,LAK-130,LAK-142,LAK-210
 LAK-219,LAK-220,LAK-225,LAK-228,LAK-238,LAK-265,LAK-266,LAK-343,LAK-347,LAK-348,LAK-383,LAK-384
 LAK-390,LAK-441,LAK-449
124F2 CUNEIFORMgLAK-449 TIMES
 GU,IGI,PAP PLUS LU3,PAP PLUS PAP PLUS LU3,U2 PLUS BA
124F7 CUNEIFORMg
 LAK-450,LAK-457,LAK-470,LAK-483,LAK-490,LAK-492,LAK-493,LAK-495,LAK-550,LAK-608,LAK-617
12502 CUNEIFORMgLAK-617 TIMES
 ASH,BAD,DUN3 GUNU GUNU,KU3,LA,TAR,TE,U2,UD,URUDA
1250C CUNEIFORMg
 LAK-636,LAK-648
1250E CUNEIFORMgLAK-648 TIMES
 DUB,GA,IGI,IGI GUNU,NI,PAP PLUS PAP PLUS LU3,SHESH PLUS KI,UD,URUDA
12517 CUNEIFORMg
 LAK-724,LAK-749,LU2 GUNU TIMES ASH
1251A CUNEIFORMgLU2 TIMES
 DISH,HAL,PAP,PAP PLUS PAP PLUS LU3,TAK4
1251F CUNEIFORMgMI PLUS
 ZA7
12520 CUNEIFORMgMUSH OVER MUSH TIMES
 GA,KAK
12522 CUNEIFORMgNINDA2 TIMES
 DIM GUNU,GISH,GUL,HI,KESH2,LAK-050,MASH,PAP PLUS PAP,U,U PLUS U,URUDA
1252D CUNEIFORMg
 SAG GUNU TIMES HA,SAG TIMES EN,SAG TIMES SHE ATx,SAG TIMES TAK4,SHA6 TENU,SHE OVER SHE
 SHE PLUS HUB2,SHE PLUS NAM2,SHE PLUS SAR,SHU2 PLUS DUG TIMES NI,SHU2 PLUS E2 TIMES AN,SI TIMES TAK4
 TAK4 PLUS SAG,TUM TIMES GAN2 TENU,TUM TIMEStDISH,UR2 INVERTED,UR2 TIMES UD,URU TIMES DARA3
 URU TIMES LAK-668,URU TIMES LU3,ZA7,ZU OVER ZU PLUS SAR,ZU5 TIMEStDISH TENU
12F90 CYPRO-MINOANg
 CM001,CM002,CM004~12,CM012B,CM013,CM015,CM017,CM019,CM021,CM023~30,CM033~41,CM044,CM046,CM047
 CM049~56,CM058~64,CM066~75,CM075B,CM076,CM078~92,CM094~105,CM107~110,CM112,CM114,CM301,CM302
13000 EGYPTIAN HIEROGLYPH
 A001~5,A005A,A006,A006A,A006B,A007~14,A014A,A015~17,A017A,A018~32,A032A,A033~40,A040A,A041,A042
 A042A,A043,A043A,A044,A045,A045A,A046~70,B001~5,B005A,B006~9,C001,C002,C002A,C002B,C002C,C003~10
 C010A,C011~24,D001~8,D008A,D009~27,D027A,D028~31,D031A,D032~34,D034A,D035~46,D046A,D047,D048,D048A
 D049,D050,D050A,D050B,D050C,D050D,D050E,D050F,D050G,D050H,D050I,D051,D052,D052A,D053,D054,D054A
 D055~67,D067A,D067B,D067C,D067D,D067E,D067F,D067G,D067H,E001~8,E008A,E009,E009A,E010~16,E016A,E017
 E017A,E018~20,E020A,E021~28,E028A,E029~34,E034A,E036~38,F001,F001A,F002~13,F013A,F014~21,F021A
 F022~31,F031A,F032~37,F037A,F038,F038A,F039~45,F045A,F046,F046A,F047,F047A,F048~51,F051A,F051B
 F051C,F052,F053,G001~6,G006A,G007,G007A,G007B,G008~11,G011A,G012~20,G020A,G021~26,G026A,G027~36
 G036A,G037,G037A,G038~43,G043A,G044,G045,G045A,G046~54,H001~6,H006A,H007,H008,I001~5,I005A,I006~9
 I009A,I010,I010A,I011,I011A,I012~15,K001~8,L001,L002,L002A,L003~6,L006A,L007,L008,M001,M001A,M001B
 M002,M003,M003A,M004~10,M010A,M011,M012,M012A,M012B,M012C,M012D,M012E,M012F,M012G,M012H,M013~15
 M015A,M016,M016A,M017,M017A,M018~22,M022A,M023,M024,M024A,M025~28,M028A,M029~31,M031A,M032,M033
 M033A,M033B,M034~40,M040A,M041~44,N001~18,N018A,N018B,N019~25,N025A,N026~33,N033A,N034,N034A,N035
 N035A,N036,N037,N037A,N038~42,NL001~5,NL005A,NL006~17,NL017A,NL018~20,NU001~10,NU010A,NU011,NU011A
 NU012~18,NU018A,NU019~22,NU022A,O001,O001A,O002~5,O005A,O006,O006A,O006B,O006C,O006D,O006E,O006F
 O007~10,O010A,O010B,O010C,O011~19,O019A,O020,O020A,O021~24,O024A,O025,O025A,O026~29,O029A,O030
 O030A,O031~33,O033A,O034~36,O036A,O036B,O036C,O036D,O037~50,O050A,O050B,O051,P001,P001A,P002,P003
 P003A,P004~11,Q001~7,R001,R002,R002A,R003,R003A,R003B,R004~10,R010A,R011~16,R016A,R017~29,S001,S002
 S002A,S003~6,S006A,S007~14,S014A,S014B,S015~17,S017A,S018~26,S026A,S026B,S027~35,S035A,S036~46
 T001~3,T003A,T004~7,T007A,T008,T008A,T009,T009A,T010,T011,T011A,T012~16,T016A,T017~32,T032A,T033
 T033A,T034~36,U001~6,U006A,U006B,U007~23,U023A,U024~29,U029A,U030~32,U032A,U033~42,V001,V001A,V001B
 V001C,V001D,V001E,V001F,V001G,V001H,V001I,V002,V002A,V003~7,V007A,V007B,V008~11,V011A,V011B,V011C
 V012,V012A,V012B,V013~20,V020A,V020B,V020C,V020D,V020E,V020F,V020G,V020H,V020I,V020J,V020K,V020L
 V021~23,V023A,V024~28,V028A,V029,V029A,V030,V030A,V031,V031A,V032,V033,V033A,V034~37,V037A,V038~40
 V040A,W001~3,W003A,W004~9,W009A,W010,W010A,W011~14,W014A,W015~17,W017A,W018,W018A,W019~24,W024A
 W025,X001~4,X004A,X004B,X005,X006,X006A,X007,X008,X008A,Y001,Y001A,Y002~8,Z001,Z002,Z002A,Z002B
 Z002C,Z002D,Z003,Z003A,Z003B,Z004,Z004A,Z005,Z005A,Z006~15,Z015A,Z015B,Z015C,Z015D,Z015E,Z015F
 Z015G,Z015H,Z015I,Z016,Z016A,Z016B,Z016C,Z016D,Z016E,Z016F,Z016G,Z016H,AA001~7,AA007A,AA007B
 AA008~32,,vJOINER,HORIZONTAL JOINER,INSERT AT TOP START,INSERT AT BOTTOM START,INSERT AT TOP END
 INSERT AT BOTTOM END,OVERLAY MIDDLE,BEGIN SEGMENT,END SEGMENT
14400 ANATOLIAN HIEROGLYPH
 A001~10,A010A,A011~26,A026A,A027~39,A039A,A040,A041,A041A,A042~45,A045A,A046,A046A,A046B,A047~66
 A066A,A066B,A066C,A067~97,A097A,A098,A098A,A099,A100,A100A,A101,A101A,A102,A102A,A103,A104,A104A
 A104B,A104C,A105,A105A,A105B,A106,A107,A107A,A107B,A107C,A108~110,A110A,A110B,A111~115,A115A
 A116~125,A125A,A126~135,A135A,A136~202,A202A,A202B,A203~207,A207A,A208,A209,A209A,A210~215,A215A
 A216,A216A,A217~227,A227A,A228~267,A267A,A268~289,A289A,A290~294,A294A,A295~299,A299A,A300~309
 A309A,A310~329,A329A,A330,A331,A332A,A332B,A332C,A333~336,A336A,A336B,A336C,A337~359,A359A,A360~364
 A364A,A365~368,A368A,A369~371,A371A,A372~381,A381A,A382,A383 RA OR RI,A383A,A384~386,A386A,A387~392
 A393 EIGHT,A394~409,A410 BEGIN LOGOGRAMm,A410A END LOGOGRAMm,A411~450,A450A,A451~457,A457A,A458~497
 A501~530
16800 BAMUMlPHASE-A
 NGKUE MFON,GBIEE FON,PON MFON PIPAEMGBIEE,PON MFON PIPAEMBA,NAA MFON,SHUENSHUET,TITA MFON,NZA MFON
 SHINDA PA NJI,PON PA NJI PIPAEMGBIEE,PON PA NJI PIPAEMBA,MAEMBGBIEE,TU MAEMBA,NGANGU,MAEMVEUX
 MANSUAE,MVEUAENGAM,SEUNYAM,NTOQPEN,KEUKEUTNDA,NKINDI,SUU,NGKUENZEUM,LAPAQ,LET KUT,NTAP MFAA,MAEKEUP
 PASHAE,GHEUAERAE,PAMSHAE,MON NGGEUAET,NZUN MEUT,U YUQ NAE,GHEUAEGHEUAE,NTAP NTAA,SISA,MGBASA
 MEUNJOMNDEUQ,MOOMPUQ,KAFA,PA LEERAEWA,NDA LEERAEWA,PET,MAEMKPEN,NIKA,PUP,TUAEP,LUAEP,SONJAM
 TEUTEUWEN,MAENYI,KET,NDAANGGEUAET,KUOQ,MOOMEUT,SHUM,LOMMAE,FIRI,ROM,KPOQ,SOQ,MAP PIEET,SHIRAE,NTAP
 SHOQ NSHUT YUM,NYIT MONGKEUAEQ,PAARAE,NKAARAE,UNKNOWN,NGGEN,MAESI,NJAM,MBANYI,NYET,TEUAEN,SOT,PAAM
 NSHIEE,MAEM,NYI,KAQ,NSHA,VEE,LU,NEN,NAQ,MBAQ
16857 BAMUMlPHASE-B
 NSHUET,TU MAEMGBIEE,SIEE,SET TU,LOM NTEUM,MBA MAELEE,KIEEM,YEURAE,MBAARAE,KAM,PEESHI,YAFU LEERAEWA
 LAM NSHUT NYAM,NTIEE SHEUOQ,NDU NJAA,GHEUGHEUAEM,PIT,TU NSIEE,SHET NJAQ,SHEUAEQTU,MFON TEUAEQ
 MBIT MBAAKET,NYI NTEUM,KEUPUQ,GHEUGHEN,KEUYEUX,LAANAE,PARUM,VEUM,NGKINDI MVOP,NGGEU MBU,WUAET
 SAKEUAE,TAAM,MEUQ,NGGUOQ,NGGUOQ LARGE,MFIYAQ,SUE,MBEURI,MONTIEEN,NYAEMAE,PUNGAAM,MEUT NGGEET,FEUX
 MBUOQ,FEE,KEUAEM,MA NJEUAENA,MA NJUQA,LET,NGGAAM,NSEN,MA,KIQ,NGOM
1688F BAMUMlPHASE-C
 NGKUE MAEMBA,NZA,YUM,WANGKUOQ,NGGEN,NDEUAEREE,NGKAQ,GHARAE,MBEEKEET,GBAYI,NYIR MKPARAQ MEUN
 NTU MBIT,MBEUM,PIRIEEN,NDOMBU,MBAA CABBAGE-TREE,KEUSHEUAEP,GHAP,KEUKAQ,YU MUOMAE,NZEUM,MBUE,NSEUAEN
 MBIT,YEUQ,KPARAQ,KAA,SEUX,NDIDA,TAASHAE,NJUEQ,TITA YUE,SUAET,NGGUAEN NYAM,VEUX,NANSANAQ,MA KEUAERI
 NTAA,NGGUON,LAP,MBIRIEEN,MGBASAQ,NTEUNGBA,TEUTEUX,NGGUM,FUE,NDEUT,NSA,NSHAQ,BUNG,VEUAEPEN,MBERAE,RU
 NJAEM,LAM,TITUAEP,NSUOT NGOM,NJEEEE,KET,NGGU,MAESI,MBUAEM,LU,KUT,NJAM,NGOM,WUP,NGGUEET,NSOM,NTEN
 KUOP NKAARAE,NSUN,NDAM,MA NSIEE,YAA,NDAP,SHUEQ,SETFON,MBI,MAEMBA,MBANYI,KEUSEUX,MBEUX,KEUM
 MBAA PICKET,YUWOQ,NJEUX,MIEE,MUAE,SHIQ,KEN LAW,KEN FATIGUE,NGAQ,NAQ,LIQ,PIN,PEN,TET
168F1 BAMUMlPHASE-D
 MBUO,WAP,NJI,MFON,NJIEE,LIEE,NJEUT,NSHEE,NGGAAMAE,NYAM,WUAEN,NGKUN,SHEE,NGKAP,KEUAETMEUN,TEUT
 SHEUAE,NJAP,SUE,KET,YAEMMAE,KUOM,SAP,MFEUT,NDEUX,MALEERI,MEUT,SEUAEQ,YEN,NJEUAEM,KEUOT MBUAE
 NGKEURI,TU,GHAA,NGKYEE,FEUFEUAET,NDEE,MGBOFUM,LEUAEP,NDON,MONI,MGBEUN,PUUT,MGBIEE,MFO,LUM,NSIEEP
 MBAA,KWAET,NYET,TEUAEN,SOT,YUWOQ,KEUM,RAEM,TEEEE,NGKEUAEQ,MFEUAE,NSIEET,KEUP,PIP,PEUTAE,NYUE,LET
 NGGAAM,MFIEE,NGGWAEN,YUOM,PAP,YUOP,NDAM,NTEUM,SUAE,KUN,NGGEUX,NGKIEE,TUOT,MEUN,KUQ,NSUM,TEUN
 MAENJET,NGGAP,LEUM,NGGUOM,NSHUT,NJUEQ,GHEUAE,KU,REN OLD,TAE,TOQ,NYI,RII,LEEEE,MEEEE,M,SUU,MU,SHII
 SHEUX,KYEE,NU,SHU,NTEE,PEE,NI,SHOQ,PUQ,MVOP,LOQ,REN MUCH,TI,NTUU,MBAA SEVEN,SAQ,FAA
16966 BAMUMlPHASE-E
 NDAP,TOON,MBEUM,LAP,VOM,LOON,PAA,SOM,RAQ,NSHUOP,NDUN,PUAE,TAM,NGKA,KPEUX,WUO,SEE,NGGEUAET,PAAM,TOO
 KUOP,LOM,NSHIEE,NGOP,MAEM,NGKEUX,NGOQ,NSHUE,RIMGBA,NJEUX,PEEM,SAA,NGGURAE,MGBA,GHEUX,NGKEUAEM
 NJAEMLI,MAP,LOOT,NGGEEEE,NDIQ,TAEN NTEUM,SET,PUM,NDAA SOFTNESS,NGGUAESHAE NYAM,YIEE,GHEUN,TUAE
 YEUAE,PO,TUMAE,KEUAE,SUAEN,TEUAEQ,VEUAE,WEUX,LAAM,PU,TAAQ,GHAAMAE,NGEUREUT,SHEUAEQ,MGBEN,MBEE,NZAQ
 NKOM,GBET,TUM,KUET,YAP,NYI CLEAVER,YIT,MFEUQ,NDIAQ,PIEEQ,YUEQ,LEUAEM,FUE,GBEUX,NGKUP,KET,MAE
 NGKAAMI,GHET,FA,NTUM,PEUT,YEUM,NGGEUAE,NYI BETWEEN,NZUQ,POON,MIEE,FUET,NAE,MUAE,GHEUAE,FU I,MVI
 PUAQ,NGKUM,KUT,PIET,NTAP,YEUAET,NGGUP,PA PEOPLE,FU CALL,FOM,NJEE,A,TOQ,O,I,LAQ,PA PLURAL,TAA,TAQ
 NDAA MY HOUSE,SHIQ,YEUX,NGUAE,YUAEN,YOQ SWIMMING,YOQ COVER,YUQ,YUN,KEUX,PEUX,NJEE EPOCH,PUE,WUE,FEE
 VEE,LU,MI,REUX,RAE,NGUAET,NGA,SHO,SHOQ,FU REMEDY,NA,PI,LOQ,KO,MEN,MA,MAQ,TEU,KI,MON,TEN,FAQ,GHOM
16A03 BAMUMlPHASE-F
 KA,U,KU,EE,REE,TAE,NYI,LA,RII,RIEE,MEEEE,TAA,NDAA,NJAEM,M,SUU,SHII,SI,SEUX,KYEE,KET,NUAE,NU,NJUAE
 YOQ,SHU,YA,NSHA,PEUX,NTEE,WUE,PEE,RU,NI,REUX,KEN,NGKWAEN,NGGA,SHO,PUAE,FOM,WA,LI,LOQ,KO,MBEN,REN,MA
 MO,MBAA,TET,KPA,SAMBA,VUEQ
16A40 MROl
 TA,NGI,YO,MIM,BA,DA,A,PHI,KHAI,HAO,DAI,CHU,KEAAE,OL,MAEM,NIN,PA,OO,O,RO,SHI,THEA,EA,WA,E,KO,LAN,LA
 HAI,RI,TEK
16A60 MRO DIGIT
 ZERO,ONE,TWO,t,FOUR,FIVE,SIX,SEVEN,EIGHT,NINE
16A6E MRO
 DANDA,dDANDA
16A70 TANGSAl
 OZ,OC,OQ,OX,AZ,AC,AQ,AX,VZ,VC,VQ,VX,EZ,EC,EQ,EX,IZ,IC,IQ,IX,UZ,UC,UQ,UX,AWZ,AWC,AWQ,AWX,UIZ,UIC,UIQ
 UIX,oNG,LONG UEX,SHORT UEZ,SHORT AWX,UEC,UEZ,UEQ,UEX,UIUZ,UIUC,UIUQ,UIUX,MZ,MC,MQ,MX,KA,KHA,GA,NGA
 SA,YA,WA,PA,NYA,PHA,BA,MA,NA,HA,LA,HTA,TA,DA,RA,NHA,SHA,CA,TSA,GHA,HTTA,THA,XA,FA,DHA,CHA,ZA
16AC0 TANGSA DIGIT
 ZERO,ONE,TWO,t,FOUR,FIVE,SIX,SEVEN,EIGHT,NINE
16AD0 BASSA VAHl
 ENNI,KA,SE,FA,MBE,YIE,GAH,DHII,KPAH,JO,HWAH,WA,ZO,GBU,DO,CE,UWU,TO,BA,VU,YEIN,PA,WADDA,A,O,OO,U,EE
 E,I
16AF0 BASSA VAH COMBINING
 HIGH TONE,LOW TONE,MID TONE,LOW-MID TONE,HIGH-LOW TONE
16AF5 BASSA VAH FULL
 STOP
16B00 PAHAWH HMONG VOWEL
 KEEB,KEEV,KIB,KIV,KAUB,KAUV,KUB,KUV,KEB,KEV,KAIB,KAIV,KOOB,KOOV,KAWB,KAWV,KUAB,KUAV,KOB,KOV,KIAB
 KIAV,KAB,KAV,KWB,KWV,KAAB,KAAV
16B1C PAHAWH HMONG CONSONANT
 VAU,NTSAU,LAU,HAU,NLAU,RAU,NKAU,QHAU,YAU,HLAU,MAU,CHAU,NCHAU,HNAU,PLHAU,NTHAU,NAU,AU,XAU,CAU
16B30 PAHAWH HMONGmCIM
 TUB,SO,KES,KHAV,SUAM,HOM,TAUM
16B37 PAHAWH HMONGg
 VOS THOM,VOS TSHAB CEEB,CIM CHEEM,VOS THIAB,VOS FEEM,XYEEM NTXIV,XYEEM RHO,XYEEM TOV,XYEEM FAIB
 VOS SEEV,MEEJ SUAB,VOS NRUA,IB YAM,XAUS,CIM TSOV ROG
16B50 PAHAWH HMONG DIGIT
 ZERO,ONE,TWO,t,FOUR,FIVE,SIX,SEVEN,EIGHT,NINE
16B5B PAHAWH HMONG NUMBER
 TENS,HUNDREDS,TEN THOUSANDS,MILLIONS,HUNDRED MILLIONS,TEN BILLIONS,TRILLIONS
16B63 PAHAWH HMONGg
 VOS LUB,XYOO,HLI,THIRD-STAGE HLI,ZWJ THAJ,HNUB,NQIG,XIAB,NTUJ,AV,TXHEEJ CEEV,MEEJ TSEEB,TAU,LOS,MUS
16B72 PAHAWH HMONGgCIM
 HAIS LUS NTOG NTOG,CUAM TSHOOJ,TXWV,TXWV CHWV,PUB DAWB,NRES TOS
16B7D PAHAWH HMONG CLANg
 TSHEEJ,YEEG,LIS,LAUJ,XYOOJ,KOO,HAWJ,MUAS,THOJ,TSAB,PHAB,KHAB,HAM,VAJ,FAJ,YAJ,TSWB,KWM,VWJ
16E40 MEDEFAIDRINcl
 M,S,V,W,ATIU,Z,KP,P,T,G,F,I,K,A,J,E,B,C,U,YU,L,Q,HP,NY,X,D,OE,N,R,O,AI,Y
16E60 MEDEFAIDRINsl
 M,S,V,W,ATIU,Z,KP,P,T,G,F,I,K,A,J,E,B,C,U,YU,L,Q,HP,NY,X,D,OE,N,R,O,AI,Y
16E80 MEDEFAIDRIN DIGIT
 ZERO,ONE,TWO,t,FOUR,FIVE,SIX,SEVEN,EIGHT,NINE
16E8A MEDEFAIDRIN NUMBER
 TEN,ELEVEN,TWELVE,THIRTEEN,FOURTEEN,FIFTEEN,SIXTEEN,SEVENTEEN,EIGHTEEN,NINETEEN
16E94 MEDEFAIDRIN
 DIGIT ONE ALTERNATEf,DIGIT TWO ALTERNATEf,DIGITtALTERNATEf,COMMA,FULL STOP,uAIVA,EXCLAMATION OH
16F00 MIAOl
 PA,BA,YI PA,PLA,MA,MHA,ARCHAIC MA,FA,VA,VFA,TA,DA,YI TTA,YI TA,TTA,DDA,NA,NHA,YI NNA,ARCHAIC NA,NNA
 NNHA,LA,LYA,LHA,LHYA,TLHA,DLHA,TLHYA,DLHYA,KA,GA,YI KA,QA,QGA,NGA,NGHA,ARCHAIC NGA,HA,XA,GHA,GHHA
 TSSA,DZZA,NYA,NYHA,TSHA,DZHA,YI TSHA,YI DZHA,REFORMED TSHA,SHA,SSA,ZHA,ZSHA,TSA,DZA,YI TSA,SA,ZA
 ZSA,ZZA,ZZSA,ARCHAIC ZZA,ZZYA,ZZSYA,WA,AH,HHA,BRI,SYI,DZYI,TE,TSE,RTE
16F4F MIAO
 gCONSONANT MODIFIER BAR,lNASALIZATION,gASPIRATION,gREFORMED VOICING,gREFORMED ASPIRATION
16F54 MIAO VOWELg
 A,AA,AHH,AN,ANG,O,OO,WO,W,E,EN,ENG,OEY,I,IA,IAN,IANG,IO,IE,II,IU,ING,U,UA,UAN,UANG,UU,UEI,UNG,Y,YI
 AE,AEE,ERR,ROUNDED ERR,ER,ROUNDED ER,AI,EI,AU,OU,N,NG,UOG,YUI,OG,OER,VW,IG,EA,IONG,UI
16F8F MIAO TONE
 r,TOPr,e,b
16F93 MIAOl
 TONE-2~8
16F9A MIAOlREFORMED
 TONE-1,TONE-2,TONE-4~6,TONE-8
16FE0
 TANGUT ITERATIONm,NUSHU ITERATIONm,OLD CHINESE HOOKm,OLD CHINESE ITERATIONm,KHITANsSCRIPT FILLER
16FF0 VIETNAMESE ALTERNATE READINGm
 CA,NHAY"

end Throws.Text.CharacterNames
