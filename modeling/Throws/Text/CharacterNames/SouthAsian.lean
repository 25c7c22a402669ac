/-!
# Names of South Asian scripts

The scripts of India, and those of Sri Lanka, Thailand, Laos and Tibet.
-/

namespace Throws.Text.CharacterNames

/-- Characters from U+0900 to U+0FFF. -/
def southAsian : String := "900 DEVANAGARIg
 INVERTED CANDRABINDU,CANDRABINDU,ANUSVARA,VISARGA
904 DEVANAGARIl
 SHORT A,A,AA,I,II,U,UU,VOCALIC R,VOCALIC L,CANDRA E,SHORT E,E,AI,CANDRA O,SHORT O,O,AU,KA,KHA,GA
 GHA,NGA,CA,CHA,JA,JHA,NYA,TTA,TTHA,DDA,DDHA,NNA,TA,THA,DA,DHA,NA,NNNA,PA,PHA,BA,BHA,MA,YA,RA,RRA,LA
 LLA,LLLA,VA,SHA,SSA,SA,HA
93A DEVANAGARI
 VOWELgOE,VOWELgOOE,gNUKTA,gAVAGRAHA
93E DEVANAGARI VOWELg
 AA,I,II,U,UU,VOCALIC R,VOCALIC RR,CANDRA E,SHORT E,E,AI,CANDRA O,SHORT O,O,AU
94D DEVANAGARI
 gVIRAMA,VOWELgPRISHTHAMATRA E,VOWELgAW,OM,STRESSgUDATTA,STRESSgANUDATTA,GRAVE ACCENT,ACUTE ACCENT
 VOWELgCANDRA LONG E,VOWELgUE,VOWELgUUE,lQA,lKHHA,lGHHA,lZA,lDDDHA,lRHA,lFA,lYYA,lVOCALIC RR
 lVOCALIC LL,VOWELgVOCALIC L,VOWELgVOCALIC LL,DANDA,dDANDA
966 DEVANAGARI DIGIT
 ZERO,ONE,TWO,t,FOUR,FIVE,SIX,SEVEN,EIGHT,NINE
970 DEVANAGARI
 ABBREVIATIONg,gHIGH SPACING DOT,lCANDRA A,lOE,lOOE,lAW,lUE,lUUE,lMARWARI DDA,lZHA,lHEAVY YA,lGGA
 lJJA,lGLOTTAL STOP,lDDDA,lBBA
980 BENGALI
 ANJI,gCANDRABINDU,gANUSVARA,gVISARGA
985 BENGALIl
 A,AA,I,II,U,UU,VOCALIC R,VOCALIC L,,,E,AI,,,O,AU,KA,KHA,GA,GHA,NGA,CA,CHA,JA,JHA,NYA,TTA,TTHA,DDA
 DDHA,NNA,TA,THA,DA,DHA,NA,,PA,PHA,BA,BHA,MA,YA,RA,,LA,,,,SHA,SSA,SA,HA
9BC BENGALIg
 NUKTA,AVAGRAHA
9BE BENGALI VOWELg
 AA,I,II,U,UU,VOCALIC R,VOCALIC RR,,,E,AI,,,O,AU
9CD BENGALI
 gVIRAMA,lKHANDA TA,,,,,,,,,AU LENGTHm,,,,,lRRA,lRHA,,lYYA,lVOCALIC RR,lVOCALIC LL
9E2 BENGALI VOWELgVOCALIC
 L,LL
9E6 BENGALI DIGIT
 ZERO,ONE,TWO,t,FOUR,FIVE,SIX,SEVEN,EIGHT,NINE
9F0 BENGALI
 lRAwMIDDLE DIAGONAL,lRAwLOWER DIAGONAL,RUPEEm,RUPEEg
9F4 BENGALI CURRENCY NUMERATOR
 ONE,TWO,t,FOUR,ONE LESS THAN THE DENOMINATOR
9F9 BENGALI
 CURRENCY DENOMINATOR SIXTEEN,ISSHAR,GANDAm,lVEDIC ANUSVARA,ABBREVIATIONg,SANDHIm
A01 GURMUKHIg
 ADAK BINDI,BINDI,VISARGA
A05 GURMUKHIl
 A,AA,I,II,U,UU,,,,,EE,AI,,,OO,AU,KA,KHA,GA,GHA,NGA,CA,CHA,JA,JHA,NYA,TTA,TTHA,DDA,DDHA,NNA,TA,THA
 DA,DHA,NA,,PA,PHA,BA,BHA,MA,YA,RA,,LA,LLA,,VA,SHA,,SA,HA
A3C
 GURMUKHIgNUKTA
A3E GURMUKHI VOWELg
 AA,I,II,U,UU,,,,,EE,AI,,,OO,AU
A4D GURMUKHI
 gVIRAMA,,,,gUDAAT,,,,,,,,lKHHA,lGHHA,lZA,lRRA,,lFA
A66 GURMUKHI DIGIT
 ZERO,ONE,TWO,t,FOUR,FIVE,SIX,SEVEN,EIGHT,NINE
A70 GURMUKHI
 TIPPI,ADDAK,IRI,URA,EK ONKAR,gYAKASH,ABBREVIATIONg
A81 GUJARATI
 gCANDRABINDU,gANUSVARA,gVISARGA,,lA,lAA,lI,lII,lU,lUU,lVOCALIC R,lVOCALIC L,VOWEL CANDRA E,,lE,lAI
 VOWEL CANDRA O
A93 GUJARATIl
 O,AU,KA,KHA,GA,GHA,NGA,CA,CHA,JA,JHA,NYA,TTA,TTHA,DDA,DDHA,NNA,TA,THA,DA,DHA,NA,,PA,PHA,BA,BHA,MA
 YA,RA,,LA,LLA,,VA,SHA,SSA,SA,HA
ABC GUJARATIg
 NUKTA,AVAGRAHA
ABE GUJARATI VOWELg
 AA,I,II,U,UU,VOCALIC R,VOCALIC RR,CANDRA E,,E,AI,CANDRA O,,O,AU
ACD GUJARATI
 gVIRAMA,,,OM
AE0 GUJARATIlVOCALIC
 RR,LL
AE2 GUJARATI VOWELgVOCALIC
 L,LL
AE6 GUJARATI DIGIT
 ZERO,ONE,TWO,t,FOUR,FIVE,SIX,SEVEN,EIGHT,NINE
AF0 GUJARATI
 ABBREVIATIONg,RUPEEg,,,,,,,,lZHA,gSUKUN,gSHADDA,gMADDAH,gTHREE-DOT NUKTAe,gCIRCLE NUKTAe
 gTWO-CIRCLE NUKTAe
B01 ORIYAg
 CANDRABINDU,ANUSVARA,VISARGA
B05 ORIYAl
 A,AA,I,II,U,UU,VOCALIC R,VOCALIC L,,,E,AI,,,O,AU,KA,KHA,GA,GHA,NGA,CA,CHA,JA,JHA,NYA,TTA,TTHA,DDA
 DDHA,NNA,TA,THA,DA,DHA,NA,,PA,PHA,BA,BHA,MA,YA,RA,,LA,LLA,,VA,SHA,SSA,SA,HA
B3C ORIYAg
 NUKTA,AVAGRAHA
B3E ORIYA VOWELg
 AA,I,II,U,UU,VOCALIC R,VOCALIC RR,,,E,AI,,,O,AU
B4D ORIYA
 gVIRAMA,,,,,,,,gOVERLINE,AI LENGTHm,AU LENGTHm,,,,,lRRA,lRHA,,lYYA,lVOCALIC RR,lVOCALIC LL
B62 ORIYA VOWELgVOCALIC
 L,LL
B66 ORIYA DIGIT
 ZERO,ONE,TWO,t,FOUR,FIVE,SIX,SEVEN,EIGHT,NINE
B70 ORIYA
 ISSHAR,lWA
B72 ORIYA FRACTION
 ONE QUARTER,ONE HALF,tQUARTERS,ONE SIXTEENTH,ONE EIGHTH,tSIXTEENTHS
B82 TAMILg
 ANUSVARA,VISARGA
B85 TAMILl
 A,AA,I,II,U,UU,,,,E,EE,AI,,O,OO,AU,KA,,,,NGA,CA,,JA,,NYA,TTA,,,,NNA,TA,,,,NA,NNNA,PA,,,,MA,YA,RA
 RRA,LA,LLA,LLLA,VA,SHA,SSA,SA,HA
BBE TAMIL VOWELg
 AA,I,II,U,UU,,,,E,EE,AI,,O,OO,AU
BCD TAMIL
 gVIRAMA,,,OM,,,,,,,AU LENGTHm
BE6 TAMIL DIGIT
 ZERO,ONE,TWO,t,FOUR,FIVE,SIX,SEVEN,EIGHT,NINE
BF0 TAMIL NUMBER
 TEN,ONE HUNDRED,ONE THOUSAND
BF3 TAMIL
 DAYg,MONTHg,YEARg,DEBITg,CREDITg,ASeg,RUPEEg,NUMBERg
C00 TELUGUg
 COMBINING CANDRABINDUe,CANDRABINDU,ANUSVARA,VISARGA,COMBINING ANUSVARAe
C05 TELUGUl
 A,AA,I,II,U,UU,VOCALIC R,VOCALIC L,,E,EE,AI,,O,OO,AU,KA,KHA,GA,GHA,NGA,CA,CHA,JA,JHA,NYA,TTA,TTHA
 DDA,DDHA,NNA,TA,THA,DA,DHA,NA,,PA,PHA,BA,BHA,MA,YA,RA,RRA,LA,LLA,LLLA,VA,SHA,SSA,SA,HA
C3C TELUGUg
 NUKTA,AVAGRAHA
C3E TELUGU VOWELg
 AA,I,II,U,UU,VOCALIC R,VOCALIC RR,,E,EE,AI,,O,OO,AU
C4D TELUGU
 gVIRAMA,,,,,,,,LENGTHm,AI LENGTHm,,lTSA,lDZA,lRRRA,,,lNAKAARA POLLU
C60 TELUGUlVOCALIC
 RR,LL
C62 TELUGU VOWELgVOCALIC
 L,LL
C66 TELUGU DIGIT
 ZERO,ONE,TWO,t,FOUR,FIVE,SIX,SEVEN,EIGHT,NINE
C77
 TELUGUgSIDDHAM
C78 TELUGU FRACTION DIGIT
 ZERO FOR ODD POWERS OF FOUR,ONE FOR ODD POWERS OF FOUR,TWO FOR ODD POWERS OF FOUR
 tFOR ODD POWERS OF FOUR,ONE FOR EVEN POWERS OF FOUR,TWO FOR EVEN POWERS OF FOUR
 tFOR EVEN POWERS OF FOUR
C7F
 TELUGUgTUUMU
C80 KANNADAg
 SPACING CANDRABINDU,CANDRABINDU,ANUSVARA,VISARGA,SIDDHAM
C85 KANNADAl
 A,AA,I,II,U,UU,VOCALIC R,VOCALIC L,,E,EE,AI,,O,OO,AU,KA,KHA,GA,GHA,NGA,CA,CHA,JA,JHA,NYA,TTA,TTHA
 DDA,DDHA,NNA,TA,THA,DA,DHA,NA,,PA,PHA,BA,BHA,MA,YA,RA,RRA,LA,LLA,,VA,SHA,SSA,SA,HA
CBC KANNADAg
 NUKTA,AVAGRAHA
CBE KANNADA VOWELg
 AA,I,II,U,UU,VOCALIC R,VOCALIC RR,,E,EE,AI,,O,OO,AU
CCD KANNADA
 gVIRAMA,,,,,,,,LENGTHm,AI LENGTHm,,,,,,,lNAKAARA POLLU,lFA,,lVOCALIC RR,lVOCALIC LL
CE2 KANNADA VOWELgVOCALIC
 L,LL
CE6 KANNADA DIGIT
 ZERO,ONE,TWO,t,FOUR,FIVE,SIX,SEVEN,EIGHT,NINE
CF1 KANNADAg
 JIHVAMULIYA,UPADHMANIYA
D00 MALAYALAMg
 COMBINING ANUSVARAe,CANDRABINDU,ANUSVARA,VISARGA
D04 MALAYALAMl
 VEDIC ANUSVARA,A,AA,I,II,U,UU,VOCALIC R,VOCALIC L,,E,EE,AI,,O,OO,AU,KA,KHA,GA,GHA,NGA,CA,CHA,JA,JHA
 NYA,TTA,TTHA,DDA,DDHA,NNA,TA,THA,DA,DHA,NA,NNNA,PA,PHA,BA,BHA,MA,YA,RA,RRA,LA,LLA,LLLA,VA,SHA,SSA
 SA,HA,TTTA
D3B MALAYALAMg
 vBAR VIRAMA,CIRCULAR VIRAMA,AVAGRAHA
D3E MALAYALAM VOWELg
 AA,I,II,U,UU,VOCALIC R,VOCALIC RR,,E,EE,AI,,O,OO,AU
D4D MALAYALAM
 gVIRAMA,lDOT REPH,gPARA,,,,,lCHILLU M,lCHILLU Y,lCHILLU LLL,AU LENGTHm
D58 MALAYALAM FRACTION
 ONE ONE-HUNDRED-AND-SIXTIETH,ONE FORTIETH,tEIGHTIETHS,ONE TWENTIETH,ONE TENTH,tTWENTIETHS,ONE FIFTH
D5F MALAYALAMl
 ARCHAIC II,VOCALIC RR,VOCALIC LL
D62 MALAYALAM VOWELgVOCALIC
 L,LL
D66 MALAYALAM DIGIT
 ZERO,ONE,TWO,t,FOUR,FIVE,SIX,SEVEN,EIGHT,NINE
D70 MALAYALAM NUMBER
 TEN,ONE HUNDRED,ONE THOUSAND
D73 MALAYALAM FRACTION
 ONE QUARTER,ONE HALF,tQUARTERS,ONE SIXTEENTH,ONE EIGHTH,tSIXTEENTHS
D79 MALAYALAM
 DATEm
D7A MALAYALAMlCHILLU
 NN,N,RR,L,LL,K
D81 SINHALAg
 CANDRABINDU,ANUSVARAYA,VISARGAYA
D85 SINHALAl
 AYANNA,AAYANNA,AEYANNA,AEEYANNA,IYANNA,IIYANNA,UYANNA,UUYANNA,IRUYANNA,IRUUYANNA,ILUYANNA,ILUUYANNA
 EYANNA,EEYANNA,AIYANNA,OYANNA,OOYANNA,AUYANNA,,,,ALPAPRAANA KAYANNA,MAHAAPRAANA KAYANNA
 ALPAPRAANA GAYANNA,MAHAAPRAANA GAYANNA,KANTAJA NAASIKYAYA,SANYAKA GAYANNA,ALPAPRAANA CAYANNA
 MAHAAPRAANA CAYANNA,ALPAPRAANA JAYANNA,MAHAAPRAANA JAYANNA,TAALUJA NAASIKYAYA
 TAALUJA SANYOOGA NAAKSIKYAYA,SANYAKA JAYANNA,ALPAPRAANA TTAYANNA,MAHAAPRAANA TTAYANNA
 ALPAPRAANA DDAYANNA,MAHAAPRAANA DDAYANNA,MUURDHAJA NAYANNA,SANYAKA DDAYANNA,ALPAPRAANA TAYANNA
 MAHAAPRAANA TAYANNA,ALPAPRAANA DAYANNA,MAHAAPRAANA DAYANNA,DANTAJA NAYANNA,,SANYAKA DAYANNA
 ALPAPRAANA PAYANNA,MAHAAPRAANA PAYANNA,ALPAPRAANA BAYANNA,MAHAAPRAANA BAYANNA,MAYANNA,AMBA BAYANNA
 YAYANNA,RAYANNA,,DANTAJA LAYANNA,,,VAYANNA,TAALUJA SAYANNA,MUURDHAJA SAYANNA,DANTAJA SAYANNA
 HAYANNA,MUURDHAJA LAYANNA,FAYANNA
DCA
 SINHALAgAL-LAKUNA
DCF SINHALA VOWELg
 AELA-PILLA,KETTI AEDA-PILLA,DIGA AEDA-PILLA,KETTI IS-PILLA,DIGA IS-PILLA,KETTI PAA-PILLA,
 DIGA PAA-PILLA,,GAETTA-PILLA,KOMBUVA,DIGA KOMBUVA,KOMBU DEKA,KOMBUVA HAA AELA-PILLA
 KOMBUVA HAA DIGA AELA-PILLA,KOMBUVA HAA GAYANUKITTA,GAYANUKITTA
DE6 SINHALA LITH DIGIT
 ZERO,ONE,TWO,t,FOUR,FIVE,SIX,SEVEN,EIGHT,NINE
DF2 SINHALA
 VOWELgDIGA GAETTA-PILLA,VOWELgDIGA GAYANUKITTA,PUNCTUATION KUNDDALIYA
E01 THAI CHARACTER
 KO KAI,KHO KHAI,KHO KHUAT,KHO KHWAI,KHO KHON,KHO RAKHANG,NGO NGU,CHO CHAN,CHO CHING,CHO CHANG,SO SO
 CHO CHOE,YO YING,DO CHADA,TO PATAK,THO THAN,THO NANGMONTHO,THO PHUTHAO,NO NEN,DO DEK,TO TAO
 THO THUNG,THO THAHAN,THO THONG,NO NU,BO BAIMAI,PO PLA,PHO PHUNG,FO FA,PHO PHAN,FO FAN,PHO SAMPHAO
 MO MA,YO YAK,RO RUA,RU,LO LING,LU,WO WAEN,SO SALA,SO RUSI,SO SUA,HO HIP,LO CHULA,O ANG,HO NOKHUK
 PAIYANNOI,SARA A,MAI HAN-AKAT
E32 THAI CHARACTER SARA
 AA,AM,I,II,UE,UEE,U,UU
E3A THAI
 CHARACTER PHINTHU,,,,,CURRENCYuBAHT
E40 THAI CHARACTER SARA
 E,AE,O,AI MAIMUAN,AI MAIMALAI
E45 THAI CHARACTER
 LAKKHANGYAO,MAIYAMOK,MAITAIKHU,MAI EK,MAI THO,MAI TRI,MAI CHATTAWA,THANTHAKHAT,NIKHAHIT,YAMAKKAN
 FONGMAN
E50 THAI DIGIT
 ZERO,ONE,TWO,t,FOUR,FIVE,SIX,SEVEN,EIGHT,NINE
E5A THAI CHARACTER
 ANGKHANKHU,KHOMUT
E81 LAOl
 KO,KHO SUNG,,KHO TAM,,PALI GHA,NGO,CO,PALI CHA,SO TAM,,PALI JHA,NYO
E8E LAOlPALI
 NYA,TTA,TTHA,DDA,DDHA,NNA
E94 LAOl
 DO,TO,THO SUNG,THO TAM,PALI DHA,NO,BO,PO,PHO SUNG,FO TAM,PHO TAM,FO SUNG,PALI BHA,MO,YO,LO LING,
 LO LOOT,,WO,SANSKRIT SHA,SANSKRIT SSA,SO SUNG,HO SUNG,PALI LLA,O,HO TAM
EAF LAO
 ELLIPSIS
EB0 LAO VOWELg
 A,MAI KAN,AA,AM,I,II,Y,YY,U,UU
EBA LAO
 gPALI VIRAMA,VOWELgMAI KON
EBC LAO SEMIVOWELg
 LO,NYO
EC0 LAO VOWELg
 E,EI,O,AY,AI
EC6 LAO KO
 LA
EC8 LAO TONE MAI
 EK,THO,TI,CATAWA
ECC LAO
 CANCELLATIONm,NIGGAHITA
ED0 LAO DIGIT
 ZERO,ONE,TWO,t,FOUR,FIVE,SIX,SEVEN,EIGHT,NINE
EDC LAO HO
 NO,MO
EDE LAOlKHMU
 GO,NYO
F00 TIBETAN SYLLABLE
 OM
F01 TIBETANmGTER YIG MGO
 TRUNCATED A,-UM RNAM BCAD MA,-UM GTER TSHEG MA
F04 TIBETANm
 iYIG MGO MDUN MA,CLOSING YIG MGO SGAB MA,CARET YIG MGO PHUR SHAD MA,YIG MGO TSHEG SHAD MA
 SBRUL SHAD,BSKUR YIG MGO,BKA- SHOG YIG MGO,INTERSYLLABIC TSHEG,DELIMITER TSHEG BSTAR,SHAD,NYIS SHAD
 TSHEG SHAD,NYIS TSHEG SHAD,RIN CHEN SPUNGS SHAD,RGYA GRAM SHAD,CARET -DZUD RTAGS ME LONG CAN
 GTER TSHEG
F15 TIBETAN LOGOTYPEg
 CHAD RTAGS,LHAG RTAGS
F17 TIBETAN ASTROLOGICALg
 SGRA GCAN -CHAR RTAGS,-KHYUD PA,SDONG TSHUGS
F1A TIBETANgRDEL
 DKAR GCIG,DKAR GNYIS,DKAR GSUM,NAG GCIG,NAG GNYIS,DKAR RDEL NAG
F20 TIBETAN DIGIT
 ZERO,ONE,TWO,t,FOUR,FIVE,SIX,SEVEN,EIGHT,NINE
F2A TIBETAN DIGIT HALF
 ONE,TWO,t,FOUR,FIVE,SIX,SEVEN,EIGHT,NINE,ZERO
F34 TIBETAN
 mBSDUS RTAGS,mNGAS BZUNG NYI ZLA,mCARET -DZUD RTAGS BZHI MIG CAN,mNGAS BZUNG SGOR RTAGS,mCHE MGO
 mTSA -PHRU,mGUG RTAGS GYON,mGUG RTAGS GYAS,mANG KHANG GYON,mANG KHANG GYAS,gYAR TSHES,gMAR TSHES
F40 TIBETANl
 KA,KHA,GA,GHA,NGA,CA,CHA,JA,,NYA,TTA,TTHA,DDA,DDHA,NNA,TA,THA,DA,DHA,NA,PA,PHA,BA,BHA,MA,TSA,TSHA
 DZA,DZHA,WA,ZHA,ZA,-A,YA,RA,LA,SHA,SSA,SA,HA,A,KSSA,FIXED-FORM RA,KKA,RRA
F71 TIBETAN VOWELg
 AA,I,II,U,UU,VOCALIC R,VOCALIC RR,VOCALIC L,VOCALIC LL,E,EE,O,OO
F7E TIBETAN
 gRJES SU NGA RO,gRNAM BCAD,VOWELgREVERSED I,VOWELgREVERSED II,gNYI ZLA NAA DA,gSNA LDAN,mHALANTA
 mPALUTA,gLCI RTAGS,gYANG RTAGS,gLCE TSA CAN,gMCHU CAN,gGRU CAN RGYINGS,gGRU MED RGYINGS
 gINVERTED MCHU CAN
F8D TIBETAN SUBJOINEDg
 LCE TSA CAN,MCHU CAN,INVERTED MCHU CAN
F90 TIBETAN SUBJOINEDl
 KA,KHA,GA,GHA,NGA,CA,CHA,JA,,NYA,TTA,TTHA,DDA,DDHA,NNA,TA,THA,DA,DHA,NA,PA,PHA,BA,BHA,MA,TSA,TSHA
 DZA,DZHA,WA,ZHA,ZA,-A,YA,RA,LA,SHA,SSA,SA,HA,A,KSSA,FIXED-FORM WA,FIXED-FORM YA,FIXED-FORM RA
FBE TIBETAN KU RU
 KHA,KHA BZHI MIG CAN
FC0 TIBETAN CANTILLATIONg
 HEAVY BEAT,LIGHT BEAT,CANG TE-U,SBUB -CHAL
FC4 TIBETAN
 uDRIL BU,uRDO RJE,uPADMA GDAN,uRDO RJE RGYA GRAM,uPHUR PA,uNOR BU,uNOR BU NYIS -KHYIL
 uNOR BU GSUM -KHYIL,uNOR BU BZHI -KHYIL,,gRDEL NAG RDEL DKAR,gRDEL NAG GSUM
 mBSKA- SHOG GI MGO RGYAN,mMNYAM YIG GI MGO RGYAN,mNYIS TSHEG,miBRDA RNYING YIG MGO MDUN MA
 mCLOSING BRDA RNYING YIG MGO SGAB MA
FD5
 RIGHT-FACING SVASTIg,LEFT-FACING SVASTIg,RIGHT-FACING SVASTIgwDOTS,LEFT-FACING SVASTIgwDOTS
FD9 TIBETANm
 LEADING MCHAN RTAGS,TRAILING MCHAN RTAGS"

end Throws.Text.CharacterNames
