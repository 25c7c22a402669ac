/-!
# Names of Middle Eastern scripts

Hebrew, Arabic, Syriac, Thaana and their neighbours.
-/

namespace Throws.Text.CharacterNames

/-- Characters from U+0590 to U+08FF. -/
def middleEastern : String := "591 HEBREW ACCENT
 ETNAHTA,SEGOL,SHALSHELET,ZAQEF QATAN,ZAQEF GADOL,TIPEHA,REVIA,ZARQA,PASHTA,YETIV,TEVIR,GERESH
 GERESH MUQDAM,GERSHAYIM,QARNEY PARA,TELISHA GEDOLA,PAZER,ATNAH HAFUKH,MUNAH,MAHAPAKH,MERKHA
 MERKHA KEFULA,DARGA,QADMA,TELISHA QETANA,YERAH BEN YOMO,OLE,ILUY,DEHI,ZINOR
5AF HEBREWmMASORA
 CIRCLE
5B0 HEBREW POINT
 SHEVA,HATAF SEGOL,HATAF PATAH,HATAF QAMATS,HIRIQ,TSERE,SEGOL,PATAH,QAMATS,HOLAM,HOLAM HASER FOR VAV
 QUBUTS,DAGESH OR MAPIQ,METEG
5BE HEBREW
 PUNCTUATION MAQAF,POINT RAFE,PUNCTUATION PASEQ,POINT SHIN DOT,POINT SIN DOT,PUNCTUATION SOF PASUQ
 mUPPER DOT,mLOWER DOT,PUNCTUATION NUN HAFUKHA,POINT QAMATS QATAN
5D0 HEBREWl
 ALEF,BET,GIMEL,DALET,HE,VAV,ZAYIN,HET,TET,YOD,oKAF,KAF,LAMED,oMEM,MEM,oNUN,NUN,SAMEKH,AYIN,oPE,PE
 oTSADI,TSADI,QOF,RESH,SHIN,TAV
5EF HEBREW YOD
 TRIANGLE
5F0 HEBREW LIGATURE YIDDISH
 dVAV,VAV YOD,dYOD
5F3 HEBREW PUNCTUATION
 GERESH,GERSHAYIM
600 ARABIC
 NUMBERg,gSANAH,FOOTNOTE MARKER,gSAFHA,gSAMVAT,NUMBERme
606 ARABIC-INDIC
 CUBE ROOT,FOURTH ROOT
608 ARABIC
 RAY
609 ARABIC-INDIC PER
 MILLEg,TEN THOUSANDg
60B
 AFGHANIg
60C ARABIC
 COMMA,DATE SEPARATOR,POETIC VERSEg,gMISRA,gSALLALLAHOU ALAYHE WASSALLAM,gALAYHE ASSALLAM
 gRAHMATULLAH ALAYHE,gRADI ALLAHOU ANHU,gTAKHALLUS,sHIGH TAH,sHIGH LIGATURE ALEFwLAMwYEH,sHIGH ZAIN
 sFATHA,sDAMMA,sKASRA,SEMICOLON,lm,END OF TEXTm,TRIPLE DOT PUNCTUATIONm,QUESTIONm
620 ARABICl
 KASHMIRI YEH,HAMZA,ALEFwMADDAe,ALEFwHAMZAe,WAWwHAMZAe,ALEFwHAMZAb,YEHwHAMZAe,ALEF,BEH,TEH MARBUTA
 TEH,THEH,JEEM,HAH,KHAH,DAL,THAL,REH,ZAIN,SEEN,SHEEN,SAD,DAD,TAH,ZAH,AIN,GHAIN,KEHEHwTWO DOTSe
 KEHEHwtDOTSb
63D ARABIClFARSI YEHw
 INVERTED V,TWO DOTSe,tDOTSe
640 ARABIC
 TATWEEL,lFEH,lQAF,lKAF,lLAM,lMEEM,lNOON,lHEH,lWAW,lALEF MAKSURA,lYEH,FATHATAN,DAMMATAN,KASRATAN
 FATHA,DAMMA,KASRA,SHADDA,SUKUN,MADDAHe,HAMZAe,HAMZAb,SUBSCRIPT ALEF,INVERTED DAMMA,mNOON GHUNNA
 ZWARAKAY,VOWELgsVe,VOWELgINVERTEDsVe,VOWELgDOTb,REVERSED DAMMA,FATHAwTWO DOTS,WAVY HAMZAb
660 ARABIC-INDIC DIGIT
 ZERO,ONE,TWO,t,FOUR,FIVE,SIX,SEVEN,EIGHT,NINE
66A ARABIC
 PERCENTg,DECIMAL SEPARATOR,THOUSANDS SEPARATOR,FIVE POINTED STAR
66E ARABICl
 DOTLESS BEH,DOTLESS QAF,SUPERSCRIPT ALEF,ALEF WASLA,ALEFwWAVY HAMZAe,ALEFwWAVY HAMZAb,HIGH HAMZA
 HIGH HAMZA ALEF,HIGH HAMZA WAW,UwHAMZAe,HIGH HAMZA YEH,TTEH,TTEHEH,BEEH,TEHwRING
 TEHwtDOTSeDOWNWARDS,PEH,TEHEH,BEHEH,HAHwHAMZAe,HAHwTWO DOTSve,NYEH,DYEH,HAHwtDOTSe,TCHEH,TCHEHEH
 DDAL,DALwRING,DALwDOTb,DALwDOTbnsTAH,DAHAL,DDAHAL,DUL,DALwtDOTSeDOWNWARDS,DALwFOUR DOTSe,RREH
 REHwsV,REHwRING,REHwDOTb,REHwsVb,REHwDOTbnDOTe,REHwTWO DOTSe,JEH,REHwFOUR DOTSe,SEENwDOTbnDOTe
 SEENwtDOTSb,SEENwtDOTSbntDOTSe,SADwTWO DOTSb,SADwtDOTSe,TAHwtDOTSe,AINwtDOTSe,DOTLESS FEH
 FEHwDOT MOVEDb,FEHwDOTb,VEH,FEHwtDOTSb,PEHEH,QAFwDOTe,QAFwtDOTSe,KEHEH,SWASH KAF,KAFwRING,KAFwDOTe
 NG,KAFwtDOTSb,GAF,GAFwRING,NGOEH,GAFwTWO DOTSb,GUEH,GAFwtDOTSe,LAMwsV,LAMwDOTe,LAMwtDOTSe
 LAMwtDOTSb,NOONwDOTb,NOON GHUNNA,RNOON,NOONwRING,NOONwtDOTSe,HEH DOACHASHMEE,TCHEHwDOTe,HEHwYEHe
 HEH GOAL,HEH GOALwHAMZAe,TEH MARBUTA GOAL,WAWwRING,KIRGHIZ OE,OE,U,YU,KIRGHIZ YU,WAWwTWO DOTSe,VE
 FARSI YEH,YEHwTAIL,YEHwsV,WAWwDOTe,E,YEHwtDOTSb,YEH BARREE,YEH BARREEwHAMZAe
6D4 ARABIC
 FULL STOP,lAE
6D6 ARABICsHIGH
 LIGATURE SADwLAMwALEF MAKSURA,LIGATURE QAFwLAMwALEF MAKSURA,MEEMif,LAM ALEF,JEEM,tDOTS,SEEN
6DD ARABIC
 END OF AYAH,START OF RUB EL HIZB,sHIGH ROUNDED ZERO,sHIGH UPRIGHT RECTANGULAR ZERO
 sHIGH DOTLESS HEAD OF KHAH,sHIGH MEEMjf,sLOW SEEN,sHIGH MADDA,sWAW,sYEH,sHIGH YEH,sHIGH NOON
 PLACE OF SAJDAH,EMPTY CENTRE LOW STOP,EMPTY CENTRE HIGH STOP,ROUNDED HIGH STOPwFILLED CENTRE
 sLOW MEEM,lDALwINVERTED V,lREHwINVERTED V
6F0 EXTENDED ARABIC-INDIC DIGIT
 ZERO,ONE,TWO,t,FOUR,FIVE,SIX,SEVEN,EIGHT,NINE
6FA ARABIC
 lSHEENwDOTb,lDADwDOTb,lGHAINwDOTb,gSINDHI AMPERSAND,gSINDHI POSTPOSITION MEN,lHEHwINVERTED V
700 SYRIAC
 END OF PARAGRAPH,SUPRALINEAR FULL STOP,SUBLINEAR FULL STOP,SUPRALINEAR COLON,SUBLINEAR COLON
 HORIZONTAL COLON,COLON SKEWEDx,COLON SKEWEDr,SUPRALINEAR COLON SKEWEDx,SUBLINEAR COLON SKEWEDr
 CONTRACTION,HARKLEAN OBELUS,HARKLEAN METOBELUS,HARKLEAN ASTERISCUS,,ABBREVIATIONm
710 SYRIACl
 ALAPH,SUPERSCRIPT ALAPH,BETH,GAMAL,GAMAL GARSHUNI,DALATH,DOTLESS DALATH RISH,HE,WAW,ZAIN,HETH,TETH
 TETH GARSHUNI,YUDH,YUDH HE,KAPH,LAMADH,MIM,NUN,SEMKATH,oSEMKATH,E,PE,REVERSED PE,SADHE,QAPH,RISH
 SHIN,TAW
72D SYRIAClPERSIAN
 BHETH,GHAMAL,DHALATH
730 SYRIAC PTHAHA
 e,b,DOTTED
733 SYRIAC ZQAPHA
 e,b,DOTTED
736 SYRIAC
 RBASAe,RBASAb,DOTTED ZLAMA HORIZONTAL,DOTTED ZLAMA ANGULAR,HBASAe,HBASAb,HBASA-ESASA DOTTED,ESASAe
 ESASAb,RWAHA,FEMININE DOT,QUSHSHAYA,RUKKAKHA,TWOvDOTSe,TWOvDOTSb,tDOTSe,tDOTSb,OBLIQUE LINEe
 OBLIQUE LINEb,MUSIC,BARREKH
74D SYRIAClSOGDIAN
 ZHAIN,KHAPH,FE
750 ARABIClBEHw
 tDOTS HORIZONTALLYb,DOTbntDOTSe,tDOTS POINTING UPWARDSb,tDOTS POINTING UPWARDSbnTWO DOTSe
 TWO DOTSbnDOTe,INVERTEDsVb,sV
757 ARABICl
 HAHwTWO DOTSe,HAHwtDOTS POINTING UPWARDSb,DALwTWO DOTS VERTICALLYbnsTAH,DALwINVERTEDsVb,REHwp
 SEENwFOUR DOTSe,AINwTWO DOTSe,AINwtDOTS POINTING DOWNWARDSe,AINwTWO DOTS VERTICALLYe,FEHwTWO DOTSb
 FEHwtDOTS POINTING UPWARDSb,KEHEHwDOTe,KEHEHwtDOTSe,KEHEHwtDOTS POINTING UPWARDSb,MEEMwDOTe
 MEEMwDOTb,NOONwTWO DOTSb,NOONwsTAH,NOONwsV,LAMwBAR,REHwTWO DOTS VERTICALLYe,REHwHAMZAe
 SEENwTWO DOTS VERTICALLYe,HAHwsARABIClTAHb,HAHwsARABIClTAHnTWO DOTS,SEENwsARABIClTAHnTWO DOTS
 REHwsARABIClTAHnTWO DOTS,HAHwsARABIClTAHe
773 ARABIClALEFwEXTENDED ARABIC-INDIC DIGIT
 TWOe,te
775 ARABIClFARSI YEHwEXTENDED ARABIC-INDIC DIGIT
 TWOe,te,FOURb
778 ARABIClWAWwEXTENDED ARABIC-INDIC DIGIT
 TWOe,te
77A ARABIClYEH BARREEwEXTENDED ARABIC-INDIC DIGIT
 TWOe,te
77C ARABICl
 HAHwEXTENDED ARABIC-INDIC DIGIT FOURb,SEENwEXTENDED ARABIC-INDIC DIGIT FOURe,SEENwINVERTED V
 KAFwTWO DOTSe
780 THAANAl
 HAA,SHAVIYANI,NOONU,RAA,BAA,LHAVIYANI,KAAFU,ALIFU,VAAVU,MEEMU,FAAFU,DHAALU,THAA,LAAMU,GAAFU
 GNAVIYANI,SEENU,DAVIYANI,ZAVIYANI,TAVIYANI,YAA,PAVIYANI,JAVIYANI,CHAVIYANI,TTAA,HHAA,KHAA,THAALU
 ZAA,SHEENU,SAADHU,DAADHU,TO,ZO,AINU,GHAINU,QAAFU,WAAVU
7A6 THAANA
 ABAFILI,AABAAFILI,IBIFILI,EEBEEFILI,UBUFILI,OOBOOFILI,EBEFILI,EYBEYFILI,OBOFILI,OABOAFILI,SUKUN
 lNAA
7C0 NKO DIGIT
 ZERO,ONE,TWO,t,FOUR,FIVE,SIX,SEVEN,EIGHT,NINE
7CA NKOl
 A,EE,I,E,U,OO,O,DAGBASINNA,N,BA,PA,TA,JA,CHA,DA,RA,RRA,SA,GBA,FA,KA,LA,NA WOLOSO,MA,NYA,NA,HA,WA,YA
 NYA WOLOSO
7E8 NKOlJONA
 JA,CHA,RA
7EB NKO COMBINING
 SHORT HIGH TONE,SHORT LOW TONE,SHORT RISING TONE,LONG DESCENDING TONE,LONG HIGH TONE,LONG LOW TONE
 LONG RISING TONE,NASALIZATIONm,dDOTe
7F4 NKO
 HIGH TONE APOSTROPHE,LOW TONE APOSTROPHE,uOO DENNEN,uGBAKURUNEN,COMMA,EXCLAMATIONm,LAJANYALAN,,
 DANTAYALAN,DOROMEg,TAMANg
800 SAMARITANl
 ALAF,BIT,GAMAN,DALAT,IY,BAA,ZEN,IT,TIT,YUT,KAAF,LABAT,MIM,NUN,SINGAAT,IN,FI,TSAADIY,QUF,RISH,SHAN
 TAAF
816 SAMARITAN
 mIN,mIN-ALAF,mOCCLUSION,mDAGESH,MODIFIERlEPENTHETIC YUT,mEPENTHETIC YUT
81C SAMARITAN VOWELg
 LONG E,E,OVERLONG AA,LONG AA,AA,OVERLONG A,LONG A,A
824 SAMARITAN
 MODIFIERlSHORT A,VOWELgSHORT A,VOWELgLONG U,VOWELgU,MODIFIERlI,VOWELgLONG I,VOWELgI,VOWELgO
 VOWELgSUKUN,mNEQUDAA
830 SAMARITAN PUNCTUATION
 NEQUDAA,AFSAAQ,ANGED,BAU,ATMAAU,SHIYYAALAA
836 SAMARITAN
 ABBREVIATIONm
837 SAMARITAN PUNCTUATION
 MELODIC QITSA,ZIQAA,QITSA,ZAEF,TURU,ARKAANU,SOF MASHFAAT,ANNAAU
840 MANDAICl
 HALQA,AB,AG,AD,AH,USHENNA,AZ,IT,ATT,AKSA,AK,AL,AM,AN,AS,IN,AP,ASZ,AQ,AR,ASH,AT,DUSHENNA,KAD,AIN
859 MANDAIC
 AFFRICATIONm,VOCALIZATIONm,GEMINATIONm,,,PUNCTUATION
860 SYRIAClMALAYALAM
 NGA,JA,NYA,TTA,NNA,NNNA,BHA,RA,LLA,LLLA,SSA
870 ARABIClALEFw
 ATTACHED FATHA,ATTACHED TOPrFATHA,rMIDDLEp,xMIDDLEp
874 ARABIClALEFwATTACHED
 KASRA,BOTTOMrKASRA,ROUND DOTe,rROUND DOT,xROUND DOT,ROUND DOTb
87A ARABIClALEFw
 DOTe,ATTACHED TOPrFATHAnDOTe,rMIDDLEpnDOTe,ATTACHED BOTTOMrKASRAnDOTe,ATTACHED TOPrFATHAnxRING
 rMIDDLEpnxRING,ATTACHED BOTTOMrKASRAnxRING,ATTACHEDrHAMZA,ATTACHEDxHAMZA
883 ARABIC TATWEELwOVERSTRUCK
 HAMZA,WAW
885 ARABIC
 TATWEELwTWO DOTSb,lTHIN YEH,BASELINE ROUND DOT,RAISED ROUND DOT,lNOONwINVERTEDsV,lHAHwINVERTEDsVb
 lTAHwDOTb,lTAHwtDOTSb,lKEHEHwTWO DOTS VERTICALLYb,vTAIL,,POUNDme,PIASTREme,,,,,,,sHIGH WORD AL-JUZ
 sLOW WORD ISHMAAM,sLOW WORD IMAALA,sLOW WORD TASHEEL,MADDA WAAJIB,SUPERSCRIPT ALEF MOKHASSAS
 DOUBLED MADDA,HALF MADDA OVER MADDA
8A0 ARABICl
 BEHwsVb,BEHwHAMZAe,JEEMwTWO DOTSe,TAHwTWO DOTSe,FEHwDOTbntDOTSe,QAFwDOTb,LAMwdBAR,MEEMwtDOTSe
 YEHwTWO DOTSbnHAMZAe,YEHwTWO DOTSbnDOTe,REHwLOOP,WAWwDOT WITHIN,ROHINGYA YEH,LOW ALEF,DALwtDOTSb
 SADwtDOTSb,GAFwINVERTEDp,STRAIGHT WAW,ZAINwINVERTED Ve,AINwtDOTSb,KAFwDOTb,QAFwDOTbnNO DOTSe
 BEHwsMEEMe,PEHwsMEEMe,TEHwsTEHe,REHwsNOONe,YEHwTWO DOTSbnsNOONe,AFRICAN FEH,AFRICAN QAF
 AFRICAN NOON,PEHwsV,TEHwsV,TTEHwsV,TCHEHwsV,KEHEHwsV,GHAINwtDOTSe,AFRICAN QAFwtDOTSe,JEEMwtDOTSe
 JEEMwtDOTSb,LAMwsARABIClTAHe,GRAF
8C9 ARABIC
 sFARSI YEH,sHIGH FARSI YEH,sHIGH YEH BARREEwTWO DOTSb,sHIGH WORD SAH,sHIGH ZAH,LARGE ROUND DOTe
 LARGE ROUND DOTb,SUKUNb,LARGE CIRCLEb,LARGE ROUND DOT INSIDE CIRCLEb,sLOW WAW
8D4 ARABICsHIGH
 WORD AR-RUB,SAD,AIN,QAF,NOONwKASRA
8D9 ARABICsLOW
 NOONwKASRA
8DA ARABICsHIGH WORD
 ATH-THALATHA,AS-SAJDA,AN-NISF,SAKTA,QIF,WAQFA
8E0 ARABIC
 sHIGH FOOTNOTE MARKER,sHIGHgSAFHA,DISPUTED END OF AYAH,TURNED DAMMAb
8E4 ARABIC CURLY
 FATHA,DAMMA,KASRA,FATHATAN,DAMMATAN,KASRATAN
8EA ARABIC TONE
 ONE DOTe,TWO DOTSe,LOOPe,ONE DOTb,TWO DOTSb,LOOPb
8F0 ARABIC
 OPEN FATHATAN,OPEN DAMMATAN,OPEN KASRATAN,sHIGH WAW,FATHAwRING,FATHAwDOTe,KASRAwDOTb,xARROWHEADe
 rARROWHEADe,xARROWHEADb,rARROWHEADb,drARROWHEADe,drARROWHEADewDOT,rARROWHEADewDOT,DAMMAwDOT
 mSIDEWAYS NOON GHUNNA"

end Throws.Text.CharacterNames
