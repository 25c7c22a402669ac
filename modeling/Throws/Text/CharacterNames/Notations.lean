/-!
# Names of notations

Tangut components, shorthand, music, mathematical alphabets, sign writing and further scripts.
-/

namespace Throws.Text.CharacterNames

/-- Characters from U+17000 to U+1EFFF. -/
def notations : String := "18800 TANGUT
 COMPONENT-001~768
1AFF0 KATAKANAlMINNAN
 TONE-2~5,,TONE-7,TONE-8
1AFF7 KATAKANAlMINNAN NASALIZED
 TONE-1~5,,TONE-7,TONE-8
1B000
 KATAKANAlARCHAIC E,HIRAGANAlARCHAIC YE
1B002 HENTAIGANAl
 A-1~3,A-WO,I-1~4,U-1~5,E-2~6,O-1~3,KA-1~11,KA-KE,KI-1~8,KU-1~7,KE-1~6,KO-1~3,KO-KI,SA-1~8,SI-1~6
 SU-1~8,SE-1~5,SO-1~7,TA-1~4,TI-1~7,TU-1~4,TU-TO,TE-1~9,TO-1~6,TO-RA,NA-1~9,NI-1~7,NI-TE,NU-1~3
 NE-1~6,NE-KO,NO-1~5,HA-1~11,HI-1~7,HU-1~3,HE-1~7,HO-1~8,MA-1~7,MI-1~7,MU-1~4,ME-1,ME-2,ME-MA,MO-1~6
 YA-1~5,YA-YO,YU-1~4,YO-1~6,RA-1~4,RI-1~7,RU-1~6,RE-1~4,RO-1~6,WA-1~5,WI-1~5,WE-1~4,WO-1~7,N-MU-MO-1
 N-MU-MO-2
1B11F HIRAGANAlARCHAIC
 WU
1B120 KATAKANAlARCHAIC
 YI,YE,WU
1B150 HIRAGANAls
 WI,WE,WO
1B164 KATAKANAls
 WI,WE,WO,N
1BC00 DUPLOYANl
 H,X,P,T,F,K,L,B,D,V,G,R,P N,D S,F N,K M,R S,TH,SLOAN DH,DH,KK,SLOAN J,HL,LH,RH,M,N,J,S,M N,N M,J M
 S J,MwDOT,NwDOT,JwDOT,JwDOTS INSIDEne,SwDOT,SwDOTb,M S,N S,J S,S S,M N S,N M S,J M S,S J S,J SwDOT
 J N,J N S,S T,S T R,S P,S P R,T S,T R S,W,WH,W R,S N,S M,K R S,G R S,S K,S K R,A,SLOAN OW,OA,O,AOU
 I,E,IE,SHORT I,UI,EE,SLOAN EH,ROMANIAN I,SLOAN EE,LONG I,YE,U,EU,XW,U N,LONG U,ROMANIAN U,UH
 SLOAN U,OOH,OW,OU,WA,WO,WI,WEI,WOW,NASAL U,NASAL O,NASAL I,NASAL A,PERNIN AN,PERNIN AM,SLOAN EN
 SLOAN AN,SLOAN ON,VOCALIC M
1BC70 DUPLOYAN AFFIX
 xHORIZONTAL SECANT,MID HORIZONTAL SECANT,rHORIZONTAL SECANT,LOWvSECANT,MIDvSECANT,HIGHvSECANT
1BC76 DUPLOYAN AFFIX ATTACHED
 SECANT,LEFT-TO-RIGHT SECANT,TANGENT,TAIL,E HOOK,I HOOK,TANGENT HOOK
1BC80 DUPLOYAN AFFIX HIGH
 ACUTE,TIGHT ACUTE,GRAVE,LONG GRAVE,DOT,CIRCLE,LINE,WAVE,v
1BC90 DUPLOYAN AFFIX LOW
 ACUTE,TIGHT ACUTE,GRAVE,LONG GRAVE,DOT,CIRCLE,LINE,WAVE,v,a
1BC9C DUPLOYAN
 gOwCROSS,THICKlSELECTOR,dm,PUNCTUATION CHINOOK FULL STOP
1BCA0 SHORTHAND FORMAT
 lOVERLAP,CONTINUING OVERLAP,DOWN STEP,UP STEP
1CF00 ZNAMENNY COMBININGm
 GORAZDO NIZKO S KRYZHEM ONx,NIZKO S KRYZHEM ONx,TSATA ONx,GORAZDO NIZKO ONx,NIZKO ONx,SREDNE ONx
 MALO POVYSHE ONx,POVYSHE ONx,VYSOKO ONx,MALO POVYSHE S KHOKHLOM ONx,POVYSHE S KHOKHLOM ONx
 VYSOKO S KHOKHLOM ONx,GORAZDO NIZKO S KRYZHEM ONr,NIZKO S KRYZHEM ONr,TSATA ONr,GORAZDO NIZKO ONr
 NIZKO ONr,SREDNE ONr,MALO POVYSHE ONr,POVYSHE ONr,VYSOKO ONr,MALO POVYSHE S KHOKHLOM ONr
 POVYSHE S KHOKHLOM ONr,VYSOKO S KHOKHLOM ONr,TSATA S KRYZHEM,MALO POVYSHE S KRYZHEM
 STRANNO MALO POVYSHE,POVYSHE S KRYZHEM,POVYSHE STRANNO,VYSOKO S KRYZHEM,MALO POVYSHE STRANNO
 GORAZDO VYSOKO,ZELO,ON,RAVNO,TIKHAYA,BORZAYA,UDARKA,PODVERTKA,LOMKA,KUPNAYA,KACHKA,ZEVOK,SKOBA
 RAZSEKA,KRYZH ONx
1CF30 ZNAMENNY COMBINING
 TONAL RANGEmMRACHNO,TONAL RANGEmSVETLO,TONAL RANGEmTRESVETLO,mZADERZHKA,mDEMESTVENNY ZADERZHKA
 mOTSECHKA,mPODCHASHIE,mPODCHASHIEwvp,mCHASHKA,mCHASHKA POLNAYA,mOBLACHKO,mSOROCHYA NOZHKA,mTOCHKA
 mDVOETOCHIE,ATTACHINGvOMET,mCURVED OMET,mKRYZH,LOWER TONAL RANGE INDICATOR
1CF42 ZNAMENNY PRIZNAK MODIFIER
 LEVEL-2,LEVEL-3,DIRECTION FLIP,KRYZH,ROG
1CF50 ZNAMENNY NEUME
 KRYUK,KRYUK TIKHY,PARAKLIT,DVA V CHELNU,KLYUCH,ZANOZHEK,STOPITSA,STOPITSA S OCHKOM,PEREVODKA
 PEREVODKA NEPOSTOYANNAYA,STOPITSAwSOROCHYA NOZHKA,CHELYUSTKA,PALKA,ZAPYATAYA
1CF5E ZNAMENNY NEUME GOLUBCHIK
 BORZY,TIKHY,MRACHNY,SVETLY,TRESVETLY
1CF63 ZNAMENNY NEUME VRAKHIYA
 PROSTAYA,MRACHNAYA,SVETLAYA,TRESVETLAYA
1CF67 ZNAMENNY NEUME VRAKHIYA KLYUCHEVAYA
 PROSTAYA,MRACHNAYA,SVETLAYA,TRESVETLAYA
1CF6B ZNAMENNY NEUME
 dZAPYATAYA,REVERSED CHELYUSTKA,DERBITSA,KHAMILO,CHASHKA,PODCHASHIE,SKAMEYTSA MRACHNAYA
 SKAMEYTSA SVETLAYA,SKAMEYTSA TRESVETLAYA,SKAMEYTSA TIKHAYA,DEMESTVENNY KLYUCH
 SKAMEYTSA KLYUCHEVAYA SVETLAYA,SKAMEYTSA KLYUCHENEPOSTOYANNAYA,SKAMEYTSA KLYUCHEVAYA TIKHAYA
1CF79 ZNAMENNY NEUME SKAMEYTSA DVOECHELNAYA
 PROSTAYA,SVETLAYA,NEPOSTOYANNAYA,KLYUCHEVAYA
1CF7D ZNAMENNY NEUME
 SLOZHITIE,SLOZHITIE S ZAPYATOY,SLOZHITIE ZAKRYTOE,SLOZHITIE S KRYZHEM,KRYZH,ROG,FITA,KOBYLA,ZMEYTSA
 STATYA
1CF87 ZNAMENNY NEUME STATYA
 S ZAPYATOY,S KRYZHEM,S ZAPYATOY I KRYZHEM,S KRYZHEM I ZAPYATOY,ZAKRYTAYA,ZAKRYTAYA S ZAPYATOY
 S ROGOM,S DVUMYA ZAPYATYMI,S ZAPYATOY I PODCHASHIEM
1CF90 ZNAMENNY NEUME
 POLKULIZMY,STATYA NEPOSTOYANNAYA
1CF92 ZNAMENNY NEUME STRELA
 PROSTAYA,MRACHNOTIKHAYA,KRYZHEVAYA,POLUPOVODNAYA,POVODNAYA,NEPOSTOYANNAYA,KLYUCHEPOVODNAYA
 KLYUCHENEPOSTOYANNAYA,TIKHAYA PUTNAYA,DVOECHELNAYA,DVOECHELNOKRYZHEVAYA,DVOECHELNOPOVODNAYA
 DVOECHELNAYA KLYUCHEVAYA,DVOECHELNOPOVODNAYA KLYUCHEVAYA,GROMNAYAwSINGLE ZAPYATAYA
 GROMOPOVODNAYAwSINGLE ZAPYATAYA,GROMNAYA,GROMOPOVODNAYA,GROMOPOVODNAYAwdZAPYATAYA,GROMOKRYZHEVAYA
 GROMOKRYZHEVAYA POVODNAYA
1CFA7 ZNAMENNY NEUME
 MECHIK,MECHIK POVODNY,MECHIK KLYUCHEVOY,MECHIK KLYUCHEPOVODNY,MECHIK KLYUCHENEPOSTOYANNY
 STRELA TRYASOGLASNAYA,STRELA TRYASOPOVODNAYA,STRELA TRYASOSTRELNAYA,OSOKA,OSOKA SVETLAYA
 OSOKA TRESVETLAYA,OSOKA KRYUKOVAYA SVETLAYA,OSOKA KLYUCHEVAYA SVETLAYA
 OSOKA KLYUCHEVAYA NEPOSTOYANNAYA,STRELA KRYUKOVAYA
1CFB6 ZNAMENNY NEUME STRELA KRYUKOVAYA
 POVODNAYA,GROMNAYAwSINGLE ZAPYATAYA,GROMOPOVODNAYAwSINGLE ZAPYATAYA,GROMNAYA,GROMOPOVODNAYA
 GROMOPOVODNAYAwdZAPYATAYA,GROMOKRYZHEVAYA,GROMOKRYZHEVAYA POVODNAYA,TRYASKA
1CFBF ZNAMENNY NEUME
 KUFISMA,OBLAKO,DUDA,NEMKA,PAUK
1D000 BYZANTINE MUSICALu
 PSILI,DASEIA,PERISPOMENI,OXEIA EKFONITIKON,OXEIA DIPLI,VAREIA EKFONITIKON,VAREIA DIPLI,KATHISTI
 SYRMATIKI,PARAKLITIKI,YPOKRISIS,YPOKRISIS DIPLI,KREMASTI,APESO EKFONITIKON,EXO EKFONITIKON,TELEIA
 KENTIMATA,APOSTROFOS,APOSTROFOS DIPLI,SYNEVMA,THITA,OLIGON ARCHAION,GORGON ARCHAION,PSILON,CHAMILON
 VATHY,ISON ARCHAION,KENTIMA ARCHAION,KENTIMATA ARCHAION,SAXIMATA,PARICHON,STAVROS APODEXIA
 OXEIAI ARCHAION,VAREIAI ARCHAION,APODERMA ARCHAION,APOTHEMA,KLASMA,REVMA,PIASMA ARCHAION,TINAGMA
 ANATRICHISMA,SEISMA,SYNAGMA ARCHAION,SYNAGMA META STAVROU,OYRANISMA ARCHAION,THEMA,LEMOI,DYO,TRIA
 TESSERA,KRATIMATA,APESO EXO NEO,FTHORA ARCHAION,IMIFTHORA,TROMIKON ARCHAION,KATAVA TROMIKON
 PELASTON,PSIFISTON,KONTEVMA,CHOREVMA ARCHAION,RAPISMA,PARAKALESMA ARCHAION,PARAKLITIKI ARCHAION
 ICHADIN,NANA,PETASMA,KONTEVMA ALLO,TROMIKON ALLO,STRAGGISMATA,GRONTHISMATA,ISON NEO,OLIGON NEO
 OXEIA NEO,PETASTI,KOUFISMA,PETASTOKOUFISMA,KRATIMOKOUFISMA,PELASTON NEO,KENTIMATA NEO ANO
 KENTIMA NEO ANO,YPSILI,APOSTROFOS NEO,APOSTROFOI SYNDESMOS NEO,YPORROI,KRATIMOYPORROON,ELAFRON
 CHAMILI,MIKRON ISON,VAREIA NEO,PIASMA NEO,PSIFISTON NEO,OMALON,ANTIKENOMA,LYGISMA,PARAKLITIKI NEO
 PARAKALESMA NEO,ETERON PARAKALESMA,KYLISMA,ANTIKENOKYLISMA,TROMIKON NEO,EKSTREPTON,SYNAGMA NEO
 SYRMA,CHOREVMA NEO,EPEGERMA,SEISMA NEO,XIRON KLASMA,TROMIKOPSIFISTON,PSIFISTOLYGISMA,TROMIKOLYGISMA
 TROMIKOPARAKALESMA,PSIFISTOPARAKALESMA,TROMIKOSYNAGMA,PSIFISTOSYNAGMA,GORGOSYNTHETON,ARGOSYNTHETON
 ETERON ARGOSYNTHETON,OYRANISMA NEO,THEMATISMOS ESO,THEMATISMOS EXO,THEMA APLOUN,THES KAI APOTHES
 KATAVASMA,ENDOFONON,YFEN KATO,YFEN ANO,STAVROS,KLASMA ANO,DIPLI ARCHAION,KRATIMA ARCHAION
 KRATIMA ALLO,KRATIMA NEO,APODERMA NEO,APLI,DIPLI,TRIPLI,TETRAPLI,KORONIS,LEIMMA ENOS CHRONOU
 LEIMMA DYO CHRONON,LEIMMA TRION CHRONON,LEIMMA TESSARON CHRONON,LEIMMA IMISEOS CHRONOU
 GORGON NEO ANO,GORGON PARESTIGMENON ARISTERA,GORGON PARESTIGMENON DEXIA,DIGORGON
 DIGORGON PARESTIGMENON ARISTERA KATO,DIGORGON PARESTIGMENON ARISTERA ANO
 DIGORGON PARESTIGMENON DEXIA,TRIGORGON,ARGON,IMIDIARGON,DIARGON
1D09A BYZANTINE MUSICALuAGOGI
 POLI ARGI,ARGOTERI,ARGI,METRIA,MESI,GORGI,GORGOTERI,POLI GORGI
1D0A2 BYZANTINE MUSICALuMARTYRIA
 PROTOS ICHOS,ALLI PROTOS ICHOS,DEYTEROS ICHOS,ALLI DEYTEROS ICHOS,TRITOS ICHOS,TRIFONIAS
 TETARTOS ICHOS,TETARTOS LEGETOS ICHOS,LEGETOS ICHOS,PLAGIOS ICHOS
1D0AC BYZANTINE MUSICALu
 ISAKIA TELOUS ICHIMATOS,APOSTROFOI TELOUS ICHIMATOS,FANEROSIS TETRAFONIAS,FANEROSIS MONOFONIAS
 FANEROSIS DIFONIAS,MARTYRIA VARYS ICHOS,MARTYRIA PROTOVARYS ICHOS,MARTYRIA PLAGIOS TETARTOS ICHOS
 GORTHMIKON N APLOUN,GORTHMIKON N DIPLOUN,ENARXIS KAI FTHORA VOU,IMIFONON,IMIFTHORON
1D0B9 BYZANTINE MUSICALuFTHORA
 ARCHAION DEYTEROU ICHOU,DIATONIKI PA,DIATONIKI NANA,NAOS ICHOS,DIATONIKI DI,SKLIRON DIATONON DI
 DIATONIKI KE,DIATONIKI ZO,DIATONIKI NI KATO,DIATONIKI NI ANO,MALAKON CHROMA DIFONIAS
 MALAKON CHROMA MONOFONIAS
1D0C5 BYZANTINE MUSICALu
 FHTORA SKLIRON CHROMA VASIS,FTHORA SKLIRON CHROMA SYNAFI,FTHORA NENANO,CHROA ZYGOS,CHROA KLITON
 CHROA SPATHI,FTHORA I YFESIS TETARTIMORION,FTHORA ENARMONIOS ANTIFONIA,YFESIS TRITIMORION
 DIESIS TRITIMORION,DIESIS TETARTIMORION,DIESIS APLI DYO DODEKATA
 DIESIS MONOGRAMMOS TESSERA DODEKATA,DIESIS DIGRAMMOS EX DODEKATA,DIESIS TRIGRAMMOS OKTO DODEKATA
 YFESIS APLI DYO DODEKATA,YFESIS MONOGRAMMOS TESSERA DODEKATA,YFESIS DIGRAMMOS EX DODEKATA
 YFESIS TRIGRAMMOS OKTO DODEKATA,GENIKI DIESIS,GENIKI YFESIS
1D0DA BYZANTINE MUSICALuDIASTOLI
 APLI MIKRI,APLI MEGALI,DIPLI,THESEOS
1D0DE BYZANTINE MUSICALuSIMANSIS
 THESEOS,THESEOS DISIMOU,THESEOS TRISIMOU,THESEOS TETRASIMOU,ARSEOS,ARSEOS DISIMOU,ARSEOS TRISIMOU
 ARSEOS TETRASIMOU
1D0E6 BYZANTINE MUSICALu
 DIGRAMMA GG,DIFTOGGOS OU,STIGMA,ARKTIKO PA,ARKTIKO VOU,ARKTIKO GA,ARKTIKO DI,ARKTIKO KE,ARKTIKO ZO
 ARKTIKO NI,KENTIMATA NEO MESO,KENTIMA NEO MESO,KENTIMATA NEO KATO,KENTIMA NEO KATO,KLASMA KATO
 GORGON NEO KATO
1D100 MUSICALu
 SINGLE BARLINE,dBARLINE,oBARLINE,REVERSEoBARLINE,DASHED BARLINE,SHORT BARLINE,xREPEATg,rREPEATg
 REPEAT DOTS,DAL SEGNO,DA CAPO,SEGNO,CODA,REPEATED FIGURE-1,REPEATED FIGURE-2,REPEATED FIGURE-3
 FERMATA,FERMATAb,BREATHm,CAESURA,BRACE,BRACKET,ONE-LINE STAFF,TWO-LINE STAFF,THREE-LINE STAFF
 FOUR-LINE STAFF,FIVE-LINE STAFF,SIX-LINE STAFF,SIX-STRING FRETBOARD,FOUR-STRING FRETBOARD,G CLEF
 G CLEF OTTAVA ALTA,G CLEF OTTAVA BASSA,C CLEF,F CLEF,F CLEF OTTAVA ALTA,F CLEF OTTAVA BASSA
 DRUM CLEF-1,DRUM CLEF-2,,,MULTIPLE MEASURE REST,dSHARP,dFLAT,FLAT UP,FLAT DOWN,NATURAL UP
 NATURAL DOWN,SHARP UP,SHARP DOWN,QUARTER TONE SHARP,QUARTER TONE FLAT,COMMON TIME,CUT TIME
 OTTAVA ALTA,OTTAVA BASSA,QUINDICESIMA ALTA,QUINDICESIMA BASSA,MULTI REST,WHOLE REST,HALF REST
 QUARTER REST,EIGHTH REST,SIXTEENTH REST,THIRTY-SECOND REST,SIXTY-FOURTH REST
 ONE HUNDRED TWENTY-EIGHTH REST,X NOTEHEAD,PLUS NOTEHEAD,CIRCLE X NOTEHEAD,SQUARE NOTEHEADh
 SQUARE NOTEHEADk
1D148 MUSICALuTRIANGLE NOTEHEAD
 UPh,UPk,xh,xk,rh,rk,DOWNh,DOWNk,UPrh,UPrk
1D152 MUSICALuMOON NOTEHEAD
 h,k
1D154 MUSICALuTRIANGLE-ROUND NOTEHEAD DOWN
 h,k
1D156 MUSICALu
 PARENTHESIS NOTEHEAD,VOID NOTEHEAD,NOTEHEADk,NULL NOTEHEAD,CLUSTER NOTEHEADh,CLUSTER NOTEHEADk
 BREVE,WHOLE NOTE,HALF NOTE,QUARTER NOTE,EIGHTH NOTE,SIXTEENTH NOTE,THIRTY-SECOND NOTE
 SIXTY-FOURTH NOTE,ONE HUNDRED TWENTY-EIGHTH NOTE
1D165 MUSICALuCOMBINING
 STEM,SPRECHGESANG STEM,TREMOLO-1~3
1D16A MUSICALuFINGERED
 TREMOLO-1~3
1D16D MUSICALuCOMBINING
 AUGMENTATION DOT,FLAG-1~5
1D173 MUSICALu
 BEGIN BEAM,END BEAM,BEGIN TIE,END TIE,BEGIN SLUR,END SLUR,BEGIN PHRASE,END PHRASE
1D17B MUSICALuCOMBINING
 ACCENT,STACCATO,TENUTO,STACCATISSIMO,MARCATO,MARCATO-STACCATO,ACCENT-STACCATO,LOURE
1D183 MUSICALuARPEGGIATO
 UP,DOWN
1D185 MUSICALuCOMBINING
 DOIT,RIP,FLIP,SMEAR,BEND,dTONGUE,TRIPLE TONGUE
1D18C MUSICALu
 RINFORZANDO,SUBITO,Z,PIANO,MEZZO,FORTE,CRESCENDO,DECRESCENDO,GRACE NOTE SLASH,GRACE NOTE NO SLASH
 TR,TURN,INVERTED TURN,TURN SLASH,TURN UP
1D19B MUSICALuORNAMENT
 STROKE-1~11
1D1A6 MUSICALu
 HAUPTSTIMME,NEBENSTIMME,END OF STIMME,DEGREE SLASH,COMBINING DOWN BOW,COMBINING UP BOW
 COMBINING HARMONIC,COMBINING SNAP PIZZICATO,PEDALm,PEDAL UPm,HALF PEDALm,GLISSANDO UP
 GLISSANDO DOWN,wFINGERNAILS,DAMP,DAMP ALL,MAXIMA,LONGA,BREVIS,SEMIBREVISh,SEMIBREVISk,MINIMA
 MINIMAk,SEMIMINIMAh,SEMIMINIMAk,FUSAh,FUSAk,LONGA PERFECTA REST,LONGA IMPERFECTA REST,BREVIS REST
 SEMIBREVIS REST,MINIMA REST,SEMIMINIMA REST
1D1C7 MUSICALuTEMPUS PERFECTUM CUM PROLATIONE
 PERFECTA,IMPERFECTA,PERFECTA DIMINUTION-1
1D1CA MUSICALuTEMPUS IMPERFECTUM CUM PROLATIONE
 PERFECTA,IMPERFECTA,IMPERFECTA DIMINUTION-1~3
1D1CF MUSICALu
 CROIX,GREGORIAN C CLEF,GREGORIAN F CLEF,SQUARE B,VIRGA,PODATUS,CLIVIS,SCANDICUS,CLIMACUS,TORCULUS
 PORRECTUS,PORRECTUS FLEXUS,SCANDICUS FLEXUS,TORCULUS RESUPINUS,PES SUBPUNCTIS
1D1DE MUSICALuKIEVAN
 C CLEF,END OF PIECE,oNOTE,RECITATIVEm,WHOLE NOTE,HALF NOTE,QUARTER NOTE STEM DOWN
 QUARTER NOTE STEM UP,EIGHTH NOTE STEM DOWN,EIGHTH NOTE STEM UP,FLATg
1D1E9 MUSICALu
 SORI,KORON
1D200 GREEK VOCAL NOTATION
 SYMBOL-1~24,SYMBOL-50~54
1D21D GREEK INSTRUMENTAL NOTATION
 SYMBOL-1,SYMBOL-2,SYMBOL-4,SYMBOL-5,SYMBOL-7,SYMBOL-8,SYMBOL-11~14,SYMBOL-17~19,SYMBOL-23~27
 SYMBOL-29,SYMBOL-30,SYMBOL-32,SYMBOL-36~40,SYMBOL-42,SYMBOL-43,SYMBOL-45,SYMBOL-47~54
1D242 COMBINING GREEK MUSICAL
 TRISEME,TETRASEME,PENTASEME
1D245 GREEK MUSICAL
 LEIMMA
1D2E0 MAYAN NUMERAL
 ZERO,ONE,TWO,t,FOUR,FIVE,SIX,SEVEN,EIGHT,NINE,TEN,ELEVEN,TWELVE,THIRTEEN,FOURTEEN,FIFTEEN,SIXTEEN
 SEVENTEEN,EIGHTEEN,NINETEEN
1D300 MONOGRAM FOR
 EARTH
1D301 DIGRAM FOR
 HEAVENLY EARTH,HUMAN EARTH,EARTHLY HEAVEN,EARTHLY HUMAN,EARTH
1D306 TETRAGRAM FOR
 CENTRE,FULL CIRCLE,MIRED,BARRIER,KEEPINGs,CONTRARIETY,ASCENT,OPPOSITION,BRANCHING OUT
 DEFECTIVENESS OR DISTORTION,DIVERGENCE,YOUTHFULNESS,INCREASE,PENETRATION,REACH,CONTACT,HOLDING BACK
 WAITING,FOLLOWING,ADVANCE,RELEASE,RESISTANCE,EASE,JOY,CONTENTION,ENDEAVOUR,DUTIES,CHANGE
 DECISIVENESS,BOLD RESOLUTION,PACKING,LEGION,CLOSENESS,KINSHIP,GATHERING,STRENGTH,PURITY,FULLNESS
 RESIDENCE,LAW OR MODEL,RESPONSE,GOING TO MEET,ENCOUNTERS,STOVE,GREATNESS,ENLARGEMENT,PATTERN,RITUAL
 FLIGHT,VASTNESS OR WASTING,CONSTANCY,MEASURE,ETERNITY,UNITY,DIMINISHMENT,CLOSED MOUTH,GUARDEDNESS
 GATHERING IN,MASSING,ACCUMULATION,EMBELLISHMENT,DOUBT,WATCH,SINKING,INNER,DEPARTURE,DARKENING
 DIMMING,EXHAUSTION,SEVERANCE,STOPPAGE,HARDNESS,COMPLETION,CLOSURE,FAILURE,AGGRAVATION,COMPLIANCE
 ON THE VERGE,DIFFICULTIES,LABOURING,FOSTERING
1D360 COUNTING ROD UNIT DIGIT
 ONE,TWO,t,FOUR,FIVE,SIX,SEVEN,EIGHT,NINE
1D369 COUNTING ROD TENS DIGIT
 ONE,TWO,t,FOUR,FIVE,SIX,SEVEN,EIGHT,NINE
1D372 IDEOGRAPHIC TALLYm
 ONE,TWO,t,FOUR,FIVE
1D377 TALLYm
 ONE,FIVE
1D400 MATHEMATICAL BOLDc
 A,B,C,D,E,F,G,H,I,J,K,L,M,N,O,P,Q,R,S,T,U,V,W,X,Y,Z
1D41A MATHEMATICAL BOLDs
 A,B,C,D,E,F,G,H,I,J,K,L,M,N,O,P,Q,R,S,T,U,V,W,X,Y,Z
1D434 MATHEMATICAL ITALICc
 A,B,C,D,E,F,G,H,I,J,K,L,M,N,O,P,Q,R,S,T,U,V,W,X,Y,Z
1D44E MATHEMATICAL ITALICs
 A,B,C,D,E,F,G,,I,J,K,L,M,N,O,P,Q,R,S,T,U,V,W,X,Y,Z
1D468 MATHEMATICAL BOLD ITALICc
 A,B,C,D,E,F,G,H,I,J,K,L,M,N,O,P,Q,R,S,T,U,V,W,X,Y,Z
1D482 MATHEMATICAL BOLD ITALICs
 A,B,C,D,E,F,G,H,I,J,K,L,M,N,O,P,Q,R,S,T,U,V,W,X,Y,Z
1D49C MATHEMATICAL SCRIPTc
 A,,C,D,,,G,,,J,K,,,N,O,P,Q,,S,T,U,V,W,X,Y,Z
1D4B6 MATHEMATICAL SCRIPTs
 A,B,C,D,,F,,H,I,J,K,L,M,N,,P,Q,R,S,T,U,V,W,X,Y,Z
1D4D0 MATHEMATICAL BOLD SCRIPTc
 A,B,C,D,E,F,G,H,I,J,K,L,M,N,O,P,Q,R,S,T,U,V,W,X,Y,Z
1D4EA MATHEMATICAL BOLD SCRIPTs
 A,B,C,D,E,F,G,H,I,J,K,L,M,N,O,P,Q,R,S,T,U,V,W,X,Y,Z
1D504 MATHEMATICAL FRAKTURc
 A,B,,D,E,F,G,,,J,K,L,M,N,O,P,Q,,S,T,U,V,W,X,Y
1D51E MATHEMATICAL FRAKTURs
 A,B,C,D,E,F,G,H,I,J,K,L,M,N,O,P,Q,R,S,T,U,V,W,X,Y,Z
1D538 MATHEMATICAL DOUBLE-STRUCKc
 A,B,,D,E,F,G,,I,J,K,L,M,,O,,,,S,T,U,V,W,X,Y
1D552 MATHEMATICAL DOUBLE-STRUCKs
 A,B,C,D,E,F,G,H,I,J,K,L,M,N,O,P,Q,R,S,T,U,V,W,X,Y,Z
1D56C MATHEMATICAL BOLD FRAKTURc
 A,B,C,D,E,F,G,H,I,J,K,L,M,N,O,P,Q,R,S,T,U,V,W,X,Y,Z
1D586 MATHEMATICAL BOLD FRAKTURs
 A,B,C,D,E,F,G,H,I,J,K,L,M,N,O,P,Q,R,S,T,U,V,W,X,Y,Z
1D5A0 MATHEMATICAL SANS-SERIFc
 A,B,C,D,E,F,G,H,I,J,K,L,M,N,O,P,Q,R,S,T,U,V,W,X,Y,Z
1D5BA MATHEMATICAL SANS-SERIFs
 A,B,C,D,E,F,G,H,I,J,K,L,M,N,O,P,Q,R,S,T,U,V,W,X,Y,Z
1D5D4 MATHEMATICAL SANS-SERIF BOLDc
 A,B,C,D,E,F,G,H,I,J,K,L,M,N,O,P,Q,R,S,T,U,V,W,X,Y,Z
1D5EE MATHEMATICAL SANS-SERIF BOLDs
 A,B,C,D,E,F,G,H,I,J,K,L,M,N,O,P,Q,R,S,T,U,V,W,X,Y,Z
1D608 MATHEMATICAL SANS-SERIF ITALICc
 A,B,C,D,E,F,G,H,I,J,K,L,M,N,O,P,Q,R,S,T,U,V,W,X,Y,Z
1D622 MATHEMATICAL SANS-SERIF ITALICs
 A,B,C,D,E,F,G,H,I,J,K,L,M,N,O,P,Q,R,S,T,U,V,W,X,Y,Z
1D63C MATHEMATICAL SANS-SERIF BOLD ITALICc
 A,B,C,D,E,F,G,H,I,J,K,L,M,N,O,P,Q,R,S,T,U,V,W,X,Y,Z
1D656 MATHEMATICAL SANS-SERIF BOLD ITALICs
 A,B,C,D,E,F,G,H,I,J,K,L,M,N,O,P,Q,R,S,T,U,V,W,X,Y,Z
1D670 MATHEMATICAL MONOSPACEc
 A,B,C,D,E,F,G,H,I,J,K,L,M,N,O,P,Q,R,S,T,U,V,W,X,Y,Z
1D68A MATHEMATICAL MONOSPACEs
 A,B,C,D,E,F,G,H,I,J,K,L,M,N,O,P,Q,R,S,T,U,V,W,X,Y,Z
1D6A4 MATHEMATICAL ITALICsDOTLESS
 I,J
1D6A8 MATHEMATICAL BOLD
 cALPHA,cBETA,cGAMMA,cDELTA,cEPSILON,cZETA,cETA,cTHETA,cIOTA,cKAPPA,cLAMDA,cMU,cNU,cXI,cOMICRON,cPI
 cRHO,cTHETAu,cSIGMA,cTAU,cUPSILON,cPHI,cCHI,cPSI,cOMEGA,NABLA,sALPHA,sBETA,sGAMMA,sDELTA,sEPSILON
 sZETA,sETA,sTHETA,sIOTA,sKAPPA,sLAMDA,sMU,sNU,sXI,sOMICRON,sPI,sRHO,soSIGMA,sSIGMA,sTAU,sUPSILON
 sPHI,sCHI,sPSI,sOMEGA,PARTIAL DIFFERENTIAL,EPSILONu,THETAu,KAPPAu,PHIu,RHOu,PIu
1D6E2 MATHEMATICAL ITALIC
 cALPHA,cBETA,cGAMMA,cDELTA,cEPSILON,cZETA,cETA,cTHETA,cIOTA,cKAPPA,cLAMDA,cMU,cNU,cXI,cOMICRON,cPI
 cRHO,cTHETAu,cSIGMA,cTAU,cUPSILON,cPHI,cCHI,cPSI,cOMEGA,NABLA,sALPHA,sBETA,sGAMMA,sDELTA,sEPSILON
 sZETA,sETA,sTHETA,sIOTA,sKAPPA,sLAMDA,sMU,sNU,sXI,sOMICRON,sPI,sRHO,soSIGMA,sSIGMA,sTAU,sUPSILON
 sPHI,sCHI,sPSI,sOMEGA,PARTIAL DIFFERENTIAL,EPSILONu,THETAu,KAPPAu,PHIu,RHOu,PIu
1D71C MATHEMATICAL BOLD ITALIC
 cALPHA,cBETA,cGAMMA,cDELTA,cEPSILON,cZETA,cETA,cTHETA,cIOTA,cKAPPA,cLAMDA,cMU,cNU,cXI,cOMICRON,cPI
 cRHO,cTHETAu,cSIGMA,cTAU,cUPSILON,cPHI,cCHI,cPSI,cOMEGA,NABLA,sALPHA,sBETA,sGAMMA,sDELTA,sEPSILON
 sZETA,sETA,sTHETA,sIOTA,sKAPPA,sLAMDA,sMU,sNU,sXI,sOMICRON,sPI,sRHO,soSIGMA,sSIGMA,sTAU,sUPSILON
 sPHI,sCHI,sPSI,sOMEGA,PARTIAL DIFFERENTIAL,EPSILONu,THETAu,KAPPAu,PHIu,RHOu,PIu
1D756 MATHEMATICAL SANS-SERIF BOLD
 cALPHA,cBETA,cGAMMA,cDELTA,cEPSILON,cZETA,cETA,cTHETA,cIOTA,cKAPPA,cLAMDA,cMU,cNU,cXI,cOMICRON,cPI
 cRHO,cTHETAu,cSIGMA,cTAU,cUPSILON,cPHI,cCHI,cPSI,cOMEGA,NABLA,sALPHA,sBETA,sGAMMA,sDELTA,sEPSILON
 sZETA,sETA,sTHETA,sIOTA,sKAPPA,sLAMDA,sMU,sNU,sXI,sOMICRON,sPI,sRHO,soSIGMA,sSIGMA,sTAU,sUPSILON
 sPHI,sCHI,sPSI,sOMEGA,PARTIAL DIFFERENTIAL,EPSILONu,THETAu,KAPPAu,PHIu,RHOu,PIu
1D790 MATHEMATICAL SANS-SERIF BOLD ITALIC
 cALPHA,cBETA,cGAMMA,cDELTA,cEPSILON,cZETA,cETA,cTHETA,cIOTA,cKAPPA,cLAMDA,cMU,cNU,cXI,cOMICRON,cPI
 cRHO,cTHETAu,cSIGMA,cTAU,cUPSILON,cPHI,cCHI,cPSI,cOMEGA,NABLA,sALPHA,sBETA,sGAMMA,sDELTA,sEPSILON
 sZETA,sETA,sTHETA,sIOTA,sKAPPA,sLAMDA,sMU,sNU,sXI,sOMICRON,sPI,sRHO,soSIGMA,sSIGMA,sTAU,sUPSILON
 sPHI,sCHI,sPSI,sOMEGA,PARTIAL DIFFERENTIAL,EPSILONu,THETAu,KAPPAu,PHIu,RHOu,PIu
1D7CA MATHEMATICAL BOLD
 cDIGAMMA,sDIGAMMA
1D7CE MATHEMATICAL BOLD DIGIT
 ZERO,ONE,TWO,t,FOUR,FIVE,SIX,SEVEN,EIGHT,NINE
1D7D8 MATHEMATICAL DOUBLE-STRUCK DIGIT
 ZERO,ONE,TWO,t,FOUR,FIVE,SIX,SEVEN,EIGHT,NINE
1D7E2 MATHEMATICAL SANS-SERIF DIGIT
 ZERO,ONE,TWO,t,FOUR,FIVE,SIX,SEVEN,EIGHT,NINE
1D7EC MATHEMATICAL SANS-SERIF BOLD DIGIT
 ZERO,ONE,TWO,t,FOUR,FIVE,SIX,SEVEN,EIGHT,NINE
1D7F6 MATHEMATICAL MONOSPACE DIGIT
 ZERO,ONE,TWO,t,FOUR,FIVE,SIX,SEVEN,EIGHT,NINE
1D800 q
 HAND-FIST INDEX,HAND-CIRCLE INDEX,HAND-CUP INDEX,HAND-OVAL INDEX,HAND-HINGE INDEX,HAND-ANGLE INDEX
 HAND-FIST INDEX BENT,HAND-CIRCLE INDEX BENT,HAND-FIST THUMB UNDER INDEX BENT
1D809 qHAND-FIST INDEX
 RAISED KNUCKLE,CUPPED,HINGED,HINGED LOW
1D80D q
 HAND-CIRCLE INDEX HINGE,HAND-FIST INDEX MIDDLE,HAND-CIRCLE INDEX MIDDLE
1D810 qHAND-FIST INDEX
 MIDDLE BENT,MIDDLE RAISED KNUCKLES,MIDDLE HINGED,UP MIDDLE HINGED,HINGED MIDDLE UP
1D815 qHAND-FIST INDEX MIDDLE
 CONJOINED,CONJOINED INDEX BENT,CONJOINED MIDDLE BENT,CONJOINED CUPPED,CONJOINED HINGED,CROSSED
1D81B qHAND-CIRCLE INDEX MIDDLE
 CROSSED
1D81C qHAND-FIST
 MIDDLE BENT OVER INDEX,INDEX BENT OVER MIDDLE,INDEX MIDDLE THUMB
1D81F qHAND-CIRCLE INDEX MIDDLE
 THUMB
1D820 qHAND-FIST INDEX
 MIDDLE STRAIGHT THUMB BENT,MIDDLE BENT THUMB STRAIGHT,MIDDLE THUMB BENT
 MIDDLE HINGED SPREAD THUMB SIDE,UP MIDDLE HINGED THUMB SIDE,UP MIDDLE HINGED THUMB CONJOINED
 HINGED MIDDLE UP THUMB SIDE,MIDDLE UP SPREAD THUMB FORWARD
1D828 qHAND-FIST INDEX MIDDLE THUMB
 CUPPED,CIRCLED,HOOKED,HINGED
1D82C qHAND-FIST THUMB BETWEEN INDEX MIDDLE
 STRAIGHT
1D82D qHAND-FIST INDEX MIDDLE CONJOINED THUMB
 SIDE,SIDE CONJOINED,SIDE BENT
1D830 qHAND-FIST
 MIDDLE THUMB HOOKED INDEX UP,INDEX THUMB HOOKED MIDDLE UP
1D832 qHAND-FIST INDEX MIDDLE
 CONJOINED HINGED THUMB SIDE,CROSSED THUMB SIDE,CONJOINED THUMB FORWARD
 CONJOINED CUPPED THUMB FORWARD
1D836 qHAND-FIST
 MIDDLE THUMB CUPPED INDEX UP,INDEX THUMB CUPPED MIDDLE UP
1D838 qHAND-FIST MIDDLE THUMB CIRCLED INDEX
 UP,HINGED
1D83A qHAND-FIST INDEX THUMB
 ANGLED OUT MIDDLE UP,ANGLED IN MIDDLE UP,CIRCLED MIDDLE UP
1D83D qHAND-FIST INDEX MIDDLE THUMB
 CONJOINED HINGED,ANGLED OUT,ANGLED
1D840 qHAND-FIST MIDDLE THUMB ANGLED
 OUT INDEX UP,OUT INDEX CROSSED,INDEX UP
1D843 q
 HAND-FIST INDEX THUMB HOOKED MIDDLE HINGED,HAND-FLAT FOUR FINGERS
1D845 qHAND-FLAT FOUR FINGERS
 BENT,HINGED,CONJOINED,CONJOINED SPLIT
1D849 q
 HAND-CLAW FOUR FINGERS CONJOINED,HAND-FIST FOUR FINGERS CONJOINED BENT
 HAND-HINGE FOUR FINGERS CONJOINED
1D84C qHAND-FLAT
 FIVE FINGERS SPREAD,HEEL FIVE FINGERS SPREAD,FIVE FINGERS SPREAD FOUR BENT
 HEEL FIVE FINGERS SPREAD FOUR BENT,FIVE FINGERS SPREAD BENT,HEEL FIVE FINGERS SPREAD BENT
 FIVE FINGERS SPREAD THUMB FORWARD
1D853 qHAND-CUP FIVE FINGERS
 SPREAD,SPREAD OPEN
1D855 q
 HAND-HINGE FIVE FINGERS SPREAD OPEN,HAND-OVAL FIVE FINGERS SPREAD
1D857 qHAND-FLAT FIVE FINGERS SPREAD
 HINGED,HINGED THUMB SIDE,HINGED NO THUMB
1D85A
 qHAND-FLAT
1D85B qHAND-FLAT
 BETWEEN PALM FACINGS,HEEL,THUMB SIDE,HEEL THUMB SIDE,THUMB BENT,THUMB FORWARD
1D861 qHAND-FLAT SPLIT
 INDEX THUMB SIDE,CENTRE,CENTRE THUMB SIDE,CENTRE THUMB SIDE BENT,LITTLE
1D866
 qHAND-CLAW
1D867 qHAND-CLAW
 THUMB SIDE,NO THUMB,THUMB FORWARD
1D86A q
 HAND-HOOK CURLICUE,HAND-HOOK,HAND-CUP OPEN,HAND-CUP
1D86E qHAND-CUP
 OPEN THUMB SIDE,THUMB SIDE,OPEN NO THUMB,NO THUMB,OPEN THUMB FORWARD,THUMB FORWARD
1D874 q
 HAND-CURLICUE OPEN,HAND-CURLICUE,HAND-CIRCLE,HAND-OVAL
1D878 qHAND-OVAL
 THUMB SIDE,NO THUMB,THUMB FORWARD
1D87B qHAND-HINGE
 OPEN,OPEN THUMB FORWARD
1D87D
 qHAND-HINGE
1D87E qHAND-HINGE
 s,OPEN THUMB SIDE,THUMB SIDE,OPEN NO THUMB,NO THUMB,THUMB SIDE TOUCHING INDEX
 THUMB BETWEEN MIDDLE RING
1D885 q
 HAND-ANGLE,HAND-FIST INDEX MIDDLE RING,HAND-CIRCLE INDEX MIDDLE RING,HAND-HINGE INDEX MIDDLE RING
 HAND-ANGLE INDEX MIDDLE RING,HAND-HINGE LITTLE
1D88B qHAND-FIST INDEX MIDDLE RING
 BENT,CONJOINED
1D88D qHAND-HINGE INDEX MIDDLE RING
 CONJOINED
1D88E qHAND-FIST LITTLE
 DOWN,DOWN RIPPLE STRAIGHT,DOWN RIPPLE CURVED,DOWN OTHERS CIRCLED,UP
1D893 q
 HAND-FIST THUMB UNDER LITTLE UP,HAND-CIRCLE LITTLE UP,HAND-OVAL LITTLE UP,HAND-ANGLE LITTLE UP
1D897 qHAND-FIST LITTLE
 RAISED KNUCKLE,BENT,TOUCHES THUMB,THUMB
1D89B q
 HAND-HINGE LITTLE THUMB,HAND-FIST LITTLE INDEX THUMB,HAND-HINGE LITTLE INDEX THUMB
1D89E qHAND-ANGLE LITTLE INDEX THUMB INDEX
 THUMB OUT,THUMB
1D8A0 q
 HAND-FIST LITTLE INDEX,HAND-CIRCLE LITTLE INDEX,HAND-HINGE LITTLE INDEX,HAND-ANGLE LITTLE INDEX
 HAND-FIST INDEX MIDDLE LITTLE,HAND-CIRCLE INDEX MIDDLE LITTLE,HAND-HINGE INDEX MIDDLE LITTLE
 HAND-HINGE RING,HAND-ANGLE INDEX MIDDLE LITTLE,HAND-FIST INDEX MIDDLE CROSS LITTLE
 HAND-CIRCLE INDEX MIDDLE CROSS LITTLE,HAND-FIST RING DOWN
 HAND-HINGE RING DOWN INDEX THUMB HOOK MIDDLE,HAND-ANGLE RING DOWN MIDDLE THUMB INDEX CROSS
1D8AE qHAND-FIST RING
 UP,RAISED KNUCKLE,LITTLE
1D8B1 q
 HAND-CIRCLE RING LITTLE,HAND-OVAL RING LITTLE,HAND-ANGLE RING LITTLE
1D8B4 qHAND-FIST RING
 MIDDLE,MIDDLE CONJOINED,MIDDLE RAISED KNUCKLES,INDEX,THUMB
1D8B9 q
 HAND-HOOK RING THUMB,HAND-FIST INDEX RING LITTLE,HAND-CIRCLE INDEX RING LITTLE
 HAND-CURLICUE INDEX RING LITTLE ON
1D8BD qHAND-HOOK INDEX RING LITTLE
 OUT,IN,UNDER
1D8C0 q
 HAND-CUP INDEX RING LITTLE,HAND-HINGE INDEX RING LITTLE
1D8C2 qHAND-ANGLE INDEX RING
 LITTLE OUT,LITTLE
1D8C4 q
 HAND-FIST MIDDLE DOWN,HAND-HINGE MIDDLE,HAND-FIST MIDDLE UP,HAND-CIRCLE MIDDLE UP
1D8C8 qHAND-FIST MIDDLE
 RAISED KNUCKLE,UP THUMB SIDE
1D8CA qHAND-HOOK MIDDLE
 THUMB
1D8CB qHAND-FIST MIDDLE
 THUMB LITTLE,LITTLE,RING LITTLE
1D8CE q
 HAND-CIRCLE MIDDLE RING LITTLE,HAND-CURLICUE MIDDLE RING LITTLE ON,HAND-CUP MIDDLE RING LITTLE
 HAND-HINGE MIDDLE RING LITTLE
1D8D2 qHAND-ANGLE MIDDLE RING
 LITTLE OUT,LITTLE IN,LITTLE
1D8D5 qHAND-CIRCLE MIDDLE RING LITTLE
 BENT
1D8D6 qHAND-CLAW MIDDLE RING LITTLE
 CONJOINED,CONJOINED SIDE
1D8D8 qHAND-HOOK MIDDLE RING LITTLE
 CONJOINED OUT,CONJOINED IN,CONJOINED
1D8DB q
 HAND-HINGE INDEX HINGED,HAND-FIST INDEX THUMB SIDE,HAND-HINGE INDEX THUMB SIDE
1D8DE qHAND-FIST INDEX THUMB
 SIDE THUMB DIAGONAL,SIDE THUMB CONJOINED,SIDE THUMB BENT,SIDE INDEX BENT,SIDE BOTH BENT
 SIDE INDEX HINGE,FORWARD INDEX STRAIGHT,FORWARD INDEX BENT,HOOK,CURLICUE,CURVE THUMB INSIDE
1D8E9 qHAND-CLAW INDEX THUMB CURVE THUMB
 INSIDE
1D8EA qHAND-FIST INDEX THUMB
 CURVE THUMB UNDER,CIRCLE
1D8EC qHAND-CUP INDEX
 THUMB,THUMB OPEN
1D8EE qHAND-HINGE INDEX
 THUMB OPEN,THUMB LARGE,THUMB,THUMBs
1D8F2 qHAND-ANGLE INDEX
 THUMB OUT,THUMB IN,THUMB
1D8F5 qHAND-FIST
 THUMB
1D8F6 qHAND-FIST THUMB
 HEEL,SIDE DIAGONAL,SIDE CONJOINED,SIDE BENT,FORWARD,BETWEEN INDEX MIDDLE,BETWEEN MIDDLE RING
 BETWEEN RING LITTLE,UNDER TWO FINGERS,OVER TWO FINGERS,UNDERtFINGERS,UNDER FOUR FINGERS
 OVER FOUR RAISED KNUCKLES
1D903 q
 HAND-FIST,HAND-FIST HEEL
1D905 qTOUCH
 SINGLE,MULTIPLE,BETWEEN
1D908 qGRASP
 SINGLE,MULTIPLE,BETWEEN
1D90B qSTRIKE
 SINGLE,MULTIPLE,BETWEEN
1D90E qBRUSH
 SINGLE,MULTIPLE,BETWEEN
1D911 qRUB
 SINGLE,MULTIPLE,BETWEEN
1D914 qSURFACE
 SYMBOLS,BETWEEN
1D916 qSQUEEZE
 LARGE SINGLE,sSINGLE,LARGE MULTIPLE,sMULTIPLE,SEQUENTIAL
1D91B qFLICK
 LARGE SINGLE,sSINGLE,LARGE MULTIPLE,sMULTIPLE,SEQUENTIAL
1D920 qSQUEEZE FLICK
 ALTERNATING
1D921 qMOVEMENT-HINGE
 UP DOWN LARGE,UP DOWNs,UP SEQUENTIAL,DOWN SEQUENTIAL,UP DOWN ALTERNATING LARGE,UP DOWN ALTERNATINGs
 SIDE TO SIDE SCISSORS
1D928 q
 MOVEMENT-WALLPLANE FINGER CONTACT,MOVEMENT-FLOORPLANE FINGER CONTACT
1D92A qMOVEMENT-WALLPLANE SINGLE STRAIGHT
 s,MEDIUM,LARGE,LARGEST
1D92E qMOVEMENT-WALLPLANE
 SINGLE WRIST FLEX,dSTRAIGHT,dWRIST FLEX,dALTERNATING,dALTERNATING WRIST FLEX,CROSS
 TRIPLE STRAIGHT MOVEMENT,TRIPLE WRIST FLEX,TRIPLE ALTERNATING,TRIPLE ALTERNATING WRIST FLEX,BENDs
 BEND MEDIUM,BEND LARGE,CORNERs,CORNER MEDIUM,CORNER LARGE,CORNER ROTATION,CHECKs,CHECK MEDIUM
 CHECK LARGE,BOXs,BOX MEDIUM,BOX LARGE,ZIGZAGs,ZIGZAG MEDIUM,ZIGZAG LARGE,PEAKSs,PEAKS MEDIUM
 PEAKS LARGE
1D94B qTRAVEL-WALLPLANE ROTATION-WALLPLANE
 SINGLE,d,ALTERNATING
1D94E qTRAVEL-WALLPLANE ROTATION-FLOORPLANE
 SINGLE,d,ALTERNATING
1D951 qTRAVEL-WALLPLANE
 SHAKING,ARM SPIRAL SINGLE,ARM SPIRALd,ARM SPIRAL TRIPLE
1D955 qMOVEMENT-DIAGONAL AWAY
 s,MEDIUM,LARGE,LARGEST
1D959 qMOVEMENT-DIAGONAL TOWARDS
 s,MEDIUM,LARGE,LARGEST
1D95D qMOVEMENT-DIAGONAL BETWEEN AWAY
 s,MEDIUM,LARGE,LARGEST
1D961 qMOVEMENT-DIAGONAL BETWEEN TOWARDS
 s,MEDIUM,LARGE,LARGEST
1D965 qMOVEMENT-FLOORPLANE SINGLE STRAIGHT
 s,MEDIUM,LARGE,LARGEST
1D969 qMOVEMENT-FLOORPLANE
 SINGLE WRIST FLEX,dSTRAIGHT,dWRIST FLEX,dALTERNATING,dALTERNATING WRIST FLEX,CROSS
 TRIPLE STRAIGHT MOVEMENT,TRIPLE WRIST FLEX,TRIPLE ALTERNATING MOVEMENT
 TRIPLE ALTERNATING WRIST FLEX,BEND,CORNERs,CORNER MEDIUM,CORNER LARGE,CHECK,BOXs,BOX MEDIUM
 BOX LARGE,ZIGZAGs,ZIGZAG MEDIUM,ZIGZAG LARGE,PEAKSs,PEAKS MEDIUM,PEAKS LARGE
1D981 qTRAVEL-FLOORPLANE ROTATION-FLOORPLANE
 SINGLE,d,ALTERNATING
1D984 qTRAVEL-FLOORPLANE ROTATION-WALLPLANE
 SINGLE,d,ALTERNATING
1D987 qTRAVEL-FLOORPLANE
 SHAKING
1D988 qMOVEMENT-WALLPLANE CURVE QUARTER
 s,MEDIUM,LARGE,LARGEST
1D98C qMOVEMENT-WALLPLANE CURVE HALF-CIRCLE
 s,MEDIUM,LARGE,LARGEST
1D990 qMOVEMENT-WALLPLANE
 CURVE THREE-QUARTER CIRCLEs,CURVE THREE-QUARTER CIRCLE MEDIUM,HUMPs,HUMP MEDIUM,HUMP LARGE,LOOPs
 LOOP MEDIUM,LOOP LARGE,LOOPsd,WAVE CURVEds,WAVE CURVEdMEDIUM,WAVE CURVEdLARGE,WAVE CURVE TRIPLEs
 WAVE CURVE TRIPLE MEDIUM,WAVE CURVE TRIPLE LARGE,CURVE THEN STRAIGHT,CURVED CROSSs
 CURVED CROSS MEDIUM
1D9A2 qROTATION-WALLPLANE
 SINGLE,d,ALTERNATE
1D9A5 qMOVEMENT-WALLPLANE
 SHAKING,CURVE HITTING FRONT WALL,HUMP HITTING FRONT WALL,LOOP HITTING FRONT WALL
 WAVE HITTING FRONT WALL
1D9AA qROTATION-WALLPLANE
 SINGLE HITTING FRONT WALL,dHITTING FRONT WALL,ALTERNATING HITTING FRONT WALL
1D9AD qMOVEMENT-WALLPLANE
 CURVE HITTING CHEST,HUMP HITTING CHEST,LOOP HITTING CHEST,WAVE HITTING CHEST
1D9B1 qROTATION-WALLPLANE
 SINGLE HITTING CHEST,dHITTING CHEST,ALTERNATING HITTING CHEST
1D9B4 qMOVEMENT-WALLPLANE WAVE DIAGONAL PATH
 s,MEDIUM,LARGE
1D9B7 qMOVEMENT-FLOORPLANE CURVE HITTING CEILING
 s,LARGE
1D9B9 qMOVEMENT-FLOORPLANE HUMP HITTING CEILING
 sd,LARGEd,sTRIPLE,LARGE TRIPLE
1D9BD qMOVEMENT-FLOORPLANE LOOP HITTING CEILING
 sSINGLE,LARGE SINGLE,sd,LARGEd
1D9C1 qMOVEMENT-FLOORPLANE WAVE HITTING CEILING
 s,LARGE
1D9C3 qROTATION-FLOORPLANE
 SINGLE HITTING CEILING,dHITTING CEILING,ALTERNATING HITTING CEILING
1D9C6 qMOVEMENT-FLOORPLANE CURVE HITTING FLOOR
 s,LARGE
1D9C8 qMOVEMENT-FLOORPLANE HUMP HITTING FLOOR
 sd,LARGEd,TRIPLEsTRIPLE,TRIPLE LARGE TRIPLE
1D9CC qMOVEMENT-FLOORPLANE LOOP HITTING FLOOR
 sSINGLE,LARGE SINGLE,sd,LARGEd
1D9D0 qMOVEMENT-FLOORPLANE WAVE HITTING FLOOR
 s,LARGE
1D9D2 qROTATION-FLOORPLANE
 SINGLE HITTING FLOOR,dHITTING FLOOR,ALTERNATING HITTING FLOOR
1D9D5 qMOVEMENT-FLOORPLANE
 CURVEs,CURVE MEDIUM,CURVE LARGE,CURVE LARGEST,CURVE COMBINED,HUMPs,LOOPs,WAVE SNAKE,WAVEs
 WAVE LARGE
1D9DF qROTATION-FLOORPLANE
 SINGLE,d,ALTERNATING
1D9E2 qMOVEMENT-FLOORPLANE SHAKING
 PARALLEL
1D9E3 qMOVEMENT-WALLPLANE ARM CIRCLE
 sSINGLE,MEDIUM SINGLE,sd,MEDIUMd
1D9E7 qMOVEMENT-FLOORPLANE ARM CIRCLE HITTING WALL
 sSINGLE,MEDIUM SINGLE,LARGE SINGLE,sd,MEDIUMd,LARGEd
1D9ED qMOVEMENT-WALLPLANE WRIST CIRCLE FRONT
 SINGLE,d
1D9EF qMOVEMENT-FLOORPLANE WRIST CIRCLE HITTING WALL
 SINGLE,d
1D9F1 qMOVEMENT-WALLPLANE FINGER CIRCLES
 SINGLE,d
1D9F3 qMOVEMENT-FLOORPLANE FINGER CIRCLES HITTING WALL
 SINGLE,d
1D9F5 qDYNAMIC
 ARROWHEADs,ARROWHEAD LARGE,FAST,SLOW,TENSE,RELAXED,SIMULTANEOUS,SIMULTANEOUS ALTERNATING
 EVERY OTHER TIME,GRADUAL
1D9FF q
 HEAD,HEAD RIM
1DA01 qHEAD MOVEMENT-WALLPLANE
 STRAIGHT,TILT
1DA03 qHEAD
 MOVEMENT-FLOORPLANE STRAIGHT,MOVEMENT-WALLPLANE CURVE,MOVEMENT-FLOORPLANE CURVE,MOVEMENT CIRCLE
1DA07 qFACE DIRECTION POSITION NOSE
 FORWARD TILTING,UP OR DOWN,UP OR DOWN TILTING
1DA0A qEYEBROWS STRAIGHT
 UP,NEUTRAL,DOWN
1DA0D qDREAMY EYEBROWS
 NEUTRAL DOWN,DOWN NEUTRAL,UP NEUTRAL,NEUTRAL UP
1DA11 qFOREHEAD
 NEUTRAL,CONTACT,WRINKLED
1DA14 qEYES
 OPEN,SQUEEZED,CLOSED
1DA17 qEYE BLINK
 SINGLE,MULTIPLE
1DA19 qEYES
 HALF OPEN,WIDE OPEN,HALF CLOSED,WIDENING MOVEMENT
1DA1D qEYE
 WINK
1DA1E qEYELASHES
 UP,DOWN,FLUTTERING
1DA21 qEYEGAZE-WALLPLANE
 STRAIGHT,STRAIGHTd,STRAIGHT ALTERNATING
1DA24 qEYEGAZE-FLOORPLANE
 STRAIGHT,STRAIGHTd,STRAIGHT ALTERNATING
1DA27 q
 EYEGAZE-WALLPLANE CURVED,EYEGAZE-FLOORPLANE CURVED,EYEGAZE-WALLPLANE CIRCLING
1DA2A qCHEEKS
 PUFFED,NEUTRAL,SUCKED
1DA2D qTENSE CHEEKS
 HIGH,MIDDLE,LOW
1DA30
 qEARS
1DA31 qNOSE
 NEUTRAL,CONTACT,WRINKLES,WIGGLES
1DA35 qAIR
 BLOWING OUT,SUCKING IN,BLOWsROTATIONS,SUCKsROTATIONS
1DA39 qBREATH
 INHALE,EXHALE
1DA3B qMOUTH CLOSED
 NEUTRAL,FORWARD,CONTACT
1DA3E qMOUTH
 SMILE,SMILE WRINKLED,SMILE OPEN,FROWN,FROWN WRINKLED,FROWN OPEN
1DA44 qMOUTH OPEN
 CIRCLE,FORWARD,WRINKLED,OVAL,OVAL WRINKLED,OVAL YAWN,RECTANGLE,RECTANGLE WRINKLED,RECTANGLE YAWN
1DA4D qMOUTH
 KISS,KISS FORWARD,KISS WRINKLED,TENSE,TENSE FORWARD,TENSE SUCKED
1DA53 q
 LIPS PRESSED TOGETHER,LIP LOWER OVER UPPER,LIP UPPER OVER LOWER,MOUTH CORNERS
1DA57 qMOUTH WRINKLES
 SINGLE,d
1DA59 qTONGUE
 STICKING OUT FAR,LICKING LIPS,TIP BETWEEN LIPS,TIP TOUCHING INSIDE MOUTH,INSIDE MOUTH RELAXED
 MOVES AGAINST CHEEK,CENTRE STICKING OUT,CENTRE INSIDE MOUTH
1DA61
 qTEETH
1DA62 qTEETH
 MOVEMENT,ON TONGUE,ON TONGUE MOVEMENT,ON LIPS,ON LIPS MOVEMENT,BITE LIPS
1DA68 q
 MOVEMENT-WALLPLANE JAW,MOVEMENT-FLOORPLANE JAW,NECK,HAIR,EXCITEMENT,SHOULDER HIP SPINE
 SHOULDER HIP POSITIONS,WALLPLANE SHOULDER HIP MOVE,FLOORPLANE SHOULDER HIP MOVE
 SHOULDER TILTING FROM WAIST,TORSO-WALLPLANE STRAIGHT STRETCH,TORSO-WALLPLANE CURVED BEND
 TORSO-FLOORPLANE TWISTING,UPPER BODY TILTING FROM HIP JOINTS
1DA76 qLIMB
 COMBINATION,LENGTH-1~7
1DA7E q
 FINGER,LOCATION-WALLPLANE SPACE,LOCATION-FLOORPLANE SPACE
1DA81 qLOCATION
 HEIGHT,WIDTH,DEPTH,HEAD NECK,TORSO,LIMBS DIGITS
1DA87 q
 COMMA,FULL STOP,SEMICOLON,COLON,PARENTHESIS
1DA9B qFILL
 MODIFIER-2~6
1DAA1 qROTATION
 MODIFIER-2~16
1DF00 LATIN
 slFENG DIGRAPHwTRILL,slREVERSED SCRIPT G,lscTURNED G,slREVERSED K,lscLwBELT,slLEZHwRETROFLEX HOOK
 slTURNED YwBELT,slREVERSED ENG,slTURNED RwLONG LEGnRETROFLEX HOOK,slTwHOOKnRETROFLEX HOOK
 lRETROFLEX CLICKwRETROFLEX HOOK,slESHwdBAR,slESHwdBARnCURL,slTURNED TwCURL
 lINVERTED GLOTTAL STOPwCURL,lSTRETCHED CwCURL,lscTURNED K
1DF11 LATINsl
 LwFISHHOOK,DEZH DIGRAPHwPALATAL HOOK,LwBELTnPALATAL HOOK,ENGwPALATAL HOOK,TURNED RwPALATAL HOOK
 RwFISHHOOKnPALATAL HOOK,TESH DIGRAPHwPALATAL HOOK,EZHwPALATAL HOOK,DEZH DIGRAPHwRETROFLEX HOOK
 IwpnRETROFLEX HOOK,OwRETROFLEX HOOK,TESH DIGRAPHwRETROFLEX HOOK,CwRETROFLEX HOOK,SwCURL
1E000 COMBINING GLAGOLITICl
 AZU,BUKY,VEDE,GLAGOLI,DOBRO,YESTU,ZHIVETE,,ZEMLJA,IZHE,iIZHE,I,DJERVI,KAKO,LJUDIJE,MYSLITE,NASHI
 ONU,POKOJI,RITSI,SLOVO,TVRIDO,UKU,FRITU,HERU,,,SHTA,TSI,CHRIVI,SHA,YERU,YERI,YATI,,YU,sYUS,,YO
 IOTATEDsYUS,BIG YUS,IOTATED BIG YUS,FITA
1E100 NYIAKENG PUACHUE HMONGl
 MA,TSA,NTA,TA,HA,NA,XA,NKA,CA,LA,SA,ZA,NCA,NTSA,KA,DA,NYA,NRA,VA,NTXA,TXA,FA,RA,QA,YA,NQA,PA,XYA
 NPA,DLA,NPLA,HAH,MLA,PLA,GA,RRA,A,AA,I,U,O,OO,E,EE,W
1E130 NYIAKENG PUACHUE HMONG
 TONE-B,TONE-M,TONE-J,TONE-V,TONE-S,TONE-G,TONE-D,gFOR PERSON,gFOR THING,gFOR LOCATION,gFOR ANIMAL
 gFOR INVERTEBRATE,gXW XW,SYLLABLE LENGTHENER,,,DIGIT ZERO,DIGIT ONE,DIGIT TWO,DIGITt,DIGIT FOUR
 DIGIT FIVE,DIGIT SIX,DIGIT SEVEN,DIGIT EIGHT,DIGIT NINE,,,,,LOGOGRAM NYAJ,CIRCLED CA
1E290 TOTOl
 PA,BA,TA,DA,KA,GA,MA,NA,NGA,SA,CHA,YA,WA,JA,HA,RA,LA,I,BREATHY I,IU,BREATHY IU,U,E,BREATHY E,EO
 BREATHY EO,O,AE,BREATHY AE,A
1E2AE TOTOgRISING
 TONE
1E2C0 WANCHOl
 AA,A,BA,CA,DA,GA,YA,PHA,LA,NA,PA,TA,THA,FA,SA,SHA,JA,ZA,WA,VA,KA,O,AU,RA,MA,KHA,HA,E,I,NGA,U,LLHA
 TSA,TRA,ONG,AANG,ANG,ING,ON,EN,AAN,NYA,UEN,YIH
1E2EC WANCHO TONE
 TUP,TUPNI,KOI,KOINI
1E2F0 WANCHO DIGIT
 ZERO,ONE,TWO,t,FOUR,FIVE,SIX,SEVEN,EIGHT,NINE
1E2FF WANCHO
 NGUNg
1E7E0 ETHIOPIC SYLLABLE
 HHYA,HHYU,HHYI,HHYAA,HHYEE,HHYE,HHYO,,GURAGE HHWA,HHWI,HHWEE,HHWE
1E7ED ETHIOPIC SYLLABLE GURAGE
 MWI,MWEE,,QWI,QWEE,QWE,BWI,BWEE,KWI,KWEE,KWE,GWI,GWEE,GWE,FWI,FWEE,PWI,PWEE
1E800 MENDE KIKAKUI SYLLABLE
 M001 KI,M002 KA,M003 KU,M065 KEE,M095 KE,M076 KOO,M048 KO,M179 KUA,M004 WI,M005 WA,M006 WU,M126 WEE
 M118 WE,M114 WOO,M045 WO,M194 WUI,M143 WEI,M061 WVI,M049 WVA,M139 WVE,M007 MIN,M008 MAN,M009 MUN
 M059 MEN,M094 MON,M154 MUAN,M189 MUEN,M010 BI,M011 BA,M012 BU,M150 BEE,M097 BE,M103 BOO,M138 BO
 M013 I,M014 A,M015 U,M163 EE,M100 E,M165 OO,M147 O,M137 EI,M131 IN,M135 IN,M195 AN,M178 EN,M019 SI
 M020 SA,M021 SU,M162 SEE,M116 SE,M136 SOO,M079 SO,M196 SIA,M025 LI,M026 LA,M027 LU,M084 LEE,M073 LE
 M054 LOO,M153 LO,M110 LONG LE,M016 DI,M017 DA,M018 DU,M089 DEE,M180 DOO,M181 DO,M022 TI,M023 TA
 M024 TU,M091 TEE,M055 TE,M104 TOO,M069 TO,M028 JI,M029 JA,M030 JU,M157 JEE,M113 JE,M160 JOO,M063 JO
 M175 LONG JO,M031 YI,M032 YA,M033 YU,M109 YEE,M080 YE,M141 YOO,M121 YO,M034 FI,M035 FA,M036 FU
 M078 FEE,M075 FE,M133 FOO,M088 FO,M197 FUA,M101 FAN,M037 NIN,M038 NAN,M039 NUN,M117 NEN,M169 NON
 M176 HI,M041 HA,M186 HU,M040 HEE,M096 HE,M042 HOO,M140 HO,M083 HEEI,M128 HOOU,M053 HIN,M130 HAN
 M087 HUN,M052 HEN,M193 HON,M046 HUAN,M090 NGGI,M043 NGGA,M082 NGGU,M115 NGGEE,M146 NGGE,M156 NGGOO
 M120 NGGO,M159 NGGAA,M127 NGGUA,M086 LONG NGGE,M106 LONG NGGOO,M183 LONG NGGO,M155 GI,M111 GA
 M168 GU,M190 GEE,M166 GUEI,M167 GUAN,M184 NGEN,M057 NGON,M177 NGUAN,M068 PI,M099 PA,M050 PU
 M081 PEE,M051 PE,M102 POO,M066 PO,M145 MBI,M062 MBA,M122 MBU,M047 MBEE,M188 MBEE,M072 MBE,M172 MBOO
 M174 MBO,M187 MBUU,M161 LONG MBE,M105 LONG MBOO,M142 LONG MBO,M132 KPI,M092 KPA,M074 KPU,M044 KPEE
 M108 KPE,M112 KPOO,M158 KPO,M124 GBI,M056 GBA,M148 GBU,M093 GBEE,M107 GBE,M071 GBOO,M070 GBO
 M171 RA,M123 NDI,M129 NDA,M125 NDU,M191 NDEE,M119 NDE,M067 NDOO,M064 NDO,M152 NJA,M192 NJU
 M149 NJEE,M134 NJOO,M182 VI,M185 VA,M151 VU,M173 VEE,M085 VE,M144 VOO,M077 VO,M164 NYIN,M058 NYAN
 M170 NYUN,M098 NYEN,M060 NYON
1E8C7 MENDE KIKAKUI DIGIT
 ONE,TWO,t,FOUR,FIVE,SIX,SEVEN,EIGHT,NINE
1E8D0 MENDE KIKAKUI COMBINING NUMBER
 TEENS,TENS,HUNDREDS,THOUSANDS,TEN THOUSANDS,HUNDRED THOUSANDS,MILLIONS
1E900 ADLAMcl
 ALIF,DAALI,LAAM,MIIM,BA,SINNYIIYHE,PE,BHE,RA,E,FA,I,O,DHA,YHE,WAW,NUN,KAF,YA,U,JIIM,CHI,HA,QAAF,GA
 NYA,TU,NHA,VA,KHA,GBE,ZAL,KPO,SHA
1E922 ADLAMsl
 ALIF,DAALI,LAAM,MIIM,BA,SINNYIIYHE,PE,BHE,RA,E,FA,I,O,DHA,YHE,WAW,NUN,KAF,YA,U,JIIM,CHI,HA,QAAF,GA
 NYA,TU,NHA,VA,KHA,GBE,ZAL,KPO,SHA
1E944 ADLAM
 ALIF LENGTHENER,VOWEL LENGTHENER,GEMINATIONm,HAMZA,CONSONANT MODIFIER,GEMINATE CONSONANT MODIFIER
 NUKTA,NASALIZATIONm
1E950 ADLAM DIGIT
 ZERO,ONE,TWO,t,FOUR,FIVE,SIX,SEVEN,EIGHT,NINE
1E95E ADLAMi
 EXCLAMATIONm,QUESTIONm
1EC71 INDIC SIYAQ NUMBER
 ONE,TWO,t,FOUR,FIVE,SIX,SEVEN,EIGHT,NINE,TEN,TWENTY,THIRTY,FORTY,FIFTY,SIXTY,SEVENTY,EIGHTY,NINETY
 ONE HUNDRED,TWO HUNDRED,tHUNDRED,FOUR HUNDRED,FIVE HUNDRED,SIX HUNDRED,SEVEN HUNDRED,EIGHT HUNDRED
 NINE HUNDRED,ONE THOUSAND,TWO THOUSAND,tTHOUSAND,FOUR THOUSAND,FIVE THOUSAND,SIX THOUSAND
 SEVEN THOUSAND,EIGHT THOUSAND,NINE THOUSAND,TEN THOUSAND,TWENTY THOUSAND,THIRTY THOUSAND
 FORTY THOUSAND,FIFTY THOUSAND,SIXTY THOUSAND,SEVENTY THOUSAND,EIGHTY THOUSAND,NINETY THOUSAND,LAKH
 LAKHAN
1ECA0 INDIC SIYAQ
 LAKHm,NUMBER KAROR,NUMBER KARORAN
1ECA3 INDIC SIYAQ NUMBER PREFIXED
 ONE,TWO,t,FOUR,FIVE,SIX,SEVEN,EIGHT,NINE
1ECAC INDIC SIYAQ
 PLACEHOLDER,FRACTION ONE QUARTER,FRACTION ONE HALF,FRACTIONtQUARTERS,RUPEEm,NUMBER ALTERNATE ONE
 NUMBER ALTERNATE TWO,NUMBER ALTERNATE TEN THOUSAND,ALTERNATE LAKHm
1ED01 OTTOMAN SIYAQ NUMBER
 ONE,TWO,t,FOUR,FIVE,SIX,SEVEN,EIGHT,NINE,TEN,TWENTY,THIRTY,FORTY,FIFTY,SIXTY,SEVENTY,EIGHTY,NINETY
 ONE HUNDRED,TWO HUNDRED,tHUNDRED,FOUR HUNDRED,FIVE HUNDRED,SIX HUNDRED,SEVEN HUNDRED,EIGHT HUNDRED
 NINE HUNDRED,ONE THOUSAND,TWO THOUSAND,tTHOUSAND,FOUR THOUSAND,FIVE THOUSAND,SIX THOUSAND
 SEVEN THOUSAND,EIGHT THOUSAND,NINE THOUSAND,TEN THOUSAND,TWENTY THOUSAND,THIRTY THOUSAND
 FORTY THOUSAND,FIFTY THOUSAND,SIXTY THOUSAND,SEVENTY THOUSAND,EIGHTY THOUSAND,NINETY THOUSAND
1ED2E OTTOMAN SIYAQ
 MARRATAN
1ED2F OTTOMAN SIYAQ ALTERNATE NUMBER
 TWO,t,FOUR,FIVE,SIX,SEVEN,EIGHT,NINE,TEN,FOUR HUNDRED,SIX HUNDRED,TWO THOUSAND,TEN THOUSAND
1ED3C OTTOMAN SIYAQ FRACTION ONE
 HALF,SIXTH
1EE00 ARABIC MATHEMATICAL
 ALEF,BEH,JEEM,DAL,,WAW,ZAIN,HAH,TAH,YEH,KAF,LAM,MEEM,NOON,SEEN,AIN,FEH,SAD,QAF,REH,SHEEN,TEH,THEH
 KHAH,THAL,DAD,ZAH,GHAIN,DOTLESS BEH,DOTLESS NOON,DOTLESS FEH,DOTLESS QAF,,iBEH,iJEEM,,iHEH,,,iHAH,
 iYEH,iKAF,iLAM,iMEEM,iNOON,iSEEN,iAIN,iFEH,iSAD,iQAF,,iSHEEN,iTEH,iTHEH,iKHAH,,iDAD,,iGHAIN
1EE42 ARABIC MATHEMATICAL TAILED
 JEEM,,,,,HAH,,YEH,,LAM,,NOON,SEEN,AIN,,SAD,QAF,,SHEEN,,,KHAH,,DAD,,GHAIN,,DOTLESS NOON,,DOTLESS QAF
1EE61 ARABIC MATHEMATICAL STRETCHED
 BEH,JEEM,,HEH,,,HAH,TAH,YEH,KAF,,MEEM,NOON,SEEN,AIN,FEH,SAD,QAF,,SHEEN,TEH,THEH,KHAH,,DAD,ZAH,GHAIN
 DOTLESS BEH,,DOTLESS FEH
1EE80 ARABIC MATHEMATICAL LOOPED
 ALEF,BEH,JEEM,DAL,HEH,WAW,ZAIN,HAH,TAH,YEH,,LAM,MEEM,NOON,SEEN,AIN,FEH,SAD,QAF,REH,SHEEN,TEH,THEH
 KHAH,THAL,DAD,ZAH,GHAIN
1EEA1 ARABIC MATHEMATICAL DOUBLE-STRUCK
 BEH,JEEM,DAL,,WAW,ZAIN,HAH,TAH,YEH,,LAM,MEEM,NOON,SEEN,AIN,FEH,SAD,QAF,REH,SHEEN,TEH,THEH,KHAH,THAL
 DAD,ZAH,GHAIN
1EEF0 ARABIC MATHEMATICAL OPERATOR
 MEEMwHAHwTATWEEL,HAHwDAL"

end Throws.Text.CharacterNames
