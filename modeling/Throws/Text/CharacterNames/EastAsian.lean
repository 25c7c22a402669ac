/-!
# Names of East Asian scripts

Radicals, kana, bopomofo and Yi, and the alphabets in the same range, from Glagolitic to Meetei
Mayek.
-/

namespace Throws.Text.CharacterNames

/-- Characters from U+2C00 to U+D7FF. -/
def eastAsian : String := "2C00 GLAGOLITICcl
 AZU,BUKY,VEDE,GLAGOLI,DOBRO,YESTU,ZHIVETE,DZELO,ZEMLJA,IZHE,iIZHE,I,DJERVI,KAKO,LJUDIJE,MYSLITE
 NASHI,ONU,POKOJI,RITSI,SLOVO,TVRIDO,UKU,FRITU,HERU,OTU,PE,SHTA,TSI,CHRIVI,SHA,YERU,YERI,YATI
 SPIDERY HA,YU,sYUS,sYUSwTAIL,YO,IOTATEDsYUS,BIG YUS,IOTATED BIG YUS,FITA,IZHITSA,SHTAPIC
 TROKUTASTI A,LATINATE MYSLITE,CAUDATE CHRIVI
2C30 GLAGOLITICsl
 AZU,BUKY,VEDE,GLAGOLI,DOBRO,YESTU,ZHIVETE,DZELO,ZEMLJA,IZHE,iIZHE,I,DJERVI,KAKO,LJUDIJE,MYSLITE
 NASHI,ONU,POKOJI,RITSI,SLOVO,TVRIDO,UKU,FRITU,HERU,OTU,PE,SHTA,TSI,CHRIVI,SHA,YERU,YERI,YATI
 SPIDERY HA,YU,sYUS,sYUSwTAIL,YO,IOTATEDsYUS,BIG YUS,IOTATED BIG YUS,FITA,IZHITSA,SHTAPIC
 TROKUTASTI A,LATINATE MYSLITE,CAUDATE CHRIVI
2C60 LATIN
 clLwdBAR,slLwdBAR,clLwMIDDLE TILDE,clPwp,clRwTAIL,slAwp,slTwDIAGONALp,clHwDESCENDER,slHwDESCENDER
 clKwDESCENDER,slKwDESCENDER,clZwDESCENDER,slZwDESCENDER,clALPHA,clMwHOOK,clTURNED A,clTURNED ALPHA
 slVwrHOOK,clWwHOOK,slWwHOOK,slVwCURL,clHALF H,slHALF H,slTAILLESS PHI,slEwNOTCH,slTURNED RwTAIL
 slOwLOW RING INSIDE,lscTURNED E,SUBSCRIPTslJ
2C7D
 MODIFIERlcV
2C7E LATINcl
 SwSWASH TAIL,ZwSWASH TAIL
2C80 COPTIC
 clALFA,slALFA,clVIDA,slVIDA,clGAMMA,slGAMMA,clDALDA,slDALDA,clEIE,slEIE,clSOU,slSOU,clZATA,slZATA
 clHATE,slHATE,clTHETHE,slTHETHE,clIAUDA,slIAUDA,clKAPA,slKAPA,clLAULA,slLAULA,clMI,slMI,clNI,slNI
 clKSI,slKSI,clO,slO,clPI,slPI,clRO,slRO,clSIMA,slSIMA,clTAU,slTAU,clUA,slUA,clFI,slFI,clKHI,slKHI
 clPSI,slPSI,clOOU,slOOU,clDIALECT-P ALEF,slDIALECT-P ALEF,clOLD COPTIC AIN,slOLD COPTIC AIN
 clCRYPTOGRAMMIC EIE,slCRYPTOGRAMMIC EIE,clDIALECT-P KAPA,slDIALECT-P KAPA,clDIALECT-P NI
 slDIALECT-P NI,clCRYPTOGRAMMIC NI,slCRYPTOGRAMMIC NI,clOLD COPTIC OOU,slOLD COPTIC OOU,clSAMPI
 slSAMPI,clCROSSED SHEI,slCROSSED SHEI,clOLD COPTIC SHEI,slOLD COPTIC SHEI,clOLD COPTIC ESH
 slOLD COPTIC ESH,clAKHMIMIC KHEI,slAKHMIMIC KHEI,clDIALECT-P HORI,slDIALECT-P HORI
 clOLD COPTIC HORI,slOLD COPTIC HORI,clOLD COPTIC HA,slOLD COPTIC HA,clL-SHAPED HA,slL-SHAPED HA
 clOLD COPTIC HEI,slOLD COPTIC HEI,clOLD COPTIC HAT,slOLD COPTIC HAT,clOLD COPTIC GANGIA
 slOLD COPTIC GANGIA,clOLD COPTIC DJA,slOLD COPTIC DJA,clOLD COPTIC SHIMA,slOLD COPTIC SHIMA
 clOLD NUBIAN SHIMA,slOLD NUBIAN SHIMA,clOLD NUBIAN NGI,slOLD NUBIAN NGI,clOLD NUBIAN NYI
 slOLD NUBIAN NYI,clOLD NUBIAN WAU,slOLD NUBIAN WAU,uKAI,uMI RO,uPI RO,uSTAUROS,uTAU RO,uKHI RO
 uSHIMA SIMA,clCRYPTOGRAMMIC SHEI,slCRYPTOGRAMMIC SHEI,clCRYPTOGRAMMIC GANGIA,slCRYPTOGRAMMIC GANGIA
 COMBINING NIe,COMBINING SPIRITUS ASPER,COMBINING SPIRITUS LENIS,clBOHAIRIC KHEI,slBOHAIRIC KHEI
2CF9 COPTIC OLD NUBIAN
 FULL STOP,DIRECT QUESTIONm,INDIRECT QUESTIONm,VERSE DIVIDER
2CFD COPTIC
 FRACTION ONE HALF,FULL STOP,MORPHOLOGICAL DIVIDER
2D00 GEORGIANsl
 AN,BAN,GAN,DON,EN,VIN,ZEN,TAN,IN,KAN,LAS,MAN,NAR,ON,PAR,ZHAR,RAE,SAN,TAR,UN,PHAR,KHAR,GHAN,QAR,SHIN
 CHIN,CAN,JIL,CIL,CHAR,XAN,JHAN,HAE,HE,HIE,WE,HAR,HOE,,YN,,,,,,AEN
2D30 TIFINAGHl
 YA,YAB,YABH,YAG,YAGHH,BERBER ACADEMY YAJ,YAJ,YAD,YADH,YADD,YADDH,YEY,YAF,YAK,TUAREG YAK,YAKHH,YAH
 BERBER ACADEMY YAH,TUAREG YAH,YAHH,YAA,YAKH,TUAREG YAKH,YAQ,TUAREG YAQ,YI,YAZH,AHAGGAR YAZH
 TUAREG YAZH,YAL,YAM,YAN,TUAREG YAGN,TUAREG YANG,YAP,YU,YAR,YARR,YAGH,TUAREG YAGH,AYER YAGH,YAS,YASS
 YASH,YAT,YATH,YACH,YATT,YAV,YAW,YAY,YAZ,TAWELLEMET YAZ,YAZZ,YE,YO
2D6F TIFINAGH
 MODIFIERlLABIALIZATIONm,SEPARATORm,,,,,,,,,,,,,,,CONSONANT JOINER
2D80 ETHIOPIC SYLLABLE
 LOA,MOA,ROA,SOA,SHOA,BOA,TOA,COA,NOA,NYOA,GLOTTAL OA,ZOA,DOA,DDOA,JOA,THOA,CHOA,PHOA,POA,GGWA,GGWI
 GGWEE,GGWE,,,,,,,,,,SSA,SSU,SSI,SSAA,SSEE,SSE,SSO,,CCA,CCU,CCI,CCAA,CCEE,CCE,CCO,,ZZA,ZZU,ZZI,ZZAA
 ZZEE,ZZE,ZZO,,CCHA,CCHU,CCHI,CCHAA,CCHEE,CCHE,CCHO,,QYA,QYU,QYI,QYAA,QYEE,QYE,QYO,,KYA,KYU,KYI,KYAA
 KYEE,KYE,KYO,,XYA,XYU,XYI,XYAA,XYEE,XYE,XYO,,GYA,GYU,GYI,GYAA,GYEE,GYE,GYO
2DE0 COMBINING CYRILLICl
 BE,VE,GHE,DE,ZHE,ZE,KA,EL,EM,EN,O,PE,ER,ES,TE,HA,TSE,CHE,SHA,SHCHA,FITA,ES-TE,A,IE,DJERV
 MONOGRAPH UK,YAT,YU,IOTIFIED A,LITTLE YUS,BIG YUS,IOTIFIED BIG YUS
2E00 rANGLE
 SUBSTITUTION MARKER,DOTTED SUBSTITUTION MARKER
2E02
 xSUBSTITUTION BRACKET,rSUBSTITUTION BRACKET,xDOTTED SUBSTITUTION BRACKET
 rDOTTED SUBSTITUTION BRACKET,RAISED INTERPOLATION MARKER,RAISED DOTTED INTERPOLATION MARKER
 DOTTED TRANSPOSITION MARKER,xTRANSPOSITION BRACKET,rTRANSPOSITION BRACKET,RAISED SQUARE
 xRAISED OMISSION BRACKET,rRAISED OMISSION BRACKET,EDITORIAL CORONIS,PARAGRAPHOS,FORKED PARAGRAPHOS
 REVERSED FORKED PARAGRAPHOS,HYPODIASTOLE,DOTTED OBELOS,DOWNWARDS ANCORA,UPWARDS ANCORA
 DOTTED RIGHT-POINTING ANGLE,dOBLIQUE HYPHEN,INVERTED INTERROBANG,PALM BRANCH,HYPHENwDIAERESIS
 TILDEwRINGe,xLOW PARAPHRASE BRACKET,rLOW PARAPHRASE BRACKET,TILDEwDOTe,TILDEwDOTb,xvBARwQUILL
 rvBARwQUILL,TOPxHALF BRACKET,TOPrHALF BRACKET,BOTTOMxHALF BRACKET,BOTTOMrHALF BRACKET
 xSIDEWAYS U BRACKET,rSIDEWAYS U BRACKET,xdPARENTHESIS,rdPARENTHESIS
 TWO DOTS OVER ONE DOT PUNCTUATION,ONE DOT OVER TWO DOTS PUNCTUATION,SQUARED FOUR DOT PUNCTUATION
 FIVE DOTm,REVERSED QUESTIONm,vTILDE,RING POINT,WORD SEPARATOR MIDDLE DOT,TURNED COMMA,RAISED DOT
 RAISED COMMA,TURNED SEMICOLON,DAGGERwxGUARD,DAGGERwrGUARD,TURNED DAGGER,TOP HALF SECTIONg
 TWO-EM DASH,THREE-EM DASH,STENOGRAPHIC FULL STOP,vSIX DOTS,WIGGLYvLINE,CAPITULUM,dHYPHEN
 REVERSED COMMA,dLOW-REVERSED-9 QUOTATIONm,DASHwxUPTURN,dSUSPENSIONm
2E45 INVERTED LOW
 KAVYKA,KAVYKAwKAVYKAe
2E47
 LOW KAVYKA,LOW KAVYKAwDOT,dSTACKED COMMA,DOTTED SOLIDUS,TRIPLE DAGGER,MEDIEVAL COMMA,PARAGRAPHUSm
 PUNCTUS ELEVATUSm,CORNISH VERSE DIVIDER,CROSS PATTYwrCROSSBAR,CROSS PATTYwxCROSSBAR,TIRONIANgcET
 MEDIEVAL EXCLAMATIONm,MEDIEVAL QUESTIONm,xSQUARE BRACKETwp,rSQUARE BRACKETwp,xSQUARE BRACKETwdp
 rSQUARE BRACKETwdp,TOP HALFxPARENTHESIS,TOP HALFrPARENTHESIS,BOTTOM HALFxPARENTHESIS
 BOTTOM HALFrPARENTHESIS,OBLIQUE HYPHEN
2E80 CJK RADICAL
 REPEAT,CLIFF,SECOND ONE,SECOND TWO,SECONDt,PERSON,BOX,TABLE,KNIFE ONE,KNIFE TWO,DIVINATION,SEAL
 sONE,sTWO,LAME ONE,LAME TWO,LAMEt,LAME FOUR,SNAKE,THREAD,SNOUT ONE,SNOUT TWO,HEART ONE,HEART TWO
 HAND,RAP,,CHOKE,SUN,MOON,DEATH,MOTHER,CIVILIAN,WATER ONE,WATER TWO,FIRE,PAW ONE,PAW TWO
 SIMPLIFIED HALF TREE TRUNK,COW,DOG,JADE,BOLT OF CLOTH,EYE,SPIRIT ONE,SPIRIT TWO,BAMBOO,SILK
 C-SIMPLIFIED SILK,NET ONE,NET TWO,NETt,NET FOUR,MESH,SHEEP,RAM,EWE,OLD,BRUSH ONE,BRUSH TWO,MEAT
 MORTAR,GRASS ONE,GRASS TWO,GRASSt,TIGER,CLOTHES,WEST ONE,WEST TWO,C-SIMPLIFIED SEE,SIMPLIFIED HORN
 HORN,C-SIMPLIFIED SPEECH,C-SIMPLIFIED SHELL,FOOT,C-SIMPLIFIED CART,SIMPLIFIED WALK,WALK ONE
 WALK TWO,CITY,C-SIMPLIFIED GOLD,LONG ONE,LONG TWO,C-SIMPLIFIED LONG,C-SIMPLIFIED GATE,MOUND ONE
 MOUND TWO,RAIN,BLUE
2ED9 CJK RADICAL C-SIMPLIFIED
 TANNED LEATHER,LEAF,WIND,FLY
2EDD CJK RADICAL
 EAT ONE,EAT TWO,EATt,C-SIMPLIFIED EAT,HEAD,C-SIMPLIFIED HORSE,BONE,GHOST,C-SIMPLIFIED FISH
 C-SIMPLIFIED BIRD,C-SIMPLIFIED SALT,SIMPLIFIED WHEAT,SIMPLIFIED YELLOW,C-SIMPLIFIED FROG
 J-SIMPLIFIED EVEN,C-SIMPLIFIED EVEN,J-SIMPLIFIED TOOTH,C-SIMPLIFIED TOOTH,J-SIMPLIFIED DRAGON
 C-SIMPLIFIED DRAGON,TURTLE,J-SIMPLIFIED TURTLE,C-SIMPLIFIED TURTLE
2F00 KANGXI RADICAL
 ONE,LINE,DOT,SLASH,SECOND,HOOK,TWO,LID,MAN,LEGS,ENTER,EIGHT,DOWN BOX,COVER,ICE,TABLE,OPEN BOX,KNIFE
 POWER,WRAP,SPOON,rOPEN BOX,HIDING ENCLOSURE,TEN,DIVINATION,SEAL,CLIFF,PRIVATE,AGAIN,MOUTH,ENCLOSURE
 EARTH,SCHOLAR,GO,GO SLOWLY,EVENING,BIG,WOMAN,CHILD,ROOF,INCH,s,LAME,CORPSE,SPROUT,MOUNTAIN,RIVER
 WORK,ONESELF,TURBAN,DRY,SHORT THREAD,DOTTED CLIFF,LONG STRIDE,TWO HANDS,SHOOT,BOW,SNOUT,BRISTLE
 STEP,HEART,HALBERD,DOOR,HAND,BRANCH,RAP,SCRIPT,DIPPER,AXE,SQUARE,NOT,SUN,SAY,MOON,TREE,LACK,STOP
 DEATH,WEAPON,DO NOT,COMPARE,FUR,CLAN,STEAM,WATER,FIRE,CLAW,FATHER,dX,HALF TREE TRUNK,SLICE,FANG,COW
 DOG,PROFOUND,JADE,MELON,TILE,SWEET,LIFE,USE,FIELD,BOLT OF CLOTH,SICKNESS,DOTTED TENT,h,SKIN,DISH
 EYE,SPEAR,a,STONE,SPIRIT,TRACK,GRAIN,CAVE,STAND,BAMBOO,RICE,SILK,JAR,NET,SHEEP,FEATHER,OLD,n,PLOW
 EAR,BRUSH,MEAT,MINISTER,SELF,ARRIVE,MORTAR,TONGUE,OPPOSE,BOAT,STOPPING,COLOR,GRASS,TIGER,INSECT
 BLOOD,WALK ENCLOSURE,CLOTHES,WEST,SEE,HORN,SPEECH,VALLEY,BEAN,PIG,BADGER,SHELL,RED,RUN,FOOT,BODY
 CART,BITTER,MORNING,WALK,CITY,WINE,DISTINGUISH,VILLAGE,GOLD,LONG,GATE,MOUND,SLAVE,SHORT TAILED BIRD
 RAIN,BLUE,WRONG,FACE,LEATHER,TANNED LEATHER,LEEK,SOUND,LEAF,WIND,FLY,EAT,HEAD,FRAGRANT,HORSE,BONE
 TALL,HAIR,FIGHT,SACRIFICIAL WINE,CAULDRON,GHOST,FISH,BIRD,SALT,DEER,WHEAT,HEMP,YELLOW,MILLET,k
 EMBROIDERY,FROG,TRIPOD,DRUM,RAT,NOSE,EVEN,TOOTH,DRAGON,TURTLE,FLUTE
2FF0 IDEOGRAPHIC DESCRIPTION CHARACTER
 xTOr,eTOb,xTO MIDDLEnr,eTO MIDDLEnb,FULL SURROUND
2FF5 IDEOGRAPHIC DESCRIPTION CHARACTER SURROUND FROM
 e,b,x,UPPERx,UPPERr,LOWERx
2FFB IDEOGRAPHIC
 DESCRIPTION CHARACTER OVERLAID,,,,,SPACE,COMMA,FULL STOP
3003
 DITTOm,JAPANESE INDUSTRIAL STANDARDu
3005 IDEOGRAPHIC
 ITERATIONm,CLOSINGm,NUMBER ZERO
3008
 xANGLE BRACKET,rANGLE BRACKET,xdANGLE BRACKET,rdANGLE BRACKET,xCORNER BRACKET,rCORNER BRACKET
 xhCORNER BRACKET,rhCORNER BRACKET,xkLENTICULAR BRACKET,rkLENTICULAR BRACKET,POSTALm,GETAm
 xTORTOISE SHELL BRACKET,rTORTOISE SHELL BRACKET,xhLENTICULAR BRACKET,rhLENTICULAR BRACKET
 xhTORTOISE SHELL BRACKET,rhTORTOISE SHELL BRACKET,xhSQUARE BRACKET,rhSQUARE BRACKET,WAVE DASH
 REVERSEDdPRIME QUOTATIONm,dPRIME QUOTATIONm,LOWdPRIME QUOTATIONm,POSTALmFACE
3021 HANGZHOU NUMERAL
 ONE,TWO,t,FOUR,FIVE,SIX,SEVEN,EIGHT,NINE
302A IDEOGRAPHIC
 LEVEL TONEm,RISING TONEm,DEPARTING TONEm,ENTERING TONEm
302E HANGUL
 SINGLE DOT TONEm,dDOT TONEm
3030 WAVY
 DASH
3031 vKANA REPEAT
 m,wVOICED SOUNDm,mUPPER HALF,wVOICED SOUNDmUPPER HALF,mLOWER HALF
3036
 CIRCLED POSTALm,IDEOGRAPHIC TELEGRAPH LINE FEED SEPARATORu
3038 HANGZHOU NUMERAL
 TEN,TWENTY,THIRTY
303B
 vIDEOGRAPHIC ITERATIONm,MASUm,PART ALTERNATIONm
303E IDEOGRAPHIC
 VARIATION INDICATOR,HALF FILL SPACE
3041 HIRAGANAl
 sA,A,sI,I,sU,U,sE,E,sO,O,KA,GA,KI,GI,KU,GU,KE,GE,KO,GO,SA,ZA,SI,ZI,SU,ZU,SE,ZE,SO,ZO,TA,DA,TI,DI
 sTU,TU,DU,TE,DE,TO,DO,NA,NI,NU,NE,NO,HA,BA,PA,HI,BI,PI,HU,BU,PU,HE,BE,PE,HO,BO,PO,MA,MI,MU,ME,MO
 sYA,YA,sYU,YU,sYO,YO,RA,RI,RU,RE,RO,sWA,WA,WI,WE,WO,N,VU,sKA,sKE
3099 COMBINING KATAKANA-HIRAGANA
 VOICED SOUNDm,SEMI-VOICED SOUNDm
309B KATAKANA-HIRAGANA
 VOICED SOUNDm,SEMI-VOICED SOUNDm
309D HIRAGANA
 ITERATIONm,VOICED ITERATIONm,DIGRAPH YORI
30A0
 KATAKANA-HIRAGANAdHYPHEN
30A1 KATAKANAl
 sA,A,sI,I,sU,U,sE,E,sO,O,KA,GA,KI,GI,KU,GU,KE,GE,KO,GO,SA,ZA,SI,ZI,SU,ZU,SE,ZE,SO,ZO,TA,DA,TI,DI
 sTU,TU,DU,TE,DE,TO,DO,NA,NI,NU,NE,NO,HA,BA,PA,HI,BI,PI,HU,BU,PU,HE,BE,PE,HO,BO,PO,MA,MI,MU,ME,MO
 sYA,YA,sYU,YU,sYO,YO,RA,RI,RU,RE,RO,sWA,WA,WI,WE,WO,N,VU,sKA,sKE,VA,VI,VE,VO
30FB
 KATAKANA MIDDLE DOT,KATAKANA-HIRAGANA PROLONGED SOUNDm
30FD KATAKANA
 ITERATIONm,VOICED ITERATIONm,DIGRAPH KOTO
3105 BOPOMOFOl
 B,P,M,F,D,T,N,L,G,K,H,J,Q,X,ZH,CH,SH,R,Z,C,S,A,O,E,EH,AI,EI,AU,OU,AN,EN,ANG,ENG,ER,I,U,IU,V,NG,GN
 IH,OwDOTe,NN
3131 HANGULl
 KIYEOK,SSANGKIYEOK,KIYEOK-SIOS,NIEUN,NIEUN-CIEUC,NIEUN-HIEUH,TIKEUT,SSANGTIKEUT,RIEUL,RIEUL-KIYEOK
 RIEUL-MIEUM,RIEUL-PIEUP,RIEUL-SIOS,RIEUL-THIEUTH,RIEUL-PHIEUPH,RIEUL-HIEUH,MIEUM,PIEUP,SSANGPIEUP
 PIEUP-SIOS,SIOS,SSANGSIOS,IEUNG,CIEUC,SSANGCIEUC,CHIEUCH,KHIEUKH,THIEUTH,PHIEUPH,HIEUH,A,AE,YA,YAE
 EO,E,YEO,YE,O,WA,WAE,OE,YO,U,WEO,WE,WI,YU,EU,YI,I
3164 HANGUL
 FILLER
3165 HANGULl
 SSANGNIEUN,NIEUN-TIKEUT,NIEUN-SIOS,NIEUN-PANSIOS,RIEUL-KIYEOK-SIOS,RIEUL-TIKEUT,RIEUL-PIEUP-SIOS
 RIEUL-PANSIOS,RIEUL-YEORINHIEUH,MIEUM-PIEUP,MIEUM-SIOS,MIEUM-PANSIOS,KAPYEOUNMIEUM,PIEUP-KIYEOK
 PIEUP-TIKEUT,PIEUP-SIOS-KIYEOK,PIEUP-SIOS-TIKEUT,PIEUP-CIEUC,PIEUP-THIEUTH,KAPYEOUNPIEUP
 KAPYEOUNSSANGPIEUP,SIOS-KIYEOK,SIOS-NIEUN,SIOS-TIKEUT,SIOS-PIEUP,SIOS-CIEUC,PANSIOS,SSANGIEUNG
 YESIEUNG,YESIEUNG-SIOS,YESIEUNG-PANSIOS,KAPYEOUNPHIEUPH,SSANGHIEUH,YEORINHIEUH,YO-YA,YO-YAE,YO-I
 YU-YEO,YU-YE,YU-I,ARAEA,ARAEAE
3190 IDEOGRAPHIC ANNOTATION
 LINKINGm,REVERSEm,ONEm,TWOm,tm,FOURm,TOPm,MIDDLEm,BOTTOMm,FIRSTm,SECONDm,THIRDm,FOURTHm,HEAVENm
 EARTHm,MANm
31A0 BOPOMOFOl
 BU,ZI,JI,GU,EE,ENN,OO,ONN,IR,ANN,INN,UNN,IM,NGG,AINN,AUNN,AM,OM,ONG,INNN
31B4 BOPOMOFO
 olP,olT,olK,olH,lGH,lLH,lZY,olG,lGW,lKW,lOE,lAH
31C0 CJKp
 T,WG,XG,BXG,SW,HZZ,HZG,HP,HZWG,SZWG,HZT,HZZP,HPWG,HZW,HZZZ,N,H,S,P,SP,D,HZ,HG,SZ,SWZ,ST,SG,PD,PZ,TN
 SZZ,SWG,HXWG,HZZZG,PG,Q
31F0 KATAKANAls
 KU,SI,SU,TO,NU,HA,HI,HU,HE,HO,MU,RA,RI,RU,RE,RO
3200 PARENTHESIZED HANGUL
 KIYEOK,NIEUN,TIKEUT,RIEUL,MIEUM,PIEUP,SIOS,IEUNG,CIEUC,CHIEUCH,KHIEUKH,THIEUTH,PHIEUPH,HIEUH
 KIYEOK A,NIEUN A,TIKEUT A,RIEUL A,MIEUM A,PIEUP A,SIOS A,IEUNG A,CIEUC A,CHIEUCH A,KHIEUKH A
 THIEUTH A,PHIEUPH A,HIEUH A,CIEUC U
321D PARENTHESIZED KOREAN CHARACTER
 OJEON,O HU
3220 PARENTHESIZED IDEOGRAPH
 ONE,TWO,t,FOUR,FIVE,SIX,SEVEN,EIGHT,NINE,TEN,MOON,FIRE,WATER,WOOD,METAL,EARTH,SUN,STOCK,HAVE
 SOCIETY,NAME,SPECIAL,FINANCIAL,CONGRATULATION,LABOR,REPRESENT,CALL,STUDY,SUPERVISE,ENTERPRISE
 RESOURCE,ALLIANCE,FESTIVAL,REST,SELF,REACH
3244 CIRCLED IDEOGRAPH
 QUESTION,KINDERGARTEN,SCHOOL,KOTO
3248 CIRCLED NUMBER
 TEN ONkSQUARE,TWENTY ONkSQUARE,THIRTY ONkSQUARE,FORTY ONkSQUARE,FIFTY ONkSQUARE,SIXTY ONkSQUARE
 SEVENTY ONkSQUARE,EIGHTY ONkSQUARE
3250
 PARTNERSHIPg
3251 CIRCLED NUMBER TWENTY
 ONE,TWO,t,FOUR,FIVE,SIX,SEVEN,EIGHT,NINE
325A CIRCLED NUMBER
 THIRTY
325B CIRCLED NUMBER THIRTY
 ONE,TWO,t,FOUR,FIVE
3260 CIRCLED HANGUL
 KIYEOK,NIEUN,TIKEUT,RIEUL,MIEUM,PIEUP,SIOS,IEUNG,CIEUC,CHIEUCH,KHIEUKH,THIEUTH,PHIEUPH,HIEUH
 KIYEOK A,NIEUN A,TIKEUT A,RIEUL A,MIEUM A,PIEUP A,SIOS A,IEUNG A,CIEUC A,CHIEUCH A,KHIEUKH A
 THIEUTH A,PHIEUPH A,HIEUH A
327C CIRCLED KOREAN CHARACTER
 CHAMKO,JUEUI
327E
 CIRCLED HANGUL IEUNG U,KOREAN STANDARDu
3280 CIRCLED IDEOGRAPH
 ONE,TWO,t,FOUR,FIVE,SIX,SEVEN,EIGHT,NINE,TEN,MOON,FIRE,WATER,WOOD,METAL,EARTH,SUN,STOCK,HAVE
 SOCIETY,NAME,SPECIAL,FINANCIAL,CONGRATULATION,LABOR,SECRET,MALE,FEMALE,SUITABLE,EXCELLENT,PRINT
 ATTENTION,ITEM,REST,COPY,CORRECT,HIGH,CENTRE,LOW,x,r,MEDICINE,RELIGION,STUDY,SUPERVISE,ENTERPRISE
 RESOURCE,ALLIANCE,NIGHT
32B1 CIRCLED NUMBER THIRTY
 SIX,SEVEN,EIGHT,NINE
32B5 CIRCLED NUMBER
 FORTY
32B6 CIRCLED NUMBER FORTY
 ONE,TWO,t,FOUR,FIVE,SIX,SEVEN,EIGHT,NINE
32BF CIRCLED NUMBER
 FIFTY
32C0 IDEOGRAPHIC TELEGRAPHuFOR
 JANUARY,FEBRUARY,MARCH,APRIL,MAY,JUNE,JULY,AUGUST,SEPTEMBER,OCTOBER,NOVEMBER,DECEMBER
32CC SQUARE
 HG,ERG,EV
32CF LIMITED
 LIABILITYg
32D0 CIRCLED KATAKANA
 A,I,U,E,O,KA,KI,KU,KE,KO,SA,SI,SU,SE,SO,TA,TI,TU,TE,TO,NA,NI,NU,NE,NO,HA,HI,HU,HE,HO,MA,MI,MU,ME,MO
 YA,YU,YO,RA,RI,RU,RE,RO,WA,WI,WE,WO
32FF SQUARE
 ERA NAME REIWA,APAATO,ARUHUA,ANPEA,AARU,ININGU,INTI,UON,ESUKUUDO,EEKAA,ONSU,OOMU,KAIRI,KARATTO
 KARORII,GARON,GANMA,GIGA,GINII,KYURII,GIRUDAA,KIRO,KIROGURAMU,KIROMEETORU,KIROWATTO,GURAMU
 GURAMUTON,KURUZEIRO,KUROONE,KEESU,KORUNA,KOOPO,SAIKURU,SANTIIMU,SIRINGU,SENTI,SENTO,DAASU,DESI,DORU
 TON,NANO,NOTTO,HAITU,PAASENTO,PAATU,BAARERU,PIASUTORU,PIKURU,PIKO,BIRU,HUARADDO,HUIITO,BUSSYERU
 HURAN,HEKUTAARU,PESO,PENIHI,HERUTU,PENSU,PEEZI,BEETA,POINTO,BORUTO,HON,PONDO,HOORU,HOON,MAIKURO
 MAIRU,MAHHA,MARUKU,MANSYON,MIKURON,MIRI,MIRIBAARU,MEGA,MEGATON,MEETORU,YAADO,YAARU,YUAN,RITTORU
 RIRA,RUPII,RUUBURU,REMU,RENTOGEN,WATTO
3358 IDEOGRAPHIC TELEGRAPHuFOR HOUR
 ZERO,ONE,TWO,t,FOUR,FIVE,SIX,SEVEN,EIGHT,NINE,TEN,ELEVEN,TWELVE,THIRTEEN,FOURTEEN,FIFTEEN,SIXTEEN
 SEVENTEEN,EIGHTEEN,NINETEEN,TWENTY,TWENTY-ONE,TWENTY-TWO,TWENTY-THREE,TWENTY-FOUR
3371 SQUARE
 HPA,DA,AU,BAR,OV,PC,DM,DM SQUARED,DM CUBED,IU
337B SQUARE ERA NAME
 HEISEI,SYOUWA,TAISYOU,MEIZI
337F SQUARE
 CORPORATION,PA AMPS,NA,MU A,MA,KA,KB,MB,GB,CAL,KCAL,PF,NF,MU F,MU G,MG,KG,HZ,KHZ,MHZ,GHZ,THZ,MU L
 ML,DL,KL,FM,NM,MU M,MM,CM,KM,MM SQUARED,CM SQUARED,M SQUARED,KM SQUARED,MM CUBED,CM CUBED,M CUBED
 KM CUBED,M OVER S,M OVER S SQUARED,PA,KPA,MPA,GPA,RAD,RAD OVER S,RAD OVER S SQUARED,PS,NS,MU S,MS
 PV,NV,MU V,MV,KV,MV MEGA,PW,NW,MU W,MW,KW,MW MEGA,K OHM,M OHM,AM,BQ,CC,CD,C OVER KG,CO,DB,GY,HA,HP
 IN,KK,KMc,KT,LM,LN,LOG,LX,MBs,MIL,MOL,PH,PM,PPM,PR,SR,SV,WB,V OVER M,A OVER M
33E0 IDEOGRAPHIC TELEGRAPHuFOR DAY
 ONE,TWO,t,FOUR,FIVE,SIX,SEVEN,EIGHT,NINE,TEN,ELEVEN,TWELVE,THIRTEEN,FOURTEEN,FIFTEEN,SIXTEEN
 SEVENTEEN,EIGHTEEN,NINETEEN,TWENTY,TWENTY-ONE,TWENTY-TWO,TWENTY-THREE,TWENTY-FOUR,TWENTY-FIVE
 TWENTY-SIX,TWENTY-SEVEN,TWENTY-EIGHT,TWENTY-NINE,THIRTY,THIRTY-ONE
33FF SQUARE
 GAL
4DC0 HEXAGRAM FOR
 THE CREATIVE HEAVEN,THE RECEPTIVE EARTH,DIFFICULTY AT THE BEGINNING,YOUTHFUL FOLLY,WAITING,CONFLICT
 THE ARMY,HOLDING TOGETHER,sTAMING,TREADING,PEACE,STANDSTILL,FELLOWSHIP,GREAT POSSESSION,MODESTY
 ENTHUSIASM,FOLLOWING,WORK ON THE DECAYED,APPROACH,CONTEMPLATION,BITING THROUGH,GRACE
 SPLITTING APART,RETURN,INNOCENCE,GREAT TAMING,MOUTH CORNERS,GREAT PREPONDERANCE,THE ABYSMAL WATER
 THE CLINGING FIRE,INFLUENCE,DURATION,RETREAT,GREAT POWER,PROGRESS,DARKENING OF THE LIGHT,THE FAMILY
 OPPOSITION,OBSTRUCTION,DELIVERANCE,DECREASE,INCREASE,BREAKTHROUGH,COMING TO MEET,GATHERING TOGETHER
 PUSHING UPWARD,OPPRESSION,THE WELL,REVOLUTION,THE CAULDRON,THE AROUSING THUNDER
 THE KEEPING STILL MOUNTAIN,DEVELOPMENT,THE MARRYING MAIDEN,ABUNDANCE,THE WANDERER,THE GENTLE WIND
 THE JOYOUS LAKE,DISPERSION,LIMITATION,INNER TRUTH,sPREPONDERANCE,AFTER COMPLETION,BEFORE COMPLETION
A000 YI SYLLABLE
 IT,IX,I,IP,IET,IEX,IE,IEP,AT,AX,A,AP,UOX,UO,UOP,OT,OX,O,OP,EX,E,WU,BIT,BIX,BI,BIP,BIET,BIEX,BIE
 BIEP,BAT,BAX,BA,BAP,BUOX,BUO,BUOP,BOT,BOX,BO,BOP,BEX,BE,BEP,BUT,BUX,BU,BUP,BURX,BUR,BYT,BYX,BY,BYP
 BYRX,BYR,PIT,PIX,PI,PIP,PIEX,PIE,PIEP,PAT,PAX,PA,PAP,PUOX,PUO,PUOP,POT,POX,PO,POP,PUT,PUX,PU,PUP
 PURX,PUR,PYT,PYX,PY,PYP,PYRX,PYR,BBIT,BBIX,BBI,BBIP,BBIET,BBIEX,BBIE,BBIEP,BBAT,BBAX,BBA,BBAP,BBUOX
 BBUO,BBUOP,BBOT,BBOX,BBO,BBOP,BBEX,BBE,BBEP,BBUT,BBUX,BBU,BBUP,BBURX,BBUR,BBYT,BBYX,BBY,BBYP,NBIT
 NBIX,NBI,NBIP,NBIEX,NBIE,NBIEP,NBAT,NBAX,NBA,NBAP,NBOT,NBOX,NBO,NBOP,NBUT,NBUX,NBU,NBUP,NBURX,NBUR
 NBYT,NBYX,NBY,NBYP,NBYRX,NBYR,HMIT,HMIX,HMI,HMIP,HMIEX,HMIE,HMIEP,HMAT,HMAX,HMA,HMAP,HMUOX,HMUO
 HMUOP,HMOT,HMOX,HMO,HMOP,HMUT,HMUX,HMU,HMUP,HMURX,HMUR,HMYX,HMY,HMYP,HMYRX,HMYR,MIT,MIX,MI,MIP,MIEX
 MIE,MIEP,MAT,MAX,MA,MAP,MUOT,MUOX,MUO,MUOP,MOT,MOX,MO,MOP,MEX,ME,MUT,MUX,MU,MUP,MURX,MUR,MYT,MYX,MY
 MYP,FIT,FIX,FI,FIP,FAT,FAX,FA,FAP,FOX,FO,FOP,FUT,FUX,FU,FUP,FURX,FUR,FYT,FYX,FY,FYP,VIT,VIX,VI,VIP
 VIET,VIEX,VIE,VIEP,VAT,VAX,VA,VAP,VOT,VOX,VO,VOP,VEX,VEP,VUT,VUX,VU,VUP,VURX,VUR,VYT,VYX,VY,VYP
 VYRX,VYR,DIT,DIX,DI,DIP,DIEX,DIE,DIEP,DAT,DAX,DA,DAP,DUOX,DUO,DOT,DOX,DO,DOP,DEX,DE,DEP,DUT,DUX,DU
 DUP,DURX,DUR,TIT,TIX,TI,TIP,TIEX,TIE,TIEP,TAT,TAX,TA,TAP,TUOT,TUOX,TUO,TUOP,TOT,TOX,TO,TOP,TEX,TE
 TEP,TUT,TUX,TU,TUP,TURX,TUR,DDIT,DDIX,DDI,DDIP,DDIEX,DDIE,DDIEP,DDAT,DDAX,DDA,DDAP,DDUOX,DDUO,DDUOP
 DDOT,DDOX,DDO,DDOP,DDEX,DDE,DDEP,DDUT,DDUX,DDU,DDUP,DDURX,DDUR,NDIT,NDIX,NDI,NDIP,NDIEX,NDIE,NDAT
 NDAX,NDA,NDAP,NDOT,NDOX,NDO,NDOP,NDEX,NDE,NDEP,NDUT,NDUX,NDU,NDUP,NDURX,NDUR,HNIT,HNIX,HNI,HNIP
 HNIET,HNIEX,HNIE,HNIEP,HNAT,HNAX,HNA,HNAP,HNUOX,HNUO,HNOT,HNOX,HNOP,HNEX,HNE,HNEP,HNUT,NIT,NIX,NI
 NIP,NIEX,NIE,NIEP,NAX,NA,NAP,NUOX,NUO,NUOP,NOT,NOX,NO,NOP,NEX,NE,NEP,NUT,NUX,NU,NUP,NURX,NUR,HLIT
 HLIX,HLI,HLIP,HLIEX,HLIE,HLIEP,HLAT,HLAX,HLA,HLAP,HLUOX,HLUO,HLUOP,HLOX,HLO,HLOP,HLEX,HLE,HLEP,HLUT
 HLUX,HLU,HLUP,HLURX,HLUR,HLYT,HLYX,HLY,HLYP,HLYRX,HLYR,LIT,LIX,LI,LIP,LIET,LIEX,LIE,LIEP,LAT,LAX,LA
 LAP,LUOT,LUOX,LUO,LUOP,LOT,LOX,LO,LOP,LEX,LE,LEP,LUT,LUX,LU,LUP,LURX,LUR,LYT,LYX,LY,LYP,LYRX,LYR
 GIT,GIX,GI,GIP,GIET,GIEX,GIE,GIEP,GAT,GAX,GA,GAP,GUOT,GUOX,GUO,GUOP,GOT,GOX,GO,GOP,GET,GEX,GE,GEP
 GUT,GUX,GU,GUP,GURX,GUR,KIT,KIX,KI,KIP,KIEX,KIE,KIEP,KAT,KAX,KA,KAP,KUOX,KUO,KUOP,KOT,KOX,KO,KOP
 KET,KEX,KE,KEP,KUT,KUX,KU,KUP,KURX,KUR,GGIT,GGIX,GGI,GGIEX,GGIE,GGIEP,GGAT,GGAX,GGA,GGAP,GGUOT
 GGUOX,GGUO,GGUOP,GGOT,GGOX,GGO,GGOP,GGET,GGEX,GGE,GGEP,GGUT,GGUX,GGU,GGUP,GGURX,GGUR,MGIEX,MGIE
 MGAT,MGAX,MGA,MGAP,MGUOX,MGUO,MGUOP,MGOT,MGOX,MGO,MGOP,MGEX,MGE,MGEP,MGUT,MGUX,MGU,MGUP,MGURX,MGUR
 HXIT,HXIX,HXI,HXIP,HXIET,HXIEX,HXIE,HXIEP,HXAT,HXAX,HXA,HXAP,HXUOT,HXUOX,HXUO,HXUOP,HXOT,HXOX,HXO
 HXOP,HXEX,HXE,HXEP,NGIEX,NGIE,NGIEP,NGAT,NGAX,NGA,NGAP,NGUOT,NGUOX,NGUO,NGOT,NGOX,NGO,NGOP,NGEX,NGE
 NGEP,HIT,HIEX,HIE,HAT,HAX,HA,HAP,HUOT,HUOX,HUO,HUOP,HOT,HOX,HO,HOP,HEX,HE,HEP,WAT,WAX,WA,WAP,WUOX
 WUO,WUOP,WOX,WO,WOP,WEX,WE,WEP,ZIT,ZIX,ZI,ZIP,ZIEX,ZIE,ZIEP,ZAT,ZAX,ZA,ZAP,ZUOX,ZUO,ZUOP,ZOT,ZOX,ZO
 ZOP,ZEX,ZE,ZEP,ZUT,ZUX,ZU,ZUP,ZURX,ZUR,ZYT,ZYX,ZY,ZYP,ZYRX,ZYR,CIT,CIX,CI,CIP,CIET,CIEX,CIE,CIEP
 CAT,CAX,CA,CAP,CUOX,CUO,CUOP,COT,COX,CO,COP,CEX,CE,CEP,CUT,CUX,CU,CUP,CURX,CUR,CYT,CYX,CY,CYP,CYRX
 CYR,ZZIT,ZZIX,ZZI,ZZIP,ZZIET,ZZIEX,ZZIE,ZZIEP,ZZAT,ZZAX,ZZA,ZZAP,ZZOX,ZZO,ZZOP,ZZEX,ZZE,ZZEP,ZZUX
 ZZU,ZZUP,ZZURX,ZZUR,ZZYT,ZZYX,ZZY,ZZYP,ZZYRX,ZZYR,NZIT,NZIX,NZI,NZIP,NZIEX,NZIE,NZIEP,NZAT,NZAX,NZA
 NZAP,NZUOX,NZUO,NZOX,NZOP,NZEX,NZE,NZUX,NZU,NZUP,NZURX,NZUR,NZYT,NZYX,NZY,NZYP,NZYRX,NZYR,SIT,SIX
 SI,SIP,SIEX,SIE,SIEP,SAT,SAX,SA,SAP,SUOX,SUO,SUOP,SOT,SOX,SO,SOP,SEX,SE,SEP,SUT,SUX,SU,SUP,SURX,SUR
 SYT,SYX,SY,SYP,SYRX,SYR,SSIT,SSIX,SSI,SSIP,SSIEX,SSIE,SSIEP,SSAT,SSAX,SSA,SSAP,SSOT,SSOX,SSO,SSOP
 SSEX,SSE,SSEP,SSUT,SSUX,SSU,SSUP,SSYT,SSYX,SSY,SSYP,SSYRX,SSYR,ZHAT,ZHAX,ZHA,ZHAP,ZHUOX,ZHUO,ZHUOP
 ZHOT,ZHOX,ZHO,ZHOP,ZHET,ZHEX,ZHE,ZHEP,ZHUT,ZHUX,ZHU,ZHUP,ZHURX,ZHUR,ZHYT,ZHYX,ZHY,ZHYP,ZHYRX,ZHYR
 CHAT,CHAX,CHA,CHAP,CHUOT,CHUOX,CHUO,CHUOP,CHOT,CHOX,CHO,CHOP,CHET,CHEX,CHE,CHEP,CHUX,CHU,CHUP,CHURX
 CHUR,CHYT,CHYX,CHY,CHYP,CHYRX,CHYR,RRAX,RRA,RRUOX,RRUO,RROT,RROX,RRO,RROP,RRET,RREX,RRE,RREP,RRUT
 RRUX,RRU,RRUP,RRURX,RRUR,RRYT,RRYX,RRY,RRYP,RRYRX,RRYR,NRAT,NRAX,NRA,NRAP,NROX,NRO,NROP,NRET,NREX
 NRE,NREP,NRUT,NRUX,NRU,NRUP,NRURX,NRUR,NRYT,NRYX,NRY,NRYP,NRYRX,NRYR,SHAT,SHAX,SHA,SHAP,SHUOX,SHUO
 SHUOP,SHOT,SHOX,SHO,SHOP,SHET,SHEX,SHE,SHEP,SHUT,SHUX,SHU,SHUP,SHURX,SHUR,SHYT,SHYX,SHY,SHYP,SHYRX
 SHYR,RAT,RAX,RA,RAP,RUOX,RUO,RUOP,ROT,ROX,RO,ROP,REX,RE,REP,RUT,RUX,RU,RUP,RURX,RUR,RYT,RYX,RY,RYP
 RYRX,RYR,JIT,JIX,JI,JIP,JIET,JIEX,JIE,JIEP,JUOT,JUOX,JUO,JUOP,JOT,JOX,JO,JOP,JUT,JUX,JU,JUP,JURX
 JUR,JYT,JYX,JY,JYP,JYRX,JYR,QIT,QIX,QI,QIP,QIET,QIEX,QIE,QIEP,QUOT,QUOX,QUO,QUOP,QOT,QOX,QO,QOP,QUT
 QUX,QU,QUP,QURX,QUR,QYT,QYX,QY,QYP,QYRX,QYR,JJIT,JJIX,JJI,JJIP,JJIET,JJIEX,JJIE,JJIEP,JJUOX,JJUO
 JJUOP,JJOT,JJOX,JJO,JJOP,JJUT,JJUX,JJU,JJUP,JJURX,JJUR,JJYT,JJYX,JJY,JJYP,NJIT,NJIX,NJI,NJIP,NJIET
 NJIEX,NJIE,NJIEP,NJUOX,NJUO,NJOT,NJOX,NJO,NJOP,NJUX,NJU,NJUP,NJURX,NJUR,NJYT,NJYX,NJY,NJYP,NJYRX
 NJYR,NYIT,NYIX,NYI,NYIP,NYIET,NYIEX,NYIE,NYIEP,NYUOX,NYUO,NYUOP,NYOT,NYOX,NYO,NYOP,NYUT,NYUX,NYU
 NYUP,XIT,XIX,XI,XIP,XIET,XIEX,XIE,XIEP,XUOX,XUO,XOT,XOX,XO,XOP,XYT,XYX,XY,XYP,XYRX,XYR,YIT,YIX,YI
 YIP,YIET,YIEX,YIE,YIEP,YUOT,YUOX,YUO,YUOP,YOT,YOX,YO,YOP,YUT,YUX,YU,YUP,YURX,YUR,YYT,YYX,YY,YYP
 YYRX,YYR
A490 YI RADICAL
 QOT,LI,KIT,NYIP,CYP,SSI,GGOP,GEP,MI,HXIT,LYR,BBUT,MOP,YO,PUT,HXUO,TAT,GA,ZUP,CYT,DDUR,BUR,GGUO,NYOP
 TU,OP,JJUT,ZOT,PYT,HMO,YIT,VUR,SHY,VEP,ZA,JO,NZUP,JJY,GOT,JJIE,WO,DU,SHUR,LIE,CY,CUOP,CIP,HXOP,SHAT
 ZUR,SHOP,CHE,ZZIET,NBIE,KE
A4D0 LISUl
 BA,PA,PHA,DA,TA,THA,GA,KA,KHA,JA,CA,CHA,DZA,TSA,TSHA,MA,NA,LA,SA,ZHA,ZA,NGA,HA,XA,HHA,FA,WA,SHA,YA
 GHA,A,AE,E,EU,I,O,U,UE,UH,OE,TONE MYA TI,TONE NA PO
A4FA LISUlTONE MYA
 CYA,BO,NA,JEU
A4FE LISU PUNCTUATION
 COMMA,FULL STOP
A500 VAI SYLLABLE
 EE,EEN,HEE,WEE,WEEN,PEE,BHEE,BEE,MBEE,KPEE,MGBEE,GBEE,FEE,VEE,TEE,THEE,DHEE,DHHEE,LEE,REE,DEE,NDEE
 SEE,SHEE,ZEE,ZHEE,CEE,JEE,NJEE,YEE,KEE,NGGEE,GEE,MEE,NEE,NYEE,I,IN,HI,HIN,WI,WIN,PI,BHI,BI,MBI,KPI
 MGBI,GBI,FI,VI,TI,THI,DHI,DHHI,LI,RI,DI,NDI,SI,SHI,ZI,ZHI,CI,JI,NJI,YI,KI,NGGI,GI,MI,NI,NYI,A,AN
 NGAN,HA,HAN,WA,WAN,PA,BHA,BA,MBA,KPA,KPAN,MGBA,GBA,FA,VA,TA,THA,DHA,DHHA,LA,RA,DA,NDA,SA,SHA,ZA,ZHA
 CA,JA,NJA,YA,KA,KAN,NGGA,GA,MA,NA,NYA,OO,OON,HOO,WOO,WOON,POO,BHOO,BOO,MBOO,KPOO,MGBOO,GBOO,FOO,VOO
 TOO,THOO,DHOO,DHHOO,LOO,ROO,DOO,NDOO,SOO,SHOO,ZOO,ZHOO,COO,JOO,NJOO,YOO,KOO,NGGOO,GOO,MOO,NOO,NYOO
 U,UN,HU,HUN,WU,WUN,PU,BHU,BU,MBU,KPU,MGBU,GBU,FU,VU,TU,THU,DHU,DHHU,LU,RU,DU,NDU,SU,SHU,ZU,ZHU,CU
 JU,NJU,YU,KU,NGGU,GU,MU,NU,NYU,O,ON,NGON,HO,HON,WO,WON,PO,BHO,BO,MBO,KPO,MGBO,GBO,GBON,FO,VO,TO,THO
 DHO,DHHO,LO,RO,DO,NDO,SO,SHO,ZO,ZHO,CO,JO,NJO,YO,KO,NGGO,GO,MO,NO,NYO,E,EN,NGEN,HE,HEN,WE,WEN,PE
 BHE,BE,MBE,KPE,KPEN,MGBE,GBE,GBEN,FE,VE,TE,THE,DHE,DHHE,LE,RE,DE,NDE,SE,SHE,ZE,ZHE,CE,JE,NJE,YE,KE
 NGGE,NGGEN,GE,GEN,ME,NE,NYE,NG,LENGTHENER
A60D VAI
 COMMA,FULL STOP,QUESTIONm
A610 VAI SYLLABLE NDOLE
 FA,KA,SOO
A613 VAIu
 FEENG,KEENG,TING,NII,BANG,FAA,TAA,DANG,DOONG,KUNG,TONG,DO-O,JONG
A620 VAI DIGIT
 ZERO,ONE,TWO,t,FOUR,FIVE,SIX,SEVEN,EIGHT,NINE
A62A VAI SYLLABLE NDOLE
 MA,DO
A640 CYRILLIC
 clZEMLYA,slZEMLYA,clDZELO,slDZELO,clREVERSED DZE,slREVERSED DZE,clIOTA,slIOTA,clDJERV,slDJERV
 clMONOGRAPH UK,slMONOGRAPH UK,clBROAD OMEGA,slBROAD OMEGA,clNEUTRAL YER,slNEUTRAL YER
 clYERUwBACK YER,slYERUwBACK YER,clIOTIFIED YAT,slIOTIFIED YAT,clREVERSED YU,slREVERSED YU
 clIOTIFIED A,slIOTIFIED A,clCLOSED LITTLE YUS,slCLOSED LITTLE YUS,clBLENDED YUS,slBLENDED YUS
 clIOTIFIED CLOSED LITTLE YUS,slIOTIFIED CLOSED LITTLE YUS,clYN,slYN,clREVERSED TSE,slREVERSED TSE
 clSOFT DE,slSOFT DE,clSOFT EL,slSOFT EL,clSOFT EM,slSOFT EM,clMONOCULAR O,slMONOCULAR O
 clBINOCULAR O,slBINOCULAR O,cldMONOCULAR O,sldMONOCULAR O,lMULTIOCULAR O
A66F COMBINING CYRILLIC
 VZMET,TEN MILLIONSg,HUNDRED MILLIONSg,THOUSAND MILLIONSg
A673 SLAVONIC
 ASTERISK
A674 COMBINING CYRILLIC
 lUKRAINIAN IE,lI,lYI,lU,lHARDg,lYERU,lSOFTg,lOMEGA,KAVYKA,PAYEROK
A67E CYRILLIC
 KAVYKA,PAYEROK,clDWE,slDWE,clDZWE,slDZWE,clZHWE,slZHWE,clCCHE,slCCHE,clDZZE,slDZZE,clTEwMIDDLE HOOK
 slTEwMIDDLE HOOK,clTWE,slTWE,clTSWE,slTSWE,clTSSE,slTSSE,clTCHE,slTCHE,clHWE,slHWE,clSHWE,slSHWE
 cldO,sldO,clCROSSED O,slCROSSED O
A69C MODIFIERlCYRILLIC
 HARDg,SOFTg
A69E COMBINING CYRILLICl
 EF,IOTIFIED E
A6A0 BAMUMl
 A,KA,U,KU,EE,REE,TAE,O,NYI,I,LA,PA,RII,RIEE,LEEEE,MEEEE,TAA,NDAA,NJAEM,M,SUU,MU,SHII,SI,SHEUX,SEUX
 KYEE,KET,NUAE,NU,NJUAE,YOQ,SHU,YUQ,YA,NSHA,KEUX,PEUX,NJEE,NTEE,PUE,WUE,PEE,FEE,RU,LU,MI,NI,REUX,RAE
 KEN,NGKWAEN,NGGA,NGA,SHO,PUAE,FU,FOM,WA,NA,LI,PI,LOQ,KO,MBEN,REN,MEN,MA,TI,KI,MO,MBAA,TET,KPA,TEN
 NTUU,SAMBA,FAAMAE,KOVUU,KOGHOM
A6F0 BAMUM
 COMBININGmKOQNDON,COMBININGmTUKWENTIS,NJAEMLI,FULL STOP,COLON,COMMA,SEMICOLON,QUESTIONm
A700 MODIFIERlCHINESE TONE
 YIN PING,YANG PING,YIN SHANG,YANG SHANG,YIN QU,YANG QU,YIN RU,YANG RU
A708 MODIFIERl
 EXTRA-HIGH DOTTED TONE BAR,HIGH DOTTED TONE BAR,MID DOTTED TONE BAR,LOW DOTTED TONE BAR
 EXTRA-LOW DOTTED TONE BAR,EXTRA-HIGH DOTTED LEFT-STEM TONE BAR,HIGH DOTTED LEFT-STEM TONE BAR
 MID DOTTED LEFT-STEM TONE BAR,LOW DOTTED LEFT-STEM TONE BAR,EXTRA-LOW DOTTED LEFT-STEM TONE BAR
 EXTRA-HIGH LEFT-STEM TONE BAR,HIGH LEFT-STEM TONE BAR,MID LEFT-STEM TONE BAR,LOW LEFT-STEM TONE BAR
 EXTRA-LOW LEFT-STEM TONE BAR,DOTvBAR,DOT SLASH,DOT HORIZONTAL BAR,LOWERrCORNER ANGLE,RAISED UPa
 RAISED DOWNa,RAISED EXCLAMATIONm,RAISED INVERTED EXCLAMATIONm,LOW INVERTED EXCLAMATIONm
 STRESSnHIGH TONE,STRESSnLOW TONE
A722 LATIN
 clEGYPTOLOGICAL ALEF,slEGYPTOLOGICAL ALEF,clEGYPTOLOGICAL AIN,slEGYPTOLOGICAL AIN,clHENG,slHENG
 clTZ,slTZ,clTRESILLO,slTRESILLO,clCUATRILLO,slCUATRILLO,clCUATRILLOwCOMMA,slCUATRILLOwCOMMA,lscF
 lscS,clAA,slAA,clAO,slAO,clAU,slAU,clAV,slAV,clAVwHORIZONTAL BAR,slAVwHORIZONTAL BAR,clAY,slAY
 clREVERSED CwDOT,slREVERSED CwDOT,clKwp,slKwp,clKwDIAGONALp,slKwDIAGONALp,clKwpnDIAGONALp
 slKwpnDIAGONALp,clBROKEN L,slBROKEN L,clLwHIGHp,slLwHIGHp,clOwLONGpOVERLAY,slOwLONGpOVERLAY
 clOwLOOP,slOwLOOP,clOO,slOO,clPwpTHROUGH DESCENDER,slPwpTHROUGH DESCENDER,clPwFLOURISH,slPwFLOURISH
 clPwSQUIRREL TAIL,slPwSQUIRREL TAIL,clQwpTHROUGH DESCENDER,slQwpTHROUGH DESCENDER,clQwDIAGONALp
 slQwDIAGONALp,clR ROTUNDA,slR ROTUNDA,clRUM ROTUNDA,slRUM ROTUNDA,clVwDIAGONALp,slVwDIAGONALp,clVY
 slVY,clVISIGOTHIC Z,slVISIGOTHIC Z,clTHORNwp,slTHORNwp,clTHORNwpTHROUGH DESCENDER
 slTHORNwpTHROUGH DESCENDER,clVEND,slVEND,clET,slET,clIS,slIS,clCON,slCON
A770
 MODIFIERlUS
A771 LATIN
 slDUM,slLUM,slMUM,slNUM,slRUM,lscRUM,slTUM,slUM,clINSULAR D,slINSULAR D,clINSULAR F,slINSULAR F
 clINSULAR G,clTURNED INSULAR G,slTURNED INSULAR G,clTURNED L,slTURNED L,clINSULAR R,slINSULAR R
 clINSULAR S,slINSULAR S,clINSULAR T,slINSULAR T
A788 MODIFIERl
 LOW CIRCUMFLEX ACCENT,COLON,SHORT EQUALSg
A78B LATIN
 clSALTILLO,slSALTILLO,clTURNED H,slLwRETROFLEX HOOKnBELT,lSINOLOGICAL DOT,clNwDESCENDER
 slNwDESCENDER,clCwBAR,slCwBAR,slCwPALATAL HOOK,slHwPALATAL HOOK,clBwFLOURISH,slBwFLOURISH,clFwp
 slFwp,clVOLAPUK AE,slVOLAPUK AE,clVOLAPUK OE,slVOLAPUK OE,clVOLAPUK UE,slVOLAPUK UE,clGwOBLIQUEp
 slGwOBLIQUEp,clKwOBLIQUEp,slKwOBLIQUEp,clNwOBLIQUEp,slNwOBLIQUEp,clRwOBLIQUEp,slRwOBLIQUEp
 clSwOBLIQUEp,slSwOBLIQUEp,clHwHOOK,clREVERSED OPEN E,clSCRIPT G,clLwBELT,clscI,lscQ,clTURNED K
 clTURNED T,clJwCROSSED-TAIL,clCHI,clBETA,slBETA,clOMEGA,slOMEGA,clUwp,slUwp,clGLOTTAL A,slGLOTTAL A
 clGLOTTAL I,slGLOTTAL I,clGLOTTAL U,slGLOTTAL U,clOLD POLISH O,slOLD POLISH O,clANGLICANA W
 slANGLICANA W,clCwPALATAL HOOK,clSwHOOK,clZwPALATAL HOOK,clDwSHORTpOVERLAY,slDwSHORTpOVERLAY
 clSwSHORTpOVERLAY,slSwSHORTpOVERLAY,,,,,,clCLOSED INSULAR G,slCLOSED INSULAR G,,sldTHORN,,sldWYNN
 clMIDDLE SCOTS S,slMIDDLE SCOTS S,clSIGMOID S,slSIGMOID S
A7F2 MODIFIERlc
 C,F,Q
A7F5 LATIN
 clREVERSED HALF H,slREVERSED HALF H,EPIGRAPHIClSIDEWAYS I
A7F8 MODIFIERl
 cHwp,sLIGATURE OE
A7FA LATINlscTURNED
 M
A7FB LATIN EPIGRAPHICl
 REVERSED F,REVERSED P,INVERTED M,I LONGA,ARCHAIC M
A800 SYLOTI NAGRI
 lA,lI,gDVISVARA,lU,lE,lO,gHASANTA,lKO,lKHO,lGO,lGHO,gANUSVARA,lCO,lCHO,lJO,lJHO,lTTO,lTTHO,lDDO
 lDDHO,lTO,lTHO,lDO,lDHO,lNO,lPO,lPHO,lBO,lBHO,lMO,lRO,lLO,lRRO,lSO,lHO,VOWELgA,VOWELgI,VOWELgU
 VOWELgE,VOWELgOO,POETRY MARK-1~4,gALTERNATE HASANTA
A830 NORTH INDIC FRACTION
 ONE QUARTER,ONE HALF,tQUARTERS,ONE SIXTEENTH,ONE EIGHTH,tSIXTEENTHS
A836 NORTH INDIC
 QUARTERm,PLACEHOLDERm,RUPEEm,QUANTITYm
A840 PHAGS-PAl
 KA,KHA,GA,NGA,CA,CHA,JA,NYA,TA,THA,DA,NA,PA,PHA,BA,MA,TSA,TSHA,DZA,WA,ZHA,ZA,sA,YA,RA,LA,SHA,SA,HA
 A,I,U,E,O,QA,XA,FA,GGA,EE
A867 PHAGS-PA
 SUBJOINEDlWA,SUBJOINEDlYA,lTTA,lTTHA,lDDA,lNNA,lALTERNATE YA,lVOICELESS SHA,lVOICED HA
 lASPIRATED FA,SUBJOINEDlRA,SUPERFIXEDlRA,lCANDRABINDU,SINGLE HEADm,dHEADm,mSHAD,mdSHAD
A880 SAURASHTRA
 gANUSVARA,gVISARGA,lA,lAA,lI,lII,lU,lUU
A888 SAURASHTRAlVOCALIC
 R,RR,L,LL
A88C SAURASHTRAl
 E,EE,AI,O,OO,AU,KA,KHA,GA,GHA,NGA,CA,CHA,JA,JHA,NYA,TTA,TTHA,DDA,DDHA,NNA,TA,THA,DA,DHA,NA,PA,PHA
 BA,BHA,MA,YA,RA,LA,VA,SHA,SSA,SA,HA,LLA
A8B4 SAURASHTRA
 CONSONANTgHAARU
A8B5 SAURASHTRA VOWELg
 AA,I,II,U,UU,VOCALIC R,VOCALIC RR,VOCALIC L,VOCALIC LL,E,EE,AI,O,OO,AU
A8C4 SAURASHTRA
 gVIRAMA,gCANDRABINDU,,,,,,,,,DANDA,dDANDA
A8D0 SAURASHTRA DIGIT
 ZERO,ONE,TWO,t,FOUR,FIVE,SIX,SEVEN,EIGHT,NINE
A8E0 COMBINING DEVANAGARI DIGIT
 ZERO,ONE,TWO,t,FOUR,FIVE,SIX,SEVEN,EIGHT,NINE
A8EA COMBINING DEVANAGARI
 lA,lU,lKA,lNA,lPA,lRA,lVI,gAVAGRAHA
A8F2 DEVANAGARI
 gSPACING CANDRABINDU,gCANDRABINDU VIRAMA,gdCANDRABINDU VIRAMA,gCANDRABINDU TWO,gCANDRABINDUt
 gCANDRABINDU AVAGRAHA,gPUSHPIKA,GAP FILLER,CARET,HEADSTROKE,gSIDDHAM,JAIN OM,lAY,VOWELgAY
A900 KAYAH LI DIGIT
 ZERO,ONE,TWO,t,FOUR,FIVE,SIX,SEVEN,EIGHT,NINE
A90A KAYAH LIl
 KA,KHA,GA,NGA,SA,SHA,ZA,NYA,TA,HTA,NA,PA,PHA,MA,DA,BA,RA,YA,LA,WA,THA,HA,VA,CA,A,OE,I,OO
A926 KAYAH LI VOWEL
 UE,E,U,EE,O
A92B KAYAH LI
 TONE PLOPHU,TONE CALYA,TONE CALYA PLOPHU,gCWI,gSHYA
A930 REJANGl
 KA,GA,NGA,TA,DA,NA,PA,BA,MA,CA,JA,NYA,SA,RA,LA,YA,WA,HA,MBA,NGGA,NDA,NYJA,A
A947 REJANG VOWELg
 I,U,E,AI,O,AU,EU,EA
A94F REJANG CONSONANTg
 NG,N,R,H
A953 REJANG
 VIRAMA,,,,,,,,,,,,SECTIONm
A960 HANGUL CHOSEONG
 TIKEUT-MIEUM,TIKEUT-PIEUP,TIKEUT-SIOS,TIKEUT-CIEUC,RIEUL-KIYEOK,RIEUL-SSANGKIYEOK,RIEUL-TIKEUT
 RIEUL-SSANGTIKEUT,RIEUL-MIEUM,RIEUL-PIEUP,RIEUL-SSANGPIEUP,RIEUL-KAPYEOUNPIEUP,RIEUL-SIOS
 RIEUL-CIEUC,RIEUL-KHIEUKH,MIEUM-KIYEOK,MIEUM-TIKEUT,MIEUM-SIOS,PIEUP-SIOS-THIEUTH,PIEUP-KHIEUKH
 PIEUP-HIEUH,SSANGSIOS-PIEUP,IEUNG-RIEUL,IEUNG-HIEUH,SSANGCIEUC-HIEUH,SSANGTHIEUTH,PHIEUPH-HIEUH
 HIEUH-SIOS,SSANGYEORINHIEUH
A980 JAVANESEg
 PANYANGGA,CECAK,LAYAR,WIGNYAN
A984 JAVANESEl
 A,I KAWI,I,II,U,PA CEREK,NGA LELET,NGA LELET RASWADI,E,AI,O,KA,KA SASAK,KA MURDA,GA,GA MURDA,NGA,CA
 CA MURDA,JA,NYA MURDA,JA MAHAPRANA,NYA,TTA,TTA MAHAPRANA,DDA,DDA MAHAPRANA,NA MURDA,TA,TA MURDA,DA
 DA MAHAPRANA,NA,PA,PA MURDA,BA,BA MURDA,MA,YA,RA,RA AGUNG,LA,WA,SA MURDA,SA MAHAPRANA,SA,HA
A9B3 JAVANESEgCECAK
 TELU
A9B4 JAVANESE VOWELg
 TARUNG,TOLONG,WULU,WULU MELIK,SUKU,SUKU MENDUT,TALING,DIRGA MURE,PEPET
A9BD JAVANESE CONSONANTg
 KERET,PENGKAL,CAKRA
A9C0 JAVANESE
 PANGKON,xRERENGGAN,rRERENGGAN
A9C3 JAVANESE PADA
 ANDAP,MADYA,LUHUR,WINDU,PANGKAT,LINGSA,LUNGSI,ADEG,ADEG ADEG,PISELEH
A9CD JAVANESE
 TURNED PADA PISELEH,,PANGRANGKEP
A9D0 JAVANESE DIGIT
 ZERO,ONE,TWO,t,FOUR,FIVE,SIX,SEVEN,EIGHT,NINE
A9DE JAVANESE PADA
 TIRTA TUMETES,ISEN-ISEN
A9E0 MYANMARlSHAN
 GHA,CHA,JHA,NNA,BHA
A9E5 MYANMAR
 gSHAN SAW,MODIFIERlSHAN REDUPLICATION
A9E7 MYANMARlTAI LAING
 NYA,FA,GA,GHA,JA,JHA,DDA,DDHA,NNA
A9F0 MYANMAR TAI LAING DIGIT
 ZERO,ONE,TWO,t,FOUR,FIVE,SIX,SEVEN,EIGHT,NINE
A9FA MYANMARlTAI LAING
 LLA,DA,DHA,BA,BHA
AA00 CHAMl
 A,I,U,E,AI,O,KA,KHA,GA,GHA,NGUE,NGA,CHA,CHHA,JA,JHA,NHUE,NHA,NHJA,TA,THA,DA,DHA,NUE,NA,DDA,PA,PPA
 PHA,BA,BHA,MUE,MA,BBA,YA,RA,LA,VA,SSA,SA,HA
AA29 CHAM VOWELg
 AA,I,II,EI,U,OE,O,AI,AU,UE
AA33 CHAM CONSONANTg
 YA,RA,LA,WA
AA40 CHAM
 loK,loG,loNG,CONSONANTgoNG
AA44 CHAMlo
 CH,T,N,P,Y,R,L,SS
AA4C CHAM CONSONANTgo
 M,H
AA50 CHAM DIGIT
 ZERO,ONE,TWO,t,FOUR,FIVE,SIX,SEVEN,EIGHT,NINE
AA5C CHAM PUNCTUATION
 SPIRAL,DANDA,dDANDA,TRIPLE DANDA
AA60 MYANMARlKHAMTI
 GA,CA,CHA,JA,JHA,NYA,TTA,TTHA,DDA,DDHA,DHA,NA,SA,HA,HHA,FA
AA70 MYANMAR MODIFIERlKHAMTI
 REDUPLICATION
AA71 MYANMARlKHAMTI
 XA,ZA,RA
AA74 MYANMAR LOGOGRAM KHAMTI
 OAY,QN,HM
AA77 MYANMARuAITON
 EXCLAMATION,ONE,TWO
AA7A MYANMAR
 lAITON RA,gPAO KAREN TONE,gTAI LAING TONE-2,gTAI LAING TONE-5
AA7E MYANMARlSHWE PALAUNG
 CHA,SHA
AA80 TAI VIETl
 LOW KO,HIGH KO,LOW KHO,HIGH KHO,LOW KHHO,HIGH KHHO,LOW GO,HIGH GO,LOW NGO,HIGH NGO,LOW CO,HIGH CO
 LOW CHO,HIGH CHO,LOW SO,HIGH SO,LOW NYO,HIGH NYO,LOW DO,HIGH DO,LOW TO,HIGH TO,LOW THO,HIGH THO
 LOW NO,HIGH NO,LOW BO,HIGH BO,LOW PO,HIGH PO,LOW PHO,HIGH PHO,LOW FO,HIGH FO,LOW MO,HIGH MO,LOW YO
 HIGH YO,LOW RO,HIGH RO,LOW LO,HIGH LO,LOW VO,HIGH VO,LOW HO,HIGH HO,LOW O,HIGH O
AAB0 TAI VIET MAI
 KANG
AAB1 TAI VIET VOWEL
 AA,I,UE,U,E,O
AAB7 TAI VIET MAI
 KHIT
AAB8 TAI VIET VOWEL
 IA,UEA,UA,AUE,AY,AN,AM
AABF TAI VIET TONE MAI
 EK,NUENG,THO,SONG
AADB TAI VIETu
 KON,NUENG,SAM,HO HOI,KOI KOI
AAE0 MEETEI MAYEK
 lE,lO,lCHA,lNYA,lTTA,lTTHA,lDDA,lDDHA,lNNA,lSHA,lSSA,VOWELgII,VOWELgUU,VOWELgAAI,VOWELgAU,VOWELgAAU
 CHEIKHAN,AHANG KHUDAM,ANJI,SYLLABLE REPETITIONm,WORD REPETITIONm,VOWELgVISARGA,VIRAMA
AB01 ETHIOPIC SYLLABLE
 TTHU,TTHI,TTHAA,TTHEE,TTHE,TTHO,,,DDHU,DDHI,DDHAA,DDHEE,DDHE,DDHO,,,DZU,DZI,DZAA,DZEE,DZE,DZO,,,,,,
 ,,,CCHHA,CCHHU,CCHHI,CCHHAA,CCHHEE,CCHHE,CCHHO,,BBA,BBU,BBI,BBAA,BBEE,BBE,BBO
AB30 LATINsl
 BARRED ALPHA,A REVERSED-SCHWA,BLACKLETTER E,BARRED E,EwFLOURISH,LENIS F,SCRIPT GwCROSSED-TAIL
 LwINVERTED LAZY S,LwdMIDDLE TILDE,LwMIDDLE RING,MwCROSSED-TAIL,NwCROSSED-TAIL,ENGwCROSSED-TAIL
 BLACKLETTER O,BLACKLETTER Owp,OPEN Owp,INVERTED OE
AB41 LATINslTURNED
 OEwp,OEwHORIZONTALp,O OPEN-O,O OPEN-Owp
AB45 LATIN
 slSTIRRUP R,lscRwrLEG
AB47 LATINsl
 R WITHOUT HANDLE,dR,RwCROSSED-TAIL,dRwCROSSED-TAIL,SCRIPT R,SCRIPT RwRING,BASELINE ESH,UwSHORTrLEG
 U BARwSHORTrLEG,UI,TURNED UI,UwxHOOK,CHI,CHIwLOWrRING,CHIwLOWxSERIF,XwLOWrRING,XwLONGxLEG
 XwLONGxLEGnLOWrRING,XwLONGxLEGwSERIF,YwSHORTrLEG
AB5B MODIFIER
 BREVEwINVERTED BREVE,lsHENG,lsLwINVERTED LAZY S,lsLwMIDDLE TILDE,lsUwxHOOK
AB60 LATINsl
 SAKHA YAT,IOTIFIED E,OPEN OE,UO,INVERTED ALPHA
AB65
 GREEKlscOMEGA
AB66 LATINsl
 DZ DIGRAPHwRETROFLEX HOOK,TS DIGRAPHwRETROFLEX HOOK,TURNED RwMIDDLE TILDE
AB69 MODIFIERl
 sTURNED W,xTACK,rTACK
AB70 CHEROKEEsl
 A,E,I,O,U,V,GA,KA,GE,GI,GO,GU,GV,HA,HE,HI,HO,HU,HV,LA,LE,LI,LO,LU,LV,MA,ME,MI,MO,MU,NA,HNA,NAH,NE
 NI,NO,NU,NV,QUA,QUE,QUI,QUO,QUU,QUV,SA,S,SE,SI,SO,SU,SV,DA,TA,DE,TE,DI,TI,DO,DU,DV,DLA,TLA,TLE,TLI
 TLO,TLU,TLV,TSA,TSE,TSI,TSO,TSU,TSV,WA,WE,WI,WO,WU,WV,YA
ABC0 MEETEI MAYEKl
 KOK,SAM,LAI,MIT,PA,NA,CHIL,TIL,KHOU,NGOU,THOU,WAI,YANG,HUK,UN,I,PHAM,ATIYA,GOK,JHAM,RAI,BA,JIL,DIL
 GHOU,DHOU,BHAM,KOK LONSUM,LAI LONSUM,MIT LONSUM,PA LONSUM,NA LONSUM,TIL LONSUM,NGOU LONSUM,I LONSUM
ABE3 MEETEI MAYEK VOWELg
 ONAP,INAP,ANAP,YENAP,SOUNAP,UNAP,CHEINAP,NUNG
ABEB MEETEI MAYEK
 CHEIKHEI,LUM IYEK,APUN IYEK
ABF0 MEETEI MAYEK DIGIT
 ZERO,ONE,TWO,t,FOUR,FIVE,SIX,SEVEN,EIGHT,NINE
D7B0 HANGUL JUNGSEONG
 O-YEO,O-O-I,YO-A,YO-AE,YO-EO,U-YEO,U-I-I,YU-AE,YU-O,EU-A,EU-EO,EU-E,EU-O,I-YA-O,I-YAE,I-YEO,I-YE
 I-O-I,I-YO,I-YU,I-I,ARAEA-A,ARAEA-E
D7CB HANGUL JONGSEONG
 NIEUN-RIEUL,NIEUN-CHIEUCH,SSANGTIKEUT,SSANGTIKEUT-PIEUP,TIKEUT-PIEUP,TIKEUT-SIOS,TIKEUT-SIOS-KIYEOK
 TIKEUT-CIEUC,TIKEUT-CHIEUCH,TIKEUT-THIEUTH,RIEUL-SSANGKIYEOK,RIEUL-KIYEOK-HIEUH,SSANGRIEUL-KHIEUKH
 RIEUL-MIEUM-HIEUH,RIEUL-PIEUP-TIKEUT,RIEUL-PIEUP-PHIEUPH,RIEUL-YESIEUNG,RIEUL-YEORINHIEUH-HIEUH
 KAPYEOUNRIEUL,MIEUM-NIEUN,MIEUM-SSANGNIEUN,SSANGMIEUM,MIEUM-PIEUP-SIOS,MIEUM-CIEUC,PIEUP-TIKEUT
 PIEUP-RIEUL-PHIEUPH,PIEUP-MIEUM,SSANGPIEUP,PIEUP-SIOS-TIKEUT,PIEUP-CIEUC,PIEUP-CHIEUCH,SIOS-MIEUM
 SIOS-KAPYEOUNPIEUP,SSANGSIOS-KIYEOK,SSANGSIOS-TIKEUT,SIOS-PANSIOS,SIOS-CIEUC,SIOS-CHIEUCH
 SIOS-THIEUTH,SIOS-HIEUH,PANSIOS-PIEUP,PANSIOS-KAPYEOUNPIEUP,YESIEUNG-MIEUM,YESIEUNG-HIEUH
 CIEUC-PIEUP,CIEUC-SSANGPIEUP,SSANGCIEUC,PHIEUPH-SIOS,PHIEUPH-THIEUTH"

end Throws.Text.CharacterNames
