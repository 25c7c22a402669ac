/-!
# Names of punctuation and symbols

Punctuation, currencies, arrows, mathematical and technical signs, boxes, patterns and dingbats.
-/

namespace Throws.Text.CharacterNames

/-- Characters from U+2000 to U+2BFF. -/
def symbols : String := "2000
 EN QUAD,EM QUAD,EN SPACE,EM SPACE,THREE-PER-EM SPACE,FOUR-PER-EM SPACE,SIX-PER-EM SPACE
 FIGURE SPACE,PUNCTUATION SPACE,THIN SPACE,HAIR SPACE
200B ZERO WIDTH
 SPACE,NON-JOINER,JOINER
200E
 LEFT-TO-RIGHTm,RIGHT-TO-LEFTm,HYPHEN,NON-BREAKING HYPHEN,FIGURE DASH,EN DASH,EM DASH,HORIZONTAL BAR
 dvLINE,dLOW LINE,xSINGLE QUOTATIONm,rSINGLE QUOTATIONm,SINGLE LOW-9 QUOTATIONm
 SINGLE HIGH-REVERSED-9 QUOTATIONm,xdQUOTATIONm,rdQUOTATIONm,dLOW-9 QUOTATIONm
 dHIGH-REVERSED-9 QUOTATIONm,DAGGER,dDAGGER,BULLET,TRIANGULAR BULLET,ONE DOT LEADER,TWO DOT LEADER
 HORIZONTAL ELLIPSIS,HYPHENATION POINT,LINE SEPARATOR,PARAGRAPH SEPARATOR,LEFT-TO-RIGHT EMBEDDING
 RIGHT-TO-LEFT EMBEDDING,POP DIRECTIONAL FORMATTING,LEFT-TO-RIGHT OVERRIDE,RIGHT-TO-LEFT OVERRIDE
 NARROW NO-BREAK SPACE,PER MILLEg,PER TEN THOUSANDg,PRIME,dPRIME,TRIPLE PRIME
2035 REVERSED
 PRIME,dPRIME,TRIPLE PRIME
2038
 CARET,SINGLE LEFT-POINTING ANGLE QUOTATIONm,SINGLE RIGHT-POINTING ANGLE QUOTATIONm,REFERENCEm
 dEXCLAMATIONm,INTERROBANG,OVERLINE,UNDERTIE,CHARACTER TIE,CARET INSERTION POINT,ASTERISM
 HYPHEN BULLET,FRACTION SLASH,xSQUARE BRACKETwQUILL,rSQUARE BRACKETwQUILL,dQUESTIONm
 QUESTION EXCLAMATIONm,EXCLAMATION QUESTIONm,TIRONIANgET,REVERSED PILCROWg,kyBULLET,kzBULLET
 LOW ASTERISK,REVERSED SEMICOLON,CLOSE UP,TWO ASTERISKS ALIGNED VERTICALLY,COMMERCIAL MINUSg
 SWUNG DASH,INVERTED UNDERTIE,FLOWER PUNCTUATIONm,tDOT PUNCTUATION,QUADRUPLE PRIME
 FOUR DOT PUNCTUATION,FIVE DOT PUNCTUATION,TWO DOT PUNCTUATION,FOUR DOTm,DOTTED CROSS,TRICOLON
 vFOUR DOTS,MEDIUM MATHEMATICAL SPACE,WORD JOINER,FUNCTION APPLICATION
2062 INVISIBLE
 TIMES,SEPARATOR,PLUS
2066
 LEFT-TO-RIGHT ISOLATE,RIGHT-TO-LEFT ISOLATE,FIRST STRONG ISOLATE,POP DIRECTIONAL ISOLATE
 INHIBIT SYMMETRIC SWAPPING,ACTIVATE SYMMETRIC SWAPPING,INHIBIT ARABICfSHAPING
 ACTIVATE ARABICfSHAPING,NATIONAL DIGIT SHAPES,NOMINAL DIGIT SHAPES
2070 SUPERSCRIPT
 ZERO,LATINslI,,,FOUR,FIVE,SIX,SEVEN,EIGHT,NINE,PLUSg,MINUS,EQUALSg,xPARENTHESIS,rPARENTHESIS
 LATINslN
2080 SUBSCRIPT
 ZERO,ONE,TWO,t,FOUR,FIVE,SIX,SEVEN,EIGHT,NINE,PLUSg,MINUS,EQUALSg,xPARENTHESIS,rPARENTHESIS
2090 LATIN SUBSCRIPTsl
 A,E,O,X,SCHWA,H,K,L,M,N,P,S,T
20A0
 EURO-CURRENCYg,COLONg,CRUZEIROg,FRENCH FRANCg,LIRAg,MILLg,NAIRAg,PESETAg,RUPEEg,WONg,NEW SHEQELg
 DONGg,EUROg,KIPg,TUGRIKg,DRACHMAg,GERMAN PENNYg,PESOg,GUARANIg,AUSTRALg,HRYVNIAg,CEDIg
 LIVRE TOURNOISg,SPESMILOg,TENGEg,INDIAN RUPEEg,TURKISH LIRAg,NORDICmg,MANATg,RUBLEg,LARIg,BITCOINg
 SOMg
20D0 COMBINING
 xHARPOONe,rHARPOONe,LONGvLINE OVERLAY,SHORTvLINE OVERLAY,ANTICLOCKWISEae,CLOCKWISEae,xae,rae
 RING OVERLAY,CLOCKWISE RING OVERLAY,ANTICLOCKWISE RING OVERLAY,tDOTSe,FOUR DOTSe,ENCLOSING CIRCLE
 ENCLOSING SQUARE,ENCLOSING DIAMOND,ENCLOSING CIRCLE BACKSLASH,xrae,ENCLOSING SCREEN
 ENCLOSING KEYCAP,ENCLOSING UPWARD POINTING TRIANGLE,REVERSE SOLIDUS OVERLAY,dvpOVERLAY,ANNUITYu
 TRIPLE UNDERDOT,WIDE BRIDGEe,yaOVERLAY,LONGdSOLIDUS OVERLAY,zHARPOONwBARB DOWNWARDS
 yHARPOONwBARB DOWNWARDS,xab,rab,ASTERISKe
2100
 ACCOUNT OF,ADDRESSED TO THE SUBJECT,DOUBLE-STRUCKcC,DEGREE CELSIUS,CENTRE LINEu,CARE OF,CADA UNA
 EULER CONSTANT,SCRUPLE,DEGREE FAHRENHEIT,SCRIPTsG,SCRIPTcH,BLACK-LETTERcH,DOUBLE-STRUCKcH
 PLANCK CONSTANT,PLANCK CONSTANT OVER TWO PI,SCRIPTcI,BLACK-LETTERcI,SCRIPTcL,SCRIPTsL,L B BARu
 DOUBLE-STRUCKcN,NUMEROg,SOUND RECORDING COPYRIGHT,SCRIPTcP
2119 DOUBLE-STRUCKc
 P,Q
211B
 SCRIPTcR,BLACK-LETTERcR,DOUBLE-STRUCKcR,PRESCRIPTION TAKE,RESPONSE,SERVICEm,TELEPHONEg,TRADEmg
 VERSICLE,DOUBLE-STRUCKcZ,OUNCEg,OHMg,INVERTED OHMg,BLACK-LETTERcZ,TURNED GREEKslIOTA,KELVINg
 ANGSTROMg,SCRIPTcB,BLACK-LETTERcC,ESTIMATEDu,SCRIPTsE,SCRIPTcE,SCRIPTcF,TURNEDcF,SCRIPTcM,SCRIPTsO
 ALEFu,BETu,GIMELu,DALETu,INFORMATION SOURCE,ROTATEDcQ,FACSIMILEg
213C DOUBLE-STRUCK
 sPI,sGAMMA,cGAMMA,cPI,N-ARY SUMMATION
2141 TURNED SANS-SERIFc
 G,L
2143
 REVERSED SANS-SERIFcL,TURNED SANS-SERIFcY
2145 DOUBLE-STRUCK ITALIC
 cD,sD,sE,sI,sJ
214A
 PROPERTY LINE,TURNED AMPERSAND,PERg,AKTIESELSKAB,TURNEDsF,uFOR SAMARITAN SOURCE
2150 VULGAR FRACTION
 ONE SEVENTH,ONE NINTH,ONE TENTH,ONE THIRD,TWO THIRDS,ONE FIFTH,TWO FIFTHS,tFIFTHS,FOUR FIFTHS
 ONE SIXTH,FIVE SIXTHS,ONE EIGHTH,tEIGHTHS,FIVE EIGHTHS,SEVEN EIGHTHS
215F FRACTION NUMERATOR
 ONE
2160 ROMAN NUMERAL
 ONE,TWO,t,FOUR,FIVE,SIX,SEVEN,EIGHT,NINE,TEN,ELEVEN,TWELVE,FIFTY,ONE HUNDRED,FIVE HUNDRED
 ONE THOUSAND
2170 sROMAN NUMERAL
 ONE,TWO,t,FOUR,FIVE,SIX,SEVEN,EIGHT,NINE,TEN,ELEVEN,TWELVE,FIFTY,ONE HUNDRED,FIVE HUNDRED
 ONE THOUSAND
2180 ROMAN NUMERAL
 ONE THOUSAND C D,FIVE THOUSAND,TEN THOUSAND,REVERSED ONE HUNDRED
2184 LATINslREVERSED
 C
2185 ROMAN NUMERAL
 SIX LATEf,FIFTY EARLYf,FIFTY THOUSAND,ONE HUNDRED THOUSAND
2189 VULGAR FRACTION ZERO
 THIRDS
218A TURNED DIGIT
 TWO,t
2190
 ya,UPWARDSa,za,DOWNWARDSa,xra,UP DOWNa,NORTH WESTa,NORTH EASTa,SOUTH EASTa,SOUTH WESTa,yawp,zawp
 yWAVEa,zWAVEa,yTWO HEADEDa,UPWARDS TWO HEADEDa,zTWO HEADEDa,DOWNWARDS TWO HEADEDa,yawTAIL,zawTAIL
 yaFROM BAR,UPWARDSaFROM BAR,zaFROM BAR,DOWNWARDSaFROM BAR,UP DOWNawBASE,yawHOOK,zawHOOK,yawLOOP
 zawLOOP,xrWAVEa,xrawp,DOWNWARDS ZIGZAGa
21B0 UPWARDSawTIP
 y,z
21B2 DOWNWARDSawTIP
 y,z
21B4
 zawCORNER DOWNWARDS,DOWNWARDSawCORNERy,ANTICLOCKWISE TOP SEMICIRCLEa,CLOCKWISE TOP SEMICIRCLEa
 NORTH WESTaTO LONG BAR,yaTO BAR OVERzaTO BAR,ANTICLOCKWISE OPEN CIRCLEa,CLOCKWISE OPEN CIRCLEa
21BC yHARPOONwBARB
 UPWARDS,DOWNWARDS
21BE UPWARDS HARPOONwBARB
 z,y
21C0 zHARPOONwBARB
 UPWARDS,DOWNWARDS
21C2 DOWNWARDS HARPOONwBARB
 z,y
21C4
 zaOVERya,UPWARDSayOF DOWNWARDSa,yaOVERza,yPAIRED ARROWS,UPWARDS PAIRED ARROWS,zPAIRED ARROWS
 DOWNWARDS PAIRED ARROWS,yHARPOON OVERzHARPOON,zHARPOON OVERyHARPOON,ydawp,xrdawp,zdawp,yda
 UPWARDSda,zda,DOWNWARDSda,xrda,UP DOWNda,NORTH WESTda,NORTH EASTda,SOUTH EASTda,SOUTH WESTda
 yTRIPLEa,zTRIPLEa,ySQUIGGLEa,zSQUIGGLEa,UPWARDSawdp,DOWNWARDSawdp,yDASHEDa,UPWARDS DASHEDa,zDASHEDa
 DOWNWARDS DASHEDa,yaTO BAR,zaTO BAR,yha,UPWARDSha,zha,DOWNWARDSha
21EA UPWARDSh
 aFROM BAR,aON PEDESTAL,aON PEDESTALwHORIZONTAL BAR,aON PEDESTALwvBAR,da,daON PEDESTAL
21F0
 zhaFROM WALL,NORTH WESTaTO CORNER,SOUTH EASTaTO CORNER,UP DOWNha,rawsCIRCLE,DOWNWARDSayOF UPWARDSa
 tzARROWS,yawvp,zawvp,xrawvp,yawdvp,zawdvp,xrawdvp,yOPEN-HEADEDa,zOPEN-HEADEDa,xrOPEN-HEADEDa
 FOR ALL,COMPLEMENT,PARTIAL DIFFERENTIAL,THERE EXISTS,THERE DOES NOT EXIST,EMPTY SET,INCREMENT,NABLA
 ELEMENT OF,NOT AN ELEMENT OF,sELEMENT OF,CONTAINS AS MEMBER,DOES NOT CONTAIN AS MEMBER
 sCONTAINS AS MEMBER,END OF PROOF
220F N-ARY
 PRODUCT,COPRODUCT,SUMMATION
2212
 MINUSg,MINUS-OR-PLUSg,DOT PLUS,DIVISION SLASH,SET MINUS,ASTERISK OPERATOR,RING OPERATOR
 BULLET OPERATOR,SQUARE ROOT,CUBE ROOT,FOURTH ROOT,PROPORTIONAL TO,INFINITY,rANGLE,ANGLE
 MEASURED ANGLE,SPHERICAL ANGLE,DIVIDES,DOES NOT DIVIDE,PARALLEL TO,NOT PARALLEL TO,LOGICALn
 LOGICAL OR,INTERSECTION,UNION,INTEGRAL,dINTEGRAL,TRIPLE INTEGRAL,CONTOUR INTEGRAL,SURFACE INTEGRAL
 VOLUME INTEGRAL,CLOCKWISE INTEGRAL,CLOCKWISE CONTOUR INTEGRAL,ANTICLOCKWISE CONTOUR INTEGRAL
 THEREFORE,BECAUSE,RATIO,PROPORTION,DOT MINUS,EXCESS,GEOMETRIC PROPORTION,HOMOTHETIC,TILDE OPERATOR
 REVERSED TILDE,INVERTED LAZY S,SINE WAVE,WREATH PRODUCT,NOT TILDE,MINUS TILDE
 ASYMPTOTICALLY EQUAL TO,NOT ASYMPTOTICALLY EQUAL TO
2245 APPROXIMATELY
 EQUAL TO,BUT NOT ACTUALLY EQUAL TO
2247
 NEITHER APPROXIMATELY NOR ACTUALLY EQUAL TO,ALMOST EQUAL TO,NOT ALMOST EQUAL TO
 ALMOST EQUAL OR EQUAL TO,TRIPLE TILDE,ALL EQUAL TO,EQUIVALENT TO,GEOMETRICALLY EQUIVALENT TO
 DIFFERENCE BETWEEN,APPROACHES THE LIMIT,GEOMETRICALLY EQUAL TO
 APPROXIMATELY EQUAL TO OR THE IMAGE OF,IMAGE OF OR APPROXIMATELY EQUAL TO,COLON EQUALS,EQUALS COLON
 RING IN EQUAL TO,RING EQUAL TO,CORRESPONDS TO,ESTIMATES,EQUIANGULAR TO,STAR EQUALS,DELTA EQUAL TO
 EQUAL TO BY DEFINITION,MEASURED BY,QUESTIONED EQUAL TO,NOT EQUAL TO,IDENTICAL TO,NOT IDENTICAL TO
 STRICTLY EQUIVALENT TO,LESS-THAN OR EQUAL TO,GREATER-THAN OR EQUAL TO,LESS-THAN OVER EQUAL TO
 GREATER-THAN OVER EQUAL TO,LESS-THAN BUT NOT EQUAL TO,GREATER-THAN BUT NOT EQUAL TO,MUCH LESS-THAN
 MUCH GREATER-THAN,BETWEEN,NOT EQUIVALENT TO,NOT LESS-THAN,NOT GREATER-THAN
 NEITHER LESS-THAN NOR EQUAL TO,NEITHER GREATER-THAN NOR EQUAL TO,LESS-THAN OR EQUIVALENT TO
 GREATER-THAN OR EQUIVALENT TO,NEITHER LESS-THAN NOR EQUIVALENT TO
 NEITHER GREATER-THAN NOR EQUIVALENT TO,LESS-THAN OR GREATER-THAN,GREATER-THAN OR LESS-THAN
 NEITHER LESS-THAN NOR GREATER-THAN,NEITHER GREATER-THAN NOR LESS-THAN,PRECEDES,SUCCEEDS
 PRECEDES OR EQUAL TO,SUCCEEDS OR EQUAL TO,PRECEDES OR EQUIVALENT TO,SUCCEEDS OR EQUIVALENT TO
 DOES NOT PRECEDE,DOES NOT SUCCEED,SUBSET OF,SUPERSET OF,NOT A SUBSET OF,NOT A SUPERSET OF
 SUBSET OF OR EQUAL TO,SUPERSET OF OR EQUAL TO,NEITHER A SUBSET OF NOR EQUAL TO
 NEITHER A SUPERSET OF NOR EQUAL TO,SUBSET OFwNOT EQUAL TO,SUPERSET OFwNOT EQUAL TO,MULTISET
228D MULTISET
 MULTIPLICATION,UNION
228F SQUARE
 IMAGE OF,ORIGINAL OF,IMAGE OF OR EQUAL TO,ORIGINAL OF OR EQUAL TO,CAP,CUP
2295 CIRCLED
 PLUS,MINUS,TIMES,DIVISION SLASH,DOT OPERATOR,RING OPERATOR,ASTERISK OPERATOR,EQUALS,DASH
229E SQUARED
 PLUS,MINUS,TIMES,DOT OPERATOR
22A2
 rTACK,xTACK,DOWN TACK,UP TACK,ASSERTION,MODELS,TRUE,FORCES,TRIPLEvBARrTURNSTILE,dvBARdrTURNSTILE
 DOES NOT PROVE,NOT TRUE,DOES NOT FORCE,NEGATEDdvBARdrTURNSTILE,PRECEDES UNDER RELATION
 SUCCEEDS UNDER RELATION,NORMAL SUBGROUP OF,CONTAINS AS NORMAL SUBGROUP
 NORMAL SUBGROUP OF OR EQUAL TO,CONTAINS AS NORMAL SUBGROUP OR EQUAL TO,ORIGINAL OF,IMAGE OF
 MULTIMAP,HERMITIAN CONJUGATE MATRIX,INTERCALATE,XOR,NAND,NOR,rANGLEwARC,rTRIANGLE
22C0 N-ARY
 LOGICALn,LOGICAL OR,INTERSECTION,UNION
22C4
 DIAMOND OPERATOR,DOT OPERATOR,STAR OPERATOR,DIVISION TIMES,BOWTIE,xNORMAL FACTOR SEMIDIRECT PRODUCT
 rNORMAL FACTOR SEMIDIRECT PRODUCT,xSEMIDIRECT PRODUCT,rSEMIDIRECT PRODUCT,REVERSED TILDE EQUALS
22CE CURLY LOGICAL
 OR,n
22D0
 dSUBSET,dSUPERSET,dINTERSECTION,dUNION,PITCHFORK,EQUALnPARALLEL TO,LESS-THANwDOT,GREATER-THANwDOT
 VERY MUCH LESS-THAN,VERY MUCH GREATER-THAN,LESS-THAN EQUAL TO OR GREATER-THAN
 GREATER-THAN EQUAL TO OR LESS-THAN
22DC EQUAL TO OR
 LESS-THAN,GREATER-THAN,PRECEDES,SUCCEEDS
22E0 DOES NOT
 PRECEDE OR EQUAL,SUCCEED OR EQUAL
22E2 NOT SQUARE
 IMAGE OF OR EQUAL TO,ORIGINAL OF OR EQUAL TO
22E4 SQUARE
 IMAGE OF OR NOT EQUAL TO,ORIGINAL OF OR NOT EQUAL TO
22E6
 LESS-THAN BUT NOT EQUIVALENT TO,GREATER-THAN BUT NOT EQUIVALENT TO,PRECEDES BUT NOT EQUIVALENT TO
 SUCCEEDS BUT NOT EQUIVALENT TO,NOT NORMAL SUBGROUP OF,DOES NOT CONTAIN AS NORMAL SUBGROUP
 NOT NORMAL SUBGROUP OF OR EQUAL TO,DOES NOT CONTAIN AS NORMAL SUBGROUP OR EQUAL,vELLIPSIS
 MIDLINE HORIZONTAL ELLIPSIS,UPrDIAGONAL ELLIPSIS,DOWNrDIAGONAL ELLIPSIS,ELEMENT OFwLONG HORIZONTALp
 ELEMENT OFwvBAR AT END OF HORIZONTALp,sELEMENT OFwvBAR AT END OF HORIZONTALp,ELEMENT OFwDOTe
 ELEMENT OFwOVERBAR,sELEMENT OFwOVERBAR
22F8 ELEMENT OFw
 UNDERBAR,TWO HORIZONTAL STROKES
22FA CONTAINSw
 LONG HORIZONTALp,vBAR AT END OF HORIZONTALp
22FC
 sCONTAINSwvBAR AT END OF HORIZONTALp,CONTAINSwOVERBAR,sCONTAINSwOVERBAR,Z NOTATION BAG MEMBERSHIP
 DIAMETERg,ELECTRICa,HOUSE,UP ARROWHEAD,DOWN ARROWHEAD,PROJECTIVE,PERSPECTIVE,WAVY LINE,xCEILING
 rCEILING,xFLOOR,rFLOOR,BOTTOMrCROP,BOTTOMxCROP,TOPrCROP,TOPxCROP,REVERSED NOTg,SQUARE LOZENGE,ARC
 SEGMENT,SECTOR,TELEPHONE RECORDER,POSITION INDICATOR,VIEWDATA SQUARE,PLACE OF INTERESTg,TURNED NOTg
 WATCH,HOURGLASS,TOPxCORNER,TOPrCORNER,BOTTOMxCORNER,BOTTOMrCORNER,TOP HALF INTEGRAL
 BOTTOM HALF INTEGRAL,FROWN,SMILE,UP ARROWHEAD BETWEEN TWO HORIZONTAL BARS,OPTION KEY,ERASE TO THEr
 X IN A RECTANGLE BOX,KEYBOARD,LEFT-POINTING ANGLE BRACKET,RIGHT-POINTING ANGLE BRACKET
 ERASE TO THEx,BENZENE RING,CYLINDRICITY,ALL AROUND-PROFILE,SYMMETRY,TOTAL RUNOUT,DIMENSION ORIGIN
 CONICAL TAPER,SLOPE,COUNTERBORE,COUNTERSINK
2336 APL FUNCTIONALu
 I-BEAM,SQUISH QUAD,QUAD EQUAL,QUAD DIVIDE,QUAD DIAMOND,QUAD JOT,QUAD CIRCLE,CIRCLE STILE,CIRCLE JOT
 SLASH BAR,BACKSLASH BAR,QUAD SLASH,QUAD BACKSLASH,QUAD LESS-THAN,QUAD GREATER-THAN,yVANE,zVANE
 QUADya,QUADza,CIRCLE BACKSLASH,DOWN TACK UNDERBAR,DELTA STILE,QUAD DOWN CARET,QUAD DELTA
 DOWN TACK JOT,UPWARDS VANE,QUAD UPWARDSa,UP TACK OVERBAR,DEL STILE,QUAD UP CARET,QUAD DEL
 UP TACK JOT,DOWNWARDS VANE,QUAD DOWNWARDSa,QUOTE UNDERBAR,DELTA UNDERBAR,DIAMOND UNDERBAR
 JOT UNDERBAR,CIRCLE UNDERBAR,UP SHOE JOT,QUOTE QUAD,CIRCLE STAR,QUAD COLON,UP TACK DIAERESIS
 DEL DIAERESIS,STAR DIAERESIS,JOT DIAERESIS,CIRCLE DIAERESIS,DOWN SHOE STILE,xSHOE STILE
 TILDE DIAERESIS,GREATER-THAN DIAERESIS,COMMA BAR,DEL TILDE,ZILDE,STILE TILDE,SEMICOLON UNDERBAR
 QUAD NOT EQUAL,QUAD QUESTION,DOWN CARET TILDE,UP CARET TILDE,IOTA,RHO,OMEGA,ALPHA UNDERBAR
 EPSILON UNDERBAR,IOTA UNDERBAR,OMEGA UNDERBAR,ALPHA
237B
 NOT CHECKm,rANGLEwDOWNWARDS ZIGZAGa,SHOULDERED OPEN BOX,BELLu,vLINEwMIDDLE DOT,INSERTIONu
 CONTINUOUS UNDERLINEu,DISCONTINUOUS UNDERLINEu,EMPHASISu,COMPOSITIONu,hSQUAREwCENTREvLINE,ENTERu
 ALTERNATIVE KEYu,HELMu,CIRCLED HORIZONTAL BARwNOTCH,CIRCLED TRIANGLE DOWN,BROKEN CIRCLEwNORTHWESTa
 UNDOu,MONOSTABLEu,HYSTERESISu
238F OPEN-CIRCUIT-OUTPUT
 H-TYPEu,L-TYPEu
2391
 PASSIVE-PULL-DOWN-OUTPUTu,PASSIVE-PULL-UP-OUTPUTu,DIRECT CURRENTufTWO,SOFTWARE-FUNCTIONu
 APL FUNCTIONALuQUAD,DECIMAL SEPARATOR KEYu,PREVIOUS PAGE,NEXT PAGE,PRINT SCREENu,CLEAR SCREENu
239B xPARENTHESIS
 UPPER HOOK,EXTENSION,LOWER HOOK
239E rPARENTHESIS
 UPPER HOOK,EXTENSION,LOWER HOOK
23A1 xSQUARE BRACKET
 UPPER CORNER,EXTENSION,LOWER CORNER
23A4 rSQUARE BRACKET
 UPPER CORNER,EXTENSION,LOWER CORNER
23A7 xCURLY BRACKET
 UPPER HOOK,MIDDLE PIECE,LOWER HOOK
23AA CURLY BRACKET
 EXTENSION
23AB rCURLY BRACKET
 UPPER HOOK,MIDDLE PIECE,LOWER HOOK
23AE
 INTEGRAL EXTENSION,HORIZONTAL LINE EXTENSION,UPPERxOR LOWERrCURLY BRACKET SECTION
 UPPERrOR LOWERxCURLY BRACKET SECTION,SUMMATION TOP,SUMMATION BOTTOM,TOP SQUARE BRACKET
23B5 BOTTOM SQUARE
 BRACKET,BRACKET OVER TOP SQUARE BRACKET
23B7
 RADICALuBOTTOM,xvBOX LINE,rvBOX LINE
23BA HORIZONTAL SCAN
 LINE-1,LINE-3,LINE-7,LINE-9
23BE DENTISTRYuLIGHT
 vnTOPr,vnBOTTOMr,vwCIRCLE,DOWNnHORIZONTALwCIRCLE,UPnHORIZONTALwCIRCLE,vwTRIANGLE
 DOWNnHORIZONTALwTRIANGLE,UPnHORIZONTALwTRIANGLE,vnWAVE,DOWNnHORIZONTALwWAVE,UPnHORIZONTALwWAVE
 DOWNnHORIZONTAL,UPnHORIZONTAL,vnTOPx,vnBOTTOMx
23CD
 SQUARE FOOT,RETURNu,EJECTu,vLINE EXTENSION
23D1 METRICAL
 BREVE,LONG OVER SHORT,SHORT OVER LONG,LONG OVER TWO SHORTS,TWO SHORTS OVER LONG,TWO SHORTS JOINED
 TRISEME,TETRASEME,PENTASEME
23DA
 EARTH GROUND,FUSE,TOP PARENTHESIS,BOTTOM PARENTHESIS,TOP CURLY BRACKET,BOTTOM CURLY BRACKET
 TOP TORTOISE SHELL BRACKET,BOTTOM TORTOISE SHELL BRACKET,hTRAPEZIUM,BENZENE RINGwCIRCLE
 STRAIGHTNESS,FLATNESS,AC CURRENT,ELECTRICAL INTERSECTION,DECIMAL EXPONENTu,kRIGHT-POINTINGdTRIANGLE
 kLEFT-POINTINGdTRIANGLE,kUP-POINTINGdTRIANGLE,kDOWN-POINTINGdTRIANGLE,kRIGHT-POINTINGdTRIANGLEwvBAR
 kLEFT-POINTINGdTRIANGLEwvBAR,kRIGHT-POINTING TRIANGLEwdvBAR,ALARM CLOCK,STOPWATCH,TIMER CLOCK
 HOURGLASSwFLOWING SAND
23F4 kMEDIUM
 LEFT-POINTING TRIANGLE,RIGHT-POINTING TRIANGLE,UP-POINTING TRIANGLE,DOWN-POINTING TRIANGLE
23F8
 dvBAR,kSQUARE FOR STOP,kCIRCLE FOR RECORD
23FB POWER
 u,ON-OFFu,ONu,SLEEPu
23FF OBSERVER
 EYEu
2400 uFOR
 NULL,START OF HEADING,START OF TEXT,END OF TEXT,END OF TRANSMISSION,ENQUIRY,ACKNOWLEDGE,BELL
 BACKSPACE,HORIZONTAL TABULATION,LINE FEED,vTABULATION,fFEED,CARRIAGE RETURN,SHIFT OUT,SHIFT IN
 DATA LINK ESCAPE
2411 uFOR DEVICE CONTROL
 ONE,TWO,t,FOUR
2415 uFOR
 NEGATIVE ACKNOWLEDGE,SYNCHRONOUS IDLE,END OF TRANSMISSION BLOCK,CANCEL,END OF MEDIUM,SUBSTITUTE
 ESCAPE,FILE SEPARATOR,GROUP SEPARATOR,RECORD SEPARATOR,UNIT SEPARATOR,SPACE,DELETE
2422
 BLANKu,OPEN BOX
2424 uFOR
 NEWLINE,DELETEfTWO,SUBSTITUTEfTWO
2440 OCR
 HOOK,CHAIR,FORK,INVERTED FORK,BELT BUCKLE,BOW TIE,BRANCH BANK IDENTIFICATION,AMOUNT OF CHECK,DASH
 CUSTOMER ACCOUNT NUMBER,dBACKSLASH
2460 CIRCLED DIGIT
 ONE,TWO,t,FOUR,FIVE,SIX,SEVEN,EIGHT,NINE
2469 CIRCLED NUMBER
 TEN,ELEVEN,TWELVE,THIRTEEN,FOURTEEN,FIFTEEN,SIXTEEN,SEVENTEEN,EIGHTEEN,NINETEEN,TWENTY
2474 PARENTHESIZED DIGIT
 ONE,TWO,t,FOUR,FIVE,SIX,SEVEN,EIGHT,NINE
247D PARENTHESIZED NUMBER
 TEN,ELEVEN,TWELVE,THIRTEEN,FOURTEEN,FIFTEEN,SIXTEEN,SEVENTEEN,EIGHTEEN,NINETEEN,TWENTY
2488 DIGIT
 ONE FULL STOP,TWO FULL STOP,tFULL STOP,FOUR FULL STOP,FIVE FULL STOP,SIX FULL STOP,SEVEN FULL STOP
 EIGHT FULL STOP,NINE FULL STOP
2491 NUMBER
 TEN FULL STOP,ELEVEN FULL STOP,TWELVE FULL STOP,THIRTEEN FULL STOP,FOURTEEN FULL STOP
 FIFTEEN FULL STOP,SIXTEEN FULL STOP,SEVENTEEN FULL STOP,EIGHTEEN FULL STOP,NINETEEN FULL STOP
 TWENTY FULL STOP
249C PARENTHESIZED LATINsl
 A,B,C,D,E,F,G,H,I,J,K,L,M,N,O,P,Q,R,S,T,U,V,W,X,Y,Z
24B6 CIRCLED LATINcl
 A,B,C,D,E,F,G,H,I,J,K,L,M,N,O,P,Q,R,S,T,U,V,W,X,Y,Z
24D0 CIRCLED LATINsl
 A,B,C,D,E,F,G,H,I,J,K,L,M,N,O,P,Q,R,S,T,U,V,W,X,Y,Z
24EA CIRCLED DIGIT
 ZERO
24EB NEGATIVE CIRCLED NUMBER
 ELEVEN,TWELVE,THIRTEEN,FOURTEEN,FIFTEEN,SIXTEEN,SEVENTEEN,EIGHTEEN,NINETEEN,TWENTY
24F5 dCIRCLED DIGIT
 ONE,TWO,t,FOUR,FIVE,SIX,SEVEN,EIGHT,NINE
24FE
 dCIRCLED NUMBER TEN,NEGATIVE CIRCLED DIGIT ZERO
2500 BOX DRAWINGS
 LIGHT HORIZONTAL,HEAVY HORIZONTAL,LIGHTv,HEAVYv,LIGHT TRIPLE DASH HORIZONTAL
 HEAVY TRIPLE DASH HORIZONTAL,LIGHT TRIPLE DASHv,HEAVY TRIPLE DASHv,LIGHT QUADRUPLE DASH HORIZONTAL
 HEAVY QUADRUPLE DASH HORIZONTAL,LIGHT QUADRUPLE DASHv,HEAVY QUADRUPLE DASHv,LIGHT DOWNnr
 DOWN LIGHTnrHEAVY,DOWN HEAVYnrLIGHT,HEAVY DOWNnr,LIGHT DOWNnx,DOWN LIGHTnxHEAVY,DOWN HEAVYnxLIGHT
 HEAVY DOWNnx,LIGHT UPnr,UP LIGHTnrHEAVY,UP HEAVYnrLIGHT,HEAVY UPnr,LIGHT UPnx,UP LIGHTnxHEAVY
 UP HEAVYnxLIGHT,HEAVY UPnx,LIGHTvnr,vLIGHTnrHEAVY,UP HEAVYnrDOWN LIGHT,DOWN HEAVYnrUP LIGHT
 vHEAVYnrLIGHT,DOWN LIGHTnrUP HEAVY,UP LIGHTnrDOWN HEAVY,HEAVYvnr,LIGHTvnx,vLIGHTnxHEAVY
 UP HEAVYnxDOWN LIGHT,DOWN HEAVYnxUP LIGHT,vHEAVYnxLIGHT,DOWN LIGHTnxUP HEAVY,UP LIGHTnxDOWN HEAVY
 HEAVYvnx,LIGHT DOWNnHORIZONTAL,xHEAVYnrDOWN LIGHT,rHEAVYnxDOWN LIGHT,DOWN LIGHTnHORIZONTAL HEAVY
 DOWN HEAVYnHORIZONTAL LIGHT,rLIGHTnxDOWN HEAVY,xLIGHTnrDOWN HEAVY,HEAVY DOWNnHORIZONTAL
 LIGHT UPnHORIZONTAL,xHEAVYnrUP LIGHT,rHEAVYnxUP LIGHT,UP LIGHTnHORIZONTAL HEAVY
 UP HEAVYnHORIZONTAL LIGHT,rLIGHTnxUP HEAVY,xLIGHTnrUP HEAVY,HEAVY UPnHORIZONTAL,LIGHTvnHORIZONTAL
 xHEAVYnrvLIGHT,rHEAVYnxvLIGHT,vLIGHTnHORIZONTAL HEAVY,UP HEAVYnDOWN HORIZONTAL LIGHT
 DOWN HEAVYnUP HORIZONTAL LIGHT,vHEAVYnHORIZONTAL LIGHT,xUP HEAVYnrDOWN LIGHT,rUP HEAVYnxDOWN LIGHT
 xDOWN HEAVYnrUP LIGHT,rDOWN HEAVYnxUP LIGHT,DOWN LIGHTnUP HORIZONTAL HEAVY
 UP LIGHTnDOWN HORIZONTAL HEAVY,rLIGHTnxvHEAVY,xLIGHTnrvHEAVY,HEAVYvnHORIZONTAL
 LIGHTdDASH HORIZONTAL,HEAVYdDASH HORIZONTAL,LIGHTdDASHv,HEAVYdDASHv,dHORIZONTAL,dv,DOWN SINGLEnrd
 DOWNdnrSINGLE,dDOWNnr,DOWN SINGLEnxd,DOWNdnxSINGLE,dDOWNnx,UP SINGLEnrd,UPdnrSINGLE,dUPnr
 UP SINGLEnxd,UPdnxSINGLE,dUPnx,vSINGLEnrd,vdnrSINGLE,dvnr,vSINGLEnxd,vdnxSINGLE,dvnx
 DOWN SINGLEnHORIZONTALd,DOWNdnHORIZONTAL SINGLE,dDOWNnHORIZONTAL,UP SINGLEnHORIZONTALd
 UPdnHORIZONTAL SINGLE,dUPnHORIZONTAL,vSINGLEnHORIZONTALd,vdnHORIZONTAL SINGLE,dvnHORIZONTAL
256D BOX DRAWINGS LIGHT
 ARC DOWNnr,ARC DOWNnx,ARC UPnx,ARC UPnr,DIAGONAL UPPERrTO LOWERx,DIAGONAL UPPERxTO LOWERr
 DIAGONAL CROSS,x,UP,r,DOWN
2578 BOX DRAWINGS
 HEAVYx,HEAVY UP,HEAVYr,HEAVY DOWN,LIGHTxnHEAVYr,LIGHT UPnHEAVY DOWN,HEAVYxnLIGHTr
 HEAVY UPnLIGHT DOWN
2580 UPPER HALF
 BLOCK
2581 LOWER
 ONE EIGHTH BLOCK,ONE QUARTER BLOCK,tEIGHTHS BLOCK,HALF BLOCK,FIVE EIGHTHS BLOCK,tQUARTERS BLOCK
 SEVEN EIGHTHS BLOCK
2588
 FULL BLOCK,xSEVEN EIGHTHS BLOCK,xtQUARTERS BLOCK,xFIVE EIGHTHS BLOCK,xHALF BLOCK,xtEIGHTHS BLOCK
 xONE QUARTER BLOCK,xONE EIGHTH BLOCK,rHALF BLOCK,LIGHT SHADE,MEDIUM SHADE,DARK SHADE
 UPPER ONE EIGHTH BLOCK,rONE EIGHTH BLOCK
2596 QUADRANT LOWER
 x,r
2598 QUADRANT UPPER
 x,xnLOWERxnLOWERr,xnLOWERr,xnUPPERrnLOWERx,xnUPPERrnLOWERr,r,rnLOWERx,rnLOWERxnLOWERr
25A0
 kSQUARE,hSQUARE
25A2 hSQUARE
 wROUNDED CORNERS,CONTAININGksSQUARE
25A4 SQUAREw
 HORIZONTAL FILL,vFILL,ORTHOGONAL CROSSHATCH FILL,UPPERxTO LOWERrFILL,UPPERrTO LOWERxFILL
 DIAGONAL CROSSHATCH FILL
25AA
 ksSQUARE,hsSQUARE,kRECTANGLE,hRECTANGLE,kvRECTANGLE,hvRECTANGLE,kPARALLELOGRAM,hPARALLELOGRAM
 kUP-POINTING TRIANGLE,hUP-POINTING TRIANGLE,kUP-POINTINGsTRIANGLE,hUP-POINTINGsTRIANGLE
 kRIGHT-POINTING TRIANGLE,hRIGHT-POINTING TRIANGLE,kRIGHT-POINTINGsTRIANGLE,hRIGHT-POINTINGsTRIANGLE
 kRIGHT-POINTING POINTER,hRIGHT-POINTING POINTER,kDOWN-POINTING TRIANGLE,hDOWN-POINTING TRIANGLE
 kDOWN-POINTINGsTRIANGLE,hDOWN-POINTINGsTRIANGLE,kLEFT-POINTING TRIANGLE,hLEFT-POINTING TRIANGLE
 kLEFT-POINTINGsTRIANGLE,hLEFT-POINTINGsTRIANGLE,kLEFT-POINTING POINTER,hLEFT-POINTING POINTER
 kDIAMOND,hDIAMOND,hDIAMOND CONTAININGksDIAMOND,FISHEYE,LOZENGE,hCIRCLE,DOTTED CIRCLE,CIRCLEwvFILL
 BULLSEYE,kCIRCLE
25D0 CIRCLEw
 xHALFk,rHALFk,LOWER HALFk,UPPER HALFk,UPPERrQUADRANTk,ALL BUT UPPERxQUADRANTk
25D6
 xHALFkCIRCLE,rHALFkCIRCLE,INVERSE BULLET,INVERSEhCIRCLE,UPPER HALF INVERSEhCIRCLE
 LOWER HALF INVERSEhCIRCLE,UPPERxQUADRANT CIRCULAR ARC,UPPERrQUADRANT CIRCULAR ARC
 LOWERrQUADRANT CIRCULAR ARC,LOWERxQUADRANT CIRCULAR ARC,UPPER HALF CIRCLE,LOWER HALF CIRCLE
 kLOWERrTRIANGLE,kLOWERxTRIANGLE,kUPPERxTRIANGLE,kUPPERrTRIANGLE,hBULLET
25E7 SQUAREw
 xHALFk,rHALFk,UPPERxDIAGONAL HALFk,LOWERrDIAGONAL HALFk
25EB h
 SQUAREwvBISECTING LINE,UP-POINTING TRIANGLEwDOT
25ED UP-POINTING TRIANGLEw
 xHALFk,rHALFk
25EF LARGE
 CIRCLE
25F0 hSQUAREw
 UPPERxQUADRANT,LOWERxQUADRANT,LOWERrQUADRANT,UPPERrQUADRANT
25F4 hCIRCLEw
 UPPERxQUADRANT,LOWERxQUADRANT,LOWERrQUADRANT,UPPERrQUADRANT
25F8
 UPPERxTRIANGLE,UPPERrTRIANGLE,LOWERxTRIANGLE,hMEDIUM SQUARE,kMEDIUM SQUARE,hMEDIUMsSQUARE
 kMEDIUMsSQUARE,LOWERrTRIANGLE,kSUNwRAYS,CLOUD,UMBRELLA,SNOWMAN,COMET,kSTAR,hSTAR,LIGHTNING
 THUNDERSTORM,SUN,ASCENDING NODE,DESCENDING NODE,CONJUNCTION,OPPOSITION,kTELEPHONE,hTELEPHONE
2610 BALLOT
 BOX,BOXwCHECK,BOXwX
2613
 SALTIRE,UMBRELLAwRAIN DROPS,HOT BEVERAGE,hSHOGI PIECE,kSHOGI PIECE,SHAMROCK
 REVERSED ROTATED FLORAL HEART BULLET,kxPOINTING INDEX,krPOINTING INDEX,hxPOINTING INDEX
 hUP POINTING INDEX,hrPOINTING INDEX,hDOWN POINTING INDEX,SKULLnCROSSBONES,CAUTIONg,RADIOACTIVEg
 BIOHAZARDg,CADUCEUS,ANKH,ORTHODOX CROSS,CHI RHO,CROSS OF LORRAINE,CROSS OF JERUSALEM,STARnCRESCENT
 FARSIu,ADI SHAKTI,HAMMERnSICKLE,PEACEu,YIN YANG
2630 TRIGRAM FOR
 HEAVEN,LAKE,FIRE,THUNDER,WIND,WATER,MOUNTAIN,EARTH
2638
 WHEEL OF DHARMA,hFROWNING FACE,hSMILING FACE,kSMILING FACE,hSUNwRAYS,FIRST QUARTER MOON
 LAST QUARTER MOON,MERCURY,FEMALEg,EARTH,MALEg,JUPITER,SATURN,URANUS,NEPTUNE,PLUTO,ARIES,TAURUS
 GEMINI,CANCER,LEO,VIRGO,LIBRA,SCORPIUS,SAGITTARIUS,CAPRICORN,AQUARIUS,PISCES
2654 hCHESS
 KING,QUEEN,ROOK,BISHOP,KNIGHT,PAWN
265A kCHESS
 KING,QUEEN,ROOK,BISHOP,KNIGHT,PAWN
2660
 kSPADE SUIT,hHEART SUIT,hDIAMOND SUIT,kCLUB SUIT,hSPADE SUIT,kHEART SUIT,kDIAMOND SUIT,hCLUB SUIT
 HOT SPRINGS,QUARTER NOTE,EIGHTH NOTE
266B BEAMED
 EIGHTH NOTES,SIXTEENTH NOTES
266D MUSIC
 FLATg,NATURALg,SHARPg
2670
 WEST SYRIAC CROSS,EAST SYRIAC CROSS,UNIVERSAL RECYCLINGu
2673 RECYCLINGuFOR
 TYPE-1 PLASTICS,TYPE-2 PLASTICS,TYPE-3 PLASTICS,TYPE-4 PLASTICS,TYPE-5 PLASTICS,TYPE-6 PLASTICS
 TYPE-7 PLASTICS,GENERIC MATERIALS
267B
 kUNIVERSAL RECYCLINGu,RECYCLED PAPERu,PARTIALLY-RECYCLED PAPERu,PERMANENT PAPERg,WHEELCHAIRu
2680 DIE
 FACE-1~6
2686 hCIRCLEw
 DOTr,TWO DOTS
2688 kCIRCLEw
 hDOTr,TWOhDOTS
268A MONOGRAM FOR
 YANG,YIN
268C DIGRAM FOR
 GREATER YANG,LESSER YIN,LESSER YANG,GREATER YIN
2690
 hFLAG,kFLAG,HAMMERnPICK,ANCHOR,CROSSED SWORDS,STAFF OF AESCULAPIUS,SCALES,ALEMBIC,FLOWER,GEAR
 STAFF OF HERMES,ATOMu,FLEUR-DE-LIS,OUTLINEDhSTAR
269E tLINES CONVERGING
 r,x
26A0
 WARNINGg,HIGH VOLTAGEg,DOUBLED FEMALEg,DOUBLED MALEg,INTERLOCKED FEMALEnMALEg,MALEnFEMALEg,MALEwpg
 MALEwpnMALEnFEMALEg,vMALEwpg,HORIZONTAL MALEwpg,MEDIUMhCIRCLE,MEDIUMkCIRCLE,MEDIUMshCIRCLE
 MARRIAGEu,DIVORCEu,UNMARRIED PARTNERSHIPu,COFFIN,FUNERAL URN,NEUTER,CERES,PALLAS,JUNO,VESTA,CHIRON
 kMOON LILITH,SEXTILE,SEMISEXTILE,QUINCUNX,SESQUIQUADRATE,SOCCER BALL,BASEBALL,SQUARED KEY
26C0 hDRAUGHTS
 MAN,KING
26C2 kDRAUGHTS
 MAN,KING
26C4
 SNOWMAN WITHOUT SNOW,SUN BEHIND CLOUD,RAIN,kSNOWMAN,THUNDER CLOUDnRAIN,TURNEDhSHOGI PIECE
 TURNEDkSHOGI PIECE,hDIAMOND IN SQUARE,CROSSING LANES,DISABLED CAR,OPHIUCHUS,PICK,CAR SLIDING
 HELMETwhCROSS,CIRCLED CROSSING LANES,CHAINS,NO ENTRY,ALTERNATE ONE-WAYxWAY TRAFFIC
 kTWO-WAYxWAY TRAFFIC,hTWO-WAYxWAY TRAFFIC,kxLANE MERGE,hxLANE MERGE,DRIVE SLOWg
 HEAVYhDOWN-POINTING TRIANGLE,xCLOSED ENTRY,SQUARED SALTIRE,FALLING DIAGONAL INhCIRCLE INkSQUARE
 kTRUCK,RESTRICTEDxENTRY-1,RESTRICTEDxENTRY-2,ASTRONOMICALuFOR URANUS,HEAVY CIRCLEwpnTWO DOTSe
 PENTAGRAM,RIGHT-HANDED INTERLACED PENTAGRAM,LEFT-HANDED INTERLACED PENTAGRAM,INVERTED PENTAGRAM
 kCROSS ON SHIELD,SHINTO SHRINE,CHURCH,CASTLE,HISTORIC SITE,GEAR WITHOUT HUB,GEARwHANDLES
 MAPuFOR LIGHTHOUSE,MOUNTAIN,UMBRELLA ON GROUND,FOUNTAIN,FLAG IN HOLE,FERRY,SAILBOAT
 SQUARE FOUR CORNERS,SKIER,ICE SKATE,PERSONwBALL,TENT,JAPANESE BANKu,HEADSTONE GRAVEYARDu,FUEL PUMP
 CUP ONkSQUARE,hFLAGwHORIZONTAL MIDDLEkSTRIPE,kSAFETY SCISSORS,UPPER BLADE SCISSORS,kSCISSORS
 LOWER BLADE SCISSORS,hSCISSORS,hHEAVY CHECKm,TELEPHONE LOCATIONg,TAPE DRIVE,AIRPLANE,ENVELOPE
 RAISED FIST,RAISED HAND,VICTORY HAND,WRITING HAND,LOWERrPENCIL,PENCIL,UPPERrPENCIL,hNIB,kNIB,CHECKm
 HEAVY CHECKm,MULTIPLICATION X,HEAVY MULTIPLICATION X,BALLOT X,HEAVY BALLOT X,OUTLINED GREEK CROSS
 HEAVY GREEK CROSS,OPEN CENTRE CROSS,HEAVY OPEN CENTRE CROSS,LATIN CROSS,SHADOWEDhLATIN CROSS
 OUTLINED LATIN CROSS,MALTESE CROSS,STAR OF DAVID,FOUR TEARDROP-SPOKED ASTERISK
 FOUR BALLOON-SPOKED ASTERISK,HEAVY FOUR BALLOON-SPOKED ASTERISK,FOUR CLUB-SPOKED ASTERISK
 kFOUR POINTED STAR,hFOUR POINTED STAR,SPARKLES,STRESS OUTLINEDhSTAR,CIRCLEDhSTAR,OPEN CENTREkSTAR
 kCENTREhSTAR,OUTLINEDkSTAR,HEAVY OUTLINEDkSTAR,PINWHEEL STAR,SHADOWEDhSTAR,HEAVY ASTERISK
 OPEN CENTRE ASTERISK,EIGHT SPOKED ASTERISK
2734 EIGHT POINTED
 kSTAR,PINWHEEL STAR
2736
 SIX POINTEDkSTAR,EIGHT POINTED RECTILINEARkSTAR,HEAVY EIGHT POINTED RECTILINEARkSTAR
 TWELVE POINTEDkSTAR,SIXTEEN POINTED ASTERISK,TEARDROP-SPOKED ASTERISK
 OPEN CENTRE TEARDROP-SPOKED ASTERISK,HEAVY TEARDROP-SPOKED ASTERISK,SIX PETALLEDknhFLORETTE
 kFLORETTE,hFLORETTE,EIGHT PETALLED OUTLINEDkFLORETTE,CIRCLED OPEN CENTRE EIGHT POINTED STAR
 HEAVY TEARDROP-SPOKED PINWHEEL ASTERISK,SNOWFLAKE,TIGHT TRIFOLIATE SNOWFLAKE
 HEAVY CHEVRON SNOWFLAKE,SPARKLE,HEAVY SPARKLE,BALLOON-SPOKED ASTERISK
 EIGHT TEARDROP-SPOKED PROPELLER ASTERISK,HEAVY EIGHT TEARDROP-SPOKED PROPELLER ASTERISK,CROSSm
 SHADOWEDhCIRCLE,NEGATIVE SQUARED CROSSm,LOWERrDROP-SHADOWEDhSQUARE,UPPERrDROP-SHADOWEDhSQUARE
 LOWERrSHADOWEDhSQUARE,UPPERrSHADOWEDhSQUARE,kQUESTIONmORNAMENT,hQUESTIONmORNAMENT
 hEXCLAMATIONmORNAMENT,kDIAMOND MINUShX,HEAVY EXCLAMATIONmu,LIGHTvBAR,MEDIUMvBAR
275A HEAVY
 vBAR,SINGLE TURNED COMMA QUOTATIONmORNAMENT,SINGLE COMMA QUOTATIONmORNAMENT
 dTURNED COMMA QUOTATIONmORNAMENT,dCOMMA QUOTATIONmORNAMENT,LOW SINGLE COMMA QUOTATIONmORNAMENT
 LOWdCOMMA QUOTATIONmORNAMENT
2761
 CURVED STEM PARAGRAPHgORNAMENT,HEAVY EXCLAMATIONmORNAMENT,HEAVY HEART EXCLAMATIONmORNAMENT
 HEAVYkHEART,ROTATED HEAVYkHEART BULLET,FLORAL HEART,ROTATED FLORAL HEART BULLET
2768 MEDIUM
 xPARENTHESIS ORNAMENT,rPARENTHESIS ORNAMENT,FLATTENEDxPARENTHESIS ORNAMENT
 FLATTENEDrPARENTHESIS ORNAMENT,LEFT-POINTING ANGLE BRACKET ORNAMENT
 RIGHT-POINTING ANGLE BRACKET ORNAMENT
276E HEAVY
 LEFT-POINTING ANGLE QUOTATIONmORNAMENT,RIGHT-POINTING ANGLE QUOTATIONmORNAMENT
 LEFT-POINTING ANGLE BRACKET ORNAMENT,RIGHT-POINTING ANGLE BRACKET ORNAMENT
2772 LIGHT
 xTORTOISE SHELL BRACKET ORNAMENT,rTORTOISE SHELL BRACKET ORNAMENT
2774 MEDIUM
 xCURLY BRACKET ORNAMENT,rCURLY BRACKET ORNAMENT
2776 DINGBAT NEGATIVE CIRCLED DIGIT
 ONE,TWO,t,FOUR,FIVE,SIX,SEVEN,EIGHT,NINE
277F DINGBAT NEGATIVE CIRCLED NUMBER
 TEN
2780 DINGBAT CIRCLED SANS-SERIF DIGIT
 ONE,TWO,t,FOUR,FIVE,SIX,SEVEN,EIGHT,NINE
2789 DINGBAT CIRCLED SANS-SERIF NUMBER
 TEN
278A DINGBAT NEGATIVE CIRCLED SANS-SERIF DIGIT
 ONE,TWO,t,FOUR,FIVE,SIX,SEVEN,EIGHT,NINE
2793 DINGBAT NEGATIVE CIRCLED SANS-SERIF NUMBER
 TEN
2794 HEAVY
 WIDE-HEADEDza,PLUSg,MINUSg,DIVISIONg,SOUTH EASTa,za,NORTH EASTa
279B
 DRAFTING POINTza,HEAVY ROUND-TIPPEDza,TRIANGLE-HEADEDza,HEAVY TRIANGLE-HEADEDza
 DASHED TRIANGLE-HEADEDza,HEAVY DASHED TRIANGLE-HEADEDza,kza,THREE-D TOP-LIGHTEDzARROWHEAD
 THREE-D BOTTOM-LIGHTEDzARROWHEAD,kzARROWHEAD
27A5 HEAVYkCURVED
 DOWNWARDSnza,UPWARDSnza
27A7
 SQUATkza,HEAVY CONCAVE-POINTEDkza,RIGHT-SHADEDhza,LEFT-SHADEDhza,BACK-TILTED SHADOWEDhza
 FRONT-TILTED SHADOWEDhza,HEAVY LOWER RIGHT-SHADOWEDhza,HEAVY UPPER RIGHT-SHADOWEDhza
 NOTCHED LOWER RIGHT-SHADOWEDhza,CURLY LOOP,NOTCHED UPPER RIGHT-SHADOWEDhza,CIRCLED HEAVYhza
 WHITE-FEATHEREDza
27B4 BLACK-FEATHERED
 SOUTH EASTa,za,NORTH EASTa
27B7 HEAVY BLACK-FEATHERED
 SOUTH EASTa,za,NORTH EASTa
27BA
 TEARDROP-BARBEDza,HEAVY TEARDROP-SHANKEDza,WEDGE-TAILEDza,HEAVY WEDGE-TAILEDza,OPEN-OUTLINEDza
 dCURLY LOOP,tDIMENSIONAL ANGLE,hTRIANGLE CONTAININGshTRIANGLE,PERPENDICULAR,OPEN SUBSET
 OPEN SUPERSET,xS-SHAPED BAG DELIMITER,rS-SHAPED BAG DELIMITER,ORwDOT INSIDE
 REVERSE SOLIDUS PRECEDING SUBSET,SUPERSET PRECEDING SOLIDUS,vBARwHORIZONTALp
 MATHEMATICAL RISING DIAGONAL,LONG DIVISION,MATHEMATICAL FALLING DIAGONAL
27CE SQUARED LOGICAL
 n,OR
27D0
 hDIAMONDwCENTRED DOT,nwDOT,ELEMENT OF OPENING UPWARDS,LOWERrCORNERwDOT,UPPERxCORNERwDOT,xOUTER JOIN
 rOUTER JOIN,FULL OUTER JOIN,LARGE UP TACK,LARGE DOWN TACK,xnrdTURNSTILE,xnrTACK,xMULTIMAP,LONGrTACK
 LONGxTACK,UP TACKwCIRCLEe,LOZENGE DIVIDED BY HORIZONTAL RULE
27E1 hCONCAVE-SIDED
 DIAMOND,DIAMONDwyTICK,DIAMONDwzTICK
27E4 hSQUAREw
 yTICK,zTICK
27E6 MATHEMATICAL
 xhSQUARE BRACKET,rhSQUARE BRACKET,xANGLE BRACKET,rANGLE BRACKET,xdANGLE BRACKET,rdANGLE BRACKET
 xhTORTOISE SHELL BRACKET,rhTORTOISE SHELL BRACKET,xFLATTENED PARENTHESIS,rFLATTENED PARENTHESIS
27F0
 UPWARDS QUADRUPLEa,DOWNWARDS QUADRUPLEa,ANTICLOCKWISE GAPPED CIRCLEa,CLOCKWISE GAPPED CIRCLEa
 rawCIRCLED PLUS
27F5 LONG
 ya,za,xra,yda,zda,xrda,yaFROM BAR,zaFROM BAR,ydaFROM BAR,zdaFROM BAR,zSQUIGGLEa
2800 BRAILLE PATTERN
 BLANK,DOTS-1,DOTS-2,DOTS-12,DOTS-3,DOTS-13,DOTS-23,DOTS-123,DOTS-4,DOTS-14,DOTS-24,DOTS-124,DOTS-34
 DOTS-134,DOTS-234,DOTS-1234,DOTS-5,DOTS-15,DOTS-25,DOTS-125,DOTS-35,DOTS-135,DOTS-235,DOTS-1235
 DOTS-45,DOTS-145,DOTS-245,DOTS-1245,DOTS-345,DOTS-1345,DOTS-2345,DOTS-12345,DOTS-6,DOTS-16,DOTS-26
 DOTS-126,DOTS-36,DOTS-136,DOTS-236,DOTS-1236,DOTS-46,DOTS-146,DOTS-246,DOTS-1246,DOTS-346,DOTS-1346
 DOTS-2346,DOTS-12346,DOTS-56,DOTS-156,DOTS-256,DOTS-1256,DOTS-356,DOTS-1356,DOTS-2356,DOTS-12356
 DOTS-456,DOTS-1456,DOTS-2456,DOTS-12456,DOTS-3456,DOTS-13456,DOTS-23456,DOTS-123456,DOTS-7,DOTS-17
 DOTS-27,DOTS-127,DOTS-37,DOTS-137,DOTS-237,DOTS-1237,DOTS-47,DOTS-147,DOTS-247,DOTS-1247,DOTS-347
 DOTS-1347,DOTS-2347,DOTS-12347,DOTS-57,DOTS-157,DOTS-257,DOTS-1257,DOTS-357,DOTS-1357,DOTS-2357
 DOTS-12357,DOTS-457,DOTS-1457,DOTS-2457,DOTS-12457,DOTS-3457,DOTS-13457,DOTS-23457,DOTS-123457
 DOTS-67,DOTS-167,DOTS-267,DOTS-1267,DOTS-367,DOTS-1367,DOTS-2367,DOTS-12367,DOTS-467,DOTS-1467
 DOTS-2467,DOTS-12467,DOTS-3467,DOTS-13467,DOTS-23467,DOTS-123467,DOTS-567,DOTS-1567,DOTS-2567
 DOTS-12567,DOTS-3567,DOTS-13567,DOTS-23567,DOTS-123567,DOTS-4567,DOTS-14567,DOTS-24567,DOTS-124567
 DOTS-34567,DOTS-134567,DOTS-234567,DOTS-1234567,DOTS-8,DOTS-18,DOTS-28,DOTS-128,DOTS-38,DOTS-138
 DOTS-238,DOTS-1238,DOTS-48,DOTS-148,DOTS-248,DOTS-1248,DOTS-348,DOTS-1348,DOTS-2348,DOTS-12348
 DOTS-58,DOTS-158,DOTS-258,DOTS-1258,DOTS-358,DOTS-1358,DOTS-2358,DOTS-12358,DOTS-458,DOTS-1458
 DOTS-2458,DOTS-12458,DOTS-3458,DOTS-13458,DOTS-23458,DOTS-123458,DOTS-68,DOTS-168,DOTS-268
 DOTS-1268,DOTS-368,DOTS-1368,DOTS-2368,DOTS-12368,DOTS-468,DOTS-1468,DOTS-2468,DOTS-12468,DOTS-3468
 DOTS-13468,DOTS-23468,DOTS-123468,DOTS-568,DOTS-1568,DOTS-2568,DOTS-12568,DOTS-3568,DOTS-13568
 DOTS-23568,DOTS-123568,DOTS-4568,DOTS-14568,DOTS-24568,DOTS-124568,DOTS-34568,DOTS-134568
 DOTS-234568,DOTS-1234568,DOTS-78,DOTS-178,DOTS-278,DOTS-1278,DOTS-378,DOTS-1378,DOTS-2378
 DOTS-12378,DOTS-478,DOTS-1478,DOTS-2478,DOTS-12478,DOTS-3478,DOTS-13478,DOTS-23478,DOTS-123478
 DOTS-578,DOTS-1578,DOTS-2578,DOTS-12578,DOTS-3578,DOTS-13578,DOTS-23578,DOTS-123578,DOTS-4578
 DOTS-14578,DOTS-24578,DOTS-124578,DOTS-34578,DOTS-134578,DOTS-234578,DOTS-1234578,DOTS-678
 DOTS-1678,DOTS-2678,DOTS-12678,DOTS-3678,DOTS-13678,DOTS-23678,DOTS-123678,DOTS-4678,DOTS-14678
 DOTS-24678,DOTS-124678,DOTS-34678,DOTS-134678,DOTS-234678,DOTS-1234678,DOTS-5678,DOTS-15678
 DOTS-25678,DOTS-125678,DOTS-35678,DOTS-135678,DOTS-235678,DOTS-1235678,DOTS-45678,DOTS-145678
 DOTS-245678,DOTS-1245678,DOTS-345678,DOTS-1345678,DOTS-2345678,DOTS-12345678
2900 zTWO-HEADEDaw
 vp,dvp
2902
 ydawvp,zdawvp,xrdawvp,zTWO-HEADEDaFROM BAR,ydaFROM BAR,zdaFROM BAR,DOWNWARDSawHORIZONTALp
 UPWARDSawHORIZONTALp,UPWARDS TRIPLEa,DOWNWARDS TRIPLEa,ydDASHa,zdDASHa,yTRIPLE DASHa,zTRIPLE DASHa
 zTWO-HEADED TRIPLE DASHa,zawDOTTED STEM,UPWARDSaTO BAR,DOWNWARDSaTO BAR
2914 zawTAILw
 vp,dvp
2916 zTWO-HEADEDaw
 TAIL,TAILwvp,TAILwdvp
2919
 yARROW-TAIL,zARROW-TAIL,ydARROW-TAIL,zdARROW-TAIL,yaTOkDIAMOND,zaTOkDIAMOND,yaFROM BAR TOkDIAMOND
 zaFROM BAR TOkDIAMOND
2921 NORTH
 WESTnSOUTH EASTa,EASTnSOUTH WESTa,WESTawHOOK,EASTawHOOK
2925 SOUTH
 EASTawHOOK,WESTawHOOK
2927 NORTH
 WESTanNORTH EASTa,EASTanSOUTH EASTa
2929 SOUTH
 EASTanSOUTH WESTa,WESTanNORTH WESTa
292B
 RISING DIAGONAL CROSSING FALLING DIAGONAL,FALLING DIAGONAL CROSSING RISING DIAGONAL
 SOUTH EASTaCROSSING NORTH EASTa,NORTH EASTaCROSSING SOUTH EASTa
 FALLING DIAGONAL CROSSING NORTH EASTa,RISING DIAGONAL CROSSING SOUTH EASTa
 NORTH EASTaCROSSING NORTH WESTa,NORTH WESTaCROSSING NORTH EASTa,WAVEaPOINTING DIRECTLYr
2934 aPOINTINGzTHEN CURVING
 UPWARDS,DOWNWARDS
2936 aPOINTING DOWNWARDS THEN CURVING
 y,z
2938
 RIGHT-SIDE ARC CLOCKWISEa,LEFT-SIDE ARC ANTICLOCKWISEa,TOP ARC ANTICLOCKWISEa
 BOTTOM ARC ANTICLOCKWISEa,TOP ARC CLOCKWISEawMINUS,TOP ARC ANTICLOCKWISEawPLUS
 LOWERrSEMICIRCULAR CLOCKWISEa,LOWERxSEMICIRCULAR ANTICLOCKWISEa,ANTICLOCKWISE CLOSED CIRCLEa
 CLOCKWISE CLOSED CIRCLEa,zaeSHORTya,yaeSHORTza,SHORTzaeya,zawPLUSb,yawPLUSb,zaTHROUGH X
 xraTHROUGHsCIRCLE,UPWARDS TWO-HEADEDaFROMsCIRCLE,xBARB UPrBARB DOWN HARPOON
 xBARB DOWNrBARB UP HARPOON,UP BARBrDOWN BARBxHARPOON,UP BARBxDOWN BARBrHARPOON
 xBARB UPrBARB UP HARPOON,UP BARBrDOWN BARBrHARPOON,xBARB DOWNrBARB DOWN HARPOON
 UP BARBxDOWN BARBxHARPOON,yHARPOONwBARB UP TO BAR,zHARPOONwBARB UP TO BAR
 UPWARDS HARPOONwBARBrTO BAR,DOWNWARDS HARPOONwBARBrTO BAR,yHARPOONwBARB DOWN TO BAR
 zHARPOONwBARB DOWN TO BAR,UPWARDS HARPOONwBARBxTO BAR,DOWNWARDS HARPOONwBARBxTO BAR
 yHARPOONwBARB UP FROM BAR,zHARPOONwBARB UP FROM BAR,UPWARDS HARPOONwBARBrFROM BAR
 DOWNWARDS HARPOONwBARBrFROM BAR,yHARPOONwBARB DOWN FROM BAR,zHARPOONwBARB DOWN FROM BAR
 UPWARDS HARPOONwBARBxFROM BAR,DOWNWARDS HARPOONwBARBxFROM BAR,yHARPOONwBARB UPeyHARPOONwBARB DOWN
 UPWARDS HARPOONwBARBxBESIDE UPWARDS HARPOONwBARBr,zHARPOONwBARB UPezHARPOONwBARB DOWN
 DOWNWARDS HARPOONwBARBxBESIDE DOWNWARDS HARPOONwBARBr
2966 yHARPOONwBARB
 UPezHARPOONwBARB UP,DOWNezHARPOONwBARB DOWN
2968 zHARPOONwBARB
 UPeyHARPOONwBARB UP,DOWNeyHARPOONwBARB DOWN
296A yHARPOONwBARB
 UPeLONG DASH,DOWNbLONG DASH
296C zHARPOONwBARB
 UPeLONG DASH,DOWNbLONG DASH
296E
 UPWARDS HARPOONwBARBxBESIDE DOWNWARDS HARPOONwBARBr
 DOWNWARDS HARPOONwBARBxBESIDE UPWARDS HARPOONwBARBr,rdawROUNDED HEAD,EQUALSgeza,TILDE OPERATOReza
 yaeTILDE OPERATOR,zaeTILDE OPERATOR,zaeALMOST EQUAL TO,LESS-THANeya,yaTHROUGH LESS-THAN
 GREATER-THANeza,SUBSETeza,yaTHROUGH SUBSET,SUPERSETeya,xFISH TAIL,rFISH TAIL,UP FISH TAIL
 DOWN FISH TAIL,TRIPLEvBAR DELIMITER,Z NOTATION SPOT,Z NOTATION TYPE COLON,xhCURLY BRACKET
 rhCURLY BRACKET,xhPARENTHESIS,rhPARENTHESIS
2987 Z NOTATION
 xIMAGE BRACKET,rIMAGE BRACKET,xBINDING BRACKET,rBINDING BRACKET
298B
 xSQUARE BRACKETwUNDERBAR,rSQUARE BRACKETwUNDERBAR,xSQUARE BRACKETwTICK IN TOP CORNER
 rSQUARE BRACKETwTICK IN BOTTOM CORNER,xSQUARE BRACKETwTICK IN BOTTOM CORNER
 rSQUARE BRACKETwTICK IN TOP CORNER,xANGLE BRACKETwDOT,rANGLE BRACKETwDOT,xARC LESS-THAN BRACKET
 rARC GREATER-THAN BRACKET,dxARC GREATER-THAN BRACKET,drARC LESS-THAN BRACKET
 xkTORTOISE SHELL BRACKET,rkTORTOISE SHELL BRACKET,DOTTED FENCE,vZIGZAG LINE,MEASURED ANGLE OPENINGx
 rANGLE VARIANTwSQUARE,MEASUREDrANGLEwDOT,ANGLEwS INSIDE,ACUTE ANGLE
29A0 SPHERICAL ANGLE OPENING
 x,UP
29A2
 TURNED ANGLE,REVERSED ANGLE,ANGLEwUNDERBAR,REVERSED ANGLEwUNDERBAR
29A6 OBLIQUE ANGLE OPENING
 UP,DOWN
29A8 MEASURED ANGLEwOPEN ARM ENDING INaPOINTING
 UPnr,UPnx,DOWNnr,DOWNnx,rnUP,xnUP,rnDOWN,xnDOWN
29B0 REVERSED EMPTY
 SET
29B1 EMPTY SETw
 OVERBAR,sCIRCLEe,rae,xae
29B5 CIRCLEwHORIZONTAL
 BAR
29B6 CIRCLED
 vBAR,PARALLEL,REVERSE SOLIDUS,PERPENDICULAR
29BA CIRCLE
 DIVIDED BY HORIZONTAL BARnTOP HALF DIVIDED BYvBAR,wSUPERIMPOSED X
29BC
 CIRCLED ANTICLOCKWISE-ROTATED DIVISIONg,UPaTHROUGH CIRCLE
29BE CIRCLED
 hBULLET,BULLET,LESS-THAN,GREATER-THAN
29C2 CIRCLEw
 sCIRCLE TO THEr,TWO HORIZONTAL STROKES TO THEr
29C4 SQUARED
 RISING DIAGONAL SLASH,FALLING DIAGONAL SLASH,ASTERISK,sCIRCLE,SQUARE
29C9
 TWO JOINED SQUARES,TRIANGLEwDOTe,TRIANGLEwUNDERBAR,S IN TRIANGLE,TRIANGLEwSERIFS AT BOTTOM
 rTRIANGLEexTRIANGLE,xTRIANGLE BESIDEvBAR,vBAR BESIDErTRIANGLE,BOWTIEwxHALFk,BOWTIEwrHALFk,kBOWTIE
 TIMESwxHALFk,TIMESwrHALFk,hHOURGLASS,kHOURGLASS,xWIGGLY FENCE,rWIGGLY FENCE,xdWIGGLY FENCE
 rdWIGGLY FENCE,INCOMPLETE INFINITY,TIE OVER INFINITY,INFINITY NEGATEDwvBAR,DOUBLE-ENDED MULTIMAP
 SQUAREwCONTOURED OUTLINE,INCREASES AS,SHUFFLE PRODUCT
29E3 EQUALSgnSLANTED
 PARALLEL,PARALLELwTILDEe
29E5
 IDENTICAL TOnSLANTED PARALLEL,GLEICH STARK,THERMODYNAMIC
29E8 DOWN-POINTING TRIANGLEw
 xHALFk,rHALFk
29EA
 kDIAMONDwDOWNa,kLOZENGE,hCIRCLEwDOWNa,kCIRCLEwDOWNa
29EE ERROR-BARRED
 hSQUARE,kSQUARE,hDIAMOND,kDIAMOND,hCIRCLE,kCIRCLE
29F4
 RULE-DELAYED,REVERSE SOLIDUS OPERATOR,SOLIDUSwOVERBAR,REVERSE SOLIDUSwHORIZONTALp,BIG SOLIDUS
 BIG REVERSE SOLIDUS,dPLUS,TRIPLE PLUS,LEFT-POINTING CURVED ANGLE BRACKET
 RIGHT-POINTING CURVED ANGLE BRACKET,TINY,MINY
2A00 N-ARY CIRCLED
 DOT OPERATOR,PLUS OPERATOR,TIMES OPERATOR
2A03 N-ARY UNION OPERATORw
 DOT,PLUS
2A05 N-ARY SQUARE
 INTERSECTION OPERATOR,UNION OPERATOR
2A07 TWO LOGICAL
 nOPERATOR,OR OPERATOR
2A09
 N-ARY TIMES OPERATOR,MODULO TWO SUM,SUMMATIONwINTEGRAL,QUADRUPLE INTEGRAL OPERATOR
 FINITE PART INTEGRAL,INTEGRALwdp,INTEGRAL AVERAGEwSLASH,CIRCULATION FUNCTION
 ANTICLOCKWISE INTEGRATION
2A12 LINE INTEGRATION
 wRECTANGULAR PATH AROUND POLE,wSEMICIRCULAR PATH AROUND POLE,NOT INCLUDING THE POLE
2A15
 INTEGRAL AROUND A POINT OPERATOR,QUATERNION INTEGRAL OPERATOR
2A17 INTEGRALw
 yawHOOK,TIMESg,INTERSECTION,UNION,OVERBAR,UNDERBAR
2A1D
 JOIN,LARGExTRIANGLE OPERATOR
2A1F Z NOTATION SCHEMA
 COMPOSITION,PIPING,PROJECTION
2A22 PLUSgw
 sCIRCLEe,CIRCUMFLEX ACCENTe,TILDEe,DOTb,TILDEb,SUBSCRIPT TWO,kTRIANGLE
2A29 MINUSgw
 COMMAe,DOTb,FALLING DOTS,RISING DOTS
2A2D PLUSgIN
 xHALF CIRCLE,rHALF CIRCLE
2A2F VECTOR OR CROSS
 PRODUCT
2A30 MULTIPLICATIONgw
 DOTe,UNDERBAR
2A32
 SEMIDIRECT PRODUCTwBOTTOM CLOSED,SMASH PRODUCT
2A34 MULTIPLICATIONgIN
 xHALF CIRCLE,rHALF CIRCLE
2A36
 CIRCLED MULTIPLICATIONgwCIRCUMFLEX ACCENT,MULTIPLICATIONgINdCIRCLE,CIRCLED DIVISIONg
 PLUSgIN TRIANGLE,MINUSgIN TRIANGLE,MULTIPLICATIONgIN TRIANGLE,INTERIOR PRODUCT
 RIGHTHAND INTERIOR PRODUCT,Z NOTATION RELATIONAL COMPOSITION,AMALGAMATION OR COPRODUCT
 INTERSECTIONwDOT,UNIONwMINUSg,UNIONwOVERBAR
2A43 INTERSECTIONw
 OVERBAR,LOGICALn
2A45
 UNIONwLOGICAL OR,UNIONeINTERSECTION,INTERSECTIONeUNION,UNIONeBAReINTERSECTION
 INTERSECTIONeBAReUNION,UNION BESIDEnJOINEDwUNION,INTERSECTION BESIDEnJOINEDwINTERSECTION
 CLOSED UNIONwSERIFS,CLOSED INTERSECTIONwSERIFS,dSQUARE INTERSECTION,dSQUARE UNION
 CLOSED UNIONwSERIFSnSMASH PRODUCT
2A51 LOGICAL
 nwDOTe,ORwDOTe
2A53 dLOGICAL
 n,OR
2A55 TWO INTERSECTING LOGICAL
 n,OR
2A57 SLOPING LARGE
 OR,n
2A59 LOGICAL
 OR OVERLAPPING LOGICALn,nwMIDDLE STEM,ORwMIDDLE STEM,nwHORIZONTAL DASH,ORwHORIZONTAL DASH
 nwdOVERBAR,nwUNDERBAR,nwdUNDERBAR
2A61
 sVEEwUNDERBAR
2A62 LOGICAL ORwd
 OVERBAR,UNDERBAR
2A64 Z NOTATION
 DOMAIN ANTIRESTRICTION,RANGE ANTIRESTRICTION
2A66
 EQUALSgwDOTb,IDENTICALwDOTe
2A68 TRIPLE HORIZONTAL BARw
 dvp,TRIPLEvp
2A6A TILDE OPERATORw
 DOTe,RISING DOTS
2A6C
 SIMILAR MINUS SIMILAR,CONGRUENTwDOTe,EQUALSwASTERISK,ALMOST EQUAL TOwCIRCUMFLEX ACCENT
 APPROXIMATELY EQUAL OR EQUAL TO,EQUALSgePLUSg,PLUSgeEQUALSg,EQUALSgeTILDE OPERATOR,dCOLON EQUAL
 TWO CONSECUTIVE EQUALS SIGNS,tCONSECUTIVE EQUALS SIGNS,EQUALSgwTWO DOTSenTWO DOTSb
 EQUIVALENTwFOUR DOTSe,LESS-THANwCIRCLE INSIDE,GREATER-THANwCIRCLE INSIDE,LESS-THANwQUESTIONme
 GREATER-THANwQUESTIONme,LESS-THAN OR SLANTED EQUAL TO,GREATER-THAN OR SLANTED EQUAL TO
 LESS-THAN OR SLANTED EQUAL TOwDOT INSIDE,GREATER-THAN OR SLANTED EQUAL TOwDOT INSIDE
 LESS-THAN OR SLANTED EQUAL TOwDOTe,GREATER-THAN OR SLANTED EQUAL TOwDOTe
 LESS-THAN OR SLANTED EQUAL TOwDOTer,GREATER-THAN OR SLANTED EQUAL TOwDOTex,LESS-THAN OR APPROXIMATE
 GREATER-THAN OR APPROXIMATE,LESS-THANnSINGLE-LINE NOT EQUAL TO
 GREATER-THANnSINGLE-LINE NOT EQUAL TO,LESS-THANnNOT APPROXIMATE,GREATER-THANnNOT APPROXIMATE
 LESS-THANeDOUBLE-LINE EQUALeGREATER-THAN,GREATER-THANeDOUBLE-LINE EQUALeLESS-THAN
 LESS-THANeSIMILAR OR EQUAL,GREATER-THANeSIMILAR OR EQUAL,LESS-THANeSIMILAReGREATER-THAN
 GREATER-THANeSIMILAReLESS-THAN,LESS-THANeGREATER-THANeDOUBLE-LINE EQUAL
 GREATER-THANeLESS-THANeDOUBLE-LINE EQUAL,LESS-THANeSLANTED EQUALeGREATER-THANeSLANTED EQUAL
 GREATER-THANeSLANTED EQUALeLESS-THANeSLANTED EQUAL
2A95 SLANTED EQUAL TO OR
 LESS-THAN,GREATER-THAN,LESS-THANwDOT INSIDE,GREATER-THANwDOT INSIDE
2A99 DOUBLE-LINE EQUAL TO OR
 LESS-THAN,GREATER-THAN
2A9B DOUBLE-LINE SLANTED EQUAL TO OR
 LESS-THAN,GREATER-THAN
2A9D SIMILAR
 OR LESS-THAN,OR GREATER-THAN,eLESS-THANeEQUALSg,eGREATER-THANeEQUALSg
2AA1 dNESTED
 LESS-THAN,GREATER-THAN,LESS-THANwUNDERBAR
2AA4 GREATER-THAN
 OVERLAPPING LESS-THAN,BESIDE LESS-THAN
2AA6
 LESS-THAN CLOSED BY CURVE,GREATER-THAN CLOSED BY CURVE,LESS-THAN CLOSED BY CURVEeSLANTED EQUAL
 GREATER-THAN CLOSED BY CURVEeSLANTED EQUAL,SMALLER THAN,LARGER THAN,SMALLER THAN OR EQUAL TO
 LARGER THAN OR EQUAL TO,EQUALSgwBUMPYe,PRECEDESeSINGLE-LINE EQUALSg,SUCCEEDSeSINGLE-LINE EQUALSg
 PRECEDESeSINGLE-LINE NOT EQUAL TO,SUCCEEDSeSINGLE-LINE NOT EQUAL TO,PRECEDESeEQUALSg
 SUCCEEDSeEQUALSg,PRECEDESeNOT EQUAL TO,SUCCEEDSeNOT EQUAL TO,PRECEDESeALMOST EQUAL TO
 SUCCEEDSeALMOST EQUAL TO,PRECEDESeNOT ALMOST EQUAL TO,SUCCEEDSeNOT ALMOST EQUAL TO,dPRECEDES
 dSUCCEEDS,SUBSETwDOT,SUPERSETwDOT,SUBSETwPLUSgb,SUPERSETwPLUSgb,SUBSETwMULTIPLICATIONgb
 SUPERSETwMULTIPLICATIONgb,SUBSET OF OR EQUAL TOwDOTe,SUPERSET OF OR EQUAL TOwDOTe,SUBSET OFeEQUALSg
 SUPERSET OFeEQUALSg,SUBSET OFeTILDE OPERATOR,SUPERSET OFeTILDE OPERATOR,SUBSET OFeALMOST EQUAL TO
 SUPERSET OFeALMOST EQUAL TO,SUBSET OFeNOT EQUAL TO,SUPERSET OFeNOT EQUAL TO
 SQUARExOPEN BOX OPERATOR,SQUARErOPEN BOX OPERATOR
2ACF CLOSED
 SUBSET,SUPERSET,SUBSET OR EQUAL TO,SUPERSET OR EQUAL TO
2AD3
 SUBSETeSUPERSET,SUPERSETeSUBSET,SUBSETeSUBSET
2AD6 SUPERSET
 eSUPERSET,BESIDE SUBSET,BESIDEnJOINED BY DASHwSUBSET
2AD9
 ELEMENT OF OPENING DOWNWARDS,PITCHFORKwTEE TOP,TRANSVERSAL INTERSECTION,FORKING,NONFORKING
 SHORTxTACK,SHORT DOWN TACK,SHORT UP TACK,PERPENDICULARwS,vBAR TRIPLErTURNSTILE,dvBARxTURNSTILE
 vBARdxTURNSTILE,dvBARdxTURNSTILE,LONG DASH FROMxMEMBER OFdv,SHORT DOWN TACKwOVERBAR
2AE8 SHORT UP TACK
 wUNDERBAR,eSHORT DOWN TACK
2AEA
 dDOWN TACK,dUP TACK,dpNOTg,REVERSEDdpNOTg,DOES NOT DIVIDEwREVERSED NEGATION SLASH,vLINEwCIRCLEe
 vLINEwCIRCLEb,DOWN TACKwCIRCLEb
2AF2 PARALLELw
 HORIZONTALp,TILDE OPERATOR
2AF4 TRIPLE
 vBAR BINARY RELATION,vBARwHORIZONTALp,COLON OPERATOR,NESTED LESS-THAN,NESTED GREATER-THAN
2AF9 DOUBLE-LINE SLANTED
 LESS-THAN OR EQUAL TO,GREATER-THAN OR EQUAL TO
2AFB
 TRIPLE SOLIDUS BINARY RELATION,LARGE TRIPLEvBAR OPERATOR,dSOLIDUS OPERATOR,hvBAR,N-ARYhvBAR
 NORTH EASTha,NORTH WESTha,SOUTH EASTha,SOUTH WESTha,xrha,yka,UPWARDSka,DOWNWARDSka,NORTH EASTka
 NORTH WESTka,SOUTH EASTka,SOUTH WESTka,xrka,UP DOWNka
2B0E zawTIP
 DOWNWARDS,UPWARDS
2B10 yawTIP
 DOWNWARDS,UPWARDS
2B12 SQUAREw
 TOP HALFk,BOTTOM HALFk,UPPERrDIAGONAL HALFk,LOWERxDIAGONAL HALFk
2B16 DIAMONDw
 xHALFk,rHALFk,TOP HALFk,BOTTOM HALFk
2B1A
 DOTTED SQUARE,kLARGE SQUARE,hLARGE SQUARE,kVERYsSQUARE,hVERYsSQUARE,kPENTAGON,hPENTAGON,hHEXAGON
 kHEXAGON,HORIZONTALkHEXAGON,kLARGE CIRCLE,kMEDIUM DIAMOND,hMEDIUM DIAMOND,kMEDIUM LOZENGE
 hMEDIUM LOZENGE,ksDIAMOND,ksLOZENGE,hsLOZENGE,kHORIZONTAL ELLIPSE,hHORIZONTAL ELLIPSE,kvELLIPSE
 hvELLIPSE,xawsCIRCLE,tyARROWS,xawCIRCLED PLUS,LONGySQUIGGLEa
2B34 yTWO-HEADED
 awvp,awdvp,aFROM BAR,TRIPLE DASHa
2B38 yaw
 DOTTED STEM,TAILwvp,TAILwdvp
2B3B yTWO-HEADEDaw
 TAIL,TAILwvp,TAILwdvp
2B3E
 yaTHROUGH X,WAVEaPOINTING DIRECTLYx,EQUALSgeya,REVERSE TILDE OPERATOReya,yaeREVERSE ALMOST EQUAL TO
 zaTHROUGH GREATER-THAN,zaTHROUGH SUPERSET,yQUADRUPLEa,zQUADRUPLEa,REVERSE TILDE OPERATOReza
 zaeREVERSE ALMOST EQUAL TO,TILDE OPERATOReya,yaeALMOST EQUAL TO,yaeREVERSE TILDE OPERATOR
 zaeREVERSE TILDE OPERATOR,DOWNWARDS TRIANGLE-HEADED ZIGZAGa,SHORT SLANTED NORTHa
 SHORT BACKSLANTED SOUTHa,hMEDIUM STAR,ksSTAR,hsSTAR,kRIGHT-POINTING PENTAGON
 hRIGHT-POINTING PENTAGON
2B55 HEAVY
 LARGE CIRCLE,OVALwOVAL INSIDE,CIRCLEwCIRCLE INSIDE,CIRCLE,CIRCLED SALTIRE
2B5A
 SLANTED NORTHawHOOKED HEAD,BACKSLANTED SOUTHawHOOKED TAIL,SLANTED NORTHawHORIZONTAL TAIL
 BACKSLANTED SOUTHawHORIZONTAL TAIL,BENTaPOINTING DOWNWARDS THEN NORTH EAST
 SHORT BENTaPOINTING DOWNWARDS THEN NORTH EAST,yTRIANGLE-HEADEDa,UPWARDS TRIANGLE-HEADEDa
 zTRIANGLE-HEADEDa,DOWNWARDS TRIANGLE-HEADEDa,xrTRIANGLE-HEADEDa,UP DOWN TRIANGLE-HEADEDa
 NORTH WEST TRIANGLE-HEADEDa,NORTH EAST TRIANGLE-HEADEDa,SOUTH EAST TRIANGLE-HEADEDa
 SOUTH WEST TRIANGLE-HEADEDa,yTRIANGLE-HEADED DASHEDa,UPWARDS TRIANGLE-HEADED DASHEDa
 zTRIANGLE-HEADED DASHEDa,DOWNWARDS TRIANGLE-HEADED DASHEDa,CLOCKWISE TRIANGLE-HEADED OPEN CIRCLEa
 ANTICLOCKWISE TRIANGLE-HEADED OPEN CIRCLEa,yTRIANGLE-HEADEDaTO BAR,UPWARDS TRIANGLE-HEADEDaTO BAR
 zTRIANGLE-HEADEDaTO BAR,DOWNWARDS TRIANGLE-HEADEDaTO BAR,,,NORTH WEST TRIANGLE-HEADEDaTO BAR
 NORTH EAST TRIANGLE-HEADEDaTO BAR,SOUTH EAST TRIANGLE-HEADEDaTO BAR
 SOUTH WEST TRIANGLE-HEADEDaTO BAR,yTRIANGLE-HEADEDawdHORIZONTALp
 UPWARDS TRIANGLE-HEADEDawdHORIZONTALp,zTRIANGLE-HEADEDawdHORIZONTALp
 DOWNWARDS TRIANGLE-HEADEDawdHORIZONTALp,HORIZONTAL TAB KEY,vTAB KEY
 yTRIANGLE-HEADEDaOVERzTRIANGLE-HEADEDa,UPWARDS TRIANGLE-HEADEDayOF DOWNWARDS TRIANGLE-HEADEDa
 zTRIANGLE-HEADEDaOVERyTRIANGLE-HEADEDa,DOWNWARDS TRIANGLE-HEADEDayOF UPWARDS TRIANGLE-HEADEDa
 yTRIANGLE-HEADED PAIRED ARROWS,UPWARDS TRIANGLE-HEADED PAIRED ARROWS,zTRIANGLE-HEADED PAIRED ARROWS
 DOWNWARDS TRIANGLE-HEADED PAIRED ARROWS,ykCIRCLEDha,UPWARDSkCIRCLEDha,zkCIRCLEDha
 DOWNWARDSkCIRCLEDha
2B8C ANTICLOCKWISE TRIANGLE-HEADED
 rU-SHAPEDa,BOTTOM U-SHAPEDa,xU-SHAPEDa,TOP U-SHAPEDa
2B90
 RETURNx,RETURNr,NEWLINEx,NEWLINEr,FOUR CORNER ARROWS CIRCLING ANTICLOCKWISE,zka,
 uFOR TYPE A ELECTRONICS
2B98 THREE-D
 TOP-LIGHTEDyEQUILATERAL ARROWHEAD,RIGHT-LIGHTED UPWARDS EQUILATERAL ARROWHEAD
 TOP-LIGHTEDzEQUILATERAL ARROWHEAD,LEFT-LIGHTED DOWNWARDS EQUILATERAL ARROWHEAD
2B9C k
 yEQUILATERAL ARROWHEAD,UPWARDS EQUILATERAL ARROWHEAD,zEQUILATERAL ARROWHEAD
 DOWNWARDS EQUILATERAL ARROWHEAD
2BA0 DOWNWARDS TRIANGLE-HEADEDawLONG TIP
 y,z
2BA2 UPWARDS TRIANGLE-HEADEDawLONG TIP
 y,z
2BA4
 yTRIANGLE-HEADEDawLONG TIP UPWARDS,zTRIANGLE-HEADEDawLONG TIP UPWARDS
 yTRIANGLE-HEADEDawLONG TIP DOWNWARDS,zTRIANGLE-HEADEDawLONG TIP DOWNWARDS
2BA8 kCURVED
 DOWNWARDSnya,DOWNWARDSnza,UPWARDSnya,UPWARDSnza,ynUPWARDSa,znUPWARDSa,ynDOWNWARDSa,znDOWNWARDSa
2BB0 RIBBONa
 DOWNx,DOWNr,UPx,UPr,xUP,rUP,xDOWN,rDOWN
2BB8
 UPWARDShaFROM BARwHORIZONTAL BAR,UP ARROWHEAD IN A RECTANGLE BOX
2BBA OVERLAPPING
 hSQUARES,hnkSQUARES,kSQUARES
2BBD
 BALLOT BOXwLIGHT X,CIRCLED X,CIRCLED BOLD X,kSQUARE CENTRED,kDIAMOND CENTRED,TURNEDkPENTAGON
 HORIZONTALkOCTAGON,kOCTAGON
2BC5 kMEDIUM
 UP-POINTING TRIANGLE CENTRED,DOWN-POINTING TRIANGLE CENTRED,LEFT-POINTING TRIANGLE CENTRED
 RIGHT-POINTING TRIANGLE CENTRED
2BC9
 NEPTUNEfTWO,TOP HALFkCIRCLE,BOTTOM HALFkCIRCLE,LIGHT FOUR POINTEDkCUSP
 ROTATED LIGHT FOUR POINTEDkCUSP,hFOUR POINTED CUSP,ROTATEDhFOUR POINTED CUSP
 SQUARE POSITION INDICATOR,UNCERTAINTYg,GROUPm
2BD3 PLUTOf
 TWO,t,FOUR,FIVE
2BD7
 TRANSPLUTO,PROSERPINA,ASTRAEA,HYGIEA,PHOLUS,NESSUS,hMOON SELENA,kDIAMOND ON CROSS
 TRUE LIGHT MOON ARTA,CUPIDO,HADES,ZEUS,KRONOS,APOLLON,ADMETOS,VULCANUS,POSEIDON,xHALFkSTAR
 rHALFkSTAR,STARwxHALFk,STARwrHALFk,yTWO-HEADEDawTRIANGLE ARROWHEADS
 UPWARDS TWO-HEADEDawTRIANGLE ARROWHEADS,zTWO-HEADEDawTRIANGLE ARROWHEADS
 DOWNWARDS TWO-HEADEDawTRIANGLE ARROWHEADS,ERISfONE,ERISfTWO,SEDNA
2BF3 RUSSIAN ASTROLOGICALu
 VIGINTILE,NOVILE,QUINTILE,BINOVILE,SENTAGON,TREDECILE
2BF9
 EQUALSgwINFINITYb,UNITEDu,SEPARATEDu,DOUBLEDu,PASSEDu,REVERSEDrANGLE,HELLSCHREIBER PAUSEu"

end Throws.Text.CharacterNames
