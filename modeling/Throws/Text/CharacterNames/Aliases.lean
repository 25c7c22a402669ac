/-!
# Further names of characters

Names of control characters, abbreviations and corrected names. A character can have several.
-/

namespace Throws.Text.CharacterNames

/-- Names beside the first one. -/
def aliases : String := "0
 NULL
1 START OF
 HEADING,TEXT
3 END OF
 TEXT,TRANSMISSION
5
 ENQUIRY,ACKNOWLEDGE,ALERT,BACKSPACE,CHARACTER TABULATION,LINE FEED,LINE TABULATION,FORM FEED
 CARRIAGE RETURN
E SHIFT
 OUT,IN
10 DATA LINK
 ESCAPE
11 DEVICE CONTROL
 ONE,TWO,THREE,FOUR
15
 NEGATIVE ACKNOWLEDGE,SYNCHRONOUS IDLE,END OF TRANSMISSION BLOCK,CANCEL,END OF MEDIUM,SUBSTITUTE
 ESCAPE
1C INFORMATION SEPARATOR
 FOUR,THREE,TWO,ONE
20
 SP
7F
 DELETE,PADDING CHARACTER,HIGH OCTET PRESET,BREAK PERMITTED HERE,NO BREAK HERE,INDEX,NEXT LINE
 START OF SELECTED AREA,END OF SELECTED AREA
88 CHARACTER TABULATION
 SET,WITH JUSTIFICATION
8A LINE TABULATION
 SET
8B PARTIAL LINE
 FORWARD,BACKWARD
8D REVERSE LINE
 FEED
8E SINGLE SHIFT
 TWO,THREE
90 DEVICE CONTROL
 STRING
91 PRIVATE USE
 ONE,TWO
93
 SET TRANSMIT STATE,CANCEL CHARACTER,MESSAGE WAITING,START OF GUARDED AREA,END OF GUARDED AREA
 START OF STRING,SINGLE GRAPHIC CHARACTER INTRODUCER,SINGLE CHARACTER INTRODUCER
 CONTROL SEQUENCE INTRODUCER,STRING TERMINATOR,OPERATING SYSTEM COMMAND,PRIVACY MESSAGE
 APPLICATION PROGRAM COMMAND,NBSP
AD
 SHY
1A2 LATIN
 CAPITAL LETTER GHA,SMALL LETTER GHA
34F
 CGJ
61C
 ALM
709 SYRIAC SUBLINEAR COLON SKEWED
 LEFT
CDE KANNADA LETTER
 LLLA
E9D LAO LETTER
 FO FON,,FO FAY,,,,RO,,LO
FD0 TIBETAN MARK BKA- SHOG GI MGO
 RGYAN
11EC HANGUL JONGSEONG
 YESIEUNG-KIYEOK,YESIEUNG-SSANGKIYEOK,SSANGYESIEUNG,YESIEUNG-KHIEUKH
180B
 FVS1~3,MVS,FVS4
200B
 ZWSP,ZWNJ,ZWJ,LRM,RLM
202A
 LRE,RLE,PDF,LRO,RLO,NNBSP
205F
 MMSP,WJ,,,,,,LRI,RLI,FSI,PDI
2118 WEIERSTRASS ELLIPTIC
 FUNCTION
2448 MICR
 ON US SYMBOL,DASH SYMBOL
2B7A
 LEFTWARDS TRIANGLE-HEADED ARROW WITH DOUBLE VERTICAL STROKE,
 RIGHTWARDS TRIANGLE-HEADED ARROW WITH DOUBLE VERTICAL STROKE
A015 YI SYLLABLE ITERATION
 MARK
AA6E MYANMAR LETTER KHAMTI
 LLA
FE00
 VS1~16
FE18 PRESENTATION FORM FOR VERTICAL RIGHT WHITE LENTICULAR
 BRACKET
FEFF BYTE ORDER
 MARK
122D4 CUNEIFORM SIGN NU11
 TENU,OVER NU11 BUR OVER BUR
16E56 MEDEFAIDRIN CAPITAL LETTER
 H,NG
16E76 MEDEFAIDRIN SMALL LETTER
 H,NG
1B001 HENTAIGANA LETTER
 E-1
1D0C5 BYZANTINE MUSICAL SYMBOL FTHORA SKLIRON CHROMA
 VASIS
E0100
 VS17~256
0
 NUL,SOH,STX,ETX,EOT,ENQ,ACK,BEL,BS,HORIZONTAL TABULATION,NEW LINE,VERTICAL TABULATION,FF,CR
E LOCKING-SHIFT
 ONE,ZERO
10
 DLE,DC1~4,NAK,SYN,ETB,CAN,EOM,SUB,ESC,FILE SEPARATOR,GROUP SEPARATOR,RECORD SEPARATOR
 UNIT SEPARATOR
7F
 DEL,PAD,HOP,BPH,NBH,IND,NEL,SSA,ESA
88 HORIZONTAL TABULATION
 SET,WITH JUSTIFICATION
8A VERTICAL TABULATION
 SET
8B PARTIAL LINE
 DOWN,UP
8D
 REVERSE INDEX,SINGLE-SHIFT-2,SINGLE-SHIFT-3,DCS
91 PRIVATE
 USE-1,USE-2
93
 STS,CCH,MW,START OF PROTECTED AREA,END OF PROTECTED AREA,SOS,SGC,SCI,CSI,ST,OSC,PM,APC
FEFF
 BOM
9
 HT,END OF LINE,VT,,,SO,SI
1C
 FS,GS,RS,US
88
 HTS,HTJ,VTS,PLD,PLU,RI,SS2,SS3,,PU1,PU2,,,,SPA,EPA
FEFF
 ZWNBSP
9
 TAB,LF
A
 NL
A
 EOL"

end Throws.Text.CharacterNames
