/-!
# Names of European scripts

Latin, Greek, Cyrillic and Armenian letters, marks that are put on letters, and the signs found
among them.
-/

namespace Throws.Text.CharacterNames

/-- Characters up to U+058F. -/
def european : String := "20
 SPACE,EXCLAMATIONm,QUOTATIONm,NUMBERg,DOLLARg,PERCENTg,AMPERSAND,APOSTROPHE,xPARENTHESIS
 rPARENTHESIS,ASTERISK,PLUSg,COMMA,HYPHEN-MINUS,FULL STOP,SOLIDUS
30 DIGIT
 ZERO,ONE,TWO,t,FOUR,FIVE,SIX,SEVEN,EIGHT,NINE
3A
 COLON,SEMICOLON,LESS-THANg,EQUALSg,GREATER-THANg,QUESTIONm,COMMERCIAL AT
41 LATINcl
 A,B,C,D,E,F,G,H,I,J,K,L,M,N,O,P,Q,R,S,T,U,V,W,X,Y,Z
5B
 xSQUARE BRACKET,REVERSE SOLIDUS,rSQUARE BRACKET,CIRCUMFLEX ACCENT,LOW LINE,GRAVE ACCENT
61 LATINsl
 A,B,C,D,E,F,G,H,I,J,K,L,M,N,O,P,Q,R,S,T,U,V,W,X,Y,Z
7B
 xCURLY BRACKET,vLINE,rCURLY BRACKET,TILDE
A0
 NO-BREAK SPACE,INVERTED EXCLAMATIONm,CENTg,POUNDg,CURRENCYg,YENg,BROKEN BAR,SECTIONg,DIAERESIS
 COPYRIGHTg,FEMININE ORDINAL INDICATOR,LEFT-POINTINGdANGLE QUOTATIONm,NOTg,SOFT HYPHEN,REGISTEREDg
 MACRON,DEGREEg,PLUS-MINUSg
B2 SUPERSCRIPT
 TWO,t
B4
 ACUTE ACCENT,MICROg,PILCROWg,MIDDLE DOT,CEDILLA,SUPERSCRIPT ONE,MASCULINE ORDINAL INDICATOR
 RIGHT-POINTINGdANGLE QUOTATIONm
BC VULGAR FRACTION
 ONE QUARTER,ONE HALF,tQUARTERS
BF INVERTED
 QUESTIONm
C0 LATINcl
 AwGRAVE,AwACUTE,AwCIRCUMFLEX,AwTILDE,AwDIAERESIS,AwRINGe,AE,CwCEDILLA,EwGRAVE,EwACUTE,EwCIRCUMFLEX
 EwDIAERESIS,IwGRAVE,IwACUTE,IwCIRCUMFLEX,IwDIAERESIS,ETH,NwTILDE,OwGRAVE,OwACUTE,OwCIRCUMFLEX
 OwTILDE,OwDIAERESIS
D7
 MULTIPLICATIONg
D8 LATINcl
 Owp,UwGRAVE,UwACUTE,UwCIRCUMFLEX,UwDIAERESIS,YwACUTE,THORN
DF LATINsl
 SHARP S,AwGRAVE,AwACUTE,AwCIRCUMFLEX,AwTILDE,AwDIAERESIS,AwRINGe,AE,CwCEDILLA,EwGRAVE,EwACUTE
 EwCIRCUMFLEX,EwDIAERESIS,IwGRAVE,IwACUTE,IwCIRCUMFLEX,IwDIAERESIS,ETH,NwTILDE,OwGRAVE,OwACUTE
 OwCIRCUMFLEX,OwTILDE,OwDIAERESIS
F7
 DIVISIONg
F8 LATINsl
 Owp,UwGRAVE,UwACUTE,UwCIRCUMFLEX,UwDIAERESIS,YwACUTE,THORN,YwDIAERESIS
100 LATIN
 clAwMACRON,slAwMACRON,clAwBREVE,slAwBREVE,clAwOGONEK,slAwOGONEK,clCwACUTE,slCwACUTE,clCwCIRCUMFLEX
 slCwCIRCUMFLEX,clCwDOTe,slCwDOTe,clCwCARON,slCwCARON,clDwCARON,slDwCARON,clDwp,slDwp,clEwMACRON
 slEwMACRON,clEwBREVE,slEwBREVE,clEwDOTe,slEwDOTe,clEwOGONEK,slEwOGONEK,clEwCARON,slEwCARON
 clGwCIRCUMFLEX,slGwCIRCUMFLEX,clGwBREVE,slGwBREVE,clGwDOTe,slGwDOTe,clGwCEDILLA,slGwCEDILLA
 clHwCIRCUMFLEX,slHwCIRCUMFLEX,clHwp,slHwp,clIwTILDE,slIwTILDE,clIwMACRON,slIwMACRON,clIwBREVE
 slIwBREVE,clIwOGONEK,slIwOGONEK,clIwDOTe,slDOTLESS I,cLIGATURE IJ,sLIGATURE IJ,clJwCIRCUMFLEX
 slJwCIRCUMFLEX,clKwCEDILLA,slKwCEDILLA,slKRA,clLwACUTE,slLwACUTE,clLwCEDILLA,slLwCEDILLA,clLwCARON
 slLwCARON,clLwMIDDLE DOT,slLwMIDDLE DOT,clLwp,slLwp,clNwACUTE,slNwACUTE,clNwCEDILLA,slNwCEDILLA
 clNwCARON,slNwCARON,slN PRECEDED BY APOSTROPHE,clENG,slENG,clOwMACRON,slOwMACRON,clOwBREVE
 slOwBREVE,clOwdACUTE,slOwdACUTE,cLIGATURE OE,sLIGATURE OE,clRwACUTE,slRwACUTE,clRwCEDILLA
 slRwCEDILLA,clRwCARON,slRwCARON,clSwACUTE,slSwACUTE,clSwCIRCUMFLEX,slSwCIRCUMFLEX,clSwCEDILLA
 slSwCEDILLA,clSwCARON,slSwCARON,clTwCEDILLA,slTwCEDILLA,clTwCARON,slTwCARON,clTwp,slTwp,clUwTILDE
 slUwTILDE,clUwMACRON,slUwMACRON,clUwBREVE,slUwBREVE,clUwRINGe,slUwRINGe,clUwdACUTE,slUwdACUTE
 clUwOGONEK,slUwOGONEK,clWwCIRCUMFLEX,slWwCIRCUMFLEX,clYwCIRCUMFLEX,slYwCIRCUMFLEX,clYwDIAERESIS
 clZwACUTE,slZwACUTE,clZwDOTe,slZwDOTe,clZwCARON,slZwCARON,slLONG S,slBwp,clBwHOOK,clBwTOPBAR
 slBwTOPBAR,clTONE SIX,slTONE SIX,clOPEN O,clCwHOOK,slCwHOOK,clAFRICAN D,clDwHOOK,clDwTOPBAR
 slDwTOPBAR,slTURNED DELTA,clREVERSED E,clSCHWA,clOPEN E,clFwHOOK,slFwHOOK,clGwHOOK,clGAMMA,slHV
 clIOTA,clIwp,clKwHOOK,slKwHOOK,slLwBAR,slLAMBDAwp,clTURNED M,clNwxHOOK,slNwLONGrLEG
 clOwMIDDLE TILDE,clOwHORN,slOwHORN,clOI,slOI,clPwHOOK,slPwHOOK,lYR,clTONE TWO,slTONE TWO,clESH
 lREVERSED ESH LOOP,slTwPALATAL HOOK,clTwHOOK,slTwHOOK,clTwRETROFLEX HOOK,clUwHORN,slUwHORN
 clUPSILON,clVwHOOK,clYwHOOK,slYwHOOK,clZwp,slZwp,clEZH,clEZH REVERSED,slEZH REVERSED,slEZHwTAIL
 lTWOwp,clTONE FIVE,slTONE FIVE,lINVERTED GLOTTAL STOPwp,lWYNN,lDENTAL CLICK,lLATERAL CLICK
 lALVEOLAR CLICK,lRETROFLEX CLICK,clDZwCARON,clDwslZwCARON,slDZwCARON,clLJ,clLwslJ,slLJ,clNJ,clNwslJ
 slNJ,clAwCARON,slAwCARON,clIwCARON,slIwCARON,clOwCARON,slOwCARON,clUwCARON,slUwCARON
 clUwDIAERESISnMACRON,slUwDIAERESISnMACRON,clUwDIAERESISnACUTE,slUwDIAERESISnACUTE
 clUwDIAERESISnCARON,slUwDIAERESISnCARON,clUwDIAERESISnGRAVE,slUwDIAERESISnGRAVE,slTURNED E
 clAwDIAERESISnMACRON,slAwDIAERESISnMACRON,clAwDOTenMACRON,slAwDOTenMACRON,clAEwMACRON,slAEwMACRON
 clGwp,slGwp,clGwCARON,slGwCARON,clKwCARON,slKwCARON,clOwOGONEK,slOwOGONEK,clOwOGONEKnMACRON
 slOwOGONEKnMACRON,clEZHwCARON,slEZHwCARON,slJwCARON,clDZ,clDwslZ,slDZ,clGwACUTE,slGwACUTE,clHWAIR
 clWYNN,clNwGRAVE,slNwGRAVE,clAwRINGenACUTE,slAwRINGenACUTE,clAEwACUTE,slAEwACUTE,clOwpnACUTE
 slOwpnACUTE,clAwdGRAVE,slAwdGRAVE,clAwINVERTED BREVE,slAwINVERTED BREVE,clEwdGRAVE,slEwdGRAVE
 clEwINVERTED BREVE,slEwINVERTED BREVE,clIwdGRAVE,slIwdGRAVE,clIwINVERTED BREVE,slIwINVERTED BREVE
 clOwdGRAVE,slOwdGRAVE,clOwINVERTED BREVE,slOwINVERTED BREVE,clRwdGRAVE,slRwdGRAVE
 clRwINVERTED BREVE,slRwINVERTED BREVE,clUwdGRAVE,slUwdGRAVE,clUwINVERTED BREVE,slUwINVERTED BREVE
 clSwCOMMAb,slSwCOMMAb,clTwCOMMAb,slTwCOMMAb,clYOGH,slYOGH,clHwCARON,slHwCARON,clNwLONGrLEG,slDwCURL
 clOU,slOU,clZwHOOK,slZwHOOK,clAwDOTe,slAwDOTe,clEwCEDILLA,slEwCEDILLA,clOwDIAERESISnMACRON
 slOwDIAERESISnMACRON,clOwTILDEnMACRON,slOwTILDEnMACRON,clOwDOTe,slOwDOTe,clOwDOTenMACRON
 slOwDOTenMACRON,clYwMACRON,slYwMACRON,slLwCURL,slNwCURL,slTwCURL,slDOTLESS J,slDB DIGRAPH
 slQP DIGRAPH,clAwp,clCwp,slCwp,clLwBAR,clTwDIAGONALp,slSwSWASH TAIL,slZwSWASH TAIL,clGLOTTAL STOP
 slGLOTTAL STOP,clBwp,clU BAR,clTURNED V,clEwp,slEwp,clJwp,slJwp,clsQwHOOK TAIL,slQwHOOK TAIL,clRwp
 slRwp,clYwp
24F LATINsl
 Ywp,TURNED A,ALPHA,TURNED ALPHA,BwHOOK,OPEN O,CwCURL,DwTAIL,DwHOOK,REVERSED E,SCHWA,SCHWAwHOOK
 OPEN E,REVERSED OPEN E,REVERSED OPEN EwHOOK,CLOSED REVERSED OPEN E,DOTLESS Jwp,GwHOOK,SCRIPT G
262 LATIN
 lscG,slGAMMA,slRAMS HORN,slTURNED H,slHwHOOK,slHENGwHOOK,slIwp,slIOTA,lscI,slLwMIDDLE TILDE
 slLwBELT,slLwRETROFLEX HOOK,slLEZH,slTURNED M,slTURNED MwLONG LEG,slMwHOOK,slNwxHOOK
 slNwRETROFLEX HOOK,lscN,slBARRED O,lscOE,slCLOSED OMEGA,slPHI,slTURNED R,slTURNED RwLONG LEG
 slTURNED RwHOOK,slRwLONG LEG,slRwTAIL,slRwFISHHOOK,slREVERSED RwFISHHOOK,lscR,lscINVERTED R
282 LATINsl
 SwHOOK,ESH,DOTLESS JwpnHOOK,SQUAT REVERSED ESH,ESHwCURL,TURNED T,TwRETROFLEX HOOK,U BAR,UPSILON
 VwHOOK
28C LATINslTURNED
 V,W,Y
28F LATIN
 lscY,slZwRETROFLEX HOOK,slZwCURL,slEZH,slEZHwCURL,lGLOTTAL STOP,lPHARYNGEAL VOICED FRICATIVE
 lINVERTED GLOTTAL STOP,lSTRETCHED C,lBILABIAL CLICK,lscB,slCLOSED OPEN E,lscGwHOOK,lscH
 slJwCROSSED-TAIL,slTURNED K,lscL,slQwHOOK,lGLOTTAL STOPwp,lREVERSED GLOTTAL STOPwp,slDZ DIGRAPH
 slDEZH DIGRAPH,slDZ DIGRAPHwCURL,slTS DIGRAPH,slTESH DIGRAPH,slTC DIGRAPHwCURL,slFENG DIGRAPH
 slLS DIGRAPH,slLZ DIGRAPH,lBILABIAL PERCUSSIVE,lBIDENTAL PERCUSSIVE
2AE LATINslTURNED Hw
 FISHHOOK,FISHHOOKnTAIL
2B0 MODIFIERl
 sH,sHwHOOK,sJ,sR,sTURNED R,sTURNED RwHOOK,scINVERTED R,sW,sY,PRIME,dPRIME,TURNED COMMA,APOSTROPHE
 REVERSED COMMA,rHALF RING,xHALF RING,GLOTTAL STOP,REVERSED GLOTTAL STOP,xARROWHEAD,rARROWHEAD
 UP ARROWHEAD,DOWN ARROWHEAD,CIRCUMFLEX ACCENT
2C7
 CARON
2C8 MODIFIERl
 vLINE,MACRON,ACUTE ACCENT,GRAVE ACCENT,LOWvLINE,LOW MACRON,LOW GRAVE ACCENT,LOW ACUTE ACCENT
 TRIANGULAR COLON,HALF TRIANGULAR COLON,CENTREDrHALF RING,CENTREDxHALF RING,UP TACK,DOWN TACK,PLUSg
 MINUSg
2D8
 BREVE,DOTe,RINGe,OGONEK,sTILDE,dACUTE ACCENT
2DE MODIFIERl
 RHOTIC HOOK,CROSS ACCENT,sGAMMA,sL,sS,sX,sREVERSED GLOTTAL STOP,EXTRA-HIGH TONE BAR,HIGH TONE BAR
 MID TONE BAR,LOW TONE BAR,EXTRA-LOW TONE BAR,YIN DEPARTING TONEm,YANG DEPARTING TONEm,VOICING
 UNASPIRATED,dAPOSTROPHE,LOW DOWN ARROWHEAD,LOW UP ARROWHEAD,LOWxARROWHEAD,LOWrARROWHEAD,LOW RING
 MIDDLE GRAVE ACCENT,MIDDLEdGRAVE ACCENT,MIDDLEdACUTE ACCENT,LOW TILDE,RAISED COLON,BEGIN HIGH TONE
 END HIGH TONE,BEGIN LOW TONE,END LOW TONE,SHELF,OPEN SHELF,LOWxa
300 COMBINING
 GRAVE ACCENT,ACUTE ACCENT,CIRCUMFLEX ACCENT,TILDE,MACRON,OVERLINE,BREVE,DOTe,DIAERESIS,HOOKe,RINGe
 dACUTE ACCENT,CARON,vLINEe,dvLINEe,dGRAVE ACCENT,CANDRABINDU,INVERTED BREVE,TURNED COMMAe,COMMAe
 REVERSED COMMAe,COMMAer,GRAVE ACCENTb,ACUTE ACCENTb,xTACKb,rTACKb,xANGLEe,HORN,xHALF RINGb,UP TACKb
 DOWN TACKb,PLUSgb,MINUSgb,PALATALIZED HOOKb,RETROFLEX HOOKb,DOTb,DIAERESISb,RINGb,COMMAb,CEDILLA
 OGONEK,vLINEb,BRIDGEb,INVERTEDdARCHb,CARONb,CIRCUMFLEX ACCENTb,BREVEb,INVERTED BREVEb,TILDEb
 MACRONb,LOW LINE,dLOW LINE,TILDE OVERLAY,SHORTpOVERLAY,LONGpOVERLAY,SHORT SOLIDUS OVERLAY
 LONG SOLIDUS OVERLAY,rHALF RINGb,INVERTED BRIDGEb,SQUAREb,SEAGULLb,Xe,vTILDE,dOVERLINE,GRAVE TONEm
 ACUTE TONEm,GREEK PERISPOMENI,GREEK KORONIS,GREEK DIALYTIKA TONOS,GREEK YPOGEGRAMMENI,BRIDGEe
 EQUALSgb,dvLINEb,xANGLEb,NOT TILDEe,HOMOTHETICe,ALMOST EQUAL TOe,xrab,UPWARDSab,GRAPHEME JOINER
 rARROWHEADe,xHALF RINGe,FERMATA,Xb,xARROWHEADb,rARROWHEADb,rARROWHEADnUP ARROWHEADb,rHALF RINGe
 DOTer,ASTERISKb,dRINGb,ZIGZAGe,dBREVEb,dBREVE,dMACRON,dMACRONb,dTILDE,dINVERTED BREVE,dzab
363 COMBINING LATINsl
 A,E,I,O,U,C,D,H,M,R,T,V,X
370 GREEK
 clHETA,slHETA,clARCHAIC SAMPI,slARCHAIC SAMPI,NUMERALg,LOWER NUMERALg,clPAMPHYLIAN DIGAMMA
 slPAMPHYLIAN DIGAMMA,,,YPOGEGRAMMENI,sREVERSED LUNATE SIGMAu,sDOTTED LUNATE SIGMAu
 sREVERSED DOTTED LUNATE SIGMAu,QUESTIONm,clYOT,,,,,TONOS,DIALYTIKA TONOS,clALPHAwTONOS,ANO TELEIA
 clEPSILONwTONOS,clETAwTONOS,clIOTAwTONOS,,clOMICRONwTONOS,,clUPSILONwTONOS,clOMEGAwTONOS
 slIOTAwDIALYTIKAnTONOS
391 GREEKcl
 ALPHA,BETA,GAMMA,DELTA,EPSILON,ZETA,ETA,THETA,IOTA,KAPPA,LAMDA,MU,NU,XI,OMICRON,PI,RHO,,SIGMA,TAU
 UPSILON,PHI,CHI,PSI,OMEGA,IOTAwDIALYTIKA,UPSILONwDIALYTIKA
3AC GREEKsl
 ALPHAwTONOS,EPSILONwTONOS,ETAwTONOS,IOTAwTONOS,UPSILONwDIALYTIKAnTONOS,ALPHA,BETA,GAMMA,DELTA
 EPSILON,ZETA,ETA,THETA,IOTA,KAPPA,LAMDA,MU,NU,XI,OMICRON,PI,RHO,oSIGMA,SIGMA,TAU,UPSILON,PHI,CHI
 PSI,OMEGA,IOTAwDIALYTIKA,UPSILONwDIALYTIKA,OMICRONwTONOS,UPSILONwTONOS,OMEGAwTONOS
3CF GREEK
 cKAIu,BETAu,THETAu,UPSILONwHOOKu,UPSILONwACUTEnHOOKu,UPSILONwDIAERESISnHOOKu,PHIu,PIu,KAIu
 lARCHAIC KOPPA,slARCHAIC KOPPA,lSTIGMA,slSTIGMA,lDIGAMMA,slDIGAMMA,lKOPPA,slKOPPA,lSAMPI,slSAMPI
3E2 COPTIC
 clSHEI,slSHEI,clFEI,slFEI,clKHEI,slKHEI,clHORI,slHORI,clGANGIA,slGANGIA,clSHIMA,slSHIMA,clDEI,slDEI
3F0 GREEK
 KAPPAu,RHOu,LUNATE SIGMAu,lYOT,cTHETAu,LUNATE EPSILONu,REVERSED LUNATE EPSILONu,clSHO,slSHO
 cLUNATE SIGMAu,clSAN,slSAN,RHOwpu,cREVERSED LUNATE SIGMAu,cDOTTED LUNATE SIGMAu
 cREVERSED DOTTED LUNATE SIGMAu
400 CYRILLICcl
 IEwGRAVE,IO,DJE,GJE,UKRAINIAN IE,DZE,BYELORUSSIAN-UKRAINIAN I,YI,JE,LJE,NJE,TSHE,KJE,IwGRAVE
 SHORT U,DZHE,A,BE,VE,GHE,DE,IE,ZHE,ZE,I,SHORT I,KA,EL,EM,EN,O,PE,ER,ES,TE,U,EF,HA,TSE,CHE,SHA,SHCHA
 HARDg,YERU,SOFTg,E,YU,YA
430 CYRILLICsl
 A,BE,VE,GHE,DE,IE,ZHE,ZE,I,SHORT I,KA,EL,EM,EN,O,PE,ER,ES,TE,U,EF,HA,TSE,CHE,SHA,SHCHA,HARDg,YERU
 SOFTg,E,YU,YA,IEwGRAVE,IO,DJE,GJE,UKRAINIAN IE,DZE,BYELORUSSIAN-UKRAINIAN I,YI,JE,LJE,NJE,TSHE,KJE
 IwGRAVE,SHORT U,DZHE
460 CYRILLIC
 clOMEGA,slOMEGA,clYAT,slYAT,clIOTIFIED E,slIOTIFIED E,clLITTLE YUS,slLITTLE YUS
 clIOTIFIED LITTLE YUS,slIOTIFIED LITTLE YUS,clBIG YUS,slBIG YUS,clIOTIFIED BIG YUS
 slIOTIFIED BIG YUS,clKSI,slKSI,clPSI,slPSI,clFITA,slFITA,clIZHITSA,slIZHITSA
 clIZHITSAwdGRAVE ACCENT,slIZHITSAwdGRAVE ACCENT,clUK,slUK,clROUND OMEGA,slROUND OMEGA,clOMEGAwTITLO
 slOMEGAwTITLO,clOT,slOT,clKOPPA,slKOPPA,THOUSANDSg
483 COMBINING CYRILLIC
 TITLO,PALATALIZATION,DASIA PNEUMATA,PSILI PNEUMATA,POKRYTIE,HUNDRED THOUSANDSg,MILLIONSg
48A CYRILLIC
 clSHORT IwTAIL,slSHORT IwTAIL,clSEMISOFTg,slSEMISOFTg,clERwTICK,slERwTICK,clGHEwUPTURN,slGHEwUPTURN
 clGHEwp,slGHEwp,clGHEwMIDDLE HOOK,slGHEwMIDDLE HOOK,clZHEwDESCENDER,slZHEwDESCENDER,clZEwDESCENDER
 slZEwDESCENDER,clKAwDESCENDER,slKAwDESCENDER,clKAwvp,slKAwvp,clKAwp,slKAwp,clBASHKIR KA
 slBASHKIR KA,clENwDESCENDER,slENwDESCENDER,cLIGATURE EN GHE,sLIGATURE EN GHE,clPEwMIDDLE HOOK
 slPEwMIDDLE HOOK,clABKHASIAN HA,slABKHASIAN HA,clESwDESCENDER,slESwDESCENDER,clTEwDESCENDER
 slTEwDESCENDER,clSTRAIGHT U,slSTRAIGHT U,clSTRAIGHT Uwp,slSTRAIGHT Uwp,clHAwDESCENDER
 slHAwDESCENDER,cLIGATURE TE TSE,sLIGATURE TE TSE,clCHEwDESCENDER,slCHEwDESCENDER,clCHEwvp,slCHEwvp
 clSHHA,slSHHA,clABKHASIAN CHE,slABKHASIAN CHE,clABKHASIAN CHEwDESCENDER,slABKHASIAN CHEwDESCENDER
 lPALOCHKA,clZHEwBREVE,slZHEwBREVE,clKAwHOOK,slKAwHOOK,clELwTAIL,slELwTAIL,clENwHOOK,slENwHOOK
 clENwTAIL,slENwTAIL,clKHAKASSIAN CHE,slKHAKASSIAN CHE,clEMwTAIL,slEMwTAIL,slPALOCHKA,clAwBREVE
 slAwBREVE,clAwDIAERESIS,slAwDIAERESIS,cLIGATURE A IE,sLIGATURE A IE,clIEwBREVE,slIEwBREVE,clSCHWA
 slSCHWA,clSCHWAwDIAERESIS,slSCHWAwDIAERESIS,clZHEwDIAERESIS,slZHEwDIAERESIS,clZEwDIAERESIS
 slZEwDIAERESIS,clABKHASIAN DZE,slABKHASIAN DZE,clIwMACRON,slIwMACRON,clIwDIAERESIS,slIwDIAERESIS
 clOwDIAERESIS,slOwDIAERESIS,clBARRED O,slBARRED O,clBARRED OwDIAERESIS,slBARRED OwDIAERESIS
 clEwDIAERESIS,slEwDIAERESIS,clUwMACRON,slUwMACRON,clUwDIAERESIS,slUwDIAERESIS,clUwdACUTE,slUwdACUTE
 clCHEwDIAERESIS,slCHEwDIAERESIS,clGHEwDESCENDER,slGHEwDESCENDER,clYERUwDIAERESIS,slYERUwDIAERESIS
 clGHEwpnHOOK,slGHEwpnHOOK,clHAwHOOK,slHAwHOOK,clHAwp,slHAwp,clKOMI DE,slKOMI DE,clKOMI DJE
 slKOMI DJE,clKOMI ZJE,slKOMI ZJE,clKOMI DZJE,slKOMI DZJE,clKOMI LJE,slKOMI LJE,clKOMI NJE
 slKOMI NJE,clKOMI SJE,slKOMI SJE,clKOMI TJE,slKOMI TJE,clREVERSED ZE,slREVERSED ZE,clELwHOOK
 slELwHOOK,clLHA,slLHA,clRHA,slRHA,clYAE,slYAE,clQA,slQA,clWE,slWE,clALEUT KA,slALEUT KA
 clELwMIDDLE HOOK,slELwMIDDLE HOOK,clENwMIDDLE HOOK,slENwMIDDLE HOOK,clPEwDESCENDER,slPEwDESCENDER
 clSHHAwDESCENDER,slSHHAwDESCENDER,clENwxHOOK,slENwxHOOK,clDZZHE,slDZZHE,clDCHE,slDCHE
 clELwDESCENDER,slELwDESCENDER
531 ARMENIANcl
 AYB,BEN,GIM,DA,ECH,ZA,EH,ET,TO,ZHE,INI,LIWN,XEH,CA,KEN,HO,JA,GHAD,CHEH,MEN,YI,NOW,SHA,VO,CHA,PEH
 JHEH,RA,SEH,VEW,TIWN,REH,CO,YIWN,PIWR,KEH,OH,FEH
559 ARMENIAN
 MODIFIERlxHALF RING,APOSTROPHE,EMPHASISm,EXCLAMATIONm,COMMA,QUESTIONm,ABBREVIATIONm
560 ARMENIANsl
 TURNED AYB,AYB,BEN,GIM,DA,ECH,ZA,EH,ET,TO,ZHE,INI,LIWN,XEH,CA,KEN,HO,JA,GHAD,CHEH,MEN,YI,NOW,SHA,VO
 CHA,PEH,JHEH,RA,SEH,VEW,TIWN,REH,CO,YIWN,PIWR,KEH,OH,FEH
587 ARMENIAN
 sLIGATURE ECH YIWN,slYIwp,FULL STOP,HYPHEN
58D
 RIGHT-FACING ARMENIAN ETERNITYg,LEFT-FACING ARMENIAN ETERNITYg,ARMENIAN DRAMg"

end Throws.Text.CharacterNames
