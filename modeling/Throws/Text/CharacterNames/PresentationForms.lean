/-!
# Names of presentation forms

Ligatures, Arabic letters by their form, and wide and narrow variants.
-/

namespace Throws.Text.CharacterNames

/-- Characters from U+E000 to U+FFFF. -/
def presentationForms : String := "FB00 LATINsLIGATURE
 FF,FI,FL,FFI,FFL,LONG S T,ST
FB13 ARMENIANsLIGATURE
 MEN NOW,MEN ECH,MEN INI,VEW NOW,MEN XEH
FB1D HEBREW
 lYODwHIRIQ,POINT JUDEO-SPANISH VARIKA,LIGATURE YIDDISH YOD YOD PATAH,lALTERNATIVE AYIN
FB21 HEBREWlWIDE
 ALEF,DALET,HE,KAF,LAMED,oMEM,RESH,TAV
FB29 HEBREWl
 ALTERNATIVE PLUSg,SHINwSHIN DOT,SHINwSIN DOT,SHINwDAGESHnSHIN DOT,SHINwDAGESHnSIN DOT,ALEFwPATAH
 ALEFwQAMATS,ALEFwMAPIQ,BETwDAGESH,GIMELwDAGESH,DALETwDAGESH,HEwMAPIQ,VAVwDAGESH,ZAYINwDAGESH,
 TETwDAGESH,YODwDAGESH,oKAFwDAGESH,KAFwDAGESH,LAMEDwDAGESH,,MEMwDAGESH,,NUNwDAGESH,SAMEKHwDAGESH,
 oPEwDAGESH,PEwDAGESH,,TSADIwDAGESH,QOFwDAGESH,RESHwDAGESH,SHINwDAGESH,TAVwDAGESH,VAVwHOLAM,BETwRAFE
 KAFwRAFE,PEwRAFE
FB4F HEBREW LIGATURE ALEF
 LAMED
FB50 ARABIClALEF WASLA
 jf,of
FB52 ARABIClBEEH
 jf,of,if,MEDIALf
FB56 ARABIClPEH
 jf,of,if,MEDIALf
FB5A ARABIClBEHEH
 jf,of,if,MEDIALf
FB5E ARABIClTTEHEH
 jf,of,if,MEDIALf
FB62 ARABIClTEHEH
 jf,of,if,MEDIALf
FB66 ARABIClTTEH
 jf,of,if,MEDIALf
FB6A ARABIClVEH
 jf,of,if,MEDIALf
FB6E ARABIClPEHEH
 jf,of,if,MEDIALf
FB72 ARABIClDYEH
 jf,of,if,MEDIALf
FB76 ARABIClNYEH
 jf,of,if,MEDIALf
FB7A ARABIClTCHEH
 jf,of,if,MEDIALf
FB7E ARABIClTCHEHEH
 jf,of,if,MEDIALf
FB82 ARABICl
 DDAHALjf,DDAHALof,DAHALjf,DAHALof,DULjf,DULof,DDALjf,DDALof,JEHjf,JEHof,RREHjf,RREHof,KEHEHjf
 KEHEHof,KEHEHif,KEHEH MEDIALf,GAFjf,GAFof,GAFif,GAF MEDIALf,GUEHjf,GUEHof,GUEHif,GUEH MEDIALf
 NGOEHjf,NGOEHof,NGOEHif,NGOEH MEDIALf,NOON GHUNNAjf,NOON GHUNNAof,RNOONjf,RNOONof,RNOONif
 RNOON MEDIALf,HEHwYEHejf,HEHwYEHeof
FBA6 ARABIClHEH GOAL
 jf,of,if,MEDIALf
FBAA ARABIClHEH DOACHASHMEE
 jf,of,if,MEDIALf
FBAE ARABIClYEH BARREE
 jf,of,wHAMZAejf,wHAMZAeof
FBB2 ARABICu
 DOTe,DOTb,TWO DOTSe,TWO DOTSb,tDOTSe,tDOTSb,tDOTS POINTING DOWNWARDSe,tDOTS POINTING DOWNWARDSb
 FOUR DOTSe,FOUR DOTSb,dvBARb,TWO DOTS VERTICALLYe,TWO DOTS VERTICALLYb,RING,sTAHe,sTAHb,WASLAe
FBD3 ARABICl
 NGjf,NGof,NGif,NG MEDIALf,Ujf,Uof,OEjf,OEof,YUjf,YUof,UwHAMZAejf,VEjf,VEof
FBE0 ARABIClKIRGHIZ
 OEjf,OEof,YUjf,YUof
FBE4 ARABIClE
 jf,of,if,MEDIALf
FBE8 ARABIClUIGHUR KAZAKH KIRGHIZ ALEF MAKSURA
 if,MEDIALf
FBEA ARABIC LIGATURE YEHwHAMZAew
 ALEFjf,ALEFof,AEjf,AEof,WAWjf,WAWof,Ujf,Uof,OEjf,OEof,YUjf,YUof,Ejf,Eof,Eif
FBF9 ARABIC LIGATURE UIGHUR KIRGHIZ YEHwHAMZAewALEF MAKSURA
 jf,of,if
FBFC ARABIClFARSI YEH
 jf,of,if,MEDIALf
FC00 ARABIC LIGATURE YEHwHAMZAew
 JEEMjf,HAHjf,MEEMjf,ALEF MAKSURAjf,YEHjf
FC05 ARABIC LIGATURE
 BEHwJEEMjf,BEHwHAHjf,BEHwKHAHjf,BEHwMEEMjf,BEHwALEF MAKSURAjf,BEHwYEHjf,TEHwJEEMjf,TEHwHAHjf
 TEHwKHAHjf,TEHwMEEMjf,TEHwALEF MAKSURAjf,TEHwYEHjf,THEHwJEEMjf,THEHwMEEMjf,THEHwALEF MAKSURAjf
 THEHwYEHjf,JEEMwHAHjf,JEEMwMEEMjf,HAHwJEEMjf,HAHwMEEMjf,KHAHwJEEMjf,KHAHwHAHjf,KHAHwMEEMjf
 SEENwJEEMjf,SEENwHAHjf,SEENwKHAHjf,SEENwMEEMjf,SADwHAHjf,SADwMEEMjf,DADwJEEMjf,DADwHAHjf,DADwKHAHjf
 DADwMEEMjf,TAHwHAHjf,TAHwMEEMjf,ZAHwMEEMjf,AINwJEEMjf,AINwMEEMjf,GHAINwJEEMjf,GHAINwMEEMjf
 FEHwJEEMjf,FEHwHAHjf,FEHwKHAHjf,FEHwMEEMjf,FEHwALEF MAKSURAjf,FEHwYEHjf,QAFwHAHjf,QAFwMEEMjf
 QAFwALEF MAKSURAjf,QAFwYEHjf,KAFwALEFjf,KAFwJEEMjf,KAFwHAHjf,KAFwKHAHjf,KAFwLAMjf,KAFwMEEMjf
 KAFwALEF MAKSURAjf,KAFwYEHjf,LAMwJEEMjf,LAMwHAHjf,LAMwKHAHjf,LAMwMEEMjf,LAMwALEF MAKSURAjf
 LAMwYEHjf,MEEMwJEEMjf,MEEMwHAHjf,MEEMwKHAHjf,MEEMwMEEMjf,MEEMwALEF MAKSURAjf,MEEMwYEHjf,NOONwJEEMjf
 NOONwHAHjf,NOONwKHAHjf,NOONwMEEMjf,NOONwALEF MAKSURAjf,NOONwYEHjf,HEHwJEEMjf,HEHwMEEMjf
 HEHwALEF MAKSURAjf,HEHwYEHjf,YEHwJEEMjf,YEHwHAHjf,YEHwKHAHjf,YEHwMEEMjf,YEHwALEF MAKSURAjf
 YEHwYEHjf,THALwSUPERSCRIPT ALEFjf,REHwSUPERSCRIPT ALEFjf,ALEF MAKSURAwSUPERSCRIPT ALEFjf
FC5E ARABIC LIGATURE SHADDAw
 DAMMATANjf,KASRATANjf,FATHAjf,DAMMAjf,KASRAjf,SUPERSCRIPT ALEFjf
FC64 ARABIC LIGATURE YEHwHAMZAew
 REHof,ZAINof,MEEMof,NOONof,ALEF MAKSURAof,YEHof
FC6A ARABIC LIGATURE
 BEHwREHof,BEHwZAINof,BEHwMEEMof,BEHwNOONof,BEHwALEF MAKSURAof,BEHwYEHof,TEHwREHof,TEHwZAINof
 TEHwMEEMof,TEHwNOONof,TEHwALEF MAKSURAof,TEHwYEHof,THEHwREHof,THEHwZAINof,THEHwMEEMof,THEHwNOONof
 THEHwALEF MAKSURAof,THEHwYEHof,FEHwALEF MAKSURAof,FEHwYEHof,QAFwALEF MAKSURAof,QAFwYEHof,KAFwALEFof
 KAFwLAMof,KAFwMEEMof,KAFwALEF MAKSURAof,KAFwYEHof,LAMwMEEMof,LAMwALEF MAKSURAof,LAMwYEHof
 MEEMwALEFof,MEEMwMEEMof,NOONwREHof,NOONwZAINof,NOONwMEEMof,NOONwNOONof,NOONwALEF MAKSURAof
 NOONwYEHof,ALEF MAKSURAwSUPERSCRIPT ALEFof,YEHwREHof,YEHwZAINof,YEHwMEEMof,YEHwNOONof
 YEHwALEF MAKSURAof,YEHwYEHof,YEHwHAMZAewJEEMif,YEHwHAMZAewHAHif,YEHwHAMZAewKHAHif,YEHwHAMZAewMEEMif
 YEHwHAMZAewHEHif,BEHwJEEMif,BEHwHAHif,BEHwKHAHif,BEHwMEEMif,BEHwHEHif,TEHwJEEMif,TEHwHAHif
 TEHwKHAHif,TEHwMEEMif,TEHwHEHif,THEHwMEEMif,JEEMwHAHif,JEEMwMEEMif,HAHwJEEMif,HAHwMEEMif
 KHAHwJEEMif,KHAHwMEEMif,SEENwJEEMif,SEENwHAHif,SEENwKHAHif,SEENwMEEMif,SADwHAHif,SADwKHAHif
 SADwMEEMif,DADwJEEMif,DADwHAHif,DADwKHAHif,DADwMEEMif,TAHwHAHif,ZAHwMEEMif,AINwJEEMif,AINwMEEMif
 GHAINwJEEMif,GHAINwMEEMif,FEHwJEEMif,FEHwHAHif,FEHwKHAHif,FEHwMEEMif,QAFwHAHif,QAFwMEEMif
 KAFwJEEMif,KAFwHAHif,KAFwKHAHif,KAFwLAMif,KAFwMEEMif,LAMwJEEMif,LAMwHAHif,LAMwKHAHif,LAMwMEEMif
 LAMwHEHif,MEEMwJEEMif,MEEMwHAHif,MEEMwKHAHif,MEEMwMEEMif,NOONwJEEMif,NOONwHAHif,NOONwKHAHif
 NOONwMEEMif,NOONwHEHif,HEHwJEEMif,HEHwMEEMif,HEHwSUPERSCRIPT ALEFif,YEHwJEEMif,YEHwHAHif,YEHwKHAHif
 YEHwMEEMif,YEHwHEHif,YEHwHAMZAewMEEM MEDIALf,YEHwHAMZAewHEH MEDIALf,BEHwMEEM MEDIALf
 BEHwHEH MEDIALf,TEHwMEEM MEDIALf,TEHwHEH MEDIALf,THEHwMEEM MEDIALf,THEHwHEH MEDIALf
 SEENwMEEM MEDIALf,SEENwHEH MEDIALf,SHEENwMEEM MEDIALf,SHEENwHEH MEDIALf,KAFwLAM MEDIALf
 KAFwMEEM MEDIALf,LAMwMEEM MEDIALf,NOONwMEEM MEDIALf,NOONwHEH MEDIALf,YEHwMEEM MEDIALf
 YEHwHEH MEDIALf,SHADDAwFATHA MEDIALf,SHADDAwDAMMA MEDIALf,SHADDAwKASRA MEDIALf,TAHwALEF MAKSURAjf
 TAHwYEHjf,AINwALEF MAKSURAjf,AINwYEHjf,GHAINwALEF MAKSURAjf,GHAINwYEHjf,SEENwALEF MAKSURAjf
 SEENwYEHjf,SHEENwALEF MAKSURAjf,SHEENwYEHjf,HAHwALEF MAKSURAjf,HAHwYEHjf,JEEMwALEF MAKSURAjf
 JEEMwYEHjf,KHAHwALEF MAKSURAjf,KHAHwYEHjf,SADwALEF MAKSURAjf,SADwYEHjf,DADwALEF MAKSURAjf,DADwYEHjf
 SHEENwJEEMjf,SHEENwHAHjf,SHEENwKHAHjf,SHEENwMEEMjf,SHEENwREHjf,SEENwREHjf,SADwREHjf,DADwREHjf
 TAHwALEF MAKSURAof,TAHwYEHof,AINwALEF MAKSURAof,AINwYEHof,GHAINwALEF MAKSURAof,GHAINwYEHof
 SEENwALEF MAKSURAof,SEENwYEHof,SHEENwALEF MAKSURAof,SHEENwYEHof,HAHwALEF MAKSURAof,HAHwYEHof
 JEEMwALEF MAKSURAof,JEEMwYEHof,KHAHwALEF MAKSURAof,KHAHwYEHof,SADwALEF MAKSURAof,SADwYEHof
 DADwALEF MAKSURAof,DADwYEHof,SHEENwJEEMof,SHEENwHAHof,SHEENwKHAHof,SHEENwMEEMof,SHEENwREHof
 SEENwREHof,SADwREHof,DADwREHof,SHEENwJEEMif,SHEENwHAHif,SHEENwKHAHif,SHEENwMEEMif,SEENwHEHif
 SHEENwHEHif,TAHwMEEMif,SEENwJEEM MEDIALf,SEENwHAH MEDIALf,SEENwKHAH MEDIALf,SHEENwJEEM MEDIALf
 SHEENwHAH MEDIALf,SHEENwKHAH MEDIALf,TAHwMEEM MEDIALf,ZAHwMEEM MEDIALf,ALEFwFATHATANof
 ALEFwFATHATANjf
FD3E
 ORNATExPARENTHESIS,ORNATErPARENTHESIS,ARABIC LIGATURE RAHIMAHU ALLAAH
FD41 ARABIC LIGATURE RADI ALLAAHU
 ANH,ANHAA,ANHUM,ANHUMAA,ANHUNNA
FD46 ARABIC LIGATURE
 SALLALLAAHU ALAYHI WA-AALIH,ALAYHI AS-SALAAM,ALAYHIM AS-SALAAM,ALAYHIMAA AS-SALAAM
 ALAYHI AS-SALAATU WAS-SALAAM,QUDDISA SIRRAH,SALLALLAHU ALAYHI WAAALIHEE WA-SALLAM,ALAYHAA AS-SALAAM
 TABAARAKA WA-TAAALAA,RAHIMAHUM ALLAAH,TEHwJEEMwMEEMif,TEHwHAHwJEEMof,TEHwHAHwJEEMif,TEHwHAHwMEEMif
 TEHwKHAHwMEEMif,TEHwMEEMwJEEMif,TEHwMEEMwHAHif,TEHwMEEMwKHAHif,JEEMwMEEMwHAHof,JEEMwMEEMwHAHif
 HAHwMEEMwYEHof,HAHwMEEMwALEF MAKSURAof,SEENwHAHwJEEMif,SEENwJEEMwHAHif,SEENwJEEMwALEF MAKSURAof
 SEENwMEEMwHAHof,SEENwMEEMwHAHif,SEENwMEEMwJEEMif,SEENwMEEMwMEEMof,SEENwMEEMwMEEMif,SADwHAHwHAHof
 SADwHAHwHAHif,SADwMEEMwMEEMof,SHEENwHAHwMEEMof,SHEENwHAHwMEEMif,SHEENwJEEMwYEHof,SHEENwMEEMwKHAHof
 SHEENwMEEMwKHAHif,SHEENwMEEMwMEEMof,SHEENwMEEMwMEEMif,DADwHAHwALEF MAKSURAof,DADwKHAHwMEEMof
 DADwKHAHwMEEMif,TAHwMEEMwHAHof,TAHwMEEMwHAHif,TAHwMEEMwMEEMif,TAHwMEEMwYEHof,AINwJEEMwMEEMof
 AINwMEEMwMEEMof,AINwMEEMwMEEMif,AINwMEEMwALEF MAKSURAof,GHAINwMEEMwMEEMof,GHAINwMEEMwYEHof
 GHAINwMEEMwALEF MAKSURAof,FEHwKHAHwMEEMof,FEHwKHAHwMEEMif,QAFwMEEMwHAHof,QAFwMEEMwMEEMof
 LAMwHAHwMEEMof,LAMwHAHwYEHof,LAMwHAHwALEF MAKSURAof,LAMwJEEMwJEEMif,LAMwJEEMwJEEMof,LAMwKHAHwMEEMof
 LAMwKHAHwMEEMif,LAMwMEEMwHAHof,LAMwMEEMwHAHif,MEEMwHAHwJEEMif,MEEMwHAHwMEEMif,MEEMwHAHwYEHof
 MEEMwJEEMwHAHif,MEEMwJEEMwMEEMif,MEEMwKHAHwJEEMif,MEEMwKHAHwMEEMif,,,MEEMwJEEMwKHAHif
 HEHwMEEMwJEEMif,HEHwMEEMwMEEMif,NOONwHAHwMEEMif,NOONwHAHwALEF MAKSURAof,NOONwJEEMwMEEMof
 NOONwJEEMwMEEMif,NOONwJEEMwALEF MAKSURAof,NOONwMEEMwYEHof,NOONwMEEMwALEF MAKSURAof,YEHwMEEMwMEEMof
 YEHwMEEMwMEEMif,BEHwKHAHwYEHof,TEHwJEEMwYEHof,TEHwJEEMwALEF MAKSURAof,TEHwKHAHwYEHof
 TEHwKHAHwALEF MAKSURAof,TEHwMEEMwYEHof,TEHwMEEMwALEF MAKSURAof,JEEMwMEEMwYEHof
 JEEMwHAHwALEF MAKSURAof,JEEMwMEEMwALEF MAKSURAof,SEENwKHAHwALEF MAKSURAof,SADwHAHwYEHof
 SHEENwHAHwYEHof,DADwHAHwYEHof,LAMwJEEMwYEHof,LAMwMEEMwYEHof,YEHwHAHwYEHof,YEHwJEEMwYEHof
 YEHwMEEMwYEHof,MEEMwMEEMwYEHof,QAFwMEEMwYEHof,NOONwHAHwYEHof,QAFwMEEMwHAHif,LAMwHAHwMEEMif
 AINwMEEMwYEHof,KAFwMEEMwYEHof,NOONwJEEMwHAHif,MEEMwKHAHwYEHof,LAMwJEEMwMEEMif,KAFwMEEMwMEEMof
 LAMwJEEMwMEEMof,NOONwJEEMwHAHof,JEEMwHAHwYEHof,HAHwJEEMwYEHof,MEEMwJEEMwYEHof,FEHwMEEMwYEHof
 BEHwHAHwYEHof,KAFwMEEMwMEEMif,AINwJEEMwMEEMif,SADwMEEMwMEEMif,SEENwKHAHwYEHof,NOONwJEEMwYEHof,,,,,,
 ,SALAAMUHU ALAYNAA
FDF0 ARABIC LIGATURE
 SALLA USED AS KORANIC STOPgjf,QALA USED AS KORANIC STOPgjf,ALLAHjf,AKBARjf,MOHAMMADjf,SALAMjf
 RASOULjf,ALAYHEjf,WASALLAMjf,SALLAjf,SALLALLAHOU ALAYHE WASALLAM,JALLAJALALOUHOU
FDFC
 RIALg
FDFD ARABIC LIGATURE
 BISMILLAH AR-RAHMAN AR-RAHEEM,SUBHAANAHU WA TAAALAA,AZZA WA JALL
FE00 VARIATION
 SELECTOR-1~16
FE10 PRESENTATIONfFORv
 COMMA,IDEOGRAPHIC COMMA,IDEOGRAPHIC FULL STOP,COLON,SEMICOLON,EXCLAMATIONm,QUESTIONm
 xhLENTICULAR BRACKET,rhLENTICULAR BRAKCET,HORIZONTAL ELLIPSIS
FE20 COMBINING
 LIGATURExHALF,LIGATURErHALF,dTILDExHALF,dTILDErHALF,MACRONxHALF,MACRONrHALF,CONJOINING MACRON
 LIGATURExHALFb,LIGATURErHALFb,TILDExHALFb,TILDErHALFb,MACRONxHALFb,MACRONrHALFb,CONJOINING MACRONb
 CYRILLIC TITLOxHALF,CYRILLIC TITLOrHALF
FE30 PRESENTATIONfFORv
 TWO DOT LEADER,EM DASH,EN DASH,LOW LINE,WAVY LOW LINE,xPARENTHESIS,rPARENTHESIS,xCURLY BRACKET
 rCURLY BRACKET,xTORTOISE SHELL BRACKET,rTORTOISE SHELL BRACKET,xkLENTICULAR BRACKET
 rkLENTICULAR BRACKET,xdANGLE BRACKET,rdANGLE BRACKET,xANGLE BRACKET,rANGLE BRACKET,xCORNER BRACKET
 rCORNER BRACKET,xhCORNER BRACKET,rhCORNER BRACKET
FE45
 SESAME DOT,hSESAME DOT
FE47 PRESENTATIONfFORv
 xSQUARE BRACKET,rSQUARE BRACKET
FE49
 DASHED OVERLINE,CENTRELINE OVERLINE,WAVY OVERLINE,dWAVY OVERLINE,DASHED LOW LINE
 CENTRELINE LOW LINE,WAVY LOW LINE
FE50 s
 COMMA,IDEOGRAPHIC COMMA,FULL STOP,,SEMICOLON,COLON,QUESTIONm,EXCLAMATIONm,EM DASH,xPARENTHESIS
 rPARENTHESIS,xCURLY BRACKET,rCURLY BRACKET,xTORTOISE SHELL BRACKET,rTORTOISE SHELL BRACKET,NUMBERg
 AMPERSAND,ASTERISK,PLUSg,HYPHEN-MINUS,LESS-THANg,GREATER-THANg,EQUALSg,,REVERSE SOLIDUS,DOLLARg
 PERCENTg,COMMERCIAL AT
FE70 ARABIC
 FATHATANjf,TATWEELwFATHATANe,DAMMATANjf,TAIL FRAGMENT,KASRATANjf,,FATHAjf,FATHA MEDIALf,DAMMAjf
 DAMMA MEDIALf,KASRAjf,KASRA MEDIALf,SHADDAjf,SHADDA MEDIALf,SUKUNjf,SUKUN MEDIALf,lHAMZAjf
FE81 ARABIClALEFw
 MADDAejf,MADDAeof,HAMZAejf,HAMZAeof
FE85 ARABIClWAWwHAMZAe
 jf,of
FE87 ARABIClALEFwHAMZAb
 jf,of
FE89 ARABIClYEHwHAMZAe
 jf,of,if,MEDIALf
FE8D ARABICl
 ALEFjf,ALEFof,BEHjf,BEHof,BEHif,BEH MEDIALf,TEH MARBUTAjf,TEH MARBUTAof,TEHjf,TEHof,TEHif
 TEH MEDIALf,THEHjf,THEHof,THEHif,THEH MEDIALf,JEEMjf,JEEMof,JEEMif,JEEM MEDIALf,HAHjf,HAHof,HAHif
 HAH MEDIALf,KHAHjf,KHAHof,KHAHif,KHAH MEDIALf,DALjf,DALof,THALjf,THALof,REHjf,REHof,ZAINjf,ZAINof
 SEENjf,SEENof,SEENif,SEEN MEDIALf,SHEENjf,SHEENof,SHEENif,SHEEN MEDIALf,SADjf,SADof,SADif
 SAD MEDIALf,DADjf,DADof,DADif,DAD MEDIALf,TAHjf,TAHof,TAHif,TAH MEDIALf,ZAHjf,ZAHof,ZAHif
 ZAH MEDIALf,AINjf,AINof,AINif,AIN MEDIALf,GHAINjf,GHAINof,GHAINif,GHAIN MEDIALf,FEHjf,FEHof,FEHif
 FEH MEDIALf,QAFjf,QAFof,QAFif,QAF MEDIALf,KAFjf,KAFof,KAFif,KAF MEDIALf,LAMjf,LAMof,LAMif
 LAM MEDIALf,MEEMjf,MEEMof,MEEMif,MEEM MEDIALf,NOONjf,NOONof,NOONif,NOON MEDIALf,HEHjf,HEHof,HEHif
 HEH MEDIALf,WAWjf,WAWof,ALEF MAKSURAjf,ALEF MAKSURAof,YEHjf,YEHof,YEHif,YEH MEDIALf
FEF5 ARABIC LIGATURE LAMwALEF
 wMADDAejf,wMADDAeof,wHAMZAejf,wHAMZAeof,wHAMZAbjf,wHAMZAbof,jf,of
FEFF ZERO WIDTH NO-BREAK
 SPACE
FF01 FULLWIDTH
 EXCLAMATIONm,QUOTATIONm,NUMBERg,DOLLARg,PERCENTg,AMPERSAND,APOSTROPHE,xPARENTHESIS,rPARENTHESIS
 ASTERISK,PLUSg,COMMA,HYPHEN-MINUS,FULL STOP,SOLIDUS
FF10 FULLWIDTH DIGIT
 ZERO,ONE,TWO,t,FOUR,FIVE,SIX,SEVEN,EIGHT,NINE
FF1A FULLWIDTH
 COLON,SEMICOLON,LESS-THANg,EQUALSg,GREATER-THANg,QUESTIONm,COMMERCIAL AT
FF21 FULLWIDTH LATINcl
 A,B,C,D,E,F,G,H,I,J,K,L,M,N,O,P,Q,R,S,T,U,V,W,X,Y,Z
FF3B FULLWIDTH
 xSQUARE BRACKET,REVERSE SOLIDUS,rSQUARE BRACKET,CIRCUMFLEX ACCENT,LOW LINE,GRAVE ACCENT
FF41 FULLWIDTH LATINsl
 A,B,C,D,E,F,G,H,I,J,K,L,M,N,O,P,Q,R,S,T,U,V,W,X,Y,Z
FF5B FULLWIDTH
 xCURLY BRACKET,vLINE,rCURLY BRACKET,TILDE,xhPARENTHESIS,rhPARENTHESIS
FF61 HALFWIDTH
 IDEOGRAPHIC FULL STOP,xCORNER BRACKET,rCORNER BRACKET,IDEOGRAPHIC COMMA,KATAKANA MIDDLE DOT
FF66 HALFWIDTH KATAKANAl
 WO,sA,sI,sU,sE,sO,sYA,sYU,sYO,sTU
FF70 HALFWIDTH KATAKANA-HIRAGANA PROLONGED
 SOUNDm
FF71 HALFWIDTH KATAKANAl
 A,I,U,E,O,KA,KI,KU,KE,KO,SA,SI,SU,SE,SO,TA,TI,TU,TE,TO,NA,NI,NU,NE,NO,HA,HI,HU,HE,HO,MA,MI,MU,ME,MO
 YA,YU,YO,RA,RI,RU,RE,RO,WA,N
FF9E HALFWIDTH
 KATAKANA VOICED SOUNDm,KATAKANA SEMI-VOICED SOUNDm,HANGUL FILLER
FFA1 HALFWIDTH HANGULl
 KIYEOK,SSANGKIYEOK,KIYEOK-SIOS,NIEUN,NIEUN-CIEUC,NIEUN-HIEUH,TIKEUT,SSANGTIKEUT,RIEUL,RIEUL-KIYEOK
 RIEUL-MIEUM,RIEUL-PIEUP,RIEUL-SIOS,RIEUL-THIEUTH,RIEUL-PHIEUPH,RIEUL-HIEUH,MIEUM,PIEUP,SSANGPIEUP
 PIEUP-SIOS,SIOS,SSANGSIOS,IEUNG,CIEUC,SSANGCIEUC,CHIEUCH,KHIEUKH,THIEUTH,PHIEUPH,HIEUH,,,,A,AE,YA
 YAE,EO,E,,,YEO,YE,O,WA,WAE,OE,,,YO,U,WEO,WE,WI,YU,,,EU,YI,I
FFE0 FULLWIDTH
 CENTg,POUNDg,NOTg,MACRON,BROKEN BAR,YENg,WONg
FFE8 HALFWIDTH
 FORMS LIGHTv,ya,UPWARDSa,za,DOWNWARDSa,kSQUARE,hCIRCLE
FFF9 INTERLINEAR ANNOTATION
 ANCHOR,SEPARATOR,TERMINATOR
FFFC
 OBJECT REPLACEMENT CHARACTER,REPLACEMENT CHARACTER"

end Throws.Text.CharacterNames
