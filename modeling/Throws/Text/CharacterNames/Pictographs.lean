/-!
# Names of pictographs

Tiles, cards, emblems, faces, tags and variation selectors.
-/

namespace Throws.Text.CharacterNames

/-- Characters from U+1F000 on. -/
def pictographs : String := "1F000 MAHJONG TILE
 EAST WIND,SOUTH WIND,WEST WIND,NORTH WIND,RED DRAGON,GREEN DRAGON,hDRAGON,ONE OF CHARACTERS
 TWO OF CHARACTERS,tOF CHARACTERS,FOUR OF CHARACTERS,FIVE OF CHARACTERS,SIX OF CHARACTERS
 SEVEN OF CHARACTERS,EIGHT OF CHARACTERS,NINE OF CHARACTERS,ONE OF BAMBOOS,TWO OF BAMBOOS
 tOF BAMBOOS,FOUR OF BAMBOOS,FIVE OF BAMBOOS,SIX OF BAMBOOS,SEVEN OF BAMBOOS,EIGHT OF BAMBOOS
 NINE OF BAMBOOS,ONE OF CIRCLES,TWO OF CIRCLES,tOF CIRCLES,FOUR OF CIRCLES,FIVE OF CIRCLES
 SIX OF CIRCLES,SEVEN OF CIRCLES,EIGHT OF CIRCLES,NINE OF CIRCLES,PLUM,ORCHID,BAMBOO,CHRYSANTHEMUM
 SPRING,SUMMER,AUTUMN,WINTER,JOKER,BACK
1F030 DOMINO TILE
 HORIZONTAL BACK,HORIZONTAL-00-00~6,HORIZONTAL-01-00~6,HORIZONTAL-02-00~6,HORIZONTAL-03-00~6
 HORIZONTAL-04-00~6,HORIZONTAL-05-00~6,HORIZONTAL-06-00~6,vBACK,VERTICAL-00-00~6,VERTICAL-01-00~6
 VERTICAL-02-00~6,VERTICAL-03-00~6,VERTICAL-04-00~6,VERTICAL-05-00~6,VERTICAL-06-00~6
1F0A0 PLAYING CARD
 BACK,ACE OF SPADES,TWO OF SPADES,tOF SPADES,FOUR OF SPADES,FIVE OF SPADES,SIX OF SPADES
 SEVEN OF SPADES,EIGHT OF SPADES,NINE OF SPADES,TEN OF SPADES,JACK OF SPADES,KNIGHT OF SPADES
 QUEEN OF SPADES,KING OF SPADES,,,ACE OF HEARTS,TWO OF HEARTS,tOF HEARTS,FOUR OF HEARTS
 FIVE OF HEARTS,SIX OF HEARTS,SEVEN OF HEARTS,EIGHT OF HEARTS,NINE OF HEARTS,TEN OF HEARTS
 JACK OF HEARTS,KNIGHT OF HEARTS,QUEEN OF HEARTS,KING OF HEARTS,RED JOKER,,ACE OF DIAMONDS
 TWO OF DIAMONDS,tOF DIAMONDS,FOUR OF DIAMONDS,FIVE OF DIAMONDS,SIX OF DIAMONDS,SEVEN OF DIAMONDS
 EIGHT OF DIAMONDS,NINE OF DIAMONDS,TEN OF DIAMONDS,JACK OF DIAMONDS,KNIGHT OF DIAMONDS
 QUEEN OF DIAMONDS,KING OF DIAMONDS,kJOKER,,ACE OF CLUBS,TWO OF CLUBS,tOF CLUBS,FOUR OF CLUBS
 FIVE OF CLUBS,SIX OF CLUBS,SEVEN OF CLUBS,EIGHT OF CLUBS,NINE OF CLUBS,TEN OF CLUBS,JACK OF CLUBS
 KNIGHT OF CLUBS,QUEEN OF CLUBS,KING OF CLUBS,hJOKER,FOOL,TRUMP-1~21
1F100 DIGIT
 ZERO FULL STOP,ZERO COMMA,ONE COMMA,TWO COMMA,tCOMMA,FOUR COMMA,FIVE COMMA,SIX COMMA,SEVEN COMMA
 EIGHT COMMA,NINE COMMA
1F10B DINGBAT
 CIRCLED SANS-SERIF DIGIT ZERO,NEGATIVE CIRCLED SANS-SERIF DIGIT ZERO
1F10D CIRCLED
 ZEROwSLASH,ANTICLOCKWISEa,DOLLARgwOVERLAID BACKSLASH
1F110 PARENTHESIZED LATINcl
 A,B,C,D,E,F,G,H,I,J,K,L,M,N,O,P,Q,R,S,T,U,V,W,X,Y,Z
1F12A TORTOISE SHELL BRACKETED
 LATINclS
1F12B CIRCLED
 ITALIC LATINclC,ITALIC LATINclR,CD,WZ
1F12F
 COPYLEFTu
1F130 SQUARED LATINcl
 A,B,C,D,E,F,G,H,I,J,K,L,M,N,O,P,Q,R,S,T,U,V,W,X,Y,Z
1F14A SQUARED
 HV,MV,SD,SS,PPV,WC
1F150 NEGATIVE CIRCLED LATINcl
 A,B,C,D,E,F,G,H,I,J,K,L,M,N,O,P,Q,R,S,T,U,V,W,X,Y,Z
1F16A RAISED
 MCg,MDg,MRg
1F16D CIRCLED
 CC,CwOVERLAID BACKSLASH,HUMAN FIGURE
1F170 NEGATIVE SQUARED LATINcl
 A,B,C,D,E,F,G,H,I,J,K,L,M,N,O,P,Q,R,S,T,U,V,W,X,Y,Z
1F18A CROSSED NEGATIVE SQUARED
 LATINclP
1F18B NEGATIVE SQUARED
 IC,PA,SA,AB,WC
1F190 SQUARE
 DJ
1F191 SQUARED
 CL,COOL,FREE,ID,NEW,NG,OK,SOS,UPwEXCLAMATIONm,VS,tD,SECOND SCREEN,TWO K,FOUR K,EIGHT K
 FIVE POINT ONE,SEVEN POINT ONE,TWENTY-TWO POINT TWO,SIXTY P,ONE HUNDRED TWENTY P,LATINslD,HC,HDR
 HI-RES,LOSSLESS,SHV,UHD,VOD
1F1AD MASK
 WORKu
1F1E6 REGIONAL INDICATORul
 A,B,C,D,E,F,G,H,I,J,K,L,M,N,O,P,Q,R,S,T,U,V,W,X,Y,Z
1F200 SQUARE HIRAGANA
 HOKA
1F201 SQUARED KATAKANA
 KOKO,SA
1F210 SQUARED CJK UNIFIED
 IDEOGRAPH-624B,IDEOGRAPH-5B57,IDEOGRAPH-53CC
1F213 SQUARED KATAKANA
 DE
1F214 SQUARED CJK UNIFIED
 IDEOGRAPH-4E8C,IDEOGRAPH-591A,IDEOGRAPH-89E3,IDEOGRAPH-5929,IDEOGRAPH-4EA4,IDEOGRAPH-6620
 IDEOGRAPH-7121,IDEOGRAPH-6599,IDEOGRAPH-524D,IDEOGRAPH-5F8C,IDEOGRAPH-518D,IDEOGRAPH-65B0
 IDEOGRAPH-521D,IDEOGRAPH-7D42,IDEOGRAPH-751F,IDEOGRAPH-8CA9,IDEOGRAPH-58F0,IDEOGRAPH-5439
 IDEOGRAPH-6F14,IDEOGRAPH-6295,IDEOGRAPH-6355,IDEOGRAPH-4E00,IDEOGRAPH-4E09,IDEOGRAPH-904A
 IDEOGRAPH-5DE6,IDEOGRAPH-4E2D,IDEOGRAPH-53F3,IDEOGRAPH-6307,IDEOGRAPH-8D70,IDEOGRAPH-6253
 IDEOGRAPH-7981,IDEOGRAPH-7A7A,IDEOGRAPH-5408,IDEOGRAPH-6E80,IDEOGRAPH-6709,IDEOGRAPH-6708
 IDEOGRAPH-7533,IDEOGRAPH-5272,IDEOGRAPH-55B6,IDEOGRAPH-914D
1F240 TORTOISE SHELL BRACKETED CJK UNIFIED
 IDEOGRAPH-672C,IDEOGRAPH-4E09,IDEOGRAPH-4E8C,IDEOGRAPH-5B89,IDEOGRAPH-70B9,IDEOGRAPH-6253
 IDEOGRAPH-76D7,IDEOGRAPH-52DD,IDEOGRAPH-6557
1F250 CIRCLED IDEOGRAPH
 ADVANTAGE,ACCEPT
1F260 ROUNDEDuFOR
 FU,LU,SHOU,XI,SHUANGXI,CAI
1F300
 CYCLONE,FOGGY,CLOSED UMBRELLA,NIGHTwSTARS,SUNRISE OVER MOUNTAINS,SUNRISE,CITYSCAPE AT DUSK
 SUNSET OVER BUILDINGS,RAINBOW,BRIDGE AT NIGHT,WATER WAVE,VOLCANO,MILKY WAY
1F30D EARTH GLOBE
 EUROPE-AFRICA,AMERICAS,ASIA-AUSTRALIA
1F310
 GLOBEwMERIDIANS,NEW MOONu,WAXING CRESCENT MOONu,FIRST QUARTER MOONu,WAXING GIBBOUS MOONu,FULL MOONu
 WANING GIBBOUS MOONu,LAST QUARTER MOONu,WANING CRESCENT MOONu,CRESCENT MOON,NEW MOONwFACE
 FIRST QUARTER MOONwFACE,LAST QUARTER MOONwFACE,FULL MOONwFACE,SUNwFACE,GLOWING STAR,SHOOTING STAR
 THERMOMETER,kDROPLET,hSUN,hSUNwsCLOUD
1F325 hSUN BEHIND
 CLOUD,CLOUDwRAIN
1F327 CLOUDw
 RAIN,SNOW,LIGHTNING,TORNADO
1F32B
 FOG,WIND BLOWING FACE,HOT DOG,TACO,BURRITO,CHESTNUT,SEEDLING,EVERGREEN TREE,DECIDUOUS TREE
 PALM TREE,CACTUS,HOT PEPPER,TULIP,CHERRY BLOSSOM,ROSE,HIBISCUS,SUNFLOWER,BLOSSOM,EAR OF MAIZE
 EAR OF RICE,HERB,FOUR LEAF CLOVER,MAPLE LEAF,FALLEN LEAF,LEAF FLUTTERING IN WIND,MUSHROOM,TOMATO
 AUBERGINE,GRAPES,MELON,WATERMELON,TANGERINE,LEMON,BANANA,PINEAPPLE,RED APPLE,GREEN APPLE,PEAR,PEACH
 CHERRIES,STRAWBERRY,HAMBURGER,SLICE OF PIZZA,MEAT ON BONE,POULTRY LEG,RICE CRACKER,RICE BALL
 COOKED RICE,CURRYnRICE,STEAMING BOWL,SPAGHETTI,BREAD,FRENCH FRIES,ROASTED SWEET POTATO,DANGO,ODEN
 SUSHI,FRIED SHRIMP,FISH CAKEwSWIRL DESIGN,SOFT ICE CREAM,SHAVED ICE,ICE CREAM,DOUGHNUT,COOKIE
 CHOCOLATE BAR,CANDY,LOLLIPOP,CUSTARD,HONEY POT,SHORTCAKE,BENTO BOX,POT OF FOOD,COOKING,FORKnKNIFE
 TEACUP WITHOUT HANDLE,SAKE BOTTLEnCUP,WINE GLASS,COCKTAIL GLASS,TROPICAL DRINK,BEER MUG
 CLINKING BEER MUGS,BABY BOTTLE,FORKnKNIFEwPLATE,BOTTLEwPOPPING CORK,POPCORN,RIBBON,WRAPPED PRESENT
 BIRTHDAY CAKE,JACK-O-LANTERN,CHRISTMAS TREE,FATHER CHRISTMAS,FIREWORKS,FIREWORK SPARKLER,BALLOON
 PARTY POPPER,CONFETTI BALL,TANABATA TREE,CROSSED FLAGS,PINE DECORATION,JAPANESE DOLLS,CARP STREAMER
 WIND CHIME,MOON VIEWING CEREMONY,SCHOOL SATCHEL,GRADUATION CAP,HEARTwTIP ON THEx,BOUQUET OF FLOWERS
 MILITARY MEDAL,REMINDER RIBBON,MUSICAL KEYBOARDwJACKS,STUDIO MICROPHONE,LEVEL SLIDER,CONTROL KNOBS
 BEAMED ASCENDING MUSICAL NOTES,BEAMED DESCENDING MUSICAL NOTES,FILM FRAMES,ADMISSION TICKETS
 CAROUSEL HORSE,FERRIS WHEEL,ROLLER COASTER,FISHING POLEnFISH,MICROPHONE,MOVIE CAMERA,CINEMA
 HEADPHONE,ARTIST PALETTE,TOP HAT,CIRCUS TENT,TICKET,CLAPPER BOARD,PERFORMING ARTS,VIDEO GAME
 DIRECT HIT,SLOT MACHINE,BILLIARDS,GAME DIE,BOWLING,FLOWER PLAYING CARDS,MUSICAL NOTE
 MULTIPLE MUSICAL NOTES,SAXOPHONE,GUITAR,MUSICAL KEYBOARD,TRUMPET,VIOLIN,MUSICAL SCORE
 RUNNING SHIRTwSASH,TENNIS RACQUETnBALL,SKInSKI BOOT,BASKETBALLnHOOP,CHEQUERED FLAG,SNOWBOARDER
 RUNNER,SURFER,SPORTS MEDAL,TROPHY,HORSE RACING,AMERICAN FOOTBALL,RUGBY FOOTBALL,SWIMMER
 WEIGHT LIFTER,GOLFER,RACING MOTORCYCLE,RACING CAR,CRICKET BATnBALL,VOLLEYBALL
 FIELD HOCKEY STICKnBALL,ICE HOCKEY STICKnPUCK,TABLE TENNIS PADDLEnBALL,SNOW CAPPED MOUNTAIN,CAMPING
 BEACHwUMBRELLA,BUILDING CONSTRUCTION,HOUSE BUILDINGS,CITYSCAPE,DERELICT HOUSE BUILDING
 CLASSICAL BUILDING,DESERT,DESERT ISLAND,NATIONAL PARK,STADIUM,HOUSE BUILDING,HOUSEwGARDEN
 OFFICE BUILDING,JAPANESE POST OFFICE,EUROPEAN POST OFFICE,HOSPITAL,BANK,AUTOMATED TELLER MACHINE
 HOTEL,LOVE HOTEL,CONVENIENCE STORE,SCHOOL,DEPARTMENT STORE,FACTORY,IZAKAYA LANTERN,JAPANESE CASTLE
 EUROPEAN CASTLE,hPENNANT,kPENNANT,WAVINGhFLAG,WAVINGkFLAG,ROSETTE,kROSETTE,LABEL
 BADMINTON RACQUETnSHUTTLECOCK,BOWna,AMPHORA
1F3FB EMOJI MODIFIER FITZPATRICK
 TYPE-1-2,TYPE-3~6
1F400
 RAT,MOUSE,OX,WATER BUFFALO,COW,TIGER,LEOPARD,RABBIT,CAT,DRAGON,CROCODILE,WHALE,SNAIL,SNAKE,HORSE
 RAM,GOAT,SHEEP,MONKEY,ROOSTER,CHICKEN,DOG,PIG,BOAR,ELEPHANT,OCTOPUS,SPIRAL SHELL,BUG,ANT,HONEYBEE
 LADY BEETLE,FISH,TROPICAL FISH,BLOWFISH,TURTLE,HATCHING CHICK,BABY CHICK,FRONT-FACING BABY CHICK
 BIRD,PENGUIN,KOALA,POODLE,DROMEDARY CAMEL,BACTRIAN CAMEL,DOLPHIN,MOUSE FACE,COW FACE,TIGER FACE
 RABBIT FACE,CAT FACE,DRAGON FACE,SPOUTING WHALE,HORSE FACE,MONKEY FACE,DOG FACE,PIG FACE,FROG FACE
 HAMSTER FACE,WOLF FACE,BEAR FACE,PANDA FACE,PIG NOSE,PAW PRINTS,CHIPMUNK,EYES,EYE,EAR,NOSE,MOUTH
 TONGUE,hUP POINTING BACKHAND INDEX,hDOWN POINTING BACKHAND INDEX,hxPOINTING BACKHAND INDEX
 hrPOINTING BACKHAND INDEX,FISTED HANDg,WAVING HANDg,OK HANDg,THUMBS UPg,THUMBS DOWNg
 CLAPPING HANDSg,OPEN HANDSg,CROWN,WOMANS HAT,EYEGLASSES,NECKTIE,T-SHIRT,JEANS,DRESS,KIMONO,BIKINI
 WOMANS CLOTHES,PURSE,HANDBAG,POUCH,MANS SHOE,ATHLETIC SHOE,HIGH-HEELED SHOE,WOMANS SANDAL
 WOMANS BOOTS,FOOTPRINTS,BUST IN SILHOUETTE,BUSTS IN SILHOUETTE,BOY,GIRL,MAN,WOMAN,FAMILY
 MANnWOMAN HOLDING HANDS,TWO MEN HOLDING HANDS,TWO WOMEN HOLDING HANDS,POLICE OFFICER
 WOMANwBUNNY EARS,BRIDEwVEIL,PERSONwBLOND HAIR,MANwGUA PI MAO,MANwTURBAN,OLDER MAN,OLDER WOMAN,BABY
 CONSTRUCTION WORKER,PRINCESS,JAPANESE OGRE,JAPANESE GOBLIN,GHOST,BABY ANGEL,EXTRATERRESTRIAL ALIEN
 ALIEN MONSTER,IMP,SKULL,INFORMATION DESK PERSON,GUARDSMAN,DANCER,LIPSTICK,NAIL POLISH,FACE MASSAGE
 HAIRCUT,BARBER POLE,SYRINGE,PILL,KISSm,LOVEl,RING,GEM STONE,KISS,BOUQUET,COUPLEwHEART,WEDDING
 BEATING HEART,BROKEN HEART,TWO HEARTS,SPARKLING HEART,GROWING HEART,HEARTwa,BLUE HEART,GREEN HEART
 YELLOW HEART,PURPLE HEART,HEARTwRIBBON,REVOLVING HEARTS,HEART DECORATION,DIAMOND SHAPEwA DOT INSIDE
 ELECTRIC LIGHT BULB,ANGERu,BOMB,SLEEPINGu,COLLISIONu,SPLASHING SWEATu,DROPLET,DASHu,PILE OF POO
 FLEXED BICEPS,DIZZYu,SPEECH BALLOON,THOUGHT BALLOON,hFLOWER,HUNDRED POINTSu,MONEY BAG
 CURRENCY EXCHANGE,HEAVY DOLLARg,CREDIT CARD
1F4B4 BANKNOTEw
 YENg,DOLLARg,EUROg,POUNDg
1F4B8
 MONEYwWINGS,CHARTwUPWARDS TRENDnYENg,SEAT,PERSONAL COMPUTER,BRIEFCASE,MINIDISC,FLOPPY DISK
 OPTICAL DISC,DVD,FILE FOLDER,OPEN FILE FOLDER,PAGEwCURL,PAGE FACING UP,CALENDAR,TEAR-OFF CALENDAR
 CARD INDEX,CHARTwUPWARDS TREND,CHARTwDOWNWARDS TREND,BAR CHART,CLIPBOARD,PUSHPIN,ROUND PUSHPIN
 PAPERCLIP,STRAIGHT RULER,TRIANGULAR RULER,BOOKMARK TABS,LEDGER,NOTEBOOK,NOTEBOOKwDECORATIVE COVER
 CLOSED BOOK,OPEN BOOK,GREEN BOOK,BLUE BOOK,ORANGE BOOK,BOOKS,NAME BADGE,SCROLL,MEMO
 TELEPHONE RECEIVER,PAGER,FAX MACHINE,SATELLITE ANTENNA,PUBLIC ADDRESS LOUDSPEAKER
 CHEERING MEGAPHONE,OUTBOX TRAY,INBOX TRAY,PACKAGE,E-MAILu,INCOMING ENVELOPE,ENVELOPEwDOWNWARDSae
1F4EA CLOSED MAILBOXw
 LOWERED FLAG,RAISED FLAG
1F4EC OPEN MAILBOXw
 RAISED FLAG,LOWERED FLAG
1F4EE
 POSTBOX,POSTAL HORN,NEWSPAPER,MOBILE PHONE,MOBILE PHONEwzaATx,VIBRATION MODE,MOBILE PHONE OFF
 NO MOBILE PHONES,ANTENNAwBARS,CAMERA,CAMERAwFLASH,VIDEO CAMERA,TELEVISION,RADIO,VIDEOCASSETTE
 FILM PROJECTOR,PORTABLE STEREO,PRAYER BEADS,TWISTEDzARROWS
1F501 CLOCKWISEznyOPEN CIRCLE
 ARROWS,ARROWSwCIRCLED ONE OVERLAY
1F503
 CLOCKWISE DOWNWARDSnUPWARDS OPEN CIRCLE ARROWS,ANTICLOCKWISE DOWNWARDSnUPWARDS OPEN CIRCLE ARROWS
 LOW BRIGHTNESSu,HIGH BRIGHTNESSu,SPEAKERwCANCELLATIONp,SPEAKER,SPEAKERwONE SOUND WAVE
 SPEAKERwtSOUND WAVES,BATTERY,ELECTRIC PLUG,LEFT-POINTING MAGNIFYING GLASS
 RIGHT-POINTING MAGNIFYING GLASS,LOCKwINK PEN,CLOSED LOCKwKEY,KEY,LOCK,OPEN LOCK,BELL
 BELLwCANCELLATIONp,BOOKMARK,LINKu,RADIO BUTTON,BACKwyae,ENDwyae,ONwEXCLAMATIONmwxrae,SOONwzae
 TOPwUPWARDSae,NO ONE UNDER EIGHTEENu,KEYCAP TEN
1F520 INPUTuFOR
 LATINcLETTERS,LATINsLETTERS,NUMBERS,SYMBOLS,LATIN LETTERS
1F525
 FIRE,ELECTRIC TORCH,WRENCH,HAMMER,NUTnBOLT,HOCHO,PISTOL,MICROSCOPE,TELESCOPE,CRYSTAL BALL
 SIX POINTED STARwMIDDLE DOT,JAPANESEuFOR BEGINNER,TRIDENT EMBLEM,kSQUARE BUTTON,hSQUARE BUTTON
1F534 LARGE
 RED CIRCLE,BLUE CIRCLE,ORANGE DIAMOND,BLUE DIAMOND
1F538
 sORANGE DIAMOND,sBLUE DIAMOND,UP-POINTING RED TRIANGLE,DOWN-POINTING RED TRIANGLE
 UP-POINTINGsRED TRIANGLE,DOWN-POINTINGsRED TRIANGLE,LOWERrSHADOWEDhCIRCLE,UPPERrSHADOWEDhCIRCLE
 CIRCLED CROSS POMMEE,CROSS POMMEEwHALF-CIRCLEb,CROSS POMMEE,NOTCHEDxSEMICIRCLEwtDOTS
 NOTCHEDrSEMICIRCLEwtDOTS,uFOR MARKS CHAPTER,hLATIN CROSS,HEAVY LATIN CROSS,CELTIC CROSS,OMu
 DOVE OF PEACE,KAABA,MOSQUE,SYNAGOGUE,MENORAHwNINE BRANCHES,BOWL OF HYGIEIA
1F550 CLOCK FACE
 ONE OCLOCK,TWO OCLOCK,tOCLOCK,FOUR OCLOCK,FIVE OCLOCK,SIX OCLOCK,SEVEN OCLOCK,EIGHT OCLOCK
 NINE OCLOCK,TEN OCLOCK,ELEVEN OCLOCK,TWELVE OCLOCK,ONE-THIRTY,TWO-THIRTY,THREE-THIRTY,FOUR-THIRTY
 FIVE-THIRTY,SIX-THIRTY,SEVEN-THIRTY,EIGHT-THIRTY,NINE-THIRTY,TEN-THIRTY,ELEVEN-THIRTY,TWELVE-THIRTY
1F568
 rSPEAKER,rSPEAKERwONE SOUND WAVE,rSPEAKERwtSOUND WAVES,BULLHORN,BULLHORNwSOUND WAVES,RINGING BELL
 BOOK,CANDLE,MANTELPIECE CLOCK,kSKULLnCROSSBONES,NO PIRACY,HOLE,MAN IN BUSINESS SUIT LEVITATING
 SLEUTH OR SPY,DARK SUNGLASSES,SPIDER,SPIDER WEB,JOYSTICK,MAN DANCING,xHAND TELEPHONE RECEIVER
 TELEPHONE RECEIVERwPAGE,rHAND TELEPHONE RECEIVER,hTOUCHTONE TELEPHONE,kTOUCHTONE TELEPHONE
 TELEPHONE ON TOP OF MODEM,CLAMSHELL MOBILE PHONE,BACK OF ENVELOPE,STAMPED ENVELOPE
 ENVELOPEwLIGHTNING,FLYING ENVELOPE,PEN OVER STAMPED ENVELOPE,LINKED PAPERCLIPS,kPUSHPIN
1F589 LOWERx
 PENCIL,BALLPOINT PEN,FOUNTAIN PEN,PAINTBRUSH,CRAYON
1F58E
 xWRITING HAND,TURNED OK HANDg,RAISED HANDwFINGERS SPLAYED
1F591 REVERSED
 RAISED HANDwFINGERS SPLAYED,THUMBS UPg,THUMBS DOWNg,VICTORY HAND,HANDwMIDDLE FINGER EXTENDED
1F596
 RAISED HANDwPART BETWEEN MIDDLEnRING FINGERS,hDOWN POINTINGxHAND INDEX
1F598 SIDEWAYS
 hxPOINTING INDEX,hrPOINTING INDEX,kxPOINTING INDEX,krPOINTING INDEX
1F59C k
 xPOINTING BACKHAND INDEX,rPOINTING BACKHAND INDEX
1F59E SIDEWAYS
 hUP POINTING INDEX,hDOWN POINTING INDEX,kUP POINTING INDEX,kDOWN POINTING INDEX
1F5A2
 kUP POINTING BACKHAND INDEX,kDOWN POINTING BACKHAND INDEX,kHEART,DESKTOP COMPUTER,KEYBOARDnMOUSE
 tNETWORKED COMPUTERS,PRINTER,POCKET CALCULATOR,kHARD SHELL FLOPPY DISK,hHARD SHELL FLOPPY DISK
 SOFT SHELL FLOPPY DISK,TAPE CARTRIDGE,WIRED KEYBOARD,ONE BUTTON MOUSE,TWO BUTTON MOUSE
 tBUTTON MOUSE,TRACKBALL,OLD PERSONAL COMPUTER,HARD DISK,SCREEN,PRINTER ICON,FAX ICON
 OPTICAL DISC ICON
1F5B9 DOCUMENTw
 TEXT,TEXTnPICTURE,PICTURE
1F5BC FRAMEw
 PICTURE,TILES,AN X
1F5BF
 kFOLDER,FOLDER,OPEN FOLDER,CARD INDEX DIVIDERS,CARD FILE BOX,FILE CABINET,EMPTY NOTE
 EMPTY NOTE PAGE,EMPTY NOTE PAD,NOTE,NOTE PAGE,NOTE PAD,EMPTY DOCUMENT,EMPTY PAGE,EMPTY PAGES
 DOCUMENT,PAGE,PAGES,WASTEBASKET,SPIRAL NOTE PAD,SPIRAL CALENDAR PAD,DESKTOP WINDOW,MINIMIZE
 MAXIMIZE,OVERLAP,CLOCKWISErnxSEMICIRCLE ARROWS,CANCELLATION X,INCREASE FONT SIZEu
 DECREASE FONT SIZEu,COMPRESSION,OLD KEY,ROLLED-UP NEWSPAPER,PAGEwCIRCLED TEXT,STOCK CHART
 DAGGER KNIFE,LIPS,SPEAKING HEAD IN SILHOUETTE
1F5E4 tRAYS
 e,b,x,r
1F5E8
 xSPEECH BUBBLE,rSPEECH BUBBLE,TWO SPEECH BUBBLES,tSPEECH BUBBLES,xTHOUGHT BUBBLE,rTHOUGHT BUBBLE
 xANGER BUBBLE,rANGER BUBBLE,MOOD BUBBLE
1F5F1 LIGHTNING
 MOOD BUBBLE,MOOD
1F5F3 BALLOT
 BOXwBALLOT,SCRIPT X,BOXwSCRIPT X,BOLD SCRIPT X,BOXwBOLD SCRIPT X
1F5F8
 LIGHT CHECKm,BALLOT BOXwBOLD CHECK,WORLD MAP,MOUNT FUJI,TOKYO TOWER,STATUE OF LIBERTY
 SILHOUETTE OF JAPAN,MOYAI,GRINNING FACE,GRINNING FACEwSMILING EYES,FACEwTEARS OF JOY
1F603 SMILING FACEw
 OPEN MOUTH,OPEN MOUTHnSMILING EYES,OPEN MOUTHnCOLD SWEAT,OPEN MOUTHnTIGHTLY-CLOSED EYES,HALO,HORNS
1F609
 WINKING FACE,SMILING FACEwSMILING EYES,FACE SAVOURING DELICIOUS FOOD,RELIEVED FACE
 SMILING FACEwHEART-SHAPED EYES,SMILING FACEwSUNGLASSES,SMIRKING FACE,NEUTRAL FACE
 EXPRESSIONLESS FACE,UNAMUSED FACE,FACEwCOLD SWEAT,PENSIVE FACE,CONFUSED FACE,CONFOUNDED FACE
 KISSING FACE,FACE THROWING A KISS
1F619 KISSING FACEw
 SMILING EYES,CLOSED EYES
1F61B FACEwSTUCK-OUT
 TONGUE,TONGUEnWINKING EYE,TONGUEnTIGHTLY-CLOSED EYES
1F61E
 DISAPPOINTED FACE,WORRIED FACE,ANGRY FACE,POUTING FACE,CRYING FACE,PERSEVERING FACE
 FACEwLOOK OF TRIUMPH,DISAPPOINTED BUT RELIEVED FACE,FROWNING FACEwOPEN MOUTH,ANGUISHED FACE
 FEARFUL FACE,WEARY FACE,SLEEPY FACE,TIRED FACE,GRIMACING FACE,LOUDLY CRYING FACE,FACEwOPEN MOUTH
 HUSHED FACE,FACEwOPEN MOUTHnCOLD SWEAT,FACE SCREAMING IN FEAR,ASTONISHED FACE,FLUSHED FACE
 SLEEPING FACE,DIZZY FACE,FACE WITHOUT MOUTH,FACEwMEDICAL MASK,GRINNING CAT FACEwSMILING EYES
 CAT FACEwTEARS OF JOY
1F63A SMILING CAT FACEw
 OPEN MOUTH,HEART-SHAPED EYES
1F63C
 CAT FACEwWRY SMILE,KISSING CAT FACEwCLOSED EYES,POUTING CAT FACE,CRYING CAT FACE,WEARY CAT FACE
 SLIGHTLY FROWNING FACE,SLIGHTLY SMILING FACE,UPSIDE-DOWN FACE,FACEwROLLING EYES
 FACEwNO GOOD GESTURE,FACEwOK GESTURE,PERSON BOWING DEEPLY,SEE-NO-EVIL MONKEY,HEAR-NO-EVIL MONKEY
 SPEAK-NO-EVIL MONKEY,HAPPY PERSON RAISING ONE HAND
1F64C PERSON
 RAISING BOTH HANDS IN CELEBRATION,FROWNING,wPOUTING FACE,wFOLDED HANDS
1F650
 NORTH WEST POINTING LEAF,SOUTH WEST POINTING LEAF,NORTH EAST POINTING LEAF,SOUTH EAST POINTING LEAF
1F654 TURNED
 NORTH WEST POINTING LEAF,SOUTH WEST POINTING LEAF,NORTH EAST POINTING LEAF,SOUTH EAST POINTING LEAF
1F658
 NORTH WEST POINTING VINE LEAF,SOUTH WEST POINTING VINE LEAF,NORTH EAST POINTING VINE LEAF
 SOUTH EAST POINTING VINE LEAF
1F65C HEAVY
 NORTH WEST POINTING VINE LEAF,SOUTH WEST POINTING VINE LEAF,NORTH EAST POINTING VINE LEAF
 SOUTH EAST POINTING VINE LEAF
1F660
 NORTH WEST POINTING BUD,SOUTH WEST POINTING BUD,NORTH EAST POINTING BUD,SOUTH EAST POINTING BUD
1F664 HEAVY
 NORTH WEST POINTING BUD,SOUTH WEST POINTING BUD,NORTH EAST POINTING BUD,SOUTH EAST POINTING BUD
1F668 HOLLOW QUILT SQUARE
 ORNAMENT,ORNAMENT INkSQUARE
1F66A SOLID QUILT SQUARE
 ORNAMENT,ORNAMENT INkSQUARE
1F66C
 yROCKET,UPWARDS ROCKET,zROCKET,DOWNWARDS ROCKET,SCRIPT LIGATURE ET ORNAMENT
 HEAVY SCRIPT LIGATURE ET ORNAMENT,LIGATURE OPEN ET ORNAMENT,HEAVY LIGATURE OPEN ET ORNAMENT
 HEAVY AMPERSAND ORNAMENT,SWASH AMPERSAND ORNAMENT
1F676 SANS-SERIF HEAVY
 dTURNED COMMA QUOTATIONmORNAMENT,dCOMMA QUOTATIONmORNAMENT,LOWdCOMMA QUOTATIONmORNAMENT
1F679
 HEAVY INTERROBANG ORNAMENT,SANS-SERIF INTERROBANG ORNAMENT,HEAVY SANS-SERIF INTERROBANG ORNAMENT
 VERY HEAVY SOLIDUS,VERY HEAVY REVERSE SOLIDUS,CHECKER BOARD,REVERSE CHECKER BOARD,ROCKET,HELICOPTER
 STEAM LOCOMOTIVE,RAILWAY CAR,HIGH-SPEED TRAIN,HIGH-SPEED TRAINwBULLET NOSE,TRAIN,METRO,LIGHT RAIL
 STATION,TRAM,TRAM CAR,BUS,ONCOMING BUS,TROLLEYBUS,BUS STOP,MINIBUS,AMBULANCE,FIRE ENGINE,POLICE CAR
 ONCOMING POLICE CAR,TAXI,ONCOMING TAXI,AUTOMOBILE,ONCOMING AUTOMOBILE,RECREATIONAL VEHICLE
 DELIVERY TRUCK,ARTICULATED LORRY,TRACTOR,MONORAIL,MOUNTAIN RAILWAY,SUSPENSION RAILWAY
 MOUNTAIN CABLEWAY,AERIAL TRAMWAY,SHIP,ROWBOAT,SPEEDBOAT,HORIZONTAL TRAFFIC LIGHT,vTRAFFIC LIGHT
 CONSTRUCTIONg,POLICE CARS REVOLVING LIGHT,TRIANGULAR FLAG ON POST,DOOR,NO ENTRYg,SMOKINGu
 NO SMOKINGu,PUT LITTER IN ITS PLACEu,DO NOT LITTERu,POTABLE WATERu,NON-POTABLE WATERu,BICYCLE
 NO BICYCLES,BICYCLIST,MOUNTAIN BICYCLIST,PEDESTRIAN,NO PEDESTRIANS,CHILDREN CROSSING,MENSu,WOMENSu
 RESTROOM,BABYu,TOILET,WATER CLOSET,SHOWER,BATH,BATHTUB,PASSPORT CONTROL,CUSTOMS,BAGGAGE CLAIM
 xLUGGAGE,TRIANGLEwROUNDED CORNERS,PROHIBITEDg,CIRCLED INFORMATION SOURCE,BOYSu,GIRLSu,COUCHnLAMP
 SLEEPING ACCOMMODATION,SHOPPING BAGS,BELLHOP BELL,BED,PLACE OF WORSHIP,OCTAGONALg,SHOPPING TROLLEY
 STUPA,PAGODA,HINDU TEMPLE,HUT,ELEVATOR,,,,,,PLAYGROUND SLIDE,WHEEL,RING BUOY,HAMMERnWRENCH,SHIELD
 OIL DRUM,MOTORWAY,RAILWAY TRACK,MOTOR BOAT
1F6E6 UP-POINTING
 MILITARY AIRPLANE,AIRPLANE,sAIRPLANE
1F6E9
 sAIRPLANE,NORTHEAST-POINTING AIRPLANE,AIRPLANE DEPARTURE,AIRPLANE ARRIVING,,,,SATELLITE
 ONCOMING FIRE ENGINE,DIESEL LOCOMOTIVE,PASSENGER SHIP,SCOOTER,MOTOR SCOOTER,CANOE,SLED
 FLYING SAUCER,SKATEBOARD,AUTO RICKSHAW,PICKUP TRUCK,ROLLER SKATE
1F700 ALCHEMICALuFOR
 QUINTESSENCE,AIR,FIRE,EARTH,WATER,AQUAFORTIS,AQUA REGIA,AQUA REGIA-2,AQUA VITAE,AQUA VITAE-2
 VINEGAR,VINEGAR-2,VINEGAR-3,SULFUR,PHILOSOPHERS SULFUR,kSULFUR,MERCURY SUBLIMATE
 MERCURY SUBLIMATE-2,MERCURY SUBLIMATE-3,CINNABAR,SALT,NITRE,VITRIOL,VITRIOL-2,ROCK SALT,ROCK SALT-2
 GOLD,SILVER,IRON ORE,IRON ORE-2,CROCUS OF IRON,REGULUS OF IRON,COPPER ORE,IRON-COPPER ORE
 SUBLIMATE OF COPPER,CROCUS OF COPPER,CROCUS OF COPPER-2,COPPER ANTIMONIATE
 SALT OF COPPER ANTIMONIATE,SUBLIMATE OF SALT OF COPPER,VERDIGRIS,TIN ORE,LEAD ORE,ANTIMONY ORE
 SUBLIMATE OF ANTIMONY,SALT OF ANTIMONY,SUBLIMATE OF SALT OF ANTIMONY,VINEGAR OF ANTIMONY
 REGULUS OF ANTIMONY,REGULUS OF ANTIMONY-2,REGULUS,REGULUS-2~4,ALKALI,ALKALI-2,MARCASITE
 SAL-AMMONIAC,ARSENIC,REALGAR,REALGAR-2,AURIPIGMENT,BISMUTH ORE,TARTAR,TARTAR-2,QUICK LIME,BORAX
 BORAX-2,BORAX-3,ALUM,OIL,SPIRIT,TINCTURE,GUM,WAX,POWDER,CALX,TUTTY,CAPUT MORTUUM,SCEPTER OF JOVE
 CADUCEUS,TRIDENT,STARRED TRIDENT,LODESTONE,SOAP,URINE,HORSE DUNG,ASHES,POT ASHES,BRICK
 POWDERED BRICK,AMALGAM,STRATUM SUPER STRATUM,STRATUM SUPER STRATUM-2,SUBLIMATION,PRECIPITATE
 DISTILL,DISSOLVE,DISSOLVE-2,PURIFY,PUTREFACTION,CRUCIBLE,CRUCIBLE-2~5,ALEMBIC,BATH OF MARY
 BATH OF VAPOURS,RETORT,HOUR,NIGHT,DAY-NIGHT,MONTH,HALF DRAM,HALF OUNCE
1F780
 kLEFT-POINTING ISOSCELESrTRIANGLE,kUP-POINTING ISOSCELESrTRIANGLE
 kRIGHT-POINTING ISOSCELESrTRIANGLE,kDOWN-POINTING ISOSCELESrTRIANGLE,kSLIGHTLYsCIRCLE
 MEDIUM BOLDhCIRCLE,BOLDhCIRCLE,HEAVYhCIRCLE,VERY HEAVYhCIRCLE,EXTREMELY HEAVYhCIRCLE
 hCIRCLE CONTAININGksCIRCLE,ROUND TARGET,kTINY SQUARE,kSLIGHTLYsSQUARE,LIGHThSQUARE,MEDIUMhSQUARE
 BOLDhSQUARE,HEAVYhSQUARE,VERY HEAVYhSQUARE,EXTREMELY HEAVYhSQUARE
1F794 hSQUARE CONTAININGk
 VERYsSQUARE,MEDIUM SQUARE
1F796
 SQUARE TARGET,kTINY DIAMOND,kVERYsDIAMOND,kMEDIUMsDIAMOND
1F79A hDIAMOND CONTAININGk
 VERYsDIAMOND,MEDIUM DIAMOND
1F79C
 DIAMOND TARGET,kTINY LOZENGE,kVERYsLOZENGE,kMEDIUMsLOZENGE,hLOZENGE CONTAININGksLOZENGE
 THIN GREEK CROSS,LIGHT GREEK CROSS,MEDIUM GREEK CROSS,BOLD GREEK CROSS,VERY BOLD GREEK CROSS
 VERY HEAVY GREEK CROSS,EXTREMELY HEAVY GREEK CROSS,THIN SALTIRE,LIGHT SALTIRE,MEDIUM SALTIRE
 BOLD SALTIRE,HEAVY SALTIRE,VERY HEAVY SALTIRE,EXTREMELY HEAVY SALTIRE,LIGHT FIVE SPOKED ASTERISK
 MEDIUM FIVE SPOKED ASTERISK,BOLD FIVE SPOKED ASTERISK,HEAVY FIVE SPOKED ASTERISK
 VERY HEAVY FIVE SPOKED ASTERISK,EXTREMELY HEAVY FIVE SPOKED ASTERISK,LIGHT SIX SPOKED ASTERISK
 MEDIUM SIX SPOKED ASTERISK,BOLD SIX SPOKED ASTERISK,HEAVY SIX SPOKED ASTERISK
 VERY HEAVY SIX SPOKED ASTERISK,EXTREMELY HEAVY SIX SPOKED ASTERISK,LIGHT EIGHT SPOKED ASTERISK
 MEDIUM EIGHT SPOKED ASTERISK,BOLD EIGHT SPOKED ASTERISK,HEAVY EIGHT SPOKED ASTERISK
 VERY HEAVY EIGHT SPOKED ASTERISK,LIGHTtPOINTEDkSTAR,MEDIUMtPOINTEDkSTAR,tPOINTEDkSTAR
 MEDIUMtPOINTED PINWHEEL STAR,LIGHT FOUR POINTEDkSTAR,MEDIUM FOUR POINTEDkSTAR,FOUR POINTEDkSTAR
 MEDIUM FOUR POINTED PINWHEEL STAR,REVERSE LIGHT FOUR POINTED PINWHEEL STAR,LIGHT FIVE POINTEDkSTAR
 HEAVY FIVE POINTEDkSTAR,MEDIUM SIX POINTEDkSTAR,HEAVY SIX POINTEDkSTAR,SIX POINTED PINWHEEL STAR
 MEDIUM EIGHT POINTEDkSTAR,HEAVY EIGHT POINTEDkSTAR,VERY HEAVY EIGHT POINTEDkSTAR
 HEAVY EIGHT POINTED PINWHEEL STAR,LIGHT TWELVE POINTEDkSTAR
1F7D3 HEAVY TWELVE POINTED
 kSTAR,PINWHEEL STAR
1F7D5
 CIRCLED TRIANGLE,NEGATIVE CIRCLED TRIANGLE,CIRCLED SQUARE,NEGATIVE CIRCLED SQUARE
1F7E0 LARGE
 ORANGE CIRCLE,YELLOW CIRCLE,GREEN CIRCLE,PURPLE CIRCLE,BROWN CIRCLE,RED SQUARE,BLUE SQUARE
 ORANGE SQUARE,YELLOW SQUARE,GREEN SQUARE,PURPLE SQUARE,BROWN SQUARE
1F7F0 HEAVY
 EQUALSg
1F800
 yawsTRIANGLE ARROWHEAD,UPWARDSawsTRIANGLE ARROWHEAD,zawsTRIANGLE ARROWHEAD
 DOWNWARDSawsTRIANGLE ARROWHEAD,yawMEDIUM TRIANGLE ARROWHEAD,UPWARDSawMEDIUM TRIANGLE ARROWHEAD
 zawMEDIUM TRIANGLE ARROWHEAD,DOWNWARDSawMEDIUM TRIANGLE ARROWHEAD,yawLARGE TRIANGLE ARROWHEAD
 UPWARDSawLARGE TRIANGLE ARROWHEAD,zawLARGE TRIANGLE ARROWHEAD,DOWNWARDSawLARGE TRIANGLE ARROWHEAD,,
 ,,yawsEQUILATERAL ARROWHEAD,UPWARDSawsEQUILATERAL ARROWHEAD,zawsEQUILATERAL ARROWHEAD
 DOWNWARDSawsEQUILATERAL ARROWHEAD,yawEQUILATERAL ARROWHEAD,UPWARDSawEQUILATERAL ARROWHEAD
 zawEQUILATERAL ARROWHEAD,DOWNWARDSawEQUILATERAL ARROWHEAD
1F818 HEAVY
 yawEQUILATERAL ARROWHEAD,UPWARDSawEQUILATERAL ARROWHEAD,zawEQUILATERAL ARROWHEAD
 DOWNWARDSawEQUILATERAL ARROWHEAD,yawLARGE EQUILATERAL ARROWHEAD
 UPWARDSawLARGE EQUILATERAL ARROWHEAD,zawLARGE EQUILATERAL ARROWHEAD
 DOWNWARDSawLARGE EQUILATERAL ARROWHEAD
1F820
 yTRIANGLE-HEADEDawNARROW SHAFT,UPWARDS TRIANGLE-HEADEDawNARROW SHAFT,zTRIANGLE-HEADEDawNARROW SHAFT
 DOWNWARDS TRIANGLE-HEADEDawNARROW SHAFT,yTRIANGLE-HEADEDawMEDIUM SHAFT
 UPWARDS TRIANGLE-HEADEDawMEDIUM SHAFT,zTRIANGLE-HEADEDawMEDIUM SHAFT
 DOWNWARDS TRIANGLE-HEADEDawMEDIUM SHAFT,yTRIANGLE-HEADEDawBOLD SHAFT
 UPWARDS TRIANGLE-HEADEDawBOLD SHAFT,zTRIANGLE-HEADEDawBOLD SHAFT
 DOWNWARDS TRIANGLE-HEADEDawBOLD SHAFT,yTRIANGLE-HEADEDawHEAVY SHAFT
 UPWARDS TRIANGLE-HEADEDawHEAVY SHAFT,zTRIANGLE-HEADEDawHEAVY SHAFT
 DOWNWARDS TRIANGLE-HEADEDawHEAVY SHAFT,yTRIANGLE-HEADEDawVERY HEAVY SHAFT
 UPWARDS TRIANGLE-HEADEDawVERY HEAVY SHAFT,zTRIANGLE-HEADEDawVERY HEAVY SHAFT
 DOWNWARDS TRIANGLE-HEADEDawVERY HEAVY SHAFT,yFINGER-POSTa,UPWARDS FINGER-POSTa,zFINGER-POSTa
 DOWNWARDS FINGER-POSTa,ySQUAREDa,UPWARDS SQUAREDa,zSQUAREDa,DOWNWARDS SQUAREDa,yCOMPRESSEDa
 UPWARDS COMPRESSEDa,zCOMPRESSEDa,DOWNWARDS COMPRESSEDa,yHEAVY COMPRESSEDa,UPWARDS HEAVY COMPRESSEDa
 zHEAVY COMPRESSEDa,DOWNWARDS HEAVY COMPRESSEDa,yHEAVYa,UPWARDS HEAVYa,zHEAVYa,DOWNWARDS HEAVYa
1F850
 ySANS-SERIFa,UPWARDS SANS-SERIFa,zSANS-SERIFa,DOWNWARDS SANS-SERIFa,NORTH WEST SANS-SERIFa
 NORTH EAST SANS-SERIFa,SOUTH EAST SANS-SERIFa,SOUTH WEST SANS-SERIFa,xrSANS-SERIFa
 UP DOWN SANS-SERIFa
1F860 WIDE-HEADED
 yLIGHT BARBa,UPWARDS LIGHT BARBa,zLIGHT BARBa,DOWNWARDS LIGHT BARBa,NORTH WEST LIGHT BARBa
 NORTH EAST LIGHT BARBa,SOUTH EAST LIGHT BARBa,SOUTH WEST LIGHT BARBa,yBARBa,UPWARDS BARBa,zBARBa
 DOWNWARDS BARBa,NORTH WEST BARBa,NORTH EAST BARBa,SOUTH EAST BARBa,SOUTH WEST BARBa,yMEDIUM BARBa
 UPWARDS MEDIUM BARBa,zMEDIUM BARBa,DOWNWARDS MEDIUM BARBa,NORTH WEST MEDIUM BARBa
 NORTH EAST MEDIUM BARBa,SOUTH EAST MEDIUM BARBa,SOUTH WEST MEDIUM BARBa,yHEAVY BARBa
 UPWARDS HEAVY BARBa,zHEAVY BARBa,DOWNWARDS HEAVY BARBa,NORTH WEST HEAVY BARBa
 NORTH EAST HEAVY BARBa,SOUTH EAST HEAVY BARBa,SOUTH WEST HEAVY BARBa,yVERY HEAVY BARBa
 UPWARDS VERY HEAVY BARBa,zVERY HEAVY BARBa,DOWNWARDS VERY HEAVY BARBa,NORTH WEST VERY HEAVY BARBa
 NORTH EAST VERY HEAVY BARBa,SOUTH EAST VERY HEAVY BARBa,SOUTH WEST VERY HEAVY BARBa
1F890
 yTRIANGLE ARROWHEAD,UPWARDS TRIANGLE ARROWHEAD,zTRIANGLE ARROWHEAD,DOWNWARDS TRIANGLE ARROWHEAD
 yhaWITHIN TRIANGLE ARROWHEAD,UPWARDShaWITHIN TRIANGLE ARROWHEAD,zhaWITHIN TRIANGLE ARROWHEAD
 DOWNWARDShaWITHIN TRIANGLE ARROWHEAD,yawNOTCHED TAIL,UPWARDSawNOTCHED TAIL,zawNOTCHED TAIL
 DOWNWARDSawNOTCHED TAIL
1F89C HEAVYaSHAFT WIDTH
 ONE,TWO THIRDS,ONE HALF,ONE THIRD
1F8A0
 yBOTTOM-SHADEDha,zBOTTOM SHADEDha,yTOP SHADEDha,zTOP SHADEDha,yLEFT-SHADEDha,zRIGHT-SHADEDha
 yRIGHT-SHADEDha,zLEFT-SHADEDha,yBACK-TILTED SHADOWEDha,zBACK-TILTED SHADOWEDha
 yFRONT-TILTED SHADOWEDha,zFRONT-TILTED SHADOWEDha
1F8AC haSHAFT WIDTH
 ONE,TWO THIRDS
1F8B0 aPOINTING
 UPWARDS THEN NORTH WEST,zTHEN CURVING SOUTH WEST
1F900 CIRCLED CROSS
 FORMEEwFOUR DOTS,FORMEEwTWO DOTS,FORMEE
1F903 xHALF CIRCLEw
 FOUR DOTS,tDOTS,TWO DOTS,DOT
1F907 xHALF
 CIRCLE
1F908 DOWNWARD FACING
 HOOK,NOTCHED HOOK,HOOKwDOT,NOTCHED HOOKwDOT
1F90C
 PINCHED FINGERS,hHEART,BROWN HEART,PINCHING HAND,ZIPPER-MOUTH FACE,MONEY-MOUTH FACE
 FACEwTHERMOMETER,NERD FACE,THINKING FACE,FACEwHEAD-BANDAGE,ROBOT FACE,HUGGING FACE,gOF THE HORNS
 CALL ME HAND,RAISED BACK OF HAND,LEFT-FACING FIST,RIGHT-FACING FIST,HANDSHAKE
 HANDwINDEXnMIDDLE FINGERS CROSSED,I LOVE YOU HANDg,FACEwCOWBOY HAT,CLOWN FACE,NAUSEATED FACE
 ROLLING ON THE FLOOR LAUGHING,DROOLING FACE,LYING FACE,FACE PALM,SNEEZING FACE
 FACEwONE EYEBROW RAISED,GRINNING FACEwSTAR EYES,GRINNING FACEwONE LARGEnONEsEYE
 FACEwFINGER COVERING CLOSED LIPS,SERIOUS FACEwSYMBOLS COVERING MOUTH
 SMILING FACEwSMILING EYESnHAND COVERING MOUTH,FACEwOPEN MOUTH VOMITING,SHOCKED FACEwEXPLODING HEAD
 PREGNANT WOMAN,BREAST-FEEDING,PALMS UP TOGETHER,SELFIE,PRINCE,MAN IN TUXEDO,MOTHER CHRISTMAS,SHRUG
 PERSON DOING CARTWHEEL,JUGGLING,FENCER,MODERN PENTATHLON,WRESTLERS,WATER POLO,HANDBALL,DIVING MASK
 WILTED FLOWER,DRUMwDRUMSTICKS,CLINKING GLASSES,TUMBLER GLASS,SPOON,GOAL NET,RIFLE,FIRST PLACE MEDAL
 SECOND PLACE MEDAL,THIRD PLACE MEDAL,BOXING GLOVE,MARTIAL ARTS UNIFORM,CURLING STONE
 LACROSSE STICKnBALL,SOFTBALL,FLYING DISC,CROISSANT,AVOCADO,CUCUMBER,BACON,POTATO,CARROT
 BAGUETTE BREAD,GREEN SALAD,SHALLOW PAN OF FOOD,STUFFED FLATBREAD,EGG,GLASS OF MILK,PEANUTS
 KIWIFRUIT,PANCAKES,DUMPLING,FORTUNE COOKIE,TAKEOUT BOX,CHOPSTICKS,BOWLwSPOON,CUPwSTRAW,COCONUT
 BROCCOLI,PIE,PRETZEL,CUT OF MEAT,SANDWICH,CANNED FOOD,LEAFY GREEN,MANGO,MOON CAKE,BAGEL
 SMILING FACEwSMILING EYESntHEARTS,YAWNING FACE,SMILING FACEwTEAR,FACEwPARTY HORNnPARTY HAT
 FACEwUNEVEN EYESnWAVY MOUTH,OVERHEATED FACE,FREEZING FACE,NINJA,DISGUISED FACE
 FACE HOLDING BACK TEARS,FACEwPLEADING EYES,SARI,LAB COAT,GOGGLES,HIKING BOOT,FLAT SHOE,CRAB
 LION FACE,SCORPION,TURKEY,UNICORN FACE,EAGLE,DUCK,BAT,SHARK,OWL,FOX FACE,BUTTERFLY,DEER,GORILLA
 LIZARD,RHINOCEROS,SHRIMP,SQUID,GIRAFFE FACE,ZEBRA FACE,HEDGEHOG,SAUROPOD,T-REX,CRICKET,KANGAROO
 LLAMA,PEACOCK,HIPPOPOTAMUS,PARROT,RACCOON,LOBSTER,MOSQUITO,MICROBE,BADGER,SWAN,MAMMOTH,DODO,SLOTH
 OTTER,ORANGUTAN,SKUNK,FLAMINGO,OYSTER,BEAVER,BISON,SEAL,GUIDE DOG,PROBING CANE
1F9B0 EMOJI COMPONENT
 RED HAIR,CURLY HAIR,BALD,hHAIR
1F9B4
 BONE,LEG,FOOT,TOOTH,SUPERHERO,SUPERVILLAIN,SAFETY VEST,EARwHEARING AID,MOTORIZED WHEELCHAIR
 MANUAL WHEELCHAIR,MECHANICAL ARM,MECHANICAL LEG,CHEESE WEDGE,CUPCAKE,SALT SHAKER,BEVERAGE BOX
 GARLIC,ONION,FALAFEL,WAFFLE,BUTTER,MATE DRINK,ICE CUBE,BUBBLE TEA,TROLL,STANDING PERSON
 KNEELING PERSON,DEAF PERSON,FACEwMONOCLE,ADULT,CHILD,OLDER ADULT,BEARDED PERSON
1F9D5 PERSON
 wHEADSCARF,IN STEAMY ROOM,CLIMBING,IN LOTUS POSITION
1F9D9
 MAGE,FAIRY,VAMPIRE,MERPERSON,ELF,GENIE,ZOMBIE,BRAIN,ORANGE HEART,BILLED CAP,SCARF,GLOVES,COAT,SOCKS
 RED GIFT ENVELOPE,FIRECRACKER,JIGSAW PUZZLE PIECE,TEST TUBE,PETRI DISH,DNAdHELIX,COMPASS,ABACUS
 FIRE EXTINGUISHER,TOOLBOX,BRICK,MAGNET,LUGGAGE,LOTION BOTTLE,SPOOL OF THREAD,BALL OF YARN
 SAFETY PIN,TEDDY BEAR,BROOM,BASKET,ROLL OF PAPER,BAR OF SOAP,SPONGE,RECEIPT,NAZAR AMULET
1FA00 NEUTRAL CHESS
 KING,QUEEN,ROOK,BISHOP,KNIGHT,PAWN
1FA06
 hCHESS KNIGHT ROTATED FORTY-FIVE DEGREES,kCHESS KNIGHT ROTATED FORTY-FIVE DEGREES
 NEUTRAL CHESS KNIGHT ROTATED FORTY-FIVE DEGREES
1FA09 hCHESS
 KING ROTATED NINETY DEGREES,QUEEN ROTATED NINETY DEGREES,ROOK ROTATED NINETY DEGREES
 BISHOP ROTATED NINETY DEGREES,KNIGHT ROTATED NINETY DEGREES,PAWN ROTATED NINETY DEGREES
1FA0F kCHESS
 KING ROTATED NINETY DEGREES,QUEEN ROTATED NINETY DEGREES,ROOK ROTATED NINETY DEGREES
 BISHOP ROTATED NINETY DEGREES,KNIGHT ROTATED NINETY DEGREES,PAWN ROTATED NINETY DEGREES
1FA15 NEUTRAL CHESS
 KING ROTATED NINETY DEGREES,QUEEN ROTATED NINETY DEGREES,ROOK ROTATED NINETY DEGREES
 BISHOP ROTATED NINETY DEGREES,KNIGHT ROTATED NINETY DEGREES,PAWN ROTATED NINETY DEGREES
1FA1B
 hCHESS KNIGHT ROTATED ONE HUNDRED THIRTY-FIVE DEGREES
 kCHESS KNIGHT ROTATED ONE HUNDRED THIRTY-FIVE DEGREES
 NEUTRAL CHESS KNIGHT ROTATED ONE HUNDRED THIRTY-FIVE DEGREES
1FA1E hCHESS TURNED
 KING,QUEEN,ROOK,BISHOP,KNIGHT,PAWN
1FA24 kCHESS TURNED
 KING,QUEEN,ROOK,BISHOP,KNIGHT,PAWN
1FA2A NEUTRAL CHESS TURNED
 KING,QUEEN,ROOK,BISHOP,KNIGHT,PAWN
1FA30
 hCHESS KNIGHT ROTATED TWO HUNDRED TWENTY-FIVE DEGREES
 kCHESS KNIGHT ROTATED TWO HUNDRED TWENTY-FIVE DEGREES
 NEUTRAL CHESS KNIGHT ROTATED TWO HUNDRED TWENTY-FIVE DEGREES
1FA33 hCHESS
 KING ROTATED TWO HUNDRED SEVENTY DEGREES,QUEEN ROTATED TWO HUNDRED SEVENTY DEGREES
 ROOK ROTATED TWO HUNDRED SEVENTY DEGREES,BISHOP ROTATED TWO HUNDRED SEVENTY DEGREES
 KNIGHT ROTATED TWO HUNDRED SEVENTY DEGREES,PAWN ROTATED TWO HUNDRED SEVENTY DEGREES
1FA39 kCHESS
 KING ROTATED TWO HUNDRED SEVENTY DEGREES,QUEEN ROTATED TWO HUNDRED SEVENTY DEGREES
 ROOK ROTATED TWO HUNDRED SEVENTY DEGREES,BISHOP ROTATED TWO HUNDRED SEVENTY DEGREES
 KNIGHT ROTATED TWO HUNDRED SEVENTY DEGREES,PAWN ROTATED TWO HUNDRED SEVENTY DEGREES
1FA3F NEUTRAL CHESS
 KING ROTATED TWO HUNDRED SEVENTY DEGREES,QUEEN ROTATED TWO HUNDRED SEVENTY DEGREES
 ROOK ROTATED TWO HUNDRED SEVENTY DEGREES,BISHOP ROTATED TWO HUNDRED SEVENTY DEGREES
 KNIGHT ROTATED TWO HUNDRED SEVENTY DEGREES,PAWN ROTATED TWO HUNDRED SEVENTY DEGREES
1FA45
 hCHESS KNIGHT ROTATEDtHUNDRED FIFTEEN DEGREES,kCHESS KNIGHT ROTATEDtHUNDRED FIFTEEN DEGREES
 NEUTRAL CHESS KNIGHT ROTATEDtHUNDRED FIFTEEN DEGREES,hCHESS EQUIHOPPER,kCHESS EQUIHOPPER
 NEUTRAL CHESS EQUIHOPPER,hCHESS EQUIHOPPER ROTATED NINETY DEGREES
 kCHESS EQUIHOPPER ROTATED NINETY DEGREES,NEUTRAL CHESS EQUIHOPPER ROTATED NINETY DEGREES
1FA4E hCHESS
 KNIGHT-QUEEN,KNIGHT-ROOK,KNIGHT-BISHOP
1FA51 kCHESS
 KNIGHT-QUEEN,KNIGHT-ROOK,KNIGHT-BISHOP
1FA60 XIANGQI RED
 GENERAL,MANDARIN,ELEPHANT,HORSE,CHARIOT,CANNON,SOLDIER
1FA67 XIANGQIk
 GENERAL,MANDARIN,ELEPHANT,HORSE,CHARIOT,CANNON,SOLDIER
1FA70
 BALLET SHOES,ONE-PIECE SWIMSUIT,BRIEFS,SHORTS,THONG SANDAL,,,,DROP OF BLOOD,ADHESIVE BANDAGE
 STETHOSCOPE,X-RAY,CRUTCH,,,,YO-YO,KITE,PARACHUTE,BOOMERANG,MAGIC WAND,PINATA,NESTING DOLLS
1FA90
 RINGED PLANET,CHAIR,RAZOR,AXE,DIYA LAMP,BANJO,MILITARY HELMET,ACCORDION,LONG DRUM,COIN
 CARPENTRY SAW,SCREWDRIVER,LADDER,HOOK,MIRROR,WINDOW,PLUNGER,SEWING NEEDLE,KNOT,BUCKET,MOUSE TRAP
 TOOTHBRUSH,HEADSTONE,PLACARD,ROCK,MIRROR BALL,IDENTIFICATION CARD,LOW BATTERY,HAMSA,,,,FLY,WORM
 BEETLE,COCKROACH,POTTED PLANT,WOOD,FEATHER,LOTUS,CORAL,EMPTY NEST,NESTwEGGS,,,,,,ANATOMICAL HEART
 LUNGS,PEOPLE HUGGING,PREGNANT MAN,PREGNANT PERSON,PERSONwCROWN
1FAD0
 BLUEBERRIES,BELL PEPPER,OLIVE,FLATBREAD,TAMALE,FONDUE,TEAPOT,POURING LIQUID,BEANS,JAR,,,,,,
 MELTING FACE,SALUTING FACE,FACEwOPEN EYESnHAND OVER MOUTH,FACEwPEEKING EYE,FACEwDIAGONAL MOUTH
 DOTTED LINE FACE,BITING LIP,BUBBLES
1FAF0
 HANDwINDEX FINGERnTHUMB CROSSED,zHAND,yHAND,PALM DOWN HAND,PALM UP HAND
 INDEX POINTING AT THE VIEWER,HEART HANDS
1FB00 BLOCK
 SEXTANT-1,SEXTANT-2,SEXTANT-12,SEXTANT-3,SEXTANT-13,SEXTANT-23,SEXTANT-123,SEXTANT-4,SEXTANT-14
 SEXTANT-24,SEXTANT-124,SEXTANT-34,SEXTANT-134,SEXTANT-234,SEXTANT-1234,SEXTANT-5,SEXTANT-15
 SEXTANT-25,SEXTANT-125,SEXTANT-35,SEXTANT-235,SEXTANT-1235,SEXTANT-45,SEXTANT-145,SEXTANT-245
 SEXTANT-1245,SEXTANT-345,SEXTANT-1345,SEXTANT-2345,SEXTANT-12345,SEXTANT-6,SEXTANT-16,SEXTANT-26
 SEXTANT-126,SEXTANT-36,SEXTANT-136,SEXTANT-236,SEXTANT-1236,SEXTANT-46,SEXTANT-146,SEXTANT-1246
 SEXTANT-346,SEXTANT-1346,SEXTANT-2346,SEXTANT-12346,SEXTANT-56,SEXTANT-156,SEXTANT-256,SEXTANT-1256
 SEXTANT-356,SEXTANT-1356,SEXTANT-2356,SEXTANT-12356,SEXTANT-456,SEXTANT-1456,SEXTANT-2456
 SEXTANT-12456,SEXTANT-3456,SEXTANT-13456,SEXTANT-23456
1FB3C LOWERxBLOCK DIAGONAL LOWER MIDDLExTO LOWER
 CENTRE,r
1FB3E LOWERxBLOCK DIAGONAL UPPER
 MIDDLExTO LOWER CENTRE,MIDDLExTO LOWERr,xTO LOWER CENTRE
1FB41 LOWERrBLOCK DIAGONAL UPPER MIDDLExTO UPPER
 CENTRE,r
1FB43 LOWERrBLOCK DIAGONAL LOWER
 MIDDLExTO UPPER CENTRE,MIDDLExTO UPPERr,xTO UPPER CENTRE,MIDDLExTO UPPER MIDDLEr
 CENTRE TO LOWER MIDDLEr,xTO LOWER MIDDLEr,CENTRE TO UPPER MIDDLEr,xTO UPPER MIDDLEr
 CENTRE TO UPPERr
1FB4C LOWERxBLOCK DIAGONAL UPPER
 CENTRE TO UPPER MIDDLEr,xTO UPPER MIDDLEr,CENTRE TO LOWER MIDDLEr,xTO LOWER MIDDLEr
 CENTRE TO LOWERr,MIDDLExTO LOWER MIDDLEr
1FB52 UPPERrBLOCK DIAGONAL LOWER MIDDLExTO LOWER
 CENTRE,r
1FB54 UPPERrBLOCK DIAGONAL UPPER
 MIDDLExTO LOWER CENTRE,MIDDLExTO LOWERr,xTO LOWER CENTRE
1FB57 UPPERxBLOCK DIAGONAL UPPER MIDDLExTO UPPER
 CENTRE,r
1FB59 UPPERxBLOCK DIAGONAL LOWER
 MIDDLExTO UPPER CENTRE,MIDDLExTO UPPERr,xTO UPPER CENTRE,MIDDLExTO UPPER MIDDLEr
 CENTRE TO LOWER MIDDLEr,xTO LOWER MIDDLEr,CENTRE TO UPPER MIDDLEr,xTO UPPER MIDDLEr
 CENTRE TO UPPERr
1FB62 UPPERrBLOCK DIAGONAL UPPER
 CENTRE TO UPPER MIDDLEr,xTO UPPER MIDDLEr,CENTRE TO LOWER MIDDLEr,xTO LOWER MIDDLEr
 CENTRE TO LOWERr,MIDDLExTO LOWER MIDDLEr
1FB68
 UPPERnrnLOWER TRIANGULARtQUARTERS BLOCK,xnLOWERnrTRIANGULARtQUARTERS BLOCK
 UPPERnxnLOWER TRIANGULARtQUARTERS BLOCK,xnUPPERnrTRIANGULARtQUARTERS BLOCK
 xTRIANGULAR ONE QUARTER BLOCK,UPPER TRIANGULAR ONE QUARTER BLOCK,rTRIANGULAR ONE QUARTER BLOCK
 LOWER TRIANGULAR ONE QUARTER BLOCK
1FB70 vONE EIGHTH
 BLOCK-2~7
1FB76 HORIZONTAL ONE EIGHTH
 BLOCK-2~7
1FB7C
 xnLOWER ONE EIGHTH BLOCK,xnUPPER ONE EIGHTH BLOCK,rnUPPER ONE EIGHTH BLOCK,rnLOWER ONE EIGHTH BLOCK
 UPPERnLOWER ONE EIGHTH BLOCK,HORIZONTAL ONE EIGHTH BLOCK-1358
1FB82 UPPER
 ONE QUARTER BLOCK,tEIGHTHS BLOCK,FIVE EIGHTHS BLOCK,tQUARTERS BLOCK,SEVEN EIGHTHS BLOCK
1FB87
 rONE QUARTER BLOCK,rtEIGHTHS BLOCK,rFIVE EIGHTHS BLOCK,rtQUARTERS BLOCK,rSEVEN EIGHTHS BLOCK
 xHALF MEDIUM SHADE,rHALF MEDIUM SHADE,UPPER HALF MEDIUM SHADE,LOWER HALF MEDIUM SHADE
 INVERSE MEDIUM SHADE,UPPER HALF BLOCKnLOWER HALF INVERSE MEDIUM SHADE
 UPPER HALF INVERSE MEDIUM SHADEnLOWER HALF BLOCK,,xHALF INVERSE MEDIUM SHADEnrHALF BLOCK
 CHECKER BOARD FILL,INVERSE CHECKER BOARD FILL,HEAVY HORIZONTAL FILL,UPPERxTO LOWERrFILL
 UPPERrTO LOWERxFILL,UPPERnLOWER TRIANGULAR HALF BLOCK,xnrTRIANGULAR HALF BLOCK
 UPPERxTRIANGULAR MEDIUM SHADE,UPPERrTRIANGULAR MEDIUM SHADE,LOWERrTRIANGULAR MEDIUM SHADE
 LOWERxTRIANGULAR MEDIUM SHADE
1FBA0 BOX DRAWINGS LIGHT DIAGONAL
 UPPER CENTRE TO MIDDLEx,UPPER CENTRE TO MIDDLEr,MIDDLExTO LOWER CENTRE,MIDDLErTO LOWER CENTRE
 UPPER CENTRE TO MIDDLExTO LOWER CENTRE,UPPER CENTRE TO MIDDLErTO LOWER CENTRE
 MIDDLExTO LOWER CENTRE TO MIDDLEr,MIDDLExTO UPPER CENTRE TO MIDDLEr
 UPPER CENTRE TO MIDDLExnMIDDLErTO LOWER CENTRE,UPPER CENTRE TO MIDDLErnMIDDLExTO LOWER CENTRE
 UPPER CENTRE TO MIDDLErTO LOWER CENTRE TO MIDDLEx,UPPER CENTRE TO MIDDLExTO LOWER CENTRE TO MIDDLEr
 MIDDLExTO UPPER CENTRE TO MIDDLErTO LOWER CENTRE,MIDDLErTO UPPER CENTRE TO MIDDLExTO LOWER CENTRE
 DIAMOND
1FBAF
 BOX DRAWINGS LIGHT HORIZONTALwvp,ARROWHEAD-SHAPED POINTER,INVERSE CHECKm,xHALF RUNNING MAN
 rHALF RUNNING MAN,INVERSE DOWNWARDSawTIPy,yanUPPERnLOWER ONE EIGHTH BLOCK
 zanUPPERnLOWER ONE EIGHTH BLOCK,DOWNWARDSanrONE EIGHTH BLOCK,UPWARDSanrONE EIGHTH BLOCK
 xHALF FOLDER,rHALF FOLDER,VOIDED GREEK CROSS,rOPEN SQUARED DOT
1FBBD NEGATIVE DIAGONAL
 CROSS,MIDDLErTO LOWER CENTRE,DIAMOND
1FBC0
 hHEAVY SALTIREwROUNDED CORNERS,xTHIRDhrPOINTING INDEX,MIDDLE THIRDhrPOINTING INDEX
 rTHIRDhrPOINTING INDEX,NEGATIVE SQUARED QUESTIONm,STICK FIGURE
1FBC6 STICK FIGURE
 wARMS RAISED,LEANINGx,LEANINGr,wDRESS
1FBCA hUP-POINTING
 CHEVRON
1FBF0 SEGMENTED DIGIT
 ZERO,ONE,TWO,t,FOUR,FIVE,SIX,SEVEN,EIGHT,NINE
E0001 LANGUAGE
 TAG
E0020 TAG
 SPACE,EXCLAMATIONm,QUOTATIONm,NUMBERg,DOLLARg,PERCENTg,AMPERSAND,APOSTROPHE,xPARENTHESIS
 rPARENTHESIS,ASTERISK,PLUSg,COMMA,HYPHEN-MINUS,FULL STOP,SOLIDUS
E0030 TAG DIGIT
 ZERO,ONE,TWO,t,FOUR,FIVE,SIX,SEVEN,EIGHT,NINE
E003A TAG
 COLON,SEMICOLON,LESS-THANg,EQUALSg,GREATER-THANg,QUESTIONm,COMMERCIAL AT
E0041 TAG LATINcl
 A,B,C,D,E,F,G,H,I,J,K,L,M,N,O,P,Q,R,S,T,U,V,W,X,Y,Z
E005B TAG
 xSQUARE BRACKET,REVERSE SOLIDUS,rSQUARE BRACKET,CIRCUMFLEX ACCENT,LOW LINE,GRAVE ACCENT
E0061 TAG LATINsl
 A,B,C,D,E,F,G,H,I,J,K,L,M,N,O,P,Q,R,S,T,U,V,W,X,Y,Z
E007B TAG
 xCURLY BRACKET,vLINE,rCURLY BRACKET,TILDE
E007F CANCEL
 TAG
E0100 VARIATION
 SELECTOR-17~256"

end Throws.Text.CharacterNames
