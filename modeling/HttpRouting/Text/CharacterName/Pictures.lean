import HttpRouting.Text.CharacterName.Run

/-!
# Names of games, pictures and controls

The names from U+1F000 to U+E01EF in the Unicode standard.
-/

namespace HttpRouting.Text.CharacterName

def pictures : List Run :=
  [
    ⟨0x1f000, "MAHJONG TILE ", "EAST WIND,SOUTH WIND,WEST WIND,NORTH WIND,RED DRAGON"⟩,
    ⟨0x1f005, "MAHJONG TILE ", "GREEN DRAGON,WHITE DRAGON,ONE OF CHARACTERS,TWO OF CHARACTERS"⟩,
    ⟨0x1f009, "MAHJONG TILE ", "THREE OF CHARACTERS,FOUR OF CHARACTERS,FIVE OF CHARACTERS"⟩,
    ⟨0x1f00c, "MAHJONG TILE ", "SIX OF CHARACTERS,SEVEN OF CHARACTERS,EIGHT OF CHARACTERS"⟩,
    ⟨0x1f00f, "MAHJONG TILE ", "NINE OF CHARACTERS,ONE OF BAMBOOS,TWO OF BAMBOOS,THREE OF BAMBOOS"⟩,
    ⟨0x1f013, "MAHJONG TILE ", "FOUR OF BAMBOOS,FIVE OF BAMBOOS,SIX OF BAMBOOS,SEVEN OF BAMBOOS"⟩,
    ⟨0x1f017, "MAHJONG TILE ", "EIGHT OF BAMBOOS,NINE OF BAMBOOS,ONE OF CIRCLES,TWO OF CIRCLES"⟩,
    ⟨0x1f01b, "MAHJONG TILE ", "THREE OF CIRCLES,FOUR OF CIRCLES,FIVE OF CIRCLES,SIX OF CIRCLES"⟩,
    ⟨0x1f01f, "MAHJONG TILE ", "SEVEN OF CIRCLES,EIGHT OF CIRCLES,NINE OF CIRCLES,PLUM,ORCHID"⟩,
    ⟨0x1f024, "MAHJONG TILE ", "BAMBOO,CHRYSANTHEMUM,SPRING,SUMMER,AUTUMN,WINTER,JOKER,BACK"⟩,
    ⟨0x1f030, "DOMINO TILE ", "HORIZONTAL BACK,HORIZONTAL-00-00,HORIZONTAL-00-01"⟩,
    ⟨0x1f033, "DOMINO TILE HORIZONTAL-", "00-02,00-03,00-04,00-05,00-06,01-00,01-01,01-02,01-03"⟩,
    ⟨0x1f03c, "DOMINO TILE HORIZONTAL-", "01-04,01-05,01-06,02-00,02-01,02-02,02-03,02-04,02-05"⟩,
    ⟨0x1f045, "DOMINO TILE HORIZONTAL-", "02-06,03-00,03-01,03-02,03-03,03-04,03-05,03-06,04-00"⟩,
    ⟨0x1f04e, "DOMINO TILE HORIZONTAL-", "04-01,04-02,04-03,04-04,04-05,04-06,05-00,05-01,05-02"⟩,
    ⟨0x1f057, "DOMINO TILE HORIZONTAL-", "05-03,05-04,05-05,05-06,06-00,06-01,06-02,06-03,06-04"⟩,
    ⟨0x1f060, "DOMINO TILE ", "HORIZONTAL-06-05,HORIZONTAL-06-06,VERTICAL BACK,VERTICAL-00-00"⟩,
    ⟨0x1f064, "DOMINO TILE VERTICAL-", "00-01,00-02,00-03,00-04,00-05,00-06,01-00,01-01,01-02"⟩,
    ⟨0x1f06d, "DOMINO TILE VERTICAL-", "01-03,01-04,01-05,01-06,02-00,02-01,02-02,02-03,02-04"⟩,
    ⟨0x1f076, "DOMINO TILE VERTICAL-", "02-05,02-06,03-00,03-01,03-02,03-03,03-04,03-05,03-06"⟩,
    ⟨0x1f07f, "DOMINO TILE VERTICAL-04-", "00,01,02,03,04,05,06"⟩,
    ⟨0x1f086, "DOMINO TILE VERTICAL-05-", "00,01,02,03,04,05,06"⟩,
    ⟨0x1f08d, "DOMINO TILE VERTICAL-06-", "00,01,02,03,04,05,06"⟩,
    ⟨0x1f0a0, "PLAYING CARD ", "BACK,ACE OF SPADES,TWO OF SPADES,THREE OF SPADES"⟩,
    ⟨0x1f0a4, "PLAYING CARD ", "FOUR OF SPADES,FIVE OF SPADES,SIX OF SPADES,SEVEN OF SPADES"⟩,
    ⟨0x1f0a8, "PLAYING CARD ", "EIGHT OF SPADES,NINE OF SPADES,TEN OF SPADES,JACK OF SPADES"⟩,
    ⟨0x1f0ac, "PLAYING CARD ", "KNIGHT OF SPADES,QUEEN OF SPADES,KING OF SPADES,,,ACE OF HEARTS"⟩,
    ⟨0x1f0b2, "PLAYING CARD ", "TWO OF HEARTS,THREE OF HEARTS,FOUR OF HEARTS,FIVE OF HEARTS"⟩,
    ⟨0x1f0b6, "PLAYING CARD ", "SIX OF HEARTS,SEVEN OF HEARTS,EIGHT OF HEARTS,NINE OF HEARTS"⟩,
    ⟨0x1f0ba, "PLAYING CARD ", "TEN OF HEARTS,JACK OF HEARTS,KNIGHT OF HEARTS,QUEEN OF HEARTS"⟩,
    ⟨0x1f0be, "PLAYING CARD ", "KING OF HEARTS,RED JOKER,,ACE OF DIAMONDS,TWO OF DIAMONDS"⟩,
    ⟨0x1f0c3, "PLAYING CARD ", "THREE OF DIAMONDS,FOUR OF DIAMONDS,FIVE OF DIAMONDS"⟩,
    ⟨0x1f0c6, "PLAYING CARD ", "SIX OF DIAMONDS,SEVEN OF DIAMONDS,EIGHT OF DIAMONDS"⟩,
    ⟨0x1f0c9, "PLAYING CARD ", "NINE OF DIAMONDS,TEN OF DIAMONDS,JACK OF DIAMONDS"⟩,
    ⟨0x1f0cc, "PLAYING CARD ", "KNIGHT OF DIAMONDS,QUEEN OF DIAMONDS,KING OF DIAMONDS,BLACK JOKER"⟩,
    ⟨0x1f0d1, "PLAYING CARD ", "ACE OF CLUBS,TWO OF CLUBS,THREE OF CLUBS"⟩,
    ⟨0x1f0d4, "PLAYING CARD ", "FOUR OF CLUBS,FIVE OF CLUBS,SIX OF CLUBS,SEVEN OF CLUBS"⟩,
    ⟨0x1f0d8, "PLAYING CARD ", "EIGHT OF CLUBS,NINE OF CLUBS,TEN OF CLUBS,JACK OF CLUBS"⟩,
    ⟨0x1f0dc, "PLAYING CARD ", "KNIGHT OF CLUBS,QUEEN OF CLUBS,KING OF CLUBS,WHITE JOKER,FOOL"⟩,
    ⟨0x1f0e1, "PLAYING CARD TRUMP-", "1,2,3,4,5,6,7,8,9,10,11,12,13,14,15,16,17,18,19,20,21"⟩,
    ⟨0x1f100, "DIGIT ", "ZERO FULL STOP,ZERO COMMA,ONE COMMA,TWO COMMA,THREE COMMA"⟩,
    ⟨0x1f105, "DIGIT ", "FOUR COMMA,FIVE COMMA,SIX COMMA,SEVEN COMMA,EIGHT COMMA,NINE COMMA"⟩,
    ⟨0x1f10b, "DINGBAT ", "CIRCLED SANS-SERIF DIGIT ZERO,NEGATIVE CIRCLED SANS-SERIF DIGIT ZERO"⟩,
    ⟨0x1f10d, "", "CIRCLED ZERO WITH SLASH"⟩,
    ⟨0x1f10e, "CIRCLED ", "ANTICLOCKWISE ARROW,DOLLAR SIGN WITH OVERLAID BACKSLASH"⟩,
    ⟨0x1f110, "PARENTHESIZED LATIN CAPITAL LETTER ", "A,B,C,D"⟩,
    ⟨0x1f114, "PARENTHESIZED LATIN CAPITAL LETTER ", "E,F,G,H,I,J,K,L,M,N,O,P,Q,R,S,T,U,V,W,X,Y,Z"⟩,
    ⟨0x1f12a, "", "TORTOISE SHELL BRACKETED LATIN CAPITAL LETTER S"⟩,
    ⟨0x1f12b, "CIRCLED ITALIC LATIN CAPITAL LETTER ", "C,R"⟩,
    ⟨0x1f12d, "", "CIRCLED CD,CIRCLED WZ,COPYLEFT SYMBOL"⟩,
    ⟨0x1f130, "SQUARED LATIN CAPITAL LETTER ", "A,B,C,D,E,F,G,H,I,J,K,L,M,N,O,P,Q,R,S,T,U,V,W,X,Y"⟩,
    ⟨0x1f149, "SQUARED ", "LATIN CAPITAL LETTER Z,HV,MV,SD,SS,PPV,WC"⟩,
    ⟨0x1f150, "NEGATIVE CIRCLED LATIN CAPITAL LETTER ", "A,B,C,D,E,F"⟩,
    ⟨0x1f156, "NEGATIVE CIRCLED LATIN CAPITAL LETTER ", "G,H,I,J,K,L,M,N,O,P,Q,R,S,T,U,V,W,X,Y,Z"⟩,
    ⟨0x1f16a, "RAISED ", "MC SIGN,MD SIGN,MR SIGN"⟩,
    ⟨0x1f16d, "CIRCLED ", "CC,C WITH OVERLAID BACKSLASH,HUMAN FIGURE"⟩,
    ⟨0x1f170, "NEGATIVE SQUARED LATIN CAPITAL LETTER ", "A,B,C,D,E,F"⟩,
    ⟨0x1f176, "NEGATIVE SQUARED LATIN CAPITAL LETTER ", "G,H,I,J,K,L,M,N,O,P,Q,R,S,T,U,V,W,X,Y,Z"⟩,
    ⟨0x1f18a, "", "CROSSED NEGATIVE SQUARED LATIN CAPITAL LETTER P"⟩,
    ⟨0x1f18b, "NEGATIVE SQUARED ", "IC,PA,SA,AB,WC"⟩,
    ⟨0x1f190, "", "SQUARE DJ,SQUARED CL,SQUARED COOL,SQUARED FREE,SQUARED ID"⟩,
    ⟨0x1f195, "SQUARED ", "NEW,NG,OK,SOS,UP WITH EXCLAMATION MARK,VS,THREE D,SECOND SCREEN,TWO K"⟩,
    ⟨0x1f19e, "SQUARED ", "FOUR K,EIGHT K,FIVE POINT ONE,SEVEN POINT ONE,TWENTY-TWO POINT TWO"⟩,
    ⟨0x1f1a3, "SQUARED ", "SIXTY P,ONE HUNDRED TWENTY P,LATIN SMALL LETTER D,HC,HDR,HI-RES"⟩,
    ⟨0x1f1a9, "", "SQUARED LOSSLESS,SQUARED SHV,SQUARED UHD,SQUARED VOD,MASK WORK SYMBOL"⟩,
    ⟨0x1f1e6, "REGIONAL INDICATOR SYMBOL LETTER ", "A,B,C"⟩,
    ⟨0x1f1e9, "REGIONAL INDICATOR SYMBOL LETTER ", "D,E,F,G,H,I,J,K,L,M,N,O,P,Q,R,S,T,U,V,W,X,Y,Z"⟩,
    ⟨0x1f200, "", "SQUARE HIRAGANA HOKA,SQUARED KATAKANA KOKO,SQUARED KATAKANA SA"⟩,
    ⟨0x1f210, "SQUARED CJK UNIFIED IDEOGRAPH-", "624B,5B57,53CC"⟩,
    ⟨0x1f213, "", "SQUARED KATAKANA DE"⟩,
    ⟨0x1f214, "SQUARED CJK UNIFIED IDEOGRAPH-", "4E8C,591A,89E3,5929"⟩,
    ⟨0x1f218, "SQUARED CJK UNIFIED IDEOGRAPH-", "4EA4,6620,7121,6599,524D,5F8C,518D,65B0,521D"⟩,
    ⟨0x1f221, "SQUARED CJK UNIFIED IDEOGRAPH-", "7D42,751F,8CA9,58F0,5439,6F14,6295,6355,4E00"⟩,
    ⟨0x1f22a, "SQUARED CJK UNIFIED IDEOGRAPH-", "4E09,904A,5DE6,4E2D,53F3,6307,8D70,6253,7981"⟩,
    ⟨0x1f233, "SQUARED CJK UNIFIED IDEOGRAPH-", "7A7A,5408,6E80,6709,6708,7533,5272,55B6,914D"⟩,
    ⟨0x1f240, "TORTOISE SHELL BRACKETED CJK UNIFIED IDEOGRAPH-", "672C,4E09,4E8C"⟩,
    ⟨0x1f243, "TORTOISE SHELL BRACKETED CJK UNIFIED IDEOGRAPH-", "5B89,70B9,6253,76D7,52DD,6557"⟩,
    ⟨0x1f250, "CIRCLED IDEOGRAPH ", "ADVANTAGE,ACCEPT"⟩,
    ⟨0x1f260, "ROUNDED SYMBOL FOR ", "FU,LU,SHOU,XI,SHUANGXI,CAI"⟩,
    ⟨0x1f300, "", "CYCLONE,FOGGY,CLOSED UMBRELLA"⟩,
    ⟨0x1f303, "", "NIGHT WITH STARS,SUNRISE OVER MOUNTAINS,SUNRISE,CITYSCAPE AT DUSK"⟩,
    ⟨0x1f307, "", "SUNSET OVER BUILDINGS,RAINBOW,BRIDGE AT NIGHT,WATER WAVE,VOLCANO,MILKY WAY"⟩,
    ⟨0x1f30d, "EARTH GLOBE ", "EUROPE-AFRICA,AMERICAS,ASIA-AUSTRALIA"⟩,
    ⟨0x1f310, "", "GLOBE WITH MERIDIANS,NEW MOON SYMBOL,WAXING CRESCENT MOON SYMBOL"⟩,
    ⟨0x1f313, "", "FIRST QUARTER MOON SYMBOL,WAXING GIBBOUS MOON SYMBOL"⟩,
    ⟨0x1f315, "", "FULL MOON SYMBOL,WANING GIBBOUS MOON SYMBOL,LAST QUARTER MOON SYMBOL"⟩,
    ⟨0x1f318, "", "WANING CRESCENT MOON SYMBOL,CRESCENT MOON,NEW MOON WITH FACE"⟩,
    ⟨0x1f31b, "", "FIRST QUARTER MOON WITH FACE,LAST QUARTER MOON WITH FACE,FULL MOON WITH FACE"⟩,
    ⟨0x1f31e, "", "SUN WITH FACE,GLOWING STAR,SHOOTING STAR,THERMOMETER,BLACK DROPLET,WHITE SUN"⟩,
    ⟨0x1f324, "WHITE SUN ", "WITH SMALL CLOUD,BEHIND CLOUD,BEHIND CLOUD WITH RAIN"⟩,
    ⟨0x1f327, "CLOUD WITH ", "RAIN,SNOW,LIGHTNING,TORNADO"⟩,
    ⟨0x1f32b, "", "FOG,WIND BLOWING FACE,HOT DOG,TACO,BURRITO,CHESTNUT,SEEDLING,EVERGREEN TREE"⟩,
    ⟨0x1f333, "", "DECIDUOUS TREE,PALM TREE,CACTUS,HOT PEPPER,TULIP,CHERRY BLOSSOM,ROSE,HIBISCUS"⟩,
    ⟨0x1f33b, "", "SUNFLOWER,BLOSSOM,EAR OF MAIZE,EAR OF RICE,HERB,FOUR LEAF CLOVER,MAPLE LEAF"⟩,
    ⟨0x1f342, "", "FALLEN LEAF,LEAF FLUTTERING IN WIND,MUSHROOM,TOMATO,AUBERGINE,GRAPES"⟩,
    ⟨0x1f348, "", "MELON,WATERMELON,TANGERINE,LEMON,BANANA,PINEAPPLE,RED APPLE,GREEN APPLE,PEAR"⟩,
    ⟨0x1f351, "", "PEACH,CHERRIES,STRAWBERRY,HAMBURGER,SLICE OF PIZZA,MEAT ON BONE,POULTRY LEG"⟩,
    ⟨0x1f358, "", "RICE CRACKER,RICE BALL,COOKED RICE,CURRY AND RICE,STEAMING BOWL,SPAGHETTI"⟩,
    ⟨0x1f35e, "", "BREAD,FRENCH FRIES,ROASTED SWEET POTATO,DANGO,ODEN,SUSHI,FRIED SHRIMP"⟩,
    ⟨0x1f365, "", "FISH CAKE WITH SWIRL DESIGN,SOFT ICE CREAM,SHAVED ICE,ICE CREAM,DOUGHNUT"⟩,
    ⟨0x1f36a, "", "COOKIE,CHOCOLATE BAR,CANDY,LOLLIPOP,CUSTARD,HONEY POT,SHORTCAKE,BENTO BOX"⟩,
    ⟨0x1f372, "", "POT OF FOOD,COOKING,FORK AND KNIFE,TEACUP WITHOUT HANDLE,SAKE BOTTLE AND CUP"⟩,
    ⟨0x1f377, "", "WINE GLASS,COCKTAIL GLASS,TROPICAL DRINK,BEER MUG,CLINKING BEER MUGS"⟩,
    ⟨0x1f37c, "", "BABY BOTTLE,FORK AND KNIFE WITH PLATE,BOTTLE WITH POPPING CORK,POPCORN,RIBBON"⟩,
    ⟨0x1f381, "", "WRAPPED PRESENT,BIRTHDAY CAKE,JACK-O-LANTERN,CHRISTMAS TREE,FATHER CHRISTMAS"⟩,
    ⟨0x1f386, "", "FIREWORKS,FIREWORK SPARKLER,BALLOON,PARTY POPPER,CONFETTI BALL,TANABATA TREE"⟩,
    ⟨0x1f38c, "", "CROSSED FLAGS,PINE DECORATION,JAPANESE DOLLS,CARP STREAMER,WIND CHIME"⟩,
    ⟨0x1f391, "", "MOON VIEWING CEREMONY,SCHOOL SATCHEL,GRADUATION CAP,HEART WITH TIP ON THE LEFT"⟩,
    ⟨0x1f395, "", "BOUQUET OF FLOWERS,MILITARY MEDAL,REMINDER RIBBON,MUSICAL KEYBOARD WITH JACKS"⟩,
    ⟨0x1f399, "", "STUDIO MICROPHONE,LEVEL SLIDER,CONTROL KNOBS,BEAMED ASCENDING MUSICAL NOTES"⟩,
    ⟨0x1f39d, "", "BEAMED DESCENDING MUSICAL NOTES,FILM FRAMES,ADMISSION TICKETS,CAROUSEL HORSE"⟩,
    ⟨0x1f3a1, "", "FERRIS WHEEL,ROLLER COASTER,FISHING POLE AND FISH,MICROPHONE,MOVIE CAMERA"⟩,
    ⟨0x1f3a6, "", "CINEMA,HEADPHONE,ARTIST PALETTE,TOP HAT,CIRCUS TENT,TICKET,CLAPPER BOARD"⟩,
    ⟨0x1f3ad, "", "PERFORMING ARTS,VIDEO GAME,DIRECT HIT,SLOT MACHINE,BILLIARDS,GAME DIE"⟩,
    ⟨0x1f3b3, "", "BOWLING,FLOWER PLAYING CARDS,MUSICAL NOTE,MULTIPLE MUSICAL NOTES,SAXOPHONE"⟩,
    ⟨0x1f3b8, "", "GUITAR,MUSICAL KEYBOARD,TRUMPET,VIOLIN,MUSICAL SCORE,RUNNING SHIRT WITH SASH"⟩,
    ⟨0x1f3be, "", "TENNIS RACQUET AND BALL,SKI AND SKI BOOT,BASKETBALL AND HOOP,CHEQUERED FLAG"⟩,
    ⟨0x1f3c2, "", "SNOWBOARDER,RUNNER,SURFER,SPORTS MEDAL,TROPHY,HORSE RACING,AMERICAN FOOTBALL"⟩,
    ⟨0x1f3c9, "", "RUGBY FOOTBALL,SWIMMER,WEIGHT LIFTER,GOLFER,RACING MOTORCYCLE"⟩,
    ⟨0x1f3ce, "", "RACING CAR,CRICKET BAT AND BALL,VOLLEYBALL,FIELD HOCKEY STICK AND BALL"⟩,
    ⟨0x1f3d2, "", "ICE HOCKEY STICK AND PUCK,TABLE TENNIS PADDLE AND BALL"⟩,
    ⟨0x1f3d4, "", "SNOW CAPPED MOUNTAIN,CAMPING,BEACH WITH UMBRELLA,BUILDING CONSTRUCTION"⟩,
    ⟨0x1f3d8, "", "HOUSE BUILDINGS,CITYSCAPE,DERELICT HOUSE BUILDING,CLASSICAL BUILDING"⟩,
    ⟨0x1f3dc, "", "DESERT,DESERT ISLAND,NATIONAL PARK,STADIUM,HOUSE BUILDING,HOUSE WITH GARDEN"⟩,
    ⟨0x1f3e2, "", "OFFICE BUILDING,JAPANESE POST OFFICE,EUROPEAN POST OFFICE,HOSPITAL"⟩,
    ⟨0x1f3e6, "", "BANK,AUTOMATED TELLER MACHINE,HOTEL,LOVE HOTEL,CONVENIENCE STORE,SCHOOL"⟩,
    ⟨0x1f3ec, "", "DEPARTMENT STORE,FACTORY,IZAKAYA LANTERN,JAPANESE CASTLE,EUROPEAN CASTLE"⟩,
    ⟨0x1f3f1, "", "WHITE PENNANT,BLACK PENNANT,WAVING WHITE FLAG,WAVING BLACK FLAG,ROSETTE"⟩,
    ⟨0x1f3f6, "", "BLACK ROSETTE,LABEL,BADMINTON RACQUET AND SHUTTLECOCK,BOW AND ARROW,AMPHORA"⟩,
    ⟨0x1f3fb, "EMOJI MODIFIER FITZPATRICK TYPE-", "1-2,3,4,5,6"⟩,
    ⟨0x1f400, "", "RAT,MOUSE,OX,WATER BUFFALO,COW,TIGER,LEOPARD,RABBIT,CAT,DRAGON,CROCODILE"⟩,
    ⟨0x1f40b, "", "WHALE,SNAIL,SNAKE,HORSE,RAM,GOAT,SHEEP,MONKEY,ROOSTER,CHICKEN,DOG,PIG,BOAR"⟩,
    ⟨0x1f418, "", "ELEPHANT,OCTOPUS,SPIRAL SHELL,BUG,ANT,HONEYBEE,LADY BEETLE,FISH,TROPICAL FISH"⟩,
    ⟨0x1f421, "", "BLOWFISH,TURTLE,HATCHING CHICK,BABY CHICK,FRONT-FACING BABY CHICK"⟩,
    ⟨0x1f426, "", "BIRD,PENGUIN,KOALA,POODLE,DROMEDARY CAMEL,BACTRIAN CAMEL,DOLPHIN,MOUSE FACE"⟩,
    ⟨0x1f42e, "", "COW FACE,TIGER FACE,RABBIT FACE,CAT FACE,DRAGON FACE,SPOUTING WHALE,HORSE FACE"⟩,
    ⟨0x1f435, "", "MONKEY FACE,DOG FACE,PIG FACE,FROG FACE,HAMSTER FACE,WOLF FACE,BEAR FACE"⟩,
    ⟨0x1f43c, "", "PANDA FACE,PIG NOSE,PAW PRINTS,CHIPMUNK,EYES,EYE,EAR,NOSE,MOUTH,TONGUE"⟩,
    ⟨0x1f446, "WHITE ", "UP POINTING BACKHAND INDEX,DOWN POINTING BACKHAND INDEX"⟩,
    ⟨0x1f448, "WHITE ", "LEFT POINTING BACKHAND INDEX,RIGHT POINTING BACKHAND INDEX"⟩,
    ⟨0x1f44a, "", "FISTED HAND SIGN,WAVING HAND SIGN,OK HAND SIGN,THUMBS UP SIGN,THUMBS DOWN SIGN"⟩,
    ⟨0x1f44f, "", "CLAPPING HANDS SIGN,OPEN HANDS SIGN,CROWN,WOMANS HAT,EYEGLASSES"⟩,
    ⟨0x1f454, "", "NECKTIE,T-SHIRT,JEANS,DRESS,KIMONO,BIKINI,WOMANS CLOTHES,PURSE,HANDBAG"⟩,
    ⟨0x1f45d, "", "POUCH,MANS SHOE,ATHLETIC SHOE,HIGH-HEELED SHOE,WOMANS SANDAL,WOMANS BOOTS"⟩,
    ⟨0x1f463, "", "FOOTPRINTS,BUST IN SILHOUETTE,BUSTS IN SILHOUETTE,BOY,GIRL,MAN,WOMAN,FAMILY"⟩,
    ⟨0x1f46b, "", "MAN AND WOMAN HOLDING HANDS,TWO MEN HOLDING HANDS,TWO WOMEN HOLDING HANDS"⟩,
    ⟨0x1f46e, "", "POLICE OFFICER,WOMAN WITH BUNNY EARS,BRIDE WITH VEIL,PERSON WITH BLOND HAIR"⟩,
    ⟨0x1f472, "MAN WITH ", "GUA PI MAO,TURBAN"⟩,
    ⟨0x1f474, "", "OLDER MAN,OLDER WOMAN,BABY,CONSTRUCTION WORKER,PRINCESS,JAPANESE OGRE"⟩,
    ⟨0x1f47a, "", "JAPANESE GOBLIN,GHOST,BABY ANGEL,EXTRATERRESTRIAL ALIEN,ALIEN MONSTER"⟩,
    ⟨0x1f47f, "", "IMP,SKULL,INFORMATION DESK PERSON,GUARDSMAN,DANCER,LIPSTICK,NAIL POLISH"⟩,
    ⟨0x1f486, "", "FACE MASSAGE,HAIRCUT,BARBER POLE,SYRINGE,PILL,KISS MARK,LOVE LETTER"⟩,
    ⟨0x1f48d, "", "RING,GEM STONE,KISS,BOUQUET,COUPLE WITH HEART,WEDDING,BEATING HEART"⟩,
    ⟨0x1f494, "", "BROKEN HEART,TWO HEARTS,SPARKLING HEART,GROWING HEART,HEART WITH ARROW"⟩,
    ⟨0x1f499, "", "BLUE HEART,GREEN HEART,YELLOW HEART,PURPLE HEART,HEART WITH RIBBON"⟩,
    ⟨0x1f49e, "", "REVOLVING HEARTS,HEART DECORATION,DIAMOND SHAPE WITH A DOT INSIDE"⟩,
    ⟨0x1f4a1, "", "ELECTRIC LIGHT BULB,ANGER SYMBOL,BOMB,SLEEPING SYMBOL,COLLISION SYMBOL"⟩,
    ⟨0x1f4a6, "", "SPLASHING SWEAT SYMBOL,DROPLET,DASH SYMBOL,PILE OF POO,FLEXED BICEPS"⟩,
    ⟨0x1f4ab, "", "DIZZY SYMBOL,SPEECH BALLOON,THOUGHT BALLOON,WHITE FLOWER,HUNDRED POINTS SYMBOL"⟩,
    ⟨0x1f4b0, "", "MONEY BAG,CURRENCY EXCHANGE,HEAVY DOLLAR SIGN,CREDIT CARD"⟩,
    ⟨0x1f4b4, "BANKNOTE WITH ", "YEN SIGN,DOLLAR SIGN,EURO SIGN,POUND SIGN"⟩,
    ⟨0x1f4b8, "", "MONEY WITH WINGS,CHART WITH UPWARDS TREND AND YEN SIGN,SEAT,PERSONAL COMPUTER"⟩,
    ⟨0x1f4bc, "", "BRIEFCASE,MINIDISC,FLOPPY DISK,OPTICAL DISC,DVD,FILE FOLDER,OPEN FILE FOLDER"⟩,
    ⟨0x1f4c3, "", "PAGE WITH CURL,PAGE FACING UP,CALENDAR,TEAR-OFF CALENDAR,CARD INDEX"⟩,
    ⟨0x1f4c8, "CHART WITH ", "UPWARDS TREND,DOWNWARDS TREND"⟩,
    ⟨0x1f4ca, "", "BAR CHART,CLIPBOARD,PUSHPIN,ROUND PUSHPIN,PAPERCLIP,STRAIGHT RULER"⟩,
    ⟨0x1f4d0, "", "TRIANGULAR RULER,BOOKMARK TABS,LEDGER,NOTEBOOK,NOTEBOOK WITH DECORATIVE COVER"⟩,
    ⟨0x1f4d5, "", "CLOSED BOOK,OPEN BOOK,GREEN BOOK,BLUE BOOK,ORANGE BOOK,BOOKS"⟩,
    ⟨0x1f4db, "", "NAME BADGE,SCROLL,MEMO,TELEPHONE RECEIVER,PAGER,FAX MACHINE,SATELLITE ANTENNA"⟩,
    ⟨0x1f4e2, "", "PUBLIC ADDRESS LOUDSPEAKER,CHEERING MEGAPHONE,OUTBOX TRAY,INBOX TRAY"⟩,
    ⟨0x1f4e6, "", "PACKAGE,E-MAIL SYMBOL,INCOMING ENVELOPE,ENVELOPE WITH DOWNWARDS ARROW ABOVE"⟩,
    ⟨0x1f4ea, "CLOSED MAILBOX WITH ", "LOWERED FLAG,RAISED FLAG"⟩,
    ⟨0x1f4ec, "", "OPEN MAILBOX WITH RAISED FLAG,OPEN MAILBOX WITH LOWERED FLAG,POSTBOX"⟩,
    ⟨0x1f4ef, "", "POSTAL HORN,NEWSPAPER,MOBILE PHONE,MOBILE PHONE WITH RIGHTWARDS ARROW AT LEFT"⟩,
    ⟨0x1f4f3, "", "VIBRATION MODE,MOBILE PHONE OFF,NO MOBILE PHONES,ANTENNA WITH BARS"⟩,
    ⟨0x1f4f7, "", "CAMERA,CAMERA WITH FLASH,VIDEO CAMERA,TELEVISION,RADIO,VIDEOCASSETTE"⟩,
    ⟨0x1f4fd, "", "FILM PROJECTOR,PORTABLE STEREO,PRAYER BEADS,TWISTED RIGHTWARDS ARROWS"⟩,
    ⟨0x1f501, "", "CLOCKWISE RIGHTWARDS AND LEFTWARDS OPEN CIRCLE ARROWS"⟩,
    ⟨0x1f502, "", "CLOCKWISE RIGHTWARDS AND LEFTWARDS OPEN CIRCLE ARROWS WITH CIRCLED ONE OVERLAY"⟩,
    ⟨0x1f503, "", "CLOCKWISE DOWNWARDS AND UPWARDS OPEN CIRCLE ARROWS"⟩,
    ⟨0x1f504, "", "ANTICLOCKWISE DOWNWARDS AND UPWARDS OPEN CIRCLE ARROWS,LOW BRIGHTNESS SYMBOL"⟩,
    ⟨0x1f506, "", "HIGH BRIGHTNESS SYMBOL,SPEAKER WITH CANCELLATION STROKE,SPEAKER"⟩,
    ⟨0x1f509, "SPEAKER WITH ", "ONE SOUND WAVE,THREE SOUND WAVES"⟩,
    ⟨0x1f50b, "", "BATTERY,ELECTRIC PLUG,LEFT-POINTING MAGNIFYING GLASS"⟩,
    ⟨0x1f50e, "", "RIGHT-POINTING MAGNIFYING GLASS,LOCK WITH INK PEN,CLOSED LOCK WITH KEY"⟩,
    ⟨0x1f511, "", "KEY,LOCK,OPEN LOCK,BELL,BELL WITH CANCELLATION STROKE,BOOKMARK,LINK SYMBOL"⟩,
    ⟨0x1f518, "", "RADIO BUTTON,BACK WITH LEFTWARDS ARROW ABOVE,END WITH LEFTWARDS ARROW ABOVE"⟩,
    ⟨0x1f51b, "", "ON WITH EXCLAMATION MARK WITH LEFT RIGHT ARROW ABOVE"⟩,
    ⟨0x1f51c, "", "SOON WITH RIGHTWARDS ARROW ABOVE"⟩,
    ⟨0x1f51d, "", "TOP WITH UPWARDS ARROW ABOVE,NO ONE UNDER EIGHTEEN SYMBOL,KEYCAP TEN"⟩,
    ⟨0x1f520, "INPUT SYMBOL FOR ", "LATIN CAPITAL LETTERS,LATIN SMALL LETTERS,NUMBERS,SYMBOLS"⟩,
    ⟨0x1f524, "", "INPUT SYMBOL FOR LATIN LETTERS,FIRE"⟩,
    ⟨0x1f526, "", "ELECTRIC TORCH,WRENCH,HAMMER,NUT AND BOLT,HOCHO,PISTOL,MICROSCOPE,TELESCOPE"⟩,
    ⟨0x1f52e, "", "CRYSTAL BALL,SIX POINTED STAR WITH MIDDLE DOT,JAPANESE SYMBOL FOR BEGINNER"⟩,
    ⟨0x1f531, "", "TRIDENT EMBLEM,BLACK SQUARE BUTTON,WHITE SQUARE BUTTON,LARGE RED CIRCLE"⟩,
    ⟨0x1f535, "", "LARGE BLUE CIRCLE,LARGE ORANGE DIAMOND,LARGE BLUE DIAMOND,SMALL ORANGE DIAMOND"⟩,
    ⟨0x1f539, "", "SMALL BLUE DIAMOND,UP-POINTING RED TRIANGLE,DOWN-POINTING RED TRIANGLE"⟩,
    ⟨0x1f53c, "", "UP-POINTING SMALL RED TRIANGLE,DOWN-POINTING SMALL RED TRIANGLE"⟩,
    ⟨0x1f53e, "", "LOWER RIGHT SHADOWED WHITE CIRCLE,UPPER RIGHT SHADOWED WHITE CIRCLE"⟩,
    ⟨0x1f540, "", "CIRCLED CROSS POMMEE,CROSS POMMEE WITH HALF-CIRCLE BELOW,CROSS POMMEE"⟩,
    ⟨0x1f543, "NOTCHED ", "LEFT SEMICIRCLE WITH THREE DOTS,RIGHT SEMICIRCLE WITH THREE DOTS"⟩,
    ⟨0x1f545, "", "SYMBOL FOR MARKS CHAPTER"⟩,
    ⟨0x1f546, "", "WHITE LATIN CROSS,HEAVY LATIN CROSS,CELTIC CROSS,OM SYMBOL,DOVE OF PEACE"⟩,
    ⟨0x1f54b, "", "KAABA,MOSQUE,SYNAGOGUE,MENORAH WITH NINE BRANCHES,BOWL OF HYGIEIA"⟩,
    ⟨0x1f550, "CLOCK FACE ", "ONE OCLOCK,TWO OCLOCK,THREE OCLOCK,FOUR OCLOCK"⟩,
    ⟨0x1f554, "CLOCK FACE ", "FIVE OCLOCK,SIX OCLOCK,SEVEN OCLOCK,EIGHT OCLOCK,NINE OCLOCK"⟩,
    ⟨0x1f559, "CLOCK FACE ", "TEN OCLOCK,ELEVEN OCLOCK,TWELVE OCLOCK,ONE-THIRTY,TWO-THIRTY"⟩,
    ⟨0x1f55e, "CLOCK FACE ", "THREE-THIRTY,FOUR-THIRTY,FIVE-THIRTY,SIX-THIRTY,SEVEN-THIRTY"⟩,
    ⟨0x1f563, "CLOCK FACE ", "EIGHT-THIRTY,NINE-THIRTY,TEN-THIRTY,ELEVEN-THIRTY,TWELVE-THIRTY"⟩,
    ⟨0x1f568, "RIGHT ", "SPEAKER,SPEAKER WITH ONE SOUND WAVE,SPEAKER WITH THREE SOUND WAVES"⟩,
    ⟨0x1f56b, "", "BULLHORN,BULLHORN WITH SOUND WAVES,RINGING BELL,BOOK,CANDLE,MANTELPIECE CLOCK"⟩,
    ⟨0x1f571, "", "BLACK SKULL AND CROSSBONES,NO PIRACY,HOLE,MAN IN BUSINESS SUIT LEVITATING"⟩,
    ⟨0x1f575, "", "SLEUTH OR SPY,DARK SUNGLASSES,SPIDER,SPIDER WEB"⟩,
    ⟨0x1f579, "", "JOYSTICK,MAN DANCING,LEFT HAND TELEPHONE RECEIVER,TELEPHONE RECEIVER WITH PAGE"⟩,
    ⟨0x1f57d, "", "RIGHT HAND TELEPHONE RECEIVER,WHITE TOUCHTONE TELEPHONE"⟩,
    ⟨0x1f57f, "", "BLACK TOUCHTONE TELEPHONE,TELEPHONE ON TOP OF MODEM,CLAMSHELL MOBILE PHONE"⟩,
    ⟨0x1f582, "", "BACK OF ENVELOPE,STAMPED ENVELOPE,ENVELOPE WITH LIGHTNING"⟩,
    ⟨0x1f585, "", "FLYING ENVELOPE,PEN OVER STAMPED ENVELOPE,LINKED PAPERCLIPS,BLACK PUSHPIN"⟩,
    ⟨0x1f589, "LOWER LEFT ", "PENCIL,BALLPOINT PEN,FOUNTAIN PEN,PAINTBRUSH,CRAYON"⟩,
    ⟨0x1f58e, "", "LEFT WRITING HAND,TURNED OK HAND SIGN,RAISED HAND WITH FINGERS SPLAYED"⟩,
    ⟨0x1f591, "REVERSED ", "RAISED HAND WITH FINGERS SPLAYED,THUMBS UP SIGN"⟩,
    ⟨0x1f593, "REVERSED ", "THUMBS DOWN SIGN,VICTORY HAND,HAND WITH MIDDLE FINGER EXTENDED"⟩,
    ⟨0x1f596, "", "RAISED HAND WITH PART BETWEEN MIDDLE AND RING FINGERS"⟩,
    ⟨0x1f597, "", "WHITE DOWN POINTING LEFT HAND INDEX"⟩,
    ⟨0x1f598, "SIDEWAYS WHITE ", "LEFT POINTING INDEX,RIGHT POINTING INDEX"⟩,
    ⟨0x1f59a, "SIDEWAYS BLACK ", "LEFT POINTING INDEX,RIGHT POINTING INDEX"⟩,
    ⟨0x1f59c, "BLACK ", "LEFT POINTING BACKHAND INDEX,RIGHT POINTING BACKHAND INDEX"⟩,
    ⟨0x1f59e, "SIDEWAYS WHITE ", "UP POINTING INDEX,DOWN POINTING INDEX"⟩,
    ⟨0x1f5a0, "SIDEWAYS BLACK ", "UP POINTING INDEX,DOWN POINTING INDEX"⟩,
    ⟨0x1f5a2, "BLACK ", "UP POINTING BACKHAND INDEX,DOWN POINTING BACKHAND INDEX,HEART"⟩,
    ⟨0x1f5a5, "", "DESKTOP COMPUTER,KEYBOARD AND MOUSE,THREE NETWORKED COMPUTERS"⟩,
    ⟨0x1f5a8, "", "PRINTER,POCKET CALCULATOR,BLACK HARD SHELL FLOPPY DISK"⟩,
    ⟨0x1f5ab, "", "WHITE HARD SHELL FLOPPY DISK,SOFT SHELL FLOPPY DISK,TAPE CARTRIDGE"⟩,
    ⟨0x1f5ae, "", "WIRED KEYBOARD,ONE BUTTON MOUSE,TWO BUTTON MOUSE,THREE BUTTON MOUSE,TRACKBALL"⟩,
    ⟨0x1f5b3, "", "OLD PERSONAL COMPUTER,HARD DISK,SCREEN,PRINTER ICON,FAX ICON,OPTICAL DISC ICON"⟩,
    ⟨0x1f5b9, "DOCUMENT WITH ", "TEXT,TEXT AND PICTURE,PICTURE"⟩,
    ⟨0x1f5bc, "FRAME WITH ", "PICTURE,TILES,AN X"⟩,
    ⟨0x1f5bf, "", "BLACK FOLDER,FOLDER,OPEN FOLDER,CARD INDEX DIVIDERS,CARD FILE BOX,FILE CABINET"⟩,
    ⟨0x1f5c5, "EMPTY ", "NOTE,NOTE PAGE,NOTE PAD"⟩,
    ⟨0x1f5c8, "", "NOTE,NOTE PAGE,NOTE PAD,EMPTY DOCUMENT,EMPTY PAGE,EMPTY PAGES,DOCUMENT"⟩,
    ⟨0x1f5cf, "", "PAGE,PAGES,WASTEBASKET,SPIRAL NOTE PAD,SPIRAL CALENDAR PAD,DESKTOP WINDOW"⟩,
    ⟨0x1f5d5, "", "MINIMIZE,MAXIMIZE,OVERLAP,CLOCKWISE RIGHT AND LEFT SEMICIRCLE ARROWS"⟩,
    ⟨0x1f5d9, "", "CANCELLATION X,INCREASE FONT SIZE SYMBOL,DECREASE FONT SIZE SYMBOL"⟩,
    ⟨0x1f5dc, "", "COMPRESSION,OLD KEY,ROLLED-UP NEWSPAPER,PAGE WITH CIRCLED TEXT"⟩,
    ⟨0x1f5e0, "", "STOCK CHART,DAGGER KNIFE,LIPS,SPEAKING HEAD IN SILHOUETTE"⟩,
    ⟨0x1f5e4, "THREE RAYS ", "ABOVE,BELOW,LEFT,RIGHT"⟩,
    ⟨0x1f5e8, "", "LEFT SPEECH BUBBLE,RIGHT SPEECH BUBBLE,TWO SPEECH BUBBLES,THREE SPEECH BUBBLES"⟩,
    ⟨0x1f5ec, "", "LEFT THOUGHT BUBBLE,RIGHT THOUGHT BUBBLE,LEFT ANGER BUBBLE"⟩,
    ⟨0x1f5ef, "", "RIGHT ANGER BUBBLE,MOOD BUBBLE,LIGHTNING MOOD BUBBLE,LIGHTNING MOOD"⟩,
    ⟨0x1f5f3, "BALLOT ", "BOX WITH BALLOT,SCRIPT X,BOX WITH SCRIPT X,BOLD SCRIPT X"⟩,
    ⟨0x1f5f7, "", "BALLOT BOX WITH BOLD SCRIPT X,LIGHT CHECK MARK,BALLOT BOX WITH BOLD CHECK"⟩,
    ⟨0x1f5fa, "", "WORLD MAP,MOUNT FUJI,TOKYO TOWER,STATUE OF LIBERTY,SILHOUETTE OF JAPAN"⟩,
    ⟨0x1f5ff, "", "MOYAI,GRINNING FACE,GRINNING FACE WITH SMILING EYES,FACE WITH TEARS OF JOY"⟩,
    ⟨0x1f603, "SMILING FACE WITH OPEN ", "MOUTH,MOUTH AND SMILING EYES,MOUTH AND COLD SWEAT"⟩,
    ⟨0x1f606, "SMILING FACE WITH ", "OPEN MOUTH AND TIGHTLY-CLOSED EYES,HALO,HORNS"⟩,
    ⟨0x1f609, "", "WINKING FACE,SMILING FACE WITH SMILING EYES,FACE SAVOURING DELICIOUS FOOD"⟩,
    ⟨0x1f60c, "", "RELIEVED FACE,SMILING FACE WITH HEART-SHAPED EYES"⟩,
    ⟨0x1f60e, "", "SMILING FACE WITH SUNGLASSES,SMIRKING FACE,NEUTRAL FACE,EXPRESSIONLESS FACE"⟩,
    ⟨0x1f612, "", "UNAMUSED FACE,FACE WITH COLD SWEAT,PENSIVE FACE,CONFUSED FACE,CONFOUNDED FACE"⟩,
    ⟨0x1f617, "", "KISSING FACE,FACE THROWING A KISS,KISSING FACE WITH SMILING EYES"⟩,
    ⟨0x1f61a, "", "KISSING FACE WITH CLOSED EYES,FACE WITH STUCK-OUT TONGUE"⟩,
    ⟨0x1f61c, "FACE WITH STUCK-OUT TONGUE AND ", "WINKING EYE,TIGHTLY-CLOSED EYES"⟩,
    ⟨0x1f61e, "", "DISAPPOINTED FACE,WORRIED FACE,ANGRY FACE,POUTING FACE,CRYING FACE"⟩,
    ⟨0x1f623, "", "PERSEVERING FACE,FACE WITH LOOK OF TRIUMPH,DISAPPOINTED BUT RELIEVED FACE"⟩,
    ⟨0x1f626, "", "FROWNING FACE WITH OPEN MOUTH,ANGUISHED FACE,FEARFUL FACE"⟩,
    ⟨0x1f629, "", "WEARY FACE,SLEEPY FACE,TIRED FACE,GRIMACING FACE,LOUDLY CRYING FACE"⟩,
    ⟨0x1f62e, "", "FACE WITH OPEN MOUTH,HUSHED FACE,FACE WITH OPEN MOUTH AND COLD SWEAT"⟩,
    ⟨0x1f631, "", "FACE SCREAMING IN FEAR,ASTONISHED FACE,FLUSHED FACE,SLEEPING FACE,DIZZY FACE"⟩,
    ⟨0x1f636, "FACE ", "WITHOUT MOUTH,WITH MEDICAL MASK"⟩,
    ⟨0x1f638, "", "GRINNING CAT FACE WITH SMILING EYES,CAT FACE WITH TEARS OF JOY"⟩,
    ⟨0x1f63a, "SMILING CAT FACE WITH ", "OPEN MOUTH,HEART-SHAPED EYES"⟩,
    ⟨0x1f63c, "", "CAT FACE WITH WRY SMILE,KISSING CAT FACE WITH CLOSED EYES,POUTING CAT FACE"⟩,
    ⟨0x1f63f, "", "CRYING CAT FACE,WEARY CAT FACE,SLIGHTLY FROWNING FACE,SLIGHTLY SMILING FACE"⟩,
    ⟨0x1f643, "", "UPSIDE-DOWN FACE,FACE WITH ROLLING EYES,FACE WITH NO GOOD GESTURE"⟩,
    ⟨0x1f646, "", "FACE WITH OK GESTURE,PERSON BOWING DEEPLY,SEE-NO-EVIL MONKEY"⟩,
    ⟨0x1f649, "", "HEAR-NO-EVIL MONKEY,SPEAK-NO-EVIL MONKEY,HAPPY PERSON RAISING ONE HAND"⟩,
    ⟨0x1f64c, "PERSON ", "RAISING BOTH HANDS IN CELEBRATION,FROWNING,WITH POUTING FACE"⟩,
    ⟨0x1f64f, "", "PERSON WITH FOLDED HANDS,NORTH WEST POINTING LEAF"⟩,
    ⟨0x1f651, "", "SOUTH WEST POINTING LEAF,NORTH EAST POINTING LEAF,SOUTH EAST POINTING LEAF"⟩,
    ⟨0x1f654, "TURNED ", "NORTH WEST POINTING LEAF,SOUTH WEST POINTING LEAF"⟩,
    ⟨0x1f656, "TURNED ", "NORTH EAST POINTING LEAF,SOUTH EAST POINTING LEAF"⟩,
    ⟨0x1f658, "", "NORTH WEST POINTING VINE LEAF,SOUTH WEST POINTING VINE LEAF"⟩,
    ⟨0x1f65a, "", "NORTH EAST POINTING VINE LEAF,SOUTH EAST POINTING VINE LEAF"⟩,
    ⟨0x1f65c, "HEAVY ", "NORTH WEST POINTING VINE LEAF,SOUTH WEST POINTING VINE LEAF"⟩,
    ⟨0x1f65e, "HEAVY ", "NORTH EAST POINTING VINE LEAF,SOUTH EAST POINTING VINE LEAF"⟩,
    ⟨0x1f660, "", "NORTH WEST POINTING BUD,SOUTH WEST POINTING BUD"⟩,
    ⟨0x1f662, "", "NORTH EAST POINTING BUD,SOUTH EAST POINTING BUD,HEAVY NORTH WEST POINTING BUD"⟩,
    ⟨0x1f665, "HEAVY ", "SOUTH WEST POINTING BUD,NORTH EAST POINTING BUD,SOUTH EAST POINTING BUD"⟩,
    ⟨0x1f668, "HOLLOW QUILT SQUARE ", "ORNAMENT,ORNAMENT IN BLACK SQUARE"⟩,
    ⟨0x1f66a, "SOLID QUILT SQUARE ", "ORNAMENT,ORNAMENT IN BLACK SQUARE"⟩,
    ⟨0x1f66c, "", "LEFTWARDS ROCKET,UPWARDS ROCKET,RIGHTWARDS ROCKET"⟩,
    ⟨0x1f66f, "", "DOWNWARDS ROCKET,SCRIPT LIGATURE ET ORNAMENT,HEAVY SCRIPT LIGATURE ET ORNAMENT"⟩,
    ⟨0x1f672, "", "LIGATURE OPEN ET ORNAMENT,HEAVY LIGATURE OPEN ET ORNAMENT"⟩,
    ⟨0x1f674, "", "HEAVY AMPERSAND ORNAMENT,SWASH AMPERSAND ORNAMENT"⟩,
    ⟨0x1f676, "", "SANS-SERIF HEAVY DOUBLE TURNED COMMA QUOTATION MARK ORNAMENT"⟩,
    ⟨0x1f677, "", "SANS-SERIF HEAVY DOUBLE COMMA QUOTATION MARK ORNAMENT"⟩,
    ⟨0x1f678, "", "SANS-SERIF HEAVY LOW DOUBLE COMMA QUOTATION MARK ORNAMENT"⟩,
    ⟨0x1f679, "", "HEAVY INTERROBANG ORNAMENT"⟩,
    ⟨0x1f67a, "", "SANS-SERIF INTERROBANG ORNAMENT,HEAVY SANS-SERIF INTERROBANG ORNAMENT"⟩,
    ⟨0x1f67c, "", "VERY HEAVY SOLIDUS,VERY HEAVY REVERSE SOLIDUS,CHECKER BOARD"⟩,
    ⟨0x1f67f, "", "REVERSE CHECKER BOARD,ROCKET,HELICOPTER,STEAM LOCOMOTIVE,RAILWAY CAR"⟩,
    ⟨0x1f684, "", "HIGH-SPEED TRAIN,HIGH-SPEED TRAIN WITH BULLET NOSE,TRAIN,METRO,LIGHT RAIL"⟩,
    ⟨0x1f689, "", "STATION,TRAM,TRAM CAR,BUS,ONCOMING BUS,TROLLEYBUS,BUS STOP,MINIBUS,AMBULANCE"⟩,
    ⟨0x1f692, "", "FIRE ENGINE,POLICE CAR,ONCOMING POLICE CAR,TAXI,ONCOMING TAXI,AUTOMOBILE"⟩,
    ⟨0x1f698, "", "ONCOMING AUTOMOBILE,RECREATIONAL VEHICLE,DELIVERY TRUCK,ARTICULATED LORRY"⟩,
    ⟨0x1f69c, "", "TRACTOR,MONORAIL,MOUNTAIN RAILWAY,SUSPENSION RAILWAY,MOUNTAIN CABLEWAY"⟩,
    ⟨0x1f6a1, "", "AERIAL TRAMWAY,SHIP,ROWBOAT,SPEEDBOAT,HORIZONTAL TRAFFIC LIGHT"⟩,
    ⟨0x1f6a6, "", "VERTICAL TRAFFIC LIGHT,CONSTRUCTION SIGN,POLICE CARS REVOLVING LIGHT"⟩,
    ⟨0x1f6a9, "", "TRIANGULAR FLAG ON POST,DOOR,NO ENTRY SIGN,SMOKING SYMBOL,NO SMOKING SYMBOL"⟩,
    ⟨0x1f6ae, "", "PUT LITTER IN ITS PLACE SYMBOL,DO NOT LITTER SYMBOL,POTABLE WATER SYMBOL"⟩,
    ⟨0x1f6b1, "", "NON-POTABLE WATER SYMBOL,BICYCLE,NO BICYCLES,BICYCLIST,MOUNTAIN BICYCLIST"⟩,
    ⟨0x1f6b6, "", "PEDESTRIAN,NO PEDESTRIANS,CHILDREN CROSSING,MENS SYMBOL,WOMENS SYMBOL,RESTROOM"⟩,
    ⟨0x1f6bc, "", "BABY SYMBOL,TOILET,WATER CLOSET,SHOWER,BATH,BATHTUB,PASSPORT CONTROL,CUSTOMS"⟩,
    ⟨0x1f6c4, "", "BAGGAGE CLAIM,LEFT LUGGAGE,TRIANGLE WITH ROUNDED CORNERS,PROHIBITED SIGN"⟩,
    ⟨0x1f6c8, "", "CIRCLED INFORMATION SOURCE,BOYS SYMBOL,GIRLS SYMBOL,COUCH AND LAMP"⟩,
    ⟨0x1f6cc, "", "SLEEPING ACCOMMODATION,SHOPPING BAGS,BELLHOP BELL,BED,PLACE OF WORSHIP"⟩,
    ⟨0x1f6d1, "", "OCTAGONAL SIGN,SHOPPING TROLLEY,STUPA,PAGODA,HINDU TEMPLE,HUT,ELEVATOR"⟩,
    ⟨0x1f6dd, "", "PLAYGROUND SLIDE,WHEEL,RING BUOY,HAMMER AND WRENCH,SHIELD"⟩,
    ⟨0x1f6e2, "", "OIL DRUM,MOTORWAY,RAILWAY TRACK,MOTOR BOAT,UP-POINTING MILITARY AIRPLANE"⟩,
    ⟨0x1f6e7, "", "UP-POINTING AIRPLANE,UP-POINTING SMALL AIRPLANE,SMALL AIRPLANE"⟩,
    ⟨0x1f6ea, "", "NORTHEAST-POINTING AIRPLANE,AIRPLANE DEPARTURE,AIRPLANE ARRIVING,,,,SATELLITE"⟩,
    ⟨0x1f6f1, "", "ONCOMING FIRE ENGINE,DIESEL LOCOMOTIVE,PASSENGER SHIP,SCOOTER,MOTOR SCOOTER"⟩,
    ⟨0x1f6f6, "", "CANOE,SLED,FLYING SAUCER,SKATEBOARD,AUTO RICKSHAW,PICKUP TRUCK,ROLLER SKATE"⟩,
    ⟨0x1f700, "ALCHEMICAL SYMBOL FOR ", "QUINTESSENCE,AIR,FIRE,EARTH,WATER,AQUAFORTIS,AQUA REGIA"⟩,
    ⟨0x1f707, "ALCHEMICAL SYMBOL FOR ", "AQUA REGIA-2,AQUA VITAE,AQUA VITAE-2,VINEGAR,VINEGAR-2"⟩,
    ⟨0x1f70c, "ALCHEMICAL SYMBOL FOR ", "VINEGAR-3,SULFUR,PHILOSOPHERS SULFUR,BLACK SULFUR"⟩,
    ⟨0x1f710, "ALCHEMICAL SYMBOL FOR MERCURY ", "SUBLIMATE,SUBLIMATE-2,SUBLIMATE-3"⟩,
    ⟨0x1f713, "ALCHEMICAL SYMBOL FOR ", "CINNABAR,SALT,NITRE"⟩,
    ⟨0x1f716, "ALCHEMICAL SYMBOL FOR ", "VITRIOL,VITRIOL-2,ROCK SALT,ROCK SALT-2,GOLD,SILVER"⟩,
    ⟨0x1f71c, "ALCHEMICAL SYMBOL FOR ", "IRON ORE,IRON ORE-2,CROCUS OF IRON,REGULUS OF IRON"⟩,
    ⟨0x1f720, "ALCHEMICAL SYMBOL FOR ", "COPPER ORE,IRON-COPPER ORE,SUBLIMATE OF COPPER"⟩,
    ⟨0x1f723, "ALCHEMICAL SYMBOL FOR CROCUS OF ", "COPPER,COPPER-2"⟩,
    ⟨0x1f725, "ALCHEMICAL SYMBOL FOR ", "COPPER ANTIMONIATE,SALT OF COPPER ANTIMONIATE"⟩,
    ⟨0x1f727, "ALCHEMICAL SYMBOL FOR ", "SUBLIMATE OF SALT OF COPPER,VERDIGRIS,TIN ORE,LEAD ORE"⟩,
    ⟨0x1f72b, "ALCHEMICAL SYMBOL FOR ", "ANTIMONY ORE,SUBLIMATE OF ANTIMONY,SALT OF ANTIMONY"⟩,
    ⟨0x1f72e, "ALCHEMICAL SYMBOL FOR ", "SUBLIMATE OF SALT OF ANTIMONY,VINEGAR OF ANTIMONY"⟩,
    ⟨0x1f730, "ALCHEMICAL SYMBOL FOR REGULUS OF ", "ANTIMONY,ANTIMONY-2"⟩,
    ⟨0x1f732, "ALCHEMICAL SYMBOL FOR ", "REGULUS,REGULUS-2,REGULUS-3,REGULUS-4,ALKALI,ALKALI-2"⟩,
    ⟨0x1f738, "ALCHEMICAL SYMBOL FOR ", "MARCASITE,SAL-AMMONIAC,ARSENIC,REALGAR,REALGAR-2"⟩,
    ⟨0x1f73d, "ALCHEMICAL SYMBOL FOR ", "AURIPIGMENT,BISMUTH ORE,TARTAR,TARTAR-2,QUICK LIME"⟩,
    ⟨0x1f742, "ALCHEMICAL SYMBOL FOR ", "BORAX,BORAX-2,BORAX-3,ALUM,OIL,SPIRIT,TINCTURE"⟩,
    ⟨0x1f749, "ALCHEMICAL SYMBOL FOR ", "GUM,WAX,POWDER,CALX,TUTTY,CAPUT MORTUUM,SCEPTER OF JOVE"⟩,
    ⟨0x1f750, "ALCHEMICAL SYMBOL FOR ", "CADUCEUS,TRIDENT,STARRED TRIDENT,LODESTONE,SOAP,URINE"⟩,
    ⟨0x1f756, "ALCHEMICAL SYMBOL FOR ", "HORSE DUNG,ASHES,POT ASHES,BRICK,POWDERED BRICK,AMALGAM"⟩,
    ⟨0x1f75c, "ALCHEMICAL SYMBOL FOR STRATUM SUPER ", "STRATUM,STRATUM-2"⟩,
    ⟨0x1f75e, "ALCHEMICAL SYMBOL FOR ", "SUBLIMATION,PRECIPITATE"⟩,
    ⟨0x1f760, "ALCHEMICAL SYMBOL FOR ", "DISTILL,DISSOLVE,DISSOLVE-2,PURIFY,PUTREFACTION,CRUCIBLE"⟩,
    ⟨0x1f766, "ALCHEMICAL SYMBOL FOR CRUCIBLE-", "2,3,4,5"⟩,
    ⟨0x1f76a, "ALCHEMICAL SYMBOL FOR ", "ALEMBIC,BATH OF MARY,BATH OF VAPOURS"⟩,
    ⟨0x1f76d, "ALCHEMICAL SYMBOL FOR ", "RETORT,HOUR,NIGHT,DAY-NIGHT,MONTH,HALF DRAM,HALF OUNCE"⟩,
    ⟨0x1f780, "", "BLACK LEFT-POINTING ISOSCELES RIGHT TRIANGLE"⟩,
    ⟨0x1f781, "", "BLACK UP-POINTING ISOSCELES RIGHT TRIANGLE"⟩,
    ⟨0x1f782, "", "BLACK RIGHT-POINTING ISOSCELES RIGHT TRIANGLE"⟩,
    ⟨0x1f783, "BLACK ", "DOWN-POINTING ISOSCELES RIGHT TRIANGLE,SLIGHTLY SMALL CIRCLE"⟩,
    ⟨0x1f785, "", "MEDIUM BOLD WHITE CIRCLE,BOLD WHITE CIRCLE"⟩,
    ⟨0x1f787, "", "HEAVY WHITE CIRCLE,VERY HEAVY WHITE CIRCLE,EXTREMELY HEAVY WHITE CIRCLE"⟩,
    ⟨0x1f78a, "", "WHITE CIRCLE CONTAINING BLACK SMALL CIRCLE,ROUND TARGET,BLACK TINY SQUARE"⟩,
    ⟨0x1f78d, "", "BLACK SLIGHTLY SMALL SQUARE,LIGHT WHITE SQUARE,MEDIUM WHITE SQUARE"⟩,
    ⟨0x1f790, "", "BOLD WHITE SQUARE,HEAVY WHITE SQUARE,VERY HEAVY WHITE SQUARE"⟩,
    ⟨0x1f793, "", "EXTREMELY HEAVY WHITE SQUARE,WHITE SQUARE CONTAINING BLACK VERY SMALL SQUARE"⟩,
    ⟨0x1f795, "", "WHITE SQUARE CONTAINING BLACK MEDIUM SQUARE,SQUARE TARGET"⟩,
    ⟨0x1f797, "BLACK ", "TINY DIAMOND,VERY SMALL DIAMOND,MEDIUM SMALL DIAMOND"⟩,
    ⟨0x1f79a, "WHITE DIAMOND CONTAINING BLACK ", "VERY SMALL DIAMOND,MEDIUM DIAMOND"⟩,
    ⟨0x1f79c, "", "DIAMOND TARGET,BLACK TINY LOZENGE,BLACK VERY SMALL LOZENGE"⟩,
    ⟨0x1f79f, "", "BLACK MEDIUM SMALL LOZENGE,WHITE LOZENGE CONTAINING BLACK SMALL LOZENGE"⟩,
    ⟨0x1f7a1, "", "THIN GREEK CROSS,LIGHT GREEK CROSS,MEDIUM GREEK CROSS,BOLD GREEK CROSS"⟩,
    ⟨0x1f7a5, "", "VERY BOLD GREEK CROSS,VERY HEAVY GREEK CROSS,EXTREMELY HEAVY GREEK CROSS"⟩,
    ⟨0x1f7a8, "", "THIN SALTIRE,LIGHT SALTIRE,MEDIUM SALTIRE,BOLD SALTIRE,HEAVY SALTIRE"⟩,
    ⟨0x1f7ad, "", "VERY HEAVY SALTIRE,EXTREMELY HEAVY SALTIRE,LIGHT FIVE SPOKED ASTERISK"⟩,
    ⟨0x1f7b0, "", "MEDIUM FIVE SPOKED ASTERISK,BOLD FIVE SPOKED ASTERISK"⟩,
    ⟨0x1f7b2, "", "HEAVY FIVE SPOKED ASTERISK,VERY HEAVY FIVE SPOKED ASTERISK"⟩,
    ⟨0x1f7b4, "", "EXTREMELY HEAVY FIVE SPOKED ASTERISK,LIGHT SIX SPOKED ASTERISK"⟩,
    ⟨0x1f7b6, "", "MEDIUM SIX SPOKED ASTERISK,BOLD SIX SPOKED ASTERISK,HEAVY SIX SPOKED ASTERISK"⟩,
    ⟨0x1f7b9, "", "VERY HEAVY SIX SPOKED ASTERISK,EXTREMELY HEAVY SIX SPOKED ASTERISK"⟩,
    ⟨0x1f7bb, "", "LIGHT EIGHT SPOKED ASTERISK,MEDIUM EIGHT SPOKED ASTERISK"⟩,
    ⟨0x1f7bd, "", "BOLD EIGHT SPOKED ASTERISK,HEAVY EIGHT SPOKED ASTERISK"⟩,
    ⟨0x1f7bf, "", "VERY HEAVY EIGHT SPOKED ASTERISK,LIGHT THREE POINTED BLACK STAR"⟩,
    ⟨0x1f7c1, "", "MEDIUM THREE POINTED BLACK STAR,THREE POINTED BLACK STAR"⟩,
    ⟨0x1f7c3, "", "MEDIUM THREE POINTED PINWHEEL STAR,LIGHT FOUR POINTED BLACK STAR"⟩,
    ⟨0x1f7c5, "", "MEDIUM FOUR POINTED BLACK STAR,FOUR POINTED BLACK STAR"⟩,
    ⟨0x1f7c7, "", "MEDIUM FOUR POINTED PINWHEEL STAR,REVERSE LIGHT FOUR POINTED PINWHEEL STAR"⟩,
    ⟨0x1f7c9, "", "LIGHT FIVE POINTED BLACK STAR,HEAVY FIVE POINTED BLACK STAR"⟩,
    ⟨0x1f7cb, "", "MEDIUM SIX POINTED BLACK STAR,HEAVY SIX POINTED BLACK STAR"⟩,
    ⟨0x1f7cd, "", "SIX POINTED PINWHEEL STAR,MEDIUM EIGHT POINTED BLACK STAR"⟩,
    ⟨0x1f7cf, "", "HEAVY EIGHT POINTED BLACK STAR,VERY HEAVY EIGHT POINTED BLACK STAR"⟩,
    ⟨0x1f7d1, "", "HEAVY EIGHT POINTED PINWHEEL STAR,LIGHT TWELVE POINTED BLACK STAR"⟩,
    ⟨0x1f7d3, "HEAVY TWELVE POINTED ", "BLACK STAR,PINWHEEL STAR"⟩,
    ⟨0x1f7d5, "", "CIRCLED TRIANGLE"⟩,
    ⟨0x1f7d6, "", "NEGATIVE CIRCLED TRIANGLE,CIRCLED SQUARE,NEGATIVE CIRCLED SQUARE"⟩,
    ⟨0x1f7e0, "LARGE ", "ORANGE CIRCLE,YELLOW CIRCLE,GREEN CIRCLE,PURPLE CIRCLE,BROWN CIRCLE"⟩,
    ⟨0x1f7e5, "LARGE ", "RED SQUARE,BLUE SQUARE,ORANGE SQUARE,YELLOW SQUARE,GREEN SQUARE"⟩,
    ⟨0x1f7ea, "", "LARGE PURPLE SQUARE,LARGE BROWN SQUARE,,,,,HEAVY EQUALS SIGN"⟩,
    ⟨0x1f800, "", "LEFTWARDS ARROW WITH SMALL TRIANGLE ARROWHEAD"⟩,
    ⟨0x1f801, "", "UPWARDS ARROW WITH SMALL TRIANGLE ARROWHEAD"⟩,
    ⟨0x1f802, "", "RIGHTWARDS ARROW WITH SMALL TRIANGLE ARROWHEAD"⟩,
    ⟨0x1f803, "", "DOWNWARDS ARROW WITH SMALL TRIANGLE ARROWHEAD"⟩,
    ⟨0x1f804, "", "LEFTWARDS ARROW WITH MEDIUM TRIANGLE ARROWHEAD"⟩,
    ⟨0x1f805, "", "UPWARDS ARROW WITH MEDIUM TRIANGLE ARROWHEAD"⟩,
    ⟨0x1f806, "", "RIGHTWARDS ARROW WITH MEDIUM TRIANGLE ARROWHEAD"⟩,
    ⟨0x1f807, "", "DOWNWARDS ARROW WITH MEDIUM TRIANGLE ARROWHEAD"⟩,
    ⟨0x1f808, "", "LEFTWARDS ARROW WITH LARGE TRIANGLE ARROWHEAD"⟩,
    ⟨0x1f809, "", "UPWARDS ARROW WITH LARGE TRIANGLE ARROWHEAD"⟩,
    ⟨0x1f80a, "", "RIGHTWARDS ARROW WITH LARGE TRIANGLE ARROWHEAD"⟩,
    ⟨0x1f80b, "", "DOWNWARDS ARROW WITH LARGE TRIANGLE ARROWHEAD"⟩,
    ⟨0x1f810, "", "LEFTWARDS ARROW WITH SMALL EQUILATERAL ARROWHEAD"⟩,
    ⟨0x1f811, "", "UPWARDS ARROW WITH SMALL EQUILATERAL ARROWHEAD"⟩,
    ⟨0x1f812, "", "RIGHTWARDS ARROW WITH SMALL EQUILATERAL ARROWHEAD"⟩,
    ⟨0x1f813, "", "DOWNWARDS ARROW WITH SMALL EQUILATERAL ARROWHEAD"⟩,
    ⟨0x1f814, "", "LEFTWARDS ARROW WITH EQUILATERAL ARROWHEAD"⟩,
    ⟨0x1f815, "", "UPWARDS ARROW WITH EQUILATERAL ARROWHEAD"⟩,
    ⟨0x1f816, "", "RIGHTWARDS ARROW WITH EQUILATERAL ARROWHEAD"⟩,
    ⟨0x1f817, "", "DOWNWARDS ARROW WITH EQUILATERAL ARROWHEAD"⟩,
    ⟨0x1f818, "", "HEAVY LEFTWARDS ARROW WITH EQUILATERAL ARROWHEAD"⟩,
    ⟨0x1f819, "", "HEAVY UPWARDS ARROW WITH EQUILATERAL ARROWHEAD"⟩,
    ⟨0x1f81a, "", "HEAVY RIGHTWARDS ARROW WITH EQUILATERAL ARROWHEAD"⟩,
    ⟨0x1f81b, "", "HEAVY DOWNWARDS ARROW WITH EQUILATERAL ARROWHEAD"⟩,
    ⟨0x1f81c, "", "HEAVY LEFTWARDS ARROW WITH LARGE EQUILATERAL ARROWHEAD"⟩,
    ⟨0x1f81d, "", "HEAVY UPWARDS ARROW WITH LARGE EQUILATERAL ARROWHEAD"⟩,
    ⟨0x1f81e, "", "HEAVY RIGHTWARDS ARROW WITH LARGE EQUILATERAL ARROWHEAD"⟩,
    ⟨0x1f81f, "", "HEAVY DOWNWARDS ARROW WITH LARGE EQUILATERAL ARROWHEAD"⟩,
    ⟨0x1f820, "", "LEFTWARDS TRIANGLE-HEADED ARROW WITH NARROW SHAFT"⟩,
    ⟨0x1f821, "", "UPWARDS TRIANGLE-HEADED ARROW WITH NARROW SHAFT"⟩,
    ⟨0x1f822, "", "RIGHTWARDS TRIANGLE-HEADED ARROW WITH NARROW SHAFT"⟩,
    ⟨0x1f823, "", "DOWNWARDS TRIANGLE-HEADED ARROW WITH NARROW SHAFT"⟩,
    ⟨0x1f824, "", "LEFTWARDS TRIANGLE-HEADED ARROW WITH MEDIUM SHAFT"⟩,
    ⟨0x1f825, "", "UPWARDS TRIANGLE-HEADED ARROW WITH MEDIUM SHAFT"⟩,
    ⟨0x1f826, "", "RIGHTWARDS TRIANGLE-HEADED ARROW WITH MEDIUM SHAFT"⟩,
    ⟨0x1f827, "", "DOWNWARDS TRIANGLE-HEADED ARROW WITH MEDIUM SHAFT"⟩,
    ⟨0x1f828, "", "LEFTWARDS TRIANGLE-HEADED ARROW WITH BOLD SHAFT"⟩,
    ⟨0x1f829, "", "UPWARDS TRIANGLE-HEADED ARROW WITH BOLD SHAFT"⟩,
    ⟨0x1f82a, "", "RIGHTWARDS TRIANGLE-HEADED ARROW WITH BOLD SHAFT"⟩,
    ⟨0x1f82b, "", "DOWNWARDS TRIANGLE-HEADED ARROW WITH BOLD SHAFT"⟩,
    ⟨0x1f82c, "", "LEFTWARDS TRIANGLE-HEADED ARROW WITH HEAVY SHAFT"⟩,
    ⟨0x1f82d, "", "UPWARDS TRIANGLE-HEADED ARROW WITH HEAVY SHAFT"⟩,
    ⟨0x1f82e, "", "RIGHTWARDS TRIANGLE-HEADED ARROW WITH HEAVY SHAFT"⟩,
    ⟨0x1f82f, "", "DOWNWARDS TRIANGLE-HEADED ARROW WITH HEAVY SHAFT"⟩,
    ⟨0x1f830, "", "LEFTWARDS TRIANGLE-HEADED ARROW WITH VERY HEAVY SHAFT"⟩,
    ⟨0x1f831, "", "UPWARDS TRIANGLE-HEADED ARROW WITH VERY HEAVY SHAFT"⟩,
    ⟨0x1f832, "", "RIGHTWARDS TRIANGLE-HEADED ARROW WITH VERY HEAVY SHAFT"⟩,
    ⟨0x1f833, "", "DOWNWARDS TRIANGLE-HEADED ARROW WITH VERY HEAVY SHAFT"⟩,
    ⟨0x1f834, "", "LEFTWARDS FINGER-POST ARROW"⟩,
    ⟨0x1f835, "", "UPWARDS FINGER-POST ARROW,RIGHTWARDS FINGER-POST ARROW"⟩,
    ⟨0x1f837, "", "DOWNWARDS FINGER-POST ARROW,LEFTWARDS SQUARED ARROW,UPWARDS SQUARED ARROW"⟩,
    ⟨0x1f83a, "", "RIGHTWARDS SQUARED ARROW,DOWNWARDS SQUARED ARROW,LEFTWARDS COMPRESSED ARROW"⟩,
    ⟨0x1f83d, "", "UPWARDS COMPRESSED ARROW,RIGHTWARDS COMPRESSED ARROW"⟩,
    ⟨0x1f83f, "", "DOWNWARDS COMPRESSED ARROW,LEFTWARDS HEAVY COMPRESSED ARROW"⟩,
    ⟨0x1f841, "", "UPWARDS HEAVY COMPRESSED ARROW,RIGHTWARDS HEAVY COMPRESSED ARROW"⟩,
    ⟨0x1f843, "", "DOWNWARDS HEAVY COMPRESSED ARROW,LEFTWARDS HEAVY ARROW"⟩,
    ⟨0x1f845, "", "UPWARDS HEAVY ARROW,RIGHTWARDS HEAVY ARROW,DOWNWARDS HEAVY ARROW"⟩,
    ⟨0x1f850, "", "LEFTWARDS SANS-SERIF ARROW,UPWARDS SANS-SERIF ARROW"⟩,
    ⟨0x1f852, "", "RIGHTWARDS SANS-SERIF ARROW,DOWNWARDS SANS-SERIF ARROW"⟩,
    ⟨0x1f854, "NORTH ", "WEST SANS-SERIF ARROW,EAST SANS-SERIF ARROW"⟩,
    ⟨0x1f856, "SOUTH ", "EAST SANS-SERIF ARROW,WEST SANS-SERIF ARROW"⟩,
    ⟨0x1f858, "", "LEFT RIGHT SANS-SERIF ARROW,UP DOWN SANS-SERIF ARROW"⟩,
    ⟨0x1f860, "WIDE-HEADED ", "LEFTWARDS LIGHT BARB ARROW,UPWARDS LIGHT BARB ARROW"⟩,
    ⟨0x1f862, "WIDE-HEADED ", "RIGHTWARDS LIGHT BARB ARROW,DOWNWARDS LIGHT BARB ARROW"⟩,
    ⟨0x1f864, "WIDE-HEADED NORTH ", "WEST LIGHT BARB ARROW,EAST LIGHT BARB ARROW"⟩,
    ⟨0x1f866, "WIDE-HEADED SOUTH ", "EAST LIGHT BARB ARROW,WEST LIGHT BARB ARROW"⟩,
    ⟨0x1f868, "WIDE-HEADED ", "LEFTWARDS BARB ARROW,UPWARDS BARB ARROW,RIGHTWARDS BARB ARROW"⟩,
    ⟨0x1f86b, "WIDE-HEADED ", "DOWNWARDS BARB ARROW,NORTH WEST BARB ARROW,NORTH EAST BARB ARROW"⟩,
    ⟨0x1f86e, "WIDE-HEADED SOUTH ", "EAST BARB ARROW,WEST BARB ARROW"⟩,
    ⟨0x1f870, "WIDE-HEADED ", "LEFTWARDS MEDIUM BARB ARROW,UPWARDS MEDIUM BARB ARROW"⟩,
    ⟨0x1f872, "WIDE-HEADED ", "RIGHTWARDS MEDIUM BARB ARROW,DOWNWARDS MEDIUM BARB ARROW"⟩,
    ⟨0x1f874, "WIDE-HEADED NORTH ", "WEST MEDIUM BARB ARROW,EAST MEDIUM BARB ARROW"⟩,
    ⟨0x1f876, "WIDE-HEADED SOUTH ", "EAST MEDIUM BARB ARROW,WEST MEDIUM BARB ARROW"⟩,
    ⟨0x1f878, "WIDE-HEADED ", "LEFTWARDS HEAVY BARB ARROW,UPWARDS HEAVY BARB ARROW"⟩,
    ⟨0x1f87a, "WIDE-HEADED ", "RIGHTWARDS HEAVY BARB ARROW,DOWNWARDS HEAVY BARB ARROW"⟩,
    ⟨0x1f87c, "WIDE-HEADED NORTH ", "WEST HEAVY BARB ARROW,EAST HEAVY BARB ARROW"⟩,
    ⟨0x1f87e, "WIDE-HEADED SOUTH ", "EAST HEAVY BARB ARROW,WEST HEAVY BARB ARROW"⟩,
    ⟨0x1f880, "WIDE-HEADED ", "LEFTWARDS VERY HEAVY BARB ARROW,UPWARDS VERY HEAVY BARB ARROW"⟩,
    ⟨0x1f882, "WIDE-HEADED ", "RIGHTWARDS VERY HEAVY BARB ARROW,DOWNWARDS VERY HEAVY BARB ARROW"⟩,
    ⟨0x1f884, "WIDE-HEADED NORTH ", "WEST VERY HEAVY BARB ARROW,EAST VERY HEAVY BARB ARROW"⟩,
    ⟨0x1f886, "WIDE-HEADED SOUTH ", "EAST VERY HEAVY BARB ARROW,WEST VERY HEAVY BARB ARROW"⟩,
    ⟨0x1f890, "", "LEFTWARDS TRIANGLE ARROWHEAD"⟩,
    ⟨0x1f891, "", "UPWARDS TRIANGLE ARROWHEAD,RIGHTWARDS TRIANGLE ARROWHEAD"⟩,
    ⟨0x1f893, "", "DOWNWARDS TRIANGLE ARROWHEAD,LEFTWARDS WHITE ARROW WITHIN TRIANGLE ARROWHEAD"⟩,
    ⟨0x1f895, "", "UPWARDS WHITE ARROW WITHIN TRIANGLE ARROWHEAD"⟩,
    ⟨0x1f896, "", "RIGHTWARDS WHITE ARROW WITHIN TRIANGLE ARROWHEAD"⟩,
    ⟨0x1f897, "", "DOWNWARDS WHITE ARROW WITHIN TRIANGLE ARROWHEAD"⟩,
    ⟨0x1f898, "", "LEFTWARDS ARROW WITH NOTCHED TAIL,UPWARDS ARROW WITH NOTCHED TAIL"⟩,
    ⟨0x1f89a, "", "RIGHTWARDS ARROW WITH NOTCHED TAIL,DOWNWARDS ARROW WITH NOTCHED TAIL"⟩,
    ⟨0x1f89c, "HEAVY ARROW SHAFT WIDTH ", "ONE,TWO THIRDS,ONE HALF,ONE THIRD"⟩,
    ⟨0x1f8a0, "", "LEFTWARDS BOTTOM-SHADED WHITE ARROW"⟩,
    ⟨0x1f8a1, "", "RIGHTWARDS BOTTOM SHADED WHITE ARROW,LEFTWARDS TOP SHADED WHITE ARROW"⟩,
    ⟨0x1f8a3, "", "RIGHTWARDS TOP SHADED WHITE ARROW,LEFTWARDS LEFT-SHADED WHITE ARROW"⟩,
    ⟨0x1f8a5, "", "RIGHTWARDS RIGHT-SHADED WHITE ARROW,LEFTWARDS RIGHT-SHADED WHITE ARROW"⟩,
    ⟨0x1f8a7, "", "RIGHTWARDS LEFT-SHADED WHITE ARROW,LEFTWARDS BACK-TILTED SHADOWED WHITE ARROW"⟩,
    ⟨0x1f8a9, "", "RIGHTWARDS BACK-TILTED SHADOWED WHITE ARROW"⟩,
    ⟨0x1f8aa, "", "LEFTWARDS FRONT-TILTED SHADOWED WHITE ARROW"⟩,
    ⟨0x1f8ab, "", "RIGHTWARDS FRONT-TILTED SHADOWED WHITE ARROW"⟩,
    ⟨0x1f8ac, "WHITE ARROW SHAFT WIDTH ", "ONE,TWO THIRDS"⟩,
    ⟨0x1f8b0, "ARROW POINTING ", "UPWARDS THEN NORTH WEST,RIGHTWARDS THEN CURVING SOUTH WEST"⟩,
    ⟨0x1f900, "CIRCLED CROSS ", "FORMEE WITH FOUR DOTS,FORMEE WITH TWO DOTS,FORMEE"⟩,
    ⟨0x1f903, "LEFT HALF CIRCLE WITH ", "FOUR DOTS,THREE DOTS,TWO DOTS,DOT"⟩,
    ⟨0x1f907, "", "LEFT HALF CIRCLE"⟩,
    ⟨0x1f908, "DOWNWARD FACING ", "HOOK,NOTCHED HOOK,HOOK WITH DOT,NOTCHED HOOK WITH DOT"⟩,
    ⟨0x1f90c, "", "PINCHED FINGERS,WHITE HEART,BROWN HEART,PINCHING HAND"⟩,
    ⟨0x1f910, "", "ZIPPER-MOUTH FACE,MONEY-MOUTH FACE,FACE WITH THERMOMETER,NERD FACE"⟩,
    ⟨0x1f914, "", "THINKING FACE,FACE WITH HEAD-BANDAGE,ROBOT FACE,HUGGING FACE,SIGN OF THE HORNS"⟩,
    ⟨0x1f919, "", "CALL ME HAND,RAISED BACK OF HAND,LEFT-FACING FIST,RIGHT-FACING FIST"⟩,
    ⟨0x1f91d, "", "HANDSHAKE,HAND WITH INDEX AND MIDDLE FINGERS CROSSED,I LOVE YOU HAND SIGN"⟩,
    ⟨0x1f920, "", "FACE WITH COWBOY HAT,CLOWN FACE,NAUSEATED FACE,ROLLING ON THE FLOOR LAUGHING"⟩,
    ⟨0x1f924, "", "DROOLING FACE,LYING FACE,FACE PALM,SNEEZING FACE,FACE WITH ONE EYEBROW RAISED"⟩,
    ⟨0x1f929, "GRINNING FACE WITH ", "STAR EYES,ONE LARGE AND ONE SMALL EYE"⟩,
    ⟨0x1f92b, "", "FACE WITH FINGER COVERING CLOSED LIPS,SERIOUS FACE WITH SYMBOLS COVERING MOUTH"⟩,
    ⟨0x1f92d, "", "SMILING FACE WITH SMILING EYES AND HAND COVERING MOUTH"⟩,
    ⟨0x1f92e, "", "FACE WITH OPEN MOUTH VOMITING,SHOCKED FACE WITH EXPLODING HEAD,PREGNANT WOMAN"⟩,
    ⟨0x1f931, "", "BREAST-FEEDING,PALMS UP TOGETHER,SELFIE,PRINCE,MAN IN TUXEDO,MOTHER CHRISTMAS"⟩,
    ⟨0x1f937, "", "SHRUG,PERSON DOING CARTWHEEL,JUGGLING,FENCER,MODERN PENTATHLON"⟩,
    ⟨0x1f93c, "", "WRESTLERS,WATER POLO,HANDBALL,DIVING MASK,WILTED FLOWER,DRUM WITH DRUMSTICKS"⟩,
    ⟨0x1f942, "", "CLINKING GLASSES,TUMBLER GLASS,SPOON,GOAL NET,RIFLE,FIRST PLACE MEDAL"⟩,
    ⟨0x1f948, "", "SECOND PLACE MEDAL,THIRD PLACE MEDAL,BOXING GLOVE,MARTIAL ARTS UNIFORM"⟩,
    ⟨0x1f94c, "", "CURLING STONE,LACROSSE STICK AND BALL,SOFTBALL,FLYING DISC,CROISSANT,AVOCADO"⟩,
    ⟨0x1f952, "", "CUCUMBER,BACON,POTATO,CARROT,BAGUETTE BREAD,GREEN SALAD,SHALLOW PAN OF FOOD"⟩,
    ⟨0x1f959, "", "STUFFED FLATBREAD,EGG,GLASS OF MILK,PEANUTS,KIWIFRUIT,PANCAKES"⟩,
    ⟨0x1f95f, "", "DUMPLING,FORTUNE COOKIE,TAKEOUT BOX,CHOPSTICKS,BOWL WITH SPOON,CUP WITH STRAW"⟩,
    ⟨0x1f965, "", "COCONUT,BROCCOLI,PIE,PRETZEL,CUT OF MEAT,SANDWICH,CANNED FOOD,LEAFY GREEN"⟩,
    ⟨0x1f96d, "", "MANGO,MOON CAKE,BAGEL,SMILING FACE WITH SMILING EYES AND THREE HEARTS"⟩,
    ⟨0x1f971, "", "YAWNING FACE,SMILING FACE WITH TEAR"⟩,
    ⟨0x1f973, "FACE WITH ", "PARTY HORN AND PARTY HAT,UNEVEN EYES AND WAVY MOUTH"⟩,
    ⟨0x1f975, "", "OVERHEATED FACE,FREEZING FACE,NINJA,DISGUISED FACE,FACE HOLDING BACK TEARS"⟩,
    ⟨0x1f97a, "", "FACE WITH PLEADING EYES,SARI,LAB COAT,GOGGLES,HIKING BOOT"⟩,
    ⟨0x1f97f, "", "FLAT SHOE,CRAB,LION FACE,SCORPION,TURKEY,UNICORN FACE,EAGLE,DUCK,BAT,SHARK,OWL"⟩,
    ⟨0x1f98a, "", "FOX FACE,BUTTERFLY,DEER,GORILLA,LIZARD,RHINOCEROS,SHRIMP,SQUID,GIRAFFE FACE"⟩,
    ⟨0x1f993, "", "ZEBRA FACE,HEDGEHOG,SAUROPOD,T-REX,CRICKET,KANGAROO,LLAMA,PEACOCK,HIPPOPOTAMUS"⟩,
    ⟨0x1f99c, "", "PARROT,RACCOON,LOBSTER,MOSQUITO,MICROBE,BADGER,SWAN,MAMMOTH,DODO,SLOTH"⟩,
    ⟨0x1f9a6, "", "OTTER,ORANGUTAN,SKUNK,FLAMINGO,OYSTER,BEAVER,BISON,SEAL,GUIDE DOG,PROBING CANE"⟩,
    ⟨0x1f9b0, "EMOJI COMPONENT ", "RED HAIR,CURLY HAIR,BALD,WHITE HAIR"⟩,
    ⟨0x1f9b4, "", "BONE,LEG,FOOT,TOOTH,SUPERHERO,SUPERVILLAIN,SAFETY VEST,EAR WITH HEARING AID"⟩,
    ⟨0x1f9bc, "", "MOTORIZED WHEELCHAIR,MANUAL WHEELCHAIR,MECHANICAL ARM,MECHANICAL LEG"⟩,
    ⟨0x1f9c0, "", "CHEESE WEDGE,CUPCAKE,SALT SHAKER,BEVERAGE BOX,GARLIC,ONION,FALAFEL,WAFFLE"⟩,
    ⟨0x1f9c8, "", "BUTTER,MATE DRINK,ICE CUBE,BUBBLE TEA,TROLL,STANDING PERSON,KNEELING PERSON"⟩,
    ⟨0x1f9cf, "", "DEAF PERSON,FACE WITH MONOCLE,ADULT,CHILD,OLDER ADULT,BEARDED PERSON"⟩,
    ⟨0x1f9d5, "PERSON ", "WITH HEADSCARF,IN STEAMY ROOM,CLIMBING,IN LOTUS POSITION"⟩,
    ⟨0x1f9d9, "", "MAGE,FAIRY,VAMPIRE,MERPERSON,ELF,GENIE,ZOMBIE,BRAIN,ORANGE HEART,BILLED CAP"⟩,
    ⟨0x1f9e3, "", "SCARF,GLOVES,COAT,SOCKS,RED GIFT ENVELOPE,FIRECRACKER,JIGSAW PUZZLE PIECE"⟩,
    ⟨0x1f9ea, "", "TEST TUBE,PETRI DISH,DNA DOUBLE HELIX,COMPASS,ABACUS,FIRE EXTINGUISHER,TOOLBOX"⟩,
    ⟨0x1f9f1, "", "BRICK,MAGNET,LUGGAGE,LOTION BOTTLE,SPOOL OF THREAD,BALL OF YARN,SAFETY PIN"⟩,
    ⟨0x1f9f8, "", "TEDDY BEAR,BROOM,BASKET,ROLL OF PAPER,BAR OF SOAP,SPONGE,RECEIPT,NAZAR AMULET"⟩,
    ⟨0x1fa00, "NEUTRAL CHESS ", "KING,QUEEN,ROOK,BISHOP,KNIGHT,PAWN"⟩,
    ⟨0x1fa06, "", "WHITE CHESS KNIGHT ROTATED FORTY-FIVE DEGREES"⟩,
    ⟨0x1fa07, "", "BLACK CHESS KNIGHT ROTATED FORTY-FIVE DEGREES"⟩,
    ⟨0x1fa08, "", "NEUTRAL CHESS KNIGHT ROTATED FORTY-FIVE DEGREES"⟩,
    ⟨0x1fa09, "WHITE CHESS ", "KING ROTATED NINETY DEGREES,QUEEN ROTATED NINETY DEGREES"⟩,
    ⟨0x1fa0b, "WHITE CHESS ", "ROOK ROTATED NINETY DEGREES,BISHOP ROTATED NINETY DEGREES"⟩,
    ⟨0x1fa0d, "WHITE CHESS ", "KNIGHT ROTATED NINETY DEGREES,PAWN ROTATED NINETY DEGREES"⟩,
    ⟨0x1fa0f, "BLACK CHESS ", "KING ROTATED NINETY DEGREES,QUEEN ROTATED NINETY DEGREES"⟩,
    ⟨0x1fa11, "BLACK CHESS ", "ROOK ROTATED NINETY DEGREES,BISHOP ROTATED NINETY DEGREES"⟩,
    ⟨0x1fa13, "BLACK CHESS ", "KNIGHT ROTATED NINETY DEGREES,PAWN ROTATED NINETY DEGREES"⟩,
    ⟨0x1fa15, "NEUTRAL CHESS ", "KING ROTATED NINETY DEGREES,QUEEN ROTATED NINETY DEGREES"⟩,
    ⟨0x1fa17, "NEUTRAL CHESS ", "ROOK ROTATED NINETY DEGREES,BISHOP ROTATED NINETY DEGREES"⟩,
    ⟨0x1fa19, "NEUTRAL CHESS ", "KNIGHT ROTATED NINETY DEGREES,PAWN ROTATED NINETY DEGREES"⟩,
    ⟨0x1fa1b, "", "WHITE CHESS KNIGHT ROTATED ONE HUNDRED THIRTY-FIVE DEGREES"⟩,
    ⟨0x1fa1c, "", "BLACK CHESS KNIGHT ROTATED ONE HUNDRED THIRTY-FIVE DEGREES"⟩,
    ⟨0x1fa1d, "", "NEUTRAL CHESS KNIGHT ROTATED ONE HUNDRED THIRTY-FIVE DEGREES"⟩,
    ⟨0x1fa1e, "WHITE CHESS TURNED ", "KING,QUEEN,ROOK,BISHOP,KNIGHT,PAWN"⟩,
    ⟨0x1fa24, "BLACK CHESS TURNED ", "KING,QUEEN,ROOK,BISHOP,KNIGHT,PAWN"⟩,
    ⟨0x1fa2a, "NEUTRAL CHESS TURNED ", "KING,QUEEN,ROOK,BISHOP,KNIGHT,PAWN"⟩,
    ⟨0x1fa30, "", "WHITE CHESS KNIGHT ROTATED TWO HUNDRED TWENTY-FIVE DEGREES"⟩,
    ⟨0x1fa31, "", "BLACK CHESS KNIGHT ROTATED TWO HUNDRED TWENTY-FIVE DEGREES"⟩,
    ⟨0x1fa32, "", "NEUTRAL CHESS KNIGHT ROTATED TWO HUNDRED TWENTY-FIVE DEGREES"⟩,
    ⟨0x1fa33, "", "WHITE CHESS KING ROTATED TWO HUNDRED SEVENTY DEGREES"⟩,
    ⟨0x1fa34, "", "WHITE CHESS QUEEN ROTATED TWO HUNDRED SEVENTY DEGREES"⟩,
    ⟨0x1fa35, "", "WHITE CHESS ROOK ROTATED TWO HUNDRED SEVENTY DEGREES"⟩,
    ⟨0x1fa36, "", "WHITE CHESS BISHOP ROTATED TWO HUNDRED SEVENTY DEGREES"⟩,
    ⟨0x1fa37, "", "WHITE CHESS KNIGHT ROTATED TWO HUNDRED SEVENTY DEGREES"⟩,
    ⟨0x1fa38, "", "WHITE CHESS PAWN ROTATED TWO HUNDRED SEVENTY DEGREES"⟩,
    ⟨0x1fa39, "", "BLACK CHESS KING ROTATED TWO HUNDRED SEVENTY DEGREES"⟩,
    ⟨0x1fa3a, "", "BLACK CHESS QUEEN ROTATED TWO HUNDRED SEVENTY DEGREES"⟩,
    ⟨0x1fa3b, "", "BLACK CHESS ROOK ROTATED TWO HUNDRED SEVENTY DEGREES"⟩,
    ⟨0x1fa3c, "", "BLACK CHESS BISHOP ROTATED TWO HUNDRED SEVENTY DEGREES"⟩,
    ⟨0x1fa3d, "", "BLACK CHESS KNIGHT ROTATED TWO HUNDRED SEVENTY DEGREES"⟩,
    ⟨0x1fa3e, "", "BLACK CHESS PAWN ROTATED TWO HUNDRED SEVENTY DEGREES"⟩,
    ⟨0x1fa3f, "", "NEUTRAL CHESS KING ROTATED TWO HUNDRED SEVENTY DEGREES"⟩,
    ⟨0x1fa40, "", "NEUTRAL CHESS QUEEN ROTATED TWO HUNDRED SEVENTY DEGREES"⟩,
    ⟨0x1fa41, "", "NEUTRAL CHESS ROOK ROTATED TWO HUNDRED SEVENTY DEGREES"⟩,
    ⟨0x1fa42, "", "NEUTRAL CHESS BISHOP ROTATED TWO HUNDRED SEVENTY DEGREES"⟩,
    ⟨0x1fa43, "", "NEUTRAL CHESS KNIGHT ROTATED TWO HUNDRED SEVENTY DEGREES"⟩,
    ⟨0x1fa44, "", "NEUTRAL CHESS PAWN ROTATED TWO HUNDRED SEVENTY DEGREES"⟩,
    ⟨0x1fa45, "", "WHITE CHESS KNIGHT ROTATED THREE HUNDRED FIFTEEN DEGREES"⟩,
    ⟨0x1fa46, "", "BLACK CHESS KNIGHT ROTATED THREE HUNDRED FIFTEEN DEGREES"⟩,
    ⟨0x1fa47, "", "NEUTRAL CHESS KNIGHT ROTATED THREE HUNDRED FIFTEEN DEGREES"⟩,
    ⟨0x1fa48, "", "WHITE CHESS EQUIHOPPER,BLACK CHESS EQUIHOPPER"⟩,
    ⟨0x1fa4a, "", "NEUTRAL CHESS EQUIHOPPER,WHITE CHESS EQUIHOPPER ROTATED NINETY DEGREES"⟩,
    ⟨0x1fa4c, "", "BLACK CHESS EQUIHOPPER ROTATED NINETY DEGREES"⟩,
    ⟨0x1fa4d, "", "NEUTRAL CHESS EQUIHOPPER ROTATED NINETY DEGREES"⟩,
    ⟨0x1fa4e, "WHITE CHESS KNIGHT-", "QUEEN,ROOK,BISHOP"⟩,
    ⟨0x1fa51, "BLACK CHESS KNIGHT-", "QUEEN,ROOK,BISHOP"⟩,
    ⟨0x1fa60, "XIANGQI RED ", "GENERAL,MANDARIN,ELEPHANT,HORSE,CHARIOT,CANNON,SOLDIER"⟩,
    ⟨0x1fa67, "XIANGQI BLACK ", "GENERAL,MANDARIN,ELEPHANT,HORSE,CHARIOT,CANNON,SOLDIER"⟩,
    ⟨0x1fa70, "", "BALLET SHOES,ONE-PIECE SWIMSUIT,BRIEFS,SHORTS,THONG SANDAL"⟩,
    ⟨0x1fa78, "", "DROP OF BLOOD,ADHESIVE BANDAGE,STETHOSCOPE,X-RAY,CRUTCH"⟩,
    ⟨0x1fa80, "", "YO-YO,KITE,PARACHUTE,BOOMERANG,MAGIC WAND,PINATA,NESTING DOLLS"⟩,
    ⟨0x1fa90, "", "RINGED PLANET,CHAIR,RAZOR,AXE,DIYA LAMP,BANJO,MILITARY HELMET"⟩,
    ⟨0x1fa97, "", "ACCORDION,LONG DRUM,COIN,CARPENTRY SAW,SCREWDRIVER,LADDER,HOOK,MIRROR,WINDOW"⟩,
    ⟨0x1faa0, "", "PLUNGER,SEWING NEEDLE,KNOT,BUCKET,MOUSE TRAP,TOOTHBRUSH,HEADSTONE,PLACARD"⟩,
    ⟨0x1faa8, "", "ROCK,MIRROR BALL,IDENTIFICATION CARD,LOW BATTERY,HAMSA,,,,FLY,WORM,BEETLE"⟩,
    ⟨0x1fab3, "", "COCKROACH,POTTED PLANT,WOOD,FEATHER,LOTUS,CORAL,EMPTY NEST,NEST WITH EGGS"⟩,
    ⟨0x1fac0, "", "ANATOMICAL HEART"⟩,
    ⟨0x1fac1, "", "LUNGS,PEOPLE HUGGING,PREGNANT MAN,PREGNANT PERSON,PERSON WITH CROWN"⟩,
    ⟨0x1fad0, "", "BLUEBERRIES,BELL PEPPER,OLIVE,FLATBREAD"⟩,
    ⟨0x1fad4, "", "TAMALE,FONDUE,TEAPOT,POURING LIQUID,BEANS,JAR,,,,,,,MELTING FACE,SALUTING FACE"⟩,
    ⟨0x1fae2, "FACE WITH ", "OPEN EYES AND HAND OVER MOUTH,PEEKING EYE,DIAGONAL MOUTH"⟩,
    ⟨0x1fae5, "", "DOTTED LINE FACE,BITING LIP,BUBBLES"⟩,
    ⟨0x1faf0, "", "HAND WITH INDEX FINGER AND THUMB CROSSED,RIGHTWARDS HAND,LEFTWARDS HAND"⟩,
    ⟨0x1faf3, "", "PALM DOWN HAND,PALM UP HAND,INDEX POINTING AT THE VIEWER,HEART HANDS"⟩,
    ⟨0x1fb00, "BLOCK SEXTANT-", "1,2,12,3,13,23,123,4,14,24,124,34,134,234,1234,5,15"⟩,
    ⟨0x1fb11, "BLOCK SEXTANT-", "25,125,35,235,1235,45,145,245,1245,345,1345,2345,12345,6,16,26"⟩,
    ⟨0x1fb21, "BLOCK SEXTANT-", "126,36,136,236,1236,46,146,1246,346,1346,2346,12346,56,156,256"⟩,
    ⟨0x1fb30, "BLOCK SEXTANT-", "1256,356,1356,2356,12356,456,1456,2456,12456,3456,13456,23456"⟩,
    ⟨0x1fb3c, "LOWER LEFT BLOCK DIAGONAL LOWER MIDDLE LEFT TO LOWER ", "CENTRE,RIGHT"⟩,
    ⟨0x1fb3e, "LOWER LEFT BLOCK DIAGONAL UPPER MIDDLE LEFT TO LOWER ", "CENTRE,RIGHT"⟩,
    ⟨0x1fb40, "", "LOWER LEFT BLOCK DIAGONAL UPPER LEFT TO LOWER CENTRE"⟩,
    ⟨0x1fb41, "LOWER RIGHT BLOCK DIAGONAL UPPER MIDDLE LEFT TO UPPER ", "CENTRE,RIGHT"⟩,
    ⟨0x1fb43, "LOWER RIGHT BLOCK DIAGONAL LOWER MIDDLE LEFT TO UPPER ", "CENTRE,RIGHT"⟩,
    ⟨0x1fb45, "", "LOWER RIGHT BLOCK DIAGONAL LOWER LEFT TO UPPER CENTRE"⟩,
    ⟨0x1fb46, "", "LOWER RIGHT BLOCK DIAGONAL LOWER MIDDLE LEFT TO UPPER MIDDLE RIGHT"⟩,
    ⟨0x1fb47, "", "LOWER RIGHT BLOCK DIAGONAL LOWER CENTRE TO LOWER MIDDLE RIGHT"⟩,
    ⟨0x1fb48, "", "LOWER RIGHT BLOCK DIAGONAL LOWER LEFT TO LOWER MIDDLE RIGHT"⟩,
    ⟨0x1fb49, "", "LOWER RIGHT BLOCK DIAGONAL LOWER CENTRE TO UPPER MIDDLE RIGHT"⟩,
    ⟨0x1fb4a, "", "LOWER RIGHT BLOCK DIAGONAL LOWER LEFT TO UPPER MIDDLE RIGHT"⟩,
    ⟨0x1fb4b, "", "LOWER RIGHT BLOCK DIAGONAL LOWER CENTRE TO UPPER RIGHT"⟩,
    ⟨0x1fb4c, "", "LOWER LEFT BLOCK DIAGONAL UPPER CENTRE TO UPPER MIDDLE RIGHT"⟩,
    ⟨0x1fb4d, "", "LOWER LEFT BLOCK DIAGONAL UPPER LEFT TO UPPER MIDDLE RIGHT"⟩,
    ⟨0x1fb4e, "", "LOWER LEFT BLOCK DIAGONAL UPPER CENTRE TO LOWER MIDDLE RIGHT"⟩,
    ⟨0x1fb4f, "", "LOWER LEFT BLOCK DIAGONAL UPPER LEFT TO LOWER MIDDLE RIGHT"⟩,
    ⟨0x1fb50, "", "LOWER LEFT BLOCK DIAGONAL UPPER CENTRE TO LOWER RIGHT"⟩,
    ⟨0x1fb51, "", "LOWER LEFT BLOCK DIAGONAL UPPER MIDDLE LEFT TO LOWER MIDDLE RIGHT"⟩,
    ⟨0x1fb52, "UPPER RIGHT BLOCK DIAGONAL LOWER MIDDLE LEFT TO LOWER ", "CENTRE,RIGHT"⟩,
    ⟨0x1fb54, "UPPER RIGHT BLOCK DIAGONAL UPPER MIDDLE LEFT TO LOWER ", "CENTRE,RIGHT"⟩,
    ⟨0x1fb56, "", "UPPER RIGHT BLOCK DIAGONAL UPPER LEFT TO LOWER CENTRE"⟩,
    ⟨0x1fb57, "UPPER LEFT BLOCK DIAGONAL UPPER MIDDLE LEFT TO UPPER ", "CENTRE,RIGHT"⟩,
    ⟨0x1fb59, "UPPER LEFT BLOCK DIAGONAL LOWER MIDDLE LEFT TO UPPER ", "CENTRE,RIGHT"⟩,
    ⟨0x1fb5b, "", "UPPER LEFT BLOCK DIAGONAL LOWER LEFT TO UPPER CENTRE"⟩,
    ⟨0x1fb5c, "", "UPPER LEFT BLOCK DIAGONAL LOWER MIDDLE LEFT TO UPPER MIDDLE RIGHT"⟩,
    ⟨0x1fb5d, "", "UPPER LEFT BLOCK DIAGONAL LOWER CENTRE TO LOWER MIDDLE RIGHT"⟩,
    ⟨0x1fb5e, "", "UPPER LEFT BLOCK DIAGONAL LOWER LEFT TO LOWER MIDDLE RIGHT"⟩,
    ⟨0x1fb5f, "", "UPPER LEFT BLOCK DIAGONAL LOWER CENTRE TO UPPER MIDDLE RIGHT"⟩,
    ⟨0x1fb60, "", "UPPER LEFT BLOCK DIAGONAL LOWER LEFT TO UPPER MIDDLE RIGHT"⟩,
    ⟨0x1fb61, "", "UPPER LEFT BLOCK DIAGONAL LOWER CENTRE TO UPPER RIGHT"⟩,
    ⟨0x1fb62, "", "UPPER RIGHT BLOCK DIAGONAL UPPER CENTRE TO UPPER MIDDLE RIGHT"⟩,
    ⟨0x1fb63, "", "UPPER RIGHT BLOCK DIAGONAL UPPER LEFT TO UPPER MIDDLE RIGHT"⟩,
    ⟨0x1fb64, "", "UPPER RIGHT BLOCK DIAGONAL UPPER CENTRE TO LOWER MIDDLE RIGHT"⟩,
    ⟨0x1fb65, "", "UPPER RIGHT BLOCK DIAGONAL UPPER LEFT TO LOWER MIDDLE RIGHT"⟩,
    ⟨0x1fb66, "", "UPPER RIGHT BLOCK DIAGONAL UPPER CENTRE TO LOWER RIGHT"⟩,
    ⟨0x1fb67, "", "UPPER RIGHT BLOCK DIAGONAL UPPER MIDDLE LEFT TO LOWER MIDDLE RIGHT"⟩,
    ⟨0x1fb68, "", "UPPER AND RIGHT AND LOWER TRIANGULAR THREE QUARTERS BLOCK"⟩,
    ⟨0x1fb69, "", "LEFT AND LOWER AND RIGHT TRIANGULAR THREE QUARTERS BLOCK"⟩,
    ⟨0x1fb6a, "", "UPPER AND LEFT AND LOWER TRIANGULAR THREE QUARTERS BLOCK"⟩,
    ⟨0x1fb6b, "", "LEFT AND UPPER AND RIGHT TRIANGULAR THREE QUARTERS BLOCK"⟩,
    ⟨0x1fb6c, "", "LEFT TRIANGULAR ONE QUARTER BLOCK,UPPER TRIANGULAR ONE QUARTER BLOCK"⟩,
    ⟨0x1fb6e, "", "RIGHT TRIANGULAR ONE QUARTER BLOCK,LOWER TRIANGULAR ONE QUARTER BLOCK"⟩,
    ⟨0x1fb70, "VERTICAL ONE EIGHTH BLOCK-", "2,3,4,5,6,7"⟩,
    ⟨0x1fb76, "HORIZONTAL ONE EIGHTH BLOCK-", "2,3,4,5,6,7"⟩,
    ⟨0x1fb7c, "LEFT AND ", "LOWER ONE EIGHTH BLOCK,UPPER ONE EIGHTH BLOCK"⟩,
    ⟨0x1fb7e, "RIGHT AND ", "UPPER ONE EIGHTH BLOCK,LOWER ONE EIGHTH BLOCK"⟩,
    ⟨0x1fb80, "", "UPPER AND LOWER ONE EIGHTH BLOCK,HORIZONTAL ONE EIGHTH BLOCK-1358"⟩,
    ⟨0x1fb82, "UPPER ", "ONE QUARTER BLOCK,THREE EIGHTHS BLOCK"⟩,
    ⟨0x1fb84, "UPPER ", "FIVE EIGHTHS BLOCK,THREE QUARTERS BLOCK,SEVEN EIGHTHS BLOCK"⟩,
    ⟨0x1fb87, "RIGHT ", "ONE QUARTER BLOCK,THREE EIGHTHS BLOCK,FIVE EIGHTHS BLOCK"⟩,
    ⟨0x1fb8a, "", "RIGHT THREE QUARTERS BLOCK,RIGHT SEVEN EIGHTHS BLOCK,LEFT HALF MEDIUM SHADE"⟩,
    ⟨0x1fb8d, "", "RIGHT HALF MEDIUM SHADE,UPPER HALF MEDIUM SHADE,LOWER HALF MEDIUM SHADE"⟩,
    ⟨0x1fb90, "", "INVERSE MEDIUM SHADE,UPPER HALF BLOCK AND LOWER HALF INVERSE MEDIUM SHADE"⟩,
    ⟨0x1fb92, "", "UPPER HALF INVERSE MEDIUM SHADE AND LOWER HALF BLOCK"⟩,
    ⟨0x1fb94, "", "LEFT HALF INVERSE MEDIUM SHADE AND RIGHT HALF BLOCK"⟩,
    ⟨0x1fb95, "", "CHECKER BOARD FILL,INVERSE CHECKER BOARD FILL,HEAVY HORIZONTAL FILL"⟩,
    ⟨0x1fb98, "UPPER ", "LEFT TO LOWER RIGHT FILL,RIGHT TO LOWER LEFT FILL"⟩,
    ⟨0x1fb9a, "", "UPPER AND LOWER TRIANGULAR HALF BLOCK,LEFT AND RIGHT TRIANGULAR HALF BLOCK"⟩,
    ⟨0x1fb9c, "UPPER ", "LEFT TRIANGULAR MEDIUM SHADE,RIGHT TRIANGULAR MEDIUM SHADE"⟩,
    ⟨0x1fb9e, "LOWER ", "RIGHT TRIANGULAR MEDIUM SHADE,LEFT TRIANGULAR MEDIUM SHADE"⟩,
    ⟨0x1fba0, "BOX DRAWINGS LIGHT DIAGONAL UPPER CENTRE TO MIDDLE ", "LEFT,RIGHT"⟩,
    ⟨0x1fba2, "BOX DRAWINGS LIGHT DIAGONAL MIDDLE ", "LEFT TO LOWER CENTRE,RIGHT TO LOWER CENTRE"⟩,
    ⟨0x1fba4, "", "BOX DRAWINGS LIGHT DIAGONAL UPPER CENTRE TO MIDDLE LEFT TO LOWER CENTRE"⟩,
    ⟨0x1fba5, "", "BOX DRAWINGS LIGHT DIAGONAL UPPER CENTRE TO MIDDLE RIGHT TO LOWER CENTRE"⟩,
    ⟨0x1fba6, "", "BOX DRAWINGS LIGHT DIAGONAL MIDDLE LEFT TO LOWER CENTRE TO MIDDLE RIGHT"⟩,
    ⟨0x1fba7, "", "BOX DRAWINGS LIGHT DIAGONAL MIDDLE LEFT TO UPPER CENTRE TO MIDDLE RIGHT"⟩,
    ⟨0x1fba8, "", "BOX DRAWINGS LIGHT DIAGONAL UPPER CENTRE TO MIDDLE LEFT AND MIDDLE RIGHT TO LOWER CENTRE"⟩,
    ⟨0x1fba9, "", "BOX DRAWINGS LIGHT DIAGONAL UPPER CENTRE TO MIDDLE RIGHT AND MIDDLE LEFT TO LOWER CENTRE"⟩,
    ⟨0x1fbaa, "", "BOX DRAWINGS LIGHT DIAGONAL UPPER CENTRE TO MIDDLE RIGHT TO LOWER CENTRE TO MIDDLE LEFT"⟩,
    ⟨0x1fbab, "", "BOX DRAWINGS LIGHT DIAGONAL UPPER CENTRE TO MIDDLE LEFT TO LOWER CENTRE TO MIDDLE RIGHT"⟩,
    ⟨0x1fbac, "", "BOX DRAWINGS LIGHT DIAGONAL MIDDLE LEFT TO UPPER CENTRE TO MIDDLE RIGHT TO LOWER CENTRE"⟩,
    ⟨0x1fbad, "", "BOX DRAWINGS LIGHT DIAGONAL MIDDLE RIGHT TO UPPER CENTRE TO MIDDLE LEFT TO LOWER CENTRE"⟩,
    ⟨0x1fbae, "BOX DRAWINGS LIGHT ", "DIAGONAL DIAMOND,HORIZONTAL WITH VERTICAL STROKE"⟩,
    ⟨0x1fbb0, "", "ARROWHEAD-SHAPED POINTER,INVERSE CHECK MARK,LEFT HALF RUNNING MAN"⟩,
    ⟨0x1fbb3, "", "RIGHT HALF RUNNING MAN,INVERSE DOWNWARDS ARROW WITH TIP LEFTWARDS"⟩,
    ⟨0x1fbb5, "", "LEFTWARDS ARROW AND UPPER AND LOWER ONE EIGHTH BLOCK"⟩,
    ⟨0x1fbb6, "", "RIGHTWARDS ARROW AND UPPER AND LOWER ONE EIGHTH BLOCK"⟩,
    ⟨0x1fbb7, "", "DOWNWARDS ARROW AND RIGHT ONE EIGHTH BLOCK"⟩,
    ⟨0x1fbb8, "", "UPWARDS ARROW AND RIGHT ONE EIGHTH BLOCK"⟩,
    ⟨0x1fbb9, "", "LEFT HALF FOLDER,RIGHT HALF FOLDER,VOIDED GREEK CROSS,RIGHT OPEN SQUARED DOT"⟩,
    ⟨0x1fbbd, "NEGATIVE DIAGONAL ", "CROSS,MIDDLE RIGHT TO LOWER CENTRE,DIAMOND"⟩,
    ⟨0x1fbc0, "", "WHITE HEAVY SALTIRE WITH ROUNDED CORNERS,LEFT THIRD WHITE RIGHT POINTING INDEX"⟩,
    ⟨0x1fbc2, "", "MIDDLE THIRD WHITE RIGHT POINTING INDEX,RIGHT THIRD WHITE RIGHT POINTING INDEX"⟩,
    ⟨0x1fbc4, "", "NEGATIVE SQUARED QUESTION MARK,STICK FIGURE"⟩,
    ⟨0x1fbc6, "STICK FIGURE ", "WITH ARMS RAISED,LEANING LEFT,LEANING RIGHT,WITH DRESS"⟩,
    ⟨0x1fbca, "", "WHITE UP-POINTING CHEVRON"⟩,
    ⟨0x1fbf0, "SEGMENTED DIGIT ", "ZERO,ONE,TWO,THREE,FOUR,FIVE,SIX,SEVEN,EIGHT,NINE"⟩,
    ⟨0x2f800, "CJK COMPATIBILITY IDEOGRAPH-", "2F800,2F801,2F802,2F803,2F804,2F805"⟩,
    ⟨0x2f806, "CJK COMPATIBILITY IDEOGRAPH-", "2F806,2F807,2F808,2F809,2F80A,2F80B,2F80C,2F80D"⟩,
    ⟨0x2f80e, "CJK COMPATIBILITY IDEOGRAPH-", "2F80E,2F80F,2F810,2F811,2F812,2F813,2F814,2F815"⟩,
    ⟨0x2f816, "CJK COMPATIBILITY IDEOGRAPH-", "2F816,2F817,2F818,2F819,2F81A,2F81B,2F81C,2F81D"⟩,
    ⟨0x2f81e, "CJK COMPATIBILITY IDEOGRAPH-", "2F81E,2F81F,2F820,2F821,2F822,2F823,2F824,2F825"⟩,
    ⟨0x2f826, "CJK COMPATIBILITY IDEOGRAPH-", "2F826,2F827,2F828,2F829,2F82A,2F82B,2F82C,2F82D"⟩,
    ⟨0x2f82e, "CJK COMPATIBILITY IDEOGRAPH-", "2F82E,2F82F,2F830,2F831,2F832,2F833,2F834,2F835"⟩,
    ⟨0x2f836, "CJK COMPATIBILITY IDEOGRAPH-", "2F836,2F837,2F838,2F839,2F83A,2F83B,2F83C,2F83D"⟩,
    ⟨0x2f83e, "CJK COMPATIBILITY IDEOGRAPH-", "2F83E,2F83F,2F840,2F841,2F842,2F843,2F844,2F845"⟩,
    ⟨0x2f846, "CJK COMPATIBILITY IDEOGRAPH-", "2F846,2F847,2F848,2F849,2F84A,2F84B,2F84C,2F84D"⟩,
    ⟨0x2f84e, "CJK COMPATIBILITY IDEOGRAPH-", "2F84E,2F84F,2F850,2F851,2F852,2F853,2F854,2F855"⟩,
    ⟨0x2f856, "CJK COMPATIBILITY IDEOGRAPH-", "2F856,2F857,2F858,2F859,2F85A,2F85B,2F85C,2F85D"⟩,
    ⟨0x2f85e, "CJK COMPATIBILITY IDEOGRAPH-", "2F85E,2F85F,2F860,2F861,2F862,2F863,2F864,2F865"⟩,
    ⟨0x2f866, "CJK COMPATIBILITY IDEOGRAPH-", "2F866,2F867,2F868,2F869,2F86A,2F86B,2F86C,2F86D"⟩,
    ⟨0x2f86e, "CJK COMPATIBILITY IDEOGRAPH-", "2F86E,2F86F,2F870,2F871,2F872,2F873,2F874,2F875"⟩,
    ⟨0x2f876, "CJK COMPATIBILITY IDEOGRAPH-", "2F876,2F877,2F878,2F879,2F87A,2F87B,2F87C,2F87D"⟩,
    ⟨0x2f87e, "CJK COMPATIBILITY IDEOGRAPH-", "2F87E,2F87F,2F880,2F881,2F882,2F883,2F884,2F885"⟩,
    ⟨0x2f886, "CJK COMPATIBILITY IDEOGRAPH-", "2F886,2F887,2F888,2F889,2F88A,2F88B,2F88C,2F88D"⟩,
    ⟨0x2f88e, "CJK COMPATIBILITY IDEOGRAPH-", "2F88E,2F88F,2F890,2F891,2F892,2F893,2F894,2F895"⟩,
    ⟨0x2f896, "CJK COMPATIBILITY IDEOGRAPH-", "2F896,2F897,2F898,2F899,2F89A,2F89B,2F89C,2F89D"⟩,
    ⟨0x2f89e, "CJK COMPATIBILITY IDEOGRAPH-", "2F89E,2F89F,2F8A0,2F8A1,2F8A2,2F8A3,2F8A4,2F8A5"⟩,
    ⟨0x2f8a6, "CJK COMPATIBILITY IDEOGRAPH-", "2F8A6,2F8A7,2F8A8,2F8A9,2F8AA,2F8AB,2F8AC,2F8AD"⟩,
    ⟨0x2f8ae, "CJK COMPATIBILITY IDEOGRAPH-", "2F8AE,2F8AF,2F8B0,2F8B1,2F8B2,2F8B3,2F8B4,2F8B5"⟩,
    ⟨0x2f8b6, "CJK COMPATIBILITY IDEOGRAPH-", "2F8B6,2F8B7,2F8B8,2F8B9,2F8BA,2F8BB,2F8BC,2F8BD"⟩,
    ⟨0x2f8be, "CJK COMPATIBILITY IDEOGRAPH-", "2F8BE,2F8BF,2F8C0,2F8C1,2F8C2,2F8C3,2F8C4,2F8C5"⟩,
    ⟨0x2f8c6, "CJK COMPATIBILITY IDEOGRAPH-", "2F8C6,2F8C7,2F8C8,2F8C9,2F8CA,2F8CB,2F8CC,2F8CD"⟩,
    ⟨0x2f8ce, "CJK COMPATIBILITY IDEOGRAPH-", "2F8CE,2F8CF,2F8D0,2F8D1,2F8D2,2F8D3,2F8D4,2F8D5"⟩,
    ⟨0x2f8d6, "CJK COMPATIBILITY IDEOGRAPH-", "2F8D6,2F8D7,2F8D8,2F8D9,2F8DA,2F8DB,2F8DC,2F8DD"⟩,
    ⟨0x2f8de, "CJK COMPATIBILITY IDEOGRAPH-", "2F8DE,2F8DF,2F8E0,2F8E1,2F8E2,2F8E3,2F8E4,2F8E5"⟩,
    ⟨0x2f8e6, "CJK COMPATIBILITY IDEOGRAPH-", "2F8E6,2F8E7,2F8E8,2F8E9,2F8EA,2F8EB,2F8EC,2F8ED"⟩,
    ⟨0x2f8ee, "CJK COMPATIBILITY IDEOGRAPH-", "2F8EE,2F8EF,2F8F0,2F8F1,2F8F2,2F8F3,2F8F4,2F8F5"⟩,
    ⟨0x2f8f6, "CJK COMPATIBILITY IDEOGRAPH-", "2F8F6,2F8F7,2F8F8,2F8F9,2F8FA,2F8FB,2F8FC,2F8FD"⟩,
    ⟨0x2f8fe, "CJK COMPATIBILITY IDEOGRAPH-", "2F8FE,2F8FF,2F900,2F901,2F902,2F903,2F904,2F905"⟩,
    ⟨0x2f906, "CJK COMPATIBILITY IDEOGRAPH-", "2F906,2F907,2F908,2F909,2F90A,2F90B,2F90C,2F90D"⟩,
    ⟨0x2f90e, "CJK COMPATIBILITY IDEOGRAPH-", "2F90E,2F90F,2F910,2F911,2F912,2F913,2F914,2F915"⟩,
    ⟨0x2f916, "CJK COMPATIBILITY IDEOGRAPH-", "2F916,2F917,2F918,2F919,2F91A,2F91B,2F91C,2F91D"⟩,
    ⟨0x2f91e, "CJK COMPATIBILITY IDEOGRAPH-", "2F91E,2F91F,2F920,2F921,2F922,2F923,2F924,2F925"⟩,
    ⟨0x2f926, "CJK COMPATIBILITY IDEOGRAPH-", "2F926,2F927,2F928,2F929,2F92A,2F92B,2F92C,2F92D"⟩,
    ⟨0x2f92e, "CJK COMPATIBILITY IDEOGRAPH-", "2F92E,2F92F,2F930,2F931,2F932,2F933,2F934,2F935"⟩,
    ⟨0x2f936, "CJK COMPATIBILITY IDEOGRAPH-", "2F936,2F937,2F938,2F939,2F93A,2F93B,2F93C,2F93D"⟩,
    ⟨0x2f93e, "CJK COMPATIBILITY IDEOGRAPH-", "2F93E,2F93F,2F940,2F941,2F942,2F943,2F944,2F945"⟩,
    ⟨0x2f946, "CJK COMPATIBILITY IDEOGRAPH-", "2F946,2F947,2F948,2F949,2F94A,2F94B,2F94C,2F94D"⟩,
    ⟨0x2f94e, "CJK COMPATIBILITY IDEOGRAPH-", "2F94E,2F94F,2F950,2F951,2F952,2F953,2F954,2F955"⟩,
    ⟨0x2f956, "CJK COMPATIBILITY IDEOGRAPH-", "2F956,2F957,2F958,2F959,2F95A,2F95B,2F95C,2F95D"⟩,
    ⟨0x2f95e, "CJK COMPATIBILITY IDEOGRAPH-", "2F95E,2F95F,2F960,2F961,2F962,2F963,2F964,2F965"⟩,
    ⟨0x2f966, "CJK COMPATIBILITY IDEOGRAPH-", "2F966,2F967,2F968,2F969,2F96A,2F96B,2F96C,2F96D"⟩,
    ⟨0x2f96e, "CJK COMPATIBILITY IDEOGRAPH-", "2F96E,2F96F,2F970,2F971,2F972,2F973,2F974,2F975"⟩,
    ⟨0x2f976, "CJK COMPATIBILITY IDEOGRAPH-", "2F976,2F977,2F978,2F979,2F97A,2F97B,2F97C,2F97D"⟩,
    ⟨0x2f97e, "CJK COMPATIBILITY IDEOGRAPH-", "2F97E,2F97F,2F980,2F981,2F982,2F983,2F984,2F985"⟩,
    ⟨0x2f986, "CJK COMPATIBILITY IDEOGRAPH-", "2F986,2F987,2F988,2F989,2F98A,2F98B,2F98C,2F98D"⟩,
    ⟨0x2f98e, "CJK COMPATIBILITY IDEOGRAPH-", "2F98E,2F98F,2F990,2F991,2F992,2F993,2F994,2F995"⟩,
    ⟨0x2f996, "CJK COMPATIBILITY IDEOGRAPH-", "2F996,2F997,2F998,2F999,2F99A,2F99B,2F99C,2F99D"⟩,
    ⟨0x2f99e, "CJK COMPATIBILITY IDEOGRAPH-", "2F99E,2F99F,2F9A0,2F9A1,2F9A2,2F9A3,2F9A4,2F9A5"⟩,
    ⟨0x2f9a6, "CJK COMPATIBILITY IDEOGRAPH-", "2F9A6,2F9A7,2F9A8,2F9A9,2F9AA,2F9AB,2F9AC,2F9AD"⟩,
    ⟨0x2f9ae, "CJK COMPATIBILITY IDEOGRAPH-", "2F9AE,2F9AF,2F9B0,2F9B1,2F9B2,2F9B3,2F9B4,2F9B5"⟩,
    ⟨0x2f9b6, "CJK COMPATIBILITY IDEOGRAPH-", "2F9B6,2F9B7,2F9B8,2F9B9,2F9BA,2F9BB,2F9BC,2F9BD"⟩,
    ⟨0x2f9be, "CJK COMPATIBILITY IDEOGRAPH-", "2F9BE,2F9BF,2F9C0,2F9C1,2F9C2,2F9C3,2F9C4,2F9C5"⟩,
    ⟨0x2f9c6, "CJK COMPATIBILITY IDEOGRAPH-", "2F9C6,2F9C7,2F9C8,2F9C9,2F9CA,2F9CB,2F9CC,2F9CD"⟩,
    ⟨0x2f9ce, "CJK COMPATIBILITY IDEOGRAPH-", "2F9CE,2F9CF,2F9D0,2F9D1,2F9D2,2F9D3,2F9D4,2F9D5"⟩,
    ⟨0x2f9d6, "CJK COMPATIBILITY IDEOGRAPH-", "2F9D6,2F9D7,2F9D8,2F9D9,2F9DA,2F9DB,2F9DC,2F9DD"⟩,
    ⟨0x2f9de, "CJK COMPATIBILITY IDEOGRAPH-", "2F9DE,2F9DF,2F9E0,2F9E1,2F9E2,2F9E3,2F9E4,2F9E5"⟩,
    ⟨0x2f9e6, "CJK COMPATIBILITY IDEOGRAPH-", "2F9E6,2F9E7,2F9E8,2F9E9,2F9EA,2F9EB,2F9EC,2F9ED"⟩,
    ⟨0x2f9ee, "CJK COMPATIBILITY IDEOGRAPH-", "2F9EE,2F9EF,2F9F0,2F9F1,2F9F2,2F9F3,2F9F4,2F9F5"⟩,
    ⟨0x2f9f6, "CJK COMPATIBILITY IDEOGRAPH-", "2F9F6,2F9F7,2F9F8,2F9F9,2F9FA,2F9FB,2F9FC,2F9FD"⟩,
    ⟨0x2f9fe, "CJK COMPATIBILITY IDEOGRAPH-", "2F9FE,2F9FF,2FA00,2FA01,2FA02,2FA03,2FA04,2FA05"⟩,
    ⟨0x2fa06, "CJK COMPATIBILITY IDEOGRAPH-", "2FA06,2FA07,2FA08,2FA09,2FA0A,2FA0B,2FA0C,2FA0D"⟩,
    ⟨0x2fa0e, "CJK COMPATIBILITY IDEOGRAPH-", "2FA0E,2FA0F,2FA10,2FA11,2FA12,2FA13,2FA14,2FA15"⟩,
    ⟨0x2fa16, "CJK COMPATIBILITY IDEOGRAPH-", "2FA16,2FA17,2FA18,2FA19,2FA1A,2FA1B,2FA1C,2FA1D"⟩,
    ⟨0xe0001, "", "LANGUAGE TAG"⟩,
    ⟨0xe0020, "TAG ", "SPACE,EXCLAMATION MARK,QUOTATION MARK"⟩,
    ⟨0xe0023, "TAG ", "NUMBER SIGN,DOLLAR SIGN,PERCENT SIGN,AMPERSAND,APOSTROPHE,LEFT PARENTHESIS"⟩,
    ⟨0xe0029, "TAG ", "RIGHT PARENTHESIS,ASTERISK,PLUS SIGN,COMMA,HYPHEN-MINUS,FULL STOP,SOLIDUS"⟩,
    ⟨0xe0030, "TAG DIGIT ", "ZERO,ONE,TWO,THREE,FOUR,FIVE,SIX,SEVEN,EIGHT,NINE"⟩,
    ⟨0xe003a, "TAG ", "COLON,SEMICOLON"⟩,
    ⟨0xe003c, "TAG ", "LESS-THAN SIGN,EQUALS SIGN,GREATER-THAN SIGN,QUESTION MARK,COMMERCIAL AT"⟩,
    ⟨0xe0041, "TAG LATIN CAPITAL LETTER ", "A,B,C,D,E,F,G,H,I,J,K,L,M,N,O,P,Q,R,S,T,U,V,W,X,Y,Z"⟩,
    ⟨0xe005b, "TAG ", "LEFT SQUARE BRACKET,REVERSE SOLIDUS"⟩,
    ⟨0xe005d, "TAG ", "RIGHT SQUARE BRACKET,CIRCUMFLEX ACCENT,LOW LINE,GRAVE ACCENT"⟩,
    ⟨0xe0061, "TAG LATIN SMALL LETTER ", "A,B,C,D,E,F,G,H,I,J,K,L,M,N,O,P,Q,R,S,T,U,V,W,X,Y,Z"⟩,
    ⟨0xe007b, "TAG ", "LEFT CURLY BRACKET,VERTICAL LINE,RIGHT CURLY BRACKET,TILDE"⟩,
    ⟨0xe007f, "", "CANCEL TAG"⟩,
    ⟨0xe0100, "VARIATION SELECTOR-", "17,18,19,20,21,22,23,24,25,26,27,28,29"⟩,
    ⟨0xe010d, "VARIATION SELECTOR-", "30,31,32,33,34,35,36,37,38,39,40,41,42,43,44,45,46,47,48,49"⟩,
    ⟨0xe0121, "VARIATION SELECTOR-", "50,51,52,53,54,55,56,57,58,59,60,61,62,63,64,65,66,67,68,69"⟩,
    ⟨0xe0135, "VARIATION SELECTOR-", "70,71,72,73,74,75,76,77,78,79,80,81,82,83,84,85,86,87,88,89"⟩,
    ⟨0xe0149, "VARIATION SELECTOR-", "90,91,92,93,94,95,96,97,98,99,100,101,102,103,104,105,106"⟩,
    ⟨0xe015a, "VARIATION SELECTOR-", "107,108,109,110,111,112,113,114,115,116,117,118,119,120,121"⟩,
    ⟨0xe0169, "VARIATION SELECTOR-", "122,123,124,125,126,127,128,129,130,131,132,133,134,135,136"⟩,
    ⟨0xe0178, "VARIATION SELECTOR-", "137,138,139,140,141,142,143,144,145,146,147,148,149,150,151"⟩,
    ⟨0xe0187, "VARIATION SELECTOR-", "152,153,154,155,156,157,158,159,160,161,162,163,164,165,166"⟩,
    ⟨0xe0196, "VARIATION SELECTOR-", "167,168,169,170,171,172,173,174,175,176,177,178,179,180,181"⟩,
    ⟨0xe01a5, "VARIATION SELECTOR-", "182,183,184,185,186,187,188,189,190,191,192,193,194,195,196"⟩,
    ⟨0xe01b4, "VARIATION SELECTOR-", "197,198,199,200,201,202,203,204,205,206,207,208,209,210,211"⟩,
    ⟨0xe01c3, "VARIATION SELECTOR-", "212,213,214,215,216,217,218,219,220,221,222,223,224,225,226"⟩,
    ⟨0xe01d2, "VARIATION SELECTOR-", "227,228,229,230,231,232,233,234,235,236,237,238,239,240,241"⟩,
    ⟨0xe01e1, "VARIATION SELECTOR-", "242,243,244,245,246,247,248,249,250,251,252,253,254,255,256"⟩]

end HttpRouting.Text.CharacterName
