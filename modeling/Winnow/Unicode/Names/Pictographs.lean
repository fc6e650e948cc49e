/-!
# Names of pictographs

Each row gives the names of characters with consecutive code points, the first one being the number
of the row.
-/

namespace Winnow.Unicode

/-- The names from code point 1F000 to 1F52E. -/
def pictographNamesFrom1F000 : List (Nat × String) := [
  (0x1F000, "MAHJONG TILE EAST WIND;MAHJONG TILE SOUTH WIND;MAHJONG TILE WEST WIND"),
  (0x1F003, "MAHJONG TILE NORTH WIND;MAHJONG TILE RED DRAGON;MAHJONG TILE GREEN DRAGON"),
  (0x1F006, "MAHJONG TILE WHITE DRAGON;MAHJONG TILE ONE OF CHARACTERS"),
  (0x1F008, "MAHJONG TILE TWO OF CHARACTERS;MAHJONG TILE THREE OF CHARACTERS"),
  (0x1F00A, "MAHJONG TILE FOUR OF CHARACTERS;MAHJONG TILE FIVE OF CHARACTERS"),
  (0x1F00C, "MAHJONG TILE SIX OF CHARACTERS;MAHJONG TILE SEVEN OF CHARACTERS"),
  (0x1F00E, "MAHJONG TILE EIGHT OF CHARACTERS;MAHJONG TILE NINE OF CHARACTERS"),
  (0x1F010, "MAHJONG TILE ONE OF BAMBOOS;MAHJONG TILE TWO OF BAMBOOS"),
  (0x1F012, "MAHJONG TILE THREE OF BAMBOOS;MAHJONG TILE FOUR OF BAMBOOS"),
  (0x1F014, "MAHJONG TILE FIVE OF BAMBOOS;MAHJONG TILE SIX OF BAMBOOS"),
  (0x1F016, "MAHJONG TILE SEVEN OF BAMBOOS;MAHJONG TILE EIGHT OF BAMBOOS"),
  (0x1F018, "MAHJONG TILE NINE OF BAMBOOS;MAHJONG TILE ONE OF CIRCLES;MAHJONG TILE TWO OF CIRCLES"),
  (0x1F01B, "MAHJONG TILE THREE OF CIRCLES;MAHJONG TILE FOUR OF CIRCLES"),
  (0x1F01D, "MAHJONG TILE FIVE OF CIRCLES;MAHJONG TILE SIX OF CIRCLES"),
  (0x1F01F, "MAHJONG TILE SEVEN OF CIRCLES;MAHJONG TILE EIGHT OF CIRCLES"),
  (0x1F021, "MAHJONG TILE NINE OF CIRCLES;MAHJONG TILE PLUM;MAHJONG TILE ORCHID"),
  (0x1F024, "MAHJONG TILE BAMBOO;MAHJONG TILE CHRYSANTHEMUM;MAHJONG TILE SPRING"),
  (0x1F027, "MAHJONG TILE SUMMER;MAHJONG TILE AUTUMN;MAHJONG TILE WINTER;MAHJONG TILE JOKER"),
  (0x1F02B, "MAHJONG TILE BACK"),
  (0x1F030, "DOMINO TILE HORIZONTAL BACK;DOMINO TILE HORIZONTAL-00-00"),
  (0x1F032, "DOMINO TILE HORIZONTAL-00-01;DOMINO TILE HORIZONTAL-00-02"),
  (0x1F034, "DOMINO TILE HORIZONTAL-00-03;DOMINO TILE HORIZONTAL-00-04"),
  (0x1F036, "DOMINO TILE HORIZONTAL-00-05;DOMINO TILE HORIZONTAL-00-06"),
  (0x1F038, "DOMINO TILE HORIZONTAL-01-00;DOMINO TILE HORIZONTAL-01-01"),
  (0x1F03A, "DOMINO TILE HORIZONTAL-01-02;DOMINO TILE HORIZONTAL-01-03"),
  (0x1F03C, "DOMINO TILE HORIZONTAL-01-04;DOMINO TILE HORIZONTAL-01-05"),
  (0x1F03E, "DOMINO TILE HORIZONTAL-01-06;DOMINO TILE HORIZONTAL-02-00"),
  (0x1F040, "DOMINO TILE HORIZONTAL-02-01;DOMINO TILE HORIZONTAL-02-02"),
  (0x1F042, "DOMINO TILE HORIZONTAL-02-03;DOMINO TILE HORIZONTAL-02-04"),
  (0x1F044, "DOMINO TILE HORIZONTAL-02-05;DOMINO TILE HORIZONTAL-02-06"),
  (0x1F046, "DOMINO TILE HORIZONTAL-03-00;DOMINO TILE HORIZONTAL-03-01"),
  (0x1F048, "DOMINO TILE HORIZONTAL-03-02;DOMINO TILE HORIZONTAL-03-03"),
  (0x1F04A, "DOMINO TILE HORIZONTAL-03-04;DOMINO TILE HORIZONTAL-03-05"),
  (0x1F04C, "DOMINO TILE HORIZONTAL-03-06;DOMINO TILE HORIZONTAL-04-00"),
  (0x1F04E, "DOMINO TILE HORIZONTAL-04-01;DOMINO TILE HORIZONTAL-04-02"),
  (0x1F050, "DOMINO TILE HORIZONTAL-04-03;DOMINO TILE HORIZONTAL-04-04"),
  (0x1F052, "DOMINO TILE HORIZONTAL-04-05;DOMINO TILE HORIZONTAL-04-06"),
  (0x1F054, "DOMINO TILE HORIZONTAL-05-00;DOMINO TILE HORIZONTAL-05-01"),
  (0x1F056, "DOMINO TILE HORIZONTAL-05-02;DOMINO TILE HORIZONTAL-05-03"),
  (0x1F058, "DOMINO TILE HORIZONTAL-05-04;DOMINO TILE HORIZONTAL-05-05"),
  (0x1F05A, "DOMINO TILE HORIZONTAL-05-06;DOMINO TILE HORIZONTAL-06-00"),
  (0x1F05C, "DOMINO TILE HORIZONTAL-06-01;DOMINO TILE HORIZONTAL-06-02"),
  (0x1F05E, "DOMINO TILE HORIZONTAL-06-03;DOMINO TILE HORIZONTAL-06-04"),
  (0x1F060, "DOMINO TILE HORIZONTAL-06-05;DOMINO TILE HORIZONTAL-06-06;DOMINO TILE VERTICAL BACK"),
  (0x1F063, "DOMINO TILE VERTICAL-00-00;DOMINO TILE VERTICAL-00-01;DOMINO TILE VERTICAL-00-02"),
  (0x1F066, "DOMINO TILE VERTICAL-00-03;DOMINO TILE VERTICAL-00-04;DOMINO TILE VERTICAL-00-05"),
  (0x1F069, "DOMINO TILE VERTICAL-00-06;DOMINO TILE VERTICAL-01-00;DOMINO TILE VERTICAL-01-01"),
  (0x1F06C, "DOMINO TILE VERTICAL-01-02;DOMINO TILE VERTICAL-01-03;DOMINO TILE VERTICAL-01-04"),
  (0x1F06F, "DOMINO TILE VERTICAL-01-05;DOMINO TILE VERTICAL-01-06;DOMINO TILE VERTICAL-02-00"),
  (0x1F072, "DOMINO TILE VERTICAL-02-01;DOMINO TILE VERTICAL-02-02;DOMINO TILE VERTICAL-02-03"),
  (0x1F075, "DOMINO TILE VERTICAL-02-04;DOMINO TILE VERTICAL-02-05;DOMINO TILE VERTICAL-02-06"),
  (0x1F078, "DOMINO TILE VERTICAL-03-00;DOMINO TILE VERTICAL-03-01;DOMINO TILE VERTICAL-03-02"),
  (0x1F07B, "DOMINO TILE VERTICAL-03-03;DOMINO TILE VERTICAL-03-04;DOMINO TILE VERTICAL-03-05"),
  (0x1F07E, "DOMINO TILE VERTICAL-03-06;DOMINO TILE VERTICAL-04-00;DOMINO TILE VERTICAL-04-01"),
  (0x1F081, "DOMINO TILE VERTICAL-04-02;DOMINO TILE VERTICAL-04-03;DOMINO TILE VERTICAL-04-04"),
  (0x1F084, "DOMINO TILE VERTICAL-04-05;DOMINO TILE VERTICAL-04-06;DOMINO TILE VERTICAL-05-00"),
  (0x1F087, "DOMINO TILE VERTICAL-05-01;DOMINO TILE VERTICAL-05-02;DOMINO TILE VERTICAL-05-03"),
  (0x1F08A, "DOMINO TILE VERTICAL-05-04;DOMINO TILE VERTICAL-05-05;DOMINO TILE VERTICAL-05-06"),
  (0x1F08D, "DOMINO TILE VERTICAL-06-00;DOMINO TILE VERTICAL-06-01;DOMINO TILE VERTICAL-06-02"),
  (0x1F090, "DOMINO TILE VERTICAL-06-03;DOMINO TILE VERTICAL-06-04;DOMINO TILE VERTICAL-06-05"),
  (0x1F093, "DOMINO TILE VERTICAL-06-06"),
  (0x1F0A0, "PLAYING CARD BACK;PLAYING CARD ACE OF SPADES;PLAYING CARD TWO OF SPADES"),
  (0x1F0A3, "PLAYING CARD THREE OF SPADES;PLAYING CARD FOUR OF SPADES;PLAYING CARD FIVE OF SPADES"),
  (0x1F0A6, "PLAYING CARD SIX OF SPADES;PLAYING CARD SEVEN OF SPADES;PLAYING CARD EIGHT OF SPADES"),
  (0x1F0A9, "PLAYING CARD NINE OF SPADES;PLAYING CARD TEN OF SPADES;PLAYING CARD JACK OF SPADES"),
  (0x1F0AC, "PLAYING CARD KNIGHT OF SPADES;PLAYING CARD QUEEN OF SPADES"),
  (0x1F0AE, "PLAYING CARD KING OF SPADES"),
  (0x1F0B1, "PLAYING CARD ACE OF HEARTS;PLAYING CARD TWO OF HEARTS;PLAYING CARD THREE OF HEARTS"),
  (0x1F0B4, "PLAYING CARD FOUR OF HEARTS;PLAYING CARD FIVE OF HEARTS;PLAYING CARD SIX OF HEARTS"),
  (0x1F0B7, "PLAYING CARD SEVEN OF HEARTS;PLAYING CARD EIGHT OF HEARTS"),
  (0x1F0B9, "PLAYING CARD NINE OF HEARTS;PLAYING CARD TEN OF HEARTS;PLAYING CARD JACK OF HEARTS"),
  (0x1F0BC, "PLAYING CARD KNIGHT OF HEARTS;PLAYING CARD QUEEN OF HEARTS"),
  (0x1F0BE, "PLAYING CARD KING OF HEARTS;PLAYING CARD RED JOKER"),
  (0x1F0C1, "PLAYING CARD ACE OF DIAMONDS;PLAYING CARD TWO OF DIAMONDS"),
  (0x1F0C3, "PLAYING CARD THREE OF DIAMONDS;PLAYING CARD FOUR OF DIAMONDS"),
  (0x1F0C5, "PLAYING CARD FIVE OF DIAMONDS;PLAYING CARD SIX OF DIAMONDS"),
  (0x1F0C7, "PLAYING CARD SEVEN OF DIAMONDS;PLAYING CARD EIGHT OF DIAMONDS"),
  (0x1F0C9, "PLAYING CARD NINE OF DIAMONDS;PLAYING CARD TEN OF DIAMONDS"),
  (0x1F0CB, "PLAYING CARD JACK OF DIAMONDS;PLAYING CARD KNIGHT OF DIAMONDS"),
  (0x1F0CD, "PLAYING CARD QUEEN OF DIAMONDS;PLAYING CARD KING OF DIAMONDS"),
  (0x1F0CF, "PLAYING CARD BLACK JOKER"),
  (0x1F0D1, "PLAYING CARD ACE OF CLUBS;PLAYING CARD TWO OF CLUBS;PLAYING CARD THREE OF CLUBS"),
  (0x1F0D4, "PLAYING CARD FOUR OF CLUBS;PLAYING CARD FIVE OF CLUBS;PLAYING CARD SIX OF CLUBS"),
  (0x1F0D7, "PLAYING CARD SEVEN OF CLUBS;PLAYING CARD EIGHT OF CLUBS;PLAYING CARD NINE OF CLUBS"),
  (0x1F0DA, "PLAYING CARD TEN OF CLUBS;PLAYING CARD JACK OF CLUBS;PLAYING CARD KNIGHT OF CLUBS"),
  (0x1F0DD, "PLAYING CARD QUEEN OF CLUBS;PLAYING CARD KING OF CLUBS;PLAYING CARD WHITE JOKER"),
  (0x1F0E0, "PLAYING CARD FOOL;PLAYING CARD TRUMP-1;PLAYING CARD TRUMP-2;PLAYING CARD TRUMP-3"),
  (0x1F0E4, "PLAYING CARD TRUMP-4;PLAYING CARD TRUMP-5;PLAYING CARD TRUMP-6;PLAYING CARD TRUMP-7"),
  (0x1F0E8, "PLAYING CARD TRUMP-8;PLAYING CARD TRUMP-9;PLAYING CARD TRUMP-10"),
  (0x1F0EB, "PLAYING CARD TRUMP-11;PLAYING CARD TRUMP-12;PLAYING CARD TRUMP-13"),
  (0x1F0EE, "PLAYING CARD TRUMP-14;PLAYING CARD TRUMP-15;PLAYING CARD TRUMP-16"),
  (0x1F0F1, "PLAYING CARD TRUMP-17;PLAYING CARD TRUMP-18;PLAYING CARD TRUMP-19"),
  (0x1F0F4, "PLAYING CARD TRUMP-20;PLAYING CARD TRUMP-21"),
  (0x1F300, "CYCLONE;FOGGY;CLOSED UMBRELLA;NIGHT WITH STARS;SUNRISE OVER MOUNTAINS;SUNRISE"),
  (0x1F306, "CITYSCAPE AT DUSK;SUNSET OVER BUILDINGS;RAINBOW;BRIDGE AT NIGHT;WATER WAVE;VOLCANO"),
  (0x1F30C, "MILKY WAY;EARTH GLOBE EUROPE-AFRICA;EARTH GLOBE AMERICAS;EARTH GLOBE ASIA-AUSTRALIA"),
  (0x1F310, "GLOBE WITH MERIDIANS;NEW MOON SYMBOL;WAXING CRESCENT MOON SYMBOL"),
  (0x1F313, "FIRST QUARTER MOON SYMBOL;WAXING GIBBOUS MOON SYMBOL;FULL MOON SYMBOL"),
  (0x1F316, "WANING GIBBOUS MOON SYMBOL;LAST QUARTER MOON SYMBOL;WANING CRESCENT MOON SYMBOL"),
  (0x1F319, "CRESCENT MOON;NEW MOON WITH FACE;FIRST QUARTER MOON WITH FACE"),
  (0x1F31C, "LAST QUARTER MOON WITH FACE;FULL MOON WITH FACE;SUN WITH FACE;GLOWING STAR"),
  (0x1F320, "SHOOTING STAR;THERMOMETER;BLACK DROPLET;WHITE SUN;WHITE SUN WITH SMALL CLOUD"),
  (0x1F325, "WHITE SUN BEHIND CLOUD;WHITE SUN BEHIND CLOUD WITH RAIN;CLOUD WITH RAIN"),
  (0x1F328, "CLOUD WITH SNOW;CLOUD WITH LIGHTNING;CLOUD WITH TORNADO;FOG;WIND BLOWING FACE"),
  (0x1F32D, "HOT DOG;TACO;BURRITO;CHESTNUT;SEEDLING;EVERGREEN TREE;DECIDUOUS TREE;PALM TREE"),
  (0x1F335, "CACTUS;HOT PEPPER;TULIP;CHERRY BLOSSOM;ROSE;HIBISCUS;SUNFLOWER;BLOSSOM;EAR OF MAIZE"),
  (0x1F33E, "EAR OF RICE;HERB;FOUR LEAF CLOVER;MAPLE LEAF;FALLEN LEAF;LEAF FLUTTERING IN WIND"),
  (0x1F344, "MUSHROOM;TOMATO;AUBERGINE;GRAPES;MELON;WATERMELON;TANGERINE;LEMON;BANANA;PINEAPPLE"),
  (0x1F34E, "RED APPLE;GREEN APPLE;PEAR;PEACH;CHERRIES;STRAWBERRY;HAMBURGER;SLICE OF PIZZA"),
  (0x1F356, "MEAT ON BONE;POULTRY LEG;RICE CRACKER;RICE BALL;COOKED RICE;CURRY AND RICE"),
  (0x1F35C, "STEAMING BOWL;SPAGHETTI;BREAD;FRENCH FRIES;ROASTED SWEET POTATO;DANGO;ODEN;SUSHI"),
  (0x1F364, "FRIED SHRIMP;FISH CAKE WITH SWIRL DESIGN;SOFT ICE CREAM;SHAVED ICE;ICE CREAM"),
  (0x1F369, "DOUGHNUT;COOKIE;CHOCOLATE BAR;CANDY;LOLLIPOP;CUSTARD;HONEY POT;SHORTCAKE;BENTO BOX"),
  (0x1F372, "POT OF FOOD;COOKING;FORK AND KNIFE;TEACUP WITHOUT HANDLE;SAKE BOTTLE AND CUP"),
  (0x1F377, "WINE GLASS;COCKTAIL GLASS;TROPICAL DRINK;BEER MUG;CLINKING BEER MUGS;BABY BOTTLE"),
  (0x1F37D, "FORK AND KNIFE WITH PLATE;BOTTLE WITH POPPING CORK;POPCORN;RIBBON;WRAPPED PRESENT"),
  (0x1F382, "BIRTHDAY CAKE;JACK-O-LANTERN;CHRISTMAS TREE;FATHER CHRISTMAS;FIREWORKS"),
  (0x1F387, "FIREWORK SPARKLER;BALLOON;PARTY POPPER;CONFETTI BALL;TANABATA TREE;CROSSED FLAGS"),
  (0x1F38D, "PINE DECORATION;JAPANESE DOLLS;CARP STREAMER;WIND CHIME;MOON VIEWING CEREMONY"),
  (0x1F392, "SCHOOL SATCHEL;GRADUATION CAP;HEART WITH TIP ON THE LEFT;BOUQUET OF FLOWERS"),
  (0x1F396, "MILITARY MEDAL;REMINDER RIBBON;MUSICAL KEYBOARD WITH JACKS;STUDIO MICROPHONE"),
  (0x1F39A, "LEVEL SLIDER;CONTROL KNOBS;BEAMED ASCENDING MUSICAL NOTES"),
  (0x1F39D, "BEAMED DESCENDING MUSICAL NOTES;FILM FRAMES;ADMISSION TICKETS;CAROUSEL HORSE"),
  (0x1F3A1, "FERRIS WHEEL;ROLLER COASTER;FISHING POLE AND FISH;MICROPHONE;MOVIE CAMERA;CINEMA"),
  (0x1F3A7, "HEADPHONE;ARTIST PALETTE;TOP HAT;CIRCUS TENT;TICKET;CLAPPER BOARD;PERFORMING ARTS"),
  (0x1F3AE, "VIDEO GAME;DIRECT HIT;SLOT MACHINE;BILLIARDS;GAME DIE;BOWLING;FLOWER PLAYING CARDS"),
  (0x1F3B5, "MUSICAL NOTE;MULTIPLE MUSICAL NOTES;SAXOPHONE;GUITAR;MUSICAL KEYBOARD;TRUMPET;VIOLIN"),
  (0x1F3BC, "MUSICAL SCORE;RUNNING SHIRT WITH SASH;TENNIS RACQUET AND BALL;SKI AND SKI BOOT"),
  (0x1F3C0, "BASKETBALL AND HOOP;CHEQUERED FLAG;SNOWBOARDER;RUNNER;SURFER;SPORTS MEDAL;TROPHY"),
  (0x1F3C7, "HORSE RACING;AMERICAN FOOTBALL;RUGBY FOOTBALL;SWIMMER;WEIGHT LIFTER;GOLFER"),
  (0x1F3CD, "RACING MOTORCYCLE;RACING CAR;CRICKET BAT AND BALL;VOLLEYBALL"),
  (0x1F3D1, "FIELD HOCKEY STICK AND BALL;ICE HOCKEY STICK AND PUCK;TABLE TENNIS PADDLE AND BALL"),
  (0x1F3D4, "SNOW CAPPED MOUNTAIN;CAMPING;BEACH WITH UMBRELLA;BUILDING CONSTRUCTION"),
  (0x1F3D8, "HOUSE BUILDINGS;CITYSCAPE;DERELICT HOUSE BUILDING;CLASSICAL BUILDING;DESERT"),
  (0x1F3DD, "DESERT ISLAND;NATIONAL PARK;STADIUM;HOUSE BUILDING;HOUSE WITH GARDEN;OFFICE BUILDING"),
  (0x1F3E3, "JAPANESE POST OFFICE;EUROPEAN POST OFFICE;HOSPITAL;BANK;AUTOMATED TELLER MACHINE"),
  (0x1F3E8, "HOTEL;LOVE HOTEL;CONVENIENCE STORE;SCHOOL;DEPARTMENT STORE;FACTORY;IZAKAYA LANTERN"),
  (0x1F3EF, "JAPANESE CASTLE;EUROPEAN CASTLE;WHITE PENNANT;BLACK PENNANT;WAVING WHITE FLAG"),
  (0x1F3F4, "WAVING BLACK FLAG;ROSETTE;BLACK ROSETTE;LABEL;BADMINTON RACQUET AND SHUTTLECOCK"),
  (0x1F3F9, "BOW AND ARROW;AMPHORA;EMOJI MODIFIER FITZPATRICK TYPE-1-2"),
  (0x1F3FC, "EMOJI MODIFIER FITZPATRICK TYPE-3;EMOJI MODIFIER FITZPATRICK TYPE-4"),
  (0x1F3FE, "EMOJI MODIFIER FITZPATRICK TYPE-5;EMOJI MODIFIER FITZPATRICK TYPE-6;RAT;MOUSE;OX"),
  (0x1F403, "WATER BUFFALO;COW;TIGER;LEOPARD;RABBIT;CAT;DRAGON;CROCODILE;WHALE;SNAIL;SNAKE;HORSE"),
  (0x1F40F, "RAM;GOAT;SHEEP;MONKEY;ROOSTER;CHICKEN;DOG;PIG;BOAR;ELEPHANT;OCTOPUS;SPIRAL SHELL;BUG"),
  (0x1F41C, "ANT;HONEYBEE;LADY BEETLE;FISH;TROPICAL FISH;BLOWFISH;TURTLE;HATCHING CHICK"),
  (0x1F424, "BABY CHICK;FRONT-FACING BABY CHICK;BIRD;PENGUIN;KOALA;POODLE;DROMEDARY CAMEL"),
  (0x1F42B, "BACTRIAN CAMEL;DOLPHIN;MOUSE FACE;COW FACE;TIGER FACE;RABBIT FACE;CAT FACE"),
  (0x1F432, "DRAGON FACE;SPOUTING WHALE;HORSE FACE;MONKEY FACE;DOG FACE;PIG FACE;FROG FACE"),
  (0x1F439, "HAMSTER FACE;WOLF FACE;BEAR FACE;PANDA FACE;PIG NOSE;PAW PRINTS;CHIPMUNK;EYES;EYE"),
  (0x1F442, "EAR;NOSE;MOUTH;TONGUE;WHITE UP POINTING BACKHAND INDEX"),
  (0x1F447, "WHITE DOWN POINTING BACKHAND INDEX;WHITE LEFT POINTING BACKHAND INDEX"),
  (0x1F449, "WHITE RIGHT POINTING BACKHAND INDEX;FISTED HAND SIGN;WAVING HAND SIGN;OK HAND SIGN"),
  (0x1F44D, "THUMBS UP SIGN;THUMBS DOWN SIGN;CLAPPING HANDS SIGN;OPEN HANDS SIGN;CROWN;WOMANS HAT"),
  (0x1F453, "EYEGLASSES;NECKTIE;T-SHIRT;JEANS;DRESS;KIMONO;BIKINI;WOMANS CLOTHES;PURSE;HANDBAG"),
  (0x1F45D, "POUCH;MANS SHOE;ATHLETIC SHOE;HIGH-HEELED SHOE;WOMANS SANDAL;WOMANS BOOTS;FOOTPRINTS"),
  (0x1F464, "BUST IN SILHOUETTE;BUSTS IN SILHOUETTE;BOY;GIRL;MAN;WOMAN;FAMILY"),
  (0x1F46B, "MAN AND WOMAN HOLDING HANDS;TWO MEN HOLDING HANDS;TWO WOMEN HOLDING HANDS"),
  (0x1F46E, "POLICE OFFICER;WOMAN WITH BUNNY EARS;BRIDE WITH VEIL;PERSON WITH BLOND HAIR"),
  (0x1F472, "MAN WITH GUA PI MAO;MAN WITH TURBAN;OLDER MAN;OLDER WOMAN;BABY;CONSTRUCTION WORKER"),
  (0x1F478, "PRINCESS;JAPANESE OGRE;JAPANESE GOBLIN;GHOST;BABY ANGEL;EXTRATERRESTRIAL ALIEN"),
  (0x1F47E, "ALIEN MONSTER;IMP;SKULL;INFORMATION DESK PERSON;GUARDSMAN;DANCER;LIPSTICK"),
  (0x1F485, "NAIL POLISH;FACE MASSAGE;HAIRCUT;BARBER POLE;SYRINGE;PILL;KISS MARK;LOVE LETTER;RING"),
  (0x1F48E, "GEM STONE;KISS;BOUQUET;COUPLE WITH HEART;WEDDING;BEATING HEART;BROKEN HEART"),
  (0x1F495, "TWO HEARTS;SPARKLING HEART;GROWING HEART;HEART WITH ARROW;BLUE HEART;GREEN HEART"),
  (0x1F49B, "YELLOW HEART;PURPLE HEART;HEART WITH RIBBON;REVOLVING HEARTS;HEART DECORATION"),
  (0x1F4A0, "DIAMOND SHAPE WITH A DOT INSIDE;ELECTRIC LIGHT BULB;ANGER SYMBOL;BOMB"),
  (0x1F4A4, "SLEEPING SYMBOL;COLLISION SYMBOL;SPLASHING SWEAT SYMBOL;DROPLET;DASH SYMBOL"),
  (0x1F4A9, "PILE OF POO;FLEXED BICEPS;DIZZY SYMBOL;SPEECH BALLOON;THOUGHT BALLOON;WHITE FLOWER"),
  (0x1F4AF, "HUNDRED POINTS SYMBOL;MONEY BAG;CURRENCY EXCHANGE;HEAVY DOLLAR SIGN;CREDIT CARD"),
  (0x1F4B4, "BANKNOTE WITH YEN SIGN;BANKNOTE WITH DOLLAR SIGN;BANKNOTE WITH EURO SIGN"),
  (0x1F4B7, "BANKNOTE WITH POUND SIGN;MONEY WITH WINGS;CHART WITH UPWARDS TREND AND YEN SIGN;SEAT"),
  (0x1F4BB, "PERSONAL COMPUTER;BRIEFCASE;MINIDISC;FLOPPY DISK;OPTICAL DISC;DVD;FILE FOLDER"),
  (0x1F4C2, "OPEN FILE FOLDER;PAGE WITH CURL;PAGE FACING UP;CALENDAR;TEAR-OFF CALENDAR;CARD INDEX"),
  (0x1F4C8, "CHART WITH UPWARDS TREND;CHART WITH DOWNWARDS TREND;BAR CHART;CLIPBOARD;PUSHPIN"),
  (0x1F4CD, "ROUND PUSHPIN;PAPERCLIP;STRAIGHT RULER;TRIANGULAR RULER;BOOKMARK TABS;LEDGER"),
  (0x1F4D3, "NOTEBOOK;NOTEBOOK WITH DECORATIVE COVER;CLOSED BOOK;OPEN BOOK;GREEN BOOK;BLUE BOOK"),
  (0x1F4D9, "ORANGE BOOK;BOOKS;NAME BADGE;SCROLL;MEMO;TELEPHONE RECEIVER;PAGER;FAX MACHINE"),
  (0x1F4E1, "SATELLITE ANTENNA;PUBLIC ADDRESS LOUDSPEAKER;CHEERING MEGAPHONE;OUTBOX TRAY"),
  (0x1F4E5, "INBOX TRAY;PACKAGE;E-MAIL SYMBOL;INCOMING ENVELOPE"),
  (0x1F4E9, "ENVELOPE WITH DOWNWARDS ARROW ABOVE;CLOSED MAILBOX WITH LOWERED FLAG"),
  (0x1F4EB, "CLOSED MAILBOX WITH RAISED FLAG;OPEN MAILBOX WITH RAISED FLAG"),
  (0x1F4ED, "OPEN MAILBOX WITH LOWERED FLAG;POSTBOX;POSTAL HORN;NEWSPAPER;MOBILE PHONE"),
  (0x1F4F2, "MOBILE PHONE WITH RIGHTWARDS ARROW AT LEFT;VIBRATION MODE;MOBILE PHONE OFF"),
  (0x1F4F5, "NO MOBILE PHONES;ANTENNA WITH BARS;CAMERA;CAMERA WITH FLASH;VIDEO CAMERA;TELEVISION"),
  (0x1F4FB, "RADIO;VIDEOCASSETTE;FILM PROJECTOR;PORTABLE STEREO;PRAYER BEADS"),
  (0x1F500, "TWISTED RIGHTWARDS ARROWS;CLOCKWISE RIGHTWARDS AND LEFTWARDS OPEN CIRCLE ARROWS"),
  (0x1F502, "CLOCKWISE RIGHTWARDS AND LEFTWARDS OPEN CIRCLE ARROWS WITH CIRCLED ONE OVERLAY"),
  (0x1F503, "CLOCKWISE DOWNWARDS AND UPWARDS OPEN CIRCLE ARROWS"),
  (0x1F504, "ANTICLOCKWISE DOWNWARDS AND UPWARDS OPEN CIRCLE ARROWS;LOW BRIGHTNESS SYMBOL"),
  (0x1F506, "HIGH BRIGHTNESS SYMBOL;SPEAKER WITH CANCELLATION STROKE;SPEAKER"),
  (0x1F509, "SPEAKER WITH ONE SOUND WAVE;SPEAKER WITH THREE SOUND WAVES;BATTERY;ELECTRIC PLUG"),
  (0x1F50D, "LEFT-POINTING MAGNIFYING GLASS;RIGHT-POINTING MAGNIFYING GLASS;LOCK WITH INK PEN"),
  (0x1F510, "CLOSED LOCK WITH KEY;KEY;LOCK;OPEN LOCK;BELL;BELL WITH CANCELLATION STROKE;BOOKMARK"),
  (0x1F517, "LINK SYMBOL;RADIO BUTTON;BACK WITH LEFTWARDS ARROW ABOVE"),
  (0x1F51A, "END WITH LEFTWARDS ARROW ABOVE;ON WITH EXCLAMATION MARK WITH LEFT RIGHT ARROW ABOVE"),
  (0x1F51C, "SOON WITH RIGHTWARDS ARROW ABOVE;TOP WITH UPWARDS ARROW ABOVE"),
  (0x1F51E, "NO ONE UNDER EIGHTEEN SYMBOL;KEYCAP TEN;INPUT SYMBOL FOR LATIN CAPITAL LETTERS"),
  (0x1F521, "INPUT SYMBOL FOR LATIN SMALL LETTERS;INPUT SYMBOL FOR NUMBERS"),
  (0x1F523, "INPUT SYMBOL FOR SYMBOLS;INPUT SYMBOL FOR LATIN LETTERS;FIRE;ELECTRIC TORCH;WRENCH"),
  (0x1F528, "HAMMER;NUT AND BOLT;HOCHO;PISTOL;MICROSCOPE;TELESCOPE;CRYSTAL BALL")]

/-- The names from code point 1F52F to 1FA46. -/
def pictographNamesFrom1F52F : List (Nat × String) := [
  (0x1F52F, "SIX POINTED STAR WITH MIDDLE DOT;JAPANESE SYMBOL FOR BEGINNER;TRIDENT EMBLEM"),
  (0x1F532, "BLACK SQUARE BUTTON;WHITE SQUARE BUTTON;LARGE RED CIRCLE;LARGE BLUE CIRCLE"),
  (0x1F536, "LARGE ORANGE DIAMOND;LARGE BLUE DIAMOND;SMALL ORANGE DIAMOND;SMALL BLUE DIAMOND"),
  (0x1F53A, "UP-POINTING RED TRIANGLE;DOWN-POINTING RED TRIANGLE;UP-POINTING SMALL RED TRIANGLE"),
  (0x1F53D, "DOWN-POINTING SMALL RED TRIANGLE;LOWER RIGHT SHADOWED WHITE CIRCLE"),
  (0x1F53F, "UPPER RIGHT SHADOWED WHITE CIRCLE;CIRCLED CROSS POMMEE"),
  (0x1F541, "CROSS POMMEE WITH HALF-CIRCLE BELOW;CROSS POMMEE"),
  (0x1F543, "NOTCHED LEFT SEMICIRCLE WITH THREE DOTS;NOTCHED RIGHT SEMICIRCLE WITH THREE DOTS"),
  (0x1F545, "SYMBOL FOR MARKS CHAPTER;WHITE LATIN CROSS;HEAVY LATIN CROSS;CELTIC CROSS;OM SYMBOL"),
  (0x1F54A, "DOVE OF PEACE;KAABA;MOSQUE;SYNAGOGUE;MENORAH WITH NINE BRANCHES;BOWL OF HYGIEIA"),
  (0x1F550, "CLOCK FACE ONE OCLOCK;CLOCK FACE TWO OCLOCK;CLOCK FACE THREE OCLOCK"),
  (0x1F553, "CLOCK FACE FOUR OCLOCK;CLOCK FACE FIVE OCLOCK;CLOCK FACE SIX OCLOCK"),
  (0x1F556, "CLOCK FACE SEVEN OCLOCK;CLOCK FACE EIGHT OCLOCK;CLOCK FACE NINE OCLOCK"),
  (0x1F559, "CLOCK FACE TEN OCLOCK;CLOCK FACE ELEVEN OCLOCK;CLOCK FACE TWELVE OCLOCK"),
  (0x1F55C, "CLOCK FACE ONE-THIRTY;CLOCK FACE TWO-THIRTY;CLOCK FACE THREE-THIRTY"),
  (0x1F55F, "CLOCK FACE FOUR-THIRTY;CLOCK FACE FIVE-THIRTY;CLOCK FACE SIX-THIRTY"),
  (0x1F562, "CLOCK FACE SEVEN-THIRTY;CLOCK FACE EIGHT-THIRTY;CLOCK FACE NINE-THIRTY"),
  (0x1F565, "CLOCK FACE TEN-THIRTY;CLOCK FACE ELEVEN-THIRTY;CLOCK FACE TWELVE-THIRTY"),
  (0x1F568, "RIGHT SPEAKER;RIGHT SPEAKER WITH ONE SOUND WAVE;RIGHT SPEAKER WITH THREE SOUND WAVES"),
  (0x1F56B, "BULLHORN;BULLHORN WITH SOUND WAVES;RINGING BELL;BOOK;CANDLE;MANTELPIECE CLOCK"),
  (0x1F571, "BLACK SKULL AND CROSSBONES;NO PIRACY;HOLE;MAN IN BUSINESS SUIT LEVITATING"),
  (0x1F575, "SLEUTH OR SPY;DARK SUNGLASSES;SPIDER;SPIDER WEB;JOYSTICK;MAN DANCING"),
  (0x1F57B, "LEFT HAND TELEPHONE RECEIVER;TELEPHONE RECEIVER WITH PAGE"),
  (0x1F57D, "RIGHT HAND TELEPHONE RECEIVER;WHITE TOUCHTONE TELEPHONE;BLACK TOUCHTONE TELEPHONE"),
  (0x1F580, "TELEPHONE ON TOP OF MODEM;CLAMSHELL MOBILE PHONE;BACK OF ENVELOPE;STAMPED ENVELOPE"),
  (0x1F584, "ENVELOPE WITH LIGHTNING;FLYING ENVELOPE;PEN OVER STAMPED ENVELOPE;LINKED PAPERCLIPS"),
  (0x1F588, "BLACK PUSHPIN;LOWER LEFT PENCIL;LOWER LEFT BALLPOINT PEN;LOWER LEFT FOUNTAIN PEN"),
  (0x1F58C, "LOWER LEFT PAINTBRUSH;LOWER LEFT CRAYON;LEFT WRITING HAND;TURNED OK HAND SIGN"),
  (0x1F590, "RAISED HAND WITH FINGERS SPLAYED;REVERSED RAISED HAND WITH FINGERS SPLAYED"),
  (0x1F592, "REVERSED THUMBS UP SIGN;REVERSED THUMBS DOWN SIGN;REVERSED VICTORY HAND"),
  (0x1F595, "REVERSED HAND WITH MIDDLE FINGER EXTENDED"),
  (0x1F596, "RAISED HAND WITH PART BETWEEN MIDDLE AND RING FINGERS"),
  (0x1F597, "WHITE DOWN POINTING LEFT HAND INDEX;SIDEWAYS WHITE LEFT POINTING INDEX"),
  (0x1F599, "SIDEWAYS WHITE RIGHT POINTING INDEX;SIDEWAYS BLACK LEFT POINTING INDEX"),
  (0x1F59B, "SIDEWAYS BLACK RIGHT POINTING INDEX;BLACK LEFT POINTING BACKHAND INDEX"),
  (0x1F59D, "BLACK RIGHT POINTING BACKHAND INDEX;SIDEWAYS WHITE UP POINTING INDEX"),
  (0x1F59F, "SIDEWAYS WHITE DOWN POINTING INDEX;SIDEWAYS BLACK UP POINTING INDEX"),
  (0x1F5A1, "SIDEWAYS BLACK DOWN POINTING INDEX;BLACK UP POINTING BACKHAND INDEX"),
  (0x1F5A3, "BLACK DOWN POINTING BACKHAND INDEX;BLACK HEART;DESKTOP COMPUTER;KEYBOARD AND MOUSE"),
  (0x1F5A7, "THREE NETWORKED COMPUTERS;PRINTER;POCKET CALCULATOR;BLACK HARD SHELL FLOPPY DISK"),
  (0x1F5AB, "WHITE HARD SHELL FLOPPY DISK;SOFT SHELL FLOPPY DISK;TAPE CARTRIDGE;WIRED KEYBOARD"),
  (0x1F5AF, "ONE BUTTON MOUSE;TWO BUTTON MOUSE;THREE BUTTON MOUSE;TRACKBALL;OLD PERSONAL COMPUTER"),
  (0x1F5B4, "HARD DISK;SCREEN;PRINTER ICON;FAX ICON;OPTICAL DISC ICON;DOCUMENT WITH TEXT"),
  (0x1F5BA, "DOCUMENT WITH TEXT AND PICTURE;DOCUMENT WITH PICTURE;FRAME WITH PICTURE"),
  (0x1F5BD, "FRAME WITH TILES;FRAME WITH AN X;BLACK FOLDER;FOLDER;OPEN FOLDER;CARD INDEX DIVIDERS"),
  (0x1F5C3, "CARD FILE BOX;FILE CABINET;EMPTY NOTE;EMPTY NOTE PAGE;EMPTY NOTE PAD;NOTE;NOTE PAGE"),
  (0x1F5CA, "NOTE PAD;EMPTY DOCUMENT;EMPTY PAGE;EMPTY PAGES;DOCUMENT;PAGE;PAGES;WASTEBASKET"),
  (0x1F5D2, "SPIRAL NOTE PAD;SPIRAL CALENDAR PAD;DESKTOP WINDOW;MINIMIZE;MAXIMIZE;OVERLAP"),
  (0x1F5D8, "CLOCKWISE RIGHT AND LEFT SEMICIRCLE ARROWS;CANCELLATION X;INCREASE FONT SIZE SYMBOL"),
  (0x1F5DB, "DECREASE FONT SIZE SYMBOL;COMPRESSION;OLD KEY;ROLLED-UP NEWSPAPER"),
  (0x1F5DF, "PAGE WITH CIRCLED TEXT;STOCK CHART;DAGGER KNIFE;LIPS;SPEAKING HEAD IN SILHOUETTE"),
  (0x1F5E4, "THREE RAYS ABOVE;THREE RAYS BELOW;THREE RAYS LEFT;THREE RAYS RIGHT"),
  (0x1F5E8, "LEFT SPEECH BUBBLE;RIGHT SPEECH BUBBLE;TWO SPEECH BUBBLES;THREE SPEECH BUBBLES"),
  (0x1F5EC, "LEFT THOUGHT BUBBLE;RIGHT THOUGHT BUBBLE;LEFT ANGER BUBBLE;RIGHT ANGER BUBBLE"),
  (0x1F5F0, "MOOD BUBBLE;LIGHTNING MOOD BUBBLE;LIGHTNING MOOD;BALLOT BOX WITH BALLOT"),
  (0x1F5F4, "BALLOT SCRIPT X;BALLOT BOX WITH SCRIPT X;BALLOT BOLD SCRIPT X"),
  (0x1F5F7, "BALLOT BOX WITH BOLD SCRIPT X;LIGHT CHECK MARK;BALLOT BOX WITH BOLD CHECK;WORLD MAP"),
  (0x1F5FB, "MOUNT FUJI;TOKYO TOWER;STATUE OF LIBERTY;SILHOUETTE OF JAPAN;MOYAI;GRINNING FACE"),
  (0x1F601, "GRINNING FACE WITH SMILING EYES;FACE WITH TEARS OF JOY;SMILING FACE WITH OPEN MOUTH"),
  (0x1F604, "SMILING FACE WITH OPEN MOUTH AND SMILING EYES"),
  (0x1F605, "SMILING FACE WITH OPEN MOUTH AND COLD SWEAT"),
  (0x1F606, "SMILING FACE WITH OPEN MOUTH AND TIGHTLY-CLOSED EYES;SMILING FACE WITH HALO"),
  (0x1F608, "SMILING FACE WITH HORNS;WINKING FACE;SMILING FACE WITH SMILING EYES"),
  (0x1F60B, "FACE SAVOURING DELICIOUS FOOD;RELIEVED FACE;SMILING FACE WITH HEART-SHAPED EYES"),
  (0x1F60E, "SMILING FACE WITH SUNGLASSES;SMIRKING FACE;NEUTRAL FACE;EXPRESSIONLESS FACE"),
  (0x1F612, "UNAMUSED FACE;FACE WITH COLD SWEAT;PENSIVE FACE;CONFUSED FACE;CONFOUNDED FACE"),
  (0x1F617, "KISSING FACE;FACE THROWING A KISS;KISSING FACE WITH SMILING EYES"),
  (0x1F61A, "KISSING FACE WITH CLOSED EYES;FACE WITH STUCK-OUT TONGUE"),
  (0x1F61C, "FACE WITH STUCK-OUT TONGUE AND WINKING EYE"),
  (0x1F61D, "FACE WITH STUCK-OUT TONGUE AND TIGHTLY-CLOSED EYES;DISAPPOINTED FACE;WORRIED FACE"),
  (0x1F620, "ANGRY FACE;POUTING FACE;CRYING FACE;PERSEVERING FACE;FACE WITH LOOK OF TRIUMPH"),
  (0x1F625, "DISAPPOINTED BUT RELIEVED FACE;FROWNING FACE WITH OPEN MOUTH;ANGUISHED FACE"),
  (0x1F628, "FEARFUL FACE;WEARY FACE;SLEEPY FACE;TIRED FACE;GRIMACING FACE;LOUDLY CRYING FACE"),
  (0x1F62E, "FACE WITH OPEN MOUTH;HUSHED FACE;FACE WITH OPEN MOUTH AND COLD SWEAT"),
  (0x1F631, "FACE SCREAMING IN FEAR;ASTONISHED FACE;FLUSHED FACE;SLEEPING FACE;DIZZY FACE"),
  (0x1F636, "FACE WITHOUT MOUTH;FACE WITH MEDICAL MASK;GRINNING CAT FACE WITH SMILING EYES"),
  (0x1F639, "CAT FACE WITH TEARS OF JOY;SMILING CAT FACE WITH OPEN MOUTH"),
  (0x1F63B, "SMILING CAT FACE WITH HEART-SHAPED EYES;CAT FACE WITH WRY SMILE"),
  (0x1F63D, "KISSING CAT FACE WITH CLOSED EYES;POUTING CAT FACE;CRYING CAT FACE;WEARY CAT FACE"),
  (0x1F641, "SLIGHTLY FROWNING FACE;SLIGHTLY SMILING FACE;UPSIDE-DOWN FACE;FACE WITH ROLLING EYES"),
  (0x1F645, "FACE WITH NO GOOD GESTURE;FACE WITH OK GESTURE;PERSON BOWING DEEPLY"),
  (0x1F648, "SEE-NO-EVIL MONKEY;HEAR-NO-EVIL MONKEY;SPEAK-NO-EVIL MONKEY"),
  (0x1F64B, "HAPPY PERSON RAISING ONE HAND;PERSON RAISING BOTH HANDS IN CELEBRATION"),
  (0x1F64D, "PERSON FROWNING;PERSON WITH POUTING FACE;PERSON WITH FOLDED HANDS;ROCKET;HELICOPTER"),
  (0x1F682, "STEAM LOCOMOTIVE;RAILWAY CAR;HIGH-SPEED TRAIN;HIGH-SPEED TRAIN WITH BULLET NOSE"),
  (0x1F686, "TRAIN;METRO;LIGHT RAIL;STATION;TRAM;TRAM CAR;BUS;ONCOMING BUS;TROLLEYBUS;BUS STOP"),
  (0x1F690, "MINIBUS;AMBULANCE;FIRE ENGINE;POLICE CAR;ONCOMING POLICE CAR;TAXI;ONCOMING TAXI"),
  (0x1F697, "AUTOMOBILE;ONCOMING AUTOMOBILE;RECREATIONAL VEHICLE;DELIVERY TRUCK;ARTICULATED LORRY"),
  (0x1F69C, "TRACTOR;MONORAIL;MOUNTAIN RAILWAY;SUSPENSION RAILWAY;MOUNTAIN CABLEWAY"),
  (0x1F6A1, "AERIAL TRAMWAY;SHIP;ROWBOAT;SPEEDBOAT;HORIZONTAL TRAFFIC LIGHT"),
  (0x1F6A6, "VERTICAL TRAFFIC LIGHT;CONSTRUCTION SIGN;POLICE CARS REVOLVING LIGHT"),
  (0x1F6A9, "TRIANGULAR FLAG ON POST;DOOR;NO ENTRY SIGN;SMOKING SYMBOL;NO SMOKING SYMBOL"),
  (0x1F6AE, "PUT LITTER IN ITS PLACE SYMBOL;DO NOT LITTER SYMBOL;POTABLE WATER SYMBOL"),
  (0x1F6B1, "NON-POTABLE WATER SYMBOL;BICYCLE;NO BICYCLES;BICYCLIST;MOUNTAIN BICYCLIST;PEDESTRIAN"),
  (0x1F6B7, "NO PEDESTRIANS;CHILDREN CROSSING;MENS SYMBOL;WOMENS SYMBOL;RESTROOM;BABY SYMBOL"),
  (0x1F6BD, "TOILET;WATER CLOSET;SHOWER;BATH;BATHTUB;PASSPORT CONTROL;CUSTOMS;BAGGAGE CLAIM"),
  (0x1F6C5, "LEFT LUGGAGE;TRIANGLE WITH ROUNDED CORNERS;PROHIBITED SIGN"),
  (0x1F6C8, "CIRCLED INFORMATION SOURCE;BOYS SYMBOL;GIRLS SYMBOL;COUCH AND LAMP"),
  (0x1F6CC, "SLEEPING ACCOMMODATION;SHOPPING BAGS;BELLHOP BELL;BED;PLACE OF WORSHIP"),
  (0x1F6D1, "OCTAGONAL SIGN;SHOPPING TROLLEY;STUPA;PAGODA;HINDU TEMPLE;HUT;ELEVATOR"),
  (0x1F6DD, "PLAYGROUND SLIDE;WHEEL;RING BUOY;HAMMER AND WRENCH;SHIELD;OIL DRUM;MOTORWAY"),
  (0x1F6E4, "RAILWAY TRACK;MOTOR BOAT;UP-POINTING MILITARY AIRPLANE;UP-POINTING AIRPLANE"),
  (0x1F6E8, "UP-POINTING SMALL AIRPLANE;SMALL AIRPLANE;NORTHEAST-POINTING AIRPLANE"),
  (0x1F6EB, "AIRPLANE DEPARTURE;AIRPLANE ARRIVING"),
  (0x1F6F0, "SATELLITE;ONCOMING FIRE ENGINE;DIESEL LOCOMOTIVE;PASSENGER SHIP;SCOOTER"),
  (0x1F6F5, "MOTOR SCOOTER;CANOE;SLED;FLYING SAUCER;SKATEBOARD;AUTO RICKSHAW;PICKUP TRUCK"),
  (0x1F6FC, "ROLLER SKATE"),
  (0x1F900, "CIRCLED CROSS FORMEE WITH FOUR DOTS;CIRCLED CROSS FORMEE WITH TWO DOTS"),
  (0x1F902, "CIRCLED CROSS FORMEE;LEFT HALF CIRCLE WITH FOUR DOTS"),
  (0x1F904, "LEFT HALF CIRCLE WITH THREE DOTS;LEFT HALF CIRCLE WITH TWO DOTS"),
  (0x1F906, "LEFT HALF CIRCLE WITH DOT;LEFT HALF CIRCLE;DOWNWARD FACING HOOK"),
  (0x1F909, "DOWNWARD FACING NOTCHED HOOK;DOWNWARD FACING HOOK WITH DOT"),
  (0x1F90B, "DOWNWARD FACING NOTCHED HOOK WITH DOT;PINCHED FINGERS;WHITE HEART;BROWN HEART"),
  (0x1F90F, "PINCHING HAND;ZIPPER-MOUTH FACE;MONEY-MOUTH FACE;FACE WITH THERMOMETER;NERD FACE"),
  (0x1F914, "THINKING FACE;FACE WITH HEAD-BANDAGE;ROBOT FACE;HUGGING FACE;SIGN OF THE HORNS"),
  (0x1F919, "CALL ME HAND;RAISED BACK OF HAND;LEFT-FACING FIST;RIGHT-FACING FIST;HANDSHAKE"),
  (0x1F91E, "HAND WITH INDEX AND MIDDLE FINGERS CROSSED;I LOVE YOU HAND SIGN;FACE WITH COWBOY HAT"),
  (0x1F921, "CLOWN FACE;NAUSEATED FACE;ROLLING ON THE FLOOR LAUGHING;DROOLING FACE;LYING FACE"),
  (0x1F926, "FACE PALM;SNEEZING FACE;FACE WITH ONE EYEBROW RAISED;GRINNING FACE WITH STAR EYES"),
  (0x1F92A, "GRINNING FACE WITH ONE LARGE AND ONE SMALL EYE;FACE WITH FINGER COVERING CLOSED LIPS"),
  (0x1F92C, "SERIOUS FACE WITH SYMBOLS COVERING MOUTH"),
  (0x1F92D, "SMILING FACE WITH SMILING EYES AND HAND COVERING MOUTH;FACE WITH OPEN MOUTH VOMITING"),
  (0x1F92F, "SHOCKED FACE WITH EXPLODING HEAD;PREGNANT WOMAN;BREAST-FEEDING;PALMS UP TOGETHER"),
  (0x1F933, "SELFIE;PRINCE;MAN IN TUXEDO;MOTHER CHRISTMAS;SHRUG;PERSON DOING CARTWHEEL;JUGGLING"),
  (0x1F93A, "FENCER;MODERN PENTATHLON;WRESTLERS;WATER POLO;HANDBALL;DIVING MASK;WILTED FLOWER"),
  (0x1F941, "DRUM WITH DRUMSTICKS;CLINKING GLASSES;TUMBLER GLASS;SPOON;GOAL NET;RIFLE"),
  (0x1F947, "FIRST PLACE MEDAL;SECOND PLACE MEDAL;THIRD PLACE MEDAL;BOXING GLOVE"),
  (0x1F94B, "MARTIAL ARTS UNIFORM;CURLING STONE;LACROSSE STICK AND BALL;SOFTBALL;FLYING DISC"),
  (0x1F950, "CROISSANT;AVOCADO;CUCUMBER;BACON;POTATO;CARROT;BAGUETTE BREAD;GREEN SALAD"),
  (0x1F958, "SHALLOW PAN OF FOOD;STUFFED FLATBREAD;EGG;GLASS OF MILK;PEANUTS;KIWIFRUIT;PANCAKES"),
  (0x1F95F, "DUMPLING;FORTUNE COOKIE;TAKEOUT BOX;CHOPSTICKS;BOWL WITH SPOON;CUP WITH STRAW"),
  (0x1F965, "COCONUT;BROCCOLI;PIE;PRETZEL;CUT OF MEAT;SANDWICH;CANNED FOOD;LEAFY GREEN;MANGO"),
  (0x1F96E, "MOON CAKE;BAGEL;SMILING FACE WITH SMILING EYES AND THREE HEARTS;YAWNING FACE"),
  (0x1F972, "SMILING FACE WITH TEAR;FACE WITH PARTY HORN AND PARTY HAT"),
  (0x1F974, "FACE WITH UNEVEN EYES AND WAVY MOUTH;OVERHEATED FACE;FREEZING FACE;NINJA"),
  (0x1F978, "DISGUISED FACE;FACE HOLDING BACK TEARS;FACE WITH PLEADING EYES;SARI;LAB COAT;GOGGLES"),
  (0x1F97E, "HIKING BOOT;FLAT SHOE;CRAB;LION FACE;SCORPION;TURKEY;UNICORN FACE;EAGLE;DUCK;BAT"),
  (0x1F988, "SHARK;OWL;FOX FACE;BUTTERFLY;DEER;GORILLA;LIZARD;RHINOCEROS;SHRIMP;SQUID"),
  (0x1F992, "GIRAFFE FACE;ZEBRA FACE;HEDGEHOG;SAUROPOD;T-REX;CRICKET;KANGAROO;LLAMA;PEACOCK"),
  (0x1F99B, "HIPPOPOTAMUS;PARROT;RACCOON;LOBSTER;MOSQUITO;MICROBE;BADGER;SWAN;MAMMOTH;DODO;SLOTH"),
  (0x1F9A6, "OTTER;ORANGUTAN;SKUNK;FLAMINGO;OYSTER;BEAVER;BISON;SEAL;GUIDE DOG;PROBING CANE"),
  (0x1F9B0, "EMOJI COMPONENT RED HAIR;EMOJI COMPONENT CURLY HAIR;EMOJI COMPONENT BALD"),
  (0x1F9B3, "EMOJI COMPONENT WHITE HAIR;BONE;LEG;FOOT;TOOTH;SUPERHERO;SUPERVILLAIN;SAFETY VEST"),
  (0x1F9BB, "EAR WITH HEARING AID;MOTORIZED WHEELCHAIR;MANUAL WHEELCHAIR;MECHANICAL ARM"),
  (0x1F9BF, "MECHANICAL LEG;CHEESE WEDGE;CUPCAKE;SALT SHAKER;BEVERAGE BOX;GARLIC;ONION;FALAFEL"),
  (0x1F9C7, "WAFFLE;BUTTER;MATE DRINK;ICE CUBE;BUBBLE TEA;TROLL;STANDING PERSON;KNEELING PERSON"),
  (0x1F9CF, "DEAF PERSON;FACE WITH MONOCLE;ADULT;CHILD;OLDER ADULT;BEARDED PERSON"),
  (0x1F9D5, "PERSON WITH HEADSCARF;PERSON IN STEAMY ROOM;PERSON CLIMBING;PERSON IN LOTUS POSITION"),
  (0x1F9D9, "MAGE;FAIRY;VAMPIRE;MERPERSON;ELF;GENIE;ZOMBIE;BRAIN;ORANGE HEART;BILLED CAP;SCARF"),
  (0x1F9E4, "GLOVES;COAT;SOCKS;RED GIFT ENVELOPE;FIRECRACKER;JIGSAW PUZZLE PIECE;TEST TUBE"),
  (0x1F9EB, "PETRI DISH;DNA DOUBLE HELIX;COMPASS;ABACUS;FIRE EXTINGUISHER;TOOLBOX;BRICK;MAGNET"),
  (0x1F9F3, "LUGGAGE;LOTION BOTTLE;SPOOL OF THREAD;BALL OF YARN;SAFETY PIN;TEDDY BEAR;BROOM"),
  (0x1F9FA, "BASKET;ROLL OF PAPER;BAR OF SOAP;SPONGE;RECEIPT;NAZAR AMULET;NEUTRAL CHESS KING"),
  (0x1FA01, "NEUTRAL CHESS QUEEN;NEUTRAL CHESS ROOK;NEUTRAL CHESS BISHOP;NEUTRAL CHESS KNIGHT"),
  (0x1FA05, "NEUTRAL CHESS PAWN;WHITE CHESS KNIGHT ROTATED FORTY-FIVE DEGREES"),
  (0x1FA07, "BLACK CHESS KNIGHT ROTATED FORTY-FIVE DEGREES"),
  (0x1FA08, "NEUTRAL CHESS KNIGHT ROTATED FORTY-FIVE DEGREES"),
  (0x1FA09, "WHITE CHESS KING ROTATED NINETY DEGREES;WHITE CHESS QUEEN ROTATED NINETY DEGREES"),
  (0x1FA0B, "WHITE CHESS ROOK ROTATED NINETY DEGREES;WHITE CHESS BISHOP ROTATED NINETY DEGREES"),
  (0x1FA0D, "WHITE CHESS KNIGHT ROTATED NINETY DEGREES;WHITE CHESS PAWN ROTATED NINETY DEGREES"),
  (0x1FA0F, "BLACK CHESS KING ROTATED NINETY DEGREES;BLACK CHESS QUEEN ROTATED NINETY DEGREES"),
  (0x1FA11, "BLACK CHESS ROOK ROTATED NINETY DEGREES;BLACK CHESS BISHOP ROTATED NINETY DEGREES"),
  (0x1FA13, "BLACK CHESS KNIGHT ROTATED NINETY DEGREES;BLACK CHESS PAWN ROTATED NINETY DEGREES"),
  (0x1FA15, "NEUTRAL CHESS KING ROTATED NINETY DEGREES;NEUTRAL CHESS QUEEN ROTATED NINETY DEGREES"),
  (0x1FA17, "NEUTRAL CHESS ROOK ROTATED NINETY DEGREES"),
  (0x1FA18, "NEUTRAL CHESS BISHOP ROTATED NINETY DEGREES"),
  (0x1FA19, "NEUTRAL CHESS KNIGHT ROTATED NINETY DEGREES"),
  (0x1FA1A, "NEUTRAL CHESS PAWN ROTATED NINETY DEGREES"),
  (0x1FA1B, "WHITE CHESS KNIGHT ROTATED ONE HUNDRED THIRTY-FIVE DEGREES"),
  (0x1FA1C, "BLACK CHESS KNIGHT ROTATED ONE HUNDRED THIRTY-FIVE DEGREES"),
  (0x1FA1D, "NEUTRAL CHESS KNIGHT ROTATED ONE HUNDRED THIRTY-FIVE DEGREES;WHITE CHESS TURNED KING"),
  (0x1FA1F, "WHITE CHESS TURNED QUEEN;WHITE CHESS TURNED ROOK;WHITE CHESS TURNED BISHOP"),
  (0x1FA22, "WHITE CHESS TURNED KNIGHT;WHITE CHESS TURNED PAWN;BLACK CHESS TURNED KING"),
  (0x1FA25, "BLACK CHESS TURNED QUEEN;BLACK CHESS TURNED ROOK;BLACK CHESS TURNED BISHOP"),
  (0x1FA28, "BLACK CHESS TURNED KNIGHT;BLACK CHESS TURNED PAWN;NEUTRAL CHESS TURNED KING"),
  (0x1FA2B, "NEUTRAL CHESS TURNED QUEEN;NEUTRAL CHESS TURNED ROOK;NEUTRAL CHESS TURNED BISHOP"),
  (0x1FA2E, "NEUTRAL CHESS TURNED KNIGHT;NEUTRAL CHESS TURNED PAWN"),
  (0x1FA30, "WHITE CHESS KNIGHT ROTATED TWO HUNDRED TWENTY-FIVE DEGREES"),
  (0x1FA31, "BLACK CHESS KNIGHT ROTATED TWO HUNDRED TWENTY-FIVE DEGREES"),
  (0x1FA32, "NEUTRAL CHESS KNIGHT ROTATED TWO HUNDRED TWENTY-FIVE DEGREES"),
  (0x1FA33, "WHITE CHESS KING ROTATED TWO HUNDRED SEVENTY DEGREES"),
  (0x1FA34, "WHITE CHESS QUEEN ROTATED TWO HUNDRED SEVENTY DEGREES"),
  (0x1FA35, "WHITE CHESS ROOK ROTATED TWO HUNDRED SEVENTY DEGREES"),
  (0x1FA36, "WHITE CHESS BISHOP ROTATED TWO HUNDRED SEVENTY DEGREES"),
  (0x1FA37, "WHITE CHESS KNIGHT ROTATED TWO HUNDRED SEVENTY DEGREES"),
  (0x1FA38, "WHITE CHESS PAWN ROTATED TWO HUNDRED SEVENTY DEGREES"),
  (0x1FA39, "BLACK CHESS KING ROTATED TWO HUNDRED SEVENTY DEGREES"),
  (0x1FA3A, "BLACK CHESS QUEEN ROTATED TWO HUNDRED SEVENTY DEGREES"),
  (0x1FA3B, "BLACK CHESS ROOK ROTATED TWO HUNDRED SEVENTY DEGREES"),
  (0x1FA3C, "BLACK CHESS BISHOP ROTATED TWO HUNDRED SEVENTY DEGREES"),
  (0x1FA3D, "BLACK CHESS KNIGHT ROTATED TWO HUNDRED SEVENTY DEGREES"),
  (0x1FA3E, "BLACK CHESS PAWN ROTATED TWO HUNDRED SEVENTY DEGREES"),
  (0x1FA3F, "NEUTRAL CHESS KING ROTATED TWO HUNDRED SEVENTY DEGREES"),
  (0x1FA40, "NEUTRAL CHESS QUEEN ROTATED TWO HUNDRED SEVENTY DEGREES"),
  (0x1FA41, "NEUTRAL CHESS ROOK ROTATED TWO HUNDRED SEVENTY DEGREES"),
  (0x1FA42, "NEUTRAL CHESS BISHOP ROTATED TWO HUNDRED SEVENTY DEGREES"),
  (0x1FA43, "NEUTRAL CHESS KNIGHT ROTATED TWO HUNDRED SEVENTY DEGREES"),
  (0x1FA44, "NEUTRAL CHESS PAWN ROTATED TWO HUNDRED SEVENTY DEGREES"),
  (0x1FA45, "WHITE CHESS KNIGHT ROTATED THREE HUNDRED FIFTEEN DEGREES"),
  (0x1FA46, "BLACK CHESS KNIGHT ROTATED THREE HUNDRED FIFTEEN DEGREES")]

/-- The names from code point 1FA47 to 1FAF6. -/
def pictographNamesFrom1FA47 : List (Nat × String) := [
  (0x1FA47, "NEUTRAL CHESS KNIGHT ROTATED THREE HUNDRED FIFTEEN DEGREES;WHITE CHESS EQUIHOPPER"),
  (0x1FA49, "BLACK CHESS EQUIHOPPER;NEUTRAL CHESS EQUIHOPPER"),
  (0x1FA4B, "WHITE CHESS EQUIHOPPER ROTATED NINETY DEGREES"),
  (0x1FA4C, "BLACK CHESS EQUIHOPPER ROTATED NINETY DEGREES"),
  (0x1FA4D, "NEUTRAL CHESS EQUIHOPPER ROTATED NINETY DEGREES;WHITE CHESS KNIGHT-QUEEN"),
  (0x1FA4F, "WHITE CHESS KNIGHT-ROOK;WHITE CHESS KNIGHT-BISHOP;BLACK CHESS KNIGHT-QUEEN"),
  (0x1FA52, "BLACK CHESS KNIGHT-ROOK;BLACK CHESS KNIGHT-BISHOP"),
  (0x1FA60, "XIANGQI RED GENERAL;XIANGQI RED MANDARIN;XIANGQI RED ELEPHANT;XIANGQI RED HORSE"),
  (0x1FA64, "XIANGQI RED CHARIOT;XIANGQI RED CANNON;XIANGQI RED SOLDIER;XIANGQI BLACK GENERAL"),
  (0x1FA68, "XIANGQI BLACK MANDARIN;XIANGQI BLACK ELEPHANT;XIANGQI BLACK HORSE"),
  (0x1FA6B, "XIANGQI BLACK CHARIOT;XIANGQI BLACK CANNON;XIANGQI BLACK SOLDIER"),
  (0x1FA70, "BALLET SHOES;ONE-PIECE SWIMSUIT;BRIEFS;SHORTS;THONG SANDAL"),
  (0x1FA78, "DROP OF BLOOD;ADHESIVE BANDAGE;STETHOSCOPE;X-RAY;CRUTCH"),
  (0x1FA80, "YO-YO;KITE;PARACHUTE;BOOMERANG;MAGIC WAND;PINATA;NESTING DOLLS"),
  (0x1FA90, "RINGED PLANET;CHAIR;RAZOR;AXE;DIYA LAMP;BANJO;MILITARY HELMET;ACCORDION;LONG DRUM"),
  (0x1FA99, "COIN;CARPENTRY SAW;SCREWDRIVER;LADDER;HOOK;MIRROR;WINDOW;PLUNGER;SEWING NEEDLE;KNOT"),
  (0x1FAA3, "BUCKET;MOUSE TRAP;TOOTHBRUSH;HEADSTONE;PLACARD;ROCK;MIRROR BALL;IDENTIFICATION CARD"),
  (0x1FAAB, "LOW BATTERY;HAMSA"),
  (0x1FAB0, "FLY;WORM;BEETLE;COCKROACH;POTTED PLANT;WOOD;FEATHER;LOTUS;CORAL;EMPTY NEST"),
  (0x1FABA, "NEST WITH EGGS"),
  (0x1FAC0, "ANATOMICAL HEART;LUNGS;PEOPLE HUGGING;PREGNANT MAN;PREGNANT PERSON;PERSON WITH CROWN"),
  (0x1FAD0, "BLUEBERRIES;BELL PEPPER;OLIVE;FLATBREAD;TAMALE;FONDUE;TEAPOT;POURING LIQUID;BEANS"),
  (0x1FAD9, "JAR"),
  (0x1FAE0, "MELTING FACE;SALUTING FACE;FACE WITH OPEN EYES AND HAND OVER MOUTH"),
  (0x1FAE3, "FACE WITH PEEKING EYE;FACE WITH DIAGONAL MOUTH;DOTTED LINE FACE;BITING LIP;BUBBLES"),
  (0x1FAF0, "HAND WITH INDEX FINGER AND THUMB CROSSED;RIGHTWARDS HAND;LEFTWARDS HAND"),
  (0x1FAF3, "PALM DOWN HAND;PALM UP HAND;INDEX POINTING AT THE VIEWER;HEART HANDS")]

end Winnow.Unicode
