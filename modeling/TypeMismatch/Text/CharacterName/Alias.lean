/-!
# Further names of characters

The names that the Unicode standard, version 14.0, gives to characters beside their own: the
controls have no other ones, and the names of some other characters are corrected or shortened so.
Lines hold the names of controls in the order of their codes, with semicolons between controls.
-/

namespace TypeMismatch
namespace Text

/-- The names of the controls below 32, several of each. -/
def lowControlNames : List String :=
  ["NULL,NUL;START OF HEADING,SOH;START OF TEXT,STX;END OF TEXT,ETX;END OF TRANSMISSION,EOT",
   "ENQUIRY,ENQ;ACKNOWLEDGE,ACK;ALERT,BEL;BACKSPACE,BS",
   "CHARACTER TABULATION,HORIZONTAL TABULATION,HT,TAB;LINE FEED,NEW LINE,END OF LINE,LF,NL,EOL",
   "LINE TABULATION,VERTICAL TABULATION,VT;FORM FEED,FF;CARRIAGE RETURN,CR",
   "SHIFT OUT,LOCKING-SHIFT ONE,SO;SHIFT IN,LOCKING-SHIFT ZERO,SI;DATA LINK ESCAPE,DLE",
   "DEVICE CONTROL ONE,DC1;DEVICE CONTROL TWO,DC2;DEVICE CONTROL THREE,DC3",
   "DEVICE CONTROL FOUR,DC4;NEGATIVE ACKNOWLEDGE,NAK;SYNCHRONOUS IDLE,SYN",
   "END OF TRANSMISSION BLOCK,ETB;CANCEL,CAN;END OF MEDIUM,EOM;SUBSTITUTE,SUB;ESCAPE,ESC",
   "INFORMATION SEPARATOR FOUR,FILE SEPARATOR,FS;INFORMATION SEPARATOR THREE,GROUP SEPARATOR,GS",
   "INFORMATION SEPARATOR TWO,RECORD SEPARATOR,RS;INFORMATION SEPARATOR ONE,UNIT SEPARATOR,US"]

/-- The names of the controls from 127 on, several of each. -/
def highControlNames : List String :=
  ["DELETE,DEL;PADDING CHARACTER,PAD;HIGH OCTET PRESET,HOP;BREAK PERMITTED HERE,BPH",
   "NO BREAK HERE,NBH;INDEX,IND;NEXT LINE,NEL;START OF SELECTED AREA,SSA;END OF SELECTED AREA,ESA",
   "CHARACTER TABULATION SET,HORIZONTAL TABULATION SET,HTS",
   "CHARACTER TABULATION WITH JUSTIFICATION,HORIZONTAL TABULATION WITH JUSTIFICATION,HTJ",
   "LINE TABULATION SET,VERTICAL TABULATION SET,VTS;PARTIAL LINE FORWARD,PARTIAL LINE DOWN,PLD",
   "PARTIAL LINE BACKWARD,PARTIAL LINE UP,PLU;REVERSE LINE FEED,REVERSE INDEX,RI",
   "SINGLE SHIFT TWO,SINGLE-SHIFT-2,SS2;SINGLE SHIFT THREE,SINGLE-SHIFT-3,SS3",
   "DEVICE CONTROL STRING,DCS;PRIVATE USE ONE,PRIVATE USE-1,PU1;PRIVATE USE TWO,PRIVATE USE-2,PU2",
   "SET TRANSMIT STATE,STS;CANCEL CHARACTER,CCH;MESSAGE WAITING,MW",
   "START OF GUARDED AREA,START OF PROTECTED AREA,SPA",
   "END OF GUARDED AREA,END OF PROTECTED AREA,EPA;START OF STRING,SOS",
   "SINGLE GRAPHIC CHARACTER INTRODUCER,SGC;SINGLE CHARACTER INTRODUCER,SCI",
   "CONTROL SEQUENCE INTRODUCER,CSI;STRING TERMINATOR,ST;OPERATING SYSTEM COMMAND,OSC",
   "PRIVACY MESSAGE,PM;APPLICATION PROGRAM COMMAND,APC"]

/-- Further names of other characters. -/
def furtherNames : List (String × Nat) :=
  [("SP", 0x20), ("NBSP", 0xA0), ("SHY", 0xAD), ("LATIN CAPITAL LETTER GHA", 0x1A2),
   ("LATIN SMALL LETTER GHA", 0x1A3), ("CGJ", 0x34F), ("ALM", 0x61C),
   ("SYRIAC SUBLINEAR COLON SKEWED LEFT", 0x709), ("KANNADA LETTER LLLA", 0xCDE),
   ("LAO LETTER FO FON", 0xE9D), ("LAO LETTER FO FAY", 0xE9F), ("LAO LETTER RO", 0xEA3),
   ("LAO LETTER LO", 0xEA5), ("TIBETAN MARK BKA- SHOG GI MGO RGYAN", 0xFD0),
   ("HANGUL JONGSEONG YESIEUNG-KIYEOK", 0x11EC), ("HANGUL JONGSEONG YESIEUNG-SSANGKIYEOK", 0x11ED),
   ("HANGUL JONGSEONG SSANGYESIEUNG", 0x11EE), ("HANGUL JONGSEONG YESIEUNG-KHIEUKH", 0x11EF),
   ("FVS1", 0x180B), ("FVS2", 0x180C), ("FVS3", 0x180D), ("MVS", 0x180E), ("FVS4", 0x180F),
   ("ZWSP", 0x200B), ("ZWNJ", 0x200C), ("ZWJ", 0x200D), ("LRM", 0x200E), ("RLM", 0x200F),
   ("LRE", 0x202A), ("RLE", 0x202B), ("PDF", 0x202C), ("LRO", 0x202D), ("RLO", 0x202E),
   ("NNBSP", 0x202F), ("MMSP", 0x205F), ("WJ", 0x2060), ("LRI", 0x2066), ("RLI", 0x2067),
   ("FSI", 0x2068), ("PDI", 0x2069), ("WEIERSTRASS ELLIPTIC FUNCTION", 0x2118),
   ("MICR ON US SYMBOL", 0x2448), ("MICR DASH SYMBOL", 0x2449),
   ("LEFTWARDS TRIANGLE-HEADED ARROW WITH DOUBLE VERTICAL STROKE", 0x2B7A),
   ("RIGHTWARDS TRIANGLE-HEADED ARROW WITH DOUBLE VERTICAL STROKE", 0x2B7C),
   ("YI SYLLABLE ITERATION MARK", 0xA015), ("MYANMAR LETTER KHAMTI LLA", 0xAA6E),
   ("PRESENTATION FORM FOR VERTICAL RIGHT WHITE LENTICULAR BRACKET", 0xFE18), ("BOM", 0xFEFF),
   ("BYTE ORDER MARK", 0xFEFF), ("ZWNBSP", 0xFEFF), ("CUNEIFORM SIGN NU11 TENU", 0x122D4),
   ("CUNEIFORM SIGN NU11 OVER NU11 BUR OVER BUR", 0x122D5),
   ("MEDEFAIDRIN CAPITAL LETTER H", 0x16E56), ("MEDEFAIDRIN CAPITAL LETTER NG", 0x16E57),
   ("MEDEFAIDRIN SMALL LETTER H", 0x16E76), ("MEDEFAIDRIN SMALL LETTER NG", 0x16E77),
   ("HENTAIGANA LETTER E-1", 0x1B001),
   ("BYZANTINE MUSICAL SYMBOL FTHORA SKLIRON CHROMA VASIS", 0x1D0C5)]

end Text
end TypeMismatch
