/-!
# Classes of characters

Which characters are letters, marks, digits or connectors is fixed by the Unicode property
`General_Category`. The property is constant on long runs of code points, so it is held here
as a run-length text (`runs`): a letter names the class of a run and the number after it says
how many code points the run has, one if there is none. Everything after the last run is
unassigned.

Several categories play the same part everywhere in this library and share a class: all letters
that are not upper case are `letter`, and the categories without a visible form (controls, formats,
separators other than the space, surrogates, private use, unassigned) are `hidden`.

Below U+0080 the predicates are given in full, so that what they say of an ASCII character
can be read off without the table; the table decides the rest.
-/

namespace Toolwright.Text

/-- The classes into which the general categories are gathered. -/
inductive Class where
  /-- An upper-case letter (`Lu`). -/
  | upper
  /-- Any other letter (`Ll`, `Lt`, `Lm`, `Lo`). -/
  | letter
  /-- A number that is written as a letter (`Nl`). -/
  | letterNumber
  /-- A mark that takes no room of its own (`Mn`). -/
  | mark
  /-- A mark that encloses its base (`Me`). -/
  | enclosing
  /-- A mark that takes room (`Mc`). -/
  | spacingMark
  /-- A decimal digit (`Nd`). -/
  | digit
  /-- Connecting punctuation (`Pc`). -/
  | connector
  /-- A character without a visible form. -/
  | hidden
  /-- Any other visible character. -/
  | other
  deriving DecidableEq, Repr, Inhabited

namespace Class

/-- The class a letter of the run-length text stands for. -/
def ofCode : Char → Class
  | 'U' => upper
  | 'L' => letter
  | 'N' => letterNumber
  | 'M' => mark
  | 'E' => enclosing
  | 'S' => spacingMark
  | 'D' => digit
  | 'P' => connector
  | 'O' => other
  | _ => hidden

/-- The classes of all code points in order, as runs. The breaks between the lines mean nothing. -/
def runs : String :=
  "X32O16D10O7U26O4POL26O4X34O9LO2XO7LO4LO5U23OU7L24OL8ULULULULULULULULULULULULULULULULULULULUL
    ULULULULULULULUL2ULULULULULULULUL2ULULULULULULULULULULULULULULULULULULULULULULULU2LULUL3U2LU
    LU2LU3L2U4LU2LU3L3U2LU2LULULU2LUL2ULU2LU3LULU2L3UL7UL2UL2UL2ULULULULULULULUL2ULULULULULULULU
    LUL2UL2ULU3LULULULULULULULULULULULULULULULULULULULULULULULULULULULULUL7U2LU2L2ULU4LULULULU
    L115O4L12O14L5O7LOLO17M112ULUL2OULX2L4OUX4O2UOU3XUXU2LU17XU9L35UL2U3L3ULULULULULULULULULULUL
    UL5ULOULU2L2U51L48ULULULULULULULULULULULULULULULULULOM5E2ULULULULULULULULULULULULULULULULULU
    LULULULULULULULULULU2LULULULULULUL2ULULULULULULULULULULULULULULULULULULULULULULULULULULULULU
    LULULULULULULULULULULULULULULULULULULULXU38X2LO6L41O2X2O3XM45OMOM2OM2OMX8L27X4L4O2X17O10M11O
    XO3L43M21D10O4L2ML99OLM7XOM6L2M2OM4L2D10L3O2LO14X2LML30M27X2L89M11LX14D10L33M9L2O4LX2MO2L22
    M4LM9LM3LM5X2O15XL25M3X2OXL11X5L24OL6X8M9L42M24XM32SL54MSMLS3M8S4MS2LM7L10M2O2D10OL16MS2XL8
    X2L2X2L22XL7XLX3L4X2MLS3M4X2S2X2S2MLX8SX4L2XL3M2X2D10L2O10LOMX2M2SXL6X4L2X2L22XL7XL2XL2XL2X2
    MXS3M2X4M2X2M3X3MX7L4XLX7D10M2L3MOX10M2SXL9XL3XL22XL7XL2XL5X2MLS3M5XM2SXS2MX2LX15L2M2X2D10O2
    X7LM6XMS2XL8X2L2X2L22XL7XL2XL5X2MLSMSM4X2S2X2S2MX7M2SX4L2XL3M2X2D10OLO6X10MLXL6X3L3XL4X3L2XL
    XL2X3L2X3L3X3L12X4S2MS2X3S3XS3MX2LX6SX14D10O11X5MS3ML8XL3XL23XL16X2MLM3S4XM3XM4X7M2XL3X2LX2
    L2M2X2D10X7O9LMS2OL8XL3XL23XL10XL5X2MLSMS5XMS2XS2M2X7S2X6L2XL2M2X2D10XL2SX12M2S2L9XL3XL41M2L
    S3M4XS3XS3MLOX4L3SO7L3M2X2D10O10L6XMS2XL18X3L24XL9XLX2L7X3MX4S3M3XMXS8X6D10X2S2OX12L48ML2M7
    X4OL7M8OD10O2X37L2XLXL5XL24XLXL10ML2M9LX2L5XLXM7XD10X2L4X32LO23M2O6D10O11MOMOMO4S2L8XL36X4
    M14SM5OM2L5M11XM36XO8MO6XO13X37L43S2M4SM6SM2S2M2LD10O6L6S2M2L4M3LS3L2S7L3M4L13MS2M2S6MLSD10
    S3MO2U38XUX5UX2L43OL333XL4X2L7XLXL4X2L41XL4X2L33XL4X2L7XLXL4X2L15XL57XL4X2L67X2M3O29X3L16O10
    X6U86X2L6X2OL620O2L17XL26O2X3L75O3N3L8X7L18M3SX9L19M2SO2X9L18M2X12L13XL3XM2X12L52M2SM7S8MS2
    M11O3LO4LMX2D10X6O10X6O11M3XMD10X6L89X7L5M2L34MLX5L70X10L31XM3S4M2S3X4S2MS6M3X4OX3O2D10L30X2
    L5X11L44X4L26X6D10OX3O34L23M2S2MX2O2L53SMSM7XMSMS2M8S6M10X2MD10X6D10X6O7LO6X2M14EM16X49M4S
    L47MSM5SMS5MS2L8XO2D10O17M9O12M2SL30SM4S2M2SM3L2D10L44MSM2S3MSM3S2X8O4L36S8M8S2M2X3O5D10X3L3
    D10L36O2L9ULX5U43X2U3O8X8M3OM13SM7L4ML6ML2SM2LX5L192M64ULULULULULULULULULULULULULULULULULULU
    LULULULULULULULULULULULULULULULULULULULULULULULULULULULULULULULULULULULULULULULULULULULULULU
    LULULULULULULULULULUL9ULULULULULULULULULULULULULULULULULULULULULULULULULULULULULULULULULULUL
    ULULULULULULULULULULULULULUL9U8L6X2U6X2L8U8L8U8L6X2U6X2L8XUXUXUXUL8U8L14X2L53XL2U4LOLO3L3XL2
    U4LO3L4X2L2U4XO3L8U5O3X2L3XL2U4LO2X17O24X8O15P2O19PO10X17OLX2O11LO15XL13X3O33X15M13E4ME3M12
    X15O2UO4UO2LU3L2U3LOUO3U5O6UOUOUOU4OLU4L6O2L2U2O5UL4O4LO17N35ULN4O3X4O666X22O11X21O1812X2O32
    XO105U48L48ULU3L2ULULULU4LUL2UL8U3LULULULULULULULULULULULULULULULULULULULULULULULULULULULULU
    LULULULULULULULULULULULULULULULULULULULUL2O6ULULM3ULX5O7L38XLX5LX2L56X7LOX14ML23X9L7XL7XL7X
    L7XL7XL7XL7XL7XM32O47LO46X34O26XO89X12O214X26O16XO4L2NO25N9M4S2OL5O2N3L2O3XL86X2M2O2L3OL90O
    L4X5L43XL94XO16L32O38X9OL16O31XO480L6592O64L22157X3O55X9L46O2L269O3L16D10L2X20ULULULULULULUL
    ULULULULULULULULULULULULULULULUL2ME3OM10OLULULULULULULULULULULULULULUL3M2L70N10M2O6X8O23L9O2
    ULULULULULULUL3ULULULULULULULULULULULULULULULULULULULULULULULULULULULULULULUL10ULULU2LULULUL
    UL2O2ULUL2ULUL3ULULULULULULULULULULU5LU5LULULULULULULULU4LULU2LX2ULXLXLULULULUX21L3UL12ML3M
    L4ML23S2M2SO4MX3O10X6L52O4X8S2L50S16M2X8O2D10X6M18L6O3LOL2MD10L28M8O2L23M11S2X11OL29X3M3SL47
    MS2M4S2M2S3O13XLD10X4O2L5ML10D10L5XL41M6S2M2S2M2X9L3ML8MSX2D10X2O4L23O3LSMSL50MLM3L2M2L5M2LM
    LX24L3O2L11SM2S2O2L3SMX10L6X2L6X2L6X9L7XL7XL43OL14O2X4L115S2MS2MS2OSMX2D10X6L11172X12L23X4
    L49X8452L366X2L106X38L7X12L5X5LML10OL13XL5XLXL2XL2XL108O17X16L363O18L64X2L54X7OX32L12O4M16
    O10X6M16O3P2O24P3O3XO19XO4X4L5XL135X4O15D10O7U26O4POL26O11L89X3L6X2L6X2L6X2L3X3O7XO7X13O2X2
    L12XL26XL19XL2XL15X2L14X34L123X5O3X4O45X3O9N53O26XO13X3OX47O45MX130L29X3L49X15MO27X4L32O4X9
    L20NL8NX5L38M5X5L30XOL36X4L8ON5X42U40L118X2D10X6U36X4L36X4L40X8L52X11OU11XU15XU7XU2XL11XL15X
    L7XL2X3L52X12L311X9L22X10L8X24L6XL42XL9X69L6X2LXL44XL2X3LX2L23XO9L23O9L31X8O9X48L19XL2X5O5
    L22O6X3OL26X5OX64L56X4O2L2O16X2O46LM3XM2X5M4L4XL3XL29X2M3X4MO9X7O9X7L29O3L29O3X32L8OL28M2X4
    O12X9L54X3O7L22X2O8L19X5O8L18X7O4X12O7X80L73X55U51X13L51X7O6L36M4X8D10X6D10L6U22X3M5OL23X8O2
    X208O31XL42XM2OX2L2X16L3X55M4L29O10LX8L22M11O9X22L18M4O4X38L21O7X20L23X9SMSL53M15O7X4O20D10M
    L2M2LX9M3SL45S3M4S2M2O2XO4MX13L25X7D10X6M3L36M5SM8XD10O4LS2LX8L35MO2LX9M2SL48S3M9S2L4O4M4OSM
    D10LOLO3XO20X11L18XL25S3M3S2MSM2O6ML2MX62L7XLXL4XL15XL10OX6L47MS3M8X5D10X6M2S2XL8X2L2X2L22X
    L7XL2XL5XM2LS2MS4X2S2X2S3X2LX6SX5L5S2X2M7X3M5X11L10XLX2LXL38XLS3M6XSX2SXS4XS2MSMLMLO2XO2X8M2
    X29L53S3M8S2M3SML4O5D10O2XOML3X30L48S3M6SMS4M2SM2L2OLX8D10X166L47S3M4X2S4M2SM2O23L4M2X34L48
    S3M8S2MSM2O3LX11D10X6O13X19L43MSMS2M6SMLOX6D10X6D20X28L27X2M3S2M4SM5X4D10O6L7X185L44S3M9SM2O
    X100U32L32D10O9X12L8X2LX2L8XL2XL24S6XS2X2M2SMLSLSMO3X9D10X70L8X2L39S3M4X2M2S4MLOLSX27LM10L40
    M6SLM4O8MX8LM6S2M3L46M13SM2O3LO5X13L73X7O10X182L33OX14D10X6L9XL37SM7XM6SMLO5X10D10O19X3O2L30
    X2M22XSM7SM2SM2X73L7XL2XL38M6X3MXM2XM7LMX8D10X6L6XL2XL32S5XM2XS2MSMLX7D10X310L19M2S2O2X7M2LS
    L13XL34S2M5X3S2MSMO13D10MX85LX15O50X13OL922X102N111XO5X11L196X2636L97O2X13L1071X17ML6M15X10
    L3995X5L583X6841L30M12S3M3D10X1734L569X7L31XD10X4O2L79XD10X6L30X2M5OX10L48M7O9L4O2X10D10XO7X
    L21X5L19X432L45O3D10X198U32L32O27X101L75X4MLS55X7M4L13X64L2OLMX11S2X14L6136X8L1238X41L10
    X8935L4XL7XL2XL291X15LX29L3X2LX14L4X8L396X2308L107X5L13X3L9X7L10X2OM2OX3936O240D10X6O436X76
    M46X2M23X9O116X60O246X10O39X2O60S2M3O3S6X8M8O2M7O30M4O61X21O66M3OX122O20X12O20X12O87X9O25
    X135U26L26U26L7XL18U26L26UXU2X2UX2U2X2U4XU8L4XLXL7XL11U26L26U2XU4X2U8XU7XL26U2XU4XU5XUX3U7X
    L26U26L26U26L26U26L26U26L26U26L26U26L28X2U25OL25OL6U25OL25OL6U25OL25OL6U25OL25OL6U25OL25OL6U
    LX2D50O512M55O4M50O8MO14MO7X15M5XM15X1104L31X6L6X213M7XM17X2M7XM2XM5X5L62X33MX112L45X3M7L7X2
    D10X4LOX320L30MX17L44M4D10X5OX464L28M4D10X214L30M2LD10X4OX480L7XL4XL2XL15XL197X2O9M7X41U34
    L34M7LX4D10X4O2X785O68X76O61X194L4XL27XL2XLX2LXL10XL4XLXLX6LX4LXLXLXL3XL2XLX2LXLXLXLXLXL2XL
    X2L4XL7XL4XL4XLXL10XL17X5L3XL5XL17X52O2X270O44X4O100X12O15X2O15XO15XO37X10O174X56O29X13O44X4
    O9X7O2X14O6X154O984X4O17X3O13X3O119X4O95X6O12X4OX15O12X4O56X8O10X6O40X8O30X2O12X4O2X62O340
    X12O14X2O13X3O10X5O56X7O15X2O11X6O9X7O147XO92D10X1030L42720X32L4153X7L222X2L5762X14L7473X15
    L622X2466L542X1506L4939X5L4192X712016M240"

/-- Where each run starts, with its class; the starts ascend. The run being read is given by its
start, its class and its length as far as the digits have been seen (zero before the first). -/
def decode : List Char → Nat → Class → Nat → Array (Nat × Class) → Array (Nat × Class)
  | [], start, cls, count, table =>
    (table.push (start, cls)).push (start + max count 1, hidden)
  | c :: rest, start, cls, count, table =>
    if c.isDigit then decode rest start cls (count * 10 + (c.toNat - '0'.toNat)) table
    else decode rest (start + max count 1) (ofCode c) 0 (table.push (start, cls))

/-- The starts of the runs of a text. -/
def starts : List Char → Array (Nat × Class)
  | [] => #[]
  | c :: rest => decode rest 0 (ofCode c) 0 #[]

/-- The starts of all runs, for searching. -/
def table : Array (Nat × Class) :=
  starts (runs.toList.filter Char.isAlphanum)

/-- The class of the last run between `low` and `high` that starts at or before `code`. -/
def search (table : Array (Nat × Class)) (code low high : Nat) : Class :=
  if high ≤ low + 1 then (table[low]?.map Prod.snd).getD hidden
  else
    let middle := (low + high) / 2
    if (table[middle]?.map Prod.fst).getD 0 ≤ code then search table code middle high
    else search table code low middle
termination_by high - low

/-- The class of a character. -/
def of (c : Char) : Class :=
  search table c.toNat 0 table.size

end Class

/-- A letter that counts as upper case: the category `Lu`, the capital Roman numerals and the
circled, squared and negative capitals. -/
def isUpper (c : Char) : Bool :=
  if c.toNat < 0x80 then c.isUpper
  else
    let n := c.toNat
    (0x2160 ≤ n && n ≤ 0x216f) || (0x24b6 ≤ n && n ≤ 0x24cf) || (0x1f130 ≤ n && n ≤ 0x1f149) ||
      (0x1f150 ≤ n && n ≤ 0x1f169) || (0x1f170 ≤ n && n ≤ 0x1f189) || Class.of c == .upper

/-- A decimal digit of any script. -/
def isDigit (c : Char) : Bool :=
  if c.toNat < 0x80 then c.isDigit else Class.of c == .digit

/-- A word character: a letter, a mark, a decimal digit, a connector, an enclosed letter, or one
of the two joiners. -/
def isWord (c : Char) : Bool :=
  if c.toNat < 0x80 then c.isAlphanum || c == '_'
  else
    let n := c.toNat
    if n == 0x200c || n == 0x200d || (0x24b6 ≤ n && n ≤ 0x24e9) || (0x1f130 ≤ n && n ≤ 0x1f149) ||
        (0x1f150 ≤ n && n ≤ 0x1f169) || (0x1f170 ≤ n && n ≤ 0x1f189) then true
    else
      match Class.of c with
      | .hidden | .other => false
      | _ => true

/-- White space: the blanks, line ends and separators of the property `White_Space`. -/
def isBlank (c : Char) : Bool :=
  let n := c.toNat
  (9 ≤ n && n ≤ 13) || n == 0x20 || n == 0x85 || n == 0xa0 || n == 0x1680 ||
    (0x2000 ≤ n && n ≤ 0x200a) || n == 0x2028 || n == 0x2029 || n == 0x202f || n == 0x205f ||
    n == 0x3000

/-- Letters that normalisation turns into something an identifier cannot start with. -/
def unstableLetters : Array Nat :=
  #[0x37a, 0xe33, 0xeb3, 0x2e2f, 0xfe70, 0xfe72, 0xfe74, 0xfe76, 0xfe78, 0xfe7a, 0xfe7c, 0xfe7e,
    0xff9e, 0xff9f]

/-- A character that may start an identifier of a programming language: a letter or a letter
number, with the few exceptions that normalisation forces. The underscore is not one. -/
def startsIdentifier (c : Char) : Bool :=
  if c.toNat < 0x80 then c.isAlpha
  else
    let n := c.toNat
    if unstableLetters.contains n || (0xfc5e ≤ n && n ≤ 0xfc63) || (0xfdfa ≤ n && n ≤ 0xfdfb) then
      false
    else if [0x1885, 0x1886, 0x2118, 0x212e].contains n then true
    else
      match Class.of c with
      | .upper | .letter | .letterNumber => true
      | _ => false

/-- Characters outside the general rule that may stand inside an identifier. -/
def innerIdentifierMarks : Array Nat :=
  #[0xb7, 0x387, 0x19da, 0xe33, 0xeb3, 0xff9e, 0xff9f, 0x200c, 0x200d, 0x30fb, 0xff65]

/-- A character that may stand inside an identifier: one that may start it, a mark, a digit
or a connector. -/
def continuesIdentifier (c : Char) : Bool :=
  if c.toNat < 0x80 then c.isAlphanum || c == '_'
  else
    let n := c.toNat
    if innerIdentifierMarks.contains n || (0x1369 ≤ n && n ≤ 0x1371) then true
    else startsIdentifier c ||
      match Class.of c with
      | .mark | .spacingMark | .digit | .connector => true
      | _ => false

/-- A character that has a visible form and is no separator other than the space. -/
def isPrintable (c : Char) : Bool :=
  if c.toNat < 0x80 then 0x20 ≤ c.toNat && c.toNat < 0x7f else Class.of c != .hidden

/-- The spacing marks and format characters that attach to the character before them all the
same (`Other_Grapheme_Extend`), below U+E0000. -/
def attachingMarks : Array Nat :=
  #[0x9be, 0x9d7, 0xb3e, 0xb57, 0xbbe, 0xbd7, 0xcc0, 0xcc2, 0xcc7, 0xcc8, 0xcca, 0xccb, 0xcd5, 0xcd6,
    0xd3e, 0xd57, 0xdcf, 0xddf, 0x1715, 0x1734, 0x1b35, 0x1b3b, 0x1b3d, 0x1b43, 0x1b44, 0x1baa,
    0x1bf2, 0x1bf3, 0x200c, 0x302e, 0x302f, 0xa953, 0xa9c0, 0xff9e, 0xff9f, 0x111c0, 0x11235,
    0x1133e, 0x1134d, 0x11357, 0x114b0, 0x114bd, 0x115af, 0x116b6, 0x11930, 0x1193d, 0x11f41,
    0x1d165, 0x1d166, 0x1d16d, 0x1d16e, 0x1d16f, 0x1d170, 0x1d171, 0x1d172]

/-- A character that attaches to the one before it and takes no room of its own. -/
def extendsCluster (c : Char) : Bool :=
  if c.toNat < 0x80 then false
  else if attachingMarks.contains c.toNat || (0xe0020 ≤ c.toNat && c.toNat ≤ 0xe007f) then true
  else
    match Class.of c with
    | .mark | .enclosing => true
    | _ => false

end Toolwright.Text
