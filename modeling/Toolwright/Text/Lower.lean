import Toolwright.Text.Case

/-!
# Texts in lower case

The lower case of a text is that of its characters, but for the capital sigma, which has a form of its own
at the end of a word (`lowerSigma`). A word ends there if a cased letter is before the sigma and none
behind it, where characters that say nothing about case, such as marks and apostrophes, are passed over.

Which characters have case and which are passed over is fixed by the Unicode properties `Cased` and
`Case_Ignorable`, held as a run-length text like the classes of characters.
-/

namespace Toolwright.Text

/-- What a character says about the end of a word. -/
inductive Casing where
  /-- It is a letter of a word (`Cased`). -/
  | cased
  /-- It is passed over (`Case_Ignorable`), whether it has case or not. -/
  | ignorable
  /-- It is no part of a word. -/
  | other
  deriving DecidableEq, Repr, Inhabited

namespace Casing

/-- What a letter of the run-length text stands for. -/
def ofCode : Char → Casing
  | 'C' => cased
  | 'I' => ignorable
  | _ => other

/-- The casing of all code points in order, as runs. The breaks between the lines mean nothing. -/
def runs : String :=
  "O39IO6IO11IO6C26O3IOIC26O45IOCO2IOIO4ICOI2OCO5C23OC31OC195OC4O4C208OC27I192C4I2C2O2IC3OCO4I2
    CIC3OCOC20OC83OC139OI7C166OC38O2IO5IC41O8I45OIOI2OI2OIO44IO11I6O10I11OIO35IO10I21O16IO101I8O
    I10OI4O33IOIO30I27O91I11O58I11O4IO2IO24I24O43I3O44IO7I2O6I8O41I58O55IOIO4I8O4IO3I7O10I2O13I
    O15IO58IO4I4O8IO20I2O26IO2I2O57IO4I2O4I2O2I3O3IO30I2O3IO11I2O57IO4I5OI2O4IO20I2O22I6OIO58IO2
    IOI4O8IO7I2O11I2O30IO61IO12IO50IO3IO55IOI3O5I3OI4O7I2O11I2O29IO58IO2IO6IO5I2O20I2O28I2O57I2
    O4I4O8IO20I2O29IO72IO7I3OIO90IO2I7O11I9O98IO2I9O9IOI7O73I2O27IOIOIO55I14OI5OI2O5I11OI36O9I
    O102I4OI6OI2O2I2O25I2O4I3O16I4O13IO2I2O6IO15IO2C38OCO5CO2C43OIC3O605I3O64C86O2C6O788I3O29I2
    O30I2O30I2O64I2OI7O8IO2I11O3IO5IO45I5O51IO65I2O34IO118I3O4I2O9IO6I3O219I2O2IO58IOI7OIOIO2I8
    O6I10O2IO39IO8I31O49I4O48IOI5OIO5IO40I9O12I2O32I4O2I2OI3O56IOI2O3IOI3O58I8O2I2O64I6O2C9O7C43
    O2C3O16I3OI13OI7O4IO6IO3I2O6C44I63C13IC34I101C278O2C6O2C38O2C6O2C8OCOCOCOC31O2C53OC7ICI3C3O
    C7I3C4O2C6OI3C13I3O2C3OC7I2O12I5O8I2O10IO2IO2I5O49I5OI10OIO13IO16I13O51I33O17CO4CO2C10OCO3C5
    O6COCOCOC4OC6O4CO2C4O5C5O4CO17C32O3C2O817C52O1814C124I2C103O6C4I3C2O12C38OCO5CO65IO15IO96I32
    O47IO469IO36I4O3I5O5IO93I6O93I3O28438IO1250I6O270IO51C46OI4OI10OIC28I4O80I2O14I34C78IC23I3C4
    OC59O5C2OCOC5O24I3C2OI2CO7IO3IO4IO25I2O5IO151I2O26I18O13IO38I8O25I11O46I3O48IO2I4O2I2O17IO21
    I2O66I6O2I2O2I2O12IO8IO35IO11IO51IOI3O2I2O5I2OIO27IO14I2O5I2OIO57C43I5C9I3O4C80O37IO2IO4I
    O20242C7O12C5O6IO147I17O573I16O3IO12I16O34IO2IO169IO7IO6IO11IO6C26O3IOIC26O21IO45I2O67IO21I3
    O513IO226IO149I5O133C80O96C36O4C36O116C11OC15OC7OC2OC11OC15OC7OC2O451I6OI42OI9O582I3OI2O5I4
    O40I3O4IO165I2O409C51O13C51O49I4O387I2O80I3O70I11O49I4O123IO54I15O41IO2I2O10I3O49I4O2I2O2IO4
    IO10IO50I3O36I5OI8O62IO12I2O52I9O10I4O2IO95I3O2IOI2O6IO2IO157IO3I8O21I2O57I2O3IO37I7O3I5O195
    I8O2I3OIO23IO84I6OIO4I2OI2O238I4O6I2OI2O27I2O85I8O2IOI2O106IOIO2I6OIO101I3O2I4OI5O259I9OI2
    O101C64O91I2OIO4IO144I4O2I2O4IO32I10O40I6O2I4O8IO9I6O2I3O46I13OI2O406I7OI6OIO82I22O2I7OI2OI2
    O122I6O3IOI2OI7OIO72I2O3IOIO347I2O11I2O52I5O5IOIO5357I17O6I15O13978I5O59I7O9I4O764C64O207I
    O63I17O64I2OI2O16395I4OI7OI2O3230I2OI4O4700I46O2I23O544I3O9I16O2I7O30I4O148I3O443C85OC71OC2
    O2CO2C2O2C4OC12OCOC7OC65OC4O2C8OC7OC28OC4OC5OCO3C7OC340O2C25OC25OC31OC25OC31OC25OC31OC25OC31
    OC25OC8O564I55O4I50O8IO14IO22I5OI15O1104C10OC20O6C6O213I7OI17O2I7OI2OI5O5I62O33IO160I14O368I
    O61I4O507I5O992I7O41C68I8O2020C26O6C26O6C26O625I5O789505IO30I96O128I240"

/-- The casing of the code point `offset` places behind the start of the run being read. The run is
given by its casing and its length as far as the digits have been seen (zero before the first). -/
def read (offset : Nat) (casing : Casing) (count : Nat) : List Char → Casing
  | [] => if offset < max count 1 then casing else other
  | c :: rest =>
    if c.isDigit then read offset casing (count * 10 + (c.toNat - '0'.toNat)) rest
    else if offset < max count 1 then casing
    else read (offset - max count 1) (ofCode c) 0 rest

/-- The casing of a character. -/
def of (c : Char) : Casing :=
  match runs.toList.filter Char.isAlphanum with
  | [] => other
  | code :: rest => read c.toNat (ofCode code) 0 rest

end Casing

/-- Whether a text begins with a cased letter, behind what is passed over. -/
def beginsCased (text : List Char) : Bool :=
  (text.dropWhile fun c => Casing.of c == .ignorable).head?.any fun c => Casing.of c == .cased

/-- The lower case of a capital sigma between two texts, the one before it read backwards. -/
def lowerSigma (before behind : List Char) : Char :=
  if beginsCased before && !beginsCased behind then 'ς' else 'σ'

/-- The lower case of a text behind another one, which is read backwards. -/
def lowerBehind (before : List Char) : List Char → List Char
  | [] => []
  | c :: rest =>
    (if c = 'Σ' then [lowerSigma before rest] else lowerCase c) ++ lowerBehind (c :: before) rest

/-- The lower case of a text. -/
def lower (text : List Char) : List Char :=
  lowerBehind [] text

end Toolwright.Text
