import StudioMigration.Text.Wide
import StudioMigration.Xml.Name

/-!
# The encoding of XML documents

The first bytes of a document tell how wide its units are; its declaration names the encoding. Which
names a reader knows differs: the checks know many spellings of the names of encodings, the package
editor knows them as they are registered.
-/

namespace StudioMigration.Xml

open StudioMigration.Text.Utf8 (Bytes)
open StudioMigration.Text.Wide (ByteOrder decode16)

/-! ## Tables of names

The names under which encodings are known. `Spelled` lists are in lower case with an underscore between
the parts of a name; `Registered` lists are in lower case as registered. -/

namespace EncodingTable

/-- Encodings in which only ASCII can be told. -/
def asciiSpelled : List String :=
  Text.variants
    "ansi_x3/.4_1968/.4_1986/_4_1968 ascii cp367 cp65001 csascii csiso2022jp hz hz_gb hz_gb_2312 hzgb ibm367 iso2022_jp
     iso2022_jp_/1/2/2004/3/ext iso2022jp iso2022jp_/1/2/2004/3/ext iso/646_us/_2022_jp iso_2022_jp_/1/2/2004/3/ext
     iso_/646.irv_1991/ir_6 u8 us us_ascii utf utf/8/8_ucs2/8_ucs4/_8/_8_sig"

def latin1Spelled : List String :=
  Text.variants "cp819 csisolatin1 ibm819 iso8859 iso8859_1 iso_/8859_1/8859_1_1987/ir_100 l1 latin latin1 latin_1"

/-- Latin-1 with letters and signs in place of the upper control characters. -/
def windowsSpelled : List String := Text.variants "cp1252 windows_1252"

/-- Encodings of one byte for a character whose lower half is ASCII. -/
def asciiBasedSpelled : List String :=
  Text.variants
    "arabic asmo_708 cp1/006/051/125 cp125/0/1/3/4/5/6/7/8 cp154 cp437 cp7/20/37/75 cp85/0/2/5/6/7/8
     cp86/0/1/2/3/5/6/6u/9 cp874 cp_/gr/is csibm8/55/57/58/60/61/63/65/66/69
     csisolatin/2/3/4/5/6/arabic/cyrillic/greek/hebrew cskoi8r
     cspc/775baltic/850multilingual/862latinhebrew/8codepage437/p852 csptcp154 cyrillic cyrillic_asian ecma_11/4/8
     elot_928 greek greek8 hebrew hp_roman8 ibm/1051/1125/437/775 ibm85/0/2/5/7/8 ibm86/0/1/2/3/5/6/9
     iso8859_/10/11/13/14/15/16/2/3/4/5/6/7/8/9 iso_8859_1/0/0_1992/1/1_2001/3/4/4_1998/5/6/6_2001
     iso_8859_/2/2_1987/3/3_1988/4/4_1988/5/5_1988/6/6_1987/7/7_1987/8/8_1988/9/9_1989 iso_celtic
     iso_ir_1/01/09/10/26/27/38/44/48/57/66/99 iso_ir_226 koi8_/r/t/u kz1048 kz_1048 l/10/2/3/4/5/6/7/8/9
     latin/10/2/3/4/5/6/7/8/9 mac_/centeuro/croatian/cyrillic/greek/iceland/latin2/roman/romanian/turkish
     mac/centraleurope/cyrillic/greek/iceland/intosh/latin2/roman/turkish palmos pt154 ptcp154 r8 rk1048 roman8 ruscii
     strk1048_2002 thai tis/620/_620 tis_620_/0/2529_0/2529_1 windows_125/0/1/3/4/5/6/7/8"

/-- Encodings of one byte for a character whose lower half is not ASCII. -/
def foreignSpelled : List String :=
  Text.variants
    "cp037 cp1/026/140 cp273 cp424 cp500 cp8/64/75 csibm/037/1026/273/424/500/864 ebcdic_cp_/be/ca/ch/he/nl/us/wt
     ibm/037/039/1026/1140/273/424/500/864 mac_/arabic/farsi"

/-- Encodings of several bytes for a character. -/
def wideSpelled : List String :=
  Text.variants
    "big5 big5/_hkscs/_tw/hkscs chinese cp1361 cp9/32/36/49/50 csbig5 csiso/2022kr/58gb231280 csshiftjis euc_cn
     euc_jis/2004/_2004/x0213 euc/_jp/_kr/cn/gb2312_cn/jis2004/jisx0213/jp/kr gb18030 gb18030_2000 gb2312
     gb2312_/1980/80 gbk hkscs iso2022/_kr/kr iso_/2022_kr/ir_58 jisx0213 johab korean ks_/c_5601/c_5601_1987/x_1001
     ksc5601 ksx1001 ms1361 ms9/32/36/49/50 ms_kanji mskanji s_jis s_jis/_2004/x0213
     shift/_jis/_jis_2004/_jisx0213/jis/jis2004/jisx0213 sjis sjis/_2004/x0213 u/16/32/7 u_jis uhc ujis
     unicode/_1_1_utf_7/bigunmarked/littleunmarked utf/16/32/7 utf_/16/16_be/16_le/16be/16le/32/32_be/32_le/32be/32le/7
     x_mac_/japanese/korean/simp_chinese/trad_chinese"

def asciiRegistered : List String :=
  Text.variants "ascii us-ascii us ansi_x3.4-19/68/86 cp367 ibm367 iso646-us iso-ir-6 csascii"

def latin1Registered : List String :=
  Text.variants "iso-/8859-1/latin-1/ir-100 iso8859-1 iso_8859-1 iso88591 latin1 l1 cp819 ibm819 csisolatin1 8859_1"

/-- Latin-1 with letters and signs in place of the upper control characters. -/
def windowsRegistered : List String := Text.variants "windows-1252 cp1252 ms-ansi"

/-- Other encodings in which ASCII stands for itself. -/
def asciiBasedRegistered : List String :=
  Text.variants
    "big5 big5-hkscs cp125/0/1/3/4/5/6/7/8 cp437 cp85/0/2/5/7/8 cp86/0/1/2/3/4/5/6/9 cp9/32/49/50 euc/-jp/-kr/jp/kr
     gb18030 gb2312 gbk ibm437 ibm85/0/2/5/7/8 ibm86/0/1/2/3/4/5/6/9 iso-2022-/jp/kr
     iso-8859-/10/11/13/14/15/16/2/3/4/5/6/7/8/9 iso8859-/10/11/13/14/15/16/2/3/4/5/6/7/8/9
     iso_8859-/10/11/13/14/15/16/2/3/4/5/6/7/8/9 johab koi8-/r/u l/10/2/3/4/5/6/7/8/9 latin/10/2/3/4/5/6/7/8/9
     macintosh shift/-jis/_jis sjis tis-620 windows-125/0/1/3/4/5/6/7/8"

end EncodingTable

/-! ## Encodings -/

/-- How the bytes of a document are turned into characters. -/
inductive Charset where
  | utf8
  | utf16 (order : ByteOrder)
  | ascii
  | latin1
  /-- Latin-1 with letters and signs in place of the upper control characters. -/
  | windows
  /-- An encoding of which only the ASCII half is known here. -/
  | asciiBased
  deriving DecidableEq, Repr

/-- The code points of the bytes from 0x80 to 0x9F in the encoding `windows`; zero where there is none. -/
def windowsCodes : List Nat :=
  [0x20AC, 0, 0x201A, 0x192, 0x201E, 0x2026, 0x2020, 0x2021, 0x2C6, 0x2030, 0x160, 0x2039, 0x152, 0,
   0x17D, 0, 0, 0x2018, 0x2019, 0x201C, 0x201D, 0x2022, 0x2013, 0x2014, 0x2DC, 0x2122, 0x161, 0x203A,
   0x153, 0, 0x17E, 0x178]

def windowsChar? (byte : UInt8) : Option Char :=
  if 0x80 ≤ byte && byte ≤ 0x9F then
    ((windowsCodes[byte.toNat - 0x80]?).filter (· != 0)).map Char.ofNat
  else some (Char.ofNat byte.toNat)

def Charset.decode (charset : Charset) (bytes : Bytes) : Option (List Char) :=
  match charset with
  | .utf8 => (Text.Utf8.decode bytes).toOption
  | .utf16 order => (decode16 order bytes).toOption
  | .ascii => if bytes.all (· < 0x80) then some (Text.Latin1.decode bytes) else none
  | .latin1 => some (Text.Latin1.decode bytes)
  | .windows => bytes.mapM windowsChar?
  | .asciiBased => some (bytes.map fun b => Char.ofNat (if b < 0x80 then b.toNat else 0xFFFD))

variable (reader : XmlReader) (name : List Char)

/-- What the first bytes of a document tell of its encoding, and the bytes behind a byte order mark. A
document without a mark starts with ASCII, so that a zero shows that its units are two bytes wide; the
editor wants to see the start of a declaration. -/
def detect (bytes : Bytes) : Option Charset × Bytes :=
  match bytes with
  | 0xEF :: 0xBB :: 0xBF :: rest => (some .utf8, rest)
  | 0xFF :: 0xFE :: rest => (some (.utf16 .lowFirst), rest)
  | 0xFE :: 0xFF :: rest => (some (.utf16 .highFirst), rest)
  | first :: second :: _ =>
    let order : Option ByteOrder :=
      if first == 0 then some .highFirst else if second == 0 then some .lowFirst else none
    let isShown :=
      reader == .inspecting || [[0x3C, 0, 0x3F, 0], [0, 0x3C, 0, 0x3F]].contains (bytes.take 4)
    (if isShown then order.map .utf16 else none, bytes)
  | _ => (none, bytes)

/-! ## Names of encodings -/

def lowered : String := String.ofList (name.map Char.toLower)

/-- A name in lower case with one underscore between its parts; `isBetween` says that one was just
written. -/
def foldName (isBetween : Bool) : List Char → List Char
  | [] => []
  | c :: rest =>
    if c == '-' || c == '_' then (if isBetween then [] else ['_']) ++ foldName true rest
    else c.toLower :: foldName false rest

/-- The encoding that the checks take a name for, beyond the names that they know for certain. -/
def spelled : Except XmlRefusal Charset :=
  let folded := String.ofList (foldName false name)
  if EncodingTable.asciiSpelled.contains folded then .ok .ascii
  else if EncodingTable.latin1Spelled.contains folded then .ok .latin1
  else if EncodingTable.windowsSpelled.contains folded then .ok .windows
  else if EncodingTable.asciiBasedSpelled.contains folded then .ok .asciiBased
  else if EncodingTable.foreignSpelled.contains folded then .error .malformed
  else if EncodingTable.wideSpelled.contains folded then .error .wideEncoding
  else .error (.unknownEncoding (String.ofList name))

/-- The encoding that the package editor takes a name for. -/
def registered : Except XmlRefusal Charset :=
  let lowered := lowered name
  if lowered == "utf-8" || lowered == "utf8" then .ok .utf8
  else if EncodingTable.latin1Registered.contains lowered then .ok .latin1
  else if EncodingTable.asciiRegistered.contains lowered then .ok .ascii
  else if EncodingTable.windowsRegistered.contains lowered then .ok .windows
  else if EncodingTable.asciiBasedRegistered.contains lowered then .ok .asciiBased
  else .error .malformed

/-- The encoding of a document, from what its first bytes tell and from the name in its declaration. -/
def charsetFor (found : Option Charset) (name : Option (List Char)) : Except XmlRefusal Charset :=
  match reader, found, name with
  | _, some (.utf16 order), none => .ok (.utf16 order)
  | .editing, some (.utf16 order), _ => .ok (.utf16 order)
  | .inspecting, some (.utf16 order), some name =>
    if lowered name == "utf-16" || lowered name == "utf-16" ++ order.suffix then .ok (.utf16 order)
    else if ["utf-8", "utf-16le", "utf-16be", "iso-8859-1", "us-ascii"].contains (lowered name) then
      .error .malformed
    else do
      let _ ← spelled name
      .error .malformed
  | _, _, none => .ok .utf8
  | .editing, _, some name => registered name
  | .inspecting, _, some name =>
    if lowered name == "utf-8" then .ok .utf8
    else if lowered name == "iso-8859-1" then .ok .latin1
    else if lowered name == "us-ascii" then .ok .ascii
    else if ["utf-16", "utf-16le", "utf-16be"].contains (lowered name) then .error .malformed
    else spelled name

/-! ## Declarations -/

structure Declaration where
  version : List Char
  encoding : Option (List Char)
  deriving DecidableEq, Repr

/-- A quoted value with a given name in an XML declaration, and the rest. -/
def pseudoAttribute? (name : String) (text : List Char) : Option (List Char × List Char) := do
  let body := text.dropWhile isBlank
  if !(text.head?.any isBlank) || !name.toList.isPrefixOf body then none
  match (body.drop name.length).dropWhile isBlank with
  | '=' :: rest =>
    match rest.dropWhile isBlank with
    | quote :: rest =>
      if quote != '"' && quote.toNat != 0x27 then none
      else
        let value := rest.takeWhile (· != quote)
        if value.length == rest.length then none
        else some (value, rest.drop (value.length + 1))
    | [] => none
  | _ => none

def isDeclarationChar (c : Char) : Bool := Text.isAsciiWord c || c == '-' || c == '.'

def isEncodingName : Bool :=
  name.head?.any Text.isAsciiLetter && name.all isDeclarationChar

/-- Whether a text can be a version. The editor wants a digit, a point and digits. -/
def isVersion (version : List Char) : Bool :=
  match reader, version with
  | .inspecting, _ => version.all isDeclarationChar
  | .editing, first :: '.' :: rest => Text.isAsciiDigit first && rest.all Text.isAsciiDigit
  | .editing, _ => false

/-- A quoted value that may be missing from an XML declaration, and the rest. -/
def optionalAttribute (name : String) (text : List Char) : Option (List Char) × List Char :=
  match pseudoAttribute? name text with
  | some (value, rest) => (some value, rest)
  | none => (none, text)

/-- Reads an XML declaration at the front of a text, and the rest. Without a declaration the text is left
as it is. -/
def readDeclaration (text : List Char) : Option (Option Declaration × List Char) :=
  match text with
  | '<' :: '?' :: 'x' :: 'm' :: 'l' :: rest =>
    if !(rest.head?.any isBlank) then some (none, text)
    else do
      let (version, rest) ← pseudoAttribute? "version" rest
      let (encoding, rest) := optionalAttribute "encoding" rest
      let (standalone, rest) := optionalAttribute "standalone" rest
      if !isVersion reader version || !encoding.all isEncodingName ||
          !standalone.all (fun value => value == "yes".toList || value == "no".toList) then none
      else
        match rest.dropWhile isBlank with
        | '?' :: '>' :: rest => some (some ⟨version, encoding⟩, rest)
        | _ => none
  | _ => some (none, text)

def documentText (bytes : Bytes) :
    Except XmlRefusal (Option Declaration × List Char) := do
  let (found, body) := detect reader bytes
  let start :=
    match found with
    | some (.utf16 order) => ((Charset.utf16 order).decode body).getD []
    | _ => Text.Latin1.decode body
  match readDeclaration reader start with
  | none => throw .malformed
  | some (declaration, _) =>
    let charset ← charsetFor reader found (declaration.bind (·.encoding))
    match charset.decode body with
    | none => throw .malformed
    | some text =>
      match readDeclaration reader text with
      | none => throw .malformed
      | some (declaration, rest) =>
        if text.all isDocumentChar then return (declaration, rest) else throw .malformed

end StudioMigration.Xml
