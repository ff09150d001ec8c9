import StudioMigration.Text.CharClass

/-!
# Tables of names and letters

The code points from U+0080 on that tell letters from numbers, and those that may stand in a name, as
ascending closed ranges.
-/

namespace StudioMigration.Text.NameTable

/-- Word characters that are numbers, not letters. -/
def number : List (Nat × Nat) :=
  rangesFrom 0x80
    [0x1196891949C3A689196E9190C9195D92A760D9197C9609193E9496D952196E9196E9194D954196E9194BE1968B1968A191CEA220512E,
     0x1091B019C901DDA5B6E995A6993F6AB9422E68B1965306A8A1961968A196A9196EA196195CA2908A194DC196A196197DB21ED93A79B9,
     0x1468A00905B34C2B5AD11A0F494D5DF196AC9D196AE196A9196A1968B196C192BA508D194FA190CD9F697C190C69176B1929A37AD269,
     0x13A7190AA194F1908A5B68A60E932D196BA6B6CC190E529D61D70B70D9439926B14E090895D279210CA56A4399097C61B76DE91929B,
     0x10B4D93A199AE6A6BC9611968A196A9191EFAC6D93D8A4A6A8919689193CB4B6EB9195B92A4CE396C9196C9196ED196E9196AD193FB,
     0x1193CBD4928F96914D49931212F7AC91908A0959FA196CE1908DC1E5A9A]

/-- Starts of names that are no letters: number letters and a few signs. -/
def startingNumber : List (Nat × Nat) :=
  rangesFrom 0x80
    [0x16D92D88A468A009049F4E0A9DD193DABF269091B06F9F322C1E05A01AAC14AE26D9B9]

/-- Letters that no name starts with, since they stand for a space with a mark. -/
def spacingLetter : List (Nat × Nat) :=
  rangesFrom 0x80
    [0x117BC0101010101010104E916AE56D8FC903FDF907F900FAD02FB9]

/-- Characters of names that no name starts with: digits, marks and connecting signs. -/
def continuing : List (Nat × Nat) :=
  rangesFrom 0x80
    [0x1611A126E0C17A2D74F23D412109130B019091C1979293B92B6B07A19231125265C9066B0E29099011111014D19C43FB07A7D9099907E,
     0x10A1969019312343F02A1921292722126100F2152919214A21217100F23903394A0322144100F2206919212901922126100F21A192129,
     0x119616F19253919107A91917497105F12196710154068921A19212901931216117E30A1921391731216100F21A1921391731216107E4,
     0x11929394396E9079A29121C1920197B08916B15B24B30CE9091927FA96913959336221243491913A4C90193C1295113A1E140101039,
     0x16FFD39304493F903A17F897F68B2206044A126E919619093A0E594D192496B249091A19390A7D41E791596A1962924B1191F44F2908A,
     0x12109049597D19290391979597D34D491B74B29591A619291A2E13A90447A040300AC10A910C19405891958EAF11D952D897B0C9059A2,
     0x1190935F8915CA0420D351127ADA195CC45AA02CB05B9916B905C1908B20B13790A791CB904CCFC1921174DB1541D0115122102E21C19,
     0x11A08B436212901922126117E36195390CA06392A9391309590E24904D15191594C26195D07295D32912297B695E22F931E291BA11ED,
     0x15AE796D29190093160D194B036267E91949110132115689195CA692EB194693A91909491A919790A2A913B09265AB19493A1A9041919,
     0x15346B896A25D1C99913DAEC13901A9376E105EF9191B63F46C196A9191DDDC319D1909411140E19090161110352F95915A0F190A717,
     0x17DB68CA88B196AA9919565D966AFA595F04CD1919658C4111620A160ADA69146A0690091E46E08891E19EA24AA36B62709]

end StudioMigration.Text.NameTable

namespace StudioMigration.Text

def isLetter (c : Char) : Bool :=
  if c.toNat < 0x80 then isAsciiLetter c
  else inRanges CharTable.alphanumeric c.toNat && !inRanges NameTable.number c.toNat

def isNameStart (c : Char) : Bool :=
  if c.toNat < 0x80 then isAsciiLetter c || c == '_'
  else
    (isLetter c && !inRanges NameTable.spacingLetter c.toNat) ||
      inRanges NameTable.startingNumber c.toNat

def isNameChar (c : Char) : Bool :=
  if c.toNat < 0x80 then isAsciiWord c
  else isNameStart c || inRanges NameTable.continuing c.toNat

def isName : List Char → Bool
  | [] => false
  | c :: rest => isNameStart c && rest.all isNameChar

end StudioMigration.Text
