/-!
# Tables of character properties

The code points from U+0080 on that have a property, as ascending closed ranges. ASCII is left to
the predicates in `Text.CharClass`, which consult these tables only above it.
-/

namespace StudioMigration.Text

/-- The numbers that a numeral spells from its last hexadecimal digit on, `front` being what was read of the first one. A
digit is an octal one, raised by 8 if the number goes on with the next one. The first digit is a 1 and counts for nothing. -/
def spelled : Nat → Nat → Nat → List Nat
  | 0, _, _ => []
  | fuel + 1, front, numeral =>
    if numeral ≤ 1 then []
    else
      let digit := numeral % 16
      if digit < 8 then (8 * front + digit) :: spelled fuel 0 (numeral / 16)
      else spelled fuel (8 * front + (digit - 8)) (numeral / 16)

/-- The ranges from a code on, each given by the number of codes that are left out before it and the number of codes
that follow its first one. -/
def ranges (code : Nat) : List Nat → List (Nat × Nat)
  | gap :: more :: rest => (code + gap, code + gap + more) :: ranges (code + gap + more + 1) rest
  | _ => []

/-- The ranges from a code on that some numerals of up to 110 digits spell. -/
def rangesFrom (code : Nat) (numerals : List Nat) : List (Nat × Nat) := ranges code (numerals.flatMap (spelled 110 0))

namespace CharTable

def alphanumeric : List (Nat × Nat) :=
  rangesFrom 0x80
    [0x15B100A02697179012C9114195A2D5D342B7890D6025C15CA0929A12A913A1012106013211418A010746939419F16B16A12113011702D,
     0x1111111615A21450902523942115900A033301615A2127479119419702A035E2F1D1A517A52970B7A03019045A5041192D690390B95B,
     0x1037916A12172A495A06A3932313110113312351039611942116B034111615A21273901919417902A034111615A121090A221970137B,
     0x1191017A1410117C1919649117D1A197B62010917A31A5512A41912500A020D121091A111941117B03411916A1217401609194120222B,
     0x12310F1692310162310C2310D23101623149D12D205015C61910494942713033456294A2D3E943B3C17493A7B00C321919014201911,
     0x15C2961B43D39427C7C6B295895011C2470B96196A1961930403C3E792149691A692A591A729329951B10A23D993525A90A7933A69289,
     0x145233612301614E26B101010172525C2525AC0897FA503115131D222D70920E3194B3C2B7E595B1D19371A6D5B9059196193D4E196A,
     0x116161616196A0A077E205015C201913364CB4D9A5B6E995A6993F6AB91F10445322913101010643011920405C94962955213E9612549,
     0x126B0A6D4A3B349C25D38949ABD0897FEC908D697C190C69176B190C790E7B29335B912D5311B91265A944247091B25AF00A96161616,
     0x120B01024213011E3036A61947127A0D10B146294B6D74B1B6A295C1110350B194B1E693E295596A13121790B4101157F26C92097C799,
     0x13A68A144E9390D5E27F2A2DD1C3D91111101414911910544966C1D925DD48C8A0E46A493CEDA619592E965912D161619525254927292,
     0x1097C43C43C61925BA2D41743C25B295C55B193C42B0A0E34B4EB11A0F494D492F92C592691112A11B1393C225252530B9391B61B719,
     0x17A09294B1213796D23A47E6891B40C5112A0E09095C26B26A203113D10255890911D150B7295A196EC3891161691291116169129493E,
     0x11970B0C4D5902115B2B4E496A4A3B6D1A3B3395A097C699161D16B6CC19491D72E592E7E0990A967A1B52B25A295E0A463B170C7B16B,
     0x1090114A7D6B2519532A4E6BA44902A034111615A212739191A6D7191691310164A90B11A393A40129393697D49032C09020419793C19,
     0x12A03A5D3905A077C2904B0100A6C276891969010797A11172027492A94E93D1FA64395A2B6E1970592D6C193904A7D4C31D6D6CA19,
     0x11FE8A68991AFF6D8A790C9499D38B1A6D96C91BE93D4A7905FA2A6EC1970697B11156191905A5C11160E95B54B7901A4C10978C099,
     0x139E0931A25D2CC1116137CB9A092D5ABA097EFB94B01108949289052991D96A90EA92A54A161194930A7D2A5B619169961916B70F89,
     0x10B16B10B16B10B16B10B16B10B10B23AD1630141313B1617231089161013913212021168914A978A0B4D93A689B91970934952D948CC,
     0x14060101311910201112B1328B6914D49931212F7AC9194073890E09248B1691113166CBA1943D2A5B18D041926294D1CF6B08CB1E271,
     0x12CFA5B897B8E0ECE96918AB925BB70F8890C7BBBA9688A193CBD4948990A141250A119101313161320111010101010201112101010,
     0x129D99]

/-- Decimal digits. Every range holds whole runs of ten that start with a zero. -/
def decimal : List (Nat × Nat) :=
  rangesFrom 0x80
    [0x1194DC196C1968DB19689196AC19689196E9190C9196E9196E9196E9196E9196E9196E9196E9196E9196E9194BE1968B1968A190CFA,
     0x1190AA194F1908A194DC91968AC1968EA196AC9D196AE196A9196A1968B196C196CA91968FC891961968A196A9196EA196196CA1908A,
     0x1196AA99196A9B196CE1908DC1E4E9EE1968A196A9196EAEC19689196EB196EB9196C9196CE196C9196C9196ED196E9196AD196AC]

/-- Digits without a place value: superscripts, subscripts, circled digits and the like. -/
def otherDigit : List (Nat × Nat) :=
  rangesFrom 0x80
    [0x1295CA8E9091DF094B8A35DA9E9091091096E9901092901B909390939096AF91965305AAB00D9B097DA990512E]

/-- Characters that have no glyph of their own: controls, formats, unassigned code points, private
use, and every space but U+0020. -/
def unprintable : List (Nat × Nat) :=
  rangesFrom 0x80
    [0x141211914210706A1210901CA0299097B4390114B07911E13F595C913F10E008B06A0A633B77E0312E16C059E04A010736129B90490C0,
     0x1150233631211915020706A12109030764914691130302915020706A0301903191A610461231235011202020706A12360311B1502317,
     0x103E0305949202914025264030191502907A0306A62914111302640301910A07A0305945A59151140325349232222010224032602192A,
     0x171401FD1141068B4C5907904C07C34C00997B412916010517A0100B0501024C5B32F393129509010631271101900B22A0302B10A3603,
     0x107B1968943D61B953906952952916B939203059394A090B096A61B924B008A91616A952B20C13891401F0791401071401C1401D14010,
     0x116907905E17B0101010091616C1616A8943D73913D64F27924F74E907D25990E7B16952953915B018916F23952B34D29512D21349349,
     0x1391B902B1C6F90707070707070707090B59260F114105D45BD00C14ACB4A390B7AA9349A691C691C25903B120A7D70B0A190313A06,
     0x1129169097E01C339069926B294E9549768970F52923F7A50102439B70FA3A4BD097E25D99F07D394A906B903D47C916A907F4491B6AB,
     0x178A053403A03E52D7B166E15FE795F90202010502B453975C2D916DD7FBC9088C31E37A394CEDA52916F934F07070961616194B7A7C9,
     0x170D34C34C52916BA1D6935C06B43D46B094C34B691E25B18A6D6D125900B925D3343F91C691790203A02B04912497072316161626FA3,
     0x1293315B030094202E14A30F7F143B21C4203A7D19709907A112204D01164891902D067A09196A097EC2892070790390207079049294E,
     0x15E52961B49506F094C3699097A3A4B5C2B5A2D70D59921302D07B5CC2976D63E493E6E199799739462B43B15B26E094937C7B0896196,
     0x1529295891C6C16E5CA2970995B504B929A527174151131212905020706A121090452943F5390790401070894D02A294A00C9097C72A0,
     0x12070996906A10C25B196905D01968C199493A970992B3916D1095892909491206B0200911109393A93C94F0FA7A37913B5E2952F2A59,
     0x1616B52901A932907B61F890FE8A78990AFF7D8A493C9399D48B29507D95C93BE9492E6916EA1B5EC29660205C0206529719020124D0,
     0x116D7B999412961925943D938CC49E740A34D3CC0207046CB9A191D6ABA70FFB95922957F1A61F33994C93B97DA93A45A070291968919,
     0x105696FA914CC14AD0721050404B07009140189070104904121112078905A968A1B097A9394A1BA6894A0E9729917C196EB3F4E9097A,
     0x11010402901110203B0418B5F3994890AC9232934990D0A158B0790204077BBA142F0A7B7FC232916925D4AB5020711A070CB7B799A79,
     0x120A40BF91BA659261934D495B7E6DA195C079079179394C934D59C23E1A050341A029010404070411020101010101110203010101315,
     0x128AB916BB61F8897B0CBBA9588A294C7E03AA09770952919643925B0972525169394AD599216B70D52970F34969134961B9394E9259,
     0x1798FFD0EB4EEEEDA39D991CFA6B896B8E1ECE959]

/-- Characters with case that do not disappear in word-internal case rules. -/
def cased : List (Nat × Nat) :=
  rangesFrom 0x80
    [0x17F3D089222D70928AC525A90CA9222D205015C7ACD0D195C15CA0929A12A913A1012106012312308B2B179B43128B16B16A50402902D,
     0x13366C923F96ACB3E1EC9137B1A044532045131010106430119204058C61254945233612301614E26B101010172525C2525AC5C91C149,
     0x112911161691294E93C43C0C97995CAA1B61B198A449608DFC79970952D5EC90313B4101152F1336A159968A3B2A5D2ACCF05015C491,
     0x16B10B16B10B16B10B16B10B10B23AD1630141313B1617231089161013913212021168914A908EAE7F0CDAD7F5DED2E592E38BB116169,
     0x11B61B61B4DFB3891CFC3A1194ECB710B1]

/-- Characters that case rules look through: marks, modifiers, apostrophes. -/
def caseIgnorable : List (Nat × Nat) :=
  rangesFrom 0x80
    [0x123D7A0B0204292F293B92B6B0101C3119175C900A4A2903C01292953904D011111014D1E05079B63FB0111904147FA7EF1204010400D,
     0x104905F06B13917009310202F0156A14A04114401F1390316B0322141401F1202B14A0093402F0790591296304740107E1F1D761704D,
     0x1193C12951141597E010103B12995101909202C909396202B90127009905B14A0093411F14B14A15060202F05B1391731252107E0302E,
     0x1201016102F0213BB260191426E902C118903E45D050329200961108916B16B15B22EE920C9906B9079061205930A2411B12115136C90,
     0x11094491592592592392105FE4C92C0596F2E1306046149122A950891272F21031100F211230C149090D05014100E31E6B0907C021967,
     0x106991C6910A934B0119132C9069C52CBA06ACFE25B955B9054334C05AF07D7B0C907905F921E9139ED0C3E490A0590119141E4202029,
     0x1201F921944C9011516903B0115122103E03903C0090491212528915A01A123200E26D291B76C0591A2B17AA0511B04030091327C927A,
     0x135F8915CA0420D3511268990911D15588A45AA02CB0188925A038915D07D0103C039060701DA0202C794903795F890A3AA00ECFC040,
     0x1154A907A0122738B4365C0311F15A7300CA06110227B902329094E14906F7144C22E02904021231E2291201D696E03F931E291BA138E,
     0x11111625A2A9015166AE11496D225190093250D190C041230AA0401108C110938C413225C901520102D9110275A913B111636DB11140,
     0x13FEB24AA36B62791920C896A25D4B9993116BAE116133988C1110890A7F0398A31963F47EABB093FCA913BD010310990161110352F9,
     0x17DB08A7B96B0188E88B47DAD75D960CFA35F00ED5958C4111620A160ADA69146A0690091E46E]

end CharTable

end StudioMigration.Text
