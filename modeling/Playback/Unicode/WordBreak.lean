import Playback.Unicode.Runs

/-!
# Word breaks

How each character behaves at the boundaries of words.
-/

namespace Playback.Unicode

/-- The runs of characters that behave alike. -/
def wordBreakTable : RunTable := .ofText
    "Other10LF1Newline2CR1Other18WSegSpace1Other1Double_Quote1Other4Single_Quote1Other4MidNum1
    Other1MidNumLet1Other1Numeric10MidLetter1MidNum1Other5ALetter26Other4ExtendNumLet1Other1
    ALetter26Other10Newline1Other36ALetter1Other2Format1Other7ALetter1Other1MidLetter1ALetter1
    Other1ALetter1Other5ALetter23Other1ALetter31Other1ALetter480Other6ALetter34Extend112ALetter5
    Other1ALetter2Other2ALetter4MidNum1ALetter1Other6ALetter1MidLetter1ALetter3Other1ALetter1Other1
    ALetter20Other1ALetter83Other1ALetter139Other1Extend7ALetter166Other1ALetter38Other2ALetter4
    Other1ALetter1MidLetter1ALetter41MidNum1ALetter1Other6Extend45Other1Extend1Other1Extend2Other1
    Extend2Other1Extend1Other8Hebrew_Letter27Other4Hebrew_Letter4ALetter1MidLetter1Other11Numeric6
    Other6MidNum2Other2Extend11Other1Format1Other3ALetter43Extend21Numeric10Other1Numeric1MidNum1
    Other1ALetter2Extend1ALetter99Other1ALetter1Extend7Numeric1Other1Extend6ALetter2Extend2Other1
    Extend4ALetter2Numeric10ALetter3Other2ALetter1Other15ALetter2Extend1ALetter30Extend27Other2
    ALetter89Extend11ALetter1Other14Numeric10ALetter33Extend9ALetter2Other2MidNum1Other1ALetter1
    Other2Extend1Other2ALetter22Extend4ALetter1Extend9ALetter1Extend3ALetter1Extend5Other18
    ALetter25Extend3Other4ALetter11Other5ALetter24Other1ALetter6Other1Numeric2Other5Extend9
    ALetter42Extend24Numeric1Extend33ALetter54Extend3ALetter1Extend18ALetter1Extend7ALetter10
    Extend2Other2Numeric10Other1ALetter16Extend3Other1ALetter8Other2ALetter2Other2ALetter22Other1
    ALetter7Other1ALetter1Other3ALetter4Other2Extend1ALetter1Extend7Other2Extend2Other2Extend3
    ALetter1Other8Extend1Other4ALetter2Other1ALetter3Extend2Other2Numeric10ALetter2Other10ALetter1
    Other1Extend1Other2Extend3Other1ALetter6Other4ALetter2Other2ALetter22Other1ALetter7Other1
    ALetter2Other1ALetter2Other1ALetter2Other2Extend1Other1Extend5Other4Extend2Other2Extend3Other3
    Extend1Other7ALetter4Other1ALetter1Other7Numeric10Extend2ALetter3Extend1Other11Extend3Other1
    ALetter9Other1ALetter3Other1ALetter22Other1ALetter7Other1ALetter2Other1ALetter5Other2Extend1
    ALetter1Extend8Other1Extend3Other1Extend3Other2ALetter1Other15ALetter2Extend2Other2Numeric10
    Other9ALetter1Extend6Other1Extend3Other1ALetter8Other2ALetter2Other2ALetter22Other1ALetter7
    Other1ALetter2Other1ALetter5Other2Extend1ALetter1Extend7Other2Extend2Other2Extend3Other7Extend3
    Other4ALetter2Other1ALetter3Extend2Other2Numeric10Other1ALetter1Other16Extend1ALetter1Other1
    ALetter6Other3ALetter3Other1ALetter4Other3ALetter2Other1ALetter1Other1ALetter2Other3ALetter2
    Other3ALetter3Other3ALetter12Other4Extend5Other3Extend3Other1Extend4Other2ALetter1Other6Extend1
    Other14Numeric10Other16Extend5ALetter8Other1ALetter3Other1ALetter23Other1ALetter16Other2Extend1
    ALetter1Extend7Other1Extend3Other1Extend4Other7Extend2Other1ALetter3Other2ALetter1Other2
    ALetter2Extend2Other2Numeric10Other16ALetter1Extend3Other1ALetter8Other1ALetter3Other1ALetter23
    Other1ALetter10Other1ALetter5Other2Extend1ALetter1Extend7Other1Extend3Other1Extend4Other7
    Extend2Other6ALetter2Other1ALetter2Extend2Other2Numeric10Other1ALetter2Extend1Other12Extend4
    ALetter9Other1ALetter3Other1ALetter41Extend2ALetter1Extend7Other1Extend3Other1Extend4ALetter1
    Other5ALetter3Extend1Other7ALetter3Extend2Other2Numeric10Other10ALetter6Other1Extend3Other1
    ALetter18Other3ALetter24Other1ALetter9Other1ALetter1Other2ALetter7Other3Extend1Other4Extend6
    Other1Extend1Other1Extend8Other6Numeric10Other2Extend2Other61Extend1Other2Extend7Other12Extend8
    Other1Numeric10Other87Extend1Other2Extend9Other11Extend7Other1Numeric10Other38ALetter1Other23
    Extend2Other6Numeric10Other11Extend1Other1Extend1Other1Extend1Other4Extend2ALetter8Other1
    ALetter36Other4Extend20Other1Extend2ALetter5Extend11Other1Extend36Other9Extend1Other100Extend20
    Other1Numeric10Other12Extend4Other4Extend3Other1Extend3Other2Extend7Other3Extend4Other13
    Extend12Other1Extend1Numeric10Extend4Other2ALetter38Other1ALetter1Other5ALetter1Other2ALetter43
    Other1ALetter333Other1ALetter4Other2ALetter7Other1ALetter1Other1ALetter4Other2ALetter41Other1
    ALetter4Other2ALetter33Other1ALetter4Other2ALetter7Other1ALetter1Other1ALetter4Other2ALetter15
    Other1ALetter57Other1ALetter4Other2ALetter67Other2Extend3Other32ALetter16Other16ALetter86Other2
    ALetter6Other3ALetter620Other2ALetter17WSegSpace1ALetter26Other5ALetter75Other3ALetter11Other7
    ALetter18Extend4Other9ALetter19Extend3Other11ALetter18Extend2Other12ALetter13Other1ALetter3
    Other1Extend2Other64Extend32Other9Extend1Other2Numeric10Other33Extend3Format1Extend1Numeric10
    Other6ALetter89Other7ALetter5Extend2ALetter34Extend1ALetter1Other5ALetter70Other10ALetter31
    Other1Extend12Other4Extend12Other10Numeric10Other128Numeric11Other37ALetter23Extend5Other57
    Extend10Other1Extend29Other2Extend1Numeric10Other6Numeric10Other22Extend31Other49Extend5
    ALetter47Extend17ALetter8Other3Numeric10Other17Extend9Other12Extend3ALetter30Extend13ALetter2
    Numeric10ALetter44Extend14Other12ALetter36Extend20Other8Numeric10Other3ALetter3Numeric10
    ALetter36Other2ALetter11Other5ALetter43Other2ALetter3Other16Extend3Other1Extend21ALetter4
    Extend1ALetter6Extend1ALetter2Extend3ALetter1Other5ALetter192Extend64ALetter278Other2ALetter6
    Other2ALetter38Other2ALetter6Other2ALetter8Other1ALetter1Other1ALetter1Other1ALetter1Other1
    ALetter31Other2ALetter53Other1ALetter7Other1ALetter1Other3ALetter3Other1ALetter7Other3ALetter4
    Other2ALetter6Other4ALetter13Other5ALetter3Other1ALetter7Other3WSegSpace7Other1WSegSpace3Other1
    Extend1ZWJ1Format2Other8MidNumLet2Other10MidNumLet1Other2MidLetter1Newline2Format5ExtendNumLet1
    Other15ExtendNumLet2Other3MidNum1Other15ExtendNumLet1Other10WSegSpace1Format5Other1Format10
    Other1ALetter1Other13ALetter1Other16ALetter13Other51Extend33Other17ALetter1Other4ALetter1Other2
    ALetter10Other1ALetter1Other3ALetter5Other6ALetter1Other1ALetter1Other1ALetter1Other1ALetter4
    Other1ALetter11Other2ALetter4Other5ALetter5Other4ALetter1Other17ALetter41Other813ALetter52
    Other1814ALetter229Other6ALetter4Extend3ALetter2Other12ALetter38Other1ALetter1Other5ALetter1
    Other2ALetter56Other7ALetter1Other15Extend1ALetter23Other9ALetter7Other1ALetter7Other1ALetter7
    Other1ALetter7Other1ALetter7Other1ALetter7Other1ALetter7Other1ALetter7Other1Extend32Other47
    ALetter1Other464WSegSpace1Other4ALetter1Other36Extend6Other1Katakana5Other5ALetter2Other92
    Extend2Katakana2Other3Katakana91Other1Katakana4Other5ALetter43Other1ALetter94Other17ALetter32
    Other48Katakana16Other208Katakana47Other1Katakana88Other27816ALetter1165Other67ALetter46Other2
    ALetter269Other3ALetter16Numeric10ALetter2Other20ALetter47Extend4Other1Extend10Other1ALetter31
    Extend2ALetter80Extend2Other22ALetter198Other2ALetter2Other1ALetter1Other1ALetter8Other21
    ALetter16Extend1ALetter3Extend1ALetter4Extend1ALetter23Extend5Other4Extend1Other19ALetter52
    Other12Extend2ALetter50Extend18Other10Numeric10Other6Extend18ALetter6Other3ALetter1Other1
    ALetter2Extend1Numeric10ALetter28Extend8Other2ALetter23Extend13Other12ALetter29Other3Extend4
    ALetter47Extend14Other14ALetter1Numeric10Other11Extend1Other10Numeric10Other6ALetter41Extend14
    Other9ALetter3Extend1ALetter8Extend2Other2Numeric10Other33Extend3Other50Extend1Other1Extend3
    Other2Extend2Other5Extend2Other1Extend1Other30ALetter11Extend5Other2ALetter3Extend2Other10
    ALetter6Other2ALetter6Other2ALetter6Other9ALetter7Other1ALetter7Other1ALetter58Other6ALetter115
    Extend8Other1Extend2Other2Numeric10Other6ALetter11172Other12ALetter23Other4ALetter49Other8964
    ALetter7Other12ALetter5Other5Hebrew_Letter1Extend1Hebrew_Letter10Other1Hebrew_Letter13Other1
    Hebrew_Letter5Other1Hebrew_Letter1Other1Hebrew_Letter2Other1Hebrew_Letter2Other1Hebrew_Letter10
    ALetter98Other33ALetter363Other18ALetter64Other2ALetter54Other40ALetter12Other4Extend16MidNum1
    Other2MidLetter1MidNum1Other11Extend16Other3ExtendNumLet2Other24ExtendNumLet3MidNum1Other1
    MidNumLet1Other1MidNum1MidLetter1Other26ALetter5Other1ALetter135Other2Format1Other7MidNumLet1
    Other4MidNum1Other1MidNumLet1Other1Numeric10MidLetter1MidNum1Other5ALetter26Other4ExtendNumLet1
    Other1ALetter26Other11Katakana56Extend2ALetter31Other3ALetter6Other2ALetter6Other2ALetter6
    Other2ALetter3Other28Format3Other4ALetter12Other1ALetter26Other1ALetter19Other1ALetter2Other1
    ALetter15Other2ALetter14Other34ALetter123Other69ALetter53Other136Extend1Other130ALetter29Other3
    ALetter49Other15Extend1Other31ALetter32Other13ALetter30Other5ALetter38Extend5Other5ALetter30
    Other2ALetter36Other4ALetter8Other1ALetter5Other42ALetter158Other2Numeric10Other6ALetter36
    Other4ALetter36Other4ALetter40Other8ALetter52Other12ALetter11Other1ALetter15Other1ALetter7
    Other1ALetter2Other1ALetter11Other1ALetter15Other1ALetter7Other1ALetter2Other3ALetter52Other12
    ALetter311Other9ALetter22Other10ALetter8Other24ALetter6Other1ALetter42Other1ALetter9Other69
    ALetter6Other2ALetter1Other1ALetter44Other1ALetter2Other3ALetter1Other2ALetter23Other10
    ALetter23Other9ALetter31Other65ALetter19Other1ALetter2Other10ALetter22Other10ALetter26Other70
    ALetter56Other6ALetter2Other64ALetter1Extend3Other1Extend2Other5Extend4ALetter4Other1ALetter3
    Other1ALetter29Other2Extend3Other4Extend1Other32ALetter29Other3ALetter29Other35ALetter8Other1
    ALetter28Extend2Other25ALetter54Other10ALetter22Other10ALetter19Other13ALetter18Other110
    ALetter73Other55ALetter51Other13ALetter51Other13ALetter36Extend4Other8Numeric10Other6Numeric10
    ALetter28Other3Extend5Other1ALetter23Other250ALetter42Other1Extend2Other3ALetter2Other16
    ALetter3Other55Extend4ALetter29Other10ALetter1Other8ALetter22Extend11Other31ALetter18Extend4
    Other42ALetter21Other27ALetter23Other9Extend3ALetter53Extend15Other31Numeric10Extend1ALetter2
    Extend2ALetter1Other9Extend4ALetter45Extend11Other2Numeric1Other4Extend1Other10Numeric1Other2
    ALetter25Other7Numeric10Other6Extend3ALetter36Extend14Other1Numeric10Other4ALetter1Extend2
    ALetter1Other8ALetter35Extend1Other2ALetter1Other9Extend3ALetter48Extend14ALetter4Other4Extend4
    Other1Extend2Numeric10ALetter1Other1ALetter1Other35ALetter18Other1ALetter25Extend12Other6
    Extend1ALetter2Extend1Other62ALetter7Other1ALetter1Other1ALetter4Other1ALetter15Other1ALetter10
    Other7ALetter47Extend12Other5Numeric10Other6Extend4Other1ALetter8Other2ALetter2Other2ALetter22
    Other1ALetter7Other1ALetter2Other1ALetter5Other1Extend2ALetter1Extend7Other2Extend2Other2
    Extend3Other2ALetter1Other6Extend1Other5ALetter5Extend2Other2Extend7Other3Extend5Other11
    ALetter10Other1ALetter1Other2ALetter1Other1ALetter38Other1ALetter1Extend9Other1Extend1Other2
    Extend1Other1Extend4Other1Extend5ALetter1Extend1ALetter1Other13Extend2Other29ALetter53Extend18
    ALetter4Other5Numeric10Other4Extend1ALetter3Other30ALetter48Extend20ALetter2Other1ALetter1
    Other8Numeric10Other166ALetter47Extend7Other2Extend9Other23ALetter4Extend2Other34ALetter48
    Extend17Other3ALetter1Other11Numeric10Other38ALetter43Extend13ALetter1Other7Numeric10Other6
    Numeric20Other57Extend15Other4Numeric10Other198ALetter44Extend15Other101ALetter64Numeric10
    Other21ALetter8Other2ALetter1Other2ALetter8Other1ALetter2Other1ALetter24Extend6Other1Extend2
    Other2Extend4ALetter1Extend1ALetter1Extend2Other12Numeric10Other70ALetter8Other2ALetter39
    Extend7Other2Extend7ALetter1Other1ALetter1Extend1Other27ALetter1Extend10ALetter40Extend7
    ALetter1Extend4Other8Extend1Other8ALetter1Extend11ALetter46Extend16Other3ALetter1Other18
    ALetter73Other199ALetter33Other15Numeric10Other6ALetter9Other1ALetter37Extend8Other1Extend8
    ALetter1Other15Numeric10Other24ALetter30Other2Extend22Other1Extend14Other73ALetter7Other1
    ALetter2Other1ALetter38Extend6Other3Extend1Other1Extend2Other1Extend7ALetter1Extend1Other8
    Numeric10Other6ALetter6Other1ALetter2Other1ALetter32Extend5Other1Extend2Other1Extend5ALetter1
    Other7Numeric10Other310ALetter19Extend4Other9Extend2ALetter1Extend1ALetter13Other1ALetter34
    Extend7Other3Extend5Other13Numeric10Extend1Other85ALetter1Other79ALetter922Other102ALetter111
    Other17ALetter196Other2636ALetter97Other15ALetter1072Format16Extend1ALetter6Extend15Other10
    ALetter3995Other5ALetter583Other6841ALetter30Extend18Numeric10Other1734ALetter569Other7
    ALetter31Other1Numeric10Other6ALetter79Other1Numeric10Other6ALetter30Other2Extend5Other11
    ALetter48Extend7Other9ALetter4Other12Numeric10Other9ALetter21Other5ALetter19Other432ALetter45
    Other3Numeric10Other198ALetter64Other128ALetter75Other4Extend1ALetter1Extend55Other7Extend4
    ALetter13Other64ALetter2Other1ALetter1Extend1Other11Extend2Other16382Katakana4Other1Katakana7
    Other1Katakana2Other1Katakana1Other287Katakana3Other50Katakana1Other14Katakana4Other2712
    ALetter107Other5ALetter13Other3ALetter9Other7ALetter10Other3Extend2Other1Format4Other4172
    Numeric10Other518Extend46Other2Extend23Other542Extend5Other3Extend6Format8Extend8Other2Extend7
    Other30Extend4Other148Extend3Other443ALetter85Other1ALetter71Other1ALetter2Other2ALetter1Other2
    ALetter2Other2ALetter4Other1ALetter12Other1ALetter1Other1ALetter7Other1ALetter65Other1ALetter4
    Other2ALetter8Other1ALetter7Other1ALetter28Other1ALetter4Other1ALetter5Other1ALetter1Other3
    ALetter7Other1ALetter340Other2ALetter25Other1ALetter25Other1ALetter31Other1ALetter25Other1
    ALetter31Other1ALetter25Other1ALetter31Other1ALetter25Other1ALetter31Other1ALetter25Other1
    ALetter8Other2Numeric50Other512Extend55Other4Extend50Other8Extend1Other14Extend1Other22Extend5
    Other1Extend15Other1104ALetter31Other6ALetter6Other213Extend7Other1Extend17Other2Extend7Other1
    Extend2Other1Extend5Other5ALetter62Other33Extend1Other112ALetter45Other3Extend7ALetter7Other2
    Numeric10Other4ALetter1Other321ALetter30Extend1Other17ALetter44Extend4Numeric10Other470
    ALetter28Extend4Numeric10Other214ALetter30Extend2ALetter1Numeric10Other485ALetter7Other1
    ALetter4Other1ALetter2Other1ALetter15Other1ALetter197Other11Extend7Other41ALetter68Extend7
    ALetter1Other4Numeric10Other1190ALetter4Other1ALetter27Other1ALetter2Other1ALetter1Other2
    ALetter1Other1ALetter10Other1ALetter4Other1ALetter1Other1ALetter1Other6ALetter1Other4ALetter1
    Other1ALetter1Other1ALetter1Other1ALetter3Other1ALetter2Other1ALetter1Other2ALetter1Other1
    ALetter1Other1ALetter1Other1ALetter1Other1ALetter1Other1ALetter2Other1ALetter1Other2ALetter4
    Other1ALetter7Other1ALetter4Other1ALetter4Other1ALetter1Other1ALetter10Other1ALetter17Other5
    ALetter3Other1ALetter5Other1ALetter17Other628ALetter26Other6ALetter26Other6ALetter26Other92
    Regional_Indicator26Other507Extend5Other2032Numeric10Other787463Format1Other30Extend96Other128
    Extend240Other196112"

/-- The values of the property and the forms of their names. -/
def wordBreakNames : List (String × List String) := [
  ("ALetter", ["aletter", "le"]),
  ("CR", ["cr"]),
  ("Double_Quote", ["doublequote", "dq"]),
  ("Extend", ["extend"]),
  ("ExtendNumLet", ["extendnumlet", "ex"]),
  ("Format", ["format", "fo"]),
  ("Hebrew_Letter", ["hebrewletter", "hl"]),
  ("Katakana", ["katakana", "ka"]),
  ("LF", ["lf"]),
  ("MidLetter", ["midletter", "ml"]),
  ("MidNum", ["midnum", "mn"]),
  ("MidNumLet", ["midnumlet", "mb"]),
  ("Newline", ["newline", "nl"]),
  ("Numeric", ["numeric", "nu"]),
  ("Regional_Indicator", ["regionalindicator", "ri"]),
  ("Single_Quote", ["singlequote", "sq"]),
  ("WSegSpace", ["wsegspace"]),
  ("ZWJ", ["zwj"])]

end Playback.Unicode
