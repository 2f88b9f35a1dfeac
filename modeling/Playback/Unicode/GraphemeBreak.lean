import Playback.Unicode.Runs

/-!
# Grapheme breaks

How each character behaves at the boundaries of signs that a reader sees as one.
-/

namespace Playback.Unicode

/-- The runs of characters that behave alike. -/
def graphemeBreakTable : RunTable := .ofText
    "Control10LF1Control2CR1Control18Other95Control33Other13Control1Other594Extend112Other275
    Extend7Other263Extend45Other1Extend1Other1Extend2Other1Extend2Other1Extend1Other56Prepend6
    Other10Extend11Other1Control1Other46Extend21Other16Extend1Other101Extend7Prepend1Other1Extend6
    Other2Extend2Other1Extend4Other33Prepend1Other1Extend1Other30Extend27Other91Extend11Other58
    Extend9Other9Extend1Other24Extend4Other1Extend9Other1Extend3Other1Extend5Other43Extend3Other52
    Prepend2Other5Extend9Other42Extend24Prepend1Extend32SpacingMark1Other54Extend1SpacingMark1
    Extend1Other1SpacingMark3Extend8SpacingMark4Extend1SpacingMark2Other1Extend7Other10Extend2
    Other29Extend1SpacingMark2Other56Extend1Other1Extend1SpacingMark2Extend4Other2SpacingMark2
    Other2SpacingMark2Extend1Other9Extend1Other10Extend2Other26Extend1Other2Extend2SpacingMark1
    Other56Extend1Other1SpacingMark3Extend2Other4Extend2Other2Extend3Other3Extend1Other30Extend2
    Other3Extend1Other11Extend2SpacingMark1Other56Extend1Other1SpacingMark3Extend5Other1Extend2
    SpacingMark1Other1SpacingMark2Extend1Other20Extend2Other22Extend6Other1Extend1SpacingMark2
    Other56Extend1Other1Extend2SpacingMark1Extend4Other2SpacingMark2Other2SpacingMark2Extend1Other7
    Extend3Other10Extend2Other30Extend1Other59Extend1SpacingMark1Extend1SpacingMark2Other3
    SpacingMark3Other1SpacingMark3Extend1Other9Extend1Other40Extend1SpacingMark3Extend1Other55
    Extend1Other1Extend3SpacingMark4Other1Extend3Other1Extend4Other7Extend2Other11Extend2Other29
    Extend1SpacingMark2Other56Extend1Other1SpacingMark1Extend2SpacingMark1Extend1SpacingMark2Other1
    Extend3Other1Extend4Other7Extend2Other11Extend2Other15SpacingMark1Other12Extend2SpacingMark2
    Other55Extend2Other1Extend1SpacingMark2Extend4Other1SpacingMark3Other1SpacingMark3Extend1
    Prepend1Other8Extend1Other10Extend2Other29Extend1SpacingMark2Other70Extend1Other4Extend1
    SpacingMark2Extend3Other1Extend1Other1SpacingMark7Extend1Other18SpacingMark2Other61Extend1
    Other1SpacingMark1Extend7Other12Extend8Other98Extend1Other1SpacingMark1Extend9Other11Extend7
    Other73Extend2Other27Extend1Other1Extend1Other1Extend1Other4SpacingMark2Other49Extend14
    SpacingMark1Extend5Other1Extend2Other5Extend11Other1Extend36Other9Extend1Other102Extend4
    SpacingMark1Extend6Other1Extend2SpacingMark2Extend2Other23SpacingMark2Extend2Other4Extend3
    Other16Extend4Other13Extend1Other1SpacingMark1Extend2Other6Extend1Other15Extend1Other98L96V72
    T88Other349Extend3Other946Extend4Other28Extend3Other29Extend2Other30Extend2Other64Extend2
    SpacingMark1Extend7SpacingMark8Extend1SpacingMark2Extend11Other9Extend1Other45Extend3Control1
    Extend1Other117Extend2Other34Extend1Other118Extend3SpacingMark4Extend2SpacingMark3Other4
    SpacingMark2Extend1SpacingMark6Extend3Other219Extend2SpacingMark2Extend1Other57SpacingMark1
    Extend1SpacingMark1Extend7Other1Extend1Other1Extend1Other2Extend8SpacingMark6Extend10Other2
    Extend1Other48Extend31Other49Extend4SpacingMark1Other47Extend10SpacingMark4Extend3Other38
    Extend9Other12Extend2SpacingMark1Other30SpacingMark1Extend4SpacingMark2Extend6Other56Extend1
    SpacingMark1Extend2SpacingMark3Extend1SpacingMark1Extend5Other48SpacingMark8Extend8SpacingMark2
    Extend2Other152Extend3Other1Extend13SpacingMark1Extend7Other4Extend1Other6Extend1Other2
    SpacingMark1Extend2Other198Extend64Other523Control1Extend1ZWJ1Control2Other24Control7Other49
    Control16Other96Extend33Other3070Extend3Other141Extend1Other96Extend32Other554Extend6Other105
    Extend2Other30164Extend4Other1Extend10Other32Extend2Other80Extend2Other272Extend1Other3Extend1
    Other4Extend1Other23SpacingMark2Extend2SpacingMark1Other4Extend1Other83SpacingMark2Other50
    SpacingMark16Extend2Other26Extend18Other13Extend1Other38Extend8Other25Extend11SpacingMark1
    Extend1Other12L29Other3Extend3SpacingMark1Other47Extend1SpacingMark2Extend4SpacingMark2Extend2
    SpacingMark2Extend1Other36Extend1Other67Extend6SpacingMark2Extend2SpacingMark2Extend2Other12
    Extend1Other8Extend1SpacingMark1Other46Extend1Other51Extend1Other1Extend3Other2Extend2Other5
    Extend2Other1Extend1Other41SpacingMark1Extend2SpacingMark2Other5SpacingMark1Extend1Other236
    SpacingMark2Extend1SpacingMark2Extend1SpacingMark2Other1SpacingMark1Extend1Other18LV1LVT27LV1
    LVT27LV1LVT27LV1LVT27LV1LVT27LV1LVT27LV1LVT27LV1LVT27LV1LVT27LV1LVT27LV1LVT27LV1LVT27LV1LVT27
    LV1LVT27LV1LVT27LV1LVT27LV1LVT27LV1LVT27LV1LVT27LV1LVT27LV1LVT27LV1LVT27LV1LVT27LV1LVT27LV1
    LVT27LV1LVT27LV1LVT27LV1LVT27LV1LVT27LV1LVT27LV1LVT27LV1LVT27LV1LVT27LV1LVT27LV1LVT27LV1LVT27
    LV1LVT27LV1LVT27LV1LVT27LV1LVT27LV1LVT27LV1LVT27LV1LVT27LV1LVT27LV1LVT27LV1LVT27LV1LVT27LV1
    LVT27LV1LVT27LV1LVT27LV1LVT27LV1LVT27LV1LVT27LV1LVT27LV1LVT27LV1LVT27LV1LVT27LV1LVT27LV1LVT27
    LV1LVT27LV1LVT27LV1LVT27LV1LVT27LV1LVT27LV1LVT27LV1LVT27LV1LVT27LV1LVT27LV1LVT27LV1LVT27LV1
    LVT27LV1LVT27LV1LVT27LV1LVT27LV1LVT27LV1LVT27LV1LVT27LV1LVT27LV1LVT27LV1LVT27LV1LVT27LV1LVT27
    LV1LVT27LV1LVT27LV1LVT27LV1LVT27LV1LVT27LV1LVT27LV1LVT27LV1LVT27LV1LVT27LV1LVT27LV1LVT27LV1
    LVT27LV1LVT27LV1LVT27LV1LVT27LV1LVT27LV1LVT27LV1LVT27LV1LVT27LV1LVT27LV1LVT27LV1LVT27LV1LVT27
    LV1LVT27LV1LVT27LV1LVT27LV1LVT27LV1LVT27LV1LVT27LV1LVT27LV1LVT27LV1LVT27LV1LVT27LV1LVT27LV1
    LVT27LV1LVT27LV1LVT27LV1LVT27LV1LVT27LV1LVT27LV1LVT27LV1LVT27LV1LVT27LV1LVT27LV1LVT27LV1LVT27
    LV1LVT27LV1LVT27LV1LVT27LV1LVT27LV1LVT27LV1LVT27LV1LVT27LV1LVT27LV1LVT27LV1LVT27LV1LVT27LV1
    LVT27LV1LVT27LV1LVT27LV1LVT27LV1LVT27LV1LVT27LV1LVT27LV1LVT27LV1LVT27LV1LVT27LV1LVT27LV1LVT27
    LV1LVT27LV1LVT27LV1LVT27LV1LVT27LV1LVT27LV1LVT27LV1LVT27LV1LVT27LV1LVT27LV1LVT27LV1LVT27LV1
    LVT27LV1LVT27LV1LVT27LV1LVT27LV1LVT27LV1LVT27LV1LVT27LV1LVT27LV1LVT27LV1LVT27LV1LVT27LV1LVT27
    LV1LVT27LV1LVT27LV1LVT27LV1LVT27LV1LVT27LV1LVT27LV1LVT27LV1LVT27LV1LVT27LV1LVT27LV1LVT27LV1
    LVT27LV1LVT27LV1LVT27LV1LVT27LV1LVT27LV1LVT27LV1LVT27LV1LVT27LV1LVT27LV1LVT27LV1LVT27LV1LVT27
    LV1LVT27LV1LVT27LV1LVT27LV1LVT27LV1LVT27LV1LVT27LV1LVT27LV1LVT27LV1LVT27LV1LVT27LV1LVT27LV1
    LVT27LV1LVT27LV1LVT27LV1LVT27LV1LVT27LV1LVT27LV1LVT27LV1LVT27LV1LVT27LV1LVT27LV1LVT27LV1LVT27
    LV1LVT27LV1LVT27LV1LVT27LV1LVT27LV1LVT27LV1LVT27LV1LVT27LV1LVT27LV1LVT27LV1LVT27LV1LVT27LV1
    LVT27LV1LVT27LV1LVT27LV1LVT27LV1LVT27LV1LVT27LV1LVT27LV1LVT27LV1LVT27LV1LVT27LV1LVT27LV1LVT27
    LV1LVT27LV1LVT27LV1LVT27LV1LVT27LV1LVT27LV1LVT27LV1LVT27LV1LVT27LV1LVT27LV1LVT27LV1LVT27LV1
    LVT27LV1LVT27LV1LVT27LV1LVT27LV1LVT27LV1LVT27LV1LVT27LV1LVT27LV1LVT27LV1LVT27LV1LVT27LV1LVT27
    LV1LVT27LV1LVT27LV1LVT27LV1LVT27LV1LVT27LV1LVT27LV1LVT27LV1LVT27LV1LVT27LV1LVT27LV1LVT27LV1
    LVT27LV1LVT27LV1LVT27LV1LVT27LV1LVT27LV1LVT27LV1LVT27LV1LVT27LV1LVT27LV1LVT27LV1LVT27LV1LVT27
    LV1LVT27LV1LVT27LV1LVT27LV1LVT27LV1LVT27LV1LVT27LV1LVT27LV1LVT27LV1LVT27LV1LVT27LV1LVT27LV1
    LVT27LV1LVT27LV1LVT27LV1LVT27LV1LVT27LV1LVT27LV1LVT27LV1LVT27LV1LVT27LV1LVT27LV1LVT27LV1LVT27
    LV1LVT27LV1LVT27LV1LVT27LV1LVT27LV1LVT27LV1LVT27LV1LVT27LV1LVT27LV1LVT27LV1LVT27LV1LVT27LV1
    LVT27LV1LVT27LV1LVT27LV1LVT27LV1LVT27LV1LVT27LV1LVT27LV1LVT27LV1LVT27LV1LVT27LV1LVT27LV1LVT27
    LV1LVT27LV1LVT27LV1LVT27LV1LVT27LV1LVT27LV1LVT27LV1LVT27LV1LVT27LV1LVT27LV1LVT27LV1LVT27LV1
    LVT27LV1LVT27LV1LVT27LV1LVT27LV1LVT27LV1LVT27LV1LVT27LV1LVT27LV1LVT27LV1LVT27LV1LVT27LV1LVT27
    LV1LVT27LV1LVT27LV1LVT27LV1LVT27LV1LVT27LV1LVT27LV1LVT27LV1LVT27LV1LVT27LV1LVT27LV1LVT27LV1
    LVT27LV1LVT27LV1LVT27LV1LVT27LV1LVT27LV1LVT27LV1LVT27LV1LVT27LV1LVT27LV1LVT27LV1LVT27LV1LVT27
    LV1LVT27LV1LVT27LV1LVT27LV1LVT27LV1LVT27LV1LVT27LV1LVT27LV1LVT27LV1LVT27LV1LVT27LV1LVT27LV1
    LVT27LV1LVT27LV1LVT27LV1LVT27LV1LVT27LV1LVT27LV1LVT27Other12V23Other4T49Other8994Extend1
    Other737Extend16Other16Extend16Other207Control1Other158Extend2Other80Control12Other513Extend1
    Other226Extend1Other149Extend5Other1670Extend3Other1Extend2Other5Extend4Other40Extend3Other4
    Extend1Other165Extend2Other573Extend4Other65Extend5Other317Extend2Other79Extend4Other70Extend11
    Other49Extend4Other122SpacingMark1Extend1SpacingMark1Other53Extend15Other41Extend1Other2Extend2
    Other10Extend3SpacingMark1Other45SpacingMark3Extend4SpacingMark2Extend2Other2Prepend1Other4
    Extend1Other10Prepend1Other50Extend3Other36Extend5SpacingMark1Extend8Other16SpacingMark2Other44
    Extend1Other12Extend2SpacingMark1Other48SpacingMark3Extend9SpacingMark1Extend1Other1Prepend2
    Other5Extend4Other1SpacingMark1Extend1Other92SpacingMark3Extend3SpacingMark2Extend4Other6
    Extend1Other2Extend1Other157Extend1SpacingMark3Extend8Other21Extend2SpacingMark2Other55Extend2
    Other1Extend1SpacingMark1Extend1SpacingMark4Other2SpacingMark2Other2SpacingMark2Extend1Other9
    Extend1Other10SpacingMark2Other2Extend7Other3Extend5Other67Extend1SpacingMark2Extend6Other1
    Extend1Other2Extend1Other1Extend3SpacingMark1Other1SpacingMark2Extend3Prepend1Extend1Other14
    Extend2Other82SpacingMark3Extend8SpacingMark2Extend3SpacingMark1Extend1Other23Extend1Other81
    Extend1SpacingMark2Extend6SpacingMark1Extend1SpacingMark2Extend1SpacingMark1Extend2SpacingMark1
    Extend2Other235Extend1SpacingMark2Extend4Other2SpacingMark4Extend2SpacingMark1Extend2Other27
    Extend2Other82SpacingMark3Extend8SpacingMark2Extend1SpacingMark1Extend2Other106Extend1
    SpacingMark1Extend1SpacingMark2Extend8Other101Extend1SpacingMark1Extend1Other2Extend4
    SpacingMark1Extend5Other256SpacingMark3Extend9SpacingMark1Extend2Other245Extend1SpacingMark5
    Other1SpacingMark2Other2Extend4Prepend1SpacingMark1Prepend1SpacingMark1Extend1Other141
    SpacingMark3Extend4Other2Extend2SpacingMark4Extend1Other3SpacingMark1Other28Extend10Other40
    Extend6SpacingMark1Other1Extend4Other8Extend1Other9Extend6SpacingMark2Extend3Other40Prepend6
    Extend13SpacingMark1Extend2Other405SpacingMark1Extend7Other1Extend6SpacingMark1Extend1Other82
    Extend22Other1SpacingMark1Extend7SpacingMark1Extend2SpacingMark1Extend2Other122Extend6Other3
    Extend1Other1Extend2Other1Extend7Prepend1Extend1Other66SpacingMark5Other1Extend2Other1
    SpacingMark2Extend1SpacingMark1Extend1Other347Extend2SpacingMark2Other9Extend2Prepend1
    SpacingMark1Other48SpacingMark2Extend5Other3SpacingMark2Extend3Other23Extend1Other5333Control16
    Extend1Other6Extend15Other11464Extend12SpacingMark3Extend3Other2496Extend5Other59Extend7
    Other556V1Other3V4Other484Extend1Other1SpacingMark55Other7Extend4Other81Extend1Other11Extend2
    Other19627Extend2Other1Control4Other4700Extend46Other2Extend23Other542Extend5Other3Extend6
    Control8Extend8Other2Extend7Other30Extend4Other148Extend3Other1979Extend55Other4Extend50Other8
    Extend1Other14Extend1Other22Extend5Other1Extend15Other1360Extend7Other1Extend17Other2Extend7
    Other1Extend2Other1Extend5Other100Extend1Other160Extend7Other375Extend1Other61Extend4Other508
    Extend4Other254Extend2Other736Extend7Other109Extend7Other2203Regional_Indicator26Other507
    Extend5Other789504Control32Extend96Control128Extend240Control3600Other192512"

/-- The values of the property and the forms of their names. -/
def graphemeBreakNames : List (String × List String) := [
  ("CR", ["cr"]),
  ("Control", ["control", "cn"]),
  ("Extend", ["extend", "ex"]),
  ("L", ["l"]),
  ("LF", ["lf"]),
  ("LV", ["lv"]),
  ("LVT", ["lvt"]),
  ("Prepend", ["prepend", "pp"]),
  ("Regional_Indicator", ["regionalindicator", "ri"]),
  ("SpacingMark", ["spacingmark", "sm"]),
  ("T", ["t"]),
  ("V", ["v"]),
  ("ZWJ", ["zwj"])]

end Playback.Unicode
