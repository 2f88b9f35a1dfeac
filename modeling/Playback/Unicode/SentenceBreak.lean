import Playback.Unicode.Runs

/-!
# Sentence breaks

How each character behaves at the boundaries of sentences.
-/

namespace Playback.Unicode

/-- The runs of characters that behave alike. -/
def sentenceBreakTable : RunTable := .ofText
    "Other9Sp1LF1Sp2CR1Other18Sp1STerm1Close1Other4Close3Other2SContinue2ATerm1Other1Numeric10
    SContinue2Other3STerm1Other1Upper26Close1Other1Close1Other3Lower26Close1Other1Close1Other7Sep1
    Other26Sp1Other9Lower1Close1Other1Format1Other7Lower1Other4Lower1Close1Other4Upper23Other1
    Upper7Lower24Other1Lower8Upper1Lower1Upper1Lower1Upper1Lower1Upper1Lower1Upper1Lower1Upper1
    Lower1Upper1Lower1Upper1Lower1Upper1Lower1Upper1Lower1Upper1Lower1Upper1Lower1Upper1Lower1
    Upper1Lower1Upper1Lower1Upper1Lower1Upper1Lower1Upper1Lower1Upper1Lower1Upper1Lower1Upper1
    Lower1Upper1Lower1Upper1Lower1Upper1Lower1Upper1Lower1Upper1Lower1Upper1Lower1Upper1Lower2
    Upper1Lower1Upper1Lower1Upper1Lower1Upper1Lower1Upper1Lower1Upper1Lower1Upper1Lower1Upper1
    Lower2Upper1Lower1Upper1Lower1Upper1Lower1Upper1Lower1Upper1Lower1Upper1Lower1Upper1Lower1
    Upper1Lower1Upper1Lower1Upper1Lower1Upper1Lower1Upper1Lower1Upper1Lower1Upper1Lower1Upper1
    Lower1Upper1Lower1Upper1Lower1Upper1Lower1Upper1Lower1Upper1Lower1Upper1Lower1Upper1Lower1
    Upper1Lower1Upper2Lower1Upper1Lower1Upper1Lower3Upper2Lower1Upper1Lower1Upper2Lower1Upper3
    Lower2Upper4Lower1Upper2Lower1Upper3Lower3Upper2Lower1Upper2Lower1Upper1Lower1Upper1Lower1
    Upper2Lower1Upper1Lower2Upper1Lower1Upper2Lower1Upper3Lower1Upper1Lower1Upper2Lower2OLetter1
    Upper1Lower3OLetter4Upper2Lower1Upper2Lower1Upper2Lower1Upper1Lower1Upper1Lower1Upper1Lower1
    Upper1Lower1Upper1Lower1Upper1Lower1Upper1Lower1Upper1Lower2Upper1Lower1Upper1Lower1Upper1
    Lower1Upper1Lower1Upper1Lower1Upper1Lower1Upper1Lower1Upper1Lower1Upper1Lower2Upper2Lower1
    Upper1Lower1Upper3Lower1Upper1Lower1Upper1Lower1Upper1Lower1Upper1Lower1Upper1Lower1Upper1
    Lower1Upper1Lower1Upper1Lower1Upper1Lower1Upper1Lower1Upper1Lower1Upper1Lower1Upper1Lower1
    Upper1Lower1Upper1Lower1Upper1Lower1Upper1Lower1Upper1Lower1Upper1Lower1Upper1Lower1Upper1
    Lower1Upper1Lower1Upper1Lower1Upper1Lower1Upper1Lower1Upper1Lower1Upper1Lower1Upper1Lower1
    Upper1Lower7Upper2Lower1Upper2Lower2Upper1Lower1Upper4Lower1Upper1Lower1Upper1Lower1Upper1
    Lower1Upper1Lower69OLetter1Lower36OLetter7Lower2Other4OLetter12Other14Lower5Other7OLetter1
    Other1OLetter1Other17Extend112Upper1Lower1Upper1Lower1OLetter1Other1Upper1Lower1Other2Lower4
    SContinue1Upper1Other6Upper1Other1Upper3Other1Upper1Other1Upper2Lower1Upper17Other1Upper9
    Lower35Upper1Lower2Upper3Lower3Upper1Lower1Upper1Lower1Upper1Lower1Upper1Lower1Upper1Lower1
    Upper1Lower1Upper1Lower1Upper1Lower1Upper1Lower1Upper1Lower1Upper1Lower1Upper1Lower5Upper1
    Lower1Other1Upper1Lower1Upper2Lower2Upper51Lower48Upper1Lower1Upper1Lower1Upper1Lower1Upper1
    Lower1Upper1Lower1Upper1Lower1Upper1Lower1Upper1Lower1Upper1Lower1Upper1Lower1Upper1Lower1
    Upper1Lower1Upper1Lower1Upper1Lower1Upper1Lower1Upper1Lower1Upper1Lower1Other1Extend7Upper1
    Lower1Upper1Lower1Upper1Lower1Upper1Lower1Upper1Lower1Upper1Lower1Upper1Lower1Upper1Lower1
    Upper1Lower1Upper1Lower1Upper1Lower1Upper1Lower1Upper1Lower1Upper1Lower1Upper1Lower1Upper1
    Lower1Upper1Lower1Upper1Lower1Upper1Lower1Upper1Lower1Upper1Lower1Upper1Lower1Upper1Lower1
    Upper1Lower1Upper1Lower1Upper1Lower1Upper1Lower1Upper2Lower1Upper1Lower1Upper1Lower1Upper1
    Lower1Upper1Lower1Upper1Lower1Upper1Lower2Upper1Lower1Upper1Lower1Upper1Lower1Upper1Lower1
    Upper1Lower1Upper1Lower1Upper1Lower1Upper1Lower1Upper1Lower1Upper1Lower1Upper1Lower1Upper1
    Lower1Upper1Lower1Upper1Lower1Upper1Lower1Upper1Lower1Upper1Lower1Upper1Lower1Upper1Lower1
    Upper1Lower1Upper1Lower1Upper1Lower1Upper1Lower1Upper1Lower1Upper1Lower1Upper1Lower1Upper1
    Lower1Upper1Lower1Upper1Lower1Upper1Lower1Upper1Lower1Upper1Lower1Upper1Lower1Upper1Lower1
    Upper1Lower1Upper1Lower1Upper1Lower1Upper1Lower1Upper1Lower1Upper1Lower1Upper1Lower1Upper1
    Lower1Upper1Lower1Upper1Lower1Upper1Lower1Upper1Lower1Upper1Lower1Upper1Lower1Other1Upper38
    Other2OLetter1Other3SContinue1Other2Lower41STerm1Other7Extend45Other1Extend1Other1Extend2Other1
    Extend2Other1Extend1Other8OLetter27Other4OLetter5Other12Numeric6Other6SContinue2Other2Extend11
    Other1Format1STerm3OLetter43Extend21Numeric10Other1Numeric2Other1OLetter2Extend1OLetter99STerm1
    OLetter1Extend7Numeric1Other1Extend6OLetter2Extend2Other1Extend4OLetter2Numeric10OLetter3Other2
    OLetter1STerm3Other12Format1OLetter1Extend1OLetter30Extend27Other2OLetter89Extend11OLetter1
    Other14Numeric10OLetter33Extend9OLetter2Other2SContinue1STerm1OLetter1Other2Extend1Other2
    OLetter22Extend4OLetter1Extend9OLetter1Extend3OLetter1Extend5Other9STerm1Other1STerm1Other3
    STerm2Other1OLetter25Extend3Other4OLetter11Other5OLetter24Other1OLetter6Other1Numeric2Other5
    Extend9OLetter42Extend24Numeric1Extend33OLetter54Extend3OLetter1Extend18OLetter1Extend7
    OLetter10Extend2STerm2Numeric10Other1OLetter16Extend3Other1OLetter8Other2OLetter2Other2
    OLetter22Other1OLetter7Other1OLetter1Other3OLetter4Other2Extend1OLetter1Extend7Other2Extend2
    Other2Extend3OLetter1Other8Extend1Other4OLetter2Other1OLetter3Extend2Other2Numeric10OLetter2
    Other10OLetter1Other1Extend1Other2Extend3Other1OLetter6Other4OLetter2Other2OLetter22Other1
    OLetter7Other1OLetter2Other1OLetter2Other1OLetter2Other2Extend1Other1Extend5Other4Extend2Other2
    Extend3Other3Extend1Other7OLetter4Other1OLetter1Other7Numeric10Extend2OLetter3Extend1Other11
    Extend3Other1OLetter9Other1OLetter3Other1OLetter22Other1OLetter7Other1OLetter2Other1OLetter5
    Other2Extend1OLetter1Extend8Other1Extend3Other1Extend3Other2OLetter1Other15OLetter2Extend2
    Other2Numeric10Other9OLetter1Extend6Other1Extend3Other1OLetter8Other2OLetter2Other2OLetter22
    Other1OLetter7Other1OLetter2Other1OLetter5Other2Extend1OLetter1Extend7Other2Extend2Other2
    Extend3Other7Extend3Other4OLetter2Other1OLetter3Extend2Other2Numeric10Other1OLetter1Other16
    Extend1OLetter1Other1OLetter6Other3OLetter3Other1OLetter4Other3OLetter2Other1OLetter1Other1
    OLetter2Other3OLetter2Other3OLetter3Other3OLetter12Other4Extend5Other3Extend3Other1Extend4
    Other2OLetter1Other6Extend1Other14Numeric10Other16Extend5OLetter8Other1OLetter3Other1OLetter23
    Other1OLetter16Other2Extend1OLetter1Extend7Other1Extend3Other1Extend4Other7Extend2Other1
    OLetter3Other2OLetter1Other2OLetter2Extend2Other2Numeric10Other16OLetter1Extend3Other1OLetter8
    Other1OLetter3Other1OLetter23Other1OLetter10Other1OLetter5Other2Extend1OLetter1Extend7Other1
    Extend3Other1Extend4Other7Extend2Other6OLetter2Other1OLetter2Extend2Other2Numeric10Other1
    OLetter2Extend1Other12Extend4OLetter9Other1OLetter3Other1OLetter41Extend2OLetter1Extend7Other1
    Extend3Other1Extend4OLetter1Other5OLetter3Extend1Other7OLetter3Extend2Other2Numeric10Other10
    OLetter6Other1Extend3Other1OLetter18Other3OLetter24Other1OLetter9Other1OLetter1Other2OLetter7
    Other3Extend1Other4Extend6Other1Extend1Other1Extend8Other6Numeric10Other2Extend2Other13
    OLetter48Extend1OLetter2Extend7Other5OLetter7Extend8Other1Numeric10Other39OLetter2Other1
    OLetter1Other1OLetter5Other1OLetter24Other1OLetter1Other1OLetter10Extend1OLetter2Extend9
    OLetter1Other2OLetter5Other1OLetter1Other1Extend7Other1Numeric10Other2OLetter4Other32OLetter1
    Other23Extend2Other6Numeric10Other11Extend1Other1Extend1Other1Extend1Close4Extend2OLetter8
    Other1OLetter36Other4Extend20Other1Extend2OLetter5Extend11Other1Extend36Other9Extend1Other57
    OLetter43Extend20OLetter1Numeric10STerm2Other4OLetter6Extend4OLetter4Extend3OLetter1Extend3
    OLetter2Extend7OLetter3Extend4OLetter13Extend12OLetter1Extend1Numeric10Extend4Other2Upper38
    Other1Upper1Other5Upper1Other2OLetter43Other1Lower1OLetter332Other1OLetter4Other2OLetter7Other1
    OLetter1Other1OLetter4Other2OLetter41Other1OLetter4Other2OLetter33Other1OLetter4Other2OLetter7
    Other1OLetter1Other1OLetter4Other2OLetter15Other1OLetter57Other1OLetter4Other2OLetter67Other2
    Extend3Other2STerm1Other4STerm2Other23OLetter16Other16Upper86Other2Lower6Other3OLetter620Other1
    STerm1OLetter17Sp1OLetter26Close2Other3OLetter75Other3OLetter11Other7OLetter18Extend4Other9
    OLetter19Extend3STerm2Other9OLetter18Extend2Other12OLetter13Other1OLetter3Other1Extend2Other12
    OLetter52Extend32STerm2Other1OLetter1Other4OLetter1Extend1Other2Numeric10Other24SContinue1
    STerm1Other4SContinue1STerm1Other1Extend3Format1Extend1Numeric10Other6OLetter89Other7OLetter5
    Extend2OLetter34Extend1OLetter1Other5OLetter70Other10OLetter31Other1Extend12Other4Extend12
    Other8STerm2Numeric10OLetter30Other2OLetter5Other11OLetter44Other4OLetter26Other6Numeric11
    Other37OLetter23Extend5Other4OLetter53Extend10Other1Extend29Other2Extend1Numeric10Other6
    Numeric10Other13OLetter1STerm4Other4Extend31Other49Extend5OLetter47Extend17OLetter8Other1STerm2
    Numeric10STerm2Other2STerm2Other11Extend9Other9STerm3Extend3OLetter30Extend13OLetter2Numeric10
    OLetter44Extend14Other12OLetter36Extend20Other3STerm2Other3Numeric10Other3OLetter3Numeric10
    OLetter36STerm2Lower9Upper1Lower1Other5OLetter43Other2OLetter3Other16Extend3Other1Extend21
    OLetter4Extend1OLetter6Extend1OLetter2Extend3OLetter1Other5Lower192Extend64Upper1Lower1Upper1
    Lower1Upper1Lower1Upper1Lower1Upper1Lower1Upper1Lower1Upper1Lower1Upper1Lower1Upper1Lower1
    Upper1Lower1Upper1Lower1Upper1Lower1Upper1Lower1Upper1Lower1Upper1Lower1Upper1Lower1Upper1
    Lower1Upper1Lower1Upper1Lower1Upper1Lower1Upper1Lower1Upper1Lower1Upper1Lower1Upper1Lower1
    Upper1Lower1Upper1Lower1Upper1Lower1Upper1Lower1Upper1Lower1Upper1Lower1Upper1Lower1Upper1
    Lower1Upper1Lower1Upper1Lower1Upper1Lower1Upper1Lower1Upper1Lower1Upper1Lower1Upper1Lower1
    Upper1Lower1Upper1Lower1Upper1Lower1Upper1Lower1Upper1Lower1Upper1Lower1Upper1Lower1Upper1
    Lower1Upper1Lower1Upper1Lower1Upper1Lower1Upper1Lower1Upper1Lower1Upper1Lower1Upper1Lower1
    Upper1Lower1Upper1Lower1Upper1Lower1Upper1Lower1Upper1Lower1Upper1Lower1Upper1Lower1Upper1
    Lower1Upper1Lower1Upper1Lower1Upper1Lower1Upper1Lower1Upper1Lower1Upper1Lower1Upper1Lower1
    Upper1Lower1Upper1Lower1Upper1Lower1Upper1Lower1Upper1Lower1Upper1Lower9Upper1Lower1Upper1
    Lower1Upper1Lower1Upper1Lower1Upper1Lower1Upper1Lower1Upper1Lower1Upper1Lower1Upper1Lower1
    Upper1Lower1Upper1Lower1Upper1Lower1Upper1Lower1Upper1Lower1Upper1Lower1Upper1Lower1Upper1
    Lower1Upper1Lower1Upper1Lower1Upper1Lower1Upper1Lower1Upper1Lower1Upper1Lower1Upper1Lower1
    Upper1Lower1Upper1Lower1Upper1Lower1Upper1Lower1Upper1Lower1Upper1Lower1Upper1Lower1Upper1
    Lower1Upper1Lower1Upper1Lower1Upper1Lower1Upper1Lower1Upper1Lower1Upper1Lower1Upper1Lower1
    Upper1Lower1Upper1Lower1Upper1Lower1Upper1Lower1Upper1Lower1Upper1Lower1Upper1Lower1Upper1
    Lower1Upper1Lower1Upper1Lower9Upper8Lower6Other2Upper6Other2Lower8Upper8Lower8Upper8Lower6
    Other2Upper6Other2Lower8Other1Upper1Other1Upper1Other1Upper1Other1Upper1Lower8Upper8Lower14
    Other2Lower8Upper8Lower8Upper8Lower8Upper8Lower5Other1Lower2Upper5Other1Lower1Other3Lower3
    Other1Lower2Upper5Other3Lower4Other2Lower2Upper4Other4Lower8Upper5Other5Lower3Other1Lower2
    Upper5Other3Sp11Format1Extend2Format2Other3SContinue2Other3Close8Other4ATerm1Other3Sep2Format5
    Sp1Other9Close2Other1STerm2Other7Close2STerm3Other21Sp1Format5Other1Format10Other1Lower1Other11
    Close2Lower1Other13Close2Other1Lower13Other51Extend33Other17Upper1Other4Upper1Other2Lower1
    Upper3Lower2Upper3Lower1Other1Upper1Other3Upper5Other6Upper1Other1Upper1Other1Upper1Other1
    Upper4Other1Lower1Upper4Lower1OLetter4Lower1Other2Lower2Upper2Other5Upper1Lower4Other4Lower1
    Other17Upper16Lower16OLetter3Upper1Lower1OLetter4Other383Close4Other29Close2Other395Upper26
    Lower26Other625Close6Other7Close14Other79Close2Other31Close10Other403Close22Other63Close4
    Other32Close2Other514Upper48Lower48Upper1Lower1Upper3Lower2Upper1Lower1Upper1Lower1Upper1Lower1
    Upper4Lower1Upper1Lower2Upper1Lower8Upper3Lower1Upper1Lower1Upper1Lower1Upper1Lower1Upper1
    Lower1Upper1Lower1Upper1Lower1Upper1Lower1Upper1Lower1Upper1Lower1Upper1Lower1Upper1Lower1
    Upper1Lower1Upper1Lower1Upper1Lower1Upper1Lower1Upper1Lower1Upper1Lower1Upper1Lower1Upper1
    Lower1Upper1Lower1Upper1Lower1Upper1Lower1Upper1Lower1Upper1Lower1Upper1Lower1Upper1Lower1
    Upper1Lower1Upper1Lower1Upper1Lower1Upper1Lower1Upper1Lower1Upper1Lower1Upper1Lower1Upper1
    Lower1Upper1Lower1Upper1Lower1Upper1Lower1Upper1Lower1Upper1Lower1Upper1Lower1Upper1Lower1
    Upper1Lower1Upper1Lower1Upper1Lower1Upper1Lower1Upper1Lower1Upper1Lower1Upper1Lower1Upper1
    Lower2Other6Upper1Lower1Upper1Lower1Extend3Upper1Lower1Other5STerm3Other4Lower38Other1Lower1
    Other5Lower1Other2OLetter56Other7OLetter1Other15Extend1OLetter23Other9OLetter7Other1OLetter7
    Other1OLetter7Other1OLetter7Other1OLetter7Other1OLetter7Other1OLetter7Other1OLetter7Other1
    Extend32Close14Other14Close2Other2Close10Other4STerm1OLetter1Other12STerm1Other5Close1Other16
    STerm2Close8Other419Sp1SContinue1STerm1Other2OLetter3Close10Other2Close8Other1Close3Other1
    OLetter9Extend6Other1OLetter5Other2OLetter5Other4OLetter86Other2Extend2Other2OLetter3Other1
    OLetter90Other1OLetter4Other5OLetter43Other1OLetter94Other17OLetter32Other48OLetter16Other512
    OLetter6592Other64OLetter22157Other67OLetter46Other1STerm1OLetter269Other1STerm2OLetter16
    Numeric10OLetter2Other20Upper1Lower1Upper1Lower1Upper1Lower1Upper1Lower1Upper1Lower1Upper1
    Lower1Upper1Lower1Upper1Lower1Upper1Lower1Upper1Lower1Upper1Lower1Upper1Lower1Upper1Lower1
    Upper1Lower1Upper1Lower1Upper1Lower1Upper1Lower1Upper1Lower1Upper1Lower1Upper1Lower1Upper1
    Lower1Upper1Lower1Upper1Lower1OLetter1Extend4Other1Extend10Other1OLetter1Upper1Lower1Upper1
    Lower1Upper1Lower1Upper1Lower1Upper1Lower1Upper1Lower1Upper1Lower1Upper1Lower1Upper1Lower1
    Upper1Lower1Upper1Lower1Upper1Lower1Upper1Lower1Upper1Lower3Extend2OLetter80Extend2Other1STerm1
    Other3STerm1Other31OLetter9Other2Upper1Lower1Upper1Lower1Upper1Lower1Upper1Lower1Upper1Lower1
    Upper1Lower1Upper1Lower3Upper1Lower1Upper1Lower1Upper1Lower1Upper1Lower1Upper1Lower1Upper1
    Lower1Upper1Lower1Upper1Lower1Upper1Lower1Upper1Lower1Upper1Lower1Upper1Lower1Upper1Lower1
    Upper1Lower1Upper1Lower1Upper1Lower1Upper1Lower1Upper1Lower1Upper1Lower1Upper1Lower1Upper1
    Lower1Upper1Lower1Upper1Lower1Upper1Lower1Upper1Lower1Upper1Lower1Upper1Lower1Upper1Lower1
    Upper1Lower1Upper1Lower1Upper1Lower10Upper1Lower1Upper1Lower1Upper2Lower1Upper1Lower1Upper1
    Lower1Upper1Lower1Upper1Lower1OLetter1Other2Upper1Lower1Upper1Lower1OLetter1Upper1Lower1Upper1
    Lower3Upper1Lower1Upper1Lower1Upper1Lower1Upper1Lower1Upper1Lower1Upper1Lower1Upper1Lower1
    Upper1Lower1Upper1Lower1Upper1Lower1Upper5Lower1Upper5Lower1Upper1Lower1Upper1Lower1Upper1
    Lower1Upper1Lower1Upper1Lower1Upper1Lower1Upper1Lower1Upper4Lower1Upper1Lower1Upper2Lower1
    Other2Upper1Lower1Other1Lower1Other1Lower1Upper1Lower1Upper1Lower1Upper1Lower1Upper1Other21
    Lower3Upper1Lower1OLetter1Lower3OLetter7Extend1OLetter3Extend1OLetter4Extend1OLetter23Extend5
    Other4Extend1Other19OLetter52Other2STerm2Other8Extend2OLetter50Extend18Other8STerm2Numeric10
    Other6Extend18OLetter6Other3OLetter1Other1OLetter2Extend1Numeric10OLetter28Extend8Other1STerm1
    OLetter23Extend13Other12OLetter29Other3Extend4OLetter47Extend14Other7STerm2Other5OLetter1
    Numeric10Other6OLetter5Extend1OLetter10Numeric10OLetter5Other1OLetter41Extend14Other9OLetter3
    Extend1OLetter8Extend2Other2Numeric10Other3STerm3OLetter23Other3OLetter1Extend3OLetter50Extend1
    OLetter1Extend3OLetter2Extend2OLetter5Extend2OLetter1Extend1OLetter1Other24OLetter3Other2
    OLetter11Extend5STerm2OLetter3Extend2Other10OLetter6Other2OLetter6Other2OLetter6Other9OLetter7
    Other1OLetter7Other1Lower43Other1Lower14Other6Lower80OLetter35Extend8STerm1Extend2Other2
    Numeric10Other6OLetter11172Other12OLetter23Other4OLetter49Other8452OLetter366Other2OLetter106
    Other38Lower7Other12Lower5Other5OLetter1Extend1OLetter10Other1OLetter13Other1OLetter5Other1
    OLetter1Other1OLetter2Other1OLetter2Other1OLetter108Other33OLetter363Close2Other16OLetter64
    Other2OLetter54Other40OLetter12Other4Extend16SContinue2STerm1SContinue2STerm2Close2Other7
    Extend16Other1SContinue2Other2Close16Other2Close2Other7SContinue2ATerm1Other1SContinue2STerm2
    SContinue1Close6Other4SContinue1Other12OLetter5Other1OLetter135Other2Format1Other1STerm1Other6
    Close2Other2SContinue2ATerm1Other1Numeric10SContinue2Other3STerm1Other1Upper26Close1Other1
    Close1Other3Lower26Close1Other1Close1Other1Close2STerm1Close2SContinue1Other1OLetter56Extend2
    OLetter31Other3OLetter6Other2OLetter6Other2OLetter6Other2OLetter3Other28Format3Other4OLetter12
    Other1OLetter26Other1OLetter19Other1OLetter2Other1OLetter15Other2OLetter14Other34OLetter123
    Other69OLetter53Other136Extend1Other130OLetter29Other3OLetter49Other15Extend1Other31OLetter32
    Other13OLetter30Other5OLetter38Extend5Other5OLetter30Other2OLetter36Other4OLetter8Other1
    OLetter5Other42Upper40Lower40OLetter78Other2Numeric10Other6Upper36Other4Lower36Other4OLetter40
    Other8OLetter52Other12Upper11Other1Upper15Other1Upper7Other1Upper2Other1Lower11Other1Lower15
    Other1Lower7Other1Lower2Other3OLetter52Other12OLetter311Other9OLetter22Other10OLetter8Other24
    Lower1OLetter2Lower3Other1Lower42Other1Lower9Other69OLetter6Other2OLetter1Other1OLetter44Other1
    OLetter2Other3OLetter1Other2OLetter23Other10OLetter23Other9OLetter31Other65OLetter19Other1
    OLetter2Other10OLetter22Other10OLetter26Other70OLetter56Other6OLetter2Other64OLetter1Extend3
    Other1Extend2Other5Extend4OLetter4Other1OLetter3Other1OLetter29Other2Extend3Other4Extend1
    Other22STerm2Other8OLetter29Other3OLetter29Other35OLetter8Other1OLetter28Extend2Other25
    OLetter54Other10OLetter22Other10OLetter19Other13OLetter18Other110OLetter73Other55Upper51Other13
    Lower51Other13OLetter36Extend4Other8Numeric10Other6Numeric10OLetter6Upper22Other3Extend5Other1
    OLetter1Lower22Other250OLetter42Other1Extend2Other3OLetter2Other16OLetter3Other55Extend4
    OLetter29Other10OLetter1Other8OLetter22Extend11Other4STerm5Other22OLetter18Extend4STerm4Other38
    OLetter21Other27OLetter23Other9Extend3OLetter53Extend15STerm2Other29Numeric10Extend1OLetter2
    Extend2OLetter1Other9Extend4OLetter45Extend11Other2Numeric1STerm4Extend1Other10Numeric1Other2
    OLetter25Other7Numeric10Other6Extend3OLetter36Extend14Other1Numeric10Other1STerm3OLetter1
    Extend2OLetter1Other8OLetter35Extend1Other2OLetter1Other9Extend3OLetter48Extend14OLetter4STerm2
    Other2Extend4STerm1Extend2Numeric10OLetter1Other1OLetter1Other1STerm2Other32OLetter18Other1
    OLetter25Extend12STerm2Other1STerm2Other1Extend1OLetter2Extend1Other62OLetter7Other1OLetter1
    Other1OLetter4Other1OLetter15Other1OLetter10STerm1Other6OLetter47Extend12Other5Numeric10Other6
    Extend4Other1OLetter8Other2OLetter2Other2OLetter22Other1OLetter7Other1OLetter2Other1OLetter5
    Other1Extend2OLetter1Extend7Other2Extend2Other2Extend3Other2OLetter1Other6Extend1Other5OLetter5
    Extend2Other2Extend7Other3Extend5Other11OLetter10Other1OLetter1Other2OLetter1Other1OLetter38
    Other1OLetter1Extend9Other1Extend1Other2Extend1Other1Extend4Other1Extend5OLetter1Extend1
    OLetter1STerm2Other11Extend2Other29OLetter53Extend18OLetter4STerm2Other3Numeric10Other4Extend1
    OLetter3Other30OLetter48Extend20OLetter2Other1OLetter1Other8Numeric10Other166OLetter47Extend7
    Other2Extend9Other1STerm2Other5STerm15OLetter4Extend2Other34OLetter48Extend17STerm2Other1
    OLetter1Other11Numeric10Other38OLetter43Extend13OLetter1Other7Numeric10Other6Numeric20Other28
    OLetter27Other2Extend15Other4Numeric10Other2STerm3Other1OLetter7Other185OLetter44Extend15
    Other101Upper32Lower32Numeric10Other21OLetter8Other2OLetter1Other2OLetter8Other1OLetter2Other1
    OLetter24Extend6Other1Extend2Other2Extend4OLetter1Extend1OLetter1Extend2STerm1Other1STerm1
    Other9Numeric10Other70OLetter8Other2OLetter39Extend7Other2Extend7OLetter1Other1OLetter1Extend1
    Other27OLetter1Extend10OLetter40Extend7OLetter1Extend4Other3STerm2Other3Extend1Other8OLetter1
    Extend11OLetter46Extend16Other1STerm2OLetter1Other18OLetter73Other199OLetter33Other15Numeric10
    Other6OLetter9Other1OLetter37Extend8Other1Extend8OLetter1STerm2Other13Numeric10Other24OLetter30
    Other2Extend22Other1Extend14Other73OLetter7Other1OLetter2Other1OLetter38Extend6Other3Extend1
    Other1Extend2Other1Extend7OLetter1Extend1Other8Numeric10Other6OLetter6Other1OLetter2Other1
    OLetter32Extend5Other1Extend2Other1Extend5OLetter1Other7Numeric10Other310OLetter19Extend4STerm2
    Other7Extend2OLetter1Extend1OLetter13Other1OLetter34Extend7Other3Extend5STerm2Other11Numeric10
    Extend1Other85OLetter1Other79OLetter922Other102OLetter111Other17OLetter196Other2636OLetter97
    Other15OLetter1072Format16Extend1OLetter6Extend15Other10OLetter3995Other5OLetter583Other6841
    OLetter30Extend18Numeric10Other1734OLetter569Other7OLetter31Other1Numeric10Other4STerm2
    OLetter79Other1Numeric10Other6OLetter30Other2Extend5STerm1Other10OLetter48Extend7STerm2Other7
    OLetter4STerm1Other11Numeric10Other9OLetter21Other5OLetter19Other432OLetter45Other1STerm2
    Numeric10Other198Upper32Lower32Other24STerm1Other103OLetter75Other4Extend1OLetter1Extend55
    Other7Extend4OLetter13Other64OLetter2Other1OLetter1Extend1Other11Extend2Other14OLetter6136
    Other8OLetter1238Other41OLetter10Other8935OLetter4Other1OLetter7Other1OLetter2Other1OLetter291
    Other15OLetter1Other29OLetter3Other2OLetter1Other14OLetter4Other8OLetter396Other2308OLetter107
    Other5OLetter13Other3OLetter9Other7OLetter10Other3Extend2STerm1Format4Other4172Numeric10
    Other518Extend46Other2Extend23Other542Extend5Other3Extend6Format8Extend8Other2Extend7Other30
    Extend4Other148Extend3Other443Upper26Lower26Upper26Lower7Other1Lower18Upper26Lower26Upper1
    Other1Upper2Other2Upper1Other2Upper2Other2Upper4Other1Upper8Lower4Other1Lower1Other1Lower7
    Other1Lower11Upper26Lower26Upper2Other1Upper4Other2Upper8Other1Upper7Other1Lower26Upper2Other1
    Upper4Other1Upper5Other1Upper1Other3Upper7Other1Lower26Upper26Lower26Upper26Lower26Upper26
    Lower26Upper26Lower26Upper26Lower26Upper26Lower28Other2Upper25Other1Lower25Other1Lower6Upper25
    Other1Lower25Other1Lower6Upper25Other1Lower25Other1Lower6Upper25Other1Lower25Other1Lower6
    Upper25Other1Lower25Other1Lower6Upper1Lower1Other2Numeric50Other512Extend55Other4Extend50Other8
    Extend1Other14Extend1Other3STerm1Other18Extend5Other1Extend15Other1104Lower10OLetter1Lower20
    Other6Lower6Other213Extend7Other1Extend17Other2Extend7Other1Extend2Other1Extend5Other5Lower62
    Other33Extend1Other112OLetter45Other3Extend7OLetter7Other2Numeric10Other4OLetter1Other321
    OLetter30Extend1Other17OLetter44Extend4Numeric10Other470OLetter28Extend4Numeric10Other214
    OLetter30Extend2OLetter1Numeric10Other485OLetter7Other1OLetter4Other1OLetter2Other1OLetter15
    Other1OLetter197Other11Extend7Other41Upper34Lower34Extend7OLetter1Other4Numeric10Other1190
    OLetter4Other1OLetter27Other1OLetter2Other1OLetter1Other2OLetter1Other1OLetter10Other1OLetter4
    Other1OLetter1Other1OLetter1Other6OLetter1Other4OLetter1Other1OLetter1Other1OLetter1Other1
    OLetter3Other1OLetter2Other1OLetter1Other2OLetter1Other1OLetter1Other1OLetter1Other1OLetter1
    Other1OLetter1Other1OLetter2Other1OLetter1Other2OLetter4Other1OLetter7Other1OLetter4Other1
    OLetter4Other1OLetter1Other1OLetter10Other1OLetter17Other5OLetter3Other1OLetter5Other1OLetter17
    Other628Upper26Other6Upper26Other6Upper26Other1260Close3Other1399Numeric10Other1030OLetter42720
    Other32OLetter4154Other6OLetter222Other2OLetter5762Other14OLetter7473Other15OLetter622Other2466
    OLetter542Other1506OLetter4939Other5OLetter4192Other711761Format1Other30Extend96Other128
    Extend240Other196112"

/-- The values of the property and the forms of their names. -/
def sentenceBreakNames : List (String × List String) := [
  ("ATerm", ["aterm", "at"]),
  ("CR", ["cr"]),
  ("Close", ["close", "cl"]),
  ("Extend", ["extend", "ex"]),
  ("Format", ["format", "fo"]),
  ("LF", ["lf"]),
  ("Lower", ["lower", "lo"]),
  ("Numeric", ["numeric", "nu"]),
  ("OLetter", ["oletter", "le"]),
  ("SContinue", ["scontinue", "sc"]),
  ("STerm", ["sterm", "st"]),
  ("Sep", ["sep", "se"]),
  ("Sp", ["sp"]),
  ("Upper", ["upper", "up"])]

end Playback.Unicode
