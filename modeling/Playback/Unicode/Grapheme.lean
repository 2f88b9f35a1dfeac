import Playback.Unicode.Runs

/-!
# Graphemes

The characters that stand for themselves or join with others into one sign.
-/

namespace Playback.Unicode

/-- The runs inside and outside the property `Grapheme_Base`. -/
def graphemeBaseTable : RunTable := .ofText
    "-32+95-33+13-1+594-112+8-2+6-4+7-1+1-1+20-1+224-7+166-1+38-2+50-2+3-46+1-1+1-2+1-2+1-9+27-4+6
    -17+10-11+1-1+46-21+16-1+101-8+1-6+2-2+1-4+32-2+1-1+30-29+89-11+1-14+43-9+7-3+24-4+1-9+1-3+1-7
    +15-1+25-5+1-1+11-5+31-17+42-57+55-1+1-1+4-8+4-1+3-7+10-2+29-1+2-1+8-2+2-2+22-1+7-1+1-3+4-3+1-1
    +2-6+2-2+2-1+1-13+2-1+3-4+24-5+1-1+6-4+2-2+22-1+7-1+2-1+2-1+2-4+3-24+4-1+1-7+10-2+3-1+1-12+1-1
    +9-1+3-1+22-1+7-1+2-1+5-3+4-8+1-1+2-3+1-15+2-4+12-7+1-8+2-1+8-2+2-2+22-1+7-1+2-1+5-3+1-2+1-6+2
    -2+2-15+2-1+3-4+18-11+1-1+6-3+3-1+4-3+2-1+1-1+2-3+2-3+3-3+12-5+1-1+2-3+3-1+3-3+1-21+21-6+3-1+8
    -1+3-1+23-1+16-3+1-3+4-19+3-2+1-2+2-4+10-7+10-1+11-1+3-1+23-1+10-1+5-3+2-2+1-1+2-24+2-1+2-4+10
    -1+3-14+11-1+3-1+41-2+1-1+2-5+3-1+3-1+2-4+3-1+10-4+26-2+2-1+18-3+24-1+9-1+1-2+7-9+2-6+7-7+10-2
    +3-12+48-1+2-11+8-8+13-37+2-1+1-1+5-1+24-1+1-1+10-1+2-9+1-2+5-1+1-9+10-2+4-32+24-2+27-1+1-1+1-1
    +14-1+36-18+1-5+1-2+5-49+8-1+6-1+13-37+45-4+1-6+1-2+2-2+25-2+4-3+16-4+13-1+2-2+6-1+15-1+40-1+1
    -5+1-2+377-1+4-2+7-1+1-1+4-2+41-1+4-2+33-1+4-2+7-1+1-1+4-2+15-1+57-1+4-2+67-5+29-3+26-6+86-2+6
    -2+669-3+89-7+18-13+19-3+2-9+18-14+13-1+3-15+52-2+1-7+8-1+2-11+9-3+10-6+10-6+11-5+10-6+89-7+5-2
    +34-1+1-5+70-10+31-4+4-2+3-4+2-1+6-7+1-3+42-2+5-11+44-4+26-6+11-3+57-2+2-3+56-1+1-9+1-1+2-8+6
    -13+10-6+10-6+14-86+48-10+4-3+8-1+29-9+12-2+32-4+2-6+56-1+1-2+3-1+1-13+48-8+2-5+15-3+62-5+43-2
    +11-11+1-13+1-7+4-1+6-1+3-2+1-5+192-64+278-2+6-2+38-2+6-2+8-1+1-1+1-1+1-1+31-2+53-1+15-1+14-2+6
    -1+19-2+3-1+9-1+11-5+24-7+49-16+2-2+27-1+13-3+33-63+140-4+666-22+11-21+1812-2+32-1+344-3+2-5+45
    -1+1-5+1-2+56-7+2-15+23-9+7-1+7-1+7-1+7-1+7-1+7-1+7-1+7-33+94-34+26-1+89-12+214-26+58-6+16-1+86
    -4+101-5+43-1+94-1+86-9+48-1+29293-3+55-9+348-20+47-4+1-10+32-2+80-2+6-8+206-2+2-1+1-1+8-21+16
    -1+3-1+4-1+25-2+5-4+10-6+56-8+68-10+12-24+13-1+38-8+25-11+1-12+30-6+48-1+2-4+2-2+2-1+13-1+11-4
    +7-1+25-1+41-6+2-2+2-11+3-1+8-1+1-2+10-2+32-1+51-1+1-3+2-2+5-2+1-1+1-24+17-2+8-11+6-2+6-2+6-9+7
    -1+7-1+60-4+117-1+2-1+4-3+10-6+11172-12+23-4+49-8452+366-2+106-38+7-12+5-5+1-1+24-1+5-1+1-1+2-1
    +2-1+125-16+445-2+54-7+1-32+16-16+10-22+35-1+19-1+4-4+5-1+135-4+157-2+31-3+6-2+6-2+6-2+3-3+7-1
    +7-13+2-2+12-1+26-1+19-1+2-1+15-2+14-34+123-5+3-4+45-3+88-1+13-3+1-47+45-131+29-3+49-16+27-4+36
    -9+30-5+38-10+30-1+37-4+14-42+158-2+10-6+36-4+36-4+40-8+52-11+12-1+15-1+7-1+2-1+11-1+15-1+7-1+2
    -3+52-12+311-9+22-10+8-24+6-1+42-1+9-69+6-2+1-1+44-1+2-3+1-2+23-1+72-8+9-48+19-1+2-5+33-3+27-5
    +1-64+56-4+20-2+47-15+4-1+3-1+29-10+9-7+9-7+64-32+37-6+12-9+54-3+29-2+27-5+26-7+4-12+7-80+73-55
    +51-13+51-7+42-12+10-6+38-8+24-8+2-208+31-1+42-3+1-2+2-16+3-59+40-8+22-11+9-22+18-4+4-38+28-20
    +23-9+1-1+54-15+7-4+30-1+2-2+1-12+49-4+2-2+2-1+4-14+25-7+10-9+36-5+1-9+18-8+35-1+3-11+52-9+1-1
    +8-4+2-1+16-1+20-11+18-1+28-3+2-4+6-1+2-63+7-1+1-1+4-1+15-1+11-6+47-1+3-13+10-8+2-1+8-2+2-2+22
    -1+7-1+2-1+5-3+1-1+1-1+4-2+2-2+2-3+1-12+7-28+10-1+1-2+1-1+38-1+1-1+2-15+1-1+2-3+1-1+3-1+2-39+56
    -8+2-3+1-1+21-1+1-1+3-30+48-1+2-6+1-1+2-1+1-2+1-2+4-8+10-166+47-1+2-6+4-2+1-2+27-36+51-8+2-1+1
    -2+4-11+10-6+13-19+43-1+1-1+2-8+2-6+10-6+20-28+27-3+1-1+2-4+1-9+23-185+47-9+1-2+1-100+83-12+8-2
    +1-2+8-1+2-1+24-1+5-1+2-6+4-1+3-9+10-70+8-2+42-8+4-1+4-27+1-10+40-6+2-4+8-9+1-6+2-3+46-13+1-2+9
    -13+73-7+10-182+34-14+10-6+9-1+38-14+1-1+6-10+29-3+32-25+1-7+1-2+1-75+7-1+2-1+38-21+1-9+10-6+6
    -1+2-1+37-4+2-1+1-1+1-7+10-310+19-2+4-9+15-1+36-8+2-3+23-86+1-15+50-13+923-102+111-1+5-11+196
    -2636+99-13+1072-17+6-25+3995-5+583-6841+30-12+3-3+10-1734+569-7+31-1+10-4+81-1+10-6+30-7+1-10
    +48-7+15-10+10-1+7-1+21-5+19-432+58-198+91-101+75-5+56-11+13-64+4-28+6136-8+1238-41+10-8935+4-1
    +7-1+2-1+291-15+1-29+3-2+1-14+4-8+396-2308+107-5+13-3+9-7+10-2+1-2+1-3936+250-6+436-156+116-60
    +246-10+39-2+60-5+3-22+2-7+30-4+61-21+66-3+1-122+20-12+20-12+87-9+25-135+85-1+71-1+2-2+1-2+2-2
    +4-1+12-1+1-1+7-1+65-1+4-2+8-1+7-1+28-1+4-1+5-1+1-3+7-1+340-2+292-2+562-55+4-50+8-1+14-1+7-1140
    +31-6+6-261+62-146+45-10+7-2+10-4+2-320+30-18+44-4+10-5+1-464+28-4+10-214+30-2+11-4+1-480+7-1+4
    -1+2-1+15-1+197-2+9-48+68-7+1-4+10-4+2-785+68-76+61-194+4-1+27-1+2-1+1-2+1-1+10-1+4-1+1-1+1-6+1
    -4+1-1+1-1+1-1+3-1+2-1+1-2+1-1+1-1+1-1+1-1+1-1+2-1+1-2+4-1+7-1+4-1+4-1+1-1+10-1+17-5+3-1+5-1+17
    -52+2-270+44-4+100-12+15-2+15-1+15-1+37-10+174-56+29-13+44-4+9-7+2-14+6-154+984-4+17-3+13-3+119
    -4+95-6+12-4+1-15+12-4+56-8+10-6+40-8+30-2+12-4+2-62+340-12+14-2+13-3+10-5+56-7+15-2+11-6+9-7
    +147-1+102-1030+42720-32+4154-6+222-2+5762-14+7473-15+622-2466+542-1506+4939-5+4192-908368"

/-- The runs inside and outside the property `Grapheme_Extend`. -/
def graphemeExtendTable : RunTable := .ofText
    "-768+112-275+7-263+45-1+1-1+2-1+2-1+1-72+11-48+21-16+1-101+7-2+6-2+2-1+4-35+1-30+27-91+11-58+9
    -9+1-24+4-1+9-1+3-1+5-43+3-59+9-42+24-1+32-55+1-1+1-4+8-4+1-3+7-10+2-29+1-58+1-1+1-2+4-8+1-9+1
    -10+2-26+1-2+2-57+1-4+2-4+2-2+3-3+1-30+2-3+1-11+2-57+1-4+5-1+2-4+1-20+2-22+6-1+1-58+1-1+2-1+4-8
    +1-7+3-10+2-30+1-59+1-1+1-12+1-9+1-40+1-3+1-55+1-1+3-5+3-1+4-7+2-11+2-29+1-58+1-2+2-1+1-3+3-1+4
    -7+2-11+2-28+2-57+2-1+1-2+4-8+1-9+1-10+2-29+1-72+1-4+1-2+3-1+1-8+1-81+1-2+7-12+8-98+1-2+9-11+7
    -73+2-27+1-1+1-1+1-55+14-1+5-1+2-5+11-1+36-9+1-102+4-1+6-1+2-2+2-25+2-4+3-16+4-13+1-2+2-6+1-15
    +1-703+3-946+4-28+3-29+2-30+2-64+2-1+7-8+1-2+11-9+1-45+3-1+1-117+2-34+1-118+3-4+2-9+1-6+3-219+2
    -2+1-58+1-1+7-1+1-1+1-2+8-6+10-2+1-48+31-49+4-48+10-4+3-38+9-12+2-32+4-2+6-56+1-1+2-3+1-1+5-56
    +8-2+2-152+3-1+13-1+7-4+1-6+1-3+2-198+64-524+1-195+33-3070+3-141+1-96+32-554+6-105+2-30164+4-1
    +10-32+2-80+2-272+1-3+1-4+1-25+2-5+1-151+2-26+18-13+1-38+8-25+11-1+1-44+3-48+1-2+4-2+2-2+1-36+1
    -67+6-2+2-2+2-12+1-8+1-47+1-51+1-1+3-2+2-5+2-1+1-42+2-8+1-238+1-2+1-4+1-20272+1-737+16-16+16
    -366+2-605+1-226+1-149+5-1670+3-1+2-5+4-40+3-4+1-165+2-573+4-65+5-317+2-79+4-70+11-49+4-123+1
    -54+15-41+1-2+2-10+3-49+4-2+2-7+1-61+3-36+5-1+8-62+1-12+2-52+9-1+1-8+4-2+1-95+3-2+4-6+1-2+1-157
    +1-3+8-21+2-57+2-1+1-1+1-12+1-9+1-14+7-3+5-67+1-2+6-1+1-2+1-1+3-4+3-1+1-14+2-85+8-2+3-1+1-23+1
    -81+1-2+6-1+1-2+1-1+2-1+2-235+1-2+4-6+2-1+2-27+2-85+8-2+1-1+2-106+1-1+1-2+8-101+1-1+1-2+4-1+5
    -259+9-1+2-245+1-10+4-4+1-144+4-2+2-4+1-32+10-40+6-2+4-8+1-9+6-2+3-46+13-1+2-406+7-1+6-1+1-82
    +22-2+7-1+2-1+2-122+6-3+1-1+2-1+7-1+1-72+2-3+1-1+1-347+2-11+2-52+5-5+3-23+1-5349+1-6+15-11464
    +12-3+3-2496+5-59+7-1048+1-63+4-81+1-11+2-19627+2-4705+46-2+23-542+5-3+6-8+8-2+7-30+4-148+3
    -1979+55-4+50-8+1-14+1-22+5-1+15-1360+7-1+17-2+7-1+2-1+5-100+1-160+7-375+1-61+4-508+4-254+2-736
    +7-109+7-792277+96-128+240-196112"

/-- The runs inside and outside the property `Grapheme_Link`. -/
def graphemeLinkTable : RunTable := .ofText
    "-2381+1-127+1-127+1-127+1-127+1-127+1-127+1-127+1-109+2-16+1-124+1-111+1-127+1-201+1-180+2
    -1753+2-30+1-157+1-653+1-227+1-101+2-70+2-4491+1-31366+1-37+1-151+1-142+1-108+1-309+1-246+1
    -24145+1-1542+1-41+1-14+1-57+1-121+2-139+1-116+1-180+1-98+1-128+3-113+1-127+1-252+1-127+1-118+1
    -116+1-269+1-259+2-161+1-83+1-18+1-81+1-421+1-260+2-81+1-425+2-16876+1-1023696"

/-- The runs inside and outside the property `Other_Grapheme_Extend`. -/
def otherGraphemeExtendTable : RunTable := .ofText
    "-2494+1-24+1-358+1-24+1-102+1-24+1-232+1-1+1-4+2-1+2-9+2-103+1-24+1-119+1-15+1-2357+1-30+1
    -1024+1-5+1-1+1-5+2-101+1-71+2-1048+1-4129+2-31011+1-108+1-21981+2-4640+1-116+1-264+1-14+1-9+1
    -96+1-9+1-2+1-1+3-5+1-224+1-12+1-241+1-262+1-633+1-12+1-1539+1-20654+2-24947+2-6+6-798381+96
    -196480"

/-- The runs inside and outside the property `Diacritic`. -/
def diacriticTable : RunTable := .ofText
    "-94+1-1+1-71+1-6+1-4+1-2+2-503+159-1+8-5+6-17+2-4+1-9+2-253+5-209+1-55+45-1+1-1+2-1+2-1+1-131
    +8-4+2-134+2-4+2-3+3-67+27-91+11-58+11-34+2-126+8-41+10-16+28-61+1-16+1-3+4-28+1-74+1-16+1-110
    +1-16+1-110+1-16+1-47+3-60+1-16+1-7+1-119+1-110+1-16+1-110+1-16+1-109+2-16+1-124+1-111+1-12+6-1
    +1-107+1-13+5-75+2-27+1-1+1-1+1-4+2-66+3-1+2-62+1-112+1-1+2-40+2-4+5-25+7-1+1-10+2-705+3-948+2
    -30+1-148+11-9+1-347+3-292+1-20+8-2+1-48+15-2+11-104+1-15+1-38+9-54+2-58+1-11+2-66+2-64+6-82+25
    -4+1-6+1-2+3-50+63-48+36-5+12-37+11-445+1-1+3-11+3-13+3-13+3-13+2-3312+3-317+1-506+6-105+4-95+1
    -30066+1-12+2-1+1-28+2-82+2-14+34-102+3-109+2-12+1-37+1-151+1-27+18-57+4-36+1-95+1-12+1-36+1
    -149+3-65+4-51+1-100+5-9+3-128+2-20272+1-769+16-270+1-1+1-47+1-45+2-67+1-764+1-1183+6-1+42-1+9
    -637+3-4+1-165+2-571+6-38+1-26+5-399+3-70+11-49+4-192+1-41+1-72+2-120+2-62+1-76+1-9+3-104+2-178
    +2-80+2-16+1-24+7-3+5-89+3-1+2-13+2-95+1-3+1-123+2-251+2-126+1-118+2-115+1-269+2-258+2-4+1-156
    +1-83+1-18+1-81+1-421+1-258+1-1+2-81+1-425+2-23+1-5356+15-11481+1-2496+5-59+7-564+2-546+17-80+2
    -16382+4-1+7-1+2-7937+46-2+23-544+3-3+6-8+8-2+7-30+4-3714+62-194+7-375+1-61+4-766+2-736+7-109+3
    -1+3-988853"

/-- The runs inside and outside the property `Extender`. -/
def extenderTable : RunTable := .ofText
    "-183+1-536+2-878+1-441+1-630+1-137+1-89+1-752+1-127+1-2371+1-56+1-611+1-398+1-68+1-5001+1-43+5
    -103+2-93+3-28438+1-1526+1-962+1-22+1-137+1-108+1-21+2-21627+1-2064+2-1483+1-27+1-4+1-1223+1
    -293+1-116+2-498+3-1231+1-20649+2-1180+2-1+1-29016+2-1201+1-852+3-988857"

/-- The runs inside and outside the property `Modifier_Combining_Mark`. -/
def modifierCombiningMarkTable : RunTable := .ofText
    "-1620+2-2+1-131+1-6+1-3+2-481+2-1+3-3+1-31+1-1111820"

/-- The runs inside and outside the property `Join_Control`. -/
def joinControlTable : RunTable := .ofText
    "-8204+2-1105906"

/-- The runs inside and outside the property `Logical_Order_Exception`. -/
def logicalOrderExceptionTable : RunTable := .ofText
    "-3648+5-123+5-2800+3-2+1-37114+2-2+1-1+2-1070403"

/-- The runs inside and outside the property `Prepended_Concatenation_Mark`. -/
def prependedConcatenationMarkTable : RunTable := .ofText
    "-1536+6-215+1-49+1-384+2-80+1-67546+1-15+1-1044274"

/-- The runs inside and outside the property `Variation_Selector`. -/
def variationSelectorTable : RunTable := .ofText
    "-6155+3-1+1-58864+16-852720+240-196112"

end Playback.Unicode
