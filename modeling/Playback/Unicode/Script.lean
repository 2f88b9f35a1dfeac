import Playback.Unicode.Runs

/-!
# Scripts

The script of each character, and the names under which the scripts are known.
-/

namespace Playback.Unicode

/-- The runs of equal script. -/
def scriptTable : RunTable := .ofText
    "Zyyy65Latn26Zyyy6Latn26Zyyy47Latn1Zyyy15Latn1Zyyy5Latn23Zyyy1Latn31Zyyy1Latn449Zyyy39Latn5
    Zyyy5Bopo2Zyyy20Zinh112Grek4Zyyy1Grek3Zzzz2Grek4Zyyy1Grek1Zzzz4Grek1Zyyy1Grek1Zyyy1Grek3Zzzz1
    Grek1Zzzz1Grek20Zzzz1Grek63Copt14Grek16Cyrl133Zinh2Cyrl169Zzzz1Armn38Zzzz2Armn50Zzzz2Armn3Zzzz1
    Hebr55Zzzz8Hebr27Zzzz4Hebr6Zzzz11Arab5Zyyy1Arab6Zyyy1Arab14Zyyy1Arab3Zyyy1Arab32Zyyy1Arab10
    Zinh11Arab26Zinh1Arab108Zyyy1Arab34Syrc14Zzzz1Syrc60Zzzz2Syrc3Arab48Thaa50Zzzz14Nkoo59Zzzz2
    Nkoo3Samr46Zzzz2Samr15Zzzz1Mand28Zzzz2Mand1Zzzz1Syrc11Zzzz5Arab31Zzzz1Arab2Zzzz5Arab75Zyyy1
    Arab29Deva81Zinh4Deva15Zyyy2Deva26Beng4Zzzz1Beng8Zzzz2Beng2Zzzz2Beng22Zzzz1Beng7Zzzz1Beng1Zzzz3
    Beng4Zzzz2Beng9Zzzz2Beng2Zzzz2Beng4Zzzz8Beng1Zzzz4Beng2Zzzz1Beng5Zzzz2Beng25Zzzz2Guru3Zzzz1
    Guru6Zzzz4Guru2Zzzz2Guru22Zzzz1Guru7Zzzz1Guru2Zzzz1Guru2Zzzz1Guru2Zzzz2Guru1Zzzz1Guru5Zzzz4
    Guru2Zzzz2Guru3Zzzz3Guru1Zzzz7Guru4Zzzz1Guru1Zzzz7Guru17Zzzz10Gujr3Zzzz1Gujr9Zzzz1Gujr3Zzzz1
    Gujr22Zzzz1Gujr7Zzzz1Gujr2Zzzz1Gujr5Zzzz2Gujr10Zzzz1Gujr3Zzzz1Gujr3Zzzz2Gujr1Zzzz15Gujr4Zzzz2
    Gujr12Zzzz7Gujr7Zzzz1Orya3Zzzz1Orya8Zzzz2Orya2Zzzz2Orya22Zzzz1Orya7Zzzz1Orya2Zzzz1Orya5Zzzz2
    Orya9Zzzz2Orya2Zzzz2Orya3Zzzz7Orya3Zzzz4Orya2Zzzz1Orya5Zzzz2Orya18Zzzz10Taml2Zzzz1Taml6Zzzz3
    Taml3Zzzz1Taml4Zzzz3Taml2Zzzz1Taml1Zzzz1Taml2Zzzz3Taml2Zzzz3Taml3Zzzz3Taml12Zzzz4Taml5Zzzz3
    Taml3Zzzz1Taml4Zzzz2Taml1Zzzz6Taml1Zzzz14Taml21Zzzz5Telu13Zzzz1Telu3Zzzz1Telu23Zzzz1Telu16Zzzz2
    Telu9Zzzz1Telu3Zzzz1Telu4Zzzz7Telu2Zzzz1Telu3Zzzz2Telu1Zzzz2Telu4Zzzz2Telu10Zzzz7Telu9Knda13
    Zzzz1Knda3Zzzz1Knda23Zzzz1Knda10Zzzz1Knda5Zzzz2Knda9Zzzz1Knda3Zzzz1Knda4Zzzz7Knda2Zzzz6Knda2
    Zzzz1Knda4Zzzz2Knda10Zzzz1Knda3Zzzz12Mlym13Zzzz1Mlym3Zzzz1Mlym51Zzzz1Mlym3Zzzz1Mlym6Zzzz4Mlym16
    Zzzz2Mlym26Zzzz1Sinh3Zzzz1Sinh18Zzzz3Sinh24Zzzz1Sinh9Zzzz1Sinh1Zzzz2Sinh7Zzzz3Sinh1Zzzz4Sinh6
    Zzzz1Sinh1Zzzz1Sinh8Zzzz6Sinh10Zzzz2Sinh3Zzzz12Thai58Zzzz4Zyyy1Thai28Zzzz37Laoo2Zzzz1Laoo1Zzzz1
    Laoo5Zzzz1Laoo24Zzzz1Laoo1Zzzz1Laoo23Zzzz2Laoo5Zzzz1Laoo1Zzzz1Laoo7Zzzz1Laoo10Zzzz2Laoo4Zzzz32
    Tibt72Zzzz1Tibt36Zzzz4Tibt39Zzzz1Tibt36Zzzz1Tibt15Zzzz1Tibt7Zyyy4Tibt2Zzzz37Mymr160Geor38Zzzz1
    Geor1Zzzz5Geor1Zzzz2Geor43Zyyy1Geor4Hang256Ethi73Zzzz1Ethi4Zzzz2Ethi7Zzzz1Ethi1Zzzz1Ethi4Zzzz2
    Ethi41Zzzz1Ethi4Zzzz2Ethi33Zzzz1Ethi4Zzzz2Ethi7Zzzz1Ethi1Zzzz1Ethi4Zzzz2Ethi15Zzzz1Ethi57Zzzz1
    Ethi4Zzzz2Ethi67Zzzz2Ethi32Zzzz3Ethi26Zzzz6Cher86Zzzz2Cher6Zzzz2Cans640Ogam29Zzzz3Runr75Zyyy3
    Runr11Zzzz7Tglg22Zzzz9Tglg1Hano21Zyyy2Zzzz9Buhd20Zzzz12Tagb13Zzzz1Tagb3Zzzz1Tagb2Zzzz12Khmr94
    Zzzz2Khmr10Zzzz6Khmr10Zzzz6Mong2Zyyy2Mong1Zyyy1Mong20Zzzz6Mong89Zzzz7Mong43Zzzz5Cans70Zzzz10
    Limb31Zzzz1Limb12Zzzz4Limb12Zzzz4Limb1Zzzz3Limb12Tale30Zzzz2Tale5Zzzz11Talu44Zzzz4Talu26Zzzz6
    Talu11Zzzz3Talu2Khmr32Bugi28Zzzz2Bugi2Lana63Zzzz1Lana29Zzzz2Lana11Zzzz6Lana10Zzzz6Lana14Zzzz2
    Zinh31Zzzz49Bali77Zzzz1Bali50Sund64Batk52Zzzz8Batk4Lepc56Zzzz3Lepc15Zzzz3Lepc3Olck48Cyrl11Zzzz5
    Geor43Zzzz2Geor3Sund8Zzzz8Zinh3Zyyy1Zinh13Zyyy1Zinh7Zyyy4Zinh1Zyyy6Zinh1Zyyy3Zinh2Zyyy1Zzzz5
    Latn38Grek5Cyrl1Latn49Grek5Latn4Grek5Latn13Cyrl1Latn70Grek1Zinh64Latn256Grek22Zzzz2Grek6Zzzz2
    Grek38Zzzz2Grek6Zzzz2Grek8Zzzz1Grek1Zzzz1Grek1Zzzz1Grek1Zzzz1Grek31Zzzz2Grek53Zzzz1Grek15Zzzz1
    Grek14Zzzz2Grek6Zzzz1Grek19Zzzz2Grek3Zzzz1Grek9Zzzz1Zyyy12Zinh2Zyyy87Zzzz1Zyyy11Latn1Zzzz2
    Zyyy11Latn1Zyyy15Zzzz1Latn13Zzzz3Zyyy33Zzzz15Zinh33Zzzz15Zyyy38Grek1Zyyy3Latn2Zyyy6Latn1Zyyy27
    Latn1Zyyy17Latn41Zyyy3Zzzz4Zyyy666Zzzz22Zyyy11Zzzz21Zyyy928Brai256Zyyy628Zzzz2Zyyy32Zzzz1
    Zyyy105Glag96Latn32Copt116Zzzz5Copt7Geor38Zzzz1Geor1Zzzz5Geor1Zzzz2Tfng56Zzzz7Tfng2Zzzz14Tfng1
    Ethi23Zzzz9Ethi7Zzzz1Ethi7Zzzz1Ethi7Zzzz1Ethi7Zzzz1Ethi7Zzzz1Ethi7Zzzz1Ethi7Zzzz1Ethi7Zzzz1
    Cyrl32Zyyy94Zzzz34Hani26Zzzz1Hani89Zzzz12Hani214Zzzz26Zyyy21Hani1Zyyy1Hani1Zyyy25Hani9Zinh4
    Hang2Zyyy8Hani4Zyyy4Zzzz1Hira86Zzzz2Zinh2Zyyy2Hira3Zyyy1Kana90Zyyy2Kana3Zzzz5Bopo43Zzzz1Hang94
    Zzzz1Zyyy16Bopo32Zyyy38Zzzz9Zyyy1Kana16Hang31Zzzz1Zyyy64Hang31Zyyy81Kana47Zyyy1Kana88Zyyy168
    Hani6592Zyyy64Hani20992Yiii1165Zzzz3Yiii55Zzzz9Lisu48Vaii300Zzzz20Cyrl96Bamu88Zzzz8Zyyy34
    Latn102Zyyy3Latn67Zzzz2Latn2Zzzz1Latn1Zzzz1Latn8Zzzz21Latn14Sylo45Zzzz3Zyyy10Zzzz6Phag56Zzzz8
    Saur70Zzzz8Saur12Zzzz6Deva32Kali46Zyyy1Kali1Rjng36Zzzz11Rjng1Hang29Zzzz3Java78Zzzz1Zyyy1Java10
    Zzzz4Java2Mymr31Zzzz1Cham55Zzzz9Cham14Zzzz2Cham10Zzzz2Cham4Mymr32Tavt67Zzzz24Tavt5Mtei23Zzzz10
    Ethi6Zzzz2Ethi6Zzzz2Ethi6Zzzz9Ethi7Zzzz1Ethi7Zzzz1Latn43Zyyy1Latn9Grek1Latn4Zyyy2Zzzz4Cher80
    Mtei46Zzzz2Mtei10Zzzz6Hang11172Zzzz12Hang23Zzzz4Hang49Zzzz8452Hani366Zzzz2Hani106Zzzz38Latn7
    Zzzz12Armn5Zzzz5Hebr26Zzzz1Hebr5Zzzz1Hebr1Zzzz1Hebr2Zzzz1Hebr2Zzzz1Hebr10Arab115Zzzz16Arab363
    Zyyy2Arab80Zzzz2Arab54Zzzz7Arab1Zzzz32Arab16Zinh16Zyyy10Zzzz6Zinh14Cyrl2Zyyy35Zzzz1Zyyy19Zzzz1
    Zyyy4Zzzz4Arab5Zzzz1Arab135Zzzz2Zyyy1Zzzz1Zyyy32Latn26Zyyy6Latn26Zyyy11Kana10Zyyy1Kana45Zyyy2
    Hang31Zzzz3Hang6Zzzz2Hang6Zzzz2Hang6Zzzz2Hang3Zzzz3Zyyy7Zzzz1Zyyy7Zzzz10Zyyy5Zzzz2Linb12Zzzz1
    Linb26Zzzz1Linb19Zzzz1Linb2Zzzz1Linb15Zzzz2Linb14Zzzz34Linb123Zzzz5Zyyy3Zzzz4Zyyy45Zzzz3Zyyy9
    Grek79Zzzz1Zyyy13Zzzz3Grek1Zzzz47Zyyy45Zinh1Zzzz130Lyci29Zzzz3Cari49Zzzz15Zinh1Zyyy27Zzzz4
    Ital36Zzzz9Ital3Goth27Zzzz5Perm43Zzzz5Ugar30Zzzz1Ugar1Xpeo36Zzzz4Xpeo14Zzzz42Dsrt80Shaw48Osma30
    Zzzz2Osma10Zzzz6Osge36Zzzz4Osge36Zzzz4Elba40Zzzz8Aghb52Zzzz11Aghb1Vith11Zzzz1Vith15Zzzz1Vith7
    Zzzz1Vith2Zzzz1Vith11Zzzz1Vith15Zzzz1Vith7Zzzz1Vith2Zzzz3Todr52Zzzz12Lina311Zzzz9Lina22Zzzz10
    Lina8Zzzz24Latn6Zzzz1Latn42Zzzz1Latn9Zzzz69Cprt6Zzzz2Cprt1Zzzz1Cprt44Zzzz1Cprt2Zzzz3Cprt1Zzzz2
    Cprt1Armi22Zzzz1Armi9Palm32Nbat31Zzzz8Nbat9Zzzz48Hatr19Zzzz1Hatr2Zzzz5Hatr5Phnx28Zzzz3Phnx1
    Lydi26Zzzz5Lydi1Zzzz64Mero32Merc24Zzzz4Merc20Zzzz2Merc46Khar4Zzzz1Khar2Zzzz5Khar8Zzzz1Khar3
    Zzzz1Khar29Zzzz2Khar3Zzzz4Khar10Zzzz7Khar9Zzzz7Sarb32Narb32Zzzz32Mani39Zzzz4Mani12Zzzz9Avst54
    Zzzz3Avst7Prti22Zzzz2Prti8Phli19Zzzz5Phli8Phlp18Zzzz7Phlp4Zzzz12Phlp7Zzzz80Orkh73Zzzz55Hung51
    Zzzz13Hung51Zzzz7Hung6Rohg40Zzzz8Rohg10Zzzz6Gara38Zzzz3Gara29Zzzz8Gara2Zzzz208Arab31Zzzz1Yezi42
    Zzzz1Yezi3Zzzz2Yezi2Zzzz16Arab3Zzzz55Arab4Sogo40Zzzz8Sogd42Zzzz22Ougr26Zzzz38Chrs28Zzzz20Elym23
    Zzzz9Brah78Zzzz4Brah36Zzzz9Brah1Kthi67Zzzz10Kthi1Zzzz2Sora25Zzzz7Sora10Zzzz6Cakm53Zzzz1Cakm18
    Zzzz8Mahj39Zzzz9Shrd96Zzzz1Sinh20Zzzz11Khoj18Zzzz1Khoj47Zzzz62Mult7Zzzz1Mult1Zzzz1Mult4Zzzz1
    Mult15Zzzz1Mult11Zzzz6Sind59Zzzz5Sind10Zzzz6Gran4Zzzz1Gran8Zzzz2Gran2Zzzz2Gran22Zzzz1Gran7Zzzz1
    Gran2Zzzz1Gran5Zzzz1Zinh1Gran9Zzzz2Gran2Zzzz2Gran3Zzzz2Gran1Zzzz6Gran1Zzzz5Gran7Zzzz2Gran7Zzzz3
    Gran5Zzzz11Tutg10Zzzz1Tutg1Zzzz2Tutg1Zzzz1Tutg38Zzzz1Tutg10Zzzz1Tutg1Zzzz2Tutg1Zzzz1Tutg4Zzzz1
    Tutg10Zzzz1Tutg2Zzzz8Tutg2Zzzz29Newa92Zzzz1Newa5Zzzz30Tirh72Zzzz8Tirh10Zzzz166Sidd54Zzzz2Sidd38
    Zzzz34Modi69Zzzz11Modi10Zzzz6Mong13Zzzz19Takr58Zzzz6Takr10Zzzz6Mymr20Zzzz28Ahom27Zzzz2Ahom15
    Zzzz4Ahom23Zzzz185Dogr60Zzzz100Wara83Zzzz12Wara1Diak7Zzzz2Diak1Zzzz2Diak8Zzzz1Diak2Zzzz1Diak30
    Zzzz1Diak2Zzzz2Diak12Zzzz9Diak10Zzzz70Nand8Zzzz2Nand46Zzzz2Nand11Zzzz27Zanb72Zzzz8Soyo83Zzzz13
    Cans16Pauc57Zzzz7Deva10Zzzz182Sunu34Zzzz14Sunu10Zzzz6Bhks9Zzzz1Bhks45Zzzz1Bhks14Zzzz10Bhks29
    Zzzz3Marc32Zzzz2Marc22Zzzz1Marc14Zzzz73Gonm7Zzzz1Gonm2Zzzz1Gonm44Zzzz3Gonm1Zzzz1Gonm2Zzzz1Gonm9
    Zzzz8Gonm10Zzzz6Gong6Zzzz1Gong2Zzzz1Gong37Zzzz1Gong2Zzzz1Gong6Zzzz7Gong10Zzzz310Maka25Zzzz7
    Kawi17Zzzz1Kawi41Zzzz3Kawi29Zzzz85Lisu1Zzzz15Taml50Zzzz13Taml1Xsux922Zzzz102Xsux111Zzzz1Xsux5
    Zzzz11Xsux196Zzzz2636Cpmn99Zzzz13Egyp1110Zzzz10Egyp3995Zzzz5Hluw583Zzzz6841Gukh58Zzzz1734
    Bamu569Zzzz7Mroo31Zzzz1Mroo10Zzzz4Mroo2Tnsa79Zzzz1Tnsa10Zzzz6Bass30Zzzz2Bass6Zzzz10Hmng70Zzzz10
    Hmng10Zzzz1Hmng7Zzzz1Hmng21Zzzz5Hmng19Zzzz432Krai58Zzzz198Medf91Zzzz101Plrd75Zzzz4Plrd57Zzzz7
    Plrd17Zzzz64Tang1Nshu1Hani2Kits1Zzzz11Hani2Zzzz14Tang6136Zzzz8Tang768Kits470Zzzz41Kits1Tang9
    Zzzz8935Kana4Zzzz1Kana7Zzzz1Kana2Zzzz1Kana1Hira287Kana3Zzzz15Hira1Zzzz29Hira3Zzzz2Kana1Zzzz14
    Kana4Zzzz8Nshu396Zzzz2308Dupl107Zzzz5Dupl13Zzzz3Dupl9Zzzz7Dupl10Zzzz2Dupl4Zyyy4Zzzz3932Zyyy250
    Zzzz6Zyyy436Zzzz76Zinh46Zzzz2Zinh23Zzzz9Zyyy116Zzzz60Zyyy246Zzzz10Zyyy39Zzzz2Zyyy62Zinh3Zyyy17
    Zinh8Zyyy2Zinh7Zyyy30Zinh4Zyyy61Zzzz21Grek70Zzzz122Zyyy20Zzzz12Zyyy20Zzzz12Zyyy87Zzzz9Zyyy25
    Zzzz135Zyyy85Zzzz1Zyyy71Zzzz1Zyyy2Zzzz2Zyyy1Zzzz2Zyyy2Zzzz2Zyyy4Zzzz1Zyyy12Zzzz1Zyyy1Zzzz1Zyyy7
    Zzzz1Zyyy65Zzzz1Zyyy4Zzzz2Zyyy8Zzzz1Zyyy7Zzzz1Zyyy28Zzzz1Zyyy4Zzzz1Zyyy5Zzzz1Zyyy1Zzzz3Zyyy7
    Zzzz1Zyyy340Zzzz2Zyyy292Zzzz2Zyyy50Sgnw652Zzzz15Sgnw5Zzzz1Sgnw15Zzzz1104Latn31Zzzz6Latn6Zzzz213
    Glag7Zzzz1Glag17Zzzz2Glag7Zzzz1Glag2Zzzz1Glag5Zzzz5Cyrl62Zzzz33Cyrl1Zzzz112Hmnp45Zzzz3Hmnp14
    Zzzz2Hmnp10Zzzz4Hmnp2Zzzz320Toto31Zzzz17Wcho58Zzzz5Wcho1Zzzz464Nagm42Zzzz214Onao43Zzzz4Onao1
    Zzzz480Ethi7Zzzz1Ethi4Zzzz1Ethi2Zzzz1Ethi15Zzzz1Mend197Zzzz2Mend16Zzzz41Adlm76Zzzz4Adlm10Zzzz4
    Adlm2Zzzz785Zyyy68Zzzz76Zyyy61Zzzz194Arab4Zzzz1Arab27Zzzz1Arab2Zzzz1Arab1Zzzz2Arab1Zzzz1Arab10
    Zzzz1Arab4Zzzz1Arab1Zzzz1Arab1Zzzz6Arab1Zzzz4Arab1Zzzz1Arab1Zzzz1Arab1Zzzz1Arab3Zzzz1Arab2Zzzz1
    Arab1Zzzz2Arab1Zzzz1Arab1Zzzz1Arab1Zzzz1Arab1Zzzz1Arab1Zzzz1Arab2Zzzz1Arab1Zzzz2Arab4Zzzz1Arab7
    Zzzz1Arab4Zzzz1Arab4Zzzz1Arab1Zzzz1Arab10Zzzz1Arab17Zzzz5Arab3Zzzz1Arab5Zzzz1Arab17Zzzz52Arab2
    Zzzz270Zyyy44Zzzz4Zyyy100Zzzz12Zyyy15Zzzz2Zyyy15Zzzz1Zyyy15Zzzz1Zyyy37Zzzz10Zyyy174Zzzz56Zyyy26
    Hira1Zyyy2Zzzz13Zyyy44Zzzz4Zyyy9Zzzz7Zyyy2Zzzz14Zyyy6Zzzz154Zyyy984Zzzz4Zyyy17Zzzz3Zyyy13Zzzz3
    Zyyy119Zzzz4Zyyy95Zzzz6Zyyy12Zzzz4Zyyy1Zzzz15Zyyy12Zzzz4Zyyy56Zzzz8Zyyy10Zzzz6Zyyy40Zzzz8Zyyy30
    Zzzz2Zyyy12Zzzz4Zyyy2Zzzz62Zyyy340Zzzz12Zyyy14Zzzz2Zyyy13Zzzz3Zyyy10Zzzz5Zyyy56Zzzz7Zyyy15Zzzz2
    Zyyy11Zzzz6Zyyy9Zzzz7Zyyy147Zzzz1Zyyy102Zzzz1030Hani42720Zzzz32Hani4154Zzzz6Hani222Zzzz2
    Hani5762Zzzz14Hani7473Zzzz15Hani622Zzzz2466Hani542Zzzz1506Hani4939Zzzz5Hani4192Zzzz711761Zyyy1
    Zzzz30Zyyy96Zzzz128Zinh240Zzzz196112"

/-- The four-letter scripts and the forms of their names, in lower case and without separators. -/
def scriptNames : List (String × List String) := [
  ("Adlm", ["adlm", "adlam"]),
  ("Aghb", ["aghb", "caucasianalbanian"]),
  ("Ahom", ["ahom"]),
  ("Arab", ["arab", "arabic"]),
  ("Armi", ["armi", "imperialaramaic"]),
  ("Armn", ["armn", "armenian"]),
  ("Avst", ["avst", "avestan"]),
  ("Bali", ["bali", "balinese"]),
  ("Bamu", ["bamu", "bamum"]),
  ("Bass", ["bass", "bassavah"]),
  ("Batk", ["batk", "batak"]),
  ("Beng", ["beng", "bengali"]),
  ("Bhks", ["bhks", "bhaiksuki"]),
  ("Bopo", ["bopo", "bopomofo"]),
  ("Brah", ["brah", "brahmi"]),
  ("Brai", ["brai", "braille"]),
  ("Bugi", ["bugi", "buginese"]),
  ("Buhd", ["buhd", "buhid"]),
  ("Cakm", ["cakm", "chakma"]),
  ("Cans", ["cans", "canadianaboriginal"]),
  ("Cari", ["cari", "carian"]),
  ("Cham", ["cham"]),
  ("Cher", ["cher", "cherokee"]),
  ("Chrs", ["chrs", "chorasmian"]),
  ("Copt", ["copt", "coptic", "qaac"]),
  ("Cpmn", ["cpmn", "cyprominoan"]),
  ("Cprt", ["cprt", "cypriot"]),
  ("Cyrl", ["cyrl", "cyrillic"]),
  ("Deva", ["deva", "devanagari"]),
  ("Diak", ["diak", "divesakuru"]),
  ("Dogr", ["dogr", "dogra"]),
  ("Dsrt", ["dsrt", "deseret"]),
  ("Dupl", ["dupl", "duployan"]),
  ("Egyp", ["egyp", "egyptianhieroglyphs"]),
  ("Elba", ["elba", "elbasan"]),
  ("Elym", ["elym", "elymaic"]),
  ("Ethi", ["ethi", "ethiopic"]),
  ("Gara", ["gara", "garay"]),
  ("Geor", ["geor", "georgian"]),
  ("Glag", ["glag", "glagolitic"]),
  ("Gong", ["gong", "gunjalagondi"]),
  ("Gonm", ["gonm", "masaramgondi"]),
  ("Goth", ["goth", "gothic"]),
  ("Gran", ["gran", "grantha"]),
  ("Grek", ["grek", "greek"]),
  ("Gujr", ["gujr", "gujarati"]),
  ("Gukh", ["gukh", "gurungkhema"]),
  ("Guru", ["guru", "gurmukhi"]),
  ("Hang", ["hang", "hangul"]),
  ("Hani", ["hani", "han"]),
  ("Hano", ["hano", "hanunoo"]),
  ("Hatr", ["hatr", "hatran"]),
  ("Hebr", ["hebr", "hebrew"]),
  ("Hira", ["hira", "hiragana"]),
  ("Hluw", ["hluw", "anatolianhieroglyphs"]),
  ("Hmng", ["hmng", "pahawhhmong"]),
  ("Hmnp", ["hmnp", "nyiakengpuachuehmong"]),
  ("Hung", ["hung", "oldhungarian"]),
  ("Ital", ["ital", "olditalic"]),
  ("Java", ["java", "javanese"]),
  ("Kali", ["kali", "kayahli"]),
  ("Kana", ["kana", "katakana"]),
  ("Kawi", ["kawi"]),
  ("Khar", ["khar", "kharoshthi"]),
  ("Khmr", ["khmr", "khmer"]),
  ("Khoj", ["khoj", "khojki"]),
  ("Kits", ["kits", "khitansmallscript"]),
  ("Knda", ["knda", "kannada"]),
  ("Krai", ["krai", "kiratrai"]),
  ("Kthi", ["kthi", "kaithi"]),
  ("Lana", ["lana", "taitham"]),
  ("Laoo", ["laoo", "lao"]),
  ("Latn", ["latn", "latin"]),
  ("Lepc", ["lepc", "lepcha"]),
  ("Limb", ["limb", "limbu"]),
  ("Lina", ["lina", "lineara"]),
  ("Linb", ["linb", "linearb"]),
  ("Lisu", ["lisu"]),
  ("Lyci", ["lyci", "lycian"]),
  ("Lydi", ["lydi", "lydian"]),
  ("Mahj", ["mahj", "mahajani"]),
  ("Maka", ["maka", "makasar"]),
  ("Mand", ["mand", "mandaic"]),
  ("Mani", ["mani", "manichaean"]),
  ("Marc", ["marc", "marchen"]),
  ("Medf", ["medf", "medefaidrin"]),
  ("Mend", ["mend", "mendekikakui"]),
  ("Merc", ["merc", "meroiticcursive"]),
  ("Mero", ["mero", "meroitichieroglyphs"]),
  ("Mlym", ["mlym", "malayalam"]),
  ("Modi", ["modi"]),
  ("Mong", ["mong", "mongolian"]),
  ("Mroo", ["mroo", "mro"]),
  ("Mtei", ["mtei", "meeteimayek"]),
  ("Mult", ["mult", "multani"]),
  ("Mymr", ["mymr", "myanmar"]),
  ("Nagm", ["nagm", "nagmundari"]),
  ("Nand", ["nand", "nandinagari"]),
  ("Narb", ["narb", "oldnortharabian"]),
  ("Nbat", ["nbat", "nabataean"]),
  ("Newa", ["newa"]),
  ("Nkoo", ["nkoo", "nko"]),
  ("Nshu", ["nshu", "nushu"]),
  ("Ogam", ["ogam", "ogham"]),
  ("Olck", ["olck", "olchiki"]),
  ("Onao", ["onao", "olonal"]),
  ("Orkh", ["orkh", "oldturkic"]),
  ("Orya", ["orya", "oriya"]),
  ("Osge", ["osge", "osage"]),
  ("Osma", ["osma", "osmanya"]),
  ("Ougr", ["ougr", "olduyghur"]),
  ("Palm", ["palm", "palmyrene"]),
  ("Pauc", ["pauc", "paucinhau"]),
  ("Perm", ["perm", "oldpermic"]),
  ("Phag", ["phag", "phagspa"]),
  ("Phli", ["phli", "inscriptionalpahlavi"]),
  ("Phlp", ["phlp", "psalterpahlavi"]),
  ("Phnx", ["phnx", "phoenician"]),
  ("Plrd", ["plrd", "miao"]),
  ("Prti", ["prti", "inscriptionalparthian"]),
  ("Rjng", ["rjng", "rejang"]),
  ("Rohg", ["rohg", "hanifirohingya"]),
  ("Runr", ["runr", "runic"]),
  ("Samr", ["samr", "samaritan"]),
  ("Sarb", ["sarb", "oldsoutharabian"]),
  ("Saur", ["saur", "saurashtra"]),
  ("Sgnw", ["sgnw", "signwriting"]),
  ("Shaw", ["shaw", "shavian"]),
  ("Shrd", ["shrd", "sharada"]),
  ("Sidd", ["sidd", "siddham"]),
  ("Sind", ["sind", "khudawadi"]),
  ("Sinh", ["sinh", "sinhala"]),
  ("Sogd", ["sogd", "sogdian"]),
  ("Sogo", ["sogo", "oldsogdian"]),
  ("Sora", ["sora", "sorasompeng"]),
  ("Soyo", ["soyo", "soyombo"]),
  ("Sund", ["sund", "sundanese"]),
  ("Sunu", ["sunu", "sunuwar"]),
  ("Sylo", ["sylo", "sylotinagri"]),
  ("Syrc", ["syrc", "syriac"]),
  ("Tagb", ["tagb", "tagbanwa"]),
  ("Takr", ["takr", "takri"]),
  ("Tale", ["tale", "taile"]),
  ("Talu", ["talu", "newtailue"]),
  ("Taml", ["taml", "tamil"]),
  ("Tang", ["tang", "tangut"]),
  ("Tavt", ["tavt", "taiviet"]),
  ("Telu", ["telu", "telugu"]),
  ("Tfng", ["tfng", "tifinagh"]),
  ("Tglg", ["tglg", "tagalog"]),
  ("Thaa", ["thaa", "thaana"]),
  ("Thai", ["thai"]),
  ("Tibt", ["tibt", "tibetan"]),
  ("Tirh", ["tirh", "tirhuta"]),
  ("Tnsa", ["tnsa", "tangsa"]),
  ("Todr", ["todr", "todhri"]),
  ("Toto", ["toto"]),
  ("Tutg", ["tutg", "tulutigalari"]),
  ("Ugar", ["ugar", "ugaritic"]),
  ("Vaii", ["vaii", "vai"]),
  ("Vith", ["vith", "vithkuqi"]),
  ("Wara", ["wara", "warangciti"]),
  ("Wcho", ["wcho", "wancho"]),
  ("Xpeo", ["xpeo", "oldpersian"]),
  ("Xsux", ["xsux", "cuneiform"]),
  ("Yezi", ["yezi", "yezidi"]),
  ("Yiii", ["yiii", "yi"]),
  ("Zanb", ["zanb", "zanabazarsquare"]),
  ("Zinh", ["zinh", "inherited", "qaai"]),
  ("Zyyy", ["zyyy", "common"])]

/-- The script that a name in normal form stands for. -/
def scriptNamed? (name : String) : Option String :=
  (scriptNames.find? fun (_, forms) => forms.contains name).map (·.1)

end Playback.Unicode
