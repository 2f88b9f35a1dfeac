import Playback.Unicode.Runs

/-!
# Script extensions

The scripts that each character is used in. A label is the four letters of each of them, one after
the other.
-/

namespace Playback.Unicode

/-- The runs of characters that are used in the same scripts. -/
def scriptExtensionTable : RunTable := .ofText
    "Zyyy65Latn26Zyyy6Latn26Zyyy47Latn1Zyyy12
    AvstCariCoptDuplElbaGeorGlagGongGothGrekHaniLatnLydiMahjPermShaw1Zyyy2Latn1Zyyy5Latn23Zyyy1
    Latn31Zyyy1Latn449Zyyy3BengCyrlDevaLatnLisuThaiToto1Zyyy10BopoLatn1Zyyy1BopoLatn3Zyyy1LatnLisu1
    Zyyy9LatnThai1Zyyy1BopoLatn1Zyyy6Latn5Zyyy5Bopo2Zyyy20CherCoptCyrlGrekLatnPermSunuTale1
    CherCyrlGrekLatnOsgeSunuTaleTodr1CherCyrlLatnTfng1GlagLatnSunuSyrcThai1
    AghbCherCoptCyrlGothGrekLatnOsgeSyrcTfngTodr1CoptElbaGlagGothKanaLatn1CyrlGrekLatnPermTfng1
    CoptDuplHebrLatnPermSyrcTaleTfngTodr1ArmnCyrlDuplGothGrekHebrLatnPermSyrcTaleTfng1LatnTfng1
    DuplLatnSyrc1CherCyrlLatnOsge1CherLatnTale1LatnSunu1EthiLatn1Zinh1LatnSunu1CyrlLatnTodr1Zinh1
    GrekLatnPermTodr1Zinh15CherDuplKanaLatnSyrcTfng1CherDuplLatnSyrc1LatnSyrc1Zinh7LatnSunuSyrc1
    LatnSyrc1Zinh1CherLatnSyrc1AghbCherGothLatnSunuSyrcThai1Zinh16Grek1Zinh2Grek1Zinh18LatnOsge1
    Zinh5AghbLatnTodr1Zinh4Latn13Grek4CoptGrek2Grek2Zzzz2Grek4Zyyy1Grek1Zzzz4Grek1Zyyy1Grek1Zyyy1
    Grek3Zzzz1Grek1Zzzz1Grek20Zzzz1Grek63Copt14Grek16Cyrl131CyrlPerm1CyrlGlag1CyrlLatn2CyrlGlag1
    Cyrl168Zzzz1Armn38Zzzz2Armn48ArmnGeorGlag1Armn1Zzzz2Armn3Zzzz1Hebr55Zzzz8Hebr27Zzzz4Hebr6Zzzz11
    Arab5Zyyy1Arab6ArabGaraNkooRohgSyrcThaaYezi1Arab14ArabGaraNkooRohgSyrcThaaYezi1ArabSyrcThaa1
    Arab2AdlmArabGaraNkooRohgSyrcThaaYezi1Arab32AdlmArabMandManiOugrPhlpRohgSogdSyrc1Arab10
    ArabSyrc11Arab10ArabThaaYezi10Arab6ArabSyrc1Arab99ArabRohg1Arab8Zyyy1Arab34Syrc14Zzzz1Syrc60
    Zzzz2Syrc3Arab48Thaa50Zzzz14Nkoo59Zzzz2Nkoo3Samr46Zzzz2Samr15Zzzz1Mand28Zzzz2Mand1Zzzz1Syrc11
    Zzzz5Arab31Zzzz1Arab2Zzzz5Arab75Zyyy1Arab29Deva81
    BengDevaGranGujrGuruKndaLatnMlymNandNewaOryaShrdTamlTeluTirh1
    BengDevaGranGujrGuruKndaLatnMlymNewaOryaTamlTeluTirh1Zinh2Deva15
    BengDevaDogrGongGonmGranGujrGuruKndaMahjMlymNandOnaoOryaSindSinhSyloTakrTamlTeluTirh1
    BengDevaDogrGongGonmGranGujrGukhGuruKndaLimbMahjMlymNandOnaoOryaSindSinhSyloTakrTamlTeluTirh1
    DevaDogrKthiMahj10Deva16Beng4Zzzz1Beng8Zzzz2Beng2Zzzz2Beng22Zzzz1Beng7Zzzz1Beng1Zzzz3Beng4Zzzz2
    Beng9Zzzz2Beng2Zzzz2Beng4Zzzz8Beng1Zzzz4Beng2Zzzz1Beng5Zzzz2BengCakmSylo10Beng15Zzzz2Guru3Zzzz1
    Guru6Zzzz4Guru2Zzzz2Guru22Zzzz1Guru7Zzzz1Guru2Zzzz1Guru2Zzzz1Guru2Zzzz2Guru1Zzzz1Guru5Zzzz4
    Guru2Zzzz2Guru3Zzzz3Guru1Zzzz7Guru4Zzzz1Guru1Zzzz7GuruMult10Guru7Zzzz10Gujr3Zzzz1Gujr9Zzzz1
    Gujr3Zzzz1Gujr22Zzzz1Gujr7Zzzz1Gujr2Zzzz1Gujr5Zzzz2Gujr10Zzzz1Gujr3Zzzz1Gujr3Zzzz2Gujr1Zzzz15
    Gujr4Zzzz2GujrKhoj10Gujr2Zzzz7Gujr7Zzzz1Orya3Zzzz1Orya8Zzzz2Orya2Zzzz2Orya22Zzzz1Orya7Zzzz1
    Orya2Zzzz1Orya5Zzzz2Orya9Zzzz2Orya2Zzzz2Orya3Zzzz7Orya3Zzzz4Orya2Zzzz1Orya5Zzzz2Orya18Zzzz10
    Taml2Zzzz1Taml6Zzzz3Taml3Zzzz1Taml4Zzzz3Taml2Zzzz1Taml1Zzzz1Taml2Zzzz3Taml2Zzzz3Taml3Zzzz3
    Taml12Zzzz4Taml5Zzzz3Taml3Zzzz1Taml4Zzzz2Taml1Zzzz6Taml1Zzzz14GranTaml14Taml7Zzzz5Telu13Zzzz1
    Telu3Zzzz1Telu23Zzzz1Telu16Zzzz2Telu9Zzzz1Telu3Zzzz1Telu4Zzzz7Telu2Zzzz1Telu3Zzzz2Telu1Zzzz2
    Telu4Zzzz2Telu10Zzzz7Telu9Knda13Zzzz1Knda3Zzzz1Knda23Zzzz1Knda10Zzzz1Knda5Zzzz2Knda9Zzzz1Knda3
    Zzzz1Knda4Zzzz7Knda2Zzzz6Knda2Zzzz1Knda4Zzzz2KndaNandTutg10Zzzz1Knda3Zzzz12Mlym13Zzzz1Mlym3
    Zzzz1Mlym51Zzzz1Mlym3Zzzz1Mlym6Zzzz4Mlym16Zzzz2Mlym26Zzzz1Sinh3Zzzz1Sinh18Zzzz3Sinh24Zzzz1Sinh9
    Zzzz1Sinh1Zzzz2Sinh7Zzzz3Sinh1Zzzz4Sinh6Zzzz1Sinh1Zzzz1Sinh8Zzzz6Sinh10Zzzz2Sinh3Zzzz12Thai58
    Zzzz4Zyyy1Thai28Zzzz37Laoo2Zzzz1Laoo1Zzzz1Laoo5Zzzz1Laoo24Zzzz1Laoo1Zzzz1Laoo23Zzzz2Laoo5Zzzz1
    Laoo1Zzzz1Laoo7Zzzz1Laoo10Zzzz2Laoo4Zzzz32Tibt72Zzzz1Tibt36Zzzz4Tibt39Zzzz1Tibt36Zzzz1Tibt15
    Zzzz1Tibt7Zyyy4Tibt2Zzzz37Mymr64CakmMymrTale10Mymr86Geor38Zzzz1Geor1Zzzz5Geor1Zzzz2Geor43
    GeorGlagLatn1Geor4Hang256Ethi73Zzzz1Ethi4Zzzz2Ethi7Zzzz1Ethi1Zzzz1Ethi4Zzzz2Ethi41Zzzz1Ethi4
    Zzzz2Ethi33Zzzz1Ethi4Zzzz2Ethi7Zzzz1Ethi1Zzzz1Ethi4Zzzz2Ethi15Zzzz1Ethi57Zzzz1Ethi4Zzzz2Ethi67
    Zzzz2Ethi32Zzzz3Ethi26Zzzz6Cher86Zzzz2Cher6Zzzz2Cans640Ogam29Zzzz3Runr89Zzzz7Tglg22Zzzz9Tglg1
    Hano21BuhdHanoTagbTglg2Zzzz9Buhd20Zzzz12Tagb13Zzzz1Tagb3Zzzz1Tagb2Zzzz12Khmr94Zzzz2Khmr10Zzzz6
    Khmr10Zzzz6Mong2MongPhag2Mong1MongPhag1Mong20Zzzz6Mong89Zzzz7Mong43Zzzz5Cans70Zzzz10Limb31Zzzz1
    Limb12Zzzz4Limb12Zzzz4Limb1Zzzz3Limb12Tale30Zzzz2Tale5Zzzz11Talu44Zzzz4Talu26Zzzz6Talu11Zzzz3
    Talu2Khmr32Bugi28Zzzz2Bugi2Lana63Zzzz1Lana29Zzzz2Lana11Zzzz6Lana10Zzzz6Lana14Zzzz2Zinh31Zzzz49
    Bali77Zzzz1Bali50Sund64Batk52Zzzz8Batk4Lepc56Zzzz3Lepc15Zzzz3Lepc3Olck48Cyrl11Zzzz5Geor43Zzzz2
    Geor3Sund8Zzzz8BengDevaGranKnda1Deva1BengDevaGranKnda1DevaGranKnda1Deva1BengDevaNewaTeluTirh1
    BengDevaTelu1DevaNewaShrd1BengDevaNewaTelu1DevaShrd1DevaKndaMlymOryaTamlTelu1Deva1DevaShrd2
    Deva2DevaShrd1BengDeva1DevaNewaTirh1Deva6DevaNandNewa1BengDevaShrd1DevaNewa1Deva1
    BengDevaNewaShrd1Deva4BengDevaGranKndaMlymNandOryaSinhTeluTirhTutg1DevaGran1DevaGranKndaTutg1
    BengDeva2Beng1DevaGran2Nand1Zzzz5Latn38Grek5Cyrl1Latn49Grek5Latn4Grek5Latn13Cyrl1Latn70Grek3
    Zinh54CyrlLatnSyrc1Zinh1Syrc1Zinh5Latn256Grek22Zzzz2Grek6Zzzz2Grek38Zzzz2Grek6Zzzz2Grek8Zzzz1
    Grek1Zzzz1Grek1Zzzz1Grek1Zzzz1Grek31Zzzz2Grek53Zzzz1Grek15Zzzz1Grek14Zzzz2Grek6Zzzz1Grek19Zzzz2
    Grek3Zzzz1Grek9Zzzz1Zyyy12Zinh2Zyyy33LatnMongPhag1Zyyy31AdlmArab1Zyyy10
    CariGeorGlagHungLyciOrkh1Zyyy2CariGrekHungMero1Zyyy7Zzzz1Zyyy11Latn1Zzzz2Zyyy11Latn1Zyyy15Zzzz1
    Latn13Zzzz3Zyyy33Zzzz15Zinh32DevaGranLatn1Zzzz15Zyyy38Grek1Zyyy3Latn2Zyyy6Latn1Zyyy27Latn1
    Zyyy17Latn41Zyyy3Zzzz4Zyyy666Zzzz22Zyyy11Zzzz21Zyyy928Brai256Zyyy628Zzzz2Zyyy32Zzzz1Zyyy105
    Glag96Latn32Copt116Zzzz5Copt7Geor38Zzzz1Geor1Zzzz5Geor1Zzzz2Tfng56Zzzz7Tfng2Zzzz14Tfng1Ethi23
    Zzzz9Ethi7Zzzz1Ethi7Zzzz1Ethi7Zzzz1Ethi7Zzzz1Ethi7Zzzz1Ethi7Zzzz1Ethi7Zzzz1Ethi7Zzzz1Cyrl32
    Zyyy23CoptLatn1Zyyy24AvstOrkh1AvstCariGeorHungKthiLydiSamr1Zyyy10Dupl1Zyyy4AdlmArabHung1Zyyy1
    CyrlGlag1Zyyy26Zzzz34Hani26Zzzz1Hani89Zzzz12Hani214Zzzz26HaniTang16Zyyy1
    BopoHangHaniHiraKanaMongYiii1BopoHangHaniHiraKanaMongPhagYiii1BopoHangHaniHiraKana1Zyyy1Hani3
    BopoHangHaniHiraKanaMongTibtYiii2BopoHangHaniHiraKanaLisuMongTibtYiii2BopoHangHaniHiraKanaYiii6
    Zyyy1BopoHangHaniHiraKana1BopoHangHaniHiraKanaYiii8BopoHangHaniHiraKana4Zyyy1Hani9BopoHani4
    Hang2BopoHangHaniHiraKana1HiraKana5Zyyy1BopoHangHaniHiraKana1Hani4HaniHiraKana2Hani2Zzzz1Hira86
    Zzzz2HiraKana4Hira3HiraKana1Kana90BopoHangHaniHiraKanaYiii1HiraKana1Kana3Zzzz5Bopo43Zzzz1Hang94
    Zzzz1Hani16Bopo32Hani38Zzzz9HaniTang1Kana16Hang31Zzzz1Hani40Zyyy24Hang31Zyyy1Hani49Zyyy15Hani12
    Zyyy4Kana47Hani1Kana88Hani25Zyyy10Hani5Zyyy96Hani31Zyyy1Hani6592Zyyy64Hani20992Yiii1165Zzzz3
    Yiii55Zzzz9Lisu48Vaii300Zzzz20Cyrl47CyrlGlag1Cyrl48Bamu88Zzzz8HaniLatn8Zyyy26Latn102Zyyy3Latn67
    Zzzz2Latn2Zzzz1Latn1Zzzz1Latn8Zzzz21Latn14Sylo45Zzzz3
    DevaDogrGujrGuruKhojKndaKthiMahjMlymModiNandShrdSindTakrTirhTutg3
    DevaDogrGujrGuruKhojKndaKthiMahjModiNandShrdSindTakrTirhTutg3
    DevaDogrGujrGuruKhojKthiMahjModiSindTakrTirh2DevaDogrGujrGuruKhojKthiMahjModiShrdSindTakrTirh1
    DevaDogrGujrGuruKhojKthiMahjModiSindTakrTirh1Zzzz6Phag56Zzzz8Saur70Zzzz8Saur12Zzzz6Deva17
    BengDevaTutg1Deva1DevaTaml1Deva12Kali46KaliLatnMymr1Kali1Rjng36Zzzz11Rjng1Hang29Zzzz3Java78
    Zzzz1BugiJava1Java10Zzzz4Java2Mymr31Zzzz1Cham55Zzzz9Cham14Zzzz2Cham10Zzzz2Cham4Mymr32Tavt67
    Zzzz24Tavt5Mtei23Zzzz10Ethi6Zzzz2Ethi6Zzzz2Ethi6Zzzz9Ethi7Zzzz1Ethi7Zzzz1Latn43Zyyy1Latn9Grek1
    Latn4Zyyy2Zzzz4Cher80Mtei46Zzzz2Mtei10Zzzz6Hang11172Zzzz12Hang23Zzzz4Hang49Zzzz8452Hani366Zzzz2
    Hani106Zzzz38Latn7Zzzz12Armn5Zzzz5Hebr26Zzzz1Hebr5Zzzz1Hebr1Zzzz1Hebr2Zzzz1Hebr2Zzzz1Hebr10
    Arab115Zzzz16Arab363ArabNkoo2Arab80Zzzz2Arab54Zzzz7Arab1Zzzz32Arab2ArabThaa1Arab10ArabThaa1
    Arab2Zinh16Zyyy10Zzzz6Zinh14Cyrl2Zyyy21BopoHangHaniHiraKana2Zyyy12Zzzz1Zyyy19Zzzz1Zyyy4Zzzz4
    Arab5Zzzz1Arab135Zzzz2Zyyy1Zzzz1Zyyy32Latn26Zyyy6Latn26Zyyy6BopoHangHaniHiraKanaYiii5Kana10
    HiraKana1Kana45HiraKana2Hang31Zzzz3Hang6Zzzz2Hang6Zzzz2Hang6Zzzz2Hang3Zzzz3Zyyy7Zzzz1Zyyy7
    Zzzz10Zyyy5Zzzz2Linb12Zzzz1Linb26Zzzz1Linb19Zzzz1Linb2Zzzz1Linb15Zzzz2Linb14Zzzz34Linb123Zzzz5
    CpmnCprtLinb2CprtLinb1Zzzz4CprtLinaLinb45Zzzz3CprtLinb9Grek79Zzzz1Zyyy13Zzzz3Grek1Zzzz47Zyyy45
    Zinh1Zzzz130Lyci29Zzzz3Cari49Zzzz15ArabCopt28Zzzz4Ital36Zzzz9Ital3Goth27Zzzz5Perm43Zzzz5Ugar30
    Zzzz1Ugar1Xpeo36Zzzz4Xpeo14Zzzz42Dsrt80Shaw48Osma30Zzzz2Osma10Zzzz6Osge36Zzzz4Osge36Zzzz4Elba40
    Zzzz8Aghb52Zzzz11Aghb1Vith11Zzzz1Vith15Zzzz1Vith7Zzzz1Vith2Zzzz1Vith11Zzzz1Vith15Zzzz1Vith7
    Zzzz1Vith2Zzzz3Todr52Zzzz12Lina311Zzzz9Lina22Zzzz10Lina8Zzzz24Latn6Zzzz1Latn42Zzzz1Latn9Zzzz69
    Cprt6Zzzz2Cprt1Zzzz1Cprt44Zzzz1Cprt2Zzzz3Cprt1Zzzz2Cprt1Armi22Zzzz1Armi9Palm32Nbat31Zzzz8Nbat9
    Zzzz48Hatr19Zzzz1Hatr2Zzzz5Hatr5Phnx28Zzzz3Phnx1Lydi26Zzzz5Lydi1Zzzz64Mero32Merc24Zzzz4Merc20
    Zzzz2Merc46Khar4Zzzz1Khar2Zzzz5Khar8Zzzz1Khar3Zzzz1Khar29Zzzz2Khar3Zzzz4Khar10Zzzz7Khar9Zzzz7
    Sarb32Narb32Zzzz32Mani39Zzzz4Mani7ManiOugr1Mani4Zzzz9Avst54Zzzz3Avst7Prti22Zzzz2Prti8Phli19
    Zzzz5Phli8Phlp18Zzzz7Phlp4Zzzz12Phlp7Zzzz80Orkh73Zzzz55Hung51Zzzz13Hung51Zzzz7Hung6Rohg40Zzzz8
    Rohg10Zzzz6Gara38Zzzz3Gara29Zzzz8Gara2Zzzz208Arab31Zzzz1Yezi42Zzzz1Yezi3Zzzz2Yezi2Zzzz16Arab3
    Zzzz55Arab4Sogo40Zzzz8Sogd42Zzzz22Ougr26Zzzz38Chrs28Zzzz20Elym23Zzzz9Brah78Zzzz4Brah36Zzzz9
    Brah1Kthi67Zzzz10Kthi1Zzzz2Sora25Zzzz7Sora10Zzzz6Cakm53Zzzz1Cakm18Zzzz8Mahj39Zzzz9Shrd96Zzzz1
    Sinh20Zzzz11Khoj18Zzzz1Khoj47Zzzz62Mult7Zzzz1Mult1Zzzz1Mult4Zzzz1Mult15Zzzz1Mult11Zzzz6Sind59
    Zzzz5Sind10Zzzz6Gran1GranTaml1Gran1GranTaml1Zzzz1Gran8Zzzz2Gran2Zzzz2Gran22Zzzz1Gran7Zzzz1Gran2
    Zzzz1Gran5Zzzz1GranTaml2Gran8Zzzz2Gran2Zzzz2Gran3Zzzz2Gran1Zzzz6Gran1Zzzz5Gran7Zzzz2Gran7Zzzz3
    Gran5Zzzz11Tutg10Zzzz1Tutg1Zzzz2Tutg1Zzzz1Tutg38Zzzz1Tutg10Zzzz1Tutg1Zzzz2Tutg1Zzzz1Tutg4Zzzz1
    Tutg10Zzzz1Tutg2Zzzz8Tutg2Zzzz29Newa92Zzzz1Newa5Zzzz30Tirh72Zzzz8Tirh10Zzzz166Sidd54Zzzz2Sidd38
    Zzzz34Modi69Zzzz11Modi10Zzzz6Mong13Zzzz19Takr58Zzzz6Takr10Zzzz6Mymr20Zzzz28Ahom27Zzzz2Ahom15
    Zzzz4Ahom23Zzzz185Dogr60Zzzz100Wara83Zzzz12Wara1Diak7Zzzz2Diak1Zzzz2Diak8Zzzz1Diak2Zzzz1Diak30
    Zzzz1Diak2Zzzz2Diak12Zzzz9Diak10Zzzz70Nand8Zzzz2Nand46Zzzz2Nand11Zzzz27Zanb72Zzzz8Soyo83Zzzz13
    Cans16Pauc57Zzzz7Deva10Zzzz182Sunu34Zzzz14Sunu10Zzzz6Bhks9Zzzz1Bhks45Zzzz1Bhks14Zzzz10Bhks29
    Zzzz3Marc32Zzzz2Marc22Zzzz1Marc14Zzzz73Gonm7Zzzz1Gonm2Zzzz1Gonm44Zzzz3Gonm1Zzzz1Gonm2Zzzz1Gonm9
    Zzzz8Gonm10Zzzz6Gong6Zzzz1Gong2Zzzz1Gong37Zzzz1Gong2Zzzz1Gong6Zzzz7Gong10Zzzz310Maka25Zzzz7
    Kawi17Zzzz1Kawi41Zzzz3Kawi29Zzzz85Lisu1Zzzz15Taml16GranTaml2Taml1GranTaml1Taml30Zzzz13Taml1
    Xsux922Zzzz102Xsux111Zzzz1Xsux5Zzzz11Xsux196Zzzz2636Cpmn99Zzzz13Egyp1110Zzzz10Egyp3995Zzzz5
    Hluw583Zzzz6841Gukh58Zzzz1734Bamu569Zzzz7Mroo31Zzzz1Mroo10Zzzz4Mroo2Tnsa79Zzzz1Tnsa10Zzzz6
    Bass30Zzzz2Bass6Zzzz10Hmng70Zzzz10Hmng10Zzzz1Hmng7Zzzz1Hmng21Zzzz5Hmng19Zzzz432Krai58Zzzz198
    Medf91Zzzz101Plrd75Zzzz4Plrd57Zzzz7Plrd17Zzzz64Tang1Nshu1Hani2Kits1Zzzz11Hani2Zzzz14Tang6136
    Zzzz8Tang768Kits470Zzzz41Kits1Tang9Zzzz8935Kana4Zzzz1Kana7Zzzz1Kana2Zzzz1Kana1Hira287Kana3
    Zzzz15Hira1Zzzz29Hira3Zzzz2Kana1Zzzz14Kana4Zzzz8Nshu396Zzzz2308Dupl107Zzzz5Dupl13Zzzz3Dupl9
    Zzzz7Dupl10Zzzz2Dupl8Zzzz3932Zyyy250Zzzz6Zyyy436Zzzz76Zinh46Zzzz2Zinh23Zzzz9Zyyy116Zzzz60
    Zyyy246Zzzz10Zyyy39Zzzz2Zyyy62Zinh3Zyyy17Zinh8Zyyy2Zinh7Zyyy30Zinh4Zyyy61Zzzz21Grek70Zzzz122
    Zyyy20Zzzz12Zyyy20Zzzz12Zyyy87Zzzz9Hani18Zyyy7Zzzz135Zyyy85Zzzz1Zyyy71Zzzz1Zyyy2Zzzz2Zyyy1Zzzz2
    Zyyy2Zzzz2Zyyy4Zzzz1Zyyy12Zzzz1Zyyy1Zzzz1Zyyy7Zzzz1Zyyy65Zzzz1Zyyy4Zzzz2Zyyy8Zzzz1Zyyy7Zzzz1
    Zyyy28Zzzz1Zyyy4Zzzz1Zyyy5Zzzz1Zyyy1Zzzz3Zyyy7Zzzz1Zyyy340Zzzz2Zyyy292Zzzz2Zyyy50Sgnw652Zzzz15
    Sgnw5Zzzz1Sgnw15Zzzz1104Latn31Zzzz6Latn6Zzzz213Glag7Zzzz1Glag17Zzzz2Glag7Zzzz1Glag2Zzzz1Glag5
    Zzzz5Cyrl62Zzzz33Cyrl1Zzzz112Hmnp45Zzzz3Hmnp14Zzzz2Hmnp10Zzzz4Hmnp2Zzzz320Toto31Zzzz17Wcho58
    Zzzz5Wcho1Zzzz464Nagm42Zzzz214Onao43Zzzz4Onao1Zzzz480Ethi7Zzzz1Ethi4Zzzz1Ethi2Zzzz1Ethi15Zzzz1
    Mend197Zzzz2Mend16Zzzz41Adlm76Zzzz4Adlm10Zzzz4Adlm2Zzzz785Zyyy68Zzzz76Zyyy61Zzzz194Arab4Zzzz1
    Arab27Zzzz1Arab2Zzzz1Arab1Zzzz2Arab1Zzzz1Arab10Zzzz1Arab4Zzzz1Arab1Zzzz1Arab1Zzzz6Arab1Zzzz4
    Arab1Zzzz1Arab1Zzzz1Arab1Zzzz1Arab3Zzzz1Arab2Zzzz1Arab1Zzzz2Arab1Zzzz1Arab1Zzzz1Arab1Zzzz1Arab1
    Zzzz1Arab1Zzzz1Arab2Zzzz1Arab1Zzzz2Arab4Zzzz1Arab7Zzzz1Arab4Zzzz1Arab4Zzzz1Arab1Zzzz1Arab10
    Zzzz1Arab17Zzzz5Arab3Zzzz1Arab5Zzzz1Arab17Zzzz52Arab2Zzzz270Zyyy44Zzzz4Zyyy100Zzzz12Zyyy15Zzzz2
    Zyyy15Zzzz1Zyyy15Zzzz1Zyyy37Zzzz10Zyyy174Zzzz56Zyyy26Hira1Zyyy2Zzzz13Zyyy44Zzzz4Zyyy9Zzzz7Hani2
    Zzzz14Zyyy6Zzzz154Zyyy984Zzzz4Zyyy17Zzzz3Zyyy13Zzzz3Zyyy119Zzzz4Zyyy95Zzzz6Zyyy12Zzzz4Zyyy1
    Zzzz15Zyyy12Zzzz4Zyyy56Zzzz8Zyyy10Zzzz6Zyyy40Zzzz8Zyyy30Zzzz2Zyyy12Zzzz4Zyyy2Zzzz62Zyyy340
    Zzzz12Zyyy14Zzzz2Zyyy13Zzzz3Zyyy10Zzzz5Zyyy56Zzzz7Zyyy15Zzzz2Zyyy11Zzzz6Zyyy9Zzzz7Zyyy147Zzzz1
    Zyyy102Zzzz1030Hani42720Zzzz32Hani4154Zzzz6Hani222Zzzz2Hani5762Zzzz14Hani7473Zzzz15Hani622
    Zzzz2466Hani542Zzzz1506Hani4939Zzzz5Hani4192Zzzz711761Zyyy1Zzzz30Zyyy96Zzzz128Zinh240Zzzz196112"

end Playback.Unicode
