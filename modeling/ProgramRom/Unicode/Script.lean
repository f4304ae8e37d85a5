import ProgramRom.Unicode.Age

/-! # Scripts

Every character has one script, and some are used with further ones. Scripts are written as four letters. -/

namespace ProgramRom.Unicode

/-- The scripts of all codes, `Zzzz` for those that have none. -/
def scriptTable : List String :=
  ["Zyyy65Latn26Zyyy6Latn26Zyyy47LatnZyyy15LatnZyyy5Latn23ZyyyLatn31ZyyyLatn449Zyyy39Latn5Zyyy5Bopo2Zyyy20",
   "Zinh112Grek4ZyyyGrek3Zzzz2Grek4ZyyyGrekZzzz4GrekZyyyGrekZyyyGrek3ZzzzGrekZzzzGrek20ZzzzGrek63Copt14",
   "Grek16Cyrl133Zinh2Cyrl169ZzzzArmn38Zzzz2Armn50Zzzz2Armn3ZzzzHebr55Zzzz8Hebr27Zzzz4Hebr6Zzzz11Arab5Zyyy",
   "Arab6ZyyyArab14ZyyyArab3ZyyyArab32ZyyyArab10Zinh11Arab26ZinhArab108ZyyyArab34Syrc14ZzzzSyrc60Zzzz2Syrc3",
   "Arab48Thaa50Zzzz14Nkoo59Zzzz2Nkoo3Samr46Zzzz2Samr15ZzzzMand28Zzzz2MandZzzzSyrc11Zzzz5Arab34Zzzz5Arab75",
   "ZyyyArab29Deva81Zinh4Deva15Zyyy2Deva26Beng4ZzzzBeng8Zzzz2Beng2Zzzz2Beng22ZzzzBeng7ZzzzBengZzzz3Beng4",
   "Zzzz2Beng9Zzzz2Beng2Zzzz2Beng4Zzzz8BengZzzz4Beng2ZzzzBeng5Zzzz2Beng25Zzzz2Guru3ZzzzGuru6Zzzz4Guru2Zzzz2",
   "Guru22ZzzzGuru7ZzzzGuru2ZzzzGuru2ZzzzGuru2Zzzz2GuruZzzzGuru5Zzzz4Guru2Zzzz2Guru3Zzzz3GuruZzzz7Guru4Zzzz",
   "GuruZzzz7Guru17Zzzz10Gujr3ZzzzGujr9ZzzzGujr3ZzzzGujr22ZzzzGujr7ZzzzGujr2ZzzzGujr5Zzzz2Gujr10ZzzzGujr3",
   "ZzzzGujr3Zzzz2GujrZzzz15Gujr4Zzzz2Gujr12Zzzz7Gujr7ZzzzOrya3ZzzzOrya8Zzzz2Orya2Zzzz2Orya22ZzzzOrya7Zzzz",
   "Orya2ZzzzOrya5Zzzz2Orya9Zzzz2Orya2Zzzz2Orya3Zzzz7Orya3Zzzz4Orya2ZzzzOrya5Zzzz2Orya18Zzzz10Taml2ZzzzTaml6",
   "Zzzz3Taml3ZzzzTaml4Zzzz3Taml2ZzzzTamlZzzzTaml2Zzzz3Taml2Zzzz3Taml3Zzzz3Taml12Zzzz4Taml5Zzzz3Taml3Zzzz",
   "Taml4Zzzz2TamlZzzz6TamlZzzz14Taml21Zzzz5Telu13ZzzzTelu3ZzzzTelu23ZzzzTelu16Zzzz2Telu9ZzzzTelu3ZzzzTelu4",
   "Zzzz7Telu2ZzzzTelu3ZzzzTelu2Zzzz2Telu4Zzzz2Telu10Zzzz7Telu9Knda13ZzzzKnda3ZzzzKnda23ZzzzKnda10ZzzzKnda5",
   "Zzzz2Knda9ZzzzKnda3ZzzzKnda4Zzzz7Knda2Zzzz5Knda3ZzzzKnda4Zzzz2Knda10ZzzzKnda3Zzzz12Mlym13ZzzzMlym3Zzzz",
   "Mlym51ZzzzMlym3ZzzzMlym6Zzzz4Mlym16Zzzz2Mlym26ZzzzSinh3ZzzzSinh18Zzzz3Sinh24ZzzzSinh9ZzzzSinhZzzz2Sinh7",
   "Zzzz3SinhZzzz4Sinh6ZzzzSinhZzzzSinh8Zzzz6Sinh10Zzzz2Sinh3Zzzz12Thai58Zzzz4ZyyyThai28Zzzz37Laoo2ZzzzLaoo",
   "ZzzzLaoo5ZzzzLaoo24ZzzzLaooZzzzLaoo23Zzzz2Laoo5ZzzzLaooZzzzLaoo7ZzzzLaoo10Zzzz2Laoo4Zzzz32Tibt72Zzzz",
   "Tibt36Zzzz4Tibt39ZzzzTibt36ZzzzTibt15ZzzzTibt7Zyyy4Tibt2Zzzz37Mymr160Geor38ZzzzGeorZzzz5GeorZzzz2Geor43",
   "ZyyyGeor4Hang256Ethi73ZzzzEthi4Zzzz2Ethi7ZzzzEthiZzzzEthi4Zzzz2Ethi41ZzzzEthi4Zzzz2Ethi33ZzzzEthi4Zzzz2",
   "Ethi7ZzzzEthiZzzzEthi4Zzzz2Ethi15ZzzzEthi57ZzzzEthi4Zzzz2Ethi67Zzzz2Ethi32Zzzz3Ethi26Zzzz6Cher86Zzzz2",
   "Cher6Zzzz2Cans640Ogam29Zzzz3Runr75Zyyy3Runr11Zzzz7Tglg22Zzzz9TglgHano21Zyyy2Zzzz9Buhd20Zzzz12Tagb13Zzzz",
   "Tagb3ZzzzTagb2Zzzz12Khmr94Zzzz2Khmr10Zzzz6Khmr10Zzzz6Mong2Zyyy2MongZyyyMong20Zzzz6Mong89Zzzz7Mong43Zzzz5",
   "Cans70Zzzz10Limb31ZzzzLimb12Zzzz4Limb12Zzzz4LimbZzzz3Limb12Tale30Zzzz2Tale5Zzzz11Talu44Zzzz4Talu26Zzzz6",
   "Talu11Zzzz3Talu2Khmr32Bugi28Zzzz2Bugi2Lana63ZzzzLana29Zzzz2Lana11Zzzz6Lana10Zzzz6Lana14Zzzz2Zinh46Zzzz2",
   "Zinh12Zzzz20Bali77ZzzzBali50Sund64Batk52Zzzz8Batk4Lepc56Zzzz3Lepc15Zzzz3Lepc3Olck48Cyrl11Zzzz5Geor43",
   "Zzzz2Geor3Sund8Zzzz8Zinh3ZyyyZinh13ZyyyZinh7Zyyy4ZinhZyyy6ZinhZyyy3Zinh2ZyyyZzzz5Latn38Grek5CyrlLatn49",
   "Grek5Latn4Grek5Latn13CyrlLatn70GrekZinh64Latn256Grek22Zzzz2Grek6Zzzz2Grek38Zzzz2Grek6Zzzz2Grek8ZzzzGrek",
   "ZzzzGrekZzzzGrekZzzzGrek31Zzzz2Grek53ZzzzGrek15ZzzzGrek14Zzzz2Grek6ZzzzGrek19Zzzz2Grek3ZzzzGrek9Zzzz",
   "Zyyy12Zinh2Zyyy87ZzzzZyyy11LatnZzzz2Zyyy11LatnZyyy15ZzzzLatn13Zzzz3Zyyy34Zzzz14Zinh33Zzzz15Zyyy38Grek",
   "Zyyy3Latn2Zyyy6LatnZyyy27LatnZyyy17Latn41Zyyy3Zzzz4Zyyy666Zzzz22Zyyy11Zzzz21Zyyy928Brai256Zyyy628Zzzz2",
   "Zyyy138Glag96Latn32Copt116Zzzz5Copt7Geor38ZzzzGeorZzzz5GeorZzzz2Tfng56Zzzz7Tfng2Zzzz14TfngEthi23Zzzz9",
   "Ethi7ZzzzEthi7ZzzzEthi7ZzzzEthi7ZzzzEthi7ZzzzEthi7ZzzzEthi7ZzzzEthi7ZzzzCyrl32Zyyy94Zzzz34Hani26Zzzz",
   "Hani89Zzzz12Hani214Zzzz26Zyyy21HaniZyyyHaniZyyy25Hani9Zinh4Hang2Zyyy8Hani4Zyyy4ZzzzHira86Zzzz2Zinh2Zyyy2",
   "Hira3ZyyyKana90Zyyy2Kana3Zzzz5Bopo43ZzzzHang94ZzzzZyyy16Bopo32Zyyy38Zzzz9ZyyyKana16Hang31ZzzzZyyy64",
   "Hang31Zyyy81Kana47ZyyyKana88Zyyy168Hani6592Zyyy64Hani20992Yiii1165Zzzz3Yiii55Zzzz9Lisu48Vaii300Zzzz20",
   "Cyrl96Bamu88Zzzz8Zyyy34Latn102Zyyy3Latn82Zzzz20Latn15Sylo45Zzzz3Zyyy10Zzzz6Phag56Zzzz8Saur70Zzzz8Saur12",
   "Zzzz6Deva32Kali46ZyyyKaliRjng36Zzzz11RjngHang29Zzzz3Java78ZzzzZyyyJava10Zzzz4Java2Mymr31ZzzzCham55Zzzz9",
   "Cham14Zzzz2Cham10Zzzz2Cham4Mymr32Tavt67Zzzz24Tavt5Mtei23Zzzz10Ethi6Zzzz2Ethi6Zzzz2Ethi6Zzzz9Ethi7Zzzz",
   "Ethi7ZzzzLatn43ZyyyLatn9GrekLatn4Zyyy2Zzzz4Cher80Mtei46Zzzz2Mtei10Zzzz6Hang11172Zzzz12Hang23Zzzz4Hang49",
   "Zzzz8452Hani366Zzzz2Hani106Zzzz38Latn7Zzzz12Armn5Zzzz5Hebr26ZzzzHebr5ZzzzHebrZzzzHebr2ZzzzHebr2Zzzz",
   "Hebr10Arab494Zyyy2Arab144Zzzz32Arab16Zinh16Zyyy10Zzzz6Zinh14Cyrl2Zyyy35ZzzzZyyy19ZzzzZyyy4Zzzz4Arab5Zzzz",
   "Arab135Zzzz2ZyyyZzzzZyyy32Latn26Zyyy6Latn26Zyyy11Kana10ZyyyKana45Zyyy2Hang31Zzzz3Hang6Zzzz2Hang6Zzzz2",
   "Hang6Zzzz2Hang3Zzzz3Zyyy7ZzzzZyyy7Zzzz10Zyyy5Zzzz2Linb12ZzzzLinb26ZzzzLinb19ZzzzLinb2ZzzzLinb15Zzzz2",
   "Linb14Zzzz34Linb123Zzzz5Zyyy3Zzzz4Zyyy45Zzzz3Zyyy9Grek79ZzzzZyyy13Zzzz3GrekZzzz47Zyyy45ZinhZzzz130Lyci29",
   "Zzzz3Cari49Zzzz15ZinhZyyy27Zzzz4Ital36Zzzz9Ital3Goth27Zzzz5Perm43Zzzz5Ugar30ZzzzUgarXpeo36Zzzz4Xpeo14",
   "Zzzz42Dsrt80Shaw48Osma30Zzzz2Osma10Zzzz6Osge36Zzzz4Osge36Zzzz4Elba40Zzzz8Aghb52Zzzz11AghbVith11Zzzz",
   "Vith15ZzzzVith7ZzzzVith2ZzzzVith11ZzzzVith15ZzzzVith7ZzzzVith2Zzzz3Todr52Zzzz12Lina311Zzzz9Lina22Zzzz10",
   "Lina8Zzzz24Latn6ZzzzLatn42ZzzzLatn9Zzzz69Cprt6Zzzz2CprtZzzzCprt44ZzzzCprt2Zzzz3CprtZzzz2CprtArmi22Zzzz",
   "Armi9Palm32Nbat31Zzzz8Nbat9Zzzz48Hatr19ZzzzHatr2Zzzz5Hatr5Phnx28Zzzz3PhnxLydi26Zzzz5LydiSidt26Zzzz38",
   "Mero32Merc24Zzzz4Merc20Zzzz2Merc46Khar4ZzzzKhar2Zzzz5Khar8ZzzzKhar3ZzzzKhar29Zzzz2Khar3Zzzz4Khar10Zzzz7",
   "Khar9Zzzz7Sarb32Narb32Zzzz32Mani39Zzzz4Mani12Zzzz9Avst54Zzzz3Avst7Prti22Zzzz2Prti8Phli19Zzzz5Phli8Phlp18",
   "Zzzz7Phlp4Zzzz12Phlp7Zzzz80Orkh73Zzzz55Hung51Zzzz13Hung51Zzzz7Hung6Rohg40Zzzz8Rohg10Zzzz6Gara38Zzzz3",
   "Gara29Zzzz8Gara2Zzzz208Arab31ZzzzYezi42ZzzzYezi3Zzzz2Yezi2Zzzz16Arab6Zzzz8Arab9Zzzz33Arab6Sogo40Zzzz8",
   "Sogd42Zzzz22Ougr26Zzzz38Chrs28Zzzz20Elym23Zzzz9Brah78Zzzz4Brah36Zzzz9BrahKthi67Zzzz10KthiZzzz2Sora25",
   "Zzzz7Sora10Zzzz6Cakm53ZzzzCakm18Zzzz8Mahj39Zzzz9Shrd96ZzzzSinh20Zzzz11Khoj18ZzzzKhoj47Zzzz62Mult7Zzzz",
   "MultZzzzMult4ZzzzMult15ZzzzMult11Zzzz6Sind59Zzzz5Sind10Zzzz6Gran4ZzzzGran8Zzzz2Gran2Zzzz2Gran22ZzzzGran7",
   "ZzzzGran2ZzzzGran5ZzzzZinhGran9Zzzz2Gran2Zzzz2Gran3Zzzz2GranZzzz6GranZzzz5Gran7Zzzz2Gran7Zzzz3Gran5",
   "Zzzz11Tutg10ZzzzTutgZzzz2TutgZzzzTutg38ZzzzTutg10ZzzzTutgZzzz2TutgZzzzTutg4ZzzzTutg10ZzzzTutg2Zzzz8Tutg2",
   "Zzzz29Newa92ZzzzNewa5Zzzz30Tirh72Zzzz8Tirh10Zzzz166Sidd54Zzzz2Sidd38Zzzz34Modi69Zzzz11Modi10Zzzz6Mong13",
   "Zzzz19Takr58Zzzz6Takr10Zzzz6Mymr20Zzzz28Ahom27Zzzz2Ahom15Zzzz4Ahom23Zzzz185Dogr60Zzzz100Wara83Zzzz12Wara",
   "Diak7Zzzz2DiakZzzz2Diak8ZzzzDiak2ZzzzDiak30ZzzzDiak2Zzzz2Diak12Zzzz9Diak10Zzzz70Nand8Zzzz2Nand46Zzzz2",
   "Nand11Zzzz27Zanb72Zzzz8Soyo83Zzzz13Cans16Pauc57Zzzz7Deva10Zzzz86Shrd8Zzzz88Sunu34Zzzz14Sunu10Zzzz6Bhks9",
   "ZzzzBhks45ZzzzBhks14Zzzz10Bhks29Zzzz3Marc32Zzzz2Marc22ZzzzMarc14Zzzz73Gonm7ZzzzGonm2ZzzzGonm44Zzzz3Gonm",
   "ZzzzGonm2ZzzzGonm9Zzzz8Gonm10Zzzz6Gong6ZzzzGong2ZzzzGong37ZzzzGong2ZzzzGong6Zzzz7Gong10Zzzz6Tols44Zzzz4",
   "Tols10Zzzz246Maka25Zzzz7Kawi17ZzzzKawi41Zzzz3Kawi29Zzzz85LisuZzzz15Taml50Zzzz13TamlXsux922Zzzz102Xsux111",
   "ZzzzXsux5Zzzz11Xsux196Zzzz2636Cpmn99Zzzz13Egyp1110Zzzz10Egyp3995Zzzz5Hluw583Zzzz6841Gukh58Zzzz1734",
   "Bamu569Zzzz7Mroo31ZzzzMroo10Zzzz4Mroo2Tnsa79ZzzzTnsa10Zzzz6Bass30Zzzz2Bass6Zzzz10Hmng70Zzzz10Hmng10Zzzz",
   "Hmng7ZzzzHmng21Zzzz5Hmng19Zzzz432Krai58Zzzz198Medf91Zzzz5Berf25Zzzz2Berf25Zzzz44Plrd75Zzzz4Plrd57Zzzz7",
   "Plrd17Zzzz64TangNshuHani2KitsZzzz11Hani7Zzzz9Tang6912Kits470Zzzz41KitsTang31Zzzz97Tang115Zzzz8701Kana4",
   "ZzzzKana7ZzzzKana2ZzzzKanaHira287Kana3Zzzz15HiraZzzz29Hira3Zzzz2KanaZzzz14Kana4Zzzz8Nshu396Zzzz2308",
   "Dupl107Zzzz5Dupl13Zzzz3Dupl9Zzzz7Dupl10Zzzz2Dupl4Zyyy4Zzzz3932Zyyy253Zzzz3Zyyy436Zzzz6Zyyy23Zzzz15Zyyy17",
   "Zzzz15Zinh46Zzzz2Zinh23Zzzz9Zyyy116Zzzz60Zyyy246Zzzz10Zyyy39Zzzz2Zyyy62Zinh3Zyyy17Zinh8Zyyy2Zinh7Zyyy30",
   "Zinh4Zyyy61Zzzz21Grek70Zzzz122Zyyy20Zzzz12Zyyy20Zzzz12Zyyy87Zzzz9Zyyy25Zzzz135Zyyy85ZzzzZyyy71ZzzzZyyy2",
   "Zzzz2ZyyyZzzz2Zyyy2Zzzz2Zyyy4ZzzzZyyy12ZzzzZyyyZzzzZyyy7ZzzzZyyy65ZzzzZyyy4Zzzz2Zyyy8ZzzzZyyy7ZzzzZyyy28",
   "ZzzzZyyy4ZzzzZyyy5ZzzzZyyyZzzz3Zyyy7ZzzzZyyy340Zzzz2Zyyy292Zzzz2Zyyy50Sgnw652Zzzz15Sgnw5ZzzzSgnw15",
   "Zzzz1104Latn31Zzzz6Latn6Zzzz213Glag7ZzzzGlag17Zzzz2Glag7ZzzzGlag2ZzzzGlag5Zzzz5Cyrl62Zzzz33CyrlZzzz112",
   "Hmnp45Zzzz3Hmnp14Zzzz2Hmnp10Zzzz4Hmnp2Zzzz320Toto31Zzzz17Wcho58Zzzz5WchoZzzz464Nagm42Zzzz214Onao43Zzzz4",
   "OnaoZzzz192Tayo31ZzzzTayo22Zzzz8Tayo2Zzzz224Ethi7ZzzzEthi4ZzzzEthi2ZzzzEthi15ZzzzMend197Zzzz2Mend16",
   "Zzzz41Adlm76Zzzz4Adlm10Zzzz4Adlm2Zzzz785Zyyy68Zzzz76Zyyy61Zzzz194Arab4ZzzzArab27ZzzzArab2ZzzzArabZzzz2",
   "ArabZzzzArab10ZzzzArab4ZzzzArabZzzzArabZzzz6ArabZzzz4ArabZzzzArabZzzzArabZzzzArab3ZzzzArab2ZzzzArabZzzz2",
   "ArabZzzzArabZzzzArabZzzzArabZzzzArabZzzzArab2ZzzzArabZzzz2Arab4ZzzzArab7ZzzzArab4ZzzzArab4ZzzzArabZzzz",
   "Arab10ZzzzArab17Zzzz5Arab3ZzzzArab5ZzzzArab17Zzzz52Arab2Zzzz270Zyyy44Zzzz4Zyyy100Zzzz12Zyyy15Zzzz2Zyyy15",
   "ZzzzZyyy15ZzzzZyyy37Zzzz10Zyyy174Zzzz56Zyyy26HiraZyyy2Zzzz13Zyyy44Zzzz4Zyyy9Zzzz7Zyyy2Zzzz14Zyyy6Zzzz154",
   "Zyyy985Zzzz3Zyyy17Zzzz3Zyyy13Zzzz3Zyyy218Zzzz6Zyyy12Zzzz4ZyyyZzzz15Zyyy12Zzzz4Zyyy56Zzzz8Zyyy10Zzzz6",
   "Zyyy40Zzzz8Zyyy30Zzzz2Zyyy12Zzzz4Zyyy2Zzzz14Zyyy9Zzzz39Zyyy344Zzzz8Zyyy14Zzzz2Zyyy13Zzzz3Zyyy11Zzzz3",
   "Zyyy57ZzzzZyyyZzzz4Zyyy16Zzzz2Zyyy12Zzzz4Zyyy10Zzzz7Zyyy147ZzzzZyyy103Zzzz1029Hani42720Zzzz32Hani4382",
   "Zzzz2Hani5774Zzzz2Hani7473Zzzz15Hani622Zzzz2466Hani542Zzzz1506Hani4939Zzzz5Hani8490Zzzz707463ZyyyZzzz30",
   "Zyyy96Zzzz128Zinh240Zzzz196112"]

def scriptRuns : List Run := Run.ofText scriptTable

/-- The names of the scripts, the one of four letters first. -/
def scriptNames : List (List String) :=
  [["Adlm", "Adlam"], ["Aghb", "Caucasian_Albanian"], ["Ahom"], ["Arab", "Arabic"],
   ["Armi", "Imperial_Aramaic"], ["Armn", "Armenian"], ["Avst", "Avestan"], ["Bali", "Balinese"],
   ["Bamu", "Bamum"], ["Bass", "Bassa_Vah"], ["Batk", "Batak"], ["Beng", "Bengali"], ["Bhks", "Bhaiksuki"],
   ["Bopo", "Bopomofo"], ["Brah", "Brahmi"], ["Brai", "Braille"], ["Bugi", "Buginese"], ["Buhd", "Buhid"],
   ["Cakm", "Chakma"], ["Cans", "Canadian_Aboriginal"], ["Cari", "Carian"], ["Cham"], ["Cher", "Cherokee"],
   ["Chrs", "Chorasmian"], ["Copt", "Coptic", "Qaac"], ["Cpmn", "Cypro_Minoan"], ["Cprt", "Cypriot"],
   ["Cyrl", "Cyrillic"], ["Deva", "Devanagari"], ["Diak", "Dives_Akuru"], ["Dogr", "Dogra"],
   ["Dsrt", "Deseret"], ["Dupl", "Duployan"], ["Egyp", "Egyptian_Hieroglyphs"], ["Elba", "Elbasan"],
   ["Elym", "Elymaic"], ["Ethi", "Ethiopic"], ["Gara", "Garay"], ["Geor", "Georgian"], ["Glag", "Glagolitic"],
   ["Gong", "Gunjala_Gondi"], ["Gonm", "Masaram_Gondi"], ["Goth", "Gothic"], ["Gran", "Grantha"],
   ["Grek", "Greek"], ["Gujr", "Gujarati"], ["Gukh", "Gurung_Khema"], ["Guru", "Gurmukhi"], ["Hang", "Hangul"],
   ["Hani", "Han"], ["Hano", "Hanunoo"], ["Hatr", "Hatran"], ["Hebr", "Hebrew"], ["Hira", "Hiragana"],
   ["Hluw", "Anatolian_Hieroglyphs"], ["Hmng", "Pahawh_Hmong"], ["Hmnp", "Nyiakeng_Puachue_Hmong"],
   ["Hrkt", "Katakana_Or_Hiragana"], ["Hung", "Old_Hungarian"], ["Ital", "Old_Italic"], ["Java", "Javanese"],
   ["Kali", "Kayah_Li"], ["Kana", "Katakana"], ["Kawi"], ["Khar", "Kharoshthi"], ["Khmr", "Khmer"],
   ["Khoj", "Khojki"], ["Kits", "Khitan_Small_Script"], ["Knda", "Kannada"], ["Krai", "Kirat_Rai"],
   ["Kthi", "Kaithi"], ["Lana", "Tai_Tham"], ["Laoo", "Lao"], ["Latn", "Latin"], ["Lepc", "Lepcha"],
   ["Limb", "Limbu"], ["Lina", "Linear_A"], ["Linb", "Linear_B"], ["Lisu"], ["Lyci", "Lycian"],
   ["Lydi", "Lydian"], ["Mahj", "Mahajani"], ["Maka", "Makasar"], ["Mand", "Mandaic"], ["Mani", "Manichaean"],
   ["Marc", "Marchen"], ["Medf", "Medefaidrin"], ["Mend", "Mende_Kikakui"], ["Merc", "Meroitic_Cursive"],
   ["Mero", "Meroitic_Hieroglyphs"], ["Mlym", "Malayalam"], ["Modi"], ["Mong", "Mongolian"], ["Mroo", "Mro"],
   ["Mtei", "Meetei_Mayek"], ["Mult", "Multani"], ["Mymr", "Myanmar"], ["Nagm", "Nag_Mundari"],
   ["Nand", "Nandinagari"], ["Narb", "Old_North_Arabian"], ["Nbat", "Nabataean"], ["Newa"], ["Nkoo", "Nko"],
   ["Nshu", "Nushu"], ["Ogam", "Ogham"], ["Olck", "Ol_Chiki"], ["Onao", "Ol_Onal"], ["Orkh", "Old_Turkic"],
   ["Orya", "Oriya"], ["Osge", "Osage"], ["Osma", "Osmanya"], ["Ougr", "Old_Uyghur"], ["Palm", "Palmyrene"],
   ["Pauc", "Pau_Cin_Hau"], ["Perm", "Old_Permic"], ["Phag", "Phags_Pa"], ["Phli", "Inscriptional_Pahlavi"],
   ["Phlp", "Psalter_Pahlavi"], ["Phnx", "Phoenician"], ["Plrd", "Miao"], ["Prti", "Inscriptional_Parthian"],
   ["Rjng", "Rejang"], ["Rohg", "Hanifi_Rohingya"], ["Runr", "Runic"], ["Samr", "Samaritan"],
   ["Sarb", "Old_South_Arabian"], ["Saur", "Saurashtra"], ["Sgnw", "SignWriting"], ["Shaw", "Shavian"],
   ["Shrd", "Sharada"], ["Sidd", "Siddham"], ["Sind", "Khudawadi"], ["Sinh", "Sinhala"], ["Sogd", "Sogdian"],
   ["Sogo", "Old_Sogdian"], ["Sora", "Sora_Sompeng"], ["Soyo", "Soyombo"], ["Sund", "Sundanese"],
   ["Sunu", "Sunuwar"], ["Sylo", "Syloti_Nagri"], ["Syrc", "Syriac"], ["Tagb", "Tagbanwa"], ["Takr", "Takri"],
   ["Tale", "Tai_Le"], ["Talu", "New_Tai_Lue"], ["Taml", "Tamil"], ["Tang", "Tangut"], ["Tavt", "Tai_Viet"],
   ["Telu", "Telugu"], ["Tfng", "Tifinagh"], ["Tglg", "Tagalog"], ["Thaa", "Thaana"], ["Thai"],
   ["Tibt", "Tibetan"], ["Tirh", "Tirhuta"], ["Tnsa", "Tangsa"], ["Todr", "Todhri"], ["Toto"],
   ["Tutg", "Tulu_Tigalari"], ["Ugar", "Ugaritic"], ["Vaii", "Vai"], ["Vith", "Vithkuqi"],
   ["Wara", "Warang_Citi"], ["Wcho", "Wancho"], ["Xpeo", "Old_Persian"], ["Xsux", "Cuneiform"],
   ["Yezi", "Yezidi"], ["Yiii", "Yi"], ["Zanb", "Zanabazar_Square"], ["Zinh", "Inherited", "Qaai"],
   ["Zyyy", "Common"], ["Zzzz", "Unknown"]]

/-- Codes that are used with more scripts than their own, or with other ones. -/
def scriptExtensions : List (String × String) :=
  [("B7", "Avst Cari Copt Dupl Elba Geor Glag Gong Goth Grek Hani Latn Lydi Mahj Perm Shaw"),
   ("2BC", "Beng Cyrl Deva Latn Lisu Thai Toto"),
   ("2C7 2C9-2CB 2D9", "Bopo Latn"),
   ("2CD", "Latn Lisu"),
   ("2D7", "Latn Thai"),
   ("300", "Cher Copt Cyrl Grek Latn Perm Sunu Tale"),
   ("301", "Cher Cyrl Grek Latn Osge Sunu Tale Todr"),
   ("302", "Cher Cyrl Latn Tfng"),
   ("303", "Glag Latn Sunu Syrc Thai"),
   ("304", "Aghb Cher Copt Cyrl Goth Grek Latn Osge Syrc Tfng Todr"),
   ("305", "Copt Elba Glag Goth Kana Latn"),
   ("306", "Cyrl Grek Latn Perm Tfng"),
   ("307", "Copt Dupl Hebr Latn Perm Syrc Tale Tfng Todr"),
   ("308", "Armn Cyrl Dupl Goth Grek Hebr Latn Perm Syrc Tale Tfng"),
   ("309", "Latn Tfng"),
   ("30A", "Dupl Latn Syrc"),
   ("30B", "Cher Cyrl Latn Osge"),
   ("30C", "Cher Latn Tale"),
   ("30D 310", "Latn Sunu"),
   ("30E", "Ethi Latn"),
   ("311", "Cyrl Latn Todr"),
   ("313", "Grek Latn Perm Todr"),
   ("323", "Cher Dupl Kana Latn Syrc Tfng"),
   ("324", "Cher Dupl Latn Syrc"),
   ("325 32E", "Latn Syrc"),
   ("32D", "Latn Sunu Syrc"),
   ("330", "Cher Latn Syrc"),
   ("331", "Aghb Cher Goth Latn Sunu Syrc Thai"),
   ("342 345 1DC0-1DC1", "Grek"),
   ("358", "Latn Osge"),
   ("35E", "Aghb Latn Todr"),
   ("363-36F", "Latn"),
   ("374-375", "Copt Grek"),
   ("483", "Cyrl Perm"),
   ("484 487 2E43 A66F", "Cyrl Glag"),
   ("485-486", "Cyrl Latn"),
   ("589", "Armn Geor Glag"),
   ("60C 61B", "Arab Gara Nkoo Rohg Syrc Thaa Yezi"),
   ("61C", "Arab Syrc Thaa"),
   ("61F", "Adlm Arab Gara Nkoo Rohg Syrc Thaa Yezi"),
   ("640", "Adlm Arab Mand Mani Ougr Phlp Rohg Sogd Syrc"),
   ("64B-655 670", "Arab Syrc"),
   ("660-669", "Arab Thaa Yezi"),
   ("6D4", "Arab Rohg"),
   ("951", "Beng Deva Gran Gujr Guru Knda Latn Mlym Nand Newa Orya Shrd Taml Telu Tirh"),
   ("952", "Beng Deva Gran Gujr Guru Knda Latn Mlym Newa Orya Taml Telu Tirh"),
   ("964",
    "Beng Deva Dogr Gong Gonm Gran Gujr Guru Knda Mahj Mlym Nand Onao Orya Sind Sinh Sylo Takr Taml Telu Tirh"),
   ("965",
    "Beng Deva Dogr Gong Gonm Gran Gujr Gukh Guru Knda Limb Mahj Mlym Nand Onao Orya Sind Sinh Sylo Takr " ++
      "Taml Telu Tirh"),
   ("966-96F", "Deva Dogr Kthi Mahj"),
   ("9E6-9EF", "Beng Cakm Sylo"),
   ("A66-A6F", "Guru Mult"),
   ("AE6-AEF", "Gujr Khoj"),
   ("BE6-BF3 11301 11303 1133B-1133C 11FD0-11FD1 11FD3", "Gran Taml"),
   ("CE6-CEF", "Knda Nand Tutg"),
   ("1040-1049", "Cakm Mymr Tale"),
   ("10FB", "Geor Glag Latn"),
   ("16EB-16ED", "Runr"),
   ("1735-1736", "Buhd Hano Tagb Tglg"),
   ("1802-1803 1805", "Mong Phag"),
   ("1CD0 1CD2", "Beng Deva Gran Knda"),
   ("1CD1 1CD4 1CDB 1CDE-1CDF 1CE3-1CE8 1CEC 1CEE-1CF1", "Deva"),
   ("1CD3", "Deva Gran Knda"),
   ("1CD5", "Beng Deva Newa Telu Tirh"),
   ("1CD6", "Beng Deva Telu"),
   ("1CD7", "Deva Newa Shrd"),
   ("1CD8", "Beng Deva Newa Telu"),
   ("1CD9 1CDC-1CDD 1CE0", "Deva Shrd"),
   ("1CDA", "Deva Knda Mlym Orya Taml Telu"),
   ("1CE1 1CF5-1CF6", "Beng Deva"),
   ("1CE2", "Deva Newa Tirh"),
   ("1CE9", "Deva Nand Newa"),
   ("1CEA", "Beng Deva Shrd"),
   ("1CEB", "Deva Newa"),
   ("1CED", "Beng Deva Newa Shrd"),
   ("1CF2", "Beng Deva Gran Knda Mlym Nand Orya Sinh Telu Tirh Tutg"),
   ("1CF3 1CF8-1CF9", "Deva Gran"),
   ("1CF4", "Deva Gran Knda Tutg"),
   ("1CF7", "Beng"),
   ("1CFA", "Nand"),
   ("1DF8", "Cyrl Latn Syrc"),
   ("1DFA", "Syrc"),
   ("202F", "Latn Mong Phag"),
   ("204F", "Adlm Arab"),
   ("205A", "Cari Geor Glag Hung Lyci Orkh"),
   ("205D", "Cari Grek Hung Mero"),
   ("20F0", "Deva Gran Latn"),
   ("2E17", "Copt Latn"),
   ("2E30", "Avst Orkh"),
   ("2E31", "Avst Cari Geor Hung Kthi Lydi Samr"),
   ("2E3C 1BCA0-1BCA3", "Dupl"),
   ("2E41", "Adlm Arab Hung"),
   ("2FF0-2FFF 31EF", "Hani Tang"),
   ("3001", "Bopo Hang Hani Hira Kana Mong Yiii"),
   ("3002", "Bopo Hang Hani Hira Kana Mong Phag Yiii"),
   ("3003 3013 301C-301F 3030 3037 FE45-FE46", "Bopo Hang Hani Hira Kana"),
   ("3006 303E-303F 3190-319F 31C0-31E5 3220-3247 3280-32B0 32C0-32CB 32FF 3358-3370 337B-337F 33E0-33FE " ++
      "1D360-1D371 1F250-1F251",
    "Hani"),
   ("3008-3009", "Bopo Hang Hani Hira Kana Mong Tibt Yiii"),
   ("300A-300B", "Bopo Hang Hani Hira Kana Lisu Mong Tibt Yiii"),
   ("300C-3011 3014-301B 30FB FF61-FF65", "Bopo Hang Hani Hira Kana Yiii"),
   ("302A-302D", "Bopo Hani"),
   ("3031-3035 3099-309C 30A0 30FC FF70 FF9E-FF9F", "Hira Kana"),
   ("303C-303D", "Hani Hira Kana"),
   ("A700-A707", "Hani Latn"),
   ("A830-A832", "Deva Dogr Gujr Guru Khoj Knda Kthi Mahj Mlym Modi Nand Shrd Sind Takr Tirh Tutg"),
   ("A833-A835", "Deva Dogr Gujr Guru Khoj Knda Kthi Mahj Modi Nand Shrd Sind Takr Tirh Tutg"),
   ("A836-A837 A839", "Deva Dogr Gujr Guru Khoj Kthi Mahj Modi Sind Takr Tirh"),
   ("A838", "Deva Dogr Gujr Guru Khoj Kthi Mahj Modi Shrd Sind Takr Tirh"),
   ("A8F1", "Beng Deva Tutg"),
   ("A8F3", "Deva Taml"),
   ("A92E", "Kali Latn Mymr"),
   ("A9CF", "Bugi Java"),
   ("FD3E-FD3F", "Arab Nkoo"),
   ("FDF2 FDFD", "Arab Thaa"),
   ("10100-10101", "Cpmn Cprt Linb"),
   ("10102 10137-1013F", "Cprt Linb"),
   ("10107-10133", "Cprt Lina Linb"),
   ("102E0-102FB", "Arab Copt"),
   ("10AF2", "Mani Ougr")]

/-- The characters of a script. -/
def Edition.ofScript (e : Edition) (script : String) : CharSet :=
  (Run.select scriptRuns (· = script)).diff e.missing

/-- The characters that are used with a script. -/
def Edition.usedWithScript (e : Edition) (script : String) : CharSet :=
  let others := CharSet.ofText (scriptExtensions.map (·.1))
  let users := scriptExtensions.filter fun entry => (entry.2.splitOn " ").contains script
  ((e.ofScript script).diff others).union (.ofText (users.map (·.1)))

end ProgramRom.Unicode
