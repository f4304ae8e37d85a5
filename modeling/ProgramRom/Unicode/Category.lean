import ProgramRom.Unicode.Age

/-! # General categories

Every code has one category, which is written as two letters. The first letter alone stands for a group of
categories, and `LC` for the letters that have a case. -/

namespace ProgramRom.Unicode

/-- The categories of all codes. -/
def categoryTable : List String :=
  ["Cc32ZsPo3ScPo3PsPePoSmPoPdPo2Nd10Po2Sm3Po2Lu26PsPoPeSkPcSkLl26PsSmPeSmCc33ZsPoSc4SoPoSkSoLoPiSmCfSoSkSo",
   "SmNo2SkLlPo2SkNoLoPfNo3PoLu23SmLu7Ll24SmLl8LuLlLuLlLuLlLuLlLuLlLuLlLuLlLuLlLuLlLuLlLuLlLuLlLuLlLuLlLuLl",
   "LuLlLuLlLuLlLuLlLuLlLuLlLuLlLuLlLuLlLuLlLuLlLuLlLuLl2LuLlLuLlLuLlLuLlLuLlLuLlLuLlLuLl2LuLlLuLlLuLlLuLlLu",
   "LlLuLlLuLlLuLlLuLlLuLlLuLlLuLlLuLlLuLlLuLlLuLlLuLlLuLlLuLlLuLlLuLlLuLlLuLlLu2LlLuLlLuLl3Lu2LlLuLlLu2Ll",
   "Lu3Ll2Lu4LlLu2LlLu3Ll3Lu2LlLu2LlLuLlLuLlLu2LlLuLl2LuLlLu2LlLu3LlLuLlLu2Ll2LoLuLl3Lo4LuLtLlLuLtLlLuLtLlLu",
   "LlLuLlLuLlLuLlLuLlLuLlLuLlLuLl2LuLlLuLlLuLlLuLlLuLlLuLlLuLlLuLlLuLl2LuLtLlLuLlLu3LlLuLlLuLlLuLlLuLlLuLl",
   "LuLlLuLlLuLlLuLlLuLlLuLlLuLlLuLlLuLlLuLlLuLlLuLlLuLlLuLlLuLlLuLlLuLlLuLlLuLlLuLlLuLlLuLlLuLlLuLl7Lu2Ll",
   "Lu2Ll2LuLlLu4LlLuLlLuLlLuLlLuLl69LoLl27Lm18Sk4Lm12Sk14Lm5Sk7LmSkLmSk17Mn112LuLlLuLlLmSkLuLlCn2LmLl3PoLu",
   "Cn4Sk2LuPoLu3CnLuCnLu2LlLu17CnLu9Ll35LuLl2Lu3Ll3LuLlLuLlLuLlLuLlLuLlLuLlLuLlLuLlLuLlLuLlLuLlLuLl5LuLlSm",
   "LuLlLu2Ll2Lu51Ll48LuLlLuLlLuLlLuLlLuLlLuLlLuLlLuLlLuLlLuLlLuLlLuLlLuLlLuLlLuLlLuLlLuLlSoMn5Me2LuLlLuLlLu",
   "LlLuLlLuLlLuLlLuLlLuLlLuLlLuLlLuLlLuLlLuLlLuLlLuLlLuLlLuLlLuLlLuLlLuLlLuLlLuLlLuLlLuLlLuLlLuLlLuLlLu2Ll",
   "LuLlLuLlLuLlLuLlLuLlLuLl2LuLlLuLlLuLlLuLlLuLlLuLlLuLlLuLlLuLlLuLlLuLlLuLlLuLlLuLlLuLlLuLlLuLlLuLlLuLlLu",
   "LlLuLlLuLlLuLlLuLlLuLlLuLlLuLlLuLlLuLlLuLlLuLlLuLlLuLlLuLlLuLlLuLlLuLlLuLlLuLlLuLlLuLlLuLlLuLlLuLlLuLlLu",
   "LlLuLlLuLlCnLu38Cn2LmPo6Ll41PoPdCn2So2ScCnMn45PdMnPoMn2PoMn2PoMnCn8Lo27Cn4Lo4Po2Cn11Cf6Sm3Po2ScPo2So2",
   "Mn11PoCfPo3Lo32LmLo10Mn21Nd10Po4Lo2MnLo99PoLoMn7CfSoMn6Lm2Mn2SoMn4Lo2Nd10Lo3So2LoPo14CnCfLoMnLo30Mn27Cn2",
   "Lo89Mn11LoCn14Nd10Lo33Mn9Lm2SoPo3LmCn2MnSc2Lo22Mn4LmMn9LmMn3LmMn5Cn2Po15CnLo25Mn3Cn2PoCnLo11Cn5Lo24SkLo7",
   "Cf2Cn5Mn9Lo41LmMn24CfMn32McLo54MnMcMnLoMc3Mn8Mc4MnMc2LoMn7Lo10Mn2Po2Nd10PoLmLo15MnMc2CnLo8Cn2Lo2Cn2Lo22",
   "CnLo7CnLoCn3Lo4Cn2MnLoMc3Mn4Cn2Mc2Cn2Mc2MnLoCn8McCn4Lo2CnLo3Mn2Cn2Nd10Lo2Sc2No6SoScLoPoMnCn2Mn2McCnLo6",
   "Cn4Lo2Cn2Lo22CnLo7CnLo2CnLo2CnLo2Cn2MnCnMc3Mn2Cn4Mn2Cn2Mn3Cn3MnCn7Lo4CnLoCn7Nd10Mn2Lo3MnPoCn10Mn2McCnLo9",
   "CnLo3CnLo22CnLo7CnLo2CnLo5Cn2MnLoMc3Mn5CnMn2McCnMc2MnCn2LoCn15Lo2Mn2Cn2Nd10PoScCn7LoMn6CnMnMc2CnLo8Cn2",
   "Lo2Cn2Lo22CnLo7CnLo2CnLo5Cn2MnLoMcMnMcMn4Cn2Mc2Cn2Mc2MnCn7Mn2McCn4Lo2CnLo3Mn2Cn2Nd10SoLoNo6Cn10MnLoCnLo6",
   "Cn3Lo3CnLo4Cn3Lo2CnLoCnLo2Cn3Lo2Cn3Lo3Cn3Lo12Cn4Mc2MnMc2Cn3Mc3CnMc3MnCn2LoCn6McCn14Nd10No3So6ScSoCn5Mn",
   "Mc3MnLo8CnLo3CnLo23CnLo16Cn2MnLoMn3Mc4CnMn3CnMn4Cn7Mn2CnLo3CnLo2Cn2Lo2Mn2Cn2Nd10Cn7PoNo7SoLoMnMc2PoLo8Cn",
   "Lo3CnLo23CnLo10CnLo5Cn2MnLoMcMnMc5CnMnMc2CnMc2Mn2Cn7Mc2Cn5Lo3CnLo2Mn2Cn2Nd10CnLo2McCn12Mn2Mc2Lo9CnLo3Cn",
   "Lo41Mn2LoMc3Mn4CnMc3CnMc3MnLoSoCn4Lo3McNo7Lo3Mn2Cn2Nd10No9SoLo6CnMnMc2CnLo18Cn3Lo24CnLo9CnLoCn2Lo7Cn3Mn",
   "Cn4Mc3Mn3CnMnCnMc8Cn6Nd10Cn2Mc2PoCn12Lo48MnLo2Mn7Cn4ScLo6LmMn8PoNd10Po2Cn37Lo2CnLoCnLo5CnLo24CnLoCnLo10",
   "MnLo2Mn9LoCn2Lo5CnLmCnMn7CnNd10Cn2Lo4Cn32LoSo3Po15SoPoSo3Mn2So6Nd10No10SoMnSoMnSoMnPsPePsPeMc2Lo8CnLo36",
   "Cn4Mn14McMn5PoMn2Lo5Mn11CnMn36CnSo8MnSo6CnSo2Po5So4Po2Cn37Lo43Mc2Mn4McMn6McMn2Mc2Mn2LoNd10Po6Lo6Mc2Mn2",
   "Lo4Mn3LoMc3Lo2Mc7Lo3Mn4Lo13MnMc2Mn2Mc6MnLoMcNd10Mc3MnSo2Lu38CnLuCn5LuCn2Ll43PoLmLl3Lo329CnLo4Cn2Lo7CnLo",
   "CnLo4Cn2Lo41CnLo4Cn2Lo33CnLo4Cn2Lo7CnLoCnLo4Cn2Lo15CnLo57CnLo4Cn2Lo67Cn2Mn3Po9No20Cn3Lo16So10Cn6Lu86Cn2",
   "Ll6Cn2PdLo620SoPoLo17ZsLo26PsPeCn3Lo75Po3Nl3Lo8Cn7Lo18Mn3McCn9Lo19Mn2McPo2Cn9Lo18Mn2Cn12Lo13CnLo3CnMn2",
   "Cn12Lo52Mn2McMn7Mc8MnMc2Mn11Po3LmPo3ScLoMnCn2Nd10Cn6No10Cn6Po6PdPo4Mn3CfMnNd10Cn6Lo35LmLo53Cn7Lo5Mn2Lo34",
   "MnLoCn5Lo70Cn10Lo31CnMn3Mc4Mn2Mc3Cn4Mc2MnMc6Mn3Cn4SoCn3Po2Nd10Lo30Cn2Lo5Cn11Lo44Cn4Lo26Cn6Nd10NoCn3So34",
   "Lo23Mn2Mc2MnCn2Po2Lo53McMnMcMn7CnMnMcMnMc2Mn8Mc6Mn10Cn2MnNd10Cn6Nd10Cn6Po7LmPo6Cn2Mn14MeMn31Cn2Mn12Cn20",
   "Mn4McLo47MnMcMn5McMnMc5MnMc2Lo8CnPo2Nd10Po7So10Mn9So9Po3Mn2McLo30McMn4Mc2Mn2McMn3Lo2Nd10Lo44MnMcMn2Mc3Mn",
   "McMn3Mc2Cn8Po4Lo36Mc8Mn8Mc2Mn2Cn3Po5Nd10Cn3Lo3Nd10Lo30Lm6Po2Ll9LuLlCn5Lu43Cn2Lu3Po8Cn8Mn3PoMn13McMn7Lo4",
   "MnLo6MnLo2McMn2LoCn5Ll44Lm63Ll13LmLl34Lm37Mn64LuLlLuLlLuLlLuLlLuLlLuLlLuLlLuLlLuLlLuLlLuLlLuLlLuLlLuLlLu",
   "LlLuLlLuLlLuLlLuLlLuLlLuLlLuLlLuLlLuLlLuLlLuLlLuLlLuLlLuLlLuLlLuLlLuLlLuLlLuLlLuLlLuLlLuLlLuLlLuLlLuLlLu",
   "LlLuLlLuLlLuLlLuLlLuLlLuLlLuLlLuLlLuLlLuLlLuLlLuLlLuLlLuLlLuLlLuLlLuLlLuLlLuLlLuLlLuLlLuLlLuLlLuLlLuLlLu",
   "LlLuLlLuLlLuLlLuLlLuLlLuLlLuLlLuLl9LuLlLuLlLuLlLuLlLuLlLuLlLuLlLuLlLuLlLuLlLuLlLuLlLuLlLuLlLuLlLuLlLuLl",
   "LuLlLuLlLuLlLuLlLuLlLuLlLuLlLuLlLuLlLuLlLuLlLuLlLuLlLuLlLuLlLuLlLuLlLuLlLuLlLuLlLuLlLuLlLuLlLuLlLuLlLuLl",
   "LuLlLuLlLuLlLuLlLuLlLuLl9Lu8Ll6Cn2Lu6Cn2Ll8Lu8Ll8Lu8Ll6Cn2Lu6Cn2Ll8CnLuCnLuCnLuCnLuLl8Lu8Ll14Cn2Ll8Lt8",
   "Ll8Lt8Ll8Lt8Ll5CnLl2Lu4LtSkLlSk3Ll3CnLl2Lu4LtSk3Ll4Cn2Ll2Lu4CnSk3Ll8Lu5Sk3Cn2Ll3CnLl2Lu4LtSk2CnZs11Cf5",
   "Pd6Po2PiPfPsPi2PfPsPiPo8ZlZpCf5ZsPo9PiPfPo4Pc2Po3SmPsPePo11SmPoPcPo10ZsCf5CnCf10NoLmCn2No6Sm3PsPeLmNo10",
   "Sm3PsPeCnLm13Cn3Sc34Cn14Mn13Me4MnMe3Mn12Cn15So2LuSo4LuSo2LlLu3Ll2Lu3LlSoLuSo2SmLu5So6LuSoLuSoLuSoLu4SoLl",
   "Lu4LlLo4LlSo2Ll2Lu2Sm5LuLl4SoSmSo2LlSoNo16Nl35LuLlNl4NoSo2Cn4Sm5So5Sm2So4SmSo2SmSo2SmSo7SmSo31Sm2So2SmSo",
   "SmSo31Sm268So8PsPePsPeSo20Sm2So7PsPeSo81SmSo30Sm25So40Sm6So72Cn22So11Cn21No60So78No22So183SmSo9SmSo54Sm8",
   "So111SmSo248PsPePsPePsPePsPePsPePsPePsPeNo30So44Sm5PsPeSm31PsPePsPePsPePsPePsPeSm16So256Sm131PsPePsPePs",
   "PePsPePsPePsPePsPePsPePsPePsPePsPeSm63PsPePsPeSm32PsPeSm258So48Sm21So2Sm6So39Cn2So138Lu48Ll48LuLlLu3Ll2",
   "LuLlLuLlLuLlLu4LlLuLl2LuLl6Lm2Lu3LlLuLlLuLlLuLlLuLlLuLlLuLlLuLlLuLlLuLlLuLlLuLlLuLlLuLlLuLlLuLlLuLlLuLl",
   "LuLlLuLlLuLlLuLlLuLlLuLlLuLlLuLlLuLlLuLlLuLlLuLlLuLlLuLlLuLlLuLlLuLlLuLlLuLlLuLlLuLlLuLlLuLlLuLlLuLlLuLl",
   "LuLlLuLlLuLlLuLlLuLlLuLl2So6LuLlLuLlMn3LuLlCn5Po4NoPo2Ll38CnLlCn5LlCn2Lo56Cn7LmPoCn14MnLo23Cn9Lo7CnLo7Cn",
   "Lo7CnLo7CnLo7CnLo7CnLo7CnLo7CnMn32Po2PiPfPiPfPo3PiPfPoPiPfPo9PdPo2PdPoPiPfPo2PiPfPsPePsPePsPePsPePo5Lm",
   "Po10Pd2Po4PdPoPsPo13So2Po3PsPePsPePsPePsPePdCn34So26CnSo89Cn12So214Cn26So16ZsPo3SoLmLoNlPsPePsPePsPePsPe",
   "PsPeSo2PsPePsPePsPePsPePdPsPe2SoNl9Mn4Mc2PdLm5So2Nl3LmLoPoSo2CnLo86Cn2Mn2Sk2Lm2LoPdLo90PoLm3LoCn5Lo43Cn",
   "Lo94CnSo2No4So10Lo32So38Cn9SoLo16So31CnNo10So30No8SoNo15So32No10So39No15So320Lo6592So64Lo21013LmLo1143",
   "Cn3So55Cn9Lo40Lm6Po2Lo268LmPo3Lo16Nd10Lo2Cn20LuLlLuLlLuLlLuLlLuLlLuLlLuLlLuLlLuLlLuLlLuLlLuLlLuLlLuLlLu",
   "LlLuLlLuLlLuLlLuLlLuLlLuLlLuLlLuLlLoMnMe3PoMn10PoLmLuLlLuLlLuLlLuLlLuLlLuLlLuLlLuLlLuLlLuLlLuLlLuLlLuLl",
   "LuLlLm2Mn2Lo70Nl10Mn2Po6Cn8Sk23Lm9Sk2LuLlLuLlLuLlLuLlLuLlLuLlLuLl3LuLlLuLlLuLlLuLlLuLlLuLlLuLlLuLlLuLlLu",
   "LlLuLlLuLlLuLlLuLlLuLlLuLlLuLlLuLlLuLlLuLlLuLlLuLlLuLlLuLlLuLlLuLlLuLlLuLlLuLlLuLlLuLlLmLl8LuLlLuLlLu2Ll",
   "LuLlLuLlLuLlLuLlLmSk2LuLlLuLlLoLuLlLuLl3LuLlLuLlLuLlLuLlLuLlLuLlLuLlLuLlLuLlLuLlLu5LlLu5LlLuLlLuLlLuLlLu",
   "LlLuLlLuLlLuLlLu4LlLuLlLu2LlLuLlLuLlLuLlLuLlLuLlLuLlLuLlLuCn20Lm4LuLlLoLm2LlLo7MnLo3MnLo4MnLo23Mc2Mn2Mc",
   "So4MnCn3No6So2ScSoCn6Lo52Po4Cn8Mc2Lo50Mc16Mn2Cn8Po2Nd10Cn6Mn18Lo6Po3LoPoLo2MnNd10Lo28Mn8Po2Lo23Mn11Mc2",
   "Cn11PoLo29Cn3Mn3McLo47MnMc2Mn4Mc2Mn2Mc3Po13CnLmNd10Cn4Po2Lo5MnLmLo9Nd10Lo5CnLo41Mn6Mc2Mn2Mc2Mn2Cn9Lo3Mn",
   "Lo8MnMcCn2Nd10Cn2Po4Lo16LmLo6So3LoMcMnMcLo50MnLoMn3Lo2Mn2Lo5Mn2LoMnLoCn24Lo2LmPo2Lo11McMn2Mc2Po2LoLm2Mc",
   "MnCn10Lo6Cn2Lo6Cn2Lo6Cn9Lo7CnLo7CnLl43SkLm4Ll9LmSk2Cn4Ll80Lo35Mc2MnMc2MnMc2PoMcMnCn2Nd10Cn6Lo11172Cn12",
   "Lo23Cn4Lo49Cn4Cs2048Co6400Lo366Cn2Lo106Cn38Ll7Cn12Ll5Cn5LoMnLo10SmLo13CnLo5CnLoCnLo2CnLo2CnLo108Sk17So16",
   "Lo363PePsSo16Lo64So2Lo54So8Cn32Lo12ScSo3Mn16Po7PsPePoCn6Mn16PoPd2Pc2PsPePsPePsPePsPePsPePsPePsPePsPePo2",
   "PsPePo4Pc3Po3CnPo4PdPsPePsPePsPePo3SmPdSm3CnPoScPo2Cn4Lo5CnLo135Cn2CfCnPo3ScPo3PsPePoSmPoPdPo2Nd10Po2Sm3",
   "Po2Lu26PsPoPeSkPcSkLl26PsSmPeSmPsPePoPsPePo2Lo10LmLo45Lm2Lo31Cn3Lo6Cn2Lo6Cn2Lo6Cn2Lo3Cn3Sc2SmSkSoSc2CnSo",
   "Sm4So2Cn10Cf3So2Cn2Lo12CnLo26CnLo19CnLo2CnLo15Cn2Lo14Cn34Lo123Cn5Po3Cn4No45Cn3So9Nl53No4So17No2So3CnSo13",
   "Cn3SoCn47So45MnCn130Lo29Cn3Lo49Cn15MnNo27Cn4Lo32No4Cn9Lo20NlLo8NlCn5Lo38Mn5Cn5Lo30CnPoLo36Cn4Lo8PoNl5",
   "Cn42Lu40Ll40Lo78Cn2Nd10Cn6Lu36Cn4Ll36Cn4Lo40Cn8Lo52Cn11PoLu11CnLu15CnLu7CnLu2CnLl11CnLl15CnLl7CnLl2Cn3",
   "Lo52Cn12Lo311Cn9Lo22Cn10Lo8Cn24Lm6CnLm42CnLm9Cn69Lo6Cn2LoCnLo44CnLo2Cn3LoCn2Lo23CnPoNo8Lo23So2No7Lo31Cn8",
   "No9Cn48Lo19CnLo2Cn5No5Lo22No6Cn3PoLo26Cn5PoLo26Cn38Lo56Cn4No2Lo2No16Cn2No46LoMn3CnMn2Cn5Mn4Lo4CnLo3Cn",
   "Lo29Cn2Mn3Cn4MnNo9Cn7Po9Cn7Lo29No2PoLo29No3Cn32Lo8SoLo28Mn2Cn4No5Po7Cn9Lo54Cn3Po7Lo22Cn2No8Lo19Cn5No8",
   "Lo18Cn7Po4Cn12No7Cn80Lo73Cn55Lu51Cn13Ll51Cn7No6Lo36Mn4Cn8Nd10Cn6Nd10Lo4LmLoLu22Cn3Mn5PdLmLl22Cn8Sm2Cn208",
   "No31CnLo42CnMn2PdCn2Lo2Cn16Lo3LmLo2Cn8PoSo8Cn33Mn6Lo29No10LoCn8Lo22Mn11No4Po5Cn22Lo18Mn4Po4Cn38Lo21No7",
   "Cn20Lo23Cn9McMnMcLo53Mn15Po7Cn4No20Nd10MnLo2Mn2LoCn9Mn3McLo45Mc3Mn4Mc2Mn2Po2CfPo4MnCn10CfCn2Lo25Cn7Nd10",
   "Cn6Mn3Lo36Mn5McMn8CnNd10Po4LoMc2LoCn8Lo35MnPo2LoCn9Mn2McLo48Mc3Mn9Mc2Lo4Po4Mn4PoMcMnNd10LoPoLoPo3CnNo20",
   "Cn11Lo18CnLo25Mc3Mn3Mc2MnMcMn2Po6MnLo2MnCn62Lo7CnLoCnLo4CnLo15CnLo10PoCn6Lo47MnMc3Mn8Cn5Nd10Cn6Mn2Mc2Cn",
   "Lo8Cn2Lo2Cn2Lo22CnLo7CnLo2CnLo5CnMn2LoMc2MnMc4Cn2Mc2Cn2Mc3Cn2LoCn6McCn5Lo5Mc2Cn2Mn7Cn3Mn5Cn11Lo10CnLoCn2",
   "LoCnLo38CnLoMc3Mn6CnMcCn2McCnMc4CnMc2MnMcMnLoMnLoPo2CnPo2Cn8Mn2Cn29Lo53Mc3Mn8Mc2Mn3McMnLo4Po5Nd10Po2CnPo",
   "MnLo3Cn30Lo48Mc3Mn6McMnMc4Mn2McMn2Lo2PoLoCn8Nd10Cn166Lo47Mc3Mn4Cn2Mc4Mn2McMn2Po23Lo4Mn2Cn34Lo48Mc3Mn8Mc2",
   "MnMcMn2Po3LoCn11Nd10Cn6Po13Cn19Lo43MnMcMnMc2Mn6McMnLoPoCn6Nd10Cn6Nd20Cn28Lo27Cn2MnMcMnMc2Mn4McMn5Cn4Nd10",
   "No2Po3SoLo7Cn185Lo44Mc3Mn9McMn2PoCn100Lu32Ll32Nd10No9Cn12Lo8Cn2LoCn2Lo8CnLo2CnLo24Mc6CnMc2Cn2Mn2McMnLoMc",
   "LoMcMnPo3Cn9Nd10Cn70Lo8Cn2Lo39Mc3Mn4Cn2Mn2Mc4MnLoPoLoMcCn27LoMn10Lo40Mn6McLoMn4Po8MnCn8LoMn6Mc2Mn3Lo46",
   "Mn13McMn2Po3LoPo5Cn13Lo73Cn7Po10Cn86MnMcMn3McMnMcCn88Lo33PoCn14Nd10Cn6Lo9CnLo37McMn7CnMn6McMnLoPo5Cn10",
   "Nd10No19Cn3Po2Lo30Cn2Mn22CnMcMn7McMn2McMn2Cn73Lo7CnLo2CnLo38Mn6Cn3MnCnMn2CnMn7LoMnCn8Nd10Cn6Lo6CnLo2Cn",
   "Lo32Mc5CnMn2CnMc2MnMcMnLoCn7Nd10Cn6Lo41LmLo2Cn4Nd10Cn246Lo19Mn2Mc2Po2Cn7Mn2LoMcLo13CnLo34Mc2Mn5Cn3Mc2Mn",
   "McMnPo13Nd10MnCn85LoCn15No21So8Sc4So17Cn13PoLo922Cn102Nl111CnPo5Cn11Lo196Cn2636Lo97Po2Cn13Lo1072Cf16Mn",
   "Lo6Mn15Cn10Lo3995Cn5Lo583Cn6841Lo30Mn12Mc3Mn3Nd10Cn1734Lo569Cn7Lo31CnNd10Cn4Po2Lo79CnNd10Cn6Lo30Cn2Mn5Po",
   "Cn10Lo48Mn7Po5So4Lm4PoSoCn10Nd10CnNo7CnLo21Cn5Lo19Cn432Lm3Lo40Lm2Po3Nd10Cn198Lu32Ll32No23Po4Cn5Lu25Cn2",
   "Ll25Cn44Lo75Cn4MnLoMc55Cn7Mn4Lm13Cn64Lm2PoLmMnCn11Mc2Lm2Nl3Cn9Lo7382Cn41Lo32Cn97Lo115Cn8701Lm4CnLm7CnLm2",
   "CnLo291Cn15LoCn29Lo3Cn2LoCn14Lo4Cn8Lo396Cn2308Lo107Cn5Lo13Cn3Lo9Cn7Lo10Cn2SoMn2PoCf4Cn3932So240Nd10So3",
   "Cn3So436Cn6So23Cn15So16SmCn15Mn46Cn2Mn23Cn9So116Cn60So246Cn10So39Cn2So60Mc2Mn3So3Mc6Cf8Mn8So2Mn7So30Mn4",
   "So61Cn21So66Mn3SoCn122No20Cn12No20Cn12So87Cn9No25Cn135Lu26Ll26Lu26Ll7CnLl18Lu26Ll26LuCnLu2Cn2LuCn2Lu2Cn2",
   "Lu4CnLu8Ll4CnLlCnLl7CnLl11Lu26Ll26Lu2CnLu4Cn2Lu8CnLu7CnLl26Lu2CnLu4CnLu5CnLuCn3Lu7CnLl26Lu26Ll26Lu26Ll26",
   "Lu26Ll26Lu26Ll26Lu26Ll26Lu26Ll28Cn2Lu25SmLl25SmLl6Lu25SmLl25SmLl6Lu25SmLl25SmLl6Lu25SmLl25SmLl6Lu25Sm",
   "Ll25SmLl6LuLlCn2Nd50So512Mn55So4Mn50So8MnSo14MnSo2Po5Cn15Mn5CnMn15Cn1104Ll10LoLl20Cn6Ll6Cn213Mn7CnMn17",
   "Cn2Mn7CnMn2CnMn5Cn5Lm62Cn33MnCn112Lo45Cn3Mn7Lm7Cn2Nd10Cn4LoSoCn320Lo30MnCn17Lo44Mn4Nd10Cn5ScCn464Lo27Lm",
   "Mn4Nd10Cn214Lo30Mn2LoNd10Cn4PoCn192Lo31CnLo3MnLo2MnLo7Mn2Lo5MnCn8LoLmCn224Lo7CnLo4CnLo2CnLo15CnLo197Cn2",
   "No9Mn7Cn41Lu34Ll34Mn7LmCn4Nd10Cn4Po2Cn785No59SoNo3ScNo4Cn76No45SoNo15Cn194Lo4CnLo27CnLo2CnLoCn2LoCnLo10",
   "CnLo4CnLoCnLoCn6LoCn4LoCnLoCnLoCnLo3CnLo2CnLoCn2LoCnLoCnLoCnLoCnLoCnLo2CnLoCn2Lo4CnLo7CnLo4CnLo4CnLoCn",
   "Lo10CnLo17Cn5Lo3CnLo5CnLo17Cn52Sm2Cn270So44Cn4So100Cn12So15Cn2So15CnSo15CnSo37Cn10No13So161Cn56So29Cn13",
   "So44Cn4So9Cn7So2Cn14So6Cn154So251Sk5So729Cn3So17Cn3So13Cn3So218Cn6So12Cn4SoCn15So12Cn4So56Cn8So10Cn6So40",
   "Cn8So30Cn2So12Cn4So2Cn14Sm9Cn39So344Cn8So14Cn2So13Cn3So11Cn3So57CnSoCn4So16Cn2So12Cn4So10Cn7So147CnSo92",
   "Nd10SoCn1029Lo42720Cn32Lo4382Cn2Lo5774Cn2Lo7473Cn15Lo622Cn2466Lo542Cn1506Lo4939Cn5Lo8490Cn707463CfCn30",
   "Cf96Cn128Mn240Cn65040Co65534Cn2Co65534Cn2"]

def categoryRuns : List Run := Run.ofText categoryTable

/-- The characters of some categories. -/
def Edition.ofCategory (e : Edition) (p : String → Bool) : CharSet :=
  let set := Run.select categoryRuns p
  if p "Cn" then set.union e.missing else set.diff e.missing

/-- The characters of the categories of a list. -/
def Edition.ofCategories (e : Edition) (names : List String) : CharSet := e.ofCategory names.contains

/-- The names of a category or a group, the short one first, and the categories that it has. -/
structure CategoryName where
  names : List String
  categories : List String
deriving DecidableEq, Repr

def categoryNames : List CategoryName :=
  [⟨["Lu", "Uppercase_Letter"], ["Lu"]⟩,
   ⟨["Ll", "Lowercase_Letter"], ["Ll"]⟩,
   ⟨["Lt", "Titlecase_Letter"], ["Lt"]⟩,
   ⟨["Lm", "Modifier_Letter"], ["Lm"]⟩,
   ⟨["Lo", "Other_Letter"], ["Lo"]⟩,
   ⟨["Mn", "Nonspacing_Mark"], ["Mn"]⟩,
   ⟨["Mc", "Spacing_Mark"], ["Mc"]⟩,
   ⟨["Me", "Enclosing_Mark"], ["Me"]⟩,
   ⟨["Nd", "Decimal_Number", "digit"], ["Nd"]⟩,
   ⟨["Nl", "Letter_Number"], ["Nl"]⟩,
   ⟨["No", "Other_Number"], ["No"]⟩,
   ⟨["Pc", "Connector_Punctuation"], ["Pc"]⟩,
   ⟨["Pd", "Dash_Punctuation"], ["Pd"]⟩,
   ⟨["Ps", "Open_Punctuation"], ["Ps"]⟩,
   ⟨["Pe", "Close_Punctuation"], ["Pe"]⟩,
   ⟨["Pi", "Initial_Punctuation"], ["Pi"]⟩,
   ⟨["Pf", "Final_Punctuation"], ["Pf"]⟩,
   ⟨["Po", "Other_Punctuation"], ["Po"]⟩,
   ⟨["Sm", "Math_Symbol"], ["Sm"]⟩,
   ⟨["Sc", "Currency_Symbol"], ["Sc"]⟩,
   ⟨["Sk", "Modifier_Symbol"], ["Sk"]⟩,
   ⟨["So", "Other_Symbol"], ["So"]⟩,
   ⟨["Zs", "Space_Separator"], ["Zs"]⟩,
   ⟨["Zl", "Line_Separator"], ["Zl"]⟩,
   ⟨["Zp", "Paragraph_Separator"], ["Zp"]⟩,
   ⟨["Cc", "Control", "cntrl"], ["Cc"]⟩,
   ⟨["Cf", "Format"], ["Cf"]⟩,
   ⟨["Cs", "Surrogate"], ["Cs"]⟩,
   ⟨["Co", "Private_Use"], ["Co"]⟩,
   ⟨["Cn", "Unassigned"], ["Cn"]⟩,
   ⟨["LC", "Cased_Letter"], ["Lu", "Ll", "Lt"]⟩,
   ⟨["L", "Letter"], ["Lu", "Ll", "Lt", "Lm", "Lo"]⟩,
   ⟨["M", "Mark", "Combining_Mark"], ["Mn", "Mc", "Me"]⟩,
   ⟨["N", "Number"], ["Nd", "Nl", "No"]⟩,
   ⟨["P", "Punctuation", "punct"], ["Pc", "Pd", "Ps", "Pe", "Pi", "Pf", "Po"]⟩,
   ⟨["S", "Symbol"], ["Sm", "Sc", "Sk", "So"]⟩,
   ⟨["Z", "Separator"], ["Zs", "Zl", "Zp"]⟩,
   ⟨["C", "Other"], ["Cc", "Cf", "Cs", "Co", "Cn"]⟩]

end ProgramRom.Unicode
