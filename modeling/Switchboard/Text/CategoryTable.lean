/-!
# General category table

The Unicode general category of every code point as runs from U+0000 on: the length of the run in
hexadecimal digits, left out when it is one, and the two letters of the category.
-/

namespace Switchboard.Category

def tableLines : List String :=
  ["20CcZs3PoSc3PoPsPePoSmPoPd2PoaNd2Po3Sm2Po1aLuPsPoPeSkPcSk1aLlPsSmPeSm21CcZsPo4ScSoPoSkSoLoPi",
   "SmCfSoSkSoSm2NoSkLl2PoSkNoLoPf3NoPo17LuSm7Lu18LlSm8LlLuLlLuLlLuLlLuLlLuLlLuLlLuLlLuLlLuLlLuL",
   "lLuLlLuLlLuLlLuLlLuLlLuLlLuLlLuLlLuLlLuLlLuLlLuLlLuLlLuLlLuLlLuLlLuLlLu2LlLuLlLuLlLuLlLuLlLu",
   "LlLuLlLuLlLu2LlLuLlLuLlLuLlLuLlLuLlLuLlLuLlLuLlLuLlLuLlLuLlLuLlLuLlLuLlLuLlLuLlLuLlLuLlLuLlL",
   "uLlLuLlLuLlLuLl2LuLlLuLlLu3Ll2LuLlLuLl2LuLl3Lu2Ll4LuLl2LuLl3Lu3Ll2LuLl2LuLlLuLlLuLl2LuLlLu2L",
   "lLuLl2LuLl3LuLlLuLl2Lu2LlLoLu3Ll4LoLuLtLlLuLtLlLuLtLlLuLlLuLlLuLlLuLlLuLlLuLlLuLlLu2LlLuLlLu",
   "LlLuLlLuLlLuLlLuLlLuLlLuLlLu2LlLuLtLlLuLl3LuLlLuLlLuLlLuLlLuLlLuLlLuLlLuLlLuLlLuLlLuLlLuLlLu",
   "LlLuLlLuLlLuLlLuLlLuLlLuLlLuLlLuLlLuLlLuLlLuLlLuLlLuLlLuLlLuLlLuLlLu7Ll2LuLl2Lu2LlLuLl4LuLlL",
   "uLlLuLlLuLlLu45Ll2Lo1aLl12Lm4SkcLmeSk5Lm7SkLmSkLm11Sk70MnLuLlLuLlLmSkLuLl2CnLm3LlPoLu4Cn2SkL",
   "uPo3LuCnLuCn2LuLl11LuCn9Lu23LlLu2Ll3Lu3LlLuLlLuLlLuLlLuLlLuLlLuLlLuLlLuLlLuLlLuLlLuLlLu5LlLu",
   "LlSmLuLl2Lu2Ll33Lu30LlLuLlLuLlLuLlLuLlLuLlLuLlLuLlLuLlLuLlLuLlLuLlLuLlLuLlLuLlLuLlLuLlLuLlSo",
   "5Mn2MeLuLlLuLlLuLlLuLlLuLlLuLlLuLlLuLlLuLlLuLlLuLlLuLlLuLlLuLlLuLlLuLlLuLlLuLlLuLlLuLlLuLlLu",
   "LlLuLlLuLlLuLlLuLlLuLl2LuLlLuLlLuLlLuLlLuLlLuLlLu2LlLuLlLuLlLuLlLuLlLuLlLuLlLuLlLuLlLuLlLuLl",
   "LuLlLuLlLuLlLuLlLuLlLuLlLuLlLuLlLuLlLuLlLuLlLuLlLuLlLuLlLuLlLuLlLuLlLuLlLuLlLuLlLuLlLuLlLuLl",
   "LuLlLuLlLuLlLuLlLuLlLuLlLuLlLuLlLuLlLuLlLuLlLuLlLuLlLuLlLuLlCn26Lu2CnLm6Po29LlPoPd2Cn2SoScCn",
   "2dMnPdMnPo2MnPo2MnPoMn8Cn1bLo4Cn4Lo2PobCn6Cf3Sm2PoSc2Po2SobMnPoCf3Po20LoLmaLo15MnaNd4Po2LoMn",
   "63LoPoLo7MnCfSo6Mn2Lm2MnSo4Mn2LoaNd3Lo2SoLoePoCnCfLoMn1eLo1bMn2Cn59LobMnLoeCnaNd21Lo9Mn2LmSo",
   "3PoLm2CnMn2Sc16Lo4MnLm9MnLm3MnLm5Mn2CnfPoCn19Lo3Mn2CnPoCnbLo5Cn18LoSk7Lo2Cf5Cn9Mn29LoLm18MnC",
   "f20MnMc36LoMnMcMnLo3Mc8Mn4McMn2McLo7MnaLo2Mn2PoaNdPoLmfLoMn2McCn8Lo2Cn2Lo2Cn16LoCn7LoCnLo3Cn",
   "4Lo2CnMnLo3Mc4Mn2Cn2Mc2Cn2McMnLo8CnMc4Cn2LoCn3Lo2Mn2CnaNd2Lo2Sc6NoSoScLoPoMn2Cn2MnMcCn6Lo4Cn",
   "2Lo2Cn16LoCn7LoCn2LoCn2LoCn2Lo2CnMnCn3Mc2Mn4Cn2Mn2Cn3Mn3CnMn7Cn4LoCnLo7CnaNd2Mn3LoMnPoaCn2Mn",
   "McCn9LoCn3LoCn16LoCn7LoCn2LoCn5Lo2CnMnLo3Mc5MnCn2MnMcCn2McMn2CnLofCn2Lo2Mn2CnaNdPoSc7CnLo6Mn",
   "CnMn2McCn8Lo2Cn2Lo2Cn16LoCn7LoCn2LoCn5Lo2CnMnLoMcMnMc4Mn2Cn2Mc2Cn2McMn7Cn2MnMc4Cn2LoCn3Lo2Mn",
   "2CnaNdSoLo6NoaCnMnLoCn6Lo3Cn3LoCn4Lo3Cn2LoCnLoCn2Lo3Cn2Lo3Cn3Lo3CncLo4Cn2McMn2Mc3Cn3McCn3McM",
   "n2CnLo6CnMceCnaNd3No6SoScSo5CnMn3McMn8LoCn3LoCn17LoCn10Lo2CnMnLo3Mn4McCn3MnCn4Mn7Cn2MnCn3LoC",
   "n2Lo2Cn2Lo2Mn2CnaNd7CnPo7NoSoLoMn2McPo8LoCn3LoCn17LoCnaLoCn5Lo2CnMnLoMcMn5McCnMn2McCn2Mc2Mn7",
   "Cn2Mc5Cn3LoCn2Lo2Mn2CnaNdCn2LoMccCn2Mn2Mc9LoCn3LoCn29Lo2MnLo3Mc4MnCn3McCn3McMnLoSo4Cn3LoMc7N",
   "o3Lo2Mn2CnaNd9NoSo6LoCnMn2McCn12Lo3Cn18LoCn9LoCnLo2Cn7Lo3CnMn4Cn3Mc3MnCnMnCn8Mc6CnaNd2Cn2McP",
   "ocCn30LoMn2Lo7Mn4CnSc6LoLm8MnPoaNd2Po25Cn2LoCnLoCn5LoCn18LoCnLoCnaLoMn2Lo9MnLo2Cn5LoCnLmCn7M",
   "nCnaNd2Cn4Lo20CnLo3SofPoSoPo3So2Mn6SoaNdaNoSoMnSoMnSoMnPsPePsPe2Mc8LoCn24Lo4CneMnMc5MnPo2Mn5",
   "LobMnCn24MnCn8SoMn6SoCn2So5Po4So2Po25Cn2bLo2Mc4MnMc6MnMc2Mn2Mc2MnLoaNd6Po6Lo2Mc2Mn4Lo3MnLo3M",
   "c2Lo7Mc3Lo4MndLoMn2Mc2Mn6McMnLoMcaNd3McMn2So26LuCnLu5CnLu2Cn2bLlPoLm3Ll149LoCn4Lo2Cn7LoCnLoC",
   "n4Lo2Cn29LoCn4Lo2Cn21LoCn4Lo2Cn7LoCnLoCn4Lo2CnfLoCn39LoCn4Lo2Cn43Lo2Cn3Mn9Po14No3Cn10LoaSo6C",
   "n56Lu2Cn6Ll2CnPd26cLoSoPo11LoZs1aLoPsPe3Cn4bLo3Po3Nl8Lo7Cn12Lo3MnMc9Cn13Lo2MnMc2Po9Cn12Lo2Mn",
   "cCndLoCn3LoCn2MncCn34Lo2MnMc7Mn8McMn2McbMn3PoLm3PoScLoMn2CnaNd6CnaNo6Cn6PoPd4Po3MnCfMnaNd6Cn",
   "23LoLm35Lo7Cn5Lo2Mn22LoMnLo5Cn46LoaCn1fLoCn3Mn4Mc2Mn3Mc4Cn2McMn6Mc3Mn4CnSo3Cn2PoaNd1eLo2Cn5L",
   "obCn2cLo4Cn1aLo6CnaNdNo3Cn22So17Lo2Mn2McMn2Cn2Po35LoMcMnMc7MnCnMnMcMn2Mc8Mn6McaMn2CnMnaNd6Cn",
   "aNd6Cn7PoLm6Po2CneMnMe1fMn2CncMn14Cn4MnMc2fLoMnMc5MnMcMn5McMn2Mc8LoCn2PoaNd7PoaSo9Mn9So3Po2M",
   "nMc1eLoMc4Mn2Mc2MnMc3Mn2LoaNd2cLoMnMc2Mn3McMnMc3Mn2Mc8Cn4Po24Lo8Mc8Mn2Mc2Mn3Cn5PoaNd3Cn3LoaN",
   "d1eLo6Lm2Po9LlLuLl5Cn2bLu2Cn3Lu8Po8Cn3MnPodMnMc7Mn4LoMn6LoMn2LoMc2MnLo5Cn2cLl3fLmdLlLm22Ll25",
   "Lm40MnLuLlLuLlLuLlLuLlLuLlLuLlLuLlLuLlLuLlLuLlLuLlLuLlLuLlLuLlLuLlLuLlLuLlLuLlLuLlLuLlLuLlLu",
   "LlLuLlLuLlLuLlLuLlLuLlLuLlLuLlLuLlLuLlLuLlLuLlLuLlLuLlLuLlLuLlLuLlLuLlLuLlLuLlLuLlLuLlLuLlLu",
   "LlLuLlLuLlLuLlLuLlLuLlLuLlLuLlLuLlLuLlLuLlLuLlLuLlLuLlLuLlLuLlLuLlLuLlLuLlLuLlLuLlLuLlLuLlLu",
   "LlLuLlLuLlLuLlLuLlLuLlLuLlLu9LlLuLlLuLlLuLlLuLlLuLlLuLlLuLlLuLlLuLlLuLlLuLlLuLlLuLlLuLlLuLlL",
   "uLlLuLlLuLlLuLlLuLlLuLlLuLlLuLlLuLlLuLlLuLlLuLlLuLlLuLlLuLlLuLlLuLlLuLlLuLlLuLlLuLlLuLlLuLlL",
   "uLlLuLlLuLlLuLlLuLlLuLlLuLlLuLlLuLlLuLlLu9Ll8Lu6Ll2Cn6Lu2Cn8Ll8Lu8Ll8Lu6Ll2Cn6Lu2Cn8LlCnLuCn",
   "LuCnLuCnLu8Ll8LueLl2Cn8Ll8Lt8Ll8Lt8Ll8Lt5LlCn2Ll4LuLtSkLl3Sk3LlCn2Ll4LuLt3Sk4Ll2Cn2Ll4LuCn3S",
   "k8Ll5Lu3Sk2Cn3LlCn2Ll4LuLt2SkCnbZs5Cf6Pd2PoPiPfPs2PiPfPsPi8PoZlZp5CfZs9PoPiPf4Po2Pc3PoSmPsPe",
   "bPoSmPoPcaPoZs5CfCnaCfNoLm2Cn6No3SmPsPeLmaNo3SmPsPeCndLm3Cn22SceCndMn4MeMn3MecMnfCn2SoLu4SoL",
   "u2SoLl3Lu2Ll3LuLlSoLu2SoSm5Lu6SoLuSoLuSoLuSo4LuSoLl4LuLl4LoLl2So2Ll2Lu5SmLu4LlSoSm2SoLlSo10N",
   "o23NlLuLl4NlNo2So4Cn5Sm5So2Sm4SoSm2SoSm2SoSm7SoSm1fSo2Sm2SoSmSoSm1fSo10cSm8SoPsPePsPe14So2Sm",
   "7SoPsPe51SoSm1eSo19Sm28So6Sm48So16CnbSo15Cn3cNo4eSo16Nob7SoSm9SoSm36So8Sm6fSoSmf8SoPsPePsPeP",
   "sPePsPePsPePsPePsPe1eNo2cSo5SmPsPe1fSmPsPePsPePsPePsPePsPe10Sm100So83SmPsPePsPePsPePsPePsPeP",
   "sPePsPePsPePsPePsPePsPe3fSmPsPePsPe20SmPsPe102Sm30So15Sm2So6Sm27So2Cn8aSo30Lu30LlLuLl3Lu2LlL",
   "uLlLuLlLuLl4LuLlLu2LlLu6Ll2Lm3LuLlLuLlLuLlLuLlLuLlLuLlLuLlLuLlLuLlLuLlLuLlLuLlLuLlLuLlLuLlLu",
   "LlLuLlLuLlLuLlLuLlLuLlLuLlLuLlLuLlLuLlLuLlLuLlLuLlLuLlLuLlLuLlLuLlLuLlLuLlLuLlLuLlLuLlLuLlLu",
   "LlLuLlLuLlLuLlLuLlLuLlLuLlLuLlLuLlLuLlLuLlLu2Ll6SoLuLlLuLl3MnLuLl5Cn4PoNo2Po26LlCnLl5CnLl2Cn",
   "38Lo7CnLmPoeCnMn17Lo9Cn7LoCn7LoCn7LoCn7LoCn7LoCn7LoCn7LoCn7LoCn20Mn2PoPiPfPiPf3PoPiPfPoPiPf9",
   "PoPd2PoPdPoPiPf2PoPiPfPsPePsPePsPePsPe5PoLmaPo2Pd4PoPdPoPsdPo2So3PoPsPePsPePsPePsPePd22Cn1aS",
   "oCn59SocCnd6So1aCn10SoZs3PoSoLmLoNlPsPePsPePsPePsPePsPe2SoPsPePsPePsPePsPePdPs2PeSo9Nl4Mn2Mc",
   "Pd5Lm2So3NlLmLoPo2SoCn56Lo2Cn2Mn2Sk2LmLoPd5aLoPo3LmLo5Cn2bLoCn5eLoCn2So4NoaSo20Lo26So9CnSo10",
   "Lo1fSoCnaNo1eSo8NoSofNo20SoaNo27SofNo140So19c0Lo40So5215LoLm477Lo3Cn37So9Cn28Lo6Lm2Po10cLoLm",
   "3Po10LoaNd2Lo14CnLuLlLuLlLuLlLuLlLuLlLuLlLuLlLuLlLuLlLuLlLuLlLuLlLuLlLuLlLuLlLuLlLuLlLuLlLuL",
   "lLuLlLuLlLuLlLuLlLoMn3MePoaMnPoLmLuLlLuLlLuLlLuLlLuLlLuLlLuLlLuLlLuLlLuLlLuLlLuLlLuLlLuLl2Lm",
   "2Mn46LoaNl2Mn6Po8Cn17Sk9Lm2SkLuLlLuLlLuLlLuLlLuLlLuLlLu3LlLuLlLuLlLuLlLuLlLuLlLuLlLuLlLuLlLu",
   "LlLuLlLuLlLuLlLuLlLuLlLuLlLuLlLuLlLuLlLuLlLuLlLuLlLuLlLuLlLuLlLuLlLuLlLuLlLuLlLuLlLuLlLuLlLm",
   "8LlLuLlLuLl2LuLlLuLlLuLlLuLlLuLlLm2SkLuLlLuLlLoLuLlLu3LlLuLlLuLlLuLlLuLlLuLlLuLlLuLlLuLlLuLl",
   "LuLl5LuLl5LuLlLuLlLuLlLuLlLuLlLuLlLuLlLuLl4LuLlLuLl2LuLlLuLlLuLlLuLlLuLlLuLlLuLlLuLlLu14Cn4L",
   "mLuLlLo2LmLl7LoMn3LoMn4LoMn17Lo2Mc2MnMc4SoMn3Cn6No2SoScSo6Cn34Lo4Po8Cn2Mc32Lo10Mc2Mn8Cn2PoaN",
   "d6Cn12Mn6Lo3PoLoPo2LoMnaNd1cLo8Mn2Po17LobMn2McbCnPo1dLo3Cn3MnMc2fLoMn2Mc4Mn2Mc2Mn3McdPoCnLma",
   "Nd4Cn2Po5LoMnLm9LoaNd5LoCn29Lo6Mn2Mc2Mn2Mc2Mn9Cn3LoMn8LoMnMc2CnaNd2Cn4Po10LoLm6Lo3SoLoMcMnMc",
   "32LoMnLo3Mn2Lo2Mn5Lo2MnLoMnLo18Cn2LoLm2PobLoMc2Mn2Mc2PoLo2LmMcMnaCn6Lo2Cn6Lo2Cn6Lo9Cn7LoCn7L",
   "oCn2bLlSk4Lm9LlLm2Sk4Cn50Ll23Lo2McMn2McMn2McPoMcMn2CnaNd6Cn2ba4LocCn17Lo4Cn31Lo4Cn800Cs1900C",
   "o16eLo2Cn6aLo26Cn7LlcCn5Ll5CnLoMnaLoSmdLoCn5LoCnLoCn2LoCn2LoCn6cLo11Sk10So16bLoPePs10So40Lo2",
   "So36Lo8So20CncLoSc3So10Mn7PoPsPePo6Cn10MnPo2Pd2PcPsPePsPePsPePsPePsPePsPePsPePsPe2PoPsPe4Po3",
   "Pc3PoCn4PoPdPsPePsPePsPe3PoSmPd3SmCnPoSc2Po4Cn5LoCn87Lo2CnCfCn3PoSc3PoPsPePoSmPoPd2PoaNd2Po3",
   "Sm2Po1aLuPsPoPeSkPcSk1aLlPsSmPeSmPsPePoPsPe2PoaLoLm2dLo2Lm1fLo3Cn6Lo2Cn6Lo2Cn6Lo2Cn3Lo3Cn2Sc",
   "SmSkSo2ScCnSo4Sm2SoaCn3Cf2So2CncLoCn1aLoCn13LoCn2LoCnfLo2CneLo22Cn7bLo5Cn3Po4Cn2dNo3Cn9So35N",
   "l4No11So2No3SoCndSo3CnSo2fCn2dSoMn82Cn1dLo3Cn31LofCnMn1bNo4Cn20Lo4No9Cn14LoNl8LoNl5Cn26Lo5Mn",
   "5Cn1eLoCnPo24Lo4Cn8LoPo5Nl2aCn28Lu28Ll4eLo2CnaNd6Cn24Lu4Cn24Ll4Cn28Lo8Cn34LobCnPobLuCnfLuCn7",
   "LuCn2LuCnbLlCnfLlCn7LlCn2Ll3Cn34LocCn137Lo9Cn16LoaCn8Lo18Cn6LmCn2aLmCn9Lm45Cn6Lo2CnLoCn2cLoC",
   "n2Lo3CnLo2Cn17LoCnPo8No17Lo2So7No1fLo8Cn9No30Cn13LoCn2Lo5Cn5No16Lo6No3CnPo1aLo5CnPo1aLo26Cn3",
   "8Lo4Cn2No2Lo10No2Cn2eNoLo3MnCn2Mn5Cn4Mn4LoCn3LoCn1dLo2Cn3Mn4CnMn9No7Cn9Po7Cn1dLo2NoPo1dLo3No",
   "20Cn8LoSo1cLo2Mn4Cn5No7Po9Cn36Lo3Cn7Po16Lo2Cn8No13Lo5Cn8No12Lo7Cn4PocCn7No50Cn49Lo37Cn33LudC",
   "n33Ll7Cn6No24Lo4Mn8CnaNd6CnaNd4LoLmLo16Lu3Cn5MnPdLm16Ll8Cn2Smd0Cn1fNoCn2aLoCn2MnPd2Cn2Lo10Cn",
   "3LoLm2Lo8CnPo8So21Cn6Mn1dLoaNoLo8Cn16LobMn4No5Po16Cn12Lo4Mn4Po26Cn15Lo7No14Cn17Lo9CnMcMnMc35",
   "LofMn7Po4Cn14NoaNdMn2Lo2MnLo9Cn3MnMc2dLo3Mc4Mn2Mc2Mn2PoCf4PoMnaCnCf2Cn19Lo7CnaNd6Cn3Mn24Lo5M",
   "nMc8MnCnaNd4PoLo2McLo8Cn23LoMn2PoLo9Cn2MnMc30Lo3Mc9Mn2Mc4Lo4Po4MnPoMcMnaNdLoPoLo3PoCn14NobCn",
   "12LoCn19Lo3Mc3Mn2McMnMc2Mn6PoMn2LoMn3eCn7LoCnLoCn4LoCnfLoCnaLoPo6Cn2fLoMn3Mc8Mn5CnaNd6Cn2Mn2",
   "McCn8Lo2Cn2Lo2Cn16LoCn7LoCn2LoCn5LoCn2MnLo2McMn4Mc2Cn2Mc2Cn3Mc2CnLo6CnMc5Cn5Lo2Mc2Cn7Mn3Cn5M",
   "nbCnaLoCnLo2CnLoCn26LoCnLo3Mc6MnCnMc2CnMcCn4McCn2McMnMcMnLoMnLo2PoCn2Po8Cn2Mn1dCn35Lo3Mc8Mn2",
   "Mc3MnMcMn4Lo5PoaNd2PoCnPoMn3Lo1eCn30Lo3Mc6MnMcMn4Mc2MnMc2Mn2LoPoLo8CnaNda6Cn2fLo3Mc4Mn2Cn4Mc",
   "2MnMc2Mn17Po4Lo2Mn22Cn30Lo3Mc8Mn2McMnMc2Mn3PoLobCnaNd6CndPo13Cn2bLoMnMcMn2Mc6MnMcMnLoPo6CnaN",
   "d6Cn14Nd1cCn1bLo2CnMnMcMn2Mc4MnMc5Mn4CnaNd2No3PoSo7Lob9Cn2cLo3Mc9MnMc2MnPo64Cn20Lu20LlaNd9No",
   "cCn8Lo2CnLo2Cn8LoCn2LoCn18Lo6McCn2Mc2Cn2MnMcMnLoMcLoMcMn3Po9CnaNd46Cn8Lo2Cn27Lo3Mc4Mn2Cn2Mn4",
   "McMnLoPoLoMc1bCnLoaMn28Lo6MnMcLo4Mn8PoMn8CnLo6Mn2Mc3Mn2eLodMnMc2Mn3PoLo5PodCn49Lo7CnaPo56CnM",
   "nMc3MnMcMnMc58Cn21LoPoeCnaNd6Cn9LoCn25LoMc7MnCn6MnMcMnLo5PoaCnaNd13No3Cn2Po1eLo2Cn16MnCnMc7M",
   "nMc2MnMc2Mn49Cn7LoCn2LoCn26Lo6Mn3CnMnCn2MnCn7MnLoMn8CnaNd6Cn6LoCn2LoCn20Lo5McCn2MnCn2McMnMcM",
   "nLo7CnaNd6Cn29LoLm2Lo4CnaNdf6Cn13Lo2Mn2Mc2Po7Cn2MnLoMcdLoCn22Lo2Mc5Mn3Cn2McMnMcMndPoaNdMn55C",
   "nLofCn15No8So4Sc11SodCnPo39aLo66Cn6fNlCn5PobCnc4Loa4cCn61Lo2PodCn430Lo10CfMn6LofMnaCnf9bLo5C",
   "n247Lo1ab9Cn1eLocMn3Mc3MnaNd6c6Cn239Lo7Cn1fLoCnaNd4Cn2Po4fLoCnaNd6Cn1eLo2Cn5MnPoaCn30Lo7Mn5P",
   "o4So4LmPoSoaCnaNdCn7NoCn15Lo5Cn13Lo1b0Cn3Lm28Lo2Lm3PoaNdc6Cn20Lu20Ll17No4Po5Cn19Lu2Cn19Ll2cC",
   "n4bLo4CnMnLo37Mc7Cn4MndLm40Cn2LmPoLmMnbCn2Mc2Lm3Nl9Cn1cd6Lo29Cn20Lo61Cn73Lo21fdCn4LmCn7LmCn2",
   "LmCn123LofCnLo1dCn3Lo2CnLoeCn4Lo8Cn18cLo904Cn6bLo5CndLo3Cn9Lo7CnaLo2CnSo2MnPo4Cff5cCnf0SoaNd",
   "3So3Cn1b4So6Cn17SofCn10SoSmfCn2eMn2Cn17Mn9Cn74So3cCnf6SoaCn27So2Cn3cSo2Mc3Mn3So6Mc8Cf8Mn2So7",
   "Mn1eSo4Mn3dSo15Cn42So3MnSo7aCn14NocCn14NocCn57So9Cn19No87Cn1aLu1aLl1aLu7LlCn12Ll1aLu1aLlLuCn",
   "2Lu2CnLu2Cn2Lu2Cn4LuCn8Lu4LlCnLlCn7LlCnbLl1aLu1aLl2LuCn4Lu2Cn8LuCn7LuCn1aLl2LuCn4LuCn5LuCnLu",
   "3Cn7LuCn1aLl1aLu1aLl1aLu1aLl1aLu1aLl1aLu1aLl1aLu1aLl1aLu1cLl2Cn19LuSm19LlSm6Ll19LuSm19LlSm6L",
   "l19LuSm19LlSm6Ll19LuSm19LlSm6Ll19LuSm19LlSm6LlLuLl2Cn32Nd200So37Mn4So32Mn8SoMneSoMn2So5PofCn",
   "5MnCnfMn450CnaLlLo14Ll6Cn6Lld5Cn7MnCn11Mn2Cn7MnCn2MnCn5Mn5Cn3eLm21CnMn70Cn2dLo3Cn7Mn7Lm2CnaN",
   "d4CnLoSo140Cn1eLoMn11Cn2cLo4MnaNd5CnSc1d0Cn1bLoLm4MnaNdd6Cn1eLo2MnLoaNd4CnPoc0Cn1fLoCn3LoMn2",
   "LoMn7Lo2Mn5LoMn8CnLoLme0Cn7LoCn4LoCn2LoCnfLoCnc5Lo2Cn9No7Mn29Cn22Lu22Ll7MnLm4CnaNd4Cn2Po311C",
   "n3bNoSo3NoSc4No4cCn2dNoSofNoc2Cn4LoCn1bLoCn2LoCnLo2CnLoCnaLoCn4LoCnLoCnLo6CnLo4CnLoCnLoCnLoC",
   "n3LoCn2LoCnLo2CnLoCnLoCnLoCnLoCnLoCn2LoCnLo2Cn4LoCn7LoCn4LoCn4LoCnLoCnaLoCn11Lo5Cn3LoCn5LoCn",
   "11Lo34Cn2Sm10eCn2cSo4Cn64SocCnfSo2CnfSoCnfSoCn25SoaCndNoa1So38Cn1dSodCn2cSo4Cn9So7Cn2SoeCn6S",
   "o9aCnfbSo5Sk2d9So3Cn11So3CndSo3CndaSo6CncSo4CnSofCncSo4Cn38So8CnaSo6Cn28So8Cn1eSo2CncSo4Cn2S",
   "oeCn9Sm27Cn158So8CneSo2CndSo3CnbSo3Cn39SoCnSo4Cn10So2CncSo4CnaSo7Cn93SoCn5cSoaNdSo405Cna6e0L",
   "o20Cn111eLo2Cn168eLo2Cn1d31LofCn26eLo9a2Cn21eLo5e2Cn134bLo5Cn212aLoacb87CnCf1eCn60Cf80Cnf0Mn",
   "fe10CnfffeCo2CnfffeCo2Cn"]

end Switchboard.Category
