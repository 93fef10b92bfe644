/-!
# Script table

The Unicode scripts: their codes and names, the script of every code point, and the code points that
are also used in other scripts than their own.
-/

namespace Switchboard.Script

def names : List (String × String) :=
  [("Adlm", "adlam"), ("Aghb", "caucasianalbanian"), ("Ahom", "ahom"), ("Arab", "arabic"),
   ("Armi", "imperialaramaic"), ("Armn", "armenian"), ("Avst", "avestan"), ("Bali", "balinese"),
   ("Bamu", "bamum"), ("Bass", "bassavah"), ("Batk", "batak"), ("Beng", "bengali"),
   ("Berf", "beriaerfe"), ("Bhks", "bhaiksuki"), ("Bopo", "bopomofo"), ("Brah", "brahmi"),
   ("Brai", "braille"), ("Bugi", "buginese"), ("Buhd", "buhid"), ("Cakm", "chakma"),
   ("Cans", "canadianaboriginal"), ("Cari", "carian"), ("Cham", "cham"), ("Cher", "cherokee"),
   ("Chrs", "chorasmian"), ("Copt", "coptic"), ("Copt", "qaac"), ("Cpmn", "cyprominoan"),
   ("Cprt", "cypriot"), ("Cyrl", "cyrillic"), ("Deva", "devanagari"), ("Diak", "divesakuru"),
   ("Dogr", "dogra"), ("Dsrt", "deseret"), ("Dupl", "duployan"), ("Egyp", "egyptianhieroglyphs"),
   ("Elba", "elbasan"), ("Elym", "elymaic"), ("Ethi", "ethiopic"), ("Gara", "garay"),
   ("Geor", "georgian"), ("Glag", "glagolitic"), ("Gong", "gunjalagondi"), ("Gonm", "masaramgondi"),
   ("Goth", "gothic"), ("Gran", "grantha"), ("Grek", "greek"), ("Gujr", "gujarati"),
   ("Gukh", "gurungkhema"), ("Guru", "gurmukhi"), ("Hang", "hangul"), ("Hani", "han"),
   ("Hano", "hanunoo"), ("Hatr", "hatran"), ("Hebr", "hebrew"), ("Hira", "hiragana"),
   ("Hluw", "anatolianhieroglyphs"), ("Hmng", "pahawhhmong"), ("Hmnp", "nyiakengpuachuehmong"),
   ("Hung", "oldhungarian"), ("Ital", "olditalic"), ("Java", "javanese"), ("Kali", "kayahli"),
   ("Kana", "katakana"), ("Kawi", "kawi"), ("Khar", "kharoshthi"), ("Khmr", "khmer"),
   ("Khoj", "khojki"), ("Kits", "khitansmallscript"), ("Knda", "kannada"), ("Krai", "kiratrai"),
   ("Kthi", "kaithi"), ("Lana", "taitham"), ("Laoo", "lao"), ("Latn", "latin"), ("Lepc", "lepcha"),
   ("Limb", "limbu"), ("Lina", "lineara"), ("Linb", "linearb"), ("Lisu", "lisu"),
   ("Lyci", "lycian"), ("Lydi", "lydian"), ("Mahj", "mahajani"), ("Maka", "makasar"),
   ("Mand", "mandaic"), ("Mani", "manichaean"), ("Marc", "marchen"), ("Medf", "medefaidrin"),
   ("Mend", "mendekikakui"), ("Merc", "meroiticcursive"), ("Mero", "meroitichieroglyphs"),
   ("Mlym", "malayalam"), ("Modi", "modi"), ("Mong", "mongolian"), ("Mroo", "mro"),
   ("Mtei", "meeteimayek"), ("Mult", "multani"), ("Mymr", "myanmar"), ("Nagm", "nagmundari"),
   ("Nand", "nandinagari"), ("Narb", "oldnortharabian"), ("Nbat", "nabataean"), ("Newa", "newa"),
   ("Nkoo", "nko"), ("Nshu", "nushu"), ("Ogam", "ogham"), ("Olck", "olchiki"), ("Onao", "olonal"),
   ("Orkh", "oldturkic"), ("Orya", "oriya"), ("Osge", "osage"), ("Osma", "osmanya"),
   ("Ougr", "olduyghur"), ("Palm", "palmyrene"), ("Pauc", "paucinhau"), ("Perm", "oldpermic"),
   ("Phag", "phagspa"), ("Phli", "inscriptionalpahlavi"), ("Phlp", "psalterpahlavi"),
   ("Phnx", "phoenician"), ("Plrd", "miao"), ("Prti", "inscriptionalparthian"), ("Rjng", "rejang"),
   ("Rohg", "hanifirohingya"), ("Runr", "runic"), ("Samr", "samaritan"),
   ("Sarb", "oldsoutharabian"), ("Saur", "saurashtra"), ("Sgnw", "signwriting"),
   ("Shaw", "shavian"), ("Shrd", "sharada"), ("Sidd", "siddham"), ("Sidt", "sidetic"),
   ("Sind", "khudawadi"), ("Sinh", "sinhala"), ("Sogd", "sogdian"), ("Sogo", "oldsogdian"),
   ("Sora", "sorasompeng"), ("Soyo", "soyombo"), ("Sund", "sundanese"), ("Sunu", "sunuwar"),
   ("Sylo", "sylotinagri"), ("Syrc", "syriac"), ("Tagb", "tagbanwa"), ("Takr", "takri"),
   ("Tale", "taile"), ("Talu", "newtailue"), ("Taml", "tamil"), ("Tang", "tangut"),
   ("Tavt", "taiviet"), ("Tayo", "taiyo"), ("Telu", "telugu"), ("Tfng", "tifinagh"),
   ("Tglg", "tagalog"), ("Thaa", "thaana"), ("Thai", "thai"), ("Tibt", "tibetan"),
   ("Tirh", "tirhuta"), ("Tnsa", "tangsa"), ("Todr", "todhri"), ("Tols", "tolongsiki"),
   ("Toto", "toto"), ("Tutg", "tulutigalari"), ("Ugar", "ugaritic"), ("Vaii", "vai"),
   ("Vith", "vithkuqi"), ("Wara", "warangciti"), ("Wcho", "wancho"), ("Xpeo", "oldpersian"),
   ("Xsux", "cuneiform"), ("Yezi", "yezidi"), ("Yiii", "yi"), ("Zanb", "zanabazarsquare"),
   ("Zinh", "inherited"), ("Zinh", "qaai"), ("Zyyy", "common")]

/-- Runs of code points from U+0000 on: the length of the run in hexadecimal digits, left out when
it is one, and the code of the script. -/
def runLines : List String :=
  ["41Zyyy1aLatn6Zyyy1aLatn2fZyyyLatnfZyyyLatn5Zyyy17LatnZyyy1fLatnZyyy1c1Latn27Zyyy5Latn5Zyyy2B",
   "opo14Zyyy70Zinh4GrekZyyy3Grek2Zzzz4GrekZyyyGrek4ZzzzGrekZyyyGrekZyyy3GrekZzzzGrekZzzz14GrekZ",
   "zzz3fGrekeCopt10Grek85Cyrl2Zinha9CyrlZzzz26Armn2Zzzz32Armn2Zzzz3ArmnZzzz37Hebr8Zzzz1bHebr4Zz",
   "zz6HebrbZzzz5ArabZyyy6ArabZyyyeArabZyyy3ArabZyyy20ArabZyyyaArabbZinh1aArabZinh6cArabZyyy22Ar",
   "abeSyrcZzzz3cSyrc2Zzzz3Syrc30Arab32ThaaeZzzz3bNkoo2Zzzz3Nkoo2eSamr2ZzzzfSamrZzzz1cMand2ZzzzM",
   "andZzzzbSyrc5Zzzz22Arab5Zzzz4bArabZyyy1dArab51Deva4ZinhfDeva2Zyyy1aDeva4BengZzzz8Beng2Zzzz2B",
   "eng2Zzzz16BengZzzz7BengZzzzBeng3Zzzz4Beng2Zzzz9Beng2Zzzz2Beng2Zzzz4Beng8ZzzzBeng4Zzzz2BengZz",
   "zz5Beng2Zzzz19Beng2Zzzz3GuruZzzz6Guru4Zzzz2Guru2Zzzz16GuruZzzz7GuruZzzz2GuruZzzz2GuruZzzz2Gu",
   "ru2ZzzzGuruZzzz5Guru4Zzzz2Guru2Zzzz3Guru3ZzzzGuru7Zzzz4GuruZzzzGuru7Zzzz11GuruaZzzz3GujrZzzz",
   "9GujrZzzz3GujrZzzz16GujrZzzz7GujrZzzz2GujrZzzz5Gujr2ZzzzaGujrZzzz3GujrZzzz3Gujr2ZzzzGujrfZzz",
   "z4Gujr2ZzzzcGujr7Zzzz7GujrZzzz3OryaZzzz8Orya2Zzzz2Orya2Zzzz16OryaZzzz7OryaZzzz2OryaZzzz5Orya",
   "2Zzzz9Orya2Zzzz2Orya2Zzzz3Orya7Zzzz3Orya4Zzzz2OryaZzzz5Orya2Zzzz12OryaaZzzz2TamlZzzz6Taml3Zz",
   "zz3TamlZzzz4Taml3Zzzz2TamlZzzzTamlZzzz2Taml3Zzzz2Taml3Zzzz3Taml3ZzzzcTaml4Zzzz5Taml3Zzzz3Tam",
   "lZzzz4Taml2ZzzzTaml6ZzzzTamleZzzz15Taml5ZzzzdTeluZzzz3TeluZzzz17TeluZzzz10Telu2Zzzz9TeluZzzz",
   "3TeluZzzz4Telu7Zzzz2TeluZzzz3TeluZzzz2Telu2Zzzz4Telu2ZzzzaTelu7Zzzz9TeludKndaZzzz3KndaZzzz17",
   "KndaZzzzaKndaZzzz5Knda2Zzzz9KndaZzzz3KndaZzzz4Knda7Zzzz2Knda5Zzzz3KndaZzzz4Knda2ZzzzaKndaZzz",
   "z3KndacZzzzdMlymZzzz3MlymZzzz33MlymZzzz3MlymZzzz6Mlym4Zzzz10Mlym2Zzzz1aMlymZzzz3SinhZzzz12Si",
   "nh3Zzzz18SinhZzzz9SinhZzzzSinh2Zzzz7Sinh3ZzzzSinh4Zzzz6SinhZzzzSinhZzzz8Sinh6ZzzzaSinh2Zzzz3",
   "SinhcZzzz3aThai4ZzzzZyyy1cThai25Zzzz2LaooZzzzLaooZzzz5LaooZzzz18LaooZzzzLaooZzzz17Laoo2Zzzz5",
   "LaooZzzzLaooZzzz7LaooZzzzaLaoo2Zzzz4Laoo20Zzzz48TibtZzzz24Tibt4Zzzz27TibtZzzz24TibtZzzzfTibt",
   "Zzzz7Tibt4Zyyy2Tibt25Zzzza0Mymr26GeorZzzzGeor5ZzzzGeor2Zzzz2bGeorZyyy4Geor100Hang49EthiZzzz4",
   "Ethi2Zzzz7EthiZzzzEthiZzzz4Ethi2Zzzz29EthiZzzz4Ethi2Zzzz21EthiZzzz4Ethi2Zzzz7EthiZzzzEthiZzz",
   "z4Ethi2ZzzzfEthiZzzz39EthiZzzz4Ethi2Zzzz43Ethi2Zzzz20Ethi3Zzzz1aEthi6Zzzz56Cher2Zzzz6Cher2Zz",
   "zz280Cans1dOgam3Zzzz4bRunr3ZyyybRunr7Zzzz16Tglg9ZzzzTglg15Hano2Zyyy9Zzzz14BuhdcZzzzdTagbZzzz",
   "3TagbZzzz2TagbcZzzz5eKhmr2ZzzzaKhmr6ZzzzaKhmr6Zzzz2Mong2ZyyyMongZyyy14Mong6Zzzz59Mong7Zzzz2b",
   "Mong5Zzzz46CansaZzzz1fLimbZzzzcLimb4ZzzzcLimb4ZzzzLimb3ZzzzcLimb1eTale2Zzzz5TalebZzzz2cTalu4",
   "Zzzz1aTalu6ZzzzbTalu3Zzzz2Talu20Khmr1cBugi2Zzzz2Bugi3fLanaZzzz1dLana2ZzzzbLana6ZzzzaLana6Zzz",
   "zeLana2Zzzz2eZinh2ZzzzcZinh14Zzzz4dBaliZzzz32Bali40Sund34Batk8Zzzz4Batk38Lepc3ZzzzfLepc3Zzzz",
   "3Lepc30OlckbCyrl5Zzzz2bGeor2Zzzz3Geor8Sund8Zzzz3ZinhZyyydZinhZyyy7Zinh4ZyyyZinh6ZyyyZinh3Zyy",
   "y2ZinhZyyy5Zzzz26Latn5GrekCyrl31Latn5Grek4Latn5GrekdLatnCyrl46LatnGrek40Zinh100Latn16Grek2Zz",
   "zz6Grek2Zzzz26Grek2Zzzz6Grek2Zzzz8GrekZzzzGrekZzzzGrekZzzzGrekZzzz1fGrek2Zzzz35GrekZzzzfGrek",
   "ZzzzeGrek2Zzzz6GrekZzzz13Grek2Zzzz3GrekZzzz9GrekZzzzcZyyy2Zinh57ZyyyZzzzbZyyyLatn2ZzzzbZyyyL",
   "atnfZyyyZzzzdLatn3Zzzz22ZyyyeZzzz21ZinhfZzzz26ZyyyGrek3Zyyy2Latn6ZyyyLatn1bZyyyLatn11Zyyy29L",
   "atn3Zyyy4Zzzz29aZyyy16ZzzzbZyyy15Zzzz3a0Zyyy100Brai274Zyyy2Zzzz8aZyyy60Glag20Latn74Copt5Zzzz",
   "7Copt26GeorZzzzGeor5ZzzzGeor2Zzzz38Tfng7Zzzz2TfngeZzzzTfng17Ethi9Zzzz7EthiZzzz7EthiZzzz7Ethi",
   "Zzzz7EthiZzzz7EthiZzzz7EthiZzzz7EthiZzzz7EthiZzzz20Cyrl5eZyyy22Zzzz1aHaniZzzz59HanicZzzzd6Ha",
   "ni1aZzzz15ZyyyHaniZyyyHani19Zyyy9Hani4Zinh2Hang8Zyyy4Hani4ZyyyZzzz56Hira2Zzzz2Zinh2Zyyy3Hira",
   "Zyyy5aKana2Zyyy3Kana5Zzzz2bBopoZzzz5eHangZzzz10Zyyy20Bopo26Zyyy9ZzzzZyyy10Kana1fHangZzzz40Zy",
   "yy1fHang51Zyyy2fKanaZyyy58Kanaa8Zyyy19c0Hani40Zyyy5200Hani48dYiii3Zzzz37Yiii9Zzzz30Lisu12cVa",
   "ii14Zzzz60Cyrl58Bamu8Zzzz22Zyyy66Latn3Zyyy52Latn14ZzzzfLatn2dSylo3ZzzzaZyyy6Zzzz38Phag8Zzzz4",
   "6Saur8ZzzzcSaur6Zzzz20Deva2eKaliZyyyKali24RjngbZzzzRjng1dHang3Zzzz4eJavaZzzzZyyyaJava4Zzzz2J",
   "ava1fMymrZzzz37Cham9ZzzzeCham2ZzzzaCham2Zzzz4Cham20Mymr43Tavt18Zzzz5Tavt17MteiaZzzz6Ethi2Zzz",
   "z6Ethi2Zzzz6Ethi9Zzzz7EthiZzzz7EthiZzzz2bLatnZyyy9LatnGrek4Latn2Zyyy4Zzzz50Cher2eMtei2ZzzzaM",
   "tei6Zzzz2ba4HangcZzzz17Hang4Zzzz31Hang2104Zzzz16eHani2Zzzz6aHani26Zzzz7LatncZzzz5Armn5Zzzz1a",
   "HebrZzzz5HebrZzzzHebrZzzz2HebrZzzz2HebrZzzzaHebr1eeArab2Zyyy90Arab20Zzzz10Arab10ZinhaZyyy6Zz",
   "zzeZinh2Cyrl23ZyyyZzzz13ZyyyZzzz4Zyyy4Zzzz5ArabZzzz87Arab2ZzzzZyyyZzzz20Zyyy1aLatn6Zyyy1aLat",
   "nbZyyyaKanaZyyy2dKana2Zyyy1fHang3Zzzz6Hang2Zzzz6Hang2Zzzz6Hang2Zzzz3Hang3Zzzz7ZyyyZzzz7Zyyya",
   "Zzzz5Zyyy2ZzzzcLinbZzzz1aLinbZzzz13LinbZzzz2LinbZzzzfLinb2ZzzzeLinb22Zzzz7bLinb5Zzzz3Zyyy4Zz",
   "zz2dZyyy3Zzzz9Zyyy4fGrekZzzzdZyyy3ZzzzGrek2fZzzz2dZyyyZinh82Zzzz1dLyci3Zzzz31CarifZzzzZinh1b",
   "Zyyy4Zzzz24Ital9Zzzz3Ital1bGoth5Zzzz2bPerm5Zzzz1eUgarZzzzUgar24Xpeo4ZzzzeXpeo2aZzzz50Dsrt30S",
   "haw1eOsma2ZzzzaOsma6Zzzz24Osge4Zzzz24Osge4Zzzz28Elba8Zzzz34AghbbZzzzAghbbVithZzzzfVithZzzz7V",
   "ithZzzz2VithZzzzbVithZzzzfVithZzzz7VithZzzz2Vith3Zzzz34TodrcZzzz137Lina9Zzzz16LinaaZzzz8Lina",
   "18Zzzz6LatnZzzz2aLatnZzzz9Latn45Zzzz6Cprt2ZzzzCprtZzzz2cCprtZzzz2Cprt3ZzzzCprt2ZzzzCprt16Arm",
   "iZzzz9Armi20Palm1fNbat8Zzzz9Nbat30Zzzz13HatrZzzz2Hatr5Zzzz5Hatr1cPhnx3ZzzzPhnx1aLydi5ZzzzLyd",
   "i1aSidt26Zzzz20Mero18Merc4Zzzz14Merc2Zzzz2eMerc4KharZzzz2Khar5Zzzz8KharZzzz3KharZzzz1dKhar2Z",
   "zzz3Khar4ZzzzaKhar7Zzzz9Khar7Zzzz20Sarb20Narb20Zzzz27Mani4ZzzzcMani9Zzzz36Avst3Zzzz7Avst16Pr",
   "ti2Zzzz8Prti13Phli5Zzzz8Phli12Phlp7Zzzz4PhlpcZzzz7Phlp50Zzzz49Orkh37Zzzz33HungdZzzz33Hung7Zz",
   "zz6Hung28Rohg8ZzzzaRohg6Zzzz26Gara3Zzzz1dGara8Zzzz2Garad0Zzzz1fArabZzzz2aYeziZzzz3Yezi2Zzzz2",
   "Yezi10Zzzz6Arab8Zzzz9Arab21Zzzz6Arab28Sogo8Zzzz2aSogd16Zzzz1aOugr26Zzzz1cChrs14Zzzz17Elym9Zz",
   "zz4eBrah4Zzzz24Brah9ZzzzBrah43KthiaZzzzKthi2Zzzz19Sora7ZzzzaSora6Zzzz35CakmZzzz12Cakm8Zzzz27",
   "Mahj9Zzzz60ShrdZzzz14SinhbZzzz12KhojZzzz2fKhoj3eZzzz7MultZzzzMultZzzz4MultZzzzfMultZzzzbMult",
   "6Zzzz3bSind5ZzzzaSind6Zzzz4GranZzzz8Gran2Zzzz2Gran2Zzzz16GranZzzz7GranZzzz2GranZzzz5GranZzzz",
   "Zinh9Gran2Zzzz2Gran2Zzzz3Gran2ZzzzGran6ZzzzGran5Zzzz7Gran2Zzzz7Gran3Zzzz5GranbZzzzaTutgZzzzT",
   "utg2ZzzzTutgZzzz26TutgZzzzaTutgZzzzTutg2ZzzzTutgZzzz4TutgZzzzaTutgZzzz2Tutg8Zzzz2Tutg1dZzzz5",
   "cNewaZzzz5Newa1eZzzz48Tirh8ZzzzaTirha6Zzzz36Sidd2Zzzz26Sidd22Zzzz45ModibZzzzaModi6ZzzzdMong1",
   "3Zzzz3aTakr6ZzzzaTakr6Zzzz14Mymr1cZzzz1bAhom2ZzzzfAhom4Zzzz17Ahomb9Zzzz3cDogr64Zzzz53WaracZz",
   "zzWara7Diak2ZzzzDiak2Zzzz8DiakZzzz2DiakZzzz1eDiakZzzz2Diak2ZzzzcDiak9ZzzzaDiak46Zzzz8Nand2Zz",
   "zz2eNand2ZzzzbNand1bZzzz48Zanb8Zzzz53SoyodZzzz10Cans39Pauc7ZzzzaDeva56Zzzz8Shrd58Zzzz22Sunue",
   "ZzzzaSunu6Zzzz9BhksZzzz2dBhksZzzzeBhksaZzzz1dBhks3Zzzz20Marc2Zzzz16MarcZzzzeMarc49Zzzz7GonmZ",
   "zzz2GonmZzzz2cGonm3ZzzzGonmZzzz2GonmZzzz9Gonm8ZzzzaGonm6Zzzz6GongZzzz2GongZzzz25GongZzzz2Gon",
   "gZzzz6Gong7ZzzzaGong6Zzzz2cTols4ZzzzaTolsf6Zzzz19Maka7Zzzz11KawiZzzz29Kawi3Zzzz1dKawi55ZzzzL",
   "isufZzzz32TamldZzzzTaml39aXsux66Zzzz6fXsuxZzzz5XsuxbZzzzc4Xsuxa4cZzzz63CpmndZzzz456EgypaZzzz",
   "f9bEgyp5Zzzz247Hluw1ab9Zzzz3aGukh6c6Zzzz239Bamu7Zzzz1fMrooZzzzaMroo4Zzzz2Mroo4fTnsaZzzzaTnsa",
   "6Zzzz1eBass2Zzzz6BassaZzzz46HmngaZzzzaHmngZzzz7HmngZzzz15Hmng5Zzzz13Hmng1b0Zzzz3aKraic6Zzzz5",
   "bMedf5Zzzz19Berf2Zzzz19Berf2cZzzz4bPlrd4Zzzz39Plrd7Zzzz11Plrd40ZzzzTangNshu2HaniKitsbZzzz7Ha",
   "ni9Zzzz1b00Tang1d6Kits29ZzzzKits1fTang61Zzzz73Tang21fdZzzz4KanaZzzz7KanaZzzz2KanaZzzzKana11f",
   "Hira3KanafZzzzHira1dZzzz3Hira2ZzzzKanaeZzzz4Kana8Zzzz18cNshu904Zzzz6bDupl5ZzzzdDupl3Zzzz9Dup",
   "l7ZzzzaDupl2Zzzz4Dupl4Zyyyf5cZzzzfdZyyy3Zzzz1b4Zyyy6Zzzz17ZyyyfZzzz11ZyyyfZzzz2eZinh2Zzzz17Z",
   "inh9Zzzz74Zyyy3cZzzzf6ZyyyaZzzz27Zyyy2Zzzz3eZyyy3Zinh11Zyyy8Zinh2Zyyy7Zinh1eZyyy4Zinh3dZyyy1",
   "5Zzzz46Grek7aZzzz14ZyyycZzzz14ZyyycZzzz57Zyyy9Zzzz19Zyyy87Zzzz55ZyyyZzzz47ZyyyZzzz2Zyyy2Zzzz",
   "Zyyy2Zzzz2Zyyy2Zzzz4ZyyyZzzzcZyyyZzzzZyyyZzzz7ZyyyZzzz41ZyyyZzzz4Zyyy2Zzzz8ZyyyZzzz7ZyyyZzzz",
   "1cZyyyZzzz4ZyyyZzzz5ZyyyZzzzZyyy3Zzzz7ZyyyZzzz154Zyyy2Zzzz124Zyyy2Zzzz32Zyyy28cSgnwfZzzz5Sgn",
   "wZzzzfSgnw450Zzzz1fLatn6Zzzz6Latnd5Zzzz7GlagZzzz11Glag2Zzzz7GlagZzzz2GlagZzzz5Glag5Zzzz3eCyr",
   "l21ZzzzCyrl70Zzzz2dHmnp3ZzzzeHmnp2ZzzzaHmnp4Zzzz2Hmnp140Zzzz1fToto11Zzzz3aWcho5ZzzzWcho1d0Zz",
   "zz2aNagmd6Zzzz2bOnao4ZzzzOnaoc0Zzzz1fTayoZzzz16Tayo8Zzzz2Tayoe0Zzzz7EthiZzzz4EthiZzzz2EthiZz",
   "zzfEthiZzzzc5Mend2Zzzz10Mend29Zzzz4cAdlm4ZzzzaAdlm4Zzzz2Adlm311Zzzz44Zyyy4cZzzz3dZyyyc2Zzzz4",
   "ArabZzzz1bArabZzzz2ArabZzzzArab2ZzzzArabZzzzaArabZzzz4ArabZzzzArabZzzzArab6ZzzzArab4ZzzzArab",
   "ZzzzArabZzzzArabZzzz3ArabZzzz2ArabZzzzArab2ZzzzArabZzzzArabZzzzArabZzzzArabZzzzArabZzzz2Arab",
   "ZzzzArab2Zzzz4ArabZzzz7ArabZzzz4ArabZzzz4ArabZzzzArabZzzzaArabZzzz11Arab5Zzzz3ArabZzzz5ArabZ",
   "zzz11Arab34Zzzz2Arab10eZzzz2cZyyy4Zzzz64ZyyycZzzzfZyyy2ZzzzfZyyyZzzzfZyyyZzzz25ZyyyaZzzzaeZy",
   "yy38Zzzz1aZyyyHira2ZyyydZzzz2cZyyy4Zzzz9Zyyy7Zzzz2ZyyyeZzzz6Zyyy9aZzzz3d9Zyyy3Zzzz11Zyyy3Zzz",
   "zdZyyy3ZzzzdaZyyy6ZzzzcZyyy4ZzzzZyyyfZzzzcZyyy4Zzzz38Zyyy8ZzzzaZyyy6Zzzz28Zyyy8Zzzz1eZyyy2Zz",
   "zzcZyyy4Zzzz2ZyyyeZzzz9Zyyy27Zzzz158Zyyy8ZzzzeZyyy2ZzzzdZyyy3ZzzzbZyyy3Zzzz39ZyyyZzzzZyyy4Zz",
   "zz10Zyyy2ZzzzcZyyy4ZzzzaZyyy7Zzzz93ZyyyZzzz67Zyyy405Zzzza6e0Hani20Zzzz111eHani2Zzzz168eHani2",
   "Zzzz1d31HanifZzzz26eHani9a2Zzzz21eHani5e2Zzzz134bHani5Zzzz212aHaniacb87ZzzzZyyy1eZzzz60Zyyy8",
   "0Zzzzf0Zinh2fe10Zzzz"]

def sharedTables : List (String × String) :=
  [("Adlm", "61f 0 20 0 1a0e 0 df1 0"),
   ("Aghb", "304 0 2c 0 2c 0"),
   ("Arab", "60c 0 e 0 3 0 20 0 a a 1a 0 19de 0 df1 0 cefc 1 5a0 1b"),
   ("Armn", "308 0"),
   ("Avst", "b7 0 2d78 1"),
   ("Beng", "2bc 0 694 1 11 1 136a 0 1 0 2 1 1 0 8 0 8 0 2 0 4 0 2 2 8bf9 0"),
   ("Bopo", "2c7 0 1 2 d 0 2d27 2 4 9 1 c a 3 2 0 6 0 c3 0 cd49 1 11a 4"),
   ("Bugi", "a9cf 0"),
   ("Buhd", "1735 1"),
   ("Cakm", "9e6 9 650 9"),
   ("Cari", "b7 0 1fa2 0 2 0 dd3 0"),
   ("Cher", "300 2 1 0 6 1 16 1 b 1"),
   ("Copt", "b7 0 248 0 3 1 1 0 6c 1 2aa1 0 d4c8 1b"),
   ("Cpmn", "10100 1"),
   ("Cprt", "10100 2 4 2c 3 8"),
   ("Cyrl", "2bc 0 43 2 1 0 1 0 1 0 2 0 5 0 173 1 1971 0 104a 0"),
   ("Deva", "2bc 0 694 1 11 1 136a 26 1 1 3f6 0 873f 9"),
   ("Dogr", "964 b 9ec0 9"),
   ("Dupl", "b7 0 24f 1 1 0 18 1 2b17 0 18e63 3"),
   ("Elba", "b7 0 24d 0"),
   ("Ethi", "30e 0"),
   ("Gara", "60c 0 e 0 3 0"),
   ("Geor", "b7 0 4d1 0 b71 0 f5e 0 dd6 0"),
   ("Glag", "b7 0 24b 0 1 0 17e 0 2 0 101 0 b71 0 f5e 0 de8 0 782b 0"),
   ("Gong", "b7 0 8ac 1"),
   ("Gonm", "964 1"),
   ("Goth", "b7 0 24c 1 2 0 28 0"),
   ("Gran", "951 1 11 1 280 d 10dc 0 1 1 1e 2 3 1 3f6 0 f24a 0 c94 1 1 0"),
   ("Grek", "b7 0 248 1 2 0 1 0 1 0 a 0 2e 0 2 0 2e 0 1a4b 1 29b 0"),
   ("Gujr", "951 1 11 1 9eca 9"),
   ("Gukh", "965 0"),
   ("Guru", "951 1 11 1 9eca 9"),
   ("Hang", "3001 2 4 9 1 c 10 0 6 0 c3 0 cd49 1 11a 4"),
   ("Hani",
    "b7 0 2f38 f 1 2 2 0 1 9 1 c a 3 2 0 6 0 4 3 bb 0 94 f 20 25 9 0 30 27 38 30 f b 33 0 " ++
    "58 18 a 4 60 1e 7301 7 573d 1 11a 4 d3fa 11 1ede 1"),
   ("Hano", "1735 1"),
   ("Hebr", "307 1"),
   ("Hira", "3001 2 4 9 1 c 10 5 1 0 4 1 5b 3 3 0 5a 1 cd48 1 11a 4 a 0 2d 1"),
   ("Hung", "205a 0 2 0 dd3 0 f 0"),
   ("Java", "a9cf 0"),
   ("Kali", "a92e 0"),
   ("Kana", "305 0 1d 0 2cdd 2 4 9 1 c 10 5 1 0 4 1 5b 3 3 0 5a 1 cd48 1 11a 4 a 0 2d 1"),
   ("Khoj", "ae6 9 9d40 9"),
   ("Knda", "951 1 11 1 136a 0 1 1 6 0 17 0 1 0 8b3b 5"),
   ("Kthi", "966 9 24c1 0 79fe 9"),
   ("Latn",
    "b7 0 204 0 a 0 1 2 1 0 9 0 1 0 26 e 1 1 1 0 f 2 7 1 1 1 26 0 5 0 4 c 115 1 4ca 1 7a8 0 " ++
    "cfc 0 236 0 c0 0 d26 0 78e8 7 226 0"),
   ("Limb", "965 0"),
   ("Lina", "10107 2c"),
   ("Linb", "10100 2 4 2c 3 8"),
   ("Lisu", "2bc 0 10 0 2d3c 1"),
   ("Lyci", "205a 0"),
   ("Lydi", "b7 0 2d79 0"),
   ("Mahj", "b7 0 8ac b 9ec0 9"),
   ("Mand", "640 0"),
   ("Mani", "640 0"),
   ("Mero", "205d 0"),
   ("Mlym", "951 1 11 1 1374 0 17 0 8b3d 2"),
   ("Modi", "a830 9"),
   ("Mong", "1802 1 1 0 829 0 fd1 1 5 3"),
   ("Mult", "a66 9"),
   ("Mymr", "a92e 0"),
   ("Nand", "951 0 12 1 380 9 ff9 0 8 0 7 0 8b35 5"),
   ("Newa", "951 1 1382 0 1 1 9 0 6 0 1 0 1 0"),
   ("Nkoo", "60c 0 e 0 3 0 f71e 1"),
   ("Onao", "964 1"),
   ("Orkh", "205a 0 dd5 0"),
   ("Orya", "951 1 11 1 1374 0 17 0"),
   ("Osge", "301 0 2 0 6 0 4c 0"),
   ("Ougr", "640 0 104b1 0"),
   ("Perm", "b7 0 248 0 5 2 a 0 16f 0"),
   ("Phag", "1802 1 1 0 829 0 fd2 0"),
   ("Phlp", "640 0"),
   ("Rohg", "60c 0 e 0 3 0 20 0 93 0"),
   ("Runr", "16eb 2"),
   ("Samr", "2e31 0"),
   ("Shaw", "b7 0"),
   ("Shrd", "951 0 1385 0 1 0 2 1 2 0 9 0 2 0 8b42 5 2 0"),
   ("Sind", "964 1 9eca 9"),
   ("Sinh", "964 1 138c 0"),
   ("Sogd", "640 0"),
   ("Sunu", "300 1 1 0 9 0 2 0 1c 0 3 0"),
   ("Sylo", "964 1 80 9"),
   ("Syrc", "303 1 2 1 1 0 18 2 7 1 1 1 2da 0 e 1 2 0 20 0 a a 1a 0 1787 0 1 0"),
   ("Tagb", "1735 1"),
   ("Takr", "964 1 9eca 9"),
   ("Tale", "300 1 5 1 3 0 d33 9"),
   ("Taml", "951 1 11 1 1374 0 8c18 0 6a0d 0 1 0 37 1"),
   ("Tang", "2ff0 f 1ef 0"),
   ("Telu", "951 1 11 1 136f 1 1 0 1 0 17 0"),
   ("Tfng", "302 0 1 0 1 3 19 0"),
   ("Tglg", "1735 1"),
   ("Thaa", "60c 0 e 1 2 0 40 9 f788 0 a 0"),
   ("Thai", "2bc 0 1a 0 2b 0 2d 0"),
   ("Tibt", "3008 3"),
   ("Tirh", "951 1 11 1 136f 0 c 0 f 0 8b3d 9"),
   ("Todr", "301 0 2 0 2 0 9 0 1 0 4a 0"),
   ("Toto", "2bc 0"),
   ("Tutg", "ce6 9 1002 0 1 0 8b3b 5 bb 0"),
   ("Yezi", "60c 0 e 0 3 0 40 9"),
   ("Yiii", "3001 1 5 9 2 7 df 0 ce65 4")]

end Switchboard.Script
