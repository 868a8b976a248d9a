import Retry.Unicode.Runs

/-! The scripts. The first table gives runs of code points and the script they belong
to; the second lists, for a script, the code points on which its extended set of
members differs. -/
namespace Retry.Unicode

def scriptTable : List String :=
  [
    "1tZyyyqLatn6ZyyyqLatn1bZyyy1LatnfZyyy1Latn5ZyyynLatn1ZyyyvLatn1ZyyychLatn13Zyyy5Latn5Zyyy2Bo",
    "pokZyyy34Zinh4Grek1Zyyy3Grek2Zzzz4Grek1Zyyy1Grek4Zzzz1Grek1Zyyy1Grek1Zyyy3Grek1Zzzz1Grek1Zzz",
    "zkGrek1Zzzz1rGrekeCoptgGrek3pCyrl2Zinh4pCyrl1Zzzz12Armn2Zzzz1eArmn2Zzzz3Armn1Zzzz1jHebr8Zzzz",
    "rHebr4Zzzz6HebrbZzzz5Arab1Zyyy6Arab1ZyyyeArab1Zyyy3Arab1ZyyywArab1ZyyyaArabbZinhqArab1Zinh30",
    "Arab1ZyyyyArabeSyrc1Zzzz1oSyrc2Zzzz3Syrc1cArab1eThaaeZzzz1nNkoo2Zzzz3Nkoo1aSamr2ZzzzfSamr1Zz",
    "zzsMand2Zzzz1Mand1ZzzzbSyrc5ZzzzvArab1Zzzz2Arab5Zzzz23Arab1ZyyytArab29Deva4ZinhfDeva2ZyyyqDe",
    "va4Beng1Zzzz8Beng2Zzzz2Beng2ZzzzmBeng1Zzzz7Beng1Zzzz1Beng3Zzzz4Beng2Zzzz9Beng2Zzzz2Beng2Zzzz",
    "4Beng8Zzzz1Beng4Zzzz2Beng1Zzzz5Beng2ZzzzpBeng2Zzzz3Guru1Zzzz6Guru4Zzzz2Guru2ZzzzmGuru1Zzzz7G",
    "uru1Zzzz2Guru1Zzzz2Guru1Zzzz2Guru2Zzzz1Guru1Zzzz5Guru4Zzzz2Guru2Zzzz3Guru3Zzzz1Guru7Zzzz4Gur",
    "u1Zzzz1Guru7ZzzzhGuruaZzzz3Gujr1Zzzz9Gujr1Zzzz3Gujr1ZzzzmGujr1Zzzz7Gujr1Zzzz2Gujr1Zzzz5Gujr2",
    "ZzzzaGujr1Zzzz3Gujr1Zzzz3Gujr2Zzzz1GujrfZzzz4Gujr2ZzzzcGujr7Zzzz7Gujr1Zzzz3Orya1Zzzz8Orya2Zz",
    "zz2Orya2ZzzzmOrya1Zzzz7Orya1Zzzz2Orya1Zzzz5Orya2Zzzz9Orya2Zzzz2Orya2Zzzz3Orya7Zzzz3Orya4Zzzz",
    "2Orya1Zzzz5Orya2ZzzziOryaaZzzz2Taml1Zzzz6Taml3Zzzz3Taml1Zzzz4Taml3Zzzz2Taml1Zzzz1Taml1Zzzz2T",
    "aml3Zzzz2Taml3Zzzz3Taml3ZzzzcTaml4Zzzz5Taml3Zzzz3Taml1Zzzz4Taml2Zzzz1Taml6Zzzz1TamleZzzzlTam",
    "l5ZzzzdTelu1Zzzz3Telu1ZzzznTelu1ZzzzgTelu2Zzzz9Telu1Zzzz3Telu1Zzzz4Telu7Zzzz2Telu1Zzzz3Telu2",
    "Zzzz1Telu2Zzzz4Telu2ZzzzaTelu7Zzzz9TeludKnda1Zzzz3Knda1ZzzznKnda1ZzzzaKnda1Zzzz5Knda2Zzzz9Kn",
    "da1Zzzz3Knda1Zzzz4Knda7Zzzz2Knda6Zzzz2Knda1Zzzz4Knda2ZzzzaKnda1Zzzz3KndacZzzzdMlym1Zzzz3Mlym",
    "1Zzzz1fMlym1Zzzz3Mlym1Zzzz6Mlym4ZzzzgMlym2ZzzzqMlym1Zzzz3Sinh1ZzzziSinh3ZzzzoSinh1Zzzz9Sinh1",
    "Zzzz1Sinh2Zzzz7Sinh3Zzzz1Sinh4Zzzz6Sinh1Zzzz1Sinh1Zzzz8Sinh6ZzzzaSinh2Zzzz3SinhcZzzz1mThai4Z",
    "zzz1ZyyysThai11Zzzz2Laoo1Zzzz1Laoo1Zzzz5Laoo1ZzzzoLaoo1Zzzz1Laoo1ZzzznLaoo2Zzzz5Laoo1Zzzz1La",
    "oo1Zzzz7Laoo1ZzzzaLaoo2Zzzz4LaoowZzzz20Tibt1Zzzz10Tibt4Zzzz13Tibt1Zzzz10Tibt1ZzzzfTibt1Zzzz7",
    "Tibt4Zyyy2Tibt11Zzzz4gMymr12Geor1Zzzz1Geor5Zzzz1Geor2Zzzz17Geor1Zyyy4Geor74Hang21Ethi1Zzzz4E",
    "thi2Zzzz7Ethi1Zzzz1Ethi1Zzzz4Ethi2Zzzz15Ethi1Zzzz4Ethi2ZzzzxEthi1Zzzz4Ethi2Zzzz7Ethi1Zzzz1Et",
    "hi1Zzzz4Ethi2ZzzzfEthi1Zzzz1lEthi1Zzzz4Ethi2Zzzz1vEthi2ZzzzwEthi3ZzzzqEthi6Zzzz2eCher2Zzzz6C",
    "her2ZzzzhsCanstOgam3Zzzz23Runr3ZyyybRunr7ZzzzmTglg9Zzzz1TglglHano2Zyyy9ZzzzkBuhdcZzzzdTagb1Z",
    "zzz3Tagb1Zzzz2TagbcZzzz2mKhmr2ZzzzaKhmr6ZzzzaKhmr6Zzzz2Mong2Zyyy1Mong1ZyyykMong6Zzzz2hMong7Z",
    "zzz17Mong5Zzzz1yCansaZzzzvLimb1ZzzzcLimb4ZzzzcLimb4Zzzz1Limb3ZzzzcLimbuTale2Zzzz5TalebZzzz18",
    "Talu4ZzzzqTalu6ZzzzbTalu3Zzzz2TaluwKhmrsBugi2Zzzz2Bugi1rLana1ZzzztLana2ZzzzbLana6ZzzzaLana6Z",
    "zzzeLana2ZzzzvZinh1dZzzz25Bali1Zzzz1eBali1sSund1gBatk8Zzzz4Batk1kLepc3ZzzzfLepc3Zzzz3Lepc1cO",
    "lckbCyrl5Zzzz17Geor2Zzzz3Geor8Sund8Zzzz3Zinh1ZyyydZinh1Zyyy7Zinh4Zyyy1Zinh6Zyyy1Zinh3Zyyy2Zi",
    "nh1Zyyy5Zzzz12Latn5Grek1Cyrl1dLatn5Grek4Latn5GrekdLatn1Cyrl1yLatn1Grek1sZinh74LatnmGrek2Zzzz",
    "6Grek2Zzzz12Grek2Zzzz6Grek2Zzzz8Grek1Zzzz1Grek1Zzzz1Grek1Zzzz1Grek1ZzzzvGrek2Zzzz1hGrek1Zzzz",
    "fGrek1ZzzzeGrek2Zzzz6Grek1ZzzzjGrek2Zzzz3Grek1Zzzz9Grek1ZzzzcZyyy2Zinh2fZyyy1ZzzzbZyyy1Latn2",
    "ZzzzbZyyy1LatnfZyyy1ZzzzdLatn3ZzzzxZyyyfZzzzxZinhfZzzz12Zyyy1Grek3Zyyy2Latn6Zyyy1LatnrZyyy1L",
    "atnhZyyy15Latn3Zyyy4ZzzziiZyyymZzzzbZyyylZzzzpsZyyy74BraihgZyyy2ZzzzwZyyy1Zzzz2xZyyy2oGlagwL",
    "atn38Copt5Zzzz7Copt12Geor1Zzzz1Geor5Zzzz1Geor2Zzzz1kTfng7Zzzz2TfngeZzzz1TfngnEthi9Zzzz7Ethi1",
    "Zzzz7Ethi1Zzzz7Ethi1Zzzz7Ethi1Zzzz7Ethi1Zzzz7Ethi1Zzzz7Ethi1Zzzz7Ethi1ZzzzwCyrl2mZyyyyZzzzqH",
    "ani1Zzzz2hHanicZzzz5yHaniqZzzzlZyyy1Hani1Zyyy1HanipZyyy9Hani4Zinh2Hang8Zyyy4Hani4Zyyy1Zzzz2e",
    "Hira2Zzzz2Zinh2Zyyy3Hira1Zyyy2iKana2Zyyy3Kana5Zzzz17Bopo1Zzzz2mHang1ZzzzgZyyywBopo12Zyyy9Zzz",
    "z1ZyyygKanavHang1Zzzz1sZyyyvHang29Zyyy1bKana1Zyyy2gKana4oZyyy534Hani1sZyyyg74HaniwdYiii3Zzzz",
    "1jYiii9Zzzz1cLisu8cVaiikZzzz2oCyrl2gBamu8ZzzzyZyyy2uLatn3Zyyy1vLatn2Zzzz2Latn1Zzzz1Latn1Zzzz",
    "8LatnlZzzzeLatn19Sylo3ZzzzaZyyy6Zzzz1kPhag8Zzzz1ySaur8ZzzzcSaur6ZzzzwDeva1aKali1Zyyy1Kali10R",
    "jngbZzzz1RjngtHang3Zzzz26Java1Zzzz1ZyyyaJava4Zzzz2JavavMymr1Zzzz1jCham9ZzzzeCham2ZzzzaCham2Z",
    "zzz4ChamwMymr1vTavtoZzzz5TavtnMteiaZzzz6Ethi2Zzzz6Ethi2Zzzz6Ethi9Zzzz7Ethi1Zzzz7Ethi1Zzzz17L",
    "atn1Zyyy9Latn1Grek4Latn2Zyyy4Zzzz28Cher1aMtei2ZzzzaMtei6Zzzz8mcHangcZzzznHang4Zzzz1dHang6isZ",
    "zzza6Hani2Zzzz2yHani12Zzzz7LatncZzzz5Armn5ZzzzqHebr1Zzzz5Hebr1Zzzz1Hebr1Zzzz2Hebr1Zzzz2Hebr1",
    "ZzzzaHebr37ArabgZzzza3Arab2Zyyy28Arab2Zzzz1iArab7Zzzz1ArabwZzzzgArabgZinhaZyyy6ZzzzeZinh2Cyr",
    "lzZyyy1ZzzzjZyyy1Zzzz4Zyyy4Zzzz5Arab1Zzzz3rArab2Zzzz1Zyyy1ZzzzwZyyyqLatn6ZyyyqLatnbZyyyaKana",
    "1Zyyy19Kana2ZyyyvHang3Zzzz6Hang2Zzzz6Hang2Zzzz6Hang2Zzzz3Hang3Zzzz7Zyyy1Zzzz7ZyyyaZzzz5Zyyy2",
    "ZzzzcLinb1ZzzzqLinb1ZzzzjLinb1Zzzz2Linb1ZzzzfLinb2ZzzzeLinbyZzzz3fLinb5Zzzz3Zyyy4Zzzz19Zyyy3",
    "Zzzz9Zyyy27Grek1ZzzzdZyyy3Zzzz1Grek1bZzzz19Zyyy1Zinh3mZzzztLyci3Zzzz1dCarifZzzz1ZinhrZyyy4Zz",
    "zz10Ital9Zzzz3ItalrGoth5Zzzz17Perm5ZzzzuUgar1Zzzz1Ugar10Xpeo4ZzzzeXpeo16Zzzz28Dsrt1cShawuOsm",
    "a2ZzzzaOsma6Zzzz10Osge4Zzzz10Osge4Zzzz14Elba8Zzzz1gAghbbZzzz1AghbbVith1ZzzzfVith1Zzzz7Vith1Z",
    "zzz2Vith1ZzzzbVith1ZzzzfVith1Zzzz7Vith1Zzzz2Vith3Zzzz1gTodrcZzzz8nLina9ZzzzmLinaaZzzz8LinaoZ",
    "zzz6Latn1Zzzz16Latn1Zzzz9Latn1xZzzz6Cprt2Zzzz1Cprt1Zzzz18Cprt1Zzzz2Cprt3Zzzz1Cprt2Zzzz1Cprtm",
    "Armi1Zzzz9ArmiwPalmvNbat8Zzzz9Nbat1cZzzzjHatr1Zzzz2Hatr5Zzzz5HatrsPhnx3Zzzz1PhnxqLydi5Zzzz1L",
    "ydi1sZzzzwMerooMerc4ZzzzkMerc2Zzzz1aMerc4Khar1Zzzz2Khar5Zzzz8Khar1Zzzz3Khar1ZzzztKhar2Zzzz3K",
    "har4ZzzzaKhar7Zzzz9Khar7ZzzzwSarbwNarbwZzzz13Mani4ZzzzcMani9Zzzz1iAvst3Zzzz7AvstmPrti2Zzzz8P",
    "rtijPhli5Zzzz8PhliiPhlp7Zzzz4PhlpcZzzz7Phlp28Zzzz21Orkh1jZzzz1fHungdZzzz1fHung7Zzzz6Hung14Ro",
    "hg8ZzzzaRohg6Zzzz12Gara3ZzzztGara8Zzzz2Gara5sZzzzvArab1Zzzz16Yezi1Zzzz3Yezi2Zzzz2YezigZzzz3A",
    "rab1jZzzz4Arab14Sogo8Zzzz16SogdmZzzzqOugr12ZzzzsChrskZzzznElym9Zzzz26Brah4Zzzz10Brah9Zzzz1Br",
    "ah1vKthiaZzzz1Kthi2ZzzzpSora7ZzzzaSora6Zzzz1hCakm1ZzzziCakm8Zzzz13Mahj9Zzzz2oShrd1ZzzzkSinhb",
    "ZzzziKhoj1Zzzz1bKhoj1qZzzz7Mult1Zzzz1Mult1Zzzz4Mult1ZzzzfMult1ZzzzbMult6Zzzz1nSind5ZzzzaSind",
    "6Zzzz4Gran1Zzzz8Gran2Zzzz2Gran2ZzzzmGran1Zzzz7Gran1Zzzz2Gran1Zzzz5Gran1Zzzz1Zinh9Gran2Zzzz2G",
    "ran2Zzzz3Gran2Zzzz1Gran6Zzzz1Gran5Zzzz7Gran2Zzzz7Gran3Zzzz5GranbZzzzaTutg1Zzzz1Tutg2Zzzz1Tut",
    "g1Zzzz12Tutg1ZzzzaTutg1Zzzz1Tutg2Zzzz1Tutg1Zzzz4Tutg1ZzzzaTutg1Zzzz2Tutg8Zzzz2TutgtZzzz2kNew",
    "a1Zzzz5NewauZzzz20Tirh8ZzzzaTirh4mZzzz1iSidd2Zzzz12SiddyZzzz1xModibZzzzaModi6ZzzzdMongjZzzz1",
    "mTakr6ZzzzaTakr6ZzzzkMymrsZzzzrAhom2ZzzzfAhom4ZzzznAhom55Zzzz1oDogr2sZzzz2bWaracZzzz1Wara7Di",
    "ak2Zzzz1Diak2Zzzz8Diak1Zzzz2Diak1ZzzzuDiak1Zzzz2Diak2ZzzzcDiak9ZzzzaDiak1yZzzz8Nand2Zzzz1aNa",
    "nd2ZzzzbNandrZzzz20Zanb8Zzzz2bSoyodZzzzgCans1lPauc7ZzzzaDeva52ZzzzySunueZzzzaSunu6Zzzz9Bhks1",
    "Zzzz19Bhks1ZzzzeBhksaZzzztBhks3ZzzzwMarc2ZzzzmMarc1ZzzzeMarc21Zzzz7Gonm1Zzzz2Gonm1Zzzz18Gonm",
    "3Zzzz1Gonm1Zzzz2Gonm1Zzzz9Gonm8ZzzzaGonm6Zzzz6Gong1Zzzz2Gong1Zzzz11Gong1Zzzz2Gong1Zzzz6Gong7",
    "ZzzzaGong8mZzzzpMaka7ZzzzhKawi1Zzzz15Kawi3ZzzztKawi2dZzzz1LisufZzzz1eTamldZzzz1TamlpmXsux2uZ",
    "zzz33Xsux1Zzzz5XsuxbZzzz5gXsux218Zzzz2rCpmndZzzzuuEgypaZzzz32zEgyp5Zzzzg7Hluw5a1Zzzz1mGukh1c",
    "6ZzzzftBamu7ZzzzvMroo1ZzzzaMroo4Zzzz2Mroo27Tnsa1ZzzzaTnsa6ZzzzuBass2Zzzz6BassaZzzz1yHmngaZzz",
    "zaHmng1Zzzz7Hmng1ZzzzlHmng5ZzzzjHmngc0Zzzz1mKrai5iZzzz2jMedf2tZzzz23Plrd4Zzzz1lPlrd7ZzzzhPlr",
    "d1sZzzz1Tang1Nshu2Hani1KitsbZzzz2HanieZzzz4qgTang8ZzzzlcTangd2Kits15Zzzz1Kits9Tang6w7Zzzz4Ka",
    "na1Zzzz7Kana1Zzzz2Kana1Zzzz1Kana7zHira3KanafZzzz1HiratZzzz3Hira2Zzzz1KanaeZzzz4Kana8Zzzzb0Ns",
    "hu1s4Zzzz2zDupl5ZzzzdDupl3Zzzz9Dupl7ZzzzaDupl2Zzzz4Dupl4Zyyy318Zzzz6yZyyy6Zzzzc4Zyyy24Zzzz1a",
    "Zinh2ZzzznZinh9Zzzz38Zyyy1oZzzz6uZyyyaZzzz13Zyyy2Zzzz1qZyyy3ZinhhZyyy8Zinh2Zyyy7ZinhuZyyy4Zi",
    "nh1pZyyylZzzz1yGrek3eZzzzkZyyycZzzzkZyyycZzzz2fZyyy9ZzzzpZyyy3rZzzz2dZyyy1Zzzz1zZyyy1Zzzz2Zy",
    "yy2Zzzz1Zyyy2Zzzz2Zyyy2Zzzz4Zyyy1ZzzzcZyyy1Zzzz1Zyyy1Zzzz7Zyyy1Zzzz1tZyyy1Zzzz4Zyyy2Zzzz8Zyy",
    "y1Zzzz7Zyyy1ZzzzsZyyy1Zzzz4Zyyy1Zzzz5Zyyy1Zzzz1Zyyy3Zzzz7Zyyy1Zzzz9gZyyy2Zzzz84Zyyy2Zzzz1eZy",
    "yyi4SgnwfZzzz5Sgnw1ZzzzfSgnwuoZzzzvLatn6Zzzz6Latn5xZzzz7Glag1ZzzzhGlag2Zzzz7Glag1Zzzz2Glag1Z",
    "zzz5Glag5Zzzz1qCyrlxZzzz1Cyrl34Zzzz19Hmnp3ZzzzeHmnp2ZzzzaHmnp4Zzzz2Hmnp8wZzzzvTotohZzzz1mWch",
    "o5Zzzz1WchocwZzzz16Nagm5yZzzz17Onao4Zzzz1OnaodcZzzz7Ethi1Zzzz4Ethi1Zzzz2Ethi1ZzzzfEthi1Zzzz5",
    "hMend2ZzzzgMend15Zzzz24Adlm4ZzzzaAdlm4Zzzz2AdlmltZzzz1wZyyy24Zzzz1pZyyy5eZzzz4Arab1ZzzzrArab",
    "1Zzzz2Arab1Zzzz1Arab2Zzzz1Arab1ZzzzaArab1Zzzz4Arab1Zzzz1Arab1Zzzz1Arab6Zzzz1Arab4Zzzz1Arab1Z",
    "zzz1Arab1Zzzz1Arab1Zzzz3Arab1Zzzz2Arab1Zzzz1Arab2Zzzz1Arab1Zzzz1Arab1Zzzz1Arab1Zzzz1Arab1Zzz",
    "z1Arab1Zzzz2Arab1Zzzz1Arab2Zzzz4Arab1Zzzz7Arab1Zzzz4Arab1Zzzz4Arab1Zzzz1Arab1ZzzzaArab1Zzzzh",
    "Arab5Zzzz3Arab1Zzzz5Arab1ZzzzhArab1gZzzz2Arab7iZzzz18Zyyy4Zzzz2sZyyycZzzzfZyyy2ZzzzfZyyy1Zzz",
    "zfZyyy1Zzzz11ZyyyaZzzz4uZyyy1kZzzzqZyyy1Hira2ZyyydZzzz18Zyyy4Zzzz9Zyyy7Zzzz2ZyyyeZzzz6Zyyy4a",
    "ZzzzrcZyyy4ZzzzhZyyy3ZzzzdZyyy3Zzzz3bZyyy4Zzzz2nZyyy6ZzzzcZyyy4Zzzz1ZyyyfZzzzcZyyy4Zzzz1kZyy",
    "y8ZzzzaZyyy6Zzzz14Zyyy8ZzzzuZyyy2ZzzzcZyyy4Zzzz2Zyyy1qZzzz9gZyyycZzzzeZyyy2ZzzzdZyyy3ZzzzaZy",
    "yy5Zzzz1kZyyy7ZzzzfZyyy2ZzzzbZyyy6Zzzz9Zyyy7Zzzz43Zyyy1Zzzz2uZyyysmZzzzwyoHaniwZzzz37eHani6Z",
    "zzz66Hani2Zzzz4g2HanieZzzz5rlHanifZzzzhaHani1wiZzzzf2Hani15uZzzz3t7Hani5Zzzz38gHanif975Zzzz1",
    "ZyyyuZzzz2oZyyy3kZzzz6oZinh47bkZzzz"]

def scriptRuns : Array Run := runs 4 scriptTable

/-- The names of each script, without case and separators; the first is its code. -/
def scriptNames : List (List String) :=
  [["Adlm", "adlm", "adlam"],
    ["Aghb", "aghb", "caucasianalbanian"],
    ["Ahom", "ahom"],
    ["Arab", "arab", "arabic"],
    ["Armi", "armi", "imperialaramaic"],
    ["Armn", "armn", "armenian"],
    ["Avst", "avst", "avestan"],
    ["Bali", "bali", "balinese"],
    ["Bamu", "bamu", "bamum"],
    ["Bass", "bass", "bassavah"],
    ["Batk", "batk", "batak"],
    ["Beng", "beng", "bengali"],
    ["Bhks", "bhks", "bhaiksuki"],
    ["Bopo", "bopo", "bopomofo"],
    ["Brah", "brah", "brahmi"],
    ["Brai", "brai", "braille"],
    ["Bugi", "bugi", "buginese"],
    ["Buhd", "buhd", "buhid"],
    ["Cakm", "cakm", "chakma"],
    ["Cans", "cans", "canadianaboriginal"],
    ["Cari", "cari", "carian"],
    ["Cham", "cham"],
    ["Cher", "cher", "cherokee"],
    ["Chrs", "chrs", "chorasmian"],
    ["Copt", "copt", "coptic", "qaac"],
    ["Cpmn", "cpmn", "cyprominoan"],
    ["Cprt", "cprt", "cypriot"],
    ["Cyrl", "cyrl", "cyrillic"],
    ["Deva", "deva", "devanagari"],
    ["Diak", "diak", "divesakuru"],
    ["Dogr", "dogr", "dogra"],
    ["Dsrt", "dsrt", "deseret"],
    ["Dupl", "dupl", "duployan"],
    ["Egyp", "egyp", "egyptianhieroglyphs"],
    ["Elba", "elba", "elbasan"],
    ["Elym", "elym", "elymaic"],
    ["Ethi", "ethi", "ethiopic"],
    ["Gara", "gara", "garay"],
    ["Geor", "geor", "georgian"],
    ["Glag", "glag", "glagolitic"],
    ["Gong", "gong", "gunjalagondi"],
    ["Gonm", "gonm", "masaramgondi"],
    ["Goth", "goth", "gothic"],
    ["Gran", "gran", "grantha"],
    ["Grek", "grek", "greek"],
    ["Gujr", "gujr", "gujarati"],
    ["Gukh", "gukh", "gurungkhema"],
    ["Guru", "guru", "gurmukhi"],
    ["Hang", "hang", "hangul"],
    ["Hani", "hani", "han"],
    ["Hano", "hano", "hanunoo"],
    ["Hatr", "hatr", "hatran"],
    ["Hebr", "hebr", "hebrew"],
    ["Hira", "hira", "hiragana"],
    ["Hluw", "hluw", "anatolianhieroglyphs"],
    ["Hmng", "hmng", "pahawhhmong"],
    ["Hmnp", "hmnp", "nyiakengpuachuehmong"],
    ["Hung", "hung", "oldhungarian"],
    ["Ital", "ital", "olditalic"],
    ["Java", "java", "javanese"],
    ["Kali", "kali", "kayahli"],
    ["Kana", "kana", "katakana"],
    ["Kawi", "kawi"],
    ["Khar", "khar", "kharoshthi"],
    ["Khmr", "khmr", "khmer"],
    ["Khoj", "khoj", "khojki"],
    ["Kits", "kits", "khitansmallscript"],
    ["Knda", "knda", "kannada"],
    ["Krai", "krai", "kiratrai"],
    ["Kthi", "kthi", "kaithi"],
    ["Lana", "lana", "taitham"],
    ["Laoo", "laoo", "lao"],
    ["Latn", "latn", "latin"],
    ["Lepc", "lepc", "lepcha"],
    ["Limb", "limb", "limbu"],
    ["Lina", "lina", "lineara"],
    ["Linb", "linb", "linearb"],
    ["Lisu", "lisu"],
    ["Lyci", "lyci", "lycian"],
    ["Lydi", "lydi", "lydian"],
    ["Mahj", "mahj", "mahajani"],
    ["Maka", "maka", "makasar"],
    ["Mand", "mand", "mandaic"],
    ["Mani", "mani", "manichaean"],
    ["Marc", "marc", "marchen"],
    ["Medf", "medf", "medefaidrin"],
    ["Mend", "mend", "mendekikakui"],
    ["Merc", "merc", "meroiticcursive"],
    ["Mero", "mero", "meroitichieroglyphs"],
    ["Mlym", "mlym", "malayalam"],
    ["Modi", "modi"],
    ["Mong", "mong", "mongolian"],
    ["Mroo", "mroo", "mro"],
    ["Mtei", "mtei", "meeteimayek"],
    ["Mult", "mult", "multani"],
    ["Mymr", "mymr", "myanmar"],
    ["Nagm", "nagm", "nagmundari"],
    ["Nand", "nand", "nandinagari"],
    ["Narb", "narb", "oldnortharabian"],
    ["Nbat", "nbat", "nabataean"],
    ["Newa", "newa"],
    ["Nkoo", "nkoo", "nko"],
    ["Nshu", "nshu", "nushu"],
    ["Ogam", "ogam", "ogham"],
    ["Olck", "olck", "olchiki"],
    ["Onao", "onao", "olonal"],
    ["Orkh", "orkh", "oldturkic"],
    ["Orya", "orya", "oriya"],
    ["Osge", "osge", "osage"],
    ["Osma", "osma", "osmanya"],
    ["Ougr", "ougr", "olduyghur"],
    ["Palm", "palm", "palmyrene"],
    ["Pauc", "pauc", "paucinhau"],
    ["Perm", "perm", "oldpermic"],
    ["Phag", "phag", "phagspa"],
    ["Phli", "phli", "inscriptionalpahlavi"],
    ["Phlp", "phlp", "psalterpahlavi"],
    ["Phnx", "phnx", "phoenician"],
    ["Plrd", "plrd", "miao"],
    ["Prti", "prti", "inscriptionalparthian"],
    ["Rjng", "rjng", "rejang"],
    ["Rohg", "rohg", "hanifirohingya"],
    ["Runr", "runr", "runic"],
    ["Samr", "samr", "samaritan"],
    ["Sarb", "sarb", "oldsoutharabian"],
    ["Saur", "saur", "saurashtra"],
    ["Sgnw", "sgnw", "signwriting"],
    ["Shaw", "shaw", "shavian"],
    ["Shrd", "shrd", "sharada"],
    ["Sidd", "sidd", "siddham"],
    ["Sind", "sind", "khudawadi"],
    ["Sinh", "sinh", "sinhala"],
    ["Sogd", "sogd", "sogdian"],
    ["Sogo", "sogo", "oldsogdian"],
    ["Sora", "sora", "sorasompeng"],
    ["Soyo", "soyo", "soyombo"],
    ["Sund", "sund", "sundanese"],
    ["Sunu", "sunu", "sunuwar"],
    ["Sylo", "sylo", "sylotinagri"],
    ["Syrc", "syrc", "syriac"],
    ["Tagb", "tagb", "tagbanwa"],
    ["Takr", "takr", "takri"],
    ["Tale", "tale", "taile"],
    ["Talu", "talu", "newtailue"],
    ["Taml", "taml", "tamil"],
    ["Tang", "tang", "tangut"],
    ["Tavt", "tavt", "taiviet"],
    ["Telu", "telu", "telugu"],
    ["Tfng", "tfng", "tifinagh"],
    ["Tglg", "tglg", "tagalog"],
    ["Thaa", "thaa", "thaana"],
    ["Thai", "thai"],
    ["Tibt", "tibt", "tibetan"],
    ["Tirh", "tirh", "tirhuta"],
    ["Tnsa", "tnsa", "tangsa"],
    ["Todr", "todr", "todhri"],
    ["Toto", "toto"],
    ["Tutg", "tutg", "tulutigalari"],
    ["Ugar", "ugar", "ugaritic"],
    ["Vaii", "vaii", "vai"],
    ["Vith", "vith", "vithkuqi"],
    ["Wara", "wara", "warangciti"],
    ["Wcho", "wcho", "wancho"],
    ["Xpeo", "xpeo", "oldpersian"],
    ["Xsux", "xsux", "cuneiform"],
    ["Yezi", "yezi", "yezidi"],
    ["Yiii", "yiii", "yi"],
    ["Zanb", "zanb", "zanabazarsquare"],
    ["Zinh", "zinh", "inherited", "qaai"],
    ["Zyyy", "zyyy", "common"]]

def scriptExtensions : List (String × List String) :=
  [("Adlm", [
    "17jN1YwN1Y55aN1Y2r5N1Y"]),
    ("Aghb", [
    "lgN1Y18N1Y18N1Y"]),
    ("Arab", [
    "170N1YeN1Y3N1YwN1YaNbYqN1Y53yN1Y2r5N1Y14vwN2Y140NsY"]),
    ("Armn", [
    "lkN1Y"]),
    ("Avst", [
    "53N1Y8zcN2Y"]),
    ("Beng", [
    "jgN1Y1asN2YhN2Y3u2N1Y1N1Y2N2Y1N1Y8N1Y8N1Y2N1Y4N1Y2N3YrndN1Y"]),
    ("Bopo", [
    "jrN1Y1N3YdN1Y8x3N3Y4NaY1NdYaN4Y2N1Y6N1Y5fN1Y14jtN2Y7uN5Y"]),
    ("Bugi", [
    "xjjN1Y"]),
    ("Buhd", [
    "4l1N2Y"]),
    ("Cakm", [
    "1yeNaY18wNaY"]),
    ("Cari", [
    "53N1Y68yN1Y2N1Y2qbN1Y"]),
    ("Cher", [
    "lcN3Y1N1Y6N2YmN2YbN2Y"]),
    ("Copt", [
    "53N1Yg8N1Y3N2Y1N1Y30N2Y8f5N1Y1614NsY"]),
    ("Cpmn", [
    "1erkN2Y"]),
    ("Cprt", [
    "1erkN3Y4N19Y3N9Y"]),
    ("Cyrl", [
    "jgN1Y1vN3Y1N1Y1N1Y1N1Y2N1Y5N1YabN2Y50xN1Y37uN1Y"]),
    ("Deva", [
    "jgN1Y1asN2YhN2Y3u2N13Y1N2Ys6N1YqprNaY"]),
    ("Dogr", [
    "1usNcYvcwNaY"]),
    ("Dupl", [
    "53N1YgfN2Y1N1YoN2Y8ifN1Y26ozN4Y"]),
    ("Elba", [
    "53N1YgdN1Y"]),
    ("Ethi", [
    "lqN1Y"]),
    ("Gara", [
    "170N1YeN1Y3N1Y"]),
    ("Geor", [
    "53N1Yy9N1Y29dN1Y31aN1Y2qeN1Y"]),
    ("Glag", [
    "53N1YgbN1Y1N1YamN1Y2N1Y75N1Y29dN1Y31aN1Y2qwN1YnqjN1Y"]),
    ("Gong", [
    "53N1Y1poN2Y"]),
    ("Gonm", [
    "1usN2Y"]),
    ("Goth", [
    "53N1YgcN2Y2N1Y14N1Y"]),
    ("Gran", [
    "1u9N2YhN2YhsNeY3bwN1Y1N2YuN3Y3N2Ys6N1Y1buyN1Y2hgN2Y1N1Y"]),
    ("Grek", [
    "53N1Yg8N2Y2N1Y1N1Y1N1YaN1Y1aN1Y2N1Y1aN1Y56zN2YijN1Y"]),
    ("Gujr", [
    "1u9N2YhN2Yvd6NaY"]),
    ("Gukh", [
    "1utN1Y"]),
    ("Guru", [
    "1u9N2YhN2Yvd6NaY"]),
    ("Hang", [
    "9hdN3Y4NaY1NdYgN1Y6N1Y5fN1Y14jtN2Y7uN5Y"]),
    ("Hani", [
    "53N1Y9bsNgY1N3Y2N1Y1NaY1NdYaN4Y2N1Y6N1Y4N4Y57N1Y44NgYwN12Y9N1Y1cN14Y1kN1dYfNcY1fN1Y2gNpYaN5Y",
    "2oNvYmptN8Yh8dN2Y7uN5Y15veNiY63iN2Y"]),
    ("Hano", [
    "4l1N2Y"]),
    ("Hebr", [
    "ljN2Y"]),
    ("Hira", [
    "9hdN3Y4NaY1NdYgN6Y1N1Y4N2Y2jN4Y3N1Y2iN2Y14jsN2Y7uN5YaN1Y19N2Y"]),
    ("Hung", [
    "6e2N1Y2N1Y2qbN1YfN1Y"]),
    ("Java", [
    "xjjN1Y"]),
    ("Kali", [
    "xf2N1Y"]),
    ("Kana", [
    "lhN1YtN1Y8v1N3Y4NaY1NdYgN6Y1N1Y4N2Y2jN4Y3N1Y2iN2Y14jsN2Y7uN5YaN1Y19N2Y"]),
    ("Khoj", [
    "25iNaYv28NaY"]),
    ("Knda", [
    "1u9N2YhN2Y3u2N1Y1N2Y6N1YnN1Y1N1Yri3N6Y"]),
    ("Kthi", [
    "1uuNaY79dN1Yo3iNaY"]),
    ("Latn", [
    "53N1YecN1YaN1Y1N3Y1N1Y9N1Y1N1Y12NfY1N2Y1N1YfN3Y7N2Y1N2Y12N1Y5N1Y4NdY7pN2Yy2N2Y1igN1Y2kcN1Yfq",
    "N1Y5cN1Y2liN1YnvsN8YfaN1Y"]),
    ("Limb", [
    "1utN1Y"]),
    ("Lina", [
    "1errN19Y"]),
    ("Linb", [
    "1erkN3Y4N19Y3N9Y"]),
    ("Lisu", [
    "jgN1YgN1Y8xoN2Y"]),
    ("Lyci", [
    "6e2N1Y"]),
    ("Lydi", [
    "53N1Y8zdN1Y"]),
    ("Mahj", [
    "53N1Y1poNcYvcwNaY"]),
    ("Mand", [
    "18gN1Y"]),
    ("Mani", [
    "18gN1Y"]),
    ("Mero", [
    "6e5N1Y"]),
    ("Mlym", [
    "1u9N2YhN2Y3ucN1YnN1Yri5N3Y"]),
    ("Modi", [
    "x80NaY"]),
    ("Mong", [
    "4qqN2Y1N1Y1m1N1Y34hN2Y5N4Y"]),
    ("Mult", [
    "21yNaY"]),
    ("Mymr", [
    "xf2N1Y"]),
    ("Nand", [
    "1u9N1YiN2YowNaY35lN1Y8N1Y7N1YrhxN6Y"]),
    ("Newa", [
    "1u9N2Y3uqN1Y1N2Y9N1Y6N1Y1N1Y1N1Y"]),
    ("Nkoo", [
    "170N1YeN1Y3N1Y1ctaN2Y"]),
    ("Onao", [
    "1usN2Y"]),
    ("Orkh", [
    "6e2N1Y2qdN1Y"]),
    ("Orya", [
    "1u9N2YhN2Y3ucN1YnN1Y"]),
    ("Osge", [
    "ldN1Y2N1Y6N1Y24N1Y"]),
    ("Ougr", [
    "18gN1Y1fhtN1Y"]),
    ("Perm", [
    "53N1Yg8N1Y5N3YaN1Ya7N1Y"]),
    ("Phag", [
    "4qqN2Y1N1Y1m1N1Y34iN1Y"]),
    ("Phlp", [
    "18gN1Y"]),
    ("Rohg", [
    "170N1YeN1Y3N1YwN1Y43N1Y"]),
    ("Runr", [
    "4izN3Y"]),
    ("Samr", [
    "94hN1Y"]),
    ("Shaw", [
    "53N1Y"]),
    ("Shrd", [
    "1u9N1Y3utN1Y1N1Y2N2Y2N1Y9N1Y2N1YriaN6Y2N1Y"]),
    ("Sind", [
    "1usN2Yvd6NaY"]),
    ("Sinh", [
    "1usN2Y3v0N1Y"]),
    ("Sogd", [
    "18gN1Y"]),
    ("Sunu", [
    "lcN2Y1N1Y9N1Y2N1YsN1Y3N1Y"]),
    ("Sylo", [
    "1usN2Y3kNaY"]),
    ("Syrc", [
    "lfN2Y2N2Y1N1YoN3Y7N2Y1N2YkaN1YeN2Y2N1YwN1YaNbYqN1Y4nbN1Y1N1Y"]),
    ("Tagb", [
    "4l1N2Y"]),
    ("Takr", [
    "1usN2Yvd6NaY"]),
    ("Tale", [
    "lcN2Y5N2Y3N1Y2lvNaY"]),
    ("Taml", [
    "1u9N2YhN2Y3ucN1Yro8N1Yky5N1Y1N1Y1jN2Y"]),
    ("Tang", [
    "9gwNgYdrN1Y"]),
    ("Telu", [
    "1u9N2YhN2Y3u7N2Y1N1Y1N1YnN1Y"]),
    ("Tfng", [
    "leN1Y1N1Y1N4YpN1Y"]),
    ("Tglg", [
    "4l1N2Y"]),
    ("Thaa", [
    "170N1YeN2Y2N1Y1sNaY1cw8N1YaN1Y"]),
    ("Thai", [
    "jgN1YqN1Y17N1Y19N1Y"]),
    ("Tibt", [
    "9hkN4Y"]),
    ("Tirh", [
    "1u9N2YhN2Y3u7N1YcN1YfN1Yri5NaY"]),
    ("Todr", [
    "ldN1Y2N1Y2N1Y9N1Y1N1Y22N1Y"]),
    ("Toto", [
    "jgN1Y"]),
    ("Tutg", [
    "2jqNaY35uN1Y1N1Yri3N6Y57N1Y"]),
    ("Yezi", [
    "170N1YeN1Y3N1Y1sNaY"]),
    ("Yiii", [
    "9hdN2Y5NaY2N8Y67N1Y14rpN5Y"]),
    ("Zinh", [
    "lcNfY1N2Y1N1YfN3Y7N2Y1N2YgN1Y2N1YiN1Y5N1Y4NdY7pN2YckNbYqN1YkgN2Y3ulN3Y1NdY1N7Y4N1Y6N1Y3N2Y5i",
    "N2Y1iN1Y1N1Yl1N1Y309N4Y2zN2Y15j9N1Y38aN1Y"]),
    ("Zyyy", [
    "53N1YecN1YaN1Y1N3Y1N1Y9N1Y1N1Y4aN1YifN1YeN1Y3N1YwN1YmbN2Y1hxN1Y167N3Y1zN2Y5nN2Y1N1Yy5N1YdN1Y",
    "7N4Y1N6Y1N3Y2N1YmsN1YvN1YaN1Y2N1Y2plN1YoN2YaN1Y4N1Y1N1YbwNgY1N3Y2N1Y1NaY1NdYgN6Y1N1Y4N4Y2jN2",
    "Y3N1Y2iN2Y43NgYwN12Y9N1Y1cN14Y1kN1dYfNcY1fN1Y2gNpYaN5Y2oNvYmptN8Y88NaY6sN1Y4gN1YghaN2Y79N2Y7",
    "uN5YaN1Y19N2Y9sN3Y4N19Y3N9YblNrY10o4N4Y4hoNiY63iN2Y"])]

/-- The code of the named script. -/
def scriptCode? (name : String) : Option String :=
  (scriptNames.find? fun names => (names.drop 1).contains name).bind List.head?

/-- The code points of the named script. -/
def script? (name : String) : Option CharSet :=
  (scriptCode? name).map fun code => select scriptRuns [code]

/-- The code points that are used with the named script. -/
def scriptExtension? (name : String) : Option CharSet :=
  (scriptCode? name).map fun code =>
    let own := select scriptRuns [code]
    match scriptExtensions.lookup code with
    | none => own
    | some table => own.symmetricDifference (members table)

end Retry.Unicode
