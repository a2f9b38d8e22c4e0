import Chatflow.Unicode.CodeSet

/-!
# Scripts

The script of every code point, as runs: the length of the run in hexadecimal, then the four
letters of the script. A code point that several scripts use has extensions beside its script:
the bounds of a range in hexadecimal, then the letters of all scripts that use it.
-/

namespace Chatflow

namespace Unicode

namespace Script

/-- The runs, from the first code point to the last. -/
def runs : List String := [
  "41Zyyy 1aLatn 6Zyyy 1aLatn 2fZyyy 1Latn fZyyy 1Latn 5Zyyy 17Latn 1Zyyy 1fLatn 1Zyyy",
  "1c1Latn 27Zyyy 5Latn 5Zyyy 2Bopo 14Zyyy 70Zinh 4Grek 1Zyyy 3Grek 2Zzzz 4Grek 1Zyyy 1Grek",
  "4Zzzz 1Grek 1Zyyy 1Grek 1Zyyy 3Grek 1Zzzz 1Grek 1Zzzz 14Grek 1Zzzz 3fGrek eCopt 10Grek",
  "85Cyrl 2Zinh a9Cyrl 1Zzzz 26Armn 2Zzzz 32Armn 2Zzzz 3Armn 1Zzzz 37Hebr 8Zzzz 1bHebr 4Zzzz",
  "6Hebr bZzzz 5Arab 1Zyyy 6Arab 1Zyyy eArab 1Zyyy 3Arab 1Zyyy 20Arab 1Zyyy aArab bZinh",
  "1aArab 1Zinh 6cArab 1Zyyy 22Arab eSyrc 1Zzzz 3cSyrc 2Zzzz 3Syrc 30Arab 32Thaa eZzzz 3bNkoo",
  "2Zzzz 3Nkoo 2eSamr 2Zzzz fSamr 1Zzzz 1cMand 2Zzzz 1Mand 1Zzzz bSyrc 5Zzzz 1fArab 1Zzzz",
  "2Arab 6Zzzz 4aArab 1Zyyy 1dArab 51Deva 4Zinh fDeva 2Zyyy 1aDeva 4Beng 1Zzzz 8Beng 2Zzzz",
  "2Beng 2Zzzz 16Beng 1Zzzz 7Beng 1Zzzz 1Beng 3Zzzz 4Beng 2Zzzz 9Beng 2Zzzz 2Beng 2Zzzz 4Beng",
  "8Zzzz 1Beng 4Zzzz 2Beng 1Zzzz 5Beng 2Zzzz 19Beng 2Zzzz 3Guru 1Zzzz 6Guru 4Zzzz 2Guru 2Zzzz",
  "16Guru 1Zzzz 7Guru 1Zzzz 2Guru 1Zzzz 2Guru 1Zzzz 2Guru 2Zzzz 1Guru 1Zzzz 5Guru 4Zzzz 2Guru",
  "2Zzzz 3Guru 3Zzzz 1Guru 7Zzzz 4Guru 1Zzzz 1Guru 7Zzzz 11Guru aZzzz 3Gujr 1Zzzz 9Gujr 1Zzzz",
  "3Gujr 1Zzzz 16Gujr 1Zzzz 7Gujr 1Zzzz 2Gujr 1Zzzz 5Gujr 2Zzzz aGujr 1Zzzz 3Gujr 1Zzzz 3Gujr",
  "2Zzzz 1Gujr fZzzz 4Gujr 2Zzzz cGujr 7Zzzz 7Gujr 1Zzzz 3Orya 1Zzzz 8Orya 2Zzzz 2Orya 2Zzzz",
  "16Orya 1Zzzz 7Orya 1Zzzz 2Orya 1Zzzz 5Orya 2Zzzz 9Orya 2Zzzz 2Orya 2Zzzz 3Orya 7Zzzz 3Orya",
  "4Zzzz 2Orya 1Zzzz 5Orya 2Zzzz 12Orya aZzzz 2Taml 1Zzzz 6Taml 3Zzzz 3Taml 1Zzzz 4Taml 3Zzzz",
  "2Taml 1Zzzz 1Taml 1Zzzz 2Taml 3Zzzz 2Taml 3Zzzz 3Taml 3Zzzz cTaml 4Zzzz 5Taml 3Zzzz 3Taml",
  "1Zzzz 4Taml 2Zzzz 1Taml 6Zzzz 1Taml eZzzz 15Taml 5Zzzz dTelu 1Zzzz 3Telu 1Zzzz 17Telu",
  "1Zzzz 10Telu 2Zzzz 9Telu 1Zzzz 3Telu 1Zzzz 4Telu 7Zzzz 2Telu 1Zzzz 3Telu 2Zzzz 1Telu 2Zzzz",
  "4Telu 2Zzzz aTelu 7Zzzz 9Telu dKnda 1Zzzz 3Knda 1Zzzz 17Knda 1Zzzz aKnda 1Zzzz 5Knda 2Zzzz",
  "9Knda 1Zzzz 3Knda 1Zzzz 4Knda 7Zzzz 2Knda 6Zzzz 2Knda 1Zzzz 4Knda 2Zzzz aKnda 1Zzzz 3Knda",
  "cZzzz dMlym 1Zzzz 3Mlym 1Zzzz 33Mlym 1Zzzz 3Mlym 1Zzzz 6Mlym 4Zzzz 10Mlym 2Zzzz 1aMlym",
  "1Zzzz 3Sinh 1Zzzz 12Sinh 3Zzzz 18Sinh 1Zzzz 9Sinh 1Zzzz 1Sinh 2Zzzz 7Sinh 3Zzzz 1Sinh",
  "4Zzzz 6Sinh 1Zzzz 1Sinh 1Zzzz 8Sinh 6Zzzz aSinh 2Zzzz 3Sinh cZzzz 3aThai 4Zzzz 1Zyyy",
  "1cThai 25Zzzz 2Laoo 1Zzzz 1Laoo 1Zzzz 5Laoo 1Zzzz 18Laoo 1Zzzz 1Laoo 1Zzzz 17Laoo 2Zzzz",
  "5Laoo 1Zzzz 1Laoo 1Zzzz 7Laoo 1Zzzz aLaoo 2Zzzz 4Laoo 20Zzzz 48Tibt 1Zzzz 24Tibt 4Zzzz",
  "27Tibt 1Zzzz 24Tibt 1Zzzz fTibt 1Zzzz 7Tibt 4Zyyy 2Tibt 25Zzzz a0Mymr 26Geor 1Zzzz 1Geor",
  "5Zzzz 1Geor 2Zzzz 2bGeor 1Zyyy 4Geor 100Hang 49Ethi 1Zzzz 4Ethi 2Zzzz 7Ethi 1Zzzz 1Ethi",
  "1Zzzz 4Ethi 2Zzzz 29Ethi 1Zzzz 4Ethi 2Zzzz 21Ethi 1Zzzz 4Ethi 2Zzzz 7Ethi 1Zzzz 1Ethi",
  "1Zzzz 4Ethi 2Zzzz fEthi 1Zzzz 39Ethi 1Zzzz 4Ethi 2Zzzz 43Ethi 2Zzzz 20Ethi 3Zzzz 1aEthi",
  "6Zzzz 56Cher 2Zzzz 6Cher 2Zzzz 280Cans 1dOgam 3Zzzz 4bRunr 3Zyyy bRunr 7Zzzz 16Tglg 9Zzzz",
  "1Tglg 15Hano 2Zyyy 9Zzzz 14Buhd cZzzz dTagb 1Zzzz 3Tagb 1Zzzz 2Tagb cZzzz 5eKhmr 2Zzzz",
  "aKhmr 6Zzzz aKhmr 6Zzzz 2Mong 2Zyyy 1Mong 1Zyyy 14Mong 6Zzzz 59Mong 7Zzzz 2bMong 5Zzzz",
  "46Cans aZzzz 1fLimb 1Zzzz cLimb 4Zzzz cLimb 4Zzzz 1Limb 3Zzzz cLimb 1eTale 2Zzzz 5Tale",
  "bZzzz 2cTalu 4Zzzz 1aTalu 6Zzzz bTalu 3Zzzz 2Talu 20Khmr 1cBugi 2Zzzz 2Bugi 3fLana 1Zzzz",
  "1dLana 2Zzzz bLana 6Zzzz aLana 6Zzzz eLana 2Zzzz 1fZinh 31Zzzz 4dBali 3Zzzz 2fBali 1Zzzz",
  "40Sund 34Batk 8Zzzz 4Batk 38Lepc 3Zzzz fLepc 3Zzzz 3Lepc 30Olck 9Cyrl 7Zzzz 2bGeor 2Zzzz",
  "3Geor 8Sund 8Zzzz 3Zinh 1Zyyy dZinh 1Zyyy 7Zinh 4Zyyy 1Zinh 6Zyyy 1Zinh 3Zyyy 2Zinh 1Zyyy",
  "5Zzzz 26Latn 5Grek 1Cyrl 31Latn 5Grek 4Latn 5Grek dLatn 1Cyrl 46Latn 1Grek 40Zinh 100Latn",
  "16Grek 2Zzzz 6Grek 2Zzzz 26Grek 2Zzzz 6Grek 2Zzzz 8Grek 1Zzzz 1Grek 1Zzzz 1Grek 1Zzzz",
  "1Grek 1Zzzz 1fGrek 2Zzzz 35Grek 1Zzzz fGrek 1Zzzz eGrek 2Zzzz 6Grek 1Zzzz 13Grek 2Zzzz",
  "3Grek 1Zzzz 9Grek 1Zzzz cZyyy 2Zinh 57Zyyy 1Zzzz bZyyy 1Latn 2Zzzz bZyyy 1Latn fZyyy 1Zzzz",
  "dLatn 3Zzzz 21Zyyy fZzzz 21Zinh fZzzz 26Zyyy 1Grek 3Zyyy 2Latn 6Zyyy 1Latn 1bZyyy 1Latn",
  "11Zyyy 29Latn 3Zyyy 4Zzzz 297Zyyy 19Zzzz bZyyy 15Zzzz 3a0Zyyy 100Brai 274Zyyy 2Zzzz 20Zyyy",
  "1Zzzz 69Zyyy 60Glag 20Latn 74Copt 5Zzzz 7Copt 26Geor 1Zzzz 1Geor 5Zzzz 1Geor 2Zzzz 38Tfng",
  "7Zzzz 2Tfng eZzzz 1Tfng 17Ethi 9Zzzz 7Ethi 1Zzzz 7Ethi 1Zzzz 7Ethi 1Zzzz 7Ethi 1Zzzz 7Ethi",
  "1Zzzz 7Ethi 1Zzzz 7Ethi 1Zzzz 7Ethi 1Zzzz 20Cyrl 5eZyyy 22Zzzz 1aHani 1Zzzz 59Hani cZzzz",
  "d6Hani 1aZzzz cZyyy 4Zzzz 5Zyyy 1Hani 1Zyyy 1Hani 19Zyyy 9Hani 4Zinh 2Hang 8Zyyy 4Hani",
  "4Zyyy 1Zzzz 56Hira 2Zzzz 2Zinh 2Zyyy 3Hira 1Zyyy 5aKana 2Zyyy 3Kana 5Zzzz 2bBopo 1Zzzz",
  "5eHang 1Zzzz 10Zyyy 20Bopo 24Zyyy cZzzz 10Kana 1fHang 1Zzzz 40Zyyy 1fHang 51Zyyy 2fKana",
  "1Zyyy 58Kana a8Zyyy 19c0Hani 40Zyyy 5200Hani 48dYiii 3Zzzz 37Yiii 9Zzzz 30Lisu 12cVaii",
  "14Zzzz 60Cyrl 58Bamu 8Zzzz 22Zyyy 66Latn 3Zyyy 40Latn 5Zzzz 2Latn 1Zzzz 1Latn 1Zzzz 5Latn",
  "18Zzzz eLatn 2dSylo 3Zzzz aZyyy 6Zzzz 38Phag 8Zzzz 46Saur 8Zzzz cSaur 6Zzzz 20Deva 2eKali",
  "1Zyyy 1Kali 24Rjng bZzzz 1Rjng 1dHang 3Zzzz 4eJava 1Zzzz 1Zyyy aJava 4Zzzz 2Java 1fMymr",
  "1Zzzz 37Cham 9Zzzz eCham 2Zzzz aCham 2Zzzz 4Cham 20Mymr 43Tavt 18Zzzz 5Tavt 17Mtei aZzzz",
  "6Ethi 2Zzzz 6Ethi 2Zzzz 6Ethi 9Zzzz 7Ethi 1Zzzz 7Ethi 1Zzzz 2bLatn 1Zyyy 9Latn 1Grek 4Latn",
  "2Zyyy 4Zzzz 50Cher 2eMtei 2Zzzz aMtei 6Zzzz 2ba4Hang cZzzz 17Hang 4Zzzz 31Hang 2104Zzzz",
  "16eHani 2Zzzz 6aHani 26Zzzz 7Latn cZzzz 5Armn 5Zzzz 1aHebr 1Zzzz 5Hebr 1Zzzz 1Hebr 1Zzzz",
  "2Hebr 1Zzzz 2Hebr 1Zzzz aHebr 73Arab 10Zzzz 16bArab 2Zyyy 50Arab 2Zzzz 36Arab 7Zzzz 1Arab",
  "20Zzzz 10Arab 10Zinh aZyyy 6Zzzz eZinh 2Cyrl 23Zyyy 1Zzzz 13Zyyy 1Zzzz 4Zyyy 4Zzzz 5Arab",
  "1Zzzz 87Arab 2Zzzz 1Zyyy 1Zzzz 20Zyyy 1aLatn 6Zyyy 1aLatn bZyyy aKana 1Zyyy 2dKana 2Zyyy",
  "1fHang 3Zzzz 6Hang 2Zzzz 6Hang 2Zzzz 6Hang 2Zzzz 3Hang 3Zzzz 7Zyyy 1Zzzz 7Zyyy aZzzz 5Zyyy",
  "2Zzzz cLinb 1Zzzz 1aLinb 1Zzzz 13Linb 1Zzzz 2Linb 1Zzzz fLinb 2Zzzz eLinb 22Zzzz 7bLinb",
  "5Zzzz 3Zyyy 4Zzzz 2dZyyy 3Zzzz 9Zyyy 4fGrek 1Zzzz dZyyy 3Zzzz 1Grek 2fZzzz 2dZyyy 1Zinh",
  "82Zzzz 1dLyci 3Zzzz 31Cari fZzzz 1Zinh 1bZyyy 4Zzzz 24Ital 9Zzzz 3Ital 1bGoth 5Zzzz 2bPerm",
  "5Zzzz 1eUgar 1Zzzz 1Ugar 24Xpeo 4Zzzz eXpeo 2aZzzz 50Dsrt 30Shaw 1eOsma 2Zzzz aOsma 6Zzzz",
  "24Osge 4Zzzz 24Osge 4Zzzz 28Elba 8Zzzz 34Aghb bZzzz 1Aghb bVith 1Zzzz fVith 1Zzzz 7Vith",
  "1Zzzz 2Vith 1Zzzz bVith 1Zzzz fVith 1Zzzz 7Vith 1Zzzz 2Vith 43Zzzz 137Lina 9Zzzz 16Lina",
  "aZzzz 8Lina 18Zzzz 6Latn 1Zzzz 2aLatn 1Zzzz 9Latn 45Zzzz 6Cprt 2Zzzz 1Cprt 1Zzzz 2cCprt",
  "1Zzzz 2Cprt 3Zzzz 1Cprt 2Zzzz 1Cprt 16Armi 1Zzzz 9Armi 20Palm 1fNbat 8Zzzz 9Nbat 30Zzzz",
  "13Hatr 1Zzzz 2Hatr 5Zzzz 5Hatr 1cPhnx 3Zzzz 1Phnx 1aLydi 5Zzzz 1Lydi 40Zzzz 20Mero 18Merc",
  "4Zzzz 14Merc 2Zzzz 2eMerc 4Khar 1Zzzz 2Khar 5Zzzz 8Khar 1Zzzz 3Khar 1Zzzz 1dKhar 2Zzzz",
  "3Khar 4Zzzz aKhar 7Zzzz 9Khar 7Zzzz 20Sarb 20Narb 20Zzzz 27Mani 4Zzzz cMani 9Zzzz 36Avst",
  "3Zzzz 7Avst 16Prti 2Zzzz 8Prti 13Phli 5Zzzz 8Phli 12Phlp 7Zzzz 4Phlp cZzzz 7Phlp 50Zzzz",
  "49Orkh 37Zzzz 33Hung dZzzz 33Hung 7Zzzz 6Hung 28Rohg 8Zzzz aRohg 126Zzzz 1fArab 1Zzzz",
  "2aYezi 1Zzzz 3Yezi 2Zzzz 2Yezi 4bZzzz 3Arab 28Sogo 8Zzzz 2aSogd 16Zzzz 1aOugr 26Zzzz",
  "1cChrs 14Zzzz 17Elym 9Zzzz 4eBrah 4Zzzz 24Brah 9Zzzz 1Brah 43Kthi aZzzz 1Kthi 2Zzzz 19Sora",
  "7Zzzz aSora 6Zzzz 35Cakm 1Zzzz 12Cakm 8Zzzz 27Mahj 9Zzzz 60Shrd 1Zzzz 14Sinh bZzzz 12Khoj",
  "1Zzzz 2fKhoj 3eZzzz 7Mult 1Zzzz 1Mult 1Zzzz 4Mult 1Zzzz fMult 1Zzzz bMult 6Zzzz 3bSind",
  "5Zzzz aSind 6Zzzz 4Gran 1Zzzz 8Gran 2Zzzz 2Gran 2Zzzz 16Gran 1Zzzz 7Gran 1Zzzz 2Gran 1Zzzz",
  "5Gran 1Zzzz 1Zinh 9Gran 2Zzzz 2Gran 2Zzzz 3Gran 2Zzzz 1Gran 6Zzzz 1Gran 5Zzzz 7Gran 2Zzzz",
  "7Gran 3Zzzz 5Gran 8bZzzz 5cNewa 1Zzzz 5Newa 1eZzzz 48Tirh 8Zzzz aTirh a6Zzzz 36Sidd 2Zzzz",
  "26Sidd 22Zzzz 45Modi bZzzz aModi 6Zzzz dMong 13Zzzz 3aTakr 6Zzzz aTakr 36Zzzz 1bAhom 2Zzzz",
  "fAhom 4Zzzz 17Ahom b9Zzzz 3cDogr 64Zzzz 53Wara cZzzz 1Wara 7Diak 2Zzzz 1Diak 2Zzzz 8Diak",
  "1Zzzz 2Diak 1Zzzz 1eDiak 1Zzzz 2Diak 2Zzzz cDiak 9Zzzz aDiak 46Zzzz 8Nand 2Zzzz 2eNand",
  "2Zzzz bNand 1bZzzz 48Zanb 8Zzzz 53Soyo dZzzz 10Cans 39Pauc 7Zzzz aDeva f6Zzzz 9Bhks 1Zzzz",
  "2dBhks 1Zzzz eBhks aZzzz 1dBhks 3Zzzz 20Marc 2Zzzz 16Marc 1Zzzz eMarc 49Zzzz 7Gonm 1Zzzz",
  "2Gonm 1Zzzz 2cGonm 3Zzzz 1Gonm 1Zzzz 2Gonm 1Zzzz 9Gonm 8Zzzz aGonm 6Zzzz 6Gong 1Zzzz 2Gong",
  "1Zzzz 25Gong 1Zzzz 2Gong 1Zzzz 6Gong 7Zzzz aGong 136Zzzz 19Maka 7Zzzz 11Kawi 1Zzzz 29Kawi",
  "3Zzzz 1cKawi 56Zzzz 1Lisu fZzzz 32Taml dZzzz 1Taml 39aXsux 66Zzzz 6fXsux 1Zzzz 5Xsux bZzzz",
  "c4Xsux a4cZzzz 63Cpmn dZzzz 456Egyp faaZzzz 247Hluw 21b9Zzzz 239Bamu 7Zzzz 1fMroo 1Zzzz",
  "aMroo 4Zzzz 2Mroo 4fTnsa 1Zzzz aTnsa 6Zzzz 1eBass 2Zzzz 6Bass aZzzz 46Hmng aZzzz aHmng",
  "1Zzzz 7Hmng 1Zzzz 15Hmng 5Zzzz 13Hmng 2b0Zzzz 5bMedf 65Zzzz 4bPlrd 4Zzzz 39Plrd 7Zzzz",
  "11Plrd 40Zzzz 1Tang 1Nshu 2Hani 1Kits bZzzz 2Hani eZzzz 17f8Tang 8Zzzz 300Tang 1d6Kits",
  "2aZzzz 9Tang 22e7Zzzz 4Kana 1Zzzz 7Kana 1Zzzz 2Kana 1Zzzz 1Kana 11fHira 3Kana fZzzz 1Hira",
  "1dZzzz 3Hira 2Zzzz 1Kana eZzzz 4Kana 8Zzzz 18cNshu 904Zzzz 6bDupl 5Zzzz dDupl 3Zzzz 9Dupl",
  "7Zzzz aDupl 2Zzzz 4Dupl 4Zyyy 125cZzzz 2eZinh 2Zzzz 17Zinh 9Zzzz 74Zyyy 3cZzzz f6Zyyy",
  "aZzzz 27Zyyy 2Zzzz 3eZyyy 3Zinh 11Zyyy 8Zinh 2Zyyy 7Zinh 1eZyyy 4Zinh 3dZyyy 15Zzzz 46Grek",
  "7aZzzz 14Zyyy cZzzz 14Zyyy cZzzz 57Zyyy 9Zzzz 19Zyyy 87Zzzz 55Zyyy 1Zzzz 47Zyyy 1Zzzz",
  "2Zyyy 2Zzzz 1Zyyy 2Zzzz 2Zyyy 2Zzzz 4Zyyy 1Zzzz cZyyy 1Zzzz 1Zyyy 1Zzzz 7Zyyy 1Zzzz 41Zyyy",
  "1Zzzz 4Zyyy 2Zzzz 8Zyyy 1Zzzz 7Zyyy 1Zzzz 1cZyyy 1Zzzz 4Zyyy 1Zzzz 5Zyyy 1Zzzz 1Zyyy 3Zzzz",
  "7Zyyy 1Zzzz 154Zyyy 2Zzzz 124Zyyy 2Zzzz 32Zyyy 28cSgnw fZzzz 5Sgnw 1Zzzz fSgnw 450Zzzz",
  "1fLatn 6Zzzz 6Latn d5Zzzz 7Glag 1Zzzz 11Glag 2Zzzz 7Glag 1Zzzz 2Glag 1Zzzz 5Glag 5Zzzz",
  "3eCyrl 21Zzzz 1Cyrl 70Zzzz 2dHmnp 3Zzzz eHmnp 2Zzzz aHmnp 4Zzzz 2Hmnp 140Zzzz 1fToto",
  "11Zzzz 3aWcho 5Zzzz 1Wcho 1d0Zzzz 2aNagm 2e6Zzzz 7Ethi 1Zzzz 4Ethi 1Zzzz 2Ethi 1Zzzz fEthi",
  "1Zzzz c5Mend 2Zzzz 10Mend 29Zzzz 4cAdlm 4Zzzz aAdlm 4Zzzz 2Adlm 311Zzzz 44Zyyy 4cZzzz",
  "3dZyyy c2Zzzz 4Arab 1Zzzz 1bArab 1Zzzz 2Arab 1Zzzz 1Arab 2Zzzz 1Arab 1Zzzz aArab 1Zzzz",
  "4Arab 1Zzzz 1Arab 1Zzzz 1Arab 6Zzzz 1Arab 4Zzzz 1Arab 1Zzzz 1Arab 1Zzzz 1Arab 1Zzzz 3Arab",
  "1Zzzz 2Arab 1Zzzz 1Arab 2Zzzz 1Arab 1Zzzz 1Arab 1Zzzz 1Arab 1Zzzz 1Arab 1Zzzz 1Arab 1Zzzz",
  "2Arab 1Zzzz 1Arab 2Zzzz 4Arab 1Zzzz 7Arab 1Zzzz 4Arab 1Zzzz 4Arab 1Zzzz 1Arab 1Zzzz aArab",
  "1Zzzz 11Arab 5Zzzz 3Arab 1Zzzz 5Arab 1Zzzz 11Arab 34Zzzz 2Arab 10eZzzz 2cZyyy 4Zzzz 64Zyyy",
  "cZzzz fZyyy 2Zzzz fZyyy 1Zzzz fZyyy 1Zzzz 25Zyyy aZzzz aeZyyy 38Zzzz 1aZyyy 1Hira 2Zyyy",
  "dZzzz 2cZyyy 4Zzzz 9Zyyy 7Zzzz 2Zyyy eZzzz 6Zyyy 9aZzzz 3d8Zyyy 4Zzzz 11Zyyy 3Zzzz dZyyy",
  "3Zzzz 77Zyyy 4Zzzz 5fZyyy 6Zzzz cZyyy 4Zzzz 1Zyyy fZzzz cZyyy 4Zzzz 38Zyyy 8Zzzz aZyyy",
  "6Zzzz 28Zyyy 8Zzzz 1eZyyy 2Zzzz 2Zyyy 4eZzzz 154Zyyy cZzzz eZyyy 2Zzzz dZyyy 3Zzzz 9Zyyy",
  "7Zzzz 2eZyyy 1Zzzz 7Zyyy 8Zzzz eZyyy 4Zzzz 9Zyyy 7Zzzz 9Zyyy 7Zzzz 93Zyyy 1Zzzz 37Zyyy",
  "25Zzzz aZyyy 406Zzzz a6e0Hani 20Zzzz 103aHani 6Zzzz deHani 2Zzzz 1682Hani eZzzz 1d31Hani",
  "c1fZzzz 21eHani 5e2Zzzz 134bHani 5Zzzz 1060Hani adc51Zzzz 1Zyyy 1eZzzz 60Zyyy 80Zzzz",
  "f0Zinh 2fe10Zzzz"]

/-- The ranges whose scripts are not just their own. -/
def extensions : List String := [
  "342-342Grek 345-345Grek 363-36fLatn 483-483CyrlPerm 484-484CyrlGlag 485-486CyrlLatn",
  "487-487CyrlGlag 60c-60cArabNkooRohgSyrcThaaYezi 61b-61bArabNkooRohgSyrcThaaYezi",
  "61c-61cArabSyrcThaa 61f-61fAdlmArabNkooRohgSyrcThaaYezi",
  "640-640AdlmArabMandManiOugrPhlpRohgSogdSyrc 64b-655ArabSyrc 660-669ArabThaaYezi",
  "670-670ArabSyrc 6d4-6d4ArabRohg",
  "951-951BengDevaGranGujrGuruKndaLatnMlymOryaShrdTamlTeluTirh",
  "952-952BengDevaGranGujrGuruKndaLatnMlymOryaTamlTeluTirh",
  "964-964BengDevaDogrGongGonmGranGujrGuruKndaMahjMlymNandOryaSindSinhSyloTakrTamlTeluTirh",
  "965-965BengDevaDogrGongGonmGranGujrGuruKndaLimbMahjMlymNandOryaSindSinhSyloTakrTamlTeluTirh",
  "966-96fDevaDogrKthiMahj 9e6-9efBengCakmSylo a66-a6fGuruMult ae6-aefGujrKhoj",
  "be6-bf3GranTaml ce6-cefKndaNand 1040-1049CakmMymrTale 10fb-10fbGeorLatn",
  "1735-1736BuhdHanoTagbTglg 1802-1803MongPhag 1805-1805MongPhag 1cd0-1cd0BengDevaGranKnda",
  "1cd1-1cd1Deva 1cd2-1cd2BengDevaGranKnda 1cd3-1cd3DevaGran 1cd4-1cd4Deva 1cd5-1cd6BengDeva",
  "1cd7-1cd7DevaShrd 1cd8-1cd8BengDeva 1cd9-1cd9DevaShrd 1cda-1cdaDevaKndaMlymOryaTamlTelu",
  "1cdb-1cdbDeva 1cdc-1cddDevaShrd 1cde-1cdfDeva 1ce0-1ce0DevaShrd 1ce1-1ce1BengDeva",
  "1ce2-1ce8Deva 1ce9-1ce9DevaNand 1cea-1ceaBengDeva 1ceb-1cecDeva 1ced-1cedBengDeva",
  "1cee-1cf1Deva 1cf2-1cf2BengDevaGranKndaNandOryaTeluTirh 1cf3-1cf3DevaGran",
  "1cf4-1cf4DevaGranKnda 1cf5-1cf6BengDeva 1cf7-1cf7Beng 1cf8-1cf9DevaGran 1cfa-1cfaNand",
  "1dc0-1dc1Grek 1df8-1df8CyrlSyrc 1dfa-1dfaSyrc 202f-202fLatnMong 20f0-20f0DevaGranLatn",
  "2e43-2e43CyrlGlag 3001-3002BopoHangHaniHiraKanaYiii 3003-3003BopoHangHaniHiraKana",
  "3006-3006Hani 3008-3011BopoHangHaniHiraKanaYiii 3013-3013BopoHangHaniHiraKana",
  "3014-301bBopoHangHaniHiraKanaYiii 301c-301fBopoHangHaniHiraKana 302a-302dBopoHani",
  "3030-3030BopoHangHaniHiraKana 3031-3035HiraKana 3037-3037BopoHangHaniHiraKana",
  "303c-303dHaniHiraKana 303e-303fHani 3099-309cHiraKana 30a0-30a0HiraKana",
  "30fb-30fbBopoHangHaniHiraKanaYiii 30fc-30fcHiraKana 3190-319fHani 31c0-31e3Hani",
  "3220-3247Hani 3280-32b0Hani 32c0-32cbHani 32ff-32ffHani 3358-3370Hani 337b-337fHani",
  "33e0-33feHani a66f-a66fCyrlGlag a700-a707HaniLatn",
  "a830-a832DevaDogrGujrGuruKhojKndaKthiMahjMlymModiNandSindTakrTirh",
  "a833-a835DevaDogrGujrGuruKhojKndaKthiMahjModiNandSindTakrTirh",
  "a836-a839DevaDogrGujrGuruKhojKthiMahjModiSindTakrTirh a8f1-a8f1BengDeva a8f3-a8f3DevaTaml",
  "a92e-a92eKaliLatnMymr a9cf-a9cfBugiJava fd3e-fd3fArabNkoo fdf2-fdf2ArabThaa",
  "fdfd-fdfdArabThaa fe45-fe46BopoHangHaniHiraKana ff61-ff65BopoHangHaniHiraKanaYiii",
  "ff70-ff70HiraKana ff9e-ff9fHiraKana 10100-10101CpmnCprtLinb 10102-10102CprtLinb",
  "10107-10133CprtLinaLinb 10137-1013fCprtLinb 102e0-102fbArabCopt 10af2-10af2ManiOugr",
  "11301-11301GranTaml 11303-11303GranTaml 1133b-1133cGranTaml 11fd0-11fd1GranTaml",
  "11fd3-11fd3GranTaml 1bca0-1bca3Dupl 1d360-1d371Hani 1f250-1f251Hani"]

/-- The letters of each script with its names, in lower case without blanks. -/
def names : List String := [
  "Adlm=adlm,adlam Aghb=aghb,caucasianalbanian Ahom=ahom Arab=arab,arabic",
  "Armi=armi,imperialaramaic Armn=armn,armenian Avst=avst,avestan Bali=bali,balinese",
  "Bamu=bamu,bamum Bass=bass,bassavah Batk=batk,batak Beng=beng,bengali Bhks=bhks,bhaiksuki",
  "Bopo=bopo,bopomofo Brah=brah,brahmi Brai=brai,braille Bugi=bugi,buginese Buhd=buhd,buhid",
  "Cakm=cakm,chakma Cans=cans,canadianaboriginal Cari=cari,carian Cham=cham",
  "Cher=cher,cherokee Chrs=chrs,chorasmian Copt=copt,coptic,qaac Cpmn=cpmn,cyprominoan",
  "Cprt=cprt,cypriot Cyrl=cyrl,cyrillic Deva=deva,devanagari Diak=diak,divesakuru",
  "Dogr=dogr,dogra Dsrt=dsrt,deseret Dupl=dupl,duployan Egyp=egyp,egyptianhieroglyphs",
  "Elba=elba,elbasan Elym=elym,elymaic Ethi=ethi,ethiopic Geor=geor,georgian",
  "Glag=glag,glagolitic Gong=gong,gunjalagondi Gonm=gonm,masaramgondi Goth=goth,gothic",
  "Gran=gran,grantha Grek=grek,greek Gujr=gujr,gujarati Guru=guru,gurmukhi Hang=hang,hangul",
  "Hani=hani,han Hano=hano,hanunoo Hatr=hatr,hatran Hebr=hebr,hebrew Hira=hira,hiragana",
  "Hluw=hluw,anatolianhieroglyphs Hmng=hmng,pahawhhmong Hmnp=hmnp,nyiakengpuachuehmong",
  "Hrkt=hrkt Hung=hung,oldhungarian Ital=ital,olditalic Java=java,javanese Kali=kali,kayahli",
  "Kana=kana,katakana Kawi=kawi Khar=khar,kharoshthi Khmr=khmr,khmer Khoj=khoj,khojki",
  "Kits=kits,khitansmallscript Knda=knda,kannada Kthi=kthi,kaithi Lana=lana,taitham",
  "Laoo=laoo,lao Latn=latn,latin Lepc=lepc,lepcha Limb=limb,limbu Lina=lina,lineara",
  "Linb=linb,linearb Lisu=lisu Lyci=lyci,lycian Lydi=lydi,lydian Mahj=mahj,mahajani",
  "Maka=maka,makasar Mand=mand,mandaic Mani=mani,manichaean Marc=marc,marchen",
  "Medf=medf,medefaidrin Mend=mend,mendekikakui Merc=merc,meroiticcursive",
  "Mero=mero,meroitichieroglyphs Mlym=mlym,malayalam Modi=modi Mong=mong,mongolian",
  "Mroo=mroo,mro Mtei=mtei,meeteimayek Mult=mult,multani Mymr=mymr,myanmar",
  "Nagm=nagm,nagmundari Nand=nand,nandinagari Narb=narb,oldnortharabian Nbat=nbat,nabataean",
  "Newa=newa Nkoo=nkoo,nko Nshu=nshu,nushu Ogam=ogam,ogham Olck=olck,olchiki",
  "Orkh=orkh,oldturkic Orya=orya,oriya Osge=osge,osage Osma=osma,osmanya Ougr=ougr,olduyghur",
  "Palm=palm,palmyrene Pauc=pauc,paucinhau Perm=perm,oldpermic Phag=phag,phagspa",
  "Phli=phli,inscriptionalpahlavi Phlp=phlp,psalterpahlavi Phnx=phnx,phoenician",
  "Plrd=plrd,miao Prti=prti,inscriptionalparthian Rjng=rjng,rejang Rohg=rohg,hanifirohingya",
  "Runr=runr,runic Samr=samr,samaritan Sarb=sarb,oldsoutharabian Saur=saur,saurashtra",
  "Sgnw=sgnw,signwriting Shaw=shaw,shavian Shrd=shrd,sharada Sidd=sidd,siddham",
  "Sind=sind,khudawadi Sinh=sinh,sinhala Sogd=sogd,sogdian Sogo=sogo,oldsogdian",
  "Sora=sora,sorasompeng Soyo=soyo,soyombo Sund=sund,sundanese Sylo=sylo,sylotinagri",
  "Syrc=syrc,syriac Tagb=tagb,tagbanwa Takr=takr,takri Tale=tale,taile Talu=talu,newtailue",
  "Taml=taml,tamil Tang=tang,tangut Tavt=tavt,taiviet Telu=telu,telugu Tfng=tfng,tifinagh",
  "Tglg=tglg,tagalog Thaa=thaa,thaana Thai=thai Tibt=tibt,tibetan Tirh=tirh,tirhuta",
  "Tnsa=tnsa,tangsa Toto=toto Ugar=ugar,ugaritic Vaii=vaii,vai Vith=vith,vithkuqi",
  "Wara=wara,warangciti Wcho=wcho,wancho Xpeo=xpeo,oldpersian Xsux=xsux,cuneiform",
  "Yezi=yezi,yezidi Yiii=yiii,yi Zanb=zanb,zanabazarsquare Zinh=zinh,inherited,qaai",
  "Zyyy=zyyy,common Zzzz=zzzz,unknown"]

/-- The letters that a script name stands for. -/
def letters? (name : String) : Option String :=
  (names.flatMap (·.splitToList (· = ' '))).findSome? fun e =>
    match e.splitToList (· = '=') with
    | [letters, all] => if (all.splitToList (· = ',')).contains name then some letters else none
    | _ => none

/-- The code points of a script. -/
def ofLetters (letters : String) : CodeSet :=
  CodeSet.ofRanges (((labelledRuns runs).filter (·.1 = letters)).map (·.2))

/-- Whether four letters stand in a row of such groups. -/
def holdsGroup (letters : List Char) : Nat → List Char → Bool
  | 0, _ => false
  | fuel + 1, cs =>
    if cs.isEmpty then false else cs.take 4 == letters || holdsGroup letters fuel (cs.drop 4)

/-- The bounds and the letters of an extension. -/
def readExtension (entry : String) : (Nat × Nat) × List Char :=
  let (low, rest) := readHex 0 entry.toList
  let (high, letters) := readHex 0 (rest.drop 1)
  ((low, high), letters)

/-- The code points that a script uses. -/
def extended (letters : String) : CodeSet :=
  let entries := (extensions.flatMap (·.splitToList (· = ' '))).map readExtension
  let special := CodeSet.ofRanges (entries.map (·.1))
  let own := (ofLetters letters).difference special
  own.union (CodeSet.ofRanges
    ((entries.filter fun e => holdsGroup letters.toList e.2.length e.2).map (·.1)))

/-- The set of a script name. -/
def ofName? (name : String) : Option CodeSet := (letters? name).map ofLetters

end Script

end Unicode

end Chatflow
