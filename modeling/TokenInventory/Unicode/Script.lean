import TokenInventory.Unicode.Packed

/-!
# Scripts

Each character has one script, which is named by four letters. Some characters of the common and the
inherited script are used with a few other scripts only; these are the extensions of their script.
-/

namespace TokenInventory.Unicode

/-- The scripts of all characters, in runs. -/
def scriptRuns : Runs :=
  Runs.unpack
    "0Zyyy 41Latn 1aZyyy 6Latn 1aZyyy 2fLatn 1Zyyy fLatn 1Zyyy 5Latn 17Zyyy 1Latn 1fZyyy
     1Latn 1c1Zyyy 27Latn 5Zyyy 5Bopo 2Zyyy 14Zinh 70Grek 4Zyyy 1Grek 3Zzzz 2Grek 4Zyyy 1Grek
     1Zzzz 4Grek 1Zyyy 1Grek 1Zyyy 1Grek 3Zzzz 1Grek 1Zzzz 1Grek 14Zzzz 1Grek 3fCopt eGrek
     10Cyrl 85Zinh 2Cyrl a9Zzzz 1Armn 26Zzzz 2Armn 32Zzzz 2Armn 3Zzzz 1Hebr 37Zzzz 8Hebr
     1bZzzz 4Hebr 6Zzzz bArab 5Zyyy 1Arab 6Zyyy 1Arab eZyyy 1Arab 3Zyyy 1Arab 20Zyyy 1Arab
     aZinh bArab 1aZinh 1Arab 6cZyyy 1Arab 22Syrc eZzzz 1Syrc 3cZzzz 2Syrc 3Arab 30Thaa
     32Zzzz eNkoo 3bZzzz 2Nkoo 3Samr 2eZzzz 2Samr fZzzz 1Mand 1cZzzz 2Mand 1Zzzz 1Syrc bZzzz
     5Arab 1fZzzz 1Arab 2Zzzz 6Arab 4aZyyy 1Arab 1dDeva 51Zinh 4Deva fZyyy 2Deva 1aBeng 4Zzzz
     1Beng 8Zzzz 2Beng 2Zzzz 2Beng 16Zzzz 1Beng 7Zzzz 1Beng 1Zzzz 3Beng 4Zzzz 2Beng 9Zzzz
     2Beng 2Zzzz 2Beng 4Zzzz 8Beng 1Zzzz 4Beng 2Zzzz 1Beng 5Zzzz 2Beng 19Zzzz 2Guru 3Zzzz
     1Guru 6Zzzz 4Guru 2Zzzz 2Guru 16Zzzz 1Guru 7Zzzz 1Guru 2Zzzz 1Guru 2Zzzz 1Guru 2Zzzz
     2Guru 1Zzzz 1Guru 5Zzzz 4Guru 2Zzzz 2Guru 3Zzzz 3Guru 1Zzzz 7Guru 4Zzzz 1Guru 1Zzzz
     7Guru 11Zzzz aGujr 3Zzzz 1Gujr 9Zzzz 1Gujr 3Zzzz 1Gujr 16Zzzz 1Gujr 7Zzzz 1Gujr 2Zzzz
     1Gujr 5Zzzz 2Gujr aZzzz 1Gujr 3Zzzz 1Gujr 3Zzzz 2Gujr 1Zzzz fGujr 4Zzzz 2Gujr cZzzz
     7Gujr 7Zzzz 1Orya 3Zzzz 1Orya 8Zzzz 2Orya 2Zzzz 2Orya 16Zzzz 1Orya 7Zzzz 1Orya 2Zzzz
     1Orya 5Zzzz 2Orya 9Zzzz 2Orya 2Zzzz 2Orya 3Zzzz 7Orya 3Zzzz 4Orya 2Zzzz 1Orya 5Zzzz
     2Orya 12Zzzz aTaml 2Zzzz 1Taml 6Zzzz 3Taml 3Zzzz 1Taml 4Zzzz 3Taml 2Zzzz 1Taml 1Zzzz
     1Taml 2Zzzz 3Taml 2Zzzz 3Taml 3Zzzz 3Taml cZzzz 4Taml 5Zzzz 3Taml 3Zzzz 1Taml 4Zzzz
     2Taml 1Zzzz 6Taml 1Zzzz eTaml 15Zzzz 5Telu dZzzz 1Telu 3Zzzz 1Telu 17Zzzz 1Telu 10Zzzz
     2Telu 9Zzzz 1Telu 3Zzzz 1Telu 4Zzzz 7Telu 2Zzzz 1Telu 3Zzzz 2Telu 1Zzzz 2Telu 4Zzzz
     2Telu aZzzz 7Telu 9Knda dZzzz 1Knda 3Zzzz 1Knda 17Zzzz 1Knda aZzzz 1Knda 5Zzzz 2Knda
     9Zzzz 1Knda 3Zzzz 1Knda 4Zzzz 7Knda 2Zzzz 6Knda 2Zzzz 1Knda 4Zzzz 2Knda aZzzz 1Knda
     3Zzzz cMlym dZzzz 1Mlym 3Zzzz 1Mlym 33Zzzz 1Mlym 3Zzzz 1Mlym 6Zzzz 4Mlym 10Zzzz 2Mlym
     1aZzzz 1Sinh 3Zzzz 1Sinh 12Zzzz 3Sinh 18Zzzz 1Sinh 9Zzzz 1Sinh 1Zzzz 2Sinh 7Zzzz 3Sinh
     1Zzzz 4Sinh 6Zzzz 1Sinh 1Zzzz 1Sinh 8Zzzz 6Sinh aZzzz 2Sinh 3Zzzz cThai 3aZzzz 4Zyyy
     1Thai 1cZzzz 25Laoo 2Zzzz 1Laoo 1Zzzz 1Laoo 5Zzzz 1Laoo 18Zzzz 1Laoo 1Zzzz 1Laoo 17Zzzz
     2Laoo 5Zzzz 1Laoo 1Zzzz 1Laoo 7Zzzz 1Laoo aZzzz 2Laoo 4Zzzz 20Tibt 48Zzzz 1Tibt 24Zzzz
     4Tibt 27Zzzz 1Tibt 24Zzzz 1Tibt fZzzz 1Tibt 7Zyyy 4Tibt 2Zzzz 25Mymr a0Geor 26Zzzz 1Geor
     1Zzzz 5Geor 1Zzzz 2Geor 2bZyyy 1Geor 4Hang 100Ethi 49Zzzz 1Ethi 4Zzzz 2Ethi 7Zzzz 1Ethi
     1Zzzz 1Ethi 4Zzzz 2Ethi 29Zzzz 1Ethi 4Zzzz 2Ethi 21Zzzz 1Ethi 4Zzzz 2Ethi 7Zzzz 1Ethi
     1Zzzz 1Ethi 4Zzzz 2Ethi fZzzz 1Ethi 39Zzzz 1Ethi 4Zzzz 2Ethi 43Zzzz 2Ethi 20Zzzz 3Ethi
     1aZzzz 6Cher 56Zzzz 2Cher 6Zzzz 2Cans 280Ogam 1dZzzz 3Runr 4bZyyy 3Runr bZzzz 7Tglg
     16Zzzz 9Tglg 1Hano 15Zyyy 2Zzzz 9Buhd 14Zzzz cTagb dZzzz 1Tagb 3Zzzz 1Tagb 2Zzzz cKhmr
     5eZzzz 2Khmr aZzzz 6Khmr aZzzz 6Mong 2Zyyy 2Mong 1Zyyy 1Mong 14Zzzz 6Mong 59Zzzz 7Mong
     2bZzzz 5Cans 46Zzzz aLimb 1fZzzz 1Limb cZzzz 4Limb cZzzz 4Limb 1Zzzz 3Limb cTale 1eZzzz
     2Tale 5Zzzz bTalu 2cZzzz 4Talu 1aZzzz 6Talu bZzzz 3Talu 2Khmr 20Bugi 1cZzzz 2Bugi 2Lana
     3fZzzz 1Lana 1dZzzz 2Lana bZzzz 6Lana aZzzz 6Lana eZzzz 2Zinh 1fZzzz 31Bali 4dZzzz 3Bali
     2fZzzz 1Sund 40Batk 34Zzzz 8Batk 4Lepc 38Zzzz 3Lepc fZzzz 3Lepc 3Olck 30Cyrl 9Zzzz 7Geor
     2bZzzz 2Geor 3Sund 8Zzzz 8Zinh 3Zyyy 1Zinh dZyyy 1Zinh 7Zyyy 4Zinh 1Zyyy 6Zinh 1Zyyy
     3Zinh 2Zyyy 1Zzzz 5Latn 26Grek 5Cyrl 1Latn 31Grek 5Latn 4Grek 5Latn dCyrl 1Latn 46Grek
     1Zinh 40Latn 100Grek 16Zzzz 2Grek 6Zzzz 2Grek 26Zzzz 2Grek 6Zzzz 2Grek 8Zzzz 1Grek 1Zzzz
     1Grek 1Zzzz 1Grek 1Zzzz 1Grek 1fZzzz 2Grek 35Zzzz 1Grek fZzzz 1Grek eZzzz 2Grek 6Zzzz
     1Grek 13Zzzz 2Grek 3Zzzz 1Grek 9Zzzz 1Zyyy cZinh 2Zyyy 57Zzzz 1Zyyy bLatn 1Zzzz 2Zyyy
     bLatn 1Zyyy fZzzz 1Latn dZzzz 3Zyyy 21Zzzz fZinh 21Zzzz fZyyy 26Grek 1Zyyy 3Latn 2Zyyy
     6Latn 1Zyyy 1bLatn 1Zyyy 11Latn 29Zyyy 3Zzzz 4Zyyy 297Zzzz 19Zyyy bZzzz 15Zyyy 3a0Brai
     100Zyyy 274Zzzz 2Zyyy 20Zzzz 1Zyyy 69Glag 60Latn 20Copt 74Zzzz 5Copt 7Geor 26Zzzz 1Geor
     1Zzzz 5Geor 1Zzzz 2Tfng 38Zzzz 7Tfng 2Zzzz eTfng 1Ethi 17Zzzz 9Ethi 7Zzzz 1Ethi 7Zzzz
     1Ethi 7Zzzz 1Ethi 7Zzzz 1Ethi 7Zzzz 1Ethi 7Zzzz 1Ethi 7Zzzz 1Ethi 7Zzzz 1Cyrl 20Zyyy
     5eZzzz 22Hani 1aZzzz 1Hani 59Zzzz cHani d6Zzzz 1aZyyy cZzzz 4Zyyy 5Hani 1Zyyy 1Hani
     1Zyyy 19Hani 9Zinh 4Hang 2Zyyy 8Hani 4Zyyy 4Zzzz 1Hira 56Zzzz 2Zinh 2Zyyy 2Hira 3Zyyy
     1Kana 5aZyyy 2Kana 3Zzzz 5Bopo 2bZzzz 1Hang 5eZzzz 1Zyyy 10Bopo 20Zyyy 24Zzzz cKana
     10Hang 1fZzzz 1Zyyy 40Hang 1fZyyy 51Kana 2fZyyy 1Kana 58Zyyy a8Hani 19c0Zyyy 40Hani
     5200Yiii 48dZzzz 3Yiii 37Zzzz 9Lisu 30Vaii 12cZzzz 14Cyrl 60Bamu 58Zzzz 8Zyyy 22Latn
     66Zyyy 3Latn 40Zzzz 5Latn 2Zzzz 1Latn 1Zzzz 1Latn 5Zzzz 18Latn eSylo 2dZzzz 3Zyyy aZzzz
     6Phag 38Zzzz 8Saur 46Zzzz 8Saur cZzzz 6Deva 20Kali 2eZyyy 1Kali 1Rjng 24Zzzz bRjng 1Hang
     1dZzzz 3Java 4eZzzz 1Zyyy 1Java aZzzz 4Java 2Mymr 1fZzzz 1Cham 37Zzzz 9Cham eZzzz 2Cham
     aZzzz 2Cham 4Mymr 20Tavt 43Zzzz 18Tavt 5Mtei 17Zzzz aEthi 6Zzzz 2Ethi 6Zzzz 2Ethi 6Zzzz
     9Ethi 7Zzzz 1Ethi 7Zzzz 1Latn 2bZyyy 1Latn 9Grek 1Latn 4Zyyy 2Zzzz 4Cher 50Mtei 2eZzzz
     2Mtei aZzzz 6Hang 2ba4Zzzz cHang 17Zzzz 4Hang 31Zzzz 2104Hani 16eZzzz 2Hani 6aZzzz
     26Latn 7Zzzz cArmn 5Zzzz 5Hebr 1aZzzz 1Hebr 5Zzzz 1Hebr 1Zzzz 1Hebr 2Zzzz 1Hebr 2Zzzz
     1Hebr aArab 73Zzzz 10Arab 16bZyyy 2Arab 50Zzzz 2Arab 36Zzzz 7Arab 1Zzzz 20Arab 10Zinh
     10Zyyy aZzzz 6Zinh eCyrl 2Zyyy 23Zzzz 1Zyyy 13Zzzz 1Zyyy 4Zzzz 4Arab 5Zzzz 1Arab 87Zzzz
     2Zyyy 1Zzzz 1Zyyy 20Latn 1aZyyy 6Latn 1aZyyy bKana aZyyy 1Kana 2dZyyy 2Hang 1fZzzz 3Hang
     6Zzzz 2Hang 6Zzzz 2Hang 6Zzzz 2Hang 3Zzzz 3Zyyy 7Zzzz 1Zyyy 7Zzzz aZyyy 5Zzzz 2Linb
     cZzzz 1Linb 1aZzzz 1Linb 13Zzzz 1Linb 2Zzzz 1Linb fZzzz 2Linb eZzzz 22Linb 7bZzzz 5Zyyy
     3Zzzz 4Zyyy 2dZzzz 3Zyyy 9Grek 4fZzzz 1Zyyy dZzzz 3Grek 1Zzzz 2fZyyy 2dZinh 1Zzzz 82Lyci
     1dZzzz 3Cari 31Zzzz fZinh 1Zyyy 1bZzzz 4Ital 24Zzzz 9Ital 3Goth 1bZzzz 5Perm 2bZzzz
     5Ugar 1eZzzz 1Ugar 1Xpeo 24Zzzz 4Xpeo eZzzz 2aDsrt 50Shaw 30Osma 1eZzzz 2Osma aZzzz
     6Osge 24Zzzz 4Osge 24Zzzz 4Elba 28Zzzz 8Aghb 34Zzzz bAghb 1Vith bZzzz 1Vith fZzzz 1Vith
     7Zzzz 1Vith 2Zzzz 1Vith bZzzz 1Vith fZzzz 1Vith 7Zzzz 1Vith 2Zzzz 43Lina 137Zzzz 9Lina
     16Zzzz aLina 8Zzzz 18Latn 6Zzzz 1Latn 2aZzzz 1Latn 9Zzzz 45Cprt 6Zzzz 2Cprt 1Zzzz 1Cprt
     2cZzzz 1Cprt 2Zzzz 3Cprt 1Zzzz 2Cprt 1Armi 16Zzzz 1Armi 9Palm 20Nbat 1fZzzz 8Nbat 9Zzzz
     30Hatr 13Zzzz 1Hatr 2Zzzz 5Hatr 5Phnx 1cZzzz 3Phnx 1Lydi 1aZzzz 5Lydi 1Zzzz 40Mero
     20Merc 18Zzzz 4Merc 14Zzzz 2Merc 2eKhar 4Zzzz 1Khar 2Zzzz 5Khar 8Zzzz 1Khar 3Zzzz 1Khar
     1dZzzz 2Khar 3Zzzz 4Khar aZzzz 7Khar 9Zzzz 7Sarb 20Narb 20Zzzz 20Mani 27Zzzz 4Mani cZzzz
     9Avst 36Zzzz 3Avst 7Prti 16Zzzz 2Prti 8Phli 13Zzzz 5Phli 8Phlp 12Zzzz 7Phlp 4Zzzz cPhlp
     7Zzzz 50Orkh 49Zzzz 37Hung 33Zzzz dHung 33Zzzz 7Hung 6Rohg 28Zzzz 8Rohg aZzzz 126Arab
     1fZzzz 1Yezi 2aZzzz 1Yezi 3Zzzz 2Yezi 2Zzzz 4bArab 3Sogo 28Zzzz 8Sogd 2aZzzz 16Ougr
     1aZzzz 26Chrs 1cZzzz 14Elym 17Zzzz 9Brah 4eZzzz 4Brah 24Zzzz 9Brah 1Kthi 43Zzzz aKthi
     1Zzzz 2Sora 19Zzzz 7Sora aZzzz 6Cakm 35Zzzz 1Cakm 12Zzzz 8Mahj 27Zzzz 9Shrd 60Zzzz 1Sinh
     14Zzzz bKhoj 12Zzzz 1Khoj 2fZzzz 3eMult 7Zzzz 1Mult 1Zzzz 1Mult 4Zzzz 1Mult fZzzz 1Mult
     bZzzz 6Sind 3bZzzz 5Sind aZzzz 6Gran 4Zzzz 1Gran 8Zzzz 2Gran 2Zzzz 2Gran 16Zzzz 1Gran
     7Zzzz 1Gran 2Zzzz 1Gran 5Zzzz 1Zinh 1Gran 9Zzzz 2Gran 2Zzzz 2Gran 3Zzzz 2Gran 1Zzzz
     6Gran 1Zzzz 5Gran 7Zzzz 2Gran 7Zzzz 3Gran 5Zzzz 8bNewa 5cZzzz 1Newa 5Zzzz 1eTirh 48Zzzz
     8Tirh aZzzz a6Sidd 36Zzzz 2Sidd 26Zzzz 22Modi 45Zzzz bModi aZzzz 6Mong dZzzz 13Takr
     3aZzzz 6Takr aZzzz 36Ahom 1bZzzz 2Ahom fZzzz 4Ahom 17Zzzz b9Dogr 3cZzzz 64Wara 53Zzzz
     cWara 1Diak 7Zzzz 2Diak 1Zzzz 2Diak 8Zzzz 1Diak 2Zzzz 1Diak 1eZzzz 1Diak 2Zzzz 2Diak
     cZzzz 9Diak aZzzz 46Nand 8Zzzz 2Nand 2eZzzz 2Nand bZzzz 1bZanb 48Zzzz 8Soyo 53Zzzz dCans
     10Pauc 39Zzzz 7Deva aZzzz f6Bhks 9Zzzz 1Bhks 2dZzzz 1Bhks eZzzz aBhks 1dZzzz 3Marc
     20Zzzz 2Marc 16Zzzz 1Marc eZzzz 49Gonm 7Zzzz 1Gonm 2Zzzz 1Gonm 2cZzzz 3Gonm 1Zzzz 1Gonm
     2Zzzz 1Gonm 9Zzzz 8Gonm aZzzz 6Gong 6Zzzz 1Gong 2Zzzz 1Gong 25Zzzz 1Gong 2Zzzz 1Gong
     6Zzzz 7Gong aZzzz 136Maka 19Zzzz 7Kawi 11Zzzz 1Kawi 29Zzzz 3Kawi 1cZzzz 56Lisu 1Zzzz
     fTaml 32Zzzz dTaml 1Xsux 39aZzzz 66Xsux 6fZzzz 1Xsux 5Zzzz bXsux c4Zzzz a4cCpmn 63Zzzz
     dEgyp 456Zzzz faaHluw 247Zzzz 21b9Bamu 239Zzzz 7Mroo 1fZzzz 1Mroo aZzzz 4Mroo 2Tnsa
     4fZzzz 1Tnsa aZzzz 6Bass 1eZzzz 2Bass 6Zzzz aHmng 46Zzzz aHmng aZzzz 1Hmng 7Zzzz 1Hmng
     15Zzzz 5Hmng 13Zzzz 2b0Medf 5bZzzz 65Plrd 4bZzzz 4Plrd 39Zzzz 7Plrd 11Zzzz 40Tang 1Nshu
     1Hani 2Kits 1Zzzz bHani 2Zzzz eTang 17f8Zzzz 8Tang 300Kits 1d6Zzzz 2aTang 9Zzzz 22e7Kana
     4Zzzz 1Kana 7Zzzz 1Kana 2Zzzz 1Kana 1Hira 11fKana 3Zzzz fHira 1Zzzz 1dHira 3Zzzz 2Kana
     1Zzzz eKana 4Zzzz 8Nshu 18cZzzz 904Dupl 6bZzzz 5Dupl dZzzz 3Dupl 9Zzzz 7Dupl aZzzz 2Dupl
     4Zyyy 4Zzzz 125cZinh 2eZzzz 2Zinh 17Zzzz 9Zyyy 74Zzzz 3cZyyy f6Zzzz aZyyy 27Zzzz 2Zyyy
     3eZinh 3Zyyy 11Zinh 8Zyyy 2Zinh 7Zyyy 1eZinh 4Zyyy 3dZzzz 15Grek 46Zzzz 7aZyyy 14Zzzz
     cZyyy 14Zzzz cZyyy 57Zzzz 9Zyyy 19Zzzz 87Zyyy 55Zzzz 1Zyyy 47Zzzz 1Zyyy 2Zzzz 2Zyyy
     1Zzzz 2Zyyy 2Zzzz 2Zyyy 4Zzzz 1Zyyy cZzzz 1Zyyy 1Zzzz 1Zyyy 7Zzzz 1Zyyy 41Zzzz 1Zyyy
     4Zzzz 2Zyyy 8Zzzz 1Zyyy 7Zzzz 1Zyyy 1cZzzz 1Zyyy 4Zzzz 1Zyyy 5Zzzz 1Zyyy 1Zzzz 3Zyyy
     7Zzzz 1Zyyy 154Zzzz 2Zyyy 124Zzzz 2Zyyy 32Sgnw 28cZzzz fSgnw 5Zzzz 1Sgnw fZzzz 450Latn
     1fZzzz 6Latn 6Zzzz d5Glag 7Zzzz 1Glag 11Zzzz 2Glag 7Zzzz 1Glag 2Zzzz 1Glag 5Zzzz 5Cyrl
     3eZzzz 21Cyrl 1Zzzz 70Hmnp 2dZzzz 3Hmnp eZzzz 2Hmnp aZzzz 4Hmnp 2Zzzz 140Toto 1fZzzz
     11Wcho 3aZzzz 5Wcho 1Zzzz 1d0Nagm 2aZzzz 2e6Ethi 7Zzzz 1Ethi 4Zzzz 1Ethi 2Zzzz 1Ethi
     fZzzz 1Mend c5Zzzz 2Mend 10Zzzz 29Adlm 4cZzzz 4Adlm aZzzz 4Adlm 2Zzzz 311Zyyy 44Zzzz
     4cZyyy 3dZzzz c2Arab 4Zzzz 1Arab 1bZzzz 1Arab 2Zzzz 1Arab 1Zzzz 2Arab 1Zzzz 1Arab aZzzz
     1Arab 4Zzzz 1Arab 1Zzzz 1Arab 1Zzzz 6Arab 1Zzzz 4Arab 1Zzzz 1Arab 1Zzzz 1Arab 1Zzzz
     1Arab 3Zzzz 1Arab 2Zzzz 1Arab 1Zzzz 2Arab 1Zzzz 1Arab 1Zzzz 1Arab 1Zzzz 1Arab 1Zzzz
     1Arab 1Zzzz 1Arab 2Zzzz 1Arab 1Zzzz 2Arab 4Zzzz 1Arab 7Zzzz 1Arab 4Zzzz 1Arab 4Zzzz
     1Arab 1Zzzz 1Arab aZzzz 1Arab 11Zzzz 5Arab 3Zzzz 1Arab 5Zzzz 1Arab 11Zzzz 34Arab 2Zzzz
     10eZyyy 2cZzzz 4Zyyy 64Zzzz cZyyy fZzzz 2Zyyy fZzzz 1Zyyy fZzzz 1Zyyy 25Zzzz aZyyy
     aeZzzz 38Zyyy 1aHira 1Zyyy 2Zzzz dZyyy 2cZzzz 4Zyyy 9Zzzz 7Zyyy 2Zzzz eZyyy 6Zzzz 9aZyyy
     3d8Zzzz 4Zyyy 11Zzzz 3Zyyy dZzzz 3Zyyy 77Zzzz 4Zyyy 5fZzzz 6Zyyy cZzzz 4Zyyy 1Zzzz fZyyy
     cZzzz 4Zyyy 38Zzzz 8Zyyy aZzzz 6Zyyy 28Zzzz 8Zyyy 1eZzzz 2Zyyy 2Zzzz 4eZyyy 154Zzzz
     cZyyy eZzzz 2Zyyy dZzzz 3Zyyy 9Zzzz 7Zyyy 2eZzzz 1Zyyy 7Zzzz 8Zyyy eZzzz 4Zyyy 9Zzzz
     7Zyyy 9Zzzz 7Zyyy 93Zzzz 1Zyyy 37Zzzz 25Zyyy aZzzz 406Hani a6e0Zzzz 20Hani 103aZzzz
     6Hani deZzzz 2Hani 1682Zzzz eHani 1d31Zzzz c1fHani 21eZzzz 5e2Hani 134bZzzz 5Hani
     1060Zzzz adc51Zyyy 1Zzzz 1eZyyy 60Zzzz 80Zinh f0Zzzz"

/-- The script of a character. -/
def script (c : Char) : String :=
  Runs.labelAt c "Zzzz" scriptRuns

/-- The scripts with which a character is used, in runs; `X` where that is its own script. -/
def extensionRuns : Runs :=
  Runs.unpack
    "0X 342Grek 1X 2Grek 1X 1dLatn dX 113Cyrl,Perm 1Cyrl,Glag 1Cyrl,Latn 2Cyrl,Glag 1X
     184Arab,Nkoo,Rohg,Syrc,Thaa,Yezi 1X eArab,Nkoo,Rohg,Syrc,Thaa,Yezi 1Arab,Syrc,Thaa 1X
     2Adlm,Arab,Nkoo,Rohg,Syrc,Thaa,Yezi 1X 20Adlm,Arab,Mand,Mani,Ougr,Phlp,Rohg,Sogd,Syrc 1X
     aArab,Syrc bX aArab,Thaa,Yezi aX 6Arab,Syrc 1X 63Arab,Rohg 1X
     27cBeng,Deva,Gran,Gujr,Guru,Knda,Latn,Mlym,Orya,Shrd,Taml,Telu,Tirh
     1Beng,Deva,Gran,Gujr,Guru,Knda,Latn,Mlym,Orya,Taml,Telu,Tirh 1X
     11Beng,Deva,Dogr,Gong,Gonm,Gran,Gujr,Guru,Knda,Mahj,Mlym,Nand,Orya,Sind,Sinh,Sylo,Takr,Taml,Telu,Tirh
     1Beng,Deva,Dogr,Gong,Gonm,Gran,Gujr,Guru,Knda,Limb,Mahj,Mlym,Nand,Orya,Sind,Sinh,Sylo,Takr,Taml,Telu,Tirh
     1Deva,Dogr,Kthi,Mahj aX 76Beng,Cakm,Sylo aX 76Guru,Mult aX 76Gujr,Khoj aX f6Gran,Taml eX
     f2Knda,Nand aX 350Cakm,Mymr,Tale aX b1Geor,Latn 1X 639Buhd,Hano,Tagb,Tglg 2X cbMong,Phag
     2X 1Mong,Phag 1X 4caBeng,Deva,Gran,Knda 1Deva 1Beng,Deva,Gran,Knda 1Deva,Gran 1Deva
     1Beng,Deva 2Deva,Shrd 1Beng,Deva 1Deva,Shrd 1Deva,Knda,Mlym,Orya,Taml,Telu 1Deva
     1Deva,Shrd 2Deva 2Deva,Shrd 1Beng,Deva 1Deva 7Deva,Nand 1Beng,Deva 1Deva 2Beng,Deva
     1Deva 4Beng,Deva,Gran,Knda,Nand,Orya,Telu,Tirh 1Deva,Gran 1Deva,Gran,Knda 1Beng,Deva
     2Beng 1Deva,Gran 2Nand 1X c5Grek 2X 36Cyrl,Syrc 1X 1Syrc 1X 234Latn,Mong 1X
     c0Deva,Gran,Latn 1X d52Cyrl,Glag 1X 1bdBopo,Hang,Hani,Hira,Kana,Yiii
     2Bopo,Hang,Hani,Hira,Kana 1X 2Hani 1X 1Bopo,Hang,Hani,Hira,Kana,Yiii aX
     1Bopo,Hang,Hani,Hira,Kana 1Bopo,Hang,Hani,Hira,Kana,Yiii 8Bopo,Hang,Hani,Hira,Kana 4X
     aBopo,Hani 4X 2Bopo,Hang,Hani,Hira,Kana 1Hira,Kana 5X 1Bopo,Hang,Hani,Hira,Kana 1X
     4Hani,Hira,Kana 2Hani 2X 59Hira,Kana 4X 3Hira,Kana 1X 5aBopo,Hang,Hani,Hira,Kana,Yiii
     1Hira,Kana 1X 93Hani 10X 20Hani 24X 3cHani 28X 38Hani 31X fHani cX 33Hani 1X 58Hani 19X
     aHani 5X 60Hani 1fX 7270Cyrl,Glag 1X 90Hani,Latn 8X
     128Deva,Dogr,Gujr,Guru,Khoj,Knda,Kthi,Mahj,Mlym,Modi,Nand,Sind,Takr,Tirh
     3Deva,Dogr,Gujr,Guru,Khoj,Knda,Kthi,Mahj,Modi,Nand,Sind,Takr,Tirh
     3Deva,Dogr,Gujr,Guru,Khoj,Kthi,Mahj,Modi,Sind,Takr,Tirh 4X b7Beng,Deva 1X 1Deva,Taml 1X
     3aKali,Latn,Mymr 1X a0Bugi,Java 1X 536eArab,Nkoo 2X b2Arab,Thaa 1X aArab,Thaa 1X
     47Bopo,Hang,Hani,Hira,Kana 2X 11aBopo,Hang,Hani,Hira,Kana,Yiii 5X aHira,Kana 1X
     2dHira,Kana 2X 160Cpmn,Cprt,Linb 2Cprt,Linb 1X 4Cprt,Lina,Linb 2dX 3Cprt,Linb 9X
     1a0Arab,Copt 1cX 7f6Mani,Ougr 1X 80eGran,Taml 1X 1Gran,Taml 1X 37Gran,Taml 2X
     c93Gran,Taml 2X 1Gran,Taml 1X 9cccDupl 4X 16bcHani 12X 1edeHani 2X"

/-- Whether a character is used with a script. -/
def isUsedWith (code : String) (c : Char) : Bool :=
  match Runs.labelAt c "X" extensionRuns with
  | "X" => script c == code
  | codes => (Text.splitAll ',' codes.toList).contains code.toList

/-- The names of scripts. -/
def scriptNames : List (String × List String) :=
  [("Adlm", ["adlam", "adlm"]), ("Aghb", ["aghb", "caucasianalbanian"]), ("Ahom", ["ahom"]),
    ("Arab", ["arab", "arabic"]), ("Armi", ["armi", "imperialaramaic"]),
    ("Armn", ["armenian", "armn"]), ("Avst", ["avestan", "avst"]), ("Bali", ["bali", "balinese"]),
    ("Bamu", ["bamu", "bamum"]), ("Bass", ["bass", "bassavah"]), ("Batk", ["batak", "batk"]),
    ("Beng", ["beng", "bengali"]), ("Bhks", ["bhaiksuki", "bhks"]),
    ("Bopo", ["bopo", "bopomofo"]), ("Brah", ["brah", "brahmi"]), ("Brai", ["brai", "braille"]),
    ("Bugi", ["bugi", "buginese"]), ("Buhd", ["buhd", "buhid"]), ("Cakm", ["cakm", "chakma"]),
    ("Cans", ["canadianaboriginal", "cans"]), ("Cari", ["cari", "carian"]), ("Cham", ["cham"]),
    ("Cher", ["cher", "cherokee"]), ("Chrs", ["chorasmian", "chrs"]),
    ("Copt", ["copt", "coptic", "qaac"]), ("Cpmn", ["cpmn", "cyprominoan"]),
    ("Cprt", ["cprt", "cypriot"]), ("Cyrl", ["cyrillic", "cyrl"]),
    ("Deva", ["deva", "devanagari"]), ("Diak", ["diak", "divesakuru"]),
    ("Dogr", ["dogr", "dogra"]), ("Dsrt", ["deseret", "dsrt"]), ("Dupl", ["dupl", "duployan"]),
    ("Egyp", ["egyp", "egyptianhieroglyphs"]), ("Elba", ["elba", "elbasan"]),
    ("Elym", ["elym", "elymaic"]), ("Ethi", ["ethi", "ethiopic"]), ("Geor", ["geor", "georgian"]),
    ("Glag", ["glag", "glagolitic"]), ("Gong", ["gong", "gunjalagondi"]),
    ("Gonm", ["gonm", "masaramgondi"]), ("Goth", ["goth", "gothic"]),
    ("Gran", ["gran", "grantha"]), ("Grek", ["greek", "grek"]), ("Gujr", ["gujarati", "gujr"]),
    ("Guru", ["gurmukhi", "guru"]), ("Hang", ["hang", "hangul"]), ("Hani", ["han", "hani"]),
    ("Hano", ["hano", "hanunoo"]), ("Hatr", ["hatr", "hatran"]), ("Hebr", ["hebr", "hebrew"]),
    ("Hira", ["hira", "hiragana"]), ("Hluw", ["anatolianhieroglyphs", "hluw"]),
    ("Hmng", ["hmng", "pahawhhmong"]), ("Hmnp", ["hmnp", "nyiakengpuachuehmong"]),
    ("Hung", ["hung", "oldhungarian"]), ("Ital", ["ital", "olditalic"]),
    ("Java", ["java", "javanese"]), ("Kali", ["kali", "kayahli"]), ("Kana", ["kana", "katakana"]),
    ("Kawi", ["kawi"]), ("Khar", ["khar", "kharoshthi"]), ("Khmr", ["khmer", "khmr"]),
    ("Khoj", ["khoj", "khojki"]), ("Kits", ["khitansmallscript", "kits"]),
    ("Knda", ["kannada", "knda"]), ("Kthi", ["kaithi", "kthi"]), ("Lana", ["lana", "taitham"]),
    ("Laoo", ["lao", "laoo"]), ("Latn", ["latin", "latn"]), ("Lepc", ["lepc", "lepcha"]),
    ("Limb", ["limb", "limbu"]), ("Lina", ["lina", "lineara"]), ("Linb", ["linb", "linearb"]),
    ("Lisu", ["lisu"]), ("Lyci", ["lyci", "lycian"]), ("Lydi", ["lydi", "lydian"]),
    ("Mahj", ["mahajani", "mahj"]), ("Maka", ["maka", "makasar"]), ("Mand", ["mand", "mandaic"]),
    ("Mani", ["mani", "manichaean"]), ("Marc", ["marc", "marchen"]),
    ("Medf", ["medefaidrin", "medf"]), ("Mend", ["mend", "mendekikakui"]),
    ("Merc", ["merc", "meroiticcursive"]), ("Mero", ["mero", "meroitichieroglyphs"]),
    ("Mlym", ["malayalam", "mlym"]), ("Modi", ["modi"]), ("Mong", ["mong", "mongolian"]),
    ("Mroo", ["mro", "mroo"]), ("Mtei", ["meeteimayek", "mtei"]), ("Mult", ["mult", "multani"]),
    ("Mymr", ["myanmar", "mymr"]), ("Nagm", ["nagm", "nagmundari"]),
    ("Nand", ["nand", "nandinagari"]), ("Narb", ["narb", "oldnortharabian"]),
    ("Nbat", ["nabataean", "nbat"]), ("Newa", ["newa"]), ("Nkoo", ["nko", "nkoo"]),
    ("Nshu", ["nshu", "nushu"]), ("Ogam", ["ogam", "ogham"]), ("Olck", ["olchiki", "olck"]),
    ("Orkh", ["oldturkic", "orkh"]), ("Orya", ["oriya", "orya"]), ("Osge", ["osage", "osge"]),
    ("Osma", ["osma", "osmanya"]), ("Ougr", ["olduyghur", "ougr"]),
    ("Palm", ["palm", "palmyrene"]), ("Pauc", ["pauc", "paucinhau"]),
    ("Perm", ["oldpermic", "perm"]), ("Phag", ["phag", "phagspa"]),
    ("Phli", ["inscriptionalpahlavi", "phli"]), ("Phlp", ["phlp", "psalterpahlavi"]),
    ("Phnx", ["phnx", "phoenician"]), ("Plrd", ["miao", "plrd"]),
    ("Prti", ["inscriptionalparthian", "prti"]), ("Rjng", ["rejang", "rjng"]),
    ("Rohg", ["hanifirohingya", "rohg"]), ("Runr", ["runic", "runr"]),
    ("Samr", ["samaritan", "samr"]), ("Sarb", ["oldsoutharabian", "sarb"]),
    ("Saur", ["saur", "saurashtra"]), ("Sgnw", ["sgnw", "signwriting"]),
    ("Shaw", ["shavian", "shaw"]), ("Shrd", ["sharada", "shrd"]), ("Sidd", ["sidd", "siddham"]),
    ("Sind", ["khudawadi", "sind"]), ("Sinh", ["sinh", "sinhala"]), ("Sogd", ["sogd", "sogdian"]),
    ("Sogo", ["oldsogdian", "sogo"]), ("Sora", ["sora", "sorasompeng"]),
    ("Soyo", ["soyo", "soyombo"]), ("Sund", ["sund", "sundanese"]),
    ("Sylo", ["sylo", "sylotinagri"]), ("Syrc", ["syrc", "syriac"]),
    ("Tagb", ["tagb", "tagbanwa"]), ("Takr", ["takr", "takri"]), ("Tale", ["taile", "tale"]),
    ("Talu", ["newtailue", "talu"]), ("Taml", ["tamil", "taml"]), ("Tang", ["tang", "tangut"]),
    ("Tavt", ["taiviet", "tavt"]), ("Telu", ["telu", "telugu"]), ("Tfng", ["tfng", "tifinagh"]),
    ("Tglg", ["tagalog", "tglg"]), ("Thaa", ["thaa", "thaana"]), ("Thai", ["thai"]),
    ("Tibt", ["tibetan", "tibt"]), ("Tirh", ["tirh", "tirhuta"]), ("Tnsa", ["tangsa", "tnsa"]),
    ("Toto", ["toto"]), ("Ugar", ["ugar", "ugaritic"]), ("Vaii", ["vai", "vaii"]),
    ("Vith", ["vith", "vithkuqi"]), ("Wara", ["wara", "warangciti"]),
    ("Wcho", ["wancho", "wcho"]), ("Xpeo", ["oldpersian", "xpeo"]),
    ("Xsux", ["cuneiform", "xsux"]), ("Yezi", ["yezi", "yezidi"]), ("Yiii", ["yi", "yiii"]),
    ("Zanb", ["zanabazarsquare", "zanb"]), ("Zinh", ["inherited", "qaai", "zinh"]),
    ("Zyyy", ["common", "zyyy"]), ("Zzzz", ["unknown", "zzzz"])]

/-- The script with a loose name. -/
def scriptNamed? (name : String) : Option String :=
  (scriptNames.find? fun row => row.2.contains name).map Prod.fst

end TokenInventory.Unicode
