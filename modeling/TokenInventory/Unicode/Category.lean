import TokenInventory.Unicode.Packed

/-!
# General categories

Each character has one general category, which is named by two letters. The first letter alone
stands for all categories that start with it.
-/

namespace TokenInventory.Unicode

/-- The categories of all characters, in runs. -/
def categoryRuns : Runs :=
  Runs.unpack
    "0Cc 20Zs 1Po 3Sc 1Po 3Ps 1Pe 1Po 1Sm 1Po 1Pd 1Po 2Nd aPo 2Sm 3Po 2Lu 1aPs 1Po 1Pe 1Sk
     1Pc 1Sk 1Ll 1aPs 1Sm 1Pe 1Sm 1Cc 21Zs 1Po 1Sc 4So 1Po 1Sk 1So 1Lo 1Pi 1Sm 1Cf 1So 1Sk
     1So 1Sm 1No 2Sk 1Ll 1Po 2Sk 1No 1Lo 1Pf 1No 3Po 1Lu 17Sm 1Lu 7Ll 18Sm 1Ll 8Lu 1Ll 1Lu
     1Ll 1Lu 1Ll 1Lu 1Ll 1Lu 1Ll 1Lu 1Ll 1Lu 1Ll 1Lu 1Ll 1Lu 1Ll 1Lu 1Ll 1Lu 1Ll 1Lu 1Ll 1Lu
     1Ll 1Lu 1Ll 1Lu 1Ll 1Lu 1Ll 1Lu 1Ll 1Lu 1Ll 1Lu 1Ll 1Lu 1Ll 1Lu 1Ll 1Lu 1Ll 1Lu 1Ll 1Lu
     1Ll 1Lu 1Ll 1Lu 1Ll 1Lu 1Ll 1Lu 1Ll 2Lu 1Ll 1Lu 1Ll 1Lu 1Ll 1Lu 1Ll 1Lu 1Ll 1Lu 1Ll 1Lu
     1Ll 1Lu 1Ll 2Lu 1Ll 1Lu 1Ll 1Lu 1Ll 1Lu 1Ll 1Lu 1Ll 1Lu 1Ll 1Lu 1Ll 1Lu 1Ll 1Lu 1Ll 1Lu
     1Ll 1Lu 1Ll 1Lu 1Ll 1Lu 1Ll 1Lu 1Ll 1Lu 1Ll 1Lu 1Ll 1Lu 1Ll 1Lu 1Ll 1Lu 1Ll 1Lu 1Ll 1Lu
     1Ll 1Lu 1Ll 1Lu 1Ll 1Lu 2Ll 1Lu 1Ll 1Lu 1Ll 3Lu 2Ll 1Lu 1Ll 1Lu 2Ll 1Lu 3Ll 2Lu 4Ll 1Lu
     2Ll 1Lu 3Ll 3Lu 2Ll 1Lu 2Ll 1Lu 1Ll 1Lu 1Ll 1Lu 2Ll 1Lu 1Ll 2Lu 1Ll 1Lu 2Ll 1Lu 3Ll 1Lu
     1Ll 1Lu 2Ll 2Lo 1Lu 1Ll 3Lo 4Lu 1Lt 1Ll 1Lu 1Lt 1Ll 1Lu 1Lt 1Ll 1Lu 1Ll 1Lu 1Ll 1Lu 1Ll
     1Lu 1Ll 1Lu 1Ll 1Lu 1Ll 1Lu 1Ll 1Lu 1Ll 2Lu 1Ll 1Lu 1Ll 1Lu 1Ll 1Lu 1Ll 1Lu 1Ll 1Lu 1Ll
     1Lu 1Ll 1Lu 1Ll 1Lu 1Ll 2Lu 1Lt 1Ll 1Lu 1Ll 1Lu 3Ll 1Lu 1Ll 1Lu 1Ll 1Lu 1Ll 1Lu 1Ll 1Lu
     1Ll 1Lu 1Ll 1Lu 1Ll 1Lu 1Ll 1Lu 1Ll 1Lu 1Ll 1Lu 1Ll 1Lu 1Ll 1Lu 1Ll 1Lu 1Ll 1Lu 1Ll 1Lu
     1Ll 1Lu 1Ll 1Lu 1Ll 1Lu 1Ll 1Lu 1Ll 1Lu 1Ll 1Lu 1Ll 1Lu 1Ll 1Lu 1Ll 1Lu 1Ll 1Lu 1Ll 1Lu
     1Ll 1Lu 1Ll 1Lu 1Ll 7Lu 2Ll 1Lu 2Ll 2Lu 1Ll 1Lu 4Ll 1Lu 1Ll 1Lu 1Ll 1Lu 1Ll 1Lu 1Ll 45Lo
     1Ll 1bLm 12Sk 4Lm cSk eLm 5Sk 7Lm 1Sk 1Lm 1Sk 11Mn 70Lu 1Ll 1Lu 1Ll 1Lm 1Sk 1Lu 1Ll 1Cn
     2Lm 1Ll 3Po 1Lu 1Cn 4Sk 2Lu 1Po 1Lu 3Cn 1Lu 1Cn 1Lu 2Ll 1Lu 11Cn 1Lu 9Ll 23Lu 1Ll 2Lu
     3Ll 3Lu 1Ll 1Lu 1Ll 1Lu 1Ll 1Lu 1Ll 1Lu 1Ll 1Lu 1Ll 1Lu 1Ll 1Lu 1Ll 1Lu 1Ll 1Lu 1Ll 1Lu
     1Ll 1Lu 1Ll 5Lu 1Ll 1Sm 1Lu 1Ll 1Lu 2Ll 2Lu 33Ll 30Lu 1Ll 1Lu 1Ll 1Lu 1Ll 1Lu 1Ll 1Lu
     1Ll 1Lu 1Ll 1Lu 1Ll 1Lu 1Ll 1Lu 1Ll 1Lu 1Ll 1Lu 1Ll 1Lu 1Ll 1Lu 1Ll 1Lu 1Ll 1Lu 1Ll 1Lu
     1Ll 1Lu 1Ll 1So 1Mn 5Me 2Lu 1Ll 1Lu 1Ll 1Lu 1Ll 1Lu 1Ll 1Lu 1Ll 1Lu 1Ll 1Lu 1Ll 1Lu 1Ll
     1Lu 1Ll 1Lu 1Ll 1Lu 1Ll 1Lu 1Ll 1Lu 1Ll 1Lu 1Ll 1Lu 1Ll 1Lu 1Ll 1Lu 1Ll 1Lu 1Ll 1Lu 1Ll
     1Lu 1Ll 1Lu 1Ll 1Lu 1Ll 1Lu 1Ll 1Lu 1Ll 1Lu 1Ll 1Lu 1Ll 1Lu 1Ll 1Lu 2Ll 1Lu 1Ll 1Lu 1Ll
     1Lu 1Ll 1Lu 1Ll 1Lu 1Ll 1Lu 1Ll 2Lu 1Ll 1Lu 1Ll 1Lu 1Ll 1Lu 1Ll 1Lu 1Ll 1Lu 1Ll 1Lu 1Ll
     1Lu 1Ll 1Lu 1Ll 1Lu 1Ll 1Lu 1Ll 1Lu 1Ll 1Lu 1Ll 1Lu 1Ll 1Lu 1Ll 1Lu 1Ll 1Lu 1Ll 1Lu 1Ll
     1Lu 1Ll 1Lu 1Ll 1Lu 1Ll 1Lu 1Ll 1Lu 1Ll 1Lu 1Ll 1Lu 1Ll 1Lu 1Ll 1Lu 1Ll 1Lu 1Ll 1Lu 1Ll
     1Lu 1Ll 1Lu 1Ll 1Lu 1Ll 1Lu 1Ll 1Lu 1Ll 1Lu 1Ll 1Lu 1Ll 1Lu 1Ll 1Lu 1Ll 1Lu 1Ll 1Lu 1Ll
     1Lu 1Ll 1Lu 1Ll 1Lu 1Ll 1Lu 1Ll 1Lu 1Ll 1Lu 1Ll 1Lu 1Ll 1Lu 1Ll 1Cn 1Lu 26Cn 2Lm 1Po 6Ll
     29Po 1Pd 1Cn 2So 2Sc 1Cn 1Mn 2dPd 1Mn 1Po 1Mn 2Po 1Mn 2Po 1Mn 1Cn 8Lo 1bCn 4Lo 4Po 2Cn
     bCf 6Sm 3Po 2Sc 1Po 2So 2Mn bPo 1Cf 1Po 3Lo 20Lm 1Lo aMn 15Nd aPo 4Lo 2Mn 1Lo 63Po 1Lo
     1Mn 7Cf 1So 1Mn 6Lm 2Mn 2So 1Mn 4Lo 2Nd aLo 3So 2Lo 1Po eCn 1Cf 1Lo 1Mn 1Lo 1eMn 1bCn
     2Lo 59Mn bLo 1Cn eNd aLo 21Mn 9Lm 2So 1Po 3Lm 1Cn 2Mn 1Sc 2Lo 16Mn 4Lm 1Mn 9Lm 1Mn 3Lm
     1Mn 5Cn 2Po fCn 1Lo 19Mn 3Cn 2Po 1Cn 1Lo bCn 5Lo 18Sk 1Lo 6Cn 1Cf 2Cn 6Mn 8Lo 29Lm 1Mn
     18Cf 1Mn 20Mc 1Lo 36Mn 1Mc 1Mn 1Lo 1Mc 3Mn 8Mc 4Mn 1Mc 2Lo 1Mn 7Lo aMn 2Po 2Nd aPo 1Lm
     1Lo fMn 1Mc 2Cn 1Lo 8Cn 2Lo 2Cn 2Lo 16Cn 1Lo 7Cn 1Lo 1Cn 3Lo 4Cn 2Mn 1Lo 1Mc 3Mn 4Cn 2Mc
     2Cn 2Mc 2Mn 1Lo 1Cn 8Mc 1Cn 4Lo 2Cn 1Lo 3Mn 2Cn 2Nd aLo 2Sc 2No 6So 1Sc 1Lo 1Po 1Mn 1Cn
     2Mn 2Mc 1Cn 1Lo 6Cn 4Lo 2Cn 2Lo 16Cn 1Lo 7Cn 1Lo 2Cn 1Lo 2Cn 1Lo 2Cn 2Mn 1Cn 1Mc 3Mn 2Cn
     4Mn 2Cn 2Mn 3Cn 3Mn 1Cn 7Lo 4Cn 1Lo 1Cn 7Nd aMn 2Lo 3Mn 1Po 1Cn aMn 2Mc 1Cn 1Lo 9Cn 1Lo
     3Cn 1Lo 16Cn 1Lo 7Cn 1Lo 2Cn 1Lo 5Cn 2Mn 1Lo 1Mc 3Mn 5Cn 1Mn 2Mc 1Cn 1Mc 2Mn 1Cn 2Lo 1Cn
     fLo 2Mn 2Cn 2Nd aPo 1Sc 1Cn 7Lo 1Mn 6Cn 1Mn 1Mc 2Cn 1Lo 8Cn 2Lo 2Cn 2Lo 16Cn 1Lo 7Cn 1Lo
     2Cn 1Lo 5Cn 2Mn 1Lo 1Mc 1Mn 1Mc 1Mn 4Cn 2Mc 2Cn 2Mc 2Mn 1Cn 7Mn 2Mc 1Cn 4Lo 2Cn 1Lo 3Mn
     2Cn 2Nd aSo 1Lo 1No 6Cn aMn 1Lo 1Cn 1Lo 6Cn 3Lo 3Cn 1Lo 4Cn 3Lo 2Cn 1Lo 1Cn 1Lo 2Cn 3Lo
     2Cn 3Lo 3Cn 3Lo cCn 4Mc 2Mn 1Mc 2Cn 3Mc 3Cn 1Mc 3Mn 1Cn 2Lo 1Cn 6Mc 1Cn eNd aNo 3So 6Sc
     1So 1Cn 5Mn 1Mc 3Mn 1Lo 8Cn 1Lo 3Cn 1Lo 17Cn 1Lo 10Cn 2Mn 1Lo 1Mn 3Mc 4Cn 1Mn 3Cn 1Mn
     4Cn 7Mn 2Cn 1Lo 3Cn 2Lo 1Cn 2Lo 2Mn 2Cn 2Nd aCn 7Po 1No 7So 1Lo 1Mn 1Mc 2Po 1Lo 8Cn 1Lo
     3Cn 1Lo 17Cn 1Lo aCn 1Lo 5Cn 2Mn 1Lo 1Mc 1Mn 1Mc 5Cn 1Mn 1Mc 2Cn 1Mc 2Mn 2Cn 7Mc 2Cn 6Lo
     2Cn 1Lo 2Mn 2Cn 2Nd aCn 1Lo 2Mc 1Cn cMn 2Mc 2Lo 9Cn 1Lo 3Cn 1Lo 29Mn 2Lo 1Mc 3Mn 4Cn 1Mc
     3Cn 1Mc 3Mn 1Lo 1So 1Cn 4Lo 3Mc 1No 7Lo 3Mn 2Cn 2Nd aNo 9So 1Lo 6Cn 1Mn 1Mc 2Cn 1Lo 12Cn
     3Lo 18Cn 1Lo 9Cn 1Lo 1Cn 2Lo 7Cn 3Mn 1Cn 4Mc 3Mn 3Cn 1Mn 1Cn 1Mc 8Cn 6Nd aCn 2Mc 2Po 1Cn
     cLo 30Mn 1Lo 2Mn 7Cn 4Sc 1Lo 6Lm 1Mn 8Po 1Nd aPo 2Cn 25Lo 2Cn 1Lo 1Cn 1Lo 5Cn 1Lo 18Cn
     1Lo 1Cn 1Lo aMn 1Lo 2Mn 9Lo 1Cn 2Lo 5Cn 1Lm 1Cn 1Mn 7Cn 1Nd aCn 2Lo 4Cn 20Lo 1So 3Po fSo
     1Po 1So 3Mn 2So 6Nd aNo aSo 1Mn 1So 1Mn 1So 1Mn 1Ps 1Pe 1Ps 1Pe 1Mc 2Lo 8Cn 1Lo 24Cn 4Mn
     eMc 1Mn 5Po 1Mn 2Lo 5Mn bCn 1Mn 24Cn 1So 8Mn 1So 6Cn 1So 2Po 5So 4Po 2Cn 25Lo 2bMc 2Mn
     4Mc 1Mn 6Mc 1Mn 2Mc 2Mn 2Lo 1Nd aPo 6Lo 6Mc 2Mn 2Lo 4Mn 3Lo 1Mc 3Lo 2Mc 7Lo 3Mn 4Lo dMn
     1Mc 2Mn 2Mc 6Mn 1Lo 1Mc 1Nd aMc 3Mn 1So 2Lu 26Cn 1Lu 1Cn 5Lu 1Cn 2Ll 2bPo 1Lm 1Ll 3Lo
     149Cn 1Lo 4Cn 2Lo 7Cn 1Lo 1Cn 1Lo 4Cn 2Lo 29Cn 1Lo 4Cn 2Lo 21Cn 1Lo 4Cn 2Lo 7Cn 1Lo 1Cn
     1Lo 4Cn 2Lo fCn 1Lo 39Cn 1Lo 4Cn 2Lo 43Cn 2Mn 3Po 9No 14Cn 3Lo 10So aCn 6Lu 56Cn 2Ll 6Cn
     2Pd 1Lo 26cSo 1Po 1Lo 11Zs 1Lo 1aPs 1Pe 1Cn 3Lo 4bPo 3Nl 3Lo 8Cn 7Lo 12Mn 3Mc 1Cn 9Lo
     13Mn 2Mc 1Po 2Cn 9Lo 12Mn 2Cn cLo dCn 1Lo 3Cn 1Mn 2Cn cLo 34Mn 2Mc 1Mn 7Mc 8Mn 1Mc 2Mn
     bPo 3Lm 1Po 3Sc 1Lo 1Mn 1Cn 2Nd aCn 6No aCn 6Po 6Pd 1Po 4Mn 3Cf 1Mn 1Nd aCn 6Lo 23Lm 1Lo
     35Cn 7Lo 5Mn 2Lo 22Mn 1Lo 1Cn 5Lo 46Cn aLo 1fCn 1Mn 3Mc 4Mn 2Mc 3Cn 4Mc 2Mn 1Mc 6Mn 3Cn
     4So 1Cn 3Po 2Nd aLo 1eCn 2Lo 5Cn bLo 2cCn 4Lo 1aCn 6Nd aNo 1Cn 3So 22Lo 17Mn 2Mc 2Mn 1Cn
     2Po 2Lo 35Mc 1Mn 1Mc 1Mn 7Cn 1Mn 1Mc 1Mn 1Mc 2Mn 8Mc 6Mn aCn 2Mn 1Nd aCn 6Nd aCn 6Po 7Lm
     1Po 6Cn 2Mn eMe 1Mn 10Cn 31Mn 4Mc 1Lo 2fMn 1Mc 1Mn 5Mc 1Mn 1Mc 5Mn 1Mc 2Lo 8Cn 3Nd aPo
     7So aMn 9So 9Po 2Cn 1Mn 2Mc 1Lo 1eMc 1Mn 4Mc 2Mn 2Mc 1Mn 3Lo 2Nd aLo 2cMn 1Mc 1Mn 2Mc
     3Mn 1Mc 1Mn 3Mc 2Cn 8Po 4Lo 24Mc 8Mn 8Mc 2Mn 2Cn 3Po 5Nd aCn 3Lo 3Nd aLo 1eLm 6Po 2Ll
     9Cn 7Lu 2bCn 2Lu 3Po 8Cn 8Mn 3Po 1Mn dMc 1Mn 7Lo 4Mn 1Lo 6Mn 1Lo 2Mc 1Mn 2Lo 1Cn 5Ll
     2cLm 3fLl dLm 1Ll 22Lm 25Mn 40Lu 1Ll 1Lu 1Ll 1Lu 1Ll 1Lu 1Ll 1Lu 1Ll 1Lu 1Ll 1Lu 1Ll 1Lu
     1Ll 1Lu 1Ll 1Lu 1Ll 1Lu 1Ll 1Lu 1Ll 1Lu 1Ll 1Lu 1Ll 1Lu 1Ll 1Lu 1Ll 1Lu 1Ll 1Lu 1Ll 1Lu
     1Ll 1Lu 1Ll 1Lu 1Ll 1Lu 1Ll 1Lu 1Ll 1Lu 1Ll 1Lu 1Ll 1Lu 1Ll 1Lu 1Ll 1Lu 1Ll 1Lu 1Ll 1Lu
     1Ll 1Lu 1Ll 1Lu 1Ll 1Lu 1Ll 1Lu 1Ll 1Lu 1Ll 1Lu 1Ll 1Lu 1Ll 1Lu 1Ll 1Lu 1Ll 1Lu 1Ll 1Lu
     1Ll 1Lu 1Ll 1Lu 1Ll 1Lu 1Ll 1Lu 1Ll 1Lu 1Ll 1Lu 1Ll 1Lu 1Ll 1Lu 1Ll 1Lu 1Ll 1Lu 1Ll 1Lu
     1Ll 1Lu 1Ll 1Lu 1Ll 1Lu 1Ll 1Lu 1Ll 1Lu 1Ll 1Lu 1Ll 1Lu 1Ll 1Lu 1Ll 1Lu 1Ll 1Lu 1Ll 1Lu
     1Ll 1Lu 1Ll 1Lu 1Ll 1Lu 1Ll 1Lu 1Ll 1Lu 1Ll 1Lu 1Ll 1Lu 1Ll 1Lu 1Ll 1Lu 1Ll 1Lu 1Ll 1Lu
     1Ll 1Lu 1Ll 9Lu 1Ll 1Lu 1Ll 1Lu 1Ll 1Lu 1Ll 1Lu 1Ll 1Lu 1Ll 1Lu 1Ll 1Lu 1Ll 1Lu 1Ll 1Lu
     1Ll 1Lu 1Ll 1Lu 1Ll 1Lu 1Ll 1Lu 1Ll 1Lu 1Ll 1Lu 1Ll 1Lu 1Ll 1Lu 1Ll 1Lu 1Ll 1Lu 1Ll 1Lu
     1Ll 1Lu 1Ll 1Lu 1Ll 1Lu 1Ll 1Lu 1Ll 1Lu 1Ll 1Lu 1Ll 1Lu 1Ll 1Lu 1Ll 1Lu 1Ll 1Lu 1Ll 1Lu
     1Ll 1Lu 1Ll 1Lu 1Ll 1Lu 1Ll 1Lu 1Ll 1Lu 1Ll 1Lu 1Ll 1Lu 1Ll 1Lu 1Ll 1Lu 1Ll 1Lu 1Ll 1Lu
     1Ll 1Lu 1Ll 1Lu 1Ll 1Lu 1Ll 1Lu 1Ll 1Lu 1Ll 1Lu 1Ll 9Lu 8Ll 6Cn 2Lu 6Cn 2Ll 8Lu 8Ll 8Lu
     8Ll 6Cn 2Lu 6Cn 2Ll 8Cn 1Lu 1Cn 1Lu 1Cn 1Lu 1Cn 1Lu 1Ll 8Lu 8Ll eCn 2Ll 8Lt 8Ll 8Lt 8Ll
     8Lt 8Ll 5Cn 1Ll 2Lu 4Lt 1Sk 1Ll 1Sk 3Ll 3Cn 1Ll 2Lu 4Lt 1Sk 3Ll 4Cn 2Ll 2Lu 4Cn 1Sk 3Ll
     8Lu 5Sk 3Cn 2Ll 3Cn 1Ll 2Lu 4Lt 1Sk 2Cn 1Zs bCf 5Pd 6Po 2Pi 1Pf 1Ps 1Pi 2Pf 1Ps 1Pi 1Po
     8Zl 1Zp 1Cf 5Zs 1Po 9Pi 1Pf 1Po 4Pc 2Po 3Sm 1Ps 1Pe 1Po bSm 1Po 1Pc 1Po aZs 1Cf 5Cn 1Cf
     aNo 1Lm 1Cn 2No 6Sm 3Ps 1Pe 1Lm 1No aSm 3Ps 1Pe 1Cn 1Lm dCn 3Sc 21Cn fMn dMe 4Mn 1Me 3Mn
     cCn fSo 2Lu 1So 4Lu 1So 2Ll 1Lu 3Ll 2Lu 3Ll 1So 1Lu 1So 2Sm 1Lu 5So 6Lu 1So 1Lu 1So 1Lu
     1So 1Lu 4So 1Ll 1Lu 4Ll 1Lo 4Ll 1So 2Ll 2Lu 2Sm 5Lu 1Ll 4So 1Sm 1So 2Ll 1So 1No 10Nl
     23Lu 1Ll 1Nl 4No 1So 2Cn 4Sm 5So 5Sm 2So 4Sm 1So 2Sm 1So 2Sm 1So 7Sm 1So 1fSm 2So 2Sm
     1So 1Sm 1So 1fSm 10cSo 8Ps 1Pe 1Ps 1Pe 1So 14Sm 2So 7Ps 1Pe 1So 51Sm 1So 1eSm 19So 28Sm
     6So 45Cn 19So bCn 15No 3cSo 4eNo 16So b7Sm 1So 9Sm 1So 36Sm 8So 6fSm 1So f8Ps 1Pe 1Ps
     1Pe 1Ps 1Pe 1Ps 1Pe 1Ps 1Pe 1Ps 1Pe 1Ps 1Pe 1No 1eSo 2cSm 5Ps 1Pe 1Sm 1fPs 1Pe 1Ps 1Pe
     1Ps 1Pe 1Ps 1Pe 1Ps 1Pe 1Sm 10So 100Sm 83Ps 1Pe 1Ps 1Pe 1Ps 1Pe 1Ps 1Pe 1Ps 1Pe 1Ps 1Pe
     1Ps 1Pe 1Ps 1Pe 1Ps 1Pe 1Ps 1Pe 1Ps 1Pe 1Sm 3fPs 1Pe 1Ps 1Pe 1Sm 20Ps 1Pe 1Sm 102So 30Sm
     15So 2Sm 6So 27Cn 2So 20Cn 1So 69Lu 30Ll 30Lu 1Ll 1Lu 3Ll 2Lu 1Ll 1Lu 1Ll 1Lu 1Ll 1Lu
     4Ll 1Lu 1Ll 2Lu 1Ll 6Lm 2Lu 3Ll 1Lu 1Ll 1Lu 1Ll 1Lu 1Ll 1Lu 1Ll 1Lu 1Ll 1Lu 1Ll 1Lu 1Ll
     1Lu 1Ll 1Lu 1Ll 1Lu 1Ll 1Lu 1Ll 1Lu 1Ll 1Lu 1Ll 1Lu 1Ll 1Lu 1Ll 1Lu 1Ll 1Lu 1Ll 1Lu 1Ll
     1Lu 1Ll 1Lu 1Ll 1Lu 1Ll 1Lu 1Ll 1Lu 1Ll 1Lu 1Ll 1Lu 1Ll 1Lu 1Ll 1Lu 1Ll 1Lu 1Ll 1Lu 1Ll
     1Lu 1Ll 1Lu 1Ll 1Lu 1Ll 1Lu 1Ll 1Lu 1Ll 1Lu 1Ll 1Lu 1Ll 1Lu 1Ll 1Lu 1Ll 1Lu 1Ll 1Lu 1Ll
     1Lu 1Ll 1Lu 1Ll 1Lu 1Ll 1Lu 1Ll 1Lu 1Ll 1Lu 1Ll 1Lu 1Ll 1Lu 1Ll 1Lu 1Ll 2So 6Lu 1Ll 1Lu
     1Ll 1Mn 3Lu 1Ll 1Cn 5Po 4No 1Po 2Ll 26Cn 1Ll 1Cn 5Ll 1Cn 2Lo 38Cn 7Lm 1Po 1Cn eMn 1Lo
     17Cn 9Lo 7Cn 1Lo 7Cn 1Lo 7Cn 1Lo 7Cn 1Lo 7Cn 1Lo 7Cn 1Lo 7Cn 1Lo 7Cn 1Mn 20Po 2Pi 1Pf
     1Pi 1Pf 1Po 3Pi 1Pf 1Po 1Pi 1Pf 1Po 9Pd 1Po 2Pd 1Po 1Pi 1Pf 1Po 2Pi 1Pf 1Ps 1Pe 1Ps 1Pe
     1Ps 1Pe 1Ps 1Pe 1Po 5Lm 1Po aPd 2Po 4Pd 1Po 1Ps 1Po dSo 2Po 3Ps 1Pe 1Ps 1Pe 1Ps 1Pe 1Ps
     1Pe 1Pd 1Cn 22So 1aCn 1So 59Cn cSo d6Cn 1aSo cCn 4Zs 1Po 3So 1Lm 1Lo 1Nl 1Ps 1Pe 1Ps 1Pe
     1Ps 1Pe 1Ps 1Pe 1Ps 1Pe 1So 2Ps 1Pe 1Ps 1Pe 1Ps 1Pe 1Ps 1Pe 1Pd 1Ps 1Pe 2So 1Nl 9Mn 4Mc
     2Pd 1Lm 5So 2Nl 3Lm 1Lo 1Po 1So 2Cn 1Lo 56Cn 2Mn 2Sk 2Lm 2Lo 1Pd 1Lo 5aPo 1Lm 3Lo 1Cn
     5Lo 2bCn 1Lo 5eCn 1So 2No 4So aLo 20So 24Cn cLo 10So 1fCn 1No aSo 1eNo 8So 1No fSo 20No
     aSo 27No fSo 140Lo 19c0So 40Lo 5215Lm 1Lo 477Cn 3So 37Cn 9Lo 28Lm 6Po 2Lo 10cLm 1Po 3Lo
     10Nd aLo 2Cn 14Lu 1Ll 1Lu 1Ll 1Lu 1Ll 1Lu 1Ll 1Lu 1Ll 1Lu 1Ll 1Lu 1Ll 1Lu 1Ll 1Lu 1Ll
     1Lu 1Ll 1Lu 1Ll 1Lu 1Ll 1Lu 1Ll 1Lu 1Ll 1Lu 1Ll 1Lu 1Ll 1Lu 1Ll 1Lu 1Ll 1Lu 1Ll 1Lu 1Ll
     1Lu 1Ll 1Lu 1Ll 1Lu 1Ll 1Lo 1Mn 1Me 3Po 1Mn aPo 1Lm 1Lu 1Ll 1Lu 1Ll 1Lu 1Ll 1Lu 1Ll 1Lu
     1Ll 1Lu 1Ll 1Lu 1Ll 1Lu 1Ll 1Lu 1Ll 1Lu 1Ll 1Lu 1Ll 1Lu 1Ll 1Lu 1Ll 1Lu 1Ll 1Lm 2Mn 2Lo
     46Nl aMn 2Po 6Cn 8Sk 17Lm 9Sk 2Lu 1Ll 1Lu 1Ll 1Lu 1Ll 1Lu 1Ll 1Lu 1Ll 1Lu 1Ll 1Lu 1Ll
     3Lu 1Ll 1Lu 1Ll 1Lu 1Ll 1Lu 1Ll 1Lu 1Ll 1Lu 1Ll 1Lu 1Ll 1Lu 1Ll 1Lu 1Ll 1Lu 1Ll 1Lu 1Ll
     1Lu 1Ll 1Lu 1Ll 1Lu 1Ll 1Lu 1Ll 1Lu 1Ll 1Lu 1Ll 1Lu 1Ll 1Lu 1Ll 1Lu 1Ll 1Lu 1Ll 1Lu 1Ll
     1Lu 1Ll 1Lu 1Ll 1Lu 1Ll 1Lu 1Ll 1Lu 1Ll 1Lu 1Ll 1Lu 1Ll 1Lu 1Ll 1Lu 1Ll 1Lm 1Ll 8Lu 1Ll
     1Lu 1Ll 1Lu 2Ll 1Lu 1Ll 1Lu 1Ll 1Lu 1Ll 1Lu 1Ll 1Lm 1Sk 2Lu 1Ll 1Lu 1Ll 1Lo 1Lu 1Ll 1Lu
     1Ll 3Lu 1Ll 1Lu 1Ll 1Lu 1Ll 1Lu 1Ll 1Lu 1Ll 1Lu 1Ll 1Lu 1Ll 1Lu 1Ll 1Lu 1Ll 1Lu 1Ll 1Lu
     5Ll 1Lu 5Ll 1Lu 1Ll 1Lu 1Ll 1Lu 1Ll 1Lu 1Ll 1Lu 1Ll 1Lu 1Ll 1Lu 1Ll 1Lu 4Ll 1Lu 1Ll 1Cn
     5Lu 1Ll 1Cn 1Ll 1Cn 1Ll 1Lu 1Ll 1Lu 1Ll 1Cn 18Lm 3Lu 1Ll 1Lo 1Lm 2Ll 1Lo 7Mn 1Lo 3Mn 1Lo
     4Mn 1Lo 17Mc 2Mn 2Mc 1So 4Mn 1Cn 3No 6So 2Sc 1So 1Cn 6Lo 34Po 4Cn 8Mc 2Lo 32Mc 10Mn 2Cn
     8Po 2Nd aCn 6Mn 12Lo 6Po 3Lo 1Po 1Lo 2Mn 1Nd aLo 1cMn 8Po 2Lo 17Mn bMc 2Cn bPo 1Lo 1dCn
     3Mn 3Mc 1Lo 2fMn 1Mc 2Mn 4Mc 2Mn 2Mc 3Po dCn 1Lm 1Nd aCn 4Po 2Lo 5Mn 1Lm 1Lo 9Nd aLo 5Cn
     1Lo 29Mn 6Mc 2Mn 2Mc 2Mn 2Cn 9Lo 3Mn 1Lo 8Mn 1Mc 1Cn 2Nd aCn 2Po 4Lo 10Lm 1Lo 6So 3Lo
     1Mc 1Mn 1Mc 1Lo 32Mn 1Lo 1Mn 3Lo 2Mn 2Lo 5Mn 2Lo 1Mn 1Lo 1Cn 18Lo 2Lm 1Po 2Lo bMc 1Mn
     2Mc 2Po 2Lo 1Lm 2Mc 1Mn 1Cn aLo 6Cn 2Lo 6Cn 2Lo 6Cn 9Lo 7Cn 1Lo 7Cn 1Ll 2bSk 1Lm 4Ll 9Lm
     1Sk 2Cn 4Ll 50Lo 23Mc 2Mn 1Mc 2Mn 1Mc 2Po 1Mc 1Mn 1Cn 2Nd aCn 6Lo 2ba4Cn cLo 17Cn 4Lo
     31Cn 4Cs 800Co 1900Lo 16eCn 2Lo 6aCn 26Ll 7Cn cLl 5Cn 5Lo 1Mn 1Lo aSm 1Lo dCn 1Lo 5Cn
     1Lo 1Cn 1Lo 2Cn 1Lo 2Cn 1Lo 6cSk 11Cn 10Lo 16bPe 1Ps 1So 10Lo 40Cn 2Lo 36Cn 7So 1Cn 20Lo
     cSc 1So 3Mn 10Po 7Ps 1Pe 1Po 1Cn 6Mn 10Po 1Pd 2Pc 2Ps 1Pe 1Ps 1Pe 1Ps 1Pe 1Ps 1Pe 1Ps
     1Pe 1Ps 1Pe 1Ps 1Pe 1Ps 1Pe 1Po 2Ps 1Pe 1Po 4Pc 3Po 3Cn 1Po 4Pd 1Ps 1Pe 1Ps 1Pe 1Ps 1Pe
     1Po 3Sm 1Pd 1Sm 3Cn 1Po 1Sc 1Po 2Cn 4Lo 5Cn 1Lo 87Cn 2Cf 1Cn 1Po 3Sc 1Po 3Ps 1Pe 1Po 1Sm
     1Po 1Pd 1Po 2Nd aPo 2Sm 3Po 2Lu 1aPs 1Po 1Pe 1Sk 1Pc 1Sk 1Ll 1aPs 1Sm 1Pe 1Sm 1Ps 1Pe
     1Po 1Ps 1Pe 1Po 2Lo aLm 1Lo 2dLm 2Lo 1fCn 3Lo 6Cn 2Lo 6Cn 2Lo 6Cn 2Lo 3Cn 3Sc 2Sm 1Sk
     1So 1Sc 2Cn 1So 1Sm 4So 2Cn aCf 3So 2Cn 2Lo cCn 1Lo 1aCn 1Lo 13Cn 1Lo 2Cn 1Lo fCn 2Lo
     eCn 22Lo 7bCn 5Po 3Cn 4No 2dCn 3So 9Nl 35No 4So 11No 2So 3Cn 1So dCn 3So 1Cn 2fSo 2dMn
     1Cn 82Lo 1dCn 3Lo 31Cn fMn 1No 1bCn 4Lo 20No 4Cn 9Lo 14Nl 1Lo 8Nl 1Cn 5Lo 26Mn 5Cn 5Lo
     1eCn 1Po 1Lo 24Cn 4Lo 8Po 1Nl 5Cn 2aLu 28Ll 28Lo 4eCn 2Nd aCn 6Lu 24Cn 4Ll 24Cn 4Lo 28Cn
     8Lo 34Cn bPo 1Lu bCn 1Lu fCn 1Lu 7Cn 1Lu 2Cn 1Ll bCn 1Ll fCn 1Ll 7Cn 1Ll 2Cn 43Lo 137Cn
     9Lo 16Cn aLo 8Cn 18Lm 6Cn 1Lm 2aCn 1Lm 9Cn 45Lo 6Cn 2Lo 1Cn 1Lo 2cCn 1Lo 2Cn 3Lo 1Cn 2Lo
     17Cn 1Po 1No 8Lo 17So 2No 7Lo 1fCn 8No 9Cn 30Lo 13Cn 1Lo 2Cn 5No 5Lo 16No 6Cn 3Po 1Lo
     1aCn 5Po 1Cn 40Lo 38Cn 4No 2Lo 2No 10Cn 2No 2eLo 1Mn 3Cn 1Mn 2Cn 5Mn 4Lo 4Cn 1Lo 3Cn 1Lo
     1dCn 2Mn 3Cn 4Mn 1No 9Cn 7Po 9Cn 7Lo 1dNo 2Po 1Lo 1dNo 3Cn 20Lo 8So 1Lo 1cMn 2Cn 4No 5Po
     7Cn 9Lo 36Cn 3Po 7Lo 16Cn 2No 8Lo 13Cn 5No 8Lo 12Cn 7Po 4Cn cNo 7Cn 50Lo 49Cn 37Lu 33Cn
     dLl 33Cn 7No 6Lo 24Mn 4Cn 8Nd aCn 126No 1fCn 1Lo 2aCn 1Mn 2Pd 1Cn 2Lo 2Cn 4bMn 3Lo 1dNo
     aLo 1Cn 8Lo 16Mn bNo 4Po 5Cn 16Lo 12Mn 4Po 4Cn 26Lo 15No 7Cn 14Lo 17Cn 9Mc 1Mn 1Mc 1Lo
     35Mn fPo 7Cn 4No 14Nd aMn 1Lo 2Mn 2Lo 1Cn 9Mn 3Mc 1Lo 2dMc 3Mn 4Mc 2Mn 2Po 2Cf 1Po 4Mn
     1Cn aCf 1Cn 2Lo 19Cn 7Nd aCn 6Mn 3Lo 24Mn 5Mc 1Mn 8Cn 1Nd aPo 4Lo 1Mc 2Lo 1Cn 8Lo 23Mn
     1Po 2Lo 1Cn 9Mn 2Mc 1Lo 30Mc 3Mn 9Mc 2Lo 4Po 4Mn 4Po 1Mc 1Mn 1Nd aLo 1Po 1Lo 1Po 3Cn 1No
     14Cn bLo 12Cn 1Lo 19Mc 3Mn 3Mc 2Mn 1Mc 1Mn 2Po 6Mn 1Lo 2Mn 1Cn 3eLo 7Cn 1Lo 1Cn 1Lo 4Cn
     1Lo fCn 1Lo aPo 1Cn 6Lo 2fMn 1Mc 3Mn 8Cn 5Nd aCn 6Mn 2Mc 2Cn 1Lo 8Cn 2Lo 2Cn 2Lo 16Cn
     1Lo 7Cn 1Lo 2Cn 1Lo 5Cn 1Mn 2Lo 1Mc 2Mn 1Mc 4Cn 2Mc 2Cn 2Mc 3Cn 2Lo 1Cn 6Mc 1Cn 5Lo 5Mc
     2Cn 2Mn 7Cn 3Mn 5Cn 8bLo 35Mc 3Mn 8Mc 2Mn 3Mc 1Mn 1Lo 4Po 5Nd aPo 2Cn 1Po 1Mn 1Lo 3Cn
     1eLo 30Mc 3Mn 6Mc 1Mn 1Mc 4Mn 2Mc 1Mn 2Lo 2Po 1Lo 1Cn 8Nd aCn a6Lo 2fMc 3Mn 4Cn 2Mc 4Mn
     2Mc 1Mn 2Po 17Lo 4Mn 2Cn 22Lo 30Mc 3Mn 8Mc 2Mn 1Mc 1Mn 2Po 3Lo 1Cn bNd aCn 6Po dCn 13Lo
     2bMn 1Mc 1Mn 1Mc 2Mn 6Mc 1Mn 1Lo 1Po 1Cn 6Nd aCn 36Lo 1bCn 2Mn 3Mc 2Mn 4Mc 1Mn 5Cn 4Nd
     aNo 2Po 3So 1Lo 7Cn b9Lo 2cMc 3Mn 9Mc 1Mn 2Po 1Cn 64Lu 20Ll 20Nd aNo 9Cn cLo 8Cn 2Lo 1Cn
     2Lo 8Cn 1Lo 2Cn 1Lo 18Mc 6Cn 1Mc 2Cn 2Mn 2Mc 1Mn 1Lo 1Mc 1Lo 1Mc 1Mn 1Po 3Cn 9Nd aCn
     46Lo 8Cn 2Lo 27Mc 3Mn 4Cn 2Mn 2Mc 4Mn 1Lo 1Po 1Lo 1Mc 1Cn 1bLo 1Mn aLo 28Mn 6Mc 1Lo 1Mn
     4Po 8Mn 1Cn 8Lo 1Mn 6Mc 2Mn 3Lo 2eMn dMc 1Mn 2Po 3Lo 1Po 5Cn dLo 49Cn 7Po aCn f6Lo 9Cn
     1Lo 25Mc 1Mn 7Cn 1Mn 6Mc 1Mn 1Lo 1Po 5Cn aNd aNo 13Cn 3Po 2Lo 1eCn 2Mn 16Cn 1Mc 1Mn 7Mc
     1Mn 2Mc 1Mn 2Cn 49Lo 7Cn 1Lo 2Cn 1Lo 26Mn 6Cn 3Mn 1Cn 1Mn 2Cn 1Mn 7Lo 1Mn 1Cn 8Nd aCn
     6Lo 6Cn 1Lo 2Cn 1Lo 20Mc 5Cn 1Mn 2Cn 1Mc 2Mn 1Mc 1Mn 1Lo 1Cn 7Nd aCn 136Lo 13Mn 2Mc 2Po
     2Cn 7Mn 2Lo 1Mc 1Lo dCn 1Lo 22Mc 2Mn 5Cn 3Mc 2Mn 1Mc 1Mn 1Po dNd aCn 56Lo 1Cn fNo 15So
     8Sc 4So 11Cn dPo 1Lo 39aCn 66Nl 6fCn 1Po 5Cn bLo c4Cn a4cLo 61Po 2Cn dLo 430Cf 10Mn 1Lo
     6Mn fCn faaLo 247Cn 21b9Lo 239Cn 7Lo 1fCn 1Nd aCn 4Po 2Lo 4fCn 1Nd aCn 6Lo 1eCn 2Mn 5Po
     1Cn aLo 30Mn 7Po 5So 4Lm 4Po 1So 1Cn aNd aCn 1No 7Cn 1Lo 15Cn 5Lo 13Cn 2b0Lu 20Ll 20No
     17Po 4Cn 65Lo 4bCn 4Mn 1Lo 1Mc 37Cn 7Mn 4Lm dCn 40Lm 2Po 1Lm 1Mn 1Cn bMc 2Cn eLo 17f8Cn
     8Lo 4d6Cn 2aLo 9Cn 22e7Lm 4Cn 1Lm 7Cn 1Lm 2Cn 1Lo 123Cn fLo 1Cn 1dLo 3Cn 2Lo 1Cn eLo 4Cn
     8Lo 18cCn 904Lo 6bCn 5Lo dCn 3Lo 9Cn 7Lo aCn 2So 1Mn 2Po 1Cf 4Cn 125cMn 2eCn 2Mn 17Cn
     9So 74Cn 3cSo f6Cn aSo 27Cn 2So 3cMc 2Mn 3So 3Mc 6Cf 8Mn 8So 2Mn 7So 1eMn 4So 3dCn 15So
     42Mn 3So 1Cn 7aNo 14Cn cNo 14Cn cSo 57Cn 9No 19Cn 87Lu 1aLl 1aLu 1aLl 7Cn 1Ll 12Lu 1aLl
     1aLu 1Cn 1Lu 2Cn 2Lu 1Cn 2Lu 2Cn 2Lu 4Cn 1Lu 8Ll 4Cn 1Ll 1Cn 1Ll 7Cn 1Ll bLu 1aLl 1aLu
     2Cn 1Lu 4Cn 2Lu 8Cn 1Lu 7Cn 1Ll 1aLu 2Cn 1Lu 4Cn 1Lu 5Cn 1Lu 1Cn 3Lu 7Cn 1Ll 1aLu 1aLl
     1aLu 1aLl 1aLu 1aLl 1aLu 1aLl 1aLu 1aLl 1aLu 1aLl 1cCn 2Lu 19Sm 1Ll 19Sm 1Ll 6Lu 19Sm
     1Ll 19Sm 1Ll 6Lu 19Sm 1Ll 19Sm 1Ll 6Lu 19Sm 1Ll 19Sm 1Ll 6Lu 19Sm 1Ll 19Sm 1Ll 6Lu 1Ll
     1Cn 2Nd 32So 200Mn 37So 4Mn 32So 8Mn 1So eMn 1So 2Po 5Cn fMn 5Cn 1Mn fCn 450Ll aLo 1Ll
     14Cn 6Ll 6Cn d5Mn 7Cn 1Mn 11Cn 2Mn 7Cn 1Mn 2Cn 1Mn 5Cn 5Lm 3eCn 21Mn 1Cn 70Lo 2dCn 3Mn
     7Lm 7Cn 2Nd aCn 4Lo 1So 1Cn 140Lo 1eMn 1Cn 11Lo 2cMn 4Nd aCn 5Sc 1Cn 1d0Lo 1bLm 1Mn 4Nd
     aCn 2e6Lo 7Cn 1Lo 4Cn 1Lo 2Cn 1Lo fCn 1Lo c5Cn 2No 9Mn 7Cn 29Lu 22Ll 22Mn 7Lm 1Cn 4Nd
     aCn 4Po 2Cn 311No 3bSo 1No 3Sc 1No 4Cn 4cNo 2dSo 1No fCn c2Lo 4Cn 1Lo 1bCn 1Lo 2Cn 1Lo
     1Cn 2Lo 1Cn 1Lo aCn 1Lo 4Cn 1Lo 1Cn 1Lo 1Cn 6Lo 1Cn 4Lo 1Cn 1Lo 1Cn 1Lo 1Cn 1Lo 3Cn 1Lo
     2Cn 1Lo 1Cn 2Lo 1Cn 1Lo 1Cn 1Lo 1Cn 1Lo 1Cn 1Lo 1Cn 1Lo 2Cn 1Lo 1Cn 2Lo 4Cn 1Lo 7Cn 1Lo
     4Cn 1Lo 4Cn 1Lo 1Cn 1Lo aCn 1Lo 11Cn 5Lo 3Cn 1Lo 5Cn 1Lo 11Cn 34Sm 2Cn 10eSo 2cCn 4So
     64Cn cSo fCn 2So fCn 1So fCn 1So 25Cn aNo dSo a1Cn 38So 1dCn dSo 2cCn 4So 9Cn 7So 2Cn
     eSo 6Cn 9aSo fbSk 5So 2d8Cn 4So 11Cn 3So dCn 3So 77Cn 4So 5fCn 6So cCn 4So 1Cn fSo cCn
     4So 38Cn 8So aCn 6So 28Cn 8So 1eCn 2So 2Cn 4eSo 154Cn cSo eCn 2So dCn 3So 9Cn 7So 2eCn
     1So 7Cn 8So eCn 4So 9Cn 7So 9Cn 7So 93Cn 1So 37Cn 25Nd aCn 406Lo a6e0Cn 20Lo 103aCn 6Lo
     deCn 2Lo 1682Cn eLo 1d31Cn c1fLo 21eCn 5e2Lo 134bCn 5Lo 1060Cn adc51Cf 1Cn 1eCf 60Cn
     80Mn f0Cn fe10Co fffeCn 2Co fffeCn"

/-- The two letters of the general category of a character. -/
def category (c : Char) : String :=
  Runs.labelAt c "Cn" categoryRuns

/-- The names of categories, and the categories that each name stands for. -/
def categoryNames : List (List String × List String) :=
  [ (["c", "other"], ["Cc", "Cf", "Cn", "Co", "Cs"]),
    (["cc", "cntrl", "control"], ["Cc"]),
    (["cf", "format"], ["Cf"]),
    (["cn", "unassigned"], ["Cn"]),
    (["co", "privateuse"], ["Co"]),
    (["cs", "surrogate"], ["Cs"]),
    (["l", "letter"], ["Ll", "Lm", "Lo", "Lt", "Lu"]),
    (["casedletter", "lc"], ["Lu", "Ll", "Lt"]),
    (["ll", "lowercaseletter"], ["Ll"]),
    (["lm", "modifierletter"], ["Lm"]),
    (["lo", "otherletter"], ["Lo"]),
    (["lt", "titlecaseletter"], ["Lt"]),
    (["lu", "uppercaseletter"], ["Lu"]),
    (["combiningmark", "m", "mark"], ["Mc", "Me", "Mn"]),
    (["mc", "spacingmark"], ["Mc"]),
    (["enclosingmark", "me"], ["Me"]),
    (["mn", "nonspacingmark"], ["Mn"]),
    (["n", "number"], ["Nd", "Nl", "No"]),
    (["decimalnumber", "digit", "nd"], ["Nd"]),
    (["letternumber", "nl"], ["Nl"]),
    (["no", "othernumber"], ["No"]),
    (["p", "punct", "punctuation"], ["Pc", "Pd", "Pe", "Pf", "Pi", "Po", "Ps"]),
    (["connectorpunctuation", "pc"], ["Pc"]),
    (["dashpunctuation", "pd"], ["Pd"]),
    (["closepunctuation", "pe"], ["Pe"]),
    (["finalpunctuation", "pf"], ["Pf"]),
    (["initialpunctuation", "pi"], ["Pi"]),
    (["otherpunctuation", "po"], ["Po"]),
    (["openpunctuation", "ps"], ["Ps"]),
    (["s", "symbol"], ["Sc", "Sk", "Sm", "So"]),
    (["currencysymbol", "sc"], ["Sc"]),
    (["modifiersymbol", "sk"], ["Sk"]),
    (["mathsymbol", "sm"], ["Sm"]),
    (["othersymbol", "so"], ["So"]),
    (["separator", "z"], ["Zl", "Zp", "Zs"]),
    (["lineseparator", "zl"], ["Zl"]),
    (["paragraphseparator", "zp"], ["Zp"]),
    (["spaceseparator", "zs"], ["Zs"]) ]

/-- The categories with a loose name. -/
def categoriesNamed? (name : String) : Option (List String) :=
  (categoryNames.find? fun row => row.1.contains name).map Prod.snd

end TokenInventory.Unicode
