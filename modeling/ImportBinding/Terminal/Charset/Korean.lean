/-
This file holds the Korean character sets.
-/

import ImportBinding.Terminal.Charset.Basic

namespace ImportBinding.Charset

/-- The common syllables, with ideographs, letters and signs. -/
def korean : Charset where
  ranges :=
    [(0xAD, 0xAD), (0x391, 0x3A1), (0x3B1, 0x3C1), (0x410, 0x44F), (0x2160, 0x2169),
     (0x2170, 0x2179), (0x2190, 0x2199), (0x2460, 0x246E), (0x2474, 0x2482), (0x249C, 0x24B5),
     (0x24D0, 0x24E9), (0x250C, 0x254B), (0x3000, 0x3000), (0x3008, 0x3011), (0x3041, 0x3093),
     (0x30A1, 0x30F6), (0x3131, 0x318E), (0x3200, 0x321C), (0x3260, 0x327B), (0x3388, 0x33CA),
     (0xF900, 0xFA0B), (0xFF01, 0xFF5E)]
  members :=
    ["¡¤§¨ª®°±²³´¶·¸¹º¼½¾¿ÆÐ×ØÞßæð÷øþđĦħıĲĳĸĿŀŁłŉŊŋŒœŦŧˇː˘˙˚˛˝ΣΤΥΦΧΨΩστυφχψωЁё―‘’“”†‡‥…‰′″※⁴ⁿ₁₂₃₄€",
     "℃℉ℓ№℡™ΩÅ⅓⅔⅛⅜⅝⅞⇒⇔∀∂∃∇∈∋∏∑√∝∞∠∥∧∨∩∪∫∬∮∴∵∼∽≒≠≡≤≥≪≫⊂⊃⊆⊇⊙⊥⌒─━│┃▒■□▣▤▥▦▧▨▩▲△▶▷▼▽◀◁◆◇◈○◎●◐◑★☆☎☏☜☞♀♂",
     "♠♡♣♤♥♧♨♩♪♬♭、。〃〓〔〕㉿㎀㎁㎂㎃㎄㏏㏐㏓㏖㏘㏛㏜㏝￠￡￢￣￥￦"]
  bitmaps :=
    [⟨0x4E00,
      ["B+YS31084i0Be3qu0W2o0HKMtaaTv141Jo2yZY305ZW0kF00008KrWSuZu102c4nQrgGf00mW1876f9f30iA5GaA6P",
       "jsz0028E88K020m5G8W8m0003h01YXYH4eW0WYJ9010A014In+xH04a+duH449a2G8K0C8Gf30m9003TIo5988mOKm",
       "FW8FGXY06I2e8EY18cX300agYGswS00AD3IeXBm242WWRUYdK5KWp2A40WGXX1208WmBGZWF++G0OS-0e6a28i5158",
       "000KWAu44K1004PWG8JC0008IO4G0q050400e8015W81420004HR00t0eN000e001bO000W1a0G2000I50000200G2",
       "G00G0000W054G0092mK004W1Oa2J12G81WGXaD00IHK8GGG280G300008c400600HQHP700GIIuC400ZIMa500YKe8",
       "02G3mG8mae0fomGW90k00WmP1Xk98GGEyi4K8VO4274Wi0W410AXa2RO3GL1GYA0W0P6Y001XG2001410000004m04",
       "0000M81008a00008Q0400G000a00pMB6ACI5Wk9wVm7KvDO-Gq9mslDO58vx290418mtXbc88K3a28000C002eXg55",
       "0008G0165A02cq20e00000O4000890008200I140GD002HWPUIU26JG8aAWW2IX6B4W0e30mvUGI8eK4CAW7417a4Z",
       "D01oC81Xwc8m28250K5mAGiF3AveSSuG3S4eYW2C0FG0802e008HmCQX00W3WKY8ySR000YCGnOc0qLCW2W0KE00Bv",
       "WGZ32Z02GaGJP7eCAd95CO6Gq470fM4H4YF000010nL6OT7He04D5m3k22100G29P46OQ20WW8oGuiTl10mh8m2AW0",
       "000Y0m60I620064XCYm44bmf7000H1OGC80OG300W2D44030410004G022m104W3413Q5WWiaHH1c31545100422S2",
       "yoW4km0n4Cq64hGCecoYPWo82c42GQp81l0RzE07QeJnW7A2WwmlCs50vG37I18nXIGB0Go440TUT2h0Bw0tdKa0am",
       "B1D0WkAo0gOgq00W97440+1908vU8100C3W142mCF4q6000801e80Y9e66wQ00ZAaMOW1HW1X061008010A04WhHFa",
       "Ee3000WW1e0112AWJ000G10WA14eemA008d0H2CCe08000H86WGm008W030W03000G801541m20G0P03L00w714c8M",
       "60KG00CfKA6gSd00O00004e20W00G6q105Av1KIHavU4zv008Xm+MO1g8uIo9000O8eIWQ0Ph9000O1IM1vWWEdA00",
       "0Wa0G+8AmH2qagF0000wuUuILTOG2GP38oCG00044iameG4GZMQ00002Hm61eC0q0664e008PpK0M0q9HOH20c0hWG",
       "FG084EXc20aOAAI-868W0104342284GCWG41781k8E0092me00W0Y0X40OaG04400QLGI1lK00246IXW40X06fmGr0",
       "8uW10s11G0800DbnMmHGmg6A01YC00000XG200L0KW28W00C30404EWu0m033052005KI3Gh4q12e8C8G1s2aOvP2W",
       "Yfk08WmPTdNXRW0eUNpX004ZA0GqgMG9Y24XGKHJ0180I0W8DYM6FM0WGgXEaHOO52Cp20288uoSa22DBG00LGH0W0",
       "WWN1008G0K41W4IKGUG3K2000G0G8J5G4sQ245H9n200K020O510208e4208C0880GW0J2O2000Y1BYZ00400100E4",
       "K00802080W90G88S220Y2007YmK000GaWWW001400m104Du01pN8X00X20k000CHA8+0EOIWGB0084IAGQP009Ck19",
       "6W0OW2HPg41mIW0OC040B30AQAa2aX00e0A54C080GwU501058W08YmIY0W8H0JB0104X0000W0G0G2o00WZ0C00G4",
       "GW00880f12AGE840404m12008LVBH+m1OdY1y1G00PKHE9800Z0450ZDj3830Ls2J2120O08eh0o22co0G3G2uI0IG",
       "0a8b1000000000000000000000000G5004n000CLg0WK5441n04CY8KH3W3eG0Iic4X600WW4e8H0G510WD2EyQ04A",
       "cOe54W1K0maC08H8aN00DWWY08408D30WXm076GX0GJ21W2v51201YQ9Om5erG0s2m1u24A0080K0RKG0W61c2cyAk",
       "B00OBoY3W0WvZ002009At01Qe100008Y0061KG4u00W8Y58110AUX8OG7000W424202082AX984000H8X00GGcLfY0",
       "400KG0100ePHg0B0WgWG8802d000G2e480qX1GW0Y32CmO0WCIC10J00W00W00KCO3800800KW00O8000082Ge84W0",
       "0GD400L000000001AW050K1G0800810W01G000040a4e48000WC0WG844CCgY39K8m6a2n0102G0W102Zi240EX080",
       "DC0840K2I000021140eo8Y402O01a400400200H0DK5ofY29In00043ID9sB20ACe4qU5KWqKYAHO8CR2Nq505jB1a",
       "1228Wm0K1GG6981GGJ400000000000000000000000008W2L1848030O01K00O7+Psv+P1AGLNa01EmM2I00000000",
       "0000GXGc002108021W0H0X90eeGW8000460G0GG80Gv108O000502I20000700G0yG0W0W009XY0yWFm6Ymom860WI",
       "000000000685w10G2GI00GiKe8lbwic-0Gc4bXijZSB8Efr+PXY80J5EI02G0009G8W0210GY0022100WV4001M0Q0",
       "0g21G00so0GWwFOC8I0800087240001XX80W8H7000GA0eK4000o200a400440G4G0G05VLo0000j0120048G104GH",
       "0Ym40080W00910010400G0WW0810106W00000e000000000000000000000000000000000000000002G2AwH0u4Y0",
       "O081m1X100000000G80H4WO5u40+SGGwX06Rmi1Y5882ph7OQmmX5hGm0eaK02G1YGH021b1Y0910WA004GA000G8W",
       "04000I8+M5F600W4m2017451AY0000000004e000900Wf1W31S8OH215G00008wO90000000000928nfX020m9Y208",
       "20e013W00WGm0a28Wo896000000000G004000WH0W04000000G0W4804+084400W0000090W0W4000W00104100000",
       "I900204W0W20800000000000000000000000g0O10020020500800020o0GG00000000WWG0040080000170000G40",
       "000000000000W8A00m8eW00C8X0OIa501010064204000W00CH0W2I1W0008X01"]⟩,
     ⟨0xAC00,
      ["JUm-+41i3CH0e0H400ma5id7H0x0N6mEI41e0CPbh1JKmAG4183CH0h0H4W2ma7k6CH0m01002m41i04H000JEmAG0",
       "000CP1hHNKmEo41i3CG0000000m51i3C10f0H406I0000CL0h3340Cm00024H0Z01000m41k64G0m0J4m4G41C0400",
       "00JLuA20000CH0h0NUm+w41i3CH0X00000m6Di3EH0x0J4mCH4000CH1hmH404000004H0B0J4WAma1i2400G01000",
       "G41C0CG0Z0JSmQK4100CH1hGN+u+u41i3400000000mbDiADH0x0H40CG4000CP5hAH400G00014H0B01000m41i24",
       "00G01008G41e24H0X0JMmAG0000CP0x1J4mEu41i3000000000m4Di3EH0x0100400000CH0W01400G00004100000",
       "00m4162000001000G41C200000J6m2G41C04H0h0J4mUy41i3C10e00000m41i3EH0h0J4mEG40e0CH0h0H0080000",
       "14H0h0H4WAm41i2400G01000m41a2CH0h0J4mQ60000CH0h0JVmQw41i7CG0W00000m45i6EH0x0J40kG0000iH1h0",
       "H00C000004H0g0H4W2mb7iY6H0A01000G41004H090H4G200000CP1xAV+mAo41iZC10200000ma5i6CP0x0J4WEI4",
       "000SH0h0H004G0001CH030H000ma7iY5G0G01000m41024H0f0J4m200000CH1h3JKmEu41i3C00100000ma1a3400",
       "W030mE00000CH0Z0000000000400001008m41a200000000000000400W0H4m000000CH0h0RUmEo41i3CH0h0H4G8",
       "mdDi3DH0x0J4mEG4102SH1h8J408G41a14H0B0J4mAma1ig500G0J4G8m41i2CG0f0JCmA00000CPWhGR4mCu41C30",
       "00W00000m45C34H000000004000CP1Z0J004G00014H0301000m41C2400G01000G4000000W0JKu0G4140CH0h0pT",
       "uEs41i3CH2heH4W0mi7yNDH0h0NqmFU41i1Cnbh2J4mEm40a2CH0h0J4mAm47i2CH0p0J4m8m41i2CH0h2J4qwV41a",
       "0CnXxHJNmUm41i3CL0X0H400m45i6CH0h0H4mCG0000CH1hZ34WAG00034H0h0J008m47i2400G01000m41i04H010",
       "J4mA00000CP1hPJbmEm41i3410W00000m41i3400W0100400000CH0h23404G00014H0300008m41C2400m00000G0",
       "0004000010GA00000CH0ZXJ5mUm41i34L0X00000m41i3CH0h0H004G4002CH0h0H408000004H0h010G0m41i2400",
       "G0H000G41i24H0X0J4mA00000Cv0h0J4mAm41i3C00W00000ma1i3CH0h0H4mEG0000CH0h0J4G8G00024G0001000",
       "m41i24H0W01008m41i24H010J4m800000CH0h0JCmEm41i3400W00000m45i3CH0h0H004G4000CH0hGH000G00004",
       "10e01000m41i2400G01000m41C24H0X0JMm2G41C0CH0h0NKmEo41i3C00000000m41i3CH0h0H4mCG01e0CH0h010",
       "080000041000H4W2ma5i2400W00000G41a04H0f0H4m200000CH0h0J4oAm41i3400W00000m45i2CH0h0J4mEG418",
       "0CH8h8J40Am40W2CH0g0H4W2m4Xa24H0X0J408m41i2CH0f0JFmAI41C2CH0h"]⟩]

/-- All syllables. -/
def hangul : Charset := ofRanges [(0xAC00, 0xD7A3)]

end ImportBinding.Charset
