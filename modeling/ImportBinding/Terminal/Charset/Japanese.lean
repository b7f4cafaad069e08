/-
This file holds the Japanese character sets.
-/

import ImportBinding.Terminal.Charset.Basic

namespace ImportBinding.Charset

/-- The katakana that are half as wide as others, and the signs that go with them. -/
def narrowKana : Charset := ofRanges [(0xFF61, 0xFF9F)]

/-- The two signs in which the Japanese set of basic letters differs from ASCII. -/
def romanSigns : Charset := ofString "¥‾"

/-- The kana, kanji and signs of the basic set. -/
def jisBasic : Charset where
  ranges :=
    [(0x391, 0x3A1), (0x3B1, 0x3C1), (0x410, 0x44F), (0x3000, 0x3000), (0x3005, 0x3015),
     (0x3041, 0x3093), (0x30A1, 0x30F6), (0xFF0E, 0xFF5D)]
  members :=
    ["¢£§¨¬°±´¶×÷ΣΤΥΦΧΨΩστυφχψωЁё‐―‖‘’“”†‡‥…‰′″※℃Å←↑→↓⇒⇔∀∂∃∇∈∋−√∝∞∠∧∨∩∪∫∬∴∵∽≒≠≡≦≧≪≫⊂⊃⊆⊇⊥⌒─━│┃┌┏┐┓└",
     "┗┘┛├┝┠┣┤┥┨┫┬┯┰┳┴┷┸┻┼┿╂╋■□▲△▼▽◆◇○◎●◯★☆♀♂♪♭♯、。〃〜゛゜ゝゞ・ーヽヾ！＃＄％＆（）＊＋，￣￥"]
  bitmaps :=
    [⟨0x4E00,
      ["B+sy39496j9Be3+u40W20LsNsizTvb41NpEyZZ3O5ZW0cF0D00OKrWCuhw702c6c8bgGfC0wW1874DPhw0CQ51cgMP",
       "eU-0a08EOOK024q5I8W8m1003l0HYfYH4gW1Y2N80T5A014ov+xL15ayduHKcjlBGTVyF8mf3GuCi9ZTMsD998mQKo",
       "FW9lGX4E6+3e8EY58cWFo8bgYGwuT30B7RMeXRo24gmZhVYdL5amxc8500KXXDMI8mmVGheF--S1Qy-0e6aU0jNH79",
       "0W0Kmwu45s500DPoGSNE001OsO4G2q065000i2357a8332000MPw00t3uN110i001bO00WY1a0Gd002QL040L080H7",
       "GKGm4210b04KGyGGAsK20rWfPiAJH2S81cGX4F00IP000Im280G74a009X4NGc00GQHPC0Y8IGuCaC03MU41AKYGe0",
       "0YG2GI8yaeKewqmWzX+GWXXz1f+POGGEyi5KwLO4Y7aWaAe411A1a2RO1OD04YA8W0L6YWW1nG20014H1002004m00",
       "000S6eHm0ea00m00Q0404GHH0b20psBUAiI1fkBe-o7GvD8-Iq1wslKQ5R-xAHG5X8m-Zr+A0D3q2900GC102iXoP1",
       "A008m0d64B0YayFIW00000OL04089I0G961021G18D083JefUI+Y6JO8aBWWQoXaBKm2e70mt-QI8uK4CAW7W37c4h",
       "FCnsThXlxd8uYAQK2KbooOaFBAvlTyuG3S66oW2C0FJ48CIg00SPwC+Z2GWJiKYXzyRe0eXEKpOo6mNCW3W2LkO0Rx",
       "mIZ32Z2614mJPVeSAh9lFG4IqK60fM4H4o-400810rr7mTNnkG4tHY3k6A9bGG29T76uVM0WX8wG+jVkp0mhEm6EX0",
       "22OY0GE0o6A40k4nCamq4buhVG3IP9OHCeWGGH0GWYC4053K4H0G040W22K1840B41ZQ5eXfWGH1F3fLa5200436S2",
       "-oW4guZn44r60ZJDecoYRWoe7c4gmvp803CJD6G6Qem1f7AI0uKFSK4evG272H81nKIA0Gs4a0zEV2h2Fw0tdqbAam",
       "B9zFa+AqWgHeqSaWOFWK4lHPKAjE8p1083a1EGnCF5s6oY80G3iAWY9g57wQM0bBqMuY0JW1paF1UuM1H9A04WZT7m",
       "EkpP0HoWHW0P1oAoN2Z1OA4eA9SmfoEu4Od0P20CeH0GGWH0MWGq0L8aW30e0p0K00C03141wY0GuP8AL6AwbXOiOM",
       "k0MGGmelS66QSa80OY0004ec8W10G6q105Av5KG3avGCDvW18fm-oO1gguIXB000OGeoWu0Rf9300O1MM1v0W45AQ0",
       "0Wa4HuOOoGIrbgE0w3euwUw3GH8G6G928o41S1G6KiaG8naGZ6w060GIPm69eE0q0664i800HcG1U4LS5G22W64eW0",
       "F10C9E1sAHa0AAIx03H10104240286GC0O41200y8S0092We00W0Y0W0GOXG0044085O2GlK002452ZW04X02XmGr2",
       "Oum1Yc01I080GDbnVmPGmg6A05YT8041GXGIa0S1KXASWC0E3040CkWuCq033m02025KI3Gg0G00W0CWG1b10GXGc0",
       "1Xc000090m7X2008UdXX9142800G42G0W00XG0Hp2TS0u0dALZM6Fs1K+AXFrxIs1IipIG2A8uoSiI2DBnW0TGj0g0",
       "0WN2G48GS445XXNKKVPdKI600GHU8JbGCswI4599v60WSS20O51200CeM208C0890GX0JIw2880o1hYZ04401D04E0",
       "KG8800080W95G8CSgI0Y622LYnm440OaG0YW0PW00n10KDu0fJU9X08XpGE0W0CH9O+0AOIWQBH084GQGUP00P8+D9",
       "UW0uW2HPg61mUW0OSG4YRhiOxRa6qXKre0B5M4e90OxU58W2rC40CgqUh0a8H0Jh90W4d883GWWu9WAo0WXd0iH5OC",
       "GW2GEeIf9QRQE8M94HKq528LDL7Bn+n1OtYXyXTG8vKGk9202YWdCW-Dj38ZcKt4JI12ou018x4IcwcIi0dP0RI0wo",
       "mqTX1000000000000000000000000G502Sp4OWFLw0iN54aXnm4DYOKG303fG2Qi76bEX01W4g0H0H5RGWTBEyQWKB",
       "cOh54W5K0vcC0AHCaV00CWWWA84G8j3WWXq47sGXeGJ63aIv5DY27cQ9OmbftLSs0u5w34800SALDRSG0W21Y26kAi",
       "280ufsgZW6EmdG07129Qt0XOO11000eY1e6X4n5qW8W82L85P0AU9AOY720KW5Y43G2182Efle6G12H8f0WGmcIvoG",
       "600KG0PG0eRX2138WimJWM02d08GHMmaQ0rt0OW0Y62CmO0WEHC38J01W60W00MCK3822e00SW20OuOG00jQGeC4o3",
       "mIDTY1L0Y0GY80QXgW9L4K1I0800818Y0BHZG1040W4h48WB60E2WGAK5CCgc39KAu6a2n2H1Ip2eF02pi2407pH95",
       "D068C0K2Q03G075fK2ioDYS12R93a6004G3o00H0DKLofY29QnXG1S3IDft3GGhCgKqUnKWaKYBHSTDQAMqbG5jB3b",
       "1229Wq0r9GOU989GLJ600000000000000000000000008X2LL84O070S19s1HO7+Vtv+PPAmLNa00FmsQM00000000",
       "0000GZoc082108021W0H4W9GigGZe090760u0GGC0Gv5X8O60G54ooY6280d304OzG0YCW00vXY5yeBG6Ymoq97WGw",
       "100000000s86+XSI3GIG0Pk6v9hX++c-8GcDbfk-tKhCEvr+fX200I5AI02G408OH8W2210GW000I100WVK50BMmQ0",
       "4gIXGG1ZmKmmxFKkA30OG20Oo040I09WmiGWCH5020KA0eM7002W200W4004cmG501O07qKsam04e0561058G104GJ",
       "0Wm5W084mmX8J0000Y0an12W0O5810EmK144Ay200000000000000000000000000000000000000002GZEgr0z621",
       "QX8Dm5X900000000G8Gn4WO5u60+yHHxb0MxmkHY5Sz6phdOQmG35hGqbhaKGIG1ZHr049rLh8X5oXQ0HaKAO00I9W",
       "04006R8wMaFMW4m0PE0XFC918YR00000000KeG0W500W91gJ1SeOH7XDHK0069QSA0000000000F08nX14o5m9fI0O",
       "6ae80pW00aGW0r28Wo8DE000000000G814H40gHmCnka80400K8h7R06+0k4500WG0020vCW1q6424aXMXW71S20GT",
       "JF883u5u4m1G81120G100000000000000000g6P10o3H2Y8r108BL038t4GI010A8040XYKqWL0YW001A1d0000m40",
       "000000000000WCg0PuAeWP20V31yLiN812jE064A0C040W40CJ1WFJ1n0008W0J"]⟩]

/-- The kanji and letters of the supplementary set. -/
def jisSupplement : Charset where
  ranges :=
    [(0xBF, 0xCF), (0xD8, 0xF6), (0xF8, 0x113), (0x116, 0x122), (0x124, 0x12B), (0x12E, 0x14D),
     (0x150, 0x17E), (0x1CD, 0x1DC), (0x402, 0x40C), (0x452, 0x45C)]
  members :=
    ["¡¤¦©ª®¯¸ºÑÒÓÔÕÖǵˇ˘˙˚˛˝΄΅ΆΈΉΊΌΎΏΐΪΫάέήίΰςϊϋόύώЎЏўџ№™"]
  bitmaps :=
    [⟨0x4E00,
      ["q0110YHoX0ma08058C0C2208032002W080G0CSGWg0U3PGk000agALm6K5O2K9uPsOLd63004gtOxI0450G1mE9L9c",
       "7X0r22dHbZ2sC930WM4t5s7GO0ca9KP4BL3Q4H8dNWwXOiwC014YQWG1000X1I04Y2W0Gr44eB1H2GS2W90mM044W9",
       "G0Y0WMvG01u0bG1wL0FW1tIKHA56YSnq0a07AaDexK2S4W10Ae2C484Y1XX8Im8jb42WiGMm0020400248OXo00cW2",
       "0GKh640go8Y1fmc9eZ0H60040b01z8p1200m0Pu8e93qqK000W65id0W1840eIQvOI480G02Iv7800GagkRfA40zae",
       "c00CP0Yv0lZY01Yl18hyf8C06IX8iqZrO0EOmG00ac+kUf04mQlWJ0G80698W9j8X5E6p00o132122WiX0ea10Ga3U",
       "RKWSa06015XL5968020066S0Y61c6W8103gh0gaf10OHAWG2UYKeH940Ec0R90H0730XP9100iH42Ge22WC10299TX",
       "GuIZG580K42HW1o010eAY02418064140130yIHqM00mi6In0W2y110e4W00402CIQL600000Mmu8nm3W5I0eDH0D40",
       "W242200P1021210WD2I8AJ58YWNGI06hG1yeOW8Kn08YK034X00CGWWGJW144901W23b50z5001W400GJ5A0EGOP3K",
       "WW000GSG08Z7P55gn2I49a9WqK60Y24CKYv010v2V0a1tp450I2c5218e0GWJ8D822W00JKHg46D1C8IKyCCgH20a4",
       "3XKyjK4mmu28c000K0GGGcRW2Zn6I90Cn1032ycAB00e90e0HZA0W8S1nLK01e8G20W700050o431GWH004G1COmII",
       "10W9W9XNCnH2W1ZCnI91nO4KW308Y4aEG425iC006KHGrOO8W20YUmx2WW1AW2u0hgK480E4UDA0mOIe8AnXOfCH29",
       "0D8AG506820GY84GI891470ImGH5800KZmHCYPWvbNBAGOK9u63m1gR70E5uP4WO2YD4D482GM0m0e0XW4500201Q4",
       "m02GG152I0iIB000dWJB3Ge421Gn2000G8AWnk0YmG1f900odu1L10K5gO4180IaB938zC6E0Pmo0000ga092182uD",
       "n1C60845WOf2O5W4Wm0G2mg0q20A29H4Gb83cHdX0a4e0GAhW0e32YJ0EGJ47CG2n1mmiW3Y44P26Y0H2HX48IX069",
       "008YDCN0ZXX40HWo09eWq8M122SKen80iIX60YAKB0k0m6900K1041wLK4eMK00a4h0107i0I20002ie060442Wr10",
       "05GAA4534gb8OKG410004X0Ga6miedmnG08W20WWW012c28kOv0000e1WAGK3GD0af9X100weP6410WXOETHOu1764",
       "WM0041m0X8JuW080908aIWnJm06CG16GY10y9012J2004eN4G0004WFc00K0eEG0YpGXK5G008GeGG0350O34E168P",
       "1000GG1E0Ya21YGCWB0d6L9aiWP2XO8W00X91G2A1O1220Om4jemmGK6X9iW0855UmQBe4h1KgHN6BWABOQoa8AB0i",
       "kE912m0K-FW0PZYXWGSQ60mu2UmbBzi9A2m49qC4D21d010n0CfX09UY1L8m20e0+920j815001XJ1DWGE9q28GdLo",
       "cUe92BNiZ3W88CWB10Y038usV900Y8Q1X015nGI44HqQ11X3dOaHEnGN95TGI4m07X4Ii80XW0c8SKKCH2W9c0Wu0O",
       "X20cHH0KRK40410XG4k4ny0g0E5R8E51CpOGG40rXAYCe27ZIa1WAGWM0WXUP8mYIa0b525PbmY0Hme5YWaWe6p1m6",
       "1Oo6A9W4KPCC1G901AQ0aK2W00R81Q02040YexJ0wW0120HPAZ00XG3XK8GM6FaK0qE0G1qSbNQ3W2X5XM6041kudY",
       "YLWC038405401p9aZYh90f080WuWE16Ia80S36YYs0A11qeRv8CO0J0o2m7S0A0Pi8c114mem4Oi818i0LGWcWC219",
       "C9YK60000000000000000000000000uZ9WCWZUW80u1WwmGO49G0P2130Ye4D1a3OvQ1UKG5hLH0000458Y0W0110K",
       "0Z0030Geq6G0WraH8W0mH594XG1eKG803EAW087I1b410H12emCee916dDQ20YX964054W7o21HYW01gRQaKDivHLI",
       "DG0421LKAmWDO30Wk1mb8DS2c+000014QLWGpE0B3007eWJ02050q42He8200W080ebQq5nIGMn820i04G7A1P5692",
       "G08X7o2ZG50Kyo8N024WF9-582WhYf92XMA8G7FXC1GX152IG63O7iaW20KD710pZyXaWJ00X8K527Yk3k20cIHg00",
       "0DmYS62hGm6ONAW0G8o0e18W-6fEKYm92m2S4OMo1BAKeIEqnt04M9KeoJYLP428W21000T6G10GM0yv0I02ue084u",
       "WTHm1SYHb98XSu0Ifm30Y43cX0GyG000m708geaem2eD0L5cW2MgYXSCY20uEd4Y5B8W2ZCI8TWkW204n19OC80q00",
       "IWGmN8S842W0qKoWACG3000000000000000000000000mOWgechWr8eX4m8qW6G00060cYW9Y0HMQmA80X80000000",
       "0000W8500IH8Z0SGOIg6XNai20B4N0YS8850F3WoZC0wGWd1oEW3C8G9iHeOemmc0A1404sW6KOW17qgn1F1B2eFX1",
       "2000000008p10O1D4Bj0G6196IK41090mjO286G00A43H420IMXkm90q5Ou61fp22YH1SSX4TLjAiqsWOW8wWaW0X3",
       "gHaE19KSFXBB0WfHmO-WgCl5D53U1dsLDJk0pCwmXlB0dHeWnc8Hz+UUfExgH5WY54YCmBh1O30W3SQHmQwMaUGhaa",
       "aMB071ox32IJC00+Y5Z3EW00i7eYI5W8f2fR00O0000000000000000000000000000000000000000C44n10u2f1K",
       "a2q2FOUK00000000WH74AUZ00GT02044OxX02HAS2Z010G01b3WW2G0B200BE4W20e0nWs0Y4XSg180u6J0KcTjisD",
       "vQJ0ea508PG9LQ8t2GGIWp6m65000000000WMaDII400Ww4W4046WuSIC2+unmX1ns100000000WAG0SYf8806M187",
       "n867OC4GT26Q189NI12000000000000rqfiI1LE6nA1Bc+pU5fHGeWh90a1u8fMVeEOyk61P0BnXPBOG16AeCYuf5W",
       "eGNny1Y3YE6dL+8yKf800000000000000000404A0188OS00O7qmA1O08BE4CMOH6x180LY89Y60FnXgK60H8Hd930",
       "0000000000000mHl03KIG4TE00K2W08amTIWC8urEI4ZMQh+0WUP0C+Aa00WN3aB"]⟩]

/-- What the extended set has beyond the basic one. -/
def jisExtended : Charset where
  ranges :=
    [(0xA0, 0xA0), (0xAD, 0xAD), (0xB7, 0xD6), (0xD8, 0xF6), (0xF8, 0x109), (0x158, 0x165),
     (0x16A, 0x171), (0x250, 0x25A), (0x26C, 0x273), (0x300, 0x304), (0x306, 0x306), (0x308, 0x308),
     (0x30B, 0x30C), (0x30F, 0x30F), (0x318, 0x31A), (0x31C, 0x320), (0x324, 0x325), (0x329, 0x32A),
     (0x32C, 0x32C), (0x32F, 0x330), (0x334, 0x334), (0x339, 0x33D), (0x361, 0x361),
     (0x2160, 0x216B), (0x2170, 0x217B), (0x23BE, 0x23CC), (0x2460, 0x2473), (0x24D0, 0x24E9),
     (0x24EB, 0x24FE), (0x2660, 0x2669), (0x2776, 0x277F), (0x31F0, 0x31FF), (0x3251, 0x325F),
     (0x32B1, 0x32BF), (0x32D0, 0x32E3), (0xF91D, 0xF91D), (0xF928, 0xF929), (0xF936, 0xF936),
     (0xF970, 0xF970), (0xF9D0, 0xF9D0), (0xF9DC, 0xF9DC), (0xFA0F, 0xFA11), (0xFA13, 0xFA16),
     (0xFA19, 0xFA1B), (0xFA1F, 0xFA22), (0xFA24, 0xFA24), (0xFA26, 0xFA26), (0xFA30, 0xFA6A)]
  members :=
    ["¡¤¦©ª«®¯²³ČčĎďđĒēĘęĚěĜĝĤĥħĪīĴĵĹĺĽľŁłŃńŇňŋŌōŐőŒœŔŕŹźŻżŽžƓǂǍǎǐǑǒǔǖǘǚǜǸǹǽɜɞɟɠɡɤɥɦɧɨɵɹɺɻɽɾʁʂʃʄʈʉ",
     "ʊʋʌʍʎʐʑʒʔʕʘʝʡʢˇˈˌːˑ˘˙˛˝˞˥˦˧˨˩ςḾḿὰάὲέ–•‼‿⁂⁇⁈⁉⁑€ℏℓ№℡℧ℵ⅓⅔⅕↔↖↗↘↙⇄⇦⇧⇨⇩∅∉∓∟∥∦∮≃≅≈≢≶≷⊄⊅⊊⊋⊕⊖⊗⊿⋚⋛⌅⌆⌘⏎",
     "␣▱▶▷◀◁◉◐◑◒◓◦☀☁☂☃☎☖☗☞♫♬♮✓❖⤴⤵⦅⦆⦿⧺⧻〖〗〘〙〝〟〠〳〴〵〻〼〽ゔゕゖゟ゠ヷヸヹヺヿ㈱㈲㈹㊤㊥㊦㊧㊨㋥㋩㋬㋭㋺㌃㌍㌔㌘㌢㌣㌦㌧㌫㌶㌻㍉㍊㍍㍑㍗㍻㍼㍽㍾㎎㎏㎜㎝",
     "㎞㎡㏄㏋㏍㐂㐆㐬㐮㑨㑪㒒㒵㒼㓁㓇㓛㔟㕝㕞㕣㕮㖦㖨㗅㗚㗴㘅㙊㚑㚖㚙㛏㝡㝢㝫㝬㝵㞍㟁㟢㟨㟴㟽㠀㠯㠶㡀㡜㡡㣺㤗㤚㥯㩮㩳㫖㫗㫪㬎㬚㬜㬢㭭㭷㮇㮈㮍㮤㮶㯃㯍㯰㰏㰦㳃㳒㴑㴞㵤㶚㷀㷔㸅㸿㹠㹦㹨㺃㺔㽗㽲",
     "㽵㽷㾮㿉㿗䀹䁘䂓䄅䅈䅏䅣䆴䆿䇦䇮䇳䈇䈎䉤䋆䋖䋝䌂䌫䍃䏮䏰䐈䐗䐜䐢䑓䑛䑶䑺䒑䒳䒾䓔䔈䔍䔥䕃䖝䖸䗥䗪䘏䙁䙥䚡䚯䜌䝤䟽䠖䡄䡎䢵䦰䧧䧺䨄䨩䪼䬻䯂䯊䯒䯨䰗䰠䳄䳑䴇䵷﹅﹆＂＇－𠀋𠂉𠂢𠂤𠆢𠈓𠌫𠍱𠎁𠏹",
     "𠑊𠔉𠗖𠘨𠝏𠠇𠠺𠢹𠥼𠦝𠫓𠬝𠮟𠵅𠷡𠹤𠹭𠺕𠽟𡈁𡈽𡉕𡉴𡉻𡋗𡋤𡋽𡌛𡌶𡍄𡏄𡑭𡑮𡗗𡙇𡚴𡜆𡝂𡢽𡧃𡱖𡴭𡵅𡵢𡵸𡶒𡶜𡶡𡶷𡷠𡸳𡸴𡼞𡽶𡿺𢅻𢈘𢌞𢎭𢛳𢡛𢢫𢦏𢪸𢭆𢭏𢭐𢮦𢰝𢰤𢷡𣆶𣇃𣇄𣇵𣍲𣏐𣏒𣏓𣏕𣏚𣏟𣏤𣑊𣑋𣑑𣑥𣓤𣕚𣖔𣗄𣘸",
     "𣘹𣘺𣙇𣜌𣜜𣜿𣝣𣝤𣟧𣟿𣠤𣠽𣪘𣱿𣳾𣴀𣴎𣵀𣷓𣷹𣷺𣽾𤂖𤄃𤇆𤇾𤎼𤘩𤚥𤟱𤢖𤩍𤭖𤭯𤰖𤴔𤸎𤸷𤹪𤺋𥁊𥁕𥄢𥆩𥇍𥇥𥈞𥉌𥐮𥒎𥓙𥔎𥖧𥝱𥞩𥞴𥧄𥧔𥫣𥫤𥫱𥮲𥱋𥱤𥶡𥸮𥹖𥹢𥹥𥻂𥻘𥻨𥼣𥽜𥿔𥿠𥿻𦀌𦀗𦁠𦃭𦉰𦊆𦍌𦐂𦙾𦚰𦜝𦣝𦣪𦥑𦥯",
     "𦧝𦨞𦩘𦪌𦪷𦫿𦰩𦱳𦳝𦹀𦹥𦾔𦿶𦿷𦿸𧃴𧄍𧄹𧏚𧏛𧏾𧐐𧑉𧘔𧘕𧘱𧚄𧚓𧜎𧜣𧝒𧦅𧪄𧮳𧮾𧯇𧲸𧶠𧸐𧾷𨂊𨂻𨉷𨊂𨋳𨏍𨐌𨑕𨕫𨗈𨗉𨛗𨛺𨥆𨥉𨥫𨦇𨦈𨦺𨦻𨨞𨨩𨩃𨩱𨪙𨫍𨫝𨫤𨯁𨯯𨴐𨵱𨷻𨸟𨸶𨺉𨻫𨼲𨿸𩊠𩊱𩒐𩗏𩙿𩛰𩜙𩝐𩣆𩩲𩷛𩸕𩸽",
     "𩹉𩺊𩻄𩻛𩻩𩿎𪀚𪀯𪂂𪃹𪆐𪎌𪐷𪗱𪘂𪘚𪚲"]
  bitmaps :=
    [⟨0x4E00,
      ["408100ms10GW180108000008002000W684G04802Y0Q28040000W01m0G5O4K0OPaG0b40004048AI0011W10S0G94",
       "5X0102714Y0W4110001m748GW0C09KH8WG2m008b0W8100W00040A010028W020422W0048G000H0GO0W10m600000",
       "00W0W2Z0G080K002105W0m00LC4200GW84830014002G40000e840G200W08G00b0400WG000030000101P00002W0",
       "204X1402G9W1nGY18X8100000aA0u021000W08G88110q4000865a000080080IP08480000OG1000148g1A02054e",
       "6100H0YP0C3300Y9008010C00G080eWWO00Om00004OkO0000G70H0G0069W0158XbA4200G120120W400Wa00040u",
       "Q4W1W12002WH115806006EG00400080100e208W1108G0WG040GWG8406c01G0003Y0W8800000020W22W411200TX",
       "0e2XG000K42GX0G010e0W02408044100120iI00I000400G001K000X0WW004042A40000008ou01G10520WDJ2840",
       "W25000001001I0W4D2280n4W002GI008G0KAGa0Kn00WWW1KX000G00GJW004001W00540u1800000002508CG8GW0",
       "0000YKOG00720058X2041W9040602204K28e10f2S0a12Z04002a1G10e00WG00000000201W0601C0G0a0Cg00Ga4",
       "000qWK0WGW484000G00004002Z10I80810002e00080000W003200G81XH481e8W0800W001000010W100000C8GI0",
       "1000aeX601W0W010G010G8000008000CG42Ea200241Ga88000002mI0WWW802W0W20000C4S5A0m00W821WG1412G",
       "00G00400820GWC400800091IW0G0000GW4HC080P13BG08H9e3gm3Y940858G0WO2Y050080G40mW80mW0000200OC",
       "G02G0052200390005WG21Ge200GWI80014A0me0Im81f800IaG1104q5em058WIa190CnC868I000000WW0H2080OC",
       "114600450OW48510eG0mWnu1400A2900G783cG5X048W0H8eW4WB22002G041CG2X3W00Y3Y40G2200H0G14A4WIW1",
       "00020860W1uW0J0m090WaGK00000eH80W0W6022K00d0m610a00041GKK4WU0WG44100G3i4I2000aK804007QY410",
       "0NG085174h080GG000024X0G54GifcGX0000000W000YW40g8H080080W20GH0502Xe1100OeH7400W1GCH5Oe026K",
       "0U0041W0X8Hu40008400MW8JG06CI16GY10e02122Y004eH4G0100WTa00K08F000Jm3G5G000Ge0G4250C2481288",
       "10000G12080002GC010WE080C0120O0W00WD0G301000008m0W0Gm006X2Y000500GOB84YG0CHNM2WA98A2a0AA00",
       "68818m0KTFW0PZ2ZWG0A20Wu3Kuahz08E2m00L40820X200W041X00M01L0000f1c9044001048W11C2W69K28GZ1Y",
       "sMW52AGeW2W00CWB002008uDSX0108I11005X0G0010Q00W0700160HM014GJ0001XKO00000000SKK412W920280C",
       "000Y0B00GK400001G0E4W40204580C504wK00406W0q480610a1W0GW0000S98W0Ia0Xr05G0W200W01YW40W0m002",
       "1Go689W40944009012Q10K200W90180201008v2WYW0120H9A322003W400224WG0q600110W2830G11WI00212Aa0",
       "Y7W0008404400394X0g80X080Wu0C062080O3602M0011G8IP0881J0m0K040B0I08W004meW4O4000e0G002W0A01",
       "C92K00000000000000000000000000OX9W40W6W00O00mmG0080082030Ye0D14GGHI10KG4A480000040YW0000W4",
       "G2001021W6GG0W22002G1194W02040001E20083004000G02AG8m801400A400W06005G0cY02H200Xe8G420evGKI",
       "DG0020440WWDO40W21W405O2Wi0m0000AGWGJA0A0006eWJ0Y840W02Hee000008005QWbW0GIH820024G021H50C2",
       "G08X3G20G00IuW85010WA8a5020h2192WI08121WC1mW212G063074aa20m4300o8G0aWI0WY8GC04W21e00Y20I00",
       "0DWYK22g002GK208G0m0W1G0u280GWm02G204G0Y6FW0WICa1W0441G001048422000000140100N04v0200m80800",
       "0S1W0Ke0b8000G0000G0241W00GW0000G5088e4e00WD0O00W24eW1G820082000100W018G00GW0200G118a00a00",
       "200W40I840204W2W0Cm1000000000000000000000000W8WA8a00m880000mW2G0000000W9W00CHG084180000000",
       "000000100010W00G020005aW2004002GG050F20GY002G001m6020000110GeXG00810000064G00240e0401G0410",
       "0000000000G10S0849e0G419224410000802060008000000I4XgW10a4Gu60Wm30YK1SK00NKC2eac0S00gW400X0",
       "e04001GKA1160081m0d0888113000Wm5DIiG2CQ004B0Z0eW0Y010M4M9AGe00eYK0Y8WBg0000W7881mmm200GY0W",
       "a200012300GJ80YW2422C0000780210002eQ0000000000000000000000000000000000000000000C0Gm10W0f1K",
       "W0G29G4000000000W004O0X000G020000G100G2C2Y090001b1WW00000010800I888uWo004X00000O4H0G6Ga0I8",
       "nI20W4001PG14A8q00020p6064000000000WIWTIO200mg4i00040mS000EmnGW1Ga10000000004I00We88042100",
       "18134841H0cG101L440000000000000W0BWI0L64X8002mG451H0eW080W000X66iB04420G03X1198G042eCZO910",
       "0Gdme123W86cHkeuMf40000000000000000040400188OO00010m814083AaCKGG2G2804W8RY20CX92040G89W830",
       "0000000000000WH8000IG49CWW00208W010WC0GW200W0QYO0WQ808I80000H201"]⟩]

/-- What Windows adds to the basic set. -/
def windowsJapanese : Charset where
  ranges :=
    [(0x80, 0x80), (0x2160, 0x2169), (0x2170, 0x2179), (0x2460, 0x2473), (0xE000, 0xE757),
     (0xF8F0, 0xF8F3), (0xF929, 0xF929), (0xF9DC, 0xF9DC), (0xFA0E, 0xFA2D)]
  members :=
    ["№℡∑∟∥∮⊿〝〟㈱㈲㈹㊤㊥㊦㊧㊨㌃㌍㌔㌘㌢㌣㌦㌧㌫㌶㌻㍉㍊㍍㍑㍗㍻㍼㍽㍾㎎㎏㎜㎝㎞㎡㏄㏍＂＇－～￠￡￢￤"]
  bitmaps :=
    [⟨0x4E00,
      ["000000G00000000000000000000000000000080000H2000000002000010000000G0540000000Y0000000020000",
       "410000510000001000001000000000040000100000000000004000G00000000020000G00000004000000200000",
       "0000000000000000G04W00G0000200000480000400000000000040000W00000100000020000000000000000000",
       "000000000100102000000000000080000000000000000000000100000000000000000000000000000000000000",
       "00000000000000000000000000000000000000W0W00000000000G0000600000000000000000000000000000000",
       "0001004000000000000002000000000002eW0000000000G0004000000000000000000000000000000000000000",
       "0000000000000000000000000000010000000000000000G000G000100000004000000000000000000000010040",
       "00000000200000008000010W0000200000000000m000G000000000000000000000000000000000000000000000",
       "0000000000W00010W000008000000000000W000000400000000000000000000800000021000000000008010040",
       "00080010GW00000000000000001000000000000000000080000000000000000000000001000000000000000000",
       "000000000000000000000000000000000000W00000000000000000G000000000W0000000010000000000000000",
       "00004000000000000000000000000000001808011G2W0000e0W002000008G00G0W000000000m00010000000000",
       "000G0000000000000WG000000000080000000000G001000000000000000000GW00000000000000000000000004",
       "0000000400000000000G000000000000G0004000008W0G0000000000000000K000000000000000000000000000",
       "000000000000010000000000000000800004008000400000000000004000000400000000000000000200020G00",
       "04000002000001H000000W00W40000G0000000000000000200000000000000000000000000000000G000000020",
       "00000000W00e00000400000000000000W00000020W0000000000001W000000000300G000000000000000080000",
       "00000G0000000000000000000000000000080G0000000000000000G0000000000000800000000000202G408008",
       "0080000G610000000G000000200W00000000000000002000000W00000000008000000000000000000000000000",
       "0000000000000000004000O1400000000000000000000000000100000000000000000000000000000000000800",
       "00000100G000400000000000000000000000000000G00000000000000004800000000000000000000000000000",
       "0000000000000000000000200W8000000000000000000000000000004000000000000000000000000000000000",
       "0000000000000000000000000000000000000400G00000000000100W0000010000000000000000000G00000000",
       "010000000000000000000000000000008000000000000008000000000000000000000000000000000000000000",
       "000000000000000000000000000000000000000000000000000000000000000000000000000000000000000000",
       "000000000008000000000000000G00008000000000008000000040000000000000100000000000000000100000",
       "G00000000000000000008800800000000000100000000000000000000000000000000000000000000000000000",
       "000000000000000000000000000000000000000000000W00000000000000000000000000000000000000080000",
       "0010000000000000000000000000000000000000000100000200000000002000000W000G000002000100000000",
       "0000008000000W0000000000000000000000000000000000000000000000000000000000000410000100000000",
       "0000000G0000000000000000000000000000000000000000000000000000000002000000000000000000000000",
       "000000000000000000000000000000000000000000020000000000000000000100000000200200000000000000",
       "000000000000008Hm0600041100000W510a020800600100002000000fAGW00WY4000W9200000108000G0000000",
       "040000010001000400000000W000I000000000000000000000000000000000000000000000000000000G000000",
       "00000000000000000000000000000000000000200200000000000000000000028W0eY000000000000000000000",
       "000000000000000000000W00200000000000000000000000000000008000000000000000000040000000000000",
       "000000000000000G0000000000000000000000W4000000000000000000000000a000020000W080000000000010",
       "000000000000000000000000000000000000000000000000000000000084000000000000000000000000000800",
       "00000000000000000000000000002"]⟩]

end ImportBinding.Charset
