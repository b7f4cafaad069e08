/-
This file holds the Chinese character sets.
-/

import ImportBinding.Terminal.Charset.Basic

namespace ImportBinding.Charset

/-- Simplified ideographs, with kana, letters and signs. -/
def simplified : Charset where
  ranges :=
    [(0x391, 0x3A1), (0x3B1, 0x3C1), (0x410, 0x44F), (0x2160, 0x216B), (0x2460, 0x2469),
     (0x2474, 0x249B), (0x2500, 0x254B), (0x3000, 0x3000), (0x3008, 0x3011), (0x3041, 0x3093),
     (0x30A1, 0x30F6), (0x3105, 0x3129), (0x3220, 0x3229), (0xFF01, 0xFF5E)]
  members :=
    ["¤§¨°±×àáèéêìíòó÷ùúüāēěīōūǎǐǒǔǖǘǚǜˇˉΣΤΥΦΧΨΩστυφχψωЁё―‖‘’“”…‰′″※℃№←↑→↓∈∏∑√∝∞∠∥∧∨∩∪∫∮∴∵∶∷∽≈≌≠≡≤",
     "≥≮≯⊙⊥⌒■□▲△◆◇○◎●★☆♀♂、。〃々〓〔〕〖〗・￠￡￣￥"]
  bitmaps :=
    [⟨0x4E00,
      ["B+tU-HRFLzEgxtry39m201q++quzxn2Z-xc+ZhJ7jZg0cFuprpOLrW4uh+VkIc5sOigaea+rW08E4FOzATk2510iKS",
       "fOt10L86D8K0240ZS8X000eE11C00W0H0mmX220Z01080000uUh875aat+xSoCahHDO+EEHhf0eC1gfzxpbPyBHiMo",
       "l+0DJ1be6I0e64G2e-mFE0CYAKKWG0G067MeXRoI41WpgUixK-joxM8Tw0IfiD4G8QmFIlOU--+EQT-xely+siLIDq",
       "-6K5WxvK5srv2s-gHgNF-ls3+PCGhm2E12TIzYGhb1X1Xyq1UMV+e4p280gg6Cou5iwr9hWDmq0aCcmObY007aJGn7",
       "2X1O0Z00808WG001Go+5eCZvOT00GYmz9uKXqF8-JzAoOm76CWmtgHH0CWCDd61eGSIne8YGJGG8001CI448O00Gh8",
       "0363m000X80820GWLI2G9emP9ikBv5Mkiy5K20ODYtbmiGuyC1A143VM3AH0WYwFX2HcY0M1HG60214I0y42004m00",
       "4mIG681LHia2200020C0000b0400x+BVMi29xk9g-z73vDEzGq0uo4K0VAbXoL3jG8n-dyy82j6m2Oe1nCz7CeZgXA",
       "1248WSb402C34K81jOG06WS0GA0e940G0008200080W020eP+oU2cRHEtF03cWvG34mWa10mLlHpu+M7E8eF406u42",
       "0K0q4-HZgcOucAW510GxXObDBgnjVKw42K6emWdi7Foai9Iw-HETwC+ZWWf3eKY9S+RI-YXCKnQIvQH6WnW8r6y+PP",
       "mGZ32XPZ0002GLY02X14A00W44W0u40241DO10010802K-dteDKX9uBkd79Wi-99T46uUZtaX8wI-TT-9xphDy6EaG",
       "i-JZ4O2Rw72mEAcmCKur55GhtbPLG9UH0jW9K5w9Oc1M3H34aAV1K44WY0m1q2WP21XSXMH9WLOGK10004W0440883",
       "toWCfOgn46L20WOiecogQ0oe7s43GvpFC1DHDEY6Qeo1b2OoFXI5Sq4H94232W11XG0000w0a0TAT0l4Bg0rhCaqqq",
       "B1z8dsAqIgGernQhf7W60+nTb8v6W6wtA3Y06muS-TrE0y-2G3WQ0Y8047QA0KWAaKG20DY5YWM10618H8A1009P9X",
       "aWJKz8ma1Wf8922GL4860840A040OW2Ke8W1901iW808W4H0qW04W6000000000000000000md0GeH8B102mF10eXt",
       "km432G0k0Q2gyhW0CYY8W3wUFQznr4on64B+JSGLYvsaPee+kvm+mOH+8zIphtdaOHeJWoaBwfUxUOLI63P4aCbEel",
       "zpa4OyO8qOJXbYQ02TJJoEgIH1O06M920I00CQ26GaaIeriO8YwIyT30X0498E04XhA14me0GK4165L0nS00XW0Wa0",
       "58W10D0m000008038008200a0040u6MqXO4To00+Akp350mYGlBWY0W1fT0G0E40WG50G1TGCK2442nW141A2W0Gm0",
       "Ge01W00100W0G5ZlAWnGag6BC96F1h4080m6z0U4MX2DmyVsX24XEUcuba330852G0m20GGgaG8IWoDoG1dEWGXA21",
       "0WcX1m0PLb74200eU30813qY850K0E00400040LN03DWG0g2N2oklsK8P3X7WH053Y4YMRwEO-pSyU2T9nT3J8vAK4",
       "wYrvIEHd0CG15282GQKdaI201GM08PbVTYW0i5J9vA0OOHZ2U5B2m0CuM608UCmP0WbQHAe2080Y1hwXKu78ZrrYkC",
       "H+LeGLE80m7WG0eSAsfg0yXGYuGC20G4KIW80W0GG004SDq08pVfX2O1pG8040808usIgOIWOhQ0fq4QGIK20Wek01",
       "WW0000HVuMXOUiX532020209SQW2WfOreCA5NNAK5eQULB50afA528n2Zn-8H023X2c86H225WO24W0J001E080000",
       "0W1E08WfnJ3HE8der0ka1480900100GX82000000000G020000000140000000000000000000000WWW000000000G",
       "000Wu--++v---l--+x-t--xx-l---V5G30pMe17PXG2G54aB9W5Ch8K1JWZ9q2Oi7ErFHv7eUgCn3550W120OsQWKl",
       "tukbq-5S0xdi-+LD4P+N510a654GTiZ1XAs4+NGX2a3I5W03FH100W8DOWrTmK1sEqx+B1fY0K801tXvKqkXpAt-RE",
       "cazxRsxXeaAu-qoo1Wvgt59Bu5Sl--0c3O2nGM1ymttCAbG5x86Sm8QXl0n0V0243G08e7AeZQ5GuM0AX00InfIOoI",
       "Wc641090Ge8X2W1W-Wm109441GXJm280O0Hn1AW02c24G8008220210W20G400+44H0M2u-1yW2COUvS44jpJiC4Yz",
       "nGDU2hLvYGIYCWJXe0v0KKunIA8280vY291nW3842H08424W626001I43CGAWFRL8usa2HGG1A22XP2HpWy4m6JH01",
       "DuW8C450I00003400WeI000000000O-t7H5Q8Y001200000000401000000020W18000000000000000000W000001",
       "000000000GG00000000y-xzV-V-x---l----V---x---F02B184O038S09M0H000000000000000000000Wx------",
       "-dtVVZI+0833I0820eJrOXjmiZHde+28M21uCOj8cSv3680GoM5aY2O4G10c4G0001000000000000000000000000",
       "y+--l-ll-t8imGYPRGxiFTlbu8-vwriV4uWbbbW+O2i46CWsG2ggYJKltJoIyYuOSgG46500WGC0e02Wa-5IcFMV-u",
       "Wgp1Cm0vmG0WsB04000000000000000000000000G0000100004000G00000000000000000004000000G00000W00",
       "0000000G0G0000000000000000010000008000W-Vl+------V-T++-+--t-----kV-V-ttR-txx-lF18000000000",
       "00000000l--V-z-zsQ0H+XRzx43YMU1z00MgHE1W0aaSpBF904mX8BqqZZ4K0GI13100Cfq92W54WWY51a0gK00000",
       "000x3Q00000000000000000000W---tkT-t300000GkSCW100000I0000G00000030e+-zqEVh-F08100000000000",
       "00000000000000000000ml--ttvpz-R03Nn9OeGW2XA0AWGW80820I06+Eg4000000000000000000000000000000",
       "000000000000000000GQUQtmz-hzVFupV+pJ0000000000000000000000000000000000000000000000000000uR",
       "-w+v+-jeTXzFB0CX9m0e0104f1XuIaRf62WM0WMY2K0a0g640C0000000c-70uO"]⟩]

/-- All ideographs of the first block, with kana, letters and signs. -/
def simplifiedExtended : Charset where
  ranges :=
    [(0x391, 0x3A1), (0x3A3, 0x3A9), (0x3B1, 0x3C1), (0x3C3, 0x3C9), (0x410, 0x44F),
     (0x2013, 0x2016), (0x2160, 0x216B), (0x2170, 0x2179), (0x2190, 0x2193), (0x2196, 0x2199),
     (0x221D, 0x2220), (0x2227, 0x222B), (0x2234, 0x2237), (0x2264, 0x2267), (0x2460, 0x2469),
     (0x2474, 0x249B), (0x2500, 0x254B), (0x2550, 0x2573), (0x2581, 0x258F), (0x25E2, 0x25E5),
     (0x3000, 0x3003), (0x3005, 0x3017), (0x3021, 0x3029), (0x3041, 0x3093), (0x309B, 0x309E),
     (0x30A1, 0x30F6), (0x3105, 0x3129), (0x3220, 0x3229), (0x4E00, 0x9FA5), (0xF92C, 0xF92C),
     (0xF979, 0xF979), (0xF995, 0xF995), (0xF9E7, 0xF9E7), (0xF9F1, 0xF9F1), (0xFA0C, 0xFA0F),
     (0xFA11, 0xFA11), (0xFA13, 0xFA14), (0xFA18, 0xFA18), (0xFA1F, 0xFA21), (0xFA23, 0xFA24),
     (0xFA27, 0xFA29), (0xFE33, 0xFE44), (0xFE49, 0xFE52), (0xFE54, 0xFE57), (0xFE59, 0xFE66),
     (0xFE68, 0xFE6B), (0xFF01, 0xFF5E), (0xFFE0, 0xFFE5)]
  members :=
    ["¤§¨°±·×àáèéêìíòó÷ùúüāēěīńňōūǎǐǒǔǖǘǚǜɑɡˇˉˊˋ˙Ёё‐‘’“”‥…‰′″‵※℃℅℉№℡∈∏∑∕√∣∥∮∽≈≌≒≠≡≮≯⊕⊙⊥⊿⌒▓▔▕■□▲△▼▽",
     "◆◇○◎●★☆☉♀♂〝〞ーヽヾ㈱㊣㎎㎏㎜㎝㎞㎡㏄㏎㏑㏒㏕︰︱"]
  bitmaps := []

/-- Traditional ideographs, with letters and signs. -/
def traditional : Charset where
  ranges :=
    [(0x391, 0x3A1), (0x3B1, 0x3C1), (0x414, 0x41C), (0x423, 0x44F), (0x2160, 0x2169),
     (0x2460, 0x2469), (0x2474, 0x247D), (0x256D, 0x2574), (0x2581, 0x258F), (0x3000, 0x3000),
     (0x3008, 0x3012), (0x3021, 0x3029), (0x3041, 0x3093), (0x30A1, 0x30F6), (0x3105, 0x3129),
     (0xFA0C, 0xFA0D), (0xFE33, 0xFE44), (0xFE49, 0xFE50), (0xFE59, 0xFE66), (0xFF08, 0xFF3A),
     (0xFF41, 0xFF5D)]
  members :=
    ["¢£¥§°±·×÷ˇˉˊˋˍ˙ΣΤΥΦΧΨΩστυφχψωЁё–—‘’“”•‥…′‵※‾℃℅℉←↑→↓↖↗↘↙√∞∟∠∣∥∩∪∫∮∴∵∼≒≠≡≦≧⊥⊿─│┌┐└┘├┤┬┴┼═╞╡╪▔▕",
     "■□▲△▼▽◆◇○◎●◢◣◤◥★☆☉♀♁♂、。〃々〔〕〝〞ゝゞヾ㊣㎎㎏㎜㎝㎞㎡㏄㏎㏑㏒㏕︰︱﹒﹔﹕﹖﹗﹩﹪﹫！＃＄％＆＼＿､￣"]
  bitmaps :=
    [⟨0x4E00,
      ["B+-S334QFi1hfpqy08020pLU+eiTvXa1V-2ythp0-ZwDl-p840RMzhyy---dUd---lwzz10mixulklz-30j+55k++-",
       "zx-kA4h-lgy-pxzJIhuPtVC0--jR-pwpI+tlswz-nlLUdP-+x+xGh-kkduH4ef+6KDKCiSmrNanD00hTooNzCSoSqx",
       "DejVqnl1+JRlV+ZoBcaV0WrZYm+wSfukT3sxdRx3aEfyxUZdKj4qlk954Jzzm235AWmBGZeV--I6Q--1x7-Vhltx53",
       "10-dv-zVTUdLmv-lS--FCG0T-REsh+VV910J--RjNxd3jV40E+V+lFtwVVkWO---dl+F8nsVryzZBWMttxdT5Y7rt-",
       "VFy-mdwDWt7-mzsFQo+iC5eXU+3NTtmzPWqe+V00Mzw-uq0cu+UF01sjEZTDG+hS--pz-5XUxU--h2m-++6FfAd-l-",
       "y6nlssAGlv3xtxSk94sZ4yqRHj+BOKnUykLSeRVl-FatyO-7iV+jU-VrtUtvF-BOfwRdYOeFrttyU-rRJWzY1tzoFv",
       "I---N-3u--sVulghRcjRxNV5ndQUxtBFQzQhwkDhVmVSvDuzyzrm--zP5ev-dH8DLiutpd-SpqxzQu5G-+3e---w10",
       "ytT-C0rDzg3Zlrkt-G-VxhUTYGikfXsVz9yQ-XtVRDDhgTXVUIVAENK9-h-i2sXj3-ukxp-ttUL+BuSqVV-FazVv--",
       "lFjp4RRZysAtZjU4PzDqZGhlRF-vVSysZzFvwlYitFsEjhRh1u--+T--yAm-oapxy-V10k-TrpR31S--x-lE-U50--",
       "zUltNl8kDr8F--yrkxTzlLDutNiQv--Ljx-0Kmv-sv-lvTtvulkr5vF-s7Vz7uVx-sNxV00y-UxJz-V-10u---Fk-U",
       "00mlSzt--F-1Wk+vzyxzNl-l-F0Oz-Vx-kxx-90G+tVt-tV+Yl0QVi-uxt-ha+PxttdUFWllkNz3TjxdzljyvlpV+p",
       "ywgTe+pnVby-vdGSl+tsTpxw7+DpkPp-3Fz--FmUVw+PWhMQW-sLzrV5zFpFw1FVxRH-9H-brUTFzElsRgFtdE-3++",
       "hRV0q+--whtlt20mz-mV--n-yx--L200SNxOlxpF-j-6000wsl-xU+DkV+-F00zU-N-sV--Fmt-l002XzkxDVxz-jz",
       "-yFm4Oxxr+-ll+UvV62GVUUd-zdg-wh70D-Fzwpz+rl24mxAt-S-NyO-2xukW-Zsz2VqnZFVqAnwz-k-tSQ-F94lSN",
       "tB-ozpUxqc-lTtKtPsu+-jxUlkVtPbyJyNh+Z-wNjz--zz30ujz--Rx-+zw+l8mc-Vyxb+---V000Sy-t7--z-tl10",
       "0tysVz-+---z--+a200ux-v-t-xxcVz--oUE00Ztz+-pyts----510uR-+lVEFN-k-l-z20-RxVxVpzN-Uz3q---rj",
       "V-FCv-z+Nozy+B-lV-ulV-t5ct+VFCLDyHaV7AX+xM4ujxvTN0Os-MbV9wzR1V41UhNNt--L5aoz6Mf-pUvBp--prz",
       "vznTn+kJJ6kpyDXzkrVoqxFQTtxFtUltc-N73f-vrrNkr3O--WTwyUiBo-StZT7++vVtU---4-WUtEylTxzmzVf+6S",
       "rl-F0noV--7XNn+jUpfvl8-wFKRrh-wvj-2Zm--VJ1FwTcx-rQs-FUUWP3XlynPmZ7DdpS2lCqs-to-jl-De---2-k",
       "d--FwFrmy4DVvDsTo+M-CR+15xnqEVdn1-wR-lVfx3luQhZw-VmpFTU-+-08-lxBg-lsp-yIfzv+Lhp-uFi9-7W++-",
       "-60AtL0Sry-0QdlqwVyl-q1Nwy-Ci-wjSwlDIzfUw-h8dV-d-p-klqXj6qU-TSTVV-+8hRMyPx7mDqJF-+TH9FekHt",
       "7qTUuUpzyyVM-mDyj-5FB32COUe3ihpTy3lrN--aGy-VL0xBs-1GR-plp4mAxGJx5C---3Vk+x+FWyl-JYxdwDPwP+",
       "UpofpSZz1xIW+uF8TTly5Mzrfz-----1R-s--JyVPxyxFuxUnx5yFR-j-VlN4++oN-j38y--y-Zx----Jy-rFyQ--T",
       "Slw-1000000000000000000000000GdZJlpa-w-rk-e-dTyT-il--h+VBslz-lxlF+tljKNalu8NuHr19alFEzUssF",
       "kukD5mxzp-tUW+pVdL0Ohxhk1O6sy-3Mthyt7sylW+VpRzh-zRxfl-+TS+zj-S7+dq9-tMhol-jMxRRyvm+7l-x+x-",
       "N30ulsxtxVEz-C0hLz-w-d-+-N0000utlo-t-Rz-S0W+-tol-lV-t-Qx-38WWk--R-wTjxhlV+dH4uJ+-bVVrdtx-t",
       "80utVxVn-x-zx--0ej-Pwls--9+N---S--zXxVU-hVwz+zxnlFl72+z-svtt9dNVQxxxRw1uyj-T+Uu+---6R-FN-0",
       "+J--d3Vz-T-szJm-----F+FuxeVtF7yt--zzXdx-VlSxzR-ilk-zzxxlHVixYZlUlyFidxFRP76Vt1+L--2czt-PkN",
       "-Vix+-UUMfvp--b-UvjR9YU+UHFnc700yvxVxyTtTMzxfpADJvzSrV-IFjt-UwFkkTq+DKq-zlg-xVTw-tzzj--Vzt",
       "zw+T+p-VRwz6vxrr5VN3000000000000000000000000e+k-VyqQtll-oTs+xT-+P---RbkQ--rjpVrVQ+A0000000",
       "0000GlVthCZz-fvgzplrcd-w-+ztVGV-c+---hqUpVxVvx--soL7s-t-blt74GI1+wP+ZljyV-+R-tVUMp-ozl+-l-",
       "100000000c85+50IdQ+3mVj5V--Xxy+-1us5lbk-pUDkU---Vhpkyx4+Nugs4y-+pl-u--hVz-V--VFl--jNuFNpx1",
       "-xw3+-Q--QtxwlxDS-dkZ+ljtR5+WzzvXz-tCjFi5zVxzf-F--1-Oy--lE+q7FutNjVVl--xuD1m+V-NxIpuUrmzs-",
       "k-N-B0TM-ztxTKW-Vo+-t01yrx-6-dd2M7l-VyF0000000000000000000000000000000000000000oJJx-Hswitu",
       "+d+F-nzF00000000GzHz7uR7ylH+Umx-nb-R+kbbNjnc--7--xoXd-Qzh-qyz-T9dpz24rrHNrT--qEatzNV8he+wd",
       "-yg0oIl-VzFdtqhMw2wT-ZxthZV00000000ClJzVb60W8hkIbTjUn-DBx-lGlgRz-s200000000Fdwv-ZBEg--xohT",
       "J-l-kBdVzwtzd-tzzxSzF000000000GgRkzna+NaAZlp+fNVdVSlBxAt+rlTFETappNv1y2JtrEOZkz1uxrzT4O8Wl",
       "6dmepEUh-K-L-mD7ck700000000000000000k9+xR+3KxwjD+of-2dU-xWV+xgt-Hr--zj+-jhz-+-+jV-l-lg-w60",
       "000000000000WORp-vflpAMyOrGyxrVyftll3RSRVrp--dsp-J-+xpzzF108t4H5"]⟩]

/-- What Windows adds to the traditional ideographs. -/
def windowsTraditional : Charset where
  ranges :=
    [(0x2551, 0x255D), (0x2562, 0x2569)]
  members :=
    ["¯‧€∕⊕⊙╟╠╫╬▓墻嫺恒碁粧裏銹﹑﹨～￠￡￥"]
  bitmaps := []

/-- What Hong Kong adds to the traditional ideographs. -/
def hongKong : Charset where
  ranges :=
    [(0x2170, 0x2179), (0x2551, 0x255D), (0x2562, 0x2569), (0x31C0, 0x31CF), (0xF907, 0xF907),
     (0x23DB6, 0x23DBD), (0x24988, 0x2498F), (0x24A21, 0x24A2A), (0x26D22, 0x26D2A),
     (0x26DA0, 0x26DA7), (0x26ED0, 0x26ED7), (0x28A44, 0x28A4B), (0x2F825, 0x2F825),
     (0x2F83B, 0x2F83B), (0x2F840, 0x2F840), (0x2F878, 0x2F878), (0x2F894, 0x2F894),
     (0x2F8A6, 0x2F8A6), (0x2F8CD, 0x2F8CD), (0x2F994, 0x2F994), (0x2F9B2, 0x2F9B2),
     (0x2F9BC, 0x2F9BC), (0x2F9D4, 0x2F9D4)]
  members :=
    ["¨ÀÁÈÉÊÒÓàáèéêìíòóøùúüĀāĒēĚěīŋŌōœūǍǎǐǑǒǔǖǘǚǜɐɑɔɛɡɪɵʃʊˆАБВГНОПРСТẾếỀề№℡↸↹⇧⏚⏛╟╠╫╬✽⺀⺄⺆⺇⺈⺊⺌⺍⺕⺜⺝⺥⺧",
     "⺪⺬⺮⺶⺼⺾⻆⻊⻌⻍⻏⻖⻗⻞⻣⼳〆〇゛゜ーヽ㈱㐵㑀㑊㑌㑤㑳㑺㑽㑾㒓㒖㒥㒯㒼㓁㓈㓟㓤㓻㔆㔾㕑㕓㕙㕡㕭㕰㕲㕷㕸㖄㖗㖘㖡㖥㖭㖿㗁㗅㗇㗊㗎㗒㗖㗛㗝㗱㗲㗳㗻㗾㘉㘘㘚㘣㘥㘭㘵㘹㘾㙇㙈㙉㙎㙟㙡㙺㚁㚚",
     "㚥㚪㚬㚰㚱㚵㚹㚼㛁㛃㛄㛅㛇㛈㛓㛔㛖㛝㛡㛢㛥㛦㛵㜁㜃㜈㜊㜍㜜㜢㜣㜥㜬㜭㜰㜲㜳㜺㝀㝃㝢㝯㞗㞠㞹㞾㟖㟲㟸㟻㠏㠙㠠㠭㠶㠸㡣㢠㣃㣌㣑㣔㣺㤈㤔㤧㤲㤿㥍㥣㥸㦀㦉㦊㦒㦙㦛㦡㦤㦸㧜㧢㧥㧬㧸㧻㧾㨁㨃㨆㨗㨘",
     "㨩㨪㨴㩋㩒㩗㩜㩞㩦㩧㪗㪫㪽㫞㫠㫰㫲㫻㬎㬙㬢㬫㬹㭂㭘㭠㭱㭲㭻㭼㮀㮕㮖㮙㮡㮼㮾㯂㯄㯗㯝㯬㯲㯳㯴㰍㰑㰕㰘㱔㲋㳋㳍㳑㳖㳜㳫㳯㴒㴓㴝㴲㴻㵆㵌㵎㵑㵟㵢㵩㵪㵯㵵㵽㶅㶈㶊㶏㶑㶥㶭㶴㶿㷆㷇㷉㷌㷍㷓㷛㷧㷨",
     "㷫㷳㷴㷷㷼㷽㸆㹀㹃㹈㹕㹴㺨㺩㺪㺭㺱㺸㺿㻂㻇㻊㻌㻐㻑㻖㻗㻚㻛㻞㻡㻢㻧㻩㻫㻰㻳㻴㻺㻼㻿㼀㼄㼆㼇㼎㽓㽘㽙㽣㽼㾓㿀㿈㿗㿜㿥㿭㿹㿺䀄䀉䀝䀹䁅䁓䁗䁢䁥䁪䁯䁱䂨䂻䂿䃈䃘䃟䃸䃺䄂䄃䄄䄉䄎䄲䅧䅬䅮䅼䅿䆐",
     "䆲䇄䇊䇏䇛䇭䇯䇹䈑䈣䉀䉠䉪䉶䉺䊌䊔䊢䊵䊹䊼䋴䋻䋼䌫䍮䎗䎚䎺䏁䏙䏟䏭䏰䏲䐁䐂䐓䐥䐭䑺䒏䒑䒟䒠䒢䒰䒷䒽䓀䓃䓅䓎䓝䓞䓟䓤䓩䓪䓫䓬䓴䔃䔄䔉䔋䔖䔛䔝䔧䔮䔳䔶䔻䔽䔿䕃䕑䕒䕕䕘䕜䕡䕢䕪䕭䕷䕸䖅䖦䖳䗚",
     "䗩䗪䘃䘆䘏䘕䘗䙛䙺䚀䚡䚻䛏䛐䛵䛷䜓䜘䜶䝄䝎䝏䝼䞘䞦䟕䟭䟴䠀䠋䠷䡝䡱䢛䢭䢮䣐䣝䣭䣳䣺䤆䤑䤞䤥䤪䤭䤵䤼䤾䥅䥑䥓䥥䥪䥲䦉䦡䦧䧟䧥䧧䨏䨝䨤䨵䪖䪤䪴䪸䫑䫤䫿䬐䬙䬠䬬䬷䭯䭰䭲䭻䭾䮎䮐䮓䮖䮗䮝䮽䮾䯀",
     "䰄䰇䰎䰲䰻䰾䱀䱇䱗䱛䱭䱷䱻䱽䲁䲅䲤䲮䲰䲷䳍䳡䳢䳭䴇䴉䴐䴴䵶䵷䶉䶑䶜＂＇［］￢￤￭𠀡𠀾𠁆𠁎𠁨𠂆𠂇𠂊𠂔𠃊𠃋𠃌𠃍𠃑𠃮𠄌𠄎𠄘𠆤𠆩𠆫𠇁𠇔𠇲𠈄𠈌𠈔𠈹𠉛𠉴𠉵𠊙𠊞𠊠𠊷𠊿𠋀𠋥𠌊𠌥𠍁𠍅𠍆𠍇𠍾𠍿𠎀𠎠𠎧𠎵𠏉𠏋",
     "𠏵𠏼𠐓𠐔𠐟𠑥𠒇𠒎𠒑𠒒𠒣𠓗𠓼𠓾𠕇𠖎𠖥𠖳𠗃𠗊𠗐𠗕𠗟𠗠𠗫𠘑𠘕𠘙𠘚𠘰𠙖𠙶𠜎𠜱𠝹𠠬𠡳𠣕𠤖𠤣𠥔𠥹𠧧𠨑𠩐𠩯𠪴𠫂𠫍𠬍𠮏𠮟𠮨𠮩𠮿𠯆𠯋𠯢𠯫𠯻𠯿𠰋𠰍𠰠𠰴𠰺𠰻𠱁𠱂𠱃𠱓𠱥𠱷𠱸𠱼𠲍𠲖𠲜𠲵𠲸𠳏𠳓𠳔𠳕𠳖𠳝𠳭𠳿𠴕𠴨𠴱𠴲",
     "𠵆𠵇𠵈𠵉𠵌𠵍𠵎𠵯𠵱𠵴𠵼𠵾𠵿𠶖𠶜𠶧𠶲𠷈𠸄𠸉𠸊𠸍𠸎𠸏𠸐𠸑𠸖𠸝𠹌𠹭𠹳𠹵𠹶𠹷𠹸𠹹𠹺𠹻𠺌𠺖𠺘𠺝𠺢𠺪𠺫𠺬𠺶𠻗𠻘𠻝𠻸𠻹𠻺𠻻𠼝𠼦𠼭𠼮𠼰𠼱𠼻𠽌𠽤𠾍𠾐𠾭𠾴𠾵𠾶𠾼𠿟𠿪𠿫𠿬𠿭𡀔𡀝𡀞𡁏𡁜𡁯𡁵𡁶𡁷𡁸𡁻𡂈𡂖𡂝𡂴𡂿𡃀",
     "𡃁𡃇𡃈𡃉𡃏𡃓𡃤𡃴𡃵𡃶𡄯𡄻𡄽𡅅𡅈𡅏𡆀𡆇𡇙𡈼𡉏𡉼𡊨𡊩𡊰𡋣𡋾𡌂𡌃𡌄𡌅𡌶𡌺𡍵𡍶𡎎𡎘𡎜𡏅𡏆𡏭𡏾𡐓𡐖𡐤𡐿𡑒𡑔𡑕𡒊𡒗𡒶𡓨𡓽𡕷𡖂𡖖𡘊𡘓𡘙𡘾𡙡𡚒𡚸𡚺𡛀𡛁𡛂𡛓𡛕𡛟𡛦𡛧𡛨𡛺𡛻𡛼𡛾𡜍𡜐𡜦𡜺𡜻𡜼𡝗𡝬𡝭𡝮𡝯𡝰𡝱𡝳",
     "𡝴𡞫𡞰𡞱𡞲𡞳𡞴𡞵𡟃𡟇𡟙𡟚𡟛𡟜𡟟𡟯𡟵𡟶𡟸𡟹𡟺𡟻𡟼𡠠𡠨𡠩𡠪𡠭𡠹𡠺𡠻𡡀𡡅𡡒𡡞𡡡𡡢𡡣𡡤𡡷𡡻𡢃𡢄𡢅𡢞𡢟𡢠𡢡𡢢𡢾𡢿𡣑𡣖𡣗𡣘𡣙𡣺𡤃𡤄𡤅𡤐𡤑𡤒𡤕𡤜𡤢𡤧𡤻𡥄𡥘𡥪𡥼𡦀𡦃𡦈𡦖𡧛𡧳𡨭𡨴𡩅𡩋𡩣𡭄𡯁𡯂𡰪𡱰𡲢𡲥𡲬𡵆",
     "𡵞𡶐𡶶𡶺𡷊𡷑𡷫𡷹𡸜𡸣𡸷𡸽𡺉𡺤𡺨𡻈𡻕𡼏𡼕𡽪𡾞𡾡𡿨𢁅𢁉𢁾𢂚𢃇𢃼𢄪𢅛𢅳𢅺𢆡𢇁𢇃𢈈𢉼𢌡𢌥𢎽𢏐𢏗𢏺𢑥𢑱𢒋𢒑𢒰𢓭𢔓𢔛𢔰𢕔𢖍𢖯𢖾𢘛𢘜𢘫𢙨𢙺𢚖𢚘𢛴𢛵𢛶𢜒𢜔𢜛𢜟𢜪𢝵𢞁𢞖𢞴𢞵𢟍𢠃𢡟𢡠𢡱𢢭𢣁𢣷𢤦𢤹𢥏𢥧𢥫𢦀𢦓",
     "𢩦𢫏𢫕𢫦𢫨𢬎𢬢𢬿𢭃𢭪𢯊𢯎𢰦𢰧𢰸𢱌𢱑𢱕𢱢𢲈𢲛𢲡𢲩𢲲𢲷𢳂𢳆𢳉𢴇𢴈𢴒𢵄𢵌𢵧𢶍𢶕𢶠𢶣𢶤𢶷𢷮𢸍𢸶𢹂𢹸𢺋𢺳𢻯𢽴𢿌𢿣𣀳𣁄𣁋𣁦𣁽𣁾𣂎𣂷𣂼𣃚𣄃𣄽𣅽𣆂𣆤𣆥𣆳𣇈𣇉𣇷𣇸𣇹𣈏𣈥𣈯𣈱𣈲𣈳𣈴𣉖𣉢𣊁𣊉𣊊𣊫𣊬𣊭𣋒𣋠𣋡𣌀",
     "𣌊𣌟𣎴𣏌𣏞𣏦𣏴𣏵𣏹𣏺𣏾𣐀𣐿𣑐𣑯𣑲𣓥𣔙𣔰𣕑𣕚𣕧𣖕𣖙𣖜𣗍𣗎𣗏𣗳𣘀𣘗𣘚𣘼𣙀𣙙𣙟𣙷𣚦𣚭𣚺𣛟𣛮𣜃𣜖𣜠𣜭𣜯𣜿𣝦𣞁𣞢𣞼𣟂𣟕𣟖𣟗𣠺𣧂𣪧𣫛𣫮𣫺𣬚𣭚𣱣𣲙𣲚𣲛𣲵𣲷𣳇𣳈𣳉𣳼𣳽𣳾𣳿𣵀𣵛𣵾𣶏𣷣𣷸𣸆𣸑𣸬𣸭𣸮𣸯𣸰𣸱𣸹",
     "𣺈𣺉𣺊𣺋𣺹𣺿𣻗𣻷𣻸𣻹𣻺𣻻𣻼𣼵𣽁𣽊𣽡𣽿𣾀𣾁𣾂𣾏𣾴𣾷𣿀𣿅𣿫𣿬𣿭𣿮𣿯𣿰𤀑𤀹𤀺𤀻𤀼𤀽𤁗𤂅𤂋𤂌𤂍𤂑𤃉𤃡𤃬𤄄𤄏𤄙𤄿𤅀𤅄𤅎𤅕𤅖𤅗𤅜𤅟𤅷𤅺𤆣𤆤𤆥𤆬𤆵𤇍𤇢𤇼𤈛𤉋𤉖𤉙𤉶𤉷𤉸𤊄𤊓𤊕𤊥𤊿𤋁𤋉𤋊𤋮𤋺𤌍𤌚𤌴𤍈𤍢𤍣",
     "𤍤𤍥𤎌𤎖𤎜𤎽𤏁𤏩𤏪𤏲𤏸𤐄𤐵𤐶𤑚𤑛𤑳𤒇𤒈𤒹𤒼𤓎𤓓𤓖𤔅𤔡𤕸𤗈𤘘𤘪𤙥𤙴𤚗𤛔𤜆𤜥𤜯𤞏𤟠𤠒𤠣𤢂𤣩𤣰𤣱𤣲𤣳𤣻𤣿𤤀𤤁𤤌𤤖𤤗𤤙𤤯𤤳𤤴𤤾𤤿𤥀𤥁𤥂𤥃𤥢𤥣𤥴𤥵𤥶𤥻𤥿𤦂𤦔𤦤𤦧𤦩𤦫𤦬𤦭𤦷𤦸𤦹𤦺𤦻𤧅𤧐𤧚𤧞𤧟𤧣𤧥𤧬",
     "𤧭𤧶𤧷𤧸𤧹𤧻𤨎𤨒𤨓𤨕𤨾𤩂𤩅𤩊𤩎𤩏𤩐𤩑𤩝𤩥𤩦𤩧𤩱𤩷𤩸𤩹𤩺𤪌𤪓𤪔𤪕𤪖𤪤𤪥𤪦𤪧𤪱𤪲𤪳𤪺𤪻𤪼𤫀𤫇𤫊𤫑𤫟𤫢𤫩𤬏𤭮𤯵𤰉𤲞𤲟𤳉𤳙𤴆𤴓𤶸𤷪𤷫𤸻𤹐𤺥𤺧𤼎𤽜𤾂𤾆𤾗𤾚𤾩𤾸𤿂𥀬𥁒𥂝𥄫𥅈𥅽𥅾𥇍𥇣𥇦𥇧𥈠𥈡𥉐𥊙𥋇𥋘",
     "𥌎𥌑𥌓𥐙𥐥𥐯𥐰𥑆𥑬𥑮𥒚𥔱𥔵𥔿𥕛𥕜𥕝𥕞𥕢𥕥𥕦𥖁𥖄𥖏𥖹𥗕𥗛𥗠𥘅𥘵𥙑𥚃𥚕𥛣𥛶𥜆𥜝𥜥𥜽𥝲𥟇𥟟𥟠𥟡𥡗𥡝𥡲𥣈𥣡𥤃𥥆𥥖𥦬𥧌𥩔𥪕𥪜𥪮𥪯𥫩𥭴𥮉𥮳𥮴𥯆𥯤𥯨𥰁𥰆𥰡𥱊𥱥𥲑𥲤𥳀𥳁𥳾𥴠𥴰𥵃𥸎𥹉𥺁𥺂𥺃𥺦𥺼𥻗𥻘𥼚𥽋𥿡",
     "𥿢𦀩𦁈𦁤𦂃𦂗𦂤𦂥𦄂𦄡𦅙𦅚𦅛𦅜𦆭𦆮𦆲𦇝𦉘𦉡𦉪𦉫𦋐𦌵𦍋𦍌𦍑𦎾𦏵𦏸𦐂𦐐𦐑𦐒𦑊𦑩𦒄𦒈𦒉𦒍𦒘𦔒𦕲𦖠𦖭𦖿𦘒𦘦𦚯𦚱𦚵𦛚𦛨𦛼𦜖𦝁𦞙𦞳𦞴𦟌𦠜𦡆𦡞𦡮𦢈𦢊𦢓𦣇𦤎𦤑𦤦𦤹𦥑𦦨𦦵𦧲𦧺𦨭𦨮𦨴𦩂𦩑𦩒𦬅𦬊𦬓𦬕𦬣𦬨𦭐𦭑𦭒",
     "𦭓𦭛𦭵𦮂𦮖𦮗𦮝𦮳𦯀𦯷𦰡𦱀𦱁𦱆𦱾𦱿𦲀𦲁𦲂𦲤𦲷𦲸𦲽𦳀𦳃𦳑𦵑𦵴𦶮𦷜𦷪𦷫𦷰𦸀𦸅𦸇𦸒𦹂𦹃𦹄𦹅𦹮𦹲𦹷𦺄𦺋𦺙𦼦𦽳𦽴𦾟𦾡𦾾𦿞𦿟𧀎𧁋𧁒𧁓𧂈𧂭𧂮𧂯𧃍𧃒𧃸𧄉𧄌𧄍𧄦𧄧𧅤𧅥𧅵𧇍𧈛𧉧𧊀𧊅𧊋𧊲𧊶𧋦𧍒𧎚𧏿𧐢𧑐𧒄𧒆𧕴𧖣",
     "𧗠𧗤𧗽𧗾𧘇𧘌𧘲𧘹𧙕𧙖𧙗𧚔𧜏𧜵𧜶𧝁𧝞𧞄𧞅𧟌𧡘𧡰𧢝𧢲𧣈𧤤𧥧𧥺𧦠𧧝𧧽𧨊𧨎𧨾𧩓𧩙𧩹𧪄𧪽𧪾𧫴𧬆𧬋𧬘𧬸𧬹𧬺𧭈𧯯𧯴𧰒𧱬𧲱𧳅𧴯𧵓𧵔𧵦𧵳𧶄𧶏𧶘𧶽𧷜𧹍𧹏𧼮𧿹𨀂𨀉𨀞𨀣𨀤𨁈𨂃𨂐𨂽𨂾𨃨𨃩𨃴𨄮𨅏𨅝𨅯𨆉𨆯𨆼𨈇𨈘𨈚𨉖",
     "𨉼𨊛𨋍𨋢𨌆𨌘𨌯𨌺𨍥𨍭𨍽𨎊𨐒𨑨𨑬𨑳𨒂𨔁𨔼𨔽𨕬𨗨𨗴𨘀𨘋𨘥𨘻𨚪𨚫𨚲𨚼𨛘𨛦𨜏𨜓𨠄𨠫𨤳𨥈𨥉𨥖𨥤𨥨𨥬𨥭𨥾𨦉𨦨𨦪𨦫𨦸𨦼𨧀𨧜𨧞𨧡𨧣𨧤𨧧𨧨𨧹𨧺𨧻𨧼𨨏𨨖𨨥𨨩𨨲𨨶𨩙𨩚𨪁𨪂𨪃𨪚𨪛𨪜𨫀𨫆𨫋𨫌𨫎𨫞𨫟𨫠𨫡𨫢𨫣𨫥𨫪𨫼",
     "𨬌𨬓𨬡𨬢𨬫𨬬𨬭𨬯𨭆𨭌𨭎𨭐𨭣𨭤𨭥𨭦𨭬𨮏𨮙𨮜𨮝𨮹𨯂𨯅𨯔𨯗𨯙𨯚𨯧𨯨𨯩𨯪𨯫𨯬𨯵𨯿𨰃𨰉𨰜𨰝𨰣𨰦𨰫𨰰𨰹𨰻𨳊𨳍𨳒𨴴𨶙𨶹𨸏𨸶𨸹𨹥𨹦𨺗𨺬𨺲𨺳𨻙𨻧𨿅𩁹𩂈𩂋𩂓𩂯𩂰𩂱𩃀𩃤𩃥𩃬𩃭𩄍𩄐𩄼𩅍𩅛𩅞𩅰𩆜𩆨𩇕𩇫𩐝𩐠𩐳𩐿𩑈",
     "𩓐𩓙𩓚𩓥𩓧𩖞𩖰𩖸𩗗𩗩𩗴𩜠𩜲𩟔𩠐𩡗𩢤𩣑𩣪𩣱𩣺𩤃𩤅𩤯𩥅𩥇𩥈𩥉𩥝𩥪𩦝𩧃𩧉𩨨𩩍𩬅𩬎𩯕𩱳𩲭𩴾𩵚𩵼𩶘𩶛𩷶𩸆𩸭𩹨𩺬𩺰𩻃𩻸𩼣𩼰𩾷𩿞𪀔𪂇𪂹𪃡𪃭𪃳𪃸𪃾𪄇𪄣𪄳𪄴𪅐𪆒𪆓𪆫𪆴𪆵𪇟𪇵𪈠𪈳𪊓𪊟𪊲𪊴𪊶𪊺𪊽𪋟𪋿𪍑𪎩𪐴𪑛",
     "𪗆𪗋𪘁𪘲𪙊𪙛𪚩"]
  bitmaps :=
    [⟨0x4E00,
      ["G000K8Hb03A020030G001Cg00KG2008c0040000J040200810C0X2G2200000G000G000GG2H020H000m0G1YWG000",
       "000112000G104400W014000100G00818e0001420600002000000401G042GK00H1W9nJ08Ae38I18G059800W1304",
       "G0000AG01WW000O448H0W808GC0030002800000aGmG24040W2f8G0600W005zKG0O247SG000CG000M4e0WK000e0",
       "000O20002WO2560GX00WJ04W0W0001WWGGea0002e08020AuW001G000W0HOX000OG0Gn8802020qBW08080Q5W800",
       "0m10EG0mI0e022000101WA0A1008W00040AJ009Y020043G910XW401IG40WW14W00420G00410044900090Im0000",
       "016081XX00840410G38GB120A00G1000000020W000201X00HW12X0080086m04W214897002800X0Aaa02PK029m4",
       "800080i200105G40W82W0W00085X000GX05450GGW301020200A200020220O0L200000O020100040800WL00004O",
       "00Y008222400G8100a004G10C200G4902I000480a0200W8000W000AG0000400GG00040000X810120000020W400",
       "0004R00S0008000300o0Ge004W020000G2W04G100W80000000000W002W004G00000e0100004a0W00000W0Xu000",
       "2WG0W040G0WG0018H402082208J0000AG00c01400000000000G0e0001000G000090408G1000W20W08800000000",
       "100GY2000000G0102202000000W020W00H400a5W00000001D0000G00080400Y0000WG1G00W08YI00000120C004",
       "300020020A000OB00000080100I0G2000W00001X001004fW808Y02W02G4G04WW4W006000802001G1aGW00G0010",
       "00WX810000800414208000C000002z181W4100CG0I0OW020000410G0010GYW2100000000F800F004014I0020I2",
       "03042104810G0010WO08W00O02O0050W320W24C20A08114G80Y082c04070H0000G002000200020000X000WGGW0",
       "00000000080000X040010000G000YQ2020G10048220000814I000W400201008P0000G100000G0Y100O00208G00",
       "302800000000000H1XW400600000OW2000011G8001000890000u213001GW1m0010G02400440004280100A0002I",
       "000260000502000G0010000AH01WG2gm2e800aE00eJ4G46W00W801200020QW3IXGeW0002gJ50H9K0C02a400020",
       "20806018Cu003I00G004A401000G8WG080WG0000200G00000504000q5038GW000008100090H1810G002720M18Y",
       "AG00sAD000u4eE0IWCI6GH01m0WAG00420G4900W0SG0W0402100mW0Hae2012614W0O404008108400G000000X00",
       "000010840uI00m0Y5100G008200200G0a00000000q004K8000900010004s000WG000802X22002G001G0400H100",
       "083b8e10010048G800000Aq0020Z101GZ00G0000004NO0000C01080G93W0Y2Y0000KK01040W400400000a00He8",
       "00002000220e0000G0OmmW8m3X600G0W1402e0080300204090800040030G0000O000040G100G2200080G102120",
       "W41M8140G0CK040ZYW01012AI000000800000020a0000000A0A0Ga02000eP01C002O0200008000000002W25002",
       "0G4084G00102800200000G0000000W0CeGC00008G0008Y0W0GG000000802004GG000I80B0600048u4000G0000W",
       "020mm0400000I0408A5b4001K20110a10030G010800840402400001W010000G109200100G00900a30200004100",
       "8446G0404Wn2020K200008000W0m4W00080804001021088000W000W00KHC5G00405WI4K0W106G0C102W00O0000",
       "4P30040A040000061G064G800c00000Y000000W000401040GG0eH1001200a000000440400G0010210000000002",
       "00000000000000000000m0W04600082800204G400GW00402G002200G6W00KC0100G2O0G40Gm08e020001080600",
       "000400008224002002GW6810WA00G840000W00000000G0W20420200002000100H0102210001040010800G00W00",
       "200Y0C00412000A0G0840000400000400000000000000000W000000000000Y00200008GX00AG808WX1n0000000",
       "000000004G00000G20009004000000W001000K20404W000018AG1000008819120101K02100000800W4002G00G0",
       "CG00000W00X20wV90b1G0000W0040100008200G040I010000000001102G00000000000000000000000285W0444",
       "005000W00X04004WW00G41GG80W0D024I008XI0I02W4220000a06300GW0AOm588200000430mF100W4j46X8F010",
       "H0W0Gg0X028400R0W4108Am3200n08Ga0eG0W2W0000I0000W20004000G00000000W00002000000048800i05J00",
       "0000000010100000W00084W800400800880W010A004800000000G002000220WK0C00Y2A0W8000A008200MKM11G",
       "0011490000m0820X100Y0G00K4W0000000000a2WOH00rGG8200040I0000kG1a008C00000000W0440G4m0004C40",
       "W000G40W2180O0000412G000008000004H20008050040IWWG000a0X010G000W000e2e38e00G0000W0020Y81W4G",
       "H8864WWG080Y080001O00000000000000000000001G040200420XG1040W10K8002002200I420100000G00L0490",
       "0000000000000WWC04MG4rf0WAD0000108GG440W00C0080C0a014800020G088u--"]⟩]

end ImportBinding.Charset
