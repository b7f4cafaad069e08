/-
This file holds the character sets of encodings that take one byte for a code point.
-/

import ImportBinding.Terminal.Charset.Basic

namespace ImportBinding.Charset

/-- Pages of at most 256 code points: the name, and what the page has beyond ASCII. -/
def pages : List (String × Charset) :=
  [("cp273",
    ⟨[(0x80, 0xA0), (0xAD, 0xAD)],
      ["¡¢£¤¥¦§¨©ª«¬®°±²³´µ¶·¸¹º»¼½¾¿ÀÁÂÃÄÅÆÇÈÉÊËÌÍÎÏÐÑÒÓÔÕÖ×ØÙÚÛÜÝÞßàáâãäåæçèéêëìíîïðñòóôõö",
       "÷øùúûüýþÿ‾"], []⟩),
   ("cp424",
    ⟨[(0x80, 0xA0), (0xAD, 0xAD), (0x5D0, 0x5EA)],
      ["¢£¤¥¦§¨©«¬®¯°±²³´µ¶·¸¹»¼½¾×÷‗"], []⟩),
   ("cp437",
    ⟨[(0xA0, 0xA0)],
      ["¡¢£¥ª«¬°±²µ·º»¼½¿ÄÅÆÇÉÑÖÜßàáâäåæçèéêëìíîïñòóôö÷ùúûüÿƒΓΘΣΦΩαδεπστφⁿ₧∙√∞∩≈≡≤≥⌐⌠⌡─│┌┐└┘",
       "├┤┬┴┼═║╒╓╔╕╖╗╘╙╚╛╜╝╞╟╠╡╢╣╤╥╦╧╨╩╪╫╬▀▄█▌▐░▒▓■"], []⟩),
   ("cp720",
    ⟨[(0x80, 0x81), (0x84, 0x84), (0x86, 0x86), (0x8D, 0x90), (0xA0, 0xA0), (0x621, 0x63A),
       (0x640, 0x652)],
      ["£¤«°²µ·»àâçèéêëîïôùûⁿ∙√≈≡─│┌┐└┘├┤┬┴┼═║╒╓╔╕╖╗╘╙╚╛╜╝╞╟╠╡╢╣╤╥╦╧╨╩╪╫╬▀▄█▌▐░▒▓■"], []⟩),
   ("cp737",
    ⟨[(0xA0, 0xA0)],
      ["°±²·÷ΆΈΉΊΌΎΏΑΒΓΔΕΖΗΘΙΚΛΜΝΞΟΠΡΣΤΥΦΧΨΩΪΫάέήίαβγδεζηθικλμνξοπρςστυφχψωϊϋόύώⁿ∙√≈≤≥─│┌┐└┘",
       "├┤┬┴┼═║╒╓╔╕╖╗╘╙╚╛╜╝╞╟╠╡╢╣╤╥╦╧╨╩╪╫╬▀▄█▌▐░▒▓■"], []⟩),
   ("cp775",
    ⟨[(0xA0, 0xA0), (0xAD, 0xAD)],
      ["¢£¤¦§©«¬®°±²³µ¶·¹»¼½¾ÄÅÆÉÓÕÖ×ØÜßäåæéóõö÷øüĀāĄąĆćČčĒēĖėĘęĢģĪīĮįĶķĻļŁłŃńŅņŌōŖŗŚśŠšŪūŲų",
       "ŹźŻżŽž’“”„∙─│┌┐└┘├┤┬┴┼═║╔╗╚╝╠╣╦╩╬▀▄█▌▐░▒▓■"], []⟩),
   ("cp850",
    ⟨[(0xA0, 0xA0), (0xAD, 0xAD)],
      ["¡¢£¤¥¦§¨©ª«¬®¯°±²³´µ¶·¸¹º»¼½¾¿ÀÁÂÃÄÅÆÇÈÉÊËÌÍÎÏÐÑÒÓÔÕÖ×ØÙÚÛÜÝÞßàáâãäåæçèéêëìíîïðñòóôõ",
       "ö÷øùúûüýþÿıƒ‗─│┌┐└┘├┤┬┴┼═║╔╗╚╝╠╣╦╩╬▀▄█░▒▓■"], []⟩),
   ("cp852",
    ⟨[(0xA0, 0xA0), (0xAD, 0xAD)],
      ["¤§¨«¬°´¸»ÁÂÄÇÉËÍÎÓÔÖ×ÚÜÝßáâäçéëíîóôö÷úüýĂăĄąĆćČčĎďĐđĘęĚěĹĺĽľŁłŃńŇňŐőŔŕŘřŚśŞşŠšŢţŤťŮů",
       "ŰűŹźŻżŽžˇ˘˙˛˝─│┌┐└┘├┤┬┴┼═║╔╗╚╝╠╣╦╩╬▀▄█░▒▓■"], []⟩),
   ("cp855",
    ⟨[(0xA0, 0xA0), (0xAD, 0xAD)],
      ["¤§«»ЁЂЃЄЅІЇЈЉЊЋЌЎЏАБВГДЕЖЗИЙКЛМНОПРСТУФХЦЧШЩЪЫЬЭЮЯабвгдежзийклмнопрстуфхцчшщъыьэюяёђ",
       "ѓєѕіїјљњћќўџ№─│┌┐└┘├┤┬┴┼═║╔╗╚╝╠╣╦╩╬▀▄█░▒▓■"], []⟩),
   ("cp856",
    ⟨[(0xA0, 0xA0), (0xAD, 0xAD), (0x5D0, 0x5EA)],
      ["¢£¤¥¦§¨©«¬®¯°±²³´µ¶·¸¹»¼½¾×÷‗─│┌┐└┘├┤┬┴┼═║╔╗╚╝╠╣╦╩╬▀▄█░▒▓■"], []⟩),
   ("cp857",
    ⟨[(0xA0, 0xA0), (0xAD, 0xAD)],
      ["¡¢£¤¥¦§¨©ª«¬®¯°±²³´µ¶·¸¹º»¼½¾¿ÀÁÂÃÄÅÆÇÈÉÊËÌÍÎÏÑÒÓÔÕÖ×ØÙÚÛÜßàáâãäåæçèéêëìíîïñòóôõö÷øù",
       "úûüÿĞğİıŞş─│┌┐└┘├┤┬┴┼═║╔╗╚╝╠╣╦╩╬▀▄█░▒▓■"], []⟩),
   ("cp858",
    ⟨[(0xA0, 0xA0), (0xAD, 0xAD)],
      ["¡¢£¤¥¦§¨©ª«¬®¯°±²³´µ¶·¸¹º»¼½¾¿ÀÁÂÃÄÅÆÇÈÉÊËÌÍÎÏÐÑÒÓÔÕÖ×ØÙÚÛÜÝÞßàáâãäåæçèéêëìíîïðñòóôõ",
       "ö÷øùúûüýþÿƒ‗€─│┌┐└┘├┤┬┴┼═║╔╗╚╝╠╣╦╩╬▀▄█░▒▓■"], []⟩),
   ("cp860",
    ⟨[(0xA0, 0xA0)],
      ["¡¢£ª«¬°±²µ·º»¼½¿ÀÁÂÃÇÈÉÊÌÍÑÒÓÔÕÙÚÜßàáâãçèéêìíñòóôõ÷ùúüΓΘΣΦΩαδεπστφⁿ₧∙√∞∩≈≡≤≥⌠⌡─│┌┐└┘",
       "├┤┬┴┼═║╒╓╔╕╖╗╘╙╚╛╜╝╞╟╠╡╢╣╤╥╦╧╨╩╪╫╬▀▄█▌▐░▒▓■"], []⟩),
   ("cp861",
    ⟨[(0xA0, 0xA0)],
      ["¡£«¬°±²µ·»¼½¿ÁÄÅÆÇÉÍÐÓÖØÚÜÝÞßàáâäåæçèéêëíðóôö÷øúûüýþƒΓΘΣΦΩαδεπστφⁿ₧∙√∞∩≈≡≤≥⌐⌠⌡─│┌┐└┘",
       "├┤┬┴┼═║╒╓╔╕╖╗╘╙╚╛╜╝╞╟╠╡╢╣╤╥╦╧╨╩╪╫╬▀▄█▌▐░▒▓■"], []⟩),
   ("cp862",
    ⟨[(0xA0, 0xA0), (0x5D0, 0x5EA)],
      ["¡¢£¥ª«¬°±²µ·º»¼½¿Ñßáíñó÷úƒΓΘΣΦΩαδεπστφⁿ₧∙√∞∩≈≡≤≥⌐⌠⌡─│┌┐└┘├┤┬┴┼═║╒╓╔╕╖╗╘╙╚╛╜╝╞╟╠╡╢╣╤╥",
       "╦╧╨╩╪╫╬▀▄█▌▐░▒▓■"], []⟩),
   ("cp863",
    ⟨[(0xA0, 0xA0)],
      ["¢£¤¦§¨«¬¯°±²³´µ¶·¸»¼½¾ÀÂÇÈÉÊËÎÏÔÙÛÜßàâçèéêëîïóô÷ùúûüƒΓΘΣΦΩαδεπστφ‗ⁿ∙√∞∩≈≡≤≥⌐⌠⌡─│┌┐└┘",
       "├┤┬┴┼═║╒╓╔╕╖╗╘╙╚╛╜╝╞╟╠╡╢╣╤╥╦╧╨╩╪╫╬▀▄█▌▐░▒▓■"], []⟩),
   ("cp864",
    ⟨[(0xA0, 0xA0), (0xAD, 0xAD), (0x61B, 0x61B), (0x61F, 0x61F), (0x640, 0x640), (0x651, 0x651),
       (0x660, 0x669), (0xFE7D, 0xFE7D), (0xFE80, 0xFE85), (0xFE8B, 0xFE8B), (0xFE8D, 0xFE8F),
       (0xFE91, 0xFE91), (0xFE93, 0xFE93), (0xFE95, 0xFE95), (0xFE97, 0xFE97), (0xFE99, 0xFE99),
       (0xFE9B, 0xFE9B), (0xFE9D, 0xFE9D), (0xFE9F, 0xFE9F), (0xFEA1, 0xFEA1), (0xFEA3, 0xFEA3),
       (0xFEA5, 0xFEA5), (0xFEA7, 0xFEA7), (0xFEA9, 0xFEA9), (0xFEAB, 0xFEAB), (0xFEAD, 0xFEAD),
       (0xFEAF, 0xFEAF), (0xFEB1, 0xFEB1), (0xFEB3, 0xFEB3), (0xFEB5, 0xFEB5), (0xFEB7, 0xFEB7),
       (0xFEB9, 0xFEB9), (0xFEBB, 0xFEBB), (0xFEBD, 0xFEBD), (0xFEBF, 0xFEBF), (0xFEC1, 0xFEC1),
       (0xFEC5, 0xFEC5), (0xFEC9, 0xFED1), (0xFED3, 0xFED3), (0xFED5, 0xFED5), (0xFED7, 0xFED7),
       (0xFED9, 0xFED9), (0xFEDB, 0xFEDB), (0xFEDD, 0xFEDD), (0xFEDF, 0xFEDF), (0xFEE1, 0xFEE1),
       (0xFEE3, 0xFEE3), (0xFEE5, 0xFEE5), (0xFEE7, 0xFEE7), (0xFEE9, 0xFEE9), (0xFEEB, 0xFEED),
       (0xFEEF, 0xFEF3), (0xFEF5, 0xFEF8), (0xFEFB, 0xFEFC)],
      ["¢£¤¦«¬°±·»¼½×÷βφ،٪∙√∞≈─│┌┐└┘├┤┬┴┼▒■"], []⟩),
   ("cp865",
    ⟨[(0xA0, 0xA0)],
      ["¡£¤ª«¬°±²µ·º¼½¿ÄÅÆÇÉÑÖØÜßàáâäåæçèéêëìíîïñòóôö÷øùúûüÿƒΓΘΣΦΩαδεπστφⁿ₧∙√∞∩≈≡≤≥⌐⌠⌡─│┌┐└┘",
       "├┤┬┴┼═║╒╓╔╕╖╗╘╙╚╛╜╝╞╟╠╡╢╣╤╥╦╧╨╩╪╫╬▀▄█▌▐░▒▓■"], []⟩),
   ("cp866",
    ⟨[(0xA0, 0xA0)],
      ["¤°·ЁЄЇЎАБВГДЕЖЗИЙКЛМНОПРСТУФХЦЧШЩЪЫЬЭЮЯабвгдежзийклмнопрстуфхцчшщъыьэюяёєїў№∙√─│┌┐└┘",
       "├┤┬┴┼═║╒╓╔╕╖╗╘╙╚╛╜╝╞╟╠╡╢╣╤╥╦╧╨╩╪╫╬▀▄█▌▐░▒▓■"], []⟩),
   ("cp869",
    ⟨[(0xA0, 0xA0), (0xAD, 0xAD)],
      ["£¦§¨©«¬°±²³·»½΄΅ΆΈΉΊΌΎΏΐΑΒΓΔΕΖΗΘΙΚΛΜΝΞΟΠΡΣΤΥΦΧΨΩΪΫάέήίΰαβγδεζηθικλμνξοπρςστυφχψωϊϋόύ",
       "ώ―‘’─│┌┐└┘├┤┬┴┼═║╔╗╚╝╠╣╦╩╬▀▄█░▒▓■"], []⟩),
   ("cp874",
    ⟨[(0xA0, 0xA0), (0xE31, 0xE31), (0xE34, 0xE3A), (0xE47, 0xE4E)],
      ["กขฃคฅฆงจฉชซฌญฎฏฐฑฒณดตถทธนบปผฝพฟภมยรฤลฦวศษสหฬอฮฯะาำ฿เแโใไๅๆ๏๐๑๒๓๔๕๖๗๘๙๚๛–—‘’“”•…€"], []⟩),
   ("cp875",
    ⟨[(0x80, 0xA0), (0xAD, 0xAD)],
      ["£¦§¨©«¬°±²³´»½΅Ά·ΈΉΊΌΎΏΐΑΒΓΔΕΖΗΘΙΚΛΜΝΞΟΠΡΣΤΥΦΧΨΩΪΫάέήίΰαβγδεζηθικλμνξοπρςστυφχψωϊϋόύ",
       "ώ―‘’"], []⟩),
   ("cp1006",
    ⟨[(0x80, 0xA0), (0xAD, 0xAD), (0x61B, 0x61B), (0x61F, 0x61F), (0xFB56, 0xFB56),
       (0xFB58, 0xFB58), (0xFB66, 0xFB66), (0xFB68, 0xFB68), (0xFB7A, 0xFB7A), (0xFB7C, 0xFB7C),
       (0xFB84, 0xFB84), (0xFB8A, 0xFB8A), (0xFB8C, 0xFB8C), (0xFB92, 0xFB92), (0xFB94, 0xFB94),
       (0xFB9E, 0xFB9E), (0xFBA6, 0xFBA6), (0xFBA8, 0xFBAA), (0xFBAE, 0xFBAE), (0xFBB0, 0xFBB0),
       (0xFE7C, 0xFE7D), (0xFE80, 0xFE81), (0xFE85, 0xFE85), (0xFE89, 0xFE8B), (0xFE8D, 0xFE8F),
       (0xFE91, 0xFE91), (0xFE93, 0xFE93), (0xFE95, 0xFE95), (0xFE97, 0xFE97), (0xFE99, 0xFE99),
       (0xFE9B, 0xFE9B), (0xFE9D, 0xFE9D), (0xFE9F, 0xFE9F), (0xFEA1, 0xFEA1), (0xFEA3, 0xFEA3),
       (0xFEA5, 0xFEA5), (0xFEA7, 0xFEA7), (0xFEA9, 0xFEA9), (0xFEAB, 0xFEAB), (0xFEAD, 0xFEAD),
       (0xFEAF, 0xFEAF), (0xFEB1, 0xFEB1), (0xFEB3, 0xFEB3), (0xFEB5, 0xFEB5), (0xFEB7, 0xFEB7),
       (0xFEB9, 0xFEB9), (0xFEBB, 0xFEBB), (0xFEBD, 0xFEBD), (0xFEBF, 0xFEBF), (0xFEC1, 0xFEC1),
       (0xFEC5, 0xFEC5), (0xFEC9, 0xFED1), (0xFED3, 0xFED3), (0xFED5, 0xFED5), (0xFED7, 0xFED7),
       (0xFED9, 0xFED9), (0xFEDB, 0xFEDB), (0xFEDD, 0xFEDD), (0xFEDF, 0xFEE1), (0xFEE3, 0xFEE3),
       (0xFEE5, 0xFEE5), (0xFEE7, 0xFEE7), (0xFEED, 0xFEED), (0xFEF1, 0xFEF3)],
      ["،۰۱۲۳۴۵۶۷۸۹"], []⟩),
   ("cp1026",
    ⟨[(0x80, 0xA0), (0xAD, 0xAD)],
      ["¡¢£¤¥¦§¨©ª«¬®¯°±²³´µ¶·¸¹º»¼½¾¿ÀÁÂÃÄÅÆÇÈÉÊËÌÍÎÏÑÒÓÔÕÖ×ØÙÚÛÜßàáâãäåæçèéêëìíîïñòóôõö÷øù",
       "úûüÿĞğİıŞş"], []⟩),
   ("cp1125",
    ⟨[(0xA0, 0xA0)],
      ["¤·ЁЄІЇАБВГДЕЖЗИЙКЛМНОПРСТУФХЦЧШЩЪЫЬЭЮЯабвгдежзийклмнопрстуфхцчшщъыьэюяёєіїҐґ№√─│┌┐└┘",
       "├┤┬┴┼═║╒╓╔╕╖╗╘╙╚╛╜╝╞╟╠╡╢╣╤╥╦╧╨╩╪╫╬▀▄█▌▐░▒▓■"], []⟩),
   ("cp1140",
    ⟨[(0x80, 0xA0), (0xAD, 0xAD)],
      ["¡¢£¥¦§¨©ª«¬®¯°±²³´µ¶·¸¹º»¼½¾¿ÀÁÂÃÄÅÆÇÈÉÊËÌÍÎÏÐÑÒÓÔÕÖ×ØÙÚÛÜÝÞßàáâãäåæçèéêëìíîïðñòóôõö",
       "÷øùúûüýþÿ€"], []⟩),
   ("cp1250",
    ⟨[(0xA0, 0xA0), (0xAD, 0xAD)],
      ["¤¦§¨©«¬®°±´µ¶·¸»ÁÂÄÇÉËÍÎÓÔÖ×ÚÜÝßáâäçéëíîóôö÷úüýĂăĄąĆćČčĎďĐđĘęĚěĹĺĽľŁłŃńŇňŐőŔŕŘřŚśŞşŠ",
       "šŢţŤťŮůŰűŹźŻżŽžˇ˘˙˛˝–—‘’‚“”„†‡•…‰‹›€™"], []⟩),
   ("cp1251",
    ⟨[(0xA0, 0xA0), (0xAD, 0xAD)],
      ["¤¦§©«¬®°±µ¶·»ЁЂЃЄЅІЇЈЉЊЋЌЎЏАБВГДЕЖЗИЙКЛМНОПРСТУФХЦЧШЩЪЫЬЭЮЯабвгдежзийклмнопрстуфхцчш",
       "щъыьэюяёђѓєѕіїјљњћќўџҐґ–—‘’‚“”„†‡•…‰‹›€№™"], []⟩),
   ("cp1252",
    ⟨[(0xA0, 0xA0), (0xAD, 0xAD)],
      ["¡¢£¤¥¦§¨©ª«¬®¯°±²³´µ¶·¸¹º»¼½¾¿ÀÁÂÃÄÅÆÇÈÉÊËÌÍÎÏÐÑÒÓÔÕÖ×ØÙÚÛÜÝÞßàáâãäåæçèéêëìíîïðñòóôõ",
       "ö÷øùúûüýþÿŒœŠšŸŽžƒˆ˜–—‘’‚“”„†‡•…‰‹›€™"], []⟩),
   ("cp1253",
    ⟨[(0xA0, 0xA0), (0xAD, 0xAD)],
      ["£¤¥¦§¨©«¬®°±²³µ¶·»½ƒ΄΅ΆΈΉΊΌΎΏΐΑΒΓΔΕΖΗΘΙΚΛΜΝΞΟΠΡΣΤΥΦΧΨΩΪΫάέήίΰαβγδεζηθικλμνξοπρςστυφχ",
       "ψωϊϋόύώ–—―‘’‚“”„†‡•…‰‹›€™"], []⟩),
   ("cp1254",
    ⟨[(0xA0, 0xA0), (0xAD, 0xAD)],
      ["¡¢£¤¥¦§¨©ª«¬®¯°±²³´µ¶·¸¹º»¼½¾¿ÀÁÂÃÄÅÆÇÈÉÊËÌÍÎÏÑÒÓÔÕÖ×ØÙÚÛÜßàáâãäåæçèéêëìíîïñòóôõö÷øù",
       "úûüÿĞğİıŒœŞşŠšŸƒˆ˜–—‘’‚“”„†‡•…‰‹›€™"], []⟩),
   ("cp1255",
    ⟨[(0xA0, 0xA0), (0xAD, 0xAD), (0x5B0, 0x5B9), (0x5BB, 0x5C3), (0x5D0, 0x5EA), (0x5F0, 0x5F4),
       (0x200E, 0x200F)],
      ["¡¢£¥¦§¨©«¬®¯°±²³´µ¶·¸¹»¼½¾¿×÷ƒˆ˜–—‘’‚“”„†‡•…‰‹›₪€™"], []⟩),
   ("cp1256",
    ⟨[(0xA0, 0xA0), (0xAD, 0xAD), (0x61B, 0x61B), (0x61F, 0x61F), (0x621, 0x63A), (0x640, 0x652),
       (0x679, 0x679), (0x67E, 0x67E), (0x686, 0x686), (0x688, 0x688), (0x691, 0x691),
       (0x698, 0x698), (0x6A9, 0x6A9), (0x6AF, 0x6AF), (0x6BA, 0x6BA), (0x6BE, 0x6BE),
       (0x6C1, 0x6C1), (0x6D2, 0x6D2), (0x200C, 0x200F)],
      ["¢£¤¥¦§¨©«¬®¯°±²³´µ¶·¸¹»¼½¾×àâçèéêëîïô÷ùûüŒœƒˆ،–—‘’‚“”„†‡•…‰‹›€™"], []⟩),
   ("cp1257",
    ⟨[(0xA0, 0xA0), (0xAD, 0xAD)],
      ["¢£¤¦§¨©«¬®¯°±²³´µ¶·¸¹»¼½¾ÄÅÆÉÓÕÖ×ØÜßäåæéóõö÷øüĀāĄąĆćČčĒēĖėĘęĢģĪīĮįĶķĻļŁłŃńŅņŌōŖŗŚśŠš",
       "ŪūŲųŹźŻżŽžˇ˙˛–—‘’‚“”„†‡•…‰‹›€™"], []⟩),
   ("cp1258",
    ⟨[(0xA0, 0xA0), (0xAD, 0xAD), (0x300, 0x301), (0x303, 0x303), (0x309, 0x309), (0x323, 0x323)],
      ["¡¢£¤¥¦§¨©ª«¬®¯°±²³´µ¶·¸¹º»¼½¾¿ÀÁÂÄÅÆÇÈÉÊËÍÎÏÑÓÔÖ×ØÙÚÛÜßàáâäåæçèéêëíîïñóôö÷øùúûüÿĂăĐđ",
       "ŒœŸƒƠơƯưˆ˜–—‘’‚“”„†‡•…‰‹›₫€™"], []⟩),
   ("hp_roman8",
    ⟨[(0x80, 0xA0)],
      ["¡¢£¤¥§¨ª«¯°±´µ¶·º»¼½¾¿ÀÁÂÃÄÅÆÇÈÉÊËÌÍÎÏÐÑÒÓÔÕÖØÙÚÛÜÝÞßàáâãäåæçèéêëìíîïðñòóôõöøùúûüýþÿ",
       "ŠšŸƒˆˋ˜—₤■"], []⟩),
   ("iso8859_2",
    ⟨[(0x80, 0xA0), (0xAD, 0xAD)],
      ["¤§¨°´¸ÁÂÄÇÉËÍÎÓÔÖ×ÚÜÝßáâäçéëíîóôö÷úüýĂăĄąĆćČčĎďĐđĘęĚěĹĺĽľŁłŃńŇňŐőŔŕŘřŚśŞşŠšŢţŤťŮůŰűŹ",
       "źŻżŽžˇ˘˙˛˝"], []⟩),
   ("iso8859_3",
    ⟨[(0x80, 0xA0), (0xAD, 0xAD)],
      ["£¤§¨°²³´µ·¸½ÀÁÂÄÇÈÉÊËÌÍÎÏÑÒÓÔÖ×ÙÚÛÜßàáâäçèéêëìíîïñòóôö÷ùúûüĈĉĊċĜĝĞğĠġĤĥĦħİıĴĵŜŝŞşŬŭŻ",
       "ż˘˙"], []⟩),
   ("iso8859_4",
    ⟨[(0x80, 0xA0), (0xAD, 0xAD)],
      ["¤§¨¯°´¸ÁÂÃÄÅÆÉËÍÎÔÕÖ×ØÚÛÜßáâãäåæéëíîôõö÷øúûüĀāĄąČčĐđĒēĖėĘęĢģĨĩĪīĮįĶķĸĻļŅņŊŋŌōŖŗŠšŦŧŨ",
       "ũŪūŲųŽžˇ˙˛"], []⟩),
   ("iso8859_5",
    ⟨[(0x80, 0xA0), (0xAD, 0xAD)],
      ["§ЁЂЃЄЅІЇЈЉЊЋЌЎЏАБВГДЕЖЗИЙКЛМНОПРСТУФХЦЧШЩЪЫЬЭЮЯабвгдежзийклмнопрстуфхцчшщъыьэюяёђѓєѕ",
       "іїјљњћќўџ№"], []⟩),
   ("iso8859_6",
    ⟨[(0x80, 0xA0), (0xAD, 0xAD), (0x61B, 0x61B), (0x61F, 0x61F), (0x621, 0x63A), (0x640, 0x652)],
      ["¤،"], []⟩),
   ("iso8859_7",
    ⟨[(0x80, 0xA0), (0xAD, 0xAD)],
      ["£¦§¨©«¬°±²³·»½ͺ΄΅ΆΈΉΊΌΎΏΐΑΒΓΔΕΖΗΘΙΚΛΜΝΞΟΠΡΣΤΥΦΧΨΩΪΫάέήίΰαβγδεζηθικλμνξοπρςστυφχψωϊϋό",
       "ύώ―‘’€₯"], []⟩),
   ("iso8859_8",
    ⟨[(0x80, 0xA0), (0xAD, 0xAD), (0x5D0, 0x5EA), (0x200E, 0x200F)],
      ["¢£¤¥¦§¨©«¬®¯°±²³´µ¶·¸¹»¼½¾×÷‗"], []⟩),
   ("iso8859_9",
    ⟨[(0x80, 0xA0), (0xAD, 0xAD)],
      ["¡¢£¤¥¦§¨©ª«¬®¯°±²³´µ¶·¸¹º»¼½¾¿ÀÁÂÃÄÅÆÇÈÉÊËÌÍÎÏÑÒÓÔÕÖ×ØÙÚÛÜßàáâãäåæçèéêëìíîïñòóôõö÷øù",
       "úûüÿĞğİıŞş"], []⟩),
   ("iso8859_10",
    ⟨[(0x80, 0xA0), (0xAD, 0xAD)],
      ["§°·ÁÂÃÄÅÆÉËÍÎÏÐÓÔÕÖØÚÛÜÝÞßáâãäåæéëíîïðóôõöøúûüýþĀāĄąČčĐđĒēĖėĘęĢģĨĩĪīĮįĶķĸĻļŅņŊŋŌōŠšŦ",
       "ŧŨũŪūŲųŽž―"], []⟩),
   ("iso8859_11",
    ⟨[(0x80, 0xA0), (0xE31, 0xE31), (0xE34, 0xE3A), (0xE47, 0xE4E)],
      ["กขฃคฅฆงจฉชซฌญฎฏฐฑฒณดตถทธนบปผฝพฟภมยรฤลฦวศษสหฬอฮฯะาำ฿เแโใไๅๆ๏๐๑๒๓๔๕๖๗๘๙๚๛"], []⟩),
   ("iso8859_13",
    ⟨[(0x80, 0xA0), (0xAD, 0xAD)],
      ["¢£¤¦§©«¬®°±²³µ¶·¹»¼½¾ÄÅÆÉÓÕÖ×ØÜßäåæéóõö÷øüĀāĄąĆćČčĒēĖėĘęĢģĪīĮįĶķĻļŁłŃńŅņŌōŖŗŚśŠšŪūŲų",
       "ŹźŻżŽž’“”„"], []⟩),
   ("iso8859_14",
    ⟨[(0x80, 0xA0), (0xAD, 0xAD)],
      ["£§©®¶ÀÁÂÃÄÅÆÇÈÉÊËÌÍÎÏÑÒÓÔÕÖØÙÚÛÜÝßàáâãäåæçèéêëìíîïñòóôõöøùúûüýÿĊċĠġŴŵŶŷŸḂḃḊḋḞḟṀṁṖṗṠṡ",
       "ṪṫẀẁẂẃẄẅỲỳ"], []⟩),
   ("iso8859_15",
    ⟨[(0x80, 0xA0), (0xAD, 0xAD)],
      ["¡¢£¥§©ª«¬®¯°±²³µ¶·¹º»¿ÀÁÂÃÄÅÆÇÈÉÊËÌÍÎÏÐÑÒÓÔÕÖ×ØÙÚÛÜÝÞßàáâãäåæçèéêëìíîïðñòóôõö÷øùúûüý",
       "þÿŒœŠšŸŽž€"], []⟩),
   ("iso8859_16",
    ⟨[(0x80, 0xA0), (0xAD, 0xAD)],
      ["§©«°±¶·»ÀÁÂÄÆÇÈÉÊËÌÍÎÏÒÓÔÖÙÚÛÜßàáâäæçèéêëìíîïòóôöùúûüÿĂăĄąĆćČčĐđĘęŁłŃńŐőŒœŚśŠšŰűŸŹźŻ",
       "żŽžȘșȚț”„€"], []⟩),
   ("koi8_r",
    ⟨[(0xA0, 0xA0)],
      ["©°²·÷ЁАБВГДЕЖЗИЙКЛМНОПРСТУФХЦЧШЩЪЫЬЭЮЯабвгдежзийклмнопрстуфхцчшщъыьэюяё∙√≈≤≥⌠⌡─│┌┐└┘",
       "├┤┬┴┼═║╒╓╔╕╖╗╘╙╚╛╜╝╞╟╠╡╢╣╤╥╦╧╨╩╪╫╬▀▄█▌▐░▒▓■"], []⟩),
   ("koi8_t",
    ⟨[(0xAD, 0xAD)],
      ["¤¦§©«¬®°±²¶·»ЁАБВГДЕЖЗИЙКЛМНОПРСТУФХЦЧШЩЪЫЬЭЮЯабвгдежзийклмнопрстуфхцчшщъыьэюяёҒғҚқҲ",
       "ҳҶҷӢӣӮӯ–—‘’‚“”„†‡•…‰‹›№™"], []⟩),
   ("koi8_u",
    ⟨[(0xA0, 0xA0)],
      ["©°²·÷ЁЄІЇАБВГДЕЖЗИЙКЛМНОПРСТУФХЦЧШЩЪЫЬЭЮЯабвгдежзийклмнопрстуфхцчшщъыьэюяёєіїҐґ∙√≈≤≥",
       "⌠⌡─│┌┐└┘├┤┬┴┼═║╒╔╗╘╙╚╛╝╞╟╠╡╣╦╧╨╩╪╬▀▄█▌▐░▒▓■"], []⟩),
   ("kz1048",
    ⟨[(0xA0, 0xA0), (0xAD, 0xAD)],
      ["¤¦§©«¬®°±µ¶·»ЁЂЃІЉЊЏАБВГДЕЖЗИЙКЛМНОПРСТУФХЦЧШЩЪЫЬЭЮЯабвгдежзийклмнопрстуфхцчшщъыьэюя",
       "ёђѓіљњџҒғҚқҢңҮүҰұҺһӘәӨө–—‘’‚“”„†‡•…‰‹›€№™"], []⟩),
   ("mac_arabic",
    ⟨[(0xA0, 0xA0), (0x61B, 0x61B), (0x61F, 0x61F), (0x621, 0x63A), (0x640, 0x652), (0x660, 0x669),
       (0x679, 0x679), (0x67E, 0x67E), (0x686, 0x686), (0x688, 0x688), (0x691, 0x691),
       (0x698, 0x698), (0x6A4, 0x6A4), (0x6AF, 0x6AF), (0x6BA, 0x6BA), (0x6D2, 0x6D2),
       (0x6D5, 0x6D5)],
      ["«»ÄÇÉÑÖÜàáâäçèéêëíîïñóôö÷ùúûü،٪…❊"], []⟩),
   ("mac_croatian",
    ⟨[(0xA0, 0xA0), (0xF8FF, 0xF8FF)],
      ["¡¢£§¨©ª«¬®¯°±´µ¶·¸º»¿ÀÁÂÃÄÅÆÇÈÉÊËÌÍÎÏÑÒÓÔÕÖØÙÚÛÜßàáâãäåæçèéêëìíîïñòóôõö÷øùúûüĆćČčĐđı",
       "ŒœŠšŽžƒˆˇ˚˜Ωπ–—‘’‚“”„†•…‰‹›⁄€™∂∆∏∑√∞∫≈≠≤≥◊"], []⟩),
   ("mac_cyrillic",
    ⟨[(0xA0, 0xA0)],
      ["£§©«¬®°±µ¶»÷ƒЁЂЃЄЅІЇЈЉЊЋЌЎЏАБВГДЕЖЗИЙКЛМНОПРСТУФХЦЧШЩЪЫЬЭЮЯабвгдежзийклмнопрстуфхцчш",
       "щъыьэюяёђѓєѕіїјљњћќўџҐґ–—‘’“”„†•…€№™∆√∞≈≠≤≥"], []⟩),
   ("mac_farsi",
    ⟨[(0xA0, 0xA0), (0x61B, 0x61B), (0x61F, 0x61F), (0x621, 0x63A), (0x640, 0x652), (0x679, 0x679),
       (0x67E, 0x67E), (0x686, 0x686), (0x688, 0x688), (0x691, 0x691), (0x698, 0x698),
       (0x6A4, 0x6A4), (0x6AF, 0x6AF), (0x6BA, 0x6BA), (0x6D2, 0x6D2), (0x6D5, 0x6D5)],
      ["«»ÄÇÉÑÖÜàáâäçèéêëíîïñóôö÷ùúûü،٪۰۱۲۳۴۵۶۷۸۹…❊"], []⟩),
   ("mac_greek",
    ⟨[(0xA0, 0xA0), (0xAD, 0xAD)],
      ["£¥¦§¨©«¬®°±²³·¹»½ÄÉÖÜßàâäçèéêëîïôö÷ùûüœ΄΅ΆΈΉΊΌΎΏΐΑΒΓΔΕΖΗΘΙΚΛΜΝΞΟΠΡΣΤΥΦΧΨΩΪΫάέήίΰαβγδ",
       "εζηθικλμνξοπρςστυφχψωϊϋόύώ–―‘’“”†•…‰€™≈≠≤≥"], []⟩),
   ("mac_iceland",
    ⟨[(0xA0, 0xA0), (0xF8FF, 0xF8FF)],
      ["¡¢£¥§¨©ª«¬®¯°±´µ¶·¸º»¿ÀÁÂÃÄÅÆÇÈÉÊËÌÍÎÏÐÑÒÓÔÕÖØÙÚÛÜÝÞßàáâãäåæçèéêëìíîïðñòóôõö÷øùúûüýþ",
       "ÿıŒœŸƒˆˇ˘˙˚˛˜˝Ωπ–—‘’‚“”„•…‰⁄€™∂∆∏∑√∞∫≈≠≤≥◊"], []⟩),
   ("mac_latin2",
    ⟨[(0xA0, 0xA0)],
      ["£§¨©«¬®°¶»ÁÄÉÍÓÔÕÖÚÜÝßáäéíóôõö÷úüýĀāĄąĆćČčĎďĒēĖėĘęĚěĢģĪīĮįĶķĹĺĻļĽľŁłŃńŅņŇňŌōŐőŔŕŖŗŘř",
       "ŚśŠšŤťŪūŮůŰűŲųŹźŻżŽžˇ–—‘’‚“”„†•…‹›™∂∆∑√≠≤≥◊"], []⟩),
   ("mac_roman",
    ⟨[(0xA0, 0xA0), (0xF8FF, 0xF8FF)],
      ["¡¢£¥§¨©ª«¬®¯°±´µ¶·¸º»¿ÀÁÂÃÄÅÆÇÈÉÊËÌÍÎÏÑÒÓÔÕÖØÙÚÛÜßàáâãäåæçèéêëìíîïñòóôõö÷øùúûüÿıŒœŸƒ",
       "ˆˇ˘˙˚˛˜˝Ωπ–—‘’‚“”„†‡•…‰‹›⁄€™∂∆∏∑√∞∫≈≠≤≥◊ﬁﬂ"], []⟩),
   ("mac_romanian",
    ⟨[(0xA0, 0xA0), (0xF8FF, 0xF8FF)],
      ["¡¢£¥§¨©ª«¬®¯°±´µ¶·¸º»¿ÀÁÂÃÄÅÇÈÉÊËÌÍÎÏÑÒÓÔÕÖÙÚÛÜßàáâãäåçèéêëìíîïñòóôõö÷ùúûüÿĂăıŒœŸƒȘș",
       "Țțˆˇ˘˙˚˛˜˝Ωπ–—‘’‚“”„†‡•…‰‹›⁄€™∂∆∏∑√∞∫≈≠≤≥◊"], []⟩),
   ("mac_turkish",
    ⟨[(0xA0, 0xA0), (0xF8A0, 0xF8A0), (0xF8FF, 0xF8FF)],
      ["¡¢£¥§¨©ª«¬®¯°±´µ¶·¸º»¿ÀÁÂÃÄÅÆÇÈÉÊËÌÍÎÏÑÒÓÔÕÖØÙÚÛÜßàáâãäåæçèéêëìíîïñòóôõö÷øùúûüÿĞğİıŒ",
       "œŞşŸƒˆˇ˘˙˚˛˜˝Ωπ–—‘’‚“”„†‡•…‰™∂∆∏∑√∞∫≈≠≤≥◊"], []⟩),
   ("palmos",
    ⟨[(0x81, 0x81), (0x9B, 0x9B), (0x9D, 0x9E), (0xA0, 0xA0), (0xAD, 0xAD)],
      ["¡¢£¤¥¦§¨©ª«¬®¯°±²³´µ¶·¸¹º»¼½¾¿ÀÁÂÃÄÅÆÇÈÉÊËÌÍÎÏÐÑÒÓÔÕÖ×ØÙÚÛÜÝÞßàáâãäåæçèéêëìíîïðñòóôõ",
       "ö÷øùúûüýþÿŒœŠšŸƒˆ˜–—‘’‚“”„†‡•…‰‹€™♠♣♥♦"], []⟩),
   ("ptcp154",
    ⟨[(0xA0, 0xA0)],
      ["§©«¬®°¶·»ЁІЈЎАБВГДЕЖЗИЙКЛМНОПРСТУФХЦЧШЩЪЫЬЭЮЯабвгдежзийклмнопрстуфхцчшщъыьэюяёіјўҒғҖ",
       "җҘҙҚқҜҝҠҡҢңҪҫҮүҰұҲҳҶҷҸҹҺһӘәӢӣӨөӮӯ–—‘’“”„•…№"], []⟩),
   ("tis_620",
    ⟨[(0x80, 0x9F), (0xE31, 0xE31), (0xE34, 0xE3A), (0xE47, 0xE4E)],
      ["กขฃคฅฆงจฉชซฌญฎฏฐฑฒณดตถทธนบปผฝพฟภมยรฤลฦวศษสหฬอฮฯะาำ฿เแโใไๅๆ๏๐๑๒๓๔๕๖๗๘๙๚๛"], []⟩)]

end ImportBinding.Charset
