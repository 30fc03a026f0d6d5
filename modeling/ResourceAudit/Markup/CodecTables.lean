/-!
# Tables of codecs

Codecs by name, what other names they go by, and the characters of their bytes. Lists of
names are kept as lines of words; a word of a mapping joins a name and that of its codec by an
equals sign.
-/

namespace ResourceAudit.Markup.Registry

/-- Other names of codecs. -/
def aliasLines : List String := [
  "ansi_x3.4_1968=ascii ansi_x3.4_1986=ascii ansi_x3_4_1968=ascii arabic=iso8859_6",
  "asmo_708=iso8859_6 base64=base64_codec base_64=base64_codec big5_hkscs=big5hkscs",
  "big5_tw=big5 bz2=bz2_codec chinese=gb2312 cp1051=hp_roman8 cp1361=johab cp154=ptcp154",
  "cp367=ascii cp65001=utf_8 cp819=latin_1 cp866u=cp1125 cp936=gbk cp_gr=cp869 cp_is=cp861",
  "csascii=ascii csbig5=big5 csibm037=cp037 csibm1026=cp1026 csibm273=cp273 csibm424=cp424",
  "csibm500=cp500 csibm855=cp855 csibm857=cp857 csibm858=cp858 csibm860=cp860 csibm861=cp861",
  "csibm863=cp863 csibm864=cp864 csibm865=cp865 csibm866=cp866 csibm869=cp869",
  "csiso2022jp=iso2022_jp csiso2022kr=iso2022_kr csiso58gb231280=gb2312 csisolatin1=latin_1",
  "csisolatin2=iso8859_2 csisolatin3=iso8859_3 csisolatin4=iso8859_4 csisolatin5=iso8859_9",
  "csisolatin6=iso8859_10 csisolatinarabic=iso8859_6 csisolatincyrillic=iso8859_5",
  "csisolatingreek=iso8859_7 csisolatinhebrew=iso8859_8 cskoi8r=koi8_r cspc775baltic=cp775",
  "cspc850multilingual=cp850 cspc862latinhebrew=cp862 cspc8codepage437=cp437 cspcp852=cp852",
  "csptcp154=ptcp154 csshiftjis=shift_jis cyrillic=iso8859_5 cyrillic_asian=ptcp154",
  "ebcdic_cp_be=cp500 ebcdic_cp_ca=cp037 ebcdic_cp_ch=cp500 ebcdic_cp_he=cp424",
  "ebcdic_cp_nl=cp037 ebcdic_cp_us=cp037 ebcdic_cp_wt=cp037 ecma_114=iso8859_6",
  "ecma_118=iso8859_7 elot_928=iso8859_7 euc_cn=gb2312 euc_jis2004=euc_jis_2004 euccn=gb2312",
  "eucgb2312_cn=gb2312 eucjis2004=euc_jis_2004 eucjisx0213=euc_jisx0213 eucjp=euc_jp",
  "euckr=euc_kr gb18030_2000=gb18030 gb2312_1980=gb2312 gb2312_80=gb2312 greek=iso8859_7",
  "greek8=iso8859_7 hebrew=iso8859_8 hex=hex_codec hkscs=big5hkscs hz_gb=hz hz_gb_2312=hz",
  "hzgb=hz ibm037=cp037 ibm039=cp037 ibm1026=cp1026 ibm1051=hp_roman8 ibm1125=cp1125",
  "ibm1140=cp1140 ibm273=cp273 ibm367=ascii ibm424=cp424 ibm437=cp437 ibm500=cp500",
  "ibm775=cp775 ibm819=latin_1 ibm850=cp850 ibm852=cp852 ibm855=cp855 ibm857=cp857",
  "ibm858=cp858 ibm860=cp860 ibm861=cp861 ibm862=cp862 ibm863=cp863 ibm864=cp864 ibm865=cp865",
  "ibm866=cp866 ibm869=cp869 iso2022jp=iso2022_jp iso2022jp_1=iso2022_jp_1",
  "iso2022jp_2=iso2022_jp_2 iso2022jp_2004=iso2022_jp_2004 iso2022jp_3=iso2022_jp_3",
  "iso2022jp_ext=iso2022_jp_ext iso2022kr=iso2022_kr iso646_us=ascii iso8859=latin_1",
  "iso8859_1=latin_1 iso_2022_jp=iso2022_jp iso_2022_jp_1=iso2022_jp_1",
  "iso_2022_jp_2=iso2022_jp_2 iso_2022_jp_2004=iso2022_jp_2004 iso_2022_jp_3=iso2022_jp_3",
  "iso_2022_jp_ext=iso2022_jp_ext iso_2022_kr=iso2022_kr iso_646.irv_1991=ascii",
  "iso_8859_1=latin_1 iso_8859_10=iso8859_10 iso_8859_10_1992=iso8859_10",
  "iso_8859_11=iso8859_11 iso_8859_11_2001=iso8859_11 iso_8859_13=iso8859_13",
  "iso_8859_14=iso8859_14 iso_8859_14_1998=iso8859_14 iso_8859_15=iso8859_15",
  "iso_8859_16=iso8859_16 iso_8859_16_2001=iso8859_16 iso_8859_1_1987=latin_1",
  "iso_8859_2=iso8859_2 iso_8859_2_1987=iso8859_2 iso_8859_3=iso8859_3",
  "iso_8859_3_1988=iso8859_3 iso_8859_4=iso8859_4 iso_8859_4_1988=iso8859_4",
  "iso_8859_5=iso8859_5 iso_8859_5_1988=iso8859_5 iso_8859_6=iso8859_6",
  "iso_8859_6_1987=iso8859_6 iso_8859_7=iso8859_7 iso_8859_7_1987=iso8859_7",
  "iso_8859_8=iso8859_8 iso_8859_8_1988=iso8859_8 iso_8859_9=iso8859_9",
  "iso_8859_9_1989=iso8859_9 iso_celtic=iso8859_14 iso_ir_100=latin_1 iso_ir_101=iso8859_2",
  "iso_ir_109=iso8859_3 iso_ir_110=iso8859_4 iso_ir_126=iso8859_7 iso_ir_127=iso8859_6",
  "iso_ir_138=iso8859_8 iso_ir_144=iso8859_5 iso_ir_148=iso8859_9 iso_ir_157=iso8859_10",
  "iso_ir_166=tis_620 iso_ir_199=iso8859_14 iso_ir_226=iso8859_16 iso_ir_58=gb2312",
  "iso_ir_6=ascii jisx0213=euc_jis_2004 korean=euc_kr ks_c_5601=euc_kr ks_c_5601_1987=euc_kr",
  "ks_x_1001=euc_kr ksc5601=euc_kr ksx1001=euc_kr kz_1048=kz1048 l1=latin_1 l10=iso8859_16",
  "l2=iso8859_2 l3=iso8859_3 l4=iso8859_4 l5=iso8859_9 l6=iso8859_10 l7=iso8859_13",
  "l8=iso8859_14 l9=iso8859_15 latin=latin_1 latin1=latin_1 latin10=iso8859_16",
  "latin2=iso8859_2 latin3=iso8859_3 latin4=iso8859_4 latin5=iso8859_9 latin6=iso8859_10",
  "latin7=iso8859_13 latin8=iso8859_14 latin9=iso8859_15 mac_centeuro=mac_latin2",
  "maccentraleurope=mac_latin2 maccyrillic=mac_cyrillic macgreek=mac_greek",
  "maciceland=mac_iceland macintosh=mac_roman maclatin2=mac_latin2 macroman=mac_roman",
  "macturkish=mac_turkish ms1361=johab ms932=cp932 ms936=gbk ms949=cp949 ms950=cp950",
  "ms_kanji=cp932 mskanji=cp932 pt154=ptcp154 quopri=quopri_codec",
  "quoted_printable=quopri_codec quotedprintable=quopri_codec r8=hp_roman8 rk1048=kz1048",
  "roman8=hp_roman8 rot13=rot_13 ruscii=cp1125 s_jis=shift_jis s_jis_2004=shift_jis_2004",
  "s_jisx0213=shift_jisx0213 shiftjis=shift_jis shiftjis2004=shift_jis_2004",
  "shiftjisx0213=shift_jisx0213 sjis=shift_jis sjis_2004=shift_jis_2004",
  "sjisx0213=shift_jisx0213 strk1048_2002=kz1048 thai=iso8859_11 tis620=tis_620",
  "tis_620_0=tis_620 tis_620_2529_0=tis_620 tis_620_2529_1=tis_620 u16=utf_16 u32=utf_32",
  "u7=utf_7 u8=utf_8 u_jis=euc_jp uhc=cp949 ujis=euc_jp unicode_1_1_utf_7=utf_7",
  "unicodebigunmarked=utf_16_be unicodelittleunmarked=utf_16_le us=ascii us_ascii=ascii",
  "utf=utf_8 utf16=utf_16 utf32=utf_32 utf7=utf_7 utf8=utf_8 utf8_ucs2=utf_8 utf8_ucs4=utf_8",
  "utf_16be=utf_16_be utf_16le=utf_16_le utf_32be=utf_32_be utf_32le=utf_32_le uu=uu_codec",
  "windows_1250=cp1250 windows_1251=cp1251 windows_1252=cp1252 windows_1253=cp1253",
  "windows_1254=cp1254 windows_1255=cp1255 windows_1256=cp1256 windows_1257=cp1257",
  "windows_1258=cp1258 x_mac_japanese=shift_jis x_mac_korean=euc_kr x_mac_simp_chinese=gb2312",
  "x_mac_trad_chinese=big5 zip=zlib_codec zlib=zlib_codec"]

/-- Codecs whose characters are not one byte each. -/
def multibyteLines : List String := [
  "big5 big5hkscs cp932 cp949 cp950 euc_jis_2004 euc_jisx0213 euc_jp euc_kr gb18030 gb2312 gbk",
  "iso2022_kr johab shift_jis shift_jis_2004 shift_jisx0213 utf_16 utf_16_be utf_16_le utf_32",
  "utf_32_be utf_32_le utf_7"]

/-- Codecs that are none of text. -/
def notTextLines : List String := [
  "base64_codec bz2_codec hex_codec quopri_codec rot_13 uu_codec zlib_codec"]

/-- Codecs in which markup is not written in the bytes of ASCII. -/
def foreignLines : List String := [
  "cp037 cp1026 cp1140 cp273 cp424 cp500 cp864 cp875 mac_arabic mac_farsi"]

/-- Codecs that know no single bytes but those of ASCII. -/
def asciiLines : List String := [
  "ascii iso2022_jp iso2022_jp_1 iso2022_jp_2 iso2022_jp_2004 iso2022_jp_3 iso2022_jp_ext",
  "utf_8 utf_8_sig"]

/-- Codecs in which a byte is the character of the same number. -/
def latinLines : List String := [
  "charmap iso8859_1 latin_1 raw_unicode_escape unicode_escape"]

/-- The other codecs, each with the byte from which its characters differ from the
numbers of bytes, and with the characters from there on. U+FFFD is none of them. -/
def tables : List (String × Nat × List String) := [
  ("cp1006", 0xA0, [
    "\u00A0۰۱۲۳۴۵۶۷۸۹،\u061B\u00AD\u061F\uFE81\uFE8D\uFE8E\uFE8E\uFE8F\uFE91\uFB56\uFB58",
    "\uFE93\uFE95\uFE97\uFB66\uFB68\uFE99\uFE9B\uFE9D\uFE9F\uFB7A\uFB7C\uFEA1\uFEA3\uFEA5",
    "\uFEA7\uFEA9\uFB84\uFEAB\uFEAD\uFB8C\uFEAF\uFB8A\uFEB1\uFEB3\uFEB5\uFEB7\uFEB9\uFEBB",
    "\uFEBD\uFEBF\uFEC1\uFEC5\uFEC9\uFECA\uFECB\uFECC\uFECD\uFECE\uFECF\uFED0\uFED1\uFED3",
    "\uFED5\uFED7\uFED9\uFEDB\uFB92\uFB94\uFEDD\uFEDF\uFEE0\uFEE1\uFEE3\uFB9E\uFEE5\uFEE7",
    "\uFE85\uFEED\uFBA6\uFBA8\uFBA9\uFBAA\uFE80\uFE89\uFE8A\uFE8B\uFEF1\uFEF2\uFEF3\uFBB0",
    "\uFBAE\uFE7C\uFE7D"]),
  ("cp1125", 0x80, [
    "АБВГДЕЖЗИЙКЛМНОПРСТУФХЦЧШЩЪЫЬЭЮЯабвгдежзийклмноп░▒▓│┤╡╢╖╕╣║╗╝╜╛┐└┴┬├─┼╞╟╚╔╩╦╠═╬╧╨╤╥╙╘╒╓╫",
    "╪┘┌█▄▌▐▀рстуфхцчшщъыьэюяЁёҐґЄєІіЇї·√№¤■\u00A0"]),
  ("cp1250", 0x80, [
    "€\uFFFD‚\uFFFD„…†‡\uFFFD‰Š‹ŚŤŽŹ\uFFFD‘’“”•–—\uFFFD™š›śťžź\u00A0\u02C7\u02D8Ł¤Ą¦§\u00A8©Ş",
    "«¬\u00AD®Ż°±\u02DBł\u00B4µ¶·\u00B8ąş»Ľ\u02DDľżŔÁÂĂÄĹĆÇČÉĘËĚÍÎĎĐŃŇÓÔŐÖ×ŘŮÚŰÜÝŢßŕáâăäĺćçčé",
    "ęëěíîďđńňóôőö÷řůúűüýţ\u02D9"]),
  ("cp1251", 0x80, [
    "ЂЃ‚ѓ„…†‡€‰Љ‹ЊЌЋЏђ‘’“”•–—\uFFFD™љ›њќћџ\u00A0ЎўЈ¤Ґ¦§Ё©Є«¬\u00AD®Ї°±Ііґµ¶·ё№є»јЅѕїАБВГДЕЖЗИ",
    "ЙКЛМНОПРСТУФХЦЧШЩЪЫЬЭЮЯабвгдежзийклмнопрстуфхцчшщъыьэюя"]),
  ("cp1252", 0x80, [
    "€\uFFFD‚ƒ„…†‡\u02C6‰Š‹Œ\uFFFDŽ\uFFFD\uFFFD‘’“”•–—\u02DC™š›œ\uFFFDžŸ\u00A0¡¢£¤¥¦§\u00A8©ª",
    "«¬\u00AD®\u00AF°±²³\u00B4µ¶·\u00B8¹º»¼½¾¿ÀÁÂÃÄÅÆÇÈÉÊËÌÍÎÏÐÑÒÓÔÕÖ×ØÙÚÛÜÝÞßàáâãäåæçèéêëìíî",
    "ïðñòóôõö÷øùúûüýþÿ"]),
  ("cp1253", 0x80, [
    "€\uFFFD‚ƒ„…†‡\uFFFD‰\uFFFD‹\uFFFD\uFFFD\uFFFD\uFFFD\uFFFD‘’“”•–—\uFFFD™\uFFFD›\uFFFD",
    "\uFFFD\uFFFD\uFFFD\u00A0\u0385Ά£¤¥¦§\u00A8©\uFFFD«¬\u00AD®―°±²³\u0384µ¶·ΈΉΊ»Ό½ΎΏΐΑΒΓΔΕΖΗ",
    "ΘΙΚΛΜΝΞΟΠΡ\uFFFDΣΤΥΦΧΨΩΪΫάέήίΰαβγδεζηθικλμνξοπρςστυφχψωϊϋόύώ\uFFFD"]),
  ("cp1254", 0x80, [
    "€\uFFFD‚ƒ„…†‡\u02C6‰Š‹Œ\uFFFD\uFFFD\uFFFD\uFFFD‘’“”•–—\u02DC™š›œ\uFFFD\uFFFDŸ\u00A0¡¢£¤¥",
    "¦§\u00A8©ª«¬\u00AD®\u00AF°±²³\u00B4µ¶·\u00B8¹º»¼½¾¿ÀÁÂÃÄÅÆÇÈÉÊËÌÍÎÏĞÑÒÓÔÕÖ×ØÙÚÛÜİŞßàáâãä",
    "åæçèéêëìíîïğñòóôõö÷øùúûüışÿ"]),
  ("cp1255", 0x80, [
    "€\uFFFD‚ƒ„…†‡\u02C6‰\uFFFD‹\uFFFD\uFFFD\uFFFD\uFFFD\uFFFD‘’“”•–—\u02DC™\uFFFD›\uFFFD",
    "\uFFFD\uFFFD\uFFFD\u00A0¡¢£₪¥¦§\u00A8©×«¬\u00AD®\u00AF°±²³\u00B4µ¶·\u00B8¹÷»¼½¾¿\u05B0",
    "\u05B1\u05B2\u05B3\u05B4\u05B5\u05B6\u05B7\u05B8\u05B9\uFFFD\u05BB\u05BC\u05BD\u05BE",
    "\u05BF\u05C0\u05C1\u05C2\u05C3\u05F0\u05F1\u05F2\u05F3\u05F4\uFFFD\uFFFD\uFFFD\uFFFD",
    "\uFFFD\uFFFD\uFFFD\u05D0\u05D1\u05D2\u05D3\u05D4\u05D5\u05D6\u05D7\u05D8\u05D9\u05DA",
    "\u05DB\u05DC\u05DD\u05DE\u05DF\u05E0\u05E1\u05E2\u05E3\u05E4\u05E5\u05E6\u05E7\u05E8",
    "\u05E9\u05EA\uFFFD\uFFFD\u200E\u200F\uFFFD"]),
  ("cp1256", 0x80, [
    "€\u067E‚ƒ„…†‡\u02C6‰\u0679‹Œ\u0686\u0698\u0688\u06AF‘’“”•–—\u06A9™\u0691›œ\u200C\u200D",
    "\u06BA\u00A0،¢£¤¥¦§\u00A8©\u06BE«¬\u00AD®\u00AF°±²³\u00B4µ¶·\u00B8¹\u061B»¼½¾\u061F",
    "\u06C1\u0621\u0622\u0623\u0624\u0625\u0626\u0627\u0628\u0629\u062A\u062B\u062C\u062D",
    "\u062E\u062F\u0630\u0631\u0632\u0633\u0634\u0635\u0636×\u0637\u0638\u0639\u063A\u0640",
    "\u0641\u0642\u0643à\u0644â\u0645\u0646\u0647\u0648çèéêë\u0649\u064Aîï\u064B\u064C\u064D",
    "\u064Eô\u064F\u0650÷\u0651ù\u0652ûü\u200E\u200F\u06D2"]),
  ("cp1257", 0x80, [
    "€\uFFFD‚\uFFFD„…†‡\uFFFD‰\uFFFD‹\uFFFD\u00A8\u02C7\u00B8\uFFFD‘’“”•–—\uFFFD™\uFFFD›",
    "\uFFFD\u00AF\u02DB\uFFFD\u00A0\uFFFD¢£¤\uFFFD¦§Ø©Ŗ«¬\u00AD®Æ°±²³\u00B4µ¶·ø¹ŗ»¼½¾æĄĮĀĆÄÅĘ",
    "ĒČÉŹĖĢĶĪĻŠŃŅÓŌÕÖ×ŲŁŚŪÜŻŽßąįāćäåęēčéźėģķīļšńņóōõö÷ųłśūüżž\u02D9"]),
  ("cp1258", 0x80, [
    "€\uFFFD‚ƒ„…†‡\u02C6‰\uFFFD‹Œ\uFFFD\uFFFD\uFFFD\uFFFD‘’“”•–—\u02DC™\uFFFD›œ\uFFFD\uFFFDŸ",
    "\u00A0¡¢£¤¥¦§\u00A8©ª«¬\u00AD®\u00AF°±²³\u00B4µ¶·\u00B8¹º»¼½¾¿ÀÁÂĂÄÅÆÇÈÉÊË\u0300ÍÎÏĐÑ",
    "\u0309ÓÔƠÖ×ØÙÚÛÜƯ\u0303ßàáâăäåæçèéêë\u0301íîïđñ\u0323óôơö÷øùúûüư₫ÿ"]),
  ("cp437", 0x80, [
    "ÇüéâäàåçêëèïîìÄÅÉæÆôöòûùÿÖÜ¢£¥₧ƒáíóúñÑªº¿⌐¬½¼¡«»░▒▓│┤╡╢╖╕╣║╗╝╜╛┐└┴┬├─┼╞╟╚╔╩╦╠═╬╧╨╤╥╙╘╒╓╫",
    "╪┘┌█▄▌▐▀αßΓπΣσµτΦΘΩδ∞φε∩≡±≥≤⌠⌡÷≈°∙·√\u207F²■\u00A0"]),
  ("cp720", 0x80, [
    "\u0080\u0081éâ\u0084à\u0086çêëèïî\u008D\u008E\u008F\u0090\u0651\u0652ô¤\u0640ûù\u0621",
    "\u0622\u0623\u0624£\u0625\u0626\u0627\u0628\u0629\u062A\u062B\u062C\u062D\u062E\u062F",
    "\u0630\u0631\u0632\u0633\u0634\u0635«»░▒▓│┤╡╢╖╕╣║╗╝╜╛┐└┴┬├─┼╞╟╚╔╩╦╠═╬╧╨╤╥╙╘╒╓╫╪┘┌█▄▌▐▀",
    "\u0636\u0637\u0638\u0639\u063A\u0641µ\u0642\u0643\u0644\u0645\u0646\u0647\u0648\u0649",
    "\u064A≡\u064B\u064C\u064D\u064E\u064F\u0650≈°∙·√\u207F²■\u00A0"]),
  ("cp737", 0x80, [
    "ΑΒΓΔΕΖΗΘΙΚΛΜΝΞΟΠΡΣΤΥΦΧΨΩαβγδεζηθικλμνξοπρσςτυφχψ░▒▓│┤╡╢╖╕╣║╗╝╜╛┐└┴┬├─┼╞╟╚╔╩╦╠═╬╧╨╤╥╙╘╒╓╫",
    "╪┘┌█▄▌▐▀ωάέήϊίόύϋώΆΈΉΊΌΎΏ±≥≤ΪΫ÷≈°∙·√\u207F²■\u00A0"]),
  ("cp775", 0x80, [
    "ĆüéāäģåćłēŖŗīŹÄÅÉæÆōöĢ¢ŚśÖÜø£Ø×¤ĀĪóŻżź”¦©®¬½¼Ł«»░▒▓│┤ĄČĘĖ╣║╗╝ĮŠ┐└┴┬├─┼ŲŪ╚╔╩╦╠═╬Žąčęėįšųū",
    "ž┘┌█▄▌▐▀ÓßŌŃõÕµńĶķĻļņĒŅ’\u00AD±“¾¶§÷„°∙·¹³²■\u00A0"]),
  ("cp850", 0x80, [
    "ÇüéâäàåçêëèïîìÄÅÉæÆôöòûùÿÖÜø£Ø×ƒáíóúñÑªº¿®¬½¼¡«»░▒▓│┤ÁÂÀ©╣║╗╝¢¥┐└┴┬├─┼ãÃ╚╔╩╦╠═╬¤ðÐÊËÈıÍÎ",
    "Ï┘┌█▄¦Ì▀ÓßÔÒõÕµþÞÚÛÙýÝ\u00AF\u00B4\u00AD±‗¾¶§÷\u00B8°\u00A8·¹³²■\u00A0"]),
  ("cp852", 0x80, [
    "ÇüéâäůćçłëŐőîŹÄĆÉĹĺôöĽľŚśÖÜŤťŁ×čáíóúĄąŽžĘę¬źČş«»░▒▓│┤ÁÂĚŞ╣║╗╝Żż┐└┴┬├─┼Ăă╚╔╩╦╠═╬¤đĐĎËďŇÍÎ",
    "ě┘┌█▄ŢŮ▀ÓßÔŃńňŠšŔÚŕŰýÝţ\u00B4\u00AD\u02DD\u02DB\u02C7\u02D8§÷\u00B8°\u00A8\u02D9űŘř■",
    "\u00A0"]),
  ("cp855", 0x80, [
    "ђЂѓЃёЁєЄѕЅіІїЇјЈљЉњЊћЋќЌўЎџЏюЮъЪаАбБцЦдДеЕфФгГ«»░▒▓│┤хХиИ╣║╗╝йЙ┐└┴┬├─┼кК╚╔╩╦╠═╬¤лЛмМнНоО",
    "п┘┌█▄Пя▀ЯрРсСтТуУжЖвВьЬ№\u00ADыЫзЗшШэЭщЩчЧ§■\u00A0"]),
  ("cp856", 0x80, [
    "\u05D0\u05D1\u05D2\u05D3\u05D4\u05D5\u05D6\u05D7\u05D8\u05D9\u05DA\u05DB\u05DC\u05DD",
    "\u05DE\u05DF\u05E0\u05E1\u05E2\u05E3\u05E4\u05E5\u05E6\u05E7\u05E8\u05E9\u05EA\uFFFD£",
    "\uFFFD×\uFFFD\uFFFD\uFFFD\uFFFD\uFFFD\uFFFD\uFFFD\uFFFD\uFFFD\uFFFD®¬½¼\uFFFD«»░▒▓│┤",
    "\uFFFD\uFFFD\uFFFD©╣║╗╝¢¥┐└┴┬├─┼\uFFFD\uFFFD╚╔╩╦╠═╬¤\uFFFD\uFFFD\uFFFD\uFFFD\uFFFD\uFFFD",
    "\uFFFD\uFFFD\uFFFD┘┌█▄¦\uFFFD▀\uFFFD\uFFFD\uFFFD\uFFFD\uFFFD\uFFFDµ\uFFFD\uFFFD\uFFFD",
    "\uFFFD\uFFFD\uFFFD\uFFFD\u00AF\u00B4\u00AD±‗¾¶§÷\u00B8°\u00A8·¹³²■\u00A0"]),
  ("cp857", 0x80, [
    "ÇüéâäàåçêëèïîıÄÅÉæÆôöòûùİÖÜø£ØŞşáíóúñÑĞğ¿®¬½¼¡«»░▒▓│┤ÁÂÀ©╣║╗╝¢¥┐└┴┬├─┼ãÃ╚╔╩╦╠═╬¤ºªÊËÈ",
    "\uFFFDÍÎÏ┘┌█▄¦Ì▀ÓßÔÒõÕµ\uFFFD×ÚÛÙìÿ\u00AF\u00B4\u00AD±\uFFFD¾¶§÷\u00B8°\u00A8·¹³²■\u00A0"]),
  ("cp858", 0x80, [
    "ÇüéâäàåçêëèïîìÄÅÉæÆôöòûùÿÖÜø£Ø×ƒáíóúñÑªº¿®¬½¼¡«»░▒▓│┤ÁÂÀ©╣║╗╝¢¥┐└┴┬├─┼ãÃ╚╔╩╦╠═╬¤ðÐÊËÈ€ÍÎ",
    "Ï┘┌█▄¦Ì▀ÓßÔÒõÕµþÞÚÛÙýÝ\u00AF\u00B4\u00AD±‗¾¶§÷\u00B8°\u00A8·¹³²■\u00A0"]),
  ("cp860", 0x80, [
    "ÇüéâãàÁçêÊèÍÔìÃÂÉÀÈôõòÚùÌÕÜ¢£Ù₧ÓáíóúñÑªº¿Ò¬½¼¡«»░▒▓│┤╡╢╖╕╣║╗╝╜╛┐└┴┬├─┼╞╟╚╔╩╦╠═╬╧╨╤╥╙╘╒╓╫",
    "╪┘┌█▄▌▐▀αßΓπΣσµτΦΘΩδ∞φε∩≡±≥≤⌠⌡÷≈°∙·√\u207F²■\u00A0"]),
  ("cp861", 0x80, [
    "ÇüéâäàåçêëèÐðÞÄÅÉæÆôöþûÝýÖÜø£Ø₧ƒáíóúÁÍÓÚ¿⌐¬½¼¡«»░▒▓│┤╡╢╖╕╣║╗╝╜╛┐└┴┬├─┼╞╟╚╔╩╦╠═╬╧╨╤╥╙╘╒╓╫",
    "╪┘┌█▄▌▐▀αßΓπΣσµτΦΘΩδ∞φε∩≡±≥≤⌠⌡÷≈°∙·√\u207F²■\u00A0"]),
  ("cp862", 0x80, [
    "\u05D0\u05D1\u05D2\u05D3\u05D4\u05D5\u05D6\u05D7\u05D8\u05D9\u05DA\u05DB\u05DC\u05DD",
    "\u05DE\u05DF\u05E0\u05E1\u05E2\u05E3\u05E4\u05E5\u05E6\u05E7\u05E8\u05E9\u05EA¢£¥₧ƒáíóúñ",
    "Ñªº¿⌐¬½¼¡«»░▒▓│┤╡╢╖╕╣║╗╝╜╛┐└┴┬├─┼╞╟╚╔╩╦╠═╬╧╨╤╥╙╘╒╓╫╪┘┌█▄▌▐▀αßΓπΣσµτΦΘΩδ∞φε∩≡±≥≤⌠⌡÷≈°∙·√",
    "\u207F²■\u00A0"]),
  ("cp863", 0x80, [
    "ÇüéâÂà¶çêëèïî‗À§ÉÈÊôËÏûù¤ÔÜ¢£ÙÛƒ¦\u00B4óú\u00A8\u00B8³\u00AFÎ⌐¬½¼¾«»░▒▓│┤╡╢╖╕╣║╗╝╜╛┐└┴┬├",
    "─┼╞╟╚╔╩╦╠═╬╧╨╤╥╙╘╒╓╫╪┘┌█▄▌▐▀αßΓπΣσµτΦΘΩδ∞φε∩≡±≥≤⌠⌡÷≈°∙·√\u207F²■\u00A0"]),
  ("cp865", 0x80, [
    "ÇüéâäàåçêëèïîìÄÅÉæÆôöòûùÿÖÜø£Ø₧ƒáíóúñÑªº¿⌐¬½¼¡«¤░▒▓│┤╡╢╖╕╣║╗╝╜╛┐└┴┬├─┼╞╟╚╔╩╦╠═╬╧╨╤╥╙╘╒╓╫",
    "╪┘┌█▄▌▐▀αßΓπΣσµτΦΘΩδ∞φε∩≡±≥≤⌠⌡÷≈°∙·√\u207F²■\u00A0"]),
  ("cp866", 0x80, [
    "АБВГДЕЖЗИЙКЛМНОПРСТУФХЦЧШЩЪЫЬЭЮЯабвгдежзийклмноп░▒▓│┤╡╢╖╕╣║╗╝╜╛┐└┴┬├─┼╞╟╚╔╩╦╠═╬╧╨╤╥╙╘╒╓╫",
    "╪┘┌█▄▌▐▀рстуфхцчшщъыьэюяЁёЄєЇїЎў°∙·√№¤■\u00A0"]),
  ("cp869", 0x80, [
    "\uFFFD\uFFFD\uFFFD\uFFFD\uFFFD\uFFFDΆ\uFFFD·¬¦‘’Έ―ΉΊΪΌ\uFFFD\uFFFDΎΫ©Ώ²³ά£έήίϊΐόύΑΒΓΔΕΖΗ",
    "½ΘΙ«»░▒▓│┤ΚΛΜΝ╣║╗╝ΞΟ┐└┴┬├─┼ΠΡ╚╔╩╦╠═╬ΣΤΥΦΧΨΩαβγ┘┌█▄δε▀ζηθικλμνξοπρσςτ\u0384\u00AD±υφχ§ψ",
    "\u0385°\u00A8ωϋΰώ■\u00A0"]),
  ("cp874", 0x80, [
    "€\uFFFD\uFFFD\uFFFD\uFFFD…\uFFFD\uFFFD\uFFFD\uFFFD\uFFFD\uFFFD\uFFFD\uFFFD\uFFFD\uFFFD",
    "\uFFFD‘’“”•–—\uFFFD\uFFFD\uFFFD\uFFFD\uFFFD\uFFFD\uFFFD\uFFFD\u00A0กขฃคฅฆงจฉชซฌญฎฏฐฑฒณดต",
    "ถทธนบปผฝพฟภมยรฤลฦวศษสหฬอฮฯะ\u0E31าำ\u0E34\u0E35\u0E36\u0E37\u0E38\u0E39\u0E3A\uFFFD",
    "\uFFFD\uFFFD\uFFFD฿เแโใไๅ\u0E46\u0E47\u0E48\u0E49\u0E4A\u0E4B\u0E4C\u0E4D\u0E4E๏๐๑๒๓๔๕๖๗",
    "๘๙๚๛\uFFFD\uFFFD\uFFFD\uFFFD"]),
  ("hp_roman8", 0xA0, [
    "\u00A0ÀÂÈÊËÎÏ\u00B4\u02CB\u02C6\u00A8\u02DCÙÛ₤\u00AFÝý°ÇçÑñ¡¿¤£¥§ƒ¢âêôûáéóúàèòùäëöüÅîØÆå",
    "íøæÄìÖÜÉïßÔÁÃãÐðÍÌÓÒÕõŠšÚŸÿÞþ·µ¶¾—¼½ªº«■»±\uFFFD"]),
  ("iso8859_10", 0xA0, [
    "\u00A0ĄĒĢĪĨĶ§ĻĐŠŦŽ\u00ADŪŊ°ąēģīĩķ·ļđšŧž―ūŋĀÁÂÃÄÅÆĮČÉĘËĖÍÎÏÐŅŌÓÔÕÖŨØŲÚÛÜÝÞßāáâãäåæįčéęëėí",
    "îïðņōóôõöũøųúûüýþĸ"]),
  ("iso8859_11", 0xA0, [
    "\u00A0กขฃคฅฆงจฉชซฌญฎฏฐฑฒณดตถทธนบปผฝพฟภมยรฤลฦวศษสหฬอฮฯะ\u0E31าำ\u0E34\u0E35\u0E36\u0E37",
    "\u0E38\u0E39\u0E3A\uFFFD\uFFFD\uFFFD\uFFFD฿เแโใไๅ\u0E46\u0E47\u0E48\u0E49\u0E4A\u0E4B",
    "\u0E4C\u0E4D\u0E4E๏๐๑๒๓๔๕๖๗๘๙๚๛\uFFFD\uFFFD\uFFFD\uFFFD"]),
  ("iso8859_13", 0xA0, [
    "\u00A0”¢£¤„¦§Ø©Ŗ«¬\u00AD®Æ°±²³“µ¶·ø¹ŗ»¼½¾æĄĮĀĆÄÅĘĒČÉŹĖĢĶĪĻŠŃŅÓŌÕÖ×ŲŁŚŪÜŻŽßąįāćäåęēčéźėģķ",
    "īļšńņóōõö÷ųłśūüżž’"]),
  ("iso8859_14", 0xA0, [
    "\u00A0Ḃḃ£ĊċḊ§Ẁ©ẂḋỲ\u00AD®ŸḞḟĠġṀṁ¶ṖẁṗẃṠỳẄẅṡÀÁÂÃÄÅÆÇÈÉÊËÌÍÎÏŴÑÒÓÔÕÖṪØÙÚÛÜÝŶßàáâãäåæçèéêëìí",
    "îïŵñòóôõöṫøùúûüýŷÿ"]),
  ("iso8859_15", 0xA0, [
    "\u00A0¡¢£€¥Š§š©ª«¬\u00AD®\u00AF°±²³Žµ¶·ž¹º»ŒœŸ¿ÀÁÂÃÄÅÆÇÈÉÊËÌÍÎÏÐÑÒÓÔÕÖ×ØÙÚÛÜÝÞßàáâãäåæçè",
    "éêëìíîïðñòóôõö÷øùúûüýþÿ"]),
  ("iso8859_16", 0xA0, [
    "\u00A0ĄąŁ€„Š§š©Ș«Ź\u00ADźŻ°±ČłŽ”¶·žčș»ŒœŸżÀÁÂĂÄĆÆÇÈÉÊËÌÍÎÏĐŃÒÓÔŐÖŚŰÙÚÛÜĘȚßàáâăäćæçèéêëìí",
    "îïđńòóôőöśűùúûüęțÿ"]),
  ("iso8859_2", 0xA0, [
    "\u00A0Ą\u02D8Ł¤ĽŚ§\u00A8ŠŞŤŹ\u00ADŽŻ°ą\u02DBł\u00B4ľś\u02C7\u00B8šşťź\u02DDžżŔÁÂĂÄĹĆÇČÉĘ",
    "ËĚÍÎĎĐŃŇÓÔŐÖ×ŘŮÚŰÜÝŢßŕáâăäĺćçčéęëěíîďđńňóôőö÷řůúűüýţ\u02D9"]),
  ("iso8859_3", 0xA0, [
    "\u00A0Ħ\u02D8£¤\uFFFDĤ§\u00A8İŞĞĴ\u00AD\uFFFDŻ°ħ²³\u00B4µĥ·\u00B8ışğĵ½\uFFFDżÀÁÂ\uFFFDÄĊ",
    "ĈÇÈÉÊËÌÍÎÏ\uFFFDÑÒÓÔĠÖ×ĜÙÚÛÜŬŜßàáâ\uFFFDäċĉçèéêëìíîï\uFFFDñòóôġö÷ĝùúûüŭŝ\u02D9"]),
  ("iso8859_4", 0xA0, [
    "\u00A0ĄĸŖ¤ĨĻ§\u00A8ŠĒĢŦ\u00ADŽ\u00AF°ą\u02DBŗ\u00B4ĩļ\u02C7\u00B8šēģŧŊžŋĀÁÂÃÄÅÆĮČÉĘËĖÍÎĪ",
    "ĐŅŌĶÔÕÖ×ØŲÚÛÜŨŪßāáâãäåæįčéęëėíîīđņōķôõö÷øųúûüũū\u02D9"]),
  ("iso8859_5", 0xA0, [
    "\u00A0ЁЂЃЄЅІЇЈЉЊЋЌ\u00ADЎЏАБВГДЕЖЗИЙКЛМНОПРСТУФХЦЧШЩЪЫЬЭЮЯабвгдежзийклмнопрстуфхцчшщъыьэ",
    "юя№ёђѓєѕіїјљњћќ§ўџ"]),
  ("iso8859_6", 0xA0, [
    "\u00A0\uFFFD\uFFFD\uFFFD¤\uFFFD\uFFFD\uFFFD\uFFFD\uFFFD\uFFFD\uFFFD،\u00AD\uFFFD\uFFFD",
    "\uFFFD\uFFFD\uFFFD\uFFFD\uFFFD\uFFFD\uFFFD\uFFFD\uFFFD\uFFFD\uFFFD\u061B\uFFFD\uFFFD",
    "\uFFFD\u061F\uFFFD\u0621\u0622\u0623\u0624\u0625\u0626\u0627\u0628\u0629\u062A\u062B",
    "\u062C\u062D\u062E\u062F\u0630\u0631\u0632\u0633\u0634\u0635\u0636\u0637\u0638\u0639",
    "\u063A\uFFFD\uFFFD\uFFFD\uFFFD\uFFFD\u0640\u0641\u0642\u0643\u0644\u0645\u0646\u0647",
    "\u0648\u0649\u064A\u064B\u064C\u064D\u064E\u064F\u0650\u0651\u0652\uFFFD\uFFFD\uFFFD",
    "\uFFFD\uFFFD\uFFFD\uFFFD\uFFFD\uFFFD\uFFFD\uFFFD\uFFFD\uFFFD"]),
  ("iso8859_7", 0xA0, [
    "\u00A0‘’£€₯¦§\u00A8©\u037A«¬\u00AD\uFFFD―°±²³\u0384\u0385Ά·ΈΉΊ»Ό½ΎΏΐΑΒΓΔΕΖΗΘΙΚΛΜΝΞΟΠΡ",
    "\uFFFDΣΤΥΦΧΨΩΪΫάέήίΰαβγδεζηθικλμνξοπρςστυφχψωϊϋόύώ\uFFFD"]),
  ("iso8859_8", 0xA0, [
    "\u00A0\uFFFD¢£¤¥¦§\u00A8©×«¬\u00AD®\u00AF°±²³\u00B4µ¶·\u00B8¹÷»¼½¾\uFFFD\uFFFD\uFFFD",
    "\uFFFD\uFFFD\uFFFD\uFFFD\uFFFD\uFFFD\uFFFD\uFFFD\uFFFD\uFFFD\uFFFD\uFFFD\uFFFD\uFFFD",
    "\uFFFD\uFFFD\uFFFD\uFFFD\uFFFD\uFFFD\uFFFD\uFFFD\uFFFD\uFFFD\uFFFD\uFFFD\uFFFD\uFFFD",
    "\uFFFD‗\u05D0\u05D1\u05D2\u05D3\u05D4\u05D5\u05D6\u05D7\u05D8\u05D9\u05DA\u05DB\u05DC",
    "\u05DD\u05DE\u05DF\u05E0\u05E1\u05E2\u05E3\u05E4\u05E5\u05E6\u05E7\u05E8\u05E9\u05EA",
    "\uFFFD\uFFFD\u200E\u200F\uFFFD"]),
  ("iso8859_9", 0xD0, [
    "ĞÑÒÓÔÕÖ×ØÙÚÛÜİŞßàáâãäåæçèéêëìíîïğñòóôõö÷øùúûüışÿ"]),
  ("koi8_r", 0x80, [
    "─│┌┐└┘├┤┬┴┼▀▄█▌▐░▒▓⌠■∙√≈≤≥\u00A0⌡°²·÷═║╒ё╓╔╕╖╗╘╙╚╛╜╝╞╟╠╡Ё╢╣╤╥╦╧╨╩╪╫╬©юабцдефгхийклмнопяр",
    "стужвьызшэщчъЮАБЦДЕФГХИЙКЛМНОПЯРСТУЖВЬЫЗШЭЩЧЪ"]),
  ("koi8_t", 0x80, [
    "қғ‚Ғ„…†‡\uFFFD‰ҳ‹ҲҷҶ\uFFFDҚ‘’“”•–—\uFFFD™\uFFFD›\uFFFD\uFFFD\uFFFD\uFFFD\uFFFDӯӮё¤ӣ¦§",
    "\uFFFD\uFFFD\uFFFD«¬\u00AD®\uFFFD°±²Ё\uFFFDӢ¶·\uFFFD№\uFFFD»\uFFFD\uFFFD\uFFFD©юабцдефгх",
    "ийклмнопярстужвьызшэщчъЮАБЦДЕФГХИЙКЛМНОПЯРСТУЖВЬЫЗШЭЩЧЪ"]),
  ("koi8_u", 0x80, [
    "─│┌┐└┘├┤┬┴┼▀▄█▌▐░▒▓⌠■∙√≈≤≥\u00A0⌡°²·÷═║╒ёє╔ії╗╘╙╚╛ґ╝╞╟╠╡ЁЄ╣ІЇ╦╧╨╩╪Ґ╬©юабцдефгхийклмнопяр",
    "стужвьызшэщчъЮАБЦДЕФГХИЙКЛМНОПЯРСТУЖВЬЫЗШЭЩЧЪ"]),
  ("kz1048", 0x80, [
    "ЂЃ‚ѓ„…†‡€‰Љ‹ЊҚҺЏђ‘’“”•–—\uFFFD™љ›њқһџ\u00A0ҰұӘ¤Ө¦§Ё©Ғ«¬\u00AD®Ү°±Ііөµ¶·ё№ғ»әҢңүАБВГДЕЖЗИ",
    "ЙКЛМНОПРСТУФХЦЧШЩЪЫЬЭЮЯабвгдежзийклмнопрстуфхцчшщъыьэюя"]),
  ("mac_croatian", 0x80, [
    "ÄÅÇÉÑÖÜáàâäãåçéèêëíìîïñóòôöõúùûü†°¢£§•¶ß®Š™\u00B4\u00A8≠ŽØ∞±≤≥∆µ∂∑∏š∫ªºΩžø¿¡¬√ƒ≈Ć«Č…",
    "\u00A0ÀÃÕŒœĐ—“”‘’÷◊\uF8FF©⁄€‹›Æ»–·‚„‰ÂćÁčÈÍÎÏÌÓÔđÒÚÛÙı\u02C6\u02DC\u00AFπË\u02DA\u00B8Êæ",
    "\u02C7"]),
  ("mac_cyrillic", 0x80, [
    "АБВГДЕЖЗИЙКЛМНОПРСТУФХЦЧШЩЪЫЬЭЮЯ†°Ґ£§•¶І®©™Ђђ≠Ѓѓ∞±≤≥іµґЈЄєЇїЉљЊњјЅ¬√ƒ≈∆«»…\u00A0ЋћЌќѕ–—“",
    "”‘’÷„ЎўЏџ№Ёёяабвгдежзийклмнопрстуфхцчшщъыьэю€"]),
  ("mac_greek", 0x80, [
    "Ä¹²É³ÖÜ\u0385àâä\u0384\u00A8çéèêë£™îï•½‰ôö¦€ùûü†ΓΔΘΛΞΠß®©ΣΪ§≠°·Α±≤≥¥ΒΕΖΗΙΚΜΦΫΨΩάΝ¬ΟΡ≈Τ«»",
    "…\u00A0ΥΧΆΈœ–―“”‘’÷ΉΊΌΎέήίόΏύαβψδεφγηιξκλμνοπώρστθωςχυζϊϋΐΰ\u00AD"]),
  ("mac_iceland", 0x80, [
    "ÄÅÇÉÑÖÜáàâäãåçéèêëíìîïñóòôöõúùûüÝ°¢£§•¶ß®©™\u00B4\u00A8≠ÆØ∞±≤≥¥µ∂∑∏π∫ªºΩæø¿¡¬√ƒ≈∆«»…",
    "\u00A0ÀÃÕŒœ–—“”‘’÷◊ÿŸ⁄€ÐðÞþý·‚„‰ÂÊÁËÈÍÎÏÌÓÔ\uF8FFÒÚÛÙı\u02C6\u02DC\u00AF\u02D8\u02D9",
    "\u02DA\u00B8\u02DD\u02DB\u02C7"]),
  ("mac_latin2", 0x80, [
    "ÄĀāÉĄÖÜáąČäčĆćéŹźĎíďĒēĖóėôöõúĚěü†°Ę£§•¶ß®©™ę\u00A8≠ģĮįĪ≤≥īĶ∂∑łĻļĽľĹĺŅņŃ¬√ńŇ∆«»…\u00A0ňŐÕ",
    "őŌ–—“”‘’÷◊ōŔŕŘ‹›řŖŗŠ‚„šŚśÁŤťÍŽžŪÓÔūŮÚůŰűŲųÝýķŻŁżĢ\u02C7"]),
  ("mac_roman", 0x80, [
    "ÄÅÇÉÑÖÜáàâäãåçéèêëíìîïñóòôöõúùûü†°¢£§•¶ß®©™\u00B4\u00A8≠ÆØ∞±≤≥¥µ∂∑∏π∫ªºΩæø¿¡¬√ƒ≈∆«»…",
    "\u00A0ÀÃÕŒœ–—“”‘’÷◊ÿŸ⁄€‹›ﬁﬂ‡·‚„‰ÂÊÁËÈÍÎÏÌÓÔ\uF8FFÒÚÛÙı\u02C6\u02DC\u00AF\u02D8\u02D9",
    "\u02DA\u00B8\u02DD\u02DB\u02C7"]),
  ("mac_romanian", 0x80, [
    "ÄÅÇÉÑÖÜáàâäãåçéèêëíìîïñóòôöõúùûü†°¢£§•¶ß®©™\u00B4\u00A8≠ĂȘ∞±≤≥¥µ∂∑∏π∫ªºΩăș¿¡¬√ƒ≈∆«»…",
    "\u00A0ÀÃÕŒœ–—“”‘’÷◊ÿŸ⁄€‹›Țț‡·‚„‰ÂÊÁËÈÍÎÏÌÓÔ\uF8FFÒÚÛÙı\u02C6\u02DC\u00AF\u02D8\u02D9",
    "\u02DA\u00B8\u02DD\u02DB\u02C7"]),
  ("mac_turkish", 0x80, [
    "ÄÅÇÉÑÖÜáàâäãåçéèêëíìîïñóòôöõúùûü†°¢£§•¶ß®©™\u00B4\u00A8≠ÆØ∞±≤≥¥µ∂∑∏π∫ªºΩæø¿¡¬√ƒ≈∆«»…",
    "\u00A0ÀÃÕŒœ–—“”‘’÷◊ÿŸĞğİıŞş‡·‚„‰ÂÊÁËÈÍÎÏÌÓÔ\uF8FFÒÚÛÙ\uF8A0\u02C6\u02DC\u00AF\u02D8",
    "\u02D9\u02DA\u00B8\u02DD\u02DB\u02C7"]),
  ("palmos", 0x80, [
    "€\u0081‚ƒ„…†‡\u02C6‰Š‹Œ♦♣♥♠‘’“”•–—\u02DC™š\u009Bœ\u009D\u009EŸ\u00A0¡¢£¤¥¦§\u00A8©ª«¬",
    "\u00AD®\u00AF°±²³\u00B4µ¶·\u00B8¹º»¼½¾¿ÀÁÂÃÄÅÆÇÈÉÊËÌÍÎÏÐÑÒÓÔÕÖ×ØÙÚÛÜÝÞßàáâãäåæçèéêëìíîïð",
    "ñòóôõö÷øùúûüýþÿ"]),
  ("ptcp154", 0x80, [
    "ҖҒӮғ„…ҶҮҲүҠӢҢҚҺҸҗ‘’“”•–—ҳҷҡӣңқһҹ\u00A0ЎўЈӨҘҰ§Ё©Ә«¬ӯ®Ҝ°ұІіҙө¶·ё№ә»јҪҫҝАБВГДЕЖЗИЙКЛМНОПРСТ",
    "УФХЦЧШЩЪЫЬЭЮЯабвгдежзийклмнопрстуфхцчшщъыьэюя"]),
  ("tis_620", 0xA0, [
    "\uFFFDกขฃคฅฆงจฉชซฌญฎฏฐฑฒณดตถทธนบปผฝพฟภมยรฤลฦวศษสหฬอฮฯะ\u0E31าำ\u0E34\u0E35\u0E36\u0E37",
    "\u0E38\u0E39\u0E3A\uFFFD\uFFFD\uFFFD\uFFFD฿เแโใไๅ\u0E46\u0E47\u0E48\u0E49\u0E4A\u0E4B",
    "\u0E4C\u0E4D\u0E4E๏๐๑๒๓๔๕๖๗๘๙๚๛\uFFFD\uFFFD\uFFFD\uFFFD"])]

end ResourceAudit.Markup.Registry
