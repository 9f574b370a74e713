import FixedReply.Text.CodePage

namespace FixedReply.Text

def codePages : List (String × List String × CodePage) := [
  ("cp037", ["037", "csibm037", "ebcdic_cp_ca", "ebcdic_cp_nl", "ebcdic_cp_us", "ebcdic_cp_wt",
    "ibm037", "ibm039"], ⟨0x4, [
    "\u009c\x09\u0086\x7f\u0097\u008d\u008e\x0b\x0c\x0d\x0e\x0f\x10\x11\x12\x13\u009d\u0085",
    "\x08\u0087\x18\x19\u0092\u008f\x1c\x1d\x1e\x1f\u0080\u0081\u0082\u0083\u0084\x0a\x17",
    "\x1b\u0088\u0089\u008a\u008b\u008c\x05\x06\x07\u0090\u0091\x16\u0093\u0094\u0095\u0096",
    "\x04\u0098\u0099\u009a\u009b\x14\x15\u009e\x1a \u00a0âäàáãåçñ¢.<(+|&éêëèíîïìß!$*);¬\x2d",
    "\x2fÂÄÀÁÃÅÇÑ¦,%_>?øÉÊËÈÍÎÏÌ\x60:\x23@\x27=\x22Øabcdefghi«»ðýþ±°jklmnopqrªºæ¸Æ¤µ~stuvwxy",
    "z¡¿ÐÝÞ®^£¥·©§¶¼½¾[]¯¨´×\x7bABCDEFGHI\u00adôöòóõ\x7dJKLMNOPQR¹ûüùúÿ\x5c÷STUVWXYZ²ÔÖÒÓÕ01",
    "23456789³ÛÜÙÚ\u009f"]⟩),
  ("cp1006", [], ⟨0xa1, [
    "۰۱۲۳۴۵۶۷۸۹،\u061b\u00ad\u061f\ufe81\ufe8d\ufffd\ufe8e\ufe8f\ufe91\ufb56\ufb58\ufe93",
    "\ufe95\ufe97\ufb66\ufb68\ufe99\ufe9b\ufe9d\ufe9f\ufb7a\ufb7c\ufea1\ufea3\ufea5\ufea7",
    "\ufea9\ufb84\ufeab\ufead\ufb8c\ufeaf\ufb8a\ufeb1\ufeb3\ufeb5\ufeb7\ufeb9\ufebb\ufebd",
    "\ufebf\ufec1\ufec5\ufec9\ufeca\ufecb\ufecc\ufecd\ufece\ufecf\ufed0\ufed1\ufed3\ufed5",
    "\ufed7\ufed9\ufedb\ufb92\ufb94\ufedd\ufedf\ufee0\ufee1\ufee3\ufb9e\ufee5\ufee7\ufe85",
    "\ufeed\ufba6\ufba8\ufba9\ufbaa\ufe80\ufe89\ufe8a\ufe8b\ufef1\ufef2\ufef3\ufbb0\ufbae",
    "\ufe7c\ufe7d"]⟩),
  ("cp1026", ["1026", "csibm1026", "ibm1026"], ⟨0x4, [
    "\u009c\x09\u0086\x7f\u0097\u008d\u008e\x0b\x0c\x0d\x0e\x0f\x10\x11\x12\x13\u009d\u0085",
    "\x08\u0087\x18\x19\u0092\u008f\x1c\x1d\x1e\x1f\u0080\u0081\u0082\u0083\u0084\x0a\x17",
    "\x1b\u0088\u0089\u008a\u008b\u008c\x05\x06\x07\u0090\u0091\x16\u0093\u0094\u0095\u0096",
    "\x04\u0098\u0099\u009a\u009b\x14\x15\u009e\x1a \u00a0âäàáãå\x7bñÇ.<(+!&éêëèíîïìßĞİ*);^",
    "\x2d\x2fÂÄÀÁÃÅ[Ñş,%_>?øÉÊËÈÍÎÏÌı:ÖŞ\x27=ÜØabcdefghi«»\x7d\x60¦±°jklmnopqrªºæ¸Æ¤µöstuvwx",
    "yz¡¿]$@®¢£¥·©§¶¼½¾¬|¯¨´×çABCDEFGHI\u00adô~òóõğJKLMNOPQR¹û\x5cùúÿü÷STUVWXYZ²Ô\x23ÒÓÕ0123",
    "456789³Û\x22ÙÚ\u009f"]⟩),
  ("cp1125", ["1125", "cp866u", "ibm1125", "ruscii"], ⟨0x80, [
    "АБВГДЕЖЗИЙКЛМНОПРСТУФХЦЧШЩЪЫЬЭЮЯабвгдежзийклмноп░▒▓│┤╡╢╖╕╣║╗╝╜╛┐└┴┬├─┼╞╟╚╔╩╦╠═╬╧╨╤╥╙╘╒╓",
    "╫╪┘┌█▄▌▐▀рстуфхцчшщъыьэюяЁёҐґЄєІіЇї·√№¤■\u00a0"]⟩),
  ("cp1140", ["1140", "ibm1140"], ⟨0x4, [
    "\u009c\x09\u0086\x7f\u0097\u008d\u008e\x0b\x0c\x0d\x0e\x0f\x10\x11\x12\x13\u009d\u0085",
    "\x08\u0087\x18\x19\u0092\u008f\x1c\x1d\x1e\x1f\u0080\u0081\u0082\u0083\u0084\x0a\x17",
    "\x1b\u0088\u0089\u008a\u008b\u008c\x05\x06\x07\u0090\u0091\x16\u0093\u0094\u0095\u0096",
    "\x04\u0098\u0099\u009a\u009b\x14\x15\u009e\x1a \u00a0âäàáãåçñ¢.<(+|&éêëèíîïìß!$*);¬\x2d",
    "\x2fÂÄÀÁÃÅÇÑ¦,%_>?øÉÊËÈÍÎÏÌ\x60:\x23@\x27=\x22Øabcdefghi«»ðýþ±°jklmnopqrªºæ¸Æ€µ~stuvwxy",
    "z¡¿ÐÝÞ®^£¥·©§¶¼½¾[]¯¨´×\x7bABCDEFGHI\u00adôöòóõ\x7dJKLMNOPQR¹ûüùúÿ\x5c÷STUVWXYZ²ÔÖÒÓÕ01",
    "23456789³ÛÜÙÚ\u009f"]⟩),
  ("cp1250", ["1250", "windows_1250"], ⟨0x80, [
    "€\ufffd‚\ufffd„…†‡\ufffd‰Š‹ŚŤŽŹ\ufffd‘’“”•–—\ufffd™š›śťžź\u00a0\u02c7˘Ł¤Ą¦§¨©Ş«¬\u00ad®",
    "Ż°±˛ł´µ¶·¸ąş»Ľ˝ľżŔÁÂĂÄĹĆÇČÉĘËĚÍÎĎĐŃŇÓÔŐÖ×ŘŮÚŰÜÝŢßŕáâăäĺćçčéęëěíîďđńňóôőö÷řůúűüýţ˙"]⟩),
  ("cp1251", ["1251", "windows_1251"], ⟨0x80, [
    "ЂЃ‚ѓ„…†‡€‰Љ‹ЊЌЋЏђ‘’“”•–—\ufffd™љ›њќћџ\u00a0ЎўЈ¤Ґ¦§Ё©Є«¬\u00ad®Ї°±Ііґµ¶·ё№є»јЅѕїАБВГДЕЖЗ",
    "ИЙКЛМНОПРСТУФХЦЧШЩЪЫЬЭЮЯабвгдежзийклмнопрстуфхцчшщъыьэюя"]⟩),
  ("cp1252", ["1252", "windows_1252"], ⟨0x80, [
    "€\ufffd‚ƒ„…†‡\u02c6‰Š‹Œ\ufffdŽ\ufffd\ufffd‘’“”•–—˜™š›œ\ufffdžŸ\u00a0¡¢£¤¥¦§¨©ª«¬\u00ad®",
    "¯°±²³´µ¶·¸¹º»¼½¾¿ÀÁÂÃÄÅÆÇÈÉÊËÌÍÎÏÐÑÒÓÔÕÖ×ØÙÚÛÜÝÞßàáâãäåæçèéêëìíîïðñòóôõö÷øùúûüýþÿ"]⟩),
  ("cp1253", ["1253", "windows_1253"], ⟨0x80, [
    "€\ufffd‚ƒ„…†‡\ufffd‰\ufffd‹\ufffd\ufffd\ufffd\ufffd\ufffd‘’“”•–—\ufffd™\ufffd›\ufffd",
    "\ufffd\ufffd\ufffd\u00a0΅Ά£¤¥¦§¨©\ufffd«¬\u00ad®―°±²³΄µ¶·ΈΉΊ»Ό½ΎΏΐΑΒΓΔΕΖΗΘΙΚΛΜΝΞΟΠΡ",
    "\ufffdΣΤΥΦΧΨΩΪΫάέήίΰαβγδεζηθικλμνξοπρςστυφχψωϊϋόύώ"]⟩),
  ("cp1254", ["1254", "windows_1254"], ⟨0x80, [
    "€\ufffd‚ƒ„…†‡\u02c6‰Š‹Œ\ufffd\ufffd\ufffd\ufffd‘’“”•–—˜™š›œ\ufffd\ufffdŸ\u00a0¡¢£¤¥¦§¨©",
    "ª«¬\u00ad®¯°±²³´µ¶·¸¹º»¼½¾¿ÀÁÂÃÄÅÆÇÈÉÊËÌÍÎÏĞÑÒÓÔÕÖ×ØÙÚÛÜİŞßàáâãäåæçèéêëìíîïğñòóôõö÷øùúû",
    "üışÿ"]⟩),
  ("cp1255", ["1255", "windows_1255"], ⟨0x80, [
    "€\ufffd‚ƒ„…†‡\u02c6‰\ufffd‹\ufffd\ufffd\ufffd\ufffd\ufffd‘’“”•–—˜™\ufffd›\ufffd\ufffd",
    "\ufffd\ufffd\u00a0¡¢£₪¥¦§¨©×«¬\u00ad®¯°±²³´µ¶·¸¹÷»¼½¾¿\u05b0\u05b1\u05b2\u05b3\u05b4",
    "\u05b5\u05b6\u05b7\u05b8\u05b9\ufffd\u05bb\u05bc\u05bd\u05be\u05bf\u05c0\u05c1\u05c2",
    "\u05c3\u05f0\u05f1\u05f2\u05f3\u05f4\ufffd\ufffd\ufffd\ufffd\ufffd\ufffd\ufffd\u05d0",
    "\u05d1\u05d2\u05d3\u05d4\u05d5\u05d6\u05d7\u05d8\u05d9\u05da\u05db\u05dc\u05dd\u05de",
    "\u05df\u05e0\u05e1\u05e2\u05e3\u05e4\u05e5\u05e6\u05e7\u05e8\u05e9\u05ea\ufffd\ufffd",
    "\u200e\u200f"]⟩),
  ("cp1256", ["1256", "windows_1256"], ⟨0x80, [
    "€\u067e‚ƒ„…†‡\u02c6‰\u0679‹Œ\u0686\u0698\u0688\u06af‘’“”•–—\u06a9™\u0691›œ\u200c\u200d",
    "\u06ba\u00a0،¢£¤¥¦§¨©\u06be«¬\u00ad®¯°±²³´µ¶·¸¹\u061b»¼½¾\u061f\u06c1\u0621\u0622\u0623",
    "\u0624\u0625\u0626\u0627\u0628\u0629\u062a\u062b\u062c\u062d\u062e\u062f\u0630\u0631",
    "\u0632\u0633\u0634\u0635\u0636×\u0637\u0638\u0639\u063a\u0640\u0641\u0642\u0643à\u0644â",
    "\u0645\u0646\u0647\u0648çèéêë\u0649\u064aîï\u064b\u064c\u064d\u064eô\u064f\u0650÷\u0651",
    "ù\u0652ûü\u200e\u200f\u06d2"]⟩),
  ("cp1257", ["1257", "windows_1257"], ⟨0x80, [
    "€\ufffd‚\ufffd„…†‡\ufffd‰\ufffd‹\ufffd¨\u02c7¸\ufffd‘’“”•–—\ufffd™\ufffd›\ufffd¯˛\ufffd",
    "\u00a0\ufffd¢£¤\ufffd¦§Ø©Ŗ«¬\u00ad®Æ°±²³´µ¶·ø¹ŗ»¼½¾æĄĮĀĆÄÅĘĒČÉŹĖĢĶĪĻŠŃŅÓŌÕÖ×ŲŁŚŪÜŻŽßąįā",
    "ćäåęēčéźėģķīļšńņóōõö÷ųłśūüżž˙"]⟩),
  ("cp1258", ["1258", "windows_1258"], ⟨0x80, [
    "€\ufffd‚ƒ„…†‡\u02c6‰\ufffd‹Œ\ufffd\ufffd\ufffd\ufffd‘’“”•–—˜™\ufffd›œ\ufffd\ufffdŸ",
    "\u00a0¡¢£¤¥¦§¨©ª«¬\u00ad®¯°±²³´µ¶·¸¹º»¼½¾¿ÀÁÂĂÄÅÆÇÈÉÊË\u0300ÍÎÏĐÑ\u0309ÓÔƠÖ×ØÙÚÛÜƯ",
    "\u0303ßàáâăäåæçèéêë\u0301íîïđñ\u0323óôơö÷øùúûüư₫ÿ"]⟩),
  ("cp273", ["273", "csibm273", "ibm273"], ⟨0x4, [
    "\u009c\x09\u0086\x7f\u0097\u008d\u008e\x0b\x0c\x0d\x0e\x0f\x10\x11\x12\x13\u009d\u0085",
    "\x08\u0087\x18\x19\u0092\u008f\x1c\x1d\x1e\x1f\u0080\u0081\u0082\u0083\u0084\x0a\x17",
    "\x1b\u0088\u0089\u008a\u008b\u008c\x05\x06\x07\u0090\u0091\x16\u0093\u0094\u0095\u0096",
    "\x04\u0098\u0099\u009a\u009b\x14\x15\u009e\x1a \u00a0â\x7bàáãåçñÄ.<(+!&éêëèíîïì~Ü$*);^",
    "\x2d\x2fÂ[ÀÁÃÅÇÑö,%_>?øÉÊËÈÍÎÏÌ\x60:\x23§\x27=\x22Øabcdefghi«»ðýþ±°jklmnopqrªºæ¸Æ¤µßstu",
    "vwxyz¡¿ÐÝÞ®¢£¥·©@¶¼½¾¬|‾¨´×äABCDEFGHI\u00adô¦òóõüJKLMNOPQR¹û\x7dùúÿÖ÷STUVWXYZ²Ô\x5cÒÓÕ0",
    "123456789³Û]ÙÚ\u009f"]⟩),
  ("cp424", ["424", "csibm424", "ebcdic_cp_he", "ibm424"], ⟨0x4, [
    "\u009c\x09\u0086\x7f\u0097\u008d\u008e\x0b\x0c\x0d\x0e\x0f\x10\x11\x12\x13\u009d\u0085",
    "\x08\u0087\x18\x19\u0092\u008f\x1c\x1d\x1e\x1f\u0080\u0081\u0082\u0083\u0084\x0a\x17",
    "\x1b\u0088\u0089\u008a\u008b\u008c\x05\x06\x07\u0090\u0091\x16\u0093\u0094\u0095\u0096",
    "\x04\u0098\u0099\u009a\u009b\x14\x15\u009e\x1a \u05d0\u05d1\u05d2\u05d3\u05d4\u05d5",
    "\u05d6\u05d7\u05d8¢.<(+|&\u05d9\u05da\u05db\u05dc\u05dd\u05de\u05df\u05e0\u05e1!$*);¬",
    "\x2d\x2f\u05e2\u05e3\u05e4\u05e5\u05e6\u05e7\u05e8\u05e9¦,%_>?\ufffd\u05ea\ufffd\ufffd",
    "\u00a0\ufffd\ufffd\ufffd‗\x60:\x23@\x27=\x22\ufffdabcdefghi«»\ufffd\ufffd\ufffd±°jklmno",
    "pqr\ufffd\ufffd\ufffd¸\ufffd¤µ~stuvwxyz\ufffd\ufffd\ufffd\ufffd\ufffd®^£¥·©§¶¼½¾[]¯¨´×",
    "\x7bABCDEFGHI\u00ad\ufffd\ufffd\ufffd\ufffd\ufffd\x7dJKLMNOPQR¹\ufffd\ufffd\ufffd\ufffd",
    "\ufffd\x5c÷STUVWXYZ²\ufffd\ufffd\ufffd\ufffd\ufffd0123456789³\ufffd\ufffd\ufffd\ufffd",
    "\u009f"]⟩),
  ("cp437", ["437", "cspc8codepage437", "ibm437"], ⟨0x80, [
    "ÇüéâäàåçêëèïîìÄÅÉæÆôöòûùÿÖÜ¢£¥₧ƒáíóúñÑªº¿⌐¬½¼¡«»░▒▓│┤╡╢╖╕╣║╗╝╜╛┐└┴┬├─┼╞╟╚╔╩╦╠═╬╧╨╤╥╙╘╒╓",
    "╫╪┘┌█▄▌▐▀αßΓπΣσµτΦΘΩδ∞φε∩≡±≥≤⌠⌡÷≈°∙·√\u207f²■\u00a0"]⟩),
  ("cp500", ["500", "csibm500", "ebcdic_cp_be", "ebcdic_cp_ch", "ibm500"], ⟨0x4, [
    "\u009c\x09\u0086\x7f\u0097\u008d\u008e\x0b\x0c\x0d\x0e\x0f\x10\x11\x12\x13\u009d\u0085",
    "\x08\u0087\x18\x19\u0092\u008f\x1c\x1d\x1e\x1f\u0080\u0081\u0082\u0083\u0084\x0a\x17",
    "\x1b\u0088\u0089\u008a\u008b\u008c\x05\x06\x07\u0090\u0091\x16\u0093\u0094\u0095\u0096",
    "\x04\u0098\u0099\u009a\u009b\x14\x15\u009e\x1a \u00a0âäàáãåçñ[.<(+!&éêëèíîïìß]$*);^\x2d",
    "\x2fÂÄÀÁÃÅÇÑ¦,%_>?øÉÊËÈÍÎÏÌ\x60:\x23@\x27=\x22Øabcdefghi«»ðýþ±°jklmnopqrªºæ¸Æ¤µ~stuvwxy",
    "z¡¿ÐÝÞ®¢£¥·©§¶¼½¾¬|¯¨´×\x7bABCDEFGHI\u00adôöòóõ\x7dJKLMNOPQR¹ûüùúÿ\x5c÷STUVWXYZ²ÔÖÒÓÕ01",
    "23456789³ÛÜÙÚ\u009f"]⟩),
  ("cp720", [], ⟨0x82, [
    "éâ\u0084à\u0086çêëèïî\u008d\u008e\u008f\u0090\u0651\u0652ô¤\u0640ûù\u0621\u0622\u0623",
    "\u0624£\u0625\u0626\u0627\u0628\u0629\u062a\u062b\u062c\u062d\u062e\u062f\u0630\u0631",
    "\u0632\u0633\u0634\u0635«»░▒▓│┤╡╢╖╕╣║╗╝╜╛┐└┴┬├─┼╞╟╚╔╩╦╠═╬╧╨╤╥╙╘╒╓╫╪┘┌█▄▌▐▀\u0636\u0637",
    "\u0638\u0639\u063a\u0641µ\u0642\u0643\u0644\u0645\u0646\u0647\u0648\u0649\u064a≡\u064b",
    "\u064c\u064d\u064e\u064f\u0650≈°∙·√\u207f²■\u00a0"]⟩),
  ("cp737", [], ⟨0x80, [
    "ΑΒΓΔΕΖΗΘΙΚΛΜΝΞΟΠΡΣΤΥΦΧΨΩαβγδεζηθικλμνξοπρσςτυφχψ░▒▓│┤╡╢╖╕╣║╗╝╜╛┐└┴┬├─┼╞╟╚╔╩╦╠═╬╧╨╤╥╙╘╒╓",
    "╫╪┘┌█▄▌▐▀ωάέήϊίόύϋώΆΈΉΊΌΎΏ±≥≤ΪΫ÷≈°∙·√\u207f²■\u00a0"]⟩),
  ("cp775", ["775", "cspc775baltic", "ibm775"], ⟨0x80, [
    "ĆüéāäģåćłēŖŗīŹÄÅÉæÆōöĢ¢ŚśÖÜø£Ø×¤ĀĪóŻżź”¦©®¬½¼Ł«»░▒▓│┤ĄČĘĖ╣║╗╝ĮŠ┐└┴┬├─┼ŲŪ╚╔╩╦╠═╬Žąčęėįšų",
    "ūž┘┌█▄▌▐▀ÓßŌŃõÕµńĶķĻļņĒŅ’\u00ad±“¾¶§÷„°∙·¹³²■\u00a0"]⟩),
  ("cp850", ["850", "cspc850multilingual", "ibm850"], ⟨0x80, [
    "ÇüéâäàåçêëèïîìÄÅÉæÆôöòûùÿÖÜø£Ø×ƒáíóúñÑªº¿®¬½¼¡«»░▒▓│┤ÁÂÀ©╣║╗╝¢¥┐└┴┬├─┼ãÃ╚╔╩╦╠═╬¤ðÐÊËÈıÍ",
    "ÎÏ┘┌█▄¦Ì▀ÓßÔÒõÕµþÞÚÛÙýÝ¯´\u00ad±‗¾¶§÷¸°¨·¹³²■\u00a0"]⟩),
  ("cp852", ["852", "cspcp852", "ibm852"], ⟨0x80, [
    "ÇüéâäůćçłëŐőîŹÄĆÉĹĺôöĽľŚśÖÜŤťŁ×čáíóúĄąŽžĘę¬źČş«»░▒▓│┤ÁÂĚŞ╣║╗╝Żż┐└┴┬├─┼Ăă╚╔╩╦╠═╬¤đĐĎËďŇÍ",
    "Îě┘┌█▄ŢŮ▀ÓßÔŃńňŠšŔÚŕŰýÝţ´\u00ad˝˛\u02c7˘§÷¸°¨˙űŘř■\u00a0"]⟩),
  ("cp855", ["855", "csibm855", "ibm855"], ⟨0x80, [
    "ђЂѓЃёЁєЄѕЅіІїЇјЈљЉњЊћЋќЌўЎџЏюЮъЪаАбБцЦдДеЕфФгГ«»░▒▓│┤хХиИ╣║╗╝йЙ┐└┴┬├─┼кК╚╔╩╦╠═╬¤лЛмМнНо",
    "Оп┘┌█▄Пя▀ЯрРсСтТуУжЖвВьЬ№\u00adыЫзЗшШэЭщЩчЧ§■\u00a0"]⟩),
  ("cp856", [], ⟨0x80, [
    "\u05d0\u05d1\u05d2\u05d3\u05d4\u05d5\u05d6\u05d7\u05d8\u05d9\u05da\u05db\u05dc\u05dd",
    "\u05de\u05df\u05e0\u05e1\u05e2\u05e3\u05e4\u05e5\u05e6\u05e7\u05e8\u05e9\u05ea\ufffd£",
    "\ufffd×\ufffd\ufffd\ufffd\ufffd\ufffd\ufffd\ufffd\ufffd\ufffd\ufffd®¬½¼\ufffd«»░▒▓│┤",
    "\ufffd\ufffd\ufffd©╣║╗╝¢¥┐└┴┬├─┼\ufffd\ufffd╚╔╩╦╠═╬¤\ufffd\ufffd\ufffd\ufffd\ufffd",
    "\ufffd\ufffd\ufffd\ufffd┘┌█▄¦\ufffd▀\ufffd\ufffd\ufffd\ufffd\ufffd\ufffdµ\ufffd\ufffd",
    "\ufffd\ufffd\ufffd\ufffd\ufffd¯´\u00ad±‗¾¶§÷¸°¨·¹³²■\u00a0"]⟩),
  ("cp857", ["857", "csibm857", "ibm857"], ⟨0x80, [
    "ÇüéâäàåçêëèïîıÄÅÉæÆôöòûùİÖÜø£ØŞşáíóúñÑĞğ¿®¬½¼¡«»░▒▓│┤ÁÂÀ©╣║╗╝¢¥┐└┴┬├─┼ãÃ╚╔╩╦╠═╬¤ºªÊËÈ",
    "\ufffdÍÎÏ┘┌█▄¦Ì▀ÓßÔÒõÕµ\ufffd×ÚÛÙìÿ¯´\u00ad±\ufffd¾¶§÷¸°¨·¹³²■\u00a0"]⟩),
  ("cp858", ["858", "csibm858", "ibm858"], ⟨0x80, [
    "ÇüéâäàåçêëèïîìÄÅÉæÆôöòûùÿÖÜø£Ø×ƒáíóúñÑªº¿®¬½¼¡«»░▒▓│┤ÁÂÀ©╣║╗╝¢¥┐└┴┬├─┼ãÃ╚╔╩╦╠═╬¤ðÐÊËÈ€Í",
    "ÎÏ┘┌█▄¦Ì▀ÓßÔÒõÕµþÞÚÛÙýÝ¯´\u00ad±‗¾¶§÷¸°¨·¹³²■\u00a0"]⟩),
  ("cp860", ["860", "csibm860", "ibm860"], ⟨0x80, [
    "ÇüéâãàÁçêÊèÍÔìÃÂÉÀÈôõòÚùÌÕÜ¢£Ù₧ÓáíóúñÑªº¿Ò¬½¼¡«»░▒▓│┤╡╢╖╕╣║╗╝╜╛┐└┴┬├─┼╞╟╚╔╩╦╠═╬╧╨╤╥╙╘╒╓",
    "╫╪┘┌█▄▌▐▀αßΓπΣσµτΦΘΩδ∞φε∩≡±≥≤⌠⌡÷≈°∙·√\u207f²■\u00a0"]⟩),
  ("cp861", ["861", "cp_is", "csibm861", "ibm861"], ⟨0x80, [
    "ÇüéâäàåçêëèÐðÞÄÅÉæÆôöþûÝýÖÜø£Ø₧ƒáíóúÁÍÓÚ¿⌐¬½¼¡«»░▒▓│┤╡╢╖╕╣║╗╝╜╛┐└┴┬├─┼╞╟╚╔╩╦╠═╬╧╨╤╥╙╘╒╓",
    "╫╪┘┌█▄▌▐▀αßΓπΣσµτΦΘΩδ∞φε∩≡±≥≤⌠⌡÷≈°∙·√\u207f²■\u00a0"]⟩),
  ("cp862", ["862", "cspc862latinhebrew", "ibm862"], ⟨0x80, [
    "\u05d0\u05d1\u05d2\u05d3\u05d4\u05d5\u05d6\u05d7\u05d8\u05d9\u05da\u05db\u05dc\u05dd",
    "\u05de\u05df\u05e0\u05e1\u05e2\u05e3\u05e4\u05e5\u05e6\u05e7\u05e8\u05e9\u05ea¢£¥₧ƒáíóú",
    "ñÑªº¿⌐¬½¼¡«»░▒▓│┤╡╢╖╕╣║╗╝╜╛┐└┴┬├─┼╞╟╚╔╩╦╠═╬╧╨╤╥╙╘╒╓╫╪┘┌█▄▌▐▀αßΓπΣσµτΦΘΩδ∞φε∩≡±≥≤⌠⌡÷≈°∙·",
    "√\u207f²■\u00a0"]⟩),
  ("cp863", ["863", "csibm863", "ibm863"], ⟨0x80, [
    "ÇüéâÂà¶çêëèïî‗À§ÉÈÊôËÏûù¤ÔÜ¢£ÙÛƒ¦´óú¨¸³¯Î⌐¬½¼¾«»░▒▓│┤╡╢╖╕╣║╗╝╜╛┐└┴┬├─┼╞╟╚╔╩╦╠═╬╧╨╤╥╙╘╒╓",
    "╫╪┘┌█▄▌▐▀αßΓπΣσµτΦΘΩδ∞φε∩≡±≥≤⌠⌡÷≈°∙·√\u207f²■\u00a0"]⟩),
  ("cp864", ["864", "csibm864", "ibm864"], ⟨0x25, [
    "٪&\x27()*+,\x2d.\x2f0123456789:;<=>?@ABCDEFGHIJKLMNOPQRSTUVWXYZ[\x5c]^_\x60abcdefghijkl",
    "mnopqrstuvwxyz\x7b|\x7d~\x7f°·∙√▒─│┼┤┬├┴┐┌└┘β∞φ±½¼≈«»\ufef7\ufef8\ufffd\ufffd\ufefb",
    "\ufefc\ufffd\u00a0\u00ad\ufe82£¤\ufe84\ufffd\ufffd\ufe8e\ufe8f\ufe95\ufe99،\ufe9d\ufea1",
    "\ufea5\u0660\u0661\u0662\u0663\u0664\u0665\u0666\u0667\u0668\u0669\ufed1\u061b\ufeb1",
    "\ufeb5\ufeb9\u061f¢\ufe80\ufe81\ufe83\ufe85\ufeca\ufe8b\ufe8d\ufe91\ufe93\ufe97\ufe9b",
    "\ufe9f\ufea3\ufea7\ufea9\ufeab\ufead\ufeaf\ufeb3\ufeb7\ufebb\ufebf\ufec1\ufec5\ufecb",
    "\ufecf¦¬÷×\ufec9\u0640\ufed3\ufed7\ufedb\ufedf\ufee3\ufee7\ufeeb\ufeed\ufeef\ufef3",
    "\ufebd\ufecc\ufece\ufecd\ufee1\ufe7d\u0651\ufee5\ufee9\ufeec\ufef0\ufef2\ufed0\ufed5",
    "\ufef5\ufef6\ufedd\ufed9\ufef1■"]⟩),
  ("cp865", ["865", "csibm865", "ibm865"], ⟨0x80, [
    "ÇüéâäàåçêëèïîìÄÅÉæÆôöòûùÿÖÜø£Ø₧ƒáíóúñÑªº¿⌐¬½¼¡«¤░▒▓│┤╡╢╖╕╣║╗╝╜╛┐└┴┬├─┼╞╟╚╔╩╦╠═╬╧╨╤╥╙╘╒╓",
    "╫╪┘┌█▄▌▐▀αßΓπΣσµτΦΘΩδ∞φε∩≡±≥≤⌠⌡÷≈°∙·√\u207f²■\u00a0"]⟩),
  ("cp866", ["866", "csibm866", "ibm866"], ⟨0x80, [
    "АБВГДЕЖЗИЙКЛМНОПРСТУФХЦЧШЩЪЫЬЭЮЯабвгдежзийклмноп░▒▓│┤╡╢╖╕╣║╗╝╜╛┐└┴┬├─┼╞╟╚╔╩╦╠═╬╧╨╤╥╙╘╒╓",
    "╫╪┘┌█▄▌▐▀рстуфхцчшщъыьэюяЁёЄєЇїЎў°∙·√№¤■\u00a0"]⟩),
  ("cp869", ["869", "cp_gr", "csibm869", "ibm869"], ⟨0x80, [
    "\ufffd\ufffd\ufffd\ufffd\ufffd\ufffdΆ\ufffd·¬¦‘’Έ―ΉΊΪΌ\ufffd\ufffdΎΫ©Ώ²³ά£έήίϊΐόύΑΒΓΔΕΖ",
    "Η½ΘΙ«»░▒▓│┤ΚΛΜΝ╣║╗╝ΞΟ┐└┴┬├─┼ΠΡ╚╔╩╦╠═╬ΣΤΥΦΧΨΩαβγ┘┌█▄δε▀ζηθικλμνξοπρσςτ΄\u00ad±υφχ§ψ΅°¨ωϋ",
    "ΰώ■\u00a0"]⟩),
  ("cp874", [], ⟨0x80, [
    "€\ufffd\ufffd\ufffd\ufffd…\ufffd\ufffd\ufffd\ufffd\ufffd\ufffd\ufffd\ufffd\ufffd\ufffd",
    "\ufffd‘’“”•–—\ufffd\ufffd\ufffd\ufffd\ufffd\ufffd\ufffd\ufffd\u00a0กขฃคฅฆงจฉชซฌญฎฏฐฑฒณด",
    "ตถทธนบปผฝพฟภมยรฤลฦวศษสหฬอฮฯะ\u0e31าำ\u0e34\u0e35\u0e36\u0e37\u0e38\u0e39\u0e3a\ufffd",
    "\ufffd\ufffd\ufffd฿เแโใไๅ\u0e46\u0e47\u0e48\u0e49\u0e4a\u0e4b\u0e4c\u0e4d\u0e4e๏๐๑๒๓๔๕๖",
    "๗๘๙๚๛"]⟩),
  ("cp875", [], ⟨0x4, [
    "\u009c\x09\u0086\x7f\u0097\u008d\u008e\x0b\x0c\x0d\x0e\x0f\x10\x11\x12\x13\u009d\u0085",
    "\x08\u0087\x18\x19\u0092\u008f\x1c\x1d\x1e\x1f\u0080\u0081\u0082\u0083\u0084\x0a\x17",
    "\x1b\u0088\u0089\u008a\u008b\u008c\x05\x06\x07\u0090\u0091\x16\u0093\u0094\u0095\u0096",
    "\x04\u0098\u0099\u009a\u009b\x14\x15\u009e\ufffd ΑΒΓΔΕΖΗΘΙ[.<(+!&ΚΛΜΝΞΟΠΡΣ]$*);^\x2d",
    "\x2fΤΥΦΧΨΩΪΫ|,%_>?¨ΆΈΉ\u00a0ΊΌΎΏ\x60:\x23@\x27=\x22΅abcdefghiαβγδεζ°jklmnopqrηθικλμ´~st",
    "uvwxyzνξοπρσ£άέήϊίόύϋώςτυφχψ\x7bABCDEFGHI\u00adωΐΰ‘―\x7dJKLMNOPQR±½\ufffd·’¦\x5c\ufffdS",
    "TUVWXYZ²§\ufffd\ufffd«¬0123456789³©\ufffd\x1a»\u009f"]⟩),
  ("hp_roman8", ["cp1051", "ibm1051", "r8", "roman8"], ⟨0xa1, [
    "ÀÂÈÊËÎÏ´\u02cb\u02c6¨˜ÙÛ₤¯Ýý°ÇçÑñ¡¿¤£¥§ƒ¢âêôûáéóúàèòùäëöüÅîØÆåíøæÄìÖÜÉïßÔÁÃãÐðÍÌÓÒÕõŠšÚ",
    "ŸÿÞþ·µ¶¾—¼½ªº«■»±"]⟩),
  ("iso8859_10", ["csisolatin6", "iso_8859_10", "iso_8859_10_1992", "iso_ir_157", "l6",
    "latin6"], ⟨0xa1, [
    "ĄĒĢĪĨĶ§ĻĐŠŦŽ\u00adŪŊ°ąēģīĩķ·ļđšŧž―ūŋĀÁÂÃÄÅÆĮČÉĘËĖÍÎÏÐŅŌÓÔÕÖŨØŲÚÛÜÝÞßāáâãäåæįčéęëėíîïðņō",
    "óôõöũøųúûüýþĸ"]⟩),
  ("iso8859_11", ["iso_8859_11", "iso_8859_11_2001", "thai"], ⟨0xa1, [
    "กขฃคฅฆงจฉชซฌญฎฏฐฑฒณดตถทธนบปผฝพฟภมยรฤลฦวศษสหฬอฮฯะ\u0e31าำ\u0e34\u0e35\u0e36\u0e37\u0e38",
    "\u0e39\u0e3a\ufffd\ufffd\ufffd\ufffd฿เแโใไๅ\u0e46\u0e47\u0e48\u0e49\u0e4a\u0e4b\u0e4c",
    "\u0e4d\u0e4e๏๐๑๒๓๔๕๖๗๘๙๚๛"]⟩),
  ("iso8859_13", ["iso_8859_13", "l7", "latin7"], ⟨0xa1, [
    "”¢£¤„¦§Ø©Ŗ«¬\u00ad®Æ°±²³“µ¶·ø¹ŗ»¼½¾æĄĮĀĆÄÅĘĒČÉŹĖĢĶĪĻŠŃŅÓŌÕÖ×ŲŁŚŪÜŻŽßąįāćäåęēčéźėģķīļšńņ",
    "óōõö÷ųłśūüżž’"]⟩),
  ("iso8859_14", ["iso_8859_14", "iso_8859_14_1998", "iso_celtic", "iso_ir_199", "l8", "latin8"], ⟨0xa1, [
    "Ḃḃ£ĊċḊ§Ẁ©ẂḋỲ\u00ad®ŸḞḟĠġṀṁ¶ṖẁṗẃṠỳẄẅṡÀÁÂÃÄÅÆÇÈÉÊËÌÍÎÏŴÑÒÓÔÕÖṪØÙÚÛÜÝŶßàáâãäåæçèéêëìíîïŵñò",
    "óôõöṫøùúûüýŷÿ"]⟩),
  ("iso8859_15", ["iso_8859_15", "l9", "latin9"], ⟨0xa4, [
    "€¥Š§š©ª«¬\u00ad®¯°±²³Žµ¶·ž¹º»ŒœŸ¿ÀÁÂÃÄÅÆÇÈÉÊËÌÍÎÏÐÑÒÓÔÕÖ×ØÙÚÛÜÝÞßàáâãäåæçèéêëìíîïðñòóôõ",
    "ö÷øùúûüýþÿ"]⟩),
  ("iso8859_16", ["iso_8859_16", "iso_8859_16_2001", "iso_ir_226", "l10", "latin10"], ⟨0xa1, [
    "ĄąŁ€„Š§š©Ș«Ź\u00adźŻ°±ČłŽ”¶·žčș»ŒœŸżÀÁÂĂÄĆÆÇÈÉÊËÌÍÎÏĐŃÒÓÔŐÖŚŰÙÚÛÜĘȚßàáâăäćæçèéêëìíîïđńò",
    "óôőöśűùúûüęțÿ"]⟩),
  ("iso8859_2", ["csisolatin2", "iso_8859_2", "iso_8859_2_1987", "iso_ir_101", "l2", "latin2"], ⟨0xa1, [
    "Ą˘Ł¤ĽŚ§¨ŠŞŤŹ\u00adŽŻ°ą˛ł´ľś\u02c7¸šşťź˝žżŔÁÂĂÄĹĆÇČÉĘËĚÍÎĎĐŃŇÓÔŐÖ×ŘŮÚŰÜÝŢßŕáâăäĺćçčéęëěí",
    "îďđńňóôőö÷řůúűüýţ˙"]⟩),
  ("iso8859_3", ["csisolatin3", "iso_8859_3", "iso_8859_3_1988", "iso_ir_109", "l3", "latin3"], ⟨0xa1, [
    "Ħ˘£¤\ufffdĤ§¨İŞĞĴ\u00ad\ufffdŻ°ħ²³´µĥ·¸ışğĵ½\ufffdżÀÁÂ\ufffdÄĊĈÇÈÉÊËÌÍÎÏ\ufffdÑÒÓÔĠÖ×ĜÙ",
    "ÚÛÜŬŜßàáâ\ufffdäċĉçèéêëìíîï\ufffdñòóôġö÷ĝùúûüŭŝ˙"]⟩),
  ("iso8859_4", ["csisolatin4", "iso_8859_4", "iso_8859_4_1988", "iso_ir_110", "l4", "latin4"], ⟨0xa1, [
    "ĄĸŖ¤ĨĻ§¨ŠĒĢŦ\u00adŽ¯°ą˛ŗ´ĩļ\u02c7¸šēģŧŊžŋĀÁÂÃÄÅÆĮČÉĘËĖÍÎĪĐŅŌĶÔÕÖ×ØŲÚÛÜŨŪßāáâãäåæįčéęëėí",
    "îīđņōķôõö÷øųúûüũū˙"]⟩),
  ("iso8859_5", ["csisolatincyrillic", "cyrillic", "iso_8859_5", "iso_8859_5_1988",
    "iso_ir_144"], ⟨0xa1, [
    "ЁЂЃЄЅІЇЈЉЊЋЌ\u00adЎЏАБВГДЕЖЗИЙКЛМНОПРСТУФХЦЧШЩЪЫЬЭЮЯабвгдежзийклмнопрстуфхцчшщъыьэюя№ёђ",
    "ѓєѕіїјљњћќ§ўџ"]⟩),
  ("iso8859_6", ["arabic", "asmo_708", "csisolatinarabic", "ecma_114", "iso_8859_6",
    "iso_8859_6_1987", "iso_ir_127"], ⟨0xa1, [
    "\ufffd\ufffd\ufffd¤\ufffd\ufffd\ufffd\ufffd\ufffd\ufffd\ufffd،\u00ad\ufffd\ufffd\ufffd",
    "\ufffd\ufffd\ufffd\ufffd\ufffd\ufffd\ufffd\ufffd\ufffd\ufffd\u061b\ufffd\ufffd\ufffd",
    "\u061f\ufffd\u0621\u0622\u0623\u0624\u0625\u0626\u0627\u0628\u0629\u062a\u062b\u062c",
    "\u062d\u062e\u062f\u0630\u0631\u0632\u0633\u0634\u0635\u0636\u0637\u0638\u0639\u063a",
    "\ufffd\ufffd\ufffd\ufffd\ufffd\u0640\u0641\u0642\u0643\u0644\u0645\u0646\u0647\u0648",
    "\u0649\u064a\u064b\u064c\u064d\u064e\u064f\u0650\u0651\u0652"]⟩),
  ("iso8859_7", ["csisolatingreek", "ecma_118", "elot_928", "greek", "greek8", "iso_8859_7",
    "iso_8859_7_1987", "iso_ir_126"], ⟨0xa1, [
    "‘’£€₯¦§¨©\u037a«¬\u00ad\ufffd―°±²³΄΅Ά·ΈΉΊ»Ό½ΎΏΐΑΒΓΔΕΖΗΘΙΚΛΜΝΞΟΠΡ\ufffdΣΤΥΦΧΨΩΪΫάέήίΰαβγ",
    "δεζηθικλμνξοπρςστυφχψωϊϋόύώ"]⟩),
  ("iso8859_8", ["csisolatinhebrew", "hebrew", "iso_8859_8", "iso_8859_8_1988", "iso_ir_138"], ⟨0xa1, [
    "\ufffd¢£¤¥¦§¨©×«¬\u00ad®¯°±²³´µ¶·¸¹÷»¼½¾\ufffd\ufffd\ufffd\ufffd\ufffd\ufffd\ufffd",
    "\ufffd\ufffd\ufffd\ufffd\ufffd\ufffd\ufffd\ufffd\ufffd\ufffd\ufffd\ufffd\ufffd\ufffd",
    "\ufffd\ufffd\ufffd\ufffd\ufffd\ufffd\ufffd\ufffd\ufffd\ufffd\ufffd‗\u05d0\u05d1\u05d2",
    "\u05d3\u05d4\u05d5\u05d6\u05d7\u05d8\u05d9\u05da\u05db\u05dc\u05dd\u05de\u05df\u05e0",
    "\u05e1\u05e2\u05e3\u05e4\u05e5\u05e6\u05e7\u05e8\u05e9\u05ea\ufffd\ufffd\u200e\u200f"]⟩),
  ("iso8859_9", ["csisolatin5", "iso_8859_9", "iso_8859_9_1989", "iso_ir_148", "l5", "latin5"], ⟨0xd0, [
    "ĞÑÒÓÔÕÖ×ØÙÚÛÜİŞßàáâãäåæçèéêëìíîïğñòóôõö÷øùúûüışÿ"]⟩),
  ("koi8_r", ["cskoi8r"], ⟨0x80, [
    "─│┌┐└┘├┤┬┴┼▀▄█▌▐░▒▓⌠■∙√≈≤≥\u00a0⌡°²·÷═║╒ё╓╔╕╖╗╘╙╚╛╜╝╞╟╠╡Ё╢╣╤╥╦╧╨╩╪╫╬©юабцдефгхийклмнопя",
    "рстужвьызшэщчъЮАБЦДЕФГХИЙКЛМНОПЯРСТУЖВЬЫЗШЭЩЧЪ"]⟩),
  ("koi8_t", [], ⟨0x80, [
    "қғ‚Ғ„…†‡\ufffd‰ҳ‹ҲҷҶ\ufffdҚ‘’“”•–—\ufffd™\ufffd›\ufffd\ufffd\ufffd\ufffd\ufffdӯӮё¤ӣ¦§",
    "\ufffd\ufffd\ufffd«¬\u00ad®\ufffd°±²Ё\ufffdӢ¶·\ufffd№\ufffd»\ufffd\ufffd\ufffd©юабцдефг",
    "хийклмнопярстужвьызшэщчъЮАБЦДЕФГХИЙКЛМНОПЯРСТУЖВЬЫЗШЭЩЧЪ"]⟩),
  ("koi8_u", [], ⟨0x80, [
    "─│┌┐└┘├┤┬┴┼▀▄█▌▐░▒▓⌠■∙√≈≤≥\u00a0⌡°²·÷═║╒ёє╔ії╗╘╙╚╛ґ╝╞╟╠╡ЁЄ╣ІЇ╦╧╨╩╪Ґ╬©юабцдефгхийклмнопя",
    "рстужвьызшэщчъЮАБЦДЕФГХИЙКЛМНОПЯРСТУЖВЬЫЗШЭЩЧЪ"]⟩),
  ("kz1048", ["kz_1048", "rk1048", "strk1048_2002"], ⟨0x80, [
    "ЂЃ‚ѓ„…†‡€‰Љ‹ЊҚҺЏђ‘’“”•–—\ufffd™љ›њқһџ\u00a0ҰұӘ¤Ө¦§Ё©Ғ«¬\u00ad®Ү°±Ііөµ¶·ё№ғ»әҢңүАБВГДЕЖЗ",
    "ИЙКЛМНОПРСТУФХЦЧШЩЪЫЬЭЮЯабвгдежзийклмнопрстуфхцчшщъыьэюя"]⟩),
  ("mac_arabic", [], ⟨0x20, [
    "\ufffd\ufffd\ufffd\ufffd\ufffd%\ufffd\ufffd\ufffd\ufffd\ufffd\ufffd,\ufffd\ufffd\ufffd0",
    "123456789\ufffd;\ufffd\ufffd\ufffd?@ABCDEFGHIJKLMNOPQRSTUVWXYZ\ufffd\ufffd\ufffd\ufffd",
    "\ufffd\x60abcdefghijklmnopqrstuvwxyz\ufffd\ufffd\ufffd~\x7fÄ\u00a0ÇÉÑÖÜáàâä\u06ba«çéèêë",
    "í…îïñó»ôö÷úùûü !\x22\x23$٪&\x27()*+،\x2d.\x2f\u0660\u0661\u0662\u0663\u0664\u0665\u0666",
    "\u0667\u0668\u0669:\u061b<=>\u061f❊\u0621\u0622\u0623\u0624\u0625\u0626\u0627\u0628",
    "\u0629\u062a\u062b\u062c\u062d\u062e\u062f\u0630\u0631\u0632\u0633\u0634\u0635\u0636",
    "\u0637\u0638\u0639\u063a[\x5c]^_\u0640\u0641\u0642\u0643\u0644\u0645\u0646\u0647\u0648",
    "\u0649\u064a\u064b\u064c\u064d\u064e\u064f\u0650\u0651\u0652\u067e\u0679\u0686\u06d5",
    "\u06a4\u06af\u0688\u0691\x7b|\x7d\u0698\u06d2"]⟩),
  ("mac_croatian", [], ⟨0x80, [
    "ÄÅÇÉÑÖÜáàâäãåçéèêëíìîïñóòôöõúùûü†°¢£§•¶ß®Š™´¨≠ŽØ∞±≤≥∆µ∂∑∏š∫ªºΩžø¿¡¬√ƒ≈Ć«Č…\u00a0ÀÃÕŒœĐ—",
    "“”‘’÷◊\uf8ff©⁄€‹›Æ»–·‚„‰ÂćÁčÈÍÎÏÌÓÔđÒÚÛÙı\u02c6˜¯πË˚¸Êæ\u02c7"]⟩),
  ("mac_cyrillic", ["maccyrillic"], ⟨0x80, [
    "АБВГДЕЖЗИЙКЛМНОПРСТУФХЦЧШЩЪЫЬЭЮЯ†°Ґ£§•¶І®©™Ђђ≠Ѓѓ∞±≤≥іµґЈЄєЇїЉљЊњјЅ¬√ƒ≈∆«»…\u00a0ЋћЌќѕ–—",
    "“”‘’÷„ЎўЏџ№Ёёяабвгдежзийклмнопрстуфхцчшщъыьэю€"]⟩),
  ("mac_farsi", [], ⟨0x20, [
    "\ufffd\ufffd\ufffd\ufffd\ufffd%\ufffd\ufffd\ufffd\ufffd\ufffd\ufffd,\ufffd\ufffd\ufffd0",
    "123456789\ufffd;\ufffd\ufffd\ufffd?@ABCDEFGHIJKLMNOPQRSTUVWXYZ\ufffd\ufffd\ufffd\ufffd",
    "\ufffd\x60abcdefghijklmnopqrstuvwxyz\ufffd\ufffd\ufffd~\x7fÄ\u00a0ÇÉÑÖÜáàâä\u06ba«çéèêë",
    "í…îïñó»ôö÷úùûü !\x22\x23$٪&\x27()*+،\x2d.\x2f۰۱۲۳۴۵۶۷۸۹:\u061b<=>\u061f❊\u0621\u0622",
    "\u0623\u0624\u0625\u0626\u0627\u0628\u0629\u062a\u062b\u062c\u062d\u062e\u062f\u0630",
    "\u0631\u0632\u0633\u0634\u0635\u0636\u0637\u0638\u0639\u063a[\x5c]^_\u0640\u0641\u0642",
    "\u0643\u0644\u0645\u0646\u0647\u0648\u0649\u064a\u064b\u064c\u064d\u064e\u064f\u0650",
    "\u0651\u0652\u067e\u0679\u0686\u06d5\u06a4\u06af\u0688\u0691\x7b|\x7d\u0698\u06d2"]⟩),
  ("mac_greek", ["macgreek"], ⟨0x80, [
    "Ä¹²É³ÖÜ΅àâä΄¨çéèêë£™îï•½‰ôö¦€ùûü†ΓΔΘΛΞΠß®©ΣΪ§≠°·Α±≤≥¥ΒΕΖΗΙΚΜΦΫΨΩάΝ¬ΟΡ≈Τ«»…\u00a0ΥΧΆΈœ–―",
    "“”‘’÷ΉΊΌΎέήίόΏύαβψδεφγηιξκλμνοπώρστθωςχυζϊϋΐΰ\u00ad"]⟩),
  ("mac_iceland", ["maciceland"], ⟨0x80, [
    "ÄÅÇÉÑÖÜáàâäãåçéèêëíìîïñóòôöõúùûüÝ°¢£§•¶ß®©™´¨≠ÆØ∞±≤≥¥µ∂∑∏π∫ªºΩæø¿¡¬√ƒ≈∆«»…\u00a0ÀÃÕŒœ–—",
    "“”‘’÷◊ÿŸ⁄€ÐðÞþý·‚„‰ÂÊÁËÈÍÎÏÌÓÔ\uf8ffÒÚÛÙı\u02c6˜¯˘˙˚¸˝˛\u02c7"]⟩),
  ("mac_latin2", ["mac_centeuro", "maccentraleurope", "maclatin2"], ⟨0x80, [
    "ÄĀāÉĄÖÜáąČäčĆćéŹźĎíďĒēĖóėôöõúĚěü†°Ę£§•¶ß®©™ę¨≠ģĮįĪ≤≥īĶ∂∑łĻļĽľĹĺŅņŃ¬√ńŇ∆«»…\u00a0ňŐÕőŌ–—",
    "“”‘’÷◊ōŔŕŘ‹›řŖŗŠ‚„šŚśÁŤťÍŽžŪÓÔūŮÚůŰűŲųÝýķŻŁżĢ\u02c7"]⟩),
  ("mac_roman", ["macintosh", "macroman"], ⟨0x80, [
    "ÄÅÇÉÑÖÜáàâäãåçéèêëíìîïñóòôöõúùûü†°¢£§•¶ß®©™´¨≠ÆØ∞±≤≥¥µ∂∑∏π∫ªºΩæø¿¡¬√ƒ≈∆«»…\u00a0ÀÃÕŒœ–—",
    "“”‘’÷◊ÿŸ⁄€‹›ﬁﬂ‡·‚„‰ÂÊÁËÈÍÎÏÌÓÔ\uf8ffÒÚÛÙı\u02c6˜¯˘˙˚¸˝˛\u02c7"]⟩),
  ("mac_romanian", [], ⟨0x80, [
    "ÄÅÇÉÑÖÜáàâäãåçéèêëíìîïñóòôöõúùûü†°¢£§•¶ß®©™´¨≠ĂȘ∞±≤≥¥µ∂∑∏π∫ªºΩăș¿¡¬√ƒ≈∆«»…\u00a0ÀÃÕŒœ–—",
    "“”‘’÷◊ÿŸ⁄€‹›Țț‡·‚„‰ÂÊÁËÈÍÎÏÌÓÔ\uf8ffÒÚÛÙı\u02c6˜¯˘˙˚¸˝˛\u02c7"]⟩),
  ("mac_turkish", ["macturkish"], ⟨0x80, [
    "ÄÅÇÉÑÖÜáàâäãåçéèêëíìîïñóòôöõúùûü†°¢£§•¶ß®©™´¨≠ÆØ∞±≤≥¥µ∂∑∏π∫ªºΩæø¿¡¬√ƒ≈∆«»…\u00a0ÀÃÕŒœ–—",
    "“”‘’÷◊ÿŸĞğİıŞş‡·‚„‰ÂÊÁËÈÍÎÏÌÓÔ\uf8ffÒÚÛÙ\uf8a0\u02c6˜¯˘˙˚¸˝˛\u02c7"]⟩),
  ("palmos", [], ⟨0x80, [
    "€\u0081‚ƒ„…†‡\u02c6‰Š‹Œ♦♣♥♠‘’“”•–—˜™š\u009bœ\u009d\u009eŸ\u00a0¡¢£¤¥¦§¨©ª«¬\u00ad®¯°±²³",
    "´µ¶·¸¹º»¼½¾¿ÀÁÂÃÄÅÆÇÈÉÊËÌÍÎÏÐÑÒÓÔÕÖ×ØÙÚÛÜÝÞßàáâãäåæçèéêëìíîïðñòóôõö÷øùúûüýþÿ"]⟩),
  ("ptcp154", ["cp154", "csptcp154", "cyrillic_asian", "pt154"], ⟨0x80, [
    "ҖҒӮғ„…ҶҮҲүҠӢҢҚҺҸҗ‘’“”•–—ҳҷҡӣңқһҹ\u00a0ЎўЈӨҘҰ§Ё©Ә«¬ӯ®Ҝ°ұІіҙө¶·ё№ә»јҪҫҝАБВГДЕЖЗИЙКЛМНОПРС",
    "ТУФХЦЧШЩЪЫЬЭЮЯабвгдежзийклмнопрстуфхцчшщъыьэюя"]⟩),
  ("tis_620", ["iso_ir_166", "tis620", "tis_620_0", "tis_620_2529_0", "tis_620_2529_1"], ⟨0xa0, [
    "\ufffdกขฃคฅฆงจฉชซฌญฎฏฐฑฒณดตถทธนบปผฝพฟภมยรฤลฦวศษสหฬอฮฯะ\u0e31าำ\u0e34\u0e35\u0e36\u0e37",
    "\u0e38\u0e39\u0e3a\ufffd\ufffd\ufffd\ufffd฿เแโใไๅ\u0e46\u0e47\u0e48\u0e49\u0e4a\u0e4b",
    "\u0e4c\u0e4d\u0e4e๏๐๑๒๓๔๕๖๗๘๙๚๛"]⟩)]

end FixedReply.Text
