import FixedReply.Text.Chart

namespace FixedReply.Text

def cp932Additions : Chart := .ofRuns [
  (0, 32, "～∥"),
  (0, 60, "－"),
  (0, 80, "￠￡"),
  (1, 43, "￢"),
  (12, 0, "①②③④⑤⑥⑦⑧⑨⑩⑪⑫⑬⑭⑮⑯⑰⑱⑲⑳ⅠⅡⅢⅣⅤⅥⅦⅧⅨⅩ\ufffd㍉㌔㌢㍍㌘㌧㌃㌶㍑㍗㌍㌦㌣㌫㍊㌻㎜㎝㎞㎎㎏㏄㎡"),
  (12, 62, "㍻〝〟№㏍℡㊤㊥㊦㊧㊨㈱㈲㈹㍾㍽㍼\ufffd\ufffd\ufffd∮∑\ufffd\ufffd\ufffd∟⊿"),
  (88, 0, "纊褜鍈銈蓜俉炻昱棈鋹曻彅丨仡仼伀伃伹佖侒侊侚侔俍偀倢俿倞偆偰偂傔僴僘兊兤冝冾凬刕劜劦勀勛匀匇匤卲厓厲叝\ufa0e咜咊咩哿喆坙坥垬埈埇\ufa0f\ufa10增墲夋奓奛奝奣妤妺孖寀甯寘寬尞岦岺峵崧嵓"),
  (88, 84, "\ufa11嵂嵭嶸嶹巐弡弴彧德"),
  (89, 0, "忞恝悅悊惞惕愠惲愑愷愰憘戓抦揵摠撝擎敎昀昕昻昉昮昞昤晥晗晙\ufa12晳暙暠暲暿曺朎\uf929杦枻桒柀栁桄棏\ufa13楨\ufa14榘槢樰橫橆橳橾櫢櫤毖氿汜沆汯泚洄涇浯涖涬淏淸淲淼渹湜渧渼溿澈澵"),
  (89, 79, "濵瀅瀇瀨炅炫焏焄煜煆煇\ufa15燁燾犱"),
  (90, 0, "犾猤\ufa16獷玽珉珖珣珒琇珵琦琪琩琮瑢璉璟甁畯皂皜皞皛皦\ufa17睆劯砡硎硤硺礰\ufa18\ufa19\ufa1a禔\ufa1b禛竑竧\ufa1c竫箞\ufa1d絈絜綷綠緖繒罇羡\ufa1e"),
  (90, 54, "茁荢荿菇菶葈蒴蕓蕙蕫\ufa1f薰\ufa20\ufa21蠇裵訒訷詹誧誾諟\ufa22諶譓譿賰賴贒赶\ufa23軏\ufa24\ufa25遧郞\ufa26鄕鄧釚"),
  (91, 0, "釗釞釭釮釤釥鈆鈐鈊鈺鉀鈼鉎鉙鉑鈹鉧銧鉷鉸鋧鋗鋙鋐\ufa27鋕鋠鋓錥錡鋻\ufa28錞鋿錝錂鍰鍗鎤鏆鏞鏸鐱鑅鑈閒\uf9dc\ufa29隝隯霳霻靃靍靏靑靕顗顥\ufa2a\ufa2b餧\ufa2c馞"),
  (91, 64, "驎髙髜魵魲鮏鮱鮻鰀鵰鵫\ufa2d鸙黑\ufffd\ufffdⅰⅱⅲⅳⅴⅵⅶⅷⅸⅹ\ufffd￤＇＂")]

end FixedReply.Text
