import BlockLang.Encoding.CharSet.Basic

/-! # GBK and GB 18030

What GBK changes in GB 2312 and adds to it besides ideographs, and what GB 18030 adds to that. Rows
and cells are the bytes of the encodings. -/

namespace BlockLang.CharSet

/-- The symbols that GBK changes and adds. -/
def gbkSymbols : CharSet := ⟨[
  ⟨0xa1, 0xa4, "·�����—"⟩,
  ⟨0xa2, 0xa1, "ⅰⅱⅲⅳⅴⅵⅶⅷⅸⅹ"⟩,
  ⟨0xa6, 0xe0, "︵︶︹︺︿﹀︽︾﹁﹂﹃﹄��︻︼︷︸︱�︳︴"⟩,
  ⟨0xa8, 0x40, "ˊˋ˙–―‥‵℅℉↖↗↘↙∕∟∣≒≦≧⊿═║╒╓╔╕╖╗╘╙╚╛╜╝╞╟╠╡╢╣╤╥╦╧╨╩╪╫╬╭╮╯╰╱╲╳▁▂▃▄▅▆▇"⟩,
  ⟨0xa8, 0x80, "█▉▊▋▌▍▎▏▓▔▕▼▽◢◣◤◥☉⊕〒〝〞"⟩,
  ⟨0xa8, 0xbb, "ɑ�ńň�ɡ"⟩,
  ⟨0xa9, 0x40, "〡〢〣〤〥〦〧〨〩㊣㎎㎏㎜㎝㎞㎡㏄㏎㏑㏒㏕︰￢￤�℡㈱�‐���ー゛゜ヽヾ〆ゝゞ﹉﹊﹋﹌﹍﹎﹏﹐﹑﹒﹔﹕﹖﹗﹙﹚﹛﹜﹝﹞﹟﹠﹡"⟩,
  ⟨0xa9, 0x80, "﹢﹣﹤﹥﹦﹨﹩﹪﹫"⟩,
  ⟨0xa9, 0x96, "〇"⟩]⟩

/-- The cells that GBK leaves over, in order: a row, the first cell and their number. -/
def gbkGaps : List (Nat × Nat × Nat) :=
  [(0xa2, 0xab, 6), (0xa2, 0xe3, 2), (0xa2, 0xef, 2), (0xa2, 0xfd, 2), (0xa4, 0xf4, 11),
   (0xa5, 0xf7, 8), (0xa6, 0xb9, 8), (0xa6, 0xd9, 7), (0xa6, 0xec, 2), (0xa6, 0xf3, 1),
   (0xa6, 0xf6, 9), (0xa7, 0xc2, 15), (0xa7, 0xf2, 13), (0xa8, 0x96, 11), (0xa8, 0xbc, 1),
   (0xa8, 0xbf, 1), (0xa8, 0xc1, 4), (0xa8, 0xea, 21), (0xa9, 0x58, 1), (0xa9, 0x5b, 1),
   (0xa9, 0x5d, 3), (0xa9, 0x89, 13), (0xa9, 0x97, 13), (0xa9, 0xf0, 15), (0xd7, 0xfa, 5),
   (0xfe, 0x50, 47), (0xfe, 0x80, 33)]

/-- The symbols and components that GB 18030 adds, all of them in gaps of GBK. -/
def gb18030Symbols : CharSet := ⟨[
  ⟨0xa2, 0xe3, "€"⟩,
  ⟨0xa8, 0xbf, "ǹ"⟩,
  ⟨0xa9, 0x89, "〾⿰⿱⿲⿳⿴⿵⿶⿷⿸⿹⿺⿻"⟩,
  ⟨0xfe, 0x50, "⺁���⺄㑳㑇⺈⺋�㖞㘚㘎⺌⺗㥮㤘�㧏㧟㩳㧐��㭎㱮㳠⺧��⺪䁖䅟⺮䌷⺳⺶⺷�䎱䎬⺻䏝䓖䙡䙌"⟩,
  ⟨0xfe, 0x80, "䜣䜩䝼䞍⻊䥇䥺䥽䦂䦃䦅䦆䦟䦛䦷䦶��䲣䲟䲠䲡䱷䲢䴓䴔䴕䴖䴗䴘䴙䶮"⟩]⟩

end BlockLang.CharSet
