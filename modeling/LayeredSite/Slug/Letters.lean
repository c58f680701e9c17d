namespace LayeredSite.Slug

/-- Spellings in ASCII, each with the letters, figures and signs that have it. -/
def letters : List (String × String) := [
  ("(1)", "⑴"), ("(10)", "⑽"), ("(11)", "⑾"), ("(12)", "⑿"), ("(13)", "⒀"), ("(14)", "⒁"),
  ("(15)", "⒂"), ("(16)", "⒃"), ("(17)", "⒄"), ("(18)", "⒅"), ("(19)", "⒆"), ("(2)", "⑵"),
  ("(20)", "⒇"), ("(3)", "⑶"), ("(4)", "⑷"), ("(5)", "⑸"), ("(6)", "⑹"), ("(7)", "⑺"),
  ("(8)", "⑻"), ("(9)", "⑼"), ("(a)", "⒜"), ("(b)", "⒝"), ("(c)", "©⒞"), ("(d)", "⒟"),
  ("(e)", "⒠"), ("(f)", "⒡"), ("(g)", "⒢"), ("(h)", "⒣"), ("(i)", "⒤"), ("(j)", "⒥"),
  ("(k)", "⒦"), ("(l)", "⒧"), ("(m)", "⒨"), ("(n)", "⒩"), ("(o)", "⒪"), ("(p)", "⒫"),
  ("(q)", "⒬"), ("(r)", "®⒭"), ("(s)", "⒮"), ("(t)", "⒯"), ("(u)", "⒰"), ("(v)", "⒱"),
  ("(w)", "⒲"), ("(x)", "⒳"), ("(y)", "⒴"), ("(z)", "⒵"), ("0", "٠۰०০๐⁰₀⓪０𝟎𝟘𝟢𝟬𝟶"), ("0/3", "↉"),
  ("1", "¹١۱१১๑₁①１𝟏𝟙𝟣𝟭𝟷"), ("1.", "⒈"), ("1/", "⅟"), ("1/10", "⅒"), ("1/2", "½"), ("1/3", "⅓"),
  ("1/4", "¼"), ("1/5", "⅕"), ("1/6", "⅙"), ("1/7", "⅐"), ("1/8", "⅛"), ("1/9", "⅑"),
  ("10", "⑩"), ("10.", "⒑"), ("11", "⑪"), ("11.", "⒒"), ("12", "⑫"), ("12.", "⒓"), ("13", "⑬"),
  ("13.", "⒔"), ("14", "⑭"), ("14.", "⒕"), ("15", "⑮"), ("15.", "⒖"), ("16", "⑯"), ("16.", "⒗"),
  ("17", "⑰"), ("17.", "⒘"), ("18", "⑱"), ("18.", "⒙"), ("19", "⑲"), ("19.", "⒚"),
  ("2", "²٢۲२২๒₂②２𝟐𝟚𝟤𝟮𝟸"), ("2.", "⒉"), ("2/3", "⅔"), ("2/5", "⅖"), ("20", "⑳"), ("20.", "⒛"),
  ("3", "³٣۳३৩๓₃③３𝟑𝟛𝟥𝟯𝟹"), ("3.", "⒊"), ("3/4", "¾"), ("3/5", "⅗"), ("3/8", "⅜"),
  ("4", "٤۴४৪๔⁴₄④４𝟒𝟜𝟦𝟰𝟺"), ("4.", "⒋"), ("4/5", "⅘"), ("5", "٥۵५৫๕⁵₅⑤５𝟓𝟝𝟧𝟱𝟻"), ("5.", "⒌"),
  ("5/6", "⅚"), ("5/8", "⅝"), ("6", "٦۶६৬๖⁶₆⑥６𝟔𝟞𝟨𝟲𝟼"), ("6.", "⒍"), ("7", "٧۷७৭๗⁷₇⑦７𝟕𝟟𝟩𝟳𝟽"),
  ("7.", "⒎"), ("7/8", "⅞"), ("8", "٨۸८৮๘⁸₈⑧８𝟖𝟠𝟪𝟴𝟾"), ("8.", "⒏"), ("9", "٩۹९৯๙⁹₉⑨９𝟗𝟡𝟫𝟵𝟿"),
  ("9.", "⒐"),
  ("a", "ªÀÁÂÃÄÅàáâãäåĀāĂăĄąǍǎǞǟǠǡǺǻȀȁȂȃȦȧȺɐɑɒΆΑάαАаӐӑӒӓԱաآاَअะัაḀḁẠạẢảẤấẦầẨẩẪẫẬậẮắẰằẲẳẴẵẶặἀἁ"),
  ("a", "ἂἃἄἅἆἇἈἉἊἋἌἍἎἏὰάᾀᾁᾂᾃᾄᾅᾆᾇᾈᾉᾊᾋᾌᾍᾎᾏᾰᾱᾲᾳᾴᾶᾷᾸᾹᾺΆᾼₐÅⒶⓐぁあァアＡａｧｱ𝐀𝐚𝐴𝑎𝑨𝒂𝒜𝒶𝓐𝓪𝔄𝔞𝔸𝕒𝕬𝖆𝖠𝖺𝗔𝗮𝘈𝘢𝘼𝙖𝙰𝚊"),
  ("a.m.", "㏂"), ("a/c", "℀"), ("a/s", "℁"), ("aa", "आाา"), ("ae", "ÆæǣǽӔӕแ"), ("ai", "ऐैใไ"),
  ("am", "ำ"), ("an", "ً"), ("ao", "ๅ"), ("au", "औौ㍳"),
  ("b", "ƀƁƂƃɃɓʙΒβϐБбԲբבبबบბḂḃḄḅḆḇℬⒷⓑＢｂ𝐁𝐛𝐵𝑏𝑩𝒃𝒷𝓑𝓫𝔅𝔟𝔹𝕓𝕭𝖇𝖡𝖻𝗕𝗯𝘉𝘣𝘽𝙗𝙱𝚋"), ("ba", "ばバ"), ("bar", "㍴"),
  ("be", "べベ"), ("bh", "भ"), ("bi", "びビ"), ("bo", "ぼボ"), ("bq", "㏃"), ("bu", "ぶブ"),
  ("c", "ÇçĆćĈĉĊċČčƇƈȻȼचḈḉℂℭⅭⅽⒸⓒＣｃ𝐂𝐜𝐶𝑐𝑪𝒄𝒞𝒸𝓒𝓬𝔠𝕔𝕮𝖈𝖢𝖼𝗖𝗰𝘊𝘤𝘾𝙘𝙲𝚌"), ("c/", "¢"), ("c/o", "℅"),
  ("c/u", "℆"), ("cal", "㎈"), ("cc", "㏄"), ("cch", "จ"), ("cd", "㏅"),
  ("ch", "ЧчҶҷҸҹҼҽҾҿӋӌӴӵՃՉճչچछฉชซฌჩჭ"), ("chi", "ちチﾁ"), ("cj", "ɕ"), ("cm", "㎝"), ("cm2", "㎠"),
  ("cm3", "㎤"), ("co.", "㏇"),
  ("d", "ÐðĎďĐđƉƊƋƌɖɗΔδДдԴդדدضदฎดდḊḋḌḍḎḏḐḑḒḓⅅⅆⅮⅾⒹⓓＤｄ𝐃𝐝𝐷𝑑𝑫𝒅𝒟𝒹𝓓𝓭𝔇𝔡𝔻𝕕𝕯𝖉𝖣𝖽𝗗𝗱𝘋𝘥𝘿𝙙𝙳𝚍"), ("da", "だダ㍲"),
  ("db", "ȸ㏈"), ("dd", "ڈड"), ("ddh", "ढ"), ("de", "でデ"), ("deg", "°"), ("dh", "ذध"),
  ("di", "ぢヂ"), ("dj", "Ђђ"), ("dl", "㎗"), ("dm", "㍷"), ("dm2", "㍸"), ("dm3", "㍹"), ("do", "どド"),
  ("du", "づヅ"), ("dz", "ǄǅǆǱǲǳʣЅѕӠӡՁձძ"), ("dzh", "Џџ"),
  ("e", "ÈÉÊËèéêëĒēĔĕĖėĘęĚěƎƐǝȄȅȆȇȨȩɆɇɘɛɜɞΈΉΕΗέήεηϵЕЭеэѢѣѦѧӘәӬӭԵԷԸեէըऎएॆेเეჱḔḕḖḗḘḙḚḛḜḝẸẹẺẻẼẽẾ"),
  ("e", "ếỀềỂểỄễỆệἐἑἒἓἔἕἘἙἚἛἜἝἠἡἢἣἤἥἦἧἨἩἪἫἬἭἮἯὲέὴήᾐᾑᾒᾓᾔᾕᾖᾗᾘᾙᾚᾛᾜᾝᾞᾟῂῃῄῆῇῈΈῊΉῌₑℯℰⅇⒺⓔぇえェエＥｅｪｴ𝐄𝐞𝐸"),
  ("e", "𝑒𝑬𝒆𝓔𝓮𝔈𝔢𝔼𝕖𝕰𝖊𝖤𝖾𝗘𝗲𝘌𝘦𝙀𝙚𝙴𝚎"), ("en", "ऍॅ"), ("eur", "€"), ("ew", "և"),
  ("f", "ƑƒɸФфѲѳՖֆفฝฟჶḞḟℱⒻⓕＦｆ𝐅𝐟𝐹𝑓𝑭𝒇𝒻𝓕𝓯𝔉𝔣𝔽𝕗𝕱𝖋𝖥𝖿𝗙𝗳𝘍𝘧𝙁𝙛𝙵𝚏"), ("fax", "℻"), ("ff", "ﬀ"),
  ("ffi", "ﬃ"), ("ffl", "ﬄ"), ("fi", "ﬁ"), ("fl", "ﬂ"), ("fm", "㎙"),
  ("g", "ĜĝĞğĠġĢģƓƔǤǥǦǧǴǵɠɡɢɣΓγГгҐґҒғԳգגغگगგḠḡℊⒼⓖＧｇ𝐆𝐠𝐺𝑔𝑮𝒈𝒢𝓖𝓰𝔊𝔤𝔾𝕘𝕲𝖌𝖦𝗀𝗚𝗴𝘎𝘨𝙂𝙜𝙶𝚐"), ("ga", "がガ"),
  ("gb", "㎇"), ("ge", "げゲ"), ("gh", "Ղղघღ"), ("ghz", "㎓"), ("gi", "ぎギ"), ("gj", "Ѓѓ"),
  ("go", "ごゴ"), ("gpa", "㎬"), ("gu", "ぐグ"), ("gy", "㏉"),
  ("h", "ĤĥĦħȞȟʜʰҲҳҺһՀհהحهھःहหฮჰḢḣḤḥḦḧḨḩḪḫẖₕℋℌℍℎⒽⓗＨｈ𝐇𝐡𝐻𝑯𝒉𝒽𝓗𝓱𝔥𝕙𝕳𝖍𝖧𝗁𝗛𝗵𝘏𝘩𝙃𝙝𝙷𝚑"), ("ha", "はハ㏊ﾊ"),
  ("he", "へヘﾍ"), ("hi", "ひヒﾋ"), ("ho", "ほホﾎ"), ("hp", "㏋"), ("hpa", "㍱"), ("hu", "Ƕふフﾌ"),
  ("hv", "ƕ"), ("hz", "㎐"),
  ("i", "ÌÍÎÏìíîïĨĩĪīĬĭĮįİıƗǏǐȈȉȊȋɨɩΊΐΙΪίιϊІЍИЙийіѝӢӣӤӥԻիِइिิიḬḭḮḯỈỉỊịἰἱἲἳἴἵἶἷἸἹἺἻἼἽἾἿὶίιῐῑῒΐ"),
  ("i", "ῖῗῘῙῚΊⁱℐℑℹⅈⅠⅰⒾⓘぃいィイＩｉｨｲ𝐈𝐢𝐼𝑖𝑰𝒊𝒾𝓘𝓲𝔦𝕀𝕚𝕴𝖎𝖨𝗂𝗜𝗶𝘐𝘪𝙄𝙞𝙸𝚒"), ("ia", "Яя"), ("ie", "ЀЄѐєѤѥѨѩӖӗ"),
  ("ii", "ईीีⅡⅱ"), ("iii", "Ⅲⅲ"), ("ij", "Ĳĳ"), ("in", "ٍ㏌"), ("io", "ЁёѬѭ"), ("iu", "Юю㍺"),
  ("iv", "Ⅳⅳ"), ("ix", "Ⅸⅸ"), ("j", "ĴĵǰȷɈɉɟʝʲϳЈјՋջجजჯⅉⒿⓙＪｊ𝐉𝐣𝐽𝑗𝑱𝒋𝒥𝒿𝓙𝓳𝔍𝔧𝕁𝕛𝕵𝖏𝖩𝗃𝗝𝗷𝘑𝘫𝙅𝙟𝙹𝚓"),
  ("jh", "झ"), ("k", "ĶķĸƘƙǨǩΚκϰКкҚқҜҝҞҟҠҡӃӄԿՔկքךכكکकกკქḰḱḲḳḴḵₖKⓀⓚＫｋ𝐊𝐤𝐾𝑘𝑲𝒌𝒦𝓀𝓚𝓴𝔎𝔨𝕂𝕜𝕶𝖐𝖪𝗄𝗞𝗸𝘒𝘬𝙆𝙠𝙺𝚔"),
  ("ka", "かゕカヵ㎄ｶ"), ("kb", "㎅"), ("kcal", "㎉"), ("ke", "けゖケヶｹ"), ("kg", "㎏"),
  ("kh", "ΧχХхԽխחخखขฃคฅฆხ"), ("khz", "㎑"), ("ki", "きキｷ"), ("kj", "Ќќ"), ("kk", "㏍"), ("kl", "㎘"),
  ("km", "㎞㏎"), ("km2", "㎢"), ("km3", "㎦"), ("ko", "こコｺ"), ("kpa", "㎪"), ("ks", "ΞѮѯ"),
  ("kt", "㏏"), ("ku", "くクｸ"), ("kv", "㎸"), ("kw", "㎾"),
  ("l", "ĹĺĻļĽľĿŀŁłƚȽɫɬɭʎʟˡΛλЛлԼլלلऌलळลฦฬლḶḷḸḹḺḻḼḽₗℒℓⅬⅼⓁⓛＬｌ𝐋𝐥𝐿𝑙𝑳𝒍𝓁𝓛𝓵𝔏𝔩𝕃𝕝𝕷𝖑𝖫𝗅𝗟𝗹𝘓𝘭𝙇𝙡𝙻𝚕"),
  ("lj", "ǇǈǉЉљ"), ("lll", "ऴ"), ("lm", "㏐"), ("ln", "㏑"), ("log", "㏒"), ("lx", "㏓"),
  ("m", "ƜɯɱΜμМмՄմםמمमมმḾḿṀṁṂṃₘℳⅯⅿⓂⓜＭｍ𝐌𝐦𝑀𝑚𝑴𝒎𝓂𝓜𝓶𝔐𝔪𝕄𝕞𝕸𝖒𝖬𝗆𝗠𝗺𝘔𝘮𝙈𝙢𝙼𝚖"), ("m2", "㎡"), ("m3", "㎥"),
  ("ma", "まマ㎃ﾏ"), ("mb", "㎆㏔"), ("me", "めメﾒ"), ("mg", "㎎"), ("mhz", "㎒"), ("mi", "みミﾐ"),
  ("mil", "㏕"), ("ml", "㎖"), ("mm", "㎜"), ("mm2", "㎟"), ("mm3", "㎣"), ("mo", "もモﾓ"),
  ("mol", "㏖"), ("mpa", "㎫"), ("ms", "㎳"), ("mu", "むムﾑ"), ("mv", "㎷㎹"), ("mw", "㎽㎿"),
  ("n", "ÑñŃńŅņŇňŉƝƞǸǹɲɳɴΝνНнҢңӇӈՆնןנنںँंनณนნṄṅṆṇṈṉṊṋⁿₙℕⓃⓝんンＮｎﾝ𝐍𝐧𝑁𝑛𝑵𝒏𝒩𝓃𝓝𝓷𝔑𝔫𝕟𝕹𝖓𝖭𝗇𝗡𝗻𝘕𝘯𝙉𝙣𝙽𝚗"),
  ("na", "なナ㎁ﾅ"), ("ne", "ねネﾈ"), ("nf", "㎋"), ("ng", "ŊŋҤҥङง"), ("ni", "にニﾆ"), ("nj", "ǊǋǌЊњ"),
  ("nm", "㎚"), ("nn", "ण"), ("nnn", "ऩ"), ("no", "№のノﾉ"), ("ns", "㎱"), ("nu", "ぬヌﾇ"),
  ("nv", "㎵"), ("nw", "㎻"), ("ny", "ञ"),
  ("o", "ºÒÓÔÕÖØòóôõöøŌōŎŏŐőƆƟƠơǑǒǪǫǬǭǾǿȌȍȎȏȪȫȬȭȮȯȰȱɔΌΏΟΩοωόώОоѠѡѪѫҨҩӦӧӨөՈՕոօऒओॊोโოṌṍṎṏṐṑṒṓỌọ"),
  ("o", "ỎỏỐốỒồỔổỖỗỘộỚớỜờỞởỠỡỢợὀὁὂὃὄὅὈὉὊὋὌὍὠὡὢὣὤὥὦὧὨὩὪὫὬὭὮὯὸόὼώᾠᾡᾢᾣᾤᾥᾦᾧᾨᾩᾪᾫᾬᾭᾮᾯῲῳῴῶῷῸΌῺΏῼₒℴⓄⓞ"),
  ("o", "ぉおォオＯｏｫｵ𝐎𝐨𝑂𝑜𝑶𝒐𝒪𝓞𝓸𝔒𝔬𝕆𝕠𝕺𝖔𝖮𝗈𝗢𝗼𝘖𝘰𝙊𝙤𝙾𝚘"), ("oe", "Œœɶჵ"), ("oi", "Ƣƣ"), ("on", "ऑॉ"),
  ("ov", "㍵"), ("p", "¶ƤƥΠπϖПпҦҧՊՓպփףפپपปპფṔṕṖṗₚℙⓅⓟＰｐ𝐏𝐩𝑃𝑝𝑷𝒑𝒫𝓅𝓟𝓹𝔓𝔭𝕡𝕻𝖕𝖯𝗉𝗣𝗽𝘗𝘱𝙋𝙥𝙿𝚙"), ("p.m.", "㏘"),
  ("pa", "ぱパ㎀㎩"), ("pc", "㍶"), ("pe", "ぺペ"), ("pf", "㎊"), ("ph", "Φφϕफผพภ㏗"), ("pi", "ぴピ"),
  ("po", "ぽポ"), ("ppm", "㏙"), ("pr", "㏚"), ("ps", "£ΨψѰѱ㎰"), ("pu", "ぷプ"), ("pv", "㎴"),
  ("pw", "㎺"), ("q", "ɊɋʠϞϟקقყℚⓆⓠＱｑ𝐐𝐪𝑄𝑞𝑸𝒒𝒬𝓆𝓠𝓺𝔔𝔮𝕢𝕼𝖖𝖰𝗊𝗤𝗾𝘘𝘲𝙌𝙦𝚀𝚚"), ("qp", "ȹ"),
  ("r", "ŔŕŖŗŘřȐȑȒȓɌɍɹɻɼɽɾɿʀʁʳΡρϱРрՐրרرऋरृรฤრṘṙṚṛṜṝṞṟῤῥῬℛℜℝⓇⓡＲｒ𝐑𝐫𝑅𝑟𝑹𝒓𝓇𝓡𝓻𝔯𝕣𝕽𝖗𝖱𝗋𝗥𝗿𝘙𝘳𝙍𝙧𝚁𝚛"),
  ("ra", "らラﾗ"), ("rad", "㎭"), ("re", "れレﾚ"), ("rh", "Ռռ"), ("ri", "りリﾘ"), ("ro", "ろロﾛ"),
  ("rr", "ڑऱॄ"), ("rs", "₨"), ("ru", "るルﾙ"),
  ("s", "ŚśŜŝŞşŠšſȘșȿʂˢΣςσϚϛϲϹСсҪҫՍսסسصसศษสსṠṡṢṣṤṥṦṧṨṩẛₛⓈⓢＳｓ𝐒𝐬𝑆𝑠𝑺𝒔𝒮𝓈𝓢𝓼𝔖𝔰𝕊𝕤𝕾𝖘𝖲𝗌𝗦𝘀𝘚𝘴𝙎𝙨𝚂𝚜"),
  ("sa", "さサｻ"), ("se", "せセｾ"), ("sh", "ƩʃШшՇշשشशშ"), ("shch", "Щщ"), ("shi", "しシｼ"),
  ("sm", "℠"), ("so", "そソｿ"), ("sp", "Ϡϡ"), ("sr", "㏛"), ("ss", "§ßषẞ"), ("st", "ﬅﬆ"),
  ("su", "すスｽ"), ("sv", "㏜"),
  ("t", "ŢţŤťŦŧƫƬƭƮȚțȾʈΤτТтҬҭԹՏթտטתتطतฏตთტṪṫṬṭṮṯṰṱẗₜⓉⓣＴｔ𝐓𝐭𝑇𝑡𝑻𝒕𝒯𝓉𝓣𝓽𝔗𝔱𝕋𝕥𝕿𝖙𝖳𝗍𝗧𝘁𝘛𝘵𝙏𝙩𝚃𝚝"),
  ("ta", "たタﾀ"), ("te", "てテﾃ"), ("tel", "℡"), ("th", "ÞþΘθϑϴثथฐฑฒถทธ"), ("thz", "㎔"),
  ("tm", "™"), ("to", "とトﾄ"), ("ts", "ʦЋЦцћԾՑծցץצცწ"), ("tsu", "っつッツｯﾂ"), ("tt", "ٹट"),
  ("tth", "ठ"), ("tts", "Ҵҵ"),
  ("u", "µÙÚÛÜùúûüŨũŪūŬŭŮůŰűŲųƯưǓǔǕǖǗǘǙǚǛǜȔȕȖȗɄɥʉʊΎΥΫΰυϋύϒϓϔЎУуўҮүҰұӮӯӰӱӲӳُउुุუṲṳṴṵṶṷṸṹṺṻỤụỦủ"),
  ("u", "ỨứỪừỬửỮữỰựὐὑὒὓὔὕὖὗὙὛὝὟὺύῠῡῢΰῦῧῨῩῪΎⓊⓤぅうゥウＵｕｩｳ𝐔𝐮𝑈𝑢𝑼𝒖𝒰𝓊𝓤𝓾𝔘𝔲𝕌𝕦𝖀𝖚𝖴𝗎𝗨𝘂𝘜𝘶𝙐𝙪𝚄𝚞"), ("ue", "ึ"),
  ("un", "ٌ"), ("uu", "ऊूู"), ("uue", "ื"),
  ("v", "ƲʋВвՎվוवვṼṽṾṿⅤⅴⓋⓥＶｖ𝐕𝐯𝑉𝑣𝑽𝒗𝒱𝓋𝓥𝓿𝔙𝔳𝕍𝕧𝖁𝖛𝖵𝗏𝗩𝘃𝘝𝘷𝙑𝙫𝚅𝚟"), ("va", "ヷ"), ("ve", "ヹ"),
  ("vi", "Ⅵⅵヸ"), ("vii", "Ⅶⅶ"), ("viii", "Ⅷⅷ"), ("vo", "ヺ"), ("vu", "ゔヴ"),
  ("w", "ŴŵƿǷʍʷϜϝՒւؤوّวჳẀẁẂẃẄẅẆẇẈẉẘⓌⓦＷｗ𝐖𝐰𝑊𝑤𝑾𝒘𝒲𝓌𝓦𝔀𝔚𝔴𝕎𝕨𝖂𝖜𝖶𝗐𝗪𝘄𝘞𝘸𝙒𝙬𝚆𝚠"), ("wa", "ゎわヮワﾜ"),
  ("wb", "㏝"), ("we", "ゑヱ"), ("wi", "ゐヰ"), ("wo", "をヲｦ"),
  ("x", "×ˣξẊẋẌẍₓⅩⅹⓍⓧＸｘ𝐗𝐱𝑋𝑥𝑿𝒙𝒳𝓍𝓧𝔁𝔛𝔵𝕏𝕩𝖃𝖝𝖷𝗑𝗫𝘅𝘟𝘹𝙓𝙭𝚇𝚡"), ("xh", "ჴ"), ("xi", "Ⅺⅺ"), ("xii", "Ⅻⅻ"),
  ("y", "ÝýÿŶŷŸƳƴȲȳɎɏʏʸЫыѴѵӸӹՅյיئيیےयญยჲẎẏẙỲỳỴỵỶỷỸỹⓎⓨＹｙ𝐘𝐲𝑌𝑦𝒀𝒚𝒴𝓎𝓨𝔂𝔜𝔶𝕐𝕪𝖄𝖞𝖸𝗒𝗬𝘆𝘠𝘺𝙔𝙮𝚈𝚢"), ("y=", "¥"),
  ("ya", "ゃやャヤｬﾔ"), ("yi", "Її"), ("yo", "ょよョヨｮﾖ"), ("yu", "ゅゆュユｭﾕ"),
  ("z", "ŹźŻżŽžƵƶȤȥɀʐʑΖζЗзҘҙӞӟԶզזزظზẐẑẒẓẔẕℤℨⓏⓩＺｚ𝐙𝐳𝑍𝑧𝒁𝒛𝒵𝓏𝓩𝔃𝔷𝕫𝖅𝖟𝖹𝗓𝗭𝘇𝘡𝘻𝙕𝙯𝚉𝚣"), ("za", "ざザ"),
  ("ze", "ぜゼ"), ("zh", "ƷʒЖжҖҗӁӂӜӝԺժژჟ"), ("zi", "じジ"), ("zo", "ぞゾ"), ("zu", "ずズ")]

end LayeredSite.Slug
