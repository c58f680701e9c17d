namespace LayeredSite.Slug

/-- Names of pictographs, each with the pictographs that have it. -/
def pictographs : List (String × String) := [
  ("100", "💯"), ("1234", "🔢"), ("1st place medal", "🥇"), ("2nd place medal", "🥈"),
  ("3rd place medal", "🥉"), ("8ball", "🎱"), ("a", "🅰"), ("ab", "🆎"), ("abacus", "🧮"),
  ("abc", "🔤"), ("abcd", "🔡"), ("accept", "🉑"), ("adhesive bandage", "🩹"),
  ("admission tickets", "🎟"), ("adult", "🧑"), ("aerial tramway", "🚡"), ("airplane", "✈"),
  ("airplane arriving", "🛬"), ("airplane departure", "🛫"), ("alarm clock", "⏰"),
  ("alembic", "⚗"), ("alien", "👽"), ("ambulance", "🚑"), ("amphora", "🏺"), ("anchor", "⚓"),
  ("angel", "👼"), ("anger", "💢"), ("angry", "😠"), ("anguished", "😧"), ("ant", "🐜"),
  ("apple", "🍎"), ("aquarius", "♒"), ("aries", "♈"), ("arrow backward", "◀"),
  ("arrow double down", "⏬"), ("arrow double up", "⏫"), ("arrow down", "⬇"),
  ("arrow down small", "🔽"), ("arrow forward", "▶"), ("arrow heading down", "⤵"),
  ("arrow heading up", "⤴"), ("arrow left", "⬅"), ("arrow lower left", "↙"),
  ("arrow lower right", "↘"), ("arrow right", "➡"), ("arrow right hook", "↪"),
  ("arrow up", "⬆"), ("arrow up down", "↕"), ("arrow up small", "🔼"),
  ("arrow upper left", "↖"), ("arrow upper right", "↗"), ("arrows clockwise", "🔃"),
  ("arrows counterclockwise", "🔄"), ("art", "🎨"), ("articulated lorry", "🚛"),
  ("astonished", "😲"), ("athletic shoe", "👟"), ("atm", "🏧"), ("atom symbol", "⚛"),
  ("auto rickshaw", "🛺"), ("avocado", "🥑"), ("axe", "🪓"), ("b", "🅱"), ("baby", "👶"),
  ("baby bottle", "🍼"), ("baby chick", "🐤"), ("baby symbol", "🚼"), ("back", "🔙"),
  ("bacon", "🥓"), ("badger", "🦡"), ("badminton racquet and shuttlecock", "🏸"),
  ("bagel", "🥯"), ("baggage claim", "🛄"), ("baguette bread", "🥖"), ("bald", "🦲"),
  ("ballet shoes", "🩰"), ("balloon", "🎈"), ("ballot box with ballot", "🗳"),
  ("ballot box with check", "☑"), ("bamboo", "🎍"), ("banana", "🍌"), ("banjo", "🪕"),
  ("bank", "🏦"), ("bar chart", "📊"), ("barber", "💈"), ("baseball", "⚾"), ("basket", "🧺"),
  ("basketball", "🏀"), ("bat", "🦇"), ("bath", "🛀"), ("bathtub", "🛁"), ("battery", "🔋"),
  ("beach with umbrella", "🏖"), ("bear", "🐻"), ("bearded person", "🧔"), ("bed", "🛏"),
  ("bee", "🐝"), ("beer", "🍺"), ("beers", "🍻"), ("beetle", "🐞"), ("beginner", "🔰"),
  ("bell", "🔔"), ("bellhop bell", "🛎"), ("bento", "🍱"), ("beverage box", "🧃"),
  ("bicyclist", "🚴"), ("bike", "🚲"), ("bikini", "👙"), ("billed cap", "🧢"),
  ("biohazard", "☣"), ("bird", "🐦"), ("birthday", "🎂"), ("black circle", "⚫"),
  ("black circle for record", "⏺"), ("black heart", "🖤"), ("black joker", "🃏"),
  ("black large square", "⬛"), ("black left  pointing double triangle with vertical bar", "⏮"),
  ("black medium small square", "◾"), ("black medium square", "◼"), ("black nib", "✒"),
  ("black right  pointing double triangle with vertical bar", "⏭"),
  ("black right  pointing triangle with double vertical bar", "⏯"),
  ("black small square", "▪"), ("black square button", "🔲"), ("black square for stop", "⏹"),
  ("blossom", "🌼"), ("blowfish", "🐡"), ("blue book", "📘"), ("blue car", "🚙"),
  ("blue heart", "💙"), ("blue square", "🟦"), ("blush", "😊"), ("boar", "🐗"), ("boat", "⛵"),
  ("bomb", "💣"), ("bone", "🦴"), ("book", "📖"), ("bookmark", "🔖"), ("bookmark tabs", "📑"),
  ("books", "📚"), ("boom", "💥"), ("boot", "👢"), ("bottle with popping cork", "🍾"),
  ("bouquet", "💐"), ("bow", "🙇"), ("bow and arrow", "🏹"), ("bowl with spoon", "🥣"),
  ("bowling", "🎳"), ("boxing glove", "🥊"), ("boy", "👦"), ("brain", "🧠"), ("bread", "🍞"),
  ("breast feeding", "🤱"), ("brick", "🧱"), ("bride with veil", "👰"),
  ("bridge at night", "🌉"), ("briefcase", "💼"), ("briefs", "🩲"), ("broccoli", "🥦"),
  ("broken heart", "💔"), ("broom", "🧹"), ("brown circle", "🟤"), ("brown heart", "🤎"),
  ("brown square", "🟫"), ("bug", "🐛"), ("building construction", "🏗"), ("bulb", "💡"),
  ("bullettrain front", "🚅"), ("bullettrain side", "🚄"), ("burrito", "🌯"), ("bus", "🚌"),
  ("busstop", "🚏"), ("bust in silhouette", "👤"), ("busts in silhouette", "👥"),
  ("butter", "🧈"), ("butterfly", "🦋"), ("cactus", "🌵"), ("cake", "🍰"),
  ("call me hand", "🤙"), ("calling", "📲"), ("camera", "📷"), ("camera with flash", "📸"),
  ("camping", "🏕"), ("cancer", "♋"), ("candle", "🕯"), ("candy", "🍬"), ("canned food", "🥫"),
  ("canoe", "🛶"), ("capital abcd", "🔠"), ("capricorn", "♑"), ("card file box", "🗃"),
  ("card index", "📇"), ("card index dividers", "🗂"), ("carousel horse", "🎠"),
  ("carrot", "🥕"), ("cat face", "🐱"), ("cat2", "🐈"), ("cd", "💿"), ("chains", "⛓"),
  ("chair", "🪑"), ("chart", "💹"), ("chart with downwards trend", "📉"),
  ("chart with upwards trend", "📈"), ("checkered flag", "🏁"), ("cheese wedge", "🧀"),
  ("cherries", "🍒"), ("cherry blossom", "🌸"), ("chess pawn", "♟"), ("chestnut", "🌰"),
  ("chicken", "🐔"), ("child", "🧒"), ("children crossing", "🚸"), ("chipmunk", "🐿"),
  ("chocolate bar", "🍫"), ("chopsticks", "🥢"), ("christmas tree", "🎄"), ("church", "⛪"),
  ("cinema", "🎦"), ("circus tent", "🎪"), ("city sunrise", "🌇"), ("city sunset", "🌆"),
  ("cityscape", "🏙"), ("cl", "🆑"), ("clap", "👏"), ("clapper", "🎬"),
  ("classical building", "🏛"), ("clinking glasses", "🥂"), ("clipboard", "📋"),
  ("clock1", "🕐"), ("clock10", "🕙"), ("clock1030", "🕥"), ("clock11", "🕚"),
  ("clock1130", "🕦"), ("clock12", "🕛"), ("clock1230", "🕧"), ("clock130", "🕜"),
  ("clock2", "🕑"), ("clock230", "🕝"), ("clock3", "🕒"), ("clock330", "🕞"), ("clock4", "🕓"),
  ("clock430", "🕟"), ("clock5", "🕔"), ("clock530", "🕠"), ("clock6", "🕕"), ("clock630", "🕡"),
  ("clock7", "🕖"), ("clock730", "🕢"), ("clock8", "🕗"), ("clock830", "🕣"), ("clock9", "🕘"),
  ("clock930", "🕤"), ("closed book", "📕"), ("closed lock with key", "🔐"),
  ("closed umbrella", "🌂"), ("cloud", "☁"), ("cloud with lightning", "🌩"),
  ("cloud with rain", "🌧"), ("cloud with snow", "🌨"), ("cloud with tornado", "🌪"),
  ("clown face", "🤡"), ("clubs", "♣"), ("coat", "🧥"), ("cocktail", "🍸"), ("coconut", "🥥"),
  ("coffee", "☕"), ("coffin", "⚰"), ("cold face", "🥶"), ("cold sweat", "😰"), ("comet", "☄"),
  ("compass", "🧭"), ("compression", "🗜"), ("computer", "💻"), ("confetti ball", "🎊"),
  ("confounded", "😖"), ("confused", "😕"), ("congratulations", "㊗"), ("construction", "🚧"),
  ("construction worker", "👷"), ("control knobs", "🎛"), ("convenience store", "🏪"),
  ("cookie", "🍪"), ("cool", "🆒"), ("cop", "👮"), ("corn", "🌽"), ("couch and lamp", "🛋"),
  ("couple", "👫"), ("couple with heart", "💑"), ("couplekiss", "💏"), ("cow face", "🐮"),
  ("cow2", "🐄"), ("cowboy hat face", "🤠"), ("crab", "🦀"), ("credit card", "💳"),
  ("crescent moon", "🌙"), ("cricket", "🦗"), ("cricket bat and ball", "🏏"),
  ("crocodile", "🐊"), ("croissant", "🥐"), ("crossed fingers", "🤞"), ("crossed flags", "🎌"),
  ("crossed swords", "⚔"), ("crown", "👑"), ("cry", "😢"), ("crying cat face", "😿"),
  ("crystal ball", "🔮"), ("cucumber", "🥒"), ("cup with straw", "🥤"), ("cupcake", "🧁"),
  ("cupid", "💘"), ("curling stone", "🥌"), ("curly hair", "🦱"), ("curly loop", "➰"),
  ("currency exchange", "💱"), ("curry", "🍛"), ("custard", "🍮"), ("customs", "🛃"),
  ("cut of meat", "🥩"), ("cyclone", "🌀"), ("dagger knife", "🗡"), ("dancer", "💃"),
  ("dancers", "👯"), ("dango", "🍡"), ("dark sunglasses", "🕶"), ("dart", "🎯"), ("dash", "💨"),
  ("date", "📅"), ("deaf person", "🧏"), ("deciduous tree", "🌳"), ("deer", "🦌"),
  ("department store", "🏬"), ("derelict house building", "🏚"), ("desert", "🏜"),
  ("desert island", "🏝"), ("desktop computer", "🖥"), ("diamond shape with a dot inside", "💠"),
  ("diamonds", "♦"), ("disappointed", "😞"), ("disappointed relieved", "😥"),
  ("diving mask", "🤿"), ("diya lamp", "🪔"), ("dizzy", "💫"), ("dizzy face", "😵"),
  ("dna", "🧬"), ("do not litter", "🚯"), ("dog face", "🐶"), ("dog2", "🐕"), ("dollar", "💵"),
  ("dolls", "🎎"), ("door", "🚪"), ("double vertical bar", "⏸"), ("doughnut", "🍩"),
  ("dove of peace", "🕊"), ("dragon", "🐉"), ("dragon face", "🐲"), ("dress", "👗"),
  ("dromedary camel", "🐪"), ("drooling face", "🤤"), ("drop of blood", "🩸"), ("droplet", "💧"),
  ("drum", "🥁"), ("duck", "🦆"), ("dumpling", "🥟"), ("dvd", "📀"), ("e  mail", "📧"),
  ("eagle", "🦅"), ("ear", "👂"), ("ear of rice", "🌾"), ("ear with hearing aid", "🦻"),
  ("earth africa", "🌍"), ("earth americas", "🌎"), ("earth asia", "🌏"), ("egg", "🍳"),
  ("eggplant", "🍆"), ("eight pointed black star", "✴"), ("eight spoked asterisk", "✳"),
  ("eject symbol", "⏏"), ("electric plug", "🔌"), ("elephant", "🐘"), ("elf", "🧝"),
  ("email", "✉"), ("emoji modifier fitzpatrick type  1  2", "🏻"),
  ("emoji modifier fitzpatrick type  3", "🏼"), ("emoji modifier fitzpatrick type  4", "🏽"),
  ("emoji modifier fitzpatrick type  5", "🏾"), ("emoji modifier fitzpatrick type  6", "🏿"),
  ("end", "🔚"), ("envelope with arrow", "📩"), ("euro", "💶"), ("european castle", "🏰"),
  ("european post office", "🏤"), ("evergreen tree", "🌲"), ("exploding head", "🤯"),
  ("expressionless", "😑"), ("eye", "👁"), ("eyeglasses", "👓"), ("eyes", "👀"),
  ("face vomiting", "🤮"), ("face with hand over mouth", "🤭"), ("face with head bandage", "🤕"),
  ("face with monocle", "🧐"), ("face with raised eyebrow", "🤨"),
  ("face with rolling eyes", "🙄"), ("face with symbols on mouth", "🤬"),
  ("face with thermometer", "🤒"), ("factory", "🏭"), ("fairy", "🧚"), ("falafel", "🧆"),
  ("fallen leaf", "🍂"), ("family", "👪"), ("fast forward", "⏩"), ("fax", "📠"),
  ("fearful", "😨"), ("feet", "🐾"), ("female sign", "♀"), ("ferris wheel", "🎡"),
  ("ferry", "⛴"), ("field hockey stick and ball", "🏑"), ("file cabinet", "🗄"),
  ("file folder", "📁"), ("film frames", "🎞"), ("film projector", "📽"), ("fire", "🔥"),
  ("fire engine", "🚒"), ("fire extinguisher", "🧯"), ("firecracker", "🧨"), ("fireworks", "🎆"),
  ("first quarter moon", "🌓"), ("first quarter moon with face", "🌛"), ("fish", "🐟"),
  ("fish cake", "🍥"), ("fishing pole and fish", "🎣"), ("fist", "✊"), ("flags", "🎏"),
  ("flamingo", "🦩"), ("flashlight", "🔦"), ("flat shoe", "🥿"), ("fleur  de  lis", "⚜"),
  ("flipper", "🐬"), ("floppy disk", "💾"), ("flower playing cards", "🎴"), ("flushed", "😳"),
  ("flying disc", "🥏"), ("flying saucer", "🛸"), ("fog", "🌫"), ("foggy", "🌁"), ("foot", "🦶"),
  ("football", "🏈"), ("footprints", "👣"), ("fork and knife", "🍴"),
  ("fork and knife with plate", "🍽"), ("fortune cookie", "🥠"), ("fountain", "⛲"),
  ("four leaf clover", "🍀"), ("fox face", "🦊"), ("frame with picture", "🖼"), ("free", "🆓"),
  ("fried shrimp", "🍤"), ("fries", "🍟"), ("frog", "🐸"), ("frowning", "😦"),
  ("fuelpump", "⛽"), ("full moon", "🌕"), ("full moon with face", "🌝"), ("funeral urn", "⚱"),
  ("game die", "🎲"), ("garlic", "🧄"), ("gear", "⚙"), ("gem", "💎"), ("gemini", "♊"),
  ("genie", "🧞"), ("ghost", "👻"), ("gift", "🎁"), ("gift heart", "💝"), ("giraffe", "🦒"),
  ("girl", "👧"), ("glass of milk", "🥛"), ("globe with meridians", "🌐"), ("gloves", "🧤"),
  ("goal net", "🥅"), ("goat", "🐐"), ("goggles", "🥽"), ("golf", "⛳"), ("golfer", "🏌"),
  ("gorilla", "🦍"), ("grapes", "🍇"), ("green apple", "🍏"), ("green book", "📗"),
  ("green circle", "🟢"), ("green heart", "💚"), ("green salad", "🥗"), ("green square", "🟩"),
  ("grey exclamation", "❕"), ("grey question", "❔"), ("grimacing", "😬"), ("grin", "😁"),
  ("grinning", "😀"), ("guardsman", "💂"), ("guide dog", "🦮"), ("guitar", "🎸"), ("gun", "🔫"),
  ("haircut", "💇"), ("hamburger", "🍔"), ("hammer", "🔨"), ("hammer and pick", "⚒"),
  ("hammer and wrench", "🛠"), ("hamster", "🐹"), ("hand", "✋"), ("handbag", "👜"),
  ("handshake", "🤝"), ("hatched chick", "🐥"), ("hatching chick", "🐣"), ("headphones", "🎧"),
  ("hear no evil", "🙉"), ("heart", "❤"), ("heart decoration", "💟"), ("heart eyes", "😍"),
  ("heart eyes cat", "😻"), ("heartbeat", "💓"), ("heartpulse", "💗"), ("hearts", "♥"),
  ("heavy check mark", "✔"), ("heavy division sign", "➗"), ("heavy dollar sign", "💲"),
  ("heavy exclamation mark", "❗"), ("heavy heart exclamation mark ornament", "❣"),
  ("heavy minus sign", "➖"), ("heavy multiplication x", "✖"), ("heavy plus sign", "➕"),
  ("hedgehog", "🦔"), ("helicopter", "🚁"), ("helm symbol", "⎈"),
  ("helmet with white cross", "⛑"), ("herb", "🌿"), ("hibiscus", "🌺"),
  ("high brightness", "🔆"), ("high heel", "👠"), ("hiking boot", "🥾"), ("hindu temple", "🛕"),
  ("hippopotamus", "🦛"), ("hole", "🕳"), ("honey pot", "🍯"), ("horse face", "🐴"),
  ("horse racing", "🏇"), ("hospital", "🏥"), ("hot dog", "🌭"), ("hot face", "🥵"),
  ("hot pepper", "🌶"), ("hotel", "🏨"), ("hotsprings", "♨"), ("hourglass", "⌛"),
  ("hourglass flowing sand", "⏳"), ("house", "🏠"), ("house buildings", "🏘"),
  ("house with garden", "🏡"), ("hugs", "🤗"), ("hushed", "😯"), ("ice", "🧊"),
  ("ice cream", "🍨"), ("ice hockey stick and puck", "🏒"), ("ice skate", "⛸"),
  ("icecream", "🍦"), ("id", "🆔"), ("ideograph advantage", "🉐"), ("imp", "👿"),
  ("inbox tray", "📥"), ("incoming envelope", "📨"), ("infinity", "♾"),
  ("information desk person", "💁"), ("innocent", "😇"), ("iphone", "📱"),
  ("jack o lantern", "🎃"), ("japanese castle", "🏯"), ("japanese goblin", "👺"),
  ("japanese ogre", "👹"), ("jeans", "👖"), ("jigsaw", "🧩"), ("joy", "😂"), ("joy cat", "😹"),
  ("joystick", "🕹"), ("kaaba", "🕋"), ("kangaroo", "🦘"), ("key", "🔑"), ("keyboard", "⌨"),
  ("kick scooter", "🛴"), ("kimono", "👘"), ("kiss mark", "💋"), ("kissing", "😗"),
  ("kissing cat", "😽"), ("kissing closed eyes", "😚"), ("kissing heart", "😘"),
  ("kissing smiling eyes", "😙"), ("kite", "🪁"), ("kiwi fruit", "🥝"), ("knife", "🔪"),
  ("koala", "🐨"), ("koko", "🈁"), ("lab coat", "🥼"), ("label", "🏷"), ("lacrosse", "🥍"),
  ("lantern", "🏮"), ("large blue circle", "🔵"), ("large blue diamond", "🔷"),
  ("large orange diamond", "🔶"), ("last quarter moon", "🌗"),
  ("last quarter moon with face", "🌜"), ("latin cross", "✝"), ("leafy green", "🥬"),
  ("leaves", "🍃"), ("ledger", "📒"), ("left facing fist", "🤛"), ("left luggage", "🛅"),
  ("left right arrow", "↔"), ("left speech bubble", "🗨"), ("leftwards arrow with hook", "↩"),
  ("leg", "🦵"), ("lemon", "🍋"), ("leo", "♌"), ("leopard", "🐆"), ("level slider", "🎚"),
  ("libra", "♎"), ("light rail", "🚈"), ("link", "🔗"), ("linked paperclips", "🖇"),
  ("lion", "🦁"), ("lips", "👄"), ("lipstick", "💄"), ("lizard", "🦎"), ("llama", "🦙"),
  ("lobster", "🦞"), ("lock", "🔒"), ("lock with ink pen", "🔏"), ("lollipop", "🍭"),
  ("loop", "➿"), ("lotion bottle", "🧴"), ("loud sound", "🔊"), ("loudspeaker", "📢"),
  ("love hotel", "🏩"), ("love letter", "💌"), ("love you gesture", "🤟"),
  ("low brightness", "🔅"), ("lower left ballpoint pen", "🖊"), ("lower left crayon", "🖍"),
  ("lower left fountain pen", "🖋"), ("lower left paintbrush", "🖌"), ("luggage", "🧳"),
  ("lying face", "🤥"), ("mag", "🔍"), ("mag right", "🔎"), ("mage", "🧙"), ("magnet", "🧲"),
  ("mahjong", "🀄"), ("mailbox", "📫"), ("mailbox closed", "📪"), ("mailbox with mail", "📬"),
  ("mailbox with no mail", "📭"), ("male sign", "♂"), ("man", "👨"), ("man dancing", "🕺"),
  ("man in business suit levitating", "🕴"), ("man in tuxedo", "🤵"),
  ("man with gua pi mao", "👲"), ("man with turban", "👳"), ("mango", "🥭"),
  ("mantelpiece clock", "🕰"), ("manual wheelchair", "🦽"), ("map of japan", "🗾"),
  ("maple leaf", "🍁"), ("martial arts uniform", "🥋"), ("mask", "😷"), ("massage", "💆"),
  ("mate", "🧉"), ("meat on bone", "🍖"), ("mechanical arm", "🦾"), ("mechanical leg", "🦿"),
  ("medical symbol", "⚕"), ("mega", "📣"), ("melon", "🍈"),
  ("menorah with nine branches", "🕎"), ("mens", "🚹"), ("merperson", "🧜"), ("metal", "🤘"),
  ("metro", "🚇"), ("microbe", "🦠"), ("microphone", "🎤"), ("microscope", "🔬"),
  ("military medal", "🎖"), ("milky way", "🌌"), ("minibus", "🚐"), ("minidisc", "💽"),
  ("mobile phone off", "📴"), ("money mouth face", "🤑"), ("money with wings", "💸"),
  ("moneybag", "💰"), ("monkey", "🐒"), ("monkey face", "🐵"), ("monorail", "🚝"),
  ("moon", "🌔"), ("moon cake", "🥮"), ("mortar board", "🎓"), ("mosque", "🕌"),
  ("mosquito", "🦟"), ("motor boat", "🛥"), ("motor scooter", "🛵"),
  ("motorized wheelchair", "🦼"), ("motorway", "🛣"), ("mount fuji", "🗻"), ("mountain", "⛰"),
  ("mountain bicyclist", "🚵"), ("mountain cableway", "🚠"), ("mountain railway", "🚞"),
  ("mouse face", "🐭"), ("mouse2", "🐁"), ("movie camera", "🎥"), ("moyai", "🗿"),
  ("mrs claus", "🤶"), ("muscle", "💪"), ("mushroom", "🍄"), ("musical keyboard", "🎹"),
  ("musical note", "🎵"), ("musical score", "🎼"), ("mute", "🔇"), ("nail care", "💅"),
  ("name badge", "📛"), ("national park", "🏞"), ("nauseated face", "🤢"),
  ("nazar amulet", "🧿"), ("necktie", "👔"), ("negative squared cross mark", "❎"),
  ("nerd face", "🤓"), ("neutral face", "😐"), ("new", "🆕"), ("new moon", "🌑"),
  ("new moon with face", "🌚"), ("newspaper", "📰"), ("ng", "🆖"), ("night with stars", "🌃"),
  ("no bell", "🔕"), ("no bicycles", "🚳"), ("no entry", "⛔"), ("no entry sign", "🚫"),
  ("no good", "🙅"), ("no mobile phones", "📵"), ("no mouth", "😶"), ("no pedestrians", "🚷"),
  ("no smoking", "🚭"), ("non  potable water", "🚱"), ("nose", "👃"), ("notebook", "📓"),
  ("notebook with decorative cover", "📔"), ("notes", "🎶"), ("nut and bolt", "🔩"), ("o", "⭕"),
  ("o2", "🅾"), ("ocean", "🌊"), ("octopus", "🐙"), ("oden", "🍢"), ("office", "🏢"),
  ("oil drum", "🛢"), ("ok", "🆗"), ("ok hand", "👌"), ("ok woman", "🙆"), ("old key", "🗝"),
  ("older adult", "🧓"), ("older man", "👴"), ("older woman", "👵"), ("om symbol", "🕉"),
  ("on", "🔛"), ("oncoming automobile", "🚘"), ("oncoming bus", "🚍"),
  ("oncoming police car", "🚔"), ("oncoming taxi", "🚖"), ("one piece swimsuit", "🩱"),
  ("onion", "🧅"), ("open file folder", "📂"), ("open hands", "👐"), ("open mouth", "😮"),
  ("ophiuchus", "⛎"), ("orange book", "📙"), ("orange circle", "🟠"), ("orange heart", "🧡"),
  ("orange square", "🟧"), ("orangutan", "🦧"), ("orthodox cross", "☦"), ("otter", "🦦"),
  ("outbox tray", "📤"), ("owl", "🦉"), ("ox", "🐂"), ("oyster", "🦪"), ("package", "📦"),
  ("page facing up", "📄"), ("page with curl", "📃"), ("pager", "📟"), ("palm tree", "🌴"),
  ("palms up together", "🤲"), ("pancakes", "🥞"), ("panda face", "🐼"), ("paperclip", "📎"),
  ("parking", "🅿"), ("parrot", "🦜"), ("part alternation mark", "〽"), ("partly sunny", "⛅"),
  ("partying face", "🥳"), ("passenger ship", "🛳"), ("passport control", "🛂"),
  ("peace symbol", "☮"), ("peach", "🍑"), ("peacock", "🦚"), ("peanuts", "🥜"), ("pear", "🍐"),
  ("pencil", "📝"), ("pencil2", "✏"), ("penguin", "🐧"), ("pensive", "😔"),
  ("people wrestling", "🤼"), ("performing arts", "🎭"), ("persevere", "😣"),
  ("person cartwheeling", "🤸"), ("person climbing", "🧗"), ("person facepalming", "🤦"),
  ("person fencing", "🤺"), ("person frowning", "🙍"), ("person in lotus position", "🧘"),
  ("person in steamy room", "🧖"), ("person juggling", "🤹"), ("person kneeling", "🧎"),
  ("person playing handball", "🤾"), ("person playing water polo", "🤽"),
  ("person shrugging", "🤷"), ("person standing", "🧍"), ("person with ball", "⛹"),
  ("person with blond hair", "👱"), ("person with pouting face", "🙎"), ("petri dish", "🧫"),
  ("phone", "☎"), ("pick", "⛏"), ("pie", "🥧"), ("pig face", "🐷"), ("pig nose", "🐽"),
  ("pig2", "🐖"), ("pill", "💊"), ("pinching hand", "🤏"), ("pineapple", "🍍"), ("pisces", "♓"),
  ("pizza", "🍕"), ("place of worship", "🛐"), ("pleading face", "🥺"), ("point down", "👇"),
  ("point left", "👈"), ("point right", "👉"), ("point up", "☝"), ("point up 2", "👆"),
  ("police car", "🚓"), ("poodle", "🐩"), ("popcorn", "🍿"), ("post office", "🏣"),
  ("postal horn", "📯"), ("postbox", "📮"), ("potable water", "🚰"), ("potato", "🥔"),
  ("pouch", "👝"), ("poultry leg", "🍗"), ("pound", "💷"), ("pouting cat", "😾"), ("pray", "🙏"),
  ("prayer beads", "📿"), ("pregnant woman", "🤰"), ("pretzel", "🥨"), ("prince", "🤴"),
  ("princess", "👸"), ("printer", "🖨"), ("probing cane", "🦯"), ("punch", "👊"),
  ("purple circle", "🟣"), ("purple heart", "💜"), ("purple square", "🟪"), ("purse", "👛"),
  ("pushpin", "📌"), ("put litter in its place", "🚮"), ("question", "❓"),
  ("rabbit face", "🐰"), ("rabbit2", "🐇"), ("raccoon", "🦝"), ("racehorse", "🐎"),
  ("racing car", "🏎"), ("racing motorcycle", "🏍"), ("radio", "📻"), ("radio button", "🔘"),
  ("radioactive", "☢"), ("rage", "😡"), ("railway car", "🚃"), ("railway track", "🛤"),
  ("rainbow", "🌈"), ("raised back of hand", "🤚"), ("raised hand with fingers splayed", "🖐"),
  ("raised hand with part between middle and ring fingers", "🖖"), ("raised hands", "🙌"),
  ("raising hand", "🙋"), ("ram", "🐏"), ("ramen", "🍜"), ("rat", "🐀"), ("razor", "🪒"),
  ("receipt", "🧾"), ("recycle", "♻"), ("red car", "🚗"), ("red circle", "🔴"),
  ("red envelope", "🧧"), ("red hair", "🦰"), ("red square", "🟥"),
  ("regional indicator a", "🇦"), ("regional indicator b", "🇧"), ("regional indicator c", "🇨"),
  ("regional indicator d", "🇩"), ("regional indicator e", "🇪"), ("regional indicator f", "🇫"),
  ("regional indicator g", "🇬"), ("regional indicator h", "🇭"), ("regional indicator i", "🇮"),
  ("regional indicator j", "🇯"), ("regional indicator k", "🇰"), ("regional indicator l", "🇱"),
  ("regional indicator m", "🇲"), ("regional indicator n", "🇳"), ("regional indicator o", "🇴"),
  ("regional indicator p", "🇵"), ("regional indicator q", "🇶"), ("regional indicator r", "🇷"),
  ("regional indicator s", "🇸"), ("regional indicator t", "🇹"), ("regional indicator u", "🇺"),
  ("regional indicator v", "🇻"), ("regional indicator w", "🇼"), ("regional indicator x", "🇽"),
  ("regional indicator y", "🇾"), ("regional indicator z", "🇿"), ("relaxed", "☺"),
  ("relieved", "😌"), ("reminder ribbon", "🎗"), ("repeat", "🔁"), ("repeat one", "🔂"),
  ("restroom", "🚻"), ("reversed hand with middle finger extended", "🖕"),
  ("revolving hearts", "💞"), ("rewind", "⏪"), ("rhinoceros", "🦏"), ("ribbon", "🎀"),
  ("rice", "🍚"), ("rice ball", "🍙"), ("rice cracker", "🍘"), ("rice scene", "🎑"),
  ("right anger bubble", "🗯"), ("right facing fist", "🤜"), ("ring", "💍"),
  ("ringed planet", "🪐"), ("robot", "🤖"), ("rocket", "🚀"), ("rofl", "🤣"),
  ("roll of paper", "🧻"), ("rolled  up newspaper", "🗞"), ("roller coaster", "🎢"),
  ("rooster", "🐓"), ("rose", "🌹"), ("rosette", "🏵"), ("rotating light", "🚨"),
  ("round pushpin", "📍"), ("rowboat", "🚣"), ("rugby football", "🏉"), ("running", "🏃"),
  ("running shirt with sash", "🎽"), ("sa", "🈂"), ("safety pin", "🧷"), ("safety vest", "🦺"),
  ("sagittarius", "♐"), ("sake", "🍶"), ("salt", "🧂"), ("sandal", "👡"), ("sandwich", "🥪"),
  ("santa", "🎅"), ("sari", "🥻"), ("satellite antenna", "📡"), ("satisfied", "😆"),
  ("sauropod", "🦕"), ("saxophone", "🎷"), ("scales", "⚖"), ("scarf", "🧣"), ("school", "🏫"),
  ("school satchel", "🎒"), ("scissors", "✂"), ("scorpion", "🦂"), ("scorpius", "♏"),
  ("scream", "😱"), ("scream cat", "🙀"), ("scroll", "📜"), ("seat", "💺"), ("secret", "㊙"),
  ("see no evil", "🙈"), ("seedling", "🌱"), ("selfie", "🤳"), ("shallow pan of food", "🥘"),
  ("shamrock", "☘"), ("shark", "🦈"), ("shaved ice", "🍧"), ("sheep", "🐑"), ("shell", "🐚"),
  ("shield", "🛡"), ("shinto shrine", "⛩"), ("ship", "🚢"), ("shit", "💩"), ("shoe", "👞"),
  ("shopping bags", "🛍"), ("shopping cart", "🛒"), ("shorts", "🩳"), ("shower", "🚿"),
  ("shrimp", "🦐"), ("shushing face", "🤫"), ("signal strength", "📶"),
  ("six pointed star", "🔯"), ("skateboard", "🛹"), ("ski", "🎿"), ("skier", "⛷"),
  ("skull", "💀"), ("skull and crossbones", "☠"), ("skunk", "🦨"), ("sled", "🛷"),
  ("sleeping", "😴"), ("sleeping accommodation", "🛌"), ("sleepy", "😪"),
  ("sleuth or spy", "🕵"), ("slightly frowning face", "🙁"), ("slightly smiling face", "🙂"),
  ("slot machine", "🎰"), ("sloth", "🦥"), ("small airplane", "🛩"),
  ("small blue diamond", "🔹"), ("small orange diamond", "🔸"), ("small red triangle", "🔺"),
  ("small red triangle down", "🔻"), ("smile", "😄"), ("smile cat", "😸"), ("smiley", "😃"),
  ("smiley cat", "😺"), ("smiling face with 3 hearts", "🥰"), ("smiling imp", "😈"),
  ("smirk", "😏"), ("smirk cat", "😼"), ("smoking", "🚬"), ("snail", "🐌"), ("snake", "🐍"),
  ("sneezing face", "🤧"), ("snow capped mountain", "🏔"), ("snowboarder", "🏂"),
  ("snowflake", "❄"), ("snowman", "☃"), ("snowman without snow", "⛄"), ("soap", "🧼"),
  ("sob", "😭"), ("soccer", "⚽"), ("socks", "🧦"), ("softball", "🥎"), ("soon", "🔜"),
  ("sos", "🆘"), ("sound", "🔉"), ("space invader", "👾"), ("spades", "♠"), ("spaghetti", "🍝"),
  ("sparkle", "❇"), ("sparkler", "🎇"), ("sparkles", "✨"), ("sparkling heart", "💖"),
  ("speak no evil", "🙊"), ("speaker", "🔈"), ("speaking head in silhouette", "🗣"),
  ("speech balloon", "💬"), ("speedboat", "🚤"), ("spider", "🕷"), ("spider web", "🕸"),
  ("spiral calendar pad", "🗓"), ("spiral note pad", "🗒"), ("sponge", "🧽"), ("spoon", "🥄"),
  ("sports medal", "🏅"), ("squid", "🦑"), ("stadium", "🏟"), ("star", "⭐"),
  ("star and crescent", "☪"), ("star of david", "✡"), ("star struck", "🤩"), ("star2", "🌟"),
  ("stars", "🌠"), ("station", "🚉"), ("statue of liberty", "🗽"), ("steam locomotive", "🚂"),
  ("stethoscope", "🩺"), ("stew", "🍲"), ("stop sign", "🛑"), ("stopwatch", "⏱"),
  ("straight ruler", "📏"), ("strawberry", "🍓"), ("stuck out tongue", "😛"),
  ("stuck out tongue closed eyes", "😝"), ("stuck out tongue winking eye", "😜"),
  ("studio microphone", "🎙"), ("stuffed flatbread", "🥙"), ("sun with face", "🌞"),
  ("sunflower", "🌻"), ("sunglasses", "😎"), ("sunny", "☀"), ("sunrise", "🌅"),
  ("sunrise over mountains", "🌄"), ("superhero", "🦸"), ("supervillain", "🦹"),
  ("surfer", "🏄"), ("sushi", "🍣"), ("suspension railway", "🚟"), ("swan", "🦢"),
  ("sweat", "😓"), ("sweat drops", "💦"), ("sweat smile", "😅"), ("sweet potato", "🍠"),
  ("swimmer", "🏊"), ("symbols", "🔣"), ("synagogue", "🕍"), ("syringe", "💉"), ("t rex", "🦖"),
  ("table tennis paddle and ball", "🏓"), ("taco", "🌮"), ("tada", "🎉"), ("takeout box", "🥡"),
  ("tanabata tree", "🎋"), ("tangerine", "🍊"), ("taurus", "♉"), ("taxi", "🚕"), ("tea", "🍵"),
  ("tear off calendar", "📆"), ("teddy bear", "🧸"), ("telephone receiver", "📞"),
  ("telescope", "🔭"), ("ten", "🔟"), ("tennis", "🎾"), ("tent", "⛺"), ("test tube", "🧪"),
  ("thermometer", "🌡"), ("thinking", "🤔"), ("thought balloon", "💭"), ("thread", "🧵"),
  ("three button mouse", "🖱"), ("thumbsdown", "👎"), ("thumbsup", "👍"),
  ("thunder cloud and rain", "⛈"), ("ticket", "🎫"), ("tiger face", "🐯"), ("tiger2", "🐅"),
  ("timer clock", "⏲"), ("tired face", "😫"), ("toilet", "🚽"), ("tokyo tower", "🗼"),
  ("tomato", "🍅"), ("tongue", "👅"), ("toolbox", "🧰"), ("tooth", "🦷"), ("top", "🔝"),
  ("tophat", "🎩"), ("trackball", "🖲"), ("tractor", "🚜"), ("traffic light", "🚥"),
  ("train2", "🚆"), ("tram", "🚊"), ("tram car", "🚋"), ("triangular flag on post", "🚩"),
  ("triangular ruler", "📐"), ("trident", "🔱"), ("triumph", "😤"), ("trolleybus", "🚎"),
  ("trophy", "🏆"), ("tropical drink", "🍹"), ("tropical fish", "🐠"), ("truck", "🚚"),
  ("trumpet", "🎺"), ("tshirt", "👕"), ("tulip", "🌷"), ("tumbler glass", "🥃"),
  ("turkey", "🦃"), ("turtle", "🐢"), ("tv", "📺"), ("twisted rightwards arrows", "🔀"),
  ("two hearts", "💕"), ("two hump camel", "🐫"), ("two men holding hands", "👬"),
  ("two women holding hands", "👭"), ("u5272", "🈹"), ("u5408", "🈴"), ("u55b6", "🈺"),
  ("u6307", "🈯"), ("u6708", "🈷"), ("u6709", "🈶"), ("u6e80", "🈵"), ("u7121", "🈚"),
  ("u7533", "🈸"), ("u7981", "🈲"), ("u7a7a", "🈳"), ("umbrella", "☂"),
  ("umbrella on ground", "⛱"), ("umbrella with rain drops", "☔"), ("unamused", "😒"),
  ("underage", "🔞"), ("unicorn", "🦄"), ("unlock", "🔓"), ("up", "🆙"),
  ("upside down face", "🙃"), ("v", "✌"), ("vampire", "🧛"), ("vertical traffic light", "🚦"),
  ("vhs", "📼"), ("vibration mode", "📳"), ("video camera", "📹"), ("video game", "🎮"),
  ("violin", "🎻"), ("virgo", "♍"), ("volcano", "🌋"), ("volleyball", "🏐"), ("vs", "🆚"),
  ("waffle", "🧇"), ("walking", "🚶"), ("waning crescent moon", "🌘"),
  ("waning gibbous moon", "🌖"), ("warning", "⚠"), ("wastebasket", "🗑"), ("watch", "⌚"),
  ("water buffalo", "🐃"), ("watermelon", "🍉"), ("wave", "👋"), ("waving black flag", "🏴"),
  ("waving white flag", "🏳"), ("wavy dash", "〰"), ("waxing crescent moon", "🌒"), ("wc", "🚾"),
  ("weary", "😩"), ("wedding", "💒"), ("weight lifter", "🏋"), ("whale", "🐳"), ("whale2", "🐋"),
  ("wheel of dharma", "☸"), ("wheelchair", "♿"), ("white check mark", "✅"),
  ("white circle", "⚪"), ("white flower", "💮"), ("white frowning face", "☹"),
  ("white hair", "🦳"), ("white heart", "🤍"), ("white large square", "⬜"),
  ("white medium small square", "◽"), ("white medium square", "◻"),
  ("white small square", "▫"), ("white square button", "🔳"), ("white sun behind cloud", "🌥"),
  ("white sun behind cloud with rain", "🌦"), ("white sun with small cloud", "🌤"),
  ("wilted flower", "🥀"), ("wind blowing face", "🌬"), ("wind chime", "🎐"),
  ("wine glass", "🍷"), ("wink", "😉"), ("wolf", "🐺"), ("woman", "👩"),
  ("woman with headscarf", "🧕"), ("womans clothes", "👚"), ("womans hat", "👒"),
  ("womens", "🚺"), ("woozy face", "🥴"), ("world map", "🗺"), ("worried", "😟"),
  ("wrench", "🔧"), ("writing hand", "✍"), ("x", "❌"), ("yarn", "🧶"), ("yawning face", "🥱"),
  ("yellow circle", "🟡"), ("yellow heart", "💛"), ("yellow square", "🟨"), ("yen", "💴"),
  ("yin yang", "☯"), ("yo yo", "🪀"), ("yum", "😋"), ("zany face", "🤪"), ("zap", "⚡"),
  ("zebra", "🦓"), ("zipper mouth face", "🤐"), ("zombie", "🧟"), ("zzz", "💤")]

end LayeredSite.Slug
