/-!
# Letters and digits

What letters, syllable signs and digits of alphabets become in ASCII: letters of Latin lose their marks, those of
other alphabets are transliterated one by one, numbers of any shape become digits. Only what can stand
in an identifier is given; a sign that would become punctuation has no entry.
-/

namespace Toolwright.Name.Script

/-- Runs of characters: the first one, and for it and every character after it the ASCII text, or a
hyphen if there is none. -/
def alphabetRuns : Array (Nat × String) := #[
  (0xA2, "c GBP - JPY - S - C a - - - R - deg - 2 3 - u P - - 1 o - 14 12 34 - A"),
  (0xC1, "A A A A A AE C E E E E I I I I D N O O O O O x O U U U U Y Th ss a a"),
  (0xE2, "a a a a ae c e e e e i i i i d n o o o o o - o u u u u y th y A a A"),
  (0x103, "a A a C c C c C c C c D d D d E e E e E e E e E e G g G g G g G g H"),
  (0x125, "h H h I i I i I i I i I i IJ ij J j K k k L l L l L l L l L l N n N"),
  (0x146, "n N n n Ng ng O o O o O o OE oe R r R r R r S s S s S s S s T t T t"),
  (0x166, "T t U u U u U u U u U u U u W w Y y Y Z z Z z Z z s b B B b - - O C"),
  (0x188, "c - D D d - E A E F f G G hv I I K k l - M N n O O o OI oi P p R - - Sh"),
  (0x1AB, "t T t T U u U V Y y Z z Zh"),
  (0x1BF, "w"),
  (0x1C4, "DZ Dz dz LJ Lj lj NJ Nj nj A a I i O o U u U u U u U u U u e A a A a"),
  (0x1E2, "AE ae G g G g K k O o O o Zh zh j DZ Dz dz G g Hv W N n A a AE ae O"),
  (0x1FF, "o A a A a E e E e I i I i O o O o R r R r U u U u S s T t Y y H h N"),
  (0x221, "d Ou ou Z z A a E e O o O o O o O o Y y l n t j - - A C c L T s z - - B"),
  (0x245, "V E e J j - q R r Y y a a o b o c d d e a er e e er e j g g g g o y"),
  (0x266, "h x i i i l l l lzh u w m n n n o oe - f r r r r r r r r r s sh j z"),
  (0x286, "sh t t u u v a w y y z z zh zh - - - c O b - g h j k l q - - dz dzh"),
  (0x2A5, "dz ts ch tc fng ls lz - - h h h h j r r r r w y"),
  (0x2E0, "g l s x"),
  (0x386, "A - E I I - O - Y O i A V G D E Z I Th I K L M N X O P R - S T Y F"),
  (0x3A7, "Ch Ps O I Y a e i i y a v g d e z i th i k l m n x o p r s s t y f"),
  (0x3C7, "ch ps o i y o y o - v th Y Y Y f p k - - St st W w Q q Ss ss"),
  (0x3F0, "k r s j Th e - - - S"),
  (0x400, "E E D G Ye Dz I Yi J Lj Nj C K I U Dz A B V G D E Zh Z I Y K L M N O"),
  (0x41F, "P R S T U F Kh Ts Ch Sh Shch - Y - E Yu Ya a b v g d e zh z i y k l"),
  (0x43C, "m n o p r s t u f kh ts ch sh shch - y - e yu ya e e d g ye dz i yi"),
  (0x458, "j lj nj c k i u dz O o E e Ye ye E e Ye ye O o Yo yo X x Ps ps F f Y"),
  (0x475, "y Y y"),
  (0x490, "G g Gh gh Gh gh Zh zh Dh dh Q q K k K k Q q Ng ng Ng ng P p O o Th"),
  (0x4AB, "th T t U u U u H h Ts ts Ch ch J j H h Ch ch Ch ch I Zh zh K k L l N"),
  (0x4C8, "n N n Ch ch M m i A a A a Ae ae E e A a A a Zh zh Z z Dz dz I i I i"),
  (0x4E6, "O o O o O o E e U u U u U u Ch ch - - Y y"),
  (0x531, "A B G D E Z E Y T Zh I L Kh Ts K H Dz Gh Ch M Y N Sh O Ch P J R S V"),
  (0x54F, "T R Ts W P K O F"),
  (0x561, "a b g d e z e y t zh i l kh ts k h dz gh ch m y n sh o ch p j r s v"),
  (0x57F, "t r ts w p k o f ev"),
  (0x5D1, "v g d h v z ch t y kh kh l m m n n s - f f ts ts k r sh t"),
  (0x622, "a a w i y a b h t th j h kh d dh r z s sh s d t z - gh"),
  (0x641, "f q k l m n h w a y an un in a u i"),
  (0x660, "0 1 2 3 4 5 6 7 8 9"),
  (0x671, "a - - - a w u y t - - t - p - - dz - - - ts ch - d d"),
  (0x691, "r - r - r zh - zh - sh"),
  (0x6A4, "v"),
  (0x6A9, "k k - - ng - g"),
  (0x6B5, "l"),
  (0x6BA, "n - n - h - h h h h - - o u u - - v y - - - e - e e - e"),
  (0x6F0, "0 1 2 3 4 5 6 7 8 9"),
  (0x7C0, "0 1 2 3 4 5 6 7 8 9"),
  (0x901, "m m h a a a i i u u r l e e e ai o o o au k kh g gh n c ch j jh n t"),
  (0x920, "th d dh n t th d dh n n p ph b bh m y r r l l l v s s s h"),
  (0x93E, "a i i u u r r e e e ai o o o au - - - om"),
  (0x958, "q kh g z r rh f y r l l l - - 0 1 2 3 4 5 6 7 8 9 - - e"),
  (0x981, "m m h - a a i i u u r l - - e ai - - o au k kh g gh n c ch j jh n t"),
  (0x9A0, "th d dh n t th d dh n - p ph b bh m y r - l - - - s s s h"),
  (0x9BE, "a i i u u r r - - e ai - - o au - t"),
  (0x9DC, "r rh - y r l l l - - 0 1 2 3 4 5 6 7 8 9 r v"),
  (0x9F9, "16"),
  (0xA01, "m m h - a a i i u u"),
  (0xA0F, "e ai - - o au k kh g gh n c ch j jh n t th d dh n t th d dh n - p ph"),
  (0xA2C, "b bh m y r - l l - v s - s h"),
  (0xA3E, "a i i u u"),
  (0xA47, "e ai - - o au"),
  (0xA59, "kh g z r - f"),
  (0xA66, "0 1 2 3 4 5 6 7 8 9 m"),
  (0xA81, "m m h - a a i i u u r l - - e ai - - o au k kh g gh n c ch j jh n t"),
  (0xAA0, "th d dh n t th d dh n - p ph b bh m y r - l l - v s s s h"),
  (0xABE, "a i i u u r r e - e ai o - o au - - - om"),
  (0xAE0, "r l l l - - 0 1 2 3 4 5 6 7 8 9"),
  (0xB01, "m m h - a a i i u u r l - - e ai - - o au k kh g gh n c ch j jh n t"),
  (0xB20, "th d dh n t th d dh n - p ph b bh m y r - l l - v s s s h"),
  (0xB3E, "a i i u u r r - - e ai - - o au"),
  (0xB5C, "r rh - y r l l l - - 0 1 2 3 4 5 6 7 8 9 - w"),
  (0xB82, "m h - a a i i u u - - - e e ai - o o au k - - - n c - j - n t - - - n"),
  (0xBA4, "t - - - n n p - - - m y r r l l l v s s s h"),
  (0xBBE, "a i i u u - - - e e ai - o o au - - - om"),
  (0xBE6, "0 1 2 3 4 5 6 7 8 9 10 100 1000"),
  (0xC01, "m m h - a a i i u u r l - e e ai - o o au k kh g gh n c ch j jh n t"),
  (0xC20, "th d dh n t th d dh n - p ph b bh m y r r l l l v s s s h"),
  (0xC3E, "a i i u u r r - e e ai - o o au"),
  (0xC60, "r l l l - - 0 1 2 3 4 5 6 7 8 9"),
  (0xC78, "0 1 2 3 1 2 3 - - m m h - a a i i u u r l - e e ai - o o au k kh g"),
  (0xC98, "gh n c ch j jh n t th d dh n t th d dh n - p ph b bh m y r r l l - v"),
  (0xCB6, "s s s h"),
  (0xCBE, "a i i u u r r - e e ai - o o au"),
  (0xCDE, "f - r l l l - - 0 1 2 3 4 5 6 7 8 9"),
  (0xD01, "m m h - a a i i u u r l - e e ai - o o au k kh g gh n c ch j jh n t"),
  (0xD20, "th d dh n t th d dh n n p ph b bh m y r r l l l v s s s h"),
  (0xD3E, "a i i u u r r - e e ai - o o au"),
  (0xD60, "r l l l - - 0 1 2 3 4 5 6 7 8 9 10 100 1000"),
  (0xD7A, "n n r l l k - - m h - a a ae ae i i u u r r l l e e ai o o au - - - k"),
  (0xD9B, "kh g gh n n c ch j jh n jn nj t th d dh n nd t th d dh n - nd p ph b"),
  (0xDB7, "bh m mb y r - l - - v s s s h l f"),
  (0xDCF, "a ae ae i i u - u - r e e ai o o au l"),
  (0xDE6, "0 1 2 3 4 5 6 7 8 9 - - r l"),
  (0xE01, "k kh kh kh kh kh ng ch ch ch s ch y d t th th th n d t th th th n b"),
  (0xE1B, "p ph f ph f ph m y r rue l lue w s s s h l o h - a a a am i i ue ue"),
  (0xE38, "u u"),
  (0xE40, "e ae o ai ai"),
  (0xE4D, "m - - 0 1 2 3 4 5 6 7 8 9"),
  (0xE81, "k kh - kh - - ng ch - s - - ny"),
  (0xE94, "d t th th - n b p ph f ph f - m y r - l - v - - s h - o h - a a a am"),
  (0xEB4, "i i u u u u - o l ia - - e ae o ai ai"),
  (0xECD, "o - - 0 1 2 3 4 5 6 7 8 9 - - n m"),
  (0xF20, "0 1 2 3 4 5 6 7 8 9"),
  (0x1000, "k hk g gh ng s hs z z ny ny t ht d d n t ht d d n p hp b b m y r l w"),
  (0x101E, "th h l a - i i u u e - o o a a i i u u e e - - - n"),
  (0x103B, "y y w h ss 0 1 2 3 4 5 6 7 8 9"),
  (0x1090, "0 1 2 3 4 5 6 7 8 9"),
  (0x10A0, "A B G D E V Z T I K L M N O P Zh R S T U P K Gh Q Sh Ch Ts Dz Ts Ch"),
  (0x10BE, "Kh J H"),
  (0x10D0, "a b g d e v z t i k l m n o p zh r s t u p k gh q sh ch ts dz ts ch"),
  (0x10EE, "kh j h"),
  (0x10FC, "n"),
  (0x1200, "he hu hi ha he h ho hwa le lu li la le l lo - he hu hi ha he h ho - me"),
  (0x1219, "mu mi ma me m mo - se su si sa se s so - re ru ri ra re r ro - se su"),
  (0x1232, "si sa se s so - she shu shi sha she sh sho - ke ku ki ka ke k ko kwa"),
  (0x1248, "kwe - kwi kwa kwe kw - - ke ku ki ka ke k ko"),
  (0x1260, "be bu bi ba be b bo - ve vu vi va ve v vo - te tu ti ta te t to - che"),
  (0x1279, "chu chi cha che ch cho - he hu hi ha he h ho hwa hwe - hwi hwa hwe"),
  (0x128D, "hw - - ne nu ni na ne n no - nye nyu nyi nya nye ny nyo - a u i a e"),
  (0x12A5, "e o we ke ku ki ka ke k ko kwa kwe - kwi kwa kwe kw - - khe khu khi"),
  (0x12BB, "kha khe kh kho - khwe - khwi khwa khwe khw - - we wu wi wa we w wo"),
  (0x12CF, "wwa a u i a e e o - ze zu zi za ze z zo - zhe zhu zhi zha zhe zh zho"),
  (0x12E8, "ye yu yi ya ye y yo ywa de du di da de d do - de du di da de d do - je"),
  (0x1301, "ju ji ja je j jo - ge gu gi ga ge g go gwa gwe - gwi gwa gwe gw - - nge"),
  (0x1319, "ngu ngi nga nge ng ngo - te tu ti ta te t to - che chu chi cha che"),
  (0x132D, "ch cho - pe pu pi pa pe p po - tse tsu tsi tsa tse ts tso - tse tsu"),
  (0x1342, "tsi tsa tse ts tso tswa fe fu fi fa fe f fo - pe pu pi pa pe p po"),
  (0x1369, "1 2 3 4 5 6 7 8 9 10 20 30 40 50 60 70 80 90 100 10000"),
  (0x1780, "k kh k kh ng ch chh ch chh nh d th d th n t th t th n b ph p ph m y"),
  (0x179A, "r l v sh s s h l - a a i ei u u uv rue rue lue lue e ai ao ao au - - - a"),
  (0x17B7, "e i oe eu o u uo aeu oea ie e ae ai ao au m h"),
  (0x17E0, "0 1 2 3 4 5 6 7 8 9"),
  (0x17F0, "0 1 2 3 4 5 6 7 8 9"),
  (0x1810, "0 1 2 3 4 5 6 7 8 9"),
  (0x1946, "0 1 2 3 4 5 6 7 8 9"),
  (0x19D0, "0 1 2 3 4 5 6 7 8 9 1"),
  (0x1A80, "0 1 2 3 4 5 6 7 8 9"),
  (0x1A90, "0 1 2 3 4 5 6 7 8 9"),
  (0x1B50, "0 1 2 3 4 5 6 7 8 9"),
  (0x1BB0, "0 1 2 3 4 5 6 7 8 9"),
  (0x1C40, "0 1 2 3 4 5 6 7 8 9"),
  (0x1C50, "0 1 2 3 4 5 6 7 8 9"),
  (0x1C90, "A B G D E V Z T I K L M N O P Zh R S T U P K Gh Q Sh Ch Ts Dz Ts Ch"),
  (0x1CAE, "Kh J H"),
  (0x1D00, "a - ae - c d - e - i j k - m - o - o - o oe - - - p - - t u u - - v"),
  (0x1D21, "w z"),
  (0x1D2C, "A AE B - D E E G H I J K L M N - O Ou P R T U W a a a ae b d e a e e"),
  (0x1D4D, "g - k m ng o o - - p t u u u v - v g d f ch i r u v v g r f ch ue b"),
  (0x1D6D, "d f m n p r r s t z g n g th - - p - - b d f g k l m n p r s - v x z"),
  (0x1D8F, "a - d e e - - i o - u - o c c d e f j g y i i i - j l l l m w n n n"),
  (0x1DB1, "o f s sh t u u u v a z z z zh th"),
  (0x1E00, "A a B b B b B b C c D d D d D d D d D d E e E e E e E e E e F f G g"),
  (0x1E22, "H h H h H h H h H h I i I i K k K k K k L l L l L l L l M m M m M m"),
  (0x1E44, "N n N n N n N n O o O o O o O o P p P p R r R r R r R r S s S s S s"),
  (0x1E66, "S s S s T t T t T t T t U u U u U u U u U u V v V v W w W w W w W w"),
  (0x1E88, "W w X x X x Y y Z z Z z Z z h t w y a s - - SS - A a A a A a A a A a"),
  (0x1EAA, "A a A a A a A a A a A a A a E e E e E e E e E e E e E e E e I i I i"),
  (0x1ECC, "O o O o O o O o O o O o O o O o O o O o O o O o U u U u U u U u U u"),
  (0x1EEE, "U u U u Y y Y y Y y Y y"),
  (0x1EFE, "Y y a a a a a a a a A A A A A A A A e e e e e e - - E E E E E E - - i"),
  (0x1F21, "i i i i i i i I I I I I I I I i i i i i i i i I I I I I I I I o o o"),
  (0x1F43, "o o o - - O O O O O O - - y y y y y y y y - Y - Y - Y - Y o o o o o"),
  (0x1F65, "o o o O O O O O O O O a a e e i i i i o o y y o o - - a a a a a a a"),
  (0x1F87, "a A A A A A A A A i i i i i i i i I I I I I I I I o o o o o o o o O"),
  (0x1FA9, "O O O O O O O a a a a a - a a A A A A A - i - - - i i i - i i E E I"),
  (0x1FCB, "I I - - - i i i i - - i i I I I I"),
  (0x1FE0, "y y y y r r y y Y Y Y Y R"),
  (0x1FF2, "o o o - o o O O O O O"),
  (0x2017, "_"),
  (0x203F, "_ _"),
  (0x2054, "_"),
  (0x2070, "0 i - - 4 5 6 7 8 9"),
  (0x207F, "n 0 1 2 3 4 5 6 7 8 9"),
  (0x2090, "a e o x a h k l m n p s t"),
  (0x20A8, "Rs KRW ILS VND EUR"),
  (0x20B4, "UAH"),
  (0x20B9, "INR TRY - - RUB - BTC"),
  (0x2100, "ac as C C - co cu E - F g H H H h h I I L l - N No - - P Q R R R - - SM"),
  (0x2121, "TEL TM - Z oz O - Z - K A B C e e E F F M o - v g d i - FAX p g G P"),
  (0x2140, "S"),
  (0x2145, "D d e i j - - - AS f - 17 19 110 13 23 15 25 35 45 16 56 18 38 58 78"),
  (0x215F, "1 I II III IV V VI VII VIII IX X XI XII L C D M i ii iii iv v vi vii"),
  (0x2177, "viii ix x xi xii l c d m - - - C c"),
  (0x2189, "03"),
  (0x2202, "d - - - D"),
  (0x220F, "P - S"),
  (0x221E, "oo"),
  (0x2460, "1 2 3 4 5 6 7 8 9 10 11 12 13 14 15 16 17 18 19 20 1 2 3 4 5 6 7 8 9"),
  (0x247D, "10 11 12 13 14 15 16 17 18 19 20 1 2 3 4 5 6 7 8 9 10 11 12 13 14 15"),
  (0x2497, "16 17 18 19 20 a b c d e f g h i j k l m n o p q r s t u v w x y z A"),
  (0x24B7, "B C D E F G H I J K L M N O P Q R S T U V W X Y Z a b c d e f g h i"),
  (0x24D9, "j k l m n o p q r s t u v w x y z 0 11 12 13 14 15 16 17 18 19 20 1"),
  (0x24F6, "2 3 4 5 6 7 8 9 10 0"),
  (0x2776, "1 2 3 4 5 6 7 8 9 10 1 2 3 4 5 6 7 8 9 10 1 2 3 4 5 6 7 8 9 10"),
  (0x2C60, "L l L P R a t H h K k Z z A M A - v W w v - - - e r o - j V S Z"),
  (0x3007, "Ling"),
  (0x3041, "a a i i u u e e o o ka ga ki gi ku gu ke ge ko go sa za shi ji su zu"),
  (0x305B, "se ze so zo ta da chi ji tsu tsu zu te de to do na ni nu ne no ha ba"),
  (0x3071, "pa hi bi pi fu bu pu he be pe ho bo po ma mi mu me mo ya ya yu yu yo"),
  (0x3088, "yo ra ri ru re ro wa wa wi we wo n vu ka ke"),
  (0x309F, "yori - a a i i u u e e o o ka ga ki gi ku gu ke ge ko go sa za shi"),
  (0x30B8, "ji su zu se ze so zo ta da chi ji tsu tsu zu te de to do na ni nu ne"),
  (0x30CE, "no ha ba pa hi bi pi fu bu pu he be pe ho bo po ma mi mu me mo ya ya"),
  (0x30E5, "yu yu yo yo ra ri ru re ro wa wa wi we wo n vu ka ke va vi ve vo"),
  (0x30FF, "koto"),
  (0x3248, "10 20 30 40 50 60 70 80 PTE 21 22 23 24 25 26 27 28 29 30 31 32 33"),
  (0x325E, "34 35"),
  (0x32B1, "36 37 38 39 40 41 42 43 44 45 46 47 48 49 50 1 2 3 4 5 6 7 8 9 10 11"),
  (0x32CB, "12 Hg erg eV LTD a i u e o ka ki ku ke ko sa shi su se so ta chi tsu"),
  (0x32E2, "te to na ni nu ne no ha hi fu he ho ma mi mu me mo ya yu yo ra ri ru"),
  (0x32F9, "re ro wa wi we wo - ahato arufua anhea aru ininku inchi uon esukuto"),
  (0x3308, "eka onsu omu kairi karatsuto karori karon kanma kika kini kiyuri"),
  (0x3313, "kiruta kiro kirokuramu kirometoru kirowatsuto kuramu kuramuton"),
  (0x331A, "kuruseiro kurone kesu koruna koho saikuru sanchimu shirinku senchi"),
  (0x3323, "sento tasu teshi toru ton nano notsuto haitsu hasento hatsu hareru"),
  (0x332E, "hiasutoru hikuru hiko hiru fuaratsuto fuito futsushieru furan"),
  (0x3336, "hekutaru heso henihi herutsu hensu heshi heta hointo horuto hon"),
  (0x3340, "honto horu hon maikuro mairu matsuha maruku manshiyon mikuron miri"),
  (0x334A, "miriharu meka mekaton metoru yato yaru yuan ritsutoru rira ruhi"),
  (0x3354, "rufuru remu rentoken watsuto 0 1 2 3 4 5 6 7 8 9 10 11 12 13 14 15"),
  (0x3368, "16 17 18 19 20 21 22 23 24 hPa da AU bar oV pc dm dm2 dm3 IU"),
  (0x3380, "pA nA mA mA kA KB MB GB cal kcal pF nF mF mg mg kg Hz kHz MHz GHz"),
  (0x3394, "THz ml ml dl kl fm nm mm mm cm km mm2 cm2 m2 km2 mm3 cm3 m3 km3 ms"),
  (0x33A8, "ms2 Pa kPa MPa GPa rad rads rads2 ps ns ms ms pV nV mV mV kV MV pW"),
  (0x33BB, "nW mW mW kW MW kO MO am Bq cc cd Ckg Co dB Gy ha HP in KK KM kt lm"),
  (0x33D1, "ln log lx mb mil mol PH pm PPM PR sr Sv Wb Vm Am 1 2 3 4 5 6 7 8 9"),
  (0x33E9, "10 11 12 13 14 15 16 17 18 19 20 21 22 23 24 25 26 27 28 29 30 31"),
  (0x33FF, "gal"),
  (0xA620, "0 1 2 3 4 5 6 7 8 9"),
  (0xA728, "TZ tz"),
  (0xA730, "f s AA aa AO ao AU au AV av AV av AY ay C c K k K k K k - - L l O o"),
  (0xA74C, "O o OO oo P p P p P p Q q Q q"),
  (0xA75E, "V v VY vy"),
  (0xA76A, "ET et IS is"),
  (0xA778, "um D d F f G - - L l R r S s T t"),
  (0xA78D, "H l - N n C c c h B b F f"),
  (0xA7A0, "G g K k N n R r S s H - G L I q K T J"),
  (0xA7B8, "U u"),
  (0xA7C4, "C S Z D d S s"),
  (0xA7F2, "C F Q - - - H oe"),
  (0xA8D0, "0 1 2 3 4 5 6 7 8 9"),
  (0xA900, "0 1 2 3 4 5 6 7 8 9"),
  (0xA9D0, "0 1 2 3 4 5 6 7 8 9"),
  (0xA9F0, "0 1 2 3 4 5 6 7 8 9"),
  (0xAA50, "0 1 2 3 4 5 6 7 8 9"),
  (0xAB33, "e e - g l l l m n - - - o - oe oe"),
  (0xAB49, "r - r r - u - ui ui u - - - x x x x y - - l l u - - oe uo"),
  (0xAB68, "r w"),
  (0xABF0, "0 1 2 3 4 5 6 7 8 9"),
  (0xFB00, "ff fi fl ffi ffl st st"),
  (0xFB13, "mn me mi vn mkh"),
  (0xFB1D, "y"),
  (0xFB22, "d h kh l m r t - sh sh sh sh - - - v g d h v z - t y kh kh l - m - n"),
  (0xFB41, "s - f f - ts k r sh t v v kh f l"),
  (0xFE33, "_ _"),
  (0xFE4D, "_ _ _"),
  (0xFF10, "0 1 2 3 4 5 6 7 8 9"),
  (0xFF21, "A B C D E F G H I J K L M N O P Q R S T U V W X Y Z"),
  (0xFF3F, "_ - a b c d e f g h i j k l m n o p q r s t u v w x y z"),
  (0xFF66, "wo a i u e o ya yu yo tsu - a i u e o ka ki ku ke ko sa shi su se so"),
  (0xFF80, "ta chi tsu te to na ni nu ne no ha hi fu he ho ma mi mu me mo ya yu"),
  (0xFF96, "yo ra ri ru re ro wa n"),
  (0xFFE0, "c GBP - - - JPY KRW"),
  (0x1D400, "A B C D E F G H I J K L M N O P Q R S T U V W X Y Z a b c d e f g h"),
  (0x1D422, "i j k l m n o p q r s t u v w x y z A B C D E F G H I J K L M N O P"),
  (0x1D444, "Q R S T U V W X Y Z a b c d e f g - i j k l m n o p q r s t u v w x"),
  (0x1D466, "y z A B C D E F G H I J K L M N O P Q R S T U V W X Y Z a b c d e f"),
  (0x1D488, "g h i j k l m n o p q r s t u v w x y z A - C D - - G - - J K - - N"),
  (0x1D4AA, "O P Q - S T U V W X Y Z a b c d - f - h i j k l m n - p q r s t u v"),
  (0x1D4CC, "w x y z A B C D E F G H I J K L M N O P Q R S T U V W X Y Z a b c d"),
  (0x1D4EE, "e f g h i j k l m n o p q r s t u v w x y z A B - D E F G - - J K L"),
  (0x1D510, "M N O P Q - S T U V W X Y - a b c d e f g h i j k l m n o p q r s t"),
  (0x1D532, "u v w x y z A B - D E F G - I J K L M - O - - - S T U V W X Y - a b"),
  (0x1D554, "c d e f g h i j k l m n o p q r s t u v w x y z A B C D E F G H I J"),
  (0x1D576, "K L M N O P Q R S T U V W X Y Z a b c d e f g h i j k l m n o p q r"),
  (0x1D598, "s t u v w x y z A B C D E F G H I J K L M N O P Q R S T U V W X Y Z"),
  (0x1D5BA, "a b c d e f g h i j k l m n o p q r s t u v w x y z A B C D E F G H"),
  (0x1D5DC, "I J K L M N O P Q R S T U V W X Y Z a b c d e f g h i j k l m n o p"),
  (0x1D5FE, "q r s t u v w x y z A B C D E F G H I J K L M N O P Q R S T U V W X"),
  (0x1D620, "Y Z a b c d e f g h i j k l m n o p q r s t u v w x y z A B C D E F"),
  (0x1D642, "G H I J K L M N O P Q R S T U V W X Y Z a b c d e f g h i j k l m n"),
  (0x1D664, "o p q r s t u v w x y z A B C D E F G H I J K L M N O P Q R S T U V"),
  (0x1D686, "W X Y Z a b c d e f g h i j k l m n o p q r s t u v w x y z i j - - A"),
  (0x1D6A9, "V G D E Z I Th I K L M N X O P R Th S T Y F Ch Ps O - a v g d e z i"),
  (0x1D6C9, "th i k l m n x o p r s s t y f ch ps o d e th k f r p A V G D E Z I"),
  (0x1D6E9, "Th I K L M N X O P R Th S T Y F Ch Ps O - a v g d e z i th i k l m n"),
  (0x1D709, "x o p r s s t y f ch ps o d e th k f r p A V G D E Z I Th I K L M N"),
  (0x1D729, "X O P R Th S T Y F Ch Ps O - a v g d e z i th i k l m n x o p r s s"),
  (0x1D749, "t y f ch ps o d e th k f r p A V G D E Z I Th I K L M N X O P R Th S"),
  (0x1D769, "T Y F Ch Ps O - a v g d e z i th i k l m n x o p r s s t y f ch ps o"),
  (0x1D789, "d e th k f r p A V G D E Z I Th I K L M N X O P R Th S T Y F Ch Ps O"),
  (0x1D7AA, "a v g d e z i th i k l m n x o p r s s t y f ch ps o d e th k f r p"),
  (0x1D7CA, "W w - - 0 1 2 3 4 5 6 7 8 9 0 1 2 3 4 5 6 7 8 9 0 1 2 3 4 5 6 7 8 9"),
  (0x1D7EC, "0 1 2 3 4 5 6 7 8 9 0 1 2 3 4 5 6 7 8 9"),
  (0x1F100, "0 0 1 2 3 4 5 6 7 8 9 0 0 - - - A B C D E F G H I J K L M N O P Q R"),
  (0x1F122, "S T U V W X Y Z S C R CD WZ - A B C D E F G H I J K L M N O P Q R S"),
  (0x1F143, "T U V W X Y Z HV MV SD SS PPV WC"),
  (0x1F16A, "MC MD MR"),
  (0x1F190, "DJ"),
  (0x1F200, "hoka"),
  (0x1F213, "te"),
  (0x1FBF0, "0 1 2 3 4 5 6 7 8 9")]

/-- The characters of a run with their ASCII text. -/
def transcripts (run : Nat × String) : List (Nat × String) :=
  let texts := run.2.splitOn " "
  (texts.zipIdx run.1).filterMap fun (text, code) =>
    if text = "-" then none else some (code, text)

/-- All characters with an ASCII text, in order. -/
def alphabetTable : Array (Nat × String) :=
  alphabetRuns.foldl (fun table run => table ++ (transcripts run).toArray) #[]

/-- The entry for a code point in a sorted table, looked for from `low` up to before `high`. -/
def lookup? (table : Array (Nat × String)) (code low high : Nat) : Option String :=
  if low < high then
    let middle := (low + high) / 2
    match table[middle]? with
    | none => none
    | some (found, text) =>
      if found = code then some text
      else if found < code then lookup? table code (middle + 1) high
      else lookup? table code low middle
  else none
termination_by high - low

/-- The ASCII text of a letter or digit. -/
def alphabet? (code : Nat) : Option String :=
  lookup? alphabetTable code 0 alphabetTable.size

end Toolwright.Name.Script
