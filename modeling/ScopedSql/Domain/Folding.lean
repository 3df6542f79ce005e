import ScopedSql.Text.Blank
import ScopedSql.Text.Printable

namespace ScopedSql
namespace Domain

/-!
# Folding the characters of a domain

Many characters stand for others in a domain: a capital for its small letter, a
letter of a fancy style or width for the plain one, a ligature for its letters.
Some are passed over, and some may not be there at all.  All others stand for
themselves.

A row gives the number of a first character, the step to the next one, and what
they stand for in turn.
-/

/-- Characters that stand for one character each. -/
def singleRows : List (Nat × Nat × String) :=
  [(0xaa, 1, "a"), (0xb2, 1, "23"), (0xb5, 1, "μ"), (0xb9, 1, "1o"),
   (0xc0, 1, "àáâãäåæçèéêëìíîïðñòóôõö"), (0xd8, 1, "øùúûüýþ"),
   (0x100, 2, "āăąćĉċčďđēĕėęěĝğġģĥħĩīĭį"), (0x134, 2, "ĵķ"), (0x139, 2, "ĺļľ"),
   (0x141, 2, "łńņň"), (0x14a, 2, "ŋōŏőœŕŗřśŝşšţťŧũūŭůűųŵŷÿ"), (0x179, 2, "źżžsɓ"),
   (0x182, 2, "ƃƅɔ"), (0x187, 2, "ƈɖƌ"), (0x18a, 1, "ɗ"), (0x18e, 1, "ǝəɛƒ"), (0x193, 1, "ɠɣ"),
   (0x196, 1, "ɩɨƙ"), (0x19c, 1, "ɯɲ"), (0x19f, 1, "ɵơ"), (0x1a2, 2, "ƣƥʀ"), (0x1a7, 2, "ƨʃ"),
   (0x1ac, 2, "ƭʈ"), (0x1af, 2, "ưʊƴƶʒ"), (0x1b2, 1, "ʋ"), (0x1b8, 1, "ƹ"), (0x1bc, 1, "ƽ"),
   (0x1cd, 2, "ǎǐǒǔǖǘǚǜ"), (0x1de, 2, "ǟǡǣǥǧǩǫǭǯ"),
   (0x1f4, 2, "ǵƕǹǻǽǿȁȃȅȇȉȋȍȏȑȓȕȗșțȝȟƞȣȥȧȩȫȭȯȱȳ"), (0x1f7, 1, "ƿ"), (0x23a, 1, "ⱥȼ"),
   (0x23d, 1, "ƚⱦ"), (0x241, 2, "ɂƀʌ"), (0x244, 2, "ʉɇɉɋɍɏ"), (0x2b0, 1, "hɦjrɹɻʁwy"),
   (0x2e0, 1, "ɣlsxʕ"), (0x340, 1, "̀́"), (0x343, 2, "̓ι"), (0x370, 2, "ͱͳʹͷ"), (0x37e, 1, ";ϳ"),
   (0x386, 1, "ά·έήί"), (0x38c, 2, "όύ"), (0x38f, 2, "ώαγεηιλνορσυχωϋ"), (0x392, 2, "βδζθκμξπ"),
   (0x3a4, 2, "τφψϊ"), (0x3cf, 1, "ϗβθυύϋφπ"), (0x3d8, 2, "ϙϛϝϟϡϣϥϧϩϫϭϯκσθ"), (0x3f1, 1, "ρ"),
   (0x3f5, 2, "εϸσ"), (0x3fa, 1, "ϻ"),
   (0x3fd, 1, "ͻͼͽѐёђѓєѕіїјљњћќѝўџабвгдежзийклмнопрстуфхцчшщъыьэюя"),
   (0x460, 2, "ѡѣѥѧѩѫѭѯѱѳѵѷѹѻѽѿҁ"), (0x48a, 2, "ҋҍҏґғҕҗҙқҝҟҡңҥҧҩҫҭүұҳҵҷҹһҽҿӏ"),
   (0x4c1, 2, "ӂӄӆӈӊӌӎ"), (0x4d0, 2, "ӑӓӕӗәӛӝӟӡӣӥӧөӫӭӯӱӳӵӷӹӻӽӿԁԃԅԇԉԋԍԏԑԓԕԗԙԛԝԟԡԣԥԧԩԫԭԯ"),
   (0x531, 1, "աբգդեզէըթժիլխծկհձղճմյնշոչպջռսվտրցւփքօֆ"), (0xf0c, 1, "་"),
   (0x10a0, 1, "ⴀⴁⴂⴃⴄⴅⴆⴇⴈⴉⴊⴋⴌⴍⴎⴏⴐⴑⴒⴓⴔⴕⴖⴗⴘⴙⴚⴛⴜⴝⴞⴟⴠⴡⴢⴣⴤⴥ"), (0x10c7, 1, "ⴧ"), (0x10cd, 1, "ⴭ"),
   (0x10fc, 1, "ნ"), (0x13f8, 1, "ᏰᏱᏲᏳᏴᏵ"), (0x1c80, 1, "вдосттъѣꙋᲊ"),
   (0x1c90, 1, "აბგდევზთიკლმნოპჟრსტუფქღყშჩცძწჭხჯჰჱჲჳჴჵჶჷჸჹჺ"), (0x1cbd, 1, "ჽჾჿ"),
   (0x1d2c, 1, "aæb"), (0x1d30, 1, "deǝghijklmn"), (0x1d3c, 1, "oȣprtuwaɐɑᴂbdeəɛɜg"),
   (0x1d4f, 1, "kmŋoɔᴖᴗptuᴝɯvᴥβγδφχiruvβγρφχ"), (0x1d78, 1, "н"),
   (0x1d9b, 1, "ɒcɕðɜfɟɡɥɨɩɪᵻʝɭᶅʟɱɰɲɳɴɵɸʂʃƫʉʊᴜʋʌzʐʑʒθ"),
   (0x1e00, 2, "ḁḃḅḇḉḋḍḏḑḓḕḗḙḛḝḟḡḣḥḧḩḫḭḯḱḳḵḷḹḻḽḿṁṃṅṇṉṋṍṏṑṓṕṗṙṛṝṟṡṣṥṧṩṫṭṯṱṳṵṷṹṻṽṿ"),
   (0x1e80, 2, "ẁẃẅẇẉẋẍẏẑẓẕ"), (0x1e9b, 1, "ṡ"),
   (0x1e9e, 2, "ßạảấầẩẫậắằẳẵặẹẻẽếềểễệỉịọỏốồổỗộớờởỡợụủứừửữựỳỵỷỹỻỽỿ"), (0x1f08, 1, "ἀἁἂἃἄἅἆἇ"),
   (0x1f18, 1, "ἐἑἒἓἔἕ"), (0x1f28, 1, "ἠἡἢἣἤἥἦἧ"), (0x1f38, 1, "ἰἱἲἳἴἵἶἷ"), (0x1f48, 1, "ὀὁὂὃὄὅ"),
   (0x1f59, 2, "ὑὓὕὗ"), (0x1f68, 1, "ὠὡὢὣὤὥὦὧ"), (0x1f71, 2, "άέήίόύώ"), (0x1fb8, 1, "ᾰᾱὰά"),
   (0x1fbe, 1, "ι"), (0x1fc8, 1, "ὲέὴή"), (0x1fd3, 1, "ΐ"), (0x1fd8, 1, "ῐῑὶί"), (0x1fe3, 1, "ΰ"),
   (0x1fe8, 1, "ῠῡὺύῥ"), (0x1fef, 1, "\x60"), (0x1ff8, 1, "ὸόὼώ"), (0x2011, 1, "‐"),
   (0x2070, 1, "0i"), (0x2074, 1, "456789+−=()n0123456789+−=()"), (0x2090, 1, "aeoxəhklmnpst"),
   (0x2102, 1, "c"), (0x2107, 1, "ɛ"), (0x210a, 1, "ghhhhħiill"), (0x2115, 1, "n"),
   (0x2119, 1, "pqrrr"), (0x2124, 2, "zωzkb"), (0x212b, 2, "åcefmאגi"), (0x2130, 2, "eⅎoבד"),
   (0x213c, 1, "πγγπ∑"), (0x2145, 1, "ddeij"), (0x2160, 1, "i"), (0x2164, 1, "v"),
   (0x2169, 1, "x"), (0x216c, 1, "lcdmi"), (0x2174, 1, "v"), (0x2179, 1, "x"),
   (0x217c, 1, "lcdm"), (0x2183, 1, "ↄ"), (0x2329, 1, "〈〉"), (0x2460, 1, "123456789"),
   (0x24b6, 1, "abcdefghijklmnopqrstuvwxyzabcdefghijklmnopqrstuvwxyz0"),
   (0x2c00, 1, "ⰰⰱⰲⰳⰴⰵⰶⰷⰸⰹⰺⰻⰼⰽⰾⰿⱀⱁⱂⱃⱄⱅⱆⱇⱈⱉⱊⱋⱌⱍⱎⱏⱐⱑⱒⱓⱔⱕⱖⱗⱘⱙⱚⱛⱜⱝⱞⱟ"), (0x2c60, 2, "ⱡɫɽ"),
   (0x2c63, 1, "ᵽ"), (0x2c67, 2, "ⱨⱪⱬɑɐ"), (0x2c6e, 2, "ɱɒⱳ"), (0x2c75, 1, "ⱶ"),
   (0x2c7c, 1, "jvȿɀⲁ"), (0x2c82, 2, "ⲃⲅⲇⲉⲋⲍⲏⲑⲓⲕⲗⲙⲛⲝⲟⲡⲣⲥⲧⲩⲫⲭⲯⲱⲳⲵⲷⲹⲻⲽⲿⳁⳃⳅⳇⳉⳋⳍⳏⳑⳓⳕⳗⳙⳛⳝⳟⳡⳣ"),
   (0x2ceb, 2, "ⳬⳮ"), (0x2cf2, 1, "ⳳ"), (0x2d6f, 1, "ⵡ"), (0x2e9f, 1, "母"), (0x2ef3, 1, "龟"),
   (0x2f00, 1, "一丨丶丿乙亅二亠人儿入八冂冖冫几凵刀力勹匕匚匸十卜卩厂厶又口囗土士夂夊夕大女子宀寸小尢尸屮山巛工己巾干幺广廴廾弋弓彐彡彳心戈戶手"),
   (0x2f40, 1, "支攴文斗斤方无日曰月木欠止歹殳毋比毛氏气水火爪父爻爿片牙牛犬玄玉瓜瓦甘生用田疋疒癶白皮皿目矛矢石示禸禾穴立竹米糸缶网羊羽老而耒耳"),
   (0x2f80, 1, "聿肉臣自至臼舌舛舟艮色艸虍虫血行衣襾見角言谷豆豕豸貝赤走足身車辛辰辵邑酉釆里金長門阜隶隹雨靑非面革韋韭音頁風飛食首香馬骨高髟鬥鬯"),
   (0x2fc0, 1, "鬲鬼魚鳥鹵鹿麥麻黃黍黑黹黽鼎鼓鼠鼻齊齒龍龜龠"), (0x3002, 1, "."), (0x3036, 2, "〒十卅"), (0x3039, 1, "卄"),
   (0x3131, 1, "ᄀᄁᆪᄂᆬᆭᄃᄄᄅᆰᆱᆲᆳᆴᆵᄚᄆᄇᄈᄡᄉᄊᄋᄌᄍᄎᄏᄐᄑ하ᅢᅣᅤᅥᅦᅧᅨᅩᅪᅫᅬᅭᅮᅯᅰᅱᅲᅳᅴᅵ"),
   (0x3165, 1, "ᄔᄕᇇᇈᇌᇎᇓᇗᇙᄜᇝᇟᄝᄞᄠᄢᄣᄧᄩᄫᄬᄭᄮᄯᄲᄶᅀᅇᅌᇱᇲᅗᅘᅙᆄᆅᆈᆑᆒᆔᆞᆡ"), (0x3192, 1, "一二三四上中下甲乙丙丁天地人"),
   (0x3244, 1, "問幼文箏"), (0x3260, 1, "ᄀᄂᄃᄅᄆᄇᄉᄋᄌᄎᄏᄐᄑᄒ가나다라마바사아자차카타파하"),
   (0x327e, 2, "우一三五七九月水金日有名財労男適印項写上下右宗監資夜"), (0x3281, 2, "二四六八十火木土株社特祝秘女優注休正中左医学企協"),
   (0x32d0, 1, "アイウエオカキクケコサシスセソタチツテトナニヌネノハヒフヘホマミムメモヤユヨラリルレロワヰヱヲ"),
   (0xa640, 2, "ꙁꙃꙅꙇꙉꙋꙍꙏꙑꙓꙕꙗꙙꙛꙝꙟꙡꙣꙥꙧꙩꙫꙭ"), (0xa680, 2, "ꚁꚃꚅꚇꚉꚋꚍꚏꚑꚓꚕꚗꚙꚛъ"), (0xa69d, 1, "ь"),
   (0xa722, 2, "ꜣꜥꜧꜩꜫꜭꜯ"), (0xa732, 2, "ꜳꜵꜷꜹꜻꜽꜿꝁꝃꝅꝇꝉꝋꝍꝏꝑꝓꝕꝗꝙꝛꝝꝟꝡꝣꝥꝧꝩꝫꝭꝯꝯ"), (0xa779, 2, "ꝺꝼᵹ"),
   (0xa77e, 2, "ꝿꞁꞃꞅꞇ"), (0xa78b, 2, "ꞌɥ"), (0xa790, 2, "ꞑꞓ"),
   (0xa796, 2, "ꞗꞙꞛꞝꞟꞡꞣꞥꞧꞩɦɡɪʞʝꞵꞷꞹꞻꞽꞿꟁꟃꞔᶎ"), (0xa7ab, 2, "ɜɬ"), (0xa7b1, 2, "ʇꭓ"),
   (0xa7c5, 2, "ʂꟈꟊɤ"), (0xa7cc, 2, "ꟍ꟏ꟑꟓꟕꟗꟙꟛƛ"), (0xa7f1, 1, "scfqꟶ"), (0xa7f8, 1, "ħœ"),
   (0xab5c, 1, "ꜧꬷɫꭒ"), (0xab69, 1, "ʍ"),
   (0xab70, 1, "ᎠᎡᎢᎣᎤᎥᎦᎧᎨᎩᎪᎫᎬᎭᎮᎯᎰᎱᎲᎳᎴᎵᎶᎷᎸᎹᎺᎻᎼᎽᎾᎿᏀᏁᏂᏃᏄᏅᏆᏇᏈᏉᏊᏋᏌᏍᏎᏏᏐᏑᏒᏓᏔᏕᏖᏗᏘᏙᏚᏛᏜᏝᏞᏟ"),
   (0xabb0, 1, "ᏠᏡᏢᏣᏤᏥᏦᏧᏨᏩᏪᏫᏬᏭᏮᏯ"),
   (0xf900, 1, "豈更車賈滑串句龜龜契金喇奈懶癩羅蘿螺裸邏樂洛烙珞落酪駱亂卵欄爛蘭鸞嵐濫藍襤拉臘蠟廊朗浪狼郎來冷勞擄櫓爐盧老蘆虜路露魯鷺碌祿綠菉錄"),
   (0xf940, 1, "鹿論壟弄籠聾牢磊賂雷壘屢樓淚漏累縷陋勒肋凜凌稜綾菱陵讀拏樂諾丹寧怒率異北磻便復不泌數索參塞省葉說殺辰沈拾若掠略亮兩凉梁糧良諒量勵"),
   (0xf980, 1, "呂女廬旅濾礪閭驪麗黎力曆歷轢年憐戀撚漣煉璉秊練聯輦蓮連鍊列劣咽烈裂說廉念捻殮簾獵令囹寧嶺怜玲瑩羚聆鈴零靈領例禮醴隸惡了僚寮尿料樂"),
   (0xf9c0, 1, "燎療蓼遼龍暈阮劉杻柳流溜琉留硫紐類六戮陸倫崙淪輪律慄栗率隆利吏履易李梨泥理痢罹裏裡里離匿溺吝燐璘藺隣鱗麟林淋臨立笠粒狀炙識什茶刺"),
   (0xfa00, 1, "切度拓糖宅洞暴輻行降見廓兀嗀"), (0xfa10, 2, "塚晴"), (0xfa15, 1, "凞猪益礼神祥福靖精羽"), (0xfa20, 2, "蘒諸"),
   (0xfa25, 1, "逸都"),
   (0xfa2a, 1, "飯飼館鶴郞隷侮僧免勉勤卑喝嘆器塀墨層屮悔慨憎懲敏既暑梅海渚漢煮爫琢碑社祉祈祐祖祝禍禎穀突節練縉繁署者臭艹艹著褐視謁謹賓贈辶逸難響"),
   (0xfa6a, 1, "頻恵𤋮舘"),
   (0xfa70, 1, "並况全侀充冀勇勺喝啕喙嗢塚墳奄奔婢嬨廒廙彩徭惘慎愈憎慠懲戴揄搜摒敖晴朗望杖歹殺流滛滋漢瀞煮瞧爵犯猪瑱甆画瘝瘟益盛直睊着磌窱節类絛"),
   (0xfab0, 1, "練缾者荒華蝹襁覆視調諸請謁諾諭謹變贈輸遲醙鉶陼難靖韛響頋頻鬒龜𢡊𢡄𣏕㮝䀘䀹𥉉𥳐𧻓齃龎"), (0xfb20, 1, "עאדהכלםרת+"),
   (0xfb50, 1, "ٱٱٻٻٻٻپپپپڀڀڀڀٺٺٺٺٿٿٿٿٹٹٹٹڤڤڤڤڦڦڦڦڄڄڄڄڃڃڃڃچچچچڇڇڇڇڍڍڌڌڎڎڈڈژژڑڑکک"),
   (0xfb90, 1, "ککگگگگڳڳڳڳڱڱڱڱںںڻڻڻڻۀۀہہہہھھھھےےۓۓ"), (0xfbd3, 1, "ڭڭڭڭۇۇۆۆۈۈ"),
   (0xfbde, 1, "ۋۋۅۅۉۉېېېېىى"), (0xfbfc, 1, "یییی"), (0xfe10, 1, ",、"), (0xfe14, 1, ";!"),
   (0xfe17, 1, "〖〗"), (0xfe31, 1, "—–__()\x7b\x7d〔〕【】《》〈〉「」『』"), (0xfe4d, 1, "___,、"),
   (0xfe54, 1, ";"), (0xfe57, 1, "!—()\x7b\x7d〔〕"), (0xfe60, 1, "&*+-"), (0xfe66, 1, "="),
   (0xfe69, 1, "$"),
   (0xfe80, 1, "ءآآأأؤؤإإئئئئااببببةةتتتتثثثثججججححححخخخخددذذررززسسسسششششصصصصضضض"),
   (0xfec0, 1, "ضططططظظظظععععغغغغففففققققككككللللممممننننههههووىىيييي"), (0xff01, 1, "!\x22"),
   (0xff04, 2, "$&(*,.02468"), (0xff07, 2, "')+-"), (0xff11, 2, "13579;="),
   (0xff21, 1, "abcdefghijklmnopqrstuvwxyz"), (0xff3f, 1, "_\x60abcdefghijklmnopqrstuvwxyz\x7b"),
   (0xff5d, 1, "\x7d~⦅⦆.「」、・ヲァィゥェォャュョッーアイウエオカキクケコサシスセソタチツテトナニヌネノハヒフヘホマミムメモヤユヨラリルレロワ"),
   (0xff9d, 1, "ン゙゚"), (0xffa1, 1, "ᄀᄁᆪᄂᆬᆭᄃᄄᄅᆰᆱᆲᆳᆴᆵᄚᄆᄇᄈᄡᄉᄊᄋᄌᄍᄎᄏᄐᄑᄒ"), (0xffc2, 1, "ᅡᅢᅣᅤᅥᅦ"),
   (0xffca, 1, "ᅧᅨᅩᅪᅫᅬ"), (0xffd2, 1, "ᅭᅮᅯᅰᅱᅲ"), (0xffda, 1, "ᅳᅴᅵ"), (0xffe0, 1, "¢£¬"),
   (0xffe4, 1, "¦¥₩"), (0xffe8, 1, "│←↑→↓■○"),
   (0x10400, 1, "𐐨𐐩𐐪𐐫𐐬𐐭𐐮𐐯𐐰𐐱𐐲𐐳𐐴𐐵𐐶𐐷𐐸𐐹𐐺𐐻𐐼𐐽𐐾𐐿𐑀𐑁𐑂𐑃𐑄𐑅𐑆𐑇𐑈𐑉𐑊𐑋𐑌𐑍𐑎𐑏"),
   (0x104b0, 1, "𐓘𐓙𐓚𐓛𐓜𐓝𐓞𐓟𐓠𐓡𐓢𐓣𐓤𐓥𐓦𐓧𐓨𐓩𐓪𐓫𐓬𐓭𐓮𐓯𐓰𐓱𐓲𐓳𐓴𐓵𐓶𐓷𐓸𐓹𐓺𐓻"), (0x10570, 1, "𐖗𐖘𐖙𐖚𐖛𐖜𐖝𐖞𐖟𐖠𐖡"),
   (0x1057c, 1, "𐖣𐖤𐖥𐖦𐖧𐖨𐖩𐖪𐖫𐖬𐖭𐖮𐖯𐖰𐖱"), (0x1058c, 1, "𐖳𐖴𐖵𐖶𐖷𐖸𐖹"), (0x10594, 1, "𐖻𐖼"),
   (0x10781, 1, "ːˑæʙɓ"), (0x10787, 1, "ʣꭦʥʤɖɗᶑɘɞʩɤɢɠʛħʜɧʄʪʫɬ𝼄ꞎɮ𝼅ʎ𝼆øɶɷqɺ𝼈ɽɾʀʨʦꭧʧʈⱱ"),
   (0x107b2, 1, "ʏʡʢʘǀǁǂ𝼊𝼞"), (0x10c80, 1, "𐳀𐳁𐳂𐳃𐳄𐳅𐳆𐳇𐳈𐳉𐳊𐳋𐳌𐳍𐳎𐳏𐳐𐳑𐳒𐳓𐳔𐳕𐳖𐳗𐳘𐳙𐳚𐳛𐳜𐳝𐳞𐳟𐳠𐳡𐳢𐳣𐳤𐳥𐳦𐳧𐳨𐳩𐳪𐳫𐳬𐳭𐳮𐳯𐳰𐳱𐳲"),
   (0x10d50, 1, "𐵰𐵱𐵲𐵳𐵴𐵵𐵶𐵷𐵸𐵹𐵺𐵻𐵼𐵽𐵾𐵿𐶀𐶁𐶂𐶃𐶄𐶅"), (0x118a0, 1, "𑣀𑣁𑣂𑣃𑣄𑣅𑣆𑣇𑣈𑣉𑣊𑣋𑣌𑣍𑣎𑣏𑣐𑣑𑣒𑣓𑣔𑣕𑣖𑣗𑣘𑣙𑣚𑣛𑣜𑣝𑣞𑣟"),
   (0x16e40, 1, "𖹠𖹡𖹢𖹣𖹤𖹥𖹦𖹧𖹨𖹩𖹪𖹫𖹬𖹭𖹮𖹯𖹰𖹱𖹲𖹳𖹴𖹵𖹶𖹷𖹸𖹹𖹺𖹻𖹼𖹽𖹾𖹿"), (0x16ea0, 1, "𖺻𖺼𖺽𖺾𖺿𖻀𖻁𖻂𖻃𖻄𖻅𖻆𖻇𖻈𖻉𖻊𖻋𖻌𖻍𖻎𖻏𖻐𖻑𖻒𖻓"),
   (0x1ccd6, 1, "abcdefghijklmnopqrstuvwxyz0123456789"),
   (0x1d400, 1, "abcdefghijklmnopqrstuvwxyzabcdefghijklmnopqrstuvwxyzabcdefghijkl"),
   (0x1d440, 1, "mnopqrstuvwxyzabcdefg"),
   (0x1d456, 1, "ijklmnopqrstuvwxyzabcdefghijklmnopqrstuvwxyzabcdefghijklmnopqrst"),
   (0x1d496, 1, "uvwxyza"), (0x1d49e, 1, "cd"), (0x1d4a2, 1, "g"), (0x1d4a5, 1, "jk"),
   (0x1d4a9, 1, "nopq"), (0x1d4ae, 1, "stuvwxyzabcd"),
   (0x1d4bb, 2, "fhjlnprtvxzbdfhjlnprtvxzbdfhjlnprtvxzbdf"), (0x1d4be, 2, "ikm"),
   (0x1d4c6, 2, "qsuwyacegikmoqsuwyacegikmoqsuwya"), (0x1d508, 2, "eg"), (0x1d50d, 1, "jklmnopq"),
   (0x1d516, 1, "stuvwxy"), (0x1d51e, 1, "abcdefghijklmnopqrstuvwxyzab"), (0x1d53b, 1, "defg"),
   (0x1d540, 1, "ijklm"), (0x1d546, 1, "o"), (0x1d54a, 1, "stuvwxy"),
   (0x1d552, 1, "abcdefghijklmnopqrstuvwxyzabcdefghijklmnopqrstuvwxyzabcdefghijkl"),
   (0x1d592, 1, "mnopqrstuvwxyzabcdefghijklmnopqrstuvwxyzabcdefghijklmnopqrstuvwx"),
   (0x1d5d2, 1, "yzabcdefghijklmnopqrstuvwxyzabcdefghijklmnopqrstuvwxyzabcdefghij"),
   (0x1d612, 1, "klmnopqrstuvwxyzabcdefghijklmnopqrstuvwxyzabcdefghijklmnopqrstuv"),
   (0x1d652, 1, "wxyzabcdefghijklmnopqrstuvwxyzabcdefghijklmnopqrstuvwxyzabcdefgh"),
   (0x1d692, 1, "ijklmnopqrstuvwxyzıȷ"),
   (0x1d6a8, 1, "αβγδεζηθικλμνξοπρθστυφχψω∇αβγδεζηθικλμνξοπρσστυφχψω∂εθκφρπαβγδεζ"),
   (0x1d6e8, 1, "ηθικλμνξοπρθστυφχψω∇αβγδεζηθικλμνξοπρσστυφχψω∂εθκφρπαβγδεζηθικλμ"),
   (0x1d728, 1, "νξοπρθστυφχψω∇αβγδεζηθικλμνξοπρσστυφχψω∂εθκφρπαβγδεζηθικλμνξοπρθ"),
   (0x1d768, 1, "στυφχψω∇αβγδεζηθικλμνξοπρσστυφχψω∂εθκφρπαβγδεζηθικλμνξοπρθστυφχψ"),
   (0x1d7a8, 1, "ω∇αβγδεζηθικλμνξοπρσστυφχψω∂εθκφρπϝϝ"),
   (0x1d7ce, 1, "01234567890123456789012345678901234567890123456789"),
   (0x1e030, 1, "абвгдежзиклмопрстуфхцчшыэюꚉәіјөүӏабвгдежзиклопсуфхцчшъыґіѕџҫꙑұ"),
   (0x1e900, 1, "𞤢𞤣𞤤𞤥𞤦𞤧𞤨𞤩𞤪𞤫𞤬𞤭𞤮𞤯𞤰𞤱𞤲𞤳𞤴𞤵𞤶𞤷𞤸𞤹𞤺𞤻𞤼𞤽𞤾𞤿𞥀𞥁𞥂𞥃"), (0x1ee00, 1, "ابجد"),
   (0x1ee05, 1, "وزحطيكلمنسعفصقرشتثخذضظغٮںڡٯ"), (0x1ee21, 1, "بج"), (0x1ee24, 1, "ه"),
   (0x1ee27, 2, "حيلنعص"), (0x1ee2a, 2, "كمسفقشث"), (0x1ee35, 2, "تخضغ"), (0x1ee42, 1, "ج"),
   (0x1ee47, 2, "حيلنعص"), (0x1ee4e, 1, "س"), (0x1ee52, 2, "قش"), (0x1ee57, 2, "خضغںٯب"),
   (0x1ee62, 2, "جه"), (0x1ee67, 1, "حطيك"), (0x1ee6c, 1, "منسعفصق"), (0x1ee74, 1, "شتثخ"),
   (0x1ee79, 1, "ضظغٮ"), (0x1ee7e, 2, "ڡاجهزط"), (0x1ee81, 2, "بدوحيلنعصرتخضغ"),
   (0x1ee8c, 2, "مسفقشثذظ"), (0x1eea1, 1, "بجد"), (0x1eea5, 1, "وزحطي"),
   (0x1eeab, 1, "لمنسعفصقرشتثخذضظغ"), (0x1f12b, 1, "cr"),
   (0x1f130, 1, "abcdefghijklmnopqrstuvwxyz"), (0x1f202, 1, "サ"),
   (0x1f210, 1, "手字双デ二多解天交映無料前後再新初終生販声吹演投捕一三遊左中右指走打禁空合満有月申割営配"), (0x1f250, 1, "得可"),
   (0x1fbf0, 1, "0123456789"),
   (0x2f800, 1, "丽丸乁𠄢你侮侻倂偺備僧像㒞𠘺免兔兤具𠔜㒹內再𠕋冗冤仌冬况𩇟凵刃㓟刻剆割剷㔕勇勉勤勺包匆北卉卑博即卽卿卿卿𠨬灰及叟𠭣叫叱吆咞吸呈周"),
   (0x2f840, 1, "咢哶唐啓啣善善喙喫喳嗂圖嘆圗噑噴切壮城埴堍型堲報墬𡓤売壷夆多夢奢𡚨𡛪姬娛娧姘婦㛮㛼嬈嬾嬾𡧈寃寘寧寳𡬘寿将当尢㞁屠屮峀岍𡷤嵃𡷦嵮嵫"),
   (0x2f880, 1, "嵼巡巢㠯巽帨帽幩㡢𢆃㡼庰庳庶廊𪎒廾𢌱𢌱舁弢弢㣇𣊸𦇚形彫㣣徚忍志忹悁㤺㤜悔𢛔惇慈慌慎慌慺憎憲憤憯懞懲懶成戛扝抱拔捐𢬌挽拼捨掃揤𢯱搢"),
   (0x2f8c0, 1, "揅掩㨮摩摾撝摷㩬敏敬𣀊旣書晉㬙暑㬈㫤冒冕最暜肭䏙朗望朡杞杓𣏃㭉柺枅桒梅𣑭梎栟椔㮝楂榣槪檨𣚣櫛㰘次𣢧歔㱎歲殟殺殻𣪍𡴋𣫺汎𣲼沿泍汧洖"),
   (0x2f900, 1, "派海流浩浸涅𣴞洴港湮㴳滋滇𣻑淹潮𣽞𣾎濆瀹瀞瀛㶖灊災灷炭𠔥煅𤉣熜𤎫爨爵牐𤘈犀犕𤜵𤠔獺王㺬玥㺸㺸瑇瑜瑱璅瓊㼛甤𤰶甾𤲒異𢆟瘐𤾡𤾸𥁄㿼䀈"),
   (0x2f940, 1, "直𥃳𥃲𥄙𥄳眞真真睊䀹瞋䁆䂖𥐝硎碌磌䃣𥘦祖𥚚𥛅福秫䄯穀穊穏𥥼𥪧𥪧竮䈂𥮫篆築䈧𥲀糒䊠糨糣紀𥾆絣䌁緇縂繅䌴𦈨𦉇䍙𦋙罺𦌾羕翺者𦓚𦔣聠𦖨聰"),
   (0x2f980, 1, "𣍟䏕育脃䐋脾媵𦞧𦞵𣎓𣎜舁舄辞䑫芑芋芝劳花芳芽苦𦬼若茝荣莭茣莽菧著荓菊菌菜𦰶𦵫𦳕䔫蓱蓳蔖𧏊蕤𦼬䕝䕡𦾱𧃒䕫虐虜虧虩蚩蚈蜎蛢蝹蜨蝫螆䗗"),
   (0x2f9c0, 1, "蟡蠁䗹衠衣𧙧裗裞䘵裺㒻𧢮𧥦䚾䛇誠諭變豕𧲨貫賁贛起𧼯𠠄跋趼跰𠣞軔輸𨗒𨗭邔郱鄑𨜮鄛鈸鋗鋘鉼鏹鐕𨯺開䦕閷𨵷䧦雃嶲霣𩅅𩈚䩮䩶韠𩐊䪲𩒖頋頋"),
   (0x2fa00, 1, "頩𩖶飢䬳餩馧駂駾䯎𩬰鬒鱀鳽䳎䳭鵧𪃎䳸𪄅𪈎𪊑麻䵖黹黾鼅鼏鼖鼻𪘀")]

/-- Characters that stand for several characters each, with spaces between the words. -/
def wordRows : List (Nat × Nat × String) :=
  [(0xbc, 1, "1⁄4 1⁄2 3⁄4"), (0x130, 2, "i̇ ij"), (0x133, 1, "ij"), (0x13f, 1, "l· l·"),
   (0x149, 1, "ʼn"), (0x1c4, 1, "dž dž dž lj lj lj nj nj nj"), (0x1f1, 1, "dz dz dz"),
   (0x344, 1, "̈́"), (0x587, 1, "եւ"), (0x675, 1, "اٴ وٴ ۇٴ يٴ"),
   (0x958, 1, "क़ ख़ ग़ ज़ ड़ ढ़ फ़ य़"), (0x9dc, 1, "ড় ঢ়"), (0x9df, 1, "য়"), (0xa33, 1, "ਲ਼"),
   (0xa36, 1, "ਸ਼"), (0xa59, 1, "ਖ਼ ਗ਼ ਜ਼"), (0xa5e, 1, "ਫ਼"), (0xb5c, 1, "ଡ଼ ଢ଼"),
   (0xe33, 1, "ํา"), (0xeb3, 1, "ໍາ"), (0xedc, 1, "ຫນ ຫມ"), (0xf43, 1, "གྷ"), (0xf4d, 1, "ཌྷ"),
   (0xf52, 1, "དྷ"), (0xf57, 1, "བྷ"), (0xf5c, 1, "ཛྷ"), (0xf69, 1, "ཀྵ"),
   (0xf73, 2, "ཱི ཱུ ྲཱྀ ླཱྀ"), (0xf76, 2, "ྲྀ ླྀ"), (0xf81, 1, "ཱྀ"), (0xf93, 1, "ྒྷ"),
   (0xf9d, 1, "ྜྷ"), (0xfa2, 1, "ྡྷ"), (0xfa7, 1, "ྦྷ"), (0xfac, 1, "ྫྷ"), (0xfb9, 1, "ྐྵ"),
   (0x1e9a, 1, "aʾ"),
   (0x1f80, 1, "ἀι ἁι ἂι ἃι ἄι ἅι ἆι ἇι ἀι ἁι ἂι ἃι ἄι ἅι ἆι ἇι ἠι ἡι ἢι ἣι ἤι ἥι ἦι"),
   (0x1f97, 1, "ἧι ἠι ἡι ἢι ἣι ἤι ἥι ἦι ἧι ὠι ὡι ὢι ὣι ὤι ὥι ὦι ὧι ὠι ὡι ὢι ὣι ὤι ὥι"),
   (0x1fae, 1, "ὦι ὧι"), (0x1fb2, 1, "ὰι αι άι"), (0x1fb7, 1, "ᾶι"), (0x1fbc, 1, "αι"),
   (0x1fc2, 1, "ὴι ηι ήι"), (0x1fc7, 1, "ῆι"), (0x1fcc, 1, "ηι"), (0x1ff2, 1, "ὼι ωι ώι"),
   (0x1ff7, 1, "ῶι"), (0x1ffc, 1, "ωι"), (0x2033, 1, "′′ ′′′"), (0x2036, 1, "‵‵ ‵‵‵"),
   (0x203c, 1, "!!"), (0x2057, 1, "′′′′"), (0x20a8, 1, "rs"), (0x2103, 1, "°c"),
   (0x2109, 1, "°f"), (0x2116, 1, "no"), (0x2120, 1, "sm tel tm"), (0x213b, 1, "fax"),
   (0x2150, 1, "1⁄7 1⁄9 1⁄10 1⁄3 2⁄3 1⁄5 2⁄5 3⁄5 4⁄5 1⁄6 5⁄6 1⁄8 3⁄8 5⁄8 7⁄8 1⁄"),
   (0x2161, 1, "ii iii iv"), (0x2165, 1, "vi vii viii ix"), (0x216a, 1, "xi xii"),
   (0x2171, 1, "ii iii iv"), (0x2175, 1, "vi vii viii ix"), (0x217a, 1, "xi xii"),
   (0x2189, 1, "0⁄3"), (0x222c, 1, "∫∫ ∫∫∫"), (0x222f, 1, "∮∮ ∮∮∮"),
   (0x2469, 1, "10 11 12 13 14 15 16 17 18 19 20 (1) (2) (3) (4) (5) (6) (7) (8) (9)"),
   (0x247d, 1, "(10) (11) (12) (13) (14) (15) (16) (17) (18) (19) (20)"),
   (0x249c, 1, "(a) (b) (c) (d) (e) (f) (g) (h) (i) (j) (k) (l) (m) (n) (o) (p) (q)"),
   (0x24ad, 1, "(r) (s) (t) (u) (v) (w) (x) (y) (z)"), (0x2a0c, 1, "∫∫∫∫"), (0x2a75, 1, "== ==="),
   (0x2adc, 1, "⫝̸"), (0x309f, 1, "より"), (0x30ff, 1, "コト"),
   (0x3200, 1, "(ᄀ) (ᄂ) (ᄃ) (ᄅ) (ᄆ) (ᄇ) (ᄉ) (ᄋ) (ᄌ) (ᄎ) (ᄏ) (ᄐ) (ᄑ) (ᄒ) (가) (나) (다)"),
   (0x3211, 1, "(라) (마) (바) (사) (아) (자) (차) (카) (타) (파) (하) (주) (오전) (오후)"),
   (0x3220, 1, "(一) (二) (三) (四) (五) (六) (七) (八) (九) (十) (月) (火) (水) (木) (金) (土) (日)"),
   (0x3231, 1, "(株) (有) (社) (名) (特) (財) (祝) (労) (代) (呼) (学) (監) (企) (資) (協) (祭) (休)"),
   (0x3242, 1, "(自) (至)"), (0x3250, 1, "pte 21 22 23 24 25 26 27 28 29 30 31 32 33 34 35"),
   (0x327c, 1, "참고 주의"),
   (0x32b1, 1, "36 37 38 39 40 41 42 43 44 45 46 47 48 49 50 1月 2月 3月 4月 5月 6月 7月 8月"),
   (0x32c8, 1, "9月 10月 11月 12月 hg erg ev ltd"),
   (0x32ff, 1, "令和 アパート アルファ アンペア アール イニング インチ ウォン エスクード エーカー オンス オーム カイリ カラット カロリー"),
   (0x330e, 1, "ガロン ガンマ ギガ ギニー キュリー ギルダー キロ キログラム キロメートル キロワット グラム グラムトン クルゼイロ クローネ"),
   (0x331c, 1, "ケース コルナ コーポ サイクル サンチーム シリング センチ セント ダース デシ ドル トン ナノ ノット ハイツ パーセント パーツ"),
   (0x332d, 1, "バーレル ピアストル ピクル ピコ ビル ファラッド フィート ブッシェル フラン ヘクタール ペソ ペニヒ ヘルツ ペンス ページ ベータ"),
   (0x333d, 1, "ポイント ボルト ホン ポンド ホール ホーン マイクロ マイル マッハ マルク マンション ミクロン ミリ ミリバール メガ メガトン"),
   (0x334d, 1, "メートル ヤード ヤール ユアン リットル リラ ルピー ルーブル レム レントゲン ワット 0点 1点 2点 3点 4点 5点 6点 7点"),
   (0x3360, 1, "8点 9点 10点 11点 12点 13点 14点 15点 16点 17点 18点 19点 20点 21点 22点 23点 24点 hpa"),
   (0x3372, 1, "da au bar ov pc dm dm2 dm3 iu 平成 昭和 大正 明治 株式会社 pa na μa ma ka kb mb gb"),
   (0x3388, 1, "cal kcal pf nf μf μg mg kg hz khz mhz ghz thz μl ml dl kl fm nm μm mm"),
   (0x339d, 1, "cm km mm2 cm2 m2 km2 mm3 cm3 m3 km3 m∕s m∕s2 pa kpa mpa gpa rad rad∕s"),
   (0x33af, 1, "rad∕s2 ps ns μs ms pv nv μv mv kv mv pw nw μw mw kw mw kω mω"),
   (0x33c3, 1, "bq cc cd c∕kg"),
   (0x33c8, 1, "db gy ha hp in kk km kt lm ln log lx mb mil mol ph"),
   (0x33d9, 1, "ppm pr sr sv wb v∕m a∕m 1日 2日 3日 4日 5日 6日 7日 8日 9日 10日 11日 12日 13日 14日"),
   (0x33ee, 1, "15日 16日 17日 18日 19日 20日 21日 22日 23日 24日 25日 26日 27日 28日 29日 30日 31日"),
   (0x33ff, 1, "gal"), (0xfb00, 1, "ff fi fl ffi ffl st st"), (0xfb13, 1, "մն մե մի վն մխ"),
   (0xfb1d, 2, "יִ ײַ"), (0xfb2a, 1, "שׁ שׂ שּׁ שּׂ אַ אָ אּ בּ גּ דּ הּ וּ זּ"),
   (0xfb38, 1, "טּ יּ ךּ כּ לּ"), (0xfb3e, 2, "מּ נּ"), (0xfb41, 2, "סּ ףּ"),
   (0xfb44, 2, "פּ צּ רּ תּ בֿ פֿ"), (0xfb47, 2, "קּ שּ וֹ כֿ אל"), (0xfbdd, 1, "ۇٴ"),
   (0xfbea, 1, "ئا ئا ئە ئە ئو ئو ئۇ ئۇ ئۆ ئۆ ئۈ ئۈ ئې ئې ئې ئى ئى ئى"),
   (0xfc00, 1, "ئج ئح ئم ئى ئي بج بح بخ بم بى بي تج تح تخ تم تى تي ثج ثم ثى ثي جح جم"),
   (0xfc17, 1, "حج حم خج خح خم سج سح سخ سم صح صم ضج ضح ضخ ضم طح طم ظم عج عم غج غم فج"),
   (0xfc2e, 1, "فح فخ فم فى في قح قم قى قي كا كج كح كخ كل كم كى كي لج لح لخ لم لى لي"),
   (0xfc45, 1, "مج مح مخ مم مى مي نج نح نخ نم نى ني هج هم هى هي يج يح يخ يم يى يي ذٰ"),
   (0xfc5c, 1, "رٰ ىٰ"),
   (0xfc64, 1, "ئر ئز ئم ئن ئى ئي بر بز بم بن بى بي تر تز تم تن تى تي ثر ثز ثم ثن ثى"),
   (0xfc7b, 1, "ثي فى في قى قي كا كل كم كى كي لم لى لي ما مم نر نز نم نن نى ني ىٰ ير"),
   (0xfc92, 1, "يز يم ين يى يي ئج ئح ئخ ئم ئه بج بح بخ بم به تج تح تخ تم ته ثم جح جم"),
   (0xfca9, 1, "حج حم خج خم سج سح سخ سم صح صخ صم ضج ضح ضخ ضم طح ظم عج عم غج غم فج فح"),
   (0xfcc0, 1, "فخ فم قح قم كج كح كخ كل كم لج لح لخ لم له مج مح مخ مم نج نح نخ نم نه"),
   (0xfcd7, 1, "هج هم هٰ يج يح يخ يم يه ئم ئه بم به تم ته ثم ثه سم سه شم شه كل كم لم"),
   (0xfcee, 1, "نم نه يم يه ـَّ ـُّ ـِّ طى طي عى عي غى غي سى سي شى شي حى حي جى جي خى"),
   (0xfd04, 1, "خي صى صي ضى ضي شج شح شخ شم شر سر صر ضر طى طي عى عي غى غي سى سي شى شي"),
   (0xfd1b, 1, "حى حي جى جي خى خي صى صي ضى ضي شج شح شخ شم شر سر صر ضر شج شح شخ شم سه"),
   (0xfd32, 1, "شه طم سج سح سخ شج شح شخ طم ظم اً اً"),
   (0xfd50, 1, "تجم تحج تحج تحم تخم تمج تمح تمخ جمح جمح حمي حمى سحج سجح سجى سمح سمح"),
   (0xfd61, 1, "سمج سمم سمم صحح صحح صمم شحم شحم شجي شمخ شمخ شمم شمم ضحى ضخم ضخم طمح"),
   (0xfd72, 1, "طمح طمم طمي عجم عمم عمم عمى غمم غمي غمى فخم فخم قمح قمم لحم لحي لحى"),
   (0xfd83, 1, "لجج لجج لخم لخم لمح لمح محج محم محي مجح مجم مخج مخم"),
   (0xfd92, 1, "مجخ همج همم نحم نحى نجم نجم نجى نمي نمى يمم يمم بخي تجي تجى تخي تخى"),
   (0xfda3, 1, "تمي تمى جمي جحى جمى سخى صحي شحي ضحي لجي لمي يحي يجي يمي ممي قمي نحي"),
   (0xfdb4, 1, "قمح لحم عمي كمي نجح مخي لجم كمم لجم نجح جحي حجي مجي فمي بحي كمم عجم"),
   (0xfdc5, 1, "صمم سخي نجي"), (0xfdf0, 1, "صلے قلے الله اكبر محمد صلعم رسول عليه وسلم صلى"),
   (0xfdfc, 1, "ریال"), (0xfe71, 1, "ـً"), (0xfe77, 2, "ـَ ـُ ـِ ـّ ـْ"),
   (0xfef5, 1, "لآ لآ لأ لأ لإ لإ لا لا"), (0x1d15e, 1, "𝅗𝅥 𝅘𝅥 𝅘𝅥𝅮 𝅘𝅥𝅯 𝅘𝅥𝅰 𝅘𝅥𝅱 𝅘𝅥𝅲"),
   (0x1d1bb, 1, "𝆹𝅥 𝆺𝅥 𝆹𝅥𝅮 𝆺𝅥𝅮 𝆹𝅥𝅯 𝆺𝅥𝅯"), (0x1f101, 1, "0, 1, 2, 3, 4, 5, 6, 7, 8, 9,"),
   (0x1f110, 1, "(a) (b) (c) (d) (e) (f) (g) (h) (i) (j) (k) (l) (m) (n) (o) (p) (q)"),
   (0x1f121, 1, "(r) (s) (t) (u) (v) (w) (x) (y) (z) 〔s〕"), (0x1f12d, 1, "cd wz"),
   (0x1f14a, 1, "hv mv sd ss ppv wc"), (0x1f16a, 1, "mc md mr"), (0x1f190, 1, "dj"),
   (0x1f200, 1, "ほか ココ"), (0x1f240, 1, "〔本〕 〔三〕 〔二〕 〔安〕 〔点〕 〔打〕 〔盗〕 〔勝〕 〔敗〕")]

/-- Characters that are passed over. -/
def ignoredRanges : List (Nat × Nat) :=
  [(0xad, 0xad), (0x34f, 0x34f), (0x115f, 0x1160), (0x17b4, 0x17b5), (0x180b, 0x180f),
   (0x200b, 0x200b), (0x2060, 0x2064), (0x206a, 0x206f), (0x3164, 0x3164), (0xfe00, 0xfe0f),
   (0xfeff, 0xfeff), (0xffa0, 0xffa0), (0x1bca0, 0x1bca3), (0x1d173, 0x1d17a), (0xe0100, 0xe01ef)]

/-- Visible characters that may not be there, most of them because they stand
for one that ends a domain. -/
def refusedRanges : List (Nat × Nat) :=
  [(0xa8, 0xa8), (0xaf, 0xaf), (0xb4, 0xb4), (0xb8, 0xb8), (0x2d8, 0x2dd), (0x37a, 0x37a),
   (0x384, 0x385), (0x1fbd, 0x1fbd), (0x1fbf, 0x1fc1), (0x1fcd, 0x1fcf), (0x1fdd, 0x1fdf),
   (0x1fed, 0x1fee), (0x1ffd, 0x1ffe), (0x2017, 0x2017), (0x2024, 0x2026), (0x203e, 0x203e),
   (0x2047, 0x2049), (0x2100, 0x2101), (0x2105, 0x2106), (0x2488, 0x249b), (0x2a74, 0x2a74),
   (0x2ff0, 0x2fff), (0x309b, 0x309c), (0x31ef, 0x31ef), (0x33c2, 0x33c2), (0x33c7, 0x33c7),
   (0x33d8, 0x33d8), (0xfc5e, 0xfc63), (0xfdfa, 0xfdfb), (0xfe12, 0xfe13), (0xfe16, 0xfe16),
   (0xfe19, 0xfe19), (0xfe30, 0xfe30), (0xfe47, 0xfe4c), (0xfe52, 0xfe52), (0xfe55, 0xfe56),
   (0xfe5f, 0xfe5f), (0xfe64, 0xfe65), (0xfe68, 0xfe68), (0xfe6a, 0xfe6b), (0xfe70, 0xfe70),
   (0xfe72, 0xfe72), (0xfe74, 0xfe74), (0xfe76, 0xfe76), (0xfe78, 0xfe78), (0xfe7a, 0xfe7a),
   (0xfe7c, 0xfe7c), (0xfe7e, 0xfe7e), (0xff03, 0xff03), (0xff05, 0xff05), (0xff0f, 0xff0f),
   (0xff1a, 0xff1a), (0xff1c, 0xff1c), (0xff1e, 0xff20), (0xff3b, 0xff3e), (0xff5c, 0xff5c),
   (0xffe3, 0xffe3), (0xfffc, 0xfffd), (0x1f100, 0x1f100)]

/-- The characters that join or part two letters; they are hidden and yet count. -/
def isJoiner (c : Char) : Bool := c = '\u200c' || c = '\u200d'

/-- The place of a number in a row, if it is in its steps. -/
def place? (n first step : Nat) : Option Nat :=
  if first ≤ n ∧ (n - first) % step = 0 then some ((n - first) / step) else none

def single? (n : Nat) : Option Char :=
  singleRows.findSome? (fun row => (place? n row.1 row.2.1).bind (fun i => row.2.2.toList[i]?))

def word? (n : Nat) : Option (List Char) :=
  wordRows.findSome? (fun row =>
    (place? n row.1 row.2.1).bind (fun i => (Text.splitOn ' ' row.2.2.toList)[i]?))

/-- What a character stands for; none if it may not be there. -/
def fold? (c : Char) : Option (List Char) :=
  let n := c.toNat
  if n < 0x80 then some [c.toLower]
  else if Text.inRanges n ignoredRanges then some []
  else if isJoiner c then some [c]
  else if Text.isHidden c || Text.inRanges n refusedRanges then none
  else some (((single? n).map (fun plain => [plain])).or (word? n) |>.getD [c])

end Domain
end ScopedSql
