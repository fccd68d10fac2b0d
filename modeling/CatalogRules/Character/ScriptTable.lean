import CatalogRules.Character.Runs

/-!
Which script each character belongs to, and which characters are used in other
scripts than their own, or in several. Scripts are given by their codes of four
letters; the code `zzzz` stands for no script.
-/

namespace CatalogRules.ScriptTable

/-- Runs of code points of one script, up to the last character of a script. -/
def scripts : List String := [
  "zyyy65latn26zyyy6latn26zyyy47latnzyyy15latnzyyy5latn23zyyylatn31zyyylatn449zyyy39latn5zyyy5",
  "bopo2zyyy20zinh112grek4zyyygrek3zzzz2grek4zyyygrekzzzz4grekzyyygrekzyyygrek3zzzzgrekzzzz",
  "grek20zzzzgrek63copt14grek16cyrl133zinh2cyrl169zzzzarmn38zzzz2armn50zzzz2armn3zzzzhebr55",
  "zzzz8hebr27zzzz4hebr6zzzz11arab5zyyyarab6zyyyarab14zyyyarab3zyyyarab32zyyyarab10zinh11arab26",
  "zinharab108zyyyarab34syrc14zzzzsyrc60zzzz2syrc3arab48thaa50zzzz14nkoo59zzzz2nkoo3samr46zzzz2",
  "samr15zzzzmand28zzzz2mandzzzzsyrc11zzzz5arab31zzzzarab2zzzz5arab75zyyyarab29deva81zinh4",
  "deva15zyyy2deva26beng4zzzzbeng8zzzz2beng2zzzz2beng22zzzzbeng7zzzzbengzzzz3beng4zzzz2beng9",
  "zzzz2beng2zzzz2beng4zzzz8bengzzzz4beng2zzzzbeng5zzzz2beng25zzzz2guru3zzzzguru6zzzz4guru2",
  "zzzz2guru22zzzzguru7zzzzguru2zzzzguru2zzzzguru2zzzz2guruzzzzguru5zzzz4guru2zzzz2guru3zzzz3",
  "guruzzzz7guru4zzzzguruzzzz7guru17zzzz10gujr3zzzzgujr9zzzzgujr3zzzzgujr22zzzzgujr7zzzzgujr2",
  "zzzzgujr5zzzz2gujr10zzzzgujr3zzzzgujr3zzzz2gujrzzzz15gujr4zzzz2gujr12zzzz7gujr7zzzzorya3zzzz",
  "orya8zzzz2orya2zzzz2orya22zzzzorya7zzzzorya2zzzzorya5zzzz2orya9zzzz2orya2zzzz2orya3zzzz7",
  "orya3zzzz4orya2zzzzorya5zzzz2orya18zzzz10taml2zzzztaml6zzzz3taml3zzzztaml4zzzz3taml2zzzztaml",
  "zzzztaml2zzzz3taml2zzzz3taml3zzzz3taml12zzzz4taml5zzzz3taml3zzzztaml4zzzz2tamlzzzz6taml",
  "zzzz14taml21zzzz5telu13zzzztelu3zzzztelu23zzzztelu16zzzz2telu9zzzztelu3zzzztelu4zzzz7telu2",
  "zzzztelu3zzzz2teluzzzz2telu4zzzz2telu10zzzz7telu9knda13zzzzknda3zzzzknda23zzzzknda10zzzz",
  "knda5zzzz2knda9zzzzknda3zzzzknda4zzzz7knda2zzzz6knda2zzzzknda4zzzz2knda10zzzzknda3zzzz12",
  "mlym13zzzzmlym3zzzzmlym51zzzzmlym3zzzzmlym6zzzz4mlym16zzzz2mlym26zzzzsinh3zzzzsinh18zzzz3",
  "sinh24zzzzsinh9zzzzsinhzzzz2sinh7zzzz3sinhzzzz4sinh6zzzzsinhzzzzsinh8zzzz6sinh10zzzz2sinh3",
  "zzzz12thai58zzzz4zyyythai28zzzz37laoo2zzzzlaoozzzzlaoo5zzzzlaoo24zzzzlaoozzzzlaoo23zzzz2",
  "laoo5zzzzlaoozzzzlaoo7zzzzlaoo10zzzz2laoo4zzzz32tibt72zzzztibt36zzzz4tibt39zzzztibt36zzzz",
  "tibt15zzzztibt7zyyy4tibt2zzzz37mymr160geor38zzzzgeorzzzz5georzzzz2geor43zyyygeor4hang256",
  "ethi73zzzzethi4zzzz2ethi7zzzzethizzzzethi4zzzz2ethi41zzzzethi4zzzz2ethi33zzzzethi4zzzz2ethi7",
  "zzzzethizzzzethi4zzzz2ethi15zzzzethi57zzzzethi4zzzz2ethi67zzzz2ethi32zzzz3ethi26zzzz6cher86",
  "zzzz2cher6zzzz2cans640ogam29zzzz3runr75zyyy3runr11zzzz7tglg22zzzz9tglghano21zyyy2zzzz9buhd20",
  "zzzz12tagb13zzzztagb3zzzztagb2zzzz12khmr94zzzz2khmr10zzzz6khmr10zzzz6mong2zyyy2mongzyyy",
  "mong20zzzz6mong89zzzz7mong43zzzz5cans70zzzz10limb31zzzzlimb12zzzz4limb12zzzz4limbzzzz3limb12",
  "tale30zzzz2tale5zzzz11talu44zzzz4talu26zzzz6talu11zzzz3talu2khmr32bugi28zzzz2bugi2lana63zzzz",
  "lana29zzzz2lana11zzzz6lana10zzzz6lana14zzzz2zinh31zzzz49bali77zzzzbali50sund64batk52zzzz8",
  "batk4lepc56zzzz3lepc15zzzz3lepc3olck48cyrl11zzzz5geor43zzzz2geor3sund8zzzz8zinh3zyyyzinh13",
  "zyyyzinh7zyyy4zinhzyyy6zinhzyyy3zinh2zyyyzzzz5latn38grek5cyrllatn49grek5latn4grek5latn13cyrl",
  "latn70grekzinh64latn256grek22zzzz2grek6zzzz2grek38zzzz2grek6zzzz2grek8zzzzgrekzzzzgrekzzzz",
  "grekzzzzgrek31zzzz2grek53zzzzgrek15zzzzgrek14zzzz2grek6zzzzgrek19zzzz2grek3zzzzgrek9zzzz",
  "zyyy12zinh2zyyy87zzzzzyyy11latnzzzz2zyyy11latnzyyy15zzzzlatn13zzzz3zyyy33zzzz15zinh33zzzz15",
  "zyyy38grekzyyy3latn2zyyy6latnzyyy27latnzyyy17latn41zyyy3zzzz4zyyy666zzzz22zyyy11zzzz21",
  "zyyy928brai256zyyy628zzzz2zyyy32zzzzzyyy105glag96latn32copt116zzzz5copt7geor38zzzzgeorzzzz5",
  "georzzzz2tfng56zzzz7tfng2zzzz14tfngethi23zzzz9ethi7zzzzethi7zzzzethi7zzzzethi7zzzzethi7zzzz",
  "ethi7zzzzethi7zzzzethi7zzzzcyrl32zyyy94zzzz34hani26zzzzhani89zzzz12hani214zzzz26zyyy21hani",
  "zyyyhanizyyy25hani9zinh4hang2zyyy8hani4zyyy4zzzzhira86zzzz2zinh2zyyy2hira3zyyykana90zyyy2",
  "kana3zzzz5bopo43zzzzhang94zzzzzyyy16bopo32zyyy38zzzz9zyyykana16hang31zzzzzyyy64hang31zyyy81",
  "kana47zyyykana88zyyy168hani6592zyyy64hani20992yiii1165zzzz3yiii55zzzz9lisu48vaii300zzzz20",
  "cyrl96bamu88zzzz8zyyy34latn102zyyy3latn67zzzz2latn2zzzzlatnzzzzlatn8zzzz21latn14sylo45zzzz3",
  "zyyy10zzzz6phag56zzzz8saur70zzzz8saur12zzzz6deva32kali46zyyykalirjng36zzzz11rjnghang29zzzz3",
  "java78zzzzzyyyjava10zzzz4java2mymr31zzzzcham55zzzz9cham14zzzz2cham10zzzz2cham4mymr32tavt67",
  "zzzz24tavt5mtei23zzzz10ethi6zzzz2ethi6zzzz2ethi6zzzz9ethi7zzzzethi7zzzzlatn43zyyylatn9grek",
  "latn4zyyy2zzzz4cher80mtei46zzzz2mtei10zzzz6hang11172zzzz12hang23zzzz4hang49zzzz8452hani366",
  "zzzz2hani106zzzz38latn7zzzz12armn5zzzz5hebr26zzzzhebr5zzzzhebrzzzzhebr2zzzzhebr2zzzzhebr10",
  "arab115zzzz16arab363zyyy2arab80zzzz2arab54zzzz7arabzzzz32arab16zinh16zyyy10zzzz6zinh14cyrl2",
  "zyyy35zzzzzyyy19zzzzzyyy4zzzz4arab5zzzzarab135zzzz2zyyyzzzzzyyy32latn26zyyy6latn26zyyy11",
  "kana10zyyykana45zyyy2hang31zzzz3hang6zzzz2hang6zzzz2hang6zzzz2hang3zzzz3zyyy7zzzzzyyy7zzzz10",
  "zyyy5zzzz2linb12zzzzlinb26zzzzlinb19zzzzlinb2zzzzlinb15zzzz2linb14zzzz34linb123zzzz5zyyy3",
  "zzzz4zyyy45zzzz3zyyy9grek79zzzzzyyy13zzzz3grekzzzz47zyyy45zinhzzzz130lyci29zzzz3cari49zzzz15",
  "zinhzyyy27zzzz4ital36zzzz9ital3goth27zzzz5perm43zzzz5ugar30zzzzugarxpeo36zzzz4xpeo14zzzz42",
  "dsrt80shaw48osma30zzzz2osma10zzzz6osge36zzzz4osge36zzzz4elba40zzzz8aghb52zzzz11aghbvith11",
  "zzzzvith15zzzzvith7zzzzvith2zzzzvith11zzzzvith15zzzzvith7zzzzvith2zzzz3todr52zzzz12lina311",
  "zzzz9lina22zzzz10lina8zzzz24latn6zzzzlatn42zzzzlatn9zzzz69cprt6zzzz2cprtzzzzcprt44zzzzcprt2",
  "zzzz3cprtzzzz2cprtarmi22zzzzarmi9palm32nbat31zzzz8nbat9zzzz48hatr19zzzzhatr2zzzz5hatr5phnx28",
  "zzzz3phnxlydi26zzzz5lydizzzz64mero32merc24zzzz4merc20zzzz2merc46khar4zzzzkhar2zzzz5khar8zzzz",
  "khar3zzzzkhar29zzzz2khar3zzzz4khar10zzzz7khar9zzzz7sarb32narb32zzzz32mani39zzzz4mani12zzzz9",
  "avst54zzzz3avst7prti22zzzz2prti8phli19zzzz5phli8phlp18zzzz7phlp4zzzz12phlp7zzzz80orkh73",
  "zzzz55hung51zzzz13hung51zzzz7hung6rohg40zzzz8rohg10zzzz6gara38zzzz3gara29zzzz8gara2zzzz208",
  "arab31zzzzyezi42zzzzyezi3zzzz2yezi2zzzz16arab3zzzz55arab4sogo40zzzz8sogd42zzzz22ougr26zzzz38",
  "chrs28zzzz20elym23zzzz9brah78zzzz4brah36zzzz9brahkthi67zzzz10kthizzzz2sora25zzzz7sora10zzzz6",
  "cakm53zzzzcakm18zzzz8mahj39zzzz9shrd96zzzzsinh20zzzz11khoj18zzzzkhoj47zzzz62mult7zzzzmult",
  "zzzzmult4zzzzmult15zzzzmult11zzzz6sind59zzzz5sind10zzzz6gran4zzzzgran8zzzz2gran2zzzz2gran22",
  "zzzzgran7zzzzgran2zzzzgran5zzzzzinhgran9zzzz2gran2zzzz2gran3zzzz2granzzzz6granzzzz5gran7",
  "zzzz2gran7zzzz3gran5zzzz11tutg10zzzztutgzzzz2tutgzzzztutg38zzzztutg10zzzztutgzzzz2tutgzzzz",
  "tutg4zzzztutg10zzzztutg2zzzz8tutg2zzzz29newa92zzzznewa5zzzz30tirh72zzzz8tirh10zzzz166sidd54",
  "zzzz2sidd38zzzz34modi69zzzz11modi10zzzz6mong13zzzz19takr58zzzz6takr10zzzz6mymr20zzzz28ahom27",
  "zzzz2ahom15zzzz4ahom23zzzz185dogr60zzzz100wara83zzzz12waradiak7zzzz2diakzzzz2diak8zzzzdiak2",
  "zzzzdiak30zzzzdiak2zzzz2diak12zzzz9diak10zzzz70nand8zzzz2nand46zzzz2nand11zzzz27zanb72zzzz8",
  "soyo83zzzz13cans16pauc57zzzz7deva10zzzz182sunu34zzzz14sunu10zzzz6bhks9zzzzbhks45zzzzbhks14",
  "zzzz10bhks29zzzz3marc32zzzz2marc22zzzzmarc14zzzz73gonm7zzzzgonm2zzzzgonm44zzzz3gonmzzzzgonm2",
  "zzzzgonm9zzzz8gonm10zzzz6gong6zzzzgong2zzzzgong37zzzzgong2zzzzgong6zzzz7gong10zzzz310maka25",
  "zzzz7kawi17zzzzkawi41zzzz3kawi29zzzz85lisuzzzz15taml50zzzz13tamlxsux922zzzz102xsux111zzzz",
  "xsux5zzzz11xsux196zzzz2636cpmn99zzzz13egyp1110zzzz10egyp3995zzzz5hluw583zzzz6841gukh58",
  "zzzz1734bamu569zzzz7mroo31zzzzmroo10zzzz4mroo2tnsa79zzzztnsa10zzzz6bass30zzzz2bass6zzzz10",
  "hmng70zzzz10hmng10zzzzhmng7zzzzhmng21zzzz5hmng19zzzz432krai58zzzz198medf91zzzz101plrd75zzzz4",
  "plrd57zzzz7plrd17zzzz64tangnshuhani2kitszzzz11hani2zzzz14tang6136zzzz8tang768kits470zzzz41",
  "kitstang9zzzz8935kana4zzzzkana7zzzzkana2zzzzkanahira287kana3zzzz15hirazzzz29hira3zzzz2kana",
  "zzzz14kana4zzzz8nshu396zzzz2308dupl107zzzz5dupl13zzzz3dupl9zzzz7dupl10zzzz2dupl4zyyy4",
  "zzzz3932zyyy250zzzz6zyyy436zzzz76zinh46zzzz2zinh23zzzz9zyyy116zzzz60zyyy246zzzz10zyyy39zzzz2",
  "zyyy62zinh3zyyy17zinh8zyyy2zinh7zyyy30zinh4zyyy61zzzz21grek70zzzz122zyyy20zzzz12zyyy20zzzz12",
  "zyyy87zzzz9zyyy25zzzz135zyyy85zzzzzyyy71zzzzzyyy2zzzz2zyyyzzzz2zyyy2zzzz2zyyy4zzzzzyyy12zzzz",
  "zyyyzzzzzyyy7zzzzzyyy65zzzzzyyy4zzzz2zyyy8zzzzzyyy7zzzzzyyy28zzzzzyyy4zzzzzyyy5zzzzzyyyzzzz3",
  "zyyy7zzzzzyyy340zzzz2zyyy292zzzz2zyyy50sgnw652zzzz15sgnw5zzzzsgnw15zzzz1104latn31zzzz6latn6",
  "zzzz213glag7zzzzglag17zzzz2glag7zzzzglag2zzzzglag5zzzz5cyrl62zzzz33cyrlzzzz112hmnp45zzzz3",
  "hmnp14zzzz2hmnp10zzzz4hmnp2zzzz320toto31zzzz17wcho58zzzz5wchozzzz464nagm42zzzz214onao43zzzz4",
  "onaozzzz480ethi7zzzzethi4zzzzethi2zzzzethi15zzzzmend197zzzz2mend16zzzz41adlm76zzzz4adlm10",
  "zzzz4adlm2zzzz785zyyy68zzzz76zyyy61zzzz194arab4zzzzarab27zzzzarab2zzzzarabzzzz2arabzzzz",
  "arab10zzzzarab4zzzzarabzzzzarabzzzz6arabzzzz4arabzzzzarabzzzzarabzzzzarab3zzzzarab2zzzzarab",
  "zzzz2arabzzzzarabzzzzarabzzzzarabzzzzarabzzzzarab2zzzzarabzzzz2arab4zzzzarab7zzzzarab4zzzz",
  "arab4zzzzarabzzzzarab10zzzzarab17zzzz5arab3zzzzarab5zzzzarab17zzzz52arab2zzzz270zyyy44zzzz4",
  "zyyy100zzzz12zyyy15zzzz2zyyy15zzzzzyyy15zzzzzyyy37zzzz10zyyy174zzzz56zyyy26hirazyyy2zzzz13",
  "zyyy44zzzz4zyyy9zzzz7zyyy2zzzz14zyyy6zzzz154zyyy984zzzz4zyyy17zzzz3zyyy13zzzz3zyyy119zzzz4",
  "zyyy95zzzz6zyyy12zzzz4zyyyzzzz15zyyy12zzzz4zyyy56zzzz8zyyy10zzzz6zyyy40zzzz8zyyy30zzzz2",
  "zyyy12zzzz4zyyy2zzzz62zyyy340zzzz12zyyy14zzzz2zyyy13zzzz3zyyy10zzzz5zyyy56zzzz7zyyy15zzzz2",
  "zyyy11zzzz6zyyy9zzzz7zyyy147zzzzzyyy102zzzz1030hani42720zzzz32hani4154zzzz6hani222zzzz2",
  "hani5762zzzz14hani7473zzzz15hani622zzzz2466hani542zzzz1506hani4939zzzz5hani4192zzzz711761",
  "zyyyzzzz30zyyy96zzzz128zinh240"]

/-- Stretches of code points, by the first one and their count, with the scripts
that use them. -/
def uses : List (Nat × Nat × String) := [
  (0xB7, 1, "avst cari copt dupl elba geor glag gong goth grek hani latn lydi mahj perm shaw"),
  (0x2BC, 1, "beng cyrl deva latn lisu thai toto"),
  (0x2C7, 1, "bopo latn"),
  (0x2C9, 3, "bopo latn"),
  (0x2CD, 1, "latn lisu"),
  (0x2D7, 1, "latn thai"),
  (0x2D9, 1, "bopo latn"),
  (0x300, 1, "cher copt cyrl grek latn perm sunu tale"),
  (0x301, 1, "cher cyrl grek latn osge sunu tale todr"),
  (0x302, 1, "cher cyrl latn tfng"),
  (0x303, 1, "glag latn sunu syrc thai"),
  (0x304, 1, "aghb cher copt cyrl goth grek latn osge syrc tfng todr"),
  (0x305, 1, "copt elba glag goth kana latn"),
  (0x306, 1, "cyrl grek latn perm tfng"),
  (0x307, 1, "copt dupl hebr latn perm syrc tale tfng todr"),
  (0x308, 1, "armn cyrl dupl goth grek hebr latn perm syrc tale tfng"),
  (0x309, 1, "latn tfng"),
  (0x30A, 1, "dupl latn syrc"),
  (0x30B, 1, "cher cyrl latn osge"),
  (0x30C, 1, "cher latn tale"),
  (0x30D, 1, "latn sunu"),
  (0x30E, 1, "ethi latn"),
  (0x310, 1, "latn sunu"),
  (0x311, 1, "cyrl latn todr"),
  (0x313, 1, "grek latn perm todr"),
  (0x323, 1, "cher dupl kana latn syrc tfng"),
  (0x324, 1, "cher dupl latn syrc"),
  (0x325, 1, "latn syrc"),
  (0x32D, 1, "latn sunu syrc"),
  (0x32E, 1, "latn syrc"),
  (0x330, 1, "cher latn syrc"),
  (0x331, 1, "aghb cher goth latn sunu syrc thai"),
  (0x342, 1, "grek"),
  (0x345, 1, "grek"),
  (0x358, 1, "latn osge"),
  (0x35E, 1, "aghb latn todr"),
  (0x363, 13, "latn"),
  (0x374, 2, "copt grek"),
  (0x483, 1, "cyrl perm"),
  (0x484, 1, "cyrl glag"),
  (0x485, 2, "cyrl latn"),
  (0x487, 1, "cyrl glag"),
  (0x589, 1, "armn geor glag"),
  (0x60C, 1, "arab gara nkoo rohg syrc thaa yezi"),
  (0x61B, 1, "arab gara nkoo rohg syrc thaa yezi"),
  (0x61C, 1, "arab syrc thaa"),
  (0x61F, 1, "adlm arab gara nkoo rohg syrc thaa yezi"),
  (0x640, 1, "adlm arab mand mani ougr phlp rohg sogd syrc"),
  (0x64B, 11, "arab syrc"),
  (0x660, 10, "arab thaa yezi"),
  (0x670, 1, "arab syrc"),
  (0x6D4, 1, "arab rohg"),
  (0x951, 1, "beng deva gran gujr guru knda latn mlym nand newa orya shrd taml telu tirh"),
  (0x952, 1, "beng deva gran gujr guru knda latn mlym newa orya taml telu tirh"),
  (0x964, 1,
    "beng deva dogr gong gonm gran gujr guru knda mahj mlym nand onao orya sind sinh sylo " ++
    "takr taml telu tirh"),
  (0x965, 1,
    "beng deva dogr gong gonm gran gujr gukh guru knda limb mahj mlym nand onao orya sind " ++
    "sinh sylo takr taml telu tirh"),
  (0x966, 10, "deva dogr kthi mahj"),
  (0x9E6, 10, "beng cakm sylo"),
  (0xA66, 10, "guru mult"),
  (0xAE6, 10, "gujr khoj"),
  (0xBE6, 14, "gran taml"),
  (0xCE6, 10, "knda nand tutg"),
  (0x1040, 10, "cakm mymr tale"),
  (0x10FB, 1, "geor glag latn"),
  (0x16EB, 3, "runr"),
  (0x1735, 2, "buhd hano tagb tglg"),
  (0x1802, 2, "mong phag"),
  (0x1805, 1, "mong phag"),
  (0x1CD0, 1, "beng deva gran knda"),
  (0x1CD1, 1, "deva"),
  (0x1CD2, 1, "beng deva gran knda"),
  (0x1CD3, 1, "deva gran knda"),
  (0x1CD4, 1, "deva"),
  (0x1CD5, 1, "beng deva newa telu tirh"),
  (0x1CD6, 1, "beng deva telu"),
  (0x1CD7, 1, "deva newa shrd"),
  (0x1CD8, 1, "beng deva newa telu"),
  (0x1CD9, 1, "deva shrd"),
  (0x1CDA, 1, "deva knda mlym orya taml telu"),
  (0x1CDB, 1, "deva"),
  (0x1CDC, 2, "deva shrd"),
  (0x1CDE, 2, "deva"),
  (0x1CE0, 1, "deva shrd"),
  (0x1CE1, 1, "beng deva"),
  (0x1CE2, 1, "deva newa tirh"),
  (0x1CE3, 6, "deva"),
  (0x1CE9, 1, "deva nand newa"),
  (0x1CEA, 1, "beng deva shrd"),
  (0x1CEB, 1, "deva newa"),
  (0x1CEC, 1, "deva"),
  (0x1CED, 1, "beng deva newa shrd"),
  (0x1CEE, 4, "deva"),
  (0x1CF2, 1, "beng deva gran knda mlym nand orya sinh telu tirh tutg"),
  (0x1CF3, 1, "deva gran"),
  (0x1CF4, 1, "deva gran knda tutg"),
  (0x1CF5, 2, "beng deva"),
  (0x1CF7, 1, "beng"),
  (0x1CF8, 2, "deva gran"),
  (0x1CFA, 1, "nand"),
  (0x1DC0, 2, "grek"),
  (0x1DF8, 1, "cyrl latn syrc"),
  (0x1DFA, 1, "syrc"),
  (0x202F, 1, "latn mong phag"),
  (0x204F, 1, "adlm arab"),
  (0x205A, 1, "cari geor glag hung lyci orkh"),
  (0x205D, 1, "cari grek hung mero"),
  (0x20F0, 1, "deva gran latn"),
  (0x2E17, 1, "copt latn"),
  (0x2E30, 1, "avst orkh"),
  (0x2E31, 1, "avst cari geor hung kthi lydi samr"),
  (0x2E3C, 1, "dupl"),
  (0x2E41, 1, "adlm arab hung"),
  (0x2E43, 1, "cyrl glag"),
  (0x2FF0, 16, "hani tang"),
  (0x3001, 1, "bopo hang hani hira kana mong yiii"),
  (0x3002, 1, "bopo hang hani hira kana mong phag yiii"),
  (0x3003, 1, "bopo hang hani hira kana"),
  (0x3006, 1, "hani"),
  (0x3008, 2, "bopo hang hani hira kana mong tibt yiii"),
  (0x300A, 2, "bopo hang hani hira kana lisu mong tibt yiii"),
  (0x300C, 6, "bopo hang hani hira kana yiii"),
  (0x3013, 1, "bopo hang hani hira kana"),
  (0x3014, 8, "bopo hang hani hira kana yiii"),
  (0x301C, 4, "bopo hang hani hira kana"),
  (0x302A, 4, "bopo hani"),
  (0x3030, 1, "bopo hang hani hira kana"),
  (0x3031, 5, "hira kana"),
  (0x3037, 1, "bopo hang hani hira kana"),
  (0x303C, 2, "hani hira kana"),
  (0x303E, 2, "hani"),
  (0x3099, 4, "hira kana"),
  (0x30A0, 1, "hira kana"),
  (0x30FB, 1, "bopo hang hani hira kana yiii"),
  (0x30FC, 1, "hira kana"),
  (0x3190, 16, "hani"),
  (0x31C0, 38, "hani"),
  (0x31EF, 1, "hani tang"),
  (0x3220, 40, "hani"),
  (0x3280, 49, "hani"),
  (0x32C0, 12, "hani"),
  (0x32FF, 1, "hani"),
  (0x3358, 25, "hani"),
  (0x337B, 5, "hani"),
  (0x33E0, 31, "hani"),
  (0xA66F, 1, "cyrl glag"),
  (0xA700, 8, "hani latn"),
  (0xA830, 3, "deva dogr gujr guru khoj knda kthi mahj mlym modi nand shrd sind takr tirh tutg"),
  (0xA833, 3, "deva dogr gujr guru khoj knda kthi mahj modi nand shrd sind takr tirh tutg"),
  (0xA836, 2, "deva dogr gujr guru khoj kthi mahj modi sind takr tirh"),
  (0xA838, 1, "deva dogr gujr guru khoj kthi mahj modi shrd sind takr tirh"),
  (0xA839, 1, "deva dogr gujr guru khoj kthi mahj modi sind takr tirh"),
  (0xA8F1, 1, "beng deva tutg"),
  (0xA8F3, 1, "deva taml"),
  (0xA92E, 1, "kali latn mymr"),
  (0xA9CF, 1, "bugi java"),
  (0xFD3E, 2, "arab nkoo"),
  (0xFDF2, 1, "arab thaa"),
  (0xFDFD, 1, "arab thaa"),
  (0xFE45, 2, "bopo hang hani hira kana"),
  (0xFF61, 5, "bopo hang hani hira kana yiii"),
  (0xFF70, 1, "hira kana"),
  (0xFF9E, 2, "hira kana"),
  (0x10100, 2, "cpmn cprt linb"),
  (0x10102, 1, "cprt linb"),
  (0x10107, 45, "cprt lina linb"),
  (0x10137, 9, "cprt linb"),
  (0x102E0, 28, "arab copt"),
  (0x10AF2, 1, "mani ougr"),
  (0x11301, 1, "gran taml"),
  (0x11303, 1, "gran taml"),
  (0x1133B, 2, "gran taml"),
  (0x11FD0, 2, "gran taml"),
  (0x11FD3, 1, "gran taml"),
  (0x1BCA0, 4, "dupl"),
  (0x1D360, 18, "hani"),
  (0x1F250, 2, "hani")]

end CatalogRules.ScriptTable
