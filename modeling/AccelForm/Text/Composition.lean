/-
  Compositions

  A letter and a mark after it may stand for one character. The syllables of
  Hangul are composed by a rule: of a leading consonant, a vowel and perhaps a
  trailing consonant.
-/

namespace AccelForm.Text

/-- A mark, characters before it, and what they are together with the mark. -/
structure MarkRow where
  mark : Nat
  bases : String
  wholes : String

/-- The compositions with a character of their own, by the mark. -/
def markRows : List MarkRow := [
  ⟨0x300, "AEINOUWYaeinouwy\u00a8ÂÊÔÜâêôüĂăĒēŌōƠơƯư", "ÀÈÌǸÒÙẀỲàèìǹòùẁỳ\u1fedẦỀỒǛầềồǜẰằḔḕṐṑỜờỪừ"⟩,
  ⟨0x300, "ΑΕΗΙΟΥΩαεηιουωϊϋЕИеиἀἁἈἉἐἑἘἙἠἡἨἩἰἱἸἹὀὁὈὉ", "ᾺῈῊῚῸῪῺὰὲὴὶὸὺὼῒῢЀЍѐѝἂἃἊἋἒἓἚἛἢἣἪἫἲἳἺἻὂὃὊὋ"⟩,
  ⟨0x300, "ὐὑὙὠὡὨὩ\u1fbf\u1ffe", "ὒὓὛὢὣὪὫ\u1fcd\u1fdd"⟩,
  ⟨0x301, "ACEGIKLMNOPRSUWYZacegiklmnoprsuwyz\u00a8", "ÁĆÉǴÍḰĹḾŃÓṔŔŚÚẂÝŹáćéǵíḱĺḿńóṕŕśúẃýź\u0385"⟩,
  ⟨0x301, "ÂÅÆÇÊÏÔÕØÜâåæçêïôõøüĂăĒēŌōŨũƠơƯưΑΕΗΙΟΥΩα", "ẤǺǼḈẾḮỐṌǾǗấǻǽḉếḯốṍǿǘẮắḖḗṒṓṸṹỚớỨứΆΈΉΊΌΎΏά"⟩,
  ⟨0x301, "εηιουωϊϋϒГКгкἀἁἈἉἐἑἘἙἠἡἨἩἰἱἸἹὀὁὈὉὐὑὙὠὡὨὩ", "έήίόύώΐΰϓЃЌѓќἄἅἌἍἔἕἜἝἤἥἬἭἴἵἼἽὄὅὌὍὔὕὝὤὥὬὭ"⟩,
  ⟨0x301, "\u1fbf\u1ffe", "\u1fce\u1fde"⟩,
  ⟨0x302, "ACEGHIJOSUWYZaceghijosuwyzẠạẸẹỌọ", "ÂĈÊĜĤÎĴÔŜÛŴŶẐâĉêĝĥîĵôŝûŵŷẑẬậỆệỘộ"⟩,
  ⟨0x303, "AEINOUVYaeinouvyÂÊÔâêôĂăƠơƯư", "ÃẼĨÑÕŨṼỸãẽĩñõũṽỹẪỄỖẫễỗẴẵỠỡỮữ"⟩,
  ⟨0x304, "AEGIOUYaegiouyÄÆÕÖÜäæõöüǪǫȦȧȮȯΑΙΥαιυИУиу", "ĀĒḠĪŌŪȲāēḡīōūȳǞǢȬȪǕǟǣȭȫǖǬǭǠǡȰȱᾹῙῩᾱῑῡӢӮӣӯ"⟩,
  ⟨0x304, "ḶḷṚṛ", "ḸḹṜṝ"⟩,
  ⟨0x306, "AEGIOUaegiouȨȩΑΙΥαιυАЕЖИУаежиуẠạ", "ĂĔĞĬŎŬăĕğĭŏŭḜḝᾸῘῨᾰῐῠӐӖӁЙЎӑӗӂйўẶặ"⟩,
  ⟨0x307, "ABCDEFGHIMNOPRSTWXYZabcdefghmnoprstwxyzŚ", "ȦḂĊḊĖḞĠḢİṀṄȮṖṘṠṪẆẊẎŻȧḃċḋėḟġḣṁṅȯṗṙṡṫẇẋẏżṤ"⟩,
  ⟨0x307, "śŠšſṢṣ𐗒𐗚", "ṥṦṧẛṨṩ𐗉𐗤"⟩,
  ⟨0x308, "AEHIOUWXYaehiotuwxyÕõŪūΙΥιυϒІАЕЖЗИОУЧЫЭа", "ÄËḦÏÖÜẄẌŸäëḧïöẗüẅẍÿṎṏṺṻΪΫϊϋϔЇӒЁӜӞӤӦӰӴӸӬӓ"⟩,
  ⟨0x308, "ежзиоучыэіӘәӨө", "ёӝӟӥӧӱӵӹӭїӚӛӪӫ"⟩,
  ⟨0x309, "AEIOUYaeiouyÂÊÔâêôĂăƠơƯư", "ẢẺỈỎỦỶảẻỉỏủỷẨỂỔẩểổẲẳỞởỬử"⟩,
  ⟨0x30a, "AUauwy", "ÅŮåůẘẙ"⟩,
  ⟨0x30b, "OUouУу", "ŐŰőűӲӳ"⟩,
  ⟨0x30c, "ACDEGHIKLNORSTUZacdeghijklnorstuzÜüƷʒ", "ǍČĎĚǦȞǏǨĽŇǑŘŠŤǓŽǎčďěǧȟǐǰǩľňǒřšťǔžǙǚǮǯ"⟩,
  ⟨0x30f, "AEIORUaeioruѴѵ", "ȀȄȈȌȐȔȁȅȉȍȑȕѶѷ"⟩,
  ⟨0x311, "AEIORUaeioru", "ȂȆȊȎȒȖȃȇȋȏȓȗ"⟩,
  ⟨0x313, "ΑΕΗΙΟΩαεηιορυω", "ἈἘἨἸὈὨἀἐἠἰὀῤὐὠ"⟩,
  ⟨0x314, "ΑΕΗΙΟΡΥΩαεηιορυω", "ἉἙἩἹὉῬὙὩἁἑἡἱὁῥὑὡ"⟩,
  ⟨0x31b, "OUou", "ƠƯơư"⟩,
  ⟨0x323, "ABDEHIKLMNORSTUVWYZabdehiklmnorstuvwyzƠơ", "ẠḄḌẸḤỊḲḶṂṆỌṚṢṬỤṾẈỴẒạḅḍẹḥịḳḷṃṇọṛṣṭụṿẉỵẓỢợ"⟩,
  ⟨0x323, "Ưư", "Ựự"⟩,
  ⟨0x324, "Uu", "Ṳṳ"⟩,
  ⟨0x325, "Aa", "Ḁḁ"⟩,
  ⟨0x326, "STst", "ȘȚșț"⟩,
  ⟨0x327, "CDEGHKLNRSTcdeghklnrst", "ÇḐȨĢḨĶĻŅŖŞŢçḑȩģḩķļņŗşţ"⟩,
  ⟨0x328, "AEIOUaeiou", "ĄĘĮǪŲąęįǫų"⟩,
  ⟨0x32d, "DELNTUdelntu", "ḒḘḼṊṰṶḓḙḽṋṱṷ"⟩,
  ⟨0x32e, "Hh", "Ḫḫ"⟩,
  ⟨0x330, "EIUeiu", "ḚḬṴḛḭṵ"⟩,
  ⟨0x331, "BDKLNRTZbdhklnrtz", "ḆḎḴḺṈṞṮẔḇḏẖḵḻṉṟṯẕ"⟩,
  ⟨0x338, "<=>←→↔⇐⇒⇔∃∈∋∣∥∼≃≅≈≍≡≤≥≲≳≶≷≺≻≼≽⊂⊃⊆⊇⊑⊒⊢⊨⊩⊫", "≮≠≯↚↛↮⇍⇏⇎∄∉∌∤∦≁≄≇≉≭≢≰≱≴≵≸≹⊀⊁⋠⋡⊄⊅⊈⊉⋢⋣⊬⊭⊮⊯"⟩,
  ⟨0x338, "⊲⊳⊴⊵", "⋪⋫⋬⋭"⟩,
  ⟨0x342, "\u00a8αηιυωϊϋἀἁἈἉἠἡἨἩἰἱἸἹὐὑὙὠὡὨὩ\u1fbf", "\u1fc1ᾶῆῖῦῶῗῧἆἇἎἏἦἧἮἯἶἷἾἿὖὗὟὦὧὮὯ\u1fcf"⟩,
  ⟨0x342, "\u1ffe", "\u1fdf"⟩,
  ⟨0x345, "ΑΗΩάήαηωώἀἁἂἃἄἅἆἇἈἉἊἋἌἍἎἏἠἡἢἣἤἥἦἧἨἩἪἫἬἭἮ", "ᾼῌῼᾴῄᾳῃῳῴᾀᾁᾂᾃᾄᾅᾆᾇᾈᾉᾊᾋᾌᾍᾎᾏᾐᾑᾒᾓᾔᾕᾖᾗᾘᾙᾚᾛᾜᾝᾞ"⟩,
  ⟨0x345, "ἯὠὡὢὣὤὥὦὧὨὩὪὫὬὭὮὯὰὴὼᾶῆῶ", "ᾟᾠᾡᾢᾣᾤᾥᾦᾧᾨᾩᾪᾫᾬᾭᾮᾯᾲῂῲᾷῇῷ"⟩,
  ⟨0x653, "ا", "آ"⟩,
  ⟨0x654, "اويہےە", "أؤئۂۓۀ"⟩,
  ⟨0x655, "ا", "إ"⟩,
  ⟨0x93c, "नरळ", "ऩऱऴ"⟩,
  ⟨0x9be, "\u09c7", "\u09cb"⟩,
  ⟨0x9d7, "\u09c7", "\u09cc"⟩,
  ⟨0xb3e, "\u0b47", "\u0b4b"⟩,
  ⟨0xb56, "\u0b47", "\u0b48"⟩,
  ⟨0xb57, "\u0b47", "\u0b4c"⟩,
  ⟨0xbbe, "\u0bc6\u0bc7", "\u0bca\u0bcb"⟩,
  ⟨0xbd7, "ஒ\u0bc6", "ஔ\u0bcc"⟩,
  ⟨0xc56, "\u0c46", "\u0c48"⟩,
  ⟨0xcc2, "\u0cc6", "\u0cca"⟩,
  ⟨0xcd5, "\u0cbf\u0cc6\u0cca", "\u0cc0\u0cc7\u0ccb"⟩,
  ⟨0xcd6, "\u0cc6", "\u0cc8"⟩,
  ⟨0xd3e, "\u0d46\u0d47", "\u0d4a\u0d4b"⟩,
  ⟨0xd57, "\u0d46", "\u0d4c"⟩,
  ⟨0xdca, "\u0dd9\u0ddc", "\u0dda\u0ddd"⟩,
  ⟨0xdcf, "\u0dd9", "\u0ddc"⟩,
  ⟨0xddf, "\u0dd9", "\u0dde"⟩,
  ⟨0x102e, "ဥ", "ဦ"⟩,
  ⟨0x1b35, "ᬅᬇᬉᬋᬍᬑ\u1b3a\u1b3c\u1b3e\u1b3f\u1b42", "ᬆᬈᬊᬌᬎᬒ\u1b3b\u1b3d\u1b40\u1b41\u1b43"⟩,
  ⟨0x3099, "うかきくけこさしすせそたちつてとはひふへほ\u309dウカキクケコサシスセソタ", "ゔがぎぐげござじずぜぞだぢづでどばびぶべぼ\u309eヴガギグゲゴザジズゼゾダ"⟩,
  ⟨0x3099, "チツテトハヒフヘホワヰヱヲ\u30fd", "ヂヅデドバビブベボヷヸヹヺ\u30fe"⟩,
  ⟨0x309a, "はひふへほハヒフヘホ", "ぱぴぷぺぽパピプペポ"⟩,
  ⟨0x110ba, "𑂙𑂛𑂥", "𑂚𑂜𑂫"⟩,
  ⟨0x11127, "𑄱𑄲", "𑄮𑄯"⟩,
  ⟨0x1133e, "𑍇", "𑍋"⟩,
  ⟨0x11357, "𑍇", "𑍌"⟩,
  ⟨0x113b8, "𑏂", "𑏇"⟩,
  ⟨0x113bb, "𑎄", "𑎅"⟩,
  ⟨0x113c2, "𑎎", "𑎎𑏅"⟩,
  ⟨0x113c9, "𑎂𑎐𑏂", "𑎃𑎑𑏈"⟩,
  ⟨0x114b0, "𑒹", "𑒼"⟩,
  ⟨0x114ba, "𑒹", "𑒻"⟩,
  ⟨0x114bd, "𑒹", "𑒾"⟩,
  ⟨0x115af, "𑖸𑖹", "𑖺𑖻"⟩,
  ⟨0x11930, "𑤵", "𑤸"⟩,
  ⟨0x1611e, "𖄞", "𖄡"⟩,
  ⟨0x1611f, "𖄡𖄡𖄩𖄩", "𖄣𖄦𖄧𖄤"⟩,
  ⟨0x16120, "𖄡𖄞", "𖄥𖄨"⟩,
  ⟨0x16129, "𖄞", "𖄢"⟩,
  ⟨0x16d67, "𖵩𖵩", "𖵪𖵧𖵪"⟩]

/-- The compositions of a row: the character before the mark, and the whole. -/
def MarkRow.pairs (r : MarkRow) : List (Char × Char) := r.bases.toList.zip r.wholes.toList

namespace Hangul

def firstSyllable : Nat := 0xac00

def syllableCount : Nat := 11172

/-- The first leading consonant, of nineteen. -/
def firstLead : Nat := 0x1100

/-- The first vowel, of twenty-one. -/
def firstVowel : Nat := 0x1161

/-- What stands before the first trailing consonant, of twenty-seven. -/
def noTrail : Nat := 0x11a7

/-- The syllable of a leading consonant and a vowel, or of such a syllable and a trailing
consonant. -/
def compose? (a b : Char) : Option Char :=
  let lead := a.toNat - firstLead
  let vowel := b.toNat - firstVowel
  let syllable := a.toNat - firstSyllable
  let trail := b.toNat - noTrail
  if firstLead ≤ a.toNat && lead < 19 && firstVowel ≤ b.toNat && vowel < 21 then
    some (Char.ofNat (firstSyllable + (lead * 21 + vowel) * 28))
  else if firstSyllable ≤ a.toNat && syllable < syllableCount && syllable % 28 = 0 &&
      noTrail < b.toNat && trail < 28 then
    some (Char.ofNat (a.toNat + trail))
  else none

/-- The two characters that a syllable is composed of. -/
def split? (c : Char) : Option (Char × Char) :=
  let syllable := c.toNat - firstSyllable
  if c.toNat < firstSyllable || syllableCount ≤ syllable then none
  else if syllable % 28 = 0 then
    some (Char.ofNat (firstLead + syllable / 588), Char.ofNat (firstVowel + syllable / 28 % 21))
  else some (Char.ofNat (c.toNat - syllable % 28), Char.ofNat (noTrail + syllable % 28))

end Hangul

/-- The character that two characters compose. -/
def compose? (a b : Char) : Option Char :=
  (Hangul.compose? a b).or
    ((markRows.filter (·.mark = b.toNat)).findSome? (·.pairs.lookup a))

/-- The whole in a row as its two characters. -/
def MarkRow.split? (r : MarkRow) (c : Char) : Option (Char × Char) :=
  (r.pairs.find? (·.2 == c)).map fun (base, _) => (base, Char.ofNat r.mark)

/-- The two characters that a character is composed of. -/
def split? (c : Char) : Option (Char × Char) :=
  if c.toNat < 128 then none else (Hangul.split? c).or (markRows.findSome? (·.split? c))

end AccelForm.Text
