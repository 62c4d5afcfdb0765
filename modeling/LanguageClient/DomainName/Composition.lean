import LanguageClient.DomainName.Marks

/-!
# Composing letters and marks

The same letter can be written as one character, or as a letter followed by marks. In the composed
form each letter takes up as many of its marks as there are characters for, and the other marks
stand in the order of their classes. Korean syllables are composed of their letters in the same
way, by computation.

A text is taken apart, its marks are put in order, and it is put together again. So two texts
that only differ in how they are written get the same form.
-/

namespace LanguageClient.DomainName

/-- Letters that a mark joins with, and what they become with it, in the same order. -/
structure Joint where
  mark : Nat
  letters : String
  composites : String
deriving DecidableEq, Repr

/-- Which letters join with which mark. -/
def joints : List Joint := [
  ⟨0x300, "aeinouwyâêôüăēōơưαεηιουωϊϋеиἀἁἐἑἠἡἰἱὀὁὐὑὠ", "àèìǹòùẁỳầềồǜằḕṑờừὰὲὴὶὸὺὼῒῢѐѝἂἃἒἓἢἣἲἳὂὃὒὓὢ"⟩,
  ⟨0x300, "ὡ", "ὣ"⟩,
  ⟨0x301, "acegiklmnoprsuwyzâåæçêïôõøüăēōũơưαεηιουωϊ", "áćéǵíḱĺḿńóṕŕśúẃýźấǻǽḉếḯốṍǿǘắḗṓṹớứάέήίόύώΐ"⟩,
  ⟨0x301, "ϋгкἀἁἐἑἠἡἰἱὀὁὐὑὠὡ", "ΰѓќἄἅἔἕἤἥἴἵὄὅὔὕὤὥ"⟩,
  ⟨0x302, "aceghijosuwyzạẹọ", "âĉêĝĥîĵôŝûŵŷẑậệộ"⟩, ⟨0x303, "aeinouvyâêôăơư", "ãẽĩñõũṽỹẫễỗẵỡữ"⟩,
  ⟨0x304, "aegiouyäæõöüǫȧȯαιυиуḷṛ", "āēḡīōūȳǟǣȭȫǖǭǡȱᾱῑῡӣӯḹṝ"⟩,
  ⟨0x306, "aegiouȩαιυаежиуạ", "ăĕğĭŏŭḝᾰῐῠӑӗӂйўặ"⟩,
  ⟨0x307, "abcdefghmnoprstwxyzśšṣ𐗒𐗚", "ȧḃċḋėḟġḣṁṅȯṗṙṡṫẇẋẏżṥṧṩ𐗉𐗤"⟩,
  ⟨0x308, "aehiotuwxyõūιυаежзиоучыэіәө", "äëḧïöẗüẅẍÿṏṻϊϋӓёӝӟӥӧӱӵӹӭїӛӫ"⟩,
  ⟨0x309, "aeiouyâêôăơư", "ảẻỉỏủỷẩểổẳởử"⟩, ⟨0x30A, "auwy", "åůẘẙ"⟩, ⟨0x30B, "ouу", "őűӳ"⟩,
  ⟨0x30C, "acdeghijklnorstuzüʒ", "ǎčďěǧȟǐǰǩľňǒřšťǔžǚǯ"⟩, ⟨0x30F, "aeioruѵ", "ȁȅȉȍȑȕѷ"⟩,
  ⟨0x311, "aeioru", "ȃȇȋȏȓȗ"⟩, ⟨0x313, "αεηιορυω", "ἀἐἠἰὀῤὐὠ"⟩, ⟨0x314, "αεηιορυω", "ἁἑἡἱὁῥὑὡ"⟩,
  ⟨0x31B, "ou", "ơư"⟩, ⟨0x323, "abdehiklmnorstuvwyzơư", "ạḅḍẹḥịḳḷṃṇọṛṣṭụṿẉỵẓợự"⟩, ⟨0x324, "u", "ṳ"⟩,
  ⟨0x325, "a", "ḁ"⟩, ⟨0x326, "st", "șț"⟩, ⟨0x327, "cdeghklnrst", "çḑȩģḩķļņŗşţ"⟩,
  ⟨0x328, "aeiou", "ąęįǫų"⟩, ⟨0x32D, "delntu", "ḓḙḽṋṱṷ"⟩, ⟨0x32E, "h", "ḫ"⟩, ⟨0x330, "eiu", "ḛḭṵ"⟩,
  ⟨0x331, "bdhklnrtz", "ḇḏẖḵḻṉṟṯẕ"⟩,
  ⟨0x338, "<=>←→↔⇐⇒⇔∃∈∋∣∥∼≃≅≈≍≡≤≥≲≳≶≷≺≻≼≽⊂⊃⊆⊇⊑⊒⊢⊨⊩⊫⊲", "≮≠≯↚↛↮⇍⇏⇎∄∉∌∤∦≁≄≇≉≭≢≰≱≴≵≸≹⊀⊁⋠⋡⊄⊅⊈⊉⋢⋣⊬⊭⊮⊯⋪"⟩,
  ⟨0x338, "⊳⊴⊵", "⋫⋬⋭"⟩, ⟨0x342, "αηιυωϊϋἀἁἠἡἰἱὐὑὠὡ", "ᾶῆῖῦῶῗῧἆἇἦἧἶἷὖὗὦὧ"⟩,
  ⟨0x653, "\u0627", "\u0622"⟩,
  ⟨0x654, "\u0627\u0648\u064a\u06c1\u06d2\u06d5", "\u0623\u0624\u0626\u06c2\u06d3\u06c0"⟩,
  ⟨0x655, "\u0627", "\u0625"⟩, ⟨0x93C, "नरळ", "ऩऱऴ"⟩, ⟨0x9BE, "\u09c7", "\u09cb"⟩,
  ⟨0x9D7, "\u09c7", "\u09cc"⟩, ⟨0xB3E, "\u0b47", "\u0b4b"⟩, ⟨0xB56, "\u0b47", "\u0b48"⟩,
  ⟨0xB57, "\u0b47", "\u0b4c"⟩, ⟨0xBBE, "\u0bc6\u0bc7", "\u0bca\u0bcb"⟩,
  ⟨0xBD7, "ஒ\u0bc6", "ஔ\u0bcc"⟩, ⟨0xC56, "\u0c46", "\u0c48"⟩, ⟨0xCC2, "\u0cc6", "\u0cca"⟩,
  ⟨0xCD5, "\u0cbf\u0cc6\u0cca", "\u0cc0\u0cc7\u0ccb"⟩, ⟨0xCD6, "\u0cc6", "\u0cc8"⟩,
  ⟨0xD3E, "\u0d46\u0d47", "\u0d4a\u0d4b"⟩, ⟨0xD57, "\u0d46", "\u0d4c"⟩,
  ⟨0xDCA, "\u0dd9\u0ddc", "\u0dda\u0ddd"⟩, ⟨0xDCF, "\u0dd9", "\u0ddc"⟩, ⟨0xDDF, "\u0dd9", "\u0dde"⟩,
  ⟨0x102E, "ဥ", "ဦ"⟩,
  ⟨0x1B35, "ᬅᬇᬉᬋᬍᬑ\u1b3a\u1b3c\u1b3e\u1b3f\u1b42", "ᬆᬈᬊᬌᬎᬒ\u1b3b\u1b3d\u1b40\u1b41\u1b43"⟩,
  ⟨0x3099, "うかきくけこさしすせそたちつてとはひふへほゝウカキクケコサシスセソタチツテトハヒ", "ゔがぎぐげござじずぜぞだぢづでどばびぶべぼゞヴガギグゲゴザジズゼゾダヂヅデドバビ"⟩,
  ⟨0x3099, "フヘホワヰヱヲヽ", "ブベボヷヸヹヺヾ"⟩, ⟨0x309A, "はひふへほハヒフヘホ", "ぱぴぷぺぽパピプペポ"⟩, ⟨0x110BA, "𑂙𑂛𑂥", "𑂚𑂜𑂫"⟩,
  ⟨0x11127, "𑄱𑄲", "𑄮𑄯"⟩, ⟨0x1133E, "𑍇", "𑍋"⟩, ⟨0x11357, "𑍇", "𑍌"⟩, ⟨0x113B8, "𑏂", "𑏇"⟩,
  ⟨0x113BB, "𑎄", "𑎅"⟩, ⟨0x113C2, "𑎎", "𑎎𑏅"⟩, ⟨0x113C9, "𑎂𑎐𑏂", "𑎃𑎑𑏈"⟩, ⟨0x114B0, "𑒹", "𑒼"⟩,
  ⟨0x114BA, "𑒹", "𑒻"⟩, ⟨0x114BD, "𑒹", "𑒾"⟩, ⟨0x115AF, "𑖸𑖹", "𑖺𑖻"⟩, ⟨0x11930, "𑤵", "𑤸"⟩,
  ⟨0x1611E, "𖄞", "𖄡"⟩, ⟨0x1611F, "𖄡𖄡𖄩𖄩", "𖄣𖄦𖄧𖄤"⟩, ⟨0x16120, "𖄡𖄞", "𖄥𖄨"⟩, ⟨0x16129, "𖄞", "𖄢"⟩,
  ⟨0x16D67, "𖵩𖵩", "𖵪𖵧𖵪"⟩]

/-- Code of the first Korean syllable. -/
def firstSyllable : Nat := 0xAC00

/-- Code of the first initial consonant. -/
def firstInitial : Nat := 0x1100

/-- Code of the first vowel. -/
def firstVowel : Nat := 0x1161

/-- Code before the first final consonant. -/
def noFinal : Nat := 0x11A7

/-- Number of initial consonants. -/
def initialCount : Nat := 19

/-- Number of vowels. -/
def vowelCount : Nat := 21

/-- Number of final consonants, none included. -/
def finalCount : Nat := 28

/-- Whether a code is that of a Korean syllable. -/
def isSyllable (code : Nat) : Bool :=
  firstSyllable ≤ code && code < firstSyllable + initialCount * vowelCount * finalCount

/-- The Korean syllable of an initial consonant and a vowel, or of an open syllable and a final
consonant. -/
def syllableOf? (first second : Nat) : Option Nat :=
  if firstInitial ≤ first && first < firstInitial + initialCount &&
      firstVowel ≤ second && second < firstVowel + vowelCount then
    some (firstSyllable +
      ((first - firstInitial) * vowelCount + (second - firstVowel)) * finalCount)
  else if isSyllable first && (first - firstSyllable) % finalCount == 0 &&
      noFinal < second && second < noFinal + finalCount then
    some (first + (second - noFinal))
  else none

/-- The two parts of a Korean syllable. -/
def syllableParts? (code : Nat) : Option (Nat × Nat) :=
  if !isSyllable code then none
  else
    let index := code - firstSyllable
    let final := index % finalCount
    if final == 0 then
      some (firstInitial + index / finalCount / vowelCount,
        firstVowel + index / finalCount % vowelCount)
    else some (code - final, noFinal + final)

/-- What two characters become together, if they join. -/
def composite? (letter mark : Char) : Option Char :=
  ((syllableOf? letter.toNat mark.toNat).map Char.ofNat).or
    (joints.findSome? fun joint =>
      if joint.mark == mark.toNat then
        (joint.letters.toList.zip joint.composites.toList).lookup letter
      else none)

/-- The letter and the mark that a character is composed of, if it is. -/
def parts? (character : Char) : Option (Char × Char) :=
  ((syllableParts? character.toNat).map fun (first, second) =>
      (Char.ofNat first, Char.ofNat second)).or
    (joints.findSome? fun joint =>
      ((joint.composites.toList.zip joint.letters.toList).lookup character).map
        (·, Char.ofNat joint.mark))

/-- Take every composed character apart once. -/
def takeApart (text : List Char) : List Char :=
  text.flatMap fun character =>
    match parts? character with
    | some (letter, mark) => [letter, mark]
    | none => [character]

/-- Take composed characters apart. No character is composed more than twice. -/
def decompose (text : List Char) : List Char := takeApart (takeApart text)

/-- Put a character behind what was placed, before marks of a higher class. What was placed is in
reverse order. -/
def place (character : Char) : List Char → List Char
  | [] => [character]
  | last :: before =>
    if combiningClass character ≠ 0 && combiningClass character < combiningClass last then
      last :: place character before
    else character :: last :: before

/-- Put marks in the order of their classes. -/
def order (text : List Char) : List Char :=
  (text.foldl (fun placed character => place character placed) []).reverse

/-- What a letter and a later character become, if no mark between them is in the way. The marks
are in reverse order. -/
def reach? (letter : Char) (marks : List Char) (character : Char) : Option Char :=
  match marks with
  | [] => composite? letter character
  | last :: _ =>
    if combiningClass last < combiningClass character then composite? letter character else none

/-- Compose what follows a letter with it. The marks so far that stay apart are in reverse
order. -/
def composeFrom (letter : Char) (marks : List Char) : List Char → List Char
  | [] => letter :: marks.reverse
  | character :: rest =>
    match reach? letter marks character with
    | some composite => composeFrom composite marks rest
    | none =>
      if combiningClass character = 0 then
        letter :: marks.reverse ++ composeFrom character [] rest
      else composeFrom letter (character :: marks) rest

/-- Compose a text whose marks are in order. -/
def compose : List Char → List Char
  | [] => []
  | character :: rest =>
    if combiningClass character = 0 then composeFrom character [] rest
    else character :: compose rest

/-- The composed form of a text. -/
def normalize (text : List Char) : List Char := compose (order (decompose text))

end LanguageClient.DomainName
