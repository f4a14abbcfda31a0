import AccelForm.Json.Document
import AccelForm.Json.Writer
import AccelForm.Proofs.Text.Numeral
/-
  Values and their texts

  A value is a document in which every leaf has its value. Its compact text is
  cut into the lexemes of that document (`lexFrom_compactChars`), and lexemes
  that spell a document are put together to it again (`assemble?_lexemes`). So
  the text of a value is read as its document (`Document.read?_compact`), for
  every value in which all numbers are whole numbers of 64 bits: the text of
  any other number may be read as a number next to it.
-/

namespace AccelForm.Json

/-! ## The document of a value -/

mutual

def document : Json → Document
  | .null => .null
  | .bool b => .bool b
  | .number n => .number (some n)
  | .string s => .string (some s)
  | .array items => .array (documentItems items)
  | .object members => .object (documentMembers members)

def documentItems : List Json → List Document
  | [] => []
  | x :: rest => x.document :: documentItems rest

def documentMembers : List (String × Json) → List (Option String × Document)
  | [] => []
  | (k, v) :: rest => (some k, v.document) :: documentMembers rest

end

mutual

/-- Whether all numbers in a value are whole numbers of 64 bits, signed or not. -/
def Integral : Json → Prop
  | .number (.int i) => -(Text.signedBound : Int) ≤ i ∧ i < Text.wordBound
  | .number (.real _) => False
  | .array items => IntegralItems items
  | .object members => IntegralMembers members
  | _ => True

def IntegralItems : List Json → Prop
  | [] => True
  | x :: rest => x.Integral ∧ IntegralItems rest

/-- Whether all numbers in members are whole numbers of 64 bits. -/
def IntegralMembers : List (String × Json) → Prop
  | [] => True
  | (_, v) :: rest => v.Integral ∧ IntegralMembers rest

end

/-! ## The lexemes of a document -/

mutual

def Document.lexemes : Document → List Lexeme
  | .null => [.null]
  | .bool b => [.bool b]
  | .number n => [.number n]
  | .string s => [.string s]
  | .array items => .openArray :: itemLexemes items ++ [.closeArray]
  | .object members => .openObject :: memberLexemes members ++ [.closeObject]

def itemLexemes : List Document → List Lexeme
  | [] => []
  | [d] => d.lexemes
  | d :: rest => d.lexemes ++ .comma :: itemLexemes rest

def memberLexemes : List (Option String × Document) → List Lexeme
  | [] => []
  | [(key, d)] => .string key :: .colon :: d.lexemes
  | (key, d) :: rest => .string key :: .colon :: d.lexemes ++ .comma :: memberLexemes rest

end

variable {outer : List Frame} {rest : List Lexeme}

/-- An item may stand wherever an array may be closed or go on, and does not close it. -/
theorem assemble?_itemOrClose (items : List Document) (d : Document) (ds : List Document) :
    assemble? (.within (.array items :: outer) .itemOrClose) (itemLexemes (d :: ds) ++ rest) =
      assemble? (.within (.array items :: outer) .value) (itemLexemes (d :: ds) ++ rest) := by
  cases ds <;> cases d <;> rfl

/-- A member may stand wherever an object may be closed or go on, and does not close it. -/
theorem assemble?_keyOrClose (members : List (Option String × Document))
    (m : Option String × Document) (ms : List (Option String × Document)) :
    assemble? (.within (.object members :: outer) .keyOrClose) (memberLexemes (m :: ms) ++ rest) =
      assemble? (.within (.object members :: outer) .key) (memberLexemes (m :: ms) ++ rest) := by
  cases ms <;> rfl

mutual

/-- The lexemes of a document are put together to that document. -/
theorem assemble?_lexemes (d : Document) (stack : List Frame) (rest : List Lexeme) :
    assemble? (.within stack .value) (d.lexemes ++ rest) = assemble? (place d stack) rest := by
  cases d with
  | null => rfl
  | bool b => rfl
  | number n => rfl
  | string s => rfl
  | array items =>
    rw [Document.lexemes, List.append_assoc]
    exact assemble?_itemLexemes items [] stack rest
  | object members =>
    rw [Document.lexemes, List.append_assoc]
    exact assemble?_memberLexemes members [] stack rest

/-- Items are put behind those before them when the array is closed. -/
theorem assemble?_itemLexemes (items before : List Document) (outer : List Frame)
    (rest : List Lexeme) :
    assemble? (.within (.array before :: outer) .itemOrClose)
        (itemLexemes items ++ .closeArray :: rest) =
      assemble? (place (.array (before.reverse ++ items)) outer) rest := by
  match items with
  | [] =>
    rw [List.append_nil]
    rfl
  | [d] =>
    rw [assemble?_itemOrClose, itemLexemes, assemble?_lexemes d, ← List.reverse_cons]
    rfl
  | d :: e :: ds =>
    rw [assemble?_itemOrClose, itemLexemes, List.append_assoc, assemble?_lexemes d,
      List.cons_append]
    · -- after the comma another item must stand, as it may after the bracket
      show assemble? (.within (.array (d :: before) :: outer) .value) _ = _
      rw [← assemble?_itemOrClose, assemble?_itemLexemes (e :: ds), List.reverse_cons,
        List.append_assoc]
      rfl
    · exact List.cons_ne_nil _ _

/-- Members are put behind those before them when the object is closed. -/
theorem assemble?_memberLexemes (members before : List (Option String × Document))
    (outer : List Frame) (rest : List Lexeme) :
    assemble? (.within (.object before :: outer) .keyOrClose)
        (memberLexemes members ++ .closeObject :: rest) =
      assemble? (place (.object (before.reverse ++ members)) outer) rest := by
  match members with
  | [] =>
    rw [List.append_nil]
    rfl
  | [(key, d)] =>
    rw [assemble?_keyOrClose, memberLexemes]
    show assemble? (.within (.member before key :: outer) .value) (d.lexemes ++ _) = _
    rw [assemble?_lexemes d, ← List.reverse_cons]
    rfl
  | (key, d) :: m :: ms =>
    rw [assemble?_keyOrClose, memberLexemes, List.append_assoc]
    · show assemble? (.within (.member before key :: outer) .value) (d.lexemes ++ _) = _
      rw [assemble?_lexemes d, List.cons_append]
      show assemble? (.within (.object ((key, d) :: before) :: outer) .key) _ = _
      rw [← assemble?_keyOrClose, assemble?_memberLexemes (m :: ms), List.reverse_cons,
        List.append_assoc]
      rfl
    · exact List.cons_ne_nil _ _

end

/-! ## Strings -/

/-- A unit that is no part of a pair denotes its character whatever follows it. -/
theorem denoted_unit_cons {n : Nat} (hhigh : isHighUnit n = false) (hlow : isLowUnit n = false)
    (ps : List Piece) : denoted (.unit n :: ps) = (denoted ps).map (Char.ofNat n :: ·) := by
  match ps with
  | [] => simp [denoted, hhigh, hlow]
  | .char c :: rest =>
    simp only [denoted, hhigh, hlow, Bool.or_false, Bool.false_eq_true, if_false, Option.map_map]
    rfl
  | .unit m :: rest => simp [denoted, hhigh, hlow]

/-- Whether a character is written as a unit of 16 bits. -/
def isUnit (c : Char) : Bool :=
  c.toNat < 32 && !(c == '\n' || c == '\t' || c == '\r' || c.toNat == 8 || c.toNat == 12)

/-- The piece that the writing of a character is read as. -/
def pieceOf (c : Char) : Piece := if isUnit c then .unit c.toNat else .char c

/-- The pieces of written characters denote these characters. -/
theorem denoted_pieces (cs : List Char) : denoted (cs.map pieceOf) = some cs := by
  induction cs with
  | nil => rfl
  | cons c rest ih =>
    rw [List.map_cons, pieceOf]
    by_cases hc : isUnit c = true
    · -- a control character is no part of a pair, so the rest is denoted by itself
      have hlt : c.toNat < 32 := by
        simp only [isUnit, Bool.and_eq_true, decide_eq_true_eq] at hc
        exact hc.1
      have hhigh : isHighUnit c.toNat = false := by
        simp only [isHighUnit, Bool.and_eq_false_iff, decide_eq_false_iff_not]
        omega
      have hlow : isLowUnit c.toNat = false := by
        simp only [isLowUnit, Bool.and_eq_false_iff, decide_eq_false_iff_not]
        omega
      rw [if_pos hc, denoted_unit_cons hhigh hlow, ih, Char.ofNat_toNat]
      rfl
    · rw [if_neg hc, denoted, ih]
      rfl

theorem hexValue?_digitChar {d : Nat} (h : d < 16) : Text.hexValue? (Nat.digitChar d) = some d := by
  revert d
  decide

section Lexing
variable {found : List Lexeme} {rest : List Char}

/-- Four hexadecimal digits are read as the unit that they spell. -/
theorem lexFrom_hexDigits {n : Nat} (h : n < 16 ^ 4) (ps : List Piece) :
    lexFrom (.unit ps 4 0) found (Text.hexDigits 4 n ++ rest) =
      lexFrom (.quoted (.unit n :: ps)) found rest := by
  have hvalue : 16 * (16 * (16 * (n / 16 / 16 / 16 % 16) + n / 16 / 16 % 16) + n / 16 % 16) +
      n % 16 = n := by
    omega
  have hdigit (m : Nat) : Text.hexValue? (Nat.digitChar (m % 16)) = some (m % 16) :=
    hexValue?_digitChar (Nat.mod_lt _ (by decide))
  simp [Text.hexDigits, lexFrom, lexStep, hdigit, hvalue]

/-- A written character is read as its piece. -/
theorem lexFrom_escapedChar (c : Char) (ps : List Piece) :
    lexFrom (.quoted ps) found (escapedChar c ++ rest) =
      lexFrom (.quoted (pieceOf c :: ps)) found rest := by
  have hcode {n : Nat} (h : c.toNat = n) : c = Char.ofNat n := by rw [← h, Char.ofNat_toNat]
  -- one case for each way to write a character; an escape of one letter is read by computation
  unfold escapedChar
  split_ifs with hquote hslash hnewline htab hreturn hback hfeed hcontrol
  · subst hquote
    rfl
  · subst hslash
    rfl
  · subst hnewline
    rfl
  · subst htab
    rfl
  · subst hreturn
    rfl
  · obtain rfl := hcode hback
    rfl
  · obtain rfl := hcode hfeed
    rfl
  · have hpiece : pieceOf c = .unit c.toNat :=
      if_pos (by simp [isUnit, hcontrol, hnewline, htab, hreturn, hback, hfeed])
    rw [hpiece, List.cons_append, List.cons_append, ← lexFrom_hexDigits (by omega)]
    rfl
  · have hpiece : pieceOf c = .char c := if_neg (by simp [isUnit, hcontrol])
    have hstep : lexStep (.quoted ps) c = some ([], .quoted (.char c :: ps)) := by
      rw [lexStep, if_neg hquote, if_neg hslash, if_neg hcontrol]
    rw [hpiece, List.singleton_append, lexFrom, hstep]
    rfl

/-- A written string is one lexeme. -/
theorem lexFrom_quotedChars (s : String) :
    lexFrom .between found (quotedChars s ++ rest) =
      lexFrom .between (.string (some s) :: found) rest := by
  have hchars (cs : List Char) (ps : List Piece) :
      lexFrom (.quoted ps) found (cs.flatMap escapedChar ++ '"' :: rest) =
        lexFrom .between (ofPieces ((cs.map pieceOf).reverse ++ ps) :: found) rest := by
    induction cs generalizing ps with
    | nil => rfl
    | cons c cs ih =>
      rw [List.flatMap_cons, List.append_assoc, lexFrom_escapedChar, ih, List.map_cons,
        List.reverse_cons, List.append_assoc]
      rfl
  have hpieces : ofPieces (s.toList.map pieceOf).reverse = .string (some s) := by
    rw [ofPieces, List.reverse_reverse, denoted_pieces, Option.map_some, String.ofList_toList]
  calc lexFrom .between found (quotedChars s ++ rest)
      = lexFrom (.quoted []) found (s.toList.flatMap escapedChar ++ '"' :: rest) := by
        rw [quotedChars, List.append_assoc]
        rfl
    _ = lexFrom .between (.string (some s) :: found) rest := by
        rw [hchars, List.append_nil, hpieces]

/-! ## Words and numbers -/

/-- What may follow a value: nothing, a comma, or what closes an array or an object. -/
def EndsValue (rest : List Char) : Prop :=
  ∀ c, rest.head? = some c → c = ',' ∨ c = ']' ∨ c = '\x7d'

/-- A lexeme that is pending is completed by what may follow a value. -/
theorem lexFrom_pending {m : LexMode} {l : Lexeme} (hend : lexEnd m = some [l])
    (hstep : ∀ c, c = ',' ∨ c = ']' ∨ c = '\x7d' →
      lexStep m c = (begin? c).map fun (ls, next) => (l :: ls, next))
    (hrest : EndsValue rest) : lexFrom m found rest = lexFrom .between (l :: found) rest := by
  cases rest with
  | nil =>
    rw [lexFrom, hend, lexFrom]
    exact congrArg some (by simp)
  | cons c rest =>
    have hc := hrest c rfl
    rw [lexFrom, hstep c hc, lexFrom]
    rcases hc with rfl | rfl | rfl <;> rfl

theorem lexFrom_word (letters : List Char) {l : Lexeme} (hw : ofWord? letters = some l)
    (hrest : EndsValue rest) :
    lexFrom (.word letters) found rest = lexFrom .between (l :: found) rest := by
  refine lexFrom_pending (by rw [lexEnd, hw]; rfl) (fun c hc => ?_) hrest
  have hc : c.isAlpha = false := by rcases hc with rfl | rfl | rfl <;> rfl
  rw [lexStep, hc, hw]
  rfl

theorem lexFrom_numeral {chars : List Char} {l : Lexeme} (hn : ofNumeral? chars = some l)
    (hrest : EndsValue rest) :
    lexFrom (.numeral chars) found rest = lexFrom .between (l :: found) rest := by
  refine lexFrom_pending (by rw [lexEnd, hn]; rfl) (fun c hc => ?_) hrest
  have hc : inNumeral c = false := by rcases hc with rfl | rfl | rfl <;> rfl
  rw [lexStep, hc, hn]
  rfl

/-- The digits of a numeral are kept until it ends. -/
theorem lexFrom_digits {digits : List Char} (h : ∀ c ∈ digits, c.isDigit = true)
    (before : List Char) :
    lexFrom (.numeral before) found (digits ++ rest) =
      lexFrom (.numeral (digits.reverse ++ before)) found rest := by
  induction digits generalizing before with
  | nil => rfl
  | cons c digits ih =>
    have hc : inNumeral c = true := by simp [inNumeral, h c (List.mem_cons_self ..)]
    rw [List.cons_append, lexFrom, lexStep, hc, List.reverse_cons, List.append_assoc]
    exact ih (fun d hd => h d (List.mem_cons_of_mem _ hd)) (c :: before)

/-- A digit or a sign outside of all lexemes begins a numeral. -/
theorem begin?_numeral {c : Char} (h : c = '-' ∨ c.isDigit = true) :
    begin? c = some ([], .numeral [c]) := by
  have hother (d : Char) (hd : d ≠ '-' ∧ d.isDigit = false) : c ≠ d := by
    rintro rfl
    exact h.elim hd.1 fun hc => Bool.false_ne_true (hd.2.symm.trans hc)
  have hblank : isJsonBlank c = false := by
    simp only [isJsonBlank, Bool.or_eq_false_iff, beq_eq_false_iff_ne]
    exact ⟨⟨⟨hother _ (by decide), hother _ (by decide)⟩, hother _ (by decide)⟩,
      hother _ (by decide)⟩
  have hnumeral : (c = '-' || c.isDigit) = true := by simpa using h
  rw [begin?, hblank, if_neg Bool.false_ne_true, if_neg (hother _ (by decide)), if_pos hnumeral]

/-- No zero stands in front of the digits of a number, unless it is the only one. -/
theorem head?_toDigits (n : Nat) (hn : n ≠ 0) : (Nat.toDigits 10 n).head? ≠ some '0' := by
  induction n using Nat.strongRecOn with
  | _ n ih =>
    by_cases hlt : n < 10
    · have hdigit : ∀ d < 10, d ≠ 0 → Nat.digitChar d ≠ '0' := by decide
      rw [Nat.toDigits_of_lt_base hlt]
      exact fun h => hdigit n hlt hn (Option.some.inj h)
    · -- the first digit is that of the tenth, which is not zero either
      have hle : 10 ≤ n := Nat.le_of_not_lt hlt
      have hhead := ih (n / 10) (by omega) (by omega)
      rw [Nat.toDigits_of_base_le (by decide) hle]
      cases hdigits : Nat.toDigits 10 (n / 10) with
      | nil => exact absurd hdigits Nat.toDigits_ne_nil
      | cons c digits => rwa [hdigits] at hhead

/-- The digits of a number are a numeral without fraction and exponent. -/
theorem readUnsigned?_toDigits (negative : Bool) (n : Nat) :
    Numeral.readUnsigned? negative (Nat.toDigits 10 n) =
      some ⟨negative, Nat.toDigits 10 n, [], none⟩ := by
  have hdigits : ∀ c ∈ Nat.toDigits 10 n, c.isDigit = true := fun _ => Text.isDigit_of_mem_toDigits
  have hwhole : (Nat.toDigits 10 n ++ []).takeWhile Char.isDigit = Nat.toDigits 10 n ++ [] :=
    List.takeWhile_append_of_pos hdigits
  have hrest : (Nat.toDigits 10 n ++ []).dropWhile Char.isDigit = [] :=
    List.dropWhile_append_of_pos hdigits
  rw [List.append_nil] at hwhole hrest
  have hzero : ((Nat.toDigits 10 n).isEmpty ||
      ((Nat.toDigits 10 n).head? == some '0' && 1 < (Nat.toDigits 10 n).length)) = false := by
    by_cases hn : n = 0
    · subst hn
      rfl
    · simp [Nat.toDigits_ne_nil, head?_toDigits n hn]
  unfold Numeral.readUnsigned?
  rw [hwhole, hrest]
  dsimp only
  rw [hzero]
  rfl

theorem read?_toDigits (n : Nat) :
    Numeral.read? (Nat.toDigits 10 n) = some ⟨false, Nat.toDigits 10 n, [], none⟩ := by
  unfold Numeral.read?
  split
  · next rest hsign =>
    have hdigit : '-'.isDigit = true := Text.isDigit_of_mem_toDigits (n := n) (by simp [hsign])
    exact absurd hdigit (by decide)
  · exact readUnsigned?_toDigits false n

/-- The text of a whole number is a numeral with that value. -/
theorem ofNumeral?_numberChars {i : Int} (h : Integral (.number (.int i))) :
    ofNumeral? (numberChars (.int i)).reverse = some (.number (some (.int i))) := by
  have hword : (Text.wordBound : Int) = 2 ^ 64 := rfl
  have hsigned : (Text.signedBound : Int) = 2 ^ 63 := rfl
  obtain ⟨hlow, hhigh⟩ := h
  rw [ofNumeral?, List.reverse_reverse, numberChars]
  by_cases hi : i < 0
  · have hbounds : 0 < i.natAbs ∧ i.natAbs ≤ Text.signedBound := by omega
    have hvalue : Numeral.value? ⟨true, Nat.toDigits 10 i.natAbs, [], none⟩ = some (.int i) := by
      simp [Numeral.value?, Text.decimalValue_toDigits, hbounds, abs_of_neg hi]
    rw [if_pos hi, Numeral.read?, readUnsigned?_toDigits, Option.map_some, hvalue]
  · have hbound : i.natAbs < Text.wordBound := by omega
    have hvalue : Numeral.value? ⟨false, Nat.toDigits 10 i.natAbs, [], none⟩ = some (.int i) := by
      simp [Numeral.value?, Text.decimalValue_toDigits, hbound, Int.not_lt.1 hi]
    rw [if_neg hi, read?_toDigits, Option.map_some, hvalue]

/-- The text of a whole number is a sign or a digit with digits behind it. -/
theorem numberChars_eq_cons (i : Int) : ∃ c digits, numberChars (.int i) = c :: digits ∧
    (c = '-' ∨ c.isDigit = true) ∧ ∀ d ∈ digits, d.isDigit = true := by
  have hdigits : ∀ c ∈ Nat.toDigits 10 i.natAbs, c.isDigit = true :=
    fun _ => Text.isDigit_of_mem_toDigits
  rw [numberChars]
  by_cases hi : i < 0
  · exact ⟨'-', _, if_pos hi, .inl rfl, hdigits⟩
  · obtain ⟨c, digits, hchars⟩ := List.exists_cons_of_ne_nil (Nat.toDigits_ne_nil (n := i.natAbs))
    rw [hchars, List.forall_mem_cons] at hdigits
    exact ⟨c, digits, by rw [if_neg hi, hchars], .inr hdigits.1, hdigits.2⟩

/-- A whole number is one lexeme if something ends it. -/
theorem lexFrom_numberChars {n : Number} (h : Integral (.number n)) (hrest : EndsValue rest) :
    lexFrom .between found (numberChars n ++ rest) =
      lexFrom .between (.number (some n) :: found) rest := by
  cases n with
  | real x => exact h.elim
  | int i =>
    have hread := ofNumeral?_numberChars h
    obtain ⟨c, digits, hchars, hfirst, hdigits⟩ := numberChars_eq_cons i
    rw [hchars] at hread ⊢
    rw [List.cons_append, lexFrom, lexStep, begin?_numeral hfirst]
    show lexFrom (.numeral [c]) found (digits ++ rest) = _
    rw [lexFrom_digits hdigits, ← List.reverse_cons]
    exact lexFrom_numeral hread hrest

/-! ## Whole values -/

theorem endsValue_cons {c : Char} (hc : c = ',' ∨ c = ']' ∨ c = '\x7d') (rest : List Char) :
    EndsValue (c :: rest) :=
  fun _ hd => Option.some.inj hd ▸ hc

mutual

/-- The text of a value is cut into the lexemes of its document. -/
theorem lexFrom_compactChars (v : Json) (h : v.Integral) (found : List Lexeme) (rest : List Char)
    (hrest : EndsValue rest) :
    lexFrom .between found (v.compactChars ++ rest) =
      lexFrom .between (v.document.lexemes.reverse ++ found) rest := by
  cases v with
  | null => exact lexFrom_word ['l', 'l', 'u', 'n'] rfl hrest
  | bool b =>
    cases b with
    | true => exact lexFrom_word ['e', 'u', 'r', 't'] rfl hrest
    | false => exact lexFrom_word ['e', 's', 'l', 'a', 'f'] rfl hrest
  | number n => exact lexFrom_numberChars h hrest
  | string s => exact lexFrom_quotedChars s
  | array items =>
    rw [compactChars, List.append_assoc]
    show lexFrom .between (.openArray :: found) (compactItems items ++ ']' :: rest) = _
    rw [lexFrom_compactItems items h, document, Document.lexemes]
    simp only [List.reverse_append, List.reverse_cons, List.append_assoc]
    rfl
  | object members =>
    rw [compactChars, List.append_assoc]
    show lexFrom .between (.openObject :: found) (compactMembers members ++ '\x7d' :: rest) = _
    rw [lexFrom_compactMembers members h, document, Document.lexemes]
    simp only [List.reverse_append, List.reverse_cons, List.append_assoc]
    rfl

/-- The text of items is cut into their lexemes. -/
theorem lexFrom_compactItems (items : List Json) (h : IntegralItems items) (found : List Lexeme)
    (rest : List Char) :
    lexFrom .between found (compactItems items ++ ']' :: rest) =
      lexFrom .between ((itemLexemes (documentItems items)).reverse ++ found) (']' :: rest) := by
  match items, h with
  | [], _ => rfl
  | [x], h => exact lexFrom_compactChars x h.1 found _ (endsValue_cons (.inr (.inl rfl)) rest)
  | x :: y :: more, h =>
    -- the comma ends a number in the first item
    rw [compactItems, List.append_assoc, List.cons_append,
      lexFrom_compactChars x h.1 found _ (endsValue_cons (.inl rfl) _)]
    · show lexFrom .between (.comma :: (x.document.lexemes.reverse ++ found))
        (compactItems (y :: more) ++ ']' :: rest) = _
      rw [lexFrom_compactItems (y :: more) h.2]
      simp only [documentItems, itemLexemes, List.reverse_append, List.reverse_cons,
        List.append_assoc]
      rfl
    · exact List.cons_ne_nil _ _

/-- The text of members is cut into their lexemes. -/
theorem lexFrom_compactMembers (members : List (String × Json)) (h : IntegralMembers members)
    (found : List Lexeme) (rest : List Char) :
    lexFrom .between found (compactMembers members ++ '\x7d' :: rest) =
      lexFrom .between ((memberLexemes (documentMembers members)).reverse ++ found)
        ('\x7d' :: rest) := by
  match members, h with
  | [], _ => rfl
  | [(k, v)], h =>
    rw [compactMembers, List.append_assoc, lexFrom_quotedChars]
    show lexFrom .between (.colon :: .string (some k) :: found) (v.compactChars ++ _) = _
    rw [lexFrom_compactChars v h.1 _ _ (endsValue_cons (.inr (.inr rfl)) rest)]
    simp only [documentMembers, memberLexemes, List.reverse_cons, List.append_assoc]
    rfl
  | (k, v) :: m :: more, h =>
    rw [compactMembers, List.append_assoc, List.append_assoc, lexFrom_quotedChars]
    · show lexFrom .between (.colon :: .string (some k) :: found)
        (v.compactChars ++ ',' :: (compactMembers (m :: more) ++ '\x7d' :: rest)) = _
      rw [lexFrom_compactChars v h.1 _ _ (endsValue_cons (.inl rfl) _)]
      show lexFrom .between (.comma :: (v.document.lexemes.reverse ++ _))
        (compactMembers (m :: more) ++ '\x7d' :: rest) = _
      rw [lexFrom_compactMembers (m :: more) h.2]
      simp only [documentMembers, memberLexemes, List.reverse_append, List.reverse_cons,
        List.append_assoc]
      rfl
    · exact List.cons_ne_nil _ _

end

end Lexing

/-- The text of a value is read as its document. -/
theorem Document.read?_compact {v : Json} (h : v.Integral) :
    Document.read? v.compact = some v.document := by
  have hend : EndsValue [] := by simp [EndsValue]
  have hlexemes : lexemes? v.compact = some v.document.lexemes := by
    have hcut := lexFrom_compactChars v h [] [] hend
    rw [List.append_nil, List.append_nil] at hcut
    rw [lexemes?, compact, String.toList_ofList, hcut, lexFrom, lexEnd, Option.map_some,
      List.reverse_reverse, List.append_nil]
  have hassemble := assemble?_lexemes v.document [] []
  rw [List.append_nil] at hassemble
  rw [Document.read?, hlexemes, Option.bind_some, hassemble]
  rfl

end AccelForm.Json
