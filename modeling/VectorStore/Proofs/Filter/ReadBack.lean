import VectorStore.Proofs.Filter.Literal
import VectorStore.Proofs.Filter.Refusals

/-!
Literals of filter values in filter texts. Characters are the text of some lexemes where every
text that breaks them off goes on with its own tokens (`Token.Lexes`); the literal of a value that
a text can say at all is the text of lexemes that the grammar reads as the value
(`FilterValue.exists_lexemes`), so a comparison with a literal is read as the comparison with its
value (`read_comparison_literal`).
-/
namespace VectorStore
open Text

/-! ## Characters of lexemes -/

theorem takeWhile_append_of_breaks {word : Char → Bool} {cs rest : List Char}
    (each : ∀ c ∈ cs, word c = true) (breaks : Breaks word rest) :
    (cs ++ rest).takeWhile word = cs := by
  rw [List.takeWhile_append_of_pos each]
  cases rest with
  | nil => simp
  | cons c rest => simp [breaks.head]

theorem toNat_of_isAlphanum {c : Char} (part : c.isAlphanum = true) :
    0x21 ≤ c.toNat ∧ c.toNat < 0x80 := by
  simp only [Char.isAlphanum, Char.isAlpha, Char.isUpper, Char.isLower, Char.isDigit,
    Bool.or_eq_true, Bool.and_eq_true, decide_eq_true_eq, ge_iff_le, UInt32.le_iff_toNat_le]
    at part
  change ((65 ≤ c.toNat ∧ c.toNat ≤ 90) ∨ 97 ≤ c.toNat ∧ c.toNat ≤ 122) ∨
    48 ≤ c.toNat ∧ c.toNat ≤ 57 at part
  omega

theorem not_isBlank_of_toNat {c : Char} (bounds : 0x21 ≤ c.toNat ∧ c.toNat < 0x80) :
    isBlank c = false := by
  simp only [isBlank, Bool.or_eq_false_iff, Bool.and_eq_false_iff, decide_eq_false_iff_not,
    beq_eq_false_iff_ne]
  omega

namespace Lexeme

/-- The characters that begin neither a number nor a word. -/
def marks : List Char := ['(', ')', '[', ']', ',', '=', '!', '<', '>', '&', '|', '\x27', '"']

theorem starts_of_mem_marks :
    ∀ c ∈ marks, isNumberStart c = false ∧ isIdentStart c = false := by
  simp [marks, isNumberStart, isIdentStart]

theorem ofChars_of_not_mem_marks {c : Char} (plain : c ∉ marks) (rest : List Char) :
    ofChars c rest =
      if isNumberStart c then
        .ok (.number (String.ofList (c :: rest.takeWhile isNumberPart)),
          (rest.takeWhile isNumberPart).length)
      else if isWordStart c then
        .ok (ofWord (String.ofList (c :: rest.takeWhile isWordPart)),
          (rest.takeWhile isWordPart).length)
      else .error (.unexpectedCharacter c) := by
  simp only [marks, List.mem_cons, List.not_mem_nil, or_false, not_or] at plain
  simp only [ofChars, plain, or_self, if_false]

section
variable {c : Char} {cs rest : List Char}

theorem isNumberPart_of_isScalarPart (part : isScalarPart c = true) : isNumberPart c = true := by
  simp only [isScalarPart, isNumberPart, Bool.or_eq_true] at *
  tauto

theorem not_isBlank_of_isNumberStart (start : isNumberStart c = true) : isBlank c = false := by
  simp only [isNumberStart, Bool.or_eq_true, beq_iff_eq] at start
  obtain ((digit | rfl) | rfl) | rfl := start
  · exact not_isBlank_of_toNat (toNat_of_isAlphanum (by simp [Char.isAlphanum, digit]))
  all_goals decide

theorem ofChars_number (start : isNumberStart c = true) (each : ∀ d ∈ cs, isNumberPart d = true)
    (breaks : Breaks isNumberPart rest) :
    ofChars c (cs ++ rest) = .ok (.number (String.ofList (c :: cs)), cs.length) := by
  have plain : c ∉ marks := fun mark => by
    rw [(starts_of_mem_marks c mark).1] at start
    contradiction
  rw [ofChars_of_not_mem_marks plain, if_pos start, takeWhile_append_of_breaks each breaks]

theorem not_isBlank_of_isIdentStart (start : isIdentStart c = true) : isBlank c = false := by
  simp only [isIdentStart, Bool.or_eq_true, beq_iff_eq] at start
  rcases start with letter | rfl
  · exact not_isBlank_of_toNat (toNat_of_isAlphanum (by simp [Char.isAlphanum, letter]))
  · decide

theorem not_isNumberStart_of_isIdentStart (start : isIdentStart c = true) :
    isNumberStart c = false := by
  by_contra number
  simp only [isNumberStart, Bool.not_eq_false, Bool.or_eq_true, beq_iff_eq] at number
  obtain ((digit | rfl) | rfl) | rfl := number
  · simp only [isIdentStart, Bool.or_eq_true, beq_iff_eq] at start
    rcases start with letter | rfl
    · grind [Char.isAlpha, Char.isUpper, Char.isLower, Char.isDigit]
    · contradiction
  all_goals contradiction

theorem isWordPart_of_isIdentPart (part : isIdentPart c = true) : isWordPart c = true := by
  simp only [isIdentPart, Bool.or_eq_true, beq_iff_eq] at part
  rcases part with letter | rfl
  · have small := (toNat_of_isAlphanum letter).2
    simp only [Char.isAlphanum, Bool.or_eq_true] at letter
    simp only [isWordPart, isLetter, isNumber, small, if_true, Bool.or_eq_true]
    exact .inl (.inl letter)
  · decide

theorem isWordStart_of_isIdentStart (start : isIdentStart c = true) : isWordStart c = true := by
  simp only [isIdentStart, Bool.or_eq_true, beq_iff_eq] at start
  rcases start with letter | rfl
  · have small := (toNat_of_isAlphanum (c := c) (by simp [Char.isAlphanum, letter])).2
    simp only [isWordStart, isLetter, small, if_true, letter, Bool.true_or]
  · decide

theorem ofChars_word (start : isIdentStart c = true) (each : ∀ d ∈ cs, isIdentPart d = true)
    (breaks : Breaks isWordPart rest) :
    ofChars c (cs ++ rest) = .ok (ofWord (String.ofList (c :: cs)), cs.length) := by
  have plain : c ∉ marks := fun mark => by
    rw [(starts_of_mem_marks c mark).2] at start
    contradiction
  have number : ¬ isNumberStart c = true := by simp [not_isNumberStart_of_isIdentStart start]
  rw [ofChars_of_not_mem_marks plain, if_neg number, if_pos (isWordStart_of_isIdentStart start),
    takeWhile_append_of_breaks (fun d member => isWordPart_of_isIdentPart (each d member)) breaks]

end

/-- A text is read back from between quotes. -/
theorem quotedText?_escapeQuoted (cs rest : List Char) :
    quotedText? '\x27' (escapeQuoted cs ++ '\x27' :: rest) =
      some (cs, (escapeQuoted cs).length + 1) := by
  induction cs with
  | nil => rfl
  | cons c cs ih =>
    rw [escapeQuoted]
    split
    · rw [List.cons_append, List.cons_append, quotedText?, ih]
      rfl
    next plain =>
      rw [not_or] at plain
      rw [List.cons_append, quotedText?.eq_4 _ _ _ (by simp [plain.1]) (by simp [plain.1]),
        if_neg plain.2, ih]
      rfl

theorem ofChars_quoted {rest text : List Char} {n : Nat}
    (read : quotedText? '\x27' rest = some (text, n)) :
    ofChars '\x27' rest = .ok (.quoted (String.ofList text), n) := by
  simp [ofChars, read]

end Lexeme

namespace Token

/-- The characters of a token are skipped. -/
theorem scan_append (cs : List Char) (offset : Nat) (rest : List Char) :
    scan cs.length offset (cs ++ rest) = scan 0 (offset + (cs.map Char.utf8Size).sum) rest := by
  induction cs generalizing offset with
  | nil => rfl
  | cons c cs ih =>
    rw [List.cons_append, List.length_cons, scan, ih, List.map_cons, List.sum_cons, Nat.add_assoc]

/-- Characters that are the text of some lexemes, wherever they stand, if what follows breaks a
class of characters off. -/
def Lexes (word : Char → Bool) (cs : List Char) (ls : List Lexeme) : Prop :=
  ∀ rest, Breaks word rest → ∀ offset, ∃ tokens offset', tokens.map (·.lexeme) = ls ∧
    ∀ more, scan 0 offset' rest = .ok more → scan 0 offset (cs ++ rest) = .ok (tokens ++ more)

namespace Lexes
variable {word word' : Char → Bool} {cs ds : List Char} {ls ms : List Lexeme}

theorem blank {c : Char} (blank : isBlank c = true) : Lexes nowhere [c] [] := by
  intro rest _ offset
  refine ⟨[], offset + c.utf8Size, rfl, fun more scanned => ?_⟩
  rw [List.singleton_append, scan, if_pos blank, scanned]
  rfl

theorem one {c : Char} {l : Lexeme} (solid : isBlank c = false)
    (reads : ∀ rest, Breaks word rest → Lexeme.ofChars c (cs ++ rest) = .ok (l, cs.length)) :
    Lexes word (c :: cs) [l] := by
  intro rest breaks offset
  refine ⟨[⟨l, offset⟩], offset + c.utf8Size + (cs.map Char.utf8Size).sum, rfl,
    fun more scanned => ?_⟩
  rw [List.cons_append, scan, if_neg (by simp [solid]), reads rest breaks]
  simp only [scan_append, scanned]
  rfl

theorem append (first : Lexes word cs ls) (second : Lexes word' ds ms)
    (breaks : ∀ rest, Breaks word' rest → Breaks word (ds ++ rest)) :
    Lexes word' (cs ++ ds) (ls ++ ms) := by
  intro rest after offset
  obtain ⟨tokens, between, rfl, reads⟩ := first (ds ++ rest) (breaks rest after) offset
  obtain ⟨tokens', offset', rfl, reads'⟩ := second rest after between
  refine ⟨tokens ++ tokens', offset', List.map_append, fun more scanned => ?_⟩
  rw [List.append_assoc, reads _ (reads' more scanned), List.append_assoc]

theorem mono (within : ∀ c, word c = true → word' c = true) (lexes : Lexes word cs ls) :
    Lexes word' cs ls :=
  fun rest breaks => lexes rest (breaks.mono within)

/-- Nothing has to break off characters that end a token of their own. -/
theorem before (first : Lexes nowhere cs ls) (second : Lexes word ds ms) :
    Lexes word (cs ++ ds) (ls ++ ms) :=
  first.append second fun _ _ _ _ => rfl

theorem ofText (lexes : Lexes word cs ls) :
    ∃ tokens, Token.ofText (String.ofList cs) = .ok tokens ∧ tokens.map (·.lexeme) = ls := by
  obtain ⟨tokens, offset', same, reads⟩ := lexes [] (breaks_nil word) 0
  refine ⟨tokens, ?_, same⟩
  have read := reads [] rfl
  rw [List.append_nil, List.append_nil] at read
  rw [Token.ofText, String.toList_ofList, read]

/-! ### Tokens of literals -/

theorem openBracket : Lexes nowhere ['['] [.openBracket] := one (by decide) fun _ _ => rfl

theorem closeBracket : Lexes nowhere [']'] [.closeBracket] := one (by decide) fun _ _ => rfl

theorem comma : Lexes nowhere [','] [.comma] := one (by decide) fun _ _ => rfl

theorem equals : Lexes nowhere ['=', '='] [.comparison .eq] := one (by decide) fun _ _ => rfl

theorem number {text : String} (starts : Starts Lexeme.isNumberStart text)
    (each : ∀ c ∈ text.toList, Lexeme.isNumberPart c = true) :
    Lexes Lexeme.isNumberPart text.toList [.number text] := by
  obtain ⟨c, first, start⟩ := starts
  obtain ⟨cs, split⟩ := List.head?_eq_some_iff.mp first
  rw [split] at each
  rw [← String.ofList_toList (s := text), split, String.toList_ofList]
  exact one (Lexeme.not_isBlank_of_isNumberStart start) fun rest breaks =>
    Lexeme.ofChars_number start (fun d member => each d (List.mem_cons_of_mem _ member)) breaks

theorem identifier {text : String} (valid : isIdentifier text = true) :
    Lexes Lexeme.isWordPart text.toList [.ofWord text] := by
  obtain ⟨c, first, start⟩ := starts_identifier valid
  obtain ⟨cs, split⟩ := List.head?_eq_some_iff.mp first
  have each := RecordId.isIdentPart_of_mem ⟨text, valid⟩
  rw [split] at each
  rw [← String.ofList_toList (s := text), split, String.toList_ofList]
  exact one (Lexeme.not_isBlank_of_isIdentStart start) fun rest breaks =>
    Lexeme.ofChars_word start (fun d member => each d (List.mem_cons_of_mem _ member)) breaks

theorem quoteText (s : String) : Lexes nowhere (quoteText s).toList [.quoted s] := by
  have written : (VectorStore.quoteText s).toList =
      '\x27' :: (escapeQuoted s.toList ++ ['\x27']) := by
    simp [VectorStore.quoteText]
  rw [written]
  refine one (by decide) fun rest _ => ?_
  rw [List.append_assoc, List.singleton_append,
    Lexeme.ofChars_quoted (Lexeme.quotedText?_escapeQuoted ..), String.ofList_toList]
  simp

end Lexes
end Token

/-! ## Numbers -/

theorem readInteger?_integerText {n : Int} (fits : fitsSigned n = true) :
    readInteger? (integerText n).toList = some n := by
  have value : (if n < 0 then -(n.natAbs : Int) else n.natAbs) = n := by
    split_ifs <;> omega
  rw [readInteger?, splitSign_integerText]
  simp only [readDigits?_toDigits, decide_eq_true_eq, value, fits, if_true]

section
variable {x : Float} (finite : doubleFinite x = true)
include finite

/-- A finite double is written with a digit first, after a minus sign perhaps, and not with digits
alone. -/
theorem exists_digits_double : ∃ c rest, (Layout.literal.double x).toList =
      (if doubleNegative x then ['-'] else []) ++ c :: rest ∧ c.isDigit = true ∧
    ∃ d ∈ c :: rest, d.isDigit = false := by
  have small : doubleCode x < binary64.ceiling := of_decide_eq_true finite
  obtain ⟨d, member, notSign, notDigit⟩ := exists_mem_double (l := .literal) rfl x
  rcases Layout.literal.double_cases x with ⟨nan, -⟩ | ⟨infinite, -⟩ | ⟨-, text⟩
  · omega
  · omega
  · obtain ⟨c, rest, begins, digit⟩ :=
      (readDecimal?_decimal .literal (natAbs_place_shortest_le small)).2
    rw [begins] at text
    refine ⟨c, rest, text, digit, d, ?_, notDigit⟩
    rw [text] at member
    rcases List.mem_append.mp member with sign | member
    · split at sign <;> simp_all
    · exact member

/-- No double is read as an integer. -/
theorem readInteger?_double : readInteger? (Layout.literal.double x).toList = none := by
  obtain ⟨c, rest, text, digit, d, member, notDigit⟩ := exists_digits_double finite
  have unreadable : readDigits? (c :: rest) = none := by
    refine if_neg fun digits => ?_
    have isDigit := List.all_eq_true.mp digits.2 d member
    rw [notDigit] at isDigit
    contradiction
  rw [readInteger?, text, splitSign_of_digit _ _ digit]
  simp only [unreadable]

end

namespace Token.Lexes

/-- Digits, perhaps after a minus sign, begin a number. -/
theorem signed {text : String} {negative : Bool} {c : Char} {rest : List Char}
    (written : text.toList = (if negative then ['-'] else []) ++ c :: rest)
    (digit : c.isDigit = true) (each : ∀ d ∈ text.toList, isScalarPart d = true) :
    Lexes Lexeme.isNumberPart text.toList [.number text] := by
  refine number ?_ fun d member => Lexeme.isNumberPart_of_isScalarPart (each d member)
  cases negative with
  | true => exact ⟨'-', by rw [written]; rfl, by decide⟩
  | false => exact ⟨c, by rw [written]; rfl, by simp [Lexeme.isNumberStart, digit]⟩

theorem integerText (n : Int) :
    Lexes Lexeme.isNumberPart (integerText n).toList [.number (integerText n)] := by
  obtain ⟨c, rest, split, digits⟩ := exists_toDigits_cons n.natAbs
  have written := toList_integerText n
  rw [split] at written
  exact signed written (digits c List.mem_cons_self) (JsonNumber.isScalarPart_of_mem_text (.int n))

theorem double {x : Float} (finite : doubleFinite x = true) :
    Lexes Lexeme.isNumberPart (Layout.literal.double x).toList
      [.number (Layout.literal.double x)] := by
  obtain ⟨c, rest, written, digit, -⟩ := exists_digits_double finite
  exact signed written digit (isScalarPart_of_mem_double .literal x)

end Token.Lexes

/-! ## Values -/

/-- The characters that go on a number or a word. -/
def Lexeme.isPart (c : Char) : Bool := isNumberPart c || isWordPart c

theorem Lexeme.isPart_of_isNumberPart (c : Char) (part : isNumberPart c = true) :
    isPart c = true := by
  rw [isPart, part, Bool.true_or]

theorem Lexeme.isPart_of_isWordPart (c : Char) (part : isWordPart c = true) :
    isPart c = true := by
  rw [isPart, part, Bool.or_true]

namespace FilterValue
open Grammar Token

mutual
/-- Whether a text can say a value: at every depth integers are signed 64-bit ones, doubles are
finite, lists are not empty, and there are no instants. -/
def textual : FilterValue → Bool
  | .bool _ | .text _ => true
  | .int n => fitsSigned n
  | .float x => doubleFinite x
  | .instant _ => false
  | .list items => !items.isEmpty && textualIn items
def textualIn : List FilterValue → Bool
  | [] => true
  | v :: rest => textual v && textualIn rest
end

mutual
/-- How deep lists are nested in a value. -/
def nesting : FilterValue → Nat
  | .list items => nestingIn items + 1
  | _ => 0
def nestingIn : List FilterValue → Nat
  | [] => 0
  | v :: rest => max (nesting v) (nestingIn rest)
end

/-- What stands behind an item breaks off its literal. -/
theorem breaks_isPart_behind (items : List FilterValue) (rest : List Char) :
    Breaks Lexeme.isPart (Delimited.behind "," spelling [']'] items ++ rest) := by
  cases items <;> (rintro c ⟨⟩; decide)

mutual
/-- The literal of a value is the text of lexemes that are read as the value. -/
theorem exists_lexemes : (v : FilterValue) → (room : Nat) → v.textual = true →
    v.nesting ≤ room → ∃ ls, Value room ls v ∧ Lexes Lexeme.isPart v.spelling.toList ls
  | .bool true, _, _, _ =>
    ⟨_, .simple (.true rfl), (Lexes.identifier (by decide)).mono Lexeme.isPart_of_isWordPart⟩
  | .bool false, _, _, _ =>
    ⟨_, .simple (.false rfl), (Lexes.identifier (by decide)).mono Lexeme.isPart_of_isWordPart⟩
  | .int n, _, textual, _ =>
    ⟨_, .simple (.int (readInteger?_integerText textual)),
      (Lexes.integerText n).mono Lexeme.isPart_of_isNumberPart⟩
  | .float x, _, textual, _ =>
    ⟨_, .simple (.float (readInteger?_double textual) (readDouble?_double .literal x) textual),
      (Lexes.double textual).mono Lexeme.isPart_of_isNumberPart⟩
  | .text s, _, _, _ => ⟨_, .simple (.text s), (Lexes.quoteText s).mono (by rintro _ ⟨⟩)⟩
  | .instant _, _, textual, _ => by contradiction
  | .list [], _, textual, _ => by contradiction
  | .list (v :: rest), room, textual, nested => by
    rw [FilterValue.textual, textualIn, Bool.and_eq_true, Bool.and_eq_true] at textual
    rw [nesting, nestingIn] at nested
    obtain ⟨room, rfl⟩ : ∃ n, room = n + 1 := ⟨room - 1, by omega⟩
    obtain ⟨ls, value, first⟩ := exists_lexemes v room textual.2.1 (by omega)
    obtain ⟨ms, read, later⟩ := exists_lexemes_behind rest room textual.2.2 (by omega)
      (.one value)
    refine ⟨_, .listing (.brackets read), ?_⟩
    have written : (list (v :: rest)).spelling.toList =
        ['['] ++ (v.spelling.toList ++ Delimited.behind "," spelling [']'] rest) := by
      rw [spelling, spellings_eq_map, String.toList_append, String.toList_append,
        List.append_assoc, ← Delimited.toList_joinWith]
      rfl
    have within := first.append later fun after _ => breaks_isPart_behind rest after
    rw [written]
    simpa using (Lexes.openBracket.before within).mono (by rintro _ ⟨⟩)
/-- Items behind others. The grammar reads lists from the left, so those before are carried on. -/
theorem exists_lexemes_behind : (items : List FilterValue) → (room : Nat) →
    textualIn items = true → nestingIn items ≤ room →
    ∀ {earlier : List FilterValue} {ls : List Lexeme}, Items room ls earlier →
      ∃ ms, Items room (ls ++ ms) (earlier ++ items) ∧
        Lexes nowhere (Delimited.behind "," spelling [']'] items) (ms ++ [.closeBracket])
  | [], _, _, _, _, _, read => ⟨[], by simpa using read, Lexes.closeBracket⟩
  | v :: rest, room, textual, nested, _, _, read => by
    rw [textualIn, Bool.and_eq_true] at textual
    rw [nestingIn] at nested
    obtain ⟨vs, value, first⟩ := exists_lexemes v room textual.1 (by omega)
    obtain ⟨ms, read, later⟩ := exists_lexemes_behind rest room textual.2 (by omega)
      (read.more value)
    refine ⟨.comma :: (vs ++ ms), by simpa using read, ?_⟩
    rw [Delimited.behind]
    simpa using Lexes.comma.before
      (first.append later fun after _ => breaks_isPart_behind rest after)
end

end FilterValue

/-- A value that a text can say is read back from its literal, behind a key that is no joiner and
no negation in any case of its letters. -/
theorem read_comparison_literal {key : String} {v : FilterValue} (plain : isIdentifier key = true)
    (free : ∀ keyword ∈ ["and", "or", "not"], equalsIgnoringCase key keyword = false)
    (textual : v.textual = true) (nested : v.nesting ≤ nestingLimit) :
    ∃ literal, v.literal = .ok literal ∧
      Filter.read (key ++ " == " ++ literal) = .ok (.comparison .eq key v) := by
  obtain ⟨ls, value, lexes⟩ := v.exists_lexemes nestingLimit textual nested
  obtain ⟨literal, written⟩ := value.exists_literal
  obtain rfl := v.literal_eq_ok written
  refine ⟨v.spelling, written, ?_⟩
  have isWord : Lexeme.ofWord key = .word key := by
    simp [Lexeme.ofWord, free]
  have between : Token.Lexes nowhere " == ".toList [.comparison .eq] :=
    .before (.blank rfl) (.before .equals (.blank rfl))
  have text := (Token.Lexes.identifier plain).append (between.before lexes) fun after _ => by
    rintro c ⟨⟩
    rfl
  obtain ⟨tokens, tokenized, lexemes⟩ := text.ofText
  have same : String.ofList (key.toList ++ (" == ".toList ++ v.spelling.toList)) =
      key ++ " == " ++ v.spelling := by
    simp [← String.toList_inj]
  rw [same] at tokenized
  rw [Filter.read_iff tokenized, lexemes, isWord]
  exact ⟨_, .one (.one (.primary (.comparison (.word key) rfl value))), rfl⟩

/-- Quotes, backslashes and operators in a text, the least integer, negative zero and an exponent,
in nested lists. -/
theorem read_comparison_nested_literals :
    ∃ literal, (FilterValue.list [.text "it's \\ [a] && not 1", .list [.int (-signedBound),
        .list [.float (double true 0), .float (double false 1)]], .bool true]).literal =
        .ok literal ∧
      Filter.read ("In" ++ " == " ++ literal) = .ok (.comparison .eq "In" (.list
        [.text "it's \\ [a] && not 1", .list [.int (-signedBound),
          .list [.float (double true 0), .float (double false 1)]], .bool true])) :=
  read_comparison_literal (by decide) (by decide) (by decide +kernel) (by decide)

end VectorStore
