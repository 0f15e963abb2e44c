import VectorStore.Proofs.Filter.ReadBack

/-!
What the tokens of a filter text stand for. A text that has tokens falls into slices, one for each
token, with nothing but blanks outside of them (`Token.Covers`), and every lexeme is the meaning of
its slice (`Lexeme.Means`). A text that has none is refused at one of its characters
(`Token.ofText_covers`).
-/
namespace VectorStore
open Text

/-- The bytes of characters. -/
def byteWidth (cs : List Char) : Nat := (cs.map Char.utf8Size).sum

@[simp] theorem byteWidth_nil : byteWidth [] = 0 := rfl

@[simp] theorem byteWidth_cons (c : Char) (cs : List Char) :
    byteWidth (c :: cs) = c.utf8Size + byteWidth cs := rfl

@[simp] theorem byteWidth_append (cs cs' : List Char) :
    byteWidth (cs ++ cs') = byteWidth cs + byteWidth cs' := by
  simp [byteWidth]

@[simp] theorem byteWidth_toList (text : String) : byteWidth text.toList = text.utf8ByteSize := by
  generalize same : text.toList = cs
  obtain rfl : text = String.ofList cs := by rw [← same, String.ofList_toList]
  clear same
  induction cs with
  | nil => rfl
  | cons c cs ih =>
    rw [String.ofList_cons, String.utf8ByteSize_append, String.utf8ByteSize_singleton, ← ih]
    rfl

section
variable {text : String} {before after : List Char}

theorem isValid_of_split (split : text.toList = before ++ after) :
    String.Pos.Raw.IsValid text ⟨byteWidth before⟩ := by
  refine String.Pos.Raw.isValid_iff_exists_append.mpr
    ⟨String.ofList before, String.ofList after, ?_, ?_⟩
  · rw [← String.toList_inj, split]
    simp
  · rw [← @String.toList_ofList before, byteWidth_toList, String.toList_ofList]
    rfl

/-- No character stands behind the last one. -/
theorem exists_last_of_split {c : Char} (split : text.toList = before ++ c :: after) :
    ∃ init last, text = init ++ String.singleton last ∧
      byteWidth before ≤ init.utf8ByteSize := by
  obtain ⟨init, last, ends⟩ := List.eq_nil_or_concat (c :: after) |>.resolve_left nofun
  refine ⟨String.ofList (before ++ init), last, ?_, ?_⟩
  · rw [← String.toList_inj, split, ends]
    simp
  · rw [← byteWidth_toList, String.toList_ofList, byteWidth_append]
    exact Nat.le_add_right ..

end

namespace Lexeme

/-! ## The meaning of a slice -/

/-- What stands between quotes, and the text it says: a backslash gives the character behind it,
and only there the quote may stand. -/
inductive Unescapes (quote : Char) : List Char → List Char → Prop
  | nil : Unescapes quote [] []
  | plain {c : Char} {body text : List Char} (noBackslash : c ≠ '\\') (noQuote : c ≠ quote)
      (rest : Unescapes quote body text) : Unescapes quote (c :: body) (c :: text)
  | escaped {c : Char} {body text : List Char} (rest : Unescapes quote body text) :
      Unescapes quote ('\\' :: c :: body) (c :: text)

/-- The symbol that spells a lexeme. -/
def symbol? : Lexeme → Option String
  | .openParen => some "("
  | .closeParen => some ")"
  | .openBracket => some "["
  | .closeBracket => some "]"
  | .comma => some ","
  | .comparison .eq => some "=="
  | .comparison .ne => some "!="
  | .comparison .lt => some "<"
  | .comparison .lte => some "<="
  | .comparison .gt => some ">"
  | .comparison .gte => some ">="
  | .and => some "&&"
  | .or => some "||"
  | .not => some "!"
  | _ => none

/-- The keyword that spells a lexeme in any case of its letters. -/
def keyword? : Lexeme → Option String
  | .and => some "and"
  | .or => some "or"
  | .not => some "not"
  | _ => none

/-- A slice of a filter text and the lexeme that it means. -/
inductive Means (slice : String) : Lexeme → Prop
  | symbol {lexeme : Lexeme} (spells : lexeme.symbol? = some slice) : Means slice lexeme
  | keyword {lexeme : Lexeme} {keyword : String} (spells : lexeme.keyword? = some keyword)
      (same : equalsIgnoringCase slice keyword = true) : Means slice lexeme
  | word (starts : Starts isWordStart slice) (each : ∀ c ∈ slice.toList, isWordPart c = true)
      (free : ∀ keyword ∈ ["and", "or", "not"], equalsIgnoringCase slice keyword = false) :
      Means slice (.word slice)
  | number (starts : Starts isNumberStart slice)
      (each : ∀ c ∈ slice.toList, isNumberPart c = true) : Means slice (.number slice)
  | quoted {quote : Char} {body : List Char} {text : String} (isQuote : quote ∈ ['\x27', '"'])
      (between : slice.toList = quote :: (body ++ [quote]))
      (unescapes : Unescapes quote body text.toList) : Means slice (.quoted text)

/-- What follows a lexeme: words and numbers go on for as long as they can. -/
def EndsBefore (rest : List Char) : Lexeme → Prop
  | .word _ => Breaks isWordPart rest
  | .number _ => Breaks isNumberPart rest
  | _ => True

theorem unescapes_of_quotedText? {quote : Char} {rest text : List Char} {n : Nat}
    (read : quotedText? quote rest = some (text, n)) : ∃ body after,
      rest = body ++ quote :: after ∧ n = body.length + 1 ∧ Unescapes quote body text := by
  fun_induction quotedText? quote rest generalizing text n with
  | case1 => cases read
  | case2 => cases read
  | case3 c rest ih =>
    obtain ⟨⟨later, m⟩, readLater, same⟩ := Option.map_eq_some_iff.mp read
    cases same
    obtain ⟨body, after, rfl, rfl, unescapes⟩ := ih readLater
    exact ⟨'\\' :: c :: body, after, rfl, rfl, .escaped unescapes⟩
  | case4 rest notAlone notEscape =>
    cases read
    exact ⟨[], rest, rfl, rfl, .nil⟩
  | case5 c rest notAlone notEscape noQuote ih =>
    obtain ⟨⟨later, m⟩, readLater, same⟩ := Option.map_eq_some_iff.mp read
    cases same
    obtain ⟨body, after, rfl, rfl, unescapes⟩ := ih readLater
    refine ⟨c :: body, after, rfl, rfl, .plain ?_ noQuote unescapes⟩
    -- a backslash has a character behind it, which is an escape
    rintro rfl
    cases body with
    | nil => exact notEscape _ _ rfl rfl
    | cons d body => exact notEscape _ _ rfl rfl

/-- A lexeme, and the number of characters that it takes of a text behind its first one. -/
def Takes (c : Char) (rest : List Char) (lexeme : Lexeme) (n : Nat) : Prop :=
  ∃ cs after, rest = cs ++ after ∧ n = cs.length ∧ Means (String.ofList (c :: cs)) lexeme ∧
    lexeme.EndsBefore after

section
variable {c : Char} {rest : List Char} {lexeme : Lexeme} {n : Nat}

theorem takes_one (spells : lexeme.symbol? = some (String.ofList [c])) : Takes c rest lexeme 0 :=
  ⟨[], rest, rfl, rfl, .symbol spells, by cases lexeme <;> trivial⟩

theorem takes_of_ok {l : Lexeme} (spells : l.symbol? = some (String.ofList [c]))
    (read : (.ok (l, 0) : Except SyntaxFault (Lexeme × Nat)) = .ok (lexeme, n)) :
    Takes c rest lexeme n := by
  cases read
  exact takes_one spells

theorem takes_two {d : Char} (next : rest.head? = some d)
    (spells : lexeme.symbol? = some (String.ofList [c, d])) : Takes c rest lexeme 1 := by
  obtain ⟨after, rfl⟩ := List.head?_eq_some_iff.mp next
  exact ⟨[d], after, rfl, rfl, .symbol spells, by cases lexeme <;> trivial⟩

/-- A symbol that is an error where it stands alone. -/
theorem takes_two_of_ite {l : Lexeme} {d : Char} {fault : SyntaxFault} {p : Prop} [Decidable p]
    (next : p → rest.head? = some d) (spells : l.symbol? = some (String.ofList [c, d]))
    (read : (if p then .ok (l, 1) else .error fault) = Except.ok (lexeme, n)) :
    Takes c rest lexeme n := by
  split at read
  next doubled =>
    cases read
    exact takes_two (next doubled) spells
  next => cases read

/-- A symbol that another one begins with. -/
theorem takes_of_ite {one two : Lexeme} (spellsOne : one.symbol? = some (String.ofList [c]))
    (spellsTwo : two.symbol? = some (String.ofList [c, '=']))
    (read : (if rest.head? == some '=' then (two, 1) else (one, 0)) = (lexeme, n)) :
    Takes c rest lexeme n := by
  split at read
  next doubled =>
    cases read
    exact takes_two (beq_iff_eq.mp doubled) spellsTwo
  next =>
    cases read
    exact takes_one spellsOne

theorem takes_quoted (isQuote : c ∈ ['\x27', '"']) {text : List Char}
    (read : quotedText? c rest = some (text, n)) :
    Takes c rest (.quoted (String.ofList text)) n := by
  obtain ⟨body, after, rfl, rfl, unescapes⟩ := unescapes_of_quotedText? read
  refine ⟨body ++ [c], after, by simp, by simp, ?_, trivial⟩
  exact .quoted isQuote String.toList_ofList (by rwa [String.toList_ofList])

theorem takes_of_quote (isQuote : c ∈ ['\x27', '"'])
    (read : ofChars c rest = .ok (lexeme, n)) : Takes c rest lexeme n := by
  have noSymbol : ∀ d ∈ ['(', ')', '[', ']', ',', '=', '!', '<', '>', '&', '|'], c ≠ d := by
    rintro d other rfl
    simp only [List.mem_cons, List.not_mem_nil, or_false] at isQuote
    rcases isQuote with rfl | rfl <;> simp at other
  simp only [List.forall_mem_cons] at noSymbol
  have quote : c = '\x27' ∨ c = '"' := by simpa using isQuote
  simp only [ofChars, noSymbol, quote, or_self, if_false, if_true] at read
  cases scanned : quotedText? c rest with
  | none =>
    rw [scanned] at read
    cases read
  | some found =>
    rw [scanned] at read
    cases read
    exact takes_quoted isQuote scanned

theorem starts_ofList {word : Char → Bool} (first : word c = true) (cs : List Char) :
    Starts word (String.ofList (c :: cs)) :=
  ⟨c, by rw [String.toList_ofList]; rfl, first⟩

theorem forall_mem_ofList_takeWhile {part : Char → Bool} (first : part c = true) :
    ∀ d ∈ (String.ofList (c :: rest.takeWhile part)).toList, part d = true := by
  rw [String.toList_ofList, List.forall_mem_cons]
  exact ⟨first, fun d member => List.mem_takeWhile_imp member⟩

theorem breaks_dropWhile (part : Char → Bool) (cs : List Char) :
    Breaks part (cs.dropWhile part) := by
  intro d first
  have stop := List.head?_dropWhile_not part cs
  rw [Option.mem_def.mp first] at stop
  exact stop

theorem isNumberPart_of_isNumberStart (start : isNumberStart c = true) :
    isNumberPart c = true := by
  simp only [isNumberStart, isNumberPart, Char.isAlphanum, Bool.or_eq_true] at *
  tauto

theorem isWordPart_of_isWordStart (start : isWordStart c = true) : isWordPart c = true := by
  simp only [isWordStart, isWordPart, Bool.or_eq_true] at *
  tauto

theorem takes_number (start : isNumberStart c = true) : Takes c rest
    (.number (String.ofList (c :: rest.takeWhile isNumberPart)))
    (rest.takeWhile isNumberPart).length :=
  ⟨_, _, List.takeWhile_append_dropWhile.symm, rfl,
    .number (starts_ofList start _)
      (forall_mem_ofList_takeWhile (isNumberPart_of_isNumberStart start)),
    breaks_dropWhile isNumberPart rest⟩

/-- A word means a keyword that it spells, and otherwise itself. -/
theorem means_ofWord {text : String} (starts : Starts isWordStart text)
    (each : ∀ c ∈ text.toList, isWordPart c = true) : Means text (ofWord text) := by
  unfold ofWord
  split_ifs with isAnd isOr isNot
  · exact .keyword rfl isAnd
  · exact .keyword rfl isOr
  · exact .keyword rfl isNot
  · exact .word starts each (by simp [isAnd, isOr, isNot])

theorem takes_word (start : isWordStart c = true) : Takes c rest
    (ofWord (String.ofList (c :: rest.takeWhile isWordPart)))
    (rest.takeWhile isWordPart).length := by
  refine ⟨_, _, List.takeWhile_append_dropWhile.symm, rfl,
    means_ofWord (starts_ofList start _)
      (forall_mem_ofList_takeWhile (isWordPart_of_isWordStart start)), ?_⟩
  unfold ofWord
  split_ifs
  · trivial
  · trivial
  · trivial
  · exact breaks_dropWhile isWordPart rest

/-- The characters that a lexeme is read from mean it. -/
theorem takes_of_ofChars (read : ofChars c rest = .ok (lexeme, n)) : Takes c rest lexeme n := by
  by_cases mark : c ∈ marks
  · simp only [marks, List.mem_cons, List.not_mem_nil, or_false] at mark
    obtain rfl | rfl | rfl | rfl | rfl | rfl | rfl | rfl | rfl | rfl | rfl | rfl | rfl := mark
    · exact takes_of_ok rfl read
    · exact takes_of_ok rfl read
    · exact takes_of_ok rfl read
    · exact takes_of_ok rfl read
    · exact takes_of_ok rfl read
    · exact takes_two_of_ite beq_iff_eq.mp rfl read
    · exact takes_of_ite rfl rfl (Except.ok.inj read)
    · exact takes_of_ite rfl rfl (Except.ok.inj read)
    · exact takes_of_ite rfl rfl (Except.ok.inj read)
    · exact takes_two_of_ite id rfl read
    · exact takes_two_of_ite id rfl read
    · exact takes_of_quote (by decide) read
    · exact takes_of_quote (by decide) read
  · rw [ofChars_of_not_mem_marks mark] at read
    split_ifs at read with number word
    · cases read
      exact takes_number number
    · cases read
      exact takes_word word

end
end Lexeme

namespace Token

/-! ## Pieces -/

/-- A token and the slice of the text that it stands for. -/
structure Piece where
  token : Token
  slice : String

namespace Piece

/-- The offset of the first byte behind a piece. -/
def stop (p : Piece) : Nat := p.token.offset + p.slice.utf8ByteSize

/-- A character of a text stands in a piece, if the character is so many bytes in. -/
def Holds (p : Piece) (offset : Nat) : Prop := p.token.offset ≤ offset ∧ offset < p.stop

end Piece

/-- Pieces cover a text: each stands at its offset, a boundary of characters, and is what its
lexeme means; they stand in order and apart from each other, and outside of them stand blanks. -/
structure Covers (text : String) (pieces : List Piece) : Prop where
  boundary : ∀ p ∈ pieces, String.Pos.Raw.IsValid text ⟨p.token.offset⟩
  increasing : pieces.Pairwise fun p q => p.token.offset < q.token.offset
  disjoint : pieces.Pairwise fun p q => p.stop ≤ q.token.offset
  stands : ∀ p ∈ pieces, ∃ before after, text = before ++ p.slice ++ after ∧
    before.utf8ByteSize = p.token.offset ∧ p.token.lexeme.EndsBefore after.toList
  means : ∀ p ∈ pieces, p.token.lexeme.Means p.slice
  blank : ∀ before c after, text = before ++ String.singleton c ++ after →
    (∀ p ∈ pieces, ¬ p.Holds before.utf8ByteSize) → isBlank c = true

/-- The pieces of the characters from an offset on, one behind the other with blanks between. -/
inductive Tiling : Nat → List Char → List Piece → Prop
  | nil (offset : Nat) : Tiling offset [] []
  | blank {offset : Nat} {c : Char} {rest : List Char} {pieces : List Piece}
      (isBlank : isBlank c = true) (later : Tiling (offset + c.utf8Size) rest pieces) :
      Tiling offset (c :: rest) pieces
  | piece {offset : Nat} {c : Char} {cs rest : List Char} {lexeme : Lexeme}
      {pieces : List Piece} (means : Lexeme.Means (String.ofList (c :: cs)) lexeme)
      (ends : lexeme.EndsBefore rest)
      (later : Tiling (offset + byteWidth (c :: cs)) rest pieces) :
      Tiling offset (c :: cs ++ rest) (⟨⟨lexeme, offset⟩, String.ofList (c :: cs)⟩ :: pieces)

/-- The tokens of a scan stand for pieces; a scan without tokens is refused at a character. -/
theorem scan_outcome (offset : Nat) : (cs : List Char) →
    (∃ pieces : List Piece, scan 0 offset cs = .ok (pieces.map (·.token)) ∧
        Tiling offset cs pieces) ∨
      ∃ e before c after, scan 0 offset cs = .error e ∧ cs = before ++ c :: after ∧
        e.offset = offset + byteWidth before
  | [] => .inl ⟨[], rfl, .nil offset⟩
  | c :: rest => by
    by_cases blank : isBlank c = true
    · rw [scan, if_pos blank]
      rcases scan_outcome (offset + c.utf8Size) rest with ⟨pieces, scanned, tiling⟩ |
        ⟨e, before, d, after, scanned, rfl, place⟩
      · exact .inl ⟨pieces, scanned, .blank blank tiling⟩
      · exact .inr ⟨e, c :: before, d, after, scanned, rfl, by simp [place, Nat.add_assoc]⟩
    · cases read : Lexeme.ofChars c rest with
      | error fault =>
        exact .inr ⟨⟨offset, fault⟩, [], c, rest, by rw [scan, if_neg blank, read], rfl, rfl⟩
      | ok found =>
        obtain ⟨lexeme, taken⟩ := found
        obtain ⟨cs, after, rfl, rfl, means, ends⟩ := Lexeme.takes_of_ofChars read
        have width : offset + c.utf8Size + (cs.map Char.utf8Size).sum =
            offset + byteWidth (c :: cs) := Nat.add_assoc ..
        rw [scan, if_neg blank, read]
        dsimp only
        rw [scan_append, width]
        rcases scan_outcome (offset + byteWidth (c :: cs)) after with ⟨pieces, scanned, tiling⟩ |
          ⟨e, before, d, later, scanned, rfl, place⟩
        · exact .inl ⟨_ :: pieces, by rw [scanned]; rfl, .piece means ends tiling⟩
        · refine .inr ⟨e, c :: cs ++ before, d, later, by rw [scanned], by simp, ?_⟩
          rw [place, byteWidth_append, Nat.add_assoc]
termination_by cs => cs.length

namespace Tiling
variable {offset : Nat} {cs : List Char} {pieces : List Piece}

theorem offset_le (tiling : Tiling offset cs pieces) :
    ∀ p ∈ pieces, offset ≤ p.token.offset := by
  induction tiling with
  | nil => nofun
  | blank _ later ih => exact fun p member => by have := ih p member; omega
  | piece _ _ later ih =>
    refine List.forall_mem_cons.mpr ⟨Nat.le_refl _, fun p member => ?_⟩
    have := ih p member
    omega

theorem disjoint (tiling : Tiling offset cs pieces) :
    pieces.Pairwise fun p q => p.stop ≤ q.token.offset := by
  induction tiling with
  | nil => exact .nil
  | blank _ later ih => exact ih
  | piece _ _ later ih =>
    refine List.pairwise_cons.mpr ⟨fun p member => ?_, ih⟩
    have := later.offset_le p member
    rw [Piece.stop, ← byteWidth_toList, String.toList_ofList]
    exact this

theorem means (tiling : Tiling offset cs pieces) : ∀ p ∈ pieces, p.token.lexeme.Means p.slice := by
  induction tiling with
  | nil => nofun
  | blank _ later ih => exact ih
  | piece means _ later ih => exact List.forall_mem_cons.mpr ⟨means, ih⟩

theorem slice_pos (tiling : Tiling offset cs pieces) : ∀ p ∈ pieces, 0 < p.slice.utf8ByteSize := by
  induction tiling with
  | nil => nofun
  | blank _ later ih => exact ih
  | @piece _ c cs _ _ _ _ _ later ih =>
    refine List.forall_mem_cons.mpr ⟨?_, ih⟩
    rw [← byteWidth_toList, String.toList_ofList, byteWidth_cons]
    have := c.utf8Size_pos
    omega

/-- Every piece stands at its offset. -/
theorem stands (tiling : Tiling offset cs pieces) : ∀ p ∈ pieces, ∃ before after,
    cs = before ++ p.slice.toList ++ after ∧ offset + byteWidth before = p.token.offset ∧
      p.token.lexeme.EndsBefore after := by
  induction tiling with
  | nil => nofun
  | @blank _ c _ _ _ later ih =>
    intro p member
    obtain ⟨before, after, rfl, place, ends⟩ := ih p member
    exact ⟨c :: before, after, by simp, by simp [← place, Nat.add_assoc], ends⟩
  | @piece _ c cs _ _ _ _ ends later ih =>
    refine List.forall_mem_cons.mpr ⟨⟨[], _, by simp, rfl, ends⟩, fun p member => ?_⟩
    obtain ⟨before, after, rfl, place, ends⟩ := ih p member
    exact ⟨c :: cs ++ before, after, by simp, by rw [← place, byteWidth_append, Nat.add_assoc],
      ends⟩

/-- What stands in no piece is blank. -/
theorem blank_outside (tiling : Tiling offset cs pieces) {before after : List Char} {d : Char}
    (split : cs = before ++ d :: after)
    (outside : ∀ p ∈ pieces, ¬ p.Holds (offset + byteWidth before)) : isBlank d = true := by
  induction tiling generalizing before with
  | nil => simp at split
  | blank isBlank later ih =>
    cases before with
    | nil =>
      obtain ⟨rfl, -⟩ := List.cons.inj split
      exact isBlank
    | cons c before =>
      obtain ⟨rfl, rest⟩ := List.cons.inj split
      refine ih rest fun p member => ?_
      have := outside p member
      rwa [byteWidth_cons, ← Nat.add_assoc] at this
  | @piece offset c cs rest _ _ means ends later ih =>
    obtain ⟨first, outside⟩ := List.forall_mem_cons.mp outside
    have goesOn {between : List Char} (behind : before = c :: cs ++ between)
        (split : rest = between ++ d :: after) : isBlank d = true := by
      refine ih split fun p member => ?_
      have := outside p member
      rwa [behind, byteWidth_append, ← Nat.add_assoc] at this
    rcases List.append_eq_append_iff.mp split with ⟨between, behind, split⟩ |
      ⟨inside, behind, split⟩
    · exact goesOn behind split
    · cases inside with
      | nil => exact @goesOn [] (by simpa using behind.symm) split.symm
      | cons e inside =>
        -- the piece in front reaches over the character
        refine absurd ⟨Nat.le_add_right .., ?_⟩ first
        have positive := e.utf8Size_pos
        rw [Piece.stop, ← byteWidth_toList, String.toList_ofList, behind, byteWidth_append,
          byteWidth_cons]
        dsimp only
        omega

theorem covers {text : String} (tiling : Tiling 0 text.toList pieces) : Covers text pieces where
  boundary p member := by
    obtain ⟨before, after, split, place, -⟩ := tiling.stands p member
    rw [List.append_assoc] at split
    rw [← place, Nat.zero_add]
    exact isValid_of_split split
  increasing := by
    refine tiling.disjoint.imp_of_mem fun {p q} member _ apart => ?_
    have := tiling.slice_pos p member
    unfold Piece.stop at apart
    omega
  disjoint := tiling.disjoint
  stands p member := by
    obtain ⟨before, after, split, place, ends⟩ := tiling.stands p member
    refine ⟨String.ofList before, String.ofList after, ?_, ?_, ?_⟩
    · rw [← String.toList_inj, split]
      simp
    · rw [← byteWidth_toList, String.toList_ofList, ← place, Nat.zero_add]
    · rwa [String.toList_ofList]
  means := tiling.means
  blank before c after split outside := by
    have chars : text.toList = before.toList ++ c :: after.toList := by
      rw [split]
      simp
    refine tiling.blank_outside chars fun p member => ?_
    rw [Nat.zero_add, byteWidth_toList]
    exact outside p member

end Tiling

/-- The tokens of a text stand for pieces that cover it; a text without tokens is refused at one of
its characters. -/
theorem ofText_covers (text : String) :
    (∀ tokens, ofText text = .ok tokens →
      ∃ pieces : List Piece, pieces.map (·.token) = tokens ∧ Covers text pieces) ∧
    ∀ e, ofText text = .error e → String.Pos.Raw.IsValid text ⟨e.offset⟩ ∧
      ∃ before last, text = before ++ String.singleton last ∧ e.offset ≤ before.utf8ByteSize := by
  rcases scan_outcome 0 text.toList with ⟨pieces, scanned, tiling⟩ |
    ⟨e, before, c, after, refused, split, place⟩
  · constructor
    · intro tokens tokenized
      rw [ofText, scanned] at tokenized
      cases tokenized
      exact ⟨pieces, rfl, tiling.covers⟩
    · intro e refused
      rw [ofText, scanned] at refused
      cases refused
  · constructor
    · intro tokens tokenized
      rw [ofText, refused] at tokenized
      cases tokenized
    · intro e' refused'
      rw [ofText, refused] at refused'
      cases refused'
      rw [place, Nat.zero_add]
      exact ⟨isValid_of_split split, exists_last_of_split split⟩

/-- A letter of two bytes, a keyword in mixed case, a quote behind a backslash, and a number that
ends in its point. -/
def mixedText : String := "é\tNoT in [\"\\\"\" ,-1.]"

def mixedTokens : List Token :=
  [⟨.word "é", 0⟩, ⟨.not, 3⟩, ⟨.word "in", 7⟩, ⟨.openBracket, 10⟩, ⟨.quoted "\"", 11⟩,
    ⟨.comma, 16⟩, ⟨.number "-1.", 17⟩, ⟨.closeBracket, 20⟩]

theorem covered_mixed_and_refused_equals :
    (ofText mixedText = .ok mixedTokens ∧
      ∃ pieces : List Piece, pieces.map (·.token) = mixedTokens ∧ Covers mixedText pieces) ∧
    ofText "é=1" = .error ⟨2, .expectedEquals⟩ ∧ String.Pos.Raw.IsValid "é=1" ⟨2⟩ ∧
      ∃ before last, "é=1" = before ++ String.singleton last ∧ 2 ≤ before.utf8ByteSize := by
  have tokenized : ofText mixedText = .ok mixedTokens := by decide
  have refused : ofText "é=1" = .error ⟨2, .expectedEquals⟩ := by decide
  exact ⟨⟨tokenized, (ofText_covers _).1 _ tokenized⟩, refused,
    (ofText_covers _).2 _ refused⟩

end Token
end VectorStore
