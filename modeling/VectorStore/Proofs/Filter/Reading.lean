import VectorStore.Proofs.Filter.Transitions
import Mathlib

/-!
The places of the reader and what the lexemes before them leave open: every place that the reader
reaches stands for a stack of begun phrases of the grammar (`Reading`), each transition keeps this
(`Advance.reading`), and at a place where nothing is missing the phrases close to a derivation. So
a filter is read exactly from the texts of the grammar, as the tree that the grammar gives them
(`read_eq_ok_iff_disjunction`).
-/
namespace VectorStore
namespace ParseState
open Grammar Text

/-- The lexemes that opened a stack, and the room that they leave inside it. -/
inductive Opened (limit : Nat) : List Frame → Nat → List Lexeme → Prop
  | nil : Opened limit [] limit []
  | negation {stack : List Frame} {room : Nat} {ls : List Lexeme}
      (opened : Opened limit stack (room + 1) ls) :
    Opened limit (.negation :: stack) room (ls ++ [.not])
  | paren {stack : List Frame} {room : Nat} {ls : List Lexeme}
      (opened : Opened limit stack (room + 1) ls) :
    Opened limit (.paren :: stack) room (ls ++ [.openParen])
  | conjunction {stack : List Frame} {room : Nat} {ls us : List Lexeme} {left : Clause}
      {cs : List Comparison} (opened : Opened limit stack room ls)
      (opens : OpensConjunction stack) (read : Conjunction room us left cs) :
    Opened limit (.conjunction left :: stack) room (ls ++ (us ++ [.and]))
  | disjunction {stack : List Frame} {room : Nat} {ls us : List Lexeme} {left : Clause}
      {cs : List Comparison} (opened : Opened limit stack room ls)
      (opens : OpensDisjunction stack) (read : Disjunction room us left cs) :
    Opened limit (.disjunction left :: stack) room (ls ++ (us ++ [.or]))

/-- A key and the operator after it. -/
inductive Head : List Lexeme → String → Operator → Prop
  | comparison {k : Lexeme} {key : String} {op : Operator} (isKey : Key k key)
      (comparator : op.comparator = true) : Head [k, .comparison op] key op
  | membership {k : Lexeme} {key : String} {op : Operator} {spelled : List Lexeme}
      (isKey : Key k key) (membership : Membership spelled op) : Head (k :: spelled) key op

/-- The items of an open list, latest first, each with the comma after it. -/
inductive Pending (room : Nat) : List FilterValue → List Lexeme → Prop
  | none : Pending room [] []
  | some {items : List FilterValue} {ls : List Lexeme} (read : Items room ls items) :
    Pending room items.reverse (ls ++ [.comma])

/-- The lexemes that opened lists, with the room outside and inside them. -/
inductive Brackets (outside : Nat) : Nat → List (List FilterValue) → List Lexeme → Prop
  | nil : Brackets outside outside [] []
  | cons {room : Nat} {lists : List (List FilterValue)} {items : List FilterValue}
      {ls us : List Lexeme} (outer : Brackets outside (room + 1) lists ls)
      (pending : Pending room items us) :
    Brackets outside room (items :: lists) (ls ++ .openBracket :: us)

/-- A place and the lexemes that lead to it. -/
inductive Reading (limit : Nat) : ParseState → List Lexeme → Prop
  | operand {stack : List Frame} {room : Nat} {ls : List Lexeme}
      (opened : Opened limit stack room ls) : Reading limit ⟨stack, .operand⟩ ls
  | operator {stack : List Frame} {room : Nat} {ls : List Lexeme} {k : Lexeme} {key : String}
      (opened : Opened limit stack room ls) (isKey : Key k key) :
    Reading limit ⟨stack, .operator key⟩ (ls ++ [k])
  | membership {stack : List Frame} {room : Nat} {ls : List Lexeme} {k : Lexeme} {key : String}
      (opened : Opened limit stack room ls) (isKey : Key k key) :
    Reading limit ⟨stack, .membership key⟩ (ls ++ [k, .not])
  | value {stack : List Frame} {room : Nat} {ls hs : List Lexeme} {key : String} {op : Operator}
      (opened : Opened limit stack room ls) (head : Head hs key op) :
    Reading limit ⟨stack, .value key op⟩ (ls ++ hs)
  | item {stack : List Frame} {room inside : Nat} {ls hs bs : List Lexeme} {key : String}
      {op : Operator} {innermost : List FilterValue} {outer : List (List FilterValue)}
      (opened : Opened limit stack room ls) (head : Head hs key op)
      (brackets : Brackets room inside (innermost :: outer) bs) :
    Reading limit ⟨stack, .item key op innermost outer⟩ (ls ++ (hs ++ bs))
  | separator {stack : List Frame} {room inside : Nat} {ls hs bs us : List Lexeme} {key : String}
      {op : Operator} {items : List FilterValue} {outer : List (List FilterValue)}
      (opened : Opened limit stack room ls) (head : Head hs key op)
      (brackets : Brackets room (inside + 1) outer bs) (read : Items inside us items) :
    Reading limit ⟨stack, .separator key op items.reverse outer⟩
      (ls ++ (hs ++ (bs ++ .openBracket :: us)))
  | joiner {stack : List Frame} {room : Nat} {ls us : List Lexeme} {c : Clause}
      {cs : List Comparison} (opened : Opened limit stack room ls) (settled : Settled stack)
      (read : Unary room us c cs) :
    Reading limit ⟨stack, .joiner c⟩ (ls ++ us)

section
variable {limit : Nat}

theorem Opened.fits {stack : List Frame} {room : Nat} {ls : List Lexeme}
    (opened : Opened limit stack room ls) : depth stack + room = limit := by
  induction opened with
  | nil => simp [depth]
  | negation _ ih => rw [depth_cons_nests rfl]; omega
  | paren _ ih => rw [depth_cons_nests rfl]; omega
  | conjunction _ _ _ ih => rw [depth_cons_joins rfl]; exact ih
  | disjunction _ _ _ ih => rw [depth_cons_joins rfl]; exact ih

/-- A stack less deep than the limit leaves room. -/
theorem Opened.exists_room {stack : List Frame} {room : Nat} {ls : List Lexeme}
    (opened : Opened limit stack room ls) (less : depth stack < limit) : ∃ n, room = n + 1 :=
  Nat.exists_eq_add_one.mpr (by have := opened.fits; omega)

theorem Brackets.fits {outside room : Nat} {lists : List (List FilterValue)} {ls : List Lexeme}
    (brackets : Brackets outside room lists ls) : lists.length + room = outside := by
  induction brackets with
  | nil => simp
  | cons _ _ ih => simp only [List.length_cons]; omega

/-- A finished operand completes the negations before it. -/
theorem settle_reading {c : Clause} {us : List Lexeme} {cs : List Comparison} {stack : List Frame}
    {room : Nat} {ls : List Lexeme} (opened : Opened limit stack room ls)
    (read : Unary room us c cs) : Reading limit (settle stack c) (ls ++ us) := by
  induction opened generalizing c us with
  | negation opened ih =>
    rw [settle, List.append_assoc]
    exact ih read.not
  | nil => exact .joiner .nil trivial read
  | paren opened => exact .joiner opened.paren trivial read
  | conjunction opened opens left => exact .joiner (opened.conjunction opens left) trivial read
  | disjunction opened opens left => exact .joiner (opened.disjunction opens left) trivial read

/-- A finished value ends the comparison, or is an item of the innermost open list. -/
theorem deliver_reading {stack : List Frame} {room inside : Nat} {ls hs bs vs : List Lexeme}
    {key : String} {op : Operator} {lists : List (List FilterValue)} {v : FilterValue}
    (opened : Opened limit stack room ls) (head : Head hs key op)
    (brackets : Brackets room inside lists bs) (value : Value inside vs v)
    (listed : lists = [] → op.listed = true →
      ∃ items, v = .list items ∧ Listing inside vs items) :
    Reading limit (deliver stack key op v lists) (ls ++ (hs ++ (bs ++ vs))) := by
  cases brackets with
  | nil =>
    have compared : Primary room (hs ++ vs) ⟨false, .comparison op key v⟩ [⟨key, op, v⟩] := by
      cases head with
      | comparison isKey comparator => exact .comparison isKey comparator value
      | membership isKey membership =>
        have takesListing : op.listed = true := by cases membership <;> rfl
        obtain ⟨items, rfl, listing⟩ := listed rfl takesListing
        exact .membership isKey membership listing
    exact settle_reading opened (.primary compared)
  | @cons _ outer items bs us brackets pending =>
    rw [List.append_assoc bs]
    cases pending with
    | none => exact .separator opened head brackets (.one value)
    | @some items us read =>
      have longer := Reading.separator opened head brackets (read.more value)
      rw [List.reverse_append] at longer
      simpa [deliver] using longer

/-- What waits for a finished operand in a conjunction, and the operand, are a conjunction. -/
theorem closeConjunction_reading {stack : List Frame} {room : Nat} {ls us : List Lexeme}
    {c : Clause} {cs : List Comparison} (opened : Opened limit stack room ls)
    (settled : Settled stack) (read : Unary room us c cs) :
    ∃ before vs ds, Opened limit (closeConjunction stack c).1 room before ∧
      OpensConjunction (closeConjunction stack c).1 ∧
      Conjunction room vs (closeConjunction stack c).2 ds ∧ ls ++ us = before ++ vs := by
  cases opened with
  | nil => exact ⟨[], us, cs, .nil, trivial, .one read, rfl⟩
  | negation => exact settled.elim
  | paren opened => exact ⟨_, us, cs, opened.paren, trivial, .one read, rfl⟩
  | @conjunction rest _ before ws left ds opened opens leftRead =>
    exact ⟨before, _, _, opened, opens, leftRead.and read, by simp⟩
  | disjunction opened opens left =>
    exact ⟨_, us, cs, opened.disjunction opens left, trivial, .one read, rfl⟩

/-- What waits for a finished operand in joiners, and the operand, are a disjunction. -/
theorem closeJoiners_reading {stack : List Frame} {room : Nat} {ls us : List Lexeme}
    {c : Clause} {cs : List Comparison} (opened : Opened limit stack room ls)
    (settled : Settled stack) (read : Unary room us c cs) :
    ∃ before vs ds, Opened limit (closeJoiners stack c).1 room before ∧
      OpensDisjunction (closeJoiners stack c).1 ∧
      Disjunction room vs (closeJoiners stack c).2 ds ∧ ls ++ us = before ++ vs := by
  obtain ⟨before, vs, ds, opened, opens, conjunction, same⟩ :=
    closeConjunction_reading opened settled read
  rw [closeJoiners]
  generalize closeConjunction stack c = closed at *
  obtain ⟨rest, d⟩ := closed
  cases opened with
  | nil => exact ⟨[], vs, ds, .nil, trivial, .one conjunction, same⟩
  | negation => exact opens.elim
  | paren opened => exact ⟨_, vs, ds, opened.paren, trivial, .one conjunction, same⟩
  | conjunction => exact opens.elim
  | @disjunction rest _ before ws left es opened opensBelow leftRead =>
    exact ⟨before, _, _, opened, opensBelow, leftRead.or conjunction, by simp [same]⟩

/-- Comparison lexemes carry comparators, as all of a text do. -/
def Lexed (lexeme : Lexeme) : Prop := ∀ op, lexeme = .comparison op → op.comparator = true

/-- Each transition keeps what the places stand for. -/
theorem Advance.reading {s s' : ParseState} {lexeme : Lexeme} {ls : List Lexeme}
    (lexed : Lexed lexeme) (advance : Advance limit s lexeme s') (reading : Reading limit s ls) :
    Reading limit s' (ls ++ [lexeme]) := by
  cases advance with
  | negation room =>
    cases reading with
    | operand opened =>
      obtain ⟨inside, rfl⟩ := opened.exists_room room
      exact .operand opened.negation
  | paren room =>
    cases reading with
    | operand opened =>
      obtain ⟨inside, rfl⟩ := opened.exists_room room
      exact .operand opened.paren
  | key isKey =>
    cases reading with
    | operand opened => exact .operator opened isKey
  | comparison op =>
    cases reading with
    | operator opened isKey =>
      simpa using Reading.value opened (.comparison isKey (lexed op rfl))
  | not =>
    cases reading with
    | operator opened isKey => simpa using Reading.membership opened isKey
  | @word stack key word op spelled =>
    cases reading with
    | operator opened isKey =>
      have membership : Membership [.word word] op := by
        unfold wordOperator? at spelled
        split at spelled
        next isIn => cases spelled; exact .isIn isIn
        next =>
          split at spelled
          next nin => cases spelled; exact .nin nin
          next => cases spelled
      simpa using Reading.value opened (.membership isKey membership)
  | notIn spelled =>
    cases reading with
    | membership opened isKey =>
      simpa using Reading.value opened (.membership isKey (.notIn spelled))
  | value single simple =>
    cases reading with
    | value opened head =>
      simpa using deliver_reading opened head .nil (.simple simple)
        fun _ listed => by simp [single] at listed
  | valueList room =>
    cases reading with
    | value opened head =>
      obtain ⟨inside, rfl⟩ := opened.exists_room room
      simpa using Reading.item opened head (.cons .nil .none)
  | item simple =>
    cases reading with
    | item opened head brackets =>
      simpa using deliver_reading opened head brackets (.simple simple) fun none => by cases none
  | itemList room =>
    cases reading with
    | @item _ outside inside _ _ _ _ _ _ _ opened head brackets =>
      obtain ⟨inside, rfl⟩ : ∃ n, inside = n + 1 := ⟨inside - 1, by
        have := opened.fits
        have := brackets.fits
        simp only [List.length_cons] at this
        omega⟩
      simpa using Reading.item opened head (brackets.cons .none)
  | comma =>
    cases reading with
    | separator opened head brackets read =>
      simpa using Reading.item opened head (brackets.cons (.some read))
  | closeBracket =>
    cases reading with
    | separator opened head brackets read =>
      have listing := Listing.brackets read
      rw [List.reverse_reverse]
      simpa using deliver_reading opened head brackets (.listing listing)
        fun _ _ => ⟨_, rfl, listing⟩
  | and =>
    cases reading with
    | joiner opened settled read =>
      obtain ⟨before, vs, ds, opened, opens, conjunction, same⟩ :=
        closeConjunction_reading opened settled read
      rw [same, List.append_assoc]
      exact .operand (opened.conjunction opens conjunction)
  | or =>
    cases reading with
    | joiner opened settled read =>
      obtain ⟨before, vs, ds, opened, opens, disjunction, same⟩ :=
        closeJoiners_reading opened settled read
      rw [same, List.append_assoc]
      exact .operand (opened.disjunction opens disjunction)
  | closeParen closes =>
    cases reading with
    | joiner opened settled read =>
      obtain ⟨before, vs, ds, opened, -, disjunction, same⟩ :=
        closeJoiners_reading opened settled read
      rw [closes] at opened disjunction
      rw [same]
      cases opened with
      | paren opened =>
        simpa using settle_reading opened (.primary (.group disjunction))

theorem Advances.reading {s s' : ParseState} {ms ls : List Lexeme}
    (lexed : ∀ lexeme ∈ ms, Lexed lexeme) (advances : Advances limit s ms s')
    (reading : Reading limit s ls) : Reading limit s' (ls ++ ms) := by
  induction advances generalizing ls with
  | nil => simpa using reading
  | @cons s s' s'' lexeme ms first later ih =>
    have next := first.reading (lexed lexeme List.mem_cons_self) reading
    simpa using ih (fun l member => lexed l (List.mem_cons_of_mem _ member)) next

/-- Where nothing is missing, the lexemes before are a disjunction. -/
theorem Reading.disjunction {s : ParseState} {ls : List Lexeme} {f : Filter}
    (reading : Reading limit s ls) (finished : s.finish = .ok f) :
    ∃ c cs, Disjunction limit ls c cs ∧ c.filter = f := by
  cases reading with
  | joiner opened settled read =>
    obtain ⟨before, vs, ds, opened, -, disjunction, same⟩ :=
      closeJoiners_reading opened settled read
    simp only [finish] at finished
    split at finished
    next c closed =>
      rw [closed] at opened disjunction
      cases opened
      cases finished
      exact ⟨c, ds, by rw [same]; exact disjunction, rfl⟩
    next => cases finished
  | _ => cases finished

end

/-! ## Texts -/

theorem lexed_ofWord (word : String) : Lexed (Lexeme.ofWord word) := by
  intro op same
  unfold Lexeme.ofWord at same
  split at same
  · cases same
  · split at same
    · cases same
    · split at same <;> cases same

theorem lexed_of_ite {p : Prop} [Decidable p] {yes no : Except SyntaxFault (Lexeme × Nat)}
    {lexeme : Lexeme} {taken : Nat} (ofYes : yes = .ok (lexeme, taken) → Lexed lexeme)
    (ofNo : no = .ok (lexeme, taken) → Lexed lexeme)
    (read : (if p then yes else no) = .ok (lexeme, taken)) : Lexed lexeme := by
  split at read
  · exact ofYes read
  · exact ofNo read

theorem lexed_ofChars {c : Char} {rest : List Char} {lexeme : Lexeme} {taken : Nat}
    (read : Lexeme.ofChars c rest = .ok (lexeme, taken)) : Lexed lexeme := by
  revert read
  unfold Lexeme.ofChars
  dsimp only
  repeat' apply lexed_of_ite
  all_goals
    intro read
    try split at read
    all_goals cases read
    all_goals first
      | exact lexed_ofWord _
      | intro op same; cases same <;> rfl

theorem lexed_scan {skip offset : Nat} {text : List Char} {tokens : List Token}
    (scanned : Token.scan skip offset text = .ok tokens) : ∀ t ∈ tokens, Lexed t.lexeme := by
  induction text generalizing skip offset tokens with
  | nil => cases scanned; simp
  | cons c rest ih =>
    cases skip with
    | succ skip => exact ih scanned
    | zero =>
      unfold Token.scan at scanned
      dsimp only at scanned
      split at scanned
      next => exact ih scanned
      next =>
        split at scanned
        next => cases scanned
        next lexeme taken read =>
          split at scanned
          next => cases scanned
          next later scannedLater =>
            cases scanned
            intro t member
            cases member with
            | head => exact lexed_ofChars read
            | tail _ member => exact ih scannedLater t member

theorem run_start_iff {tokens : List Token} (lexed : ∀ t ∈ tokens, Lexed t.lexeme) (final : Nat)
    (f : Filter) : run final .start tokens = .ok f ↔
      ∃ c, Disjunction nestingLimit (tokens.map (·.lexeme)) c f.comparisons ∧ c.filter = f := by
  rw [run_eq_ok_iff]
  constructor
  · intro ⟨s, advances, finished⟩
    have reading : Reading nestingLimit .start [] := .operand .nil
    have read := advances.reading (by simpa using lexed) reading
    obtain ⟨c, cs, disjunction, rfl⟩ := read.disjunction finished
    rw [disjunction.comparisons]
    exact ⟨c, disjunction, rfl⟩
  · intro ⟨c, disjunction, same⟩
    have fits : depth [] + nestingLimit = nestingLimit := by simp [depth]
    obtain ⟨stack, d, advances, closed⟩ := disjunction_advances fits trivial disjunction
    refine ⟨_, advances, ?_⟩
    simp only [finish]
    rw [closed, ← same]

end ParseState

namespace Filter
open Grammar

/-- A text is read as a filter exactly if it is one. -/
theorem read_iff {text : String} {tokens : List Token} (tokenized : Token.ofText text = .ok tokens)
    (f : Filter) : read text = .ok f ↔
      ∃ c, Disjunction nestingLimit (tokens.map (·.lexeme)) c f.comparisons ∧ c.filter = f := by
  unfold read
  rw [tokenized]
  exact ParseState.run_start_iff (ParseState.lexed_scan tokenized) _ f

theorem tokenized_of_read {text : String} {f : Filter} (written : read text = .ok f) :
    ∃ tokens, Token.ofText text = .ok tokens := by
  unfold read at written
  split at written
  next tokens tokenized => exact ⟨tokens, tokenized⟩
  next => cases written

end Filter

open Grammar in
/-- A text of tokens is read exactly if it is a disjunction of the grammar with room for all that
is open in it at one point; it is read as the tree of the disjunction, which is the same for all
its derivations and has the comparisons of the text in their order. -/
theorem read_eq_ok_iff_disjunction {text : String} {tokens : List Token}
    (tokenized : Token.ofText text = .ok tokens) :
    (∀ f, Filter.read text = .ok f ↔
      ∃ c, Disjunction nestingLimit (tokens.map (·.lexeme)) c f.comparisons ∧ c.filter = f) ∧
    ∀ c d cs ds, Disjunction nestingLimit (tokens.map (·.lexeme)) c cs →
      Disjunction nestingLimit (tokens.map (·.lexeme)) d ds → c.filter = d.filter ∧ cs = ds := by
  refine ⟨Filter.read_iff tokenized, fun c d cs ds left right => ?_⟩
  have ofLeft := left.comparisons
  have ofRight := right.comparisons
  subst ofLeft ofRight
  have readLeft := (Filter.read_iff tokenized _).mpr ⟨c, left, rfl⟩
  have readRight := (Filter.read_iff tokenized _).mpr ⟨d, right, rfl⟩
  have same : c.filter = d.filter := by
    rw [readLeft] at readRight
    exact Except.ok.inj readRight
  exact ⟨same, by rw [same]⟩

/-- Parentheses around a disjunction stay, and those directly under a negation do not. -/
theorem disjunction_of_grouped_or_and_negation :
    ∃ tokens f c, Token.ofText "(a == 1 OR b not in ['x']) and !(c < -3)" = .ok tokens ∧
      f.comparisons =
        [⟨"a", .eq, .int 1⟩, ⟨"b", .notIn, .list [.text "x"]⟩, ⟨"c", .lt, .int (-3)⟩] ∧
      Grammar.Disjunction nestingLimit (tokens.map (·.lexeme)) c f.comparisons ∧ c.filter = f := by
  have tokenized : Token.ofText "(a == 1 OR b not in ['x']) and !(c < -3)" = .ok
      [⟨.openParen, 0⟩, ⟨.word "a", 1⟩, ⟨.comparison .eq, 3⟩, ⟨.number "1", 6⟩, ⟨.or, 8⟩,
        ⟨.word "b", 11⟩, ⟨.not, 13⟩, ⟨.word "in", 17⟩, ⟨.openBracket, 20⟩, ⟨.quoted "x", 21⟩,
        ⟨.closeBracket, 24⟩, ⟨.closeParen, 25⟩, ⟨.and, 27⟩, ⟨.not, 31⟩, ⟨.openParen, 32⟩,
        ⟨.word "c", 33⟩, ⟨.comparison .lt, 35⟩, ⟨.number "-3", 37⟩, ⟨.closeParen, 39⟩] := by
    cbv
  have read : Filter.read "(a == 1 OR b not in ['x']) and !(c < -3)" = .ok (.binary .and
      (.group (.binary .or (.filter (.comparison .eq "a" (.int 1)))
        (.filter (.comparison .notIn "b" (.list [.text "x"])))))
      (.filter (.negation (.comparison .lt "c" (.int (-3)))))) := by
    unfold Filter.read
    rw [tokenized]
    rfl
  obtain ⟨c, disjunction, same⟩ := ((read_eq_ok_iff_disjunction tokenized).1 _).mp read
  exact ⟨_, _, c, tokenized, rfl, disjunction, same⟩

end VectorStore
