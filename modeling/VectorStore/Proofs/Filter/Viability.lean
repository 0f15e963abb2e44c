import VectorStore.Proofs.Filter.Reading

/-!
Where a text stops being the beginning of a filter. Every place that the reader reaches can be
completed to a filter, and a lexeme that is refused there for another reason than its depth is one
after which nothing is a filter (`ParseState.viable_append_iff`). The fault is at this token, except
behind an item of a list, where it is at the token after it (`faultAt_of_refused`).
-/
namespace VectorStore

/-- Lexemes that a filter begins with, however deep it is nested. -/
def Grammar.Viable (ls : List Lexeme) : Prop :=
  ∃ rest room c cs, Disjunction room (ls ++ rest) c cs

theorem Grammar.Viable.of_append {ls ms : List Lexeme} (viable : Viable (ls ++ ms)) :
    Viable ls := by
  obtain ⟨rest, room, c, cs, disjunction⟩ := viable
  exact ⟨ms ++ rest, room, c, cs, by rwa [← List.append_assoc]⟩

namespace ParseState
open Grammar Text

section
variable {limit : Nat}

/-! ## Places can be completed -/

/-- What a phrase of each level makes of the lexemes before it. -/
structure Completes (stack : List Frame) (room : Nat) (ls : List Lexeme) : Prop where
  disjunction : OpensDisjunction stack → ∀ {us c cs}, Disjunction room us c cs → Viable (ls ++ us)
  conjunction : OpensConjunction stack → ∀ {us c cs}, Conjunction room us c cs → Viable (ls ++ us)
  unary : ∀ {us c cs}, Unary room us c cs → Viable (ls ++ us)

/-- A stack on which a disjunction may begin takes every phrase as one. -/
theorem Completes.of_disjunction {stack : List Frame} {room : Nat} {ls : List Lexeme}
    (completes : ∀ {us c cs}, Disjunction room us c cs → Viable (ls ++ us)) :
    Completes stack room ls where
  disjunction _ := completes
  conjunction _ _ _ _ conjunction := completes (.one conjunction)
  unary unary := completes (.one (.one unary))

theorem Opened.completes {stack : List Frame} {room : Nat} {ls : List Lexeme}
    (opened : Opened limit stack room ls) : Completes stack room ls := by
  induction opened with
  | nil =>
    refine .of_disjunction fun {us c cs} disjunction => ⟨[], limit, c, cs, ?_⟩
    rw [List.nil_append, List.append_nil]
    exact disjunction
  | negation opened ih =>
    refine ⟨fun opens => opens.elim, fun opens => opens.elim, fun unary => ?_⟩
    rw [List.append_assoc]
    exact ih.unary unary.not
  | paren opened ih =>
    refine .of_disjunction fun disjunction => ?_
    have closed := ih.unary (.primary (.group disjunction))
    rw [List.append_assoc]
    rw [← List.cons_append, ← List.append_assoc] at closed
    exact closed.of_append
  | conjunction opened opens left ih =>
    refine ⟨fun opens => opens.elim, fun opens => opens.elim, fun unary => ?_⟩
    simpa using ih.conjunction opens (left.and unary)
  | disjunction opened opens left ih =>
    have conjunction {us : List Lexeme} {c : Clause} {cs : List Comparison}
        (right : Conjunction _ us c cs) := ih.disjunction opens (left.or right)
    refine ⟨fun opens => opens.elim, fun _ _ _ _ right => ?_, fun unary => ?_⟩
    · simpa using conjunction right
    · simpa using conjunction (.one unary)

theorem settle_expects (stack : List Frame) (c : Clause) :
    ∃ rest d, settle stack c = ⟨rest, .joiner d⟩ := by
  induction stack generalizing c with
  | nil => exact ⟨[], c, rfl⟩
  | cons frame rest ih =>
    cases frame with
    | negation => exact ih _
    | paren | conjunction _ | disjunction _ => exact ⟨_, c, rfl⟩

/-- A lexeme that leads on to a place that can be completed. -/
theorem viable_of_advance {s s' : ParseState} {ls : List Lexeme} {lexeme : Lexeme}
    (reading : Reading limit s ls) (advance : Advance limit s lexeme s') (lexed : Lexed lexeme)
    (viable : ∀ {ms}, Reading limit s' ms → Viable ms) : Viable ls :=
  (viable (advance.reading lexed reading)).of_append

theorem viable_of_joiner {stack : List Frame} {c : Clause} {ls : List Lexeme}
    (reading : Reading limit ⟨stack, .joiner c⟩ ls) : Viable ls := by
  cases reading with
  | joiner opened _ read => exact opened.completes.unary read

theorem viable_of_separator {stack : List Frame} {key : String} {op : Operator}
    {innermost : List FilterValue} {outer : List (List FilterValue)} {ls : List Lexeme}
    (reading : Reading limit ⟨stack, .separator key op innermost outer⟩ ls) : Viable ls := by
  induction outer generalizing innermost ls with
  | nil =>
    refine viable_of_advance reading .closeBracket (by rintro _ ⟨⟩) fun reading => ?_
    obtain ⟨rest, d, settled⟩ :=
      settle_expects stack ⟨false, .comparison op key (.list innermost.reverse)⟩
    rw [deliver, compared, settled] at reading
    exact viable_of_joiner reading
  | cons items outer ih => exact viable_of_advance reading .closeBracket (by rintro _ ⟨⟩) ih

theorem viable_of_item {stack : List Frame} {key : String} {op : Operator}
    {innermost : List FilterValue} {outer : List (List FilterValue)} {ls : List Lexeme}
    (reading : Reading limit ⟨stack, .item key op innermost outer⟩ ls) : Viable ls :=
  viable_of_advance reading (.item (.text "")) (by rintro _ ⟨⟩) viable_of_separator

theorem viable_of_value {stack : List Frame} {key : String} {op : Operator} {ls : List Lexeme}
    (reading : Reading limit ⟨stack, .value key op⟩ ls) (room : depth stack < limit) :
    Viable ls :=
  viable_of_advance reading (.valueList room) (by rintro _ ⟨⟩) viable_of_item

theorem viable_of_operator {stack : List Frame} {key : String} {ls : List Lexeme}
    (reading : Reading limit ⟨stack, .operator key⟩ ls) (room : depth stack < limit) :
    Viable ls := by
  have lexed : Lexed (.comparison .eq) := by
    rintro _ ⟨⟩
    rfl
  exact viable_of_advance reading (.comparison .eq) lexed fun reading =>
    viable_of_value reading room

/-- What led to a place that is not at the limit is the beginning of a filter. -/
theorem Reading.viable {s : ParseState} {ls : List Lexeme} (reading : Reading limit s ls)
    (room : depth s.stack < limit) : Viable ls := by
  obtain ⟨stack, expects⟩ := s
  cases expects with
  | operand =>
    exact viable_of_advance reading (.key (.word "")) (by rintro _ ⟨⟩) fun reading =>
      viable_of_operator reading room
  | operator key => exact viable_of_operator reading room
  | membership key =>
    have spelled : equalsIgnoringCase "in" "in" = true := by decide
    exact viable_of_advance reading (.notIn spelled) (by rintro _ ⟨⟩) fun reading =>
      viable_of_value reading room
  | value key op => exact viable_of_value reading room
  | item key op innermost outer => exact viable_of_item reading
  | separator key op innermost outer => exact viable_of_separator reading
  | joiner c => exact viable_of_joiner reading

/-! ## Limits -/

theorem Advance.mono {limit' : Nat} (le : limit ≤ limit') {s s' : ParseState} {lexeme : Lexeme}
    (advance : Advance limit s lexeme s') : Advance limit' s lexeme s' := by
  cases advance with
  | negation room => exact .negation (room.trans_le le)
  | paren room => exact .paren (room.trans_le le)
  | valueList room => exact .valueList (room.trans_le le)
  | itemList room => exact .itemList (room.trans_le le)
  | key isKey => exact .key isKey
  | comparison op => exact .comparison op
  | not => exact .not
  | word spelled => exact .word spelled
  | notIn spelled => exact .notIn spelled
  | value single simple => exact .value single simple
  | item simple => exact .item simple
  | comma => exact .comma
  | closeBracket => exact .closeBracket
  | and => exact .and
  | or => exact .or
  | closeParen closes => exact .closeParen closes

theorem Advances.mono {limit' : Nat} (le : limit ≤ limit') {s s' : ParseState} {ls : List Lexeme}
    (advances : Advances limit s ls s') : Advances limit' s ls s' := by
  induction advances with
  | nil => exact .nil
  | cons first _ ih => exact .cons (first.mono le) ih

theorem Advances.exists_of_append {s s'' : ParseState} {ls ms : List Lexeme}
    (advances : Advances limit s (ls ++ ms) s'') :
    ∃ s', Advances limit s ls s' ∧ Advances limit s' ms s'' := by
  induction ls generalizing s with
  | nil => exact ⟨s, .nil, advances⟩
  | cons lexeme ls ih =>
    cases advances with
    | cons first later =>
      obtain ⟨s', before, after⟩ := ih later
      exact ⟨s', .cons first before, after⟩

theorem Reading.depth_le {s : ParseState} {ls : List Lexeme} (reading : Reading limit s ls) :
    depth s.stack ≤ limit := by
  cases reading with
  | operand opened | operator opened _ | membership opened _ | value opened _ | item opened _ _
  | separator opened _ _ _ | joiner opened _ _ => exact Nat.le.intro opened.fits

/-- What transitions read is the beginning of a filter, even at the limit. -/
theorem viable_of_advances {s : ParseState} {ls : List Lexeme} (lexed : ∀ l ∈ ls, Lexed l)
    (advances : Advances limit .start ls s) : Viable ls := by
  have within : Reading limit s ([] ++ ls) := advances.reading lexed (.operand .nil)
  have beyond : Reading (limit + 1) s ([] ++ ls) :=
    (advances.mono (Nat.le_succ limit)).reading lexed (.operand .nil)
  exact beyond.viable (Nat.lt_succ_of_le within.depth_le)

/-- What a deeper limit admits is read, or is too deep. -/
theorem step_of_advance {s s' : ParseState} {t : Token} (advance : Advance limit s t.lexeme s')
    (next : Nat) :
    s.step t next = .ok s' ∨ s.step t next = .error ⟨next, .nestedTooDeeply⟩ := by
  obtain ⟨lexeme, offset⟩ := t
  have read (advance : Advance nestingLimit s lexeme s') :
      s.step ⟨lexeme, offset⟩ next = .ok s' := step_eq_ok_iff.mpr advance
  have opens (stack : List Frame) (frame : Frame) :
      openFrame stack frame next = .ok ⟨frame :: stack, .operand⟩ ∨
        openFrame stack frame next = .error ⟨next, .nestedTooDeeply⟩ := by
    unfold openFrame
    split
    · exact .inr rfl
    · exact .inl rfl
  have opensList (stack : List Frame) (key : String) (op : Operator)
      (lists : List (List FilterValue)) :
      readValue stack key op lists ⟨.openBracket, offset⟩ next = .ok ⟨stack, .item key op [] lists⟩ ∨
        readValue stack key op lists ⟨.openBracket, offset⟩ next =
          .error ⟨next, .nestedTooDeeply⟩ := by
    simp only [readValue]
    split
    · exact .inr rfl
    · exact .inl rfl
  cases advance with
  | negation _ => exact opens ..
  | paren _ => exact opens ..
  | @valueList stack key op _ =>
    simp only [step, bne_self_eq_false, Bool.and_false, Bool.false_eq_true, if_false]
    exact opensList stack key op []
  | @itemList stack key op innermost outer _ =>
    have noEnd : ¬ ((innermost.isEmpty && Lexeme.openBracket == Lexeme.closeBracket) = true) := by
      simp
    simp only [step, if_neg noEnd]
    exact opensList stack key op (innermost :: outer)
  | key isKey => exact .inl (read (.key isKey))
  | comparison op => exact .inl (read (.comparison op))
  | not => exact .inl (read .not)
  | word spelled => exact .inl (read (.word spelled))
  | notIn spelled => exact .inl (read (.notIn spelled))
  | value single simple => exact .inl (read (.value single simple))
  | item simple => exact .inl (read (.item simple))
  | comma => exact .inl (read .comma)
  | closeBracket => exact .inl (read .closeBracket)
  | and => exact .inl (read .and)
  | or => exact .inl (read .or)
  | closeParen closes => exact .inl (read (.closeParen closes))

/-- Transitions of any limit lead where those of the reader do. -/
theorem Advances.eq_of_advances {s s' s'' : ParseState} {ls : List Lexeme}
    (advances : Advances nestingLimit s ls s') (other : Advances limit s ls s'') : s'' = s' := by
  induction advances with
  | nil =>
    cases other
    rfl
  | @cons s _ _ lexeme ls first _ ih =>
    cases other with
    | cons otherFirst otherLater =>
      have stepped : s.step ⟨lexeme, 0⟩ 0 = .ok _ := step_eq_ok_iff.mpr first
      rcases step_of_advance (t := ⟨lexeme, 0⟩) otherFirst 0 with same | deep
      · obtain rfl := Except.ok.inj (stepped.symm.trans same)
        exact ih otherLater
      · rw [stepped] at deep
        contradiction

/-- One more lexeme leaves the beginning of a filter exactly if a transition reads it. -/
theorem viable_append_iff {s : ParseState} {ls : List Lexeme} {lexeme : Lexeme}
    (lexed : ∀ l ∈ ls ++ [lexeme], Lexed l) (advances : Advances nestingLimit .start ls s) :
    Viable (ls ++ [lexeme]) ↔ ∃ limit s', Advance limit s lexeme s' := by
  constructor
  · rintro ⟨rest, room, c, cs, disjunction⟩
    have fits : depth [] + room = room := by simp [depth]
    obtain ⟨stack, d, other, -⟩ := disjunction_advances fits trivial disjunction
    rw [List.append_assoc] at other
    obtain ⟨s', before, after⟩ := other.exists_of_append
    obtain rfl := advances.eq_of_advances before
    cases after with
    | cons first _ => exact ⟨room, _, first⟩
  · rintro ⟨limit, s', advance⟩
    have before := advances.mono (Nat.le_max_right limit nestingLimit)
    exact viable_of_advances lexed
      (before.snoc (advance.mono (Nat.le_max_left limit nestingLimit)))

end

/-! ## Faults -/

/-- A run that fails does so at its end, or at a token. -/
theorem run_eq_error {final : Nat} {s : ParseState} {tokens : List Token} {e : SyntaxError}
    (refused : run final s tokens = .error e) :
    (∃ s', Advances nestingLimit s (tokens.map (·.lexeme)) s' ∧ e.offset = final) ∨
      ∃ before t after s', tokens = before ++ t :: after ∧
        Advances nestingLimit s (before.map (·.lexeme)) s' ∧
        s'.step t (nextOffset final after) = .error e := by
  induction tokens generalizing s with
  | nil =>
    refine .inl ⟨s, .nil, ?_⟩
    rw [run] at refused
    split at refused
    · contradiction
    · rw [← Except.error.inj refused]
  | cons t rest ih =>
    rw [run] at refused
    split at refused
    next s' stepped =>
      have first := step_eq_ok_iff.mp stepped
      rcases ih refused with ⟨last, later, offset⟩ | ⟨before, u, after, last, rfl, later, failed⟩
      · exact .inl ⟨last, .cons first later, offset⟩
      · exact .inr ⟨t :: before, u, after, last, rfl, .cons first later, failed⟩
    next fault stepped =>
      refine .inr ⟨[], t, rest, s, rfl, .nil, ?_⟩
      rw [stepped, Except.error.inj refused]

/-- A value is refused at its token, unless it is nested too deeply. -/
theorem offset_of_readValue {stack : List Frame} {key : String} {op : Operator}
    {lists : List (List FilterValue)} {t : Token} {next : Nat} {e : SyntaxError}
    (refused : readValue stack key op lists t next = .error e)
    (shallow : e.fault ≠ .nestedTooDeeply) : e.offset = t.offset := by
  unfold readValue at refused
  split at refused
  · split at refused
    · cases refused
      exact absurd rfl shallow
    · contradiction
  · split at refused
    · contradiction
    · cases refused
      rfl

/-- Whether a comma or the end of a list has to come. -/
def behindItem (s : ParseState) : Bool :=
  match s.expects with
  | .separator .. => true
  | _ => false

theorem behindItem_iff {s : ParseState} :
    s.behindItem = true ↔ ∃ limit s', Advance limit s .comma s' := by
  constructor
  · intro behind
    obtain ⟨stack, expects⟩ := s
    cases expects with
    | separator key op innermost outer => exact ⟨0, _, .comma⟩
    | _ => contradiction
  · rintro ⟨_, _, advance⟩
    cases advance with
    | comma => rfl
    | key isKey => cases isKey
    | value _ simple => cases simple
    | item simple => cases simple

/-- A fault is at the token that is refused; but behind an item of a list this token has been left
behind, and the fault is at the next. -/
theorem offset_of_step {s : ParseState} {t : Token} {next : Nat} {e : SyntaxError}
    (refused : s.step t next = .error e) (shallow : e.fault ≠ .nestedTooDeeply) :
    e.offset = if s.behindItem then next else t.offset := by
  obtain ⟨stack, expects⟩ := s
  have opened {frame : Frame} (failed : openFrame stack frame next = .error e) : False := by
    unfold openFrame at failed
    split at failed
    · cases failed
      exact shallow rfl
    · contradiction
  cases expects with
  | operand =>
    obtain ⟨lexeme, offset⟩ := t
    cases lexeme with
    | not | openParen => exact (opened refused).elim
    | _ => cases refused <;> rfl
  | operator key | membership key =>
    obtain ⟨lexeme, offset⟩ := t
    cases lexeme with
    | word text =>
      simp only [step] at refused
      split at refused
      · contradiction
      · cases refused
        rfl
    | _ => cases refused <;> rfl
  | value key op | item key op innermost outer =>
    simp only [step] at refused
    split at refused
    · cases refused
      rfl
    · exact offset_of_readValue refused shallow
  | separator key op innermost outer =>
    simp only [step] at refused
    split at refused
    · contradiction
    · contradiction
    · cases refused
      rfl
  | joiner c =>
    obtain ⟨lexeme, offset⟩ := t
    cases lexeme <;> simp only [step, reduceCtorEq] at refused
    all_goals split at refused <;> cases refused <;> rfl

end ParseState

/-- Where the fault stands if tokens are no filter. The first constructor is the rule. -/
inductive Filter.FaultAt (tokens : List Token) (final : Nat) : Nat → Prop
  /-- At the first token after which nothing is a filter. -/
  | token {before after : List Token} {t : Token} (split : tokens = before ++ t :: after)
      (viable : Grammar.Viable (before.map (·.lexeme)))
      (unviable : ¬ Grammar.Viable (before.map (·.lexeme) ++ [t.lexeme]))
      (unlisted : ¬ Grammar.Viable (before.map (·.lexeme) ++ [.comma])) :
    FaultAt tokens final t.offset
  /-- Where this token stands behind an item of a list, so that a comma could stand there: at the
  token after it, or at the end of the text. -/
  | behindItem {before after : List Token} {t : Token} (split : tokens = before ++ t :: after)
      (viable : Grammar.Viable (before.map (·.lexeme)))
      (unviable : ¬ Grammar.Viable (before.map (·.lexeme) ++ [t.lexeme]))
      (listed : Grammar.Viable (before.map (·.lexeme) ++ [.comma])) :
    FaultAt tokens final (ParseState.nextOffset final after)
  /-- At the end of the text, if all tokens together are the beginning of a filter. -/
  | ending (viable : Grammar.Viable (tokens.map (·.lexeme))) : FaultAt tokens final final

open Grammar ParseState in
/-- A text of tokens that is no filter, for another reason than its depth, has its fault at the first
token after which nothing is a filter; but behind an item of a list the fault is one token late. -/
theorem faultAt_of_refused {text : String} {tokens : List Token} {e : SyntaxError}
    (tokenized : Token.ofText text = .ok tokens) (refused : Filter.read text = .error e)
    (shallow : e.fault ≠ .nestedTooDeeply) :
    Filter.FaultAt tokens text.utf8ByteSize e.offset := by
  have lexed := lexed_scan tokenized
  have ran : run text.utf8ByteSize .start tokens = .error e := by
    rw [Filter.read, tokenized] at refused
    exact refused
  rcases run_eq_error ran with ⟨s, advances, offset⟩ | ⟨before, t, after, s, rfl, advances, failed⟩
  · rw [offset]
    exact .ending (viable_of_advances (by simpa using lexed) advances)
  · have lexedBefore : ∀ l ∈ before.map (·.lexeme), Lexed l := by
      simpa using fun u member => lexed u (List.mem_append_left _ member)
    have lexedToken : Lexed t.lexeme := lexed t (by simp)
    have goesOn {lexeme : Lexeme} (lexedNext : Lexed lexeme) :=
      viable_append_iff (List.forall_mem_append.mpr
        ⟨lexedBefore, List.forall_mem_singleton.mpr lexedNext⟩) advances
    have viable := viable_of_advances lexedBefore advances
    have unviable : ¬ Viable (before.map (·.lexeme) ++ [t.lexeme]) := by
      rw [goesOn lexedToken]
      rintro ⟨limit, s', advance⟩
      rcases step_of_advance advance (nextOffset text.utf8ByteSize after) with read | deep
      · rw [failed] at read
        contradiction
      · rw [failed] at deep
        exact shallow (by rw [Except.error.inj deep])
    have comma := @goesOn .comma (by rintro _ ⟨⟩)
    rw [← behindItem_iff] at comma
    rw [offset_of_step failed shallow]
    split
    next behind => exact .behindItem rfl viable unviable (comma.mpr behind)
    next apart => exact .token rfl viable unviable (mt comma.mp apart)

/-- The last token of an open list stands where a comma could, so that the fault is at the end. -/
theorem faultAt_end_of_open_list :
    ∃ tokens, Token.ofText "b == 1 and a in [[1, 'x'] 2" = .ok tokens ∧
      Filter.read "b == 1 and a in [[1, 'x'] 2" = .error ⟨27, .expectedSeparator⟩ ∧
      SyntaxFault.expectedSeparator ≠ .nestedTooDeeply ∧
      Token.mk (.number "2") 26 ∈ tokens ∧ Filter.FaultAt tokens 27 27 := by
  have tokenized : Token.ofText "b == 1 and a in [[1, 'x'] 2" = .ok
      [⟨.word "b", 0⟩, ⟨.comparison .eq, 2⟩, ⟨.number "1", 5⟩, ⟨.and, 7⟩, ⟨.word "a", 11⟩,
        ⟨.word "in", 13⟩, ⟨.openBracket, 16⟩, ⟨.openBracket, 17⟩, ⟨.number "1", 18⟩,
        ⟨.comma, 19⟩, ⟨.quoted "x", 21⟩, ⟨.closeBracket, 24⟩, ⟨.number "2", 26⟩] := by
    cbv
  have refused : Filter.read "b == 1 and a in [[1, 'x'] 2" =
      .error ⟨27, .expectedSeparator⟩ := by
    unfold Filter.read
    rw [tokenized]
    rfl
  have shallow : SyntaxFault.expectedSeparator ≠ .nestedTooDeeply := by simp
  exact ⟨_, tokenized, refused, shallow, by simp, faultAt_of_refused tokenized refused shallow⟩

/-- Faults at the first token after which nothing is a filter, or at the end of the text. -/
def Filter.FaultsAtUnviable (text : String) : Prop :=
  ∀ tokens e, Token.ofText text = .ok tokens → Filter.read text = .error e →
    e.fault ≠ .nestedTooDeeply →
      (∃ before t after, tokens = before ++ t :: after ∧
        Grammar.Viable (before.map (·.lexeme)) ∧
        ¬ Grammar.Viable (before.map (·.lexeme) ++ [t.lexeme]) ∧ e.offset = t.offset) ∨
      Grammar.Viable (tokens.map (·.lexeme)) ∧ e.offset = text.utf8ByteSize

open Grammar ParseState in
/-- The second number is the token after which nothing is a filter; the fault is at the bracket. -/
theorem not_faultsAtUnviable_unseparated : ¬ Filter.FaultsAtUnviable "a in [1 2]" := by
  have tokenized : Token.ofText "a in [1 2]" = .ok
      [⟨.word "a", 0⟩, ⟨.word "in", 2⟩, ⟨.openBracket, 5⟩, ⟨.number "1", 6⟩, ⟨.number "2", 8⟩,
        ⟨.closeBracket, 9⟩] := by
    cbv
  have refused : Filter.read "a in [1 2]" = .error ⟨9, .expectedSeparator⟩ := by
    unfold Filter.read
    rw [tokenized]
    rfl
  have advances : Advances nestingLimit .start
      [.word "a", .word "in", .openBracket, .number "1"]
      ⟨[], .separator "a" .isIn [.int 1] []⟩ :=
    .cons (.key (.word "a")) (.cons (.word rfl) (.cons (.valueList (by decide))
      (.cons (.item (.int rfl)) .nil)))
  have lexed : ∀ l ∈ [Lexeme.word "a", .word "in", .openBracket, .number "1", .number "2"],
      Lexed l := by
    simp [Lexed]
  have unviable : ¬ Viable [.word "a", .word "in", .openBracket, .number "1", .number "2"] := by
    rw [show [Lexeme.word "a", .word "in", .openBracket, .number "1", .number "2"] =
      [Lexeme.word "a", .word "in", .openBracket, .number "1"] ++ [.number "2"] from rfl,
      viable_append_iff lexed advances]
    rintro ⟨_, _, advance⟩
    cases advance
  intro claimed
  rcases claimed _ _ tokenized refused (by simp) with
    ⟨before, t, after, split, viable, -, offset⟩ | ⟨viable, -⟩
  · -- only the last token is at the offset of the fault
    rcases before with _ | ⟨_, _ | ⟨_, _ | ⟨_, _ | ⟨_, _ | ⟨_, _ | ⟨_, before⟩⟩⟩⟩⟩⟩
    case cons.cons.cons.cons.cons.cons => simp at split
    all_goals cases split
    all_goals first | exact unviable viable | contradiction
  · exact unviable (@Viable.of_append _ [.closeBracket] viable)

end VectorStore
