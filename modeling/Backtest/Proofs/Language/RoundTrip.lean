import Backtest.Proofs.Language.ReadTrees

/-!
# Reading what was written

A well-formed tree is read back from its text. The induction is on the tree, and what it carries is a
statement about an expression at its own level with anything behind it that does not go on there; an
expression in front of further operands of its own chain is the second half of it.
-/

namespace Backtest.Language

/-- The tokens of an expression are read back, at its own level or as the first operands of a chain. -/
structure ReadsBack (e : Expr) : Prop where
  alone : ∀ rest, Follows e.level rest → Reads e.level (e.tokens ++ rest) e rest
  chained : ∀ c rest whole after, e.level = .chain c → Follows c.operand rest →
    ReadsMore c e rest whole after → Reads (.chain c) (e.tokens ++ rest) whole after

namespace ReadsBack

variable {e left right : Expr} {rest after : List String}

/-- An expression is read back at every place, in parentheses where it has them. -/
theorem placed (back : ReadsBack e) {place : Level} (follows : Follows place rest) :
    Reads place (placed place e.level e.tokens ++ rest) e rest := by
  unfold Language.placed
  by_cases fits : e.level.rank ≤ place.rank
  · rw [if_pos fits]
    exact (back.alone rest (follows.mono fits)).loosen fits follows
  · rw [if_neg fits]
    have closing : Follows .loosest (")" :: rest) := .closing (by simp) rest
    have own : Follows e.level (")" :: rest) := .closing (by simp) rest
    have inner : Reads .loosest (e.tokens ++ ")" :: rest) e (")" :: rest) :=
      (back.alone _ own).loosen e.level.rank_le_loosest closing
    have atom : Reads .atom ("(" :: (e.tokens ++ ")" :: rest)) e rest := .parentheses inner
    simpa using atom.loosen (Nat.zero_le _) follows

/-- An expression is read back as the first operand of a chain, or as several of them. -/
theorem first (back : ReadsBack e) {c : Chain} {whole : Expr} (follows : Follows c.operand rest)
    (more : ReadsMore c e rest whole after) :
    Reads (.chain c) (Language.placed (.chain c) e.level e.tokens ++ rest) whole after := by
  by_cases own : e.level = .chain c
  · rw [Language.placed, if_pos (Nat.le_of_eq (congrArg Level.rank own))]
    exact back.chained c rest whole after own follows more
  · have same : Language.placed (.chain c) e.level e.tokens =
        Language.placed c.operand e.level e.tokens := by
      have apart : e.level.rank ≠ (Level.chain c).rank := fun h => own (Level.eq_of_rank_eq h)
      have below : c.operand.rank = (Level.chain c).rank - 1 := (Level.chain c).rank_below
      have tighter := c.operand_rank_lt
      have iff : e.level.rank ≤ (Level.chain c).rank ↔ e.level.rank ≤ c.operand.rank := by omega
      simp only [Language.placed, iff]
    rw [same]
    exact (back.placed follows).chain more

/-- A plain literal is read back. -/
theorem literal {value : Value} (h : value.Plain) : ReadsBack (.literal value) where
  chained c rest whole after h := nomatch h
  alone rest _ := by
    cases h with
    | nothing =>
      have reserved : Value.nothing.token ∈ reservedWords := by
        simp [Value.token, Value.repr, reservedWords]
      exact .constant (isWord_of_reserved reserved) rfl
    | bool b =>
      have reserved : (Value.bool b).token ∈ reservedWords := by
        cases b <;> simp [Value.token, Value.repr, reservedWords]
      exact .constant (isWord_of_reserved reserved) (by cases b <;> rfl)
    | int n nonneg =>
      have token : (Value.int n).token = String.ofList (Number.digits n.toInt.natAbs) := by
        simp [Value.token, Value.repr, Number.intText, Int.not_lt.2 nonneg]
      have tokens : (Expr.literal (.int n)).tokens = [String.ofList (Number.digits n.toInt.natAbs)] := by
        rw [Expr.tokens, token]
      rw [tokens]
      exact .int nonneg
    | str s =>
      rw [Expr.tokens]
      exact .str s

/-- An identifier is read back. -/
theorem name {name : String} (h : isIdentifier name) : ReadsBack (.name name) where
  chained c rest whole after h := nomatch h
  alone rest follows := by
    rw [Expr.tokens]
    exact .name h follows

/-- A whole expression needs no parentheses. -/
theorem loosest (back : ReadsBack e) (follows : Follows .loosest rest) :
    Reads .loosest (e.tokens ++ rest) e rest :=
  (back.alone rest (follows.mono e.level.rank_le_loosest)).loosen e.level.rank_le_loosest follows

/-- Items are read back one by one. -/
theorem items {items : List Expr} (back : ∀ e ∈ items, ReadsBack e) {close : Char} {mark : String}
    (closes : Closes close mark) (rest : List String) :
    ReadsItems close (itemTokens items ++ mark :: rest) items rest := by
  have ending : mark ∈ [")", "]", ","] := by cases closes <;> simp
  cases items with
  | nil => exact .nil closes
  | cons e items =>
    rw [itemTokens, List.append_assoc]
    induction items generalizing e with
    | nil => exact .last closes ((back e List.mem_cons_self).loosest (.closing ending rest))
    | cons next items ih =>
      have more := ih next fun e he => back e (List.mem_cons_of_mem _ he)
      rw [moreTokens, List.cons_append, List.append_assoc]
      exact .cons closes ((back e List.mem_cons_self).loosest (.closing (by simp) _)) more

/-- A list is read back if its items are. -/
theorem list {items : List Expr} (back : ∀ e ∈ items, ReadsBack e) : ReadsBack (.list items) where
  chained c rest whole after h := nomatch h
  alone rest _ := by
    rw [Expr.tokens, List.cons_append, List.append_assoc]
    exact .list (ReadsBack.items back .bracket rest)

/-- A call is read back if its arguments are. -/
theorem call {function : String} (h : isIdentifier function) {args : List Expr}
    (back : ∀ e ∈ args, ReadsBack e) : ReadsBack (.call function args) where
  chained c rest whole after h := nomatch h
  alone rest _ := by
    rw [Expr.tokens, List.cons_append, List.cons_append, List.append_assoc]
    exact .call h (ReadsBack.items back .paren rest)

/-- A unary expression is read back if its operand is. -/
theorem unary (op : UnaryOp) (back : ReadsBack e) : ReadsBack (.unary op e) where
  chained c rest whole after h := by cases op <;> contradiction
  alone rest follows := by
    rw [Expr.tokens, List.cons_append]
    cases op with
    | not => exact (back.placed follows).not
    | neg => exact (back.placed follows).neg

/-- An operator of a chain. -/
theorem chain {op : BinaryOp} {c : Chain} (level : op.level = .chain c) (hleft : ReadsBack left)
    (hright : ReadsBack right) : ReadsBack (.binary op left right) := by
  have chained : ∀ rest whole after, Follows c.operand rest →
      ReadsMore c (.binary op left right) rest whole after →
      Reads (.chain c) ((Expr.binary op left right).tokens ++ rest) whole after := by
    intro rest whole after follows more
    rw [Expr.tokens, level, List.append_assoc, List.cons_append]
    have next : Follows c.operand
        (op.symbol :: (Language.placed c.operand right.level right.tokens ++ rest)) :=
      .operator (level ▸ c.operand_rank_lt) _
    exact hleft.first next (.step level (hright.placed follows) more)
  refine ⟨fun rest follows => ?_, fun d rest whole after h => ?_⟩
  · rw [Expr.level, level] at follows ⊢
    exact chained rest _ rest (follows.mono (Nat.le_of_lt c.operand_rank_lt))
      (.stop follows.excludes.1)
  · obtain rfl : c = d := Level.chain.inj (level.symm.trans h)
    exact chained rest whole after

/-- A comparison. -/
theorem comparison {op : BinaryOp} (level : op.level = .comparison) (hleft : ReadsBack left)
    (hright : ReadsBack right) : ReadsBack (.binary op left right) where
  chained c rest whole after h := nomatch level.symm.trans h
  alone rest follows := by
    rw [Expr.tokens, List.append_assoc, List.cons_append]
    rw [Expr.level, level] at follows ⊢
    have next : Follows (.chain .sum) (op.symbol ::
        (Language.placed (.chain .sum) right.level right.tokens ++ rest)) :=
      .operator (by rw [level]; decide) _
    exact .compare level (hleft.placed next) (hright.placed (follows.mono (by decide)))
      follows.excludes.1

/-- A power. Its exponent may be signed, since no operator stands between signs and powers. -/
theorem pow (hleft : ReadsBack left) (hright : ReadsBack right) :
    ReadsBack (.binary (.arithmetic .pow) left right) where
  chained c rest whole after h := nomatch h
  alone rest follows := by
    rw [Expr.tokens, List.append_assoc, List.cons_append]
    have next : Follows .atom (BinaryOp.symbol (.arithmetic .pow) ::
        (Language.placed .sign right.level right.tokens ++ rest)) := .operator (by decide) _
    exact .pow (hleft.placed next) (hright.placed follows.sign)

/-- A binary expression is read back if its operands are. -/
theorem binary (op : BinaryOp) (hleft : ReadsBack left) (hright : ReadsBack right) :
    ReadsBack (.binary op left right) := by
  cases op with
  | arithmetic op =>
    cases op with
    | add => exact .chain rfl hleft hright
    | sub => exact .chain rfl hleft hright
    | mul => exact .chain rfl hleft hright
    | div => exact .chain rfl hleft hright
    | floorDiv => exact .chain rfl hleft hright
    | mod => exact .chain rfl hleft hright
    | pow => exact .pow hleft hright
  | equality op => exact .comparison rfl hleft hright
  | order op => exact .comparison rfl hleft hright
  | logic op => cases op <;> exact .chain rfl hleft hright

/-- Every well-formed expression is read back. -/
theorem of_wellFormed (h : e.WellFormed Value.Plain) : ReadsBack e := by
  induction h with
  | literal h => exact .literal h
  | name h => exact .name h
  | list _ ih => exact .list ih
  | unary op _ ih => exact .unary op ih
  | binary op _ _ hleft hright => exact .binary op hleft hright
  | call h _ ih => exact .call h ih

end ReadsBack

/-- Tokens with one blank between any two are those with a blank before each but the first. -/
theorem toList_intercalate (t : String) (ts : List String) :
    (" ".intercalate (t :: ts)).toList = t.toList ++ spaced ts := by
  induction ts generalizing t with
  | nil =>
    have alone : " ".intercalate [t] = t := rfl
    rw [alone, spaced_nil, List.append_nil]
  | cons next ts ih =>
    have joined : " ".intercalate (t :: next :: ts) = " ".intercalate ((t ++ " " ++ next) :: ts) := rfl
    rw [joined, ih]
    simp

/-- The reader finds the same tokens in a text as with a blank before each. -/
theorem skipBlank_text (e : Expr) : skipBlank e.text.toList = skipBlank (spaced e.tokens) := by
  rw [Expr.text]
  cases e.tokens with
  | nil => rfl
  | cons t ts => rw [toList_intercalate, spaced_cons, skipBlank_space]

/-- A well-formed expression is read from its tokens, whatever blanks stand before them. -/
theorem readExpr_tokens {e : Expr} (h : e.WellFormed Value.Plain) {cs : List Char}
    (same : skipBlank cs = skipBlank (spaced e.tokens)) : readExpr cs = .ok e := by
  have back : Reads .loosest (e.tokens ++ []) e [] := (ReadsBack.of_wellFormed h).loosest .nil
  rw [List.append_nil] at back
  obtain ⟨_, read⟩ := back cs same
  rw [readExpr, read]
  rfl

/-- So is the value of an assignment. -/
theorem readStatement_assign {name : String} {e : Expr} (h : e.WellFormed Value.Plain)
    {cs rest : List Char} (found : assignee? cs = some (name, rest))
    (same : skipBlank rest = skipBlank (spaced e.tokens)) : readStatement cs = .ok (.assign name e) := by
  rw [readStatement, found]
  dsimp only
  rw [readExpr_tokens h same]
  rfl

/-- Every well-formed expression is parsed from its text. -/
theorem parse_text {e : Expr} (h : e.WellFormed Value.Plain) : parse e.text = .ok e := by
  rw [parse, readExpr_tokens h (skipBlank_text e)]
  rfl

/-- Writing and reading. A well-formed tree is what its text is read as, and every text that is read at all
is read as a well-formed tree, which may also hold doubles. -/
theorem parse_inverts_text :
    (∀ e : Expr, e.WellFormed Value.Plain → parse e.text = .ok e) ∧
    ∀ (text : String) (e : Expr), parse text = .ok e →
      e.WellFormed fun value => value.Plain ∨ ∃ x, value = .float x :=
  ⟨fun _ h => parse_text h, fun _ _ h => fromText_of_parse h⟩

/-- The base of a power needs its parentheses, and the exponent none. -/
theorem parse_inverts_text_of_power :
    let sum : Expr := .binary (.arithmetic .add) (.literal (.int 1)) (.name "x")
    let e : Expr := .binary (.arithmetic .pow) sum (.unary .neg (.call "f" [.literal (.str "a")]))
    e.text = "( 1 + x ) ** - f ( \"a\" )" ∧ parse e.text = .ok e ∧
      e.WellFormed fun value => value.Plain ∨ ∃ x, value = .float x := by
  intro sum e
  have plain : e.WellFormed Value.Plain :=
    .binary _ (.binary _ (.literal (.int 1 (by decide))) (.name (by decide)))
      (.unary _ (.call (by decide) fun e he => List.mem_singleton.1 he ▸ .literal (.str "a")))
  have read := parse_inverts_text.1 e plain
  exact ⟨by decide +kernel, read, parse_inverts_text.2 e.text e read⟩

end Backtest.Language
