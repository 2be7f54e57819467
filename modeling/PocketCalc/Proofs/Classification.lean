import PocketCalc.Proofs.AtomicCommit
import PocketCalc.Proofs.ReadBack

/-!
# Two readings of a fragment

A fragment is read twice: for what it holds, to tell what a key does with it, and for its token,
when it is committed. The first reading looks at its characters and at the token in front, the
second one tries it as a number and then as an operator. On numerals and on the symbols of operators
they agree, but for a minus that is a sign: it has no token of its own. On any other fragment they
agree if it can be read as a number, as the words for infinity and for an undefined result can.
-/
namespace PocketCalc

/-- What a fragment holds that becomes the token. -/
def Token.kind : Token → FragmentKind
  | number _ _ => .number
  | operator op => .operator op

theorem Token.kind_ne (t : Token) : t.kind ≠ .empty ∧ t.kind ≠ .sign := by
  cases t <;> simp [kind]

def EndsInNumber (tokens : List Token) : Prop :=
  ∃ front value literal, tokens = front ++ [.number value literal]

theorem getLast?_any_isNumber_iff {tokens : List Token} :
    tokens.getLast?.any Token.isNumber = true ↔ EndsInNumber tokens := by
  constructor
  · intro h
    obtain rfl | ⟨front, t, rfl⟩ := List.eq_nil_or_concat' tokens
    · simp at h
    · cases t with
      | number value literal => exact ⟨front, value, literal, rfl⟩
      | operator op => simp [Token.isNumber] at h
  · rintro ⟨front, value, literal, rfl⟩
    simp [Token.isNumber]

namespace Expression

/-- A fragment that can be typed: a numeral or the symbol of an operator. -/
def IsLegal (fragment : List Char) : Prop :=
  IsLiteral fragment ∨ ∃ c ∈ operatorSymbols, fragment = [c]

/-- A fragment that can be read: anything that is read as a number, or the symbol of an operator. -/
def IsReadable (fragment : List Char) : Prop :=
  (Numeral.read? fragment).isSome ∨ ∃ c ∈ operatorSymbols, fragment = [c]

theorem IsLegal.isReadable {fragment : List Char} (h : IsLegal fragment) : IsReadable fragment :=
  h.imp_left fun hliteral => Option.isSome_iff_exists.2 hliteral.exists_read?

theorem not_isReadable_nil : ¬IsReadable [] := by simp [IsReadable, read?_nil]

/-- What a fragment holds behind some tokens. Whatever is no symbol counts as a number. -/
inductive Classified (tokens : List Token) : List Char → FragmentKind → Prop
  | empty : Classified tokens [] .empty
  | sign : ¬EndsInNumber tokens → Classified tokens ['-'] .sign
  | minus : EndsInNumber tokens → Classified tokens ['-'] (.operator .minus)
  | operator {op : Operator} {c : Char} : op.symbol? = some c → c ≠ '-' →
      Classified tokens [c] (.operator op)
  | number {fragment : List Char} : fragment ≠ [] → (∀ c ∈ operatorSymbols, fragment ≠ [c]) →
      Classified tokens fragment .number

theorem kindOf_minus_of_endsInNumber {tokens : List Token} (h : EndsInNumber tokens) :
    kindOf tokens ['-'] = .operator .minus := if_pos (getLast?_any_isNumber_iff.2 h)

theorem kindOf_minus_of_not_endsInNumber {tokens : List Token} (h : ¬EndsInNumber tokens) :
    kindOf tokens ['-'] = .sign := if_neg fun hlast => h (getLast?_any_isNumber_iff.1 hlast)

/-- Symbols other than minus are operators, whatever stands in front. -/
theorem kindOf_of_ne_minus (tokens : List Token) {op : Operator} {c : Char}
    (h : op.symbol? = some c) (hminus : c ≠ '-') : kindOf tokens [c] = .operator op := by
  simp [kindOf, Operator.ofSymbol?_of_symbol? h, h]

/-- Any other character counts as a number, an alias too. -/
theorem kindOf_of_notMem (tokens : List Token) {c : Char} (h : c ∉ operatorSymbols) :
    kindOf tokens [c] = .number := by
  have hminus : c ≠ '-' := fun hc => h (by simp [hc, operatorSymbols])
  cases hop : Operator.ofSymbol? c with
  | none => simp [kindOf, hop]
  | some op =>
    have hsymbol : op.symbol? ≠ some c := fun hc => h (mem_operatorSymbols hc)
    simp [kindOf, hop, hsymbol]

theorem classified_kindOf (tokens : List Token) (fragment : List Char) :
    Classified tokens fragment (kindOf tokens fragment) := by
  match fragment with
  | [] => exact .empty
  | [c] =>
    by_cases hsymbol : c ∈ operatorSymbols
    · obtain ⟨op, hop⟩ := Operator.exists_symbol?_of_mem hsymbol
      by_cases hminus : c = '-'
      · subst hminus
        by_cases hlast : EndsInNumber tokens
        · rw [kindOf_minus_of_endsInNumber hlast]
          exact .minus hlast
        · rw [kindOf_minus_of_not_endsInNumber hlast]
          exact .sign hlast
      · rw [kindOf_of_ne_minus tokens hop hminus]
        exact .operator hop hminus
    · rw [kindOf_of_notMem tokens hsymbol]
      exact .number (List.cons_ne_nil _ _) fun d hd hsingle =>
        hsymbol ((List.singleton_inj.1 hsingle) ▸ hd)
  | c :: d :: rest =>
    have hkind : kindOf tokens (c :: d :: rest) = .number := by simp [kindOf]
    rw [hkind]
    exact .number (List.cons_ne_nil _ _) fun s _ => by simp

theorem eq_nil_of_kindOf {tokens : List Token} {fragment : List Char}
    (h : kindOf tokens fragment = .empty) : fragment = [] := by
  have hclassified := classified_kindOf tokens fragment
  rw [h] at hclassified
  cases hclassified
  rfl

theorem fragmentKind_ne_empty {e : Expression} (h : IsReadable e.pending) :
    e.fragmentKind ≠ .empty := by
  intro hempty
  have hnil : e.pending = [] := eq_nil_of_kindOf hempty
  exact not_isReadable_nil (hnil ▸ h)

/-- Whether a fragment stands for a token that is what the fragment holds and has its text. -/
def ReadAsKind (tokens : List Token) (fragment : List Char) : Prop :=
  ∃ t : Token, tokenOf fragment = .ok t ∧ t.kind = kindOf tokens fragment ∧ t.text = fragment

/-- The two readings agree on a fragment exactly if it is no sign and can be read at all. A sign is
read as an operator, and an alias as an operator that is written otherwise. -/
theorem readAsKind_iff {tokens : List Token} {fragment : List Char} :
    ReadAsKind tokens fragment ↔ kindOf tokens fragment ≠ .sign ∧ IsReadable fragment := by
  constructor
  · rintro ⟨t, ht, hkind, htext⟩
    refine ⟨hkind ▸ t.kind_ne.2, ?_⟩
    have hreading := reading_tokenOf fragment
    rw [ht] at hreading
    obtain ⟨hfrom⟩ := hreading
    cases hfrom with
    | number hread => exact .inl (Option.isSome_of_eq_some hread)
    | @operator c op hsingle _ _ =>
      -- the operator has the fragment for its text, so the character is its symbol and no alias
      have hlist : op.symbol?.toList = [c] := htext.trans hsingle
      have hsymbol : op.symbol? = some c := by simpa using hlist
      exact .inr ⟨c, mem_operatorSymbols hsymbol, hsingle⟩
  · rintro ⟨hsign, hreadable⟩
    have hclassified := classified_kindOf tokens fragment
    unfold ReadAsKind
    generalize kindOf tokens fragment = kind at hclassified hsign ⊢
    cases hclassified with
    | empty => exact absurd hreadable not_isReadable_nil
    | sign _ => exact absurd rfl hsign
    | minus _ => exact ⟨.operator .minus, tokenOf_of_symbol? rfl, rfl, rfl⟩
    | operator hop _ => exact ⟨_, tokenOf_of_symbol? hop, rfl, Operator.text_of_symbol? hop⟩
    | number _ hsymbol =>
      -- what is no symbol can only be read as a number
      obtain hread | ⟨c, hc, hsingle⟩ := hreadable
      · obtain ⟨value, hvalue⟩ := Option.isSome_iff_exists.1 hread
        exact ⟨.number value fragment, tokenOf_of_read? hvalue, rfl, rfl⟩
      · exact absurd hsingle (hsymbol c hc)

/-- Whether a commit succeeds and adds a token that is what the fragment holds and has its text. -/
def CommitsAsKind (e : Expression) (next : List Char) (replaceLast : Bool) : Prop :=
  ∃ (t : Token) (after : Expression), e.commit next replaceLast = .ok after ∧
    after.tokens = e.keptTokens replaceLast ++ [t] ∧ t.kind = e.fragmentKind ∧ t.text = e.pending

theorem commitsAsKind_iff {e : Expression} {next : List Char} {replaceLast : Bool} :
    e.CommitsAsKind next replaceLast ↔ e.fragmentKind ≠ .sign ∧ IsReadable e.pending := by
  have hread : ReadAsKind e.tokens e.pending ↔ e.fragmentKind ≠ .sign ∧ IsReadable e.pending :=
    readAsKind_iff
  rw [← hread]
  constructor
  · rintro ⟨t, after, hcommit, htokens, hkind, htext⟩
    cases ht : tokenOf e.pending with
    | error error =>
      rw [commit_of_error ht] at hcommit
      cases hcommit
    | ok u =>
      rw [commit_of_token ht] at hcommit
      obtain rfl := Except.ok.inj hcommit
      obtain rfl : u = t := by simpa using htokens
      exact ⟨u, ht, hkind, htext⟩
  · rintro ⟨t, ht, hkind, htext⟩
    exact ⟨t, _, commit_of_token ht next replaceLast, rfl, hkind, htext⟩

/-- What the two readings say of the fragment. A minus is always read as an operator, but counts as
one only behind a number. -/
structure ReadsAlike (e : Expression) : Prop where
  numeral : IsLiteral e.pending → e.fragmentKind = .number ∧
    ∃ value, Numeral.read? e.pending = some value ∧
      tokenOf e.pending = .ok (.number value e.pending)
  symbol : ∀ c ∈ operatorSymbols, c ≠ '-' → e.pending = [c] → ∃ op : Operator,
    op.symbol? = some c ∧ e.fragmentKind = .operator op ∧ tokenOf e.pending = .ok (.operator op)
  minus : e.pending = ['-'] → tokenOf e.pending = .ok (.operator .minus) ∧
    (EndsInNumber e.tokens → e.fragmentKind = .operator .minus) ∧
    (¬EndsInNumber e.tokens → e.fragmentKind = .sign)
  legal : IsLegal e.pending → e.fragmentKind ≠ .empty ∧
    (e.fragmentKind ≠ .sign → ∀ next replaceLast, e.CommitsAsKind next replaceLast)
  readable : ∀ next replaceLast,
    e.CommitsAsKind next replaceLast ↔ e.fragmentKind ≠ .sign ∧ IsReadable e.pending

/-- What a fragment holds and what it is committed as agree on every fragment that can be typed,
behind any tokens. -/
theorem readsAlike (e : Expression) : e.ReadsAlike where
  numeral hliteral := by
    obtain ⟨value, hread⟩ := hliteral.exists_read?
    exact ⟨kindOf_of_isLiteral e.tokens hliteral, value, hread, tokenOf_of_read? hread⟩
  symbol c hc hminus hpending := by
    obtain ⟨op, hop⟩ := Operator.exists_symbol?_of_mem hc
    rw [fragmentKind, hpending]
    exact ⟨op, hop, kindOf_of_ne_minus e.tokens hop hminus, tokenOf_of_symbol? hop⟩
  minus hpending := by
    rw [fragmentKind, hpending]
    exact ⟨tokenOf_of_symbol? rfl, kindOf_minus_of_endsInNumber, kindOf_minus_of_not_endsInNumber⟩
  legal hlegal :=
    ⟨fragmentKind_ne_empty hlegal.isReadable, fun hsign _ _ =>
      commitsAsKind_iff.2 ⟨hsign, hlegal.isReadable⟩⟩
  readable _ _ := commitsAsKind_iff

/-- An alias counts as a number but is read as an operator. -/
example : kindOf [.number 5 ['5']] ['*'] = .number ∧ tokenOf ['*'] = .ok (.operator .times) :=
  ⟨rfl, rfl⟩

end Expression

/-- The fragment of a draft can be read unless there is none. -/
theorem Draft.WellFormed.isReadable {d : Draft} (h : d.WellFormed) (hkind : d.kind ≠ .empty) :
    Expression.IsReadable d.pending := by
  have hshape := h.shape
  generalize d.kind = kind at hshape hkind
  cases hshape with
  | empty _ => exact absurd rfl hkind
  | number _ _ hread => exact .inl (Option.isSome_of_eq_some hread)
  | sign _ hpending => exact .inr ⟨'-', by decide, hpending⟩
  | operator _ hop hpending => exact .inr ⟨_, mem_operatorSymbols hop, hpending⟩

namespace Session

/-- So can the fragment of a session. A result is read back, also where it is shown by a word. -/
theorem Proper.isReadable {s : Session} (h : s.Proper)
    (hkind : s.expression.fragmentKind ≠ .empty) :
    Expression.IsReadable s.expression.pending := by
  obtain ⟨d, hd, rfl⟩ | ⟨x, rfl⟩ := h.cases
  · exact hd.isReadable hkind
  · exact .inl (Option.isSome_of_eq_some (Format.read?_number_eq x))

/-- In every session that a run leads to, the fragment is committed as what it holds, unless it is
empty or a sign. -/
theorem commitsAsKind_run (commands : List Command) (next : List Char) (replaceLast : Bool) :
    (fresh.run commands).expression.CommitsAsKind next replaceLast ↔
      (fresh.run commands).expression.fragmentKind ≠ .empty ∧
        (fresh.run commands).expression.fragmentKind ≠ .sign := by
  rw [Expression.commitsAsKind_iff, and_comm]
  refine and_congr_left fun _ => ⟨Expression.fragmentKind_ne_empty, ?_⟩
  exact (proper_fresh.run commands).isReadable

end Session
end PocketCalc
